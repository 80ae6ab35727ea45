import Showdown.CivilTime

/-!
# Instants

Feeds stamp what they deliver with an instant. An instant is what a clock in universal time shows
at that moment, so its fields always name a date and a time.
-/

namespace Showdown

/-- An instant in universal time. -/
structure UtcTime where
  /-- The date and the time in universal time. -/
  civil : CivilTime
  /-- They are a date and a time of the calendar. -/
  isValid : civil.isValid = true
  deriving DecidableEq

namespace UtcTime

/-- The instant of a date and a time in universal time, if they are ones. -/
def ofCivil? (t : CivilTime) : Option UtcTime :=
  if h : t.isValid then some ⟨t, h⟩ else none

/-- The instant at which a clock that runs `offset` minutes ahead of universal time shows `t`. -/
def ofLocal? (t : CivilTime) (offset : Int) : Option UtcTime :=
  if t.isValid then ofCivil? (t.toUniversal offset) else none

/-- The start of 1970. -/
def epoch : UtcTime := ⟨⟨1970, 1, 1, 0, 0, 0, 0⟩, by decide⟩

end UtcTime

end Showdown
