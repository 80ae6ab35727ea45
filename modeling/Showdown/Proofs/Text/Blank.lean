import Showdown.Text.Blank
import Mathlib.Data.List.DropRight

/-!
# Trimming and splitting

Trimming takes the blanks off the two ends of a text and leaves all else, blanks in between
included: what is left is the only part of the text that neither begins nor ends with a blank and
has nothing but blanks around it (`trim_eq_iff`). Splitting drops the blanks everywhere, so it does
not matter how many of them stand between two words, as long as there is one (`words_append`).
-/

namespace Showdown.Text

variable {s s' core gap : List Char}

/-- Nothing but blanks. -/
def AllBlank (s : List Char) : Prop :=
  ∀ c ∈ s, isBlank c = true

instance : DecidablePred AllBlank :=
  fun s => List.decidableBAll (fun c => isBlank c = true) s

/-- No blank stands at either end. -/
structure Bare (s : List Char) : Prop where
  /-- The first character is no blank. -/
  first : ∀ c ∈ s.head?, isBlank c = false
  /-- The last character is no blank. -/
  last : ∀ c ∈ s.getLast?, isBlank c = false

theorem AllBlank.reverse (blank : AllBlank s) : AllBlank s.reverse :=
  fun c mem => blank c (List.mem_reverse.mp mem)

/-! ### Trimming -/

theorem trimStart_eq_self_of_begins {part : List Char} (h : part <+: trimStart s) :
    trimStart part = part := by
  refine List.dropWhile_eq_self_iff.mpr fun pos => ?_
  rw [h.getElem pos]
  exact List.dropWhile_get_zero_not isBlank s (pos.trans_le h.length_le)

/-- Trimming twice is trimming once. -/
theorem trim_trim (s : List Char) : trim (trim s) = trim s := by
  have start : trimStart (trim s) = trim s :=
    trimStart_eq_self_of_begins (List.rdropWhile_prefix isBlank (trimStart s))
  calc trim (trim s) = trimEnd (trim s) := congrArg trimEnd start
    _ = trim s := List.rdropWhile_idempotent isBlank (trimStart s)

theorem trimStart_eq_self_iff : trimStart s = s ↔ ∀ c ∈ s.head?, isBlank c = false := by
  rw [trimStart, List.dropWhile_eq_self_iff]
  cases s <;> simp

theorem trimEnd_eq_self_iff : trimEnd s = s ↔ ∀ c ∈ s.getLast?, isBlank c = false := by
  rw [trimEnd, List.reverse_eq_iff, List.getLast?_eq_head?_reverse]
  exact trimStart_eq_self_iff

/-- What is left by trimming is bare. -/
theorem bare_trim (s : List Char) : Bare (trim s) where
  first := trimStart_eq_self_iff.mp
    (trimStart_eq_self_of_begins (List.rdropWhile_prefix isBlank (trimStart s)))
  last := trimEnd_eq_self_iff.mp (List.rdropWhile_idempotent isBlank (trimStart s))

/-- What is taken off by trimming is blank. -/
theorem exists_eq_append_trim (s : List Char) :
    ∃ before after, AllBlank before ∧ AllBlank after ∧ s = before ++ trim s ++ after := by
  refine ⟨s.takeWhile isBlank, (trimStart s).rtakeWhile isBlank,
    fun _ => List.mem_takeWhile_imp, fun _ => List.mem_rtakeWhile_imp, ?_⟩
  have back : trim s ++ (trimStart s).rtakeWhile isBlank = trimStart s :=
    List.rdropWhile_append_rtakeWhile
  rw [List.append_assoc, back]
  exact List.takeWhile_append_dropWhile.symm

/-- A bare text with blanks around it is trimmed to itself. -/
theorem trim_append {before after : List Char} (front : AllBlank before) (back : AllBlank after)
    (bare : Bare core) : trim (before ++ core ++ after) = core := by
  have start : trimStart (before ++ core ++ after) = trimStart (core ++ after) := by
    rw [List.append_assoc]
    exact List.dropWhile_append_of_pos front
  have inner : trimEnd (core ++ after) = core := by
    rw [trimEnd, List.reverse_append, List.dropWhile_append_of_pos back.reverse]
    exact trimEnd_eq_self_iff.mpr bare.last
  cases core with
  | nil =>
    have empty : trimStart after = [] := List.dropWhile_eq_nil_iff.mpr back
    rw [trim, start, List.nil_append, empty]
    rfl
  | cons c rest =>
    have kept : trimStart (c :: rest ++ after) = c :: rest ++ after :=
      trimStart_eq_self_iff.mpr bare.first
    rw [trim, start, kept, inner]

/-- **Trimming leaves the part of a text that is bare and has nothing but blanks around it.** -/
theorem trim_eq_iff : trim s = core ↔
    Bare core ∧ ∃ before after, AllBlank before ∧ AllBlank after ∧ s = before ++ core ++ after := by
  constructor
  · rintro rfl
    exact ⟨bare_trim s, exists_eq_append_trim s⟩
  · rintro ⟨bare, before, after, front, back, rfl⟩
    exact trim_append front back bare

/-! ### Splitting -/

theorem words_append_cons {c : Char} (blank : isBlank c = true) :
    words (s ++ c :: s') = words s ++ words s' := by
  rw [words, List.splitOnP_append_cons s s' blank, List.filter_append]
  rfl

theorem words_append_of_allBlank (blank : AllBlank gap) : words (gap ++ s) = words s := by
  induction gap with
  | nil => rfl
  | cons c gap ih =>
    obtain ⟨first, rest⟩ := List.forall_mem_cons.mp blank
    exact (words_append_cons (s := []) first).trans (ih rest)

/-- Blanks between two texts keep their words apart. -/
theorem words_append (blank : AllBlank gap) (some : gap ≠ []) :
    words (s ++ gap ++ s') = words s ++ words s' := by
  cases gap with
  | nil => exact absurd rfl some
  | cons c gap =>
    obtain ⟨first, rest⟩ := List.forall_mem_cons.mp blank
    rw [List.append_assoc, List.cons_append, words_append_cons first, words_append_of_allBlank rest]

theorem tokens_of_allBlank {gap : String} (blank : AllBlank gap.toList) : tokens gap = [] := by
  have none : words (gap.toList ++ []) = [] := words_append_of_allBlank blank
  rw [tokens, ← List.append_nil gap.toList, none]
  rfl

theorem tokens_append {s s' gap : String} (blank : AllBlank gap.toList) (some : gap ≠ "") :
    tokens (s ++ gap ++ s') = tokens s ++ tokens s' := by
  have apart : gap.toList ≠ [] := by simpa using some
  rw [tokens, String.toList_append, String.toList_append, words_append blank apart, List.map_append]
  rfl

/-- A text is trimmed to nothing if it is blank. -/
theorem trimmed_eq_empty_iff {s : String} : trimmed s = "" ↔ AllBlank s.toList := by
  have empty : trimmed s = "" ↔ trim s.toList = [] := by
    rw [trimmed, ← String.toList_inj]
    simp
  rw [empty, trim_eq_iff]
  constructor
  · rintro ⟨-, before, after, front, back, eq⟩
    rw [eq, List.append_nil]
    exact fun c mem => (List.mem_append.mp mem).elim (front c) (back c)
  · intro blank
    exact ⟨⟨nofun, nofun⟩, s.toList, [], blank, nofun, by simp⟩

end Showdown.Text
