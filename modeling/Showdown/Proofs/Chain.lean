import Showdown.Emission
import Mathlib.Tactic.Basic

/-!
# Chains of steps

A request or a message may take many small steps. `Chain S` holds of a state and an emission if the
emission is that of finitely many steps of the kind `S`, one after another from that state. Chains
are joined as emissions are, and what each step keeps of the state and of all that was put out so
far, a chain keeps (`Chain.keeps`).
-/

namespace Showdown

variable {α σ ω : Type} {S : σ → Emission σ ω → Prop}

/-- Finitely many steps, one after another. -/
inductive Chain (S : σ → Emission σ ω → Prop) : σ → Emission σ ω → Prop where
  /-- No step at all. -/
  | refl (s : σ) : Chain S s (.quiet s)
  /-- One step, and then others. -/
  | head {s s' : σ} {e : Emission σ ω} {out : List ω} :
    S s e → Chain S e.state ⟨s', out⟩ → Chain S s ⟨s', e.out ++ out⟩

namespace Chain

theorem single {s : σ} {e : Emission σ ω} (h : S s e) : Chain S s e := by
  simpa [Emission.quiet] using Chain.head h (.refl e.state)

theorem andThen {s : σ} {e : Emission σ ω} {f : σ → Emission σ ω} (c : Chain S s e)
    (d : Chain S e.state (f e.state)) : Chain S s (e.andThen f) := by
  simp only [Emission.andThen]
  induction c with
  | refl s => simpa using d
  | head h _ ih => simpa [List.append_assoc] using Chain.head h (ih d)

theorem after {s : σ} {e : Emission σ ω} {out : List ω} (h : S s ⟨s, out⟩) (c : Chain S s e) :
    Chain S s (e.after out) :=
  .head h c

/-- What each step keeps of the state, a chain keeps. -/
theorem preserves {P : σ → Prop} (step : ∀ {s : σ} {e : Emission σ ω}, S s e → P s → P e.state)
    {s : σ} {e : Emission σ ω} (c : Chain S s e) : P s → P e.state := by
  induction c with
  | refl s => exact id
  | head h _ ih => exact fun p => ih (step h p)

theorem forEach_of {P : σ → Prop} (step : ∀ {s : σ} {e : Emission σ ω}, S s e → P s → P e.state)
    {f : α → σ → Emission σ ω} (h : ∀ a s, P s → Chain S s (f a s)) (as : List α) :
    ∀ s, P s → Chain S s (Emission.forEach f as s) := by
  induction as with
  | nil => exact fun s _ => .refl s
  | cons a as ih => exact fun s p => (h a s p).andThen (ih _ (preserves (P := P) step (h a s p) p))

theorem forEach {f : α → σ → Emission σ ω} (h : ∀ a s, Chain S s (f a s)) (as : List α) (s : σ) :
    Chain S s (Emission.forEach f as s) :=
  forEach_of (P := fun _ => True) (fun _ _ => trivial) (fun a s _ => h a s) as s trivial

/-- **What each step keeps of the state and of all that was put out so far, a chain keeps.** -/
theorem keeps {P : σ → List ω → Prop}
    (step : ∀ {s : σ} {e : Emission σ ω} {out : List ω}, S s e → P s out → P e.state (out ++ e.out))
    {s : σ} {e : Emission σ ω} (c : Chain S s e) :
    ∀ {out : List ω}, P s out → P e.state (out ++ e.out) := by
  induction c with
  | refl s => intro out h; simpa using h
  | head h _ ih =>
    intro out p
    have := ih (step h p)
    rwa [List.append_assoc] at this

theorem ensures {P : σ → List ω → Prop}
    (step : ∀ {s : σ} {e : Emission σ ω} {out : List ω}, S s e → P s out → P e.state (out ++ e.out))
    {s : σ} {e : Emission σ ω} (c : Chain S s e) (h : P s []) : P e.state e.out :=
  keeps step c h

end Chain

end Showdown
