/-!
# What steps put out

Tables, the floor and the service are machines: a step takes a state to the next one and puts out
a list of things on the way. Steps are joined one after another, and what an earlier one puts out
comes first.
-/

namespace Showdown

/-- The state after a step, and what the step put out, in order. -/
structure Emission (σ ω : Type) where
  /-- The state after the step. -/
  state : σ
  /-- What was put out. -/
  out : List ω

namespace Emission

variable {α σ ω : Type}

/-- A step that changes nothing and puts nothing out. -/
def quiet (s : σ) : Emission σ ω := ⟨s, []⟩

/-- One step and then another. -/
def andThen (r : Emission σ ω) (f : σ → Emission σ ω) : Emission σ ω :=
  let next := f r.state
  ⟨next.state, r.out ++ next.out⟩

/-- A step for each item of a list, one after another. -/
def forEach (f : α → σ → Emission σ ω) : List α → σ → Emission σ ω
  | [], s => quiet s
  | a :: as, s => (f a s).andThen (forEach f as)

/-- Puts out something before a step. -/
def after (out : List ω) (r : Emission σ ω) : Emission σ ω :=
  ⟨r.state, out ++ r.out⟩

@[simp] theorem state_quiet (s : σ) : (quiet s : Emission σ ω).state = s := rfl

@[simp] theorem out_quiet (s : σ) : (quiet s : Emission σ ω).out = [] := rfl

@[simp] theorem state_andThen (r : Emission σ ω) (f : σ → Emission σ ω) :
    (r.andThen f).state = (f r.state).state := rfl

@[simp] theorem out_andThen (r : Emission σ ω) (f : σ → Emission σ ω) :
    (r.andThen f).out = r.out ++ (f r.state).out := rfl

theorem andThen_quiet (r : Emission σ ω) : r.andThen quiet = r := by
  simp only [andThen, out_quiet, List.append_nil, state_quiet]

theorem andThen_assoc (r : Emission σ ω) (f g : σ → Emission σ ω) :
    (r.andThen f).andThen g = r.andThen fun s => (f s).andThen g := by
  simp only [andThen, List.append_assoc]

@[simp] theorem forEach_nil (f : α → σ → Emission σ ω) (s : σ) : forEach f [] s = quiet s := rfl

@[simp] theorem forEach_cons (f : α → σ → Emission σ ω) (a : α) (as : List α) (s : σ) :
    forEach f (a :: as) s = (f a s).andThen (forEach f as) := rfl

@[simp] theorem state_after (out : List ω) (r : Emission σ ω) :
    (r.after out).state = r.state := rfl

@[simp] theorem out_after (out : List ω) (r : Emission σ ω) :
    (r.after out).out = out ++ r.out := rfl

theorem forEach_append (f : α → σ → Emission σ ω) (as bs : List α) (s : σ) :
    forEach f (as ++ bs) s = (forEach f as s).andThen (forEach f bs) := by
  induction as generalizing s with
  | nil => rfl
  | cons a as ih => simp only [List.cons_append, forEach_cons, andThen, ih, List.append_assoc]

/-- What each step keeps of the state and of all that was put out so far, any number of steps
keep. -/
theorem forEach_keeps {P : σ → List ω → Prop} {f : α → σ → Emission σ ω}
    (step : ∀ a s out, P s out → P (f a s).state (out ++ (f a s).out)) (as : List α) :
    ∀ s out, P s out → P (forEach f as s).state (out ++ (forEach f as s).out) := by
  induction as with
  | nil => intro s out h; simpa using h
  | cons a as ih =>
    intro s out h
    simpa using ih (f a s).state (out ++ (f a s).out) (step a s out h)

/-- What is so before anything was put out, and is kept by each step, is so after any number of
steps. -/
theorem forEach_establishes {P : σ → List ω → Prop} {f : α → σ → Emission σ ω} {s : σ}
    (start : P s []) (step : ∀ a s out, P s out → P (f a s).state (out ++ (f a s).out))
    (as : List α) : P (forEach f as s).state (forEach f as s).out := by
  simpa using forEach_keeps step as s [] start

/-- If the step for an item brings something about for this item, and no other step undoes it, then
it is so for all items in the end. -/
theorem forEach_achieves {P : α → σ → Prop} {f : α → σ → Emission σ ω}
    (achieves : ∀ a s, P a (f a s).state) (keeps : ∀ a b s, P b s → P b (f a s).state)
    {as : List α} {b : α} {s : σ} (h : b ∈ as ∨ P b s) : P b (forEach f as s).state := by
  induction as generalizing s with
  | nil => simpa using h
  | cons a as ih =>
    refine ih ?_
    rcases h with hb | hb
    · rcases List.mem_cons.mp hb with rfl | hb
      · exact .inr (achieves b s)
      · exact .inl hb
    · exact .inr (keeps a b s hb)

end Emission

end Showdown
