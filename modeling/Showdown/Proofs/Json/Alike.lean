import Showdown.Json
import Mathlib.Data.List.Basic
import Mathlib.Logic.Relation

/-!
# Values that a reader cannot tell apart

A reader of records asks for members by name. So it does not matter to it in which order the members
of an object stand, or what stands in members that it does not ask for. What it asks for is its
shape: which members of a record, and what it asks of the values of these (`Shape`). Two values are
alike to the readers of a shape if one comes from the other by steps, each of which puts the members
of one object in another order or gives one record a member that is not asked for (`Step`, `Alike`).

Each way of putting readers together keeps what one step keeps (`Respects`), and a reader that
respects each step reads the same from values that are alike (`Respects.alike`). A record is read
from its members, and for these it is enough that they are found the same or changed by a step
(`Members.Near`, `members?_bind`, `tagged?_bind`).

Two kinds of values are read although they are never written. An object that stands for a name has
this name as its only member, so nothing can be added to it. Of an array of the values of a record,
which has no members, only the objects in it can be put in another order.
-/

namespace Showdown.Json

/-- What a reader asks of a value. -/
inductive Shape where
  /-- Nothing about members. -/
  | plain
  /-- Some members, each of which has a shape. -/
  | record (members : List (String × Shape))
  /-- The items of a list, all of one shape. -/
  | list (item : Shape)

/-- The members of one object, which may stand anywhere in the value, are put in another order. -/
inductive Swap : Json → Json → Prop where
  /-- The object is the value itself. Its names are different, as in any object that was read. -/
  | here {ms ms' : Members} : (ms.map Prod.fst).Nodup → ms.Perm ms' → Swap (object ms) (object ms')
  /-- The object stands in a member. -/
  | member {before after : Members} {name : String} {j j' : Json} : Swap j j' →
    Swap (object (before ++ (name, j) :: after)) (object (before ++ (name, j') :: after))
  /-- The object stands in an item of a list. -/
  | item {before after : List Json} {j j' : Json} : Swap j j' →
    Swap (array (before ++ j :: after)) (array (before ++ j' :: after))

/-- One change that a reader of a shape does not notice. -/
inductive Step : Shape → Json → Json → Prop where
  /-- The members of one object are put in another order. -/
  | swap {s : Shape} {j j' : Json} : Swap j j' → Step s j j'
  /-- A record gets a member that is not asked for. -/
  | add {members : List (String × Shape)} {ms : Members} {name : String} {j : Json} :
    name ∉ members.map Prod.fst → Step (.record members) (object ms) (object (ms ++ [(name, j)]))
  /-- A member of a record changes as its shape allows, and in any way if it is not asked for. -/
  | member {members : List (String × Shape)} {before after : Members} {name : String}
      {j j' : Json} : (∀ m ∈ members, m.1 = name → Step m.2 j j') →
    Step (.record members) (object (before ++ (name, j) :: after))
      (object (before ++ (name, j') :: after))
  /-- An item of a list changes as its shape allows. -/
  | item {s : Shape} {before after : List Json} {j j' : Json} : Step s j j' →
    Step (.list s) (array (before ++ j :: after)) (array (before ++ j' :: after))

/-- Values that the readers of a shape cannot tell apart. -/
def Alike (s : Shape) : Json → Json → Prop :=
  Relation.ReflTransGen (Step s)

/-- A reader does not notice a change that its shape allows. -/
def Respects {α : Type} (read : Json → Option α) (s : Shape) : Prop :=
  ∀ ⦃j j'⦄, Step s j j' → read j' = read j

/-- **A reader that respects a shape reads the same from values that are alike.** -/
theorem Respects.alike {α : Type} {read : Json → Option α} {s : Shape} (r : Respects read s)
    {j j' : Json} (h : Alike s j j') : read j' = read j := by
  induction h with
  | refl => rfl
  | tail _ step ih => exact (r step).trans ih

/-- A record may get any members that are not asked for. -/
theorem Alike.append {members : List (String × Shape)} (ms : Members) {extra : Members}
    (unused : ∀ m ∈ extra, m.1 ∉ members.map Prod.fst) :
    Alike (.record members) (object ms) (object (ms ++ extra)) := by
  induction extra generalizing ms with
  | nil =>
    rw [List.append_nil]
    exact .refl
  | cons m extra ih =>
    have rest := ih (ms ++ [m]) fun m' hm => unused m' (List.mem_cons_of_mem m hm)
    rw [List.append_assoc] at rest
    exact .head (.add (unused m List.mem_cons_self)) rest

/-- The members of a record may be put in any order together with others that are not asked for. -/
theorem Alike.of_perm {members : List (String × Shape)} {ms ms' : Members} (extra : Members)
    (unused : ∀ m ∈ extra, m.1 ∉ members.map Prod.fst) (nodup : (ms'.map Prod.fst).Nodup)
    (perm : (ms ++ extra).Perm ms') : Alike (.record members) (object ms) (object ms') := by
  have nodup_added := ((perm.map Prod.fst).nodup_iff).mpr nodup
  exact (Alike.append ms unused).tail (.swap (.here nodup_added perm))

/-- A reader takes back what a writer writes of proper values, and reads the same from values that
are alike. -/
structure Faithful {α : Type} (write : α → Json) (read : Json → Option α) (s : Shape)
    (proper : α → Prop) : Prop where
  /-- What is written is read back. -/
  read_write : ∀ a, proper a → read (write a) = some a
  /-- Whatever is read, from values that are alike the same is read. -/
  read_alike : ∀ j j', Alike s j j' → read j' = read j

/-! ### What a step is about -/

/-- A step leads from an object to an object or from a list to a list. -/
theorem Step.kinds {s : Shape} {j j' : Json} (h : Step s j j') :
    (∃ ms ms', j = object ms ∧ j' = object ms') ∨ ∃ xs xs', j = array xs ∧ j' = array xs' := by
  cases h with
  | swap h =>
    cases h with
    | here | member => exact .inl ⟨_, _, rfl, rfl⟩
    | item => exact .inr ⟨_, _, rfl, rfl⟩
  | add | member => exact .inl ⟨_, _, rfl, rfl⟩
  | item => exact .inr ⟨_, _, rfl, rfl⟩

/-- Who asks for less notices less. -/
theorem Step.mono {fewer more : List (String × Shape)} (sub : fewer ⊆ more) {j j' : Json}
    (h : Step (.record more) j j') : Step (.record fewer) j j' := by
  cases h with
  | swap h => exact .swap h
  | add unused =>
    refine .add fun used => unused ?_
    obtain ⟨m, hm, eq⟩ := List.mem_map.mp used
    exact List.mem_map.mpr ⟨m, sub hm, eq⟩
  | member inside => exact .member fun m hm => inside m (sub hm)

/-! ### Leaves, lists and absent values -/

section Readers

variable {α : Type} {read : Json → Option α} {s : Shape}

/-- What is read neither from objects nor from lists does not depend on them. -/
theorem respects_of_leaf (objects : ∀ ms, read (object ms) = none)
    (arrays : ∀ xs, read (array xs) = none) : Respects read s := by
  intro j j' step
  obtain ⟨ms, ms', rfl, rfl⟩ | ⟨xs, xs', rfl, rfl⟩ := step.kinds
  · rw [objects, objects]
  · rw [arrays, arrays]

theorem Respects.nullable (r : Respects read s) : Respects (nullable? read) s := by
  intro j j' step
  have same := r step
  obtain ⟨ms, ms', rfl, rfl⟩ | ⟨xs, xs', rfl, rfl⟩ := step.kinds
  · exact congrArg (Option.map some) same
  · exact congrArg (Option.map some) same

theorem Respects.list (r : Respects read s) : Respects (list? read) (.list s) := by
  have items {before after : List Json} {j j' : Json} (same : read j' = read j) :
      list? read (array (before ++ j' :: after)) = list? read (array (before ++ j :: after)) := by
    simp only [list?, List.mapM_append, List.mapM_cons, same]
  intro j j' step
  cases step with
  | swap h =>
    cases h with
    | here | member => rfl
    | item h => exact items (r (.swap h))
  | item h => exact items (r h)

end Readers

/-! ### Choices without content -/

section Choices

variable {j j' : Json} {m : Strictness}

theorem Swap.symm (h : Swap j j') : Swap j' j := by
  induction h with
  | here nodup perm => exact .here (((perm.map Prod.fst).nodup_iff).mp nodup) perm.symm
  | member _ ih => exact .member ih
  | item _ ih => exact .item ih

theorem Swap.eq_of_object_nil (h : Swap (object []) j') : j' = object [] := by
  generalize e : object [] = j at h
  cases h with
  | here _ perm =>
    cases e
    rw [perm.nil_eq]
  | member => simp at e
  | item => cases e

/-- In an object of one member only the value of this member can change. -/
theorem Swap.exists_of_object_singleton {name : String} (h : Swap (object [(name, j)]) j') :
    j' = object [(name, j)] ∨ ∃ k, Swap j k ∧ j' = object [(name, k)] := by
  generalize e : object [(name, j)] = o at h
  cases h with
  | here _ perm =>
    cases e
    exact .inl (congrArg object (List.singleton_perm.mp perm).symm)
  | member inside =>
    obtain ⟨rfl, same⟩ | ⟨_, absurd⟩ := List.append_eq_singleton_iff.mp (object.inj e).symm
    · cases same
      exact .inr ⟨_, inside, rfl⟩
    · cases absurd
  | item => cases e

theorem name?_eq_some_iff {s : String} : name? m j = some s ↔
    j = string s ∨ j = object [(s, null)] ∨ m = .lenient ∧ j = object [(s, object [])] := by
  constructor
  · intro named
    unfold name? at named
    split at named <;> cases named
    · exact .inl rfl
    · exact .inr (.inl rfl)
    · exact .inr (.inr ⟨rfl, rfl⟩)
  · rintro (rfl | rfl | ⟨rfl, rfl⟩)
    · cases m <;> rfl
    · cases m <;> rfl
    · rfl

theorem name?_of_swap {s : String} (h : Swap j j') (named : name? m j = some s) :
    name? m j' = some s := by
  obtain rfl | rfl | ⟨rfl, rfl⟩ := name?_eq_some_iff.mp named
  · cases h
  · obtain rfl | ⟨_, inside, -⟩ := h.exists_of_object_singleton
    · exact named
    · cases inside
  · obtain rfl | ⟨_, inside, rfl⟩ := h.exists_of_object_singleton
    · exact named
    · rw [inside.eq_of_object_nil]
      rfl

/-- A name is read the same from an object in another order, since an object that stands for a name
has only one member. -/
theorem respects_name (m : Strictness) : Respects (name? m) .plain := by
  intro j j' step
  cases step with
  | swap h => exact Option.ext fun s => ⟨name?_of_swap h.symm, name?_of_swap h⟩

theorem respects_named {α : Type} (m : Strictness) (all : List α) (name : α → String) :
    Respects (named? m all name) .plain := by
  intro j j' step
  unfold named?
  rw [respects_name m step]

end Choices

/-! ### Records -/

section Records

variable {α β : Type} {members : List (String × Shape)} {ms ms' : Members} {name : String}
  {s : Shape} {read : Json → Option α} {j j' : Json}

@[simp] theorem Members.get?_cons (m : String × Json) (ms : Members) (n : String) :
    Members.get? (m :: ms) n = if m.1 = n then some m.2 else ms.get? n := by
  rw [Members.get?, List.find?_cons]
  by_cases h : m.1 = n
  · simp [h]
  · simp [h, beq_false_of_ne h, Members.get?]

theorem Members.get?_append (ms ms' : Members) (n : String) :
    (ms ++ ms').get? n = (ms.get? n).or (ms'.get? n) := by
  rw [Members.get?, List.find?_append, Option.map_or]
  rfl

/-- Members that a reader of a record finds the same, or changed as the shape allows. -/
def Members.Near (members : List (String × Shape)) (ms ms' : Members) : Prop :=
  ∀ f ∈ members, ms'.get? f.1 = ms.get? f.1 ∨
    ∃ j j', ms.get? f.1 = some j ∧ ms'.get? f.1 = some j' ∧ Step f.2 j j'

/-- Members are near if one of them has changed as the shape allows. -/
theorem Members.near_of_member {before after : Members}
    (inside : ∀ f ∈ members, f.1 = name → Step f.2 j j') :
    Near members (before ++ (name, j) :: after) (before ++ (name, j') :: after) := by
  intro f hf
  simp only [get?_append, get?_cons]
  cases before.get? f.1 with
  | some => exact .inl rfl
  | none =>
    by_cases same : name = f.1
    · exact .inr ⟨j, j', by simp [same], by simp [same], inside f hf same.symm⟩
    · simp [same]

/-- In which order the members stand does not matter. -/
theorem Members.get?_of_perm (perm : ms.Perm ms') (nodup : (ms.map Prod.fst).Nodup) (n : String) :
    ms'.get? n = ms.get? n := by
  induction perm with
  | nil => rfl
  | cons m _ ih => rw [get?_cons, get?_cons, ih (List.nodup_cons.mp nodup).2]
  | swap m m' ms =>
    have different : m'.1 ≠ m.1 := by
      rintro same
      simp [same] at nodup
    simp only [get?_cons]
    split_ifs with h h'
    · exact absurd (h'.trans h.symm) different
    all_goals rfl
  | trans perm _ ih ih' =>
    rw [ih' (((perm.map Prod.fst).nodup_iff).mp nodup), ih nodup]

theorem Members.near_of_step (h : Step (.record members) (object ms) (object ms')) :
    Near members ms ms' := by
  cases h with
  | swap h =>
    cases h with
    | here nodup perm => exact fun f _ => .inl (get?_of_perm perm nodup f.1)
    | member inside => exact near_of_member fun _ _ _ => .swap inside
  | @add _ _ name _ unused =>
    intro f hf
    have other : name ≠ f.1 := by
      rintro rfl
      exact unused (List.mem_map_of_mem hf)
    left
    rw [get?_append, get?_cons, if_neg other]
    exact Option.or_none
  | member inside => exact near_of_member inside

/-! What is asked for is read the same from members that are near. -/

theorem Members.Near.required? (near : Near members ms ms') (r : Respects read s)
    (hf : (name, s) ∈ members) : ms'.required? name read = ms.required? name read := by
  unfold Members.required?
  obtain same | ⟨j, j', eq, eq', step⟩ := near _ hf
  · rw [same]
  · rw [eq, eq']
    exact r step

theorem Members.Near.optional? (near : Near members ms ms') (r : Respects read s)
    (hf : (name, s) ∈ members) : ms'.optional? name read = ms.optional? name read := by
  unfold Members.optional?
  obtain same | ⟨j, j', eq, eq', step⟩ := near _ hf
  · rw [same]
  · rw [eq, eq']
    exact r.nullable step

theorem Members.Near.defaulted? (near : Near members ms ms') (r : Respects read s)
    (hf : (name, s) ∈ members) (absent : α) :
    ms'.defaulted? name absent read = ms.defaulted? name absent read := by
  unfold Members.defaulted?
  obtain same | ⟨j, j', eq, eq', step⟩ := near _ hf
  · rw [same]
  · rw [eq, eq']
    exact r step

/-- The names of a list of values stay where they are when one of the values changes. -/
theorem zip_of_item (names : List String) (before after : List Json) (j j' : Json) :
    names.zip (before ++ j :: after) = names.zip (before ++ j' :: after) ∨
      ∃ front name back, names.zip (before ++ j :: after) = front ++ (name, j) :: back ∧
        names.zip (before ++ j' :: after) = front ++ (name, j') :: back := by
  induction before generalizing names with
  | nil =>
    cases names with
    | nil => exact .inl rfl
    | cons name names => exact .inr ⟨[], name, names.zip after, rfl, rfl⟩
  | cons x before ih =>
    cases names with
    | nil => exact .inl rfl
    | cons name names =>
      obtain same | ⟨front, name', back, eq, eq'⟩ := ih names
      · exact .inl (congrArg (List.cons (name, x)) same)
      · exact .inr ⟨(name, x) :: front, name', back, congrArg (List.cons (name, x)) eq,
          congrArg (List.cons (name, x)) eq'⟩

/-- What is read from the members of a record is not affected by a change that its shape allows, if
it is not affected by one of the members. -/
theorem members?_bind (names : List String) (optional : Nat) {body : Members → Option β}
    (h : Step (.record members) j j')
    (hb : ∀ ⦃ms ms'⦄, Members.Near members ms ms' → body ms' = body ms) :
    (members? names optional j').bind body = (members? names optional j).bind body := by
  obtain ⟨ms, ms', rfl, rfl⟩ | ⟨xs, xs', rfl, rfl⟩ := h.kinds
  · exact hb (Members.near_of_step h)
  cases h with
  | swap h =>
    cases h with
    | @item before after j j' inside =>
      have length : (before ++ j :: after).length = (before ++ j' :: after).length := by simp
      simp only [members?, length]
      split_ifs
      · obtain same | ⟨front, name, back, eq, eq'⟩ := zip_of_item names before after j j'
        · rw [same]
        · rw [eq, eq']
          exact hb (Members.near_of_member fun _ _ _ => .swap inside)
      · rfl

/-- What is read from a tagged record is not affected by a change that its shape allows, if it is
not affected by one of the rest once the tag is known. -/
theorem tagged?_bind {tag : Json → Option String} {body : String × Json → Option β}
    (r : Respects tag .plain) (hf : (name, .plain) ∈ members) (h : Step (.record members) j j')
    (hb : ∀ t ⦃rest rest'⦄, Step (.record members) rest rest' → body (t, rest') = body (t, rest)) :
    (tagged? name tag j').bind body = (tagged? name tag j).bind body := by
  obtain ⟨ms, ms', rfl, rfl⟩ | ⟨xs, xs', rfl, rfl⟩ := h.kinds
  · simp only [tagged?, (Members.near_of_step h).required? r hf]
    cases Members.required? ms name tag with
    | none => rfl
    | some t => exact hb t h
  cases h with
  | swap h =>
    cases h with
    | @item before after _ _ inside =>
      cases before with
      | nil =>
        simp only [List.nil_append, tagged?, r (.swap inside)]
      | cons x before =>
        simp only [List.cons_append, tagged?]
        cases tag x with
        | none => rfl
        | some t => exact hb t (.swap (.item inside))

end Records

end Showdown.Json
