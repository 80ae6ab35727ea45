import Std.Data.TreeMap
import Mathlib.Logic.Basic

/-!
# Looking up in maps

What a lookup finds after an insertion or a removal, as equivalences that case splits can use.
-/

namespace Showdown

variable {α β : Type} {cmp : α → α → Ordering} [Std.TransCmp cmp] [Std.LawfulEqCmp cmp]

theorem getElem?_insert_eq_some_iff (m : Std.TreeMap α β cmp) (k x : α) (v w : β) :
    (m.insert k v)[x]? = some w ↔ x = k ∧ w = v ∨ x ≠ k ∧ m[x]? = some w := by
  simp only [Std.TreeMap.getElem?_insert, Std.LawfulEqCmp.compare_eq_iff_eq]
  by_cases h : k = x
  · simp [h, Std.ReflCmp.compare_self, eq_comm]
  · simp [h, Ne.symm h]

theorem getElem?_erase_eq_some_iff (m : Std.TreeMap α β cmp) (k x : α) (w : β) :
    (m.erase k)[x]? = some w ↔ x ≠ k ∧ m[x]? = some w := by
  simp only [Std.TreeMap.getElem?_erase, Std.LawfulEqCmp.compare_eq_iff_eq]
  by_cases h : k = x
  · simp [h]
  · simp [h, Ne.symm h]

theorem getElem?_insert_of_ne (m : Std.TreeMap α β cmp) {k x : α} (h : x ≠ k) (v : β) :
    (m.insert k v)[x]? = m[x]? := by
  simp [Std.TreeMap.getElem?_insert, h.symm]

theorem getElem?_erase_of_ne (m : Std.TreeMap α β cmp) {k x : α} (h : x ≠ k) :
    (m.erase k)[x]? = m[x]? := by
  simp [Std.TreeMap.getElem?_erase, h.symm]

theorem mem_keys_or_getElem?_eq_none (m : Std.TreeMap α β cmp) (k : α) :
    k ∈ m.keys ∨ m[k]? = none := by
  rw [Std.TreeMap.mem_keys]
  exact or_iff_not_imp_left.mpr Std.TreeMap.getElem?_eq_none

/-! ### Entries -/

section Entries

variable [BEq α] [LawfulBEq α] [Std.LawfulBEqCmp cmp]

/-- After an insertion a map has the new entry and those of the other keys. -/
theorem toList_insert_perm_erase (m : Std.TreeMap α β cmp) (k : α) (v : β) :
    (m.insert k v).toList.Perm ((k, v) :: (m.erase k).toList) := by
  have same : (m.insert k v).Equiv ((m.erase k).insert k v) := by
    refine .of_forall_constGet?_eq fun x => ?_
    simp only [Std.TreeMap.getElem?_insert, Std.TreeMap.getElem?_erase]
    split <;> rfl
  have others : (m.erase k).toList.filter (fun e => ¬ k == e.1) = (m.erase k).toList := by
    refine List.filter_eq_self.mpr fun e he => ?_
    have found := Std.TreeMap.mem_toList_iff_getElem?_eq_some.mp he
    rw [getElem?_erase_eq_some_iff] at found
    simpa using Ne.symm found.1
  have added : ((m.erase k).insert k v).toList.Perm
      ((k, v) :: (m.erase k).toList.filter fun e => ¬ k == e.1) :=
    Std.TreeMap.toList_insert_perm
  rw [others] at added
  exact (Std.TreeMap.equiv_iff_toList_perm.mp same).trans added

/-- A map has the entry of each of its keys and those of the other keys. -/
theorem toList_perm_erase {m : Std.TreeMap α β cmp} {k : α} {v : β} (h : m[k]? = some v) :
    m.toList.Perm ((k, v) :: (m.erase k).toList) := by
  have same : m.Equiv (m.insert k v) := by
    refine .of_forall_constGet?_eq fun x => ?_
    by_cases hx : x = k
    · simp [hx, h]
    · simp [getElem?_insert_of_ne m hx]
  exact (Std.TreeMap.equiv_iff_toList_perm.mp same).trans (toList_insert_perm_erase m k v)

/-- A map has no more than one entry of a key. -/
theorem filter_toList_eq (m : Std.TreeMap α β cmp) (k : α) :
    m.toList.filter (fun e => e.1 == k) = (m[k]?.map (Prod.mk k)).toList := by
  cases h : m[k]? with
  | none =>
    refine List.filter_eq_nil_iff.mpr fun e he own => ?_
    have found := Std.TreeMap.mem_toList_iff_getElem?_eq_some.mp he
    rw [eq_of_beq own, h] at found
    cases found
  | some v =>
    have others : (m.erase k).toList.filter (fun e => e.1 == k) = [] := by
      refine List.filter_eq_nil_iff.mpr fun e he own => ?_
      have found := Std.TreeMap.mem_toList_iff_getElem?_eq_some.mp he
      rw [getElem?_erase_eq_some_iff] at found
      exact found.1 (eq_of_beq own)
    have entries := (toList_perm_erase h).filter fun e => e.1 == k
    rw [List.filter_cons_of_pos (by simp), others] at entries
    exact List.perm_singleton.mp entries

/-- A key is listed once, if it is there. -/
theorem filter_keys_eq (m : Std.TreeMap α β cmp) (k : α) :
    m.keys.filter (fun x => x == k) = if m[k]?.isSome then [k] else [] := by
  rw [← Std.TreeMap.map_fst_toList_eq_keys, List.filter_map]
  simp only [Function.comp_def]
  rw [filter_toList_eq]
  cases m[k]? <;> rfl

end Entries

end Showdown
