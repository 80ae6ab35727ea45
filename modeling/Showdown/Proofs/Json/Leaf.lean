import Showdown.Json.Record
import Showdown.Proofs.Json.Alike
import Showdown.Proofs.UtcTime

/-!
# Leaves that are read back

A leaf is neither an object nor a list. Each of them is read as what was written, a number if it is
finite, and so are lists of what is read back, and values that may be absent if `null` cannot be
read as one of the others.
-/

namespace Showdown.Json

/-! ### What leaves respect -/

section Respects

theorem respects_text : Respects text? .plain :=
  respects_of_leaf (fun _ => rfl) fun _ => rfl

theorem respects_bool : Respects bool? .plain :=
  respects_of_leaf (fun _ => rfl) fun _ => rfl

theorem respects_nat : Respects nat? .plain :=
  respects_of_leaf (fun _ => rfl) fun _ => rfl

theorem respects_uint8 : Respects uint8? .plain :=
  respects_of_leaf (fun _ => rfl) fun _ => rfl

theorem respects_uint16 : Respects uint16? .plain :=
  respects_of_leaf (fun _ => rfl) fun _ => rfl

theorem respects_uint32 : Respects uint32? .plain :=
  respects_of_leaf (fun _ => rfl) fun _ => rfl

theorem respects_uint64 : Respects uint64? .plain :=
  respects_of_leaf (fun _ => rfl) fun _ => rfl

theorem respects_int64 : Respects int64? .plain :=
  respects_of_leaf (fun _ => rfl) fun _ => rfl

theorem respects_real : Respects real? .plain :=
  respects_of_leaf (fun _ => rfl) fun _ => rfl

theorem respects_tag (m : Strictness) (tags : List String) : Respects (tag? m tags) .plain :=
  respects_of_leaf (fun _ => rfl) fun _ => rfl

theorem respects_instant : Respects UtcTime.ofJson? .plain :=
  respects_of_leaf (fun _ => rfl) fun _ => rfl

end Respects

/-! ### What is written is read -/

section Written

variable {α : Type} {read : Json → Option α} {write : α → Json}

@[simp] theorem text?_string (s : String) : text? (string s) = some s := rfl

@[simp] theorem bool?_bool (b : Bool) : bool? (bool b) = some b := rfl

@[simp] theorem nat?_ofNat (n : Nat) : nat? (ofNat n) = some n := by
  simp [nat?, ofNat]

@[simp] theorem natBelow?_ofNat {n bound : Nat} (h : n < bound) :
    natBelow? bound (ofNat n) = some n := by
  simp [natBelow?, h]

@[simp] theorem uint8?_ofNat (n : UInt8) : uint8? (ofNat n.toNat) = some n := by
  simp [uint8?, n.toNat_lt_size]

@[simp] theorem uint16?_ofNat (n : UInt16) : uint16? (ofNat n.toNat) = some n := by
  simp [uint16?, n.toNat_lt_size]

@[simp] theorem uint32?_ofNat (n : UInt32) : uint32? (ofNat n.toNat) = some n := by
  simp [uint32?, n.toNat_lt_size]

@[simp] theorem uint64?_ofNat (n : UInt64) : uint64? (ofNat n.toNat) = some n := by
  simp [uint64?, n.toNat_lt_size]

@[simp] theorem int64?_integer (n : Int64) : int64? (integer n.toInt) = some n := by
  have fits : (Int64.minValue.toInt ≤ n.toInt && n.toInt ≤ Int64.maxValue.toInt) = true := by
    simpa only [Bool.and_eq_true, decide_eq_true_eq] using ⟨n.minValue_le_toInt, n.toInt_le⟩
  rw [int64?, if_pos fits, Int64.ofInt_toInt]

theorem real?_ofFloat {x : Float} (finite : x.isFinite = true) : real? (ofFloat x) = some x := by
  rw [ofFloat, if_pos finite]
  rfl

@[simp] theorem ofJson?_instant (t : UtcTime) : UtcTime.ofJson? t.toJson = some t := by
  rw [UtcTime.ofJson?, UtcTime.toJson, text?_string, Option.bind_some, t.read?_text]

theorem list?_array_map (h : ∀ a, read (write a) = some a) (as : List α) :
    list? read (array (as.map write)) = some as := by
  induction as with
  | nil => rfl
  | cons a as ih =>
    simp only [list?] at ih ⊢
    simp [h, ih]

/-- A value that may be absent is read back if `null` is not read as one that is there. -/
theorem nullable?_ofOption (absent : read null = none) (h : ∀ a, read (write a) = some a)
    (o : Option α) : nullable? read (ofOption write o) = some o := by
  cases o with
  | none => rfl
  | some a =>
    have found := h a
    rw [ofOption]
    cases eq : write a with
    | null =>
      rw [eq, absent] at found
      cases found
    | _ =>
      rw [eq] at found
      exact congrArg (Option.map some) found

@[simp] theorem members?_object (names : List String) (optional : Nat) (ms : Members) :
    members? names optional (object ms) = some ms := rfl

end Written

end Showdown.Json
