import DeltaBridge.Value.Basic

/-!
# Scalars inside values

What is in a value: whether a test holds on one of the scalars that it is made of.

* `Value.isContainer`: the value is made of others;
* `Value.somewhere`: a scalar in the value passes a test, `somewhere_list`, `somewhere_object`;
* `Value.hasBytes`, `Value.hasNonFinite`: there are bytes, or doubles that are not finite;
* `Value.hasLong_eq`: so it is with integers too long to be written out.
-/

namespace DeltaBridge.Value

/-- The value is a list or an object. -/
def isContainer : Value → Bool
  | .list _ | .object _ => true
  | _ => false

mutual

/-- A scalar somewhere in the value passes the test. -/
def somewhere (p : Value → Bool) : Value → Bool
  | .list xs => somewhereItem p xs
  | .object ms => somewhereMember p ms
  | v => p v

/-- A scalar somewhere in one of the items passes the test. -/
def somewhereItem (p : Value → Bool) : List Value → Bool
  | [] => false
  | x :: xs => x.somewhere p || somewhereItem p xs

/-- A scalar somewhere in one of the members passes the test. -/
def somewhereMember (p : Value → Bool) : List (Text × Value) → Bool
  | [] => false
  | (_, v) :: ms => v.somewhere p || somewhereMember p ms

end

variable (p : Value → Bool)

theorem somewhereItem_eq (xs : List Value) : somewhereItem p xs = xs.any (somewhere p) := by
  induction xs with
  | nil => rfl
  | cons x xs ih => rw [somewhereItem, ih, List.any_cons]

theorem somewhereMember_eq (ms : List (Text × Value)) :
    somewhereMember p ms = ms.any fun m => m.2.somewhere p := by
  induction ms with
  | nil => rfl
  | cons m ms ih => obtain ⟨k, v⟩ := m; rw [somewhereMember, ih, List.any_cons]

@[simp] theorem somewhere_list (xs : List Value) :
    (Value.list xs).somewhere p = xs.any (somewhere p) :=
  somewhereItem_eq p xs

@[simp] theorem somewhere_object (ms : List (Text × Value)) :
    (Value.object ms).somewhere p = ms.any fun m => m.2.somewhere p := somewhereMember_eq p ms

@[simp] theorem somewhere_text (t : Text) : (Value.text t).somewhere p = p (.text t) := by
  rw [somewhere] <;> simp

theorem somewhere_list_eq_false {xs : List Value} :
    (Value.list xs).somewhere p = false ↔ ∀ x ∈ xs, x.somewhere p = false := by
  rw [somewhere_list]
  simp

theorem somewhere_object_eq_false {ms : List (Text × Value)} :
    (Value.object ms).somewhere p = false ↔ ∀ m ∈ ms, m.2.somewhere p = false := by
  rw [somewhere_object]
  simp

mutual

/-- What passes nowhere in a value does not pass where less does. -/
theorem somewhere_mono {p q : Value → Bool} (hpq : ∀ x, p x = true → q x = true) :
    ∀ v : Value, v.somewhere p = true → v.somewhere q = true
  | .list xs => by
    rw [somewhere, somewhere]
    exact somewhereItem_mono hpq xs
  | .object ms => by
    rw [somewhere, somewhere]
    exact somewhereMember_mono hpq ms
  | .null | .bool _ | .int _ | .float _ | .text _ | .bytes _ => hpq _

theorem somewhereItem_mono {p q : Value → Bool} (hpq : ∀ x, p x = true → q x = true) :
    ∀ xs : List Value, somewhereItem p xs = true → somewhereItem q xs = true
  | [] => id
  | x :: xs => by
    rw [somewhereItem, somewhereItem, Bool.or_eq_true, Bool.or_eq_true]
    exact Or.imp (somewhere_mono hpq x) (somewhereItem_mono hpq xs)

theorem somewhereMember_mono {p q : Value → Bool} (hpq : ∀ x, p x = true → q x = true) :
    ∀ ms : List (Text × Value), somewhereMember p ms = true → somewhereMember q ms = true
  | [] => id
  | (_, v) :: ms => by
    rw [somewhereMember, somewhereMember, Bool.or_eq_true, Bool.or_eq_true]
    exact Or.imp (somewhere_mono hpq v) (somewhereMember_mono hpq ms)

end

/-- The value is made of bytes. -/
def isBytes : Value → Bool
  | .bytes _ => true
  | _ => false

/-- The value is a double that is not finite. -/
def isNonFinite : Value → Bool
  | .float x => !x.isFinite
  | _ => false

/-- The value is an integer too long to be written out. -/
def isLongInt : Value → Bool
  | .int n => isLong n
  | _ => false

/-- There are bytes in the value. -/
def hasBytes (v : Value) : Bool := v.somewhere isBytes

/-- There is a double in the value that is not finite. -/
def hasNonFinite (v : Value) : Bool := v.somewhere isNonFinite

mutual

theorem hasLong_eq : ∀ v : Value, v.hasLong = v.somewhere isLongInt
  | .list xs => by rw [hasLong, somewhere, anyLong_eq xs]
  | .object ms => by rw [hasLong, somewhere, anyLongMember_eq ms]
  | .null | .bool _ | .int _ | .float _ | .text _ | .bytes _ => by
    simp only [hasLong, somewhere, isLongInt]

theorem anyLong_eq : ∀ xs : List Value, anyLong xs = somewhereItem isLongInt xs
  | [] => rfl
  | x :: xs => by rw [anyLong, somewhereItem, hasLong_eq x, anyLong_eq xs]

theorem anyLongMember_eq :
    ∀ ms : List (Text × Value), anyLongMember ms = somewhereMember isLongInt ms
  | [] => rfl
  | (k, v) :: ms => by rw [anyLongMember, somewhereMember, hasLong_eq v, anyLongMember_eq ms]

end

end DeltaBridge.Value
