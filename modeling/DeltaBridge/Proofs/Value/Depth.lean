import DeltaBridge.Proofs.Value.Scalars

/-!
# How deep values go

A value has a fault on the way through it if one of its scalars has one, or if its lists and objects
are nested too deep.

* `Value.depth`: how deep a value goes;
* **`Value.fault?_eq_none_iff`**, **`Value.eq_of_fault?`**: whether there is a fault, and which;
* `Value.showError?_eq_none_iff`: which values can be shown;
* `Value.nested`: an empty list inside others.
-/

namespace DeltaBridge.Value

mutual

/-- How many containers there are around the innermost parts of the value. -/
def depth : Value → Nat
  | .list xs => depthItems xs + 1
  | .object ms => depthMembers ms + 1
  | _ => 0

/-- The depth of the deepest item. -/
def depthItems : List Value → Nat
  | [] => 0
  | x :: xs => max x.depth (depthItems xs)

/-- The depth of the deepest member. -/
def depthMembers : List (Text × Value) → Nat
  | [] => 0
  | (_, v) :: ms => max v.depth (depthMembers ms)

end

/-! ## Faults -/

section Fault

variable {ε : Type} {scalar : Value → Option ε} {deep : ε}

theorem faultItem?_eq (room : Nat) (xs : List Value) :
    faultItem? scalar deep room xs = xs.findSome? (fault? scalar deep room) := by
  induction xs with
  | nil => rfl
  | cons x xs ih => rw [faultItem?, ih, List.findSome?_cons]; cases x.fault? scalar deep room <;> rfl

theorem faultMember?_eq (room : Nat) (ms : List (Text × Value)) :
    faultMember? scalar deep room ms = ms.findSome? fun m => m.2.fault? scalar deep room := by
  induction ms with
  | nil => rfl
  | cons m ms ih =>
    obtain ⟨k, v⟩ := m
    rw [faultMember?, ih, List.findSome?_cons]
    cases v.fault? scalar deep room <;> rfl

theorem fault?_list (room : Nat) (xs : List Value) :
    (Value.list xs).fault? scalar deep (room + 1) = xs.findSome? (fault? scalar deep room) :=
  faultItem?_eq room xs

theorem fault?_object (room : Nat) (ms : List (Text × Value)) :
    (Value.object ms).fault? scalar deep (room + 1) =
      ms.findSome? fun m => m.2.fault? scalar deep room :=
  faultMember?_eq room ms

@[simp] theorem fault?_text (room : Nat) (t : Text) :
    (Value.text t).fault? scalar deep room = scalar (.text t) := by
  rw [fault?] <;> simp

variable (scalar deep)

mutual

/-- **There is no fault on the way through a value** if no scalar in it has one and it is not nested
too deep. -/
theorem fault?_eq_none_iff (room : Nat) : ∀ v : Value,
    v.fault? scalar deep room = none ↔
      v.somewhere (fun x => (scalar x).isSome) = false ∧ v.depth ≤ room
  | .list xs => by
    rw [fault?, somewhere, depth]
    cases room with
    | zero => simp
    | succ room => simpa using faultItem?_eq_none_iff room xs
  | .object ms => by
    rw [fault?, somewhere, depth]
    cases room with
    | zero => simp
    | succ room => simpa using faultMember?_eq_none_iff room ms
  | .null | .bool _ | .int _ | .float _ | .text _ | .bytes _ => by
    simp [fault?, somewhere, depth]

theorem faultItem?_eq_none_iff (room : Nat) : ∀ xs : List Value,
    faultItem? scalar deep room xs = none ↔
      somewhereItem (fun x => (scalar x).isSome) xs = false ∧ depthItems xs ≤ room
  | [] => by simp [faultItem?, somewhereItem, depthItems]
  | x :: xs => by
    rw [faultItem?, Option.or_eq_none_iff, fault?_eq_none_iff room x,
      faultItem?_eq_none_iff room xs, somewhereItem, depthItems, Bool.or_eq_false_iff, Nat.max_le]
    exact and_and_and_comm

theorem faultMember?_eq_none_iff (room : Nat) : ∀ ms : List (Text × Value),
    faultMember? scalar deep room ms = none ↔
      somewhereMember (fun x => (scalar x).isSome) ms = false ∧ depthMembers ms ≤ room
  | [] => by simp [faultMember?, somewhereMember, depthMembers]
  | (k, v) :: ms => by
    rw [faultMember?, Option.or_eq_none_iff, fault?_eq_none_iff room v,
      faultMember?_eq_none_iff room ms, somewhereMember, depthMembers, Bool.or_eq_false_iff,
      Nat.max_le]
    exact and_and_and_comm

end

variable {scalar deep} [DecidableEq ε]

mutual

/-- **A fault on the way through a value** is that of a scalar in it, or the value is nested too
deep. -/
theorem eq_of_fault? {room : Nat} {e : ε} : ∀ {v : Value}, v.fault? scalar deep room = some e →
    v.somewhere (fun x => scalar x = some e) = true ∨ e = deep ∧ room < v.depth
  | .list xs => by
    rw [fault?, somewhere, depth]
    cases room with
    | zero => exact fun h => .inr ⟨(Option.some.inj h).symm, Nat.succ_pos _⟩
    | succ room => exact fun h => (eq_of_faultItem? h).imp_right fun ⟨he, hd⟩ => ⟨he, by omega⟩
  | .object ms => by
    rw [fault?, somewhere, depth]
    cases room with
    | zero => exact fun h => .inr ⟨(Option.some.inj h).symm, Nat.succ_pos _⟩
    | succ room => exact fun h => (eq_of_faultMember? h).imp_right fun ⟨he, hd⟩ => ⟨he, by omega⟩
  | .null | .bool _ | .int _ | .float _ | .text _ | .bytes _ => by
    rw [fault?, somewhere]
    · exact fun h => .inl (decide_eq_true h)
    all_goals simp

theorem eq_of_faultItem? {room : Nat} {e : ε} :
    ∀ {xs : List Value}, faultItem? scalar deep room xs = some e →
    somewhereItem (fun x => scalar x = some e) xs = true ∨ e = deep ∧ room < depthItems xs
  | [] => by simp [faultItem?]
  | x :: xs => by
    rw [faultItem?, somewhereItem, depthItems, Option.or_eq_some_iff, Bool.or_eq_true]
    rintro (h | ⟨-, h⟩)
    · exact (eq_of_fault? h).imp .inl fun ⟨he, hd⟩ => ⟨he, by omega⟩
    · exact (eq_of_faultItem? h).imp .inr fun ⟨he, hd⟩ => ⟨he, by omega⟩

theorem eq_of_faultMember? {room : Nat} {e : ε} :
    ∀ {ms : List (Text × Value)}, faultMember? scalar deep room ms = some e →
    somewhereMember (fun x => scalar x = some e) ms = true ∨ e = deep ∧ room < depthMembers ms
  | [] => by simp [faultMember?]
  | (k, v) :: ms => by
    rw [faultMember?, somewhereMember, depthMembers, Option.or_eq_some_iff, Bool.or_eq_true]
    rintro (h | ⟨-, h⟩)
    · exact (eq_of_fault? h).imp .inl fun ⟨he, hd⟩ => ⟨he, by omega⟩
    · exact (eq_of_faultMember? h).imp .inr fun ⟨he, hd⟩ => ⟨he, by omega⟩

end

end Fault

/-! ## Values that can be shown -/

theorem isSome_scalarShowError? (v : Value) : (scalarShowError? v).isSome = v.isLongInt := by
  cases v with
  | int n => cases h : isLong n <;> simp [scalarShowError?, isLongInt, h]
  | null | bool _ | float _ | text _ | bytes _ | list _ | object _ => rfl

/-- A value can be shown if there is no overlong integer in it and it is not nested too deep. -/
theorem showError?_eq_none_iff {room : Nat} {v : Value} :
    v.showError? room = none ↔ v.hasLong = false ∧ v.depth ≤ room := by
  rw [showError?, fault?_eq_none_iff, hasLong_eq, funext isSome_scalarShowError?]

/-! ## Lists in lists -/

/-- An empty list, inside so many others. -/
def nested : Nat → Value
  | 0 => .list []
  | k + 1 => .list [nested k]

theorem somewhere_nested (p : Value → Bool) (k : Nat) : (nested k).somewhere p = false := by
  induction k with
  | zero => rw [nested, somewhere_list]; rfl
  | succ k ih => rw [nested, somewhere_list, List.any_cons, ih]; rfl

theorem depth_nested (k : Nat) : (nested k).depth = k + 1 := by
  induction k with
  | zero => rfl
  | succ k ih =>
    show max (nested k).depth 0 + 1 = _
    rw [ih]
    rfl

end DeltaBridge.Value
