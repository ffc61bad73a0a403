import DeltaBridge.Decimal.Layout
import DeltaBridge.Decimal.Numeral
import DeltaBridge.Text.Quoted

/-!
# Values

What a payload, a configuration field or a reading can be: the values of JSON, with integers and
doubles told apart, and raw bytes.

* `Value`; `Members.put` and `Members.ofPairs`: objects hold one value for each key, in the order
  in which the keys first came;
* `Value.isVoid`: nothing, no, zero or empty; `Value.fieldText`: the text of a configuration field;
* `Value.display`, `Value.quoted`: a value inside a message;
* `depthLimit`, `Value.fault?`: the way through a value, with the first fault on it;
* `ShowError`, `Value.showError?`: why a value cannot be shown in a message.
-/

namespace DeltaBridge

/-- A value of JSON, or bytes. -/
inductive Value where
  | null
  | bool (b : Bool)
  | int (n : Int)
  | float (x : Float)
  | text (t : Text)
  | bytes (b : Bytes)
  | list (xs : List Value)
  | object (ms : List (Text × Value))
  deriving Inhabited

/-! ## Members of objects -/

namespace Members

variable {α : Type}

/-- The value under a key. -/
def get? (k : Text) (ms : List (Text × α)) : Option α := ms.lookup k

/-- The members with `v` under `k`: in the place of the earlier value, or at the end. -/
def put (k : Text) (v : α) : List (Text × α) → List (Text × α)
  | [] => [(k, v)]
  | m :: ms => if m.1 = k then (k, v) :: ms else m :: put k v ms

/-- The members that the pairs leave when they are put one after the other. -/
def ofPairs (ps : List (Text × α)) : List (Text × α) := ps.foldl (fun ms p => put p.1 p.2 ms) []

theorem get?_put (k j : Text) (v : α) (ms : List (Text × α)) :
    get? j (put k v ms) = if j = k then some v else get? j ms := by
  have ne {i : Text} (h : j ≠ i) : (j == i) = false := beq_eq_false_iff_ne.2 h
  induction ms with
  | nil => by_cases hj : j = k <;> simp [get?, put, List.lookup_cons, hj, ne]
  | cons m ms ih =>
    obtain ⟨i, w⟩ := m
    unfold get? at ih ⊢
    by_cases hi : i = k
    · subst hi
      by_cases hj : j = i <;> simp [put, List.lookup_cons, hj, ne]
    · rw [put, if_neg hi, List.lookup_cons, List.lookup_cons, ih]
      by_cases hj : j = i
      · subst hj; simp [hi]
      · rw [ne hj]

end Members

/-- The words for an integer with more digits than are ever written out. -/
def longIntegerText : Text := "Exceeds the limit (" ++ natText digitLimit ++
  " digits) for integer string conversion; use sys.set_int_max_str_digits() to increase the limit"

/-- Lists and objects are read, written and shown up to this depth. -/
def depthLimit : Nat := 1000

/-- Why a value cannot be shown in a message. -/
inductive ShowError where
  /-- There is an integer in it too long to be written out. -/
  | longInteger
  /-- Its lists and objects are nested too deep. -/
  | tooDeep
  deriving DecidableEq, Repr

/-- The reason in words. -/
def ShowError.message : ShowError → Text
  | longInteger => longIntegerText
  | tooDeep => "maximum recursion depth exceeded while getting the repr of an object"

namespace Value

/-! ## Configuration fields -/

/-- The value says nothing: null, false, a zero, or something empty. -/
def isVoid : Value → Bool
  | null => true
  | bool b => !b
  | int n => n == 0
  | float x => x == 0
  | text t => t.isEmpty
  | bytes b => b.isEmpty
  | list xs => xs.isEmpty
  | object ms => ms.isEmpty

/-! ## Inside messages -/

mutual

/-- The value with texts in quotes, as it is shown inside another value. -/
def quoted : Value → Text
  | null => "None"
  | bool b => if b then "True" else "False"
  | int n => intText n
  | float x => floatText x
  | text t => t.quoted
  | bytes b => quotedBytes b
  | list xs => "[" ++ Text.joinWith ", " (quotedItems xs) ++ "]"
  | object ms => "\x7b" ++ Text.joinWith ", " (quotedMembers ms) ++ "\x7d"

/-- The items of a list, each in quotes. -/
def quotedItems : List Value → List Text
  | [] => []
  | x :: xs => x.quoted :: quotedItems xs

/-- The members of an object, each as its key and its value. -/
def quotedMembers : List (Text × Value) → List Text
  | [] => []
  | (k, v) :: ms => (k.quoted ++ ": " ++ v.quoted) :: quotedMembers ms

end

/-- The value as a message shows it: a text as it is, anything else as inside another value. -/
def display : Value → Text
  | text t => t
  | v => v.quoted

/-- The text of a configuration field: the value as a message shows it, nothing for a void value. -/
def fieldText (v : Value) : Text := if v.isVoid then [] else v.display

@[simp] theorem fieldText_text (t : Text) : (text t).fieldText = t := by cases t <;> rfl

/-- The integer has more digits than are ever written out. -/
def isLong (n : Int) : Bool := Nat.pow 10 digitLimit ≤ n.natAbs

mutual

/-- Somewhere in the value there is an integer too long to be written out. -/
def hasLong : Value → Bool
  | int n => isLong n
  | list xs => anyLong xs
  | object ms => anyLongMember ms
  | _ => false

/-- One of the items has an integer too long to be written out. -/
def anyLong : List Value → Bool
  | [] => false
  | x :: xs => x.hasLong || anyLong xs

/-- One of the members has an integer too long to be written out. -/
def anyLongMember : List (Text × Value) → Bool
  | [] => false
  | (_, v) :: ms => v.hasLong || anyLongMember ms

end

/-! ## The way through a value -/

section Fault

variable {ε : Type} (scalar : Value → Option ε) (deep : ε)

mutual

/-- The first fault on the way through a value: that of a scalar, or that a list or an object is met
when there is no room for one more. -/
def fault? (room : Nat) : Value → Option ε
  | list xs => if room = 0 then some deep else faultItem? (room - 1) xs
  | object ms => if room = 0 then some deep else faultMember? (room - 1) ms
  | v => scalar v

/-- The first fault among items. -/
def faultItem? (room : Nat) : List Value → Option ε
  | [] => none
  | x :: xs => (x.fault? room).or (faultItem? room xs)

/-- The first fault among members. -/
def faultMember? (room : Nat) : List (Text × Value) → Option ε
  | [] => none
  | (_, v) :: ms => (v.fault? room).or (faultMember? room ms)

end

end Fault

/-- Why a scalar cannot be shown. -/
def scalarShowError? : Value → Option ShowError
  | int n => if isLong n then some .longInteger else none
  | _ => none

/-- Why a value cannot be shown, if there is room for so many lists and objects inside each other. -/
def showError? (room : Nat) (v : Value) : Option ShowError := v.fault? scalarShowError? .tooDeep room

end Value

end DeltaBridge
