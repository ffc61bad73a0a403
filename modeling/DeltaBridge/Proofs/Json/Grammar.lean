import DeltaBridge.Proofs.Json.Number
import Mathlib.Data.List.Chain

/-!
# The grammar of JSON

A JSON text is a sequence of symbols with white space around them: the brackets and braces of its
containers with their commas and colons, and strings, numbers and words. A tree says which sequence
it is. In the grammar here the three numbers without a notation in JSON are words, too; a text is
one of JSON if it gets by without them.

* `Json.CharsNotation`: the characters of a string; `Json.LeafNotation`, `Json.SymbolNotation`: how
  symbols are written; `Json.Spaced`: symbols with white space around them;
* `Json.Tree`, `Json.Tree.yield`: trees, and their symbols; `Json.Tree.value`, `Json.Tree.depth`;
* `Json.IsText`, `Json.IsJson`: the texts of a tree, and the texts of JSON; `Json.IsText.isShort`:
  their integers are not longer than they are;
* **`Json.apart_yield`**: leaves of a tree do not touch, so that nothing goes on with a number.
-/

namespace DeltaBridge.Json

open Ascii

/-! ## Strings -/

/-- The four hexadecimal digits of a code. -/
inductive CodeNotation : Text → Nat → Prop
  | digits {a b c d w x y z : Nat} (ha : hexValue? a = some w) (hb : hexValue? b = some x)
    (hc : hexValue? c = some y) (hd : hexValue? d = some z) :
    CodeNotation [a, b, c, d] (((w * 16 + x) * 16 + y) * 16 + z)

/-- The letters of short escapes, with the characters that these stand for. -/
def letterEscapes : List (CodePoint × CodePoint) :=
  [(quote, quote), (backslash, backslash), (slash, slash), (0x62, 0x08), (0x66, 0x0C),
    (0x6E, lineFeed), (0x72, carriageReturn), (0x74, tab)]

/-- The text starts with the escape of the second of a pair of surrogates. -/
inductive StartsLow : Text → Prop
  | escape {u t : Text} {low : CodePoint} (hu : CodeNotation u low)
    (hl : isLowSurrogate low = true) : StartsLow (backslash :: 0x75 :: (u ++ t))

/-- How the characters of a string are written between its quotes. A character stands for itself,
unless it is a quote, a backslash or a control character, or it is escaped. The escapes of a pair of
surrogates stand for one character. -/
inductive CharsNotation : Text → Text → Prop
  | nil : CharsNotation [] []
  | plain {c : CodePoint} {t s : Text} (quoted : c ≠ quote) (escaped : c ≠ backslash)
    (control : 0x20 ≤ c) (rest : CharsNotation t s) : CharsNotation (c :: t) (c :: s)
  | letter {c x : CodePoint} {t s : Text} (escape : (c, x) ∈ letterEscapes)
    (rest : CharsNotation t s) : CharsNotation (backslash :: c :: t) (x :: s)
  | code {u t s : Text} {c : CodePoint} (code : CodeNotation u c)
    (single : isHighSurrogate c = true → ¬StartsLow t) (rest : CharsNotation t s) :
    CharsNotation (backslash :: 0x75 :: (u ++ t)) (c :: s)
  | pair {u w t s : Text} {high low : CodePoint} (first : CodeNotation u high)
    (second : CodeNotation w low) (isHigh : isHighSurrogate high = true)
    (isLow : isLowSurrogate low = true) (rest : CharsNotation t s) :
    CharsNotation (backslash :: 0x75 :: (u ++ backslash :: 0x75 :: (w ++ t)))
      (joinSurrogates high low :: s)

/-! ## Symbols -/

/-- What has no parts. -/
inductive Leaf where
  | null
  | bool (b : Bool)
  | number (l : Literal)
  | constant (c : Constant)
  | text (t : Text)

/-- The value of a number, however long it is. -/
def Literal.number : Literal → Value
  | .integer negative ds => .int (signed negative ds)
  | .decimal n => .float n.toFloat

/-- The value of a leaf. -/
def Leaf.value : Leaf → Value
  | .null => .null
  | .bool b => .bool b
  | .number l => l.number
  | .constant c => .float c.toFloat
  | .text t => .text t

/-- How leaves are written. -/
inductive LeafNotation : Text → Leaf → Prop
  | null : LeafNotation "null" .null
  | bool (b : Bool) : LeafNotation (if b then "true" else "false") (.bool b)
  | number {t : Text} {l : Literal} (h : NumberNotation t l) : LeafNotation t (.number l)
  | constant (c : Constant) : LeafNotation c.name (.constant c)
  | text {t s : Text} (h : CharsNotation t s) : LeafNotation (quote :: (t ++ [quote])) (.text s)

/-- The symbols of JSON. -/
inductive Symbol where
  | openArray
  | closeArray
  | openObject
  | closeObject
  | comma
  | colon
  | leaf (l : Leaf)

/-- The symbol is no leaf. -/
def Symbol.IsMark : Symbol → Prop
  | .leaf _ => False
  | _ => True

/-- How symbols are written. -/
inductive SymbolNotation : Text → Symbol → Prop
  | openArray : SymbolNotation [openBracket] .openArray
  | closeArray : SymbolNotation [closeBracket] .closeArray
  | openObject : SymbolNotation [openBrace] .openObject
  | closeObject : SymbolNotation [closeBrace] .closeObject
  | comma : SymbolNotation [Ascii.comma] .comma
  | colon : SymbolNotation [Ascii.colon] .colon
  | leaf {t : Text} {l : Leaf} (h : LeafNotation t l) : SymbolNotation t (.leaf l)

/-- The text is the symbols, with white space before, after and between them. -/
inductive Spaced : List Symbol → Text → Prop
  | nil {w : Text} (space : ∀ c ∈ w, isSpace c = true) : Spaced [] w
  | cons {w u t : Text} {k : Symbol} {ks : List Symbol} (space : ∀ c ∈ w, isSpace c = true)
    (symbol : SymbolNotation u k) (rest : Spaced ks t) : Spaced (k :: ks) (w ++ (u ++ t))

/-! ## Trees -/

/-- What a JSON text describes. The members of an object are in their order, and a key may be there
more than once. -/
inductive Tree where
  | leaf (l : Leaf)
  | array (items : List Tree)
  | object (members : List (Text × Tree))

namespace Tree

mutual

/-- The symbols of a tree, from left to right. -/
def yield : Tree → List Symbol
  | .leaf l => [.leaf l]
  | .array [] => [.openArray, .closeArray]
  | .array (x :: xs) => .openArray :: (x.yield ++ yieldItems xs)
  | .object [] => [.openObject, .closeObject]
  | .object ((k, x) :: ms) =>
    .openObject :: .leaf (.text k) :: .colon :: (x.yield ++ yieldMembers ms)

/-- The symbols after an item: those of more items, and the bracket that ends the array. -/
def yieldItems : List Tree → List Symbol
  | [] => [.closeArray]
  | x :: xs => .comma :: (x.yield ++ yieldItems xs)

/-- The symbols after a member: those of more members, and the brace that ends the object. -/
def yieldMembers : List (Text × Tree) → List Symbol
  | [] => [.closeObject]
  | (k, x) :: ms => .comma :: .leaf (.text k) :: .colon :: (x.yield ++ yieldMembers ms)

end

mutual

/-- The value of a tree. Of members with one key the last one counts. -/
def value : Tree → Value
  | .leaf l => l.value
  | .array xs => .list (valueItems xs)
  | .object ms => .object (Members.ofPairs (valueMembers ms))

/-- The values of the items. -/
def valueItems : List Tree → List Value
  | [] => []
  | x :: xs => x.value :: valueItems xs

/-- The values of the members, with their keys. -/
def valueMembers : List (Text × Tree) → List (Text × Value)
  | [] => []
  | (k, x) :: ms => (k, x.value) :: valueMembers ms

end

mutual

/-- How many containers there are around the innermost parts of the tree. -/
def depth : Tree → Nat
  | .leaf _ => 0
  | .array xs => depthItems xs + 1
  | .object ms => depthMembers ms + 1

/-- The depth of the deepest item. -/
def depthItems : List Tree → Nat
  | [] => 0
  | x :: xs => max x.depth (depthItems xs)

/-- The depth of the deepest member. -/
def depthMembers : List (Text × Tree) → Nat
  | [] => 0
  | (_, x) :: ms => max x.depth (depthMembers ms)

end

/-- The leaf is in the tree, as a value or as a key. -/
def Has (x : Tree) (l : Leaf) : Prop := .leaf l ∈ x.yield

/-- No integer in the tree has more digits than are read. -/
def IsShort (x : Tree) : Prop := ∀ l, x.Has (.number l) → l.IsShort

end Tree

/-- The text describes the tree. -/
def IsText (x : Tree) (t : Text) : Prop := Spaced x.yield t

/-- The text is one of JSON: it describes a tree without the numbers that have no notation there. -/
def IsJson (t : Text) : Prop := ∃ x : Tree, IsText x t ∧ ∀ c, ¬x.Has (.constant c)

/-! ## Short texts -/

section Shortness

variable {t : Text} {x : Tree} {l : Literal} {k : Symbol} {ks : List Symbol}

theorem NumberNotation.isShort (h : NumberNotation t l) (ht : t.length ≤ digitLimit) :
    l.IsShort := by
  cases h with
  | parts hw hf hx =>
    unfold Literal.ofParts
    split
    · simp only [List.length_append, List.length_map] at ht
      show _ ≤ digitLimit
      omega
    · trivial

theorem Spaced.exists_notation (h : Spaced ks t) (hk : k ∈ ks) :
    ∃ u, SymbolNotation u k ∧ u.length ≤ t.length := by
  induction h with
  | nil _ => cases hk
  | cons space symbol rest ih =>
    simp only [List.length_append]
    cases hk with
    | head => exact ⟨_, symbol, by omega⟩
    | tail _ hk =>
      obtain ⟨u, hu, hlength⟩ := ih hk
      exact ⟨u, hu, by omega⟩

/-- A text that has no more characters than integers have digits has no integers that are too
long. -/
theorem IsText.isShort (h : IsText x t) (ht : t.length ≤ digitLimit) : x.IsShort := by
  intro l hl
  obtain ⟨u, hu, hlength⟩ := h.exists_notation hl
  cases hu with
  | leaf hu =>
    cases hu with
    | number hu => exact hu.isShort (hlength.trans ht)

end Shortness

/-! ## Leaves do not touch -/

/-- Of two neighbours at least one is no leaf. -/
def Apart (ks : List Symbol) : Prop := ks.IsChain fun k l => k.IsMark ∨ l.IsMark

section Apartness

variable {k : Symbol} {ks : List Symbol}

theorem apart_cons (hk : k.IsMark ∨ ∀ l ∈ ks.head?, l.IsMark) (h : Apart ks) : Apart (k :: ks) := by
  cases ks with
  | nil => exact .singleton k
  | cons l ls => exact .cons_cons (hk.imp_right fun hl => hl l rfl) h

theorem isMark_of_mem_head?_yieldItems (xs : List Tree) (ks : List Symbol) :
    ∀ k ∈ (Tree.yieldItems xs ++ ks).head?, k.IsMark := by
  cases xs <;> simp [Tree.yieldItems, Symbol.IsMark]

theorem isMark_of_mem_head?_yieldMembers (ms : List (Text × Tree)) (ks : List Symbol) :
    ∀ k ∈ (Tree.yieldMembers ms ++ ks).head?, k.IsMark := by
  rcases ms with _ | ⟨⟨_, _⟩, _⟩ <;> simp [Tree.yieldMembers, Symbol.IsMark]

theorem apart_key (k : Text) (h : Apart ks) : Apart (.leaf (.text k) :: .colon :: ks) :=
  apart_cons (.inr fun l hl => by cases hl; trivial) (apart_cons (.inl trivial) h)

-- The induction is on trees, items and members at once. What follows is arbitrary; after a tree it
-- must not start with a leaf.
mutual

/-- The leaves of a tree do not touch, nor what follows them. -/
theorem apart_yield : ∀ (x : Tree) {ks : List Symbol}, Apart ks → (∀ k ∈ ks.head?, k.IsMark) →
    Apart (x.yield ++ ks)
  | .leaf l, ks => fun h hk => by
    rw [Tree.yield, List.singleton_append]
    exact apart_cons (.inr hk) h
  | .array [], ks => fun h _ => by
    rw [Tree.yield]
    exact apart_cons (.inl trivial) (apart_cons (.inl trivial) h)
  | .array (x :: xs), ks => fun h _ => by
    rw [Tree.yield, List.cons_append, List.append_assoc]
    exact apart_cons (.inl trivial)
      (apart_yield x (apart_yieldItems xs h) (isMark_of_mem_head?_yieldItems xs ks))
  | .object [], ks => fun h _ => by
    rw [Tree.yield]
    exact apart_cons (.inl trivial) (apart_cons (.inl trivial) h)
  | .object ((k, x) :: ms), ks => fun h _ => by
    rw [Tree.yield, List.cons_append, List.cons_append, List.cons_append, List.append_assoc]
    exact apart_cons (.inl trivial) (apart_key k
      (apart_yield x (apart_yieldMembers ms h) (isMark_of_mem_head?_yieldMembers ms ks)))

theorem apart_yieldItems : ∀ (xs : List Tree) {ks : List Symbol}, Apart ks →
    Apart (Tree.yieldItems xs ++ ks)
  | [], ks => fun h => apart_cons (.inl trivial) h
  | x :: xs, ks => fun h => by
    rw [Tree.yieldItems, List.cons_append, List.append_assoc]
    exact apart_cons (.inl trivial)
      (apart_yield x (apart_yieldItems xs h) (isMark_of_mem_head?_yieldItems xs ks))

theorem apart_yieldMembers : ∀ (ms : List (Text × Tree)) {ks : List Symbol}, Apart ks →
    Apart (Tree.yieldMembers ms ++ ks)
  | [], ks => fun h => apart_cons (.inl trivial) h
  | (k, x) :: ms, ks => fun h => by
    rw [Tree.yieldMembers, List.cons_append, List.cons_append, List.cons_append, List.append_assoc]
    exact apart_cons (.inl trivial) (apart_key k
      (apart_yield x (apart_yieldMembers ms h) (isMark_of_mem_head?_yieldMembers ms ks)))

end

end Apartness

end DeltaBridge.Json
