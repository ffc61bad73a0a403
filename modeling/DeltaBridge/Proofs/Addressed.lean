import DeltaBridge.Proofs.Json.RoundTrip
import DeltaBridge.Proofs.Path.Address
import DeltaBridge.Proofs.Picked
import DeltaBridge.Proofs.Text.Blank

/-!
# Every node has an address

The address of a node, used as a selector on a text of the document, gives the value of the node:
of each node, also of one with nothing in it, and from the bytes of the text as well. A text that
is nested too deeply to be read has no nodes, and a matcher takes only so many steps as it has room
for.

* `trimmed_address`: an address has no blanks at its ends; `asks_address`: what it asks for;
* `Json.TextOf`: the texts of a document;
* **`Matcher.extract_address`**: the value at an address; `Matcher.extract_address_within`: an address
  with too many steps;
* `Json.writeTo_nested`, `Json.writeTo_besideNested`: documents with lists in lists;
  `besideNested_unread`, `inner_list_unfound`, `deep_node_unread`: those that go too deep.
-/

namespace DeltaBridge

open Ascii

/-! ## Selectors -/

section Selectors

variable {ss : List Step} {before after : Text}

theorem getLast?_text (s : Step) : s.text.getLast? = some closeBracket := by
  cases s with
  | member k =>
    rw [show (Step.member k).text = openBracket :: apostrophe :: k ++ [apostrophe] ++ [closeBracket]
      by simp [Step.text]]
    exact List.getLast?_concat
  | element i => exact List.getLast?_concat (l := openBracket :: natText i)

theorem getLast?_address (ss : List Step) :
    (address ss).getLast? = some dollar ∨ (address ss).getLast? = some closeBracket := by
  rcases List.eq_nil_or_concat ss with rfl | ⟨ss, s, rfl⟩
  · exact .inl rfl
  · right
    rw [address, List.concat_eq_append, List.flatMap_append, List.flatMap_singleton,
      ← List.cons_append, List.getLast?_append, getLast?_text]
    rfl

theorem trimmed_address (ss : List Step) : (address ss).Trimmed := by
  constructor
  · intro c hc
    cases hc
    decide
  · intro c hc
    rcases getLast?_address ss with h | h <;>
    · rw [h] at hc
      cases hc
      decide

theorem strip_address (hb : ∀ c ∈ before, isBlank c = true) (ha : ∀ c ∈ after, isBlank c = true)
    (ss : List Step) : (before ++ (address ss ++ after)).strip = address ss :=
  Text.strip_pad hb ha (trimmed_address ss) (List.cons_ne_nil _ _)

theorem asks_address {M : Matcher} (lawful : M.LawfulReading) {t : Text} {payload : Value}
    (carries : Carries t payload) (hs : ∀ s ∈ ss, s.IsAddressable)
    (hb : ∀ c ∈ before, isBlank c = true) (ha : ∀ c ∈ after, isBlank c = true) :
    M.Asks payload (before ++ (address ss ++ after)) (M.build (.ofSteps .root ss)) t where
  decoded := carries.decode
  notBlank := by
    rw [strip_address hb ha]
    exact List.cons_ne_nil _ _
  compiled := by
    rw [strip_address hb ha]
    exact lawful.compile_address hs

theorem asks_bareAddress {M : Matcher} (lawful : M.LawfulReading) {t : Text} {payload : Value}
    (carries : Carries t payload) (hs : ∀ s ∈ ss, s.IsAddressable) :
    M.Asks payload (address ss) (M.build (.ofSteps .root ss)) t := by
  have h : M.Asks payload ([] ++ (address ss ++ [])) (M.build (.ofSteps .root ss)) t :=
    asks_address lawful carries hs (by simp) (by simp)
  rwa [List.nil_append, List.append_nil] at h

end Selectors

/-! ## Documents -/

/-- A text of the document: one that is read as it, or the one that is written of it. -/
inductive Json.TextOf (d : Value) (t : Text) : Prop
  | read (h : Json.read .strict t = .ok d)
  | written {limit : Nat} (h : Json.writeTo limit d = .ok t) (legible : d.Legible)
    (shallow : d.depth ≤ depthLimit)

theorem Json.TextOf.read_eq {d : Value} {t : Text} (h : Json.TextOf d t) :
    Json.read .strict t = .ok d := by
  cases h with
  | read h => exact h
  | written h legible shallow => exact readTo_write h legible shallow .strict

/-- **With a lawful matcher the address of a node gives its value**, from any text of the document
and from the bytes of the text, with or without blanks around the address, as long as the matcher has
room for its steps. -/
theorem Matcher.extract_address {M : Matcher} {room : Nat} (search : M.LawfulSearch room)
    (reading : M.LawfulReading) {d : Value} {n : Node} {t before after : Text} {payload : Value}
    (text : Json.TextOf d t) (carries : Carries t payload) (hn : n ∈ (Node.fresh d).subtree)
    (addressable : ∀ s ∈ n.location, s.IsAddressable) (hroom : n.location.length < room)
    (hb : ∀ c ∈ before, isBlank c = true) (ha : ∀ c ∈ after, isBlank c = true) :
    (M.extract payload (some (before ++ (address n.location ++ after)))).value = .ok n.value := by
  have hread := text.read_eq
  have hfind := search.find_ofSteps (Json.distinctKeys_read hread) n hn addressable hroom
  have htext := Node.isInText_eq_false (d := .fresh d) rfl n hn
  exact (asks_address reading carries addressable hb ha).value_of_find hread hfind htext

/-- With room for fewer levels than there are steps in an address, and one more for the root, the
standard matcher gives no value. -/
theorem Matcher.extract_address_within {room : Nat} {d : Value} {t : Text} {payload : Value}
    (text : Json.TextOf d t) (carries : Carries t payload) {ss : List Step}
    (addressable : ∀ s ∈ ss, s.IsAddressable) (hroom : room ≤ ss.length) :
    ((within room).extract payload (some (address ss))).value =
      .error (.searchFailed (.other "maximum recursion depth exceeded")) := by
  have asks := asks_bareAddress (lawfulReading_within room) carries addressable
  have hheight : ¬ (Path.ofSteps .root ss).height 0 ≤ room := by
    rw [Path.height_ofSteps]
    omega
  have hstops : (within room).selected (.ofSteps .root ss) d =
      .error (.other "maximum recursion depth exceeded") :=
    selected_eq_error_iff.2 (if_neg hheight)
  rw [asks.value_extract, extractWith, asks.compiled]
  simp only [readDocument_of_read text.read_eq, hstops]

/-! ## A payload -/

/-- A false value under an empty key. -/
def oddPayload : Text := "\x7b\"a b\": [null, \x7b\"\": false\x7d]\x7d"

/-- The list in it. -/
def oddList : List Value := [.null, .object [([], .bool false)]]

/-- The document in it. -/
def oddDocument : Value := .object [("a b", .list oddList)]

theorem write_oddDocument : Json.write oddDocument = .ok oddPayload := by decide +kernel

theorem legible_oddDocument : oddDocument.Legible :=
  ⟨by decide, Json.isSound_of_ascii (by decide),
    ⟨trivial, ⟨by decide, Json.isSound_of_ascii (by decide), trivial, trivial⟩, trivial⟩, trivial⟩

/-- The value is found in the bytes of the payload. -/
theorem oddPayload_addressed :
    ∃ n ∈ (Node.fresh oddDocument).subtree,
      n.location = [.member "a b", .element 1, .member []] ∧
      address n.location = "$['a b'][1]['']" ∧ n.value = .bool false ∧
      (extract (.bytes (Utf8.encode oddPayload)) (some " $['a b'][1]['']\n")).value =
        .ok (.bool false) := by
  let list := (Node.fresh oddDocument).below (.member "a b") (.list oddList)
  let inner := list.below (.element 1) (.object [([], .bool false)])
  let n := inner.below (.member []) (.bool false)
  have hn : n ∈ (Node.fresh oddDocument).subtree :=
    List.mem_of_getElem? (show (Node.fresh oddDocument).subtree[4]? = some n from rfl)
  have haddress : address n.location = "$['a b'][1]['']" := by decide +kernel
  have haddressable : ∀ s ∈ n.location, s.IsAddressable := by
    intro s hs
    have hs : s ∈ [Step.member "a b", .element 1, .member []] := hs
    simp only [List.mem_cons, List.not_mem_nil, or_false] at hs
    rcases hs with rfl | rfl | rfl
    · exact ⟨by decide, by decide, by decide, by decide⟩
    · show (natDigits 1).length ≤ digitLimit
      decide +kernel
    · exact ⟨by decide, by decide, by decide, by decide⟩
  have hencodable : Utf8.IsEncodable oddPayload := Utf8.isEncodable_of_ascii (by decide +kernel)
  have text : Json.TextOf oddDocument oddPayload :=
    .written write_oddDocument legible_oddDocument (by decide)
  have h : (extract (.bytes (Utf8.encode oddPayload))
      (some (Text.ofString " " ++ (address n.location ++ Text.ofString "\n")))).value =
        .ok n.value :=
    Matcher.extract_address (Matcher.lawfulSearch_standard 4) Matcher.lawfulReading_standard text
      (.bytes hencodable) hn haddressable (Nat.lt_succ_self 3) (by decide) (by decide)
  rw [haddress] at h
  exact ⟨n, hn, rfl, haddress, rfl, h⟩

/-! ## Lists in lists -/

theorem Json.writeTo_nested {limit k : Nat} (h : k < limit) : Json.writeTo limit (Value.nested k) =
    .ok (List.replicate (k + 1) openBracket ++ List.replicate (k + 1) closeBracket) := by
  obtain ⟨room, rfl⟩ : ∃ room, limit = room + 1 := ⟨limit - 1, by omega⟩
  induction k generalizing room with
  | zero => rfl
  | succ k ih =>
    obtain ⟨less, rfl⟩ : ∃ less, room = less + 1 := ⟨room - 1, by omega⟩
    have hitems : Json.writeItems (less + 1) [Value.nested k] =
        .ok [List.replicate (k + 1) openBracket ++ List.replicate (k + 1) closeBracket] := by
      rw [Json.writeItems, ih less (by omega)]
      rfl
    have hopen : List.replicate (k + 2) openBracket =
        [openBracket] ++ List.replicate (k + 1) openBracket := List.replicate_succ
    have hclose : List.replicate (k + 2) closeBracket =
        List.replicate (k + 1) closeBracket ++ [closeBracket] := List.replicate_succ'
    rw [Value.nested, Json.writeTo, if_neg (Nat.succ_ne_zero _), Nat.add_sub_cancel, hitems, hopen,
      hclose]
    show Except.ok ([openBracket] ++ _ ++ [closeBracket]) = _
    rw [Text.joinWith_singleton]
    simp only [List.append_assoc]

/-- A number after lists in lists. -/
def besideNested (k : Nat) : Value := .list [Value.nested k, .int 7]

/-- Its text. -/
def besideNestedText (k : Nat) : Text :=
  List.replicate (k + 2) openBracket ++ (List.replicate (k + 1) closeBracket ++ ", 7]")

theorem Json.writeTo_besideNested (k : Nat) :
    Json.writeTo (k + 2) (besideNested k) = .ok (besideNestedText k) := by
  have hlong : Value.isLong 7 = false := by decide +kernel
  have hseven : Json.writeTo (k + 1) (.int 7) = .ok "7" := by
    rw [Json.writeTo, hlong, show intText 7 = "7" by decide +kernel]
    rfl
  have hitems : Json.writeItems (k + 1) [Value.nested k, .int 7] =
      .ok [List.replicate (k + 1) openBracket ++ List.replicate (k + 1) closeBracket, "7"] := by
    simp only [Json.writeItems, Json.writeTo_nested (Nat.lt_succ_self k), hseven]
    rfl
  have hopen : List.replicate (k + 2) openBracket =
      [openBracket] ++ List.replicate (k + 1) openBracket := List.replicate_succ
  rw [besideNested, Json.writeTo, if_neg (Nat.succ_ne_zero _), Nat.add_sub_cancel (k + 1) 1, hitems,
    besideNestedText, hopen]
  show Except.ok ([openBracket] ++ _ ++ [closeBracket]) = _
  rw [Text.joinWith_cons_cons, Text.joinWith_singleton]
  simp only [List.append_assoc]
  rfl

/-- The number has an address, but where the lists go too deep no selector gives its value. A
reader that goes deeper reads the text. -/
theorem besideNested_unread {k : Nat} (h : depthLimit < k + 2) :
    ∃ n ∈ (Node.fresh (besideNested k)).subtree,
      n.value = .int 7 ∧ n.location = [.element 1] ∧ (∀ s ∈ n.location, s.IsAddressable) ∧
      address n.location = "$[1]" ∧ Json.writeTo (k + 2) (besideNested k) = .ok (besideNestedText k) ∧
      Json.readTo (k + 2) .strict (besideNestedText k) = .ok (besideNested k) ∧
      (extract (.text (besideNestedText k)) (some "$[1]")).value = .error (.tooDeep .array) := by
  have hwrite := Json.writeTo_besideNested k
  have hlegible : (besideNested k).Legible := ⟨Value.legible_nested k, trivial, trivial⟩
  have hdepth : (besideNested k).depth = k + 2 := by
    show max (Value.nested k).depth 0 + 1 = _
    rw [Value.depth_nested]
    rfl
  have hdeep : Json.read .strict (besideNestedText k) = .error (.tooDeep .array) :=
    Json.readTo_openBrackets h _
  have haddressable : ∀ s ∈ [Step.element 1], s.IsAddressable := by
    intro s hs
    rw [List.mem_singleton.1 hs]
    show (natDigits 1).length ≤ digitLimit
    decide +kernel
  have haddress : address [Step.element 1] = "$[1]" := by decide +kernel
  have hn : (Node.fresh (besideNested k)).below (.element 1) (.int 7) ∈
      (Node.fresh (besideNested k)).subtree :=
    Node.mem_subtree_of_mem_children (Node.mem_subtree_self _)
      (List.mem_cons_of_mem _ List.mem_cons_self)
  refine ⟨_, hn, rfl, rfl, haddressable, haddress, hwrite,
    Json.readTo_write hwrite hlegible hdepth.le .strict, ?_⟩
  have asks := asks_bareAddress Matcher.lawfulReading_standard (.text (t := besideNestedText k))
    haddressable
  rw [haddress] at asks
  rw [extract, asks.value_extract, Matcher.extractWith, asks.compiled]
  simp only [readDocument, hdeep]

/-- A list in a list, which a lawful matcher with room for two levels does not find. -/
theorem inner_list_unfound :
    (Matcher.within 2).LawfulSearch 2 ∧ (Matcher.within 2).LawfulReading ∧
    ∃ n ∈ (Node.fresh (Value.nested 2)).subtree,
      n.value = .list [] ∧ n.location = [.element 0, .element 0] ∧
      (∀ s ∈ n.location, s.IsAddressable) ∧ address n.location = "$[0][0]" ∧
      Json.read .strict "[[[]]]" = .ok (Value.nested 2) ∧
      ((Matcher.within 2).extract (.text "[[[]]]") (some "$[0][0]")).value =
        .error (.searchFailed (.other "maximum recursion depth exceeded")) := by
  let middle := (Node.fresh (Value.nested 2)).below (.element 0) (Value.nested 1)
  let inner := middle.below (.element 0) (Value.nested 0)
  have hn : inner ∈ (Node.fresh (Value.nested 2)).subtree :=
    List.mem_of_getElem? (show (Node.fresh (Value.nested 2)).subtree[2]? = some inner from rfl)
  have haddressable : ∀ s ∈ inner.location, s.IsAddressable := by
    intro s hs
    have hs : s ∈ [Step.element 0, .element 0] := hs
    simp only [List.mem_cons, List.not_mem_nil, or_false, or_self] at hs
    rw [hs]
    show (natDigits 0).length ≤ digitLimit
    decide +kernel
  have haddress : address inner.location = "$[0][0]" := by decide +kernel
  have text : Json.TextOf (Value.nested 2) "[[[]]]" := .read rfl
  have hvalue := Matcher.extract_address_within text (.text (t := "[[[]]]")) haddressable
    (Nat.le_refl 2)
  rw [haddress] at hvalue
  exact ⟨Matcher.lawfulSearch_within (by decide), Matcher.lawfulReading_within 2, inner, hn, rfl, rfl,
    haddressable, haddress, rfl, hvalue⟩

/-- So it is with 20000 lists; and a matcher may have too little room for the steps to a node of a
text that is read. -/
theorem deep_node_unread :
    (∃ n ∈ (Node.fresh (besideNested 19998)).subtree,
      n.value = .int 7 ∧ n.location = [.element 1] ∧ (∀ s ∈ n.location, s.IsAddressable) ∧
      address n.location = "$[1]" ∧
      Json.writeTo 20000 (besideNested 19998) = .ok (besideNestedText 19998) ∧
      Json.readTo 20000 .strict (besideNestedText 19998) = .ok (besideNested 19998) ∧
      (extract (.text (besideNestedText 19998)) (some "$[1]")).value =
        .error (.tooDeep .array)) ∧
    (Matcher.within 2).LawfulSearch 2 ∧ (Matcher.within 2).LawfulReading ∧
    ∃ n ∈ (Node.fresh (Value.nested 2)).subtree,
      n.value = .list [] ∧ n.location = [.element 0, .element 0] ∧
      (∀ s ∈ n.location, s.IsAddressable) ∧ address n.location = "$[0][0]" ∧
      Json.read .strict "[[[]]]" = .ok (Value.nested 2) ∧
      ((Matcher.within 2).extract (.text "[[[]]]") (some "$[0][0]")).value =
        .error (.searchFailed (.other "maximum recursion depth exceeded")) :=
  ⟨besideNested_unread (by decide), inner_list_unfound⟩

end DeltaBridge
