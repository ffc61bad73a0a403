import DeltaBridge.Json.Reader
import DeltaBridge.Proofs.Decimal.Spelling
import DeltaBridge.Proofs.Json.Strings
import DeltaBridge.Proofs.Json.Writing
import DeltaBridge.Proofs.Value.Members

/-!
# Values that are written are read back

What is written of a value takes a reader from where a value is due to where the value is read,
whatever containers are open. So the text of a value is read as that value, if the reader goes deep
enough.

* `Value.Legible`: values whose texts are sound and whose keys differ;
* `Json.Takes`, `Json.Takes.trans`: what the reader does with a part of a text;
* `Json.takes_piece`, `Json.takes_number`, `Json.takes_text`: single pieces;
* `Json.takes_value`, `Json.takes_items`, `Json.takes_members`: values;
* **`Json.readTo_write`**: whole texts; `Json.readTo_number`: numbers with white space around them.
-/

namespace DeltaBridge

open Ascii

namespace Value

mutual

/-- The texts in the value are sound, and the keys of each object differ. -/
def Legible : Value → Prop
  | .text t => Json.IsSound t
  | .list xs => LegibleItems xs
  | .object ms => (Members.keys ms).Nodup ∧ LegibleMembers ms
  | _ => True

/-- The items are legible. -/
def LegibleItems : List Value → Prop
  | [] => True
  | x :: xs => x.Legible ∧ LegibleItems xs

/-- The keys of the members are sound, and the values are legible. -/
def LegibleMembers : List (Text × Value) → Prop
  | [] => True
  | (k, v) :: ms => Json.IsSound k ∧ v.Legible ∧ LegibleMembers ms

end

theorem legible_nested (k : Nat) : (nested k).Legible := by
  induction k with
  | zero => trivial
  | succ k ih => exact ⟨ih, trivial⟩

end Value

namespace Json

/-! ## Parts of texts -/

/-- The part `u` of a text, with `rest` after it, takes the reader from one state to another one. -/
def Takes (limit : Nat) (u : Text) (s s' : Due × List Frame) (rest : Text) : Prop :=
  ∀ dialect stop p, ∃ q, run limit dialect stop s.1 s.2 (lexFrom p 0 (u ++ rest)) =
    run limit dialect stop s'.1 s'.2 (lexFrom q 0 rest)

section Parts

variable {limit : Nat} {s s' s'' : Due × List Frame} {u w rest : Text}

theorem Takes.trans (hu : Takes limit u s s' (w ++ rest)) (hw : Takes limit w s' s'' rest) :
    Takes limit (u ++ w) s s'' rest := by
  intro dialect stop p
  obtain ⟨q, hq⟩ := hu dialect stop p
  obtain ⟨q', hq'⟩ := hw dialect stop q
  exact ⟨q', by rw [List.append_assoc, hq, hq']⟩

theorem lexFrom_skip (p : Nat) (u rest : Text) :
    lexFrom p u.length (u ++ rest) = lexFrom (p + u.length) 0 rest := by
  induction u generalizing p with
  | nil => rfl
  | cons c u ih =>
    rw [List.length_cons, List.cons_append, lexFrom, ih]
    congr 1
    omega

/-- A piece of a text takes the reader one step. -/
theorem takes_piece {c : CodePoint} (hc : isSpace c = false)
    (h : ∀ p, ∃ token, piece p c (u ++ rest) = (token, u.length) ∧
      ∀ dialect, step limit dialect s.1 s.2 ⟨token, p⟩ = .ok s') :
    Takes limit (c :: u) s s' rest := by
  intro dialect stop p
  obtain ⟨token, hp, hs⟩ := h p
  refine ⟨p + 1 + u.length, ?_⟩
  rw [List.cons_append, lexFrom, if_neg (by simp [hc]), hp]
  simp only
  rw [run, hs dialect]
  simp only [lexFrom_skip]

theorem takes_spaces (s : Due × List Frame) (hu : ∀ c ∈ u, isSpace c = true) :
    Takes limit u s s rest := by
  intro dialect stop p
  induction u generalizing p with
  | nil => exact ⟨p, rfl⟩
  | cons c u ih =>
    obtain ⟨hc, hu⟩ := List.forall_mem_cons.1 hu
    obtain ⟨q, hq⟩ := ih hu (p + 1)
    refine ⟨q, ?_⟩
    rw [← hq, List.cons_append, lexFrom, if_pos hc]

theorem takes_space (s : Due × List Frame) : Takes limit [space] s s rest :=
  takes_spaces s (by decide)

end Parts

/-! ## Single pieces -/

/-- A value is due, or the end of an array that is empty so far. -/
def Due.AwaitsValue : Due → Prop
  | .value | .firstItem => True
  | _ => False

theorem step_of_awaitsValue {limit : Nat} {dialect : Dialect} {due : Due} {frames : List Frame}
    {x : Lexeme} (hd : due.AwaitsValue) (hx : x.token ≠ .closeArray) :
    step limit dialect due frames x = stepValue limit dialect frames x := by
  cases due with
  | value => rfl
  | firstItem =>
    simp only [step]
    split
    · rename_i h
      exact absurd h hx
    · rfl
  | firstName | name _ | colon _ _ | after _ => exact hd.elim

theorem isSpace_of_isDigit {c : Nat} (h : isDigit c = true) : isSpace c = false := by
  have hc : 0x30 ≤ c ∧ c ≤ 0x39 := by simpa [isDigit] using h
  have : ¬ (c = 0x20) ∧ ¬ (c = 0x09) ∧ ¬ (c = 0x0A) ∧ ¬ (c = 0x0D) := by omega
  simpa [isSpace, not_or, and_assoc] using this

section Pieces

variable {limit : Nat} {due : Due} {frames : List Frame} {u rest : Text}

theorem takes_scalar {c : CodePoint} {v : Value} (hc : isSpace c = false) (hd : due.AwaitsValue)
    (h : ∀ p, piece p c (u ++ rest) = (.scalar v, u.length)) :
    Takes limit (c :: u) (due, frames) (.after v, frames) rest :=
  takes_piece hc fun p => ⟨_, h p, fun _ => step_of_awaitsValue hd (by simp)⟩

theorem takes_null (hd : due.AwaitsValue) :
    Takes limit "null" (due, frames) (.after .null, frames) rest :=
  takes_scalar (c := 0x6E) (u := [0x75, 0x6C, 0x6C]) rfl hd fun _ => rfl

theorem takes_bool (b : Bool) (hd : due.AwaitsValue) :
    Takes limit (if b then "true" else "false") (due, frames) (.after (.bool b), frames) rest := by
  cases b with
  | true => exact takes_scalar (c := 0x74) (u := [0x72, 0x75, 0x65]) rfl hd fun _ => rfl
  | false => exact takes_scalar (c := 0x66) (u := [0x61, 0x6C, 0x73, 0x65]) rfl hd fun _ => rfl

theorem exists_word_eq {w : Text × Token} (h : w ∈ words) :
    ∃ a b r, w.1 = a :: b :: r ∧ isDigit a = false ∧ (a = minus → isDigit b = false) := by
  simp only [words, List.mem_cons, List.not_mem_nil, or_false] at h
  rcases h with rfl | rfl | rfl | rfl | rfl | rfl <;> exact ⟨_, _, _, rfl, rfl, by decide⟩

/-- What a number starts with: a digit, or a minus sign before one. -/
def StartsNumber : Text → Prop
  | c :: t => isDigit c = true ∨ c = minus ∧ ∀ d ∈ t.head?, isDigit d = true
  | [] => False

theorem word?_eq_none {t : Text} (h : StartsNumber t) : word? t = none := by
  rw [word?, Option.map_eq_none_iff, List.find?_eq_none]
  intro w hw hprefix
  obtain ⟨a, b, r, hab, ha, hb⟩ := exists_word_eq hw
  obtain ⟨t, rfl⟩ := List.isPrefixOf_iff_prefix.1 hprefix
  rw [hab] at h
  rcases h with h | ⟨h, hd⟩
  · rw [ha] at h
    cases h
  · have := hd b rfl
    rw [hb h] at this
    cases this

/-- The piece that a number is: its value, if it is not too long to be read. -/
def Literal.token (l : Literal) : Token :=
  match l.value with
  | .ok v => .scalar v
  | .error e => .broken e

theorem piece_of_number {c : Nat} {l : Literal} (p : Nat) (h : StartsNumber (c :: (u ++ rest)))
    (hs : scanNumber (c :: (u ++ rest)) = some (l, rest)) :
    piece p c (u ++ rest) = (l.token, u.length) := by
  have hc : c = minus ∨ 0x30 ≤ c ∧ c ≤ 0x39 := by
    rcases h with h | h
    · exact .inr (by simpa [isDigit] using h)
    · exact .inl h.1
  have hne : c ≠ openBracket ∧ c ≠ closeBracket ∧ c ≠ openBrace ∧ c ≠ closeBrace ∧
      c ≠ Ascii.comma ∧ c ≠ Ascii.colon ∧ c ≠ quote := by
    simp only [minus] at hc
    refine ⟨?_, ?_, ?_, ?_, ?_, ?_, ?_⟩ <;> rintro rfl <;> revert hc <;> decide
  obtain ⟨h₁, h₂, h₃, h₄, h₅, h₆, h₇⟩ := hne
  rw [piece, if_neg h₁, if_neg h₂, if_neg h₃, if_neg h₄, if_neg h₅, if_neg h₆, if_neg h₇,
    word?_eq_none h, hs, Literal.token]
  simp only [List.length_append, Nat.add_sub_cancel]
  cases l.value <;> rfl

theorem NumberNotation.exists_piece {t : Text} {l : Literal} (h : NumberNotation t l)
    (hr : EndsNumber rest) : ∃ c u, t = c :: u ∧ isSpace c = false ∧
      ∀ p, piece p c (u ++ rest) = (l.token, u.length) := by
  have hs := h.scan hr
  obtain ⟨c, u, rfl, hc⟩ := h.exists_cons
  have hstart : StartsNumber (c :: (u ++ rest)) := by
    refine hc.imp_right ?_
    rintro ⟨hminus, d, v, rfl, hdigit⟩
    refine ⟨hminus, fun x hx => ?_⟩
    cases hx
    exact hdigit
  refine ⟨c, u, rfl, ?_, fun p => piece_of_number p hstart hs⟩
  rcases hc with hc | ⟨rfl, -⟩
  · exact isSpace_of_isDigit hc
  · rfl

/-- **A number is read as its value**, where a value is due. -/
theorem takes_number {t : Text} {l : Literal} {v : Value} (h : NumberNotation t l)
    (hr : EndsNumber rest) (hd : due.AwaitsValue) (hv : l.value = .ok v) :
    Takes limit t (due, frames) (.after v, frames) rest := by
  obtain ⟨c, u, rfl, hc, hp⟩ := h.exists_piece hr
  exact takes_scalar hc hd fun p => by rw [hp, Literal.token, hv]

/-- **The text of an integer is read as that integer**, if it is not too long. -/
theorem takes_int {n : Int} (hn : Value.isLong n = false) (hr : EndsNumber rest)
    (hd : due.AwaitsValue) :
    Takes limit (intText n) (due, frames) (.after (.int n), frames) rest := by
  refine takes_number (numberNotation_intText n) hr hd ?_
  rw [Literal.value_integer_eq_ok, signed_natDigits_natAbs]
  exact ⟨length_natDigits_le hn, rfl⟩

/-- **The text of a finite double is read as that double.** -/
theorem takes_float {x : Float} (hx : x.isFinite = true) (hr : EndsNumber rest)
    (hd : due.AwaitsValue) :
    Takes limit (floatText x) (due, frames) (.after (.float x), frames) rest := by
  obtain ⟨negative, whole, fraction, exponent, ht, hw, hf, he, hback⟩ := floatText_eq_spelled hx
  rw [ht]
  refine takes_number (numberNotation_spelled plainLayout negative exponent hw hf) hr hd ?_
  rw [Literal.ofParts, he, if_neg Bool.false_ne_true, Literal.value, hback]

/-! ## Strings -/

theorem piece_string {t : Text} (ht : IsSound t) (p : Nat) :
    piece p quote (t.flatMap writeChar ++ [quote] ++ rest) =
      (.string t, (t.flatMap writeChar ++ [quote]).length) := by
  have hs := scanString_text p ht (p + 1) rest
  rw [List.append_assoc, List.singleton_append, List.length_append, List.length_singleton]
  rw [piece, if_neg (by decide), if_neg (by decide), if_neg (by decide), if_neg (by decide),
    if_neg (by decide), if_neg (by decide), if_pos rfl, hs]
  simp only
  congr 1
  omega

/-- **The text of a text is read as that text**, where a value is due. -/
theorem takes_text {t : Text} (ht : IsSound t) (hd : due.AwaitsValue) :
    Takes limit (writeString t) (due, frames) (.after (.text t), frames) rest :=
  takes_piece rfl fun p => ⟨_, piece_string ht p, fun _ => step_of_awaitsValue hd (by simp)⟩

theorem takes_key {members : List (Text × Value)} {k : Text} (hk : IsSound k)
    (hd : due = .name members ∨ due = .firstName ∧ members = []) :
    Takes limit (writeString k ++ ": ") (due, frames) (.value, .object members k :: frames)
      rest := by
  have hstring : Takes limit (writeString k) (due, frames) (.colon members k, frames)
      (": " ++ rest) := by
    refine takes_piece rfl fun p => ⟨_, piece_string hk p, fun _ => ?_⟩
    rcases hd with rfl | ⟨rfl, rfl⟩ <;> rfl
  have hcolon : Takes limit [Ascii.colon] (.colon members k, frames)
      (.value, .object members k :: frames) ([space] ++ rest) :=
    takes_piece rfl fun _ => ⟨.colon, rfl, fun _ => rfl⟩
  exact hstring.trans (hcolon.trans (takes_space _))

theorem takes_comma_item {v : Value} {items : List Value} :
    Takes limit ", " (.after v, .array items :: frames) (.value, .array (v :: items) :: frames)
      rest :=
  Takes.trans (u := [Ascii.comma]) (takes_piece rfl fun _ => ⟨.comma, rfl, fun _ => rfl⟩)
    (takes_space _)

theorem takes_comma_member {v : Value} {members : List (Text × Value)} {k : Text} :
    Takes limit ", " (.after v, .object members k :: frames) (.name ((k, v) :: members), frames)
      rest :=
  Takes.trans (u := [Ascii.comma]) (takes_piece rfl fun _ => ⟨.comma, rfl, fun _ => rfl⟩)
    (takes_space _)

theorem takes_closeArray {v : Value} {items : List Value} :
    Takes limit "]" (.after v, .array items :: frames) (.after (.list (v :: items).reverse), frames)
      rest :=
  takes_piece (u := []) rfl fun _ => ⟨.closeArray, rfl, fun _ => rfl⟩

theorem takes_emptyArray {items : List Value} :
    Takes limit "]" (.firstItem, .array items :: frames) (.after (.list []), frames) rest :=
  takes_piece (u := []) rfl fun _ => ⟨.closeArray, rfl, fun _ => rfl⟩

theorem takes_closeObject {v : Value} {members : List (Text × Value)} {k : Text} :
    Takes limit "\x7d" (.after v, .object members k :: frames)
      (.after (.object (Members.ofPairs ((k, v) :: members).reverse)), frames) rest :=
  takes_piece (u := []) rfl fun _ => ⟨.closeObject, rfl, fun _ => rfl⟩

theorem takes_emptyObject :
    Takes limit "\x7d" (.firstName, frames) (.after (.object []), frames) rest :=
  takes_piece (u := []) rfl fun _ => ⟨.closeObject, rfl, fun _ => rfl⟩

theorem takes_openArray (hd : due.AwaitsValue) (hl : frames.length < limit) :
    Takes limit "[" (due, frames) (.firstItem, .array [] :: frames) rest := by
  refine takes_piece (u := []) rfl fun _ => ⟨.openArray, rfl, fun _ => ?_⟩
  rw [step_of_awaitsValue hd (by simp)]
  exact if_pos hl

theorem takes_openObject (hd : due.AwaitsValue) (hl : frames.length < limit) :
    Takes limit "\x7b" (due, frames) (.firstName, frames) rest := by
  refine takes_piece (u := []) rfl fun _ => ⟨.openObject, rfl, fun _ => ?_⟩
  rw [step_of_awaitsValue hd (by simp)]
  exact if_pos hl

end Pieces

/-! ## Values -/

theorem endsNumber_comma (t : Text) : EndsNumber (", " ++ t) := fun c hc => by
  cases hc
  decide

theorem endsNumber_closeBracket (t : Text) : EndsNumber ("]" ++ t) := fun c hc => by
  cases hc
  decide

theorem endsNumber_closeBrace (t : Text) : EndsNumber ("\x7d" ++ t) := fun c hc => by
  cases hc
  decide

theorem endsNumber_nil : EndsNumber [] := fun _ hc => by cases hc

theorem eq_of_isSpace {c : CodePoint} (h : isSpace c = true) :
    c = space ∨ c = tab ∨ c = lineFeed ∨ c = carriageReturn := by
  simpa [isSpace, or_assoc] using h

theorem endsNumber_of_isSpace {t : Text} (h : ∀ c ∈ t.head?, isSpace c = true) : EndsNumber t := by
  intro c hc
  rcases eq_of_isSpace (h c hc) with rfl | rfl | rfl | rfl <;> decide

section Values

variable {limit : Nat}

-- The induction is on values, items and members at once. What follows the text is arbitrary, so that
-- the texts of the parts can be put together; each container takes one level of the depth.
mutual

/-- What is written of a value is read as that value, wherever one may come. -/
theorem takes_value : ∀ (v : Value) (t : Text) {room : Nat}, writeTo room v = .ok t → v.Legible →
    ∀ (due : Due) (frames : List Frame) (rest : Text), due.AwaitsValue → EndsNumber rest →
      frames.length + v.depth ≤ limit → Takes limit t (due, frames) (.after v, frames) rest
  | .null, _ => by
    rintro h - due frames rest hd - -
    cases h
    exact takes_null hd
  | .bool b, _ => by
    rintro h - due frames rest hd - -
    cases h
    exact takes_bool b hd
  | .int n, _ => by
    rintro h - due frames rest hd hr -
    rw [writeTo] at h
    split at h
    · cases h
    · rename_i hn
      cases h
      exact takes_int (by simpa using hn) hr hd
  | .float x, _ => by
    rintro h - due frames rest hd hr -
    rw [writeTo] at h
    split at h
    · rename_i hx
      cases h
      exact takes_float hx hr hd
    · cases h
  | .text t, _ => by
    rintro h hl due frames rest hd - -
    cases h
    exact takes_text hl hd
  | .bytes b, _ => by
    rintro h
    cases h
  | .list [], t => by
    rintro h - due frames rest hd - hdepth
    obtain ⟨ts, hts, rfl⟩ := writeTo_list_ok h
    cases hts
    rw [Value.depth] at hdepth
    exact Takes.trans (takes_openArray hd (by omega)) takes_emptyArray
  | .list (x :: xs), t => by
    rintro h hl due frames rest hd - hdepth
    obtain ⟨ts, hts, rfl⟩ := writeTo_list_ok h
    rw [Value.depth] at hdepth
    rw [List.append_assoc]
    exact (takes_openArray hd (by omega)).trans
      (takes_items (x :: xs) ts hts hl (by simp) .firstItem [] frames rest trivial (by omega))
  | .object [], t => by
    rintro h - due frames rest hd - hdepth
    obtain ⟨ts, hts, rfl⟩ := writeTo_object_ok h
    cases hts
    rw [Value.depth] at hdepth
    exact Takes.trans (takes_openObject hd (by omega)) takes_emptyObject
  | .object (m :: ms), t => by
    rintro h hl due frames rest hd - hdepth
    obtain ⟨ts, hts, rfl⟩ := writeTo_object_ok h
    rw [Value.depth] at hdepth
    rw [List.append_assoc, ← Members.ofPairs_of_nodup hl.1]
    exact (takes_openObject hd (by omega)).trans
      (takes_members (m :: ms) ts hts hl.2 (by simp) .firstName [] frames rest (.inr ⟨rfl, rfl⟩)
        (by omega))

/-- What is written of items is read as those items, after the ones read so far. -/
theorem takes_items : ∀ (xs : List Value) (ts : List Text) {room : Nat},
    writeItems room xs = .ok ts → Value.LegibleItems xs → xs ≠ [] →
    ∀ (due : Due) (items : List Value) (frames : List Frame) (rest : Text), due.AwaitsValue →
      frames.length + Value.depthItems xs < limit →
      Takes limit (Text.joinWith ", " ts ++ "]") (due, .array items :: frames)
        (.after (.list (items.reverse ++ xs)), frames) rest
  | [], _ => fun _ _ hne => absurd rfl hne
  | [x], ts => by
    rintro h hl - due items frames rest hd hdepth
    obtain ⟨t, ts, ht, hts, rfl⟩ := writeItems_cons_ok h
    cases hts
    rw [Value.depthItems] at hdepth
    have hx : Takes limit t (due, .array items :: frames) (.after x, .array items :: frames)
        ("]" ++ rest) :=
      takes_value x t ht hl.1 due _ _ hd (endsNumber_closeBracket rest)
        (by rw [List.length_cons]; omega)
    rw [← List.reverse_cons]
    exact hx.trans takes_closeArray
  | x :: y :: ys, ts => by
    rintro h hl - due items frames rest hd hdepth
    obtain ⟨t, ts, ht, hts, rfl⟩ := writeItems_cons_ok h
    obtain ⟨_, _, -, -, hcons⟩ := writeItems_cons_ok hts
    rw [Value.depthItems] at hdepth
    have hx : Takes limit t (due, .array items :: frames) (.after x, .array items :: frames)
        (", " ++ (Text.joinWith ", " ts ++ "]") ++ rest) :=
      takes_value x t ht hl.1 due _ _ hd (endsNumber_comma _) (by rw [List.length_cons]; omega)
    have hy := takes_items (y :: ys) ts hts hl.2 (by simp) .value (x :: items) frames rest trivial
      (by omega)
    rw [List.reverse_cons, List.append_assoc, List.singleton_append] at hy
    rw [hcons, Text.joinWith_cons_cons, ← hcons, List.append_assoc, List.append_assoc]
    exact hx.trans (takes_comma_item.trans hy)

/-- What is written of members is read as those members, after the ones read so far. -/
theorem takes_members : ∀ (ms : List (Text × Value)) (ts : List Text) {room : Nat},
    writeMembers room ms = .ok ts → Value.LegibleMembers ms → ms ≠ [] →
    ∀ (due : Due) (members : List (Text × Value)) (frames : List Frame) (rest : Text),
      due = .name members ∨ due = .firstName ∧ members = [] →
      frames.length + Value.depthMembers ms < limit →
      Takes limit (Text.joinWith ", " ts ++ "\x7d") (due, frames)
        (.after (.object (Members.ofPairs (members.reverse ++ ms))), frames) rest
  | [], _ => fun _ _ hne => absurd rfl hne
  | [(k, v)], ts => by
    rintro h hl - due members frames rest hd hdepth
    obtain ⟨t, ts, ht, hts, rfl⟩ := writeMembers_cons_ok h
    cases hts
    rw [Value.depthMembers] at hdepth
    have hv : Takes limit t (.value, .object members k :: frames)
        (.after v, .object members k :: frames) ("\x7d" ++ rest) :=
      takes_value v t ht hl.2.1 .value _ _ trivial (endsNumber_closeBrace rest)
        (by rw [List.length_cons]; omega)
    rw [← List.reverse_cons]
    exact ((takes_key hl.1 hd).trans hv).trans takes_closeObject
  | (k, v) :: n :: ns, ts => by
    rintro h hl - due members frames rest hd hdepth
    obtain ⟨t, ts, ht, hts, rfl⟩ := writeMembers_cons_ok h
    obtain ⟨_, _, -, -, hcons⟩ := writeMembers_cons_ok hts
    rw [Value.depthMembers] at hdepth
    have hv : Takes limit t (.value, .object members k :: frames)
        (.after v, .object members k :: frames)
        (", " ++ (Text.joinWith ", " ts ++ "\x7d") ++ rest) :=
      takes_value v t ht hl.2.1 .value _ _ trivial (endsNumber_comma _)
        (by rw [List.length_cons]; omega)
    have hn := takes_members (n :: ns) ts hts hl.2.2 (by simp) (.name ((k, v) :: members))
      ((k, v) :: members) frames rest (.inl rfl) (by omega)
    rw [List.reverse_cons, List.append_assoc, List.singleton_append] at hn
    rw [hcons, Text.joinWith_cons_cons, ← hcons, List.append_assoc, List.append_assoc]
    exact ((takes_key hl.1 hd).trans hv).trans (takes_comma_member.trans hn)

end

end Values

/-! ## Whole texts -/

theorem run_byteOrderMark (limit : Nat) (dialect : Dialect) (stop p : Nat) (u : Text) (v : Value) :
    run limit dialect stop .value [] (lexFrom p 0 (0xFEFF :: u)) ≠ .ok v := by
  have hpiece : lexFrom p 0 (0xFEFF :: u) = ⟨.stray, p⟩ :: lexFrom (p + 1) 0 u := rfl
  rw [hpiece]
  exact fun h => by cases h

/-- A text that takes the reader to a value is read as that value, in any dialect. -/
theorem readTo_of_takes {limit : Nat} {t : Text} {v : Value}
    (h : Takes limit t (.value, []) (.after v, []) []) (dialect : Dialect) :
    readTo limit dialect t = .ok v := by
  have hrun : run limit dialect t.length .value [] (lex t) = .ok v := by
    obtain ⟨q, hq⟩ := h dialect t.length 0
    rw [List.append_nil] at hq
    exact hq
  rw [readTo, if_neg, hrun]
  intro hmark
  obtain ⟨c, u, rfl⟩ : ∃ c u, t = c :: u := by
    cases t with
    | nil => cases hmark
    | cons c u => exact ⟨c, u, rfl⟩
  cases hmark
  exact run_byteOrderMark limit dialect _ 0 u v hrun

/-- **The text of a legible value is read as that value**, in any dialect, by a reader that goes
deep enough. -/
theorem readTo_write {room : Nat} {v : Value} {t : Text} (h : writeTo room v = .ok t)
    (hl : v.Legible) {limit : Nat} (hdepth : v.depth ≤ limit) (dialect : Dialect) :
    readTo limit dialect t = .ok v :=
  readTo_of_takes (takes_value v t h hl .value [] [] trivial endsNumber_nil (by simpa using hdepth))
    dialect

/-- **A number with white space around it is read as its value.** -/
theorem readTo_number {before t after : Text} {l : Literal} {v : Value} (h : NumberNotation t l)
    (hv : l.value = .ok v) (hb : ∀ c ∈ before, isSpace c = true)
    (ha : ∀ c ∈ after, isSpace c = true) (limit : Nat) (dialect : Dialect) :
    readTo limit dialect (before ++ (t ++ after)) = .ok v := by
  have hend : EndsNumber (after ++ []) := by
    rw [List.append_nil]
    exact endsNumber_of_isSpace fun c hc => ha c (List.mem_of_mem_head? hc)
  have hnumber : Takes limit t (.value, []) (.after v, []) (after ++ []) :=
    takes_number h hend trivial hv
  exact readTo_of_takes
    ((takes_spaces _ hb).trans (hnumber.trans (takes_spaces _ ha))) dialect

end Json

end DeltaBridge
