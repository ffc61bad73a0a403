import DeltaBridge.Proofs.Json.Grammar
import DeltaBridge.Proofs.Json.RoundTrip

/-!
# Cutting a text into symbols

The pieces into which a text is cut are the symbols of the grammar, unless something that starts no
piece, or a string that goes wrong, is among them. The other way round, symbols with white space
around them are found again, if their leaves do not touch.

* `Json.scanString_chars`, `Json.scanString_spec`: the strings that are found;
* `Json.Symbol.token`: the piece that a symbol is; `Json.SymbolNotation.exists_piece`,
  `Json.piece_spec`: single pieces;
* **`Json.exists_spaced`**: the pieces are symbols; **`Json.Spaced.tokens`**: symbols are pieces.
-/

namespace DeltaBridge.Json

open Ascii

/-! ## Codes and escapes -/

section Escapes

variable {u r : Text} {c low : Nat}

theorem code?_of_codeNotation (h : CodeNotation u c) (r : Text) : code? (u ++ r) = some c := by
  cases h with
  | digits ha hb hc hd =>
    simp only [List.cons_append, List.nil_append, code?, ha, hb, hc, hd, Option.bind_eq_bind,
      Option.bind_some, Option.pure_def]

theorem CodeNotation.length_eq (h : CodeNotation u c) : u.length = 4 := by
  cases h
  rfl

theorem codeEscape?_of_codeNotation (h : CodeNotation u c) (hr : r ≠ []) :
    codeEscape? (u ++ r) = some c := by
  rw [codeEscape?, ← h.length_eq, List.drop_left, if_neg (by simpa using hr),
    code?_of_codeNotation h]

theorem code?_spec (h : code? r = some c) : ∃ u r', r = u ++ r' ∧ CodeNotation u c := by
  unfold code? at h
  split at h
  · rename_i a₁ a₂ a₃ a₄ r'
    simp only [Option.bind_eq_bind, Option.bind_eq_some_iff, Option.pure_def,
      Option.some.injEq] at h
    obtain ⟨w, ha, x, hb, y, hc, z, hd, rfl⟩ := h
    exact ⟨[a₁, a₂, a₃, a₄], r', rfl, .digits ha hb hc hd⟩
  · cases h

theorem codeEscape?_spec (h : codeEscape? r = some c) : ∃ u r', r = u ++ r' ∧ CodeNotation u c := by
  unfold codeEscape? at h
  split at h
  · cases h
  · exact code?_spec h

theorem CodeNotation.not_mem (h : CodeNotation u c) {x : CodePoint} (hx : hexValue? x = none) :
    x ∉ u := by
  cases h with
  | digits ha hb hc hd =>
    simp only [List.mem_cons, List.not_mem_nil, or_false]
    rintro (rfl | rfl | rfl | rfl)
    · cases hx.symm.trans ha
    · cases hx.symm.trans hb
    · cases hx.symm.trans hc
    · cases hx.symm.trans hd

theorem lowEscape?_of_startsLow {t : Text} (h : StartsLow t) (r : Text) :
    ∃ low, lowEscape? (t ++ quote :: r) = some low := by
  cases h with
  | @escape u t low hu hl =>
    refine ⟨low, ?_⟩
    rw [List.cons_append, List.cons_append, List.append_assoc, lowEscape?,
      codeEscape?_of_codeNotation hu (by simp)]
    exact if_pos hl

theorem exists_append_of_quote_not_mem {t : Text} (hu : quote ∉ u) {r' : Text}
    (h : t ++ quote :: r = u ++ r') : ∃ t', t = u ++ t' := by
  rcases List.append_eq_append_iff.1 h with ⟨v, rfl, hv⟩ | ⟨v, rfl, -⟩
  · cases v with
    | nil => exact ⟨[], by simp⟩
    | cons d v =>
      rw [List.cons_append] at hv
      rw [(List.cons.inj hv).1] at hu
      simp at hu
  · exact ⟨v, rfl⟩

theorem lowEscape?_spec (h : lowEscape? r = some low) :
    ∃ u r', r = backslash :: 0x75 :: (u ++ r') ∧ CodeNotation u low ∧
      isLowSurrogate low = true := by
  unfold lowEscape? at h
  split at h
  case h_2 => cases h
  split at h
  case h_2 => cases h
  rename_i c hc
  split at h
  case isFalse => cases h
  rename_i hlow
  cases h
  obtain ⟨u, r', rfl, hu⟩ := codeEscape?_spec hc
  exact ⟨u, r', rfl, hu, hlow⟩

theorem startsLow_of_lowEscape? {t : Text} (h : lowEscape? (t ++ quote :: r) = some low) :
    StartsLow t := by
  obtain ⟨u, r', hr, hu, hlow⟩ := lowEscape?_spec h
  obtain ⟨t', rfl⟩ := exists_append_of_quote_not_mem (u := backslash :: 0x75 :: u)
    (by simpa using hu.not_mem rfl) hr
  exact .escape hu hlow

theorem letterEscape?_eq_some_iff {x : CodePoint} :
    letterEscape? c = some x ↔ (c, x) ∈ letterEscapes := by
  constructor
  · intro h
    unfold letterEscape? at h
    split at h
    · rename_i hc
      cases h
      rcases hc with rfl | rfl | rfl <;> decide
    iterate 5
      split at h
      · subst c
        cases h
        decide
    cases h
  · intro h
    have hall : ∀ e ∈ letterEscapes, letterEscape? e.1 = some e.2 := by decide
    exact hall _ h

theorem escape_letter {x : CodePoint} (h : (c, x) ∈ letterEscapes) (r : Text) :
    escape (c :: r) = .ok (x, 1) := by
  have hall : ∀ e ∈ letterEscapes, ∀ r, escape (e.1 :: r) = .ok (e.2, 1) := by
    simp only [letterEscapes, List.forall_mem_cons, List.not_mem_nil, IsEmpty.forall_iff,
      implies_true, and_true]
    exact ⟨fun _ => rfl, fun _ => rfl, fun _ => rfl, fun _ => rfl, fun _ => rfl, fun _ => rfl,
      fun _ => rfl, fun _ => rfl⟩
  exact hall _ h r

theorem escape_code (hu : CodeNotation u c) (hr : r ≠ [])
    (h : isHighSurrogate c = true → lowEscape? r = none) :
    escape (0x75 :: (u ++ r)) = .ok (c, 5) := by
  rw [escape, codeEscape?_of_codeNotation hu hr]
  simp only
  rw [← hu.length_eq, List.drop_left]
  cases hs : isHighSurrogate c with
  | false => rfl
  | true => rw [if_pos rfl, h hs]

theorem escape_codes {w : Text} (hu : CodeNotation u c) (hw : CodeNotation w low)
    (hc : isHighSurrogate c = true) (hl : isLowSurrogate low = true) (hr : r ≠ []) :
    escape (0x75 :: (u ++ backslash :: 0x75 :: (w ++ r))) = .ok (joinSurrogates c low, 11) := by
  have hlow : lowEscape? (backslash :: 0x75 :: (w ++ r)) = some low := by
    rw [lowEscape?, codeEscape?_of_codeNotation hw hr]
    exact if_pos hl
  rw [escape, codeEscape?_of_codeNotation hu (by simp)]
  simp only
  rw [← hu.length_eq, List.drop_left, hc, if_pos rfl, hlow]

end Escapes

/-! ## Strings -/

section Scanning

variable {t s : Text}

theorem scanString_escaped {start : Nat} {x : CodePoint} {u r : Text}
    (hx : escape (u ++ (t ++ quote :: r)) = .ok (x, u.length))
    (ht : ∀ p, scanString start p 0 (t ++ quote :: r) = .ok (s, p + t.length + 1)) (p : Nat) :
    scanString start p 0 (backslash :: (u ++ t) ++ quote :: r) =
      .ok (x :: s, p + (backslash :: (u ++ t)).length + 1) := by
  have hscan := scanString_escape start p hx
  rw [ht] at hscan
  rw [List.cons_append, List.append_assoc]
  refine hscan.trans ?_
  simp only [Except.map, List.length_cons, List.length_append]
  congr 2
  omega

/-- **The characters of a string are found**, up to the quote after them. -/
theorem scanString_chars (h : CharsNotation t s) (start p : Nat) (r : Text) :
    scanString start p 0 (t ++ quote :: r) = .ok (s, p + t.length + 1) := by
  induction h generalizing p with
  | nil => rfl
  | plain quoted escaped control rest ih =>
    rw [List.cons_append, scanString, if_neg quoted, if_neg escaped, if_neg (Nat.not_lt.2 control),
      ih, List.length_cons]
    simp only [Except.map]
    congr 2
    omega
  | @letter c x t s hx rest ih =>
    have hescape : escape ([c] ++ (t ++ quote :: r)) = .ok (x, [c].length) := escape_letter hx _
    exact scanString_escaped hescape ih p
  | @code u t s c hu single rest ih =>
    have hsingle : isHighSurrogate c = true → lowEscape? (t ++ quote :: r) = none := fun hc => by
      cases hlow : lowEscape? (t ++ quote :: r) with
      | none => rfl
      | some low => exact absurd (startsLow_of_lowEscape? hlow) (single hc)
    have hescape : escape ((0x75 :: u) ++ (t ++ quote :: r)) = .ok (c, (0x75 :: u).length) := by
      rw [List.length_cons, hu.length_eq]
      exact escape_code hu (by simp) hsingle
    exact scanString_escaped hescape ih p
  | @pair u w t s high low hu hw isHigh isLow rest ih =>
    have hescape : escape ((0x75 :: (u ++ backslash :: 0x75 :: w)) ++ (t ++ quote :: r)) =
        .ok (joinSurrogates high low, (0x75 :: (u ++ backslash :: 0x75 :: w)).length) := by
      rw [List.length_cons, List.length_append, List.length_cons, List.length_cons, hu.length_eq,
        hw.length_eq, List.cons_append, List.append_assoc, List.cons_append, List.cons_append]
      exact escape_codes hu hw isHigh isLow (by simp)
    have happend : 0x75 :: (u ++ backslash :: 0x75 :: w) ++ t =
        0x75 :: (u ++ backslash :: 0x75 :: (w ++ t)) := by simp
    have hscan := scanString_escaped hescape ih p
    rwa [happend] at hscan

/-- An escape that is found, with the text `u` after its backslash, is one of the notation. -/
theorem charsNotation_escape {u rest : Text} {x : CodePoint}
    (h : escape (u ++ (t ++ quote :: rest)) = .ok (x, u.length)) (ht : CharsNotation t s) :
    CharsNotation (backslash :: (u ++ t)) (x :: s) := by
  generalize hr : u ++ (t ++ quote :: rest) = r at h
  generalize hn : u.length = n at h
  unfold escape at h
  split at h
  · cases h
  · rename_i r
    split at h
    · cases h
    rename_i high hhigh
    obtain ⟨v, r', rfl, hv⟩ := codeEscape?_spec hhigh
    rw [← hv.length_eq, List.drop_left] at h
    split at h
    · -- a pair of escapes
      rename_i low hlow
      obtain ⟨rfl, rfl⟩ := Prod.mk.inj (Except.ok.inj h)
      split at hlow
      case isFalse => cases hlow
      rename_i hs
      obtain ⟨w, r'', rfl, hw, hl⟩ := lowEscape?_spec hlow
      have hsplit : u ++ (t ++ quote :: rest) = 0x75 :: (v ++ backslash :: 0x75 :: w) ++ r'' := by
        rw [hr]
        simp
      obtain ⟨rfl, rfl⟩ := List.append_inj hsplit (by simp [hn, hv.length_eq, hw.length_eq])
      rw [List.cons_append, List.append_assoc, List.cons_append, List.cons_append]
      exact .pair hv hw hs hl ht
    · rename_i hsingle
      cases h
      have hsplit : u ++ (t ++ quote :: rest) = 0x75 :: v ++ r' := hr
      obtain ⟨rfl, rfl⟩ := List.append_inj hsplit (by simp [hn, hv.length_eq])
      refine .code hv (fun hs hlow => ?_) ht
      obtain ⟨low, hlow⟩ := lowEscape?_of_startsLow hlow rest
      rw [if_pos hs, hlow] at hsingle
      cases hsingle
  · rename_i c r' hc
    split at h
    · rename_i y hy
      cases h
      have hsplit : u ++ (t ++ quote :: rest) = [c] ++ r' := hr
      obtain ⟨rfl, -⟩ := List.append_inj hsplit (by simp [hn])
      exact .letter (letterEscape?_eq_some_iff.1 hy) ht
    · cases h

theorem exists_of_map_eq_ok {ε α β : Type} {f : α → β} {x : Except ε α} {b : β}
    (h : x.map f = .ok b) : ∃ a, x = .ok a ∧ f a = b := by
  cases x with
  | error e => cases h
  | ok a => exact ⟨a, rfl, Except.ok.inj h⟩

/-- What is found is characters of the notation, up to a quote after them. -/
theorem scanString_spec {start p k stop : Nat} {r : Text}
    (h : scanString start p k r = .ok (s, stop)) :
    ∃ u t rest, r = u ++ (t ++ quote :: rest) ∧ u.length = k ∧ CharsNotation t s ∧
      stop = p + k + t.length + 1 := by
  induction r generalizing p k s stop with
  | nil => cases k <;> cases h
  | cons c r ih =>
    cases k with
    | succ k =>
      obtain ⟨u, t, rest, rfl, rfl, ht, rfl⟩ := ih h
      exact ⟨c :: u, t, rest, rfl, rfl, ht, by omega⟩
    | zero =>
      rw [scanString] at h
      split at h
      · subst c
        cases h
        exact ⟨[], [], r, rfl, rfl, .nil, rfl⟩
      rename_i hq
      split at h
      · subst c
        split at h
        · cases h
        · rename_i x n hx
          obtain ⟨⟨s', stop'⟩, hscan, hfound⟩ := exists_of_map_eq_ok h
          cases hfound
          obtain ⟨u, t, rest, rfl, rfl, ht, rfl⟩ := ih hscan
          refine ⟨[], backslash :: (u ++ t), rest, by simp, rfl, charsNotation_escape hx ht, ?_⟩
          rw [List.length_cons, List.length_append]
          omega
      rename_i hb
      split at h
      · cases h
      rename_i hcontrol
      obtain ⟨⟨s', stop'⟩, hscan, hfound⟩ := exists_of_map_eq_ok h
      cases hfound
      obtain ⟨u, t, rest, rfl, hu, ht, rfl⟩ := ih hscan
      obtain rfl := List.length_eq_zero_iff.1 hu
      refine ⟨[], c :: t, rest, rfl, rfl, .plain hq hb (Nat.not_lt.1 hcontrol) ht, ?_⟩
      rw [List.length_cons]
      omega

end Scanning

/-! ## Single pieces -/

/-- The piece that a leaf is. -/
def Leaf.token : Leaf → Token
  | .null => .scalar .null
  | .bool b => .scalar (.bool b)
  | .number l => l.token
  | .constant c => .constant c
  | .text t => .string t

/-- The piece that a symbol is. -/
def Symbol.token : Symbol → Token
  | .openArray => .openArray
  | .closeArray => .closeArray
  | .openObject => .openObject
  | .closeObject => .closeObject
  | .comma => .comma
  | .colon => .colon
  | .leaf l => l.token

/-- The piece is a symbol, though perhaps an integer that is too long. -/
def Token.IsWhole : Token → Prop
  | .stray | .brokenString _ => False
  | _ => True

section Pieces

variable {u t rest : Text} {c : CodePoint} {k : Symbol} {token : Token} {n : Nat}

theorem LeafNotation.exists_piece {l : Leaf} (h : LeafNotation u l) (hr : EndsNumber rest) :
    ∃ c u', u = c :: u' ∧ isSpace c = false ∧
      ∀ p, piece p c (u' ++ rest) = (l.token, u'.length) := by
  cases h with
  | null => exact ⟨0x6E, [0x75, 0x6C, 0x6C], rfl, rfl, fun _ => rfl⟩
  | bool b =>
    cases b with
    | true => exact ⟨0x74, [0x72, 0x75, 0x65], rfl, rfl, fun _ => rfl⟩
    | false => exact ⟨0x66, [0x61, 0x6C, 0x73, 0x65], rfl, rfl, fun _ => rfl⟩
  | number h => exact h.exists_piece hr
  | constant c => cases c <;> exact ⟨_, _, rfl, rfl, fun _ => rfl⟩
  | @text t s h =>
    refine ⟨quote, t ++ [quote], rfl, rfl, fun p => ?_⟩
    have hs := scanString_chars h p (p + 1) rest
    rw [List.append_assoc, List.singleton_append, piece, if_neg (by decide), if_neg (by decide),
      if_neg (by decide), if_neg (by decide), if_neg (by decide), if_neg (by decide), if_pos rfl,
      hs, List.length_append, List.length_singleton]
    simp only [Leaf.token]
    congr 1
    omega

/-- A symbol before what no number goes on with is a piece that starts with no white space. -/
theorem SymbolNotation.exists_piece (h : SymbolNotation u k) (hr : k.IsMark ∨ EndsNumber rest) :
    ∃ c u', u = c :: u' ∧ isSpace c = false ∧
      ∀ p, piece p c (u' ++ rest) = (k.token, u'.length) := by
  cases h with
  | leaf h => exact h.exists_piece (hr.resolve_left id)
  | openArray | closeArray | openObject | closeObject | comma | colon =>
    exact ⟨_, [], rfl, rfl, fun _ => rfl⟩

theorem exists_leaf_of_mem_words {w : Text × Token} (h : w ∈ words) :
    ∃ l, LeafNotation w.1 l ∧ l.token = w.2 := by
  simp only [words, List.mem_cons, List.not_mem_nil, or_false] at h
  rcases h with rfl | rfl | rfl | rfl | rfl | rfl
  · exact ⟨.null, .null, rfl⟩
  · exact ⟨.bool true, .bool true, rfl⟩
  · exact ⟨.bool false, .bool false, rfl⟩
  · exact ⟨.constant .nan, .constant .nan, rfl⟩
  · exact ⟨.constant .infinity, .constant .infinity, rfl⟩
  · exact ⟨.constant .negativeInfinity, .constant .negativeInfinity, rfl⟩

theorem word?_spec (h : word? t = some (token, n)) :
    ∃ u rest l, t = u ++ rest ∧ u.length = n ∧ u ≠ [] ∧ LeafNotation u l ∧ l.token = token := by
  obtain ⟨w, hfound, hw⟩ := Option.map_eq_some_iff.1 h
  cases hw
  have hmem := List.mem_of_find?_eq_some hfound
  have hprefix : w.1.isPrefixOf t = true := (List.find?_eq_some_iff_append.1 hfound).1
  obtain ⟨rest, hrest⟩ := List.isPrefixOf_iff_prefix.1 hprefix
  obtain ⟨l, hl, htoken⟩ := exists_leaf_of_mem_words hmem
  obtain ⟨a, b, r, hab, -⟩ := exists_word_eq hmem
  exact ⟨w.1, rest, l, hrest.symm, rfl, by simp [hab], hl, htoken⟩

/-- A piece is a symbol at the start of the text, or it goes wrong. -/
theorem piece_spec {position : Nat} (h : piece position c t = (token, n)) (hw : token.IsWhole) :
    ∃ u rest k, c :: t = u ++ rest ∧ u.length = n + 1 ∧ SymbolNotation u k ∧ k.token = token := by
  unfold piece at h
  split at h
  · cases h
    exact ⟨[c], t, .openArray, rfl, rfl, by subst c; exact .openArray, rfl⟩
  split at h
  · cases h
    exact ⟨[c], t, .closeArray, rfl, rfl, by subst c; exact .closeArray, rfl⟩
  split at h
  · cases h
    exact ⟨[c], t, .openObject, rfl, rfl, by subst c; exact .openObject, rfl⟩
  split at h
  · cases h
    exact ⟨[c], t, .closeObject, rfl, rfl, by subst c; exact .closeObject, rfl⟩
  split at h
  · cases h
    exact ⟨[c], t, .comma, rfl, rfl, by subst c; exact .comma, rfl⟩
  split at h
  · cases h
    exact ⟨[c], t, .colon, rfl, rfl, by subst c; exact .colon, rfl⟩
  split at h
  · subst c
    split at h
    · rename_i s stop hs
      cases h
      obtain ⟨u, t', rest, rfl, hu, ht, hstop⟩ := scanString_spec hs
      obtain rfl := List.length_eq_zero_iff.1 hu
      refine ⟨quote :: (t' ++ [quote]), rest, .leaf (.text s), by simp, ?_, .leaf (.text ht), rfl⟩
      rw [List.length_cons, List.length_append, List.length_singleton]
      omega
    · cases h
      exact hw.elim
  split at h
  · rename_i hword
    cases h
    obtain ⟨u, rest, l, hu, rfl, hne, hl, htoken⟩ := word?_spec hword
    have hpos := List.length_pos_iff.2 hne
    exact ⟨u, rest, .leaf l, hu, by omega, .leaf hl, htoken⟩
  split at h
  · cases h
    exact hw.elim
  · rename_i l rest hs
    obtain ⟨u, hu, hl⟩ := NumberNotation.of_scan hs
    have hlen := congrArg List.length hu
    rw [List.length_cons, List.length_append] at hlen
    have hpos := List.length_pos_iff.2 hl.ne_nil
    have hpair : (l.token, t.length - rest.length) = (token, n) := by
      rw [← h, Literal.token]
      cases l.value <;> rfl
    cases hpair
    exact ⟨u, rest, .leaf (.number l), hu, by omega, .leaf (.number hl), rfl⟩

end Pieces

/-! ## Whole texts -/

section Texts

variable {t : Text} {ks : List Symbol}

theorem Spaced.cons_space {c : CodePoint} (hc : isSpace c = true) (h : Spaced ks t) :
    Spaced ks (c :: t) := by
  cases h with
  | nil space => exact .nil (List.forall_mem_cons.2 ⟨hc, space⟩)
  | @cons w u t k ks space symbol rest =>
    exact .cons (w := c :: w) (List.forall_mem_cons.2 ⟨hc, space⟩) symbol rest

/-- **The pieces of a text are symbols with white space around them**, if none goes wrong. -/
theorem exists_spaced (p k : Nat) (t : Text) (h : ∀ x ∈ lexFrom p k t, x.token.IsWhole) :
    ∃ ks, Spaced ks (t.drop k) ∧ (lexFrom p k t).map Lexeme.token = ks.map Symbol.token := by
  fun_induction lexFrom p k t with
  | case1 => exact ⟨[], .nil (by simp), rfl⟩
  | case2 p k c r ih => exact ih h
  | case3 p c r hc ih =>
    obtain ⟨ks, hks, hmap⟩ := ih h
    exact ⟨ks, hks.cons_space hc, hmap⟩
  | case4 p c r hc token n hp ih =>
    obtain ⟨hw, hr⟩ := List.forall_mem_cons.1 h
    obtain ⟨u, rest, k, hu, hlen, hk, rfl⟩ := piece_spec hp hw
    obtain ⟨ks, hks, hmap⟩ := ih hr
    have hrest : r.drop n = rest := by
      have hdrop : (c :: r).drop (n + 1) = r.drop n := rfl
      rw [← hdrop, hu, ← hlen, List.drop_left]
    rw [hrest] at hks
    refine ⟨k :: ks, ?_, by rw [List.map_cons, List.map_cons, hmap]⟩
    rw [List.drop_zero, hu]
    exact .cons (w := []) (by simp) hk hks

theorem Spaced.endsNumber (h : Spaced ks t) (hk : ∀ k ∈ ks.head?, k.IsMark) : EndsNumber t := by
  cases h with
  | nil space => exact endsNumber_of_isSpace fun c hc => space c (List.mem_of_mem_head? hc)
  | @cons w u t k ks space symbol rest =>
    cases w with
    | cons c w =>
      refine endsNumber_of_isSpace fun d hd => ?_
      cases hd
      exact space c List.mem_cons_self
    | nil =>
      have hmark := hk k rfl
      intro c hc
      cases symbol with
      | leaf _ => exact hmark.elim
      | openArray | closeArray | openObject | closeObject | comma | colon =>
        cases hc
        decide

theorem lexFrom_spaces (p : Nat) {w : Text} (hw : ∀ c ∈ w, isSpace c = true) (t : Text) :
    lexFrom p 0 (w ++ t) = lexFrom (p + w.length) 0 t := by
  induction w generalizing p with
  | nil => rfl
  | cons c w ih =>
    obtain ⟨hc, hw⟩ := List.forall_mem_cons.1 hw
    rw [List.cons_append, lexFrom, if_pos hc, ih (p + 1) hw, List.length_cons]
    congr 1
    omega

/-- **Symbols with white space around them are the pieces of the text**, if leaves do not touch. -/
theorem Spaced.tokens (h : Spaced ks t) (ha : Apart ks) (p : Nat) :
    (lexFrom p 0 t).map Lexeme.token = ks.map Symbol.token := by
  induction h generalizing p with
  | @nil w space =>
    have hw := lexFrom_spaces p space []
    rw [List.append_nil] at hw
    rw [hw]
    rfl
  | @cons w u t k ks space symbol rest ih =>
    have hend : k.IsMark ∨ EndsNumber t := by
      cases ks with
      | nil => exact .inr (rest.endsNumber (by simp))
      | cons l ls =>
        refine (List.isChain_cons_cons.1 ha).1.imp_right fun hl => rest.endsNumber fun m hm => ?_
        cases hm
        exact hl
    obtain ⟨c, u, rfl, hc, hp⟩ := symbol.exists_piece hend
    rw [lexFrom_spaces p space, List.cons_append, lexFrom, if_neg (by simp [hc]), hp]
    simp only [lexFrom_skip, List.map_cons, ih ha.tail]

end Texts

end DeltaBridge.Json
