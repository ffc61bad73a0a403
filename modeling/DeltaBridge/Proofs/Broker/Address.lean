import DeltaBridge.Broker.Address
import DeltaBridge.Proofs.Decimal.Shortest
import DeltaBridge.Proofs.Json.Number
import DeltaBridge.Proofs.Text.Blank
import DeltaBridge.Proofs.Text.Case
import DeltaBridge.Proofs.Text.Cut

/-!
# Addresses that are written are read back

The name of a host with a port, and a scheme before it, are read back from their text, whatever the
case of the letters and the blanks around it. And whatever text an address is read from, it has a host
and a port that can be connected to.

* `Location`: the name of a host, and a port that may be left out; `Location.text`,
  `Location.address`;
* `IsPlain`: a character that does not cut a URL, `Location.isPlain_of_mem_text`;
* `Location.hostAndPort_text`, `readPort?_natText`, `splitUrl_written`: the parts of a URL with a
  location; `authorityError?_of_plain`: an authority without anything special;
* `Address.url`, `Address.ofParts`: the URL of a text, and the address that its parts name,
  `Address.parse_eq`;
* `Address.parse_written`, `Address.parse_bare`: an address with a scheme and without;
  `Address.range_of_parse`: any address;
* **`Address.reads_back`**: all of this.
-/

namespace DeltaBridge

open Ascii Text

/-! ## Locations -/

/-- The character can occur in the name of a host: a letter, a digit, a full stop or a hyphen. -/
def isHostChar (c : CodePoint) : Bool := isLetter c || isDigit c || c == dot || c == minus

/-- The name of a host, and a port that may be left out. -/
structure Location where
  host : Text
  port : Option Nat
  host_ne_nil : host ≠ []
  isHostChar_host : ∀ c ∈ host, isHostChar c = true
  port_range : ∀ p ∈ port, 1 ≤ p ∧ p ≤ 65535

namespace Location

/-- The host, and the port after a colon in decimal notation. -/
def text (l : Location) : Text :=
  match l.port with
  | none => l.host
  | some p => l.host ++ colon :: natText p

/-- The address of the location in a scheme. -/
def address (l : Location) (k : Scheme) : Address :=
  ⟨l.host.map lowerAscii, l.port.getD k.port, k.isEncrypted⟩

end Location

/-! ## Characters -/

/-- The characters that cut a URL after its scheme, beside the colon, and those that do not count in
it. -/
def cutters : List CodePoint :=
  [tab, lineFeed, carriageReturn, hash, percent, slash, question, atSign, openBracket, closeBracket]

/-- A character of ASCII that cuts nothing but perhaps a port off a host, and is no blank. -/
structure IsPlain (c : Nat) : Prop where
  ascii : c < 0x80
  cuts : c ∉ cutters
  blank : isBlank c = false

theorem isLetter_iff {c : Nat} :
    isLetter c = true ↔ (0x41 ≤ c ∧ c ≤ 0x5A) ∨ (0x61 ≤ c ∧ c ≤ 0x7A) := by simp [isLetter]

theorem space_lt_of_isLetter {c : Nat} (h : isLetter c = true) : space < c := by
  rw [isLetter_iff] at h
  show 0x20 < c
  omega

theorem isDigit_iff {c : Nat} : isDigit c = true ↔ 0x30 ≤ c ∧ c ≤ 0x39 := by simp [isDigit]

theorem isPlain_of_isHostChar {c : Nat} (h : isHostChar c = true) : IsPlain c ∧ c ≠ colon := by
  have hc : c < 0x80 := by
    simp only [isHostChar, Bool.or_eq_true, isLetter_iff, isDigit_iff, beq_iff_eq] at h
    rcases h with ((h | h) | rfl) | rfl <;> first | omega | decide
  have hall : ∀ c < 0x80, isHostChar c = true → (c ∉ cutters ∧ isBlank c = false) ∧ c ≠ colon := by
    decide
  exact ⟨⟨hc, (hall c hc h).1.1, (hall c hc h).1.2⟩, (hall c hc h).2⟩

theorem isPlain_colon : IsPlain colon := ⟨by decide, by decide, by decide⟩

theorem isHostChar_of_isDigit {c : CodePoint} (h : isDigit c = true) : isHostChar c = true := by
  simp [isHostChar, h]

theorem isDigit_of_mem_natText {p : Nat} {c : CodePoint} (h : c ∈ natText p) : isDigit c = true := by
  obtain ⟨d, hd, rfl⟩ := List.mem_map.1 h
  exact isDigit_digitChar d (natDigits_lt p d hd)

theorem isHostChar_of_isLetter {c : CodePoint} (h : isLetter c = true) : isHostChar c = true := by
  simp [isHostChar, h]

theorem isLetter_of_lowerAscii {c : Nat} (h : isLetter (lowerAscii c) = true) :
    isLetter c = true := by
  unfold lowerAscii at h
  split at h
  · next hc => exact isLetter_iff.2 (.inl hc)
  · exact h

namespace Location

variable (l : Location)

theorem isPlain_of_mem_host {c : CodePoint} (h : c ∈ l.host) : IsPlain c :=
  (isPlain_of_isHostChar (l.isHostChar_host c h)).1

theorem colon_not_mem_host : colon ∉ l.host := fun h =>
  (isPlain_of_isHostChar (l.isHostChar_host _ h)).2 rfl

theorem isPlain_of_mem_text {c : CodePoint} (h : c ∈ l.text) : IsPlain c := by
  unfold text at h
  split at h
  · exact l.isPlain_of_mem_host h
  · rcases List.mem_append.1 h with h | h
    · exact l.isPlain_of_mem_host h
    · rcases List.mem_cons.1 h with rfl | h
      · exact isPlain_colon
      · exact (isPlain_of_isHostChar (isHostChar_of_isDigit (isDigit_of_mem_natText h))).1

theorem not_mem_text {c : CodePoint} (hc : c ∈ cutters) : c ∉ l.text := fun h =>
  (l.isPlain_of_mem_text h).cuts hc

theorem text_ne_nil : l.text ≠ [] := by
  unfold text
  split
  · exact l.host_ne_nil
  · simp

theorem hostAndPort_text : hostAndPort l.text = (l.host, (l.port.map natText).getD []) := by
  have hcut : cutAt colon l.text = (l.host, l.port.map natText) := by
    unfold text
    cases l.port with
    | none => exact cutAt_of_not_mem l.colon_not_mem_host
    | some p => exact cutAt_append l.colon_not_mem_host _
  rw [hostAndPort, afterLast_of_not_mem (l.not_mem_text (by decide)),
    cutAt_of_not_mem (l.not_mem_text (by decide))]
  simp only [hcut]

theorem lowerHost_host : lowerHost l.host = l.host.map lowerAscii := by
  have hpercent : percent ∉ l.host := fun h => (l.isPlain_of_mem_host h).cuts (by decide)
  rw [lowerHost, cutAt_of_not_mem hpercent]
  exact lower_of_ascii fun c h => (l.isPlain_of_mem_host h).ascii

end Location

/-! ## Ports -/

theorem map_sub_natText (p : Nat) : (natText p).map (· - 0x30) = natDigits p := by
  rw [natText, List.map_map]
  refine (List.map_congr_left fun d _ => ?_).trans (List.map_id _)
  exact Nat.add_sub_cancel_left 0x30 d

theorem length_natDigits_port {p : Nat} (h1 : 1 ≤ p) (hp : p ≤ 65535) :
    (natDigits p).length ≤ 5 := by
  have hpow : 10 ^ (natDigits p).length ≤ 10 * p := pow_length_le_natDigits h1
  have hlt : 10 ^ (natDigits p).length < 10 ^ 6 := by omega
  have := (Nat.pow_lt_pow_iff_right (by decide)).1 hlt
  omega

theorem readPort?_natText {p : Nat} (h1 : 1 ≤ p) (hp : p ≤ 65535) :
    readPort? (natText p) = some (some p) := by
  have hne : (natText p).isEmpty = false := by
    rw [List.isEmpty_eq_false_iff, natText, ne_eq, List.map_eq_nil_iff]
    exact natDigits_ne_nil p
  have hlength : (natText p).length ≤ digitLimit := by
    rw [natText, List.length_map]
    exact Nat.le_trans (length_natDigits_port h1 hp) (by decide)
  have hall : (natText p).all isDigit = true :=
    List.all_eq_true.2 fun c h => isDigit_of_mem_natText h
  rw [readPort?, hne, map_sub_natText, readDigits_natDigits]
  simp [hlength, hp, hall]

/-! ## URLs -/

theorem Scheme.ofName?_name (k : Scheme) : Scheme.ofName? k.name = some k := by cases k <;> decide

theorem Scheme.isLetter_of_mem_name (k : Scheme) : ∀ c ∈ k.name, isLetter c = true := by
  cases k <;> decide

/-- Nothing is wrong with an authority without brackets and disguised separators. -/
theorem authorityError?_of_plain {a : Text}
    (h : ∀ c ∈ a, c ≠ openBracket ∧ c ≠ closeBracket ∧ c ∉ disguised) :
    authorityError? a = none := by
  have hopen : a.contains openBracket = false := by simpa using fun hc => (h _ hc).1 rfl
  have hclose : a.contains closeBracket = false := by simpa using fun hc => (h _ hc).2.1 rfl
  have hplain : (a.any fun c => disguised.contains c) = false := by
    simpa using fun c hc => (h c hc).2.2
  rw [authorityError?, hopen, hclose, hplain]
  rfl

section Written

variable {k : Scheme} {s : Text} (l : Location)

theorem isLetter_of_mem_scheme (hs : s.map lowerAscii = k.name) {c : CodePoint} (h : c ∈ s) :
    isLetter c = true :=
  isLetter_of_lowerAscii (k.isLetter_of_mem_name _ (hs ▸ List.mem_map_of_mem h))

theorem isPlain_of_mem_scheme (hs : s.map lowerAscii = k.name) {c : CodePoint} (h : c ∈ s) :
    IsPlain c ∧ c ≠ colon :=
  isPlain_of_isHostChar (isHostChar_of_isLetter (isLetter_of_mem_scheme hs h))

theorem authorityError?_text : authorityError? l.text = none := by
  have hdisguised : ∀ c ∈ disguised, 0x80 ≤ c := by decide
  refine authorityError?_of_plain fun c hc => ?_
  have hplain := l.isPlain_of_mem_text hc
  have hcut := hplain.cuts
  simp only [cutters, List.mem_cons, not_or] at hcut
  exact ⟨by simp [hcut], by simp [hcut],
    fun hd => absurd hplain.ascii (Nat.not_lt.2 (hdisguised c hd))⟩

theorem authorityOf_text : authorityOf (slash :: slash :: l.text) = l.text := by
  have hends : ∀ c ∈ l.text, (!endsAuthority c) = true := by
    intro c hc
    have hcut := (l.isPlain_of_mem_text hc).cuts
    simp only [cutters, List.mem_cons, not_or] at hcut
    simp [endsAuthority, hcut]
  calc l.text.takeWhile (fun c => !endsAuthority c)
      = (l.text ++ []).takeWhile (fun c => !endsAuthority c) := by rw [List.append_nil]
    _ = l.text := by rw [List.takeWhile_append_of_pos hends, List.takeWhile_nil, List.append_nil]

theorem isScheme_written (hs : s.map lowerAscii = k.name) : isScheme s = true := by
  cases s with
  | nil => cases k <;> cases hs
  | cons c t =>
    have hletter : ∀ d ∈ c :: t, isLetter d = true := fun d hd => isLetter_of_mem_scheme hs hd
    have hall : t.all isSchemeChar = true := List.all_eq_true.2 fun d hd => by
      simp [isSchemeChar, hletter d (List.mem_cons_of_mem c hd)]
    rw [isScheme, hletter c List.mem_cons_self, hall]
    rfl

theorem trimUrl_written (hs : s.map lowerAscii = k.name) :
    trimUrl (s ++ (schemeMark ++ l.text)) = s ++ (schemeMark ++ l.text) := by
  have hstart : (s ++ (schemeMark ++ l.text)).dropWhile (fun c => c ≤ space) =
      s ++ (schemeMark ++ l.text) := by
    have hscheme := isScheme_written hs
    cases s with
    | nil => cases hscheme
    | cons c t =>
      have hlead := space_lt_of_isLetter (isLetter_of_mem_scheme hs (List.mem_cons_self (l := t)))
      rw [List.cons_append, List.dropWhile_cons_of_neg (by simpa using hlead)]
  have hcuts : ∀ c, c ∉ cutters → decide (c ≠ tab ∧ c ≠ lineFeed ∧ c ≠ carriageReturn) = true := by
    intro c hc
    simp only [cutters, List.mem_cons, not_or] at hc
    simp [hc]
  have hmark : ∀ c ∈ schemeMark, decide (c ≠ tab ∧ c ≠ lineFeed ∧ c ≠ carriageReturn) = true := by
    decide
  rw [trimUrl, hstart]
  refine List.filter_eq_self.2 (List.forall_mem_append.2 ⟨fun c hc => ?_,
    List.forall_mem_append.2 ⟨hmark, fun c hc => ?_⟩⟩)
  · exact hcuts c (isPlain_of_mem_scheme hs hc).1.cuts
  · exact hcuts c (l.isPlain_of_mem_text hc).cuts

theorem splitScheme_written (hs : s.map lowerAscii = k.name) :
    splitScheme (s ++ (schemeMark ++ l.text)) = (k.name, slash :: slash :: l.text) := by
  have hcut : cutAt colon (s ++ (schemeMark ++ l.text)) = (s, some (slash :: slash :: l.text)) :=
    cutAt_append (fun h => (isPlain_of_mem_scheme hs h).2 rfl) _
  rw [splitScheme, hcut]
  simp only [isScheme_written hs, hs, if_true]

/-- A URL with a location is split into the scheme and the location. -/
theorem splitUrl_written (hs : s.map lowerAscii = k.name) :
    splitUrl (s ++ (schemeMark ++ l.text)) = .ok (k.name, l.text) := by
  rw [splitUrl, trimUrl_written l hs, splitScheme_written l hs]
  simp only [authorityOf_text, authorityError?_text]

end Written

/-! ## Schemes that are left out -/

theorem hasSchemeMark_append (s u : Text) : hasSchemeMark (s ++ (schemeMark ++ u)) = true := by
  induction s with
  | nil => rfl
  | cons c s ih => rw [List.cons_append, hasSchemeMark, ih, Bool.or_true]

theorem hasSchemeMark_of_not_mem {t : Text} (h : slash ∉ t) : hasSchemeMark t = false := by
  induction t with
  | nil => rfl
  | cons c t ih =>
    have hprefix : schemeMark.isPrefixOf (c :: t) = false := by
      rw [Bool.eq_false_iff]
      intro hp
      obtain ⟨u, hu⟩ := List.isPrefixOf_iff_prefix.1 hp
      rw [← hu] at h
      exact h (by simp [schemeMark, ofString])
    rw [hasSchemeMark, hprefix, ih fun ht => h (List.mem_cons_of_mem _ ht)]
    rfl

theorem trimmed_of_forall {t : Text} (h : ∀ c ∈ t, isBlank c = false) : Trimmed t :=
  ⟨fun c hc => h c (List.mem_of_mem_head? hc), fun c hc => h c (List.mem_of_mem_getLast? hc)⟩

namespace Address

variable {k : Scheme} {l : Location} {s before after server t : Text}

/-- The URL that a text stands for. -/
def url (server : Text) : Text :=
  if hasSchemeMark server.strip then server.strip else "mqtt://" ++ server.strip

/-- The address that a scheme and an authority name. -/
def ofParts (server scheme authority : Text) : Except AddressError Address :=
  match Scheme.ofName? scheme with
  | none => .error (.unknownScheme scheme)
  | some k =>
    match readPort? (hostAndPort authority).2 with
    | none => .error (.badPort server)
    | some p =>
      if (hostAndPort authority).1.isEmpty then .error (.noHost server)
      else .ok ⟨lowerHost (hostAndPort authority).1,
        match p with
        | some (n + 1) => n + 1
        | _ => k.port, k.isEncrypted⟩

theorem parse_eq (server : Text) :
    parse server =
      if server.strip.isEmpty then .error .missing
      else
        match splitUrl (url server) with
        | .error e => .error e
        | .ok (scheme, authority) => ofParts server scheme authority := rfl

theorem ofParts_text (server : Text) (k : Scheme) (l : Location) :
    ofParts server k.name l.text = .ok (l.address k) := by
  have hhost : l.host.isEmpty = false := List.isEmpty_eq_false_iff.2 l.host_ne_nil
  have hport : readPort? ((l.port.map natText).getD []) = some l.port := by
    cases hp : l.port with
    | none => rfl
    | some p =>
      obtain ⟨h1, h2⟩ := l.port_range p hp
      exact readPort?_natText h1 h2
  rw [ofParts, Location.address]
  simp only [k.ofName?_name, l.hostAndPort_text, l.lowerHost_host, hport, hhost]
  cases hp : l.port with
  | none => rfl
  | some p =>
    obtain ⟨n, rfl⟩ := Nat.exists_eq_succ_of_ne_zero (Nat.one_le_iff_ne_zero.1 (l.port_range p hp).1)
    rfl

theorem parse_of_splitUrl (hne : server.strip ≠ []) (h : splitUrl (url server) = .ok (k.name, l.text)) :
    parse server = .ok (l.address k) := by
  rw [parse_eq, h, List.isEmpty_eq_false_iff.2 hne]
  exact ofParts_text server k l

/-- **An address with a scheme is read back.** -/
theorem parse_written (hs : s.map lowerAscii = k.name) (hb : ∀ c ∈ before, isBlank c = true)
    (ha : ∀ c ∈ after, isBlank c = true) :
    parse (before ++ (s ++ (schemeMark ++ l.text) ++ after)) = .ok (l.address k) := by
  have hmark : ∀ c ∈ schemeMark, isBlank c = false := by decide
  have hblank : ∀ c ∈ s ++ (schemeMark ++ l.text), isBlank c = false :=
    List.forall_mem_append.2 ⟨fun c hc => (isPlain_of_mem_scheme hs hc).1.blank,
      List.forall_mem_append.2 ⟨hmark, fun c hc => (l.isPlain_of_mem_text hc).blank⟩⟩
  have hne : s ++ (schemeMark ++ l.text) ≠ [] := by simp [l.text_ne_nil]
  have hstrip := strip_pad hb ha (trimmed_of_forall hblank) hne
  refine parse_of_splitUrl (by rwa [hstrip]) ?_
  rw [url, hstrip, hasSchemeMark_append, if_pos rfl]
  exact splitUrl_written l hs

/-- **An address without a scheme is an unencrypted one.** -/
theorem parse_bare (hb : ∀ c ∈ before, isBlank c = true) (ha : ∀ c ∈ after, isBlank c = true) :
    parse (before ++ (l.text ++ after)) = .ok (l.address .mqtt) := by
  have htrimmed := trimmed_of_forall fun c hc => (l.isPlain_of_mem_text hc).blank
  have hstrip := strip_pad hb ha htrimmed l.text_ne_nil
  refine parse_of_splitUrl (by rw [hstrip]; exact l.text_ne_nil) ?_
  rw [url, hstrip, hasSchemeMark_of_not_mem (l.not_mem_text (by decide))]
  exact splitUrl_written (k := .mqtt) (s := "mqtt") l (by decide)

/-! ## Any text -/

theorem le_of_readPort? {p : Nat} (h : readPort? t = some (some p)) : p ≤ 65535 := by
  unfold readPort? at h
  split at h
  · cases h
  · split at h
    · next hp =>
      cases h
      exact hp.2.2
    · cases h

theorem lowerHost_ne_nil (h : t ≠ []) : lowerHost t ≠ [] := by
  rcases cutAt_cases percent t with ⟨-, hcut⟩ | ⟨a, b, -, -, hcut⟩
  · rw [lowerHost, hcut]
    exact lower_ne_nil h
  · rw [lowerHost, hcut]
    simp

/-- A scheme and an authority name an address that can be connected to, or what is wrong is reported
as one of the connection parameters. -/
theorem ofParts_cases (server scheme authority : Text) :
    (∃ a, ofParts server scheme authority = .ok a ∧ a.host ≠ [] ∧ 1 ≤ a.port ∧ a.port ≤ 65535) ∨
      ∃ e, ofParts server scheme authority = .error e ∧ e.isContained = true := by
  unfold ofParts
  split
  · exact .inr ⟨_, rfl, rfl⟩
  · next k _ =>
    split
    · exact .inr ⟨_, rfl, rfl⟩
    · next p hp =>
      split
      · exact .inr ⟨_, rfl, rfl⟩
      · next hhost =>
        refine .inl ⟨_, rfl, lowerHost_ne_nil fun hnil => hhost (by rw [hnil]; rfl), ?_⟩
        dsimp only
        split
        · exact ⟨Nat.succ_pos _, le_of_readPort? hp⟩
        · cases k <;> decide

/-- **Whatever text an address is read from, it has a host and a port that can be connected to.** -/
theorem range_of_parse {a : Address} (h : parse server = .ok a) :
    a.host ≠ [] ∧ 1 ≤ a.port ∧ a.port ≤ 65535 := by
  rw [parse_eq] at h
  split at h
  · cases h
  · split at h
    · cases h
    · next scheme authority _ =>
      rcases ofParts_cases server scheme authority with ⟨a', ha, hrange⟩ | ⟨e, he, -⟩
      · rw [ha] at h
        cases h
        exact hrange
      · rw [he] at h
        cases h

/-- **Addresses that are written are read back, with a scheme and without, and only addresses that can
be connected to are read at all.** -/
theorem reads_back :
    (∀ (k : Scheme) (l : Location) (s before after : Text), s.map lowerAscii = k.name →
      (∀ c ∈ before, isBlank c = true) → (∀ c ∈ after, isBlank c = true) →
        parse (before ++ (s ++ (schemeMark ++ l.text) ++ after)) = .ok (l.address k)) ∧
    (∀ (l : Location) (before after : Text),
      (∀ c ∈ before, isBlank c = true) → (∀ c ∈ after, isBlank c = true) →
        parse (before ++ (l.text ++ after)) =
          parse (before ++ ("mqtt" ++ (schemeMark ++ l.text) ++ after))) ∧
    ∀ (server : Text) (a : Address), parse server = .ok a →
      a.host ≠ [] ∧ 1 ≤ a.port ∧ a.port ≤ 65535 := by
  refine ⟨fun k l s before after hs hb ha => parse_written hs hb ha, fun l before after hb ha => ?_,
    fun server a => range_of_parse⟩
  rw [parse_bare hb ha, parse_written (k := .mqtt) (by decide) hb ha]

example : parse " MQTTS://Broker-1.local:8884 " = .ok ⟨"broker-1.local", 8884, true⟩ := rfl

end Address

end DeltaBridge
