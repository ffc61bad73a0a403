import DeltaBridge.Proofs.Broker.Address

/-!
# What is wrong with the authority of a URL

An authority is legible if it has brackets of both kinds or none, if a host in brackets is numeric,
and if no character in it turns into a mark of a URL when compatible characters are folded together.
The failures of texts whose authority is not legible are not reported as those of the connection
parameters; all others are.

* `NumericHost.of_isVersion6`: an address of version 6 is neither one of version 4 nor one of a later
  version; `IsNumeric`, `bracketedHostError?_eq_none_iff`;
* `AfterUser`, `HostOf`: what follows the user information, and the host in it; `hostOf_iff`;
* `Legible`, **`authorityError?_eq_none_iff`**: what is asked of an authority;
* `Address.authority`: the authority of the URL of a text; **`Address.parse_escapes_iff`**,
  `Address.parse_plain`: how the text fails.
-/

namespace DeltaBridge

open Ascii Text

/-! ## Numeric hosts -/

namespace NumericHost

variable {t : Text}

theorem isDigit_of_isOctet (h : isOctet t = true) {c : CodePoint} (hc : c ∈ t) : isDigit c = true := by
  unfold isOctet at h
  split at h
  · cases hc
  · rwa [List.mem_singleton.1 hc]
  · simp only [Bool.and_eq_true] at h
    exact List.all_eq_true.1 h.1.1.1 c hc

theorem isDigit_of_isVersion4 (h : isVersion4 t = true) {c : CodePoint} (hc : c ∈ t) (hd : c ≠ dot) :
    isDigit c = true := by
  obtain ⟨p, hp, hcp⟩ := exists_mem_partsAt hc hd
  simp only [isVersion4, Bool.and_eq_true] at h
  exact isDigit_of_isOctet (List.all_eq_true.1 h.2 p hp) hcp

theorem cutAtGap?_of_not_mem (h : colon ∉ t) : cutAtGap? t = none := by
  induction t with
  | nil => rfl
  | cons c t ih =>
    have hc : ¬(c = colon ∧ t.head? = some colon) := fun hc => h (hc.1 ▸ List.mem_cons_self)
    rw [cutAtGap?, if_neg hc, ih fun ht => h (List.mem_cons_of_mem _ ht)]
    rfl

theorem colon_mem_of_isGroups (h : isGroups t = true) : colon ∈ t := by
  by_contra hc
  -- the whole is one part, which stands for two groups at most
  rw [isGroups, cutAtGap?_of_not_mem hc, partsAt_of_not_mem hc] at h
  dsimp only [groupCount?] at h
  split at h
  · cases h
  · split at h <;> cases h

theorem groupCount?_letter (atEnd : Bool) (p : Text) (ps : List Text) :
    groupCount? atEnd ((0x76 :: p) :: ps) = none := by
  have hgroup : isGroup (0x76 :: p) = false := rfl
  have hversion : isVersion4 (0x76 :: p) = false := by
    rw [Bool.eq_false_iff]
    intro h
    cases isDigit_of_isVersion4 h List.mem_cons_self (by decide)
  rw [groupCount?, hgroup, hversion]
  simp

theorem isGroups_letter (t : Text) : isGroups (0x76 :: t) = false := by
  have hparts : ∀ (atEnd : Bool) (u : Text), groupCount? atEnd (partsAt colon (0x76 :: u)) = none := by
    intro atEnd u
    obtain ⟨p, ps, -, h⟩ := partsAt_cons colon 0x76 u
    rw [h, if_neg (by decide), groupCount?_letter]
  have hgap : cutAtGap? (0x76 :: t) = (cutAtGap? t).map fun s => (0x76 :: s.1, s.2) := rfl
  rw [isGroups, hgap]
  cases cutAtGap? t with
  | none =>
    show (groupCount? true (partsAt colon (0x76 :: t)) == some 8) = false
    rw [hparts]
    rfl
  | some s =>
    have hside : groupCount? false (sideParts (0x76 :: s.1)) = none := hparts false s.1
    dsimp only [Option.map_some]
    rw [hside]

theorem exists_isGroups (h : isVersion6 t = true) : ∃ a b, t = a ++ b ∧ isGroups a = true := by
  rcases cutAt_cases percent t with ⟨-, hcut⟩ | ⟨a, b, ht, -, hcut⟩
  · rw [isVersion6, hcut] at h
    exact ⟨t, [], (List.append_nil t).symm, h⟩
  · rw [isVersion6, hcut] at h
    simp only [Bool.and_eq_true] at h
    exact ⟨a, percent :: b, ht, h.2⟩

/-- **An address of version 6 is neither one of version 4 nor does it start as one of a later
version.** -/
theorem of_isVersion6 (h : isVersion6 t = true) :
    startsLaterVersion t = false ∧ isVersion4 t = false := by
  obtain ⟨a, b, rfl, ha⟩ := exists_isGroups h
  have hcolon := colon_mem_of_isGroups ha
  refine ⟨Bool.eq_false_iff.2 fun hv => ?_, Bool.eq_false_iff.2 fun h4 => ?_⟩
  · cases a with
    | nil => cases hcolon
    | cons c a =>
      obtain rfl : c = 0x76 := by simpa [startsLaterVersion] using hv
      rw [isGroups_letter] at ha
      cases ha
  · cases isDigit_of_isVersion4 h4 (List.mem_append_left b hcolon) (by decide)

end NumericHost

/-- The host is numeric as it may stand in brackets: an address of version 6, or of a later version. -/
def IsNumeric (host : Text) : Prop :=
  NumericHost.isVersion6 host = true ∨ NumericHost.isLaterVersion host = true

/-- **Nothing is wrong with a host in brackets exactly if it is numeric.** -/
theorem bracketedHostError?_eq_none_iff {host : Text} :
    bracketedHostError? host = none ↔ IsNumeric host := by
  have hlater : NumericHost.isLaterVersion host = true →
      NumericHost.startsLaterVersion host = true := fun h => by
    rw [NumericHost.isLaterVersion, Bool.and_eq_true] at h
    exact h.1
  unfold bracketedHostError? IsNumeric
  by_cases hv : NumericHost.startsLaterVersion host = true
  · have h6 : ¬NumericHost.isVersion6 host = true := fun h => by
      rw [(NumericHost.of_isVersion6 h).1] at hv
      cases hv
    simp [hv, h6]
  · have hl : ¬NumericHost.isLaterVersion host = true := fun h => hv (hlater h)
    by_cases h6 : NumericHost.isVersion6 host = true
    · simp [hv, h6, (NumericHost.of_isVersion6 h6).2]
    · cases NumericHost.isVersion4 host <;> simp [hv, h6, hl]

/-! ## Brackets -/

/-- What follows the user information of an authority: what follows the last at sign. -/
inductive AfterUser : Text → Text → Prop
  | noUser {a : Text} (h : atSign ∉ a) : AfterUser a a
  | user {rest : Text} (user : Text) (h : atSign ∉ rest) : AfterUser (user ++ atSign :: rest) rest

theorem afterUser_afterLast (a : Text) : AfterUser a (afterLast atSign a) := by
  rcases afterLast_cases atSign a with ⟨h, he⟩ | ⟨u, rest, rfl, h, he⟩
  · rw [he]
    exact .noUser h
  · rw [he]
    exact .user u h

theorem afterUser_iff {a rest : Text} : AfterUser a rest ↔ afterLast atSign a = rest := by
  constructor
  · rintro (h | ⟨u, h⟩)
    · exact afterLast_of_not_mem h
    · exact afterLast_append u h
  · rintro rfl
    exact afterUser_afterLast a

/-- The host in what follows the user information, where there are brackets in the authority. -/
inductive HostOf : Text → Text → Prop
  /-- The host stands in brackets, and only a port may follow. -/
  | bracketed {host more : Text} (h : closeBracket ∉ host) (hmore : ∀ c ∈ more.head?, c = colon) :
    HostOf (openBracket :: (host ++ closeBracket :: more)) host
  /-- The closing bracket is in the user information. -/
  | opened {host : Text} (h : closeBracket ∉ host) : HostOf (openBracket :: host) host
  /-- The opening bracket is in the user information. -/
  | bare {rest : Text} (h : openBracket ∉ rest) : HostOf rest (rest.takeWhile (· ≠ colon))

section Brackets

variable {a rest host : Text}

theorem cutAt_openBracket (t : Text) : cutAt openBracket (openBracket :: t) = ([], some t) :=
  cutAt_append (t := []) List.not_mem_nil t

theorem hostOf_iff (ha : afterLast atSign a = rest) :
    HostOf rest host ↔ bracketsFit a = true ∧ (hostAndPort a).1 = host := by
  unfold bracketsFit hostAndPort
  rw [ha]
  constructor
  · intro h
    cases h with
    | bracketed h hmore =>
      rename_i more
      rw [cutAt_openBracket]
      dsimp only
      rw [cutAt_append h]
      cases more with
      | nil => exact ⟨rfl, rfl⟩
      | cons c more => exact ⟨by simpa using hmore c rfl, rfl⟩
    | opened h =>
      rw [cutAt_openBracket]
      dsimp only
      rw [cutAt_of_not_mem h]
      exact ⟨rfl, rfl⟩
    | bare h =>
      rw [cutAt_of_not_mem h, ← fst_cutAt]
      exact ⟨rfl, rfl⟩
  · rcases cutAt_cases openBracket rest with ⟨h, hcut⟩ | ⟨before, t, rfl, -, hcut⟩
    · rw [hcut]
      rintro ⟨-, rfl⟩
      dsimp only
      rw [fst_cutAt]
      exact .bare h
    · rw [hcut]
      simp only [Bool.and_eq_true, List.isEmpty_iff]
      rintro ⟨⟨rfl, hfit⟩, rfl⟩
      rcases cutAt_cases closeBracket t with ⟨h, hcut⟩ | ⟨host, more, rfl, h, hcut⟩
      · rw [hcut]
        exact .opened h
      · rw [hcut] at hfit ⊢
        refine .bracketed h fun c hc => ?_
        cases more with
        | nil => cases hc
        | cons d more =>
          cases hc
          simpa using hfit

/-- What is asked of an authority. Brackets in its user information count as brackets around its
host. -/
structure Legible (a : Text) : Prop where
  paired : openBracket ∈ a ↔ closeBracket ∈ a
  numeric : openBracket ∈ a → ∃ rest host, AfterUser a rest ∧ HostOf rest host ∧ IsNumeric host
  undisguised : ∀ c ∈ a, c ∉ disguised

theorem exists_numeric_iff : (∃ rest host, AfterUser a rest ∧ HostOf rest host ∧ IsNumeric host) ↔
    bracketsFit a = true ∧ bracketedHostError? (hostAndPort a).1 = none := by
  constructor
  · rintro ⟨rest, host, hrest, hhost, hn⟩
    obtain ⟨hfit, rfl⟩ := (hostOf_iff (afterUser_iff.1 hrest)).1 hhost
    exact ⟨hfit, bracketedHostError?_eq_none_iff.2 hn⟩
  · rintro ⟨hfit, hn⟩
    exact ⟨_, _, afterUser_afterLast a, (hostOf_iff rfl).2 ⟨hfit, rfl⟩,
      bracketedHostError?_eq_none_iff.1 hn⟩

/-- **Nothing is wrong with an authority exactly if it is legible.** -/
theorem authorityError?_eq_none_iff : authorityError? a = none ↔ Legible a := by
  have hlegible : Legible a ↔ (openBracket ∈ a ↔ closeBracket ∈ a) ∧
      (openBracket ∈ a → bracketsFit a = true ∧ bracketedHostError? (hostAndPort a).1 = none) ∧
      (a.any fun c => disguised.contains c) = false := by
    rw [← exists_numeric_iff]
    exact ⟨fun h => ⟨h.paired, h.numeric, by simpa using h.undisguised⟩,
      fun h => ⟨h.1, h.2.1, by simpa using h.2.2⟩⟩
  rw [hlegible, authorityError?]
  by_cases ho : openBracket ∈ a <;> by_cases hc : closeBracket ∈ a
  · cases hfit : bracketsFit a with
    | false => simp [ho, hc]
    | true => cases he : bracketedHostError? (hostAndPort a).1 <;> simp [ho, hc]
  · simp [ho, hc]
  · simp [ho, hc]
  · simp [ho, hc]

theorem bracketedHostError?_isContained {e : AddressError} (h : bracketedHostError? host = some e) :
    e.isContained = false := by
  unfold bracketedHostError? at h
  split at h
  · split at h <;> cases h
    rfl
  · split at h
    · cases h
      rfl
    · split at h <;> cases h
      rfl

theorem authorityError?_isContained {e : AddressError} (h : authorityError? a = some e) :
    e.isContained = false := by
  unfold authorityError? at h
  dsimp only at h
  split at h
  · cases h
    rfl
  · split at h
    · cases h
      rfl
    · split at h
      · next he =>
        cases h
        split at he
        · exact bracketedHostError?_isContained he
        · cases he
      · split at h <;> cases h
        rfl

end Brackets

/-! ## Texts -/

namespace Address

variable {server : Text}

/-- The authority of the URL that a text stands for. -/
def authority (server : Text) : Text :=
  authorityOf (splitScheme (trimUrl (url server))).2

theorem splitUrl_url (server : Text) : ∃ scheme, splitUrl (url server) =
    match authorityError? (authority server) with
    | some e => .error e
    | none => .ok (scheme, authority server) := ⟨_, rfl⟩

/-- **A failure is not reported as one of the connection parameters exactly if the authority is not
legible.** -/
theorem parse_escapes_iff : (∃ e, parse server = .error e ∧ e.isContained = false) ↔
    server.strip ≠ [] ∧ ¬Legible (authority server) := by
  obtain ⟨scheme, hsplit⟩ := splitUrl_url server
  rw [parse_eq, hsplit, ← authorityError?_eq_none_iff]
  by_cases hs : server.strip = []
  · simp [hs, AddressError.isContained]
  · have hne : server.strip.isEmpty = false := List.isEmpty_eq_false_iff.2 hs
    cases ha : authorityError? (authority server) with
    | some e => simp [hs, hne, authorityError?_isContained ha]
    | none =>
      rcases ofParts_cases server scheme (authority server) with ⟨a, hparts, -⟩ | ⟨e, hparts, he⟩
      · simp [hs, hne, hparts]
      · simp [hs, hne, hparts, he]

theorem mem_authorityOf {t : Text} {c : CodePoint} (h : c ∈ authorityOf t) : c ∈ t := by
  unfold authorityOf at h
  split at h
  · exact List.mem_cons_of_mem _ (List.mem_cons_of_mem _ ((List.takeWhile_prefix _).subset h))
  · cases h

theorem mem_splitScheme {t : Text} {c : CodePoint} (h : c ∈ (splitScheme t).2) : c ∈ t := by
  rcases cutAt_cases colon t with ⟨-, hcut⟩ | ⟨a, b, rfl, -, hcut⟩
  · rw [splitScheme, hcut] at h
    exact h
  · rw [splitScheme, hcut] at h
    dsimp only at h
    split at h
    · exact List.mem_append_right a (List.mem_cons_of_mem _ h)
    · exact h

theorem mem_of_mem_trimUrl {t : Text} {c : CodePoint} (h : c ∈ trimUrl t) : c ∈ t :=
  (List.dropWhile_suffix _).subset (List.mem_filter.1 h).1

theorem mem_of_mem_strip {t : Text} {c : CodePoint} (h : c ∈ t.strip) : c ∈ t := by
  rw [strip, stripEnd, List.mem_reverse] at h
  have hrest := List.mem_reverse.1 ((List.dropWhile_suffix _).subset h)
  exact (List.dropWhile_suffix _).subset hrest

theorem mem_of_mem_authority {c : CodePoint} (h : c ∈ authority server) :
    c ∈ server ∨ c ∈ ("mqtt://" : Text) := by
  have hurl : c ∈ url server := mem_of_mem_trimUrl (mem_splitScheme (mem_authorityOf h))
  unfold url at hurl
  split at hurl
  · exact .inl (mem_of_mem_strip hurl)
  · rcases List.mem_append.1 hurl with h | h
    · exact .inr h
    · exact .inl (mem_of_mem_strip h)

/-- Without brackets and disguised separators each failure is reported as one of the connection
parameters. -/
theorem parse_plain
    (h : ∀ c ∈ server, c ≠ openBracket ∧ c ≠ closeBracket ∧ c ∉ disguised) :
    (∃ a, parse server = .ok a) ∨ ∃ e, parse server = .error e ∧ e.isContained = true := by
  have hscheme : ∀ c ∈ ("mqtt://" : Text), c ≠ openBracket ∧ c ≠ closeBracket ∧ c ∉ disguised := by
    decide
  have hall : ∀ c ∈ authority server, c ≠ openBracket ∧ c ≠ closeBracket ∧ c ∉ disguised :=
    fun c hc => (mem_of_mem_authority hc).elim (h c) (hscheme c)
  have hlegible := authorityError?_eq_none_iff.1 (authorityError?_of_plain hall)
  cases hp : parse server with
  | ok a => exact .inl ⟨a, rfl⟩
  | error e =>
    refine .inr ⟨e, rfl, Bool.eq_true_of_not_eq_false fun he => ?_⟩
    exact (parse_escapes_iff.1 ⟨e, hp, he⟩).2 hlegible

end Address

end DeltaBridge
