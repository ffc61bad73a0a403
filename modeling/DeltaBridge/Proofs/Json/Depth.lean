import DeltaBridge.Json.Reader

/-!
# Texts that are too deep

A reader that goes to a limited depth gives up where a container is opened inside that many others.
Whether it comes to such a place does not depend on its limit: the pieces before it are read as a
reader without one reads them.

* `Json.stepFreely`: one piece, read without a limit; `Json.ComesTo`: what is met after pieces that
  are read so; `Json.Opens`: a piece opens a container;
* `Json.step_of_opens`, `Json.step_of_not_opens`: the limit matters only there;
* **`Json.readTo_tooDeep_iff`**: the texts that are `Json.Deeper` are those that a reader gives up;
  `Json.readTo_of_not_deeper`: on the others readers that go deeper agree with it;
  `Json.readTo_openBrackets`: many brackets are too deep.
-/

namespace DeltaBridge.Json

/-- One piece, however many containers are open. -/
def stepFreely (dialect : Dialect) (s : Due × List Frame) (x : Lexeme) :
    Except Error (Due × List Frame) :=
  step (s.2.length + 1) dialect s.1 s.2 x

/-- A value is due, and the piece opens an array or an object. -/
def Opens (s : Due × List Frame) (x : Lexeme) : Prop :=
  (s.1 = .value ∨ s.1 = .firstItem) ∧ (x.token = .openArray ∨ x.token = .openObject)

/-- After pieces that can be read, starting in the given state, there is a piece such as this. -/
def ComesTo (dialect : Dialect) (s : Due × List Frame) (xs : List Lexeme)
    (P : Due × List Frame → Lexeme → Prop) : Prop :=
  ∃ before x after s', xs = before ++ x :: after ∧
    before.foldlM (stepFreely dialect) s = .ok s' ∧ P s' x

/-- After pieces that can be read, starting in the given state, a container is opened inside at
least so many others. -/
def OpensWithin (limit : Nat) (dialect : Dialect) (s : Due × List Frame) (xs : List Lexeme) :
    Prop :=
  ∃ before x after s', xs = before ++ x :: after ∧
    before.foldlM (stepFreely dialect) s = .ok s' ∧ Opens s' x ∧ limit ≤ s'.2.length

/-- The text opens a container inside at least so many others, and can be read up to there. -/
def Deeper (limit : Nat) (dialect : Dialect) (t : Text) : Prop :=
  t.head? ≠ some 0xFEFF ∧ OpensWithin limit dialect (.value, []) (lex t)

/-! ## Single pieces -/

section Pieces

variable (c : Container)

theorem value_ne_tooDeep (l : Literal) : l.value ≠ .error (.tooDeep c) := by
  cases l with
  | integer negative ds =>
    rw [Literal.value]
    split <;> simp
  | decimal n => simp [Literal.value]

theorem word?_ne_tooDeep {t : Text} {k : Token} {l : Nat} (h : word? t = some (k, l)) :
    k ≠ .broken (.tooDeep c) := by
  obtain ⟨w, hw, he⟩ := Option.map_eq_some_iff.1 h
  have hn : ∀ w ∈ words, w.2 ≠ .broken (.tooDeep c) := by simp [words]
  have hk : w.2 = k := congrArg Prod.fst he
  exact hk ▸ hn w (List.mem_of_find?_eq_some hw)

theorem piece_ne_tooDeep (position : Nat) (d : CodePoint) (r : Text) :
    (piece position d r).1 ≠ .broken (.tooDeep c) := by
  unfold piece
  iterate 6
    split
    · simp
  split
  · split <;> simp
  split
  · rename_i h
    exact word?_ne_tooDeep c h
  split
  · simp
  rename_i l rest hs
  split
  · simp
  · rename_i e he
    intro h
    cases h
    exact value_ne_tooDeep c l he

theorem lexFrom_ne_tooDeep (position k : Nat) (t : Text) :
    ∀ x ∈ lexFrom position k t, x.token ≠ .broken (.tooDeep c) := by
  fun_induction lexFrom position k t with
  | case1 => simp
  | case2 position k d r ih => exact ih
  | case3 position d r h ih => exact ih
  | case4 position d r h token l hl ih =>
    rw [List.forall_mem_cons]
    refine ⟨?_, ih⟩
    have := piece_ne_tooDeep c position d r
    rwa [hl] at this

end Pieces

/-! ## Single steps -/

section Steps

variable {limit : Nat} {dialect : Dialect} {s : Due × List Frame} {x : Lexeme} {c : Container}

/-- Where a container is opened inside too many others the reader gives up. -/
theorem step_of_opens (h : Opens s x) (hl : limit ≤ s.2.length) :
    ∃ c, step limit dialect s.1 s.2 x = .error (.tooDeep c) := by
  obtain ⟨due, frames⟩ := s
  obtain ⟨hd, hx⟩ := h
  have hv : ∃ c, stepValue limit dialect frames x = .error (.tooDeep c) := by
    have hlt : ¬ frames.length < limit := Nat.not_lt.2 hl
    rcases hx with hx | hx
    · exact ⟨.array, by simp [stepValue, hx, deepen, hlt]⟩
    · exact ⟨.object, by simp [stepValue, hx, deepen, hlt]⟩
  rcases hd with rfl | rfl
  · exact hv
  · rcases hx with hx | hx <;> simpa only [step, hx] using hv

theorem deepen_of_lt {frames : List Frame} {next : Due × List Frame} (h : frames.length < limit) :
    deepen limit c frames next = .ok next :=
  if_pos h

/-- Elsewhere the limit does not matter. -/
theorem step_of_not_opens (h : ¬ (Opens s x ∧ limit ≤ s.2.length)) :
    step limit dialect s.1 s.2 x = stepFreely dialect s x := by
  obtain ⟨due, frames⟩ := s
  have hv (hd : due = .value ∨ due = .firstItem) :
      stepValue limit dialect frames x = stepValue (frames.length + 1) dialect frames x := by
    have hlt (hx : x.token = .openArray ∨ x.token = .openObject) : frames.length < limit :=
      Nat.not_le.1 fun hl => h ⟨⟨hd, hx⟩, hl⟩
    unfold stepValue
    split
    case h_4 hx => rw [deepen_of_lt (hlt (.inl hx)), deepen_of_lt (Nat.lt_succ_self _)]
    case h_5 hx => rw [deepen_of_lt (hlt (.inr hx)), deepen_of_lt (Nat.lt_succ_self _)]
    all_goals rfl
  cases due with
  | value => exact hv (.inl rfl)
  | firstItem =>
    simp only [stepFreely, step]
    split
    · rfl
    · exact hv (.inr rfl)
  | firstName | name _ | colon _ _ | after _ => rfl

theorem stepName_ne_tooDeep (members : List (Text × Value)) (frames : List Frame) (x : Lexeme)
    (c : Container) : stepName members frames x ≠ .error (.tooDeep c) := by
  unfold stepName
  split <;> simp [fail]

theorem stepAfter_ne_tooDeep (v : Value) (frames : List Frame) (x : Lexeme) (c : Container) :
    stepAfter v frames x ≠ .error (.tooDeep c) := by
  unfold stepAfter
  split
  · simp [fail]
  · split <;> simp [fail]
  · split <;> simp [fail]

theorem stepFreely_ne_tooDeep (hx : x.token ≠ .broken (.tooDeep c)) :
    stepFreely dialect s x ≠ .error (.tooDeep c) := by
  obtain ⟨due, frames⟩ := s
  have hv : stepValue (frames.length + 1) dialect frames x ≠ .error (.tooDeep c) := by
    have hlt := Nat.lt_succ_self frames.length
    unfold stepValue
    split
    case h_3 => split <;> simp
    case h_4 => simp [deepen_of_lt hlt]
    case h_5 => simp [deepen_of_lt hlt]
    case h_6 e he => exact fun h => hx (by rw [he, Except.error.inj h])
    all_goals simp [fail]
  cases due with
  | value => exact hv
  | firstItem =>
    simp only [stepFreely, step]
    split
    · simp
    · exact hv
  | firstName =>
    simp only [stepFreely, step]
    split
    · simp
    · exact stepName_ne_tooDeep [] frames x c
  | name members => exact stepName_ne_tooDeep members frames x c
  | colon members key =>
    simp only [stepFreely, step]
    split <;> simp [fail]
  | after v => exact stepAfter_ne_tooDeep v frames x c

end Steps

/-! ## Whole texts -/

section Runs

variable {limit : Nat} {dialect : Dialect} {s : Due × List Frame}

theorem finish_ne_tooDeep (stop : Nat) (due : Due) (frames : List Frame) (c : Container) :
    finish stop due frames ≠ .error (.tooDeep c) := by
  cases due with
  | after v => cases frames <;> simp [finish, fail]
  | value | firstItem | firstName | name _ | colon _ _ => simp [finish, fail]

theorem not_comesTo_nil {P : Due × List Frame → Lexeme → Prop} : ¬ ComesTo dialect s [] P := by
  rintro ⟨before, x, after, s', h, -⟩
  cases before <;> cases h

theorem comesTo_cons {P : Due × List Frame → Lexeme → Prop} {x : Lexeme} {xs : List Lexeme} :
    ComesTo dialect s (x :: xs) P ↔
      P s x ∨ ∃ s', stepFreely dialect s x = .ok s' ∧ ComesTo dialect s' xs P := by
  constructor
  · rintro ⟨before, y, after, s', hxs, hb, ho⟩
    cases before with
    | nil =>
      cases hxs
      cases hb
      exact .inl ho
    | cons z before =>
      cases hxs
      rw [List.foldlM_cons] at hb
      cases ht : stepFreely dialect s x with
      | error e =>
        rw [ht] at hb
        cases hb
      | ok t =>
        rw [ht] at hb
        exact .inr ⟨t, rfl, before, y, after, s', rfl, hb, ho⟩
  · rintro (ho | ⟨t, ht, before, y, after, s', rfl, hb, ho⟩)
    · exact ⟨[], x, xs, s, rfl, rfl, ho⟩
    · exact ⟨x :: before, y, after, s', rfl, by rw [List.foldlM_cons, ht]; exact hb, ho⟩

theorem opensWithin_cons {x : Lexeme} {xs : List Lexeme} :
    OpensWithin limit dialect s (x :: xs) ↔ Opens s x ∧ limit ≤ s.2.length ∨
      ∃ s', stepFreely dialect s x = .ok s' ∧ OpensWithin limit dialect s' xs :=
  comesTo_cons

theorem run_tooDeep_iff {stop : Nat} {xs : List Lexeme}
    (hx : ∀ c, ∀ x ∈ xs, x.token ≠ .broken (.tooDeep c)) :
    (∃ c, run limit dialect stop s.1 s.2 xs = .error (.tooDeep c)) ↔
      OpensWithin limit dialect s xs := by
  induction xs generalizing s with
  | nil =>
    exact iff_of_false (fun ⟨c, h⟩ => finish_ne_tooDeep stop s.1 s.2 c h) not_comesTo_nil
  | cons x xs ih =>
    rw [opensWithin_cons]
    by_cases h : Opens s x ∧ limit ≤ s.2.length
    · obtain ⟨c, hc⟩ : ∃ c, step limit dialect s.1 s.2 x = .error (.tooDeep c) :=
        step_of_opens h.1 h.2
      exact iff_of_true ⟨c, by rw [run, hc]⟩ (.inl h)
    · rw [or_iff_right h, run, step_of_not_opens h]
      obtain ⟨hx, hxs⟩ : (∀ c, x.token ≠ .broken (.tooDeep c)) ∧
          ∀ c, ∀ y ∈ xs, y.token ≠ .broken (.tooDeep c) :=
        ⟨fun c => hx c x List.mem_cons_self, fun c y hy => hx c y (List.mem_cons_of_mem x hy)⟩
      cases hs : stepFreely dialect s x with
      | ok s' => simpa using ih hxs
      | error e =>
        refine iff_of_false ?_ (by simp)
        rintro ⟨c, he⟩
        cases he
        exact stepFreely_ne_tooDeep (hx c) hs

/-- **A reader gives up exactly the texts that are deeper than it goes.** -/
theorem readTo_tooDeep_iff {t : Text} :
    (∃ c, readTo limit dialect t = .error (.tooDeep c)) ↔ Deeper limit dialect t := by
  unfold readTo Deeper
  split
  · rename_i h
    exact iff_of_false (by simp [fail]) fun hd => hd.1 h
  · rename_i h
    rw [and_iff_right h]
    exact run_tooDeep_iff (s := (.value, [])) fun c => lexFrom_ne_tooDeep c 0 0 t

/-- Without a place to give up, another reader that goes at least as deep reads the same. -/
theorem run_of_not_opensWithin {limit' stop : Nat} {xs : List Lexeme} (hl : limit ≤ limit')
    (h : ¬ OpensWithin limit dialect s xs) :
    run limit dialect stop s.1 s.2 xs = run limit' dialect stop s.1 s.2 xs := by
  induction xs generalizing s with
  | nil => rfl
  | cons x xs ih =>
    rw [opensWithin_cons, not_or] at h
    obtain ⟨hx, hxs⟩ := h
    have hx' : ¬ (Opens s x ∧ limit' ≤ s.2.length) := fun ho =>
      hx ⟨ho.1, Nat.le_trans hl ho.2⟩
    rw [run, run, step_of_not_opens hx, step_of_not_opens hx']
    cases hs : stepFreely dialect s x with
    | error e => rfl
    | ok s' => exact ih fun ho => hxs ⟨s', hs, ho⟩

theorem readTo_of_not_deeper {limit' : Nat} {t : Text} (hl : limit ≤ limit')
    (h : ¬ Deeper limit dialect t) : readTo limit dialect t = readTo limit' dialect t := by
  unfold readTo
  split
  · rfl
  · rename_i hmark
    exact run_of_not_opensWithin (s := (.value, [])) hl fun ho => h ⟨hmark, ho⟩

end Runs

/-! ## Opening brackets -/

section Brackets

open Ascii

variable {limit : Nat} {dialect : Dialect}

theorem run_openBrackets (stop p k : Nat) {due : Due} {frames : List Frame} (rest : Text)
    (hdue : due = .value ∨ due = .firstItem) (hk : frames.length + k = limit) :
    run limit dialect stop due frames
      (lexFrom p 0 (List.replicate (k + 1) openBracket ++ rest)) = .error (.tooDeep .array) := by
  have hstep (x : Lexeme) (hx : x.token = .openArray) : step limit dialect due frames x =
      deepen limit .array frames (.firstItem, .array [] :: frames) := by
    rcases hdue with rfl | rfl <;> simp [step, stepValue, hx]
  have hlex (r : Text) :
      lexFrom p 0 (openBracket :: r) = ⟨.openArray, p⟩ :: lexFrom (p + 1) 0 r := rfl
  induction k generalizing p due frames with
  | zero =>
    rw [List.replicate_succ, List.cons_append, hlex, run, hstep _ rfl, deepen, if_neg (by omega)]
  | succ k ih =>
    rw [List.replicate_succ, List.cons_append, hlex, run, hstep _ rfl, deepen, if_pos (by omega)]
    refine ih (p + 1) (.inr rfl) ?_ ?_ ?_
    · rw [List.length_cons]
      omega
    · intro x hx
      simp [step, stepValue, hx]
    · exact fun r => rfl

/-- More brackets than the limit are too many, whatever comes after them. -/
theorem readTo_openBrackets {n : Nat} (h : limit < n) (rest : Text) :
    readTo limit dialect (List.replicate n openBracket ++ rest) = .error (.tooDeep .array) := by
  obtain ⟨m, rfl⟩ : ∃ m, n = limit + 1 + m := ⟨n - (limit + 1), by omega⟩
  have hrun : run limit dialect (List.replicate (limit + 1 + m) openBracket ++ rest).length
      .value [] (lexFrom 0 0 (List.replicate (limit + 1) openBracket ++
        (List.replicate m openBracket ++ rest))) = .error (.tooDeep .array) :=
    run_openBrackets _ 0 limit _ (.inl rfl) (Nat.zero_add limit)
  rw [← List.append_assoc, List.replicate_append_replicate] at hrun
  rw [readTo, if_neg, lex, hrun]
  rw [show limit + 1 + m = limit + m + 1 by omega, List.replicate_succ]
  exact fun hmark => absurd (Option.some.inj hmark) (by decide)

end Brackets

end DeltaBridge.Json
