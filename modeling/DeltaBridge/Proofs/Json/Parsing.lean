import DeltaBridge.Proofs.Json.Depth
import DeltaBridge.Proofs.Json.Lexing

/-!
# The texts that are read

A reader that goes to a limited depth reads exactly the texts of the grammar whose trees are not
deeper, with integers that are not too long and, if it is strict, without the numbers that JSON has
no notation for. It reads the value of the tree. A text of the grammar that it does not read is not
malformed: one of these limits is what it reports.

* `Json.follow`: the reader on symbols, `Json.run_of_follow`;
* `Json.Tree.Fits`: the trees within the limits; `Json.Leads`: symbols take the reader to a state,
  or to a limit; `Json.leads_yield`;
* `Json.Demands`: the symbols that can follow in a state, `Json.demands_of_follow`;
* **`Json.readTo_of_isText`**, **`Json.readTo_eq_ok_iff`**: the texts that are read;
  `Json.readTo_eq_ok_iff_of_not_deeper`: without regard to the depth.
-/

namespace DeltaBridge.Json

open Ascii

/-! ## Following symbols -/

/-- What the reader does with symbols, wherever they are. -/
def follow (limit : Nat) (dialect : Dialect) (s : Due × List Frame) (ks : List Symbol) :
    Except Error (Due × List Frame) :=
  ks.foldlM (fun s k => step limit dialect s.1 s.2 ⟨k.token, 0⟩) s

/-- The result is the failure to read something malformed. -/
def IsMalformed {α : Type} (r : Except Error α) : Prop := ∃ m, r = .error (.malformed m)

section Following

variable {limit : Nat} {dialect : Dialect} {s : Due × List Frame} {k : Symbol} {ks ls : List Symbol}

theorem isMalformed_fail {α : Type} (f : Fault) (p : Nat) :
    IsMalformed (fail f p : Except Error α) := ⟨_, rfl⟩

/-- The place of a piece matters only for where something malformed is reported. -/
theorem step_position (limit : Nat) (dialect : Dialect) (due : Due) (frames : List Frame)
    (token : Token) (p q : Nat) :
    step limit dialect due frames ⟨token, p⟩ = step limit dialect due frames ⟨token, q⟩ ∨
      IsMalformed (step limit dialect due frames ⟨token, p⟩) ∧
      IsMalformed (step limit dialect due frames ⟨token, q⟩) := by
  have hvalue : stepValue limit dialect frames ⟨token, p⟩ =
        stepValue limit dialect frames ⟨token, q⟩ ∨
      IsMalformed (stepValue limit dialect frames ⟨token, p⟩) ∧
      IsMalformed (stepValue limit dialect frames ⟨token, q⟩) := by
    cases token with
    | closeArray | closeObject | comma | colon | stray =>
      exact .inr ⟨isMalformed_fail _ _, isMalformed_fail _ _⟩
    | _ => exact .inl rfl
  have hname (members : List (Text × Value)) : stepName members frames ⟨token, p⟩ =
        stepName members frames ⟨token, q⟩ ∨
      IsMalformed (stepName members frames ⟨token, p⟩) ∧
      IsMalformed (stepName members frames ⟨token, q⟩) := by
    cases token with
    | string _ | brokenString _ => exact .inl rfl
    | _ => exact .inr ⟨isMalformed_fail _ _, isMalformed_fail _ _⟩
  cases due with
  | value => exact hvalue
  | firstItem =>
    cases token with
    | closeArray =>
      cases frames with
      | nil => exact hvalue
      | cons f fs => exact .inl rfl
    | _ => exact hvalue
  | firstName =>
    cases token with
    | closeObject => exact .inl rfl
    | _ => exact hname []
  | name members => exact hname members
  | colon members key =>
    cases token with
    | colon => exact .inl rfl
    | _ => exact .inr ⟨isMalformed_fail _ _, isMalformed_fail _ _⟩
  | after v =>
    rcases frames with _ | ⟨_ | _, _⟩
    · exact .inr ⟨isMalformed_fail _ _, isMalformed_fail _ _⟩
    · cases token with
      | comma | closeArray => exact .inl rfl
      | _ => exact .inr ⟨isMalformed_fail _ _, isMalformed_fail _ _⟩
    · cases token with
      | comma | closeObject => exact .inl rfl
      | _ => exact .inr ⟨isMalformed_fail _ _, isMalformed_fail _ _⟩

theorem follow_cons : follow limit dialect s (k :: ks) =
    (step limit dialect s.1 s.2 ⟨k.token, 0⟩).bind fun s => follow limit dialect s ks := by
  rw [follow, List.foldlM_cons]
  rfl

theorem follow_append : follow limit dialect s (ks ++ ls) =
    (follow limit dialect s ks).bind fun s => follow limit dialect s ls := by
  rw [follow, List.foldlM_append]
  rfl

/-- **The reader does with pieces what it does with the symbols that they are**, up to the places
that it reports. -/
theorem run_of_follow (limit : Nat) (dialect : Dialect) (stop : Nat) (s : Due × List Frame)
    {xs : List Lexeme} (h : xs.map Lexeme.token = ks.map Symbol.token) :
    run limit dialect stop s.1 s.2 xs =
        ((follow limit dialect s ks).bind fun s => finish stop s.1 s.2) ∨
      IsMalformed (run limit dialect stop s.1 s.2 xs) ∧
      IsMalformed (follow limit dialect s ks) := by
  induction ks generalizing s xs with
  | nil =>
    obtain rfl := List.map_eq_nil_iff.1 h
    exact .inl rfl
  | cons k ks ih =>
    obtain ⟨⟨token, p⟩, xs, rfl, rfl, hxs⟩ := List.map_eq_cons_iff.1 h
    rw [follow_cons, run]
    rcases step_position limit dialect s.1 s.2 k.token p 0 with heq | ⟨⟨m, hm⟩, ⟨m', hm'⟩⟩
    · rw [heq]
      cases hstep : step limit dialect s.1 s.2 ⟨k.token, 0⟩ with
      | error e => exact .inl rfl
      | ok s' => exact ih s' hxs
    · rw [hm, hm']
      exact .inr ⟨⟨m, rfl⟩, ⟨m', rfl⟩⟩

end Following

/-! ## Trees within the limits -/

/-- The leaf is read where it may come. -/
def Leaf.IsRead (dialect : Dialect) : Leaf → Prop
  | .number l => l.IsShort
  | .constant _ => dialect = .lenient
  | _ => True

/-- All leaves among the symbols are read. -/
def AreRead (dialect : Dialect) (ks : List Symbol) : Prop := ∀ l, .leaf l ∈ ks → l.IsRead dialect

/-- The tree is within the limits of the reader: its leaves are read, and it is not too deep. -/
structure Tree.Fits (limit : Nat) (dialect : Dialect) (x : Tree) : Prop where
  read : AreRead dialect x.yield
  shallow : x.depth ≤ limit

/-- A limit of the reader is reported. -/
def Error.IsLimit : Error → Prop
  | longInteger _ | tooDeep _ => True
  | malformed _ | constant _ => False

/-- A text is given up that is not malformed: for a limit, or by a strict reader for a number
without a notation in JSON. -/
def Error.GivesUp (dialect : Dialect) (e : Error) : Prop :=
  e.IsLimit ∨ dialect = .strict ∧ ∃ c, e = .constant c

/-- The symbols take the reader from one state to another one, if a condition holds. Otherwise it
gives them up. -/
def Leads (limit : Nat) (dialect : Dialect) (ks : List Symbol) (s s' : Due × List Frame)
    (fits : Prop) : Prop :=
  fits ∧ follow limit dialect s ks = .ok s' ∨
    ¬fits ∧ ∃ e, follow limit dialect s ks = .error e ∧ e.GivesUp dialect

section Leading

variable {limit : Nat} {dialect : Dialect} {s s' s'' : Due × List Frame} {ks ls : List Symbol}
  {k : Symbol} {fits fits' : Prop} {due : Due} {frames : List Frame}

@[simp] theorem areRead_nil : AreRead dialect [] := fun _ h => by cases h

@[simp] theorem areRead_cons_leaf {l : Leaf} :
    AreRead dialect (.leaf l :: ks) ↔ l.IsRead dialect ∧ AreRead dialect ks := by
  simp [AreRead, or_imp, forall_and]

theorem areRead_cons (hk : k.IsMark) : AreRead dialect (k :: ks) ↔ AreRead dialect ks := by
  cases k with
  | leaf _ => exact hk.elim
  | _ => simp [AreRead]

theorem areRead_key (key : Text) :
    AreRead dialect (.leaf (.text key) :: .colon :: ks) ↔ AreRead dialect ks := by
  rw [areRead_cons_leaf, areRead_cons (k := .colon) trivial]
  exact and_iff_right trivial

@[simp] theorem areRead_append :
    AreRead dialect (ks ++ ls) ↔ AreRead dialect ks ∧ AreRead dialect ls := by
  simp [AreRead, or_imp, forall_and]

theorem areRead_strict_iff {x : Tree} :
    AreRead .strict x.yield ↔ x.IsShort ∧ ∀ c, ¬x.Has (.constant c) := by
  constructor
  · exact fun h => ⟨fun l hl => h _ hl, fun c hc => by cases h _ hc⟩
  · rintro ⟨hshort, hconstant⟩ l hl
    cases l with
    | number l => exact hshort l hl
    | constant c => exact absurd hl (hconstant c)
    | null | bool _ | text _ => trivial

theorem Leads.congr (h : Leads limit dialect ks s s' fits) (hf : fits ↔ fits') :
    Leads limit dialect ks s s' fits' := by
  rwa [Leads, ← hf]

theorem Leads.append (hk : Leads limit dialect ks s s' fits)
    (hl : Leads limit dialect ls s' s'' fits') :
    Leads limit dialect (ks ++ ls) s s'' (fits ∧ fits') := by
  unfold Leads
  rw [follow_append]
  rcases hk with ⟨hf, hk⟩ | ⟨hf, e, hk, he⟩
  · rw [hk, and_iff_right hf]
    exact hl
  · rw [hk]
    exact .inr ⟨fun h => hf h.1, e, rfl, he⟩

theorem Leads.cons (hk : step limit dialect s.1 s.2 ⟨k.token, 0⟩ = .ok s')
    (hl : Leads limit dialect ks s' s'' fits) : Leads limit dialect (k :: ks) s s'' fits := by
  unfold Leads
  rw [follow_cons, hk]
  exact hl

theorem Leads.nil : Leads limit dialect [] s s True := .inl ⟨trivial, rfl⟩

theorem Leads.stop {e : Error} (hk : step limit dialect s.1 s.2 ⟨k.token, 0⟩ = .error e)
    (he : e.GivesUp dialect) (hf : ¬fits) : Leads limit dialect (k :: ks) s s' fits :=
  .inr ⟨hf, e, by rw [follow_cons, hk]; rfl, he⟩

theorem Literal.token_of_isShort {l : Literal} (h : l.IsShort) : l.token = .scalar l.number := by
  cases l with
  | integer negative ds =>
    have h : ds.length ≤ digitLimit := h
    simp [Literal.token, Literal.value, Literal.number, h]
  | decimal n => rfl

theorem Literal.token_of_not_isShort {l : Literal} (h : ¬l.IsShort) :
    ∃ n, l.token = .broken (.longInteger n) := by
  cases l with
  | integer negative ds =>
    have h : ¬ds.length ≤ digitLimit := h
    exact ⟨ds.length, by simp [Literal.token, Literal.value, h]⟩
  | decimal n => exact absurd trivial h

/-- The piece is a value without parts, or a string. -/
def Token.IsLeaf : Token → Prop
  | .string _ | .scalar _ | .constant _ | .broken _ => True
  | _ => False

theorem Leaf.isLeaf_token (l : Leaf) : l.token.IsLeaf := by
  cases l with
  | number l =>
    show l.token.IsLeaf
    unfold Literal.token
    split <;> trivial
  | _ => trivial

theorem Leaf.token_ne_closeArray (l : Leaf) : l.token ≠ .closeArray := by
  intro h
  have hl := l.isLeaf_token
  rw [h] at hl
  exact hl

theorem eq_of_token {l : Symbol} (hl : l.IsMark) (h : k.token = l.token) : k = l := by
  cases k with
  | leaf k =>
    have hk := k.isLeaf_token
    rw [show k.token = l.token from h] at hk
    cases l with
    | leaf _ => exact hl.elim
    | _ => exact hk.elim
  | _ =>
    cases l with
    | leaf l =>
      exact hl.elim
    | _ => first | rfl | cases h

theorem leads_leaf (l : Leaf) (hd : due.AwaitsValue) :
    Leads limit dialect [.leaf l] (due, frames) (.after l.value, frames) (l.IsRead dialect) := by
  have hstep : step limit dialect due frames ⟨l.token, 0⟩ =
      stepValue limit dialect frames ⟨l.token, 0⟩ :=
    step_of_awaitsValue hd l.token_ne_closeArray
  cases l with
  | null | bool _ | text _ => exact .cons hstep .nil
  | number l =>
    by_cases hl : l.IsShort
    · have hread : stepValue limit dialect frames ⟨(Leaf.number l).token, 0⟩ =
          .ok (.after l.number, frames) := by
        simp only [stepValue, Leaf.token, Literal.token_of_isShort hl]
      exact Leads.congr (.cons (hstep.trans hread) .nil) (iff_of_true trivial hl)
    · obtain ⟨n, hn⟩ := Literal.token_of_not_isShort hl
      refine .stop (e := .longInteger n) (hstep.trans ?_) (.inl trivial) hl
      simp only [stepValue, Leaf.token, hn]
  | constant c =>
    cases dialect with
    | strict => exact .stop hstep (.inr ⟨rfl, c, rfl⟩) (by simp [Leaf.IsRead])
    | lenient => exact Leads.congr (.cons hstep .nil) (iff_of_true trivial rfl)

theorem within_and_iff {P Q : Prop} {a b c : Nat} (h : c = max a b) :
    (P ∧ a ≤ limit) ∧ (Q ∧ b ≤ limit) ↔ (P ∧ Q) ∧ c ≤ limit := by
  rw [h, Nat.max_le]
  exact and_and_and_comm

/-- A container, unless it is inside too many others. -/
theorem Leads.deepen {c : Container} {next : Due × List Frame} {depth : Nat} {P : Prop}
    (hk : step limit dialect due frames ⟨k.token, 0⟩ = deepen limit c frames next)
    (h : frames.length < limit →
      Leads limit dialect ks next s' (P ∧ frames.length + (depth + 1) ≤ limit)) :
    Leads limit dialect (k :: ks) (due, frames) s' (P ∧ frames.length + (depth + 1) ≤ limit) := by
  by_cases hl : frames.length < limit
  · exact .cons (hk.trans (if_pos hl)) (h hl)
  · rw [Json.deepen, if_neg hl] at hk
    exact .stop hk (.inl trivial) fun h => by omega

theorem step_openArray (hd : due.AwaitsValue) :
    step limit dialect due frames ⟨.openArray, 0⟩ =
      deepen limit .array frames (.firstItem, .array [] :: frames) :=
  step_of_awaitsValue hd (by simp)

theorem step_openObject (hd : due.AwaitsValue) :
    step limit dialect due frames ⟨.openObject, 0⟩ =
      deepen limit .object frames (.firstName, frames) :=
  step_of_awaitsValue hd (by simp)

theorem Leads.key {members : List (Text × Value)} {key : Text}
    (hd : due = .name members ∨ due = .firstName ∧ members = [])
    (h : Leads limit dialect ks (.value, .object members key :: frames) s' fits) :
    Leads limit dialect (.leaf (.text key) :: .colon :: ks) (due, frames) s' fits := by
  have hkey : step limit dialect due frames ⟨.string key, 0⟩ =
      .ok (.colon members key, frames) := by
    rcases hd with rfl | ⟨rfl, rfl⟩ <;> rfl
  exact .cons hkey (.cons rfl h)

-- The induction is on trees, items and members at once. What is within the limits depends on how
-- many containers are open.
mutual

/-- **The symbols of a tree take the reader to its value**, unless it comes to a limit. -/
theorem leads_yield : ∀ (x : Tree) (due : Due) (frames : List Frame), due.AwaitsValue →
    frames.length ≤ limit →
    Leads limit dialect x.yield (due, frames) (.after x.value, frames)
      (AreRead dialect x.yield ∧ frames.length + x.depth ≤ limit)
  | .leaf l, due, frames => fun hd hf => by
    refine Leads.congr (leads_leaf l hd) ?_
    rw [Tree.yield, areRead_cons_leaf, and_iff_left areRead_nil]
    exact (and_iff_left hf).symm
  | .array [], due, frames => fun hd _ => by
    refine Leads.deepen (k := .openArray) (step_openArray hd) fun hl => ?_
    refine Leads.congr (.cons (k := .closeArray) rfl .nil) (iff_of_true trivial ⟨?_, hl⟩)
    simp [AreRead, Tree.yield]
  | .array (x :: xs), due, frames => fun hd _ => by
    refine Leads.deepen (k := .openArray) (step_openArray hd) fun hl => ?_
    have hx := leads_yield x .firstItem (.array [] :: frames) trivial hl
    have hxs := leads_yieldItems xs x.value [] frames hl
    refine Leads.congr (hx.append hxs) ?_
    rw [Tree.yield, areRead_cons (k := .openArray) trivial, areRead_append]
    refine within_and_iff ?_
    rw [Tree.depthItems, List.length_cons]
    omega
  | .object [], due, frames => fun hd _ => by
    refine Leads.deepen (k := .openObject) (step_openObject hd) fun hl => ?_
    refine Leads.congr (.cons (k := .closeObject) rfl .nil) (iff_of_true trivial ⟨?_, hl⟩)
    simp [AreRead, Tree.yield]
  | .object ((k, x) :: ms), due, frames => fun hd _ => by
    refine Leads.deepen (k := .openObject) (step_openObject hd) fun hl => ?_
    have hx := leads_yield x .value (.object [] k :: frames) trivial hl
    have hms := leads_yieldMembers ms x.value [] k frames hl
    refine Leads.congr (.key (.inr ⟨rfl, rfl⟩) (hx.append hms)) ?_
    rw [Tree.yield, areRead_cons (k := .openObject) trivial, areRead_key, areRead_append]
    refine within_and_iff ?_
    rw [Tree.depthMembers, List.length_cons]
    omega

theorem leads_yieldItems : ∀ (xs : List Tree) (v : Value) (items : List Value)
    (frames : List Frame), frames.length < limit →
    Leads limit dialect (Tree.yieldItems xs) (.after v, .array items :: frames)
      (.after (.list (items.reverse ++ v :: Tree.valueItems xs)), frames)
      (AreRead dialect (Tree.yieldItems xs) ∧ frames.length + 1 + Tree.depthItems xs ≤ limit)
  | [], v, items, frames => fun hl => by
    have hstep : step limit dialect (.after v) (.array items :: frames) ⟨.closeArray, 0⟩ =
        .ok (.after (.list (items.reverse ++ [v])), frames) := by
      rw [← List.reverse_cons]
      rfl
    refine Leads.congr (.cons (k := .closeArray) hstep .nil) ?_
    exact iff_of_true trivial ⟨by simp [AreRead, Tree.yieldItems], hl⟩
  | x :: xs, v, items, frames => fun hl => by
    have hx := leads_yield x .value (.array (v :: items) :: frames) trivial hl
    have hxs := leads_yieldItems xs x.value (v :: items) frames hl
    rw [List.reverse_cons, List.append_assoc, List.singleton_append] at hxs
    refine Leads.congr (.cons (k := .comma) rfl (hx.append hxs)) ?_
    rw [Tree.yieldItems, areRead_cons (k := .comma) trivial, areRead_append]
    refine within_and_iff ?_
    rw [Tree.depthItems, List.length_cons]
    omega

theorem leads_yieldMembers : ∀ (ms : List (Text × Tree)) (v : Value)
    (members : List (Text × Value)) (key : Text) (frames : List Frame), frames.length < limit →
    Leads limit dialect (Tree.yieldMembers ms) (.after v, .object members key :: frames)
      (.after (.object (Members.ofPairs (members.reverse ++ (key, v) :: Tree.valueMembers ms))),
        frames)
      (AreRead dialect (Tree.yieldMembers ms) ∧
        frames.length + 1 + Tree.depthMembers ms ≤ limit)
  | [], v, members, key, frames => fun hl => by
    have hstep : step limit dialect (.after v) (.object members key :: frames)
        ⟨.closeObject, 0⟩ =
        .ok (.after (.object (Members.ofPairs (members.reverse ++ [(key, v)]))), frames) := by
      rw [← List.reverse_cons]
      rfl
    refine Leads.congr (.cons (k := .closeObject) hstep .nil) ?_
    exact iff_of_true trivial ⟨by simp [AreRead, Tree.yieldMembers], hl⟩
  | (k, x) :: ms, v, members, key, frames => fun hl => by
    have hx := leads_yield x .value (.object ((key, v) :: members) k :: frames) trivial hl
    have hms := leads_yieldMembers ms x.value ((key, v) :: members) k frames hl
    rw [List.reverse_cons, List.append_assoc, List.singleton_append] at hms
    refine Leads.congr (.cons (k := .comma) rfl (.key (.inl rfl) (hx.append hms))) ?_
    rw [Tree.yieldMembers, areRead_cons (k := .comma) trivial, areRead_key, areRead_append]
    refine within_and_iff ?_
    rw [Tree.depthMembers, List.length_cons]
    omega

end

end Leading

/-! ## What symbols can follow -/

/-- The symbols end the open containers, and nothing comes after them. -/
def Closes : List Frame → List Symbol → Prop
  | [], ks => ks = []
  | .array _ :: frames, ks => ∃ xs ls, ks = Tree.yieldItems xs ++ ls ∧ Closes frames ls
  | .object _ _ :: frames, ks => ∃ ms ls, ks = Tree.yieldMembers ms ++ ls ∧ Closes frames ls

/-- The symbols are what the reader waits for, and what ends the open containers. -/
def Demands : Due × List Frame → List Symbol → Prop
  | (.value, frames), ks => ∃ x ls, ks = Tree.yield x ++ ls ∧ Closes frames ls
  | (.firstItem, frames), ks => (∃ ls, ks = .closeArray :: ls ∧ Closes frames.tail ls) ∨
      ∃ x ls, ks = Tree.yield x ++ ls ∧ Closes frames ls
  | (.firstName, frames), ks => (∃ ls, ks = .closeObject :: ls ∧ Closes frames ls) ∨
      ∃ k x ms ls,
        ks = .leaf (.text k) :: .colon :: (Tree.yield x ++ (Tree.yieldMembers ms ++ ls)) ∧
        Closes frames ls
  | (.name _, frames), ks =>
      ∃ k x ms ls,
        ks = .leaf (.text k) :: .colon :: (Tree.yield x ++ (Tree.yieldMembers ms ++ ls)) ∧
        Closes frames ls
  | (.colon _ _, frames), ks =>
      ∃ x ms ls, ks = .colon :: (Tree.yield x ++ (Tree.yieldMembers ms ++ ls)) ∧ Closes frames ls
  | (.after _, frames), ks => Closes frames ks

section Demanding

variable {limit : Nat} {dialect : Dialect} {s s' : Due × List Frame} {ks : List Symbol}
  {k : Symbol} {due : Due} {frames : List Frame} {v : Value}

theorem eq_text_of_token {t : Text} (h : k.token = .string t) : k = .leaf (.text t) := by
  cases k with
  | leaf l =>
    cases l with
    | text u =>
      cases h
      rfl
    | number l =>
      have h : l.token = .string t := h
      unfold Literal.token at h
      split at h <;> cases h
    | null | bool _ | constant _ => cases h
  | _ => cases h

theorem stepValue_isLeaf {token : Token} {p : Nat} (ht : token.IsLeaf)
    (h : stepValue limit dialect frames ⟨token, p⟩ = .ok s') : ∃ w, s' = (.after w, frames) := by
  cases token with
  | string _ | scalar _ =>
    cases h
    exact ⟨_, rfl⟩
  | constant c =>
    cases dialect with
    | strict => cases h
    | lenient =>
      cases h
      exact ⟨_, rfl⟩
  | broken _ => cases h
  | _ => exact ht.elim

theorem demands_stepValue (h : stepValue limit dialect frames ⟨k.token, 0⟩ = .ok s')
    (hs : Demands s' ks) : Demands (.value, frames) (k :: ks) := by
  cases k with
  | leaf l =>
    obtain ⟨w, rfl⟩ := stepValue_isLeaf l.isLeaf_token h
    exact ⟨.leaf l, ks, rfl, hs⟩
  | openArray =>
    unfold stepValue Symbol.token deepen at h
    simp only at h
    split at h
    · cases h
      rcases hs with ⟨ls, rfl, hls⟩ | ⟨x, _, rfl, xs, ls, rfl, hls⟩
      · exact ⟨.array [], ls, rfl, hls⟩
      · exact ⟨.array (x :: xs), ls, by simp [Tree.yield], hls⟩
    · cases h
  | openObject =>
    unfold stepValue Symbol.token deepen at h
    simp only at h
    split at h
    · cases h
      rcases hs with ⟨ls, rfl, hls⟩ | ⟨k, x, ms, ls, rfl, hls⟩
      · exact ⟨.object [], ls, rfl, hls⟩
      · exact ⟨.object ((k, x) :: ms), ls, by simp [Tree.yield], hls⟩
    · cases h
  | closeArray | closeObject | comma | colon => cases h

theorem demands_stepName {members : List (Text × Value)}
    (h : stepName members frames ⟨k.token, 0⟩ = .ok s') (hs : Demands s' ks) :
    Demands (.name members, frames) (k :: ks) := by
  unfold stepName at h
  simp only at h
  split at h
  · rename_i t ht
    cases h
    obtain rfl := eq_text_of_token ht
    obtain ⟨x, ms, ls, rfl, hls⟩ := hs
    exact ⟨t, x, ms, ls, rfl, hls⟩
  · cases h
  · cases h

theorem demands_stepAfter (h : stepAfter v frames ⟨k.token, 0⟩ = .ok s') (hs : Demands s' ks) :
    Closes frames (k :: ks) := by
  unfold stepAfter at h
  split at h
  · cases h
  · simp only at h
    split at h
    · rename_i ht
      cases h
      obtain rfl := eq_of_token (l := .comma) trivial ht
      obtain ⟨x, _, rfl, xs, ls, rfl, hls⟩ := hs
      exact ⟨x :: xs, ls, by simp [Tree.yieldItems], hls⟩
    · rename_i ht
      cases h
      obtain rfl := eq_of_token (l := .closeArray) trivial ht
      exact ⟨[], ks, rfl, hs⟩
    · cases h
  · simp only at h
    split at h
    · rename_i ht
      cases h
      obtain rfl := eq_of_token (l := .comma) trivial ht
      obtain ⟨k, x, ms, ls, rfl, hls⟩ := hs
      exact ⟨(k, x) :: ms, ls, by simp [Tree.yieldMembers], hls⟩
    · rename_i ht
      cases h
      obtain rfl := eq_of_token (l := .closeObject) trivial ht
      exact ⟨[], ks, rfl, hs⟩
    · cases h

/-- **One step back**: the symbol that is taken, and what can follow then. -/
theorem demands_step (h : step limit dialect s.1 s.2 ⟨k.token, 0⟩ = .ok s') (hs : Demands s' ks) :
    Demands s (k :: ks) := by
  obtain ⟨due, frames⟩ := s
  cases due with
  | value => exact demands_stepValue h hs
  | firstItem =>
    simp only [step] at h
    split at h
    · rename_i ht
      cases h
      obtain rfl := eq_of_token (l := .closeArray) trivial ht
      exact .inl ⟨ks, rfl, hs⟩
    · exact .inr (demands_stepValue h hs)
  | firstName =>
    simp only [step] at h
    split at h
    · rename_i ht
      cases h
      obtain rfl := eq_of_token (l := .closeObject) trivial ht
      exact .inl ⟨ks, rfl, hs⟩
    · exact .inr (demands_stepName h hs)
  | name members => exact demands_stepName h hs
  | colon members key =>
    simp only [step] at h
    split at h
    · rename_i ht
      cases h
      obtain rfl := eq_of_token (l := .colon) trivial ht
      obtain ⟨x, _, rfl, ms, ls, rfl, hls⟩ := hs
      exact ⟨x, ms, ls, rfl, hls⟩
    · cases h
  | after v => exact demands_stepAfter h hs

/-- **What the reader can follow to the end is what it waits for.** -/
theorem demands_of_follow (h : follow limit dialect s ks = .ok (.after v, [])) : Demands s ks := by
  induction ks generalizing s with
  | nil =>
    cases h
    exact rfl
  | cons k ks ih =>
    rw [follow_cons] at h
    cases hstep : step limit dialect s.1 s.2 ⟨k.token, 0⟩ with
    | error e =>
      rw [hstep] at h
      cases h
    | ok s' =>
      rw [hstep] at h
      exact demands_step hstep (ih h)

end Demanding

/-! ## Whole texts -/

section Texts

variable {limit : Nat} {dialect : Dialect} {t : Text} {x : Tree} {v : Value} {stop : Nat}

theorem Symbol.isWhole_token (k : Symbol) : k.token.IsWhole := by
  cases k with
  | leaf l =>
    cases l with
    | number l =>
      show l.token.IsWhole
      unfold Literal.token
      split <;> trivial
    | _ => trivial
  | _ => trivial

theorem isMalformed_step (limit : Nat) (dialect : Dialect) {token : Token} (h : ¬token.IsWhole)
    (due : Due) (frames : List Frame) (p : Nat) :
    IsMalformed (step limit dialect due frames ⟨token, p⟩) := by
  cases token with
  | stray | brokenString _ =>
    cases due with
    | after v => rcases frames with _ | ⟨_ | _, _⟩ <;> exact ⟨_, rfl⟩
    | _ => exact ⟨_, rfl⟩
  | _ => exact absurd trivial h

theorem isWhole_of_run {due : Due} {frames : List Frame} {xs : List Lexeme}
    (h : run limit dialect stop due frames xs = .ok v) : ∀ y ∈ xs, y.token.IsWhole := by
  induction xs generalizing due frames with
  | nil => simp
  | cons y ys ih =>
    rw [run] at h
    cases hstep : step limit dialect due frames y with
    | error e =>
      rw [hstep] at h
      cases h
    | ok s =>
      rw [hstep] at h
      refine List.forall_mem_cons.2 ⟨?_, ih h⟩
      by_contra hy
      obtain ⟨m, hm⟩ := isMalformed_step limit dialect hy due frames y.position
      rw [hm] at hstep
      cases hstep

theorem finish_eq_ok {due : Due} {frames : List Frame} (h : finish stop due frames = .ok v) :
    due = .after v ∧ frames = [] := by
  cases due with
  | after w =>
    cases frames with
    | nil =>
      cases h
      exact ⟨rfl, rfl⟩
    | cons f fs => cases h
  | _ => cases h

theorem IsText.head?_ne (h : IsText x t) : t.head? ≠ some 0xFEFF := by
  intro hmark
  obtain ⟨u, rfl⟩ := List.head?_eq_some_iff.1 hmark
  have hpiece : lexFrom 0 0 (0xFEFF :: u) = ⟨.stray, 0⟩ :: lexFrom 1 0 u := rfl
  have htokens := h.tokens (by simpa using apart_yield x .nil (by simp)) 0
  rw [hpiece, List.map_cons] at htokens
  obtain ⟨k, ks, -, hk, -⟩ := List.map_eq_cons_iff.1 htokens.symm
  have := k.isWhole_token
  rw [hk] at this
  exact this

theorem leads_text (limit : Nat) (dialect : Dialect) (x : Tree) :
    Leads limit dialect x.yield (.value, []) (.after x.value, []) (x.Fits limit dialect) := by
  refine Leads.congr (leads_yield x .value [] trivial (Nat.zero_le _)) ?_
  rw [List.length_nil, Nat.zero_add]
  exact ⟨fun h => ⟨h.1, h.2⟩, fun h => ⟨h.1, h.2⟩⟩

/-- **A text of the grammar is read as the value of its tree, if that is within the limits.** If it
is not, it is given up, and not for being malformed. -/
theorem readTo_of_isText (limit : Nat) (dialect : Dialect) (h : IsText x t) :
    x.Fits limit dialect ∧ readTo limit dialect t = .ok x.value ∨
      ¬x.Fits limit dialect ∧ ∃ e, readTo limit dialect t = .error e ∧ e.GivesUp dialect := by
  have htokens := h.tokens (by simpa using apart_yield x .nil (by simp)) 0
  rw [readTo, if_neg h.head?_ne, show lex t = lexFrom 0 0 t from rfl]
  rcases leads_text limit dialect x with ⟨hf, hfollow⟩ | ⟨hf, e, hfollow, he⟩
  · rcases run_of_follow limit dialect t.length (.value, []) htokens with hrun | ⟨-, m, hm⟩
    · exact .inl ⟨hf, by rw [hrun, hfollow]; rfl⟩
    · rw [hfollow] at hm
      cases hm
  · rcases run_of_follow limit dialect t.length (.value, []) htokens with hrun | ⟨-, m, hm⟩
    · exact .inr ⟨hf, e, by rw [hrun, hfollow]; rfl, he⟩
    · rw [hfollow] at hm
      cases hm
      rcases he with he | ⟨-, c, hc⟩
      · exact he.elim
      · cases hc

/-- **What is read is a text of the grammar within the limits**, as the value of its tree. -/
theorem readTo_eq_ok_iff : readTo limit dialect t = .ok v ↔
    ∃ x, IsText x t ∧ x.Fits limit dialect ∧ x.value = v := by
  constructor
  · intro h
    have hread := h
    unfold readTo at h
    split at h
    · cases h
    have hwhole := isWhole_of_run h
    obtain ⟨ks, hks, htokens⟩ := exists_spaced 0 0 t hwhole
    rcases run_of_follow limit dialect t.length (.value, []) htokens with hrun | ⟨⟨m, hm⟩, -⟩
    · rw [show lex t = lexFrom 0 0 t from rfl, hrun] at h
      cases hfollow : follow limit dialect (.value, []) ks with
      | error e =>
        rw [hfollow] at h
        cases h
      | ok s =>
        obtain ⟨due, frames⟩ := s
        rw [hfollow] at h
        obtain ⟨rfl, rfl⟩ := finish_eq_ok h
        obtain ⟨x, ls, rfl, rfl⟩ := demands_of_follow hfollow
        have hx : IsText x t := by simpa [IsText] using hks
        rcases readTo_of_isText limit dialect hx with ⟨hf, hok⟩ | ⟨-, e, he, -⟩
        · exact ⟨x, hx, hf, Except.ok.inj (hok.symm.trans hread)⟩
        · rw [he] at hread
          cases hread
    · rw [show lex t = lexFrom 0 0 t from rfl, hm] at h
      cases h
  · rintro ⟨x, hx, hf, rfl⟩
    exact ((readTo_of_isText limit dialect hx).resolve_right fun h => h.1 hf).2

theorem deeper_iff_of_isText (h : IsText x t) (hr : AreRead dialect x.yield) :
    Deeper limit dialect t ↔ limit < x.depth := by
  constructor
  · intro hd
    by_contra hx
    obtain ⟨c, hc⟩ := readTo_tooDeep_iff.2 hd
    rcases readTo_of_isText limit dialect h with ⟨-, hok⟩ | ⟨hf, -⟩
    · rw [hc] at hok
      cases hok
    · exact hf ⟨hr, Nat.not_lt.1 hx⟩
  · intro hx
    by_contra hd
    have hok : readTo x.depth dialect t = .ok x.value :=
      ((readTo_of_isText x.depth dialect h).resolve_right fun hf => hf.1 ⟨hr, Nat.le_refl _⟩).2
    rw [← readTo_of_not_deeper hx.le hd] at hok
    rcases readTo_of_isText limit dialect h with ⟨hf, -⟩ | ⟨-, e, he, -⟩
    · exact absurd hf.shallow (Nat.not_le.2 hx)
    · rw [he] at hok
      cases hok

/-- Where a text is not too deep, what is read is what has leaves that are read. -/
theorem readTo_eq_ok_iff_of_not_deeper (h : ¬Deeper limit dialect t) :
    readTo limit dialect t = .ok v ↔ ∃ x, IsText x t ∧ AreRead dialect x.yield ∧ x.value = v := by
  rw [readTo_eq_ok_iff]
  refine exists_congr fun x => and_congr_right fun hx => and_congr_left' ⟨Tree.Fits.read, ?_⟩
  exact fun hr => ⟨hr, Nat.not_lt.1 fun hd => h ((deeper_iff_of_isText hx hr).2 hd)⟩

end Texts

end DeltaBridge.Json
