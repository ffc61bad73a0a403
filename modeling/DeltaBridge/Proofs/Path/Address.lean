import DeltaBridge.Path.Parser
import DeltaBridge.Proofs.Decimal.Notation
import DeltaBridge.Proofs.Path.Place
import Mathlib.Data.List.Induction
import Mathlib.Tactic.IntervalCases

/-!
# Addresses of nodes

The address of a node is the expression that spells out its location: a dollar sign, and for each
step the key in quotes or the position, in brackets. It is compiled to the expression that takes
these steps, and this finds the node and nothing else.

* `Step.text`, `address`; `Step.IsAddressable`: the steps that can be spelled out; `Path.ofSteps`:
  the path that takes them;
* `Matcher.LawfulReading`: what is documented of expressions;
  **`Matcher.LawfulReading.compile_address`**;
* **`Matcher.LawfulSearch.find_ofSteps`**: a step finds one node, so the steps of a location find the
  node that is there;
* `Path.lex?_address`, `Path.ofTokens_address`: the pieces of an address, and the path of those;
  `Path.parse_address`, **`Matcher.lawfulReading_standard`**: the standard matcher reads addresses,
  also with little room, `Matcher.lawfulReading_within`.
-/

namespace DeltaBridge

open Ascii

/-- The step in brackets, a key in quotes. -/
def Step.text : Step → Text
  | .member k => openBracket :: apostrophe :: (k ++ [apostrophe, closeBracket])
  | .element i => openBracket :: (natText i ++ [closeBracket])

/-- The expression that spells out some steps from the root. -/
def address (ss : List Step) : Text := dollar :: ss.flatMap Step.text

/-- The key has no quotes and no backslashes and is no star; the position is not too long to be
read. -/
def Step.IsAddressable : Step → Prop
  | .member k => apostrophe ∉ k ∧ quote ∉ k ∧ backslash ∉ k ∧ k ≠ "*"
  | .element i => (natDigits i).length ≤ digitLimit

namespace Path

/-- The path that takes one step. -/
def ofStep : Step → Path
  | .member k => .names [k]
  | .element i => .positions [i]

/-- The path that takes some steps after another path. -/
def ofSteps (p : Path) (ss : List Step) : Path := ss.foldl (fun p s => .child p (ofStep s)) p

theorem ofSteps_concat (p : Path) (ss : List Step) (s : Step) :
    ofSteps p (ss ++ [s]) = .child (ofSteps p ss) (ofStep s) := by
  rw [ofSteps, List.foldl_append]
  rfl

/-- The search for some steps takes a level for each. -/
theorem height_ofSteps (d : Nat) (ss : List Step) : (ofSteps .root ss).height d = ss.length + 1 := by
  induction ss using List.reverseRecOn with
  | nil => rfl
  | append_singleton ss s ih =>
    have hs : (ofStep s).height d = 1 := by cases s <;> rfl
    rw [ofSteps_concat, height, ih, hs, List.length_append, List.length_singleton]
    omega

end Path

/-! ## Expressions -/

theorem address_concat (ss : List Step) (s : Step) : address (ss ++ [s]) = address ss ++ s.text := by
  rw [address, List.flatMap_append, List.flatMap_singleton]
  rfl

namespace Matcher

/-- What is documented of the expressions of a library. -/
structure LawfulReading (M : Matcher) : Prop where
  /-- A dollar sign is the root. -/
  root : M.compile "$" = .ok (M.build .root)
  /-- A key in quotes or a position, in brackets, is a step from what stands before it. -/
  step {ss : List Step} {s : Step} {p : Path} (hss : ∀ s ∈ ss, s.IsAddressable)
    (hs : s.IsAddressable) (h : M.compile (address ss) = .ok (M.build p)) :
    M.compile (address ss ++ s.text) = .ok (M.build (.child p (.ofStep s)))

variable {M : Matcher}

/-- **An address is compiled to the expression that takes its steps.** -/
theorem LawfulReading.compile_address (lawful : M.LawfulReading) {ss : List Step}
    (hs : ∀ s ∈ ss, s.IsAddressable) : M.compile (address ss) = .ok (M.build (.ofSteps .root ss)) := by
  induction ss using List.reverseRecOn with
  | nil => exact lawful.root
  | append_singleton ss s ih =>
    rw [List.forall_mem_append, List.forall_mem_singleton] at hs
    rw [address_concat, Path.ofSteps_concat]
    exact lawful.step hs.1 hs.2 (ih hs.1)

theorem LawfulSearch.find_ofStep {room : Nat} (lawful : M.LawfulSearch room) {n : Node} {s : Step}
    {v : Value} (hs : s.IsAddressable) (h : n.value.step? s = some v) :
    M.find (M.build (.ofStep s)) n = .ok [n.below s v] := by
  unfold Value.step? at h
  split at h
  · rename_i ms k hn
    have ht : n.isText = false := by
      unfold Node.isText
      rw [hn]
    have hm : n.member? k = some (n.below (.member k) v) := by
      unfold Node.member?
      rw [hn]
      simp only [h, Option.map_some]
    have hstar : ("*" : Text) ∉ [k] := by
      rw [List.mem_singleton]
      exact Ne.symm hs.2.2.2
    rw [Path.ofStep, (lawful.names ht [k]).resolve_right fun h => hstar h.1, List.filterMap_cons, hm]
    rfl
  · rename_i xs i hn
    have ht : n.isText = false := by
      unfold Node.isText
      rw [hn]
    have hm : n.element? i = some (n.below (.element i) v) := by
      unfold Node.element?
      rw [hn]
      simp only [Int.natCast_nonneg, Int.not_lt.2, if_false, Int.toNat_natCast, h, Option.map_some]
    rw [Path.ofStep, lawful.positions ht, List.filterMap_cons, hm]
    rfl
  · cases h

/-- **The steps to a node of a document find that node and no other**, if there is room for so many
steps. -/
theorem LawfulSearch.find_ofSteps {room : Nat} (lawful : M.LawfulSearch room) {d : Value}
    (hd : d.DistinctKeys) :
    ∀ n ∈ (Node.fresh d).subtree, (∀ s ∈ n.location, s.IsAddressable) → n.location.length < room →
      M.find (M.build (.ofSteps .root n.location)) (.fresh d) = .ok [n] := by
  refine Node.subtree_induction (fun _ _ => lawful.root _) fun n hn ih c hc haddressable hroom => ?_
  have hkeys := Node.distinctKeys_of_mem_subtree (d := .fresh d) hd n hn
  obtain ⟨s, hcs, hs⟩ := Node.exists_step_of_mem_children hkeys hc
  have hlocation : c.location = n.location ++ [s] := by rw [hcs, Node.location_below]
  rw [hlocation, List.forall_mem_append, List.forall_mem_singleton] at haddressable
  rw [hlocation, List.length_append, List.length_singleton] at hroom
  have hheight : (Path.child (.ofSteps .root n.location) (.ofStep s)).height
      (Node.fresh d).root.value.depth ≤ room := by
    rw [← Path.ofSteps_concat, Path.height_ofSteps, List.length_append]
    exact hroom
  rw [hlocation, Path.ofSteps_concat, (lawful.child _ _ _).find_eq hheight,
    ih haddressable.1 (by omega)]
  show gather (M.find (M.build (.ofStep s))) [n] = _
  rw [gather_singleton, lawful.find_ofStep haddressable.2 hs, ← hcs]

end Matcher

namespace Path

/-! ## Pieces -/

/-- The pieces of a step in brackets. -/
def stepTokens : Step → List Token
  | .member k => [.openBracket, .quoted k, .closeBracket]
  | .element i => [.openBracket, .integer i, .closeBracket]

section Lexing

variable {c : CodePoint} {u rest : Text} {t : Token}

theorem lexFrom?_skip (u rest : Text) : lexFrom? u.length (u ++ rest) = lexFrom? 0 rest := by
  induction u with
  | nil => rfl
  | cons c u ih => rw [List.length_cons, List.cons_append, lexFrom?, ih]

theorem lexFrom?_piece (hc : c ≠ space ∧ c ≠ tab ∧ c ≠ lineFeed)
    (h : piece? c (u ++ rest) = some (t, u.length)) :
    lexFrom? 0 (c :: (u ++ rest)) = (lexFrom? 0 rest).map (t :: ·) := by
  rw [lexFrom?, if_neg (by simp [hc]), h]
  simp only [lexFrom?_skip]

theorem lexFrom?_openBracket (rest : Text) :
    lexFrom? 0 (openBracket :: rest) = (lexFrom? 0 rest).map (.openBracket :: ·) :=
  lexFrom?_piece (u := []) (by decide) rfl

theorem lexFrom?_closeBracket (rest : Text) :
    lexFrom? 0 (closeBracket :: rest) = (lexFrom? 0 rest).map (.closeBracket :: ·) :=
  lexFrom?_piece (u := []) (by decide) rfl

theorem closing?_of_plain {q : CodePoint} (hq : q ∉ u) (hb : backslash ∉ u) (rest : Text) :
    closing? q (u ++ q :: rest) = some (u, u.length + 1) := by
  induction u with
  | nil =>
    unfold closing?
    exact if_pos rfl
  | cons c u ih =>
    rw [List.mem_cons, not_or] at hq hb
    unfold closing?
    rw [List.cons_append]
    simp only
    rw [if_neg (Ne.symm hq.1), if_neg (Ne.symm hb.1), ih hq.2 hb.2]
    rfl

theorem lexFrom?_quoted (hq : apostrophe ∉ u) (hb : backslash ∉ u) (rest : Text) :
    lexFrom? 0 (apostrophe :: (u ++ apostrophe :: rest)) =
      (lexFrom? 0 rest).map (.quoted u :: ·) := by
  have hpiece : piece? apostrophe (u ++ apostrophe :: rest) = some (.quoted u, u.length + 1) := by
    show (closing? apostrophe (u ++ apostrophe :: rest)).map _ = _
    rw [closing?_of_plain hq hb]
    rfl
  have h : lexFrom? 0 (apostrophe :: (u ++ [apostrophe] ++ rest)) =
      (lexFrom? 0 rest).map (.quoted u :: ·) := by
    refine lexFrom?_piece (by decide) ?_
    rw [List.append_assoc, List.length_append]
    exact hpiece
  rwa [List.append_assoc] at h

theorem piece?_digitChar : ∀ d < 10, ∀ r, piece? (digitChar d) r =
    (number? false (digitChar d :: r)).map fun s => (s.1, s.2 - 1) := by
  intro d hd r
  interval_cases d <;> rfl

theorem digitChar_ne_space : ∀ d < 10,
    digitChar d ≠ space ∧ digitChar d ≠ tab ∧ digitChar d ≠ lineFeed := by
  decide

theorem lexFrom?_natText {i : Nat} (hi : (natDigits i).length ≤ digitLimit) (rest : Text) :
    lexFrom? 0 (natText i ++ closeBracket :: rest) =
      (lexFrom? 0 (closeBracket :: rest)).map (.integer i :: ·) := by
  have hlt := natDigits_lt i
  have hspan := spanDigits_append (r := closeBracket :: rest) (areDigits_map_digitChar hlt)
    (by intro c hc; cases hc; decide)
  have hread : signed false (natDigits i) = i := by
    show ((readDigits (natDigits i) : Nat) : Int) = i
    rw [readDigits_natDigits]
  have hnumber : number? false (natText i ++ closeBracket :: rest) =
      some (.integer i, (natDigits i).length) := by
    unfold number? natText
    rw [hspan]
    obtain ⟨d, ds, hd⟩ := List.exists_cons_of_ne_nil (natDigits_ne_nil i)
    rw [hd] at hread hi ⊢
    simp only [integerToken?, if_pos hi, hread]
  unfold natText at hnumber ⊢
  obtain ⟨d, ds, hd⟩ := List.exists_cons_of_ne_nil (natDigits_ne_nil i)
  rw [hd] at hlt hnumber ⊢
  have hd10 := hlt d List.mem_cons_self
  refine lexFrom?_piece (u := ds.map digitChar) (digitChar_ne_space d hd10) ?_
  rw [piece?_digitChar d hd10]
  rw [List.map_cons, List.cons_append] at hnumber
  rw [hnumber, Option.map_some, List.length_cons, List.length_map, Nat.add_sub_cancel]

theorem lexFrom?_step {s : Step} (hs : s.IsAddressable) (rest : Text) :
    lexFrom? 0 (s.text ++ rest) = (lexFrom? 0 rest).map (stepTokens s ++ ·) := by
  cases s with
  | member k =>
    obtain ⟨hq, -, hb, -⟩ := hs
    have htext : (Step.member k).text ++ rest =
        openBracket :: apostrophe :: (k ++ apostrophe :: closeBracket :: rest) := by
      simp [Step.text]
    rw [htext, lexFrom?_openBracket, lexFrom?_quoted hq hb, lexFrom?_closeBracket, Option.map_map,
      Option.map_map]
    rfl
  | element i =>
    have htext : (Step.element i).text ++ rest =
        openBracket :: (natText i ++ closeBracket :: rest) := by
      simp [Step.text]
    rw [htext, lexFrom?_openBracket, lexFrom?_natText hs, lexFrom?_closeBracket, Option.map_map,
      Option.map_map]
    rfl

variable {ss : List Step}

theorem lexFrom?_steps (hs : ∀ s ∈ ss, s.IsAddressable) :
    lexFrom? 0 (ss.flatMap Step.text) = some (ss.flatMap stepTokens) := by
  induction ss with
  | nil => rfl
  | cons s ss ih =>
    obtain ⟨hs, hss⟩ := List.forall_mem_cons.1 hs
    rw [List.flatMap_cons, lexFrom?_step hs, ih hss]
    rfl

theorem lex?_address (hs : ∀ s ∈ ss, s.IsAddressable) :
    lex? (address ss) = some (.dollar :: ss.flatMap stepTokens) := by
  have h : lex? (address ss) = (lexFrom? 0 (ss.flatMap Step.text)).map (.dollar :: ·) :=
    lexFrom?_piece (u := []) (by decide) rfl
  rw [lexFrom?_steps hs] at h
  exact h

end Lexing

/-! ## Paths -/

theorem length_stepTokens (ss : List Step) : (ss.flatMap stepTokens).length = 3 * ss.length := by
  induction ss with
  | nil => rfl
  | cons s ss ih =>
    rw [List.flatMap_cons, List.length_append, ih, List.length_cons]
    cases s <;> simp only [stepTokens, List.length_cons, List.length_nil] <;> omega

theorem chain_step (k : Nat) (p : Path) (s : Step) (r : List Token) :
    chain (k + 1) [] p (stepTokens s ++ r) = chain k [] (.child p (ofStep s)) r := by
  cases s <;> rfl

/-- Each step takes one of the rules that the parser may go through. -/
theorem chain_steps {k : Nat} (p : Path) {ss : List Step} (hk : ss.length < k) :
    chain k [] p (ss.flatMap stepTokens) = .ok (ofSteps p ss, []) := by
  induction ss generalizing k p with
  | nil =>
    obtain ⟨k, rfl⟩ := Nat.exists_eq_succ_of_ne_zero (Nat.ne_of_gt hk)
    rfl
  | cons s ss ih =>
    obtain ⟨k, rfl⟩ := Nat.exists_eq_succ_of_ne_zero (Nat.ne_of_gt (Nat.zero_lt_of_lt hk))
    rw [List.flatMap_cons, chain_step, ih _ (Nat.lt_of_succ_lt_succ hk)]
    rfl

theorem ofTokens_address (ss : List Step) :
    ofTokens (.dollar :: ss.flatMap stepTokens) = .ok (ofSteps .root ss) := by
  have hlen := length_stepTokens ss
  obtain ⟨k, hk⟩ : ∃ k, 10 * ((Token.dollar :: ss.flatMap stepTokens).length + 1) = k + 2 :=
    ⟨10 * (3 * ss.length) + 18, by rw [List.length_cons, hlen]; omega⟩
  have hchain : chain (k + 1) [] .root (ss.flatMap stepTokens) = .ok (ofSteps .root ss, []) := by
    refine chain_steps .root ?_
    rw [List.length_cons, hlen] at hk
    omega
  unfold ofTokens
  rw [hk, expression, link]
  simp only [hchain]

/-- **An address is read as the path that takes its steps.** -/
theorem parse_address {ss : List Step} (hs : ∀ s ∈ ss, s.IsAddressable) :
    parse (address ss) = .ok (ofSteps .root ss) := by
  rw [parse, lex?_address hs]
  exact ofTokens_address ss

end Path

/-! ## The standard matcher -/

/-- **The standard matcher reads addresses.** -/
theorem Matcher.lawfulReading_standard : standard.LawfulReading where
  root := @Path.parse_address [] (by simp)
  step {ss s p} hss hs h := by
    obtain rfl : Path.ofSteps .root ss = p :=
      Except.ok.inj ((Path.parse_address hss).symm.trans h)
    rw [← address_concat]
    show Path.parse _ = .ok (.child _ _)
    rw [← Path.ofSteps_concat]
    refine Path.parse_address ?_
    rw [List.forall_mem_append, List.forall_mem_singleton]
    exact ⟨hss, hs⟩

theorem Matcher.lawfulReading_within (room : Nat) : (within room).LawfulReading :=
  ⟨lawfulReading_standard.root, lawfulReading_standard.step⟩

end DeltaBridge
