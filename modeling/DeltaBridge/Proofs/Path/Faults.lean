import DeltaBridge.Proofs.Path.Calculation
import Mathlib.Logic.Relation

/-!
# Where a search stops

A search from a node needs other searches from other nodes, and tests of conditions on the way. It
fails exactly if it comes to a place where it cannot go on. There are three kinds of them: the node
that holds the root, an intersection, and an integer beyond the doubles that meets a double.

* `Query`, `Query.needs`: what is to be found out, and what that needs; `Query.Reaches`: what it
  needs in the end;
* `Query.Faulty`, `Query.faulty_or_needs`, `Query.fails_of_needs`: a fault is in what is to be found
  out, or in what it needs;
* **`Query.reaches_faulty`**, `Query.fails_of_reaches`: whatever fails comes to a fault, and
  whatever comes to a fault fails;
* `Path.isTame`, `Path.find_ne_error`: without steps to parents, intersections and arithmetic no
  search fails.
-/

namespace DeltaBridge

/-! ## Searches of several nodes -/

section Several

variable {α β ε : Type} {e : ε}

theorem map_eq_error_iff {f : α → β} {x : Except ε α} : x.map f = .error e ↔ x = .error e := by
  cases x <;> simp [Except.map]

theorem exists_of_gather_eq_error {f : α → Except ε (List β)} {ns : List α}
    (h : gather f ns = .error e) : ∃ n ∈ ns, f n = .error e := by
  induction ns with
  | nil => cases h
  | cons n ns ih =>
    unfold gather at h
    split at h
    · rename_i hn
      cases h
      exact ⟨n, List.mem_cons_self, hn⟩
    · obtain ⟨m, hm, he⟩ := ih (map_eq_error_iff.1 h)
      exact ⟨m, List.mem_cons_of_mem n hm, he⟩

theorem gather_ne_ok {f : α → Except ε (List β)} {ns : List α} {n : α} (hn : n ∈ ns)
    (h : f n = .error e) : ∃ e', gather f ns = .error e' := by
  induction ns with
  | nil => cases hn
  | cons m ns ih =>
    unfold gather
    split
    · exact ⟨_, rfl⟩
    · rename_i hm
      rcases List.mem_cons.1 hn with rfl | hn
      · rw [h] at hm
        cases hm
      · obtain ⟨e', he⟩ := ih hn
        exact ⟨e', map_eq_error_iff.2 he⟩

theorem gather_singleton (f : α → Except ε (List β)) (x : α) : gather f [x] = f x := by
  unfold gather
  cases f x with
  | error e => rfl
  | ok ys => simp [gather, Except.map]

theorem select_eq_gather (f : α → Except ε Bool) (ns : List α) :
    select f ns = gather (fun n => (f n).map fun b => if b then [n] else []) ns := by
  induction ns with
  | nil => rfl
  | cons n ns ih =>
    unfold select gather
    rw [← ih]
    cases f n with
    | error e => rfl
    | ok b => cases b <;> rfl

theorem exists_of_select_eq_error {f : α → Except ε Bool} {ns : List α}
    (h : select f ns = .error e) : ∃ n ∈ ns, f n = .error e := by
  rw [select_eq_gather] at h
  obtain ⟨n, hn, he⟩ := exists_of_gather_eq_error h
  exact ⟨n, hn, map_eq_error_iff.1 he⟩

theorem select_ne_ok {f : α → Except ε Bool} {ns : List α} {n : α} (hn : n ∈ ns)
    (h : f n = .error e) : ∃ e', select f ns = .error e' := by
  rw [select_eq_gather]
  exact gather_ne_ok hn (map_eq_error_iff.2 h)

theorem exists_gather_eq_ok {f : α → Except ε (List β)} {ns : List α}
    (h : ∀ n ∈ ns, ∃ xs, f n = .ok xs) : ∃ xs, gather f ns = .ok xs := by
  cases hg : gather f ns with
  | ok xs => exact ⟨xs, rfl⟩
  | error e =>
    obtain ⟨n, hn, he⟩ := exists_of_gather_eq_error hg
    obtain ⟨xs, hx⟩ := h n hn
    cases he.symm.trans hx

theorem exists_select_eq_ok {f : α → Except ε Bool} {ns : List α}
    (h : ∀ n ∈ ns, ∃ b, f n = .ok b) : ∃ xs, select f ns = .ok xs := by
  cases hs : select f ns with
  | ok xs => exact ⟨xs, rfl⟩
  | error e =>
    obtain ⟨n, hn, he⟩ := exists_of_select_eq_error hs
    obtain ⟨b, hb⟩ := h n hn
    cases he.symm.trans hb

theorem gather_sublist (f : α → Except ε (List β)) (ns : List α) :
    ((gather f ns).toOption.getD []).Sublist (ns.flatMap fun n => (f n).toOption.getD []) := by
  induction ns with
  | nil => exact List.Sublist.refl _
  | cons n ns ih =>
    unfold gather
    cases hn : f n with
    | error e => exact List.nil_sublist _
    | ok xs =>
      rw [List.flatMap_cons, hn]
      cases hg : gather f ns with
      | error e => exact List.nil_sublist _
      | ok ys =>
        rw [hg] at ih
        exact (List.Sublist.refl xs).append ih

theorem select_sublist (f : α → Except ε Bool) (ns : List α) :
    ((select f ns).toOption.getD []).Sublist ns := by
  induction ns with
  | nil => exact List.Sublist.refl _
  | cons n ns ih =>
    unfold select
    cases hn : f n with
    | error e => exact List.nil_sublist _
    | ok b =>
      cases hs : select f ns with
      | error e => exact List.nil_sublist _
      | ok xs =>
        rw [hs] at ih
        cases b with
        | true => exact ih.cons_cons n
        | false => exact ih.cons n

end Several

/-! ## Paths of two parts -/

namespace Path

/-- The nodes that a path describes; none if the search fails. -/
def found (p : Path) (n : Node) : List Node := (p.find n).toOption.getD []

variable {p q : Path} {n : Node}

theorem found_of_ok {ns : List Node} (h : p.find n = .ok ns) : p.found n = ns := by
  rw [found, h]
  rfl

theorem find_child : (child p q).find n = (p.find n).bind (gather fun m => q.find m) := by
  rw [find]
  cases p.find n <;> rfl

theorem find_descend : (descend p q).find n =
    (p.find n).bind fun ns => gather (fun m => q.find m) (ns.flatMap Node.subtree) := by
  rw [find]
  cases p.find n <;> rfl

theorem find_union : (union p q).find n = (p.find n).bind fun ns => (q.find n).map (ns ++ ·) := by
  rw [find]
  cases p.find n <;> rfl

theorem find_having : (having p q).find n =
    (p.find n).bind (select fun m => (q.find m).map (!·.isEmpty)) := by
  rw [find]
  cases p.find n <;> rfl

theorem find_lacking : (lacking p q).find n =
    (p.find n).bind (select fun m => (q.find m).map (·.isEmpty)) := by
  rw [find]
  cases p.find n <;> rfl

end Path

/-! ## What is to be found out -/

/-- The node as a condition sees it. -/
def Condition.sight (c : Condition) (m : Node) : Node :=
  if c.mentionsRoot then m else .fresh m.value

/-- Something to find out at a node. -/
inductive Query where
  /-- The nodes that a path describes. -/
  | path (p : Path) (n : Node)
  /-- The truth of a condition. -/
  | condition (c : Condition) (n : Node)
  /-- The values of a side of an operation or a comparison. -/
  | operand (a : Operand) (n : Node)

namespace Query

/-- It cannot be found out, for the given reason. -/
def Fails (e : SearchError) : Query → Prop
  | path p n => p.find n = .error e
  | condition c n => c.holds n = .error e
  | operand a n => a.values n = .error e

/-- What has to be found out for it. -/
def needs : Query → List Query
  | path (.filter c) n => n.children.map fun m => condition c (c.sight m)
  | path (.child p q) n => path p n :: (p.found n).map (path q)
  | path (.descend p q) n => path p n :: ((p.found n).flatMap Node.subtree).map (path q)
  | path (.union p q) n => [path p n, path q n]
  | path (.having p q) n | path (.lacking p q) n => path p n :: (p.found n).map (path q)
  | path (.compute _ a b) n => [operand a n, operand b n]
  | path _ _ => []
  | condition (.exists p) n => [path p n]
  | condition (.not c) n => [condition c n]
  | condition (.and c d) n =>
    condition c n :: match c.holds n with
      | .ok true => [condition d n]
      | _ => []
  | condition (.or c d) n =>
    condition c n :: match c.holds n with
      | .ok false => [condition d n]
      | _ => []
  | condition (.compare _ p b) n => [path p n, operand b n]
  | operand (.literal _) _ => []
  | operand (.path p) n => [path p n]

/-- It comes to something else that is to be found out for it, in the end. -/
def Reaches : Query → Query → Prop := Relation.ReflTransGen fun x y => y ∈ x.needs

/-- It cannot be found out, and not for what it needs. -/
inductive Faulty : Query → SearchError → Prop
  /-- The node that holds the root is asked for. -/
  | noParent {n : Node} (h : n.parent? = none) : Faulty (path .parent n) .noParent
  | intersection (p q : Path) (n : Node) : Faulty (path (.intersect p q) n) .unsupported
  /-- A pair of values cannot be combined, after some that can. -/
  | oversized {op : Calculation} {a b : Operand} {n : Node} {vs ws : List Value ⊕ Value}
    {before after : List (Value × Value)} {v w : Value} (ha : a.values n = .ok vs)
    (hb : b.values n = .ok ws) (hps : operandPairs vs ws = before ++ (v, w) :: after)
    (hbefore : ∀ q ∈ before, ∃ x, op.apply q.1 q.2 = .ok (some x)) (h : Calculation.Oversized v w) :
    Faulty (path (.compute op a b) n) .integerTooLarge

theorem fails_of_faulty {x : Query} {e : SearchError} (h : Faulty x e) : x.Fails e := by
  cases h with
  | noParent h => rw [Fails, Path.find, h]
  | intersection p q n => rfl
  | oversized ha hb hps hbefore h =>
    rw [Fails, Path.find, ha]
    simp only [hb]
    refine map_eq_error_iff.2 (Calculation.onPairs_eq_error_iff.2 ⟨_, _, _, _, hps, hbefore, ?_⟩)
    exact Calculation.apply_eq_error_iff.2 ⟨rfl, h⟩

/-! ## One step -/

section Following

variable {p q : Path} {n : Node} (visits : List Node → List Node)
  (follow : List Node → Except SearchError (List Node)) {e : SearchError}

/-- A search that visits some nodes once another search has ended fails as one of them. -/
theorem exists_needed (hf : ∀ ns, follow ns = .error e → ∃ m ∈ visits ns, q.find m = .error e)
    (h : (p.find n).bind follow = .error e) :
    ∃ y ∈ path p n :: (visits (p.found n)).map (path q), y.Fails e := by
  cases hp : p.find n with
  | error e' =>
    rw [hp] at h
    cases h
    exact ⟨path p n, List.mem_cons_self, hp⟩
  | ok ns =>
    rw [hp] at h
    obtain ⟨m, hm, he⟩ := hf ns h
    rw [Path.found_of_ok hp]
    exact ⟨path q m, List.mem_cons_of_mem _ (List.mem_map_of_mem hm), he⟩

theorem fails_of_needed
    (hf : ∀ ns, ∀ m ∈ visits ns, q.find m = .error e → ∃ e', follow ns = .error e') {y : Query}
    (hy : y ∈ path p n :: (visits (p.found n)).map (path q)) (h : y.Fails e) :
    ∃ e', (p.find n).bind follow = .error e' := by
  cases hp : p.find n with
  | error e' => exact ⟨e', rfl⟩
  | ok ns =>
    rw [Path.found_of_ok hp] at hy
    rcases List.mem_cons.1 hy with rfl | hy
    · rw [Fails, hp] at h
      cases h
    · obtain ⟨m, hm, rfl⟩ := List.mem_map.1 hy
      exact hf ns m hm h

end Following

/-- What fails is faulty, or needs something that fails for the same reason. -/
theorem faulty_or_needs {x : Query} {e : SearchError} (h : x.Fails e) :
    Faulty x e ∨ ∃ y ∈ x.needs, y.Fails e := by
  cases x with
  | path p n =>
    cases p with
    | root | current | names _ | every | positions _ | slice _ _ _ | size | keys => cases h
    | parent =>
      rw [Fails, Path.find] at h
      split at h
      · cases h
      · rename_i hp
        cases h
        exact .inl (.noParent hp)
    | intersect p q =>
      cases h
      exact .inl (.intersection p q n)
    | filter c =>
      obtain ⟨m, hm, he⟩ := exists_of_select_eq_error h
      exact .inr ⟨condition c (c.sight m), List.mem_map_of_mem hm, he⟩
    | child p q =>
      rw [Fails, Path.find_child] at h
      exact .inr (exists_needed id _ (fun ns => exists_of_gather_eq_error) h)
    | descend p q =>
      rw [Fails, Path.find_descend] at h
      exact .inr (exists_needed (List.flatMap Node.subtree) _
        (fun ns => exists_of_gather_eq_error) h)
    | union p q =>
      rw [Fails, Path.find_union] at h
      refine .inr (exists_needed (fun _ => [n]) _ (fun ns he => ?_) h)
      exact ⟨n, List.mem_singleton_self n, map_eq_error_iff.1 he⟩
    | having p q =>
      rw [Fails, Path.find_having] at h
      refine .inr (exists_needed id _ (fun ns he => ?_) h)
      obtain ⟨m, hm, he⟩ := exists_of_select_eq_error he
      exact ⟨m, hm, map_eq_error_iff.1 he⟩
    | lacking p q =>
      rw [Fails, Path.find_lacking] at h
      refine .inr (exists_needed id _ (fun ns he => ?_) h)
      obtain ⟨m, hm, he⟩ := exists_of_select_eq_error he
      exact ⟨m, hm, map_eq_error_iff.1 he⟩
    | compute op a b =>
      rw [Fails, Path.find] at h
      split at h
      · rename_i ha
        cases h
        exact .inr ⟨operand a n, List.mem_cons_self, ha⟩
      rename_i vs ha
      split at h
      · rename_i hb
        cases h
        exact .inr ⟨operand b n, by simp [needs], hb⟩
      rename_i ws hb
      obtain ⟨before, v, w, after, hps, hbefore, he⟩ :=
        Calculation.onPairs_eq_error_iff.1 (map_eq_error_iff.1 h)
      obtain ⟨rfl, ho⟩ := Calculation.apply_eq_error_iff.1 he
      exact .inl (.oversized ha hb hps hbefore ho)
  | condition c n =>
    cases c with
    | «exists» p => exact .inr ⟨path p n, List.mem_cons_self, map_eq_error_iff.1 h⟩
    | not c => exact .inr ⟨condition c n, List.mem_cons_self, map_eq_error_iff.1 h⟩
    | and c d | or c d =>
      rw [Fails, Condition.holds] at h
      split at h
      · rename_i hc
        exact .inr ⟨condition d n, by simp [needs, hc], h⟩
      · exact .inr ⟨condition c n, List.mem_cons_self, h⟩
    | compare r p b =>
      rw [Fails, Condition.holds] at h
      split at h
      · rename_i hp
        cases h
        exact .inr ⟨path p n, List.mem_cons_self, hp⟩
      · exact .inr ⟨operand b n, by simp [needs], map_eq_error_iff.1 h⟩
  | operand a n =>
    cases a with
    | literal v => cases h
    | path p => exact .inr ⟨path p n, List.mem_cons_self, map_eq_error_iff.1 h⟩

/-- What needs something that fails, fails; perhaps for another reason that comes first. -/
theorem fails_of_needs {x y : Query} {e : SearchError} (hy : y ∈ x.needs) (h : y.Fails e) :
    ∃ e', x.Fails e' := by
  cases x with
  | path p n =>
    cases p with
    | root | current | parent | names _ | every | positions _ | slice _ _ _ | size | keys
    | intersect _ _ => cases hy
    | filter c =>
      obtain ⟨m, hm, rfl⟩ := List.mem_map.1 hy
      exact select_ne_ok hm h
    | child p q =>
      simp only [Fails, Path.find_child]
      exact fails_of_needed id _ (fun ns m => gather_ne_ok (f := fun m => q.find m)) hy h
    | descend p q =>
      simp only [Fails, Path.find_descend]
      exact fails_of_needed (List.flatMap Node.subtree) _
        (fun ns m => gather_ne_ok (f := fun m => q.find m)) hy h
    | union p q =>
      simp only [Fails, Path.find_union]
      refine fails_of_needed (fun _ => [n]) _ (fun ns m hm he => ?_) hy h
      rw [List.mem_singleton.1 hm] at he
      exact ⟨e, map_eq_error_iff.2 he⟩
    | having p q =>
      simp only [Fails, Path.find_having]
      exact fails_of_needed id _ (fun ns m hm he => select_ne_ok hm (map_eq_error_iff.2 he)) hy h
    | lacking p q =>
      simp only [Fails, Path.find_lacking]
      exact fails_of_needed id _ (fun ns m hm he => select_ne_ok hm (map_eq_error_iff.2 he)) hy h
    | compute op a b =>
      simp only [Fails, Path.find]
      split
      · exact ⟨_, rfl⟩
      rename_i vs ha
      split
      · exact ⟨_, rfl⟩
      rename_i ws hb
      rcases List.mem_cons.1 hy with rfl | hy
      · rw [Fails, ha] at h
        cases h
      · rw [List.mem_singleton.1 hy, Fails, hb] at h
        cases h
  | condition c n =>
    cases c with
    | «exists» p =>
      rw [List.mem_singleton.1 hy] at h
      exact ⟨e, map_eq_error_iff.2 h⟩
    | not c =>
      rw [List.mem_singleton.1 hy] at h
      exact ⟨e, map_eq_error_iff.2 h⟩
    | and c d | or c d =>
      rcases List.mem_cons.1 hy with rfl | hy
      · exact ⟨e, by rw [Fails, Condition.holds, show c.holds n = .error e from h]⟩
      · split at hy
        · rename_i hc
          rw [List.mem_singleton.1 hy] at h
          exact ⟨e, by rw [Fails, Condition.holds, hc]; exact h⟩
        · cases hy
    | compare r p b =>
      simp only [Fails, Condition.holds]
      split
      · exact ⟨_, rfl⟩
      rename_i ns hp
      rcases List.mem_cons.1 hy with rfl | hy
      · rw [Fails, hp] at h
        cases h
      · rw [List.mem_singleton.1 hy] at h
        exact ⟨e, map_eq_error_iff.2 h⟩
  | operand a n =>
    cases a with
    | literal v => cases hy
    | path p =>
      rw [List.mem_singleton.1 hy] at h
      exact ⟨e, map_eq_error_iff.2 h⟩

/-! ## All steps -/

/-- The size of the path, the condition or the operand. -/
noncomputable def size : Query → Nat
  | path p _ => sizeOf p
  | condition c _ => sizeOf c
  | operand a _ => sizeOf a

theorem size_lt_of_needs {x y : Query} (h : y ∈ x.needs) : y.size < x.size := by
  cases x with
  | path p n =>
    cases p <;> simp only [needs, List.mem_cons, List.mem_map, List.not_mem_nil, or_false] at h
    case filter c =>
      obtain ⟨m, -, rfl⟩ := h
      simp only [size, Path.filter.sizeOf_spec]
      omega
    case compute op a b =>
      rcases h with rfl | rfl <;> simp only [size, Path.compute.sizeOf_spec] <;> omega
    case union p q =>
      rcases h with rfl | rfl <;> simp only [size, Path.union.sizeOf_spec] <;> omega
    all_goals
      rcases h with rfl | ⟨m, -, rfl⟩ <;>
        simp only [size, Path.child.sizeOf_spec, Path.descend.sizeOf_spec, Path.having.sizeOf_spec,
          Path.lacking.sizeOf_spec] <;>
        omega
  | condition c n =>
    cases c with
    | «exists» p =>
      rw [List.mem_singleton.1 h, size, size, Condition.exists.sizeOf_spec]
      omega
    | not c =>
      rw [List.mem_singleton.1 h, size, size, Condition.not.sizeOf_spec]
      omega
    | and c d | or c d =>
      rcases List.mem_cons.1 h with rfl | h
      · simp only [size, Condition.and.sizeOf_spec, Condition.or.sizeOf_spec]
        omega
      · split at h
        · rw [List.mem_singleton.1 h]
          simp only [size, Condition.and.sizeOf_spec, Condition.or.sizeOf_spec]
          omega
        · cases h
    | compare r p b =>
      rcases List.mem_cons.1 h with rfl | h
      · rw [size, size, Condition.compare.sizeOf_spec]
        omega
      · rw [List.mem_singleton.1 h, size, size, Condition.compare.sizeOf_spec]
        omega
  | operand a n =>
    cases a with
    | literal v => cases h
    | path p =>
      rw [List.mem_singleton.1 h, size, size, Operand.path.sizeOf_spec]
      omega

/-- **Whatever cannot be found out comes to a fault**, and fails for its reason. -/
theorem reaches_faulty {x : Query} {e : SearchError} (h : x.Fails e) :
    ∃ y, x.Reaches y ∧ Faulty y e := by
  -- what is needed is smaller, so the way to the fault ends
  induction hk : x.size using Nat.strongRecOn generalizing x with
  | ind k ih =>
    rcases faulty_or_needs h with hf | ⟨y, hy, hfy⟩
    · exact ⟨x, .refl, hf⟩
    · obtain ⟨z, hz, hf⟩ := ih y.size (hk ▸ size_lt_of_needs hy) hfy rfl
      exact ⟨z, .head hy hz, hf⟩

/-- Whatever comes to a fault cannot be found out; if it comes to several, the first decides. -/
theorem fails_of_reaches {x y : Query} {e : SearchError} (hr : x.Reaches y) (hf : Faulty y e) :
    ∃ e', x.Fails e' := by
  induction hr using Relation.ReflTransGen.head_induction_on with
  | refl => exact ⟨e, fails_of_faulty hf⟩
  | head hy _ ih =>
    obtain ⟨e', he⟩ := ih
    exact fails_of_needs hy he

end Query

/-! ## Searches that cannot fail -/

mutual

/-- There are no steps to parents, intersections and arithmetic in the path. -/
def Path.isTame : Path → Bool
  | .parent | .intersect .. | .compute .. => false
  | .root | .current | .names _ | .every | .positions _ | .slice .. | .size | .keys => true
  | .filter c => c.isTame
  | .child p q | .descend p q | .union p q | .having p q | .lacking p q => p.isTame && q.isTame

/-- There are none in the paths of the condition. -/
def Condition.isTame : Condition → Bool
  | .exists p => p.isTame
  | .not c => c.isTame
  | .and c d | .or c d => c.isTame && d.isTame
  | .compare _ p b => p.isTame && b.isTame

/-- There are none in the path that the operand is, if it is one. -/
def Operand.isTame : Operand → Bool
  | .literal _ => true
  | .path p => p.isTame

end

namespace Query

/-- There are none in the path, the condition or the operand. -/
def isTame : Query → Bool
  | path p _ => p.isTame
  | condition c _ => c.isTame
  | operand a _ => a.isTame

theorem not_faulty_of_isTame {x : Query} {e : SearchError} (h : x.isTame = true) :
    ¬ Faulty x e := by
  intro hf
  cases hf <;> cases h

theorem isTame_of_needs {x y : Query} (h : x.isTame = true) (hy : y ∈ x.needs) :
    y.isTame = true := by
  cases x with
  | path p n =>
    cases p <;> simp only [needs, List.mem_cons, List.mem_map, List.not_mem_nil, or_false] at hy
    case filter c =>
      obtain ⟨m, -, rfl⟩ := hy
      exact h
    case compute op a b => cases h
    all_goals
      obtain ⟨hp, hq⟩ := Bool.and_eq_true_iff.1 h
      rcases hy with rfl | hy
      · exact hp
    case path.union.inr p q => exact hy ▸ hq
    all_goals
      obtain ⟨m, -, rfl⟩ := hy
      exact hq
  | condition c n =>
    cases c with
    | «exists» p => rw [List.mem_singleton.1 hy]; exact h
    | not c => rw [List.mem_singleton.1 hy]; exact h
    | and c d | or c d =>
      obtain ⟨hc, hd⟩ := Bool.and_eq_true_iff.1 h
      rcases List.mem_cons.1 hy with rfl | hy
      · exact hc
      · split at hy
        · rw [List.mem_singleton.1 hy]; exact hd
        · cases hy
    | compare r p b =>
      obtain ⟨hp, hb⟩ := Bool.and_eq_true_iff.1 h
      rcases List.mem_cons.1 hy with rfl | hy
      · exact hp
      · rw [List.mem_singleton.1 hy]; exact hb
  | operand a n =>
    cases a with
    | literal v => cases hy
    | path p => rw [List.mem_singleton.1 hy]; exact h

theorem isTame_of_reaches {x y : Query} (h : x.isTame = true) (hr : x.Reaches y) :
    y.isTame = true := by
  induction hr with
  | refl => exact h
  | tail _ hy ih => exact isTame_of_needs ih hy

end Query

/-- **Without steps to parents, intersections and arithmetic no search fails.** -/
theorem Path.find_ne_error {p : Path} (h : p.isTame = true) (n : Node) (e : SearchError) :
    p.find n ≠ .error e := by
  intro he
  obtain ⟨y, hr, hf⟩ := Query.reaches_faulty (x := .path p n) he
  exact Query.not_faulty_of_isTame (Query.isTame_of_reaches (x := .path p n) h hr) hf

end DeltaBridge
