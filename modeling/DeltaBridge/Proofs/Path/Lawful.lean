import DeltaBridge.Path.Matcher
import DeltaBridge.Proofs.Path.Faults
import DeltaBridge.Proofs.Path.Order
import DeltaBridge.Proofs.Value.Depth

/-!
# Lawful matchers

What selectors rely on of the library that searches documents. The parts of an expression are
searched one after the other, and its steps find members and elements in their order. Nothing is
said about arithmetic and about the conditions of filters, nor about the steps that other
expressions may have. A step from a text may find characters, but only in the text. And a search may
stop where parts and levels are nested deeper than it has room for.

* `Node.isText`, `Path.isStep`: nodes that are texts, and the steps from a node;
* `Path.height`: how deep the search for a path goes; `Matcher.Gives`: what it gives as long as there
  is room;
* `Matcher.LawfulSearch`: what a search finds;
* `found_child_sublist`, `found_descend_sublist`, `found_union_sublist`, `found_having_sublist`,
  `found_lacking_sublist`: what is found comes from the parts of the path, part by part;
  `mem_found_step`: what a step finds;
* `Matcher.Quiet`, **`Matcher.Quiet.answers`**: expressions whose parts never stop do not stop as long
  as there is room;
* **`Matcher.lawfulSearch_standard`**: the standard matcher is lawful, `Matcher.answers_standard`;
  `Matcher.within`: the one that has room for some levels only.
-/

namespace DeltaBridge

/-- The value of the node is a text. -/
def Node.isText (n : Node) : Bool :=
  match n.value with
  | .text _ => true
  | _ => false

/-- The path is one step to members or elements, without a condition. -/
def Path.isStep : Path → Bool
  | .names _ | .every | .positions _ | .slice .. => true
  | _ => false

/-- How many levels the search for a path takes in a document of depth `d`: one for each part inside
another part, and in a descent one for each level of the document. -/
def Path.height (d : Nat) : Path → Nat
  | .child p q | .union p q | .having p q | .lacking p q => max (p.height d) (q.height d) + 1
  | .descend p q => max (p.height d) (d + q.height d) + 1
  | _ => 1

theorem Path.height_mono {d d' : Nat} (h : d ≤ d') (p : Path) : p.height d ≤ p.height d' := by
  fun_induction Path.height d p with
  | case1 p q ihp ihq | case2 p q ihp ihq | case3 p q ihp ihq | case4 p q ihp ihq
  | case5 p q ihp ihq =>
    rw [Path.height]
    omega
  | case6 p =>
    have hone : p.height d' = 1 := by rw [Path.height] <;> assumption
    exact Nat.le_of_eq hone.symm

namespace Node

variable {n p m : Node}

theorem isInText_of_parent? (h : n.parent? = some p) : n.isInText = p.isText := by
  obtain ⟨v, t⟩ := p
  unfold isInText
  rw [h]
  cases v <;> rfl

theorem children_of_isText (h : n.isText = true) : n.children = [] := by
  unfold isText at h
  unfold children
  split at h
  · rename_i t ht
    rw [ht]
  · cases h

theorem subtree_of_isText (h : n.isText = true) : n.subtree = [n] := by
  rw [subtree_eq, children_of_isText h]
  rfl

theorem isText_eq_false_of_mem_children {c : Node} (hc : c ∈ n.children) : n.isText = false := by
  cases h : n.isText with
  | false => rfl
  | true =>
    rw [children_of_isText h] at hc
    cases hc

end Node

namespace Matcher

variable {M : Matcher} {room : Nat} {p q : Path} {n m : Node} {ns : List Node}

theorem found_of_ok (h : M.find (M.build p) n = .ok ns) : M.found p n = ns := by
  rw [found, h]
  rfl

/-- The search for the path gives the result, or it takes more levels than there is room for, and
stops. -/
def Gives (M : Matcher) (room : Nat) (p : Path) (n : Node) (r : Except SearchError (List Node)) :
    Prop :=
  M.find (M.build p) n = r ∨
    room < p.height n.root.value.depth ∧ ∃ e, M.find (M.build p) n = .error e

theorem Gives.find_eq {r : Except SearchError (List Node)} (h : M.Gives room p n r)
    (hroom : p.height n.root.value.depth ≤ room) : M.find (M.build p) n = r :=
  h.resolve_right fun h => absurd hroom (Nat.not_le.2 h.1)

theorem Gives.found_sublist {r : Except SearchError (List Node)} (h : M.Gives room p n r) :
    (M.found p n).Sublist (r.toOption.getD []) := by
  unfold found
  rcases h with h | ⟨-, e, h⟩
  · rw [h]
  · rw [h]
    exact List.nil_sublist _

/-- What is documented of the searches of a library that has room for some levels. -/
structure LawfulSearch (M : Matcher) (room : Nat) : Prop where
  /-- The root is that of the document. -/
  root (n : Node) : M.find (M.build .root) n = .ok [n.root]
  /-- The current node is where the search is. -/
  current (n : Node) : M.find (M.build .current) n = .ok [n]
  /-- The parent is the node that holds the current one. -/
  parent {n : Node} {ns : List Node} (h : M.find (M.build .parent) n = .ok ns) :
    ∀ m ∈ ns, n.parent? = some m
  /-- Names find the members that have them, as they are listed. A star among them may stand for
  all members. -/
  names {n : Node} (h : n.isText = false) (ks : List Text) :
    M.find (M.build (.names ks)) n = .ok (ks.filterMap n.member?) ∨
      ("*" : Text) ∈ ks ∧ M.find (M.build (.names ks)) n = .ok n.children
  /-- A star finds members or elements in their order: all of them, or none where it stands for the
  other kind. -/
  every {n : Node} (h : n.isText = false) :
    ∃ ns, M.find (M.build .every) n = .ok ns ∧ ns.Sublist n.children
  /-- Positions find the elements of a list that are there, as they are listed. -/
  positions {n : Node} (h : n.isText = false) (is : List Int) :
    M.find (M.build (.positions is)) n = .ok (is.filterMap n.element?)
  /-- A slice finds those elements of a list that it takes. -/
  slice {n : Node} (h : n.isText = false) (start stop stride : Option Int) :
    M.find (M.build (.slice start stop stride)) n = .ok (n.slice start stop stride)
  /-- A text may be indexed like a list: all that a step finds from it is a text with the text as
  its parent. -/
  inText {p : Path} {n : Node} (step : p.isStep = true) (text : n.isText = true) :
    ∃ ns, M.find (M.build p) n = .ok ns ∧ ∀ m ∈ ns, m.parent? = some n ∧ m.isText = true
  /-- A filter finds some of the members or elements, in their order. -/
  filter {c : Condition} {n : Node} {ns : List Node} (h : M.find (M.build (.filter c)) n = .ok ns) :
    ns.Sublist n.children
  /-- The second part is searched from each node of the first. -/
  child (p q : Path) (n : Node) : M.Gives room (.child p q) n <|
    (M.find (M.build p) n).bind (gather (M.find (M.build q)))
  /-- The second part is searched from each node of the first and then from all below it. -/
  descend (p q : Path) (n : Node) : M.Gives room (.descend p q) n <|
    (M.find (M.build p) n).bind fun ns => gather (M.find (M.build q)) (ns.flatMap Node.subtree)
  /-- The nodes of the first part come before those of the second. -/
  union (p q : Path) (n : Node) : M.Gives room (.union p q) n <|
    (M.find (M.build p) n).bind fun ns => (M.find (M.build q) n).map (ns ++ ·)
  /-- Those nodes of the first part stay from which the second finds something. -/
  having (p q : Path) (n : Node) : M.Gives room (.having p q) n <|
    (M.find (M.build p) n).bind (select fun m => (M.find (M.build q) m).map (!·.isEmpty))
  /-- Those nodes of the first part stay from which the second finds nothing. -/
  lacking (p q : Path) (n : Node) : M.Gives room (.lacking p q) n <|
    (M.find (M.build p) n).bind (select fun m => (M.find (M.build q) m).map (·.isEmpty))

namespace LawfulSearch

variable (lawful : M.LawfulSearch room)
include lawful

/-! ## What is found -/

theorem found_child_sublist (p q : Path) (n : Node) :
    (M.found (.child p q) n).Sublist ((M.found p n).flatMap (M.found q)) := by
  refine (lawful.child p q n).found_sublist.trans ?_
  unfold found
  cases M.find (M.build p) n with
  | error e => exact List.nil_sublist _
  | ok ns => exact gather_sublist _ ns

theorem found_descend_sublist (p q : Path) (n : Node) : (M.found (.descend p q) n).Sublist
    (((M.found p n).flatMap Node.subtree).flatMap (M.found q)) := by
  refine (lawful.descend p q n).found_sublist.trans ?_
  unfold found
  cases M.find (M.build p) n with
  | error e => exact List.nil_sublist _
  | ok ns => exact gather_sublist _ (ns.flatMap Node.subtree)

theorem found_union_sublist (p q : Path) (n : Node) :
    (M.found (.union p q) n).Sublist (M.found p n ++ M.found q n) := by
  refine (lawful.union p q n).found_sublist.trans ?_
  unfold found
  cases M.find (M.build p) n with
  | error e => exact List.nil_sublist _
  | ok ns =>
    cases M.find (M.build q) n with
    | error e => exact List.nil_sublist _
    | ok ms => exact List.Sublist.refl _

theorem found_having_sublist (p q : Path) (n : Node) :
    (M.found (.having p q) n).Sublist (M.found p n) := by
  refine (lawful.having p q n).found_sublist.trans ?_
  unfold found
  cases M.find (M.build p) n with
  | error e => exact List.nil_sublist _
  | ok ns => exact select_sublist _ ns

theorem found_lacking_sublist (p q : Path) (n : Node) :
    (M.found (.lacking p q) n).Sublist (M.found p n) := by
  refine (lawful.lacking p q n).found_sublist.trans ?_
  unfold found
  cases M.find (M.build p) n with
  | error e => exact List.nil_sublist _
  | ok ns => exact select_sublist _ ns

theorem of_mem_found_text (hp : p.isStep = true) (hn : n.isText = true) (hm : m ∈ M.found p n) :
    m.parent? = some n ∧ m.isText = true := by
  obtain ⟨ns, hns, h⟩ := lawful.inText hp hn
  rw [found_of_ok hns] at hm
  exact h m hm

/-- A step finds nodes one step below, or texts in a text. -/
theorem mem_found_step (hp : p.isStep = true) (hm : m ∈ M.found p n) :
    m ∈ n.children ∨ n.isText = true ∧ m.parent? = some n ∧ m.isText = true := by
  cases hn : n.isText with
  | true => exact .inr ⟨rfl, lawful.of_mem_found_text hp hn hm⟩
  | false =>
    left
    cases p with
    | names ks =>
      rcases lawful.names hn ks with h | ⟨-, h⟩
      · rw [found_of_ok h] at hm
        obtain ⟨k, _, hk⟩ := List.mem_filterMap.1 hm
        exact Node.mem_children_of_member? hk
      · rwa [found_of_ok h] at hm
    | every =>
      obtain ⟨ns, hns, hsub⟩ := lawful.every hn
      rw [found_of_ok hns] at hm
      exact hsub.subset hm
    | positions is =>
      rw [found_of_ok (lawful.positions hn is)] at hm
      obtain ⟨i, _, hi⟩ := List.mem_filterMap.1 hm
      exact Node.mem_children_of_element? hi
    | slice start stop stride =>
      rw [found_of_ok (lawful.slice hn start stop stride)] at hm
      exact Node.mem_children_of_slice hm
    | _ => cases hp

theorem exists_find_step (hp : p.isStep = true) (n : Node) :
    ∃ ns, M.find (M.build p) n = .ok ns := by
  cases hn : n.isText with
  | true =>
    obtain ⟨ns, hns, -⟩ := lawful.inText hp hn
    exact ⟨ns, hns⟩
  | false =>
    cases p with
    | names ks => exact (lawful.names hn ks).elim (fun h => ⟨_, h⟩) fun h => ⟨_, h.2⟩
    | every => exact (lawful.every hn).imp fun _ h => h.1
    | positions is => exact ⟨_, lawful.positions hn is⟩
    | slice start stop stride => exact ⟨_, lawful.slice hn start stop stride⟩
    | _ => cases hp

end LawfulSearch

/-! ## Searches that do not stop -/

/-- The path is made of steps and of other parts that have an answer at every node, in no deeper
documents. -/
inductive Quiet (M : Matcher) : Path → Prop
  | root : Quiet M .root
  | current : Quiet M .current
  | step {p : Path} (h : p.isStep = true) : Quiet M p
  | child {p q : Path} (hp : Quiet M p) (hq : Quiet M q) : Quiet M (.child p q)
  | descend {p q : Path} (hp : Quiet M p) (hq : Quiet M q) : Quiet M (.descend p q)
  | union {p q : Path} (hp : Quiet M p) (hq : Quiet M q) : Quiet M (.union p q)
  | having {p q : Path} (hp : Quiet M p) (hq : Quiet M q) : Quiet M (.having p q)
  | lacking {p q : Path} (hp : Quiet M p) (hq : Quiet M q) : Quiet M (.lacking p q)
  /-- A filter, a length or anything else that never stops. -/
  | other {p : Path} (h : ∀ n, ∃ ns, M.find (M.build p) n = .ok ns ∧
      ∀ m ∈ ns, m.root.value.depth ≤ n.root.value.depth) : Quiet M p

section Quiet

variable (lawful : M.LawfulSearch room)
include lawful

theorem Quiet.depth_le (hp : M.Quiet p) (n : Node) :
    ∀ m ∈ M.found p n, m.root.value.depth ≤ n.root.value.depth := by
  intro m hm
  induction hp generalizing n m with
  | root =>
    rw [found_of_ok (lawful.root n), List.mem_singleton] at hm
    have hroot : m.root = n.root := hm ▸ Node.root_root n
    exact hroot ▸ Nat.le_refl _
  | current =>
    rw [found_of_ok (lawful.current n), List.mem_singleton] at hm
    exact hm ▸ Nat.le_refl _
  | step h =>
    have hparent : m.parent? = some n :=
      (lawful.mem_found_step h hm).elim Node.parent?_of_mem_children fun h => h.2.1
    exact Node.root_of_parent? hparent ▸ Nat.le_refl _
  | child _ _ ihp ihq =>
    obtain ⟨l, hl, hm⟩ := List.mem_flatMap.1 ((lawful.found_child_sublist _ _ n).subset hm)
    exact Nat.le_trans (ihq l m hm) (ihp n l hl)
  | descend _ _ ihp ihq =>
    obtain ⟨l, hl, hm⟩ := List.mem_flatMap.1 ((lawful.found_descend_sublist _ _ n).subset hm)
    obtain ⟨k, hk, hl⟩ := List.mem_flatMap.1 hl
    refine Nat.le_trans (ihq l m hm) ?_
    rw [Node.root_of_mem_subtree hl]
    exact ihp n k hk
  | union _ _ ihp ihq =>
    rcases List.mem_append.1 ((lawful.found_union_sublist _ _ n).subset hm) with hm | hm
    · exact ihp n m hm
    · exact ihq n m hm
  | having _ _ ihp => exact ihp n m ((lawful.found_having_sublist _ _ n).subset hm)
  | lacking _ _ ihp => exact ihp n m ((lawful.found_lacking_sublist _ _ n).subset hm)
  | other h =>
    obtain ⟨ns, hns, hd⟩ := h n
    exact hd m (found_of_ok hns ▸ hm)

/-- **A search whose parts do not stop does not stop as long as there is room for it.** -/
theorem Quiet.answers (hp : M.Quiet p) (n : Node) (hroom : p.height n.root.value.depth ≤ room) :
    ∃ ns, M.find (M.build p) n = .ok ns := by
  -- what is found lies in documents that are no deeper, so that there is room from there as well
  have next {p q : Path} {n : Node} {ns : List Node} (hp : M.Quiet p)
      (hns : M.find (M.build p) n = .ok ns) (hq : q.height n.root.value.depth ≤ room) :
      ∀ m ∈ ns, q.height m.root.value.depth ≤ room := by
    intro m hm
    exact Nat.le_trans (Path.height_mono (hp.depth_le lawful n m (found_of_ok hns ▸ hm)) q) hq
  induction hp generalizing n with
  | root => exact ⟨_, lawful.root n⟩
  | current => exact ⟨_, lawful.current n⟩
  | step h => exact lawful.exists_find_step h n
  | @child p q hp _ ihp ihq =>
    have hmax : max (p.height n.root.value.depth) (q.height n.root.value.depth) + 1 ≤ room := hroom
    obtain ⟨ns, hns⟩ := ihp n (by omega)
    rw [(lawful.child p q n).find_eq hroom, hns]
    exact exists_gather_eq_ok fun m hm => ihq m (next hp hns (by omega) m hm)
  | @descend p q hp _ ihp ihq =>
    have hmax : max (p.height n.root.value.depth)
      (n.root.value.depth + q.height n.root.value.depth) + 1 ≤ room := hroom
    obtain ⟨ns, hns⟩ := ihp n (by omega)
    rw [(lawful.descend p q n).find_eq hroom, hns]
    refine exists_gather_eq_ok fun m hm => ihq m ?_
    obtain ⟨l, hl, hm⟩ := List.mem_flatMap.1 hm
    rw [Node.root_of_mem_subtree hm]
    exact next hp hns (by omega) l hl
  | @union p q _ _ ihp ihq =>
    have hmax : max (p.height n.root.value.depth) (q.height n.root.value.depth) + 1 ≤ room := hroom
    obtain ⟨ns, hns⟩ := ihp n (by omega)
    obtain ⟨ms, hms⟩ := ihq n (by omega)
    rw [(lawful.union p q n).find_eq hroom, hns, hms]
    exact ⟨ns ++ ms, rfl⟩
  | @having p q hp _ ihp ihq =>
    have hmax : max (p.height n.root.value.depth) (q.height n.root.value.depth) + 1 ≤ room := hroom
    obtain ⟨ns, hns⟩ := ihp n (by omega)
    rw [(lawful.having p q n).find_eq hroom, hns]
    refine exists_select_eq_ok fun m hm => ?_
    obtain ⟨ms, hms⟩ := ihq m (next hp hns (by omega) m hm)
    exact ⟨!ms.isEmpty, by rw [hms]; rfl⟩
  | @lacking p q hp _ ihp ihq =>
    have hmax : max (p.height n.root.value.depth) (q.height n.root.value.depth) + 1 ≤ room := hroom
    obtain ⟨ns, hns⟩ := ihp n (by omega)
    rw [(lawful.lacking p q n).find_eq hroom, hns]
    refine exists_select_eq_ok fun m hm => ?_
    obtain ⟨ms, hms⟩ := ihq m (next hp hns (by omega) m hm)
    exact ⟨ms.isEmpty, by rw [hms]; rfl⟩
  | other h => exact (h n).imp fun _ h => h.1

end Quiet

/-! ## The standard matcher -/

/-- **The standard matcher is lawful, with room for all levels.** It finds nothing in a text. -/
theorem lawfulSearch_standard (room : Nat) : standard.LawfulSearch room where
  root _ := rfl
  current _ := rfl
  parent {n ns} h := by
    have h : n.parent?.elim (.error .noParent) (.ok [·]) = Except.ok (ε := SearchError) ns := by
      rw [← h]
      show _ = Path.find n .parent
      rw [Path.find]
      cases n.parent? <;> rfl
    cases hp : n.parent? with
    | none =>
      rw [hp] at h
      cases h
    | some m =>
      rw [hp] at h
      cases h
      simp
  names _ _ := .inl rfl
  every _ := ⟨_, rfl, List.Sublist.refl _⟩
  positions _ _ := rfl
  slice _ _ _ _ := rfl
  inText {p n} step text := by
    refine ⟨[], ?_, by simp⟩
    obtain ⟨v, t⟩ := n
    cases v with
    | text u =>
      cases p with
      | names ks =>
        show Except.ok (ks.filterMap fun _ => none) = _
        rw [List.filterMap_none]
      | every => rfl
      | positions is =>
        show Except.ok (is.filterMap fun _ => none) = _
        rw [List.filterMap_none]
      | slice start stop stride => rfl
      | _ => cases step
    | _ => cases text
  filter {c n ns} h := by
    have hsub := select_sublist (fun m => c.holds (c.sight m)) n.children
    have h : select (fun m => c.holds (c.sight m)) n.children = .ok ns := h
    rwa [h] at hsub
  child _ _ _ := .inl Path.find_child
  descend _ _ _ := .inl Path.find_descend
  union _ _ _ := .inl Path.find_union
  having _ _ _ := .inl Path.find_having
  lacking _ _ _ := .inl Path.find_lacking

/-- A tame path never stops the standard matcher. -/
theorem answers_standard (h : p.isTame = true) (n : Node) : ∃ ns, standard.find p n = .ok ns := by
  cases hp : p.find n with
  | error e => exact absurd hp (Path.find_ne_error h n e)
  | ok ns => exact ⟨ns, hp⟩

/-! ## Matchers with less room -/

/-- The standard matcher with room for some levels. It stops at paths that take more. -/
@[reducible] def within (room : Nat) : Matcher where
  Expression := Path
  compile := Path.parse
  build p := p
  find p n :=
    if p.height 0 ≤ room then p.find n else .error (.other "maximum recursion depth exceeded")

theorem find_within (h : p.height 0 ≤ room) : (within room).find p = standard.find p :=
  funext fun _ => if_pos h

theorem gives_within {r : Except SearchError (List Node)}
    (h : p.height 0 ≤ room → (within room).find p n = r) : (within room).Gives room p n r := by
  by_cases hle : p.height 0 ≤ room
  · exact .inl (h hle)
  · have hlt : room < p.height n.root.value.depth :=
      Nat.lt_of_lt_of_le (Nat.not_le.1 hle) (Path.height_mono (Nat.zero_le _) p)
    exact .inr ⟨hlt, _, if_neg hle⟩

theorem lawfulSearch_within (hroom : 1 ≤ room) : (within room).LawfulSearch room where
  root n := (if_pos hroom).trans ((lawfulSearch_standard room).root n)
  current n := (if_pos hroom).trans ((lawfulSearch_standard room).current n)
  parent {n ns} h := (lawfulSearch_standard room).parent ((if_pos hroom).symm.trans h)
  names {n} h ks := by
    rw [find_within (p := .names ks) hroom]
    exact (lawfulSearch_standard room).names h ks
  every {n} h := by
    rw [find_within (p := .every) hroom]
    exact (lawfulSearch_standard room).every h
  positions {n} h is := by
    rw [find_within (p := .positions is) hroom]
    exact (lawfulSearch_standard room).positions h is
  slice {n} h start stop stride := by
    rw [find_within (p := .slice start stop stride) hroom]
    exact (lawfulSearch_standard room).slice h start stop stride
  inText {p n} step text := by
    have hp : p.height 0 ≤ room := by
      cases p with
      | names _ | every | positions _ | slice _ _ _ => exact hroom
      | _ => cases step
    rw [find_within hp]
    exact (lawfulSearch_standard room).inText step text
  filter {c n ns} h := (lawfulSearch_standard room).filter ((if_pos hroom).symm.trans h)
  child p q n := gives_within fun h => by
    have hmax : max (p.height 0) (q.height 0) + 1 ≤ room := h
    rw [find_within h, find_within (p := p) (by omega), find_within (p := q) (by omega)]
    exact Path.find_child
  descend p q n := gives_within fun h => by
    have hmax : max (p.height 0) (0 + q.height 0) + 1 ≤ room := h
    rw [find_within h, find_within (p := p) (by omega), find_within (p := q) (by omega)]
    exact Path.find_descend
  union p q n := gives_within fun h => by
    have hmax : max (p.height 0) (q.height 0) + 1 ≤ room := h
    rw [find_within h, find_within (p := p) (by omega), find_within (p := q) (by omega)]
    exact Path.find_union
  having p q n := gives_within fun h => by
    have hmax : max (p.height 0) (q.height 0) + 1 ≤ room := h
    rw [find_within h, find_within (p := p) (by omega), find_within (p := q) (by omega)]
    exact Path.find_having
  lacking p q n := gives_within fun h => by
    have hmax : max (p.height 0) (q.height 0) + 1 ≤ room := h
    rw [find_within h, find_within (p := p) (by omega), find_within (p := q) (by omega)]
    exact Path.find_lacking

end Matcher

end DeltaBridge
