import DeltaBridge.Proofs.Path.Faults
import DeltaBridge.Proofs.Path.Literals

/-!
# What is found in documents

A plain path finds no bytes in a document without bytes.

* `Node.Plain`: there are no bytes in the node, nor on the way to it; `Node.Plain.children`,
  `Node.Plain.subtree`;
* `Calculation.hasBytes_apply`: arithmetic makes no bytes;
* **`Path.plain_find`**: what a plain path finds.
-/

namespace DeltaBridge

open Value

/-! ## Nodes -/

namespace Node

/-- There are no bytes in the node, nor in the containers on the way to it. -/
structure Plain (n : Node) : Prop where
  value : n.value.hasBytes = false
  trail : ∀ x ∈ n.trail, x.2.hasBytes = false

variable {n : Node}

theorem plain_fresh {v : Value} (h : v.hasBytes = false) : (fresh v).Plain := ⟨h, by simp [fresh]⟩

namespace Plain

theorem below (h : n.Plain) (s : Step) {v : Value} (hv : v.hasBytes = false) :
    (n.below s v).Plain :=
  ⟨hv, List.forall_mem_cons.2 ⟨h.value, h.trail⟩⟩

theorem parent (h : n.Plain) {m : Node} (hm : n.parent? = some m) : m.Plain := by
  obtain ⟨v, trail⟩ := n
  unfold parent? at hm
  cases trail with
  | nil => cases hm
  | cons x t =>
    cases hm
    have ht := List.forall_mem_cons.1 h.trail
    exact ⟨ht.1, ht.2⟩

theorem root (h : n.Plain) : n.root.Plain := by
  unfold Node.root
  split
  · exact h
  · rename_i x v hx
    exact plain_fresh (h.trail _ (List.mem_of_getLast? hx))

theorem elementNodes (h : n.Plain) {xs : List Value} (hxs : ∀ x ∈ xs, x.hasBytes = false)
    (i : Nat) :
    ∀ m ∈ n.elementNodes i xs, m.Plain := by
  induction xs generalizing i with
  | nil => simp [Node.elementNodes]
  | cons x xs ih =>
    rw [List.forall_mem_cons] at hxs
    rw [Node.elementNodes, List.forall_mem_cons]
    exact ⟨h.below _ hxs.1, ih hxs.2 (i + 1)⟩

theorem memberNodes (h : n.Plain) {ms : List (Text × Value)}
    (hms : ∀ m ∈ ms, m.2.hasBytes = false) :
    ∀ m ∈ n.memberNodes ms, m.Plain := by
  intro m hm
  obtain ⟨x, hx, rfl⟩ := List.mem_map.1 hm
  exact h.below _ (hms x hx)

theorem children (h : n.Plain) : ∀ m ∈ n.children, m.Plain := by
  unfold Node.children
  have hv := h.value
  split
  · rename_i xs hxs
    rw [hxs] at hv
    exact h.elementNodes ((somewhere_list_eq_false isBytes).1 hv) 0
  · rename_i ms hms
    rw [hms] at hv
    exact h.memberNodes ((somewhere_object_eq_false isBytes).1 hv)
  · simp

theorem member? (h : n.Plain) {k : Text} {m : Node} (hm : n.member? k = some m) : m.Plain := by
  unfold Node.member? at hm
  have hv := h.value
  split at hm
  · rename_i ms hms
    rw [hms] at hv
    obtain ⟨v, hk, rfl⟩ := Option.map_eq_some_iff.1 hm
    obtain ⟨before, after, rfl, _⟩ := List.lookup_eq_some_iff.1 hk
    exact h.below _ ((somewhere_object_eq_false isBytes).1 hv (k, v) (by simp))
  · cases hm

theorem element? (h : n.Plain) {i : Int} {m : Node} (hm : n.element? i = some m) : m.Plain := by
  unfold Node.element? at hm
  have hv := h.value
  split at hm
  · rename_i xs hxs
    rw [hxs] at hv
    dsimp only at hm
    generalize (if i < 0 then i + (xs.length : Int) else i) = j at hm
    by_cases hj : j < 0
    · rw [if_pos hj] at hm
      cases hm
    · rw [if_neg hj] at hm
      obtain ⟨v, hk, rfl⟩ := Option.map_eq_some_iff.1 hm
      exact h.below _ ((somewhere_list_eq_false isBytes).1 hv v (List.mem_of_getElem? hk))
  · cases hm

theorem slice (h : n.Plain) (start stop stride : Option Int) :
    ∀ m ∈ n.slice start stop stride, m.Plain := by
  intro m hm
  unfold Node.slice at hm
  split at hm
  · obtain ⟨i, _, hi⟩ := List.mem_filterMap.1 hm
    exact h.element? hi
  · cases hm

end Plain

mutual

theorem plain_subtreeOf : ∀ (v : Value) (t : List (Step × Value)), (Node.mk v t).Plain →
    ∀ m ∈ subtreeOf t v, m.Plain
  | .list xs, t, h => by
    rw [subtreeOf, List.forall_mem_cons]
    exact ⟨h, plain_subtreeItems xs t (.list xs) 0 h ((somewhere_list_eq_false isBytes).1 h.value)⟩
  | .object ms, t, h => by
    rw [subtreeOf, List.forall_mem_cons]
    exact ⟨h, plain_subtreeMembers ms t (.object ms) h
      ((somewhere_object_eq_false isBytes).1 h.value)⟩
  | .null, _, h | .bool _, _, h | .int _, _, h | .float _, _, h | .text _, _, h
  | .bytes _, _, h => by
    simpa [subtreeOf] using h

theorem plain_subtreeItems :
    ∀ (xs : List Value) (t : List (Step × Value)) (whole : Value) (i : Nat),
    (Node.mk whole t).Plain → (∀ x ∈ xs, x.hasBytes = false) →
    ∀ m ∈ subtreeItems t whole i xs, m.Plain
  | [], _, _, _, _, _ => by simp [subtreeItems]
  | x :: xs, t, whole, i, h, hx => by
    rw [List.forall_mem_cons] at hx
    rw [subtreeItems]
    intro m hm
    rcases List.mem_append.1 hm with hm | hm
    · exact plain_subtreeOf x _ (h.below (.element i) hx.1) m hm
    · exact plain_subtreeItems xs t whole (i + 1) h hx.2 m hm

theorem plain_subtreeMembers :
    ∀ (ms : List (Text × Value)) (t : List (Step × Value)) (whole : Value),
    (Node.mk whole t).Plain → (∀ m ∈ ms, m.2.hasBytes = false) →
    ∀ m ∈ subtreeMembers t whole ms, m.Plain
  | [], _, _, _, _ => by simp [subtreeMembers]
  | (k, v) :: ms, t, whole, h, hms => by
    rw [List.forall_mem_cons] at hms
    rw [subtreeMembers]
    intro m hm
    rcases List.mem_append.1 hm with hm | hm
    · exact plain_subtreeOf v _ (h.below (.member k) hms.1) m hm
    · exact plain_subtreeMembers ms t whole h hms.2 m hm

end

theorem Plain.subtree (h : n.Plain) : ∀ m ∈ n.subtree, m.Plain := plain_subtreeOf n.value n.trail h

end Node

/-! ## Arithmetic -/

theorem hasBytes_repeated {k : Int} {xs : List Value} (h : (Value.list xs).hasBytes = false) :
    (Value.list (Calculation.repeated k xs)).hasBytes = false := by
  rw [hasBytes, somewhere_list_eq_false] at h ⊢
  intro x hx
  obtain ⟨ys, hy, hxy⟩ := List.mem_flatten.1 hx
  rw [List.eq_of_mem_replicate hy] at hxy
  exact h x hxy

theorem Calculation.hasBytes_onDoubles {op : Calculation}
    {ea eb : Except SearchError (Option Float)} {x : Value}
    (h : (do
      let a ← ea
      let b ← eb
      return a.bind fun y => b.map fun z => Value.float (op.onFloats y z)) = Except.ok (some x)) :
    x.hasBytes = false := by
  cases ea with
  | error e => cases h
  | ok a =>
    cases eb with
    | error e => cases h
    | ok b =>
      have hx :
        (a.bind fun y => b.map fun z => Value.float (op.onFloats y z)) = some x := Except.ok.inj h
      obtain ⟨y, _, hx⟩ := Option.bind_eq_some_iff.1 hx
      obtain ⟨z, _, rfl⟩ := Option.map_eq_some_iff.1 hx
      rfl

theorem Calculation.hasBytes_apply {op : Calculation} {v w x : Value} (hv : v.hasBytes = false)
    (hw : w.hasBytes = false) (h : op.apply v w = .ok (some x)) : x.hasBytes = false := by
  unfold apply at h
  split at h
  · cases h
    rfl
  · cases h
    rw [hasBytes, somewhere_list_eq_false] at hv hw ⊢
    intro y hy
    rcases List.mem_append.1 hy with hy | hy
    · exact hv y hy
    · exact hw y hy
  · split at h
    · cases h
      rfl
    · split at h
      · cases h
        rfl
      · cases h
        exact hasBytes_repeated hv
      · cases h
        rfl
      · cases h
        exact hasBytes_repeated hw
      · split at h
        · exact hasBytes_onDoubles h
        · cases h

theorem Calculation.hasBytes_onPairs {op : Calculation} {ps : List (Value × Value)}
    {xs : List Value} (hp : ∀ q ∈ ps, q.1.hasBytes = false ∧ q.2.hasBytes = false)
    (h : op.onPairs ps = .ok (some xs)) :
    ∀ x ∈ xs, x.hasBytes = false := by
  induction ps generalizing xs with
  | nil =>
    cases h
    simp
  | cons q ps ih =>
    obtain ⟨v, w⟩ := q
    rw [List.forall_mem_cons] at hp
    unfold onPairs at h
    split at h
    · cases h
    · cases h
    · rename_i x hx
      cases hr : op.onPairs ps with
      | error e => rw [hr] at h; cases h
      | ok r =>
        cases r with
        | none => rw [hr] at h; cases h
        | some ys =>
          rw [hr] at h
          cases h
          exact List.forall_mem_cons.2 ⟨hasBytes_apply hp.1.1 hp.1.2 hx, ih hp.2 hr⟩

/-! ## Searches -/

/-- There are no bytes in the values of an operand. -/
def PlainValues : List Value ⊕ Value → Prop
  | .inl vs => ∀ v ∈ vs, v.hasBytes = false
  | .inr v => v.hasBytes = false

theorem plain_operandPairs {a b : List Value ⊕ Value} (ha : PlainValues a) (hb : PlainValues b) :
    ∀ q ∈ operandPairs a b, q.1.hasBytes = false ∧ q.2.hasBytes = false := by
  intro q hq
  unfold operandPairs at hq
  split at hq
  · split at hq
    · obtain ⟨h₁, h₂⟩ := List.of_mem_zip (a := q.1) (b := q.2) hq
      exact ⟨ha _ h₁, hb _ h₂⟩
    · cases hq
  · obtain ⟨v, hv, rfl⟩ := List.mem_map.1 hq
    exact ⟨ha v hv, hb⟩
  · obtain ⟨v, hv, rfl⟩ := List.mem_map.1 hq
    exact ⟨ha, hb v hv⟩
  · rw [List.mem_singleton] at hq
    rw [hq]
    exact ⟨ha, hb⟩

theorem mem_gather {α β ε : Type} {f : α → Except ε (List β)} {P : β → Prop} {ns : List α}
    {xs : List β} (hf : ∀ n ∈ ns, ∀ ys, f n = .ok ys → ∀ y ∈ ys, P y) (h : gather f ns = .ok xs) :
    ∀ x ∈ xs, P x := by
  intro x hx
  have hsub := gather_sublist f ns
  rw [h] at hsub
  obtain ⟨n, hn, hxn⟩ := List.mem_flatMap.1 (hsub.subset hx)
  cases hy : f n with
  | error e =>
    rw [hy] at hxn
    cases hxn
  | ok ys =>
    rw [hy] at hxn
    exact hf n hn ys hy x hxn

theorem mem_select {α ε : Type} {f : α → Except ε Bool} {ns xs : List α}
    (h : select f ns = .ok xs) : ∀ x ∈ xs, x ∈ ns := by
  have hsub := select_sublist f ns
  rw [h] at hsub
  exact fun x hx => hsub.subset hx

mutual

/-- **A plain path finds no bytes where there are none.** -/
theorem Path.plain_find : ∀ (p : Path) (n : Node) (ns : List Node), p.isPlain = true → n.Plain →
    p.find n = .ok ns → ∀ m ∈ ns, m.Plain
  | .root, n, ns, _, hn, h => by
    cases h
    simpa using hn.root
  | .current, n, ns, _, hn, h => by
    cases h
    simpa using hn
  | .parent, n, ns, _, hn, h => by
    rw [Path.find] at h
    split at h
    · rename_i m hm
      cases h
      simpa using hn.parent hm
    · cases h
  | .names ks, n, ns, _, hn, h => by
    cases h
    intro m hm
    obtain ⟨k, _, hk⟩ := List.mem_filterMap.1 hm
    exact hn.member? hk
  | .every, n, ns, _, hn, h => by
    cases h
    exact hn.children
  | .positions is, n, ns, _, hn, h => by
    cases h
    intro m hm
    obtain ⟨i, _, hi⟩ := List.mem_filterMap.1 hm
    exact hn.element? hi
  | .slice a b s, n, ns, _, hn, h => by
    cases h
    exact hn.slice a b s
  | .filter c, n, ns, _, hn, h => fun m hm => hn.children m (mem_select h m hm)
  | .size, n, ns, _, hn, h => by
    cases h
    intro m hm
    obtain ⟨k, _, rfl⟩ := List.mem_map.1 hm
    exact Node.plain_fresh rfl
  | .keys, n, ns, _, hn, h => by
    cases h
    intro m hm
    obtain ⟨k, _, rfl⟩ := List.mem_map.1 hm
    exact Node.plain_fresh rfl
  | .child p q, n, ns, hp, hn, h => by
    rw [Path.isPlain, Bool.and_eq_true] at hp
    rw [Path.find] at h
    split at h
    · cases h
    · rename_i ms hms
      have hm := Path.plain_find p n ms hp.1 hn hms
      exact mem_gather (fun m hm' ys => Path.plain_find q m ys hp.2 (hm m hm')) h
  | .descend p q, n, ns, hp, hn, h => by
    rw [Path.isPlain, Bool.and_eq_true] at hp
    rw [Path.find] at h
    split at h
    · cases h
    · rename_i ms hms
      have hm := Path.plain_find p n ms hp.1 hn hms
      refine mem_gather (fun m hm' ys => Path.plain_find q m ys hp.2 ?_) h
      obtain ⟨l, hl, hm'⟩ := List.mem_flatMap.1 hm'
      exact (hm l hl).subtree m hm'
  | .union p q, n, ns, hp, hn, h => by
    rw [Path.isPlain, Bool.and_eq_true] at hp
    rw [Path.find] at h
    split at h
    · cases h
    · rename_i ms hms
      cases hq : q.find n with
      | error e => rw [hq] at h; cases h
      | ok ls =>
        rw [hq] at h
        cases h
        intro m hm
        rcases List.mem_append.1 hm with hm | hm
        · exact Path.plain_find p n ms hp.1 hn hms m hm
        · exact Path.plain_find q n ls hp.2 hn hq m hm
  | .intersect p q, n, ns, hp, hn, h => by
    cases h
  | .having p q, n, ns, hp, hn, h => by
    rw [Path.isPlain, Bool.and_eq_true] at hp
    rw [Path.find] at h
    split at h
    · cases h
    · rename_i ms hms
      exact fun m hm => Path.plain_find p n ms hp.1 hn hms m (mem_select h m hm)
  | .lacking p q, n, ns, hp, hn, h => by
    rw [Path.isPlain, Bool.and_eq_true] at hp
    rw [Path.find] at h
    split at h
    · cases h
    · rename_i ms hms
      exact fun m hm => Path.plain_find p n ms hp.1 hn hms m (mem_select h m hm)
  | .compute op a b, n, ns, hp, hn, h => by
    rw [Path.isPlain, Bool.and_eq_true] at hp
    rw [Path.find] at h
    split at h
    · cases h
    rename_i vs hvs
    split at h
    · cases h
    rename_i ws hws
    have hpairs := plain_operandPairs (Operand.plain_values a n vs hp.1 hn hvs)
      (Operand.plain_values b n ws hp.2 hn hws)
    cases hr : op.onPairs (operandPairs vs ws) with
    | error e => rw [hr] at h; cases h
    | ok r =>
      rw [hr] at h
      cases h
      intro m hm
      obtain ⟨x, hx, rfl⟩ := List.mem_map.1 hm
      cases r with
      | none => cases hx
      | some xs => exact Node.plain_fresh (Calculation.hasBytes_onPairs hpairs hr x hx)

theorem Operand.plain_values :
    ∀ (a : Operand) (n : Node) (vs : List Value ⊕ Value), a.isPlain = true → n.Plain →
    a.values n = .ok vs → PlainValues vs
  | .literal v, n, vs, ha, _, h => by
    cases h
    simpa [Operand.isPlain, PlainValues] using ha
  | .path p, n, vs, ha, hn, h => by
    rw [Operand.isPlain] at ha
    rw [Operand.values] at h
    cases hp : p.find n with
    | error e => rw [hp] at h; cases h
    | ok ns =>
      rw [hp] at h
      cases h
      intro v hv
      obtain ⟨m, hm, rfl⟩ := List.mem_map.1 hv
      exact (Path.plain_find p n ns ha hn hp m hm).value

end

end DeltaBridge
