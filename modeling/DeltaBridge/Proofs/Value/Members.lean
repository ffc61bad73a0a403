import DeltaBridge.Value.Basic

/-!
# Members of objects

The members that pairs leave: one for each key, each with a value of one of the pairs.

* `Members.keys`, `Members.keys_put`, `Members.get?_of_mem`: the keys of members;
* `Members.mem_put`, `Members.mem_ofPairs`: a property of all values is kept;
* `Members.nodup_keys_ofPairs`, `Members.ofPairs_of_nodup`: members have distinct keys, and pairs
  with distinct keys are the members;
* `Members.get?_ofPairs`: of pairs with one key the last one counts;
* `Value.DistinctKeys`: so it is with each object in a value.
-/

namespace DeltaBridge

namespace Members

variable {α : Type}

/-- The keys of some members. -/
def keys (ms : List (Text × α)) : List Text := ms.map (·.1)

theorem keys_put (k : Text) (v : α) (ms : List (Text × α)) :
    keys (put k v ms) = if k ∈ keys ms then keys ms else keys ms ++ [k] := by
  induction ms with
  | nil => rfl
  | cons m ms ih =>
    unfold put
    by_cases hm : m.1 = k
    · simp [hm, keys]
    · rw [if_neg hm]
      unfold keys at ih ⊢
      have hk : k ≠ m.1 := fun h => hm h.symm
      simp only [List.map_cons, ih, List.mem_cons, hk, false_or]
      split <;> simp

/-- With distinct keys each member is found under its key. -/
theorem get?_of_mem {ms : List (Text × α)} (h : (keys ms).Nodup) {m : Text × α} (hm : m ∈ ms) :
    get? m.1 ms = some m.2 := by
  induction ms with
  | nil => cases hm
  | cons x ms ih =>
    unfold keys at h ih
    rw [List.map_cons, List.nodup_cons] at h
    unfold get? at ih ⊢
    rcases List.mem_cons.1 hm with rfl | hm
    · obtain ⟨k, v⟩ := m
      simp
    · have hne : m.1 ≠ x.1 := fun he => h.1 (he ▸ List.mem_map_of_mem hm)
      rw [List.lookup_cons, beq_eq_false_iff_ne.2 hne]
      exact ih h.2 hm

theorem mem_put {P : α → Prop} {k : Text} {v : α} {ms : List (Text × α)}
    (hv : P v) (h : ∀ m ∈ ms, P m.2) : ∀ m ∈ put k v ms, P m.2 := by
  induction ms with
  | nil =>
    intro m hm
    rw [put, List.mem_singleton] at hm
    rw [hm]
    exact hv
  | cons x ms ih =>
    rw [List.forall_mem_cons] at h
    intro m hm
    unfold put at hm
    split at hm
    · rcases List.mem_cons.1 hm with rfl | hm
      · exact hv
      · exact h.2 m hm
    · rcases List.mem_cons.1 hm with rfl | hm
      · exact h.1
      · exact ih h.2 m hm

theorem mem_ofPairs {P : α → Prop} {ps : List (Text × α)} (h : ∀ m ∈ ps, P m.2) :
    ∀ m ∈ ofPairs ps, P m.2 := by
  suffices hf : ∀ ms : List (Text × α), (∀ m ∈ ms, P m.2) →
      ∀ m ∈ ps.foldl (fun ms p => put p.1 p.2 ms) ms, P m.2 from hf [] (by simp)
  induction ps with
  | nil => exact fun ms hms => hms
  | cons p ps ih =>
    rw [List.forall_mem_cons] at h
    exact fun ms hms => ih h.2 _ (mem_put h.1 hms)

theorem nodup_keys_put {ms : List (Text × α)} (h : (keys ms).Nodup) (k : Text) (v : α) :
    (keys (put k v ms)).Nodup := by
  rw [keys_put]
  split
  · exact h
  · rename_i hk
    rw [List.nodup_append]
    refine ⟨h, by simp, ?_⟩
    rintro x hx y hy rfl
    exact hk (List.mem_singleton.1 hy ▸ hx)

/-- The members that pairs leave have distinct keys. -/
theorem nodup_keys_ofPairs (ps : List (Text × α)) : (keys (ofPairs ps)).Nodup := by
  suffices hf : ∀ ms : List (Text × α), (keys ms).Nodup →
      (keys (ps.foldl (fun ms p => put p.1 p.2 ms) ms)).Nodup from hf [] List.nodup_nil
  induction ps with
  | nil => exact fun ms hms => hms
  | cons p ps ih => exact fun ms hms => ih _ (nodup_keys_put hms p.1 p.2)

theorem put_of_not_mem {k : Text} {v : α} {ms : List (Text × α)} (h : k ∉ keys ms) :
    put k v ms = ms ++ [(k, v)] := by
  induction ms with
  | nil => rfl
  | cons m ms ih =>
    rw [keys, List.map_cons, List.mem_cons, not_or] at h
    rw [put, if_neg (Ne.symm h.1), ih h.2, List.cons_append]

/-- Pairs with distinct keys are the members, in their order. -/
theorem ofPairs_of_nodup {ps : List (Text × α)} (h : (keys ps).Nodup) : ofPairs ps = ps := by
  suffices hf : ∀ ms : List (Text × α), (keys (ms ++ ps)).Nodup →
      ps.foldl (fun ms p => put p.1 p.2 ms) ms = ms ++ ps from hf [] h
  clear h
  induction ps with
  | nil => simp
  | cons p ps ih =>
    intro ms h
    rw [List.append_cons] at h
    have hnew : p.1 ∉ keys ms := by
      rw [keys, List.map_append, List.nodup_append, List.map_append, List.nodup_append] at h
      exact fun hk => h.1.2.2 _ hk _ (by simp) rfl
    rw [List.foldl_cons, put_of_not_mem hnew, ih _ h, List.append_assoc, List.singleton_append]

theorem get?_map {β : Type} (f : α → β) (k : Text) (ms : List (Text × α)) :
    get? k (ms.map fun m => (m.1, f m.2)) = (get? k ms).map f := by
  unfold get?
  induction ms with
  | nil => rfl
  | cons m ms ih =>
    rw [List.map_cons, List.lookup_cons, List.lookup_cons, ih]
    cases k == m.1 <;> rfl

/-- Of the pairs with a key the last one counts. -/
theorem get?_ofPairs (k : Text) (ps : List (Text × α)) :
    get? k (ofPairs ps) = get? k ps.reverse := by
  suffices hf : ∀ ms, get? k (ps.foldl (fun ms p => put p.1 p.2 ms) ms) =
      (get? k ps.reverse).or (get? k ms) from (hf []).trans (Option.or_none)
  induction ps with
  | nil => exact fun ms => rfl
  | cons p ps ih =>
    intro ms
    rw [List.foldl_cons, ih, get?_put, List.reverse_cons]
    unfold get?
    rw [List.lookup_append, Option.or_assoc, List.lookup_cons, List.lookup_nil]
    by_cases hk : k = p.1
    · rw [if_pos hk, beq_iff_eq.2 hk, Option.some_or]
    · rw [if_neg hk, beq_eq_false_iff_ne.2 hk, Option.none_or]

end Members

/-- Each object in the value has distinct keys. -/
inductive Value.DistinctKeys : Value → Prop
  | null : DistinctKeys .null
  | bool (b : Bool) : DistinctKeys (.bool b)
  | int (n : Int) : DistinctKeys (.int n)
  | float (x : Float) : DistinctKeys (.float x)
  | text (t : Text) : DistinctKeys (.text t)
  | bytes (b : Bytes) : DistinctKeys (.bytes b)
  | list {xs : List Value} (h : ∀ x ∈ xs, DistinctKeys x) : DistinctKeys (.list xs)
  | object {ms : List (Text × Value)} (nodup : (Members.keys ms).Nodup)
    (h : ∀ m ∈ ms, DistinctKeys m.2) : DistinctKeys (.object ms)

end DeltaBridge
