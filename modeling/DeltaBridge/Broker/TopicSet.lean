import DeltaBridge.Text.Basic

/-!
# Sets of topics

A set of topics is kept as a strictly increasing list, by code points, so each set has one form and
its topics come in one order.

* `Text.precedes`: the order by code points;
* `TopicSet`, `TopicSet.insert`, `TopicSet.ofList`;
* `TopicSet.mem_insert`, `TopicSet.mem_ofList`: the members.
-/

namespace DeltaBridge

namespace Text

/-- The first text comes before the second: it has the lesser code point where they first differ, or it
ends there. -/
def precedes : Text → Text → Bool
  | _, [] => false
  | [], _ :: _ => true
  | a :: s, b :: t => decide (a < b) || (decide (a = b) && precedes s t)

theorem precedes_cons {a b : CodePoint} {s t : Text} :
    precedes (a :: s) (b :: t) = true ↔ a < b ∨ a = b ∧ precedes s t = true := by
  simp [precedes]

theorem precedes_trans {s t u : Text} (h : precedes s t) (h' : precedes t u) : precedes s u := by
  induction s generalizing t u with
  | nil => cases t <;> cases u <;> simp_all [precedes]
  | cons a s ih =>
    cases t with
    | nil => simp [precedes] at h
    | cons b t =>
      cases u with
      | nil => simp [precedes] at h'
      | cons c u =>
        rw [precedes_cons] at h h' ⊢
        rcases h with h | ⟨rfl, h⟩ <;> rcases h' with h' | ⟨rfl, h'⟩
        · exact .inl (Nat.lt_trans h h')
        · exact .inl h
        · exact .inl h'
        · exact .inr ⟨rfl, ih h h'⟩

theorem precedes_or_eq {s t : Text} (h : precedes s t = false) : precedes t s ∨ s = t := by
  induction s generalizing t with
  | nil => cases t <;> simp_all [precedes]
  | cons a s ih =>
    cases t with
    | nil => simp [precedes]
    | cons b t =>
      rw [precedes_cons]
      have hn : ¬(a < b ∨ a = b ∧ precedes s t = true) := by rw [← precedes_cons, h]; simp
      rcases Nat.lt_trichotomy a b with hab | rfl | hab
      · exact absurd (.inl hab) hn
      · have : precedes s t = false := by simpa using fun hp => hn (.inr ⟨rfl, hp⟩)
        rcases ih this with hp | rfl
        · exact .inl (.inr ⟨rfl, hp⟩)
        · exact .inr rfl
      · exact .inl (.inl hab)

end Text

/-- A finite set of topics. -/
structure TopicSet where
  toList : List Text
  increasing : toList.Pairwise fun s t => Text.precedes s t = true
  deriving DecidableEq

namespace TopicSet

/-- The set without topics. -/
def empty : TopicSet := ⟨[], .nil⟩

instance : EmptyCollection TopicSet := ⟨empty⟩

instance : Membership Text TopicSet := ⟨fun s t => t ∈ s.toList⟩

/-- The set has no topics. -/
def isEmpty (s : TopicSet) : Bool := s.toList.isEmpty

/-- The number of topics. -/
def size (s : TopicSet) : Nat := s.toList.length

@[simp] theorem toList_empty : (∅ : TopicSet).toList = [] := rfl

/-- A topic put in its place among others. -/
def place (t : Text) : List Text → List Text
  | [] => [t]
  | u :: us => if t.precedes u then t :: u :: us else if t = u then u :: us else u :: place t us

theorem mem_place {t x : Text} {us : List Text} : x ∈ place t us ↔ x = t ∨ x ∈ us := by
  induction us with
  | nil => simp [place]
  | cons u us ih =>
    unfold place
    split
    · simp
    · split
      · rename_i h; simp [h]
      · simp only [List.mem_cons, ih]
        exact or_left_comm

theorem pairwise_place {t : Text} {us : List Text} (h : us.Pairwise fun s t => Text.precedes s t = true) :
    (place t us).Pairwise fun s t => Text.precedes s t = true := by
  induction us with
  | nil => simp [place]
  | cons u us ih =>
    have hu := List.pairwise_cons.1 h
    unfold place
    split
    · rename_i ht
      refine List.pairwise_cons.2 ⟨fun x hx => ?_, h⟩
      rcases List.mem_cons.1 hx with rfl | hx
      · exact ht
      · exact Text.precedes_trans ht (hu.1 x hx)
    · split
      · exact h
      · rename_i h1 h2
        refine List.pairwise_cons.2 ⟨fun x hx => ?_, ih hu.2⟩
        rcases mem_place.1 hx with rfl | hx
        · exact (Text.precedes_or_eq (by simpa using h1)).resolve_right h2
        · exact hu.1 x hx

/-- The set with one more topic. -/
def insert (t : Text) (s : TopicSet) : TopicSet := ⟨place t s.toList, pairwise_place s.increasing⟩

/-- The set of some topics. -/
def ofList (ts : List Text) : TopicSet := ts.foldr insert ∅

theorem mem_insert {t x : Text} {s : TopicSet} : x ∈ (insert t s).toList ↔ x = t ∨ x ∈ s.toList := mem_place

@[simp] theorem mem_ofList {x : Text} {ts : List Text} : x ∈ (ofList ts).toList ↔ x ∈ ts := by
  induction ts with
  | nil => simp [ofList]
  | cons t ts ih =>
    have : ofList (t :: ts) = insert t (ofList ts) := rfl
    rw [this, mem_insert, ih, List.mem_cons]

end TopicSet

end DeltaBridge
