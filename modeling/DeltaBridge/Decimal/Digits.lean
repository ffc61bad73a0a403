import DeltaBridge.Text.Digit

/-!
# Digit strings

Natural numbers and integers in decimal notation.

* `natText`, `intText`: the shortest notation;
* `readDigits`: the number that a list of digit values denotes, `readDigits_append`,
  `readDigits_lt`;
* `natDigits`: the digits of a number, `readDigits_natDigits`.
-/

namespace DeltaBridge

/-- The number with the given digit values, most significant first. -/
def readDigits (ds : List Nat) : Nat := ds.foldl (fun n d => n * 10 + d) 0

theorem foldl_digits (ds : List Nat) (n : Nat) :
    ds.foldl (fun n d => n * 10 + d) n = n * Nat.pow 10 ds.length + readDigits ds := by
  induction ds generalizing n with
  | nil => simp [readDigits]
  | cons d ds ih =>
    rw [readDigits, List.foldl_cons, List.foldl_cons, ih, ih (0 * 10 + d), List.length_cons]
    simp only [Nat.pow]
    grind

theorem readDigits_append (as bs : List Nat) :
    readDigits (as ++ bs) = readDigits as * Nat.pow 10 bs.length + readDigits bs := by
  rw [readDigits, List.foldl_append, foldl_digits]
  rfl

theorem readDigits_lt {ds : List Nat} (h : ∀ d ∈ ds, d < 10) :
    readDigits ds < Nat.pow 10 ds.length := by
  induction ds with
  | nil => decide
  | cons d ds ih =>
    rw [List.forall_mem_cons] at h
    have hds := ih h.2
    have hd : (d + 1) * Nat.pow 10 ds.length ≤ 10 * Nat.pow 10 ds.length :=
      Nat.mul_le_mul_right _ h.1
    rw [Nat.succ_mul] at hd
    rw [readDigits, List.foldl_cons, foldl_digits, List.length_cons, Nat.zero_mul, Nat.zero_add]
    have hpow : Nat.pow 10 (ds.length + 1) = 10 * Nat.pow 10 ds.length := Nat.pow_succ'
    omega

/-- The decimal digits of `n`, most significant first; `[0]` for zero. -/
def natDigits (n : Nat) : List Nat :=
  if n < 10 then [n] else natDigits (n / 10) ++ [n % 10]

theorem natDigits_ne_nil (n : Nat) : natDigits n ≠ [] := by
  unfold natDigits; split <;> simp

theorem natDigits_lt (n : Nat) : ∀ d ∈ natDigits n, d < 10 := by
  induction n using natDigits.induct with
  | case1 n h => unfold natDigits; simp [h]
  | case2 n h ih =>
    unfold natDigits
    rw [if_neg h]
    intro d hd
    rcases List.mem_append.1 hd with hd | hd
    · exact ih d hd
    · simp only [List.mem_singleton] at hd
      omega

theorem readDigits_natDigits (n : Nat) : readDigits (natDigits n) = n := by
  induction n using natDigits.induct with
  | case1 n h => unfold natDigits; simp [h, readDigits]
  | case2 n h ih =>
    unfold natDigits
    rw [if_neg h, readDigits_append, ih]
    simp only [List.length_singleton, readDigits, List.foldl_cons, List.foldl_nil,
      show Nat.pow 10 1 = 10 from rfl]
    omega

/-- The character of a digit value. -/
def digitChar (d : Nat) : CodePoint := 0x30 + d

/-- The number in decimal notation. -/
def natText (n : Nat) : Text := (natDigits n).map digitChar

/-- The integer in decimal notation, after a minus sign if it is negative. -/
def intText : Int → Text
  | .ofNat n => natText n
  | .negSucc n => Ascii.minus :: natText (n + 1)

end DeltaBridge
