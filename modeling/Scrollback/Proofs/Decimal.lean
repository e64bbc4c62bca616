/-
Numbers in decimal.  A number is written with digits only, so it is told apart from what stands around
it, and the digits give it back, with zeros in front or without (`value_padded`).  Numbers with a sign
are told apart by how they are written (`signedDecimal_inj`).
-/
import Scrollback.Text.Blank
import Scrollback.Text.Decimal

namespace Scrollback

/-! ### Digits -/

theorem isBlank_of_isDigit {c : Char} (h : isDigit c = true) : isBlank c = false := by
  have bounds : '0'.val ≤ c.val ∧ c.val ≤ '9'.val := by
    simpa [isDigit, Char.le_def] using h
  have low : 48 ≤ c.toNat := bounds.1
  have high : c.toNat ≤ 57 := bounds.2
  rw [isBlank, Bool.eq_false_iff]
  simp only [ne_eq, Bool.or_eq_true, Bool.and_eq_true, decide_eq_true_eq, beq_iff_eq]
  omega

theorem isDigit_of_mem_digits {n : Nat} {c : Char} (h : c ∈ digits n) : c.isDigit = true :=
  Nat.isDigit_of_mem_toDigits (by decide) (by decide) h

theorem digits_inj {m n : Nat} (h : digits m = digits n) : m = n := by
  rw [← value_digits m, h, value_digits]

theorem digits_ne_nil (n : Nat) : digits n ≠ [] :=
  Nat.toDigits_ne_nil

/-! ### Zeros in front -/

variable {width n : Nat}

theorem isDigit_of_mem_padded {c : Char} (h : c ∈ padded width n) : isDigit c = true := by
  rcases List.mem_append.mp h with zero | digit
  · rw [List.eq_of_mem_replicate zero]
    decide
  · exact isDigit_of_mem_digits digit

theorem padded_ne_nil (width n : Nat) : padded width n ≠ [] :=
  List.append_ne_nil_of_right_ne_nil _ (digits_ne_nil n)

theorem length_padded (short : (digits n).length ≤ width) : (padded width n).length = width := by
  simp only [padded, List.length_append, List.length_replicate]
  omega

theorem value_zeros (k : Nat) (cs : List Char) : value (List.replicate k '0' ++ cs) = value cs := by
  induction k with
  | zero => rfl
  | succ k ih => exact ih

/-- The zeros in front do not count. -/
@[simp] theorem value_padded (width n : Nat) : value (padded width n) = n := by
  rw [padded, value_zeros, value_digits]

theorem length_digits_le_two (small : n < 100) : (digits n).length ≤ 2 :=
  (Nat.length_toDigits_le_iff (by decide) (by decide)).mpr small

theorem length_digits_le_four (small : n < 10000) : (digits n).length ≤ 4 :=
  (Nat.length_toDigits_le_iff (by decide) (by decide)).mpr small

/-! ### Signs -/

/-- A number is written with digits, after a minus sign if it is negative. -/
theorem toList_signedDecimal (i : Int) :
    (signedDecimal i).toList = if i < 0 then '-' :: digits i.natAbs else digits i.natAbs := by
  cases i with
  | ofNat n =>
    rw [if_neg (by simp)]
    exact String.toList_ofList
  | negSucc n =>
    rw [if_pos (by simp)]
    exact String.toList_ofList

theorem mem_signedDecimal {i : Int} {c : Char} (h : c ∈ (signedDecimal i).toList) :
    c.isDigit = true ∨ c = '-' := by
  rw [toList_signedDecimal] at h
  split at h
  · rcases List.mem_cons.mp h with rfl | h
    · exact .inr rfl
    · exact .inl (isDigit_of_mem_digits h)
  · exact .inl (isDigit_of_mem_digits h)

/-- Numbers are told apart by how they are written. -/
theorem signedDecimal_inj {i j : Int} (h : signedDecimal i = signedDecimal j) : i = j := by
  have lists := congrArg String.toList h
  rw [toList_signedDecimal, toList_signedDecimal] at lists
  -- no digit is taken for the sign
  have minus : ∀ m n : Nat, '-' :: digits m ≠ digits n := by
    intro m n same
    have := @isDigit_of_mem_digits n '-' (same ▸ List.mem_cons_self)
    cases this
  split at lists
  · split at lists
    · have := digits_inj (List.cons.inj lists).2
      omega
    · exact absurd lists (minus _ _)
  · split at lists
    · exact absurd lists.symm (minus _ _)
    · have := digits_inj lists
      omega

end Scrollback
