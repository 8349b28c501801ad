import Mathlib.Algebra.GroupWithZero.Nat
import Mathlib.Data.List.Basic

namespace Text

def digitChar (d : Nat) : Char :=
  .ofNat (48 + d)

def digitValue (c : Char) : Nat :=
  c.toNat - 48

def isAsciiDigit (c : Char) : Bool :=
  '0' ≤ c && c ≤ '9'

/-- The last digits of a number, padded with zeros. -/
def fixedDecimal : Nat → Nat → List Char
  | 0, _ => []
  | width + 1, n => fixedDecimal width (n / 10) ++ [digitChar (n % 10)]

def decimalValue (digits : List Char) : Nat :=
  digits.foldl (fun value c => 10 * value + digitValue c) 0

theorem digitChar_spec (n : Nat) :
    digitValue (digitChar (n % 10)) = n % 10 ∧ isAsciiDigit (digitChar (n % 10)) = true := by
  have hall : ∀ d < 10, digitValue (digitChar d) = d ∧ isAsciiDigit (digitChar d) = true := by
    decide
  exact hall _ (Nat.mod_lt _ (by omega))

@[simp] theorem length_fixedDecimal (width n : Nat) : (fixedDecimal width n).length = width := by
  induction width generalizing n with
  | zero => rfl
  | succ width ih => simp [fixedDecimal, ih]

theorem isAsciiDigit_of_mem_fixedDecimal (h : c ∈ fixedDecimal width n) :
    isAsciiDigit c = true := by
  induction width generalizing n with
  | zero => cases h
  | succ width ih =>
    obtain h | h := List.mem_append.1 h
    · exact ih h
    · rw [List.mem_singleton.1 h]
      exact (digitChar_spec n).2

theorem decimalValue_fixedDecimal (h : n < 10 ^ width) :
    decimalValue (fixedDecimal width n) = n := by
  induction width generalizing n with
  | zero =>
    rw [Nat.pow_zero, Nat.lt_one_iff] at h
    rw [h]
    rfl
  | succ width ih =>
    have hdiv : n / 10 < 10 ^ width := by
      rw [Nat.pow_succ] at h
      exact Nat.div_lt_of_lt_mul (by omega)
    have hvalue := ih hdiv
    rw [decimalValue] at hvalue
    rw [decimalValue, fixedDecimal, List.foldl_append, hvalue, List.foldl_cons, List.foldl_nil,
      (digitChar_spec n).1]
    omega

end Text
