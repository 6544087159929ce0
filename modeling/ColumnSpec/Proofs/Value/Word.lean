import ColumnSpec.Builtin.Call
import Mathlib.Algebra.Order.Group.Int
import Mathlib.Algebra.Order.Ring.Abs
import Mathlib.Tactic.NormNum.Pow
/-!
# Exact word arithmetic

Integer arithmetic on signed 64-bit words gives the mathematical result in range and an
`integerOverflow` otherwise (`word_arithmetic_exact`).
-/
namespace ColumnSpec

theorem fitsWord_iff {n : Int} : fitsWord n = true ↔ -2 ^ 63 ≤ n ∧ n ≤ 2 ^ 63 - 1 := by
  simp only [fitsWord, Bool.and_eq_true, decide_eq_true_iff]
  exact Iff.rfl

theorem checkedWord_of_fits {n : Int} (h : fitsWord n = true) : checkedWord n = some n := by
  rw [checkedWord, if_pos h]

theorem checkedWord_of_not_fits {n : Int} (h : ¬fitsWord n = true) : checkedWord n = none := by
  rw [checkedWord, if_neg h]

namespace Value

/-- The answer of exact word arithmetic: the mathematical result `r` when it lies in the signed
64-bit range, an overflow in `op` otherwise. -/
def Exact (op : String) (r : Int) (res : Except Fault Value) : Prop :=
  (-2 ^ 63 ≤ r ∧ r ≤ 2 ^ 63 - 1 ∧ res = .ok (.int r)) ∨
    ((r < -2 ^ 63 ∨ 2 ^ 63 - 1 < r) ∧ res = .error (.integerOverflow op))

theorem exact_wordResult (op : String) (r : Int) : Exact op r (wordResult op r) := by
  by_cases h : fitsWord r = true
  · exact .inl ⟨(fitsWord_iff.1 h).1, (fitsWord_iff.1 h).2, by rw [wordResult, checkedWord_of_fits h]⟩
  · refine .inr ⟨?_, by rw [wordResult, checkedWord_of_not_fits h]⟩
    rw [fitsWord_iff] at h
    omega

/-! ## Operations on integer readings -/

variable {a b : Value} {x y : Int}

theorem arith_ints {op : String} {f : Int → Int → Int} {g : Float → Float → Float}
    (ha : a.operand op = .ok (.int x)) (hb : b.operand op = .ok (.int y)) :
    arith op f g a b = wordResult op (f x y) := by
  rw [arith, ha, hb]
  rfl

theorem neg_int (ha : a.operand "-" = .ok (.int x)) : neg a = wordResult "-" (-x) := by
  rw [neg, ha]
  rfl

theorem absValue_int (ha : a.operand "abs" = .ok (.int x)) :
    Builtin.absValue a = wordResult "abs" |x| := by
  rw [Builtin.absValue, ha, ← Int.natCast_natAbs]
  rfl

theorem wordPow_eq (b : Int) (e : Nat) : Builtin.wordPow b e = checkedWord (b ^ e) := by
  unfold Builtin.wordPow
  split
  · rfl
  · next h =>
    simp only [Bool.or_eq_true, decide_eq_true_eq, not_or, not_le, not_lt] at h
    have hbig : 2 ^ 64 ≤ (b ^ e).natAbs := by
      rw [Int.natAbs_pow]
      calc 2 ^ 64 ≤ 2 ^ e := Nat.pow_le_pow_right (by decide) h.2
        _ ≤ b.natAbs ^ e := Nat.pow_le_pow_left h.1 e
    refine (checkedWord_of_not_fits fun hfit => ?_).symm
    have := fitsWord_iff.1 hfit
    have h64 : (2 : Int) ^ 63 = 9223372036854775808 := by norm_num
    have hcast : ((2 ^ 64 : Nat) : Int) ≤ ((b ^ e).natAbs : Int) := by exact_mod_cast hbig
    rw [Int.natCast_natAbs] at hcast
    rcases abs_cases (b ^ e) with ⟨habs, -⟩ | ⟨habs, -⟩ <;> rw [habs] at hcast <;> push_cast at hcast <;>
      omega

theorem powValue_ints (ha : a.operand "pow" = .ok (.int x)) (hb : b.operand "pow" = .ok (.int y))
    (h0 : 0 ≤ y) (hy : y < 2 ^ 32) :
    Builtin.powValue a b = wordResult "pow" (x ^ y.toNat) := by
  have hrange : (0 ≤ y && y < Int.pow 2 32) = true := by
    simp only [Bool.and_eq_true, decide_eq_true_eq]
    exact ⟨h0, hy⟩
  rw [Builtin.powValue, ha, hb]
  simp only [bind, Except.bind, hrange, if_true, wordPow_eq, wordResult]
  cases checkedWord (x ^ y.toNat) <;> rfl

theorem intDiv_ints (ha : a.toInt "//" = .ok x) (hb : b.toInt "//" = .ok y) :
    intDiv a b = if y = 0 then .error .divisionByZero else wordResult "//" (x.tdiv y) := by
  rw [intDiv, ha, hb]
  by_cases hy : y = 0 <;> simp [hy, bind, Except.bind, throw, throwThe, MonadExceptOf.throw]

theorem rem_ints (ha : a.toInt "%" = .ok x) (hb : b.toInt "%" = .ok y) :
    rem a b = if y = 0 then .error .moduloByZero
      else if fitsWord (x.tdiv y) then .ok (.int (x.tmod y))
      else .error (.integerOverflow "%") := by
  rw [rem, ha, hb]
  by_cases hy : y = 0 <;> by_cases hq : fitsWord (x.tdiv y) = true <;>
    simp [hy, hq, bind, Except.bind, throw, throwThe, MonadExceptOf.throw, pure, Except.pure]

theorem tmod_spec {y : Int} (hy : y ≠ 0) (x : Int) :
    x.tmod y = x - y * x.tdiv y ∧ (x.tmod y).natAbs < y.natAbs ∧
      (x.tmod y = 0 ∨ (x.tmod y).sign = x.sign) := by
  refine ⟨Int.tmod_def x y, ?_, ?_⟩
  · rw [Int.natAbs_tmod]
    exact Nat.mod_lt _ (Int.natAbs_pos.2 hy)
  · have hsign := Int.sign_tmod x y
    split at hsign
    · exact .inl (Int.sign_eq_zero_iff_zero.1 hsign)
    · exact .inr hsign

/-! ## Integer arithmetic is exact -/

/-- Integer arithmetic is exact. On integer readings `+`, `-`, `*`, unary minus, `abs` and
`pow` with an exponent from 0 to `2 ^ 32 - 1` give the mathematical result or an overflow. On
integer views `//` and `%` fail on a zero divisor; otherwise `//` is the quotient cut toward
zero, or an overflow, and `%` is the remainder of that quotient, smaller than the divisor and
of the dividend's sign, given exactly when the quotient is a word. -/
theorem word_arithmetic_exact (a b : Value) (x y : Int) :
    ((a.operand "+" = .ok (.int x) → b.operand "+" = .ok (.int y) → Exact "+" (x + y) (add a b)) ∧
      (a.operand "-" = .ok (.int x) → b.operand "-" = .ok (.int y) → Exact "-" (x - y) (sub a b)) ∧
      (a.operand "*" = .ok (.int x) → b.operand "*" = .ok (.int y) → Exact "*" (x * y) (mul a b)) ∧
      (a.operand "-" = .ok (.int x) → Exact "-" (-x) (neg a)) ∧
      (a.operand "abs" = .ok (.int x) →
        ∃ res, Builtin.call? "abs" [a] = some res ∧ Exact "abs" |x| res) ∧
      (a.operand "pow" = .ok (.int x) → b.operand "pow" = .ok (.int y) → 0 ≤ y → y < 2 ^ 32 →
        ∃ res, Builtin.call? "pow" [a, b] = some res ∧ Exact "pow" (x ^ y.toNat) res)) ∧
    (a.toInt "//" = .ok x → b.toInt "//" = .ok y →
      (y = 0 → intDiv a b = .error .divisionByZero) ∧
      (y ≠ 0 → Exact "//" (x.tdiv y) (intDiv a b))) ∧
    (a.toInt "%" = .ok x → b.toInt "%" = .ok y →
      (y = 0 → rem a b = .error .moduloByZero) ∧
      (y ≠ 0 → x.tmod y = x - y * x.tdiv y ∧ (x.tmod y).natAbs < y.natAbs ∧
        (x.tmod y = 0 ∨ (x.tmod y).sign = x.sign) ∧
        (-2 ^ 63 ≤ x.tdiv y ∧ x.tdiv y ≤ 2 ^ 63 - 1 → rem a b = .ok (.int (x.tmod y))) ∧
        (x.tdiv y < -2 ^ 63 ∨ 2 ^ 63 - 1 < x.tdiv y →
          rem a b = .error (.integerOverflow "%")))) := by
  refine ⟨⟨fun ha hb => ?_, fun ha hb => ?_, fun ha hb => ?_, fun ha => ?_, fun ha => ?_,
    fun ha hb h0 hy => ?_⟩, fun ha hb => ⟨fun hy => ?_, fun hy => ?_⟩,
    fun ha hb => ⟨fun hy => ?_, fun hy => ?_⟩⟩
  · rw [add, arith_ints ha hb]
    exact exact_wordResult _ _
  · rw [sub, arith_ints ha hb]
    exact exact_wordResult _ _
  · rw [mul, arith_ints ha hb]
    exact exact_wordResult _ _
  · rw [neg_int ha]
    exact exact_wordResult _ _
  · exact ⟨_, rfl, absValue_int ha ▸ exact_wordResult _ _⟩
  · exact ⟨_, rfl, powValue_ints ha hb h0 hy ▸ exact_wordResult _ _⟩
  · rw [intDiv_ints ha hb, if_pos hy]
  · rw [intDiv_ints ha hb, if_neg hy]
    exact exact_wordResult _ _
  · rw [rem_ints ha hb, if_pos hy]
  · obtain ⟨hdef, hlt, hsign⟩ := tmod_spec hy x
    refine ⟨hdef, hlt, hsign, fun hq => ?_, fun hq => ?_⟩
    · rw [rem_ints ha hb, if_neg hy, if_pos (fitsWord_iff.2 hq)]
    · have hq' : ¬fitsWord (x.tdiv y) = true := by
        rw [fitsWord_iff]
        omega
      rw [rem_ints ha hb, if_neg hy, if_neg hq']

/-- The greatest word plus one overflows. -/
theorem add_wordMax_one :
    add (.int wordMax) (.int 1) = .error (.integerOverflow "+") := by
  rcases (word_arithmetic_exact (.int wordMax) (.int 1) wordMax 1).1.1 rfl rfl with
    ⟨-, hle, -⟩ | ⟨-, h⟩
  · exact absurd hle (by decide)
  · exact h

/-- The least word taken modulo `-1`: the remainder `0` is a word, yet `%` overflows, since the
quotient `2 ^ 63` is not. -/
theorem rem_least_by_minusOne :
    wordMin - (-1) * wordMin.tdiv (-1) = 0 ∧
      rem (.int wordMin) (.int (-1)) = .error (.integerOverflow "%") := by
  refine ⟨by decide, ?_⟩
  rw [rem_ints (x := wordMin) (y := -1) rfl rfl, if_neg (by decide), if_neg (by decide)]

end Value
end ColumnSpec
