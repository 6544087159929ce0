import Mathlib
import ColumnSpec.Proofs.Value.Word
/-!
# Checked positions and word arithmetic

The steps of the text and record functions on signed 64-bit words, each checked, `none`
standing for a step with no answer; a text held in memory has a length that is a word
(`Addressable`).
-/
namespace ColumnSpec.Checked

variable {α : Type}

/-- Elements `i` up to `j` of `xs`, when `i ≤ j ≤ xs.length`. -/
def slice (xs : List α) (i j : Nat) : Option (List α) :=
  if i ≤ j ∧ j ≤ xs.length then some ((xs.drop i).take (j - i)) else none

/-- Element `i` of `xs`, when there is one. -/
def get (xs : List α) (i : Nat) : Option α := xs[i]?

/-- The sum of two signed words, when it is one. -/
def add (a b : Int) : Option Int := checkedWord (a + b)

/-- The difference of two signed words, when it is one. -/
def sub (a b : Int) : Option Int := checkedWord (a - b)

/-- The negation of a signed word, when it is one. -/
def neg (a : Int) : Option Int := checkedWord (-a)

/-- `a` shifted left by `k` bits in a signed word, the bits shifted out lost: the shift must
lie in `0..63`. -/
def shl (a k : Int) : Option Int :=
  if 0 ≤ k ∧ k < 64 then some (Int.bmod (a * 2 ^ k.toNat) (2 ^ 64)) else none

/-- The difference of two unsigned words, when it is not below zero. -/
def usub (a b : Nat) : Option Nat := if b ≤ a then some (a - b) else none

/-- The sum of two unsigned words, when it is below `2^64`. -/
def uadd (a b : Nat) : Option Nat := if a + b < 2 ^ 64 then some (a + b) else none

/-- A signed word taken as an index: a negative one has none. -/
def index (a : Int) : Option Nat := if 0 ≤ a then some a.toNat else none

def word (n : Nat) : Option Int := checkedWord n

/-- A list of characters that fits in memory, four bytes a character within the signed word
range of sizes. -/
def Addressable (cs : List Char) : Prop := 4 * cs.length ≤ wordMax

theorem Addressable.length_lt {cs : List Char} (h : Addressable cs) : (cs.length : Int) < 2 ^ 61 := by
  have h' : (4 : Int) * cs.length ≤ 2 ^ 63 - 1 := by exact_mod_cast h
  omega

@[simp] theorem slice_of_le {xs : List α} {i j : Nat} (hij : i ≤ j) (hj : j ≤ xs.length) :
    slice xs i j = some ((xs.drop i).take (j - i)) := by
  simp [slice, hij, hj]

@[simp] theorem get_of_lt {xs : List α} {i : Nat} (h : i < xs.length) : get xs i = some xs[i] := by
  simp [get, h]

theorem checkedWord_of_bounds {n : Int} (lo : -2 ^ 63 ≤ n) (hi : n ≤ 2 ^ 63 - 1) :
    checkedWord n = some n :=
  checkedWord_of_fits (fitsWord_iff.mpr ⟨lo, hi⟩)

theorem add_of_bounds {a b : Int} (lo : -2 ^ 63 ≤ a + b) (hi : a + b ≤ 2 ^ 63 - 1) :
    add a b = some (a + b) :=
  checkedWord_of_bounds lo hi

theorem sub_of_bounds {a b : Int} (lo : -2 ^ 63 ≤ a - b) (hi : a - b ≤ 2 ^ 63 - 1) :
    sub a b = some (a - b) :=
  checkedWord_of_bounds lo hi

theorem neg_of_bounds {a : Int} (lo : -2 ^ 63 ≤ -a) (hi : -a ≤ 2 ^ 63 - 1) : neg a = some (-a) :=
  checkedWord_of_bounds lo hi

theorem word_of_le {n : Nat} (h : (n : Int) ≤ 2 ^ 63 - 1) : word n = some (n : Int) :=
  checkedWord_of_bounds (by omega) h

@[simp] theorem usub_of_le {a b : Nat} (h : b ≤ a) : usub a b = some (a - b) := by
  simp [usub, h]

theorem uadd_of_lt {a b : Nat} (h : a + b < 2 ^ 64) : uadd a b = some (a + b) := by
  rw [uadd, if_pos h]

@[simp] theorem index_of_nonneg {a : Int} (h : 0 ≤ a) : index a = some a.toNat := by
  simp [index, h]

theorem shl_one {k : Int} (h0 : 0 ≤ k) (h : k ≤ 32) : shl 1 k = some (2 ^ k.toNat) := by
  have hp : (2 : Int) ^ k.toNat ≤ 2 ^ 32 := pow_le_pow_right₀ (by norm_num) (by omega)
  have hpos : (0 : Int) < 2 ^ k.toNat := by positivity
  rw [shl, if_pos ⟨h0, by omega⟩, one_mul, Int.bmod_eq_of_le] <;> push_cast <;> omega

theorem getElem?_of_arity {name : String} {args : List Value} {lo hi : Nat}
    (h : Builtin.arity name args lo hi = .ok ()) {i : Nat} (hlt : i < lo) :
    args[i]? = some (Builtin.arg args i) := by
  unfold Builtin.arity at h
  split at h
  · rename_i hlo
    simp only [Bool.and_eq_true, decide_eq_true_eq] at hlo
    rw [List.getElem?_eq_getElem (by omega), Builtin.arg, List.getD_eq_getElem _ _ (by omega)]
  · cases h

end ColumnSpec.Checked
