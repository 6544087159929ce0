import ColumnSpec.Builtin.Call
import ColumnSpec.Proofs.Encoding.Bytes
import ColumnSpec.Proofs.Value.Word
import Mathlib.Data.Nat.Digits.Defs
import Mathlib.Algebra.Order.Group.Int
/-!
# Binary encodings of integers

`tobin` and `tobine` write an integer as little-endian byte characters, and `frombin` reads
them back as a 64-bit two's complement integer (`binary_round_trip`).
-/
namespace ColumnSpec.Builtin

theorem ofDigits_range_digits (u k : Nat) :
    Nat.ofDigits 256 ((List.range k).map fun i => u / 256 ^ i % 256) = u % 256 ^ k := by
  induction k with
  | zero => simp [Nat.mod_one]
  | succ k ih =>
    rw [List.range_succ, List.map_append, Nat.ofDigits_append, ih, List.length_map,
      List.length_range, List.map_singleton, Nat.ofDigits_singleton, Nat.mod_pow_succ]

theorem leBytes_eq (n : Int) (k : Nat) :
    leBytes n k = (List.range k).map fun i =>
      (if n < 0 then (n + 2 ^ 64).toNat else n.toNat) / 256 ^ i % 256 := by
  simp only [leBytes, Nat.pow_eq]
  rfl

theorem length_leBytes (n : Int) (k : Nat) : (leBytes n k).length = k := by
  simp [leBytes_eq]

theorem leBytes_lt (n : Int) (k : Nat) : ∀ b ∈ leBytes n k, b < 256 := by
  intro b hb
  rw [leBytes_eq] at hb
  obtain ⟨i, -, rfl⟩ := List.mem_map.1 hb
  exact Nat.mod_lt _ (by decide)

theorem ofDigits_leBytes {n : Int} (hn : -2 ^ 64 ≤ n) {k : Nat} (hk : k ≤ 8) :
    Nat.ofDigits 256 (leBytes n k) = (n % 2 ^ (8 * k)).toNat := by
  rw [leBytes_eq, ofDigits_range_digits]
  have hdvd : (2 : Int) ^ (8 * k) ∣ 2 ^ 64 := pow_dvd_pow 2 (by omega)
  have hpow : ((256 ^ k : Nat) : Int) = 2 ^ (8 * k) := by
    rw [Nat.cast_pow, pow_mul]
    norm_num
  -- the unsigned word is `n` or `n + 2 ^ 64`, the same modulo `256 ^ k`
  have hmod : (((if n < 0 then (n + 2 ^ 64).toNat else n.toNat) % 256 ^ k : Nat) : Int) =
      n % 2 ^ (8 * k) := by
    rw [Int.natCast_mod, hpow]
    split
    · rw [Int.toNat_of_nonneg (by omega), Int.add_emod, Int.emod_eq_zero_of_dvd hdvd, add_zero,
        Int.emod_emod_of_dvd _ (dvd_refl _)]
    · rw [Int.toNat_of_nonneg (by omega)]
  omega

/-! ## Writing -/

/-- The widths `tobine` accepts, and within them the values that fit: below 64 bits, from
`-2 ^ (bits - 1)` to `2 ^ bits - 1`. -/
def BinaryFits (n bits : Int) : Prop :=
  (bits = 8 ∨ bits = 16 ∨ bits = 32 ∨ bits = 64) ∧
    (bits = 64 ∨ -2 ^ (bits.toNat - 1) ≤ n ∧ n ≤ 2 ^ bits.toNat - 1)

theorem isWidth_iff (bits : Int) :
    (bits == 8 || bits == 16 || bits == 32 || bits == 64) = true ↔
      bits = 8 ∨ bits = 16 ∨ bits = 32 ∨ bits = 64 := by
  simp only [Bool.or_eq_true, beq_iff_eq, or_assoc]

theorem binaryFits_of_nonneg {n bits : Int} (hw : bits = 8 ∨ bits = 16 ∨ bits = 32 ∨ bits = 64)
    (h0 : 0 ≤ n) (hlt : n < 2 ^ bits.toNat) : BinaryFits n bits := by
  have : (0 : Int) ≤ 2 ^ (bits.toNat - 1) := by positivity
  exact ⟨hw, .inr ⟨by omega, by omega⟩⟩

theorem binaryFits_sixtyFour (n : Int) : BinaryFits n 64 := ⟨by simp, .inl rfl⟩

theorem int_pow_eq (a : Int) (k : Nat) : Int.pow a k = a ^ k := rfl

theorem toBinary_of_fits {name : String} {n bits : Int} (h : BinaryFits n bits) :
    toBinary name n bits =
      .ok (.str (String.ofList (Text.latin1 (leBytes n (bits.toNat / 8))))) := by
  obtain ⟨hw, hfit⟩ := h
  have hb := (isWidth_iff bits).2 hw
  have hrange :
      ¬(bits < 64 ∧ (n < -Int.pow 2 (bits.toNat - 1) ∨ Int.pow 2 bits.toNat - 1 < n)) := by
    simp only [int_pow_eq]
    omega
  simp only [toBinary, hb, Bool.not_true, Bool.false_eq_true, if_false]
  rw [if_neg (by simpa using hrange)]
  rfl

theorem toBinary_of_not_fits (name : String) {n bits : Int} (h : ¬BinaryFits n bits) :
    ∃ msg, toBinary name n bits = .error (.invalidArgument name msg) := by
  unfold toBinary
  by_cases hw : bits = 8 ∨ bits = 16 ∨ bits = 32 ∨ bits = 64
  · have hb := (isWidth_iff bits).2 hw
    have hrange :
        bits < 64 ∧ (n < -Int.pow 2 (bits.toNat - 1) ∨ Int.pow 2 bits.toNat - 1 < n) := by
      simp only [BinaryFits, int_pow_eq, not_and, not_or, not_le] at h ⊢
      have := h hw
      omega
    simp only [hb, Bool.not_true, Bool.false_eq_true, if_false]
    rw [if_pos (by simpa using hrange)]
    exact ⟨_, rfl⟩
  · have hb : (bits == 8 || bits == 16 || bits == 32 || bits == 64) = false :=
      Bool.eq_false_iff.mpr fun hb => hw ((isWidth_iff bits).1 hb)
    simp only [hb, Bool.not_false, if_true]
    exact ⟨_, rfl⟩

/-! ## Reading -/

/-- The 64-bit two's complement integer of an unsigned word: less `2 ^ 64` when its top bit
is set. -/
def signedWord (u : Nat) : Int := if 2 ^ 63 ≤ u then (u : Int) - 2 ^ 64 else u

theorem signedWord_of_lt {u : Nat} (h : u < 2 ^ 63) : signedWord u = u := by
  rw [signedWord, if_neg (Nat.not_le.2 h)]

theorem signedWord_of_le {u : Nat} (h : 2 ^ 63 ≤ u) : signedWord u = (u : Int) - 2 ^ 64 := by
  rw [signedWord, if_pos h]

theorem fromBinary_ok_iff (name s : String) :
    (∃ v, fromBinary name s = .ok v) ↔
      1 ≤ s.length ∧ s.length ≤ 8 ∧ ∀ c ∈ s.toList, c.toNat ≤ 0xFF := by
  have hle := Text.length_le_length_textBytes s.toList
  rw [← Text.length_textBytes_eq_iff, ← String.length_toList]
  simp only [fromBinary]
  generalize Text.textBytes s.toList = bs at hle ⊢
  generalize s.toList.length = m at hle ⊢
  by_cases hgood : 1 ≤ m ∧ m ≤ 8 ∧ bs.length = m
  · have hne : bs ≠ [] := List.ne_nil_of_length_pos (by omega)
    have hcheck : (bs.isEmpty || decide (8 < bs.length) || bs.length != m) = false := by
      simp [hne, hgood.2.2, hgood.2.1]
    simp only [hcheck, Bool.false_eq_true, if_false]
    exact ⟨fun _ => hgood, fun _ => ⟨_, rfl⟩⟩
  · have hcheck : (bs.isEmpty || decide (8 < bs.length) || bs.length != m) = true := by
      simp only [Bool.or_eq_true, List.isEmpty_iff, decide_eq_true_eq, bne_iff_ne, ne_eq]
      by_cases hnil : bs = []
      · simp [hnil]
      · have := List.length_pos_iff.2 hnil
        omega
    simp only [hcheck, if_true]
    constructor
    · rintro ⟨_, hv⟩
      cases hv
    · exact (absurd · hgood)

theorem call_frombin (s : String) : call? "frombin" [.str s] = some (fromBinary "frombin" s) := rfl

theorem fromBinary_latin1 (name : String) {bs : List Nat} (hb : ∀ b ∈ bs, b < 256)
    (h1 : 1 ≤ bs.length) (h8 : bs.length ≤ 8) :
    fromBinary name (String.ofList (Text.latin1 bs)) = .ok (.int (signedWord (Nat.ofDigits 256 bs))) := by
  have hbytes : Text.textBytes (String.ofList (Text.latin1 bs)).toList = bs := by
    rw [String.toList_ofList, Text.textBytes_latin1 hb]
  have hlen : (String.ofList (Text.latin1 bs)).toList.length = bs.length := by
    simp [Text.latin1]
  have hcheck : (bs.isEmpty || 8 < bs.length || bs.length != bs.length) = false := by
    have : bs ≠ [] := List.ne_nil_of_length_pos (by omega)
    simp [this, h8]
  have hfold : bs.foldr (fun b acc => b + 256 * acc) 0 = Nat.ofDigits 256 bs := by
    rw [Nat.ofDigits_eq_foldr]
    rfl
  simp only [fromBinary, hbytes, hlen, hcheck, Bool.false_eq_true, if_false, hfold, Nat.pow_eq,
    int_pow_eq]
  rfl

theorem fromBinary_leBytes (name : String) {n : Int} (hn : -2 ^ 64 ≤ n) {k : Nat} (h1 : 1 ≤ k)
    (h8 : k ≤ 8) :
    fromBinary name (String.ofList (Text.latin1 (leBytes n k))) =
      .ok (.int (signedWord (n % 2 ^ (8 * k)).toNat)) := by
  rw [fromBinary_latin1 name (leBytes_lt n k) (by rw [length_leBytes]; exact h1)
    (by rw [length_leBytes]; exact h8), ofDigits_leBytes hn h8]

theorem neg_twoPow_le {n : Int} (hn : fitsWord n) : -2 ^ 64 ≤ n := by
  have hw := (fitsWord_iff.1 hn).1
  have : (2 : Int) ^ 63 ≤ 2 ^ 64 := by norm_num
  omega

theorem emod_of_neg {n m : Int} (hlo : -m ≤ n) (hn : n < 0) : n % m = n + m := by
  rw [Int.emod_eq_add_self_emod, Int.emod_eq_of_lt (by omega) (by omega)]

theorem signedWord_emod {n : Int} (hn : fitsWord n) {k : Nat} (hk : k ≤ 8)
    (hfit : k = 8 ∨ 0 ≤ n ∧ n < 2 ^ (8 * k)) : signedWord (n % 2 ^ (8 * k)).toNat = n := by
  have hw := fitsWord_iff.1 hn
  have h63 : (2 : Int) ^ 63 = 9223372036854775808 := by norm_num
  have h64 : (2 : Int) ^ 64 = 18446744073709551616 := by norm_num
  rcases hfit with rfl | ⟨h0, hlt⟩
  · rw [show 8 * 8 = 64 from rfl]
    by_cases h0 : 0 ≤ n
    · rw [Int.emod_eq_of_lt h0 (by omega), signedWord_of_lt (by omega), Int.toNat_of_nonneg h0]
    · rw [emod_of_neg (by omega) (by omega), signedWord_of_le (by omega),
        Int.toNat_of_nonneg (by omega)]
      omega
  · rw [Int.emod_eq_of_lt h0 hlt, signedWord_of_lt (by omega), Int.toNat_of_nonneg h0]

theorem signedWord_emod_neg {n : Int} {k : Nat} (hk : k < 8) (hlo : -2 ^ (8 * k) ≤ n)
    (hn : n < 0) : signedWord (n % 2 ^ (8 * k)).toNat = n + 2 ^ (8 * k) := by
  have hpow : (2 : Int) ^ (8 * k) ≤ 2 ^ 56 := pow_le_pow_right₀ (by norm_num) (by omega)
  have h56 : (2 : Int) ^ 56 = 72057594037927936 := by norm_num
  rw [emod_of_neg hlo hn, signedWord_of_lt (by omega), Int.toNat_of_nonneg (by omega)]

/-! ## The round trip -/

theorem binaryWidth_cases (n : Int) :
    binaryWidth n = 8 ∧ 0 ≤ n ∧ n < 2 ^ 8 ∨ binaryWidth n = 16 ∧ 2 ^ 8 ≤ n ∧ n < 2 ^ 16 ∨
      binaryWidth n = 32 ∧ 2 ^ 16 ≤ n ∧ n < 2 ^ 32 ∨
      binaryWidth n = 64 ∧ (n < 0 ∨ 2 ^ 32 ≤ n) := by
  unfold binaryWidth
  simp only [int_pow_eq, Bool.and_eq_true, decide_eq_true_eq]
  split_ifs <;> omega

theorem ofDigits_byteText {n : Int} (hn : -2 ^ 64 ≤ n) {k : Nat} (hk : k ≤ 8) :
    Nat.ofDigits 256 ((String.ofList (Text.latin1 (leBytes n k))).toList.map Char.toNat) =
      (n % 2 ^ (8 * k)).toNat := by
  rw [String.toList_ofList, Text.map_toNat_latin1 (leBytes_lt n k), ofDigits_leBytes hn hk]

theorem byte_of_mem_byteText (n : Int) (k : Nat) :
    ∀ c ∈ (String.ofList (Text.latin1 (leBytes n k))).toList, c.toNat ≤ 0xFF := by
  rw [String.toList_ofList]
  exact Text.byte_of_mem_latin1 (leBytes_lt n k)

theorem length_byteText (n : Int) (k : Nat) :
    (String.ofList (Text.latin1 (leBytes n k))).length = k := by
  rw [String.length_ofList, Text.latin1, List.length_map, length_leBytes]

theorem tobin_reads_back {n : Int} (hn : fitsWord n) : ∃ s : String,
    call? "tobin" [.int n] = some (.ok (.str s)) ∧ (∀ c ∈ s.toList, c.toNat ≤ 0xFF) ∧
      Nat.ofDigits 256 (s.toList.map Char.toNat) = (n % 2 ^ 64).toNat ∧
      s.length ∈ [1, 2, 4, 8] ∧ (∀ k ∈ [1, 2, 4], s.length ≤ k ↔ 0 ≤ n ∧ n < 256 ^ k) ∧
      call? "frombin" [.str s] = some (.ok (.int n)) := by
  -- the width in bytes, and that the bytes hold `n`
  obtain ⟨k, hk, hkw, hfit⟩ : ∃ k, k ∈ [1, 2, 4, 8] ∧ (binaryWidth n).toNat / 8 = k ∧
      (∀ j ∈ [1, 2, 4], k ≤ j ↔ 0 ≤ n ∧ n < 256 ^ j) := by
    rcases binaryWidth_cases n with ⟨hb, h⟩ | ⟨hb, h⟩ | ⟨hb, h⟩ | ⟨hb, h⟩ <;> rw [hb]
    · exact ⟨1, by simp, rfl, by simp; omega⟩
    · exact ⟨2, by simp, rfl, by simp; omega⟩
    · exact ⟨4, by simp, rfl, by simp; omega⟩
    · exact ⟨8, by simp, rfl, by simp; omega⟩
  have hk8 : k ≤ 8 := by simp at hk; omega
  have hfits : BinaryFits n (binaryWidth n) := by
    rcases binaryWidth_cases n with ⟨hb, h0, hlt⟩ | ⟨hb, h0, hlt⟩ | ⟨hb, h0, hlt⟩ | ⟨hb, -⟩ <;>
      rw [hb]
    · exact binaryFits_of_nonneg (by decide) h0 hlt
    · exact binaryFits_of_nonneg (by decide) (by omega) hlt
    · exact binaryFits_of_nonneg (by decide) (by omega) hlt
    · exact binaryFits_sixtyFour n
  have hholds : k = 8 ∨ 0 ≤ n ∧ n < 2 ^ (8 * k) := by
    simp at hk
    rcases hk with rfl | rfl | rfl | rfl <;> simp at hfit ⊢ <;> omega
  have hcall : call? "tobin" [.int n] = some (toBinary "tobin" n (binaryWidth n)) := rfl
  refine ⟨_, by rw [hcall, toBinary_of_fits hfits, hkw], byte_of_mem_byteText n k, ?_,
    by rw [length_byteText]; exact hk, by rw [length_byteText]; exact hfit, ?_⟩
  · rw [ofDigits_byteText (neg_twoPow_le hn) hk8]
    rcases hholds with rfl | ⟨h0, hlt⟩
    · rfl
    · have h64 : (2 : Int) ^ (8 * k) ≤ 2 ^ 64 := pow_le_pow_right₀ (by norm_num) (by omega)
      rw [Int.emod_eq_of_lt h0 hlt, Int.emod_eq_of_lt h0 (by omega)]
  · rw [call_frombin, fromBinary_leBytes "frombin" (neg_twoPow_le hn) (by simp at hk; omega) hk8,
      signedWord_emod hn hk8 hholds]

/-- `tobine(n, bits)` refuses a width other than 8, 16, 32 and 64 and, below 64 bits, a value
outside `-2 ^ (bits - 1)` to `2 ^ bits - 1`. Otherwise it writes `bits / 8` bytes, the digits
of `n` modulo `2 ^ bits`, which `frombin` reads back as `n`, or as `n + 2 ^ bits` for a
negative `n` below 64 bits. -/
theorem tobine_reads_back {n : Int} (hn : fitsWord n) (bits : Int) :
    (¬BinaryFits n bits → ∃ msg,
      call? "tobine" [.int n, .int bits] = some (.error (.invalidArgument "tobine" msg))) ∧
    (BinaryFits n bits → ∃ s : String,
      call? "tobine" [.int n, .int bits] = some (.ok (.str s)) ∧
      s.length = bits.toNat / 8 ∧ (∀ c ∈ s.toList, c.toNat ≤ 0xFF) ∧
      Nat.ofDigits 256 (s.toList.map Char.toNat) = (n % 2 ^ bits.toNat).toNat ∧
      call? "frombin" [.str s] =
        some (.ok (.int (if 0 ≤ n ∨ bits = 64 then n else n + 2 ^ bits.toNat)))) := by
  have hcall : call? "tobine" [.int n, .int bits] = some (toBinary "tobine" n bits) := rfl
  refine ⟨fun h => ?_, fun h => ?_⟩
  · obtain ⟨msg, hmsg⟩ := toBinary_of_not_fits "tobine" h
    exact ⟨msg, by rw [hcall, hmsg]⟩
  -- the width is `8 * k` bits for `k` of 1, 2, 4 or 8 bytes
  obtain ⟨k, hk, hbits⟩ : ∃ k, (k = 1 ∨ k = 2 ∨ k = 4 ∨ k = 8) ∧ bits.toNat = 8 * k := by
    rcases h.1 with rfl | rfl | rfl | rfl
    exacts [⟨1, by simp, rfl⟩, ⟨2, by simp, rfl⟩, ⟨4, by simp, rfl⟩, ⟨8, by simp, rfl⟩]
  have hk8 : k ≤ 8 := by omega
  have hlen : bits.toNat / 8 = k := by omega
  refine ⟨_, by rw [hcall, toBinary_of_fits h, hlen], by rw [length_byteText, hlen],
    byte_of_mem_byteText n k, by rw [ofDigits_byteText (neg_twoPow_le hn) hk8, hbits], ?_⟩
  rw [call_frombin, fromBinary_leBytes "frombin" (neg_twoPow_le hn) (by omega) hk8]
  have h64 : bits = 64 ↔ k = 8 := by
    rcases h.1 with rfl | rfl | rfl | rfl <;> simp at hbits ⊢ <;> omega
  have hrange : bits = 64 ∨ -2 ^ (8 * k - 1) ≤ n ∧ n ≤ 2 ^ (8 * k) - 1 := by
    rw [← hbits]
    exact h.2
  by_cases hcase : 0 ≤ n ∨ bits = 64
  · rw [if_pos hcase, signedWord_emod hn hk8]
    rcases hcase with h0 | hb
    · rcases hrange with hb | ⟨-, hle⟩
      · exact .inl (h64.1 hb)
      · exact .inr ⟨h0, by omega⟩
    · exact .inl (h64.1 hb)
  · rw [if_neg hcase, hbits]
    have hhalf : (2 : Int) ^ (8 * k - 1) ≤ 2 ^ (8 * k) := pow_le_pow_right₀ (by norm_num) (by omega)
    rw [signedWord_emod_neg (k := k) ?_ ?_ (by omega)]
    · by_contra hk'
      exact hcase (.inr (h64.2 (by omega)))
    · rcases hrange with hb | ⟨hlo, -⟩
      · exact absurd (.inr hb) hcase
      · omega

/-- `tobin` and `tobine` write an integer's two's complement as little-endian byte
characters that `frombin` reads back, `tobine` refusing what does not fit its width, and
`frombin` reads exactly the texts of one to eight byte characters. -/
theorem binary_round_trip :
    (∀ n : Int, fitsWord n → ∃ s : String,
      call? "tobin" [.int n] = some (.ok (.str s)) ∧ (∀ c ∈ s.toList, c.toNat ≤ 0xFF) ∧
        Nat.ofDigits 256 (s.toList.map Char.toNat) = (n % 2 ^ 64).toNat ∧
        s.length ∈ [1, 2, 4, 8] ∧ (∀ k ∈ [1, 2, 4], s.length ≤ k ↔ 0 ≤ n ∧ n < 256 ^ k) ∧
        call? "frombin" [.str s] = some (.ok (.int n))) ∧
    (∀ n bits : Int, fitsWord n →
      (¬BinaryFits n bits → ∃ msg,
        call? "tobine" [.int n, .int bits] = some (.error (.invalidArgument "tobine" msg))) ∧
      (BinaryFits n bits → ∃ s : String,
        call? "tobine" [.int n, .int bits] = some (.ok (.str s)) ∧
        s.length = bits.toNat / 8 ∧ (∀ c ∈ s.toList, c.toNat ≤ 0xFF) ∧
        Nat.ofDigits 256 (s.toList.map Char.toNat) = (n % 2 ^ bits.toNat).toNat ∧
        call? "frombin" [.str s] =
          some (.ok (.int (if 0 ≤ n ∨ bits = 64 then n else n + 2 ^ bits.toNat))))) ∧
    ∀ s : String, (∃ v, call? "frombin" [.str s] = some (.ok v)) ↔
      1 ≤ s.length ∧ s.length ≤ 8 ∧ ∀ c ∈ s.toList, c.toNat ≤ 0xFF := by
  refine ⟨fun n hn => tobin_reads_back hn, fun n bits hn => tobine_reads_back hn bits,
    fun s => ?_⟩
  rw [call_frombin, ← fromBinary_ok_iff "frombin" s]
  simp

/-- `-1` in one byte is the byte `ÿ`, which reads back as 255. -/
theorem tobine_minusOne_byte :
    fitsWord (-1) = true ∧ BinaryFits (-1) 8 ∧
      ∃ s : String, call? "tobine" [.int (-1), .int 8] = some (.ok (.str s)) ∧ s.length = 1 ∧
        call? "frombin" [.str s] = some (.ok (.int 255)) := by
  have hfit : fitsWord (-1) = true := by decide
  have hb : BinaryFits (-1) 8 := ⟨by decide, .inr ⟨by decide, by decide⟩⟩
  obtain ⟨s, hs, hlen, -, -, hfrom⟩ := (binary_round_trip.2.1 (-1) 8 hfit).2 hb
  exact ⟨hfit, hb, s, hs, hlen, by rw [hfrom]; rfl⟩

end ColumnSpec.Builtin
