import ColumnSpec.Clock.Format
import ColumnSpec.Proofs.Encoding.Bytes
import Mathlib.Algebra.Group.Nat.Defs
/-!
# Reading a timestamp back

What the readers of `Timestamp.scan` do on the text `Timestamp.format` writes: padded
digits read back as their value, and names found by their index where no two clash.
-/
namespace ColumnSpec.Timestamp

/-! ## ASCII text as bytes -/

theorem utf8Char_of_lt {c : Char} (h : c.toNat < 0x80) : Text.utf8Char c = [c.toNat] := by
  simp [Text.utf8Char, Text.utf8Code, h]

theorem bytes_of_ascii {cs : List Char} (h : ∀ c ∈ cs, c.toNat < 0x80) :
    cs.flatMap Text.utf8Char = cs.map Char.toNat := by
  induction cs with
  | nil => rfl
  | cons c cs ih =>
    rw [List.flatMap_cons, utf8Char_of_lt (h c (.head _)), ih fun x hx => h x (.tail _ hx)]
    rfl

theorem isDigitByte_toNat (c : Char) : isDigitByte c.toNat = c.isDigit := by
  rw [Bool.eq_iff_iff, Char.isDigit_iff_toNat]
  simp [isDigitByte]

/-! ## Zero-padded numbers -/

theorem isDigit_of_mem_zeroPad {n w : Nat} {c : Char} (h : c ∈ zeroPad n w) : c.isDigit := by
  unfold zeroPad Decimal.padDigits at h
  rcases List.mem_append.1 h with h | h
  · rw [List.eq_of_mem_replicate h]
    rfl
  · exact Nat.isDigit_of_mem_toDigits (by decide) (by decide) h

theorem toNat_lt_of_mem_zeroPad {n w : Nat} {c : Char} (h : c ∈ zeroPad n w) :
    c.toNat < 0x80 := by
  have := Char.isDigit_iff_toNat.1 (isDigit_of_mem_zeroPad h)
  simp at this
  omega

theorem digit_of_mem_zeroPad {n w b : Nat} (h : b ∈ (zeroPad n w).flatMap Text.utf8Char) :
    isDigitByte b = true := by
  rw [bytes_of_ascii fun c hc => toNat_lt_of_mem_zeroPad hc] at h
  obtain ⟨c, hc, rfl⟩ := List.mem_map.1 h
  rw [isDigitByte_toNat]
  exact isDigit_of_mem_zeroPad hc

theorem length_zeroPad {n w : Nat} (hw : 0 < w) (h : n < 10 ^ w) : (zeroPad n w).length = w := by
  have := (Nat.length_toDigits_le_iff (by decide) hw).2 h
  simp only [zeroPad, Decimal.padDigits, List.length_append, List.length_replicate]
  omega

theorem ofDigitChars_zeroPad (n w : Nat) : Nat.ofDigitChars 10 (zeroPad n w) 0 = n := by
  simp [zeroPad, Decimal.padDigits, Nat.ofDigitChars_append, Nat.ofDigitChars_toDigits]

theorem zeroPad_eq_toDigits {n w : Nat} (hw : 0 < w) (h : 10 ^ (w - 1) ≤ n) :
    zeroPad n w = Nat.toDigits 10 n := by
  have hlen : w ≤ (Nat.toDigits 10 n).length := by
    by_cases hw1 : w = 1
    · exact hw1 ▸ Nat.length_toDigits_pos
    · have : ¬ (Nat.toDigits 10 n).length ≤ w - 1 := fun hle =>
        absurd ((Nat.length_toDigits_le_iff (by decide) (by omega)).1 hle) (by omega)
      omega
  simp [zeroPad, Decimal.padDigits, Nat.sub_eq_zero_of_le hlen]

/-! ## Digits -/

theorem digits_append {ds rest : List Nat} {max : Nat} (hd : ∀ b ∈ ds, isDigitByte b = true)
    (hne : ds ≠ []) (hle : ds.length ≤ max)
    (hstop : ds.length = max ∨ ∀ b ∈ rest.head?, isDigitByte b = false) :
    digits max (ds ++ rest) =
      some (ds.foldl (fun n b => 10 * n + (b - 48)) 0, ds.length, rest) := by
  have hrest : (rest.take (max - ds.length)).takeWhile isDigitByte = [] := by
    rcases hstop with h | h
    · rw [h, Nat.sub_self, List.take_zero, List.takeWhile_nil]
    · -- the run ends at the first byte of the rest
      cases rest with
      | nil => simp
      | cons b bs =>
        cases hk : max - ds.length with
        | zero => simp
        | succ k => simp [h b rfl]
  have htw : ((ds ++ rest).take max).takeWhile isDigitByte = ds := by
    rw [List.take_append, List.take_of_length_le hle, List.takeWhile_append_of_pos hd, hrest,
      List.append_nil]
  simp [digits, htw, List.isEmpty_iff, hne]

theorem digits_zeroPad {n w max : Nat} {rest : List Nat} (hw : 0 < w) (hn : n < 10 ^ w)
    (hle : w ≤ max) (hstop : w = max ∨ ∀ b ∈ rest.head?, isDigitByte b = false) :
    digits max ((zeroPad n w).flatMap Text.utf8Char ++ rest) = some (n, w, rest) := by
  have hlen := length_zeroPad hw hn
  have hne : zeroPad n w ≠ [] := fun h => by simp [h] at hlen; omega
  have hdig : ∀ b ∈ (zeroPad n w).flatMap Text.utf8Char, isDigitByte b = true :=
    fun _ hb => digit_of_mem_zeroPad hb
  rw [bytes_of_ascii fun c hc => toNat_lt_of_mem_zeroPad hc] at hdig ⊢
  rw [digits_append hdig (by simpa using hne) (by simpa [hlen] using hle)
    (by simpa [hlen] using hstop)]
  rw [List.foldl_map, List.length_map, hlen]
  exact congrArg (fun v => some (v, w, rest)) (ofDigitChars_zeroPad n w)

theorem digitsIn_zeroPad {n w max lo hi : Nat} {rest : List Nat} (hw : 0 < w) (hn : n < 10 ^ w)
    (hle : w ≤ max) (hstop : w = max ∨ ∀ b ∈ rest.head?, isDigitByte b = false)
    (hlo : lo ≤ n) (hhi : n ≤ hi) :
    digitsIn max lo hi ((zeroPad n w).flatMap Text.utf8Char ++ rest) = some (n, rest) := by
  simp [digitsIn, digits_zeroPad hw hn hle hstop, hlo, hhi]

theorem digitsIn_zeroPad_of_le {n w lo hi : Nat} {rest : List Nat} (hw : 0 < w) (hfit : hi < 10 ^ w)
    (hlo : lo ≤ n) (hhi : n ≤ hi) :
    digitsIn w lo hi ((zeroPad n w).flatMap Text.utf8Char ++ rest) = some (n, rest) :=
  digitsIn_zeroPad hw (Nat.lt_of_le_of_lt hhi hfit) (Nat.le_refl w) (Or.inl rfl) hlo hhi

/-! ## Names -/

/-- Whether two names differ, ignoring case, at a position both have. -/
def clash : List Nat → List Nat → Bool
  | a :: u, b :: w => lowerByte a != lowerByte b || clash u w
  | _, _ => false

theorem startsWithName_cons (a b : Nat) (bs w : List Nat) :
    startsWithName (a :: bs) (b :: w) = (lowerByte a == lowerByte b && startsWithName bs w) := by
  simp only [startsWithName, List.length_cons, Nat.add_le_add_iff_right, List.take_succ_cons,
    List.map_cons, List.cons_beq_cons]
  cases lowerByte a == lowerByte b <;> simp

theorem startsWithName_append_self (w rest : List Nat) : startsWithName (w ++ rest) w = true := by
  simp [startsWithName]

theorem startsWithName_of_clash {u w : List Nat} (h : clash u w = true) (rest : List Nat) :
    startsWithName (u ++ rest) w = false := by
  induction u generalizing w with
  | nil => simp [clash] at h
  | cons a u ih =>
    cases w with
    | nil => simp [clash] at h
    | cons b w =>
      rw [List.cons_append, startsWithName_cons]
      rcases Bool.or_eq_true_iff.1 h with h | h
      · simp_all
      · rw [ih h, Bool.and_false]

theorem find?_zipIdx {α : Type} {l : List α} {p : α → Bool} {i : Nat} {a : α}
    (ha : l[i]? = some a) (hp : p a = true)
    (hbefore : ∀ j < i, ∀ b, l[j]? = some b → p b = false) :
    l.zipIdx.find? (fun x => p x.1) = some (a, i) := by
  obtain ⟨hi, rfl⟩ := List.getElem?_eq_some_iff.1 ha
  refine List.find?_eq_some_iff_getElem.2 ⟨hp, i, by simpa using hi, by simp, fun j hj => ?_⟩
  simp [hbefore j hj l[j] (List.getElem?_eq_getElem (by omega))]

theorem name_eq {names : List String} {bs w : List Nat} {i : Nat}
    (hw : (names.map fun n => Text.textBytes n.toList)[i]? = some w)
    (hpre : startsWithName bs w = true)
    (hbefore : ∀ j < i, ∀ u, (names.map fun n => Text.textBytes n.toList)[j]? = some u →
      startsWithName bs u = false) :
    name names bs = some (i, bs.drop w.length) := by
  simp only [name]
  rw [find?_zipIdx hw hpre hbefore]
  rfl

/-- No two names of a list agree, ignoring case, up to the end of the shorter one: a text
that starts with one starts with no other. -/
def Apart (names : List (List Nat)) : Prop :=
  ∀ i (hi : i < names.length) j (hj : j < names.length), i ≠ j →
    clash names[i] names[j] = true

instance (names : List (List Nat)) : Decidable (Apart names) := by
  unfold Apart
  infer_instance

theorem name_of_apart {names : List String} (h : Apart (names.map fun n => Text.textBytes n.toList))
    {i : Nat} {w : List Nat} (hw : (names.map fun n => Text.textBytes n.toList)[i]? = some w)
    (rest : List Nat) : name names (w ++ rest) = some (i, rest) := by
  obtain ⟨hi, hwi⟩ := List.getElem?_eq_some_iff.1 hw
  refine (name_eq hw (startsWithName_append_self w rest) fun j hj u hu => ?_).trans
    (by rw [List.drop_left])
  obtain ⟨hj', rfl⟩ := List.getElem?_eq_some_iff.1 hu
  exact startsWithName_of_clash (hwi ▸ h i hi j hj' (by omega)) rest

theorem monthNames_apart : Apart (monthNames.map fun n => Text.textBytes n.toList) := by
  decide

theorem ampm_apart : Apart (["AM", "PM"].map fun n => Text.textBytes n.toList) := by
  decide

/-! ## The template's bytes -/

theorem scan_blank {c : Nat} (hc : isBlankByte c = true) (f : Fields) (spec bs : List Nat) :
    scan f (c :: spec) bs = scan f spec (bs.dropWhile isBlankByte) := by
  conv => lhs; rw [scan.eq_def]
  simp [hc]

theorem scan_same {c : Nat} (hc : isBlankByte c = false) (h37 : c ≠ 37) (f : Fields)
    (spec bs : List Nat) : scan f (c :: spec) (c :: bs) = scan f spec bs := by
  conv => lhs; rw [scan.eq_def]
  simp [hc, h37]

theorem scan_append_same {u : List Nat} (hu : ∀ b ∈ u, isBlankByte b = false ∧ b ≠ 37)
    (f : Fields) (spec bs : List Nat) : scan f (u ++ spec) (u ++ bs) = scan f spec bs := by
  induction u with
  | nil => rfl
  | cons b u ih =>
    obtain ⟨hb, hb37⟩ := hu b (.head _)
    rw [List.cons_append, List.cons_append, scan_same hb hb37, ih fun x hx => hu x (.tail _ hx)]

theorem scan_code {x : Nat} {f f' : Fields} {spec bs bs' : List Nat}
    (h : scan.scanCode f x bs = some (f', bs')) :
    scan f (37 :: x :: spec) bs = scan f' spec bs' := by
  conv => lhs; rw [scan.eq_def]
  simp [h, isBlankByte]

theorem scanCode_year {f : Fields} {bs rest : List Nat} {y w : Nat}
    (hneg : ∀ b ∈ bs.head?, b ≠ 45) (h : digits 4 bs = some (y, w, rest)) :
    scan.scanCode f 89 bs = some ({ f with year := y }, rest) := by
  cases bs with
  | nil => simp [digits] at h
  | cons b bs =>
    simp only [scan.scanCode, Nat.reduceBEq, Bool.false_eq_true, Bool.or_self, if_false, if_true]
    split
    · rename_i heq
      exact absurd (List.cons.inj heq).1 (hneg b rfl)
    · simp [h]

end ColumnSpec.Timestamp
