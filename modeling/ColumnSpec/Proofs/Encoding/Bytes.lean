import ColumnSpec.Text.Bytes
/-!
# Byte characters

A character up to `ÿ` is one byte, any other its UTF-8 bytes; `Text.latin1` and
`Text.textBytes` are inverse on bytes and on byte characters.
-/
namespace ColumnSpec.Text

theorem toNat_ofNat_byte {b : Nat} (h : b < 256) : (Char.ofNat b).toNat = b := by
  have hv : b.isValidChar := Or.inl (by omega)
  rw [Char.ofNat, dif_pos hv]
  rfl

theorem textBytes_cons (c : Char) (cs : List Char) :
    textBytes (c :: cs) = (if c.toNat ≤ 0xFF then [c.toNat] else utf8Char c) ++ textBytes cs := by
  simp [textBytes]

theorem map_toNat_latin1 {bs : List Nat} (h : ∀ b ∈ bs, b < 256) :
    (latin1 bs).map Char.toNat = bs := by
  rw [latin1, List.map_map]
  exact (List.map_congr_left fun b hb => toNat_ofNat_byte (h b hb)).trans (List.map_id _)

theorem latin1_map_toNat (cs : List Char) : latin1 (cs.map Char.toNat) = cs := by
  simp [latin1, Function.comp_def, Char.ofNat_toNat]

theorem byte_of_mem_latin1 {bs : List Nat} (h : ∀ b ∈ bs, b < 256) :
    ∀ c ∈ latin1 bs, c.toNat ≤ 0xFF := by
  intro c hc
  obtain ⟨b, hb, rfl⟩ := List.mem_map.1 hc
  rw [toNat_ofNat_byte (h b hb)]
  have := h b hb
  omega

theorem textBytes_of_le {cs : List Char} (h : ∀ c ∈ cs, c.toNat ≤ 0xFF) :
    textBytes cs = cs.map Char.toNat := by
  induction cs with
  | nil => rfl
  | cons c cs ih =>
    rw [textBytes_cons, if_pos (h c (.head _)), ih fun x hx => h x (.tail _ hx)]
    rfl

theorem textBytes_latin1 {bs : List Nat} (h : ∀ b ∈ bs, b < 256) : textBytes (latin1 bs) = bs := by
  rw [textBytes_of_le (byte_of_mem_latin1 h), map_toNat_latin1 h]

theorem latin1_textBytes {cs : List Char} (h : ∀ c ∈ cs, c.toNat ≤ 0xFF) :
    latin1 (textBytes cs) = cs := by
  rw [textBytes_of_le h, latin1_map_toNat]

theorem two_le_length_utf8Char {c : Char} (h : 0xFF < c.toNat) : 2 ≤ (utf8Char c).length := by
  unfold utf8Char utf8Code
  rw [if_neg (by omega)]
  repeat' split
  all_goals simp

theorem length_le_length_textBytes (cs : List Char) : cs.length ≤ (textBytes cs).length := by
  induction cs with
  | nil => exact Nat.le_refl _
  | cons c cs ih =>
    rw [textBytes_cons, List.length_append, List.length_cons]
    by_cases hc : c.toNat ≤ 0xFF
    · simp only [hc, if_true, List.length_singleton]
      omega
    · have := two_le_length_utf8Char (Nat.lt_of_not_le hc)
      simp only [hc, if_false]
      omega

theorem length_textBytes_eq_iff {cs : List Char} :
    (textBytes cs).length = cs.length ↔ ∀ c ∈ cs, c.toNat ≤ 0xFF := by
  induction cs with
  | nil => simp [textBytes]
  | cons c cs ih =>
    rw [textBytes_cons, List.length_append, List.length_cons, List.forall_mem_cons, ← ih]
    have hrest := length_le_length_textBytes cs
    by_cases hc : c.toNat ≤ 0xFF
    · simp only [hc, if_true, List.length_singleton, true_and]
      omega
    · have := two_le_length_utf8Char (Nat.lt_of_not_le hc)
      simp only [hc, if_false, false_and, iff_false]
      omega

end ColumnSpec.Text
