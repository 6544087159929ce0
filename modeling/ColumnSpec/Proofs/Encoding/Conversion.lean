import ColumnSpec.Conversion
import ColumnSpec.Text.Case
import ColumnSpec.Proofs.Encoding.Bytes
import ColumnSpec.Proofs.Expr.LexPrint
import Mathlib.Data.Nat.Digits.Defs
import Mathlib.Data.List.Induction
/-!
# Conversions that undo each other

`c2x`/`x2c`, `c2b`/`b2c` and `d2x`/`x2d` undo each other on the texts each accepts
(`conversions_invert`); `x2c` refuses empty text (`x2c_c2x_empty`).
-/
namespace ColumnSpec

namespace Text

theorem trimChars_of_not_blank {cs : List Char} (h : ∀ c ∈ cs, isBlank c = false) :
    trimChars cs = cs := by
  have hdrop : ∀ l : List Char, (∀ c ∈ l, isBlank c = false) → l.dropWhile isBlank = l := by
    intro l hl
    cases l with
    | nil => rfl
    | cons c l => exact List.dropWhile_cons_of_neg (by simp [hl c (.head _)])
  rw [trimChars, hdrop cs h, hdrop cs.reverse (fun c hc => h c (List.mem_reverse.1 hc)),
    List.reverse_reverse]

/-! ## Hexadecimal digits -/

theorem toNat_lt_of_isHexDigit {c : Char} (h : c.isHexDigit = true) : c.toNat < 128 := by
  simp only [Char.isHexDigit, Char.isDigit, Bool.or_eq_true, Bool.and_eq_true, decide_eq_true_eq,
    ge_iff_le, UInt32.le_iff_toNat_le] at h
  have hval : c.toNat = c.val.toNat := rfl
  rcases h with (⟨-, h⟩ | ⟨-, h⟩) | ⟨-, h⟩ <;> simp at h <;> omega

theorem hexDigit_ascii : ∀ n < 128, (Char.ofNat n).isHexDigit = true →
    ∃ d < 16, hexDigit? (Char.ofNat n) = some d ∧ hexChar d = (Char.ofNat n).toLower := by
  decide

theorem hexDigit?_of_isHexDigit {c : Char} (h : c.isHexDigit = true) :
    ∃ d < 16, hexDigit? c = some d ∧ hexChar d = c.toLower := by
  have := hexDigit_ascii c.toNat (toNat_lt_of_isHexDigit h)
  rw [Char.ofNat_toNat] at this
  exact this h

theorem hexDigit?_hexChar : ∀ d < 16, hexDigit? (hexChar d) = some d := by decide

theorem hexChar_eq_digitChar : ∀ d < 16, hexChar d = Nat.digitChar d := by decide

theorem hexChar_eq_zero_iff : ∀ d < 16, hexChar d = '0' ↔ d = 0 := by decide

theorem digitChar_hex : ∀ d < 16, (Nat.digitChar d).isHexDigit = true ∧
    isBlank (Nat.digitChar d) = false ∧ Nat.digitChar d ≠ '+' := by
  decide

theorem isBlank_of_isHexDigit {c : Char} (h : c.isHexDigit = true) : isBlank c = false := by
  obtain ⟨d, hd, -, hc⟩ := hexDigit?_of_isHexDigit h
  have := toNat_lt_of_isHexDigit h
  have hascii : ∀ n < 128, (Char.ofNat n).isHexDigit = true → isBlank (Char.ofNat n) = false := by
    decide
  have := hascii c.toNat this
  rw [Char.ofNat_toNat] at this
  exact this h

theorem lowerChar_hex_ascii : ∀ n < 128, (Char.ofNat n).isHexDigit = true →
    Char.ofNat n ≠ 'Σ' ∧ lowerChar (Char.ofNat n) = [(Char.ofNat n).toLower] := by
  decide

theorem lowerFrom_of_isHexDigit {cs : List Char} (h : ∀ c ∈ cs, c.isHexDigit = true)
    (before : List Char) : lowerFrom before cs = cs.map Char.toLower := by
  induction cs generalizing before with
  | nil => rfl
  | cons c cs ih =>
    have hc := lowerChar_hex_ascii c.toNat (toNat_lt_of_isHexDigit (h c (.head _)))
    rw [Char.ofNat_toNat] at hc
    obtain ⟨hsigma, hlower⟩ := hc (h c (.head _))
    have hne : (c == 'Σ') = false := by simpa using hsigma
    rw [lowerFrom, hne]
    simp only [Bool.false_eq_true, if_false, hlower, List.singleton_append, List.map_cons,
      ih (fun x hx => h x (.tail _ hx))]

theorem lower_of_isHexDigit {s : String} (h : ∀ c ∈ s.toList, c.isHexDigit = true) :
    lower s = String.ofList (s.toList.map Char.toLower) := by
  rw [lower, lowerFrom_of_isHexDigit h]

/-! ## Bytes as pairs of hexadecimal digits -/

theorem hexPairs?_flatMap_hexByte {bs : List Nat} (h : ∀ b ∈ bs, b < 256) :
    hexPairs? (bs.flatMap hexByte) = some bs := by
  induction bs with
  | nil => rfl
  | cons b bs ih =>
    have hb := h b (.head _)
    have hhi : hexDigit? (hexChar (b / 16 % 16)) = some (b / 16) := by
      rw [hexDigit?_hexChar _ (Nat.mod_lt _ (by decide)), Nat.mod_eq_of_lt (by omega)]
    have hlo : hexDigit? (hexChar (b % 16)) = some (b % 16) :=
      hexDigit?_hexChar _ (Nat.mod_lt _ (by decide))
    rw [List.flatMap_cons, hexByte, List.cons_append, List.cons_append, List.nil_append,
      hexPairs?, hhi, hlo, ih fun x hx => h x (.tail _ hx)]
    simp only [Option.bind_eq_bind, Option.bind_some, Option.pure_def]
    congr
    omega

theorem decodeHex?_of_hexPairs? {cs : List Char} {bs : List Nat} (hne : cs ≠ [])
    (h : hexPairs? cs = some bs) : decodeHex? cs = some (latin1 bs) := by
  rw [decodeHex?, if_neg (by simpa using hne), h, Option.map_some]

theorem hexPairs?_of_isHexDigit {cs : List Char} (h : ∀ c ∈ cs, c.isHexDigit = true)
    (heven : cs.length % 2 = 0) :
    ∃ bs, hexPairs? cs = some bs ∧ (∀ b ∈ bs, b < 256) ∧
      bs.flatMap hexByte = cs.map Char.toLower := by
  induction cs using hexPairs?.induct with
  | case1 => exact ⟨[], rfl, by simp, rfl⟩
  | case2 a b rest ih =>
    obtain ⟨x, hx, hxa, hxc⟩ := hexDigit?_of_isHexDigit (h a (.head _))
    obtain ⟨y, hy, hyb, hyc⟩ := hexDigit?_of_isHexDigit (h b (.tail _ (.head _)))
    obtain ⟨bs, hbs, hlt, hw⟩ := ih (fun c hc => h c (.tail _ (.tail _ hc)))
      (by simp at heven; omega)
    refine ⟨(16 * x + y) :: bs, by simp [hexPairs?, hxa, hyb, hbs], ?_, ?_⟩
    · intro c hc
      rcases List.mem_cons.1 hc with rfl | hc
      · omega
      · exact hlt c hc
    · have hhi : (16 * x + y) / 16 % 16 = x := by omega
      have hlo : (16 * x + y) % 16 = y := by omega
      simp [hexByte, hhi, hlo, hxc, hyc, hw]
  | case3 a => simp at heven

end Text

namespace Conversion

/-! ## Bytes as bits -/

/-- The `w` low bits of `b` as `0` and `1`, most significant first; `bits` is its width 8. -/
def bitText (w b : Nat) : List Char :=
  (List.range w).reverse.map fun i => if b / Nat.pow 2 i % 2 = 1 then '1' else '0'

theorem bits_eq (b : Nat) : bits b = bitText 8 b := rfl

theorem length_bits (b : Nat) : (bits b).length = 8 := by
  simp [bits_eq, bitText]

theorem bit_of_mem_bits {b : Nat} : ∀ c ∈ bits b, c = '0' ∨ c = '1' := by
  intro c hc
  obtain ⟨i, -, rfl⟩ := List.mem_map.1 hc
  split <;> simp

theorem bitText_succ (w b : Nat) :
    bitText (w + 1) b = bitText w (b / 2) ++ [if b % 2 = 1 then '1' else '0'] := by
  simp only [bitText, List.range_succ_eq_map, List.reverse_cons, List.map_append, List.map_reverse,
    List.map_map, Function.comp_def, Nat.pow_eq, Nat.pow_succ, Nat.pow_zero, Nat.div_one,
    List.map_singleton, List.append_cancel_right_eq]
  congr 2
  funext i
  have hdiv : b / (2 ^ i * 2) = b / 2 / 2 ^ i := by
    rw [Nat.mul_comm, Nat.div_div_eq_div_mul]
  simp only [hdiv]

theorem ofBits_append (l : List Char) (c : Char) :
    ofBits (l ++ [c]) = 2 * ofBits l + (if c == '1' then 1 else 0) := by
  simp [ofBits, List.foldl_append]

theorem ofBits_bitText (w b : Nat) : ofBits (bitText w b) = b % 2 ^ w := by
  induction w generalizing b with
  | zero => simp [bitText, ofBits, Nat.mod_one]
  | succ w ih =>
    have hbit : (if (if b % 2 = 1 then '1' else '0') == '1' then 1 else 0) = b % 2 := by
      by_cases hb : b % 2 = 1
      · simp [hb]
      · have h0 : ('0' == '1') = false := by decide
        simp only [hb, if_false, h0, Bool.false_eq_true]
        omega
    rw [bitText_succ, ofBits_append, ih, hbit, Nat.pow_succ, Nat.mul_comm (2 ^ w) 2, Nat.mod_mul]
    omega

theorem bitText_ofBits {l : List Char} (h : ∀ c ∈ l, c = '0' ∨ c = '1') :
    bitText l.length (ofBits l) = l := by
  induction l using List.reverseRecOn with
  | nil => rfl
  | append_singleton l c ih =>
    have hc := h c (by simp)
    have hdiv : (2 * ofBits l + (if c == '1' then 1 else 0)) / 2 = ofBits l := by
      split <;> omega
    have hmod : (2 * ofBits l + (if c == '1' then 1 else 0)) % 2 = if c == '1' then 1 else 0 := by
      split <;> omega
    rw [List.length_append, List.length_singleton, bitText_succ, ofBits_append, hdiv, hmod,
      ih fun x hx => h x (by simp [hx])]
    rcases hc with rfl | rfl <;> rfl

theorem ofBits_lt (l : List Char) : ofBits l < 2 ^ l.length := by
  induction l using List.reverseRecOn with
  | nil => simp [ofBits]
  | append_singleton l c ih =>
    rw [ofBits_append, List.length_append, List.length_singleton, Nat.pow_succ]
    split <;> omega

/-! ## Groups of eight -/

theorem flatten_octets (cs : List Char) : (octets cs).flatten = cs := by
  induction cs using octets.induct with
  | case1 a b c d e f g h rest ih => simp [octets, ih]
  | case2 => rfl
  | case3 short hlong hnil =>
    rw [octets]
    · simp
    · exact hlong
    · exact hnil

theorem length_of_mem_octets {cs : List Char} (hlen : cs.length % 8 = 0) :
    ∀ l ∈ octets cs, l.length = 8 := by
  induction cs using octets.induct with
  | case1 a b c d e f g h rest ih =>
    simp only [octets, List.mem_cons]
    rintro l (rfl | hl)
    · rfl
    · exact ih (by simp at hlen; omega) l hl
  | case2 => simp [octets]
  | case3 short hlong hnil =>
    exfalso
    rcases short with _ | ⟨a, _ | ⟨b, _ | ⟨c, _ | ⟨d, _ | ⟨e, _ | ⟨f, _ | ⟨g, _ | ⟨h, rest⟩⟩⟩⟩⟩⟩⟩⟩
    case nil => exact hnil rfl
    case cons.cons.cons.cons.cons.cons.cons.cons => exact hlong a b c d e f g h rest rfl
    -- one to seven characters: not a multiple of eight
    all_goals simp at hlen

theorem octets_eight_append {l : List Char} (hl : l.length = 8) (rest : List Char) :
    octets (l ++ rest) = l :: octets rest := by
  rcases l with _ | ⟨a, _ | ⟨b, _ | ⟨c, _ | ⟨d, _ | ⟨e, _ | ⟨f, _ | ⟨g, _ | ⟨h, _ | ⟨i, l⟩⟩⟩⟩⟩⟩⟩⟩⟩
  case cons.cons.cons.cons.cons.cons.cons.cons.nil => rfl
  -- any other length is not eight
  all_goals simp at hl

theorem octets_flatten {ls : List (List Char)} (h : ∀ l ∈ ls, l.length = 8) :
    octets ls.flatten = ls := by
  induction ls with
  | nil => rfl
  | cons l ls ih =>
    rw [List.flatten_cons, octets_eight_append (h l (.head _)), ih fun x hx => h x (.tail _ hx)]

/-! ## Hexadecimal numerals -/

/-- The number that hexadecimal digits denote, most significant first. -/
def hexValue (cs : List Char) : Nat :=
  Nat.ofDigits 16 (cs.reverse.map fun c => (Text.hexDigit? c).getD 0)

theorem hexValue_append (l : List Char) (c : Char) :
    hexValue (l ++ [c]) = 16 * hexValue l + (Text.hexDigit? c).getD 0 := by
  simp [hexValue, Nat.ofDigits_cons, Nat.add_comm]

/-- Hexadecimal digits in lower case without leading zeros; zero is `0`. -/
def hexCanonical (cs : List Char) : List Char :=
  let t := (cs.map Char.toLower).dropWhile (· == '0')
  if t.isEmpty then ['0'] else t

theorem foldl_hex (vals : List Nat) :
    vals.foldl (fun n d => 16 * n + d) 0 = Nat.ofDigits 16 vals.reverse := by
  induction vals using List.reverseRecOn with
  | nil => rfl
  | append_singleton l d ih =>
    rw [List.foldl_append, ih, List.reverse_append, List.reverse_singleton, List.singleton_append,
      Nat.ofDigits_cons]
    simp only [List.foldl_cons, List.foldl_nil]
    omega

theorem mapM_hexDigit? {cs : List Char} (h : ∀ c ∈ cs, c.isHexDigit = true) :
    cs.mapM Text.hexDigit? = some (cs.map fun c => (Text.hexDigit? c).getD 0) := by
  induction cs with
  | nil => rfl
  | cons c cs ih =>
    obtain ⟨d, -, hd, -⟩ := Text.hexDigit?_of_isHexDigit (h c (.head _))
    simp [List.mapM_cons, hd, ih fun x hx => h x (.tail _ hx)]

theorem readHexWord?_of_isHexDigit {cs : List Char} (hne : cs ≠ [])
    (h : ∀ c ∈ cs, c.isHexDigit = true) (hlt : hexValue cs < 2 ^ 64) :
    readHexWord? cs = some (hexValue cs) := by
  obtain ⟨c, rest, rfl⟩ := List.exists_cons_of_ne_nil hne
  have hplus : c ≠ '+' := by
    intro hc
    have := h c (.head _)
    rw [hc] at this
    exact absurd this (by decide)
  have hvals := mapM_hexDigit? h
  have hvalue : ((c :: rest).map fun c => (Text.hexDigit? c).getD 0).foldl
      (fun n d => 16 * n + d) 0 = hexValue (c :: rest) := by
    rw [foldl_hex, ← List.map_reverse]
    rfl
  unfold readHexWord?
  dsimp only
  split
  · next r heq => exact absurd (List.cons.inj heq).1 hplus
  · rw [List.isEmpty_cons, hvals]
    simp only [Bool.false_eq_true, if_false, Option.bind_eq_bind, Option.bind_some, hvalue, Nat.pow_eq]
    rw [if_pos hlt]

theorem mem_toDigits_hex {n : Nat} : ∀ c ∈ Nat.toDigits 16 n, ∃ d < 16, c = Nat.digitChar d := by
  induction n using Nat.strong_induction_on with
  | _ n ih =>
    rw [Nat.toDigits_eq_if (by decide)]
    split
    · next hn =>
      intro c hc
      exact ⟨n, hn, List.mem_singleton.1 hc⟩
    · next hn =>
      intro c hc
      rcases List.mem_append.1 hc with hc | hc
      · exact ih (n / 16) (by omega) c hc
      · exact ⟨n % 16, Nat.mod_lt _ (by decide), List.mem_singleton.1 hc⟩

theorem hexValue_toDigits (n : Nat) : hexValue (Nat.toDigits 16 n) = n := by
  induction n using Nat.strong_induction_on with
  | _ n ih =>
    rw [Nat.toDigits_eq_if (by decide)]
    split
    · next hn =>
      rw [← List.nil_append [n.digitChar], hexValue_append, ← Text.hexChar_eq_digitChar n hn,
        Text.hexDigit?_hexChar n hn]
      simp [hexValue]
    · next hn =>
      rw [hexValue_append, ih (n / 16) (by omega),
        ← Text.hexChar_eq_digitChar _ (Nat.mod_lt _ (by decide)),
        Text.hexDigit?_hexChar _ (Nat.mod_lt _ (by decide)), Option.getD_some]
      omega

theorem toDigits_hexValue {cs : List Char} (h : ∀ c ∈ cs, c.isHexDigit = true) :
    Nat.toDigits 16 (hexValue cs) = hexCanonical cs := by
  -- by induction from the last digit, with whether the value is zero alongside
  suffices hboth : (hexValue cs = 0 ↔ ((cs.map Char.toLower).dropWhile (· == '0')).isEmpty) ∧
      (0 < hexValue cs → Nat.toDigits 16 (hexValue cs) = (cs.map Char.toLower).dropWhile (· == '0')) by
    unfold hexCanonical
    dsimp only
    by_cases hz : hexValue cs = 0
    · rw [if_pos (hboth.1.1 hz), hz]
      rfl
    · rw [if_neg (fun he => hz (hboth.1.2 he)), hboth.2 (Nat.pos_of_ne_zero hz)]
  induction cs using List.reverseRecOn with
  | nil => exact ⟨by simp [hexValue], fun h0 => absurd h0 (by simp [hexValue])⟩
  | append_singleton l c ih =>
    obtain ⟨d, hd, hcd, hlow⟩ := Text.hexDigit?_of_isHexDigit (h c (by simp))
    obtain ⟨hzero, hdigits⟩ := ih fun x hx => h x (by simp [hx])
    have hvalue : hexValue (l ++ [c]) = 16 * hexValue l + d := by
      rw [hexValue_append, hcd, Option.getD_some]
    have hlast : Nat.toDigits 16 d = [c.toLower] := by
      rw [Nat.toDigits_of_lt_base hd, ← Text.hexChar_eq_digitChar d hd, hlow]
    rw [List.map_append, List.map_singleton, List.dropWhile_append, hvalue]
    by_cases hl : hexValue l = 0
    · -- nothing but zeros before: the last digit alone decides
      rw [if_pos (hzero.1 hl), hl, Nat.mul_zero, Nat.zero_add]
      have hzero_iff : (c.toLower == '0') = true ↔ d = 0 := by
        rw [beq_iff_eq, ← hlow, Text.hexChar_eq_zero_iff d hd]
      by_cases hd0 : d = 0
      · simp [hzero_iff.2 hd0, hd0]
      · have hne : (c.toLower == '0') = false := by
          rw [Bool.eq_false_iff]
          exact fun he => hd0 (hzero_iff.1 he)
        simp only [List.dropWhile_cons, hne, Bool.false_eq_true, ↓reduceIte, List.isEmpty_cons,
          iff_false]
        exact ⟨hd0, fun _ => hlast⟩
    · have hne : ((l.map Char.toLower).dropWhile (· == '0')).isEmpty = false := by
        rw [Bool.eq_false_iff]
        exact fun he => hl (hzero.2 he)
      have hempty :
          ((l.map Char.toLower).dropWhile (· == '0') ++ [c.toLower]).isEmpty = false := by
        simp
      rw [if_neg (by simp [hne]), hempty]
      refine ⟨by simp only [Bool.false_eq_true, iff_false]; omega, fun _ => ?_⟩
      rw [← Nat.toDigits_append_toDigits (by decide) (Nat.pos_of_ne_zero hl) hd,
        hdigits (Nat.pos_of_ne_zero hl), hlast]

/-! ## What each conversion gives -/

theorem c2x_apply (t : String) :
    c2x.apply t = .ok (String.ofList ((Text.textBytes t.toList).flatMap Text.hexByte)) := rfl

theorem c2b_apply (t : String) :
    c2b.apply t = .ok (String.ofList ((Text.textBytes t.toList).flatMap bits)) := rfl

theorem ok_bind {ε α β : Type} (a : α) (f : α → Except ε β) : (Except.ok a >>= f) = f a := rfl

theorem x2c_apply_of_decode {t : String} {cs : List Char} (h : Text.decodeHex? t.toList = some cs) :
    x2c.apply t = .ok (String.ofList cs) := by
  simp [apply, h]

theorem b2c_apply_of_bits {t : String} (hlen : t.length % 8 = 0)
    (h : ∀ c ∈ t.toList, c = '0' ∨ c = '1') :
    b2c.apply t = .ok (String.ofList (Text.latin1 ((octets t.toList).map ofBits))) := by
  have hall : t.toList.all (fun c => c == '0' || c == '1') = true := by
    simp only [List.all_eq_true, Bool.or_eq_true, beq_iff_eq]
    exact h
  simp [apply, String.length_toList, hlen, hall]

theorem d2x_apply_of_read {t : String} {n : Int} (h : readWord? (Text.trimChars t.toList) = some n) :
    d2x.apply t =
      .ok (String.ofList (hexDigits (if n < 0 then (n + Int.pow 2 64).toNat else n.toNat))) := by
  simp [apply, h]

theorem x2d_apply_of_read {t : String} {n : Nat} (h : readHexWord? (Text.trimChars t.toList) = some n) :
    x2d.apply t = .ok (toString n) := by
  simp [apply, h]

theorem readWord?_toString {n : Nat} (hn : (n : Int) ≤ wordMax) :
    readWord? (Text.trimChars (toString n).toList) = some (n : Int) := by
  have hdigits : (toString n).toList = Nat.toDigits 10 n := by
    rw [Nat.toString_eq_ofList_toDigits, String.toList_ofList]
  rw [hdigits, Text.trimChars_of_not_blank, Lexer.readWord?_toDigits hn]
  intro c hc
  have := Lexer.toNat_of_isDigit (Lexer.isDigit_of_mem_toDigits hc)
  exact Lexer.isBlank_eq_false (by omega) (by omega)

/-! ## The round trips -/

theorem x2c_c2x {s : String} (hne : s ≠ "") (h : ∀ c ∈ s.toList, c.toNat ≤ 0xFF) :
    (c2x.apply s >>= x2c.apply) = .ok s := by
  have hlt : ∀ b ∈ s.toList.map Char.toNat, b < 256 := by
    intro b hb
    obtain ⟨c, hc, rfl⟩ := List.mem_map.1 hb
    have := h c hc
    omega
  have hsne : s.toList ≠ [] := fun he => hne (String.toList_eq_nil_iff.1 he)
  have hdecode : Text.decodeHex? ((s.toList.map Char.toNat).flatMap Text.hexByte) = some s.toList := by
    obtain ⟨c, rest, hcs⟩ := List.exists_cons_of_ne_nil hsne
    rw [Text.decodeHex?_of_hexPairs? (by simp [hcs, Text.hexByte]) (Text.hexPairs?_flatMap_hexByte hlt),
      Text.latin1_map_toNat]
  rw [c2x_apply, ok_bind, x2c_apply_of_decode (by rw [String.toList_ofList, Text.textBytes_of_le h]; exact hdecode),
    String.ofList_toList]

theorem b2c_c2b {s : String} (h : ∀ c ∈ s.toList, c.toNat ≤ 0xFF) :
    (c2b.apply s >>= b2c.apply) = .ok s := by
  have hgroups : ∀ l ∈ (s.toList.map Char.toNat).map bits, l.length = 8 := by
    intro l hl
    obtain ⟨b, -, rfl⟩ := List.mem_map.1 hl
    exact length_bits b
  have hflat : (Text.textBytes s.toList).flatMap bits = ((s.toList.map Char.toNat).map bits).flatten := by
    rw [Text.textBytes_of_le h, List.flatMap_def]
  have hbits : ∀ c ∈ (String.ofList ((Text.textBytes s.toList).flatMap bits)).toList,
      c = '0' ∨ c = '1' := by
    intro c hc
    rw [String.toList_ofList, List.mem_flatMap] at hc
    obtain ⟨b, -, hcb⟩ := hc
    exact bit_of_mem_bits c hcb
  have hlen : (String.ofList ((Text.textBytes s.toList).flatMap bits)).length % 8 = 0 := by
    rw [String.length_ofList, hflat, List.length_flatten, List.map_map]
    simp [Function.comp_def, length_bits]
  -- each group of eight bits reads back as its byte
  have hread : ((s.toList.map Char.toNat).map bits).map ofBits = s.toList.map Char.toNat := by
    rw [List.map_map]
    refine (List.map_congr_left fun b hb => ?_).trans (List.map_id _)
    obtain ⟨c, hc, rfl⟩ := List.mem_map.1 hb
    rw [Function.comp_apply, bits_eq, ofBits_bitText]
    exact Nat.mod_eq_of_lt (by have := h c hc; omega)
  rw [c2b_apply, ok_bind, b2c_apply_of_bits hlen hbits, String.toList_ofList, hflat, octets_flatten hgroups, hread,
    Text.latin1_map_toNat, String.ofList_toList]

theorem c2x_x2c {h : String} (hne : h ≠ "") (hhex : ∀ c ∈ h.toList, c.isHexDigit = true)
    (heven : h.length % 2 = 0) :
    (x2c.apply h >>= c2x.apply) = .ok (Text.lower h) := by
  obtain ⟨bs, hpairs, hlt, hwrite⟩ :=
    Text.hexPairs?_of_isHexDigit hhex (by rwa [String.length_toList])
  have hsne : h.toList ≠ [] := fun he => hne (String.toList_eq_nil_iff.1 he)
  rw [x2c_apply_of_decode (Text.decodeHex?_of_hexPairs? hsne hpairs), ok_bind, c2x_apply, String.toList_ofList,
    Text.textBytes_latin1 hlt, hwrite, Text.lower_of_isHexDigit hhex]

theorem bits_ofBits_of_mem_octets {cs : List Char} (hlen : cs.length % 8 = 0)
    (hbits : ∀ c ∈ cs, c = '0' ∨ c = '1') {l : List Char} (hl : l ∈ octets cs) :
    bits (ofBits l) = l := by
  have hgroup := length_of_mem_octets hlen l hl
  rw [bits_eq, ← hgroup, bitText_ofBits]
  intro c hc
  have hmem : c ∈ (octets cs).flatten := List.mem_flatten.2 ⟨l, hl, hc⟩
  rw [flatten_octets] at hmem
  exact hbits c hmem

theorem c2b_b2c {b : String} (hlen : b.length % 8 = 0) (hbits : ∀ c ∈ b.toList, c = '0' ∨ c = '1') :
    (b2c.apply b >>= c2b.apply) = .ok b := by
  have hlen' : b.toList.length % 8 = 0 := by rwa [String.length_toList]
  have hlt : ∀ x ∈ (octets b.toList).map ofBits, x < 256 := by
    intro x hx
    obtain ⟨l, hl, rfl⟩ := List.mem_map.1 hx
    have := ofBits_lt l
    rwa [length_of_mem_octets hlen' l hl] at this
  have hback : ((octets b.toList).map ofBits).flatMap bits = b.toList := by
    calc ((octets b.toList).map ofBits).flatMap bits
        = ((octets b.toList).map id).flatten := by
          rw [List.flatMap_map, List.flatMap_def]
          exact congrArg List.flatten
            (List.map_congr_left fun l hl => bits_ofBits_of_mem_octets hlen' hbits hl)
      _ = b.toList := by rw [List.map_id, flatten_octets]
  rw [b2c_apply_of_bits hlen hbits, ok_bind, c2b_apply, String.toList_ofList,
    Text.textBytes_latin1 hlt, hback, String.ofList_toList]

theorem x2d_d2x {n : Nat} (hn : (n : Int) ≤ wordMax) :
    (d2x.apply (toString n) >>= x2d.apply) = .ok (toString n) := by
  have hdigits : ∀ c ∈ Nat.toDigits 16 n, c.isHexDigit = true ∧ Text.isBlank c = false := by
    intro c hc
    obtain ⟨d, hd, rfl⟩ := mem_toDigits_hex c hc
    exact ⟨(Text.digitChar_hex d hd).1, (Text.digitChar_hex d hd).2.1⟩
  have hlt : hexValue (Nat.toDigits 16 n) < 2 ^ 64 := by
    rw [hexValue_toDigits]
    have : wordMax = 2 ^ 63 - 1 := rfl
    omega
  have hread : readHexWord? (Text.trimChars (String.ofList (Nat.toDigits 16 n)).toList) = some n := by
    rw [String.toList_ofList, Text.trimChars_of_not_blank fun c hc => (hdigits c hc).2,
      readHexWord?_of_isHexDigit (Nat.toDigits_ne_nil) (fun c hc => (hdigits c hc).1) hlt,
      hexValue_toDigits]
  rw [d2x_apply_of_read (readWord?_toString hn), if_neg (by omega), Int.toNat_natCast, ok_bind,
    hexDigits, x2d_apply_of_read hread]

theorem d2x_x2d {h : String} (hne : h ≠ "") (hhex : ∀ c ∈ h.toList, c.isHexDigit = true)
    (hword : hexValue h.toList ≤ 2 ^ 63 - 1) :
    (x2d.apply h >>= d2x.apply) = .ok (String.ofList (hexCanonical h.toList)) := by
  have hsne : h.toList ≠ [] := fun he => hne (String.toList_eq_nil_iff.1 he)
  have hread : readHexWord? (Text.trimChars h.toList) = some (hexValue h.toList) := by
    rw [Text.trimChars_of_not_blank fun c hc => Text.isBlank_of_isHexDigit (hhex c hc)]
    exact readHexWord?_of_isHexDigit hsne hhex (by omega)
  have hmax : ((hexValue h.toList : Nat) : Int) ≤ wordMax := by
    have : wordMax = 2 ^ 63 - 1 := rfl
    omega
  rw [x2d_apply_of_read hread, ok_bind, d2x_apply_of_read (readWord?_toString hmax),
    if_neg (by omega), Int.toNat_natCast, hexDigits, toDigits_hexValue hhex]

/-! ## The conversions undo each other -/

/-- Each conversion undoes its partner: `x2c` after `c2x` on non-empty byte text, `b2c` after
`c2b` on byte text, `c2x` after `x2c` on a non-empty even run of hexadecimal digits (in lower
case), `c2b` after `b2c` on whole bytes of bits, `x2d` after `d2x` on the numeral of a
non-negative word, and `d2x` after `x2d` on a hexadecimal numeral of a word (in canonical
form). -/
theorem conversions_invert :
    (∀ s : String, s ≠ "" → (∀ c ∈ s.toList, c.toNat ≤ 0xFF) →
      (c2x.apply s >>= x2c.apply) = .ok s) ∧
    (∀ s : String, (∀ c ∈ s.toList, c.toNat ≤ 0xFF) → (c2b.apply s >>= b2c.apply) = .ok s) ∧
    (∀ h : String, h ≠ "" → (∀ c ∈ h.toList, c.isHexDigit = true) → h.length % 2 = 0 →
      (x2c.apply h >>= c2x.apply) = .ok (Text.lower h)) ∧
    (∀ b : String, b.length % 8 = 0 → (∀ c ∈ b.toList, c = '0' ∨ c = '1') →
      (b2c.apply b >>= c2b.apply) = .ok b) ∧
    (∀ n : Nat, (n : Int) ≤ wordMax → (d2x.apply (toString n) >>= x2d.apply) = .ok (toString n)) ∧
    (∀ h : String, h ≠ "" → (∀ c ∈ h.toList, c.isHexDigit = true) → hexValue h.toList ≤ 2 ^ 63 - 1 →
      (x2d.apply h >>= d2x.apply) = .ok (String.ofList (hexCanonical h.toList))) :=
  ⟨fun _ hne h => x2c_c2x hne h, fun _ h => b2c_c2b h, fun _ hne hhex heven => c2x_x2c hne hhex heven,
    fun _ hlen hbits => c2b_b2c hlen hbits, fun _ hn => x2d_d2x hn,
    fun _ hne hhex hword => d2x_x2d hne hhex hword⟩

/-- Two hexadecimal digits, one in upper case, come back from `c2x` after `x2c` in lower case. -/
theorem c2x_x2c_upper :
    ("aF" ≠ "" ∧ (∀ c ∈ "aF".toList, c.isHexDigit = true) ∧ "aF".length % 2 = 0) ∧
      (x2c.apply "aF" >>= c2x.apply) = .ok "af" := by
  -- membership in a literal text is unfolded by `simp`: `decide` on it recurses too deep
  have hhex : ∀ c ∈ "aF".toList, c.isHexDigit = true := by
    intro c hc
    simp at hc
    rcases hc with rfl | rfl <;> decide
  refine ⟨⟨by decide, hhex, by decide⟩, ?_⟩
  rw [conversions_invert.2.2.1 "aF" (by decide) hhex (by decide)]
  exact congrArg Except.ok (by decide)

/-- The empty text: `c2x` writes nothing, which `x2c` refuses. -/
theorem x2c_c2x_empty :
    (c2x.apply "" >>= x2c.apply) = .error (.invalidArgument "x2c" "invalid hex string <>") := by
  decide

end Conversion

end ColumnSpec
