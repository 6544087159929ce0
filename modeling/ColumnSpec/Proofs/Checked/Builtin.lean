import ColumnSpec.Proofs.Checked.Basic
import ColumnSpec.Proofs.Encoding.Binary
/-!
# The text functions, every step checked

The text functions written as computed on 64-bit words and slices, every failing step
checked; each `_eq` lemma says the checked function always answers, as the function the
language runs does, on texts that fit in memory.
-/
namespace ColumnSpec.Checked

variable {α : Type}

/-! ## Positions counted from the end -/

/-- `x` counted back from one past the end of `slen` elements: `x + (slen + 1)`. -/
def fromEnd (slen x : Int) : Option Int := add slen 1 >>= add x

/-- The elements from position `start` (counted from 1) to the end of `slen`: `slen - start + 1`. -/
def remaining (slen start : Int) : Option Int := sub slen start >>= (add · 1)

/-- `count` elements of `xs` from index `first`: the slice `first .. first + count`. -/
def cut (xs : List α) (first count : Nat) : Option (List α) := uadd first count >>= slice xs first

theorem fromEnd_eq {slen x : Int} (h0 : 0 ≤ slen) (hs : slen < 2 ^ 61) (lo : -2 ^ 63 ≤ x)
    (hx : x < 0) : fromEnd slen x = some (x + slen + 1) := by
  rw [fromEnd, add_of_bounds (by omega) (by omega), Option.bind_eq_bind, Option.bind_some,
    add_of_bounds (by omega) (by omega), Int.add_assoc]

theorem remaining_eq {slen start : Int} (h1 : 1 ≤ start) (h : start ≤ slen) (hs : slen < 2 ^ 61) :
    remaining slen start = some (slen - start + 1) := by
  rw [remaining, sub_of_bounds (by omega) (by omega), Option.bind_eq_bind, Option.bind_some,
    add_of_bounds (by omega) (by omega)]

theorem cut_eq {xs : List α} {first count : Nat} (h : first + count ≤ xs.length)
    (hx : xs.length < 2 ^ 64) : cut xs first count = some ((xs.drop first).take count) := by
  rw [cut, uadd_of_lt (by omega), Option.bind_eq_bind, Option.bind_some, slice_of_le (by omega) h,
    Nat.add_sub_cancel_left]

theorem bind_ite {β : Type} {c : Prop} [Decidable c] {x : Option Int} {a b : Int}
    (K : Int → Option β) (hx : c → x = some a) :
    (if c then x.bind K else K b) = K (if c then a else b) := by
  split_ifs with h
  · rw [hx h, Option.bind_some]
  · rfl

theorem fromEnd_bind {β : Type} {slen x : Int} (K : Int → Option β) (h0 : 0 ≤ slen)
    (hs : slen < 2 ^ 61) (lo : -2 ^ 63 ≤ x) :
    (if x < 0 then (fromEnd slen x).bind K else K x) = K (if x < 0 then x + slen + 1 else x) :=
  bind_ite K (fromEnd_eq h0 hs lo)

def substring (s : List Char) (start : Int) (len : Option Int) : Option Value := do
  let slen ← word s.length
  if start = 0 then return .absent
  if slen < start then return .str ""
  let start ← if start < 0 then fromEnd slen start else pure start
  if start < 1 then return .str ""
  let len := len.getD (← remaining slen start)
  let len ← if len < 0 then fromEnd slen len else pure len
  if len < 0 then return .str ""
  let len := min len (← remaining slen start)
  let first ← sub start 1 >>= index
  let piece ← index len >>= cut s first
  return .str (String.ofList piece)

theorem substring_eq {s : List Char} {start : Int} {len : Option Int} (hs : Addressable s)
    (hstart : fitsWord start) (hlen : ∀ l ∈ len, fitsWord l) :
    substring s start len = some (Builtin.substring s start len) := by
  have hn := hs.length_lt
  obtain ⟨slo, shi⟩ := fitsWord_iff.mp hstart
  unfold substring Builtin.substring
  rw [word_of_le (by omega)]
  simp only [Option.bind_eq_bind, Option.bind_some, Option.pure_def]
  by_cases h0 : start = 0
  · simp only [h0, if_true]
  by_cases h1 : (s.length : Int) < start
  · simp only [h0, h1, if_true, if_false]
  simp only [h0, h1, if_false]
  rw [fromEnd_bind _ (by omega) hn slo]
  generalize hst : (if start < 0 then start + (s.length : Int) + 1 else start) = st
  have hst' : st ≤ s.length := by split at hst <;> omega
  by_cases h2 : st < 1
  · simp only [h2, if_true]
  simp only [h2, if_false]
  rw [remaining_eq (by omega) hst' hn, Option.bind_some]
  have hlo : -2 ^ 63 ≤ len.getD (s.length - st + 1) := by
    rcases len with _ | l
    · simp only [Option.getD_none]
      omega
    · exact (fitsWord_iff.mp (hlen l rfl)).1
  rw [fromEnd_bind _ (by omega) hn hlo]
  generalize hl : (if len.getD (s.length - st + 1) < 0 then len.getD (s.length - st + 1) + s.length + 1
    else len.getD (s.length - st + 1)) = l
  by_cases h3 : l < 0
  · simp only [h3, if_true]
  simp only [h3, if_false]
  rw [Option.bind_some, sub_of_bounds (by omega) (by omega),
    Option.bind_some, index_of_nonneg (by omega), Option.bind_some,
    index_of_nonneg (by omega), Option.bind_some, cut_eq (by omega) (by omega), Option.bind_some]

/-! ## Fitting to a width -/

/-- `fit` checked: a text at least as long as the width is cut at its alignment's offset, a
shorter one padded by the difference. -/
def fit (cs : List Char) (width : Nat) (align : Text.Align) (pad : Char) : Option (List Char) :=
  if width ≤ cs.length then do
    let first ← match align with
      | .left => pure 0
      | .right => usub cs.length width
      | .center => (· / 2) <$> usub cs.length width
    cut cs first width
  else do
    let extra ← usub width cs.length
    let (before, after) ← match align with
      | .left => pure (0, extra)
      | .right => pure (extra, 0)
      | .center => (extra / 2, ·) <$> usub extra (extra / 2)
    pure (List.replicate before pad ++ cs ++ List.replicate after pad)

theorem fit_eq {cs : List Char} {width : Nat} (align : Text.Align) (pad : Char)
    (hx : cs.length < 2 ^ 64) : fit cs width align pad = some (Text.fitChars cs width align pad) := by
  unfold fit Text.fitChars
  by_cases h : width ≤ cs.length
  · -- the cut starts at most `cs.length - width` in, so it ends within the text
    simp only [h, if_true, usub_of_le h, Option.pure_def, Option.map_eq_map, Option.map_some,
      Option.bind_eq_bind]
    cases align <;> dsimp only <;> rw [Option.bind_some, cut_eq (by omega) hx]
  · simp only [h, if_false, usub_of_le (Nat.le_of_not_le h), usub_of_le (Nat.div_le_self _ 2),
      Option.pure_def, Option.map_eq_map, Option.map_some, Option.bind_eq_bind, Option.bind_some]
    cases align <;> rfl

/-- `left`, `right` and `center` checked: a negative width counts back from one past the
length, and a width of zero or less gives nothing. -/
def justify (align : Text.Align) (s : List Char) (n : Int) : Option String := do
  let slen ← word s.length
  let n ← if n < 0 then add n slen >>= (add · 1) else pure n
  if n ≤ 0 then return ""
  let width ← index n
  String.ofList <$> fit s width align ' '

theorem justify_eq {s : List Char} {n : Int} (align : Text.Align) (hs : Addressable s)
    (hn : fitsWord n) : justify align s n = some (Builtin.justify align s n) := by
  have hlen := hs.length_lt
  obtain ⟨lo, hi⟩ := fitsWord_iff.mp hn
  unfold justify Builtin.justify
  rw [word_of_le (by omega)]
  simp only [Option.bind_eq_bind, Option.bind_some, Option.pure_def]
  rw [bind_ite _ fun hneg => by
    rw [add_of_bounds (by omega) (by omega), Option.bind_some, add_of_bounds (by omega) (by omega)]]
  generalize hw : (if n < 0 then n + (s.length : Int) + 1 else n) = w
  have hw' : w ≤ 2 ^ 63 - 1 := by split at hw <;> omega
  by_cases h0 : w ≤ 0
  · simp only [h0, if_true]
  simp only [h0, if_false]
  rw [index_of_nonneg (by omega), Option.bind_some, fit_eq align ' ' (by omega), Option.map_eq_map,
    Option.map_some]

/-! ## Positions -/

theorem occurrences_le (needle : List Char) :
    ∀ (hay : List Char) (k i : Nat), i ∈ Builtin.occurrences needle hay k → k ≤ i ∧ i ≤ k + hay.length
  | [], k, i, h => by
    simp only [Builtin.occurrences] at h
    split at h <;> simp_all
  | c :: rest, k, i, h => by
    simp only [Builtin.occurrences, List.mem_append] at h
    rcases h with h | h
    · split at h <;> simp_all
    · have := occurrences_le needle rest (k + 1) i h
      simp only [List.length_cons]
      omega

/-- `pos` and `rpos` checked: the text before the first (or last) occurrence is cut off and its
characters counted, plus one; 0 when the needle does not occur. -/
def position (last : Bool) (needle hay : List Char) : Option Int :=
  let found := Builtin.occurrences needle hay 0
  match (if last then found.getLast? else found.head?) with
  | some i => do
    let before ← slice hay 0 i
    word before.length >>= (add · 1)
  | none => pure 0

theorem position_eq (last : Bool) (needle : List Char) {hay : List Char} (hs : Addressable hay) :
    position last needle hay = some (Builtin.position last needle hay) := by
  have hlen := hs.length_lt
  unfold position Builtin.position
  dsimp only
  generalize hf : (if last then (Builtin.occurrences needle hay 0).getLast?
    else (Builtin.occurrences needle hay 0).head?) = found
  rcases found with _ | i
  · rfl
  · -- the position found lies within the haystack, so the text before it can be cut off
    have hi : i ≤ hay.length := by
      have hmem : i ∈ Builtin.occurrences needle hay 0 := by
        split at hf
        · exact List.mem_of_getLast? hf
        · exact List.mem_of_head? hf
      simpa using (occurrences_le needle hay 0 i hmem).2
    simp only [slice_of_le (Nat.zero_le i) hi, Option.bind_eq_bind, Option.bind_some, Nat.sub_zero,
      List.drop_zero, List.length_take, Nat.min_eq_left hi]
    rw [word_of_le (by omega), Option.bind_some, add_of_bounds (by omega) (by omega)]

/-! ## Grouping digits -/

theorem foldlM_eq_some {β γ : Type} {f : β → γ → Option β} {g : β → γ → β} :
    ∀ (l : List γ) (init : β), (∀ b, ∀ x ∈ l, f b x = some (g b x)) →
      l.foldlM f init = some (l.foldl g init)
  | [], _, _ => rfl
  | x :: rest, init, h => by
    rw [List.foldlM_cons, h init x List.mem_cons_self, Option.bind_eq_bind, Option.bind_some]
    exact foldlM_eq_some rest (g init x) fun b y hy => h b y (List.mem_cons_of_mem x hy)

theorem findIdx?_not_getD (p : Char → Bool) :
    ∀ l : List Char, (l.findIdx? fun c => !p c).getD l.length = (l.takeWhile p).length
  | [] => rfl
  | c :: rest => by
    rw [List.findIdx?_cons, List.takeWhile_cons]
    cases hc : p c
    · simp
    · simp only [Bool.not_true, Bool.false_eq_true, if_false, if_true, List.length_cons,
        Option.getD_map, findIdx?_not_getD p rest]

theorem foldlM_bind {β γ δ : Type} {f : β → γ → Option β} {g : β → γ → β} (l : List γ)
    (init : β) (h : ∀ b, ∀ x ∈ l, f b x = some (g b x)) (K : β → Option δ) :
    (l.foldlM f init).bind K = K (l.foldl g init) := by
  rw [foldlM_eq_some l init h, Option.bind_some]

theorem slice_span (p : Char → Bool) (l : List Char) :
    slice l 0 ((l.findIdx? fun c => !p c).getD l.length) = some (l.span p).1 ∧
      slice l ((l.findIdx? fun c => !p c).getD l.length) l.length = some (l.span p).2 := by
  have hle : (l.takeWhile p).length ≤ l.length := (List.takeWhile_prefix p).length_le
  have hsplit : l.takeWhile p ++ l.dropWhile p = l := List.takeWhile_append_dropWhile
  have htake := congrArg (List.take (l.takeWhile p).length) hsplit
  have hdrop := congrArg (List.drop (l.takeWhile p).length) hsplit
  rw [List.take_left' rfl] at htake
  rw [List.drop_left' rfl] at hdrop
  rw [findIdx?_not_getD, slice_of_le (Nat.zero_le _) hle, slice_of_le hle le_rfl,
    List.span_eq_takeWhile_dropWhile, List.drop_zero, Nat.sub_zero, ← htake, ← hdrop,
    List.take_of_length_le (by rw [hdrop, List.length_drop])]
  exact ⟨rfl, rfl⟩

theorem snd_lt_of_mem_zipIdx {l : List α} {x : α × Nat} (h : x ∈ l.zipIdx) : x.2 < l.length := by
  obtain ⟨c, i⟩ := x
  simpa using (List.mem_zipIdx h).2.1

/-- One step of `fmt`'s grouping, checked: digit `x.1` at offset `x.2` of `count` digits
goes after a separator when a positive multiple of three digits follows it. -/
def groupStep (count : Nat) (thousands : String) (acc : List Char) (x : Char × Nat) :
    Option (List Char) := do
  let gap ← if 0 < x.2 then (· % 3 == 0) <$> usub count x.2 else pure false
  pure (acc ++ (if gap then thousands.toList else []) ++ [x.1])

theorem groupStep_eq {count : Nat} (thousands : String) (acc : List Char) {x : Char × Nat}
    (hx : x.2 < count) :
    groupStep count thousands acc x =
      some (acc ++ (if 0 < x.2 && (count - x.2) % 3 == 0 then thousands.toList else []) ++ [x.1]) := by
  by_cases h0 : 0 < x.2
  · simp [groupStep, h0, usub_of_le hx.le]
  · simp [groupStep, h0]

/-- `fmt`'s grouping checked: the sign is taken off, the text is split before its first
character that is no digit, and a separator goes before each digit with a multiple of three
digits after it. -/
def localize (text decimal thousands : String) : Option String := do
  let negative := text.toList.head? == some '-'
  let unsigned := if negative then text.toList.tail else text.toList
  let split := (unsigned.findIdx? fun c => !c.isDigit).getD unsigned.length
  let whole ← slice unsigned 0 split
  let rest ← slice unsigned split unsigned.length
  let grouped ← whole.zipIdx.foldlM (groupStep whole.length thousands) []
  let tail := if rest.head? == some '.' then decimal.toList ++ rest.tail else rest
  pure ((if negative then "-" else "") ++ String.ofList (grouped ++ tail))

theorem localize_eq (text decimal thousands : String) :
    localize text decimal thousands = some (Builtin.localize text decimal thousands) := by
  unfold localize Builtin.localize
  dsimp only
  -- the sign is read the same way on both sides: two of the four cases cannot happen
  split <;> split
  on_goal 2 => simp_all [List.head?_eq_some_iff]
  on_goal 2 => simp_all
  on_goal 1 =>
    rename_i heq
    rw [heq, List.tail_cons]
  all_goals
    simp only [Option.bind_eq_bind, (slice_span _ _).1, (slice_span _ _).2, Option.bind_some]
    rw [foldlM_bind _ _ fun b x hx => groupStep_eq thousands b (snd_lt_of_mem_zipIdx hx)]
    -- the text after the digits: a leading point becomes the decimal separator
    split <;> split <;> simp_all [List.head?_eq_some_iff]

/-! ## Binary conversions -/

theorem take_leBytes {k : Nat} (n : Int) (h : k ≤ 8) : (Builtin.leBytes n 8).take k = Builtin.leBytes n k := by
  simp only [Builtin.leBytes, ← List.map_take, List.take_range, Nat.min_eq_left h]

theorem slice_leBytes {k : Nat} (n : Int) (h : k ≤ 8) :
    slice (Builtin.leBytes n 8) 0 k = some (Builtin.leBytes n k) := by
  rw [slice_of_le (Nat.zero_le k) (by simpa [Builtin.leBytes] using h), List.drop_zero, Nat.sub_zero,
    take_leBytes n h]

theorem foldr_append_zeros (bs : List Nat) (m : Nat) :
    (bs ++ List.replicate m 0).foldr (fun b acc => b + 256 * acc) 0 = bs.foldr (fun b acc => b + 256 * acc) 0 := by
  rw [List.foldr_append]
  have hz : (List.replicate m 0).foldr (fun b acc => b + 256 * acc) 0 = 0 := by
    induction m with
    | zero => rfl
    | succ m ih => rw [List.replicate_succ, List.foldr_cons, ih]
  rw [hz]

/-- `tobine` checked: the width must be 8, 16, 32 or 64; below 64 the bounds `-(1 << (bits - 1))`
and `(1 << bits) - 1` are computed in words; then the first `bits / 8` of the eight
little-endian bytes are kept. -/
def toBinary (name : String) (n bits : Int) : Option (Except Fault Value) := do
  if !(bits == 8 || bits == 16 || bits == 32 || bits == 64) then
    return .error (.invalidArgument name ("Invalid bit length " ++ toString bits))
  if bits < 64 then
    let least ← sub bits 1 >>= shl 1 >>= neg
    let most ← shl 1 bits >>= (sub · 1)
    if n < least ∨ most < n then
      return .error (.invalidArgument name (toString n ++ " does not fit in " ++ toString bits ++ " bits"))
  let bytes ← index (bits / 8) >>= slice (Builtin.leBytes n 8) 0
  return .ok (.str (String.ofList (Text.latin1 bytes)))

theorem widthBounds_eq {bits : Int} (h1 : 1 ≤ bits) (h32 : bits ≤ 32) :
    ((sub bits 1).bind (shl 1)).bind neg = some (-2 ^ (bits.toNat - 1)) ∧
      (shl 1 bits).bind (sub · 1) = some (2 ^ bits.toNat - 1) := by
  have hk : (bits - 1).toNat = bits.toNat - 1 := by omega
  have hp1 : (2 : Int) ^ (bits.toNat - 1) ≤ 2 ^ 32 := pow_le_pow_right₀ (by norm_num) (by omega)
  have hp : (2 : Int) ^ bits.toNat ≤ 2 ^ 32 := pow_le_pow_right₀ (by norm_num) (by omega)
  have hpos1 : (0 : Int) < 2 ^ (bits.toNat - 1) := by positivity
  have hpos : (0 : Int) < 2 ^ bits.toNat := by positivity
  constructor
  · rw [sub_of_bounds (by omega) (by omega), Option.bind_some, shl_one (by omega) (by omega), hk,
      Option.bind_some, neg_of_bounds (by omega) (by omega)]
  · rw [shl_one (by omega) h32, Option.bind_some, sub_of_bounds (by omega) (by omega)]

theorem toBinary_eq (name : String) (n bits : Int) :
    toBinary name n bits = some (Builtin.toBinary name n bits) := by
  unfold toBinary Builtin.toBinary
  by_cases hw : bits = 8 ∨ bits = 16 ∨ bits = 32 ∨ bits = 64
  · have hb := (Builtin.isWidth_iff bits).2 hw
    -- the bytes kept are the first `bits / 8` of the eight
    have hbytes : (index (bits / 8) >>= slice (Builtin.leBytes n 8) 0) =
        some (Builtin.leBytes n (bits.toNat / 8)) := by
      rw [index_of_nonneg (a := bits / 8) (by omega), Option.bind_eq_bind, Option.bind_some,
        show (bits / 8).toNat = bits.toNat / 8 by omega, slice_leBytes n (by omega)]
    simp only [hb, Bool.not_true, Bool.false_eq_true, if_false, Builtin.int_pow_eq]
    by_cases h64 : bits < 64
    · obtain ⟨hleast, hmost⟩ := widthBounds_eq (show 1 ≤ bits by omega) (show bits ≤ 32 by omega)
      simp only [hleast, hmost, hbytes, Option.bind_eq_bind, Option.bind_some,
        Option.pure_def, h64, decide_true, Bool.true_and, Bool.or_eq_true, decide_eq_true_eq]
      split_ifs <;> rfl
    · -- at 64 bits every word fits
      simp only [hbytes, h64, decide_false, Bool.false_and, Bool.false_eq_true, if_false,
        Option.bind_eq_bind, Option.bind_some, Option.pure_def]
      rfl
  · have hguard : (!(bits == 8 || bits == 16 || bits == 32 || bits == 64)) = true := by
      simp only [Bool.not_eq_true', Bool.or_eq_false_iff, beq_eq_false_iff_ne, ne_eq]
      omega
    rw [if_pos hguard, if_pos hguard]
    rfl

/-- `frombin` checked: one to eight byte characters are copied into eight zero bytes, read as a
little-endian unsigned word and taken as a signed one. -/
def fromBinary (name : String) (s : String) : Option (Except Fault Value) := do
  let cs := s.toList
  let bytes := Text.textBytes cs
  if bytes.isEmpty || 8 < bytes.length || bytes.length != cs.length then
    return .error (.invalidArgument name ("Invalid binary field length " ++ toString cs.length))
  let buf := List.replicate 8 0
  let dst ← slice buf 0 bytes.length
  -- copying into the slice needs the two lengths to agree
  if dst.length ≠ bytes.length then none
  let u : Nat := (bytes ++ buf.drop bytes.length).foldr (fun b acc => b + 256 * acc) 0
  return .ok (.int (if Nat.pow 2 63 ≤ u then (u : Int) - Int.pow 2 64 else u))

theorem fromBinary_eq (name : String) (s : String) :
    fromBinary name s = some (Builtin.fromBinary name s) := by
  unfold fromBinary Builtin.fromBinary
  dsimp only
  split
  · rfl
  · rename_i h
    have hle : (Text.textBytes s.toList).length ≤ 8 := by simp at h; omega
    rw [slice_of_le (Nat.zero_le _) (by simpa using hle)]
    simp only [Option.bind_eq_bind, Option.bind_some, Nat.sub_zero, List.length_take,
      List.length_replicate, Nat.min_eq_left hle, ne_eq, not_true_eq_false, if_false, Option.pure_def,
      List.drop_replicate, foldr_append_zeros]
    rfl

end ColumnSpec.Checked
