import ColumnSpec.Output
import Mathlib.Data.List.Induction
/-!
# Column placements overlay each other

A placement changes exactly the positions its text covers (`putAt_getElem?`); from an
empty line each position holds the last placement that covers it (`putAll_overlay`).
-/
namespace ColumnSpec.Buffer

/-- The character that text placed at column `col` shows at position `i`, if it covers it. -/
def cover (col : Nat) (text : List Char) (i : Nat) : Option Char :=
  if col - 1 ≤ i then text[i - (col - 1)]? else none

/-- A blank at position `i` when it lies before column `col`. -/
def gap (col i : Nat) : Option Char := if i < col - 1 then some ' ' else none

/-- Column placements, each a column and a text, made one after another. -/
def putAll (b : Buffer) (ps : List (Nat × List Char)) : Buffer :=
  ps.foldl (fun b p => b.putAt p.1 p.2) b

/-- The character of the last of the placements that covers position `i`. -/
def lastCover (ps : List (Nat × List Char)) (i : Nat) : Option Char :=
  ps.foldl (fun o p => (cover p.1 p.2 i).or o) none

/-- The end of the furthest placement, 0 when there is none. -/
def extent (ps : List (Nat × List Char)) : Nat :=
  ps.foldl (fun m p => max m (p.1 - 1 + p.2.length)) 0

theorem cover_eq_none {col i : Nat} {text : List Char} :
    cover col text i = none ↔ i < col - 1 ∨ col - 1 + text.length ≤ i := by
  unfold cover
  split <;> simp <;> omega

theorem lt_of_cover_eq_some {col i : Nat} {text : List Char} {c : Char}
    (h : cover col text i = some c) : col - 1 ≤ i ∧ i < col - 1 + text.length := by
  have hne : ¬ (i < col - 1 ∨ col - 1 + text.length ≤ i) := fun h' => by
    rw [cover_eq_none.2 h'] at h
    cases h
  omega

/-! ## One placement -/

theorem ext {b b' : Buffer} (hc : b.chars = b'.chars) (hd : b.dirty = b'.dirty) : b = b' := by
  cases b
  cases b'
  cases hc
  cases hd
  rfl

theorem length_putAt (b : Buffer) (col : Nat) (text : List Char) :
    (b.putAt col text).chars.length = max b.chars.length (col - 1 + text.length) := by
  simp only [putAt, List.length_append, List.length_take, List.length_drop,
    List.length_replicate]
  omega

theorem getElem?_splice {l t : List Char} {s : Nat} (hs : s ≤ l.length) (i : Nat) :
    (l.take s ++ t ++ l.drop (s + t.length))[i]? =
      if s ≤ i ∧ i < s + t.length then t[i - s]? else l[i]? := by
  have htake : (l.take s).length = s := by simp; omega
  rcases Nat.lt_or_ge i s with hi | hi
  · rw [List.append_assoc, List.getElem?_append_left (by omega), List.getElem?_take, if_pos hi,
      if_neg (by omega)]
  · rw [List.append_assoc, List.getElem?_append_right (by omega), htake]
    rcases Nat.lt_or_ge (i - s) t.length with ht | ht
    · rw [List.getElem?_append_left ht, if_pos (by omega)]
    · rw [List.getElem?_append_right ht, List.getElem?_drop, if_neg (by omega)]
      congr 1
      omega

theorem getElem?_padded (b : Buffer) (col i : Nat) :
    (b.chars ++ List.replicate (col - 1 - b.chars.length) ' ')[i]? = b.chars[i]?.or (gap col i) := by
  rcases Nat.lt_or_ge i b.chars.length with h | h
  · simp [List.getElem?_append_left h, List.getElem?_eq_getElem h]
  · rw [List.getElem?_append_right h, List.getElem?_eq_none h, List.getElem?_replicate,
      Option.none_or, gap]
    by_cases hg : i < col - 1
    · rw [if_pos (by omega), if_pos hg]
    · rw [if_neg (by omega), if_neg hg]

theorem putAt_getElem? (b : Buffer) (col : Nat) (text : List Char) (i : Nat) :
    (b.putAt col text).chars[i]? = (cover col text i).or (b.chars[i]?.or (gap col i)) := by
  have hstart : max col 1 - 1 = col - 1 := by omega
  simp only [putAt, hstart]
  rw [getElem?_splice (by simp; omega), getElem?_padded, cover]
  by_cases hc : col - 1 ≤ i ∧ i < col - 1 + text.length
  · rw [if_pos hc, if_pos hc.1, List.getElem?_eq_getElem (by omega), Option.some_or]
  · rw [if_neg hc]
    by_cases hi : col - 1 ≤ i
    · rw [if_pos hi, List.getElem?_eq_none (by omega : text.length ≤ i - (col - 1)),
        Option.none_or]
    · rw [if_neg hi, Option.none_or]

/-! ## A sequence of placements -/

theorem putAll_append_single (b : Buffer) (ps : List (Nat × List Char)) (p : Nat × List Char) :
    putAll b (ps ++ [p]) = (putAll b ps).putAt p.1 p.2 := by
  simp [putAll]

theorem lastCover_append_single (ps : List (Nat × List Char)) (p : Nat × List Char) (i : Nat) :
    lastCover (ps ++ [p]) i = (cover p.1 p.2 i).or (lastCover ps i) := by
  simp [lastCover]

theorem extent_append_single (ps : List (Nat × List Char)) (p : Nat × List Char) :
    extent (ps ++ [p]) = max (extent ps) (p.1 - 1 + p.2.length) := by
  simp [extent]

theorem length_putAll (ps : List (Nat × List Char)) :
    (putAll {} ps).chars.length = extent ps := by
  induction ps using List.reverseRecOn with
  | nil => rfl
  | append_singleton ps p ih =>
    rw [putAll_append_single, length_putAt, ih, extent_append_single]

theorem putAll_getElem? (ps : List (Nat × List Char)) (i : Nat) :
    (putAll {} ps).chars[i]? =
      (lastCover ps i).or (if i < extent ps then some ' ' else none) := by
  induction ps using List.reverseRecOn with
  | nil => simp [putAll, lastCover, extent]
  | append_singleton ps p ih =>
    rw [putAll_append_single, putAt_getElem?, ih, lastCover_append_single,
      extent_append_single]
    rcases hc : cover p.1 p.2 i with _ | c
    · -- not covered by the new placement: its gap and the old extent make the blanks
      have hcov := cover_eq_none.1 hc
      rcases lastCover ps i with _ | d
      · by_cases h₁ : i < extent ps <;> by_cases h₂ : i < p.1 - 1 <;>
          simp [gap, h₁, h₂] <;> omega
      · rfl
    · rfl

/-- Column placements made on an empty line leave it as long as the furthest of them
reaches, each position holding the character of the last placement covering it, or a blank
where none does. -/
theorem putAll_overlay (ps : List (Nat × List Char)) :
    (putAll {} ps).chars.length = extent ps ∧
      ∀ i (hi : i < (putAll {} ps).chars.length),
        (putAll {} ps).chars[i] = (lastCover ps i).getD ' ' := by
  refine ⟨length_putAll ps, fun i hi => ?_⟩
  have hget := putAll_getElem? ps i
  have hi' : i < extent ps := length_putAll ps ▸ hi
  rw [List.getElem?_eq_getElem hi, if_pos hi'] at hget
  rcases h : lastCover ps i with _ | c
  · simpa [h] using hget
  · simpa [h] using hget

/-! ## Placements that commute, and placements after the line -/

theorem putAt_comm (b : Buffer) {c₁ c₂ : Nat} {t₁ t₂ : List Char}
    (h : c₁ - 1 + t₁.length ≤ c₂ - 1 ∨ c₂ - 1 + t₂.length ≤ c₁ - 1) :
    (b.putAt c₁ t₁).putAt c₂ t₂ = (b.putAt c₂ t₂).putAt c₁ t₁ := by
  refine ext (List.ext_getElem? fun i => ?_) rfl
  simp only [putAt_getElem?]
  -- at most one of the two covers position `i`
  rcases h₁ : cover c₁ t₁ i with _ | x <;> rcases h₂ : cover c₂ t₂ i with _ | y
  · rcases b.chars[i]? with _ | c
    · by_cases g₁ : i < c₁ - 1 <;> by_cases g₂ : i < c₂ - 1 <;> simp [gap, g₁, g₂]
    · rfl
  · rfl
  · rfl
  · have := lt_of_cover_eq_some h₁
    have := lt_of_cover_eq_some h₂
    omega

theorem append_eq_putAt (b : Buffer) (t : List Char) :
    b.append t = b.putAt (b.chars.length + 1) t := by
  refine ext ?_ rfl
  simp [append, putAt]

theorem appendSeparated_eq_putAt (b : Buffer) (sep : Char) (t : List Char) :
    b.appendSeparated sep t =
      if b.chars = [] then b.putAt 1 t else (b.append [sep]).putAt (b.chars.length + 2) t := by
  by_cases hb : b.chars = []
  · rw [if_pos hb, appendSeparated, if_pos (List.isEmpty_iff.2 hb), append_eq_putAt, hb]
    rfl
  · have hlen : (b.append [sep]).chars.length + 1 = b.chars.length + 2 := by simp [append]
    rw [if_neg hb, appendSeparated, if_neg (mt List.isEmpty_iff.1 hb), ← hlen, ← append_eq_putAt]
    refine ext ?_ rfl
    simp [append]

theorem place_next (b : Buffer) (w : Option Nat) (text : String) (align : Text.Align)
    (pad fs : Char) :
    b.place (.next w) text align pad fs = b.place (.column (b.chars.length + 1) w) text align pad fs := by
  simp only [place, Placement.width?, append_eq_putAt]

theorem place_nextSeparated (b : Buffer) (w : Option Nat) (text : String) (align : Text.Align)
    (pad fs : Char) :
    b.place (.nextWord w) text align pad fs =
        (if b.chars = [] then b.place (.next w) text align pad fs
        else (b.append [pad]).place (.column (b.chars.length + 2) w) text align pad fs) ∧
      b.place (.nextField w) text align pad fs =
        (if b.chars = [] then b.place (.next w) text align pad fs
        else (b.append [fs]).place (.column (b.chars.length + 2) w) text align pad fs) := by
  constructor <;>
  · by_cases hb : b.chars = []
    · simp only [place, Placement.width?, appendSeparated_eq_putAt, append_eq_putAt, hb,
        List.length_nil, Nat.zero_add]
    · simp only [place, Placement.width?, appendSeparated_eq_putAt, if_neg hb]

/-- Column placement is a last-writer-wins overlay. From an empty line, placements leave it as
long as the furthest of them reaches, each position holding the character of the last one
covering it or a blank; two placements whose columns do not meet commute on any line; and a
`NEXT` placement goes right after the line, a `NEXTWORD` or `NEXTFIELD` one after a pad or
separator character when the line is not empty. -/
theorem placements_overlay :
    (∀ ps : List (Nat × List Char), (putAll {} ps).chars.length = extent ps ∧
      ∀ i (hi : i < (putAll {} ps).chars.length),
        (putAll {} ps).chars[i] = (lastCover ps i).getD ' ') ∧
    (∀ (b : Buffer) (c₁ c₂ : Nat) (t₁ t₂ : List Char),
      c₁ - 1 + t₁.length ≤ c₂ - 1 ∨ c₂ - 1 + t₂.length ≤ c₁ - 1 →
        (b.putAt c₁ t₁).putAt c₂ t₂ = (b.putAt c₂ t₂).putAt c₁ t₁) ∧
    (∀ (b : Buffer) (w : Option Nat) (text : String) (align : Text.Align) (pad fs : Char),
      b.place (.next w) text align pad fs =
          b.place (.column (b.chars.length + 1) w) text align pad fs ∧
        b.place (.nextWord w) text align pad fs =
          (if b.chars = [] then b.place (.next w) text align pad fs
          else (b.append [pad]).place (.column (b.chars.length + 2) w) text align pad fs) ∧
        b.place (.nextField w) text align pad fs =
          (if b.chars = [] then b.place (.next w) text align pad fs
          else (b.append [fs]).place (.column (b.chars.length + 2) w) text align pad fs)) :=
  ⟨putAll_overlay, fun b _ _ _ _ h => putAt_comm b h,
    fun b w text align pad fs => ⟨place_next b w text align pad fs, place_nextSeparated b w text align pad fs⟩⟩

/-- Text at columns 1 and 4 can be placed in either order. -/
theorem placements_overlay_apart :
    (1 - 1 + "ab".toList.length ≤ 4 - 1 ∨ 4 - 1 + "cd".toList.length ≤ 1 - 1) ∧
      ((({} : Buffer).putAt 1 "ab".toList).putAt 4 "cd".toList =
        (({} : Buffer).putAt 4 "cd".toList).putAt 1 "ab".toList) :=
  ⟨by decide, placements_overlay.2.1 {} 1 4 "ab".toList "cd".toList (by decide)⟩

end ColumnSpec.Buffer
