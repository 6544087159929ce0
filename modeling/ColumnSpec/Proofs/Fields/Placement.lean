import ColumnSpec.Proofs.Checked.Basic
import ColumnSpec.Proofs.Fields.Built
/-!
# Placements stay within the line

The compiler checks each placement's reach against `maxLineWidth`, so every placement of a
compiled program lies within the line (`placements_within_line`).
-/
namespace ColumnSpec

/-- A placement within the widest line: a column from 1 whose last column, its start plus
its width less one or its start alone, is at most `maxLineWidth`; a width of text added
after the line at most `maxLineWidth`. -/
def Placement.WithinLine : Placement → Prop
  | .column col none => 1 ≤ col ∧ col ≤ maxLineWidth
  | .column col (some w) => 1 ≤ col ∧ col + w - 1 ≤ maxLineWidth
  | .next w | .nextWord w | .nextField w => ∀ n ∈ w, n ≤ maxLineWidth
  | .discard => True

namespace Script

theorem placementOf_range {r : Range} {p : Placement} (h : placementOf (.range r) = some p) :
    ∃ w, p = .column r.first.toNat w ∧ 0 < r.first ∧
      ∀ n ∈ w, r.first ≤ r.last ∧ n = (r.last - r.first + 1).toNat := by
  simp only [placementOf] at h
  split at h
  · next hs =>
    cases h
    simp only [Bool.and_eq_true, decide_eq_true_eq] at hs
    exact ⟨none, rfl, hs.2, fun _ hn => by cases hn⟩
  · obtain ⟨n, hw, rfl⟩ := Option.map_eq_some_iff.mp h
    unfold Range.width? at hw
    split at hw
    · next hb =>
      cases hw
      simp only [Bool.and_eq_true, decide_eq_true_eq] at hb
      exact ⟨some _, rfl, hb.1, fun _ hn => by cases hn; exact ⟨hb.2, rfl⟩⟩
    · cases hw

theorem withinLine_of_reach {k : TokenKind} {p : Placement} (hk : placementOf k = some p)
    (hr : p.reach ≤ maxLineWidth) : p.WithinLine := by
  cases k
  case range r =>
    obtain ⟨w, rfl, hpos, -⟩ := placementOf_range hk
    cases w with
    | none =>
      simp only [Placement.reach, Option.getD_none] at hr
      exact ⟨by omega, by omega⟩
    | some n =>
      simp only [Placement.reach, Option.getD_some] at hr
      exact ⟨by omega, hr⟩
  all_goals simp only [placementOf, reduceCtorEq] at hk
  case period => cases hk; trivial
  all_goals
    cases hk
    intro n hn
    simp only [Placement.reach, Placement.width?, Option.mem_def] at hr hn
    rw [hn] at hr
    exact hr

theorem placement_within {P : Builder → Prop} (ts : List Token) :
    Triple P (placement ts) fun x b => P b ∧ x.1.WithinLine := by
  cases ts with
  | nil => exact triple_failAtEnd _
  | cons t r =>
    simp only [placement]
    split
    · exact triple_failAt _ _
    · next p hp =>
      split
      · exact triple_failAt _ _
      · next hr => exact Triple.pure fun _ hb => ⟨hb, withinLine_of_reach hp (Nat.le_of_not_lt hr)⟩

theorem placement_beyond {t : Token} {p : Placement} (hk : placementOf t.kind = some p)
    (hr : maxLineWidth < p.reach) (rest : List Token) (b : Builder) :
    (placement (t :: rest)).run b =
      .error ⟨some t.line, "Output placement " ++ t.describe ++ " is beyond column 1048576"⟩ := by
  have hwidth : " is beyond column " ++ toString maxLineWidth = " is beyond column 1048576" := by
    decide
  simp only [placement, hk, if_pos hr, String.append_assoc, hwidth]
  rfl

theorem dataField_within (ts : List Token) :
    Triple (fun _ => True) (dataField ts) fun x _ => x.1.placement.WithinLine := by
  unfold dataField
  split
  refine Triple.bind (Q := fun _ _ => True) (fun _ _ _ _ _ => trivial) fun x => ?_
  dsimp only
  split
  · refine Triple.bind (Q := fun _ _ => True) (fun _ _ _ _ _ => trivial) fun _ => ?_
    exact (placement_within _).bind fun y =>
      (triple_alignment (P := fun _ => True ∧ y.1.WithinLine) _ _).bind fun _ =>
        Triple.pure fun _ h => h.2
  · exact (placement_within _).bind fun y =>
      (triple_alignment (P := fun _ => True ∧ y.1.WithinLine) _ _).bind fun _ =>
        Triple.pure fun _ h => h.2

theorem compile_within {ts : List Token} {p : Program} (h : compile ts = .ok p) :
    ∀ f, Item.field f ∈ p.items → f.placement.WithinLine :=
  compile_fields (fun ts b _ _ b' hr => dataField_within ts b _ b' hr trivial) h

end Script

/-! ## Range bounds are words -/

namespace Range

theorem fitsWord_of_checkedWord {n m : Int} (h : checkedWord n = some m) : fitsWord m = true := by
  unfold checkedWord at h
  split at h
  · cases h
    assumption
  · cases h

theorem canonical?_fits {cs : List Char} {n : Int} (h : canonical? cs = some n) :
    fitsWord n = true := by
  unfold canonical? at h
  split at h
  · next m hm =>
    split at h
    · cases h
      unfold readWord? at hm
      dsimp only at hm
      split at hm
      · cases hm
      · exact fitsWord_of_checkedWord hm
    · cases h
  · cases h

theorem fromTo?_words {cs : List Char} {r : Range} (h : fromTo? cs = some r) :
    fitsWord r.first = true ∧ fitsWord r.last = true := by
  unfold fromTo? at h
  split at h
  · cases h
  · split at h
    split at h
    · simp only [Option.bind_eq_bind] at h
      obtain ⟨first, hfirst, h⟩ := Option.bind_eq_some_iff.mp h
      have hf := canonical?_fits hfirst
      split at h
      · split at h
        · cases h
          exact ⟨hf, (by decide : fitsWord 0 = true)⟩
        · cases h
      · obtain ⟨last, hlast, h⟩ := Option.bind_eq_some_iff.mp h
        split at h
        · cases h
        · cases h
          exact ⟨hf, canonical?_fits hlast⟩
    · cases h

theorem fromLength?_words {cs : List Char} {r : Range} (h : fromLength? cs = some r) :
    fitsWord r.first = true ∧ fitsWord r.last = true := by
  unfold fromLength? at h
  split at h
  split at h
  · simp only [Option.bind_eq_bind] at h
    obtain ⟨first, hfirst, h⟩ := Option.bind_eq_some_iff.mp h
    obtain ⟨len, hlen, h⟩ := Option.bind_eq_some_iff.mp h
    have hf := fitsWord_iff.mp (canonical?_fits hfirst)
    have hl := fitsWord_iff.mp (canonical?_fits hlen)
    split at h
    · cases h
    · split at h
      · cases h
      · next hfit =>
        cases h
        have hlast := fitsWord_iff.mp (by simpa using hfit)
        refine ⟨fitsWord_iff.mpr hf, fitsWord_iff.mpr ?_⟩
        -- past position zero the last bound moves up by one, and stays a word
        dsimp only [span]
        split
        · next hneg =>
          simp only [Bool.and_eq_true, decide_eq_true_eq] at hneg
          omega
        · exact hlast
  · cases h

theorem parse?_words {s : String} {r : Range} (h : parse? s = some r) :
    fitsWord r.first = true ∧ fitsWord r.last = true := by
  unfold parse? at h
  dsimp only at h
  cases hs : canonical? s.toList with
  | some n =>
    rw [hs] at h
    cases h
    exact ⟨canonical?_fits hs, canonical?_fits hs⟩
  | none =>
    rw [hs] at h
    cases ht : fromTo? s.toList with
    | some r' =>
      rw [ht] at h
      cases h
      exact fromTo?_words ht
    | none =>
      rw [ht] at h
      exact fromLength?_words h

end Range

/-! ## The placement arithmetic on words -/

namespace Checked

/-- The placement of a range token computed on words as the compiler computes it: the start
of a column is a positive signed word taken as an unsigned one, and the width of a bounded
range is its last bound less its first, plus one, a signed word taken as an unsigned one.
`none` when a step has no answer. -/
def rangePlacement (r : Range) : Option (Option Placement) :=
  if r.single && 0 < r.first then (index r.first).map fun col => some (.column col none)
  else if 0 < r.first && r.first ≤ r.last then
    (((sub r.last r.first).bind fun d => add d 1).bind index).bind fun w =>
      (index r.first).map fun col => some (.column col (some w))
  else some none

/-- The last column of a column placement on unsigned words: its start plus its width, less
one, each step checked. -/
def columnReach (col : Nat) (w : Option Nat) : Option Nat :=
  (uadd col (w.getD 1)).bind fun s => usub s 1

theorem rangePlacement_eq {r : Range} (hf : fitsWord r.first = true) (hl : fitsWord r.last = true) :
    rangePlacement r = some (Script.placementOf (.range r)) := by
  have hf' := fitsWord_iff.mp hf
  have hl' := fitsWord_iff.mp hl
  unfold rangePlacement
  simp only [Script.placementOf]
  split
  · next hs =>
    simp only [Bool.and_eq_true, decide_eq_true_eq] at hs
    rw [index_of_nonneg (by omega)]
    rfl
  · split
    · next hb =>
      simp only [Bool.and_eq_true, decide_eq_true_eq] at hb
      rw [sub_of_bounds (by omega) (by omega), Option.bind_some, add_of_bounds (by omega) (by omega),
        Option.bind_some, index_of_nonneg (by omega), Option.bind_some, index_of_nonneg (by omega)]
      simp [Range.width?, hb]
    · next hb =>
      simp only [Bool.and_eq_true, decide_eq_true_eq] at hb
      simp [Range.width?, hb]

theorem columnReach_eq {r : Range} (hf : fitsWord r.first = true) (hl : fitsWord r.last = true)
    {col : Nat} {w : Option Nat} (h : Script.placementOf (.range r) = some (.column col w)) :
    columnReach col w = some (Placement.column col w).reach := by
  have hf' := fitsWord_iff.mp hf
  have hl' := fitsWord_iff.mp hl
  -- the start and the width are each below 2^63
  have hbound : 1 ≤ col ∧ col + w.getD 1 < 2 ^ 64 := by
    obtain ⟨w', he, hpos, hw⟩ := Script.placementOf_range h
    cases he
    cases w with
    | none =>
      simp only [Option.getD_none]
      omega
    | some n =>
      obtain ⟨hle, rfl⟩ := hw n rfl
      simp only [Option.getD_some]
      omega
  rw [columnReach, uadd_of_lt hbound.2, Option.bind_some, usub_of_le (by omega)]
  rfl

end Checked

namespace Script

/-- Placements stay within the line: every data field of a compiled program is placed
within it; a placement token that reaches past column 2^20 is refused, the error naming it;
the bounds of every range read are signed words; and on such bounds the compiler's width and
reach arithmetic answers in its words, with the placement and reach it checks. -/
theorem placements_within_line :
    (∀ (ts : List Token) (p : Program), compile ts = .ok p →
      ∀ f, Item.field f ∈ p.items → f.placement.WithinLine) ∧
    (∀ (t : Token) (p : Placement), placementOf t.kind = some p → maxLineWidth < p.reach →
      ∀ (rest : List Token) (b : Builder), (placement (t :: rest)).run b =
        .error ⟨some t.line, "Output placement " ++ t.describe ++ " is beyond column 1048576"⟩) ∧
    (∀ (s : String) (r : Range), Range.parse? s = some r →
      fitsWord r.first = true ∧ fitsWord r.last = true) ∧
    (∀ r : Range, fitsWord r.first = true → fitsWord r.last = true →
      Checked.rangePlacement r = some (placementOf (.range r)) ∧
      ∀ col w, placementOf (.range r) = some (.column col w) →
        Checked.columnReach col w = some (Placement.column col w).reach) :=
  ⟨fun _ _ h => compile_within h, fun _ _ hk hr => placement_beyond hk hr,
    fun _ _ h => Range.parse?_words h,
    fun _ hf hl => ⟨Checked.rangePlacement_eq hf hl, fun _ _ h => Checked.columnReach_eq hf hl h⟩⟩

/-- Column 2^20 with a width of two is refused; the widest range from column 1 is read
without an overflow. -/
theorem placements_within_line_extremes :
    (placement [⟨.range ⟨1048576, 1048577, false⟩, "1048576.2", 2, 1⟩]).run {} =
      .error ⟨some 1, "Output placement " ++
        Token.describe ⟨.range ⟨1048576, 1048577, false⟩, "1048576.2", 2, 1⟩ ++
        " is beyond column 1048576"⟩ ∧
    Checked.rangePlacement ⟨1, 2 ^ 63 - 1, false⟩ =
      some (placementOf (.range ⟨1, 2 ^ 63 - 1, false⟩)) ∧
    Checked.columnReach 1 (some (2 ^ 63 - 1)) = some (2 ^ 63 - 1) := by
  have hbeyond := placements_within_line.2.1 ⟨.range ⟨1048576, 1048577, false⟩, "1048576.2", 2, 1⟩
    (.column 1048576 (some 2)) rfl (by decide) [] {}
  have hwide := placements_within_line.2.2.2 ⟨1, 2 ^ 63 - 1, false⟩ (by decide) (by decide)
  refine ⟨hbeyond, hwide.1, ?_⟩
  exact hwide.2 1 (some (2 ^ 63 - 1)) rfl

end Script

end ColumnSpec
