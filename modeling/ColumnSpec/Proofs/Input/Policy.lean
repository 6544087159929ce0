import ColumnSpec.Proofs.Input.Stream
import ColumnSpec.Expr.Eval
import Mathlib.Data.List.Find
/-!
# Stop policies

After `k` cycles a fresh stream of `n` lines is exhausted exactly when `n < k`; so the
cycles that `advanceCycle` lets run are counted by the stop policy
(`advanceCycle_stopPolicy`).
-/
namespace ColumnSpec

namespace InputStream

/-- A stream that has not been advanced: nothing read and nothing pushed back. -/
def Fresh (s : InputStream) : Prop :=
  s.state = .unstarted ∧ s.pushback = none ∧ s.recordsRead = 0

/-- A stream advanced `k` times. -/
def advanceTimes (k : Nat) (s : InputStream) : InputStream :=
  Nat.repeat (fun t => t.advance.2) k s

@[simp] theorem advanceTimes_zero (s : InputStream) : advanceTimes 0 s = s := rfl

theorem id_advanceTimes (k : Nat) (s : InputStream) : (advanceTimes k s).id = s.id := by
  induction k with
  | zero => rfl
  | succ k ih => exact (id_advance _).trans ih

theorem advance_counted {lines : List String} {t : InputStream} {k : Nat}
    (hpb : t.pushback = none) (ht : Tracks lines t) (hr : t.recordsRead = min k lines.length)
    (hex : t.state = .exhausted ↔ lines.length < k) :
    t.advance.2.pushback = none ∧ Tracks lines t.advance.2 ∧
      t.advance.2.recordsRead = min (k + 1) lines.length ∧
      (t.advance.2.state = .exhausted ↔ lines.length < k + 1) := by
  by_cases hst : t.state = .exhausted
  · have hk : lines.length < k := hex.mp hst
    rw [advance_exhausted hpb hst]
    refine ⟨hpb, ht, ?_, ?_⟩
    · dsimp only; omega
    · dsimp only; simp only [hst, true_iff]; omega
  · have hk : k ≤ lines.length := by
      have : ¬ lines.length < k := fun h => hst (hex.mpr h)
      omega
    rcases Nat.lt_or_ge t.recordsRead lines.length with hlt | hge
    · rw [advance_next ht hpb hlt]
      exact ⟨hpb, (advance_next ht hpb hlt) ▸ ht.advance, by simp only; omega, by simp; omega⟩
    · have hn : t.recordsRead = lines.length := by omega
      rw [advance_last ht hpb hn hst]
      exact ⟨hpb, (advance_last ht hpb hn hst) ▸ ht.advance, by simp only; omega, by simp; omega⟩

theorem advanceTimes_fresh {s : InputStream} (hs : s.Fresh) (k : Nat) :
    (advanceTimes k s).pushback = none ∧ Tracks s.pending (advanceTimes k s) ∧
      (advanceTimes k s).recordsRead = min k s.pending.length ∧
      ((advanceTimes k s).state = .exhausted ↔ s.pending.length < k) := by
  obtain ⟨hst, hpb, hr⟩ := hs
  induction k with
  | zero =>
    refine ⟨hpb, ⟨by simp [advanceTimes, Nat.repeat, hr], by simp [advanceTimes, Nat.repeat, hr],
      by simp [advanceTimes, Nat.repeat, hpb], by simp [advanceTimes, Nat.repeat, hst]⟩, ?_, ?_⟩
    · simp [advanceTimes, Nat.repeat, hr]
    · simp [advanceTimes, Nat.repeat, hst]
  | succ k ih =>
    obtain ⟨hpb', ht, hr', hex⟩ := ih
    exact advance_counted hpb' ht hr' hex

theorem exhausted_advanceTimes {s : InputStream} (hs : s.Fresh) (k : Nat) :
    (advanceTimes k s).exhausted = decide (s.pending.length < k) := by
  have hex := (advanceTimes_fresh hs k).2.2.2
  unfold exhausted
  by_cases h : s.pending.length < k
  · simp [hex.mpr h, h]
  · have hne : ¬ (advanceTimes k s).state = .exhausted := fun he => h (hex.mp he)
    simp [h, hne]

theorem ofBytes_fresh (id : Nat) (bytes : List Nat) : (ofBytes id bytes).Fresh :=
  ⟨rfl, rfl, rfl⟩

end InputStream

namespace Streams

open InputStream

/-- The streams after `k` calls of `advanceCycle`, whatever each answered. -/
def afterCalls (k : Nat) (ss : Streams) : Streams :=
  Nat.repeat (fun t => (advanceCycle.run t).2) k ss

theorem Step.run_eq {α : Type} (st : Step α) (ss : Streams) : st.run ss = Eval.exec st ss := rfl

/-- The streams after every one of them advanced once. -/
def advanced (ss : Streams) : Streams := { ss with inputs := ss.inputs.map fun s => s.advance.2 }

/-- The streams once the stop policy answered: a cycle it lets run is counted. -/
def counted (r : Except Fault Bool) (ss : Streams) : Streams :=
  match r with
  | .ok true => { ss with cycles := ss.cycles + 1 }
  | _ => ss

@[simp] theorem inputs_counted (r : Except Fault Bool) (ss : Streams) :
    (counted r ss).inputs = ss.inputs := by
  unfold counted
  split <;> rfl

@[simp] theorem policy_counted (r : Except Fault Bool) (ss : Streams) :
    (counted r ss).policy = ss.policy := by
  unfold counted
  split <;> rfl

theorem advanceCycle_run (ss : Streams) :
    advanceCycle.run ss = (proceed ss.advanced, counted (proceed ss.advanced) ss.advanced) := by
  rw [Step.run_eq]
  simp only [advanceCycle, advanced, Eval.exec_bind, Eval.exec_modify, Eval.exec_get]
  cases proceed { ss with inputs := ss.inputs.map fun s => s.advance.2 } with
  | error e => rfl
  | ok go => cases go <;> rfl

section Map

/-! A map of the streams that keeps their numbers and which of them ran out is invisible to
the stop policy. -/

variable {g : InputStream → InputStream}

theorem get?_map (hid : ∀ s, (g s).id = s.id) {ss ss' : Streams}
    (hin : ss'.inputs = ss.inputs.map g) (n : Nat) : ss'.get? n = (ss.get? n).map g := by
  have hp : ((fun t : InputStream => t.id == n) ∘ g) = fun t => t.id == n := by
    funext t
    simp [hid]
  simp only [get?, hin, List.find?_map, hp]

theorem record_map (hid : ∀ s, (g s).id = s.id) (hcur : ∀ s, (g s).current = s.current)
    {ss ss' : Streams} (hin : ss'.inputs = ss.inputs.map g) (hsel : ss'.selected = ss.selected) :
    ss'.record = ss.record := by
  unfold record active
  rw [hsel, get?_map hid hin]
  rcases ss.get? ss.selected with _ | s
  · rfl
  · simp only [Option.map_some]
    exact congrArg Except.ok (hcur s)

theorem active_map (hid : ∀ s, (g s).id = s.id) {ss ss' : Streams}
    (hin : ss'.inputs = ss.inputs.map g) (hsel : ss'.selected = ss.selected) :
    ss'.active = ss.active.map g := by
  unfold active
  rw [hsel, get?_map hid hin]
  rcases ss.get? ss.selected with _ | s <;> rfl

theorem askRecord_map (hid : ∀ s, (g s).id = s.id) (hcur : ∀ s, (g s).current = s.current)
    (hset : ∀ s r, g (s.setCurrent r) = (g s).setCurrent r) (c : Nat) {α : Type}
    (q : Record → α × Record) (ss : Streams) :
    (askRecord q).run { ss with inputs := ss.inputs.map g, cycles := ss.cycles + c } =
      (((askRecord q).run ss).1,
        { ((askRecord q).run ss).2 with
            inputs := ((askRecord q).run ss).2.inputs.map g,
            cycles := ((askRecord q).run ss).2.cycles + c }) := by
  have hact : ({ ss with inputs := ss.inputs.map g, cycles := ss.cycles + c } : Streams).active =
      ss.active.map g :=
    active_map hid rfl rfl
  rw [askRecord_run, askRecord_run, hact]
  rcases ss.active with e | s
  · rfl
  · simp only [Except.map, update, List.map_map, hid, hcur]
    congr 3
    funext t
    simp only [Function.comp_apply, hid]
    split
    · exact (hset s _).symm
    · rfl

theorem proceed_map (hid : ∀ s, (g s).id = s.id) (hex : ∀ s, (g s).exhausted = s.exhausted)
    {ss ss' : Streams} (hin : ss'.inputs = ss.inputs.map g) (hpol : ss'.policy = ss.policy) :
    proceed ss' = proceed ss := by
  have hexf : (InputStream.exhausted ∘ g) = InputStream.exhausted := funext hex
  unfold proceed
  rw [hpol]
  cases ss.policy with
  | primary => simp only [get?_map hid hin, Option.map_map, hexf]
  | stream n =>
    dsimp only
    rw [get?_map hid hin]
    rcases ss.get? n with _ | s
    · rfl
    · simp only [Option.map_some, hex]
  | allEof => simp only [hin, List.all_map, hexf]
  | anyEof => simp only [hin, List.any_map, hexf]
  | matchEof =>
    simp only [hin, List.all_map, List.find?_map, hexf]
    rcases ss.inputs.find? InputStream.exhausted with _ | early
    · rfl
    · simp only [Option.map_some, hid]

theorem advanceCycle_map (hid : ∀ s, (g s).id = s.id) (hex : ∀ s, (g s).exhausted = s.exhausted)
    (c : Nat) {ss : Streams} (hadv : ∀ s ∈ ss.inputs, (g s).advance = (s.advance.1, g s.advance.2)) :
    advanceCycle.run { ss with inputs := ss.inputs.map g, cycles := ss.cycles + c } =
      ((advanceCycle.run ss).1,
        { (advanceCycle.run ss).2 with
            inputs := (advanceCycle.run ss).2.inputs.map g,
            cycles := (advanceCycle.run ss).2.cycles + c }) := by
  have hl : (ss.inputs.map g).map (·.advance.2) = (ss.inputs.map (·.advance.2)).map g := by
    simp only [List.map_map]
    exact List.map_congr_left fun s hs => by simp [hadv s hs]
  have hmap : ({ ss with inputs := ss.inputs.map g, cycles := ss.cycles + c } : Streams).advanced =
      { ss.advanced with inputs := ss.advanced.inputs.map g, cycles := ss.advanced.cycles + c } := by
    simp only [advanced, hl]
  have hpr : proceed { ss.advanced with inputs := ss.advanced.inputs.map g,
                                        cycles := ss.advanced.cycles + c } =
      proceed ss.advanced := proceed_map hid hex rfl rfl
  rw [advanceCycle_run, advanceCycle_run, hmap, hpr]
  rcases proceed ss.advanced with _ | _ | _
  · rfl
  · rfl
  · simp only [counted, Nat.add_right_comm _ c 1]

end Map

/-- The streams with the selection set back and no view kept by a current record. -/
def plain (ss : Streams) : Streams :=
  { ss with selected := 1, inputs := ss.inputs.map fun t => { t with current := .ofText t.current.text } }

theorem ids_plain (ss : Streams) : ss.plain.inputs.map (·.id) = ss.inputs.map (·.id) := by
  simp [plain]

theorem advanceCycle_answer (ss : Streams) :
    (advanceCycle.run ss).1 = proceed { ss with inputs := ss.inputs.map fun s => s.advance.2 } := by
  rw [advanceCycle_run]
  rfl

theorem advanceCycle_streams (ss : Streams) :
    (advanceCycle.run ss).2.inputs = ss.inputs.map (fun s => s.advance.2) ∧
      (advanceCycle.run ss).2.policy = ss.policy := by
  rw [advanceCycle_run]
  exact ⟨inputs_counted _ _, policy_counted _ _⟩

theorem afterCalls_streams (k : Nat) (ss : Streams) :
    (ss.afterCalls k).inputs = ss.inputs.map (advanceTimes k) ∧
      (ss.afterCalls k).policy = ss.policy := by
  induction k with
  | zero => exact ⟨(List.map_id' ss.inputs).symm, rfl⟩
  | succ k ih =>
    obtain ⟨hin, hpol⟩ := advanceCycle_streams (ss.afterCalls k)
    refine ⟨?_, hpol.trans ih.2⟩
    simp only [afterCalls, Nat.repeat] at hin ih ⊢
    rw [hin, ih.1, List.map_map]
    rfl

theorem answer_afterCalls (k : Nat) (ss : Streams) :
    (advanceCycle.run (ss.afterCalls k)).1 =
      proceed { inputs := ss.inputs.map (advanceTimes (k + 1)), policy := ss.policy } := by
  obtain ⟨hin, hpol⟩ := afterCalls_streams k ss
  rw [advanceCycle_answer, hin, List.map_map]
  simp only [proceed, get?, hpol]
  rfl

theorem get?_advanced (k : Nat) (ss : Streams) (p : StopPolicy) (n : Nat) :
    ({ inputs := ss.inputs.map (advanceTimes k), policy := p } : Streams).get? n =
      (ss.get? n).map (advanceTimes k) :=
  get?_map (id_advanceTimes k) rfl n

theorem setPolicy_error_iff (ss : Streams) (p : StopPolicy) (e : Fault) :
    ss.setPolicy p = .error e ↔
      ∃ n, p = .stream n ∧ ss.contains n = false ∧ e = .unknownInputStream n := by
  cases p with
  | stream n =>
    by_cases h : ss.contains n
    · simp [setPolicy, h]
    · simp only [setPolicy, h, Bool.false_eq_true, if_false, except_throw_eq, Except.error.injEq]
      constructor
      · rintro rfl
        exact ⟨n, rfl, by simpa using h, rfl⟩
      · rintro ⟨m, hm, -, rfl⟩
        cases hm
        rfl
  | _ => simp [setPolicy]

theorem setPolicy_ok {ss ss' : Streams} {p : StopPolicy} (h : ss.setPolicy p = .ok ss') :
    ss' = { ss with policy := p } ∧ ∀ n, p = .stream n → ss.contains n := by
  cases p with
  | stream n =>
    by_cases hn : ss.contains n
    · simp [setPolicy, hn] at h
      cases h
      exact ⟨rfl, fun m hm => by cases hm; exact hn⟩
    · simp [setPolicy, hn] at h
  | _ => simp [setPolicy] at h; cases h; exact ⟨rfl, fun _ h => by cases h⟩

theorem id_le_of_find? {p : InputStream → Bool} :
    ∀ {l : List InputStream} {t : InputStream}, (l.map (·.id)).Pairwise (· < ·) →
      l.find? p = some t → ∀ u ∈ l, p u → t.id ≤ u.id
  | [], _, _, h => by simp at h
  | v :: l, t, hs, h => by
    intro u hu hpu
    simp only [List.map_cons, List.pairwise_cons, List.mem_map] at hs
    by_cases hv : p v
    · rw [List.find?_cons_of_pos hv] at h
      cases h
      rcases List.mem_cons.mp hu with rfl | hu
      · exact Nat.le_refl _
      · exact Nat.le_of_lt (hs.1 _ ⟨u, hu, rfl⟩)
    · rw [List.find?_cons_of_neg hv] at h
      rcases List.mem_cons.mp hu with rfl | hu
      · exact absurd hpu hv
      · exact id_le_of_find? hs.2 h u hu hpu

theorem mem_add_ins {s t : InputStream} :
    ∀ {l : List InputStream}, t ∈ add.ins s l → t = s ∨ t ∈ l
  | [], h => by simpa [add.ins] using h
  | v :: l, h => by
    unfold add.ins at h
    split at h
    · simpa using h
    · split at h
      · simp only [List.mem_cons] at h ⊢
        rcases h with rfl | h
        · exact Or.inl rfl
        · exact Or.inr (Or.inr h)
      · simp only [List.mem_cons] at h ⊢
        rcases h with rfl | h
        · exact Or.inr (Or.inl rfl)
        · rcases mem_add_ins h with rfl | h
          · exact Or.inl rfl
          · exact Or.inr (Or.inr h)

theorem ins_sorted (s : InputStream) :
    ∀ {l : List InputStream}, l.Pairwise (fun a b => a.id < b.id) →
      (add.ins s l).Pairwise (fun a b => a.id < b.id)
  | [], _ => by simp [add.ins]
  | v :: l, hl => by
    obtain ⟨hv, hl⟩ := List.pairwise_cons.mp hl
    unfold add.ins
    by_cases hlt : s.id < v.id
    · simp only [hlt, if_true]
      exact List.pairwise_cons.mpr ⟨fun u hu => by
        rcases List.mem_cons.mp hu with rfl | hu
        · exact hlt
        · exact Nat.lt_trans hlt (hv u hu), List.pairwise_cons.mpr ⟨hv, hl⟩⟩
    · by_cases heq : s.id = v.id
      · rw [if_neg hlt, if_pos (beq_iff_eq.mpr heq)]
        exact List.pairwise_cons.mpr ⟨fun u hu => heq ▸ hv u hu, hl⟩
      · have hgt : v.id < s.id := by omega
        have hne : (s.id == v.id) = false := by simpa using heq
        simp only [hlt, if_false, hne, Bool.false_eq_true]
        refine List.pairwise_cons.mpr ⟨fun u hu => ?_, ins_sorted s hl⟩
        rcases mem_add_ins hu with rfl | hu
        · exact hgt
        · exact hv u hu

end Streams

/-- How many cycles a stop policy runs over fresh streams: the lines of stream 1, the most
lines of any stream, the fewest (also under `matchEof`), or the lines of the given stream. -/
def StopPolicy.runs (p : StopPolicy) (ss : Streams) : Nat :=
  let count (n : Nat) := ((ss.get? n).map (·.pending.length)).getD 0
  let counts := ss.inputs.map (·.pending.length)
  match p with
  | .primary => count 1
  | .stream n => count n
  | .allEof => counts.max?.getD 0
  | .anyEof | .matchEof => counts.min?.getD 0

namespace Streams

open InputStream

theorem fewest_lines {ss : Streams} (hne : ss.inputs ≠ []) :
    (∀ s ∈ ss.inputs, StopPolicy.anyEof.runs ss ≤ s.pending.length) ∧
      ∃ s ∈ ss.inputs, s.pending.length = StopPolicy.anyEof.runs ss := by
  obtain ⟨m, hm⟩ : ∃ m, (ss.inputs.map (·.pending.length)).min? = some m :=
    Option.ne_none_iff_exists'.mp (by simpa [List.min?_eq_none_iff] using hne)
  obtain ⟨hmem, hmin⟩ := List.min?_eq_some_iff.mp hm
  simp only [StopPolicy.runs, hm, Option.getD_some]
  refine ⟨fun s hs => hmin _ (List.mem_map_of_mem hs), ?_⟩
  obtain ⟨s, hs, rfl⟩ := List.mem_map.mp hmem
  exact ⟨s, hs, rfl⟩

theorem runs_matchEof (ss : Streams) :
    StopPolicy.matchEof.runs ss = StopPolicy.anyEof.runs ss := rfl

section Fresh

variable {ss : Streams} (hfresh : ∀ s ∈ ss.inputs, s.Fresh)
include hfresh

theorem exhausted_advanced {s : InputStream} (hs : s ∈ ss.inputs) (k : Nat) :
    (advanceTimes (k + 1) s).exhausted = decide (s.pending.length ≤ k) := by
  rw [exhausted_advanceTimes (hfresh s hs)]
  simp only [decide_eq_decide]
  omega

theorem all_exhausted_iff (k : Nat) :
    (ss.inputs.map (advanceTimes (k + 1))).all InputStream.exhausted ↔
      ∀ s ∈ ss.inputs, s.pending.length ≤ k := by
  simp only [List.all_map, List.all_eq_true, Function.comp]
  exact forall₂_congr fun s hs => by simp [exhausted_advanced hfresh hs]

theorem any_exhausted_iff (k : Nat) :
    (ss.inputs.map (advanceTimes (k + 1))).any InputStream.exhausted ↔
      ∃ s ∈ ss.inputs, s.pending.length ≤ k := by
  simp only [List.any_map, List.any_eq_true, Function.comp]
  exact exists_congr fun s => and_congr_right fun hs => by simp [exhausted_advanced hfresh hs]

theorem exhausted_get? (n k : Nat) :
    (((ss.get? n).map (advanceTimes (k + 1))).map InputStream.exhausted).getD true =
      decide (((ss.get? n).map (·.pending.length)).getD 0 ≤ k) := by
  cases h : ss.get? n with
  | none => simp
  | some s => simp [exhausted_advanced hfresh (List.mem_of_find?_eq_some h)]

theorem answer_primary (k : Nat) :
    proceed { inputs := ss.inputs.map (advanceTimes (k + 1)), policy := .primary } =
      .ok (decide (k < StopPolicy.primary.runs ss)) := by
  simp only [proceed, get?_advanced, Option.map_map]
  rw [← Option.map_map, exhausted_get? hfresh]
  simp only [← decide_not, Nat.not_le, except_pure_eq]
  rfl

theorem answer_stream {n : Nat} (hn : ss.contains n) (k : Nat) :
    proceed { inputs := ss.inputs.map (advanceTimes (k + 1)), policy := .stream n } =
      .ok (decide (k < (StopPolicy.stream n).runs ss)) := by
  obtain ⟨s, hs⟩ := Option.isSome_iff_exists.mp hn
  simp only [proceed, get?_advanced, hs, Option.map_some, StopPolicy.runs, Option.getD_some]
  rw [exhausted_advanced hfresh (List.mem_of_find?_eq_some hs)]
  simp only [← decide_not, Nat.not_le, except_pure_eq]

theorem answer_allEof (hne : ss.inputs ≠ []) (k : Nat) :
    proceed { inputs := ss.inputs.map (advanceTimes (k + 1)), policy := .allEof } =
      .ok (decide (k < StopPolicy.allEof.runs ss)) := by
  obtain ⟨M, hM⟩ : ∃ M, (ss.inputs.map (·.pending.length)).max? = some M :=
    Option.ne_none_iff_exists'.mp (by simpa [List.max?_eq_none_iff] using hne)
  have hle : M ≤ k ↔ ∀ s ∈ ss.inputs, s.pending.length ≤ k := by
    rw [List.max?_le_iff hM]
    simp
  simp only [proceed, StopPolicy.runs, hM, Option.getD_some]
  by_cases hk : M ≤ k
  · simp [(all_exhausted_iff hfresh k).mpr (hle.mp hk), Nat.not_lt.mpr hk]
  · have : ¬ (ss.inputs.map (advanceTimes (k + 1))).all InputStream.exhausted :=
      fun h => hk (hle.mpr ((all_exhausted_iff hfresh k).mp h))
    simp [this, Nat.lt_of_not_ge hk]

theorem answer_anyEof (hne : ss.inputs ≠ []) (k : Nat) :
    proceed { inputs := ss.inputs.map (advanceTimes (k + 1)), policy := .anyEof } =
      .ok (decide (k < StopPolicy.anyEof.runs ss)) := by
  obtain ⟨hmin, s₀, hs₀, heq⟩ := fewest_lines hne
  have hle : StopPolicy.anyEof.runs ss ≤ k ↔ ∃ s ∈ ss.inputs, s.pending.length ≤ k :=
    ⟨fun h => ⟨s₀, hs₀, heq ▸ h⟩, fun ⟨s, hs, h⟩ => Nat.le_trans (hmin s hs) h⟩
  simp only [proceed]
  by_cases hk : StopPolicy.anyEof.runs ss ≤ k
  · simp [(any_exhausted_iff hfresh k).mpr (hle.mp hk), Nat.not_lt.mpr hk]
  · have : ¬ (ss.inputs.map (advanceTimes (k + 1))).any InputStream.exhausted :=
      fun h => hk (hle.mpr ((any_exhausted_iff hfresh k).mp h))
    simp [this, Nat.lt_of_not_ge hk]

theorem answer_matchEof_before (hne : ss.inputs ≠ []) {k : Nat}
    (hk : k < StopPolicy.matchEof.runs ss) :
    proceed { inputs := ss.inputs.map (advanceTimes (k + 1)), policy := .matchEof } = .ok true := by
  obtain ⟨hmin, s₀, hs₀, -⟩ := fewest_lines hne
  rw [runs_matchEof] at hk
  have hnone : ¬ ∃ s ∈ ss.inputs, s.pending.length ≤ k :=
    fun ⟨s, hs, h⟩ => Nat.lt_irrefl _ (Nat.lt_of_lt_of_le hk (Nat.le_trans (hmin s hs) h))
  have hall : ¬ (ss.inputs.map (advanceTimes (k + 1))).all InputStream.exhausted :=
    fun h => hnone ⟨s₀, hs₀, (all_exhausted_iff hfresh k).mp h s₀ hs₀⟩
  have hfind : (ss.inputs.map (advanceTimes (k + 1))).find? InputStream.exhausted = none := by
    rw [List.find?_eq_none]
    intro t ht hex
    obtain ⟨s, hs, rfl⟩ := List.mem_map.mp ht
    exact hnone ⟨s, hs, by simpa [exhausted_advanced hfresh hs] using hex⟩
  simp only [proceed, hall, hfind, Bool.false_eq_true, if_false, except_pure_eq]

theorem answer_matchEof_even (hne : ss.inputs ≠ [])
    (heven : ∀ s ∈ ss.inputs, s.pending.length = StopPolicy.matchEof.runs ss) (k : Nat) :
    proceed { inputs := ss.inputs.map (advanceTimes (k + 1)), policy := .matchEof } =
      .ok (decide (k < StopPolicy.matchEof.runs ss)) := by
  by_cases hk : k < StopPolicy.matchEof.runs ss
  · simp [answer_matchEof_before hfresh hne hk, hk]
  · have hall : (ss.inputs.map (advanceTimes (k + 1))).all InputStream.exhausted :=
      (all_exhausted_iff hfresh k).mpr fun s hs => by rw [heven s hs]; omega
    simp [proceed, hall, hk]

theorem answer_matchEof_mismatch (hne : ss.inputs ≠ [])
    (hsorted : (ss.inputs.map (·.id)).Pairwise (· < ·))
    (huneven : ∃ s ∈ ss.inputs, s.pending.length ≠ StopPolicy.matchEof.runs ss) :
    ∃ t ∈ ss.inputs, t.pending.length = StopPolicy.matchEof.runs ss ∧
      (∀ u ∈ ss.inputs, u.pending.length = StopPolicy.matchEof.runs ss → t.id ≤ u.id) ∧
      proceed
        { inputs := ss.inputs.map (advanceTimes (StopPolicy.matchEof.runs ss + 1)), policy := .matchEof } =
        .error (.streamMismatch t.id) := by
  obtain ⟨hmin, s₀, hs₀, heq⟩ := fewest_lines hne
  rw [runs_matchEof] at huneven ⊢
  -- at the fewest lines exactly the streams of that many lines are exhausted
  have hex : ∀ s ∈ ss.inputs, (advanceTimes (StopPolicy.anyEof.runs ss + 1) s).exhausted =
      decide (s.pending.length = StopPolicy.anyEof.runs ss) := by
    intro s hs
    rw [exhausted_advanced hfresh hs]
    have := hmin s hs
    simp only [decide_eq_decide]
    omega
  obtain ⟨s₁, hs₁, hne₁⟩ := huneven
  have hall : ¬ (ss.inputs.map (advanceTimes (StopPolicy.anyEof.runs ss + 1))).all
      InputStream.exhausted := by
    intro h
    have := (all_exhausted_iff hfresh _).mp h s₁ hs₁
    have := hmin s₁ hs₁
    omega
  have hfound : (ss.inputs.find? fun s => decide (s.pending.length = StopPolicy.anyEof.runs ss)).isSome :=
    List.find?_isSome.mpr ⟨s₀, hs₀, by simpa using heq⟩
  obtain ⟨t, ht⟩ := Option.isSome_iff_exists.mp hfound
  -- the first exhausted stream is the first with the fewest lines
  have hfirst : (ss.inputs.map (advanceTimes (StopPolicy.anyEof.runs ss + 1))).find?
      InputStream.exhausted = some (advanceTimes (StopPolicy.anyEof.runs ss + 1) t) := by
    have hsame : ss.inputs.find? (InputStream.exhausted ∘ advanceTimes (StopPolicy.anyEof.runs ss + 1)) =
        ss.inputs.find? fun s => decide (s.pending.length = StopPolicy.anyEof.runs ss) :=
      List.find?_congr fun s hs => hex s hs
    rw [List.find?_map, hsame, ht, Option.map_some]
  refine ⟨t, List.mem_of_find?_eq_some ht, by simpa using List.find?_some ht,
    fun u hu hlen => id_le_of_find? hsorted ht u hu (by simpa using hlen), ?_⟩
  simp only [proceed, hall, Bool.false_eq_true, if_false, hfirst, id_advanceTimes,
    except_throw_eq]

end Fresh

/-- Over fresh streams numbered in ascending order, stream 1 among them: a policy is refused
exactly when it names a missing stream; once set, the calls of `advanceCycle` answer `true`
`p.runs ss` times and `false` after, unless the policy is `matchEof` and the streams differ in
length, where the call after the fewest lines fails naming the lowest-numbered shortest
stream. -/
theorem advanceCycle_stopPolicy {ss : Streams} (hfresh : ∀ s ∈ ss.inputs, s.Fresh)
    (hsorted : (ss.inputs.map (·.id)).Pairwise (· < ·)) (h1 : ss.contains 1) (p : StopPolicy) :
    (∀ e, ss.setPolicy p = .error e ↔
      ∃ n, p = .stream n ∧ ss.contains n = false ∧ e = .unknownInputStream n) ∧
    ∀ ss', ss.setPolicy p = .ok ss' →
      ((p ≠ .matchEof ∨ ∀ s ∈ ss.inputs, s.pending.length = p.runs ss) →
        ∀ k, (advanceCycle.run (ss'.afterCalls k)).1 = .ok (decide (k < p.runs ss))) ∧
      (p = .matchEof → (∃ s ∈ ss.inputs, s.pending.length ≠ p.runs ss) →
        (∀ k < p.runs ss, (advanceCycle.run (ss'.afterCalls k)).1 = .ok true) ∧
        ∃ t ∈ ss.inputs, t.pending.length = p.runs ss ∧
          (∀ u ∈ ss.inputs, u.pending.length = p.runs ss → t.id ≤ u.id) ∧
          (advanceCycle.run (ss'.afterCalls (p.runs ss))).1 = .error (.streamMismatch t.id)) := by
  have hne : ss.inputs ≠ [] := by
    intro h
    simp [contains, get?, h] at h1
  refine ⟨setPolicy_error_iff ss p, fun ss' hset => ?_⟩
  obtain ⟨rfl, hstream⟩ := setPolicy_ok hset
  -- every call reads the streams as configured, each advanced once per call so far
  have hcall : ∀ k, (advanceCycle.run (({ ss with policy := p } : Streams).afterCalls k)).1 =
      proceed { inputs := ss.inputs.map (advanceTimes (k + 1)), policy := p } :=
    fun k => answer_afterCalls k _
  refine ⟨fun heven k => ?_, fun hp huneven => ?_⟩
  · rw [hcall]
    cases p with
    | primary => exact answer_primary hfresh k
    | stream n => exact answer_stream hfresh (hstream n rfl) k
    | allEof => exact answer_allEof hfresh hne k
    | anyEof => exact answer_anyEof hfresh hne k
    | matchEof => exact answer_matchEof_even hfresh hne (heven.resolve_left (absurd rfl)) k
  · subst hp
    refine ⟨fun k hk => (hcall k).trans (answer_matchEof_before hfresh hne hk), ?_⟩
    obtain ⟨t, ht, hlen, hleast, hmis⟩ := answer_matchEof_mismatch hfresh hne hsorted huneven
    exact ⟨t, ht, hlen, hleast, (hcall _).trans hmis⟩

/-- Two streams of two lines and one, run while all last: the third call is the first to
answer `false`. -/
theorem advanceCycle_allEof_twoStreams :
    (advanceCycle.run (({ inputs := [{ id := 1, pending := ["a", "b"] },
      { id := 2, pending := ["c"] }], policy := .allEof } : Streams).afterCalls 1)).1 = .ok true ∧
    (advanceCycle.run (({ inputs := [{ id := 1, pending := ["a", "b"] },
      { id := 2, pending := ["c"] }], policy := .allEof } : Streams).afterCalls 2)).1 = .ok false := by
  have h := (@advanceCycle_stopPolicy
    { inputs := [{ id := 1, pending := ["a", "b"] }, { id := 2, pending := ["c"] }] }
    (by simp [InputStream.Fresh]) (by decide) (by decide) .allEof).2 _ rfl
  exact ⟨h.1 (Or.inl (by decide)) 1, h.1 (Or.inl (by decide)) 2⟩

end Streams

end ColumnSpec
