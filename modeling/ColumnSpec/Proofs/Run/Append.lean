import ColumnSpec.Proofs.Run.Shift
import ColumnSpec.Proofs.Input.Policy
/-!
# Recordwise runs over joined inputs

A recordwise program over `A ++ B`, with `A` ending at a line end, runs as over `A`
followed by `B` (`run_append`), by the two shifts of `Proofs/Run/Shift`.
-/
namespace ColumnSpec

namespace InputStream

/-- The stream with the lines `L` to come after its own. -/
def extend (L : List String) (s : InputStream) : InputStream :=
  { s with pending := s.pending ++ L }

/-- The stream counted as if `k` more records had been read before. -/
def afterRecords (k : Nat) (s : InputStream) : InputStream :=
  { s with recordsRead := s.recordsRead + k }

theorem advance_afterRecords (k : Nat) (s : InputStream) :
    (s.afterRecords k).advance = (s.advance.1, s.advance.2.afterRecords k) := by
  obtain ⟨id, pending, state, current, pushback, read⟩ := s
  cases pushback with
  | some r => rfl
  | none =>
    by_cases hst : state = .exhausted
    · subst hst
      rfl
    · cases pending with
      | nil => simp [advance, afterRecords, hst]
      | cons l rest => simp [advance, afterRecords, hst, Nat.add_right_comm read k 1]

theorem advance_extend (L : List String) {s : InputStream}
    (h : s.pushback = none → s.exhausted = false → s.pending ≠ []) :
    (s.extend L).advance = (s.advance.1, s.advance.2.extend L) := by
  obtain ⟨id, pending, state, current, pushback, read⟩ := s
  cases pushback with
  | some r => rfl
  | none =>
    cases state with
    | exhausted => rfl
    | unstarted | positioned =>
      cases pending with
      | nil => exact absurd rfl (h rfl rfl)
      | cons l rest => rfl

theorem advance_extend_seam (L : List String) {s : InputStream} (hpb : s.pushback = none)
    (hex : s.exhausted = false) (hend : s.pending = []) :
    (s.extend L).advance =
      (({ id := s.id, pending := L } : InputStream).advance.1,
        ({ id := s.id, pending := L } : InputStream).advance.2.afterRecords s.recordsRead) := by
  obtain ⟨id, pending, state, current, pushback, read⟩ := s
  subst hpb hend
  cases state with
  | exhausted => simp [InputStream.exhausted] at hex
  | unstarted | positioned =>
    cases L with
    | nil => simp [advance, extend, afterRecords]
    | cons l rest =>
      simp [advance, extend, afterRecords]
      omega

theorem exhausted_advance_live {s : InputStream} (hpb : s.pushback = none)
    (hex : s.exhausted = false) : s.advance.2.exhausted = s.pending.isEmpty := by
  obtain ⟨id, pending, state, current, pushback, read⟩ := s
  subst hpb
  cases state with
  | exhausted => simp [InputStream.exhausted] at hex
  | unstarted | positioned => cases pending <;> rfl

theorem pushback_advance_none {s : InputStream} (hpb : s.pushback = none) :
    s.advance.2.pushback = none := by
  obtain ⟨id, pending, state, current, pushback, read⟩ := s
  subst hpb
  cases state <;> cases pending <;> rfl

end InputStream

namespace Streams

open InputStream

theorem proceed_single {ss : Streams} {j : InputStream} (hin : ss.inputs = [j]) (hid : j.id = 1)
    (hpol : ∀ n, ss.policy = .stream n → n = 1) : proceed ss = .ok !j.exhausted := by
  have hget : ss.get? 1 = some j := by simp [get?, hin, hid]
  unfold proceed
  cases h : ss.policy with
  | primary => simp [hget]
  | stream n =>
    obtain rfl := hpol n h
    simp [hget]
  | allEof => simp [hin]
  | anyEof => simp [hin]
  | matchEof => cases hj : j.exhausted <;> simp [hin, hj]

theorem advanceCycle_single {ss : Streams} {j : InputStream} (hin : ss.inputs = [j])
    (hid : j.id = 1) (hpol : ∀ n, ss.policy = .stream n → n = 1) :
    (advanceCycle.run ss).1 = .ok !j.advance.2.exhausted ∧
      (advanceCycle.run ss).2.inputs = [j.advance.2] ∧
      (advanceCycle.run ss).2.policy = ss.policy := by
  have hadv : ss.advanced.inputs = [j.advance.2] := by simp [advanced, hin]
  rw [advanceCycle_run, proceed_single hadv ((id_advance j).trans hid) hpol]
  exact ⟨rfl, (inputs_counted _ _).trans hadv, policy_counted _ _⟩

theorem advanceCycle_seam (L : List String) {ss fresh : Streams} {i : InputStream}
    (hid : i.id = 1) (hpb : i.pushback = none) (hex : i.exhausted = false) (hend : i.pending = [])
    (hfresh : fresh = { inputs := [{ id := 1, pending := L }], policy := ss.policy }) :
    advanceCycle.run { ss with inputs := [i.extend L] } =
      ((advanceCycle.run fresh).1,
        { (advanceCycle.run fresh).2 with
          inputs := (advanceCycle.run fresh).2.inputs.map (afterRecords i.recordsRead),
          cycles := (advanceCycle.run fresh).2.cycles + ss.cycles,
          selected := ss.selected }) := by
  have hseam := advance_extend_seam L hpb hex hend
  rw [hid] at hseam
  have hmap : ({ ss with inputs := [i.extend L] } : Streams).advanced =
      { fresh.advanced with
        inputs := fresh.advanced.inputs.map (afterRecords i.recordsRead),
        cycles := fresh.advanced.cycles + ss.cycles,
        selected := ss.selected } := by
    subst hfresh
    simp only [advanced, List.map_cons, List.map_nil, hseam, Nat.zero_add]
  have hpr : proceed ({ ss with inputs := [i.extend L] } : Streams).advanced =
      proceed fresh.advanced := by
    rw [hmap]
    exact proceed_map (g := afterRecords i.recordsRead) (fun _ => rfl) (fun _ => rfl) rfl rfl
  rw [advanceCycle_run, advanceCycle_run, hpr, hmap]
  rcases proceed fresh.advanced with _ | _ | _
  · rfl
  · rfl
  · simp only [counted, Nat.add_right_comm _ ss.cycles 1]

end Streams

namespace Outputs

/-- Outputs before anything was written: no lines anywhere, no buffers, stream 1 active, and
each output stream once. -/
structure Blank (o : Outputs) : Prop where
  sinks : ∀ q ∈ o.sinks, q.2 = []
  nodup : (o.sinks.map (·.1)).Nodup
  errLines : o.errLines = []
  buffers : o.buffers = []
  active : o.active = .stream 1
  lines : o.lines = 0

theorem mem_withStreams_ins {n : Nat} {q : Nat × List String} :
    ∀ {l : List (Nat × List String)}, q ∈ withStreams.ins n l → q = (n, []) ∨ q ∈ l
  | [], h => by simpa [withStreams.ins] using h
  | (m, t) :: l, h => by
    unfold withStreams.ins at h
    split at h
    · simpa using h
    · split at h
      · exact Or.inr h
      · simp only [List.mem_cons] at h ⊢
        rcases h with rfl | h
        · exact Or.inr (Or.inl rfl)
        · rcases mem_withStreams_ins h with rfl | h
          · exact Or.inl rfl
          · exact Or.inr (Or.inr h)

theorem withStreams_ins_sorted (n : Nat) :
    ∀ {l : List (Nat × List String)}, l.Pairwise (fun a b => a.1 < b.1) →
      (withStreams.ins n l).Pairwise (fun a b => a.1 < b.1)
  | [], _ => by simp [withStreams.ins]
  | (m, t) :: l, hl => by
    obtain ⟨hv, hl⟩ := List.pairwise_cons.mp hl
    unfold withStreams.ins
    by_cases hlt : n < m
    · simp only [hlt, if_true]
      exact List.pairwise_cons.mpr ⟨fun u hu => by
        rcases List.mem_cons.mp hu with rfl | hu
        · exact hlt
        · exact Nat.lt_trans hlt (hv u hu), List.pairwise_cons.mpr ⟨hv, hl⟩⟩
    · by_cases heq : n = m
      · rw [if_neg hlt, if_pos (beq_iff_eq.mpr heq)]
        exact List.pairwise_cons.mpr ⟨hv, hl⟩
      · have hgt : m < n := by omega
        have hne : (n == m) = false := by simpa using heq
        simp only [hlt, if_false, hne, Bool.false_eq_true]
        refine List.pairwise_cons.mpr ⟨fun u hu => ?_, withStreams_ins_sorted n hl⟩
        rcases mem_withStreams_ins hu with rfl | hu
        · exact hgt
        · exact hv u hu

theorem withStreams_blank (extra : List Nat) : (withStreams extra).Blank := by
  -- every stream added is empty and the numbers stay strictly ascending
  have hfold : ∀ (ns : List Nat) (l : List (Nat × List String)), (∀ q ∈ l, q.2 = []) →
      l.Pairwise (fun a b => a.1 < b.1) →
      (∀ q ∈ ns.foldl (fun s n => withStreams.ins n s) l, q.2 = []) ∧
        (ns.foldl (fun s n => withStreams.ins n s) l).Pairwise (fun a b => a.1 < b.1) := by
    intro ns
    induction ns with
    | nil => exact fun l he hs => ⟨he, hs⟩
    | cons n ns ih =>
      intro l he hs
      refine ih _ (fun q hq => ?_) (withStreams_ins_sorted n hs)
      rcases mem_withStreams_ins hq with rfl | hq
      · rfl
      · exact he q hq
  obtain ⟨hempty, hsorted⟩ := hfold extra [(1, [])] (by simp) (by simp)
  exact ⟨hempty, List.pairwise_map.mpr (hsorted.imp Nat.ne_of_lt), rfl, rfl, rfl, rfl⟩

theorem map_lookup_self :
    ∀ {l : List (Nat × List String)}, (l.map (·.1)).Nodup →
      l.map (fun q => (q.1, (l.lookup q.1).getD [])) = l
  | [], _ => rfl
  | (a, v) :: l, h => by
    obtain ⟨ha, hl⟩ := List.nodup_cons.mp h
    have htail : l.map (fun q => (q.1, (((a, v) :: l).lookup q.1).getD [])) =
        l.map (fun q => (q.1, (l.lookup q.1).getD [])) := by
      refine List.map_congr_left fun q hq => ?_
      have hne : (q.1 == a) = false := beq_false_of_ne fun he => by
        apply ha
        simp only [List.mem_map]
        exact ⟨q, hq, he⟩
      simp only [List.lookup_cons, hne]
    rw [List.map_cons, htail, map_lookup_self hl]
    simp

theorem linesText_append (a b : List String) : linesText (a ++ b) = linesText b ++ linesText a := by
  simp [linesText, List.reverse_append, String.join_append]

theorem lookup_map_append (g : Nat → List String) :
    ∀ (l : List (Nat × List String)) (n : Nat),
      (l.map fun q => (q.1, q.2 ++ g q.1)).lookup n = (l.lookup n).map (· ++ g n)
  | [], _ => rfl
  | (m, v) :: l, n => by
    by_cases h : n = m
    · subst h
      simp
    · have hne : (n == m) = false := beq_false_of_ne h
      simp only [List.map_cons, List.lookup_cons, hne]
      exact lookup_map_append g l n

theorem lookup_none_of_keys {l l' : List (Nat × List String)} (h : l.map (·.1) = l'.map (·.1))
    {n : Nat} (hn : l.lookup n = none) : l'.lookup n = none := by
  rw [List.lookup_eq_none_iff] at hn ⊢
  intro q' hq'
  have hmem : q'.1 ∈ l.map (·.1) := by
    rw [h]
    exact List.mem_map_of_mem hq'
  obtain ⟨q, hq, hkey⟩ := List.mem_map.mp hmem
  rw [← hkey]
  exact hn q hq

end Outputs

namespace Script

open InputStream

/-! ## The two shifts -/

/-- The lines `L` wait behind every stream's own; nothing else changes. -/
def Shift.extend (L : List String) : Shift where
  inputs := List.map (InputStream.extend L)
  streamCycles := 0
  sinkLines := fun _ => []
  errLines := []
  lines := 0
  cycles := 0

/-- A run that reached `s` comes first: `k` more records read on every stream, and the
cycles, lines and clock of `s`. -/
def Shift.after (s : RunState) (k : Nat) : Shift where
  inputs := List.map (afterRecords k)
  streamCycles := s.streams.cycles
  sinkLines := fun n => (s.outputs.sinks.lookup n).getD []
  errLines := s.outputs.errLines
  lines := s.outputs.lines
  cycles := s.cycle
  clockReads := fun _ => s.clockReads
  startMicros := fun _ => s.startMicros

namespace Shift

theorem extend_lawful (L : List String) : (Shift.extend L).Lawful :=
  lawful_of_map (g := InputStream.extend L) (fun _ => rfl) (fun _ => rfl) (fun _ => rfl)
    fun _ _ => rfl

theorem after_lawful (s : RunState) (k : Nat) : (Shift.after s k).Lawful :=
  lawful_of_map (g := afterRecords k) (fun _ => rfl) (fun _ => rfl) (fun _ => rfl) fun _ _ => rfl

/-- The lines to come write nothing. -/
@[simp] theorem outputsOf_extend (L : List String) (o : Outputs) :
    (Shift.extend L).outputsOf o = o := by
  cases o
  simp [outputsOf, Shift.extend]

theorem after_outputsOf {o₀ : Outputs} (h₀ : o₀.Blank) {s : RunState}
    (hbuf : s.outputs.buffers = []) (hact : s.outputs.active = .stream 1)
    (hkeys : outputKeys s.outputs = outputKeys o₀) (k : Nat) :
    (Shift.after s k).outputsOf o₀ = s.outputs := by
  have hsinks : o₀.sinks.map (fun q => (q.1, q.2 ++ (s.outputs.sinks.lookup q.1).getD [])) =
      s.outputs.sinks := calc
    _ = (outputKeys o₀).map (fun n => (n, (s.outputs.sinks.lookup n).getD [])) := by
      simp only [outputKeys, List.map_map]
      exact List.map_congr_left fun q hq => by simp [h₀.sinks q hq]
    _ = s.outputs.sinks.map (fun q => (q.1, (s.outputs.sinks.lookup q.1).getD [])) := by
      rw [← hkeys, outputKeys, List.map_map]
      rfl
    _ = s.outputs.sinks := by
      refine Outputs.map_lookup_self ?_
      show (outputKeys s.outputs).Nodup
      rw [hkeys]
      exact h₀.nodup
  simp only [outputsOf, Shift.after, hsinks, h₀.errLines, h₀.lines, h₀.buffers, h₀.active,
    List.nil_append, Nat.zero_add, ← hbuf, ← hact]

theorem after_advanceCycle (s : RunState) (k : Nat) (ss : Streams) :
    Streams.advanceCycle.run ((Shift.after s k).streamsOf ss) =
      ((Streams.advanceCycle.run ss).1,
        (Shift.after s k).streamsOf (Streams.advanceCycle.run ss).2) :=
  Streams.advanceCycle_map (g := afterRecords k) (fun _ => rfl) (fun _ => rfl) _
    fun t _ => advance_afterRecords k t

theorem extend_advanceCycle (L : List String) {ss : Streams}
    (h : ∀ t ∈ ss.inputs, t.pushback = none → t.exhausted = false → t.pending ≠ []) :
    Streams.advanceCycle.run ((Shift.extend L).streamsOf ss) =
      ((Streams.advanceCycle.run ss).1,
        (Shift.extend L).streamsOf (Streams.advanceCycle.run ss).2) :=
  Streams.advanceCycle_map (g := InputStream.extend L) (fun _ => rfl) (fun _ => rfl) 0
    fun t ht => advance_extend L (h t ht)

end Shift

/-! ## The end of a cycle -/

theorem endCycle_settles {o o' : Outputs} (h : o.endCycle = .ok o') :
    o'.buffers = [] ∧ o'.active = .stream 1 := by
  unfold Outputs.endCycle at h
  rcases hf : (o.buffers.map (·.1)).foldlM (fun (o : Outputs) t => o.flushIfDirty t) o
    with e | o₁
  · rw [hf] at h
    cases h
  · rw [hf] at h
    cases h
    exact ⟨rfl, rfl⟩

theorem finishCycle_settles {o : Outcome} {s s' : RunState}
    (h : (finishCycle o).exec s = (.ok (), s')) :
    s'.outputs.buffers = [] ∧ s'.outputs.active = .stream 1 := by
  cases o with
  | complete =>
    simp only [finishCycle, rememberBreaks, onOutputs, Eval.exec_bind, Eval.exec_modify,
      Eval.exec_get, Eval.exec_ofExcept] at h
    rcases hend : s.outputs.endCycle with e | o'
    · rw [hend] at h
      cases h
    · rw [hend] at h
      cases h
      exact endCycle_settles hend
  | skipped | stopped | exhausted =>
    cases h
    exact ⟨rfl, rfl⟩

section Runs

variable {env : Setting} {p : Program} {fuel : Nat}

theorem exec_beginCycle (s : RunState) : beginCycle.exec s = (.ok (), (beginCycle.exec s).2) := rfl

theorem runCycle_settles {s s' : RunState} {o : Outcome}
    (h : (runCycle env p fuel).exec s = (.ok o, s')) :
    s'.outputs.buffers = [] ∧ s'.outputs.active = .stream 1 := by
  unfold runCycle at h
  obtain ⟨_, _, -, h⟩ := Eval.exec_bind_ok_inv h
  obtain ⟨_, _, -, h⟩ := Eval.exec_bind_ok_inv h
  obtain ⟨_, _, -, h⟩ := Eval.exec_bind_ok_inv h
  obtain ⟨_, _, hf, h⟩ := Eval.exec_bind_ok_inv h
  cases h
  exact finishCycle_settles hf

theorem runCycle_keeps (env : Setting) (fuel : Nat) (hitems : ∀ i ∈ p.items, i.recordwise)
    (s : RunState) :
    ((s.streams.inputs.map (·.id)).Nodup →
      ((runCycle env p fuel).exec s).2.streams.plain = s.streams.plain) ∧
      outputKeys ((runCycle env p fuel).exec s).2.outputs = outputKeys s.outputs :=
  -- the frame half of transparency holds whatever the shift
  (runCycle_transparent (Shift.extend_lawful []) hitems).2 s

theorem runCycle_congr {s t : RunState}
    (h : (beginCycle.exec { s with cycle := s.cycle + 1 }).2 =
      (beginCycle.exec { t with cycle := t.cycle + 1 }).2) :
    (runCycle env p fuel).exec s = (runCycle env p fuel).exec t := by
  unfold runCycle
  rw [Eval.exec_bind_ok (Eval.exec_modify _ s), Eval.exec_bind_ok (Eval.exec_modify _ t),
    Eval.exec_bind_ok (exec_beginCycle _), Eval.exec_bind_ok (exec_beginCycle _), h]

theorem cycleLoop_keys (hitems : ∀ i ∈ p.items, i.recordwise) :
    ∀ n s, outputKeys ((cycleLoop env p fuel n).exec s).2.outputs = outputKeys s.outputs
  | 0, _ => rfl
  | n + 1, s => by
    rw [cycleLoop_succ, Eval.exec_bind, exec_streamStep]
    rcases (Streams.advanceCycle.run s.streams).1 with _ | go
    · rfl
    · cases go with
      | false => rfl
      | true =>
        simp only [if_true]
        rw [Eval.exec_bind]
        have hkeep := (runCycle_keeps env fuel hitems
          { s with streams := (Streams.advanceCycle.run s.streams).2 }).2
        rcases hc : (runCycle env p fuel).exec
            { s with streams := (Streams.advanceCycle.run s.streams).2 } with ⟨_ | o, s₂⟩
        · rw [hc] at hkeep
          exact hkeep
        · rw [hc] at hkeep
          cases o with
          | complete | skipped => exact (cycleLoop_keys hitems n s₂).trans hkeep
          | stopped | exhausted => exact hkeep

end Runs

/-! ## Between two cycles of a run over one stream -/

/-- A state between two cycles of a run over the one stream `i`, numbered 1 and not run out:
the stop policy `P`, every buffer written, stream 1 active, and the output streams of `o₀`. -/
structure Between (P : StopPolicy) (o₀ : Outputs) (i : InputStream) (s : RunState) : Prop where
  inputs : s.streams.inputs = [i]
  id : i.id = 1
  pushback : i.pushback = none
  live : i.exhausted = false
  policy : s.streams.policy = P
  buffers : s.outputs.buffers = []
  active : s.outputs.active = .stream 1
  keys : outputKeys s.outputs = outputKeys o₀

/-- The state a run over the lines `L` starts its cycles from, its stop policy `P` set. -/
structure Starts (P : StopPolicy) (o₀ : Outputs) (L : List String) (t : RunState) : Prop where
  streams : t.streams = { inputs := [{ id := 1, pending := L }], policy := P }
  outputs : t.outputs = o₀
  cycle : t.cycle = 0

theorem Starts.between {P : StopPolicy} {o₀ : Outputs} {L : List String} {t : RunState}
    (h : Starts P o₀ L t) (h₀ : o₀.Blank) : Between P o₀ { id := 1, pending := L } t where
  inputs := by rw [h.streams]
  id := rfl
  pushback := rfl
  live := rfl
  policy := by rw [h.streams]
  buffers := by rw [h.outputs, h₀.buffers]
  active := by rw [h.outputs, h₀.active]
  keys := by rw [h.outputs]

/-- The outputs and cycles of `s` are those of a run to `a` followed by those of a run to
`b`: every line of `a` before those of `b`. -/
structure Joined (a b s : RunState) : Prop where
  sinks : s.outputs.sinks =
    b.outputs.sinks.map fun q => (q.1, q.2 ++ (a.outputs.sinks.lookup q.1).getD [])
  errLines : s.outputs.errLines = b.outputs.errLines ++ a.outputs.errLines
  cycle : s.cycle = b.cycle + a.cycle

theorem joined_of_outputs {a b s : RunState} (k : Nat)
    (ho : s.outputs = (Shift.after a k).outputsOf b.outputs) (hc : s.cycle = b.cycle + a.cycle) :
    Joined a b s :=
  ⟨by rw [ho]; rfl, by rw [ho]; rfl, hc⟩

theorem Joined.of_same {a a' b s : RunState} (h : Joined a b s) (ho : a'.outputs = a.outputs)
    (hc : a'.cycle = a.cycle) : Joined a' b s :=
  ⟨by rw [h.sinks, ho], by rw [h.errLines, ho], by rw [h.cycle, hc]⟩

theorem Joined.sinkText {a b s : RunState} (h : Joined a b s)
    (hkeys : outputKeys a.outputs = outputKeys b.outputs) (n : Nat) :
    s.outputs.sinkText n = a.outputs.sinkText n ++ b.outputs.sinkText n := by
  unfold Outputs.sinkText
  rw [h.sinks, Outputs.lookup_map_append (fun m => (a.outputs.sinks.lookup m).getD [])]
  cases hb : b.outputs.sinks.lookup n with
  | none =>
    rw [Outputs.lookup_none_of_keys hkeys.symm hb]
    simp [Outputs.linesText]
  | some v => simp [Outputs.linesText_append]

theorem Joined.stderrText {a b s : RunState} (h : Joined a b s) :
    s.outputs.stderrText = a.outputs.stderrText ++ b.outputs.stderrText := by
  unfold Outputs.stderrText
  rw [h.errLines, Outputs.linesText_append]

section Between

variable {P : StopPolicy} {o₀ : Outputs} {i : InputStream} {s : RunState}

/-- The stop policy names no stream but stream 1. -/
def PolicyOnOne (P : StopPolicy) : Prop := ∀ n, P = .stream n → n = 1

theorem Between.advanceCycle (h : Between P o₀ i s) (hP : PolicyOnOne P) :
    (Streams.advanceCycle.run s.streams).1 = .ok !i.pending.isEmpty ∧
      (Streams.advanceCycle.run s.streams).2.inputs = [i.advance.2] ∧
      (Streams.advanceCycle.run s.streams).2.policy = P := by
  obtain ⟨hr, hin, hpol⟩ := Streams.advanceCycle_single h.inputs h.id (h.policy ▸ hP)
  rw [exhausted_advance_live h.pushback h.live] at hr
  exact ⟨hr, hin, hpol.trans h.policy⟩

theorem Between.next {fuel : Nat} {env : Setting} {p : Program}
    (hitems : ∀ i ∈ p.items, i.recordwise) (h : Between P o₀ i s) (hP : PolicyOnOne P)
    (hline : i.pending ≠ []) {o : Outcome} {s₂ : RunState}
    (hc : (runCycle env p fuel).exec { s with streams := (Streams.advanceCycle.run s.streams).2 } =
      (.ok o, s₂)) :
    ∃ i', Between P o₀ i' s₂ := by
  obtain ⟨-, hin, hpol⟩ := h.advanceCycle hP
  obtain ⟨hsel, hkeys⟩ := runCycle_keeps env fuel hitems
    { s with streams := (Streams.advanceCycle.run s.streams).2 }
  rw [hc] at hsel hkeys
  have hplain := hsel (by simp [hin])
  obtain ⟨hbuf, hact⟩ := runCycle_settles hc
  -- one stream is left, the advanced one with other views kept
  have hinp := congrArg Streams.inputs hplain
  simp only [Streams.plain, hin, List.map_cons, List.map_nil] at hinp
  obtain ⟨i', hi', hii⟩ := List.map_eq_singleton_iff.mp hinp
  have hlive : i.advance.2.exhausted = false := by
    rw [exhausted_advance_live h.pushback h.live]
    exact List.isEmpty_eq_false_iff.mpr hline
  refine ⟨i', {
    inputs := hi'
    id := (congrArg InputStream.id hii).trans ((id_advance i).trans h.id)
    pushback := (congrArg InputStream.pushback hii).trans (pushback_advance_none h.pushback)
    live := by
      have hst := congrArg InputStream.state hii
      unfold InputStream.exhausted at hlive ⊢
      rw [← hlive]
      exact congrArg (· == StreamState.exhausted) hst
    policy := (congrArg Streams.policy hplain).trans hpol
    buffers := hbuf
    active := hact
    keys := hkeys.trans h.keys }⟩

theorem Between.cycle {fuel n : Nat} {env : Setting} {p : Program} (h : Between P o₀ i s)
    (hP : PolicyOnOne P) (hline : i.pending ≠ []) (L : List String) :
    (cycleLoop env p fuel (n + 1)).exec s =
        (runCycle env p fuel >>= afterCycle env p fuel n).exec
          { s with streams := (Streams.advanceCycle.run s.streams).2 } ∧
      (cycleLoop env p fuel (n + 1)).exec ((Shift.extend L).apply s) =
        (runCycle env p fuel >>= afterCycle env p fuel n).exec
          ((Shift.extend L).apply
            { s with streams := (Streams.advanceCycle.run s.streams).2 }) := by
  obtain ⟨hans, -, -⟩ := h.advanceCycle hP
  rw [List.isEmpty_eq_false_iff.mpr hline, Bool.not_false] at hans
  have hcond : ∀ t ∈ s.streams.inputs,
      t.pushback = none → t.exhausted = false → t.pending ≠ [] := by
    rw [h.inputs]
    intro t ht _ _
    rw [List.mem_singleton.mp ht]
    exact hline
  have hst : (streamStep Streams.advanceCycle).exec s =
      (.ok true, { s with streams := (Streams.advanceCycle.run s.streams).2 }) := by
    rw [exec_streamStep, hans]
  have hstE : (streamStep Streams.advanceCycle).exec ((Shift.extend L).apply s) =
      (.ok true,
        (Shift.extend L).apply { s with streams := (Streams.advanceCycle.run s.streams).2 }) := by
    rw [exec_streamStep,
      show ((Shift.extend L).apply s).streams = (Shift.extend L).streamsOf s.streams from rfl,
      Shift.extend_advanceCycle L hcond, hans]
    rfl
  rw [cycleLoop_succ, Eval.exec_bind_ok hst, Eval.exec_bind_ok hstE]
  exact ⟨rfl, rfl⟩

theorem Between.last {fuel n : Nat} {env : Setting} {p : Program} (h : Between P o₀ i s)
    (hP : PolicyOnOne P) (hend : i.pending = []) :
    (cycleLoop env p fuel (n + 1)).exec s =
      (.ok true, { s with streams := (Streams.advanceCycle.run s.streams).2 }) := by
  obtain ⟨hans, -, -⟩ := h.advanceCycle hP
  rw [hend] at hans
  have hst : (streamStep Streams.advanceCycle).exec s =
      (.ok false, { s with streams := (Streams.advanceCycle.run s.streams).2 }) := by
    rw [exec_streamStep, hans]
    rfl
  rw [cycleLoop_succ, Eval.exec_bind_ok hst]
  rfl

end Between

/-! ## The seam and the two parts -/

section Parts

variable {env : Setting} {p : Program} {P : StopPolicy} {o₀ : Outputs} {L : List String}

theorem cycleLoop_seam (hitems : ∀ i ∈ p.items, i.recordwise) (h₀ : o₀.Blank)
    {i : InputStream} {sJ : RunState} (hJ : Between P o₀ i sJ) (hend : i.pending = [])
    {tB sB : RunState} (htB : Starts P o₀ L tB) {fuel N : Nat}
    (hB : (cycleLoop env p fuel N).exec tB = (.ok true, sB)) :
    ∃ s', (cycleLoop env p fuel N).exec ((Shift.extend L).apply sJ) = (.ok true, s') ∧
      Joined sJ sB s' := by
  have hout : (Shift.after sJ i.recordsRead).outputsOf o₀ = sJ.outputs :=
    Shift.after_outputsOf h₀ hJ.buffers hJ.active hJ.keys _
  have hfresh : tB.streams =
      { inputs := [{ id := 1, pending := L }], policy := sJ.streams.policy } := by
    rw [htB.streams, hJ.policy]
  have hstreams :
      ((Shift.extend L).apply sJ).streams = { sJ.streams with inputs := [i.extend L] } := by
    simp only [Shift.apply, Shift.streamsOf, Shift.extend, hJ.inputs, List.map_cons, List.map_nil,
      Nat.add_zero]
  cases N with
  | zero => cases hB
  | succ N =>
    have hstB := exec_streamStep Streams.advanceCycle tB
    have hstJ := exec_streamStep Streams.advanceCycle ((Shift.extend L).apply sJ)
    rw [hstreams, Streams.advanceCycle_seam L hJ.id hJ.pushback hJ.live hend hfresh] at hstJ
    rw [cycleLoop_succ] at hB ⊢
    generalize Streams.advanceCycle.run tB.streams = res at hstB hstJ
    obtain ⟨_ | go, ssB⟩ := res
    · rw [Eval.exec_bind_error hstB] at hB
      cases hB
    · rw [Eval.exec_bind_ok hstB] at hB
      rw [Eval.exec_bind_ok hstJ]
      cases go with
      | false =>
        -- the second input has no line: both runs end here
        cases hB
        refine ⟨_, rfl, joined_of_outputs i.recordsRead ?_ ?_⟩
        · show (Shift.extend L).outputsOf sJ.outputs = _
          rw [Shift.outputsOf_extend, ← hout]
          exact congrArg _ htB.outputs.symm
        · show sJ.cycle + 0 = tB.cycle + sJ.cycle
          rw [htB.cycle]
          omega
      | true =>
        simp only [if_true] at hB ⊢
        have hcomm : Commutes (Shift.after sJ i.recordsRead)
            (runCycle env p fuel >>= afterCycle env p fuel N) := by
          refine (runCycle_transparent (Shift.after_lawful _ _) hitems).1.bind fun o => ?_
          cases o with
          | complete | skipped =>
            exact cycleLoop_commutes (Shift.after_lawful _ _) hitems
              (Shift.after_advanceCycle _ _) N
          | stopped | exhausted => exact (transparent_pure _).1
        refine ⟨(Shift.after sJ i.recordsRead).apply sB, ?_, joined_of_outputs _ rfl rfl⟩
        -- from the start of the cycle on, the joined run is the shifted run over the second input
        rw [Eval.exec_bind,
          runCycle_congr (t := (Shift.after sJ i.recordsRead).apply { tB with streams := ssB }) ?_,
          ← Eval.exec_bind, hcomm, hB]
        simp only [beginCycle, Eval.exec_modify, Shift.apply, Shift.outputsOf_extend]
        rw [show ({ tB with streams := ssB } : RunState).outputs = o₀ from htB.outputs, hout,
          show ({ tB with streams := ssB } : RunState).cycle = 0 from htB.cycle]
        simp only [Nat.zero_add]
        rfl

theorem cycleLoop_extend_ok (hitems : ∀ i ∈ p.items, i.recordwise) (hP : PolicyOnOne P)
    (h₀ : o₀.Blank) {tB sB : RunState} (htB : Starts P o₀ L tB) {fa fuel m : Nat}
    (hB : (cycleLoop env p fuel m).exec tB = (.ok true, sB)) (hfa : fa ≤ fuel) :
    ∀ n i s sA, Between P o₀ i s → (cycleLoop env p fa n).exec s = (.ok true, sA) →
      ∃ s', (cycleLoop env p fuel (n + m)).exec ((Shift.extend L).apply s) = (.ok true, s') ∧
        Joined sA sB s' := by
  intro n
  induction n with
  | zero =>
    intro i s sA _ h
    cases h
  | succ n ih =>
    intro i s sA hs h
    by_cases hend : i.pending = []
    · rw [hs.last hP hend] at h
      cases h
      obtain ⟨s', hrun, hj⟩ := cycleLoop_seam hitems h₀ hs hend htB
        (cycleLoop_more_fuel hB (Nat.le_refl fuel) (Nat.le_add_left m (n + 1)))
      exact ⟨s', hrun, hj.of_same rfl rfl⟩
    · rw [(hs.cycle hP hend L).1, Eval.exec_bind] at h
      rw [show n + 1 + m = n + m + 1 by omega, (hs.cycle hP hend L).2, Eval.exec_bind,
        (runCycle_transparent (Shift.extend_lawful L) hitems).1]
      rcases hc : (runCycle env p fa).exec
          { s with streams := (Streams.advanceCycle.run s.streams).2 } with ⟨_ | o, s₂⟩
      · rw [hc] at h
        cases h
      · rw [hc] at h
        rw [runCycle_more_fuel hc (fun h' => ?_) hfa]
        · rcases runCycle_ends hitems hc with rfl | rfl
          · obtain ⟨i', hi'⟩ := hs.next hitems hP hend hc
            exact ih i' s₂ sA hi' h
          · cases h
        · -- a cycle that ran out of fuel ends the run unfinished
          cases h'
          cases h

theorem cycleLoop_extend_error (hitems : ∀ i ∈ p.items, i.recordwise) (hP : PolicyOnOne P)
    (L : List String) {fuel : Nat} :
    ∀ n i s sA e, Between P o₀ i s → (cycleLoop env p fuel n).exec s = (.error e, sA) →
      (cycleLoop env p fuel n).exec ((Shift.extend L).apply s) =
        (.error e, (Shift.extend L).apply sA) := by
  intro n
  induction n with
  | zero =>
    intro i s sA e _ h
    cases h
  | succ n ih =>
    intro i s sA e hs h
    by_cases hend : i.pending = []
    · rw [hs.last hP hend] at h
      cases h
    · rw [(hs.cycle hP hend L).1, Eval.exec_bind] at h
      rw [(hs.cycle hP hend L).2, Eval.exec_bind,
        (runCycle_transparent (Shift.extend_lawful L) hitems).1]
      rcases hc : (runCycle env p fuel).exec
          { s with streams := (Streams.advanceCycle.run s.streams).2 } with ⟨_ | o, s₂⟩
      · rw [hc] at h
        cases h
        rfl
      · rw [hc] at h
        rcases runCycle_ends hitems hc with rfl | rfl
        · obtain ⟨i', hi'⟩ := hs.next hitems hP hend hc
          exact ih i' s₂ sA e hi' h
        · cases h

end Parts

/-! ## Whole runs -/

/-- The state a run over the bytes `bytes` on stream 1 starts from, with the outputs `o`. -/
def RunState.onInput (bytes : List Nat) (o : Outputs) : RunState :=
  RunState.start (({} : Streams).add (ofBytes 1 bytes)) o

/-- A program is recordwise when all its items are. -/
def Program.recordwise (p : Program) : Bool := p.items.all Item.recordwise

theorem setPolicy_extend (L : List String) (ss : Streams) (P : StopPolicy) :
    ((Shift.extend L).streamsOf ss).setPolicy P =
      (ss.setPolicy P).map (Shift.extend L).streamsOf := by
  cases P with
  | stream n =>
    have hget : ((Shift.extend L).streamsOf ss).get? n = (ss.get? n).map (InputStream.extend L) :=
      Streams.get?_map (g := InputStream.extend L) (fun _ => rfl) rfl n
    have hc : ((Shift.extend L).streamsOf ss).contains n = ss.contains n := by
      simp only [Streams.contains, hget, Option.isSome_map]
    simp only [Streams.setPolicy, hc]
    cases ss.contains n <;> rfl
  | _ => rfl

section Whole

variable {env : Setting} {p : Program} {force : Bool} {fuel : Nat}

theorem Program.items_recordwise (h : p.recordwise = true) : ∀ i ∈ p.items, i.recordwise :=
  Array.all_eq_true_iff_forall_mem.mp h

theorem Program.policyStreams_extend (L : List String) (ss : Streams) :
    p.policyStreams ((Shift.extend L).streamsOf ss) =
      (p.policyStreams ss).map (Shift.extend L).streamsOf := by
  unfold Program.policyStreams
  split
  · exact setPolicy_extend L ss _
  · rfl

theorem Program.setUp_extend (L : List String) : Commutes (Shift.extend L) (p.setUp env) := by
  intro s
  rw [Program.setUp_exec, Program.setUp_exec,
    show ((Shift.extend L).apply s).streams = (Shift.extend L).streamsOf s.streams from rfl,
    Program.policyStreams_extend]
  rcases p.policyStreams s.streams with e | ss <;> rfl

theorem Program.setUp_start {o : Outputs} {bytes : List Nat} {s₀ : RunState}
    (h : (p.setUp env).exec (RunState.onInput bytes o) = (.ok (), s₀)) :
    Starts (p.stop.getD .primary) o (linesOf bytes) s₀ ∧
      PolicyOnOne (p.stop.getD .primary) := by
  rw [Program.setUp_exec] at h
  unfold Program.policyStreams at h
  cases hs : p.stop with
  | none =>
    simp only [hs, except_pure_eq] at h
    cases h
    exact ⟨⟨rfl, rfl, rfl⟩, fun _ hn => by cases hn⟩
  | some P =>
    simp only [hs] at h
    rcases hset : (RunState.onInput bytes o).streams.setPolicy P with e | ss
    · rw [hset] at h
      cases h
    · rw [hset] at h
      cases h
      obtain ⟨rfl, hone⟩ := Streams.setPolicy_ok hset
      refine ⟨⟨rfl, rfl, rfl⟩, fun n hn => ?_⟩
      have hc := hone n hn
      simp only [Streams.contains, Streams.get?] at hc
      simp [RunState.onInput, RunState.start, Streams.add, Streams.add.ins, ofBytes] at hc
      exact hc.symm

theorem start_append (o : Outputs) {A : List Nat} (hA : A = [] ∨ A.getLast? = some 10)
    (B : List Nat) :
    RunState.onInput (A ++ B) o =
      (Shift.extend (linesOf B)).apply (RunState.onInput A o) := by
  have hlines : ofBytes 1 (A ++ B) = (ofBytes 1 A).extend (linesOf B) := by
    simp [ofBytes, InputStream.extend, Text.splitLines_append hA, linesOf]
  simp only [RunState.onInput, RunState.start, Shift.apply, Shift.outputsOf_extend, hlines]
  rfl

end Whole

/-- Record-at-a-time independence of `p` for the bytes `A` followed by `B` on stream 1, with
output streams 1 and `extra`. If the runs over `A` and over `B` finish, the run over `A ++ B`
finishes within the fuel of both, every output text is that over `A` followed by that over
`B`, and the cycles add up; a run over `A` that fails fails the same way over `A ++ B`, with
the same texts. -/
def RecordAtATime (env : Setting) (p : Program) (force : Bool) (A B extra : List Nat) : Prop :=
  (∀ fa fb sA sB,
    (p.run env force fa).exec (RunState.onInput A (Outputs.withStreams extra)) = (.ok true, sA) →
    (p.run env force fb).exec (RunState.onInput B (Outputs.withStreams extra)) = (.ok true, sB) →
    ∃ s, (p.run env force (fa + fb)).exec
          (RunState.onInput (A ++ B) (Outputs.withStreams extra)) = (.ok true, s) ∧
      (∀ n, s.outputs.sinkText n = sA.outputs.sinkText n ++ sB.outputs.sinkText n) ∧
      s.outputs.stderrText = sA.outputs.stderrText ++ sB.outputs.stderrText ∧
      s.cycle = sA.cycle + sB.cycle) ∧
  (∀ fuel e sA,
    (p.run env force fuel).exec (RunState.onInput A (Outputs.withStreams extra)) =
      (.error e, sA) →
    ∃ s, (p.run env force fuel).exec (RunState.onInput (A ++ B) (Outputs.withStreams extra)) =
        (.error e, s) ∧
      (∀ n, s.outputs.sinkText n = sA.outputs.sinkText n) ∧
      s.outputs.stderrText = sA.outputs.stderrText)

/-- A recordwise program without `EOF` that reads its input treats each record on its own:
over whole lines `A` followed by any bytes `B`, it runs as over `A` and then over `B`. -/
theorem run_append {env : Setting} {p : Program} {force : Bool} (hrec : p.recordwise = true)
    (heof : p.eofAt = none) (hin : (p.usesInput || force) = true) {A : List Nat}
    (hA : A = [] ∨ A.getLast? = some 10) (B extra : List Nat) :
    RecordAtATime env p force A B extra := by
  unfold RecordAtATime
  have hitems := Program.items_recordwise hrec
  have h₀ := Outputs.withStreams_blank extra
  rw [start_append _ hA B]
  refine ⟨fun fa fb sA sB ha hb => ?_, fun fuel e sA ha => ?_⟩
  · rw [Program.run_cycles heof hin] at ha hb ⊢
    -- the set-up succeeded over both inputs, with the same policy
    obtain ⟨⟨⟩, sA₀, hsa, ha⟩ := Eval.exec_bind_ok_inv ha
    obtain ⟨⟨⟩, tB, hsb, hb⟩ := Eval.exec_bind_ok_inv hb
    obtain ⟨hstartA, hP⟩ := Program.setUp_start hsa
    obtain ⟨htB, -⟩ := Program.setUp_start hsb
    obtain ⟨s, hrun, hj⟩ := cycleLoop_extend_ok hitems hP h₀ htB
      (cycleLoop_more_fuel hb (Nat.le_add_left fb fa) (Nat.le_refl fb)) (Nat.le_add_right fa fb)
      fa _ sA₀ sA (hstartA.between h₀) ha
    -- both runs keep the output streams they started with
    have hkeys : outputKeys sA.outputs = outputKeys sB.outputs := by
      have hka :
          outputKeys ((cycleLoop env p fa fa).exec sA₀).2.outputs = outputKeys sA₀.outputs :=
        cycleLoop_keys hitems fa sA₀
      have hkb : outputKeys ((cycleLoop env p fb fb).exec tB).2.outputs = outputKeys tB.outputs :=
        cycleLoop_keys hitems fb tB
      rw [ha] at hka
      rw [hb] at hkb
      rw [hka, hkb, hstartA.outputs, htB.outputs]
    refine ⟨s, ?_, hj.sinkText hkeys, hj.stderrText, hj.cycle.trans (Nat.add_comm _ _)⟩
    rw [Eval.exec_bind, Program.setUp_extend _ _, hsa]
    exact hrun
  · rw [Program.run_cycles heof hin] at ha ⊢
    rw [Eval.exec_bind, Program.setUp_extend _ _]
    -- the lines to come write nothing, so the texts are those over the first input
    have htexts : ∀ t : RunState, (∀ n, ((Shift.extend (linesOf B)).apply t).outputs.sinkText n =
        t.outputs.sinkText n) ∧
        ((Shift.extend (linesOf B)).apply t).outputs.stderrText = t.outputs.stderrText :=
      fun t => ⟨fun _ => by simp [Shift.apply], by simp [Shift.apply]⟩
    rcases Eval.exec_bind_error_inv ha with hsa | ⟨⟨⟩, sA₀, hsa, ha⟩
    · rw [hsa]
      exact ⟨_, rfl, htexts sA⟩
    · rw [hsa]
      obtain ⟨hstartA, hP⟩ := Program.setUp_start hsa
      exact ⟨_, cycleLoop_extend_error hitems hP _ fuel _ sA₀ sA e (hstartA.between h₀) ha,
        htexts sA⟩

/-- A program that copies every record to stream 1. -/
def copyRecords : Program :=
  { items := #[.field ⟨none, .range ⟨1, -1, false⟩, false, none, .next none, .left⟩],
    usesInput := true }

/-- Copying records over `hi` and over `j` finishes within fuel 2 each, so the copy over both
lines finishes within fuel 4 and writes both lines to stream 1. -/
theorem copyRecords_recordAtATime :
    copyRecords.recordwise = true ∧ copyRecords.eofAt = none ∧
      (copyRecords.usesInput || false) = true ∧
      ([104, 105, 10] = [] ∨ [104, 105, 10].getLast? = some 10) ∧
      RecordAtATime {} copyRecords false [104, 105, 10] [106, 10] [] ∧
      ∃ s, (copyRecords.run {} false 4).exec
          (RunState.onInput ([104, 105, 10] ++ [106, 10]) (Outputs.withStreams [])) = (.ok true, s) ∧
        s.outputs.sinkText 1 = "hi\nj\n" := by
  have hrec : copyRecords.recordwise = true := by
    simp [Program.recordwise, copyRecords, Item.recordwise, Source.recordwise]
  have hrun : RecordAtATime {} copyRecords false [104, 105, 10] [106, 10] [] :=
    run_append hrec rfl rfl (by decide) _ _
  -- both runs finish within fuel 2, so the joined run finishes within fuel 4
  have ha : (copyRecords.run {} false 2).exec (RunState.onInput [104, 105, 10] (Outputs.withStreams [])) =
      (.ok true, ((copyRecords.run {} false 2).exec
        (RunState.onInput [104, 105, 10] (Outputs.withStreams []))).2) :=
    Prod.ext (by decide) rfl
  have hb : (copyRecords.run {} false 2).exec (RunState.onInput [106, 10] (Outputs.withStreams [])) =
      (.ok true, ((copyRecords.run {} false 2).exec
        (RunState.onInput [106, 10] (Outputs.withStreams []))).2) :=
    Prod.ext (by decide) rfl
  obtain ⟨s, hs, htext, -, -⟩ := hrun.1 2 2 _ _ ha hb
  refine ⟨hrec, rfl, rfl, by decide, hrun, s, hs, ?_⟩
  rw [htext 1]
  decide

end Script

end ColumnSpec
