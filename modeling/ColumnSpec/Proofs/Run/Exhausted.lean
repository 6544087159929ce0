import ColumnSpec.Proofs.Run.Invariant
import ColumnSpec.Proofs.Input.Policy
/-!
# What an exhausted stream supplies

An exhausted stream supplies the empty record until a `REDO` writes to it
(`cycleStart_blankOnceDone`, `advanceCycle_after_redo`).
-/
namespace ColumnSpec

namespace InputStream

/-- An exhausted stream supplies the empty record. -/
def BlankOnceDone (s : InputStream) : Prop := s.state = .exhausted → s.current.text = ""

theorem advance_runsOut {s : InputStream} (hst : s.state ≠ .exhausted)
    (hex : s.advance.2.state = .exhausted) : s.advance.2.current.text = "" := by
  cases hpb : s.pushback with
  | some r =>
    rw [advance_slot hpb] at hex
    cases hex
  | none =>
    have hb : (s.state == .exhausted) = false := by simpa using hst
    cases hp : s.pending with
    | nil => simp [advance, hpb, hb, hp]
    | cons l rest => simp [advance, hpb, hb, hp] at hex

theorem advance_blankOnceDone {s : InputStream} (h : s.BlankOnceDone) :
    s.advance.2.BlankOnceDone := by
  intro hex
  by_cases hst : s.state = .exhausted
  · cases hpb : s.pushback with
    | none =>
      rw [advance_exhausted hpb hst]
      exact h hst
    | some r =>
      rw [advance_slot hpb] at hex
      cases hex
  · exact advance_runsOut hst hex

theorem unread_blankOnceDone {s t : InputStream} (h : s.BlankOnceDone) (hu : s.unread = .ok t) :
    t.BlankOnceDone := by
  unfold unread at hu
  split at hu
  · cases hu
  · split at hu
    · cases hu
      exact fun _ => rfl
    · cases hu
      exact h

theorem fresh_blankOnceDone {s : InputStream} (hs : s.Fresh) : s.BlankOnceDone := by
  intro hex
  rw [hs.1] at hex
  cases hex

end InputStream

namespace Streams

open InputStream

/-- Every exhausted stream supplies the empty record. -/
def BlankOnceDone (ss : Streams) : Prop := ∀ s ∈ ss.inputs, s.BlankOnceDone

theorem blankOnceDone_of_inputs {ss ss' : Streams} (h : ss.BlankOnceDone)
    (hin : ss'.inputs = ss.inputs) : ss'.BlankOnceDone := by
  intro s hs
  rw [hin] at hs
  exact h s hs

theorem update_blankOnceDone {ss : Streams} (h : ss.BlankOnceDone) (n : Nat) {t : InputStream}
    (ht : t.BlankOnceDone) : (ss.update n fun _ => t).BlankOnceDone := by
  intro s hs
  simp only [update, List.mem_map] at hs
  obtain ⟨s₀, hs₀, rfl⟩ := hs
  split
  · exact ht
  · exact h s₀ hs₀

theorem advanceCycle_blankOnceDone {ss : Streams} (h : ss.BlankOnceDone) :
    (advanceCycle.run ss).2.BlankOnceDone := by
  intro s hs
  rw [(advanceCycle_streams ss).1, List.mem_map] at hs
  obtain ⟨s₀, hs₀, rfl⟩ := hs
  exact advance_blankOnceDone (h s₀ hs₀)

theorem readStop_blankOnceDone {ss : Streams} (h : ss.BlankOnceDone) :
    (readStop.run ss).2.BlankOnceDone := by
  rw [Step.run_eq]
  unfold readStop
  rw [Eval.exec_bind, exec_activeStep]
  rcases ha : ss.active with e | s
  · exact h
  · exact update_blankOnceDone h _ (advance_blankOnceDone (h s (mem_of_active ha)))

theorem read_blankOnceDone {ss : Streams} (h : ss.BlankOnceDone) : (read.run ss).2.BlankOnceDone := by
  rw [Step.run_eq]
  unfold read
  rw [Eval.exec_bind, exec_activeStep]
  rcases ha : ss.active with e | s
  · exact h
  · dsimp only
    rw [Eval.exec_bind]
    have hr := readStop_blankOnceDone h
    rw [Step.run_eq] at hr
    rcases hx : Eval.exec readStop ss with ⟨_ | ok, ss₁⟩
    all_goals rw [hx] at hr
    · exact hr
    · cases ok
      · exact hr
      · exact hr

theorem unread_blankOnceDone {ss : Streams} (h : ss.BlankOnceDone) :
    (unread.run ss).2.BlankOnceDone := by
  rw [Step.run_eq]
  unfold unread
  rw [Eval.exec_bind, exec_activeStep]
  rcases ha : ss.active with e | s
  · exact h
  · dsimp only
    have hx : Eval.exec (ExceptT.mk (pure s.unread) : Step InputStream) ss = (s.unread, ss) := rfl
    rw [Eval.exec_bind, hx]
    rcases hu : s.unread with e | t
    · exact h
    · exact update_blankOnceDone h _ (InputStream.unread_blankOnceDone (h s (mem_of_active ha)) hu)

theorem active_get? {ss : Streams} {s : InputStream} (h : ss.active = .ok s) :
    ss.get? s.id = some s := by
  unfold active at h
  rcases hg : ss.get? ss.selected with _ | t
  · rw [hg] at h
    cases h
  · rw [hg] at h
    cases h
    have hid : s.id = ss.selected :=
      beq_iff_eq.mp (List.find?_some (p := fun t : InputStream => t.id == ss.selected) hg)
    rw [hid]
    exact hg

theorem redo_run {ss : Streams} {s : InputStream} (h : ss.active = .ok s) (text : String) :
    ((redo text).run ss).2 = ss.update s.id fun t => t.setCurrent (.ofText text) := by
  rw [Step.run_eq]
  simp only [redo, Eval.exec_bind, exec_activeStep, h, Eval.exec_modify]

theorem advanceCycle_after_redo {ss : Streams} {s : InputStream} (ha : ss.active = .ok s)
    (hex : s.state = .exhausted) (hpb : s.pushback = none) (text : String) :
    (advanceCycle.run ((redo text).run ss).2).2.get? s.id = some { s with current := .ofText text } := by
  let g : InputStream → InputStream := fun t =>
    (if t.id == s.id then t.setCurrent (.ofText text) else t).advance.2
  have hid : ∀ t, (g t).id = t.id := by
    intro t
    simp only [g, id_advance]
    split <;> rfl
  have hin : (advanceCycle.run ((redo text).run ss).2).2.inputs = ss.inputs.map g := by
    rw [(advanceCycle_streams _).1, redo_run ha, update, List.map_map]
    rfl
  rw [get?_map hid hin, active_get? ha, Option.map_some]
  have hs : (if s.id == s.id then s.setCurrent (.ofText text) else s) = { s with current := .ofText text } := by
    simp [setCurrent]
  simp only [g, hs]
  rw [advance_exhausted (s := { s with current := .ofText text }) hpb hex]

end Streams

namespace Script

open Streams

/-! ## Runs -/

/-- The run-state form: every exhausted input stream supplies the empty record. -/
def ExhaustedBlank (s : RunState) : Prop := s.streams.BlankOnceDone

section Steps

variable {env : Setting}

theorem streamStep_blank {β : Type} {st : Streams.Step β}
    (hst : ∀ ss, ss.BlankOnceDone → (st.run ss).2.BlankOnceDone) :
    Preserves ExhaustedBlank (streamStep st) := by
  intro s hs
  rw [exec_streamStep]
  exact hst s.streams hs

theorem askRecord_blank : AsksKeep ExhaustedBlank := fun q hq =>
  streamStep_blank fun ss h => by
    rw [askRecord_run]
    rcases ha : ss.active with e | s
    · exact h
    · exact update_blankOnceDone h _ fun hex => (hq s.current).trans (h s (mem_of_active ha) hex)

theorem trackBreak_blank (c : Char) : Preserves ExhaustedBlank (trackBreak c) := by
  intro s hs
  rw [exec_trackBreak]
  rcases s.fields.lookup c with _ | current
  · exact hs
  · rcases s.breaks.lookup c with _ | prev
    · exact hs
    · exact hs

theorem evaluate_blank (e : Expr) : Preserves ExhaustedBlank (evaluate env e) :=
  evaluate_preserves (fun _ _ _ hs => hs) trackBreak_blank askRecord_blank e

theorem putField_blank (f : DataField) : Preserves ExhaustedBlank (putField env f) := by
  refine putField_preserves f
    (sourceText_preserves evaluate_blank (fun _ h => h) askRecord_blank f.source) ?_ fun _ _ h => h
  intro c text s hs
  rw [exec_bindField]
  split
  · exact hs
  · exact hs

theorem onOutputs_blank (f : Outputs → Except Fault Outputs) :
    Preserves ExhaustedBlank (onOutputs f) :=
  preserves_get_bind fun _ hs => (preserves_ofExcept _).bind fun _ => preserves_set hs

theorem onStreams_blank {f : Streams → Except Fault Streams}
    (hf : ∀ ss ss', f ss = .ok ss' → ss'.inputs = ss.inputs) :
    Preserves ExhaustedBlank (onStreams f) := by
  refine preserves_get_bind fun s hs => ?_
  intro t ht
  rw [Eval.exec_bind, Eval.exec_ofExcept]
  rcases hx : f s.streams with e | ss'
  · exact ht
  · exact blankOnceDone_of_inputs hs (hf _ _ hx)

theorem select_inputs {ss ss' : Streams} {n : Nat} (h : ss.select n = .ok ss') :
    ss'.inputs = ss.inputs := by
  unfold Streams.select at h
  split at h
  · cases h
    rfl
  · cases h

theorem modify_blank {g : RunState → RunState} (hg : ∀ s, (g s).streams.inputs = s.streams.inputs) :
    Preserves ExhaustedBlank (modify g) :=
  preserves_modify fun s hs => blankOnceDone_of_inputs hs (hg s)

theorem clearFields_blank : Preserves ExhaustedBlank clearFields := modify_blank fun _ => rfl

theorem step_blank {i : Item} (hi : i ≠ .redo) : Preserves ExhaustedBlank (step env i) := by
  cases i with
  | field f => exact putField_blank f
  | read => exact (streamStep_blank fun _ h => read_blankOnceDone h).bind fun _ => clearFields_blank
  | unread => exact (streamStep_blank fun _ h => unread_blankOnceDone h).bind fun _ => clearFields_blank
  | redo => exact absurd rfl hi
  | selectInput n => exact onStreams_blank fun _ _ h => select_inputs h
  | write | outStream _ | stderr => exact onOutputs_blank _
  | assert c src =>
    refine (evaluate_blank c).bind fun _ => ?_
    split
    · exact preserves_throw _
    · exact preserves_pure _
  | set e => exact (evaluate_blank e).discard
  | «break» c => exact (trackBreak_blank c).discard
  | fieldSeparator _ | wordSeparator _ | pad _ | noWrite => exact modify_blank fun _ => rfl
  | abend _ => exact preserves_throw _
  | readStop | «continue» | eof | skipWhile _ | skipUntil _ | «if» _ _ | «while» _ _ | jump _ =>
    exact preserves_pure _

theorem skip_blank (pc : Nat) (cond : Expr) (w : Bool) :
    Preserves ExhaustedBlank (act.skip env pc cond w) := by
  unfold act.skip
  refine preserves_get_bind fun _ _ => ?_
  split
  · exact preserves_pure _
  · refine (evaluate_blank cond).bind fun _ => ?_
    dsimp only
    split
    · exact preserves_pure _
    · exact Preserves.bind (modify_blank fun _ => rfl) fun _ => preserves_pure _

theorem act_blank (pc : Nat) {i : Item} (hi : i ≠ .redo) : Preserves ExhaustedBlank (act env pc i) := by
  cases i
  case readStop =>
    refine (streamStep_blank fun _ h => readStop_blankOnceDone h).bind fun _ => ?_
    split
    · exact clearFields_blank.bind fun _ => preserves_pure _
    · exact preserves_pure _
  case skipWhile cond => exact skip_blank pc cond true
  case skipUntil cond => exact skip_blank pc cond false
  case «continue» | eof => exact preserves_pure _
  all_goals exact (step_blank hi).bind fun _ => preserves_pure _

end Steps

/-! ## Cycles -/

section Cycles

variable {env : Setting} {p : Program} {fuel : Nat}

theorem runCycle_blank (hp : ∀ i ∈ p.items, i ≠ .redo) :
    Preserves ExhaustedBlank (runCycle env p fuel) := by
  have hexec : Preserves ExhaustedBlank (execute env p.items p.cycleEnd fuel 0) :=
    execute_preserves (fun pc _ hi => act_blank pc (hp _ (Array.mem_of_getElem? hi)))
      evaluate_blank fuel 0
  have hfinish : ∀ o, Preserves ExhaustedBlank (finishCycle o) := by
    intro o
    cases o with
    | complete =>
      exact Preserves.bind (modify_blank fun _ => rfl) fun _ => onOutputs_blank _
    | skipped | stopped | exhausted => exact modify_blank fun _ => rfl
  unfold runCycle
  exact Preserves.bind (modify_blank fun _ => rfl) fun _ =>
    Preserves.bind (modify_blank fun _ => rfl) fun _ =>
      hexec.bind fun o => (hfinish o).bind fun _ => preserves_pure o

/-- The states in which the cycles of a run of `p` from `s` start: right after the streams
advanced and the stop policy let the cycle run. A cycle is followed by the next one when it
ran to its end or skipped its record. -/
inductive CycleStart (env : Setting) (p : Program) (fuel : Nat) : RunState → RunState → Prop
  | first {s a : RunState} :
    (streamStep Streams.advanceCycle).exec s = (.ok true, a) → CycleStart env p fuel s a
  | next {s a₁ s₁ a : RunState} {o : Outcome} :
    (streamStep Streams.advanceCycle).exec s = (.ok true, a₁) →
    (runCycle env p fuel).exec a₁ = (.ok o, s₁) → (o = .complete ∨ o = .skipped) →
    CycleStart env p fuel s₁ a → CycleStart env p fuel s a

/-- In a run of a program without `REDO`, from streams whose exhausted members supply the
empty record, every cycle starts with each exhausted stream supplying the empty record. -/
theorem cycleStart_blankOnceDone (hp : ∀ i ∈ p.items, i ≠ .redo) {s a : RunState}
    (hs : s.streams.BlankOnceDone) (ha : CycleStart env p fuel s a) : a.streams.BlankOnceDone := by
  have hadv : Preserves ExhaustedBlank (streamStep Streams.advanceCycle) :=
    streamStep_blank fun _ h => advanceCycle_blankOnceDone h
  induction ha with
  | first hx =>
    have h₁ := hadv _ hs
    rw [hx] at h₁
    exact h₁
  | next hx hc _ _ ih =>
    have h₁ := hadv _ hs
    rw [hx] at h₁
    have h₂ : ExhaustedBlank ((runCycle env p fuel).exec _).2 := runCycle_blank hp _ h₁
    rw [hc] at h₂
    exact ih h₂

/-- Stream 1 over one line and stream 2 over nothing, nothing written yet. -/
def oneLineAndEmpty : RunState :=
  RunState.start
    ((({} : Streams).add (InputStream.ofBytes 1 [97, 10])).add (InputStream.ofBytes 2 []))
    (Outputs.withStreams [])

/-- The first cycle over one line on stream 1 and nothing on stream 2 finds stream 2
exhausted, and its record empty. -/
theorem cycleStart_blankOnceDone_oneLine :
    ∃ a, CycleStart {} ({ usesInput := true } : Program) 1 oneLineAndEmpty a ∧
      (a.streams.get? 2).map (·.state) = some .exhausted ∧ a.streams.BlankOnceDone := by
  have hs : oneLineAndEmpty.streams.BlankOnceDone := by
    intro s hs
    have hin : oneLineAndEmpty.streams.inputs =
        [InputStream.ofBytes 1 [97, 10], InputStream.ofBytes 2 []] := rfl
    rw [hin] at hs
    simp only [List.mem_cons, List.not_mem_nil, or_false] at hs
    rcases hs with rfl | rfl <;> exact InputStream.fresh_blankOnceDone (InputStream.ofBytes_fresh _ _)
  have hp : ∀ i ∈ ({ usesInput := true } : Program).items, i ≠ .redo := by
    intro i hi
    exact absurd hi (by simp)
  have ha : CycleStart {} ({ usesInput := true } : Program) 1 oneLineAndEmpty _ := .first rfl
  exact ⟨_, ha, rfl, cycleStart_blankOnceDone hp hs ha⟩

end Cycles

end Script

end ColumnSpec
