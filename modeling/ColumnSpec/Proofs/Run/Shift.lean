import ColumnSpec.Proofs.Run.Fuel
import ColumnSpec.Proofs.Input.Policy
import Mathlib.Data.List.Nodup
/-!
# What the items of a cycle cannot see

A `Shift` changes what recordwise items cannot see; every recordwise expression, source,
item and run of items is `Transparent` to it.
-/
namespace ColumnSpec

/-- The functions whose value is the position in the run rather than a fact of the record. -/
def Script.positionFunctions : List String := ["first", "eof", "recno", "iterno"]

mutual
/-- An expression whose value is a fact of the cycle's record, fields and configuration: it
reads no counter and sets none, tests no break key and asks for no position in the run. -/
def Expr.recordwise : Expr → Bool
  | .lit _ | .field _ | .config _ => true
  | .counter _ | .assign .. | .controlBreak _ => false
  | .unary _ e => e.recordwise
  | .binary _ l r => l.recordwise && r.recordwise
  | .call name args => !Script.positionFunctions.contains name && Expr.recordwiseArgs args
/-- `Expr.recordwise` of every argument given. -/
def Expr.recordwiseArgs : List (Option Expr) → Bool
  | [] => true
  | none :: rest => Expr.recordwiseArgs rest
  | some e :: rest => e.recordwise && Expr.recordwiseArgs rest
end

namespace Script

/-- A source whose text is a fact of the cycle's record and fields: not the cycle number
and no clock. -/
def Source.recordwise : Source → Bool
  | .print e => e.recordwise
  | .substring _ whole => whole.recordwise
  | .number | .todClock | .dtodClock | .timeDiff => false
  | _ => true

/-- An item that works on the cycle's record alone: a data field of a recordwise source, the
separators and the pad, the output items, `CONTINUE`, `ASSERT`, `ABEND` and the blocks.
Moving in the input, skipping, counters, break keys and `EOF` are left out. -/
def Item.recordwise : Item → Bool
  | .field f => f.source.recordwise
  | .fieldSeparator _ | .wordSeparator _ | .pad _ | .write | .noWrite | .continue
  | .outStream _ | .stderr | .abend _ | .jump _ => true
  | .assert cond _ | .if cond _ | .while cond _ => cond.recordwise
  | _ => false

/-! ## Shifts -/

/-- A change of run state that recordwise items cannot see: of the input streams (other
than in their current records) and of the count of cycles they answered, lines put before
what each output holds, more written lines and cycles, and the clock readings taken and the
start time; counters, break keys, finished skips and the run-out flag are set back to a
fresh run's. -/
structure Shift where
  inputs : List InputStream → List InputStream
  streamCycles : Nat
  sinkLines : Nat → List String
  errLines : List String
  lines : Nat
  cycles : Nat
  clockReads : Nat → Nat := id
  startMicros : Int → Int := id

namespace Shift

def streamsOf (F : Shift) (ss : Streams) : Streams :=
  { ss with inputs := F.inputs ss.inputs, cycles := ss.cycles + F.streamCycles }

/-- The shifted outputs; lines are kept last first, so earlier lines go after. -/
def outputsOf (F : Shift) (o : Outputs) : Outputs :=
  { o with
      sinks := o.sinks.map fun p => (p.1, p.2 ++ F.sinkLines p.1),
      errLines := o.errLines ++ F.errLines, lines := o.lines + F.lines }

def apply (F : Shift) (s : RunState) : RunState :=
  { s with
      streams := F.streamsOf s.streams, outputs := F.outputsOf s.outputs,
      cycle := s.cycle + F.cycles, counters := [], breaks := [], skipDone := [],
      inRunout := false, clockReads := F.clockReads s.clockReads,
      startMicros := F.startMicros s.startMicros }

/-- A shift that keeps the current record of the selected stream, and lets it be asked as
before. -/
structure Lawful (F : Shift) : Prop where
  record : ∀ ss, (F.streamsOf ss).record = ss.record
  ask : ∀ {α : Type} (q : Record → α × Record) (ss : Streams),
    (Streams.askRecord q).run (F.streamsOf ss) =
      (((Streams.askRecord q).run ss).1, F.streamsOf ((Streams.askRecord q).run ss).2)

theorem lawful_of_map {F : Shift} {g : InputStream → InputStream} (hF : ∀ l, F.inputs l = l.map g)
    (hid : ∀ s, (g s).id = s.id) (hcur : ∀ s, (g s).current = s.current)
    (hset : ∀ s r, g (s.setCurrent r) = (g s).setCurrent r) : F.Lawful where
  record ss := Streams.record_map hid hcur (hF ss.inputs) rfl
  ask q ss := by
    have h := Streams.askRecord_map hid hcur hset F.streamCycles q ss
    simp only [streamsOf, hF] at h ⊢
    exact h

end Shift

/-! ## Transparent steps -/

def outputKeys (o : Outputs) : List Nat := o.sinks.map (·.1)

variable {F : Shift} {α β : Type}

/-- Running `m` on a shifted state gives the same result and the shifted final state. -/
def Commutes (F : Shift) (m : Run α) : Prop :=
  ∀ s, m.exec (F.apply s) = ((m.exec s).1, F.apply (m.exec s).2)

/-- `m` keeps the streams of distinct numbers, but for which one is selected and the views
their current records keep, and the output streams' numbers. -/
def Keeps (m : Run α) : Prop :=
  ∀ s, ((s.streams.inputs.map (·.id)).Nodup → (m.exec s).2.streams.plain = s.streams.plain) ∧
    outputKeys (m.exec s).2.outputs = outputKeys s.outputs

/-- A step that cannot tell a shifted state from the state itself. -/
def Transparent (F : Shift) (m : Run α) : Prop := Commutes F m ∧ Keeps m

theorem Commutes.bind {m : Run α} {f : α → Run β} (hm : Commutes F m)
    (hf : ∀ a, Commutes F (f a)) : Commutes F (m >>= f) := by
  intro s
  rw [Eval.exec_bind, Eval.exec_bind, hm s]
  rcases m.exec s with ⟨_ | a, s₁⟩
  · rfl
  · exact hf a s₁

theorem Keeps.bind {m : Run α} {f : α → Run β} (hm : Keeps m) (hf : ∀ a, Keeps (f a)) :
    Keeps (m >>= f) := by
  intro s
  obtain ⟨hsel, hkeys⟩ := hm s
  rw [Eval.exec_bind]
  rcases h : m.exec s with ⟨_ | a, s₁⟩
  all_goals rw [h] at hsel hkeys
  · exact ⟨hsel, hkeys⟩
  · obtain ⟨hsel₁, hkeys₁⟩ := hf a s₁
    refine ⟨fun hnd => ?_, hkeys₁.trans hkeys⟩
    -- the first step keeps the numbers of the streams, so they stay distinct
    have hnd₁ : (s₁.streams.inputs.map (·.id)).Nodup := by
      rw [← Streams.ids_plain, hsel hnd, Streams.ids_plain]
      exact hnd
    exact (hsel₁ hnd₁).trans (hsel hnd)

theorem Transparent.bind {m : Run α} {f : α → Run β} (hm : Transparent F m)
    (hf : ∀ a, Transparent F (f a)) : Transparent F (m >>= f) :=
  ⟨hm.1.bind fun a => (hf a).1, hm.2.bind fun a => (hf a).2⟩

theorem transparent_pure (a : α) : Transparent F (pure a : Run α) :=
  ⟨fun _ => rfl, fun _ => ⟨fun _ => rfl, rfl⟩⟩

theorem transparent_ofExcept (x : Except Fault α) : Transparent F (Eval.ofExcept x : Run α) :=
  ⟨fun _ => rfl, fun _ => ⟨fun _ => rfl, rfl⟩⟩

theorem transparent_throw (e : Fault) : Transparent F (throw e : Run α) :=
  ⟨fun _ => rfl, fun _ => ⟨fun _ => rfl, rfl⟩⟩

theorem transparent_get_bind {k : RunState → Run α} (hk : ∀ s, k (F.apply s) = k s)
    (h : ∀ s, Transparent F (k s)) : Transparent F (get >>= k) := by
  refine ⟨fun s => ?_, fun s => ?_⟩
  · simp only [Eval.exec_bind, Eval.exec_get, hk]
    exact (h s).1 s
  · simp only [Eval.exec_bind, Eval.exec_get]
    exact (h s).2 s

theorem transparent_modify {g : RunState → RunState} (hg : ∀ s, g (F.apply s) = F.apply (g s))
    (hsel : ∀ s, (g s).streams.plain = s.streams.plain)
    (hkeys : ∀ s, outputKeys (g s).outputs = outputKeys s.outputs) : Transparent F (modify g) :=
  ⟨fun s => by rw [Eval.exec_modify, Eval.exec_modify, hg], fun s => ⟨fun _ => hsel s, hkeys s⟩⟩

/-! ## The outputs under a shift -/

namespace Shift

theorem setBuffer_outputsOf (o : Outputs) (t : Target) (b : Buffer) :
    (F.outputsOf o).setBuffer t b = F.outputsOf (o.setBuffer t b) := rfl

theorem buffer_outputsOf (o : Outputs) : (F.outputsOf o).buffer = o.buffer := rfl

theorem modifyBuffer_outputsOf (o : Outputs) (g : Buffer → Buffer) :
    (F.outputsOf o).modifyBuffer g = F.outputsOf (o.modifyBuffer g) := rfl

theorem emit_outputsOf (o : Outputs) (t : Target) (line : String) :
    (F.outputsOf o).emit t line = (o.emit t line).map F.outputsOf := by
  cases t with
  | stream n =>
    have hany : (F.outputsOf o).sinks.any (·.1 == n) = o.sinks.any (·.1 == n) := by
      simp only [outputsOf, List.any_map, Function.comp_def]
    simp only [Outputs.emit, hany]
    split
    · simp only [except_pure_eq, Except.map, outputsOf, List.map_map, Function.comp_def,
        Except.ok.injEq, Outputs.mk.injEq, Nat.add_right_comm _ F.lines 1, and_true]
      -- the line goes before the lines put after the stream's own
      refine List.map_congr_left fun p _ => ?_
      split <;> simp_all
    · rfl
  | stderr =>
    simp only [Outputs.emit, except_pure_eq, Except.map, outputsOf, List.cons_append,
      Nat.add_right_comm _ F.lines 1]

theorem write_outputsOf (o : Outputs) : (F.outputsOf o).write = o.write.map F.outputsOf := by
  simp only [Outputs.write, buffer_outputsOf, setBuffer_outputsOf]
  exact emit_outputsOf _ _ _

theorem flushIfDirty_outputsOf (o : Outputs) (t : Target) :
    (F.outputsOf o).flushIfDirty t = (o.flushIfDirty t).map F.outputsOf := by
  have hbuf : (F.outputsOf o).buffers = o.buffers := rfl
  unfold Outputs.flushIfDirty
  rw [hbuf]
  rcases o.buffers.lookup t with _ | b
  · rfl
  · by_cases hd : b.dirty
    · simp only [hd, if_true, setBuffer_outputsOf, emit_outputsOf]
    · simp only [hd, Bool.false_eq_true, if_false]
      rfl

theorem select_outputsOf (o : Outputs) (t : Target) :
    (F.outputsOf o).select t = (o.select t).map F.outputsOf := by
  -- selecting another target first writes out the one left
  have hflush : ∀ x : Except Fault Outputs, (do
      let o ← x.map F.outputsOf
      pure { o with active := t } : Except Fault Outputs) =
        (do let o ← x; pure { o with active := t }).map F.outputsOf := by
    intro x
    cases x <;> rfl
  have hany : ∀ n, (F.outputsOf o).sinks.any (·.1 == n) = o.sinks.any (·.1 == n) := by
    intro n
    simp only [outputsOf, List.any_map, Function.comp_def]
  have hswitch : (if t == (F.outputsOf o).active then pure (F.outputsOf o) else do
        let o ← (F.outputsOf o).flushIfDirty (F.outputsOf o).active
        pure { o with active := t } : Except Fault Outputs) =
      (if t == o.active then pure o else do
        let o ← o.flushIfDirty o.active
        pure { o with active := t }).map F.outputsOf := by
    rw [show (F.outputsOf o).active = o.active from rfl]
    split
    · rfl
    · rw [flushIfDirty_outputsOf]
      exact hflush _
  cases t with
  | stream n =>
    simp only [Outputs.select, hany]
    split
    · rfl
    · exact hswitch
  | stderr => exact hswitch

theorem foldlM_flushIfDirty_outputsOf (ts : List Target) (o : Outputs) :
    ts.foldlM (fun (o : Outputs) t => o.flushIfDirty t) (F.outputsOf o) =
      (ts.foldlM (fun (o : Outputs) t => o.flushIfDirty t) o).map F.outputsOf := by
  induction ts generalizing o with
  | nil => rfl
  | cons t ts ih =>
    simp only [List.foldlM_cons, flushIfDirty_outputsOf]
    rcases o.flushIfDirty t with e | o₁
    · rfl
    · exact ih o₁

theorem endCycle_outputsOf (o : Outputs) :
    (F.outputsOf o).endCycle = o.endCycle.map F.outputsOf := by
  -- the buffers all end empty, whichever lines they wrote
  have hclear : ∀ x : Except Fault Outputs, (do
      let o ← x.map F.outputsOf
      pure { o with buffers := [], active := .stream 1 } : Except Fault Outputs) =
        (do let o ← x; pure { o with buffers := [], active := .stream 1 }).map F.outputsOf := by
    intro x
    cases x <;> rfl
  unfold Outputs.endCycle
  rw [show (F.outputsOf o).buffers = o.buffers from rfl, foldlM_flushIfDirty_outputsOf]
  exact hclear _

theorem discardAll_outputsOf (o : Outputs) :
    (F.outputsOf o).discardAll = F.outputsOf o.discardAll := rfl

theorem nowrite_outputsOf (o : Outputs) : (F.outputsOf o).nowrite = F.outputsOf o.nowrite := rfl

end Shift

/-! ## The output streams' numbers -/

theorem emit_keys {o o' : Outputs} {t : Target} {line : String} (h : o.emit t line = .ok o') :
    outputKeys o' = outputKeys o := by
  cases t with
  | stream n =>
    simp only [Outputs.emit] at h
    split at h
    · cases h
      simp only [outputKeys, List.map_map, Function.comp_def]
      refine List.map_congr_left fun p _ => ?_
      split <;> rfl
    · cases h
  | stderr =>
    cases h
    rfl

theorem write_keys {o o' : Outputs} (h : o.write = .ok o') : outputKeys o' = outputKeys o :=
  emit_keys (o := o.setBuffer o.active {}) h

theorem flushIfDirty_keys {o o' : Outputs} {t : Target} (h : o.flushIfDirty t = .ok o') :
    outputKeys o' = outputKeys o := by
  unfold Outputs.flushIfDirty at h
  split at h
  · split at h
    · exact emit_keys (o := o.setBuffer t {}) h
    · cases h
      rfl
  · cases h
    rfl

theorem select_keys {o o' : Outputs} {t : Target} (h : o.select t = .ok o') :
    outputKeys o' = outputKeys o := by
  -- past the check, either nothing changes or the buffer left is written out
  have hswitch : ∀ {x : Except Fault Outputs}, (if t == o.active then pure o else do
      let o ← o.flushIfDirty o.active
      pure { o with active := t }) = x → x = .ok o' → outputKeys o' = outputKeys o := by
    intro x hx hok
    subst hx
    split at hok
    · cases hok
      rfl
    · rcases hf : o.flushIfDirty o.active with e | o₁
      · rw [hf] at hok
        cases hok
      · rw [hf] at hok
        cases hok
        have hkeys := flushIfDirty_keys hf
        exact hkeys
  cases t with
  | stream n =>
    simp only [Outputs.select] at h
    split at h
    · cases h
    · exact hswitch rfl h
  | stderr => exact hswitch rfl h

theorem foldlM_flushIfDirty_keys :
    ∀ {ts : List Target} {o o' : Outputs},
      ts.foldlM (fun (o : Outputs) t => o.flushIfDirty t) o = .ok o' → outputKeys o' = outputKeys o
  | [], o, o', h => by
    cases h
    rfl
  | t :: ts, o, o', h => by
    simp only [List.foldlM_cons] at h
    rcases hf : o.flushIfDirty t with e | o₁
    · rw [hf] at h
      cases h
    · rw [hf] at h
      exact (foldlM_flushIfDirty_keys h).trans (flushIfDirty_keys hf)

theorem endCycle_keys {o o' : Outputs} (h : o.endCycle = .ok o') : outputKeys o' = outputKeys o := by
  unfold Outputs.endCycle at h
  rcases hf : (o.buffers.map (·.1)).foldlM (fun (o : Outputs) t => o.flushIfDirty t) o with e | o₁
  · rw [hf] at h
    cases h
  · rw [hf] at h
    cases h
    -- clearing the buffers keeps the sinks, so the keys are those after the writes
    exact (foldlM_flushIfDirty_keys hf : outputKeys o₁ = outputKeys o)

/-! ## Recordwise steps are transparent -/

theorem transparent_onOutputs {f : Outputs → Except Fault Outputs}
    (hf : ∀ o, f (F.outputsOf o) = (f o).map F.outputsOf)
    (hk : ∀ {o o'}, f o = .ok o' → outputKeys o' = outputKeys o) : Transparent F (onOutputs f) := by
  refine ⟨fun s => ?_, fun s => ?_⟩
  · simp only [onOutputs, Eval.exec_bind, Eval.exec_get, Eval.exec_ofExcept]
    rw [show (F.apply s).outputs = F.outputsOf s.outputs from rfl, hf]
    rcases f s.outputs with e | o <;> rfl
  · simp only [onOutputs, Eval.exec_bind, Eval.exec_get, Eval.exec_ofExcept]
    rcases h : f s.outputs with e | o
    · exact ⟨fun _ => rfl, rfl⟩
    · exact ⟨fun _ => rfl, hk h⟩

section Steps

variable {env : Setting}

theorem transparent_bindField (id : Char) (text : String) : Transparent F (bindField id text) := by
  unfold bindField
  have hf : ∀ s, (F.apply s).fields = s.fields := fun _ => rfl
  refine ⟨fun s => ?_, fun s => ?_⟩
  · simp only [Eval.exec_bind, Eval.exec_get, hf]
    by_cases h : (s.fields.lookup id).isSome
    · simp only [h, if_true, Eval.exec_bind, Eval.exec_throw]
    · simp only [h, Bool.false_eq_true, if_false, Eval.exec_set]
      rfl
  · simp only [Eval.exec_bind, Eval.exec_get]
    split
    · exact ⟨fun _ => rfl, rfl⟩
    · exact ⟨fun _ => rfl, rfl⟩

theorem positionFunction_other {name : String} (h : name ∉ positionFunctions) (args : List Value)
    (s : RunState) : (positionFunction name args).exec s = (.ok none, s) := by
  simp only [positionFunctions, List.mem_cons, List.not_mem_nil, or_false, not_or] at h
  obtain ⟨h₁, h₂, h₃, h₄⟩ := h
  unfold positionFunction
  simp only [Eval.exec_bind, Eval.exec_get]
  rfl

theorem transparent_positionFunction {name : String} (h : name ∉ positionFunctions)
    (args : List Value) : Transparent F (positionFunction name args) := by
  refine ⟨fun s => ?_, fun s => ?_⟩
  · rw [positionFunction_other h, positionFunction_other h]
  · rw [positionFunction_other h]
    exact ⟨fun _ => rfl, rfl⟩

theorem transparent_currentRecord (hF : F.Lawful) : Transparent F currentRecord := by
  unfold currentRecord
  exact transparent_get_bind (fun s => congrArg Eval.ofExcept (hF.record s.streams))
    fun _ => transparent_ofExcept _

theorem transparent_askRecord (hF : F.Lawful) {q : Record → α × Record}
    (hq : ∀ r, (q r).2.text = r.text) : Transparent F (askRecord q) := by
  refine ⟨fun s => ?_, fun s => ⟨?_, rfl⟩⟩
  · rw [askRecord, exec_streamStep, exec_streamStep,
      show (F.apply s).streams = F.streamsOf s.streams from rfl, hF.ask]
    rfl
  · intro hnd
    rw [askRecord, exec_streamStep, Streams.askRecord_run]
    rcases ha : s.streams.active with e | t
    · rfl
    · -- the one stream of the number asked gets back a record of the same text
      have ht := Streams.mem_of_active ha
      simp only [Streams.plain, Streams.update, List.map_map]
      congr 1
      refine List.map_congr_left fun u hu => ?_
      simp only [Function.comp_apply]
      split
      · rename_i hid
        obtain rfl : u = t := List.inj_on_of_nodup_map hnd hu ht (beq_iff_eq.mp hid)
        simp [InputStream.setCurrent, hq]
      · rfl

theorem transparent_recordFunction (hF : F.Lawful) (name : String) (args : List Value) :
    Transparent F (recordFunction env name args) := by
  unfold recordFunction
  refine transparent_get_bind (fun _ => rfl) fun s => ?_
  -- each function of the record is checks, reads and questions of the current record
  split
  all_goals repeat
    first
    | exact transparent_pure _
    | exact transparent_ofExcept _
    | exact transparent_currentRecord hF
    | with_reducible exact transparent_askRecord hF fun _ => by simp
    | refine Transparent.bind ?_ fun _ => ?_
    | split

theorem transparent_callFunction (hF : F.Lawful) {name : String}
    (h : name ∉ positionFunctions) (args : List Value) :
    Transparent F (callFunction env name args) := by
  unfold callFunction
  refine (transparent_positionFunction h args).bind fun r => ?_
  rcases r with _ | v
  · refine (transparent_recordFunction hF name args).bind fun r => ?_
    rcases r with _ | v
    -- a built-in function, one from outside, or none: no state in any of them
    · repeat
        first
        | exact transparent_ofExcept _
        | exact transparent_throw _
        | split
    · exact transparent_pure _
  · exact transparent_pure _

mutual
theorem eval_transparent (hF : F.Lawful) :
    ∀ e : Expr, e.recordwise → Transparent F (e.eval (scope env))
  | .lit _, _ => transparent_pure _
  | .field _, _ => transparent_get_bind (fun _ => rfl) fun _ => transparent_ofExcept _
  | .config _, _ => transparent_get_bind (fun _ => rfl) fun _ => transparent_ofExcept _
  | .unary _ e, h => (eval_transparent hF e h).bind fun _ => transparent_ofExcept _
  | .binary op l r, h => by
    obtain ⟨hl, hr⟩ : l.recordwise ∧ r.recordwise := by simpa [Expr.recordwise] using h
    have il := eval_transparent hF l hl
    have ir := eval_transparent hF r hr
    cases op
    all_goals first
      | exact il.bind fun _ => ir.bind fun _ => transparent_ofExcept _
      | exact il.bind fun _ => by
          split
          · exact transparent_pure _
          · exact ir.bind fun _ => transparent_pure _
  | .call name args, h => by
    obtain ⟨hn, hargs⟩ : name ∉ positionFunctions ∧ Expr.recordwiseArgs args := by
      simpa [Expr.recordwise] using h
    exact (evalArgs_transparent hF args hargs).bind fun vs => transparent_callFunction hF hn vs
  | .counter _, h | .assign .., h | .controlBreak _, h => absurd h (by simp [Expr.recordwise])
theorem evalArgs_transparent (hF : F.Lawful) :
    ∀ args : List (Option Expr), Expr.recordwiseArgs args →
    Transparent F (Expr.evalArgs (scope env) args)
  | [], _ => transparent_pure _
  | none :: rest, h => (evalArgs_transparent hF rest h).bind fun _ => transparent_pure _
  | some e :: rest, h => by
    obtain ⟨he, hr⟩ : e.recordwise ∧ Expr.recordwiseArgs rest := by
      simpa [Expr.recordwiseArgs] using h
    exact (eval_transparent hF e he).bind fun _ =>
      (evalArgs_transparent hF rest hr).bind fun _ => transparent_pure _
end

theorem evaluate_transparent (hF : F.Lawful) {e : Expr} (h : e.recordwise) :
    Transparent F (evaluate env e) :=
  eval_transparent hF e h

theorem sourceText_transparent (hF : F.Lawful) :
    ∀ src : Source, src.recordwise → Transparent F (sourceText env src)
  | .range _, _ => (transparent_currentRecord hF).bind fun _ => transparent_pure _
  | .words _, _ | .fields _, _ =>
    transparent_get_bind (fun _ => rfl) fun _ => transparent_askRecord hF fun _ => by simp
  | .literal _, _ => transparent_pure _
  | .id _, _ => transparent_get_bind (fun _ => rfl) fun _ => by
    split
    · exact transparent_pure _
    · exact transparent_throw _
  | .print _, h => (evaluate_transparent hF h).bind fun _ => transparent_pure _
  | .substring _ whole, h => (sourceText_transparent hF whole h).bind fun _ =>
    transparent_get_bind (fun _ => rfl) fun _ => transparent_pure _
  | .number, h | .todClock, h | .dtodClock, h | .timeDiff, h => absurd h (by decide)

theorem transparent_putField (hF : F.Lawful) (f : DataField) (hf : f.source.recordwise) :
    Transparent F (putField env f) := by
  unfold putField
  refine (sourceText_transparent hF f.source hf).bind fun raw => ?_
  dsimp only
  -- the label, the conversion, then the placement, which only changes the buffers
  repeat
    first
    | exact transparent_pure _
    | exact transparent_ofExcept _
    | exact transparent_bindField _ _
    | exact transparent_modify (fun _ => rfl) (fun _ => rfl) (fun _ => rfl)
    | refine Transparent.bind ?_ fun _ => ?_
    | split

theorem step_transparent (hF : F.Lawful) : ∀ i : Item, i.recordwise → Transparent F (step env i)
  | .field f, h => transparent_putField hF f h
  | .fieldSeparator _, _ | .wordSeparator _, _ | .pad _, _ | .noWrite, _ =>
    transparent_modify (fun _ => rfl) (fun _ => rfl) (fun _ => rfl)
  | .write, _ => transparent_onOutputs Shift.write_outputsOf write_keys
  | .outStream _, _ => transparent_onOutputs (Shift.select_outputsOf · _) select_keys
  | .stderr, _ => transparent_onOutputs (Shift.select_outputsOf · _) select_keys
  | .assert _ _, h => (evaluate_transparent hF h).bind fun _ => by
    split
    · exact transparent_throw _
    · exact transparent_pure _
  | .abend _, _ => transparent_throw _
  | .continue, _ | .jump _, _ | .if _ _, _ | .while _ _, _ => transparent_pure _
  | .read, h | .readStop, h | .unread, h | .redo, h | .eof, h | .selectInput _, h | .set _, h
  | .break _, h | .skipWhile _, h | .skipUntil _, h => by simp [Item.recordwise] at h

theorem act_transparent (hF : F.Lawful) (pc : Nat) (i : Item) (h : i.recordwise) :
    Transparent F (act env pc i) := by
  -- `act` runs `step` on every recordwise item but `CONTINUE`
  cases i
  all_goals first
    | (simp only [Item.recordwise, Bool.false_eq_true] at h; done)
    | exact transparent_pure _
    | exact (step_transparent hF _ h).bind fun _ => transparent_pure _

theorem exec_then_pure {m : Run α} {a b : β} {s s' : RunState}
    (h : (m >>= fun _ => pure a).exec s = (.ok b, s')) : b = a := by
  obtain ⟨_, _, -, h⟩ := Eval.exec_bind_ok_inv h
  cases h
  rfl

theorem act_flow {pc : Nat} {i : Item} (h : i.recordwise) {s s' : RunState} {fl : Flow}
    (ha : (act env pc i).exec s = (.ok fl, s')) : fl = .next ∨ fl = .exit .complete := by
  cases i
  all_goals first
    | (simp only [Item.recordwise, Bool.false_eq_true] at h; done)
    | exact Or.inl (exec_then_pure ha)
    | exact Or.inr (by cases ha; rfl)

theorem execute_transparent (hF : F.Lawful) {items : Array Item} {stop : Nat}
    (hitems : ∀ i ∈ items, i.recordwise) : ∀ n pc, Transparent F (execute env items stop n pc)
  | 0, _ => transparent_pure _
  | n + 1, pc => by
    by_cases hpc : pc < stop
    · rcases hi : items[pc]? with _ | i
      · rw [execute_succ_none hpc hi]
        exact transparent_pure _
      · have hrw := hitems i (Array.mem_of_getElem? hi)
        rcases i.steers_cases with hs | ⟨c, t, hct⟩ | ⟨t, rfl⟩
        · rw [execute_succ_plain hpc hi hs]
          refine (act_transparent hF pc i hrw).bind fun fl => ?_
          cases fl with
          | next => exact execute_transparent hF hitems n (pc + 1)
          | exit o => exact transparent_pure _
        · have hc : c.recordwise := by
            rcases hct with rfl | rfl <;> exact hrw
          rw [execute_succ_test hpc hi hct]
          exact (evaluate_transparent hF hc).bind fun _ => execute_transparent hF hitems n _
        · rw [execute_succ_jump hpc hi]
          exact execute_transparent hF hitems n t
    · rw [execute_succ_past (Nat.le_of_not_lt hpc)]
      exact transparent_pure _

theorem execute_ends_of_flow {items : Array Item} {stop : Nat}
    (hflow : ∀ i ∈ items, ∀ pc {s s' : RunState} {fl : Flow},
      (act env pc i).exec s = (.ok fl, s') → fl = .next ∨ fl = .exit .complete) :
    ∀ {n pc : Nat} {s s' : RunState} {o : Outcome},
      (execute env items stop n pc).exec s = (.ok o, s') → o = .complete ∨ o = .exhausted
  | 0, _, _, _, _, h => by
    cases h
    exact Or.inr rfl
  | n + 1, pc, s, s', o, h => by
    by_cases hpc : pc < stop
    · rcases hi : items[pc]? with _ | i
      · rw [execute_succ_none hpc hi] at h
        cases h
        exact Or.inl rfl
      · rcases i.steers_cases with hs | ⟨c, t, hct⟩ | ⟨t, rfl⟩
        · rw [execute_succ_plain hpc hi hs] at h
          rcases ha : (act env pc i).exec s with ⟨_ | fl, s₁⟩
          · rw [Eval.exec_bind_error ha] at h
            cases h
          · rw [Eval.exec_bind_ok ha] at h
            rcases hflow i (Array.mem_of_getElem? hi) pc ha with rfl | rfl
            · exact execute_ends_of_flow hflow h
            · cases h
              exact Or.inl rfl
        · rw [execute_succ_test hpc hi hct] at h
          rcases hv : (evaluate env c).exec s with ⟨_ | v, s₁⟩
          · rw [Eval.exec_bind_error hv] at h
            cases h
          · rw [Eval.exec_bind_ok hv] at h
            exact execute_ends_of_flow hflow h
        · rw [execute_succ_jump hpc hi] at h
          exact execute_ends_of_flow hflow h
    · rw [execute_succ_past (Nat.le_of_not_lt hpc)] at h
      cases h
      exact Or.inl rfl

end Steps

/-! ## Cycles -/

section Cycles

variable {env : Setting} {p : Program} {fuel : Nat}

theorem beginCycle_transparent : Transparent F beginCycle :=
  transparent_modify (fun _ => rfl) (fun _ => rfl) (fun _ => rfl)

theorem finishCycle_transparent (o : Outcome) : Transparent F (finishCycle o) := by
  cases o with
  | complete =>
    exact Transparent.bind (transparent_modify (fun _ => rfl) (fun _ => rfl) (fun _ => rfl))
      fun _ => transparent_onOutputs Shift.endCycle_outputsOf endCycle_keys
  | skipped | stopped | exhausted =>
    exact transparent_modify (fun _ => rfl) (fun _ => rfl) (fun _ => rfl)

theorem countCycle_transparent :
    Transparent F (modify fun s : RunState => { s with cycle := s.cycle + 1 }) := by
  refine transparent_modify (g := fun s : RunState => { s with cycle := s.cycle + 1 })
    (fun s => ?_) (fun _ => rfl) (fun _ => rfl)
  simp only [Shift.apply, Nat.add_right_comm s.cycle F.cycles 1]

theorem runCycle_transparent (hF : F.Lawful) (hitems : ∀ i ∈ p.items, i.recordwise) :
    Transparent F (runCycle env p fuel) :=
  countCycle_transparent.bind fun _ => beginCycle_transparent.bind fun _ =>
    (execute_transparent hF hitems fuel 0).bind fun o =>
      (finishCycle_transparent o).bind fun _ => transparent_pure o

theorem runCycle_ends_of_flow
    (hflow : ∀ i ∈ p.items, ∀ pc {s s' : RunState} {fl : Flow},
      (act env pc i).exec s = (.ok fl, s') → fl = .next ∨ fl = .exit .complete)
    {s s' : RunState} {o : Outcome} (h : (runCycle env p fuel).exec s = (.ok o, s')) :
    o = .complete ∨ o = .exhausted := by
  unfold runCycle at h
  obtain ⟨_, _, -, h⟩ := Eval.exec_bind_ok_inv h
  obtain ⟨_, _, -, h⟩ := Eval.exec_bind_ok_inv h
  obtain ⟨o₁, _, he, h⟩ := Eval.exec_bind_ok_inv h
  obtain rfl := exec_then_pure h
  exact execute_ends_of_flow hflow he

theorem runCycle_ends (hitems : ∀ i ∈ p.items, i.recordwise) {s s' : RunState} {o : Outcome}
    (h : (runCycle env p fuel).exec s = (.ok o, s')) : o = .complete ∨ o = .exhausted :=
  runCycle_ends_of_flow (fun i hi _ _ _ _ ha => act_flow (hitems i hi) ha) h

theorem streamStep_commutes {β : Type} {st : Streams.Step β}
    (hst : ∀ ss, st.run (F.streamsOf ss) = ((st.run ss).1, F.streamsOf (st.run ss).2)) :
    Commutes F (streamStep st) := by
  intro s
  rw [exec_streamStep, exec_streamStep, show (F.apply s).streams = F.streamsOf s.streams from rfl,
    hst]
  rfl

theorem cycleLoop_commutes (hF : F.Lawful) (hitems : ∀ i ∈ p.items, i.recordwise)
    (hadv : ∀ ss, Streams.advanceCycle.run (F.streamsOf ss) =
      ((Streams.advanceCycle.run ss).1, F.streamsOf (Streams.advanceCycle.run ss).2)) :
    ∀ n, Commutes F (cycleLoop env p fuel n)
  | 0 => fun _ => rfl
  | n + 1 => by
    rw [cycleLoop_succ]
    refine (streamStep_commutes hadv).bind fun go => ?_
    cases go with
    | false => exact (transparent_pure true).1
    | true =>
      refine (runCycle_transparent hF hitems).1.bind fun o => ?_
      cases o with
      | complete | skipped => exact cycleLoop_commutes hF hitems hadv n
      | stopped | exhausted => exact (transparent_pure _).1

end Cycles

end Script

end ColumnSpec
