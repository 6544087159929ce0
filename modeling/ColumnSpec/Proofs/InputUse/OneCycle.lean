import Mathlib
import ColumnSpec.Proofs.InputUse.Marks
import ColumnSpec.Proofs.Run.Append
import ColumnSpec.Proofs.Run.Invariant
/-!
# A program that reads no input runs as over one line

A step that neither reads nor changes the input streams and the break keys is `Blind`; so
a program not marked as reading input runs as over a one-line input.
-/
namespace ColumnSpec.Script

variable {α β : Type}

/-- `m` neither reads nor changes the input streams and the break keys: on a state with
other streams and keys it gives the same result, and its final state with them. -/
def Blind (m : Run α) : Prop :=
  ∀ s ss bk, m.exec { s with streams := ss, breaks := bk } =
    ((m.exec s).1, { (m.exec s).2 with streams := ss, breaks := bk })

theorem Blind.bind {m : Run α} {f : α → Run β} (hm : Blind m) (hf : ∀ a, Blind (f a)) :
    Blind (m >>= f) := by
  intro s ss bk
  rw [Eval.exec_bind, Eval.exec_bind, hm s ss bk]
  rcases m.exec s with ⟨_ | a, s₁⟩
  · rfl
  · exact hf a s₁ ss bk

theorem Blind.keeps {m : Run α} (h : Blind m) (s : RunState) :
    (m.exec s).2.streams = s.streams ∧ (m.exec s).2.breaks = s.breaks := by
  have hs := congrArg Prod.snd (h s s.streams s.breaks)
  have h₁ := congrArg RunState.streams hs
  have h₂ := congrArg RunState.breaks hs
  exact ⟨h₁, h₂⟩

theorem blind_pure (a : α) : Blind (pure a : Run α) := fun _ _ _ => rfl

theorem blind_ofExcept (x : Except Fault α) : Blind (Eval.ofExcept x : Run α) := fun _ _ _ => rfl

theorem blind_throw (e : Fault) : Blind (throw e : Run α) := fun _ _ _ => rfl

theorem Blind.map {m : Run α} (f : α → β) (h : Blind m) : Blind (f <$> m) := by
  rw [map_eq_pure_bind]
  exact h.bind fun a => blind_pure (f a)

theorem Blind.discard {m : Run α} (h : Blind m) : Blind (discard m) := by
  rw [Functor.discard, LawfulFunctor.map_const]
  exact h.map _

theorem blind_get_bind {k : RunState → Run α}
    (hk : ∀ s ss bk, k { s with streams := ss, breaks := bk } = k s) (h : ∀ s, Blind (k s)) :
    Blind (get >>= k) := by
  intro s ss bk
  simp only [Eval.exec_bind, Eval.exec_get, hk]
  exact h s s ss bk

theorem blind_modify {g : RunState → RunState}
    (hg : ∀ s ss bk, g { s with streams := ss, breaks := bk } =
      { g s with streams := ss, breaks := bk }) : Blind (modify g) := by
  intro s ss bk
  rw [Eval.exec_modify, Eval.exec_modify, hg]

theorem blind_onOutputs (f : Outputs → Except Fault Outputs) : Blind (onOutputs f) := by
  intro s ss bk
  simp only [onOutputs, Eval.exec_bind, Eval.exec_get, Eval.exec_ofExcept]
  rcases f s.outputs with e | o
  · rfl
  · rfl

theorem blind_bindField (id : Char) (text : String) : Blind (bindField id text) := by
  intro s ss bk
  rw [exec_bindField, exec_bindField]
  by_cases h : (s.fields.lookup id).isSome
  · simp only [h, if_true]
  · simp only [h, Bool.false_eq_true, if_false]

/-! ## Expressions that read no input -/

section Eval

variable {env : Setting}

theorem not_mem_positionFunctions {name : String} (h : recordFunctions.contains name = false) :
    name ∉ positionFunctions := by
  intro hm
  simp only [positionFunctions, List.mem_cons, List.not_mem_nil, or_false] at hm
  rcases hm with rfl | rfl | rfl | rfl
  all_goals simp [recordFunctions] at h

theorem blind_positionFunction {name : String} (h : name ∉ positionFunctions)
    (args : List Value) : Blind (positionFunction name args) := by
  intro s ss bk
  rw [positionFunction_other h, positionFunction_other h]

theorem blind_recordFunction {name : String} (h : recordFunctions.contains name = false)
    (args : List Value) : Blind (recordFunction env name args) := by
  unfold recordFunction
  refine blind_get_bind (fun _ _ _ => rfl) fun s => ?_
  -- past the choice of separator, one case per name of the record
  split
  split
  all_goals try (simp [recordFunctions] at h; done)
  all_goals repeat
    first
    | exact blind_pure _
    | exact blind_ofExcept _
    | refine Blind.bind ?_ fun _ => ?_
    | split

theorem blind_callFunction {name : String} (h : recordFunctions.contains name = false)
    (args : List Value) : Blind (callFunction env name args) := by
  unfold callFunction
  refine (blind_positionFunction (not_mem_positionFunctions h) args).bind fun r => ?_
  rcases r with _ | v
  · refine (blind_recordFunction h args).bind fun r => ?_
    rcases r with _ | v
    -- a built-in function, one from outside, or none: no state in any of them
    · repeat
        first
        | exact blind_ofExcept _
        | exact blind_throw _
        | split
    · exact blind_pure _
  · exact blind_pure _

mutual
theorem eval_blind : ∀ e : Expr, readsInput e = false → Blind (e.eval (scope env))
  | .lit _, _ => blind_pure _
  | .counter _, _ => blind_get_bind (fun _ _ _ => rfl) fun _ => blind_pure _
  | .field _, _ => blind_get_bind (fun _ _ _ => rfl) fun _ => blind_ofExcept _
  | .config _, _ => blind_get_bind (fun _ _ _ => rfl) fun _ => blind_ofExcept _
  | .unary _ e, h => (eval_blind e h).bind fun _ => blind_ofExcept _
  | .binary op l r, h => by
    obtain ⟨hl, hr⟩ : readsInput l = false ∧ readsInput r = false := by
      simpa [readsInput, Expr.anyCall] using h
    have il := eval_blind l hl
    have ir := eval_blind r hr
    cases op
    all_goals first
      | exact il.bind fun _ => ir.bind fun _ => blind_ofExcept _
      | exact il.bind fun _ => by
          split
          · exact blind_pure _
          · exact ir.bind fun _ => blind_pure _
  | .assign _ _ e, h =>
    (eval_blind e h).bind fun _ => blind_get_bind (fun _ _ _ => rfl) fun _ =>
      (blind_ofExcept _).bind fun _ => (blind_modify fun _ _ _ => rfl).bind fun _ => blind_pure _
  | .call name args, h => by
    obtain ⟨hn, hargs⟩ : recordFunctions.contains name = false ∧
        Expr.anyCallArgs (recordFunctions.contains ·) args = false := by
      simpa [readsInput, Expr.anyCall] using h
    exact (evalArgs_blind args hargs).bind fun vs => blind_callFunction hn vs
  | .controlBreak _, h => absurd h (by simp [readsInput, Expr.anyCall])
theorem evalArgs_blind : ∀ args : List (Option Expr),
    Expr.anyCallArgs (recordFunctions.contains ·) args = false →
    Blind (Expr.evalArgs (scope env) args)
  | [], _ => blind_pure _
  | none :: rest, h => (evalArgs_blind rest h).bind fun _ => blind_pure _
  | some e :: rest, h => by
    obtain ⟨he, hr⟩ : readsInput e = false ∧
        Expr.anyCallArgs (recordFunctions.contains ·) rest = false := by
      simpa [readsInput, Expr.anyCallArgs] using h
    exact (eval_blind e he).bind fun _ => (evalArgs_blind rest hr).bind fun _ => blind_pure _
end

theorem evaluate_blind {e : Expr} (h : readsInput e = false) : Blind (evaluate env e) :=
  eval_blind e h

end Eval

/-! ## Items that read no input -/

section Items

variable {env : Setting}

theorem readClock_blind : Blind (readClock env) :=
  blind_get_bind (fun _ _ _ => rfl) fun _ => (blind_modify fun _ _ _ => rfl).bind fun _ => blind_pure _

theorem sourceText_blind : ∀ src : Source, src.readsInput = false → Blind (sourceText env src)
  | .literal _, _ => blind_pure _
  | .number, _ | .todClock, _ => blind_get_bind (fun _ _ _ => rfl) fun _ => blind_pure _
  | .dtodClock, _ => readClock_blind.bind fun _ => blind_pure _
  | .timeDiff, _ => readClock_blind.bind fun _ =>
    blind_get_bind (fun _ _ _ => rfl) fun _ => blind_pure _
  | .print _, h => (evaluate_blind h).bind fun _ => blind_pure _
  | .substring _ whole, h => (sourceText_blind whole h).bind fun _ =>
    blind_get_bind (fun _ _ _ => rfl) fun _ => blind_pure _
  | .range _, h | .words _, h | .fields _, h | .id _, h => by simp [Source.readsInput] at h

theorem putField_blind (f : DataField) (hf : f.source.readsInput = false) :
    Blind (putField env f) := by
  unfold putField
  refine (sourceText_blind f.source hf).bind fun raw => ?_
  dsimp only
  -- the label, the conversion, then the placement, which only changes the buffers
  repeat
    first
    | exact blind_pure _
    | exact blind_ofExcept _
    | exact blind_bindField _ _
    | exact blind_modify fun _ _ _ => rfl
    | refine Blind.bind ?_ fun _ => ?_
    | split

theorem step_blind : ∀ i : Item, i.readsInput = false → Blind (step env i)
  | .field f, h => putField_blind f h
  | .fieldSeparator _, _ | .wordSeparator _, _ | .pad _, _ | .noWrite, _ =>
    blind_modify fun _ _ _ => rfl
  | .write, _ => blind_onOutputs _
  | .outStream n, _ => blind_onOutputs fun o => o.select (.stream n)
  | .stderr, _ => blind_onOutputs fun o => o.select .stderr
  | .assert _ _, h => (evaluate_blind h).bind fun _ => by
    split
    · exact blind_throw _
    · exact blind_pure _
  | .abend _, _ => blind_throw _
  | .set _, h => (evaluate_blind h).discard
  | .continue, _ | .jump _, _ | .if _ _, _ | .while _ _, _ => blind_pure _
  | .read, h | .readStop, h | .unread, h | .redo, h | .eof, h | .selectInput _, h | .break _, h
  | .skipWhile _, h | .skipUntil _, h => by simp [Item.readsInput] at h

theorem act_blind (pc : Nat) (i : Item) (h : i.readsInput = false) : Blind (act env pc i) := by
  cases i
  case «continue» => exact blind_pure _
  case eof | readStop | skipWhile | skipUntil => simp [Item.readsInput] at h
  all_goals exact (step_blind _ h).bind fun _ => blind_pure _

theorem execute_blind {items : Array Item} {stop : Nat} (h : ∀ i ∈ items, i.readsInput = false) :
    ∀ n pc, Blind (execute env items stop n pc)
  | 0, _ => blind_pure _
  | n + 1, pc => by
    by_cases hpc : pc < stop
    · rcases hi : items[pc]? with _ | i
      · rw [execute_succ_none hpc hi]
        exact blind_pure _
      · have hr : i.readsInput = false := h i (Array.mem_of_getElem? hi)
        rcases i.steers_cases with hs | ⟨c, t, hct⟩ | ⟨t, rfl⟩
        · rw [execute_succ_plain hpc hi hs]
          refine (act_blind pc i hr).bind fun fl => ?_
          cases fl with
          | next => exact execute_blind h n (pc + 1)
          | exit o => exact blind_pure _
        · rw [execute_succ_test hpc hi hct]
          have hc : readsInput c = false := by
            rcases hct with rfl | rfl
            · exact hr
            · exact hr
          exact (evaluate_blind hc).bind fun _ => execute_blind h n _
        · rw [execute_succ_jump hpc hi]
          exact execute_blind h n t
    · rw [execute_succ_past (Nat.le_of_not_lt hpc)]
      exact blind_pure _

theorem closeCycle_blind (o : Outcome) : Blind (closeCycle o) := by
  cases o
  case complete => exact blind_onOutputs _
  all_goals exact blind_modify fun _ _ _ => rfl

theorem finishCycle_untracked (o : Outcome) {s : RunState} (h : s.breaks = []) :
    (finishCycle o).exec s = (closeCycle o).exec s := by
  cases o
  case complete =>
    have hs : rememberBreaks.exec s = (.ok (), s) := by
      rcases s with ⟨⟩
      subst h
      rfl
    simp only [finishCycle, closeCycle, Eval.exec_bind, hs]
  all_goals rfl

end Items

/-! ## The single cycle and the cycle over one line -/

section Run

variable {env : Setting} {p : Program} {fuel : Nat}

theorem advanceCycle_oneLine {ss : Streams} {L : String}
    (hin : ss.inputs = [{ id := 1, pending := [L] }]) (hpol : ∀ n, ss.policy = .stream n → n = 1) :
    (Streams.advanceCycle.run ss).1 = .ok true ∧
      (Streams.advanceCycle.run (Streams.advanceCycle.run ss).2.resetSelection).1 = .ok false := by
  obtain ⟨h₁, hin₁, hpol₁⟩ := Streams.advanceCycle_single hin rfl hpol
  have hin₂ : (Streams.advanceCycle.run ss).2.resetSelection.inputs = [_] := hin₁
  obtain ⟨h₂, -, -⟩ := Streams.advanceCycle_single hin₂ rfl fun n hn => hpol n (hpol₁.symm.trans hn)
  refine ⟨?_, ?_⟩
  · rw [h₁]
    rfl
  · rw [h₂]
    rfl

theorem finish_untracked {m : Run Outcome} (hm : Blind m) {s : RunState} (hs : s.breaks = []) :
    (m >>= fun o => finishCycle o >>= fun _ => pure o).exec s =
      (m >>= fun o => closeCycle o >>= fun _ => pure o).exec s := by
  rw [Eval.exec_bind, Eval.exec_bind]
  rcases hx : m.exec s with ⟨_ | o, s₁⟩
  · rfl
  · have hb : s₁.breaks = [] := by
      have hk := (hm.keeps s).2
      rw [hx] at hk
      exact hk.trans hs
    dsimp only
    rw [Eval.exec_bind, Eval.exec_bind, finishCycle_untracked o hb]

theorem runCycle_exec (s : RunState) :
    (runCycle env p fuel).exec s =
      (execute env p.items p.cycleEnd fuel 0 >>= fun o => finishCycle o >>= fun _ => pure o).exec
        { s with
            cycle := s.cycle + 1, fields := [], streams := s.streams.resetSelection,
            fieldSep := '\t', wordSep := ' ', pad := ' ' } := by
  rw [runCycle, Eval.exec_bind_ok (Eval.exec_modify _ _), Eval.exec_bind_ok (x := beginCycle) rfl]

/-- From the state cycles start in, with no break key tracked and one line on stream 1, the
single cycle of a program whose items read no input ends as the loop over the line does, but
for the streams. -/
theorem once_as_loop (hitems : ∀ i ∈ p.items, i.readsInput = false) {s₀ : RunState}
    (hc : s₀.cycle = 0) (hb : s₀.breaks = [])
    (hgo₁ : (Streams.advanceCycle.run s₀.streams).1 = .ok true)
    (hgo₂ : (Streams.advanceCycle.run
      (Streams.advanceCycle.run s₀.streams).2.resetSelection).1 = .ok false) (n : Nat) :
    ∃ ss, (modify (fun s : RunState => { s with cycle := 1 }) >>= fun _ => beginCycle >>= fun _ =>
        (execute env p.items p.cycleEnd fuel 0 >>= fun o => closeCycle o >>= fun _ => pure o) >>=
          fun o => pure (o != .exhausted)).exec s₀ =
      (((cycleLoop env p fuel (n + 2)).exec s₀).1,
        { ((cycleLoop env p fuel (n + 2)).exec s₀).2 with streams := ss }) := by
  have hcyc : Blind (execute env p.items p.cycleEnd fuel 0 >>= fun o =>
      closeCycle o >>= fun _ => pure o) :=
    (execute_blind hitems _ _).bind fun o => (closeCycle_blind o).bind fun _ => blind_pure o
  -- the state the items of the loop's cycle start in
  let t : RunState := { s₀ with
    cycle := 1, fields := [], streams := (Streams.advanceCycle.run s₀.streams).2.resetSelection,
    fieldSep := '\t', wordSep := ' ', pad := ' ' }
  have hstep : (streamStep Streams.advanceCycle).exec s₀ =
      (.ok true, { s₀ with streams := (Streams.advanceCycle.run s₀.streams).2 }) := by
    rw [exec_streamStep, hgo₁]
  have hloop : (cycleLoop env p fuel (n + 2)).exec s₀ =
      ((execute env p.items p.cycleEnd fuel 0 >>= fun o => closeCycle o >>= fun _ => pure o) >>=
        afterCycle env p fuel (n + 1)).exec t := by
    rw [cycleLoop_succ, Eval.exec_bind_ok hstep, if_pos rfl, Eval.exec_bind, runCycle_exec, hc,
      finish_untracked (s := t) (execute_blind hitems _ _) hb,
      Eval.exec_bind _ (afterCycle env p fuel (n + 1)) t]
  have honce : (modify (fun s : RunState => { s with cycle := 1 }) >>= fun _ => beginCycle >>= fun _ =>
        (execute env p.items p.cycleEnd fuel 0 >>= fun o => closeCycle o >>= fun _ => pure o) >>=
          fun o => pure (o != .exhausted)).exec s₀ =
      ((execute env p.items p.cycleEnd fuel 0 >>= fun o => closeCycle o >>= fun _ => pure o) >>=
          fun o => pure (o != .exhausted)).exec
        { t with streams := s₀.streams.resetSelection, breaks := t.breaks } := by
    rw [Eval.exec_bind_ok (Eval.exec_modify _ _), Eval.exec_bind_ok (x := beginCycle) rfl]
  rw [hloop, honce, Eval.exec_bind _ (fun o : Outcome => (pure (o != .exhausted) : Run Bool)), hcyc,
    Eval.exec_bind _ (afterCycle env p fuel (n + 1)) t]
  obtain ⟨hks, hkb⟩ := hcyc.keeps t
  rcases hx : (execute env p.items p.cycleEnd fuel 0 >>= fun o =>
      closeCycle o >>= fun _ => pure o).exec t with ⟨_ | oc, t₃⟩
  all_goals rw [hx] at hks hkb
  all_goals dsimp only at hks hkb ⊢
  · exact ⟨s₀.streams.resetSelection, by rw [← hkb]⟩
  · -- after a cycle that goes on, the next advance finds the stream done
    have hstep₂ : (streamStep Streams.advanceCycle).exec t₃ =
        (.ok false, { t₃ with streams := (Streams.advanceCycle.run t₃.streams).2 }) := by
      rw [exec_streamStep, hks, hgo₂]
    have hnext : (cycleLoop env p fuel (n + 1)).exec t₃ =
        (.ok true, { t₃ with streams := (Streams.advanceCycle.run t₃.streams).2 }) := by
      rw [cycleLoop_succ, Eval.exec_bind_ok hstep₂, if_neg Bool.false_ne_true]
      rfl
    cases oc
    all_goals refine ⟨s₀.streams.resetSelection, ?_⟩
    all_goals simp only [afterCycle, hnext, Eval.exec_pure]
    all_goals rw [← hkb]
    all_goals try rfl

/-- A program whose items read no input, with no `EOF` and not marked as reading input, runs
one cycle that never advances a stream. It ends as the run forced through the input does
over a single line on stream 1, with the same result (the same fault if it fails) and the same
final state but for the input streams: the same output, counters, cycle count and all. -/
theorem run_without_input {p : Program} (hitems : ∀ i ∈ p.items, i.readsInput = false)
    (heof : p.eofAt = none) (huse : p.usesInput = false) {bytes : List Nat} {L : String}
    (hL : InputStream.linesOf bytes = [L]) (env : Setting) (o : Outputs) (fuel : Nat) :
    ∃ ss, (p.run env false (fuel + 2)).exec (RunState.onInput bytes o) =
      (((p.run env true (fuel + 2)).exec (RunState.onInput bytes o)).1,
        { ((p.run env true (fuel + 2)).exec (RunState.onInput bytes o)).2 with streams := ss }) := by
  rw [Program.run_once heof (by simp [huse]), Program.run_cycles heof (by simp),
    Eval.exec_bind, Eval.exec_bind]
  rcases hstop : (p.setUp env).exec (RunState.onInput bytes o) with ⟨_ | _, s₀⟩
  · -- the stop policy names a stream that is not there: both runs fail at once
    exact ⟨s₀.streams, rfl⟩
  dsimp only
  obtain ⟨hst, hpol⟩ := Program.setUp_start hstop
  have hb₀ : s₀.breaks = [] := by
    rw [Program.setUp_exec] at hstop
    split at hstop <;> cases hstop
    rfl
  have hin : s₀.streams.inputs = [{ id := 1, pending := [L] }] := by rw [hst.streams, hL]
  have hpol₀ : ∀ n, s₀.streams.policy = .stream n → n = 1 := by
    rw [hst.streams]
    exact hpol
  obtain ⟨hgo₁, hgo₂⟩ := advanceCycle_oneLine hin hpol₀
  exact once_as_loop hitems hst.cycle hb₀ hgo₁ hgo₂ fuel

/-- The single cycle run for a compiled program that the compiler did not mark as reading
input ends as the run forced through a single line of input on stream 1, whatever the line,
the configuration, the functions from outside and the output streams: the same result (the
same fault if it fails) and the same final state but for the input streams. -/
theorem compiled_run_without_input {ts : List Token} {p : Program} (hc : compile ts = .ok p)
    (huse : p.usesInput = false) {bytes : List Nat} {L : String}
    (hL : InputStream.linesOf bytes = [L]) (env : Setting) (o : Outputs) (fuel : Nat) :
    ∃ ss, (p.run env false (fuel + 2)).exec (RunState.onInput bytes o) =
      (((p.run env true (fuel + 2)).exec (RunState.onInput bytes o)).1,
        { ((p.run env true (fuel + 2)).exec (RunState.onInput bytes o)).2 with streams := ss }) := by
  obtain ⟨hitems, heof⟩ := compile_marks_input hc huse
  exact run_without_input hitems heof huse hL env o fuel

/-- The tokens of `/hi/ 1 PRINT '1+2' NW WRITE`. -/
def literalSumTokens : List Token :=
  [⟨.literal "hi", "/hi/", 1, 1⟩, ⟨.range ⟨1, 1, true⟩, "1", 2, 1⟩, ⟨.keyword .print, "print", 3, 1⟩,
    ⟨.literal "1+2", "'1+2'", 4, 1⟩, ⟨.nextWord none, "nw", 5, 1⟩, ⟨.keyword .write, "write", 6, 1⟩]

/-- What `literalSumTokens` compile to: a literal in column 1, the printed sum as the next
word, and `WRITE`. -/
def literalSumProgram : Program :=
  { items := #[.field ⟨none, .literal "hi", false, none, .column 1 none, .left⟩,
      .field ⟨none, .print (.binary .add (.lit (.int 1)) (.lit (.int 2))), false, none,
        .nextWord none, .left⟩,
      .write] }

/-- A literal and a printed sum read no input, and run once as over the line `a`. -/
theorem compiled_run_without_input_literalSum :
    compile literalSumTokens = .ok literalSumProgram ∧ literalSumProgram.usesInput = false ∧
    InputStream.linesOf [97, 10] = ["a"] ∧
    ∃ ss, (literalSumProgram.run {} false 2).exec
        (RunState.onInput [97, 10] (Outputs.withStreams [])) =
      (((literalSumProgram.run {} true 2).exec
          (RunState.onInput [97, 10] (Outputs.withStreams []))).1,
        { ((literalSumProgram.run {} true 2).exec
          (RunState.onInput [97, 10] (Outputs.withStreams []))).2 with streams := ss }) := by
  have hc : compile literalSumTokens = .ok literalSumProgram := by cbv
  have hL : InputStream.linesOf [97, 10] = ["a"] := by decide
  exact ⟨hc, rfl, hL, compiled_run_without_input hc rfl hL {} (Outputs.withStreams []) 0⟩

end Run

end ColumnSpec.Script
