import ColumnSpec.Proofs.Run.Breaks
/-!
# Where breaks are evaluated

`BreakIn`, `ActBreak`, `ExecBreak` and `CycleBreak` say where a break on `k` is evaluated;
each such break lies on the run (`OnRun`), and a run with none keeps the entry of `k`.
-/
namespace ColumnSpec

/-- Whether a binary operator evaluates its right operand once its left one gave `v`: `&` only
when `v` is true, `|` only when it is false. -/
def BinOp.evaluatesRight : BinOp → Value → Bool
  | .and, v => v.isTrue
  | .or, v => !v.isTrue
  | _, _ => true

/-- The value of a binary expression from the values of both operands. -/
def BinOp.finish : BinOp → Value → Value → Except Fault Value
  | .and, _, w | .or, _, w => .ok (.ofBool w.isTrue)
  | op, v, w => op.apply v w

namespace Script

section Shape

variable {env : Setting}

theorem evaluate_binary (op : BinOp) (l r : Expr) :
    evaluate env (.binary op l r) = evaluate env l >>= fun v =>
      if op.evaluatesRight v then evaluate env r >>= fun w => Eval.ofExcept (op.finish v w)
      else pure (.ofBool (op == .or)) := by
  by_cases ha : op = .and
  · subst ha
    rw [evaluate, Expr.eval]
    congr 1
    funext v
    -- `&` looks at its right operand exactly when the left one is true
    by_cases h : v.isTrue = true
    · rw [if_neg (by rw [h]; decide), if_pos (show BinOp.evaluatesRight .and v = true from h)]
      rfl
    · rw [if_pos (by simpa using h), if_neg (show ¬BinOp.evaluatesRight .and v = true from h)]
      rfl
  by_cases ho : op = .or
  · subst ho
    rw [evaluate, Expr.eval]
    congr 1
    funext v
    by_cases h : v.isTrue = true
    · rw [if_pos h, if_neg (show ¬BinOp.evaluatesRight .or v = true by simp [BinOp.evaluatesRight, h])]
      rfl
    · rw [if_neg h, if_pos (show BinOp.evaluatesRight .or v = true by simpa [BinOp.evaluatesRight] using h)]
      rfl
  · -- every other operator evaluates both operands
    rw [evaluate]
    cases op <;> first | contradiction | rfl

end Shape

section Sites

variable (env : Setting) (k : Char)

mutual
/-- Evaluating an expression from `s` evaluates a break on `k` at `u`. -/
inductive BreakIn : Expr → RunState → RunState → Prop
  | here {s : RunState} : BreakIn (.controlBreak k) s s
  | unary {op : UnaryOp} {e : Expr} {s u : RunState} : BreakIn e s u → BreakIn (.unary op e) s u
  | left {op : BinOp} {l r : Expr} {s u : RunState} : BreakIn l s u → BreakIn (.binary op l r) s u
  | right {op : BinOp} {l r : Expr} {s s₁ u : RunState} {v : Value} :
      (evaluate env l).exec s = (.ok v, s₁) → op.evaluatesRight v = true → BreakIn r s₁ u →
      BreakIn (.binary op l r) s u
  | assign {n : Nat} {op : AssignOp} {e : Expr} {s u : RunState} :
      BreakIn e s u → BreakIn (.assign n op e) s u
  | call {name : String} {args : List (Option Expr)} {s u : RunState} :
      ArgsBreakIn args s u → BreakIn (.call name args) s u
/-- Evaluating call arguments from `s` evaluates a break on `k` at `u`. -/
inductive ArgsBreakIn : List (Option Expr) → RunState → RunState → Prop
  | head {e : Expr} {rest : List (Option Expr)} {s u : RunState} :
      BreakIn e s u → ArgsBreakIn (some e :: rest) s u
  | omitted {rest : List (Option Expr)} {s u : RunState} :
      ArgsBreakIn rest s u → ArgsBreakIn (none :: rest) s u
  | tail {e : Expr} {rest : List (Option Expr)} {s s₁ u : RunState} {v : Value} :
      (evaluate env e).exec s = (.ok v, s₁) → ArgsBreakIn rest s₁ u → ArgsBreakIn (some e :: rest) s u
end

/-- Taking the text of a source from `s` evaluates a break on `k` at `u`. -/
inductive SourceBreak : Source → RunState → RunState → Prop
  | print {e : Expr} {s u : RunState} : BreakIn env k e s u → SourceBreak (.print e) s u
  | substring {part whole : Source} {s u : RunState} :
      SourceBreak whole s u → SourceBreak (.substring part whole) s u

/-- Running the plain item at `pc` from `s` evaluates a break on `k` at `u`. -/
inductive ActBreak (pc : Nat) : Item → RunState → RunState → Prop
  | field {f : DataField} {s u : RunState} : SourceBreak env k f.source s u → ActBreak pc (.field f) s u
  | assert {c : Expr} {src : String} {s u : RunState} :
      BreakIn env k c s u → ActBreak pc (.assert c src) s u
  | set {e : Expr} {s u : RunState} : BreakIn env k e s u → ActBreak pc (.set e) s u
  | «break» {s : RunState} : ActBreak pc (.break k) s s
  | skipWhile {c : Expr} {s u : RunState} :
      s.skipDone.contains pc = false → BreakIn env k c s u → ActBreak pc (.skipWhile c) s u
  | skipUntil {c : Expr} {s u : RunState} :
      s.skipDone.contains pc = false → BreakIn env k c s u → ActBreak pc (.skipUntil c) s u

/-- Running the items from `pc` with `n` units of fuel, from `s`, evaluates a break on `k`
at `u`. -/
inductive ExecBreak (items : Array Item) (stop : Nat) : Nat → Nat → RunState → RunState → Prop
  | test {n pc : Nat} {i : Item} {c : Expr} {t : Nat} {s u : RunState} :
      pc < stop → items[pc]? = some i → (i = .if c t ∨ i = .while c t) → BreakIn env k c s u →
      ExecBreak items stop (n + 1) pc s u
  | taken {n pc : Nat} {i : Item} {c : Expr} {t : Nat} {s s₁ u : RunState} {v : Value} :
      pc < stop → items[pc]? = some i → (i = .if c t ∨ i = .while c t) →
      (evaluate env c).exec s = (.ok v, s₁) → ExecBreak items stop n (if v.isTrue then pc + 1 else t) s₁ u →
      ExecBreak items stop (n + 1) pc s u
  | jump {n pc t : Nat} {s u : RunState} :
      pc < stop → items[pc]? = some (.jump t) → ExecBreak items stop n t s u → ExecBreak items stop (n + 1) pc s u
  | act {n pc : Nat} {i : Item} {s u : RunState} :
      pc < stop → items[pc]? = some i → i.steers = false → ActBreak env k pc i s u →
      ExecBreak items stop (n + 1) pc s u
  | next {n pc : Nat} {i : Item} {s s₁ u : RunState} :
      pc < stop → items[pc]? = some i → i.steers = false → (act env pc i).exec s = (.ok .next, s₁) →
      ExecBreak items stop n (pc + 1) s₁ u → ExecBreak items stop (n + 1) pc s u

/-- The state the items of a cycle start from: the cycle counted and its state set back. -/
def cycleBegun (a : RunState) : RunState := (beginCycle.exec { a with cycle := a.cycle + 1 }).2

/-- A break on `k` is evaluated at `u` in the cycle that starts at `a`. -/
def CycleBreak (p : Program) (fuel : Nat) (a u : RunState) : Prop :=
  ExecBreak env k p.items p.cycleEnd fuel 0 (cycleBegun a) u

end Sites

/-! ## Breaks on the run -/

section OnRun

variable {env : Setting} {k : Char} {α β : Type}

/-- `m` keeps every binding invariant. -/
def KeepsBindings (m : Run α) : Prop := ∀ P, BindingInvariant P → Preserves P m

/-- The break on `k` at `u` lies on the run from `s` that ended in `r`: every binding invariant
carries from `s` to `u`, and when the run succeeded, so did the break at `u`, and every
binding invariant carries from the state after it to the end. -/
def OnRun (k : Char) (s u : RunState) (r : Except Fault α × RunState) : Prop :=
  ∀ P, BindingInvariant P → (P s → P u) ∧
    ∀ x e, r = (.ok x, e) → ∃ v u', (trackBreak k).exec u = (.ok v, u') ∧ (P u' → P e)

theorem keepsBindings_pure (a : α) : KeepsBindings (pure a : Run α) :=
  fun _ _ => preserves_pure a

theorem keepsBindings_ofExcept (x : Except Fault α) : KeepsBindings (Eval.ofExcept x : Run α) :=
  fun _ _ => preserves_ofExcept x

theorem keepsBindings_evaluate (e : Expr) : KeepsBindings (evaluate env e) :=
  fun _ hP => hP.keeps_evaluate e

theorem keepsBindings_evalArgs {args : List (Option Expr)} :
    KeepsBindings (Expr.evalArgs (scope env) args) :=
  fun _ hP => evalArgs_preserves (fun s _ _ hs => hP.frame s _ rfl rfl hs) hP.track hP.keeps_asks args

theorem keepsBindings_setCounter (n : Nat) (v : Value) :
    KeepsBindings (modify fun t : RunState => { t with counters := t.counters.set n v }) :=
  fun _ hP => hP.keeps_modify fun _ => ⟨rfl, rfl⟩

theorem KeepsBindings.bind {m : Run α} {f : α → Run β} (hm : KeepsBindings m)
    (hf : ∀ a, KeepsBindings (f a)) : KeepsBindings (m >>= f) :=
  fun P hP => (hm P hP).bind fun a => hf a P hP

theorem onRun_trackBreak (s : RunState) : OnRun k s s ((trackBreak k).exec s) :=
  fun _ _ => ⟨id, fun x e h => ⟨x, e, h, id⟩⟩

theorem OnRun.bind_left {m : Run α} {f : α → Run β} {s u : RunState} (h : OnRun k s u (m.exec s))
    (hf : ∀ a, KeepsBindings (f a)) : OnRun k s u ((m >>= f).exec s) := by
  intro P hP
  obtain ⟨hpre, hpost⟩ := h P hP
  refine ⟨hpre, fun x e he => ?_⟩
  obtain ⟨a, s₁, hm, hfa⟩ := Eval.exec_bind_ok_inv he
  obtain ⟨v, u', ht, hcarry⟩ := hpost a s₁ hm
  refine ⟨v, u', ht, fun hu => ?_⟩
  have he' := hf a P hP s₁ (hcarry hu)
  rwa [hfa] at he'

theorem OnRun.bind_right {m : Run α} {f : α → Run β} {a : α} {s s₁ u : RunState}
    (hm : m.exec s = (.ok a, s₁)) (hk : KeepsBindings m) (h : OnRun k s₁ u ((f a).exec s₁)) :
    OnRun k s u ((m >>= f).exec s) := by
  rw [Eval.exec_bind_ok hm]
  intro P hP
  obtain ⟨hpre, hpost⟩ := h P hP
  refine ⟨fun hs => hpre ?_, hpost⟩
  have h₁ := hk P hP s hs
  rwa [hm] at h₁

theorem OnRun.discard {m : Run α} {s u : RunState} (h : OnRun k s u (m.exec s)) :
    OnRun k s u ((discard m).exec s) := by
  rw [Functor.discard, LawfulFunctor.map_const, Function.comp_apply, map_eq_pure_bind]
  exact h.bind_left fun _ => keepsBindings_pure _

theorem OnRun.get_bind {f : RunState → Run α} {s u : RunState} (h : OnRun k s u ((f s).exec s)) :
    OnRun k s u ((get >>= f).exec s) := by
  rwa [Eval.exec_bind, Eval.exec_get]

mutual
theorem BreakIn.onRun {e : Expr} {s u : RunState} :
    BreakIn env k e s u → OnRun k s u ((evaluate env e).exec s)
  | .here => by
    rw [evaluate_controlBreak]
    exact (onRun_trackBreak s).bind_left fun _ => keepsBindings_pure _
  | .unary h => by
    rw [evaluate_unary]
    exact h.onRun.bind_left fun _ => keepsBindings_ofExcept _
  | .left h => by
    rw [evaluate_binary]
    refine h.onRun.bind_left fun v => ?_
    split
    · exact (keepsBindings_evaluate _).bind fun _ => keepsBindings_ofExcept _
    · exact keepsBindings_pure _
  | .right hl hv h => by
    rw [evaluate_binary]
    refine OnRun.bind_right hl (keepsBindings_evaluate _) ?_
    rw [if_pos hv]
    exact h.onRun.bind_left fun _ => keepsBindings_ofExcept _
  | .assign h => by
    rw [evaluate_assign]
    exact h.onRun.bind_left fun _ P hP => preserves_get_bind fun _ _ =>
      (preserves_ofExcept _).bind fun _ => (keepsBindings_setCounter _ _ P hP).bind fun _ =>
        preserves_pure _
  | .call h => by
    rw [evaluate_call]
    exact h.onRun.bind_left fun vs P hP => callFunction_preserves hP.keeps_asks _ vs
theorem ArgsBreakIn.onRun {args : List (Option Expr)} {s u : RunState} :
    ArgsBreakIn env k args s u → OnRun k s u ((Expr.evalArgs (scope env) args).exec s)
  | .head h => by
    rw [evalArgs_some]
    exact h.onRun.bind_left fun _ => keepsBindings_evalArgs.bind fun _ => keepsBindings_pure _
  | .omitted h => by
    rw [evalArgs_omitted]
    exact h.onRun.bind_left fun _ => keepsBindings_pure _
  | .tail he h => by
    rw [evalArgs_some]
    exact OnRun.bind_right he (keepsBindings_evaluate _) (h.onRun.bind_left fun _ => keepsBindings_pure _)
end

theorem SourceBreak.onRun {src : Source} {s u : RunState} :
    SourceBreak env k src s u → OnRun k s u ((sourceText env src).exec s)
  | .print h => h.onRun.bind_left fun _ => keepsBindings_pure _
  | .substring h => h.onRun.bind_left fun _ _ _ => preserves_get_bind fun _ _ => preserves_pure _

theorem ActBreak.onRun {pc : Nat} {i : Item} {s u : RunState} :
    ActBreak env k pc i s u → OnRun k s u ((act env pc i).exec s)
  | .field h => by
    show OnRun k _ _ ((putField env _ >>= fun _ => pure Flow.next).exec _)
    refine OnRun.bind_left ?_ fun _ => keepsBindings_pure _
    obtain ⟨g, hg, hrest⟩ := putField_after_source env _
    rw [hg]
    exact h.onRun.bind_left fun raw P hP =>
      hrest P hP.bind (fun s _ hs => hP.frame s _ rfl rfl hs) raw
  | .assert h => by
    show OnRun k _ _ ((step env (.assert _ _) >>= fun _ => pure Flow.next).exec _)
    refine OnRun.bind_left (h.onRun.bind_left fun v _ _ => ?_) fun _ => keepsBindings_pure _
    split
    · exact preserves_throw _
    · exact preserves_pure _
  | .set h => by
    show OnRun k _ _ ((discard (evaluate env _) >>= fun _ => pure Flow.next).exec _)
    exact h.onRun.discard.bind_left fun _ => keepsBindings_pure _
  | .break => by
    show OnRun k _ _ ((discard (trackBreak k) >>= fun _ => pure Flow.next).exec _)
    exact (onRun_trackBreak _).discard.bind_left fun _ => keepsBindings_pure _
  | .skipWhile hc h | .skipUntil hc h => by
    show OnRun k _ _ ((act.skip env _ _ _).exec _)
    unfold act.skip
    refine OnRun.get_bind ?_
    rw [if_neg (by rw [hc]; decide)]
    refine h.onRun.bind_left fun v P hP => ?_
    dsimp only
    split
    · exact preserves_pure _
    · refine Preserves.bind (hP.keeps_modify ?_) fun _ => preserves_pure _
      exact fun _ => ⟨rfl, rfl⟩

theorem ExecBreak.onRun {items : Array Item} {stop : Nat} (hp : ∀ i ∈ items, i.keepsRecord)
    {n pc : Nat} {s u : RunState} :
    ExecBreak env k items stop n pc s u → OnRun k s u ((execute env items stop n pc).exec s)
  | .test hpc hi hct h => by
    rw [execute_succ_test hpc hi hct]
    exact h.onRun.bind_left fun _ _ hP => hP.keeps_execute hp _ _
  | .taken hpc hi hct hc h => by
    rw [execute_succ_test hpc hi hct]
    exact OnRun.bind_right hc (keepsBindings_evaluate _) (h.onRun hp)
  | .jump hpc hi h => by
    rw [execute_succ_jump hpc hi]
    exact h.onRun hp
  | .act hpc hi hs h => by
    rw [execute_succ_plain hpc hi hs]
    refine h.onRun.bind_left fun fl P hP => ?_
    cases fl with
    | next => exact hP.keeps_execute hp _ _
    | exit o => exact preserves_pure _
  | .next hpc hi hs ha h => by
    rw [execute_succ_plain hpc hi hs]
    exact OnRun.bind_right ha (fun _ hP => hP.keeps_act _ (hp _ (Array.mem_of_getElem? hi))) (h.onRun hp)

end OnRun

/-! ## Runs with no break on the key -/

section Entry

variable {env : Setting} {k : Char} {α β : Type}

/-- `m` leaves the entry of break key `k` as it found it. -/
def KeepsEntry (k : Char) (m : Run α) : Prop := ∀ x, Preserves (fun t => t.breaks.lookup k = x) m

theorem keepsEntry_pure (a : α) : KeepsEntry k (pure a : Run α) := fun _ => preserves_pure a

theorem keepsEntry_ofExcept (x : Except Fault α) : KeepsEntry k (Eval.ofExcept x : Run α) :=
  fun _ => preserves_ofExcept x

theorem keepsEntry_modify {g : RunState → RunState} (hg : ∀ s, (g s).breaks = s.breaks) :
    KeepsEntry k (modify g) :=
  fun _ => preserves_modify fun s hs => (congrArg (List.lookup k) (hg s)).trans hs

theorem keepsEntry_setCounter (n : Nat) (v : Value) :
    KeepsEntry k (modify fun t : RunState => { t with counters := t.counters.set n v }) :=
  keepsEntry_modify fun _ => rfl

theorem KeepsEntry.bind {m : Run α} {f : α → Run β} (hm : KeepsEntry k m)
    (hf : ∀ a, KeepsEntry k (f a)) : KeepsEntry k (m >>= f) :=
  fun x => (hm x).bind fun a => hf a x

theorem keepsEntry_trackBreak {c : Char} (hc : c ≠ k) : KeepsEntry k (trackBreak c) := by
  intro x s hs
  rcases trackBreak_state c s with h | ⟨cur, -, -, h⟩
  · rw [h]
    exact hs
  · -- tracking `c` puts an entry for `c` in front of the others
    rw [h]
    show ((c, cur) :: s.breaks).lookup k = x
    rw [lookup_cons_ne hc]
    exact hs

theorem keepsEntry_bindField (c : Char) (t : String) : KeepsEntry k (bindField c t) := by
  intro x s hs
  rw [exec_bindField]
  split
  · exact hs
  · exact hs

theorem keepsEntry_callFunction (name : String) (args : List Value) :
    KeepsEntry k (callFunction env name args) :=
  fun _ => callFunction_preserves (asksKeep_of_streams fun _ _ h => h) name args

theorem keepsEntry_onOutputs (f : Outputs → Except Fault Outputs) : KeepsEntry k (onOutputs f) :=
  fun _ => preserves_get_bind fun _ hs => (preserves_ofExcept _).bind fun _ => preserves_set hs

theorem keepsEntry_onStreams (f : Streams → Except Fault Streams) : KeepsEntry k (onStreams f) :=
  fun _ => preserves_get_bind fun _ hs => (preserves_ofExcept _).bind fun _ => preserves_set hs

theorem keepsEntry_readClock : KeepsEntry k (readClock env) :=
  fun _ => readClock_preserves fun _ hs => hs

theorem entry_bind {m : Run α} {f : α → Run β} {s : RunState}
    (hm : (m.exec s).2.breaks.lookup k = s.breaks.lookup k) (hf : ∀ a, KeepsEntry k (f a)) :
    ((m >>= f).exec s).2.breaks.lookup k = s.breaks.lookup k := by
  rw [Eval.exec_bind]
  rcases hx : m.exec s with ⟨_ | a, s₁⟩
  · rw [hx] at hm
    exact hm
  · rw [hx] at hm
    exact hf a _ s₁ hm

/-- A bind keeps the entry of `k`, or a break is found, when its first step keeps the entry and
every way it can go on keeps it or finds the break. -/
theorem entry_bind_or {Q : Prop} {m : Run α} {f : α → Run β} {s : RunState}
    (hm : (m.exec s).2.breaks.lookup k = s.breaks.lookup k)
    (hf : ∀ a s₁, m.exec s = (.ok a, s₁) →
      Q ∨ ((f a).exec s₁).2.breaks.lookup k = s₁.breaks.lookup k) :
    Q ∨ ((m >>= f).exec s).2.breaks.lookup k = s.breaks.lookup k := by
  rcases hx : m.exec s with ⟨_ | a, s₁⟩
  · rw [hx] at hm
    rw [Eval.exec_bind_error hx]
    exact Or.inr hm
  · rw [hx] at hm
    rw [Eval.exec_bind_ok hx]
    exact (hf a s₁ hx).imp id fun hr => hr.trans hm

mutual
theorem BreakIn.or_keeps : ∀ (e : Expr) (s : RunState),
    (∃ u, BreakIn env k e s u) ∨ ((evaluate env e).exec s).2.breaks.lookup k = s.breaks.lookup k
  | .lit _, _ | .counter _, _ | .field _, _ | .config _, _ => Or.inr rfl
  | .controlBreak c, s => by
    by_cases hc : c = k
    · subst hc
      exact Or.inl ⟨s, .here⟩
    · rw [evaluate_controlBreak]
      exact Or.inr (entry_bind (keepsEntry_trackBreak hc _ s rfl) fun _ => keepsEntry_pure _)
  | .unary op e, s => by
    rcases BreakIn.or_keeps e s with ⟨u, h⟩ | he
    · exact Or.inl ⟨u, .unary h⟩
    · rw [evaluate_unary]
      exact Or.inr (entry_bind he fun _ => keepsEntry_ofExcept _)
  | .binary op l r, s => by
    rcases BreakIn.or_keeps l s with ⟨u, h⟩ | hl
    · exact Or.inl ⟨u, .left h⟩
    rw [evaluate_binary]
    refine entry_bind_or hl fun v s₁ hx => ?_
    -- the right operand is evaluated only when the operator looks at it
    by_cases hv : op.evaluatesRight v = true
    · rw [if_pos hv]
      rcases BreakIn.or_keeps r s₁ with ⟨u, h⟩ | hr
      · exact Or.inl ⟨u, .right hx hv h⟩
      · exact Or.inr (entry_bind hr fun _ => keepsEntry_ofExcept _)
    · rw [if_neg hv]
      exact Or.inr rfl
  | .assign n op e, s => by
    rcases BreakIn.or_keeps e s with ⟨u, h⟩ | he
    · exact Or.inl ⟨u, .assign h⟩
    · rw [evaluate_assign]
      exact Or.inr (entry_bind he fun _ x => preserves_get_bind fun _ _ =>
        (preserves_ofExcept _).bind fun _ => (keepsEntry_setCounter _ _ x).bind fun _ => preserves_pure _)
  | .call name args, s => by
    rcases ArgsBreakIn.or_keeps args s with ⟨u, h⟩ | ha
    · exact Or.inl ⟨u, .call h⟩
    · rw [evaluate_call]
      exact Or.inr (entry_bind ha fun _ => keepsEntry_callFunction _ _)
theorem ArgsBreakIn.or_keeps : ∀ (args : List (Option Expr)) (s : RunState),
    (∃ u, ArgsBreakIn env k args s u) ∨
      ((Expr.evalArgs (scope env) args).exec s).2.breaks.lookup k = s.breaks.lookup k
  | [], _ => Or.inr rfl
  | none :: rest, s => by
    rcases ArgsBreakIn.or_keeps rest s with ⟨u, h⟩ | hr
    · exact Or.inl ⟨u, .omitted h⟩
    · rw [evalArgs_omitted]
      exact Or.inr (entry_bind hr fun _ => keepsEntry_pure _)
  | some e :: rest, s => by
    rcases BreakIn.or_keeps e s with ⟨u, h⟩ | he
    · exact Or.inl ⟨u, .head h⟩
    rw [evalArgs_some]
    refine entry_bind_or he fun v s₁ hx => ?_
    rcases ArgsBreakIn.or_keeps rest s₁ with ⟨u, h⟩ | hr
    · exact Or.inl ⟨u, .tail hx h⟩
    · exact Or.inr (entry_bind hr fun _ => keepsEntry_pure _)
end

theorem SourceBreak.or_keeps : ∀ (src : Source) (s : RunState),
    (∃ u, SourceBreak env k src s u) ∨ ((sourceText env src).exec s).2.breaks.lookup k = s.breaks.lookup k
  | .print e, s => by
    rcases BreakIn.or_keeps e s with ⟨u, h⟩ | he
    · exact Or.inl ⟨u, .print h⟩
    · exact Or.inr (entry_bind he fun _ => keepsEntry_pure _)
  | .substring part whole, s => by
    rcases SourceBreak.or_keeps whole s with ⟨u, h⟩ | hw
    · exact Or.inl ⟨u, .substring h⟩
    · exact Or.inr (entry_bind hw fun _ x => preserves_get_bind fun _ _ => preserves_pure _)
  | .range rg, s => by
    have h : ((sourceText env (.range rg)).exec s).2 = s :=
      (currentRecord_readOnly.bind fun _ => readOnly_pure _) s
    exact Or.inr (by rw [h])
  | .words _, s | .fields _, s =>
    Or.inr (preserves_get_bind (P := fun t => t.breaks.lookup k = s.breaks.lookup k)
      (fun _ _ => asksKeep_of_streams (fun _ _ h => h) _ fun _ => by simp) s rfl)
  | .literal _, _ | .number, _ | .todClock, _ => Or.inr rfl
  | .id c, s => by
    have h : ((sourceText env (.id c)).exec s).2 = s :=
      readOnly_get_bind (fun t => by
        split
        · exact readOnly_pure _
        · exact readOnly_throw _) s
    exact Or.inr (by rw [h])
  | .dtodClock, s => Or.inr (entry_bind (keepsEntry_readClock _ s rfl) fun _ => keepsEntry_pure _)
  | .timeDiff, s =>
    Or.inr (entry_bind (keepsEntry_readClock _ s rfl) fun _ x => preserves_get_bind fun _ _ => preserves_pure _)

theorem ActBreak.or_keeps (pc : Nat) (i : Item) (hi : i.keepsRecord) (s : RunState) :
    (∃ u, ActBreak env k pc i s u) ∨ ((act env pc i).exec s).2.breaks.lookup k = s.breaks.lookup k := by
  cases i with
  | field f =>
    rcases SourceBreak.or_keeps f.source s with ⟨u, h⟩ | hs
    · exact Or.inl ⟨u, .field h⟩
    refine Or.inr (entry_bind (m := putField env f) ?_ fun _ => keepsEntry_pure _)
    obtain ⟨g, hg, hrest⟩ := putField_after_source env f
    rw [hg]
    exact entry_bind hs fun raw x =>
      hrest _ (fun c t => keepsEntry_bindField c t x) (fun _ _ hx => hx) raw
  | assert c src =>
    rcases BreakIn.or_keeps c s with ⟨u, h⟩ | hc
    · exact Or.inl ⟨u, .assert h⟩
    refine Or.inr (entry_bind (m := step env (.assert c src)) ?_ fun _ => keepsEntry_pure _)
    refine entry_bind hc fun v x => ?_
    split
    · exact preserves_throw _
    · exact preserves_pure _
  | set e =>
    rcases BreakIn.or_keeps e s with ⟨u, h⟩ | he
    · exact Or.inl ⟨u, .set h⟩
    refine Or.inr (entry_bind (m := step env (.set e)) ?_ fun _ => keepsEntry_pure _)
    show ((discard (evaluate env e)).exec s).2.breaks.lookup k = _
    rw [Functor.discard, LawfulFunctor.map_const, Function.comp_apply, map_eq_pure_bind]
    exact entry_bind he fun _ => keepsEntry_pure _
  | «break» c =>
    by_cases hc : c = k
    · subst hc
      exact Or.inl ⟨s, .break⟩
    refine Or.inr (entry_bind (m := step env (.break c)) ?_ fun _ => keepsEntry_pure _)
    show ((discard (trackBreak c)).exec s).2.breaks.lookup k = _
    rw [Functor.discard, LawfulFunctor.map_const, Function.comp_apply, map_eq_pure_bind]
    exact entry_bind (keepsEntry_trackBreak hc _ s rfl) fun _ => keepsEntry_pure _
  | read | readStop | unread | redo | skipWhile _ | skipUntil _ =>
    simp only [Item.keepsRecord, Bool.false_eq_true] at hi
  | «continue» | eof => exact Or.inr rfl
  | selectInput n =>
    exact Or.inr (entry_bind (m := step env (.selectInput n)) (keepsEntry_onStreams _ _ s rfl)
      fun _ => keepsEntry_pure _)
  | write | outStream _ | stderr =>
    exact Or.inr (entry_bind (keepsEntry_onOutputs _ _ s rfl) fun _ => keepsEntry_pure _)
  | fieldSeparator _ | wordSeparator _ | pad _ | noWrite =>
    exact Or.inr (entry_bind (keepsEntry_modify (fun _ => rfl) _ s rfl) fun _ => keepsEntry_pure _)
  | abend _ => exact Or.inr rfl
  | «if» _ _ | «while» _ _ | jump _ => exact Or.inr rfl

theorem ExecBreak.or_keeps {items : Array Item} {stop : Nat} (hp : ∀ i ∈ items, i.keepsRecord) :
    ∀ (n pc : Nat) (s : RunState), (∃ u, ExecBreak env k items stop n pc s u) ∨
      ((execute env items stop n pc).exec s).2.breaks.lookup k = s.breaks.lookup k
  | 0, _, _ => Or.inr rfl
  | n + 1, pc, s => by
    by_cases hpc : pc < stop
    swap
    · rw [execute_succ_past (Nat.le_of_not_lt hpc)]
      exact Or.inr rfl
    rcases hi : items[pc]? with _ | i
    · rw [execute_succ_none hpc hi]
      exact Or.inr rfl
    rcases i.steers_cases with hs | ⟨c, t, hct⟩ | ⟨t, rfl⟩
    · -- a plain item, then the rest when it goes on
      rcases ActBreak.or_keeps pc i (hp i (Array.mem_of_getElem? hi)) s with ⟨u, h⟩ | ha
      · exact Or.inl ⟨u, .act hpc hi hs h⟩
      rw [execute_succ_plain hpc hi hs]
      refine entry_bind_or ha fun fl s₁ hx => ?_
      cases fl with
      | next =>
        rcases ExecBreak.or_keeps hp n (pc + 1) s₁ with ⟨u, h⟩ | hr
        · exact Or.inl ⟨u, .next hpc hi hs hx h⟩
        · exact Or.inr hr
      | exit o => exact Or.inr rfl
    · -- a test, then the branch it takes
      rcases BreakIn.or_keeps c s with ⟨u, h⟩ | hc
      · exact Or.inl ⟨u, .test hpc hi hct h⟩
      rw [execute_succ_test hpc hi hct]
      refine entry_bind_or hc fun v s₁ hx => ?_
      rcases ExecBreak.or_keeps hp n (if v.isTrue then pc + 1 else t) s₁ with ⟨u, h⟩ | hr
      · exact Or.inl ⟨u, .taken hpc hi hct hx h⟩
      · exact Or.inr hr
    · rw [execute_succ_jump hpc hi]
      rcases ExecBreak.or_keeps hp n t s with ⟨u, h⟩ | hr
      · exact Or.inl ⟨u, .jump hpc hi h⟩
      · exact Or.inr hr

end Entry

/-! ## The law over the cycles of a run -/

section Law

variable {env : Setting} {p : Program} {fuel : Nat} {k : Char}

theorem exec_trackBreak_ok {u u' : RunState} {v : Bool} (h : (trackBreak k).exec u = (.ok v, u')) :
    (∃ cur, u.fields.lookup k = some cur) ∧ u'.fields = u.fields ∧ (u'.breaks.lookup k).isSome := by
  rw [exec_trackBreak] at h
  rcases hf : u.fields.lookup k with _ | cur
  · rw [hf] at h
    cases h
  rw [hf] at h
  rcases hb : u.breaks.lookup k with _ | prev
  · rw [hb] at h
    cases h
    exact ⟨⟨cur, rfl⟩, rfl, by simp⟩
  · rw [hb] at h
    cases h
    exact ⟨⟨cur, rfl⟩, rfl, by rw [hb]; rfl⟩

theorem tracked_invariant (k : Char) : BindingInvariant fun u => (u.breaks.lookup k).isSome where
  frame s t _ hb hs := hb ▸ hs
  bind c text s hs := by
    rw [exec_bindField]
    split
    · exact hs
    · exact hs
  track c s hs := by
    rcases trackBreak_state c s with h | ⟨cur, -, -, h⟩
    · rw [h]
      exact hs
    rw [h]
    show (((c, cur) :: s.breaks).lookup k).isSome
    rcases eq_or_ne c k with rfl | hck
    · simp
    · rw [lookup_cons_ne hck]
      exact hs

theorem runCycle_begun (a : RunState) :
    (runCycle env p fuel).exec a =
      (execute env p.items p.cycleEnd fuel 0 >>= fun o => finishCycle o >>= fun _ => pure o).exec
        (cycleBegun a) := by
  rw [runCycle, Eval.exec_bind_ok (Eval.exec_modify _ _),
    Eval.exec_bind_ok (show beginCycle.exec _ = (.ok (), cycleBegun a) from rfl)]

theorem finishCycle_fields {o : Outcome} {x e : RunState} (h : (finishCycle o).exec x = (.ok (), e)) :
    e.fields = x.fields := by
  cases o with
  | complete => exact (finishCycle_complete h).1
  | skipped | stopped | exhausted =>
    cases h
    rfl

theorem runCycle_tracks (hp : ∀ i ∈ p.items, i.keepsRecord) {a e : RunState}
    (h : (runCycle env p fuel).exec a = (.ok .complete, e)) :
    (e.breaks.lookup k).isSome ↔ (a.breaks.lookup k).isSome ∨ ∃ w, CycleBreak env k p fuel a w := by
  rw [runCycle_begun] at h
  obtain ⟨o, x, hx, h⟩ := Eval.exec_bind_ok_inv h
  obtain ⟨_, e', hf, h⟩ := Eval.exec_bind_ok_inv h
  cases h
  rw [(finishCycle_complete hf).2 k, Option.isSome_map]
  constructor
  · intro hset
    by_cases hw : ∃ w, CycleBreak env k p fuel a w
    · exact Or.inr hw
    -- no break on `k` ran, so the entry is the one the cycle found
    have hkeep : ((execute env p.items p.cycleEnd fuel 0).exec (cycleBegun a)).2.breaks.lookup k =
        (cycleBegun a).breaks.lookup k := (ExecBreak.or_keeps hp fuel 0 (cycleBegun a)).resolve_left hw
    rw [hx] at hkeep
    exact Or.inl (hkeep ▸ hset)
  · rintro (hset | ⟨w, hw⟩)
    · have hrun : Preserves (fun u => (u.breaks.lookup k).isSome) (execute env p.items p.cycleEnd fuel 0) :=
        (tracked_invariant k).keeps_execute hp fuel 0
      have hend := hrun (cycleBegun a) hset
      rwa [hx] at hend
    · obtain ⟨-, hpost⟩ := hw.onRun hp _ (tracked_invariant k)
      obtain ⟨_, _, ht, hcarry⟩ := hpost _ x hx
      exact hcarry (exec_trackBreak_ok ht).2.2

/-- The regular cycles of a run in turn: from `s`, the cycles that started at the states of
`hist` ran to their end one after another, and the next one starts at `a`. -/
inductive Cycles (env : Setting) (p : Program) (fuel : Nat) (s : RunState) :
    List RunState → RunState → Prop
  | first {a : RunState} : (streamStep Streams.advanceCycle).exec s = (.ok true, a) → Cycles env p fuel s [] a
  | next {hist : List RunState} {b e a : RunState} {o : Outcome} :
      Cycles env p fuel s hist b → (runCycle env p fuel).exec b = (.ok o, e) →
      (o = .complete ∨ o = .skipped) → (streamStep Streams.advanceCycle).exec e = (.ok true, a) →
      Cycles env p fuel s (hist ++ [b]) a

/-- The text bound to `k` at the end of the cycle that starts at `b`. -/
def cycleText (env : Setting) (p : Program) (fuel : Nat) (k : Char) (b : RunState) : Option String :=
  ((runCycle env p fuel).exec b).2.fields.lookup k

/-- At the start of every regular cycle of a run that began with no key tracked, `k` is
tracked exactly when a break on it was evaluated in an earlier cycle, and then its entry holds
the text `k` had at the end of the cycle before, when `k` was bound in every earlier cycle. -/
theorem cycles_tracked (hp : ∀ i ∈ p.items, i.keepsRecord) {s a : RunState} {hist : List RunState}
    (hs : s.breaks = []) (hc : Cycles env p fuel s hist a)
    (hbound : ∀ b ∈ hist, (cycleText env p fuel k b).isSome) :
    ((a.breaks.lookup k).isSome ↔ ∃ b ∈ hist, ∃ w, CycleBreak env k p fuel b w) ∧
      ∀ prev, a.breaks.lookup k = some prev → hist.getLast?.bind (cycleText env p fuel k) = some prev := by
  induction hc with
  | first hx =>
    -- advancing the streams keeps the break keys, and none was tracked
    rw [(advanceCycle_keeps hx).2, hs]
    simp
  | @next hist b e a o _ hrun ho hadv ih =>
    obtain rfl := complete_of_keepsRecord hp hrun ho
    obtain ⟨hset, -⟩ := ih fun b' hb' => hbound b' (List.mem_append_left _ hb')
    obtain ⟨hf, hb⟩ := advanceCycle_keeps hadv
    have htext : cycleText env p fuel k b = e.fields.lookup k := by
      rw [cycleText, hrun]
    refine ⟨?_, fun prev hprev => ?_⟩
    · rw [hb, runCycle_tracks hp hrun, hset]
      simp only [List.mem_append, List.mem_singleton]
      constructor
      · rintro (⟨b', hb', hw⟩ | hw)
        · exact ⟨b', Or.inl hb', hw⟩
        · exact ⟨b, Or.inr rfl, hw⟩
      · rintro ⟨b', hb' | rfl, hw⟩
        · exact Or.inl ⟨b', hb', hw⟩
        · exact Or.inr hw
    · -- the end of the cycle gave the entry the text `k` had then
      obtain ⟨cur, hcur⟩ := Option.isSome_iff_exists.mp (hbound b (List.mem_append_right _ (List.mem_singleton_self b)))
      rw [htext] at hcur
      rw [hb] at hprev
      rw [List.getLast?_append, List.getLast?_singleton, Option.some_or, Option.bind_some, htext, hcur,
        runCycle_remembers hp hrun k prev cur hprev hcur]

/-- The law of control breaks. In a run of a program whose items keep the record of their
cycle, from a state with no break key tracked, where the cycles before the current one ran
to their end with `k` bound, and the current one runs to its end: every break on `k` in the
current cycle answers, and it answers true exactly when a break on `k` was evaluated in an
earlier cycle and the text `k` has in this cycle differs from the one it had in the cycle
before. So all breaks on `k` in one cycle agree. -/
theorem controlBreak_law (hp : ∀ i ∈ p.items, i.keepsRecord) {s a e : RunState}
    {hist : List RunState} {o : Outcome} (hs : s.breaks = []) (hc : Cycles env p fuel s hist a)
    (hbound : ∀ b ∈ hist, (cycleText env p fuel k b).isSome)
    (hdone : (runCycle env p fuel).exec a = (.ok o, e)) {u : RunState} (hu : CycleBreak env k p fuel a u) :
    ∃ v, ((trackBreak k).exec u).1 = .ok v ∧
      (v = true ↔ (∃ b ∈ hist, ∃ w, CycleBreak env k p fuel b w) ∧
        hist.getLast?.bind (cycleText env p fuel k) ≠ cycleText env p fuel k a) := by
  obtain ⟨hset, hprev⟩ := cycles_tracked hp hs hc hbound
  have htext : cycleText env p fuel k a = e.fields.lookup k := by
    rw [cycleText, hdone]
  rw [runCycle_begun] at hdone
  obtain ⟨o', x, hx, hfin⟩ := Eval.exec_bind_ok_inv hdone
  obtain ⟨_, e', hf, hpure⟩ := Eval.exec_bind_ok_inv hfin
  cases hpure
  -- the break at `u` sees the entry as the cycle found it, but for seeding
  have htrack : Tracking k (a.breaks.lookup k) u :=
    (hu.onRun hp _ (tracking_invariant k (a.breaks.lookup k))).1 (Or.inl rfl)
  obtain ⟨_, u', ht, -⟩ := (hu.onRun hp _ (tracked_invariant k)).2 _ x hx
  obtain ⟨⟨cur, hcur⟩, hfu', -⟩ := exec_trackBreak_ok ht
  -- `k` keeps its text to the end of the cycle
  have hend : x.fields.lookup k = some cur := by
    obtain ⟨_, u₂, ht₂, hcarry⟩ := (hu.onRun hp _ (bound_invariant k cur)).2 _ x hx
    exact hcarry ((exec_trackBreak_ok ht₂).2.1 ▸ hcur)
  rw [htext, finishCycle_fields hf, hend]
  refine ⟨breakLaw (a.breaks.lookup k) cur, (trackBreak_answers htrack hcur).1, ?_⟩
  rcases hA : a.breaks.lookup k with _ | prev
  · -- untracked: no break on `k` ran before, and the break answers no change
    have hnone : ¬∃ b ∈ hist, ∃ w, CycleBreak env k p fuel b w := by
      rw [← hset, hA]
      simp
    simp [breakLaw, hnone]
  · have hlast := hprev prev hA
    have hlooked : ∃ b ∈ hist, ∃ w, CycleBreak env k p fuel b w := by
      rw [← hset, hA]
      rfl
    rw [hlast]
    simp [breakLaw, hlooked]

/-- The data field that binds `k` to the whole record. -/
def keyField : DataField := ⟨some 'k', .range (Range.span 1 0), false, none, .next none, .left⟩

/-- A program that binds `k` to the whole record and then takes a break on it. -/
def keyedBreak : Program := { items := #[.field keyField, .break 'k'], usesInput := true }

/-- The lines `a` and `b` on stream 1, and no output stream configured. -/
def twoLines : RunState :=
  RunState.start (({} : Streams).add (InputStream.ofBytes 1 [97, 10, 98, 10])) (Outputs.withStreams [])

/-- The start of the first cycle of `keyedBreak` over `twoLines`. -/
def keyedStart₁ : RunState := ((streamStep Streams.advanceCycle).exec twoLines).2

/-- The start of the second cycle, after the first ran with fuel 3. -/
def keyedStart₂ : RunState :=
  ((streamStep Streams.advanceCycle).exec ((runCycle {} keyedBreak 3).exec keyedStart₁).2).2

/-- Over the lines `a` and `b`, the break in the second cycle answers true: a break ran in
the first cycle and the text of `k` changed from `a` to `b`. -/
theorem controlBreak_law_twoLines :
    ∃ e u, twoLines.breaks = [] ∧ Cycles {} keyedBreak 3 twoLines [keyedStart₁] keyedStart₂ ∧
      (∀ b ∈ [keyedStart₁], (cycleText {} keyedBreak 3 'k' b).isSome) ∧
      (runCycle {} keyedBreak 3).exec keyedStart₂ = (.ok .complete, e) ∧
      CycleBreak {} 'k' keyedBreak 3 keyedStart₂ u ∧ ((trackBreak 'k').exec u).1 = .ok true ∧
      ∃ v, ((trackBreak 'k').exec u).1 = .ok v ∧
        (v = true ↔ (∃ b ∈ [keyedStart₁], ∃ w, CycleBreak {} 'k' keyedBreak 3 b w) ∧
          [keyedStart₁].getLast?.bind (cycleText {} keyedBreak 3 'k') ≠
            cycleText {} keyedBreak 3 'k' keyedStart₂) := by
  have hp : ∀ i ∈ keyedBreak.items, i.keepsRecord := by
    simp [keyedBreak, Item.keepsRecord]
  -- each step of the run computed by the kernel
  have hc : Cycles {} keyedBreak 3 twoLines ([] ++ [keyedStart₁]) keyedStart₂ :=
    @Cycles.next {} keyedBreak 3 twoLines [] keyedStart₁ _ keyedStart₂ .complete
      (.first (Prod.ext (by decide +kernel) rfl)) (Prod.ext (by decide +kernel) rfl) (Or.inl rfl)
      (Prod.ext (by decide +kernel) rfl)
  have hbound : ∀ b ∈ [keyedStart₁], (cycleText {} keyedBreak 3 'k' b).isSome := by
    simp only [List.mem_singleton, forall_eq]
    decide +kernel
  have hdone : (runCycle {} keyedBreak 3).exec keyedStart₂ =
      (.ok .complete, ((runCycle {} keyedBreak 3).exec keyedStart₂).2) :=
    Prod.ext (by decide +kernel) rfl
  have hu : CycleBreak {} 'k' keyedBreak 3 keyedStart₂
      ((act {} 0 (.field keyField)).exec (cycleBegun keyedStart₂)).2 :=
    .next (by decide) rfl rfl (Prod.ext (by decide +kernel) rfl) (.act (by decide) rfl rfl .break)
  exact ⟨_, _, rfl, hc, hbound, hdone, hu, by decide +kernel, controlBreak_law hp rfl hc hbound hdone hu⟩

end Law

end Script

end ColumnSpec
