import ColumnSpec.Proofs.Run.Fuel
/-!
# What the steps of a run change

A step preserves a property of run states when it ends in a state with it, failed or not;
expressions and data fields preserve what their primitive steps preserve.
-/
namespace ColumnSpec.Script

variable {α β : Type} {P : RunState → Prop}

/-- Every run of `m` from a state with `P` ends in a state with `P`. -/
def Preserves (P : RunState → Prop) (m : Run α) : Prop := ∀ s, P s → P (m.exec s).2

/-- `m` ends in the state it started from. -/
def ReadOnly (m : Run α) : Prop := ∀ s, (m.exec s).2 = s

theorem Preserves.bind {m : Run α} {f : α → Run β} (hm : Preserves P m)
    (hf : ∀ a, Preserves P (f a)) : Preserves P (m >>= f) := by
  intro s hs
  have h₁ := hm s hs
  rw [Eval.exec_bind]
  rcases hx : m.exec s with ⟨_ | a, s₁⟩
  all_goals rw [hx] at h₁
  · exact h₁
  · exact hf a s₁ h₁

theorem ReadOnly.bind {m : Run α} {f : α → Run β} (hm : ReadOnly m) (hf : ∀ a, ReadOnly (f a)) :
    ReadOnly (m >>= f) := by
  intro s
  have h₁ := hm s
  rw [Eval.exec_bind]
  rcases hx : m.exec s with ⟨_ | a, s₁⟩
  all_goals rw [hx] at h₁
  · exact h₁
  · exact (hf a s₁).trans h₁

theorem ReadOnly.preserves {m : Run α} (h : ReadOnly m) : Preserves P m := by
  intro s hs
  rw [h s]
  exact hs

theorem readOnly_pure (a : α) : ReadOnly (pure a : Run α) := fun _ => rfl

theorem readOnly_ofExcept (x : Except Fault α) : ReadOnly (Eval.ofExcept x : Run α) := fun _ => rfl

theorem readOnly_throw (e : Fault) : ReadOnly (throw e : Run α) := fun _ => rfl

theorem readOnly_get_bind {k : RunState → Run α} (h : ∀ s, ReadOnly (k s)) :
    ReadOnly (get >>= k) := by
  intro s
  rw [Eval.exec_bind, Eval.exec_get]
  exact h s s

theorem preserves_pure (a : α) : Preserves P (pure a : Run α) := (readOnly_pure a).preserves

theorem preserves_ofExcept (x : Except Fault α) : Preserves P (Eval.ofExcept x : Run α) :=
  (readOnly_ofExcept x).preserves

theorem preserves_throw (e : Fault) : Preserves P (throw e : Run α) := (readOnly_throw e).preserves

theorem preserves_get_bind {k : RunState → Run α} (h : ∀ s, P s → Preserves P (k s)) :
    Preserves P (get >>= k) := by
  intro s hs
  rw [Eval.exec_bind, Eval.exec_get]
  exact h s hs s hs

theorem preserves_modify {g : RunState → RunState} (hg : ∀ s, P s → P (g s)) :
    Preserves P (modify g) := fun s hs => hg s hs

theorem preserves_set {t : RunState} (ht : P t) : Preserves P (set t : Run PUnit) := fun _ _ => ht

theorem Preserves.map {m : Run α} (f : α → β) (h : Preserves P m) : Preserves P (f <$> m) := by
  rw [map_eq_pure_bind]
  exact h.bind fun a => preserves_pure (f a)

theorem Preserves.discard {m : Run α} (h : Preserves P m) : Preserves P (discard m) := by
  rw [Functor.discard, LawfulFunctor.map_const]
  exact h.map _

/-! ## The functions an expression calls -/

section Functions

variable {env : Setting}

theorem positionFunction_readOnly (name : String) (args : List Value) :
    ReadOnly (positionFunction name args) := by
  unfold positionFunction
  refine readOnly_get_bind fun s => ?_
  split
  all_goals first
    | exact readOnly_pure _
    | exact (readOnly_ofExcept _).bind fun _ => readOnly_pure _

theorem currentRecord_readOnly : ReadOnly currentRecord :=
  readOnly_get_bind fun _ => readOnly_ofExcept _

/-- `P` is kept by asking the current record any question that keeps the record's text. -/
abbrev AsksKeep (P : RunState → Prop) : Prop :=
  ∀ {α : Type} (q : Record → α × Record), (∀ r, (q r).2.text = r.text) → Preserves P (askRecord q)

theorem asksKeep_of_streams (h : ∀ s ss, P s → P { s with streams := ss }) : AsksKeep P :=
  fun _ _ s hs => by
    rw [askRecord, exec_streamStep]
    exact h s _ hs

theorem recordFunction_preserves (hask : AsksKeep P) (name : String) (args : List Value) :
    Preserves P (recordFunction env name args) := by
  unfold recordFunction
  refine preserves_get_bind fun s _ => ?_
  -- each function of the record is checks, reads and questions of the current record
  split
  all_goals repeat
    first
    | exact preserves_pure _
    | exact preserves_ofExcept _
    | exact currentRecord_readOnly.preserves
    | with_reducible exact hask _ fun _ => by simp
    | refine Preserves.bind ?_ fun _ => ?_
    | split

theorem callFunction_preserves (hask : AsksKeep P) (name : String) (args : List Value) :
    Preserves P (callFunction env name args) := by
  unfold callFunction
  refine (positionFunction_readOnly name args).preserves.bind fun r => ?_
  rcases r with _ | v
  · refine (recordFunction_preserves hask name args).bind fun r => ?_
    rcases r with _ | v
    · repeat
        first
        | exact preserves_ofExcept _
        | exact preserves_throw _
        | split
    · exact preserves_pure _
  · exact preserves_pure _

end Functions

/-! ## Expressions -/

section Eval

variable {env : Setting}

mutual
theorem eval_preserves (hc : ∀ s n v, P s → P { s with counters := s.counters.set n v })
    (hb : ∀ c, Preserves P (trackBreak c)) (hask : AsksKeep P) :
    ∀ e : Expr, Preserves P (e.eval (scope env))
  | .lit _ => preserves_pure _
  | .counter _ => preserves_get_bind fun _ _ => preserves_pure _
  | .field _ => preserves_get_bind fun _ _ => preserves_ofExcept _
  | .config _ => preserves_get_bind fun _ _ => preserves_ofExcept _
  | .controlBreak c => (hb c).bind fun _ => preserves_pure _
  | .unary _ e => (eval_preserves hc hb hask e).bind fun _ => preserves_ofExcept _
  | .binary op l r => by
    have il := eval_preserves hc hb hask l
    have ir := eval_preserves hc hb hask r
    cases op
    all_goals first
      | exact il.bind fun _ => ir.bind fun _ => preserves_ofExcept _
      | exact il.bind fun _ => by
          split
          · exact preserves_pure _
          · exact ir.bind fun _ => preserves_pure _
  | .assign n _ e =>
    (eval_preserves hc hb hask e).bind fun _ => preserves_get_bind fun _ _ =>
      (preserves_ofExcept _).bind fun new =>
        (preserves_modify fun t ht => hc t n new ht).bind fun _ => preserves_pure _
  | .call name args =>
    (evalArgs_preserves hc hb hask args).bind fun vs => callFunction_preserves hask name vs
theorem evalArgs_preserves (hc : ∀ s n v, P s → P { s with counters := s.counters.set n v })
    (hb : ∀ c, Preserves P (trackBreak c)) (hask : AsksKeep P) :
    ∀ args : List (Option Expr), Preserves P (Expr.evalArgs (scope env) args)
  | [] => preserves_pure _
  | none :: rest => (evalArgs_preserves hc hb hask rest).bind fun _ => preserves_pure _
  | some e :: rest =>
    (eval_preserves hc hb hask e).bind fun _ =>
      (evalArgs_preserves hc hb hask rest).bind fun _ => preserves_pure _
end

theorem evaluate_preserves (hc : ∀ s n v, P s → P { s with counters := s.counters.set n v })
    (hb : ∀ c, Preserves P (trackBreak c)) (hask : AsksKeep P) (e : Expr) :
    Preserves P (evaluate env e) :=
  eval_preserves hc hb hask e

end Eval

/-! ## Sources and data fields -/

section Fields

variable {env : Setting}

theorem readClock_preserves (hclock : ∀ s, P s → P { s with clockReads := s.clockReads + 1 }) :
    Preserves P (readClock env) :=
  preserves_get_bind fun _ _ => (preserves_modify hclock).bind fun _ => preserves_pure _

theorem sourceText_preserves (heval : ∀ e, Preserves P (evaluate env e))
    (hclock : ∀ s, P s → P { s with clockReads := s.clockReads + 1 }) (hask : AsksKeep P) :
    ∀ src : Source, Preserves P (sourceText env src)
  | .range _ => Preserves.bind currentRecord_readOnly.preserves fun _ => preserves_pure _
  | .words _ | .fields _ => preserves_get_bind fun _ _ => hask _ fun _ => by simp
  | .literal _ => preserves_pure _
  | .id _ => preserves_get_bind fun _ _ => by
    split
    · exact preserves_pure _
    · exact preserves_throw _
  | .number | .todClock => preserves_get_bind fun _ _ => preserves_pure _
  | .dtodClock => (readClock_preserves hclock).bind fun _ => preserves_pure _
  | .timeDiff => (readClock_preserves hclock).bind fun _ =>
    preserves_get_bind fun _ _ => preserves_pure _
  | .print e => Preserves.bind (heval e) fun _ => preserves_pure _
  | .substring _ whole => Preserves.bind (sourceText_preserves heval hclock hask whole) fun _ =>
    preserves_get_bind fun _ _ => preserves_pure _

/-- A data field takes the text of its source first; what it does with the text keeps every
property that binding a label and changing the outputs keep. -/
theorem putField_after_source (env : Setting) (f : DataField) :
    ∃ g : String → Run Unit, putField env f = sourceText env f.source >>= g ∧
      ∀ P : RunState → Prop, (∀ c text, Preserves P (bindField c text)) →
        (∀ s o, P s → P { s with outputs := o }) → ∀ raw, Preserves P (g raw) := by
  refine ⟨_, rfl, fun P hbind hout raw => ?_⟩
  dsimp only
  -- the label, the conversion, then the placement, which only changes the buffers
  repeat
    first
    | exact preserves_pure _
    | exact preserves_ofExcept _
    | exact hbind _ _
    | exact preserves_modify fun s hs => hout s _ hs
    | refine Preserves.bind ?_ fun _ => ?_
    | split

theorem putField_preserves (f : DataField) (hsrc : Preserves P (sourceText env f.source))
    (hbind : ∀ c text, Preserves P (bindField c text))
    (hout : ∀ s o, P s → P { s with outputs := o }) : Preserves P (putField env f) := by
  obtain ⟨g, hg, hrest⟩ := putField_after_source env f
  rw [hg]
  exact Preserves.bind hsrc (hrest P hbind hout)

end Fields

/-! ## Runs of items -/

section Execute

variable {env : Setting} {items : Array Item} {stop : Nat}

theorem execute_preserves
    (hact : ∀ pc i, items[pc]? = some i → Preserves P (act env pc i))
    (heval : ∀ c, Preserves P (evaluate env c)) :
    ∀ n pc, Preserves P (execute env items stop n pc)
  | 0, _ => preserves_pure _
  | n + 1, pc => by
    by_cases hpc : pc < stop
    · rcases hi : items[pc]? with _ | i
      · rw [execute_succ_none hpc hi]
        exact preserves_pure _
      · rcases i.steers_cases with hs | ⟨c, t, hct⟩ | ⟨t, rfl⟩
        · rw [execute_succ_plain hpc hi hs]
          refine (hact pc i hi).bind fun fl => ?_
          cases fl with
          | next => exact execute_preserves hact heval n (pc + 1)
          | exit o => exact preserves_pure _
        · rw [execute_succ_test hpc hi hct]
          exact (heval c).bind fun _ => execute_preserves hact heval n _
        · rw [execute_succ_jump hpc hi]
          exact execute_preserves hact heval n t
    · rw [execute_succ_past (Nat.le_of_not_lt hpc)]
      exact preserves_pure _

end Execute

end ColumnSpec.Script
