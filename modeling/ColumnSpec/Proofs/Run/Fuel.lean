import ColumnSpec.Proofs.Blocks.Execute
/-!
# The fuel of a run

The fuel bounds a run and does not steer it: a run of items that did not run out ends the
same way with more fuel (`execute_more_fuel`), and so does a run of cycles that finished
(`cycleLoop_more_fuel`).
-/
namespace ColumnSpec.Script

/-! ## The fuel of `execute` -/

section Execute

variable {env : Setting} {items : Array Item} {stop n pc : Nat}

theorem execute_succ_fuel :
    ∀ {n pc : Nat} {s s' : RunState} {r : Except Fault Outcome},
      (execute env items stop n pc).exec s = (r, s') → r ≠ .ok .exhausted →
        (execute env items stop (n + 1) pc).exec s = (r, s')
  | 0, _, _, _, _, h, hr => by
    cases h
    exact absurd rfl hr
  | n + 1, pc, s, s', r, h, hr => by
    by_cases hpc : pc < stop
    · rcases hi : items[pc]? with _ | i
      · rw [execute_succ_none hpc hi] at h ⊢
        exact h
      · rcases i.steers_cases with hs | ⟨c, t, hct⟩ | ⟨t, rfl⟩
        · rw [execute_succ_plain hpc hi hs] at h ⊢
          rw [Eval.exec_bind] at h ⊢
          rcases ha : (act env pc i).exec s with ⟨_ | fl, s₁⟩
          · rw [ha] at h
            exact h
          · rw [ha] at h
            cases fl with
            | next => exact execute_succ_fuel h hr
            | exit o => exact h
        · rw [execute_succ_test hpc hi hct] at h ⊢
          rw [Eval.exec_bind] at h ⊢
          rcases hv : (evaluate env c).exec s with ⟨_ | v, s₁⟩
          · rw [hv] at h
            exact h
          · rw [hv] at h
            exact execute_succ_fuel h hr
        · rw [execute_succ_jump hpc hi] at h ⊢
          exact execute_succ_fuel h hr
    · rw [execute_succ_past (Nat.le_of_not_lt hpc)] at h ⊢
      exact h

theorem execute_more_fuel {m : Nat} {s s' : RunState} {r : Except Fault Outcome}
    (h : (execute env items stop n pc).exec s = (r, s')) (hr : r ≠ .ok .exhausted) (hnm : n ≤ m) :
    (execute env items stop m pc).exec s = (r, s') := by
  obtain ⟨k, rfl⟩ := Nat.exists_eq_add_of_le hnm
  induction k with
  | zero => exact h
  | succ k ih => exact execute_succ_fuel (ih (Nat.le_add_right n k)) hr

end Execute

/-! ## The steps of `cycleLoop` -/

/-- One cycle of the loop, once the streams have advanced: count it, set the cycle's state
back, run the items before `EOF` and end the cycle by how they ended. -/
def runCycle (env : Setting) (p : Program) (fuel : Nat) : Run Outcome := do
  modify fun s => { s with cycle := s.cycle + 1 }
  beginCycle
  let o ← execute env p.items p.cycleEnd fuel 0
  finishCycle o
  pure o

/-- How the loop goes on after a cycle: with the next unless `READSTOP` ended the input or
the fuel ran out. -/
def afterCycle (env : Setting) (p : Program) (fuel n : Nat) : Outcome → Run Bool
  | .complete | .skipped => cycleLoop env p fuel n
  | .stopped => pure true
  | .exhausted => pure false

section Cycles

variable {env : Setting} {p : Program} {fuel n : Nat}

theorem cycleLoop_succ :
    cycleLoop env p fuel (n + 1) = streamStep Streams.advanceCycle >>= fun go =>
      if go then runCycle env p fuel >>= afterCycle env p fuel n else pure true := by
  simp only [cycleLoop, runCycle, bind_assoc, pure_bind]
  refine congrArg (streamStep Streams.advanceCycle >>= ·) (funext fun go => ?_)
  split
  · refine congrArg (_ >>= ·) (funext fun _ => congrArg (_ >>= ·) (funext fun _ => ?_))
    refine congrArg (_ >>= ·) (funext fun o => congrArg (_ >>= ·) (funext fun _ => ?_))
    cases o <;> rfl
  · rfl

theorem runCycle_more_fuel {fuel' : Nat} {s s' : RunState} {r : Except Fault Outcome}
    (h : (runCycle env p fuel).exec s = (r, s')) (hr : r ≠ .ok .exhausted) (hf : fuel ≤ fuel') :
    (runCycle env p fuel').exec s = (r, s') := by
  unfold runCycle at h ⊢
  rw [Eval.exec_bind_ok (Eval.exec_modify _ _)] at h ⊢
  rcases hb : beginCycle.exec { s with cycle := s.cycle + 1 } with ⟨_ | _, s₁⟩
  · rw [Eval.exec_bind_error hb] at h ⊢
    exact h
  · rw [Eval.exec_bind_ok hb] at h ⊢
    rcases he : (execute env p.items p.cycleEnd fuel 0).exec s₁ with ⟨r₁, s₂⟩
    -- the items did not run out, or the cycle would have ended exhausted
    have hr₁ : r₁ ≠ .ok .exhausted := by
      rintro rfl
      -- dropping the lines of a cycle cannot fail
      have hfin : (finishCycle .exhausted).exec s₂ =
          (.ok (), { s₂ with outputs := s₂.outputs.discardAll }) := rfl
      rw [Eval.exec_bind_ok he, Eval.exec_bind_ok hfin] at h
      cases h
      exact hr rfl
    rw [Eval.exec_bind, he] at h
    rw [Eval.exec_bind, execute_more_fuel he hr₁ hf]
    exact h

theorem cycleLoop_more_fuel {fuel' n' : Nat} {s s' : RunState}
    (h : (cycleLoop env p fuel n).exec s = (.ok true, s')) (hf : fuel ≤ fuel') (hn : n ≤ n') :
    (cycleLoop env p fuel' n').exec s = (.ok true, s') := by
  induction n generalizing n' s with
  | zero => cases h
  | succ n ih =>
    obtain ⟨n', rfl⟩ : ∃ m, n' = m + 1 := ⟨n' - 1, by omega⟩
    rw [cycleLoop_succ] at h ⊢
    rcases ha : (streamStep Streams.advanceCycle).exec s with ⟨_ | go, s₁⟩
    · rw [Eval.exec_bind_error ha] at h
      cases h
    · rw [Eval.exec_bind_ok ha] at h ⊢
      cases go with
      | false => exact h
      | true =>
        simp only [if_true] at h ⊢
        rcases hc : (runCycle env p fuel).exec s₁ with ⟨_ | o, s₂⟩
        · rw [Eval.exec_bind_error hc] at h
          cases h
        · rw [Eval.exec_bind_ok hc] at h
          have ho : o ≠ .exhausted := by
            rintro rfl
            cases h
          rw [Eval.exec_bind_ok (runCycle_more_fuel hc (fun h' => ho (Except.ok.inj h')) hf)]
          cases o with
          | complete => exact ih h (by omega)
          | skipped => exact ih h (by omega)
          | stopped => exact h
          | exhausted => exact absurd rfl ho

end Cycles

end ColumnSpec.Script
