import ColumnSpec.Proofs.Run.Invariant
import ColumnSpec.Expr.Standalone
/-!
# Compound assignment

In a scope that frames counter `n`, an expression with no assignment to `n` leaves it as it
found it (`Expr.eval_unchanged`), so `#n op= e` and `#n := #n op e` agree
(`Expr.compound_assignment_desugars`).
-/
namespace ColumnSpec

variable {σ α β : Type}

mutual
/-- Whether an expression assigns to counter `n` anywhere in it. -/
def Expr.assignsTo (n : Nat) : Expr → Bool
  | .unary _ e => e.assignsTo n
  | .binary _ l r => l.assignsTo n || r.assignsTo n
  | .assign m _ e => m == n || e.assignsTo n
  | .call _ args => Expr.argsAssignTo n args
  | _ => false
/-- `Expr.assignsTo` over call arguments. -/
def Expr.argsAssignTo (n : Nat) : List (Option Expr) → Bool
  | [] => false
  | none :: rest => Expr.argsAssignTo n rest
  | some e :: rest => e.assignsTo n || Expr.argsAssignTo n rest
end

/-! ## Steps that leave a view of the state -/

namespace Eval

/-- Every run of `m` ends in a state with the same view `f` as the state it started from. -/
def Unchanged (f : σ → β) (m : Eval σ α) : Prop := ∀ s, f (m.exec s).2 = f s

variable {f : σ → β}

theorem Unchanged.bind {γ : Type} {m : Eval σ α} {k : α → Eval σ γ} (hm : Unchanged f m)
    (hk : ∀ a, Unchanged f (k a)) : Unchanged f (m >>= k) := by
  intro s
  rw [exec_bind]
  rcases hx : m.exec s with ⟨_ | a, s₁⟩
  · have h := hm s
    rw [hx] at h
    exact h
  · have h := hm s
    rw [hx] at h
    exact (hk a s₁).trans h

theorem unchanged_pure (a : α) : Unchanged f (pure a : Eval σ α) := fun _ => rfl

theorem unchanged_ofExcept (x : Except Fault α) : Unchanged f (Eval.ofExcept x : Eval σ α) :=
  fun _ => rfl

theorem unchanged_get_bind {k : σ → Eval σ α} (hk : ∀ s, Unchanged f (k s)) :
    Unchanged f (get >>= k) := by
  intro s
  rw [exec_bind, exec_get]
  exact hk s s

theorem unchanged_modify {g : σ → σ} (hg : ∀ s, f (g s) = f s) : Unchanged f (modify g) := hg

end Eval

/-! ## Scopes that frame a counter -/

/-- Counter `n` of a scope changes only when it is set: setting another counter, a control
break and a function call leave it, whether they succeed or fail. -/
structure Scope.Frames (sc : Scope σ) (n : Nat) : Prop where
  setCounter : ∀ s m v, m ≠ n → sc.counter (sc.setCounter s m v) n = sc.counter s n
  controlBreak : ∀ c, Eval.Unchanged (sc.counter · n) (sc.controlBreak c)
  call : ∀ name args, Eval.Unchanged (sc.counter · n) (sc.call name args)

theorem Counters.get_cons (k n : Nat) (w : Value) (rest : Counters) :
    Counters.get ((k, w) :: rest) n = if n = k then w else rest.get n := by
  unfold Counters.get
  by_cases h : n = k
  · subst h
    rw [List.lookup_cons_self, if_pos rfl, Option.getD_some]
  · rw [List.lookup_cons, beq_false_of_ne h, if_neg h]

theorem Counters.get_set_ne (cs : Counters) {m n : Nat} (v : Value) (h : m ≠ n) :
    (cs.set m v).get n = cs.get n := by
  induction cs with
  | nil => simp [Counters.set, Counters.get_cons, Ne.symm h]
  | cons p rest ih =>
    obtain ⟨k, w⟩ := p
    unfold Counters.set
    by_cases hk : m < k
    · simp [hk, Counters.get_cons, Ne.symm h]
    · by_cases hmk : m = k
      · subst hmk
        simp [Counters.get_cons, Ne.symm h]
      · simp [hk, hmk, Counters.get_cons, ih]

theorem Script.scope_frames (env : Script.Setting) (n : Nat) : (Script.scope env).Frames n where
  setCounter s _ v h := Counters.get_set_ne s.counters v h
  controlBreak c s := by
    show ((Script.trackBreak c).exec s).2.counters.get n = s.counters.get n
    rw [Script.exec_trackBreak]
    rcases s.fields.lookup c with _ | current
    · rfl
    · rcases s.breaks.lookup c with _ | prev <;> rfl
  call name args s := by
    show ((Script.callFunction env name args).exec s).2.counters.get n = s.counters.get n
    -- a call changes at most the streams
    have h : ((Script.callFunction env name args).exec s).2.counters = s.counters :=
      Script.callFunction_preserves (P := fun t : Script.RunState => t.counters = s.counters)
        (Script.asksKeep_of_streams fun _ _ h => h) name args s rfl
    rw [h]

theorem Standalone.scope_frames (c : Standalone) (n : Nat) : c.scope.Frames n where
  setCounter s _ v h := Counters.get_set_ne s v h
  controlBreak id s := by
    simp only [Standalone.scope]
    split <;> rfl
  call name args s := by
    simp only [Standalone.scope]
    split <;> rfl

/-! ## Expressions that leave a counter -/

section Frame

variable {sc : Scope σ} {n : Nat}

mutual
theorem Expr.eval_unchanged (hsc : sc.Frames n) :
    ∀ e : Expr, e.assignsTo n = false → Eval.Unchanged (sc.counter · n) (e.eval sc)
  | .lit _, _ => Eval.unchanged_pure _
  | .counter _, _ => Eval.unchanged_get_bind fun _ => Eval.unchanged_pure _
  | .field _, _ => Eval.unchanged_get_bind fun _ => Eval.unchanged_ofExcept _
  | .config _, _ => Eval.unchanged_get_bind fun _ => Eval.unchanged_ofExcept _
  | .controlBreak c, _ => (hsc.controlBreak c).bind fun _ => Eval.unchanged_pure _
  | .unary _ e, he => (Expr.eval_unchanged hsc e he).bind fun _ => Eval.unchanged_ofExcept _
  | .binary op l r, he => by
    simp only [Expr.assignsTo, Bool.or_eq_false_iff] at he
    have il := Expr.eval_unchanged hsc l he.1
    have ir := Expr.eval_unchanged hsc r he.2
    -- `&` and `|` look at their right side only when the left does not decide
    cases op
    all_goals first
      | exact il.bind fun _ => ir.bind fun _ => Eval.unchanged_ofExcept _
      | exact il.bind fun _ => by
          split
          · exact Eval.unchanged_pure _
          · exact ir.bind fun _ => Eval.unchanged_pure _
  | .assign m _ e, he => by
    simp only [Expr.assignsTo, Bool.or_eq_false_iff, beq_eq_false_iff_ne] at he
    exact (Expr.eval_unchanged hsc e he.2).bind fun _ => Eval.unchanged_get_bind fun _ =>
      (Eval.unchanged_ofExcept _).bind fun new =>
        (Eval.unchanged_modify fun s => hsc.setCounter s m new he.1).bind fun _ =>
          Eval.unchanged_pure _
  | .call name args, he =>
    (Expr.evalArgs_unchanged hsc args he).bind fun vs => hsc.call name vs
theorem Expr.evalArgs_unchanged (hsc : sc.Frames n) :
    ∀ args : List (Option Expr), Expr.argsAssignTo n args = false →
      Eval.Unchanged (sc.counter · n) (Expr.evalArgs sc args)
  | [], _ => Eval.unchanged_pure _
  | none :: rest, he =>
    (Expr.evalArgs_unchanged hsc rest he).bind fun _ => Eval.unchanged_pure _
  | some e :: rest, he => by
    simp only [Expr.argsAssignTo, Bool.or_eq_false_iff] at he
    exact (Expr.eval_unchanged hsc e he.1).bind fun _ =>
      (Expr.evalArgs_unchanged hsc rest he.2).bind fun _ => Eval.unchanged_pure _
end

end Frame

/-! ## Compound assignment and its desugaring -/

theorem AssignOp.binOp?_eq_some_iff {op : AssignOp} {b : BinOp} :
    op.binOp? = some b ↔ op.symbol = b.symbol ++ "=" := by
  cases op <;> cases b <;> simp [AssignOp.symbol, BinOp.symbol, AssignOp.binOp?]

theorem AssignOp.combine_of_binOp? {op : AssignOp} {b : BinOp} (h : op.binOp? = some b)
    (old new : Value) : op.combine old new = b.apply old new := by
  rw [AssignOp.combine, h]

theorem AssignOp.binOp?_arith {op : AssignOp} {b : BinOp} (h : op.binOp? = some b) :
    b ≠ .and ∧ b ≠ .or := by
  cases op <;> simp [AssignOp.binOp?] at h <;> subst h <;> simp

theorem Expr.eval_binary {sc : Scope σ} {b : BinOp} (hb : b ≠ .and ∧ b ≠ .or) (l r : Expr) :
    (Expr.binary b l r).eval sc =
      l.eval sc >>= fun x => r.eval sc >>= fun y => Eval.ofExcept (b.apply x y) := by
  obtain ⟨ha, ho⟩ := hb
  cases b <;> first | rfl | contradiction

/-- In a scope that frames counter `n`, `#n op= e` is `#n := #n op e` whenever `e` has no
assignment to `n`: the same result or fault, and the same state after. When it fails, in `e`
or in the operator, counter `n` is left as it was. -/
theorem Expr.compound_assignment_desugars {sc : Scope σ} {n : Nat} (hsc : sc.Frames n)
    {op : AssignOp} {b : BinOp} (hop : op.symbol = b.symbol ++ "=") {e : Expr}
    (he : e.assignsTo n = false) (s : σ) :
    ((Expr.assign n op e).eval sc).exec s =
        ((Expr.assign n .set (.binary b (.counter n) e)).eval sc).exec s ∧
      ∀ f s', ((Expr.assign n op e).eval sc).exec s = (.error f, s') →
        sc.counter s' n = sc.counter s n := by
  have hb := AssignOp.binOp?_eq_some_iff.2 hop
  have hframe := Expr.eval_unchanged hsc e he s
  simp only [Expr.eval, Expr.eval_binary (AssignOp.binOp?_arith hb), AssignOp.combine_of_binOp? hb]
  simp only [Eval.exec_bind, Eval.exec_get, Eval.exec_pure, Eval.exec_ofExcept, Eval.exec_modify]
  rcases hx : (e.eval sc).exec s with ⟨_ | v, s₁⟩
  all_goals
    rw [hx] at hframe
    simp only at hframe ⊢
  · -- the right side failed: both fail there, and it left the counter
    refine ⟨trivial, fun f s' h => ?_⟩
    cases h
    exact hframe
  · -- the right side left the counter, so reading it before or after is the same
    rw [hframe]
    rcases hr : b.apply (sc.counter s n) v with f | r
    all_goals simp only
    · refine ⟨trivial, fun f' s' h => ?_⟩
      cases h
      exact hframe
    · exact ⟨rfl, fun f' s' h => by cases h⟩

/-- `#1 -= #2 * 3` in the standalone scope. -/
theorem Expr.compound_assignment_desugars_sub :
    (Standalone.scope {}).Frames 1 ∧ AssignOp.sub.symbol = BinOp.sub.symbol ++ "=" ∧
      (Expr.binary .mul (.counter 2) (.lit (.int 3))).assignsTo 1 = false ∧
      (((Expr.assign 1 .sub (.binary .mul (.counter 2) (.lit (.int 3)))).eval
          (Standalone.scope {})).exec [(1, .int 10), (2, .int 2)] =
        ((Expr.assign 1 .set (.binary .sub (.counter 1) (.binary .mul (.counter 2) (.lit (.int 3))))).eval
          (Standalone.scope {})).exec [(1, .int 10), (2, .int 2)] ∧
      ∀ f s', ((Expr.assign 1 .sub (.binary .mul (.counter 2) (.lit (.int 3)))).eval
          (Standalone.scope {})).exec [(1, .int 10), (2, .int 2)] = (.error f, s') →
        (Standalone.scope {}).counter s' 1 = (Standalone.scope {}).counter [(1, .int 10), (2, .int 2)] 1) :=
  have hop : AssignOp.sub.symbol = BinOp.sub.symbol ++ "=" := by simp [AssignOp.symbol, BinOp.symbol]
  ⟨Standalone.scope_frames {} 1, hop, rfl,
    Expr.compound_assignment_desugars (Standalone.scope_frames {} 1) hop rfl _⟩

end ColumnSpec
