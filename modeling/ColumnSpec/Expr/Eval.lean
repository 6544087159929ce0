import ColumnSpec.Expr.Syntax
import ColumnSpec.Value.Arith
/-!
# Evaluating expressions

Expressions are evaluated over a state that a `Scope` opens up, left to right; `&` and `|`
evaluate their right side only when the left does not decide. A failure keeps the state
reached so far.
-/
namespace ColumnSpec

/-- Evaluation over a state `σ` that may fail with a fault, keeping the state reached. -/
abbrev Eval (σ : Type) := ExceptT Fault (StateM σ)

/-- A result that may have failed, as an evaluation step. -/
def Eval.ofExcept {σ α : Type} (x : Except Fault α) : Eval σ α := ExceptT.mk (pure x)

/-- Runs an evaluation step from a state: its result, or the fault, and the state after. -/
def Eval.exec {σ α : Type} (m : Eval σ α) (s : σ) : Except Fault α × σ := (ExceptT.run m).run s

namespace Eval

variable {σ α : Type}

@[simp] theorem exec_pure (a : α) (s : σ) : (pure a : Eval σ α).exec s = (.ok a, s) := rfl

theorem exec_bind {β : Type} (x : Eval σ α) (f : α → Eval σ β) (s : σ) :
    (x >>= f).exec s = match x.exec s with
      | (.ok a, s₁) => (f a).exec s₁
      | (.error e, s₁) => (.error e, s₁) := by
  simp only [exec, ExceptT.run_bind, StateT.run_bind]
  rcases (ExceptT.run x).run s with ⟨_ | a, s₁⟩ <;> rfl

theorem exec_bind_ok {β : Type} {x : Eval σ α} {f : α → Eval σ β} {s s₁ : σ} {a : α}
    (h : x.exec s = (.ok a, s₁)) : (x >>= f).exec s = (f a).exec s₁ := by
  rw [exec_bind, h]

theorem exec_bind_error {β : Type} {x : Eval σ α} {f : α → Eval σ β} {s s₁ : σ} {e : Fault}
    (h : x.exec s = (.error e, s₁)) : (x >>= f).exec s = (.error e, s₁) := by
  rw [exec_bind, h]

theorem exec_bind_ok_inv {β : Type} {x : Eval σ α} {f : α → Eval σ β} {s s' : σ} {b : β}
    (h : (x >>= f).exec s = (.ok b, s')) :
    ∃ a s₁, x.exec s = (.ok a, s₁) ∧ (f a).exec s₁ = (.ok b, s') := by
  rw [exec_bind] at h
  rcases hx : x.exec s with ⟨_ | a, s₁⟩
  · rw [hx] at h
    cases h
  · rw [hx] at h
    exact ⟨a, s₁, rfl, h⟩

theorem exec_bind_error_inv {β : Type} {x : Eval σ α} {f : α → Eval σ β} {s s' : σ} {e : Fault}
    (h : (x >>= f).exec s = (.error e, s')) :
    x.exec s = (.error e, s') ∨ ∃ a s₁, x.exec s = (.ok a, s₁) ∧ (f a).exec s₁ = (.error e, s') := by
  rw [exec_bind] at h
  rcases hx : x.exec s with ⟨_ | a, s₁⟩
  · rw [hx] at h
    cases h
    exact Or.inl rfl
  · rw [hx] at h
    exact Or.inr ⟨a, s₁, rfl, h⟩

@[simp] theorem exec_get (s : σ) : (get : Eval σ σ).exec s = (.ok s, s) := rfl

@[simp] theorem exec_set (s t : σ) : (set t : Eval σ PUnit).exec s = (.ok ⟨⟩, t) := rfl

@[simp] theorem exec_modify (f : σ → σ) (s : σ) :
    (modify f : Eval σ PUnit).exec s = (.ok ⟨⟩, f s) := rfl

@[simp] theorem exec_ofExcept (x : Except Fault α) (s : σ) :
    (Eval.ofExcept x : Eval σ α).exec s = (x, s) := rfl

@[simp] theorem exec_throw (e : Fault) (s : σ) : (throw e : Eval σ α).exec s = (.error e, s) := rfl

end Eval

@[simp] theorem except_pure_eq {α : Type} (a : α) : (pure a : Except Fault α) = .ok a := rfl

@[simp] theorem except_throw_eq {α : Type} (e : Fault) : (throw e : Except Fault α) = .error e := rfl

/-- What an expression reaches while it is evaluated over a state `σ`. -/
structure Scope (σ : Type) where
  field : σ → Char → Except Fault Value
  counter : σ → Nat → Value
  setCounter : σ → Nat → Value → σ
  config : σ → String → Except Fault Value
  controlBreak : Char → Eval σ Bool
  call : String → List Value → Eval σ Value

/-- A binary operator other than `&` and `|` applied to two values. -/
def BinOp.apply (op : BinOp) (l r : Value) : Except Fault Value :=
  let loose := Value.compareLoose l r
  let strict := Value.compareStrict l r
  match op with
  | .add => l.add r
  | .sub => l.sub r
  | .mul => l.mul r
  | .div => l.div r
  | .intDiv => l.intDiv r
  | .rem => l.rem r
  | .concat => pure (l.concat r)
  | .eq => pure (.ofBool (loose == .eq))
  | .ne => pure (.ofBool (loose != .eq))
  | .lt => pure (.ofBool (loose == .lt))
  | .le => pure (.ofBool (loose != .gt))
  | .gt => pure (.ofBool (loose == .gt))
  | .ge => pure (.ofBool (loose != .lt))
  | .strictEq => pure (.ofBool (strict == .eq))
  | .strictNe => pure (.ofBool (strict != .eq))
  | .strictLt => pure (.ofBool (strict == .lt))
  | .strictLe => pure (.ofBool (strict != .gt))
  | .strictGt => pure (.ofBool (strict == .gt))
  | .strictGe => pure (.ofBool (strict != .lt))
  | .and => pure (.ofBool (l.isTrue && r.isTrue))
  | .or => pure (.ofBool (l.isTrue || r.isTrue))

def UnaryOp.apply : UnaryOp → Value → Except Fault Value
  | .neg, v => v.neg
  | .plus, v => v.pos
  | .not, v => pure (.ofBool !v.isTrue)

/-- The new value of a counter under an assignment operator. -/
def AssignOp.combine (op : AssignOp) (old new : Value) : Except Fault Value :=
  match op.binOp? with
  | none => pure new
  | some b => b.apply old new

variable {σ : Type}

mutual
def Expr.eval (sc : Scope σ) : Expr → Eval σ Value
  | .lit v => pure v
  | .counter n => do return sc.counter (← get) n
  | .field c => do Eval.ofExcept (sc.field (← get) c)
  | .config k => do Eval.ofExcept (sc.config (← get) k)
  | .controlBreak c => do return .ofBool (← sc.controlBreak c)
  | .unary op e => do Eval.ofExcept (op.apply (← e.eval sc))
  | .binary .and l r => do
    if !(← l.eval sc).isTrue then return .ofBool false
    return .ofBool (← r.eval sc).isTrue
  | .binary .or l r => do
    if (← l.eval sc).isTrue then return .ofBool true
    return .ofBool (← r.eval sc).isTrue
  | .binary op l r => do
    let a ← l.eval sc
    let b ← r.eval sc
    Eval.ofExcept (op.apply a b)
  | .assign n op e => do
    let v ← e.eval sc
    let new ← Eval.ofExcept (op.combine (sc.counter (← get) n) v)
    modify (sc.setCounter · n new)
    return new
  | .call name args => do sc.call name (← Expr.evalArgs sc args)
/-- The values of call arguments, left to right; an omitted one is absent. -/
def Expr.evalArgs (sc : Scope σ) : List (Option Expr) → Eval σ (List Value)
  | [] => pure []
  | none :: rest => do return .absent :: (← Expr.evalArgs sc rest)
  | some e :: rest => do
    let v ← e.eval sc
    return v :: (← Expr.evalArgs sc rest)
end

/-- Counters by number, in ascending order; an unset counter is absent. -/
abbrev Counters := List (Nat × Value)

/-- The value of counter `n`. -/
def Counters.get (cs : Counters) (n : Nat) : Value := (cs.lookup n).getD .absent

/-- Sets counter `n`, keeping the numbers in ascending order. -/
def Counters.set : Counters → Nat → Value → Counters
  | [], n, v => [(n, v)]
  | (m, w) :: rest, n, v =>
    if n < m then (n, v) :: (m, w) :: rest
    else if n = m then (n, v) :: rest
    else (m, w) :: Counters.set rest n v

end ColumnSpec
