import ColumnSpec.Script.Run
/-!
# Programs as nested blocks

A program read as its `IF` chains and `WHILE` loops, laid out as a flat item list whose
tests and jumps point past a branch, past a chain or back to a loop's test; `Exec` runs
such a tree directly.
-/
namespace ColumnSpec

namespace Script

/-- Where a conditional item or a jump may send control. -/
def Item.target? : Item → Option Nat
  | .if _ t | .while _ t | .jump t => some t
  | _ => none

abbrev PlainItem := { i : Item // i.steers = false }

mutual
/-- A block of a program. -/
inductive Stmt where
  | item (i : PlainItem)
  /-- `IF c THEN body` and what follows the branch. -/
  | cond (c : Expr) (body : List Stmt) (alt : Alt)
  /-- `WHILE c DO body DONE`. -/
  | loop (c : Expr) (body : List Stmt)

/-- What follows a branch of an `IF` chain. -/
inductive Alt where
  | endIf
  | else (body : List Stmt)
  | elseIf (c : Expr) (body : List Stmt) (alt : Alt)
end

/-- Whether a jump past the rest of the chain closes the branch before an alternative. -/
def Alt.jumps : Alt → Nat
  | .endIf => 0
  | _ => 1

/-- The jump that closes a branch followed by an alternative. -/
def Alt.exit : Alt → Nat → List Item
  | .endIf, _ => []
  | _, t => [.jump t]

@[simp] theorem Alt.jumps_endIf : Alt.endIf.jumps = 0 := rfl
@[simp] theorem Alt.jumps_else (body : List Stmt) : (Alt.else body).jumps = 1 := rfl
@[simp] theorem Alt.jumps_elseIf (c : Expr) (body : List Stmt) (alt : Alt) :
    (Alt.elseIf c body alt).jumps = 1 := rfl
@[simp] theorem Alt.exit_endIf (t : Nat) : Alt.endIf.exit t = [] := rfl
@[simp] theorem Alt.exit_else (body : List Stmt) (t : Nat) : (Alt.else body).exit t = [.jump t] :=
  rfl
@[simp] theorem Alt.exit_elseIf (c : Expr) (body : List Stmt) (alt : Alt) (t : Nat) :
    (Alt.elseIf c body alt).exit t = [.jump t] := rfl

/-- A branch at `pc` with its items laid out as `inner` and its alternatives laid out by
`rest` from where they start: the test skips to the alternatives, and a jump after the
branch skips them. -/
def branch (pc : Nat) (c : Expr) (inner : List Item) (alt : Alt) (rest : Nat → List Item) :
    List Item :=
  let next := pc + inner.length + 1 + alt.jumps
  .if c next :: inner ++ alt.exit (next + (rest next).length) ++ rest next

mutual
/-- The items of a block laid out from `pc`. -/
def Stmt.layout : Nat → Stmt → List Item
  | _, .item i => [i.1]
  | pc, .cond c body alt => branch pc c (layoutList (pc + 1) body) alt (fun n => alt.layout n)
  | pc, .loop c body =>
    let inner := layoutList (pc + 1) body
    .while c (pc + inner.length + 2) :: inner ++ [.jump pc]

/-- The items of the alternatives of a branch, laid out from `pc`. -/
def Alt.layout : Nat → Alt → List Item
  | _, .endIf => []
  | pc, .else body => layoutList pc body
  | pc, .elseIf c body alt => branch pc c (layoutList (pc + 1) body) alt (fun n => alt.layout n)

/-- The items of a list of blocks laid out from `pc`. -/
def layoutList : Nat → List Stmt → List Item
  | _, [] => []
  | pc, s :: ss => s.layout pc ++ layoutList (pc + (s.layout pc).length) ss
end

mutual
def Stmt.width : Stmt → Nat
  | .item _ => 1
  | .cond _ body alt => widthList body + 1 + alt.jumps + alt.width
  | .loop _ body => widthList body + 2

def Alt.width : Alt → Nat
  | .endIf => 0
  | .else body => widthList body
  | .elseIf _ body alt => widthList body + 1 + alt.jumps + alt.width

def widthList : List Stmt → Nat
  | [] => 0
  | s :: ss => s.width + widthList ss
end

theorem length_branch (pc : Nat) (c : Expr) (inner : List Item) (alt : Alt)
    (rest : Nat → List Item) :
    (branch pc c inner alt rest).length =
      inner.length + 1 + alt.jumps + (rest (pc + inner.length + 1 + alt.jumps)).length := by
  cases alt <;> simp [branch, Alt.exit, Alt.jumps] <;> omega

mutual
theorem Stmt.length_layout : (s : Stmt) → (pc : Nat) → (s.layout pc).length = s.width
  | .item _, _ => rfl
  | .cond c body alt, pc => by
    rw [Stmt.layout, length_branch, length_layoutList body, Alt.length_layout alt, Stmt.width]
  | .loop c body, pc => by
    simp only [Stmt.layout, List.length_cons, List.length_append, length_layoutList body,
      List.length_nil, Stmt.width]

theorem Alt.length_layout : (a : Alt) → (pc : Nat) → (a.layout pc).length = a.width
  | .endIf, _ => rfl
  | .else body, pc => length_layoutList body pc
  | .elseIf c body alt, pc => by
    rw [Alt.layout, length_branch, length_layoutList body, Alt.length_layout alt, Alt.width]

theorem length_layoutList : (ss : List Stmt) → (pc : Nat) → (layoutList pc ss).length = widthList ss
  | [], _ => rfl
  | s :: ss, pc => by
    rw [layoutList, List.length_append, Stmt.length_layout s, length_layoutList ss, widthList]
end

@[simp] theorem layoutList_nil (pc : Nat) : layoutList pc [] = [] := rfl

theorem layoutList_cons (pc : Nat) (s : Stmt) (ss : List Stmt) :
    layoutList pc (s :: ss) = s.layout pc ++ layoutList (pc + s.width) ss := by
  rw [layoutList, Stmt.length_layout]

theorem layoutList_append (pc : Nat) (ss ts : List Stmt) :
    layoutList pc (ss ++ ts) = layoutList pc ss ++ layoutList (pc + widthList ss) ts := by
  induction ss generalizing pc with
  | nil => simp [widthList]
  | cons s ss ih => simp [layoutList_cons, ih, widthList, Nat.add_assoc]

theorem Alt.layout_elseIf (pc : Nat) (c : Expr) (body : List Stmt) (alt : Alt) :
    (Alt.elseIf c body alt).layout pc = (Stmt.cond c body alt).layout pc := by
  rw [Alt.layout, Stmt.layout]

/-- The targets of the items of `l` lie between `lo` and `hi`. -/
def TargetsWithin (l : List Item) (lo hi : Nat) : Prop :=
  ∀ i ∈ l, ∀ t, i.target? = some t → lo ≤ t ∧ t ≤ hi

theorem TargetsWithin.append {l₁ l₂ : List Item} {lo hi : Nat} (h₁ : TargetsWithin l₁ lo hi)
    (h₂ : TargetsWithin l₂ lo hi) : TargetsWithin (l₁ ++ l₂) lo hi := by
  intro i hi' t ht
  rcases List.mem_append.mp hi' with h | h
  · exact h₁ i h t ht
  · exact h₂ i h t ht

theorem TargetsWithin.mono {l : List Item} {lo hi lo' hi' : Nat} (h : TargetsWithin l lo hi)
    (hlo : lo' ≤ lo) (hhi : hi ≤ hi') : TargetsWithin l lo' hi' := by
  intro i hi t ht
  have := h i hi t ht
  omega

theorem targetsWithin_single {i : Item} {lo hi : Nat} (h : ∀ t, i.target? = some t → lo ≤ t ∧ t ≤ hi) :
    TargetsWithin [i] lo hi := by
  intro j hj t ht
  rw [List.mem_singleton.mp hj] at ht
  exact h t ht

theorem targetsWithin_branch {pc : Nat} {c : Expr} {inner : List Item} {alt : Alt}
    {rest : Nat → List Item} (hin : TargetsWithin inner (pc + 1) (pc + 1 + inner.length))
    (hrest : ∀ n, TargetsWithin (rest n) n (n + (rest n).length)) :
    TargetsWithin (branch pc c inner alt rest) pc (pc + (branch pc c inner alt rest).length) := by
  rw [length_branch]
  have hr := hrest (pc + inner.length + 1 + alt.jumps)
  refine TargetsWithin.append (TargetsWithin.append ?_ ?_) ?_
  · refine TargetsWithin.append (targetsWithin_single ?_) (hin.mono (by omega) (by omega))
    intro t ht
    simp only [Item.target?, Option.some.injEq] at ht
    omega
  · cases alt with
    | endIf => simp [Alt.exit, TargetsWithin]
    | _ =>
      refine targetsWithin_single fun t ht => ?_
      simp only [Item.target?, Option.some.injEq] at ht
      omega
  · exact hr.mono (by omega) (by omega)

mutual
theorem Stmt.targetsWithin : (s : Stmt) → (pc : Nat) →
    TargetsWithin (s.layout pc) pc (pc + s.width)
  | .item ⟨i, hi⟩, pc => by
    refine targetsWithin_single fun t ht => ?_
    cases i <;> simp [Item.steers] at hi <;> simp [Item.target?] at ht
  | .cond c body alt, pc => by
    rw [← Stmt.length_layout, Stmt.layout]
    refine targetsWithin_branch ?_ fun n => ?_
    · rw [length_layoutList]
      exact targetsWithin_layoutList body (pc + 1)
    · rw [Alt.length_layout]
      exact Alt.targetsWithin alt n
  | .loop c body, pc => by
    have hb := targetsWithin_layoutList body (pc + 1)
    rw [Stmt.layout, Stmt.width, length_layoutList]
    refine TargetsWithin.append (TargetsWithin.append (targetsWithin_single ?_) (hb.mono ?_ ?_))
      (targetsWithin_single ?_)
    all_goals first | omega | intro t ht; simp only [Item.target?, Option.some.injEq] at ht; omega

theorem Alt.targetsWithin : (a : Alt) → (pc : Nat) →
    TargetsWithin (a.layout pc) pc (pc + a.width)
  | .endIf, _ => by simp [Alt.layout, TargetsWithin]
  | .else body, pc => targetsWithin_layoutList body pc
  | .elseIf c body alt, pc => by
    rw [Alt.layout_elseIf]
    exact Stmt.targetsWithin (.cond c body alt) pc

theorem targetsWithin_layoutList : (ss : List Stmt) → (pc : Nat) →
    TargetsWithin (layoutList pc ss) pc (pc + widthList ss)
  | [], _ => by simp [TargetsWithin]
  | s :: ss, pc => by
    rw [layoutList_cons, widthList]
    exact TargetsWithin.append ((Stmt.targetsWithin s pc).mono (by omega) (by omega))
      ((targetsWithin_layoutList ss (pc + s.width)).mono (by omega) (by omega))
end

/-- A piece of a laid-out tree: a list of blocks from `pc`, or a branch of an `IF` chain at
`pc` with the alternatives after it. -/
inductive Frag where
  | seq (pc : Nat) (ss : List Stmt)
  | branch (pc : Nat) (c : Expr) (body : List Stmt) (alt : Alt)

namespace Frag

def pc : Frag → Nat
  | .seq pc _ | .branch pc .. => pc

def width : Frag → Nat
  | .seq _ ss => widthList ss
  | .branch _ c body alt => (Stmt.cond c body alt).width

def layout : Frag → List Item
  | .seq pc ss => layoutList pc ss
  | .branch pc c body alt => (Stmt.cond c body alt).layout pc

end Frag

/-- Runs a piece of a tree of blocks from a state: how the cycle goes on after the piece
(or the fault) and the state reached. -/
inductive Exec (env : Setting) : Frag → RunState → Except Fault Flow × RunState → Prop where
  | nil {pc s} : Exec env (.seq pc []) s (.ok .next, s)
  | item {pc i ss s s₁ res} : (act env pc i.1).exec s = (.ok .next, s₁) →
      Exec env (.seq (pc + 1) ss) s₁ res → Exec env (.seq pc (.item i :: ss)) s res
  | itemEnds {pc i ss s r s₁} : (act env pc i.1).exec s = (r, s₁) → r ≠ .ok .next →
      Exec env (.seq pc (.item i :: ss)) s (r, s₁)
  | cond {pc c body alt ss s s₁ res} : Exec env (.branch pc c body alt) s (.ok .next, s₁) →
      Exec env (.seq (pc + (Stmt.cond c body alt).width) ss) s₁ res →
      Exec env (.seq pc (.cond c body alt :: ss)) s res
  | condEnds {pc c body alt ss s r s₁} : Exec env (.branch pc c body alt) s (r, s₁) →
      r ≠ .ok .next → Exec env (.seq pc (.cond c body alt :: ss)) s (r, s₁)
  | loopDone {pc c body ss s v s₁ res} : (evaluate env c).exec s = (.ok v, s₁) →
      v.isTrue = false → Exec env (.seq (pc + (Stmt.loop c body).width) ss) s₁ res →
      Exec env (.seq pc (.loop c body :: ss)) s res
  | loopRound {pc c body ss s v s₁ s₂ res} : (evaluate env c).exec s = (.ok v, s₁) →
      v.isTrue = true → Exec env (.seq (pc + 1) body) s₁ (.ok .next, s₂) →
      Exec env (.seq pc (.loop c body :: ss)) s₂ res → Exec env (.seq pc (.loop c body :: ss)) s res
  | loopEnds {pc c body ss s v s₁ r s₂} : (evaluate env c).exec s = (.ok v, s₁) →
      v.isTrue = true → Exec env (.seq (pc + 1) body) s₁ (r, s₂) → r ≠ .ok .next →
      Exec env (.seq pc (.loop c body :: ss)) s (r, s₂)
  | loopFault {pc c body ss s e s₁} : (evaluate env c).exec s = (.error e, s₁) →
      Exec env (.seq pc (.loop c body :: ss)) s (.error e, s₁)
  | taken {pc c body alt s v s₁ res} : (evaluate env c).exec s = (.ok v, s₁) →
      v.isTrue = true → Exec env (.seq (pc + 1) body) s₁ res → Exec env (.branch pc c body alt) s res
  | notTaken {pc c body s v s₁} : (evaluate env c).exec s = (.ok v, s₁) → v.isTrue = false →
      Exec env (.branch pc c body .endIf) s (.ok .next, s₁)
  | otherwise {pc c body e s v s₁ res} : (evaluate env c).exec s = (.ok v, s₁) →
      v.isTrue = false → Exec env (.seq (pc + widthList body + 2) e) s₁ res →
      Exec env (.branch pc c body (.else e)) s res
  | elseIf {pc c body c' body' alt s v s₁ res} : (evaluate env c).exec s = (.ok v, s₁) →
      v.isTrue = false → Exec env (.branch (pc + widthList body + 2) c' body' alt) s₁ res →
      Exec env (.branch pc c body (.elseIf c' body' alt)) s res
  | testFault {pc c body alt s e s₁} : (evaluate env c).exec s = (.error e, s₁) →
      Exec env (.branch pc c body alt) s (.error e, s₁)

end Script

end ColumnSpec
