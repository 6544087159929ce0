import ColumnSpec.Proofs.Blocks.Tree
/-!
# Nesting clauses into blocks

`nest` reads the clauses of a program into the tree of blocks they write, keeping open
blocks as frames whose unknown targets are 0 (`Nest.code`) until closing sets them.
-/
namespace ColumnSpec.Script

/-- One item of a program's text as its block structure sees it. -/
inductive Clause where
  /-- Items outside the block structure. -/
  | plain (out : List PlainItem)
  | ifThen (c : Expr)
  | elseIf (c : Expr)
  | else
  | endIf
  | whileDo (c : Expr)
  | done

/-- The finished branches `arms` of an `IF` chain, before the alternative `last`. -/
def Alt.ofArms (arms : List (Expr × List Stmt)) (last : Alt) : Alt :=
  arms.foldr (fun a alt => .elseIf a.1 a.2 alt) last

/-- A block still open: the branch of an `IF` or `ELSEIF` after the finished branches
`done`; the `ELSE` part after the finished branches `first :: more`; or a loop. Each holds
the blocks of the part being read so far. -/
inductive Frame where
  | branch (done : List (Expr × List Stmt)) (c : Expr) (body : List Stmt)
  | otherwise (first : Expr × List Stmt) (more : List (Expr × List Stmt)) (body : List Stmt)
  | loop (c : Expr) (body : List Stmt)

namespace Frame

def add : Frame → List Stmt → Frame
  | .branch done c body, ss => .branch done c (body ++ ss)
  | .otherwise first more body, ss => .otherwise first more (body ++ ss)
  | .loop c body, ss => .loop c (body ++ ss)

/-- The block a frame stands for once it is closed. -/
def close : Frame → Stmt
  | .branch [] c body => .cond c body .endIf
  | .branch ((c₁, b₁) :: more) c body => .cond c₁ b₁ (Alt.ofArms more (.elseIf c body .endIf))
  | .otherwise (c₁, b₁) more body => .cond c₁ b₁ (Alt.ofArms more (.else body))
  | .loop c body => .loop c body

end Frame

/-- The items of finished branches laid out from `p`, each closed by a jump to `t`. -/
def armsCode (p t : Nat) : List (Expr × List Stmt) → List Item
  | [] => []
  | (c, b) :: more =>
    let inner := layoutList (p + 1) b
    (.if c (p + inner.length + 2) :: inner ++ [.jump t]) ++ armsCode (p + inner.length + 2) t more

/-- Where the jumps closing finished branches laid out from `p` are. -/
def armsExits (p : Nat) : List (Expr × List Stmt) → List Nat
  | [] => []
  | (_, b) :: more => (p + widthList b + 1) :: armsExits (p + widthList b + 2) more

/-- The number of items finished branches take. -/
def armsWidth : List (Expr × List Stmt) → Nat
  | [] => 0
  | (_, b) :: more => widthList b + 2 + armsWidth more

theorem length_armsCode (p t : Nat) (arms : List (Expr × List Stmt)) :
    (armsCode p t arms).length = armsWidth arms := by
  induction arms generalizing p with
  | nil => rfl
  | cons a more ih =>
    obtain ⟨c, b⟩ := a
    simp only [armsCode, List.cons_append, List.length_cons, List.length_append, ih,
      length_layoutList, List.length_nil, armsWidth]
    omega

theorem armsWidth_append (arms arms' : List (Expr × List Stmt)) :
    armsWidth (arms ++ arms') = armsWidth arms + armsWidth arms' := by
  induction arms with
  | nil => simp [armsWidth]
  | cons a more ih =>
    simp only [List.cons_append, armsWidth, ih]
    omega

theorem armsCode_append (p t : Nat) (arms arms' : List (Expr × List Stmt)) :
    armsCode p t (arms ++ arms') = armsCode p t arms ++ armsCode (p + armsWidth arms) t arms' := by
  induction arms generalizing p with
  | nil => simp [armsCode, armsWidth]
  | cons a more ih =>
    obtain ⟨c, b⟩ := a
    simp only [List.cons_append, armsCode, ih, length_layoutList, armsWidth, List.append_assoc]
    rw [show p + widthList b + 2 + armsWidth more = p + (widthList b + 2 + armsWidth more) by omega]

theorem armsExits_append (p : Nat) (arms arms' : List (Expr × List Stmt)) :
    armsExits p (arms ++ arms') = armsExits p arms ++ armsExits (p + armsWidth arms) arms' := by
  induction arms generalizing p with
  | nil => simp [armsExits, armsWidth]
  | cons a more ih =>
    obtain ⟨c, b⟩ := a
    simp only [List.cons_append, armsExits, ih, armsWidth, List.cons_append]
    rw [show p + widthList b + 2 + armsWidth more = p + (widthList b + 2 + armsWidth more) by omega]

namespace Frame

/-- The items of an open block laid out from `p`, with the targets still to be set left 0. -/
def code (p : Nat) : Frame → List Item
  | .branch done c body => armsCode p 0 done ++ .if c 0 :: layoutList (p + armsWidth done + 1) body
  | .otherwise first more body =>
    armsCode p 0 (first :: more) ++ layoutList (p + armsWidth (first :: more)) body
  | .loop c body => .while c 0 :: layoutList (p + 1) body

theorem code_add (p : Nat) (f : Frame) (ss : List Stmt) :
    (f.add ss).code p = f.code p ++ layoutList (p + (f.code p).length) ss := by
  cases f with
  | branch done c body =>
    simp only [add, code, layoutList_append, List.append_assoc, List.cons_append,
      List.length_append, List.length_cons, length_armsCode, length_layoutList]
    rw [show p + armsWidth done + 1 + widthList body = p + (armsWidth done + (widthList body + 1))
      by omega]
  | otherwise first more body =>
    simp only [add, code, layoutList_append, List.append_assoc, List.length_append,
      length_armsCode, length_layoutList, Nat.add_assoc]
  | loop c body =>
    simp only [add, code, layoutList_append, List.cons_append, List.length_cons,
      length_layoutList]
    rw [show p + 1 + widthList body = p + (widthList body + 1) by omega]

end Frame

/-! ## Closing a block -/

theorem Alt.jumps_ofArms (arms : List (Expr × List Stmt)) {last : Alt} (hlast : last.jumps = 1) :
    (Alt.ofArms arms last).jumps = 1 := by
  cases arms with
  | nil => exact hlast
  | cons a more => rfl

theorem Alt.width_ofArms (arms : List (Expr × List Stmt)) {last : Alt} (hlast : last.jumps = 1) :
    (Alt.ofArms arms last).width = armsWidth arms + last.width := by
  induction arms with
  | nil => simp [Alt.ofArms, armsWidth]
  | cons a more ih =>
    have hmore : (Alt.ofArms more last).jumps = 1 := Alt.jumps_ofArms more hlast
    change (Alt.elseIf a.1 a.2 (Alt.ofArms more last)).width = _
    rw [Alt.width, hmore, ih, armsWidth]
    omega

theorem Alt.exit_of_jumps {a : Alt} (h : a.jumps = 1) (t : Nat) : a.exit t = [.jump t] := by
  cases a <;> simp_all

theorem Alt.layout_ofArms (arms : List (Expr × List Stmt)) {last : Alt} (hlast : last.jumps = 1)
    (q : Nat) :
    (Alt.ofArms arms last).layout q =
      armsCode q (q + armsWidth arms + last.width) arms ++ last.layout (q + armsWidth arms) := by
  induction arms generalizing q with
  | nil => simp [Alt.ofArms, armsCode, armsWidth]
  | cons a more ih =>
    obtain ⟨c, b⟩ := a
    have hmore : (Alt.ofArms more last).jumps = 1 := Alt.jumps_ofArms more hlast
    change (Alt.elseIf c b (Alt.ofArms more last)).layout q = _
    have hlen (n : Nat) : ((Alt.ofArms more last).layout n).length = armsWidth more + last.width := by
      rw [Alt.length_layout, Alt.width_ofArms more hlast]
    rw [Alt.layout]
    simp only [branch, hmore, Alt.exit_of_jumps hmore, hlen, length_layoutList]
    rw [ih]
    simp only [armsCode, armsWidth, length_layoutList, List.cons_append, List.append_assoc]
    have hnext : q + widthList b + 1 + 1 = q + widthList b + 2 := rfl
    rw [hnext, show q + (widthList b + 2 + armsWidth more) = q + widthList b + 2 + armsWidth more
      by omega]
    congr 4
    omega

theorem Alt.layout_endBranch (q : Nat) (c : Expr) (body : List Stmt) :
    (Alt.elseIf c body .endIf).layout q = .if c (q + widthList body + 1) :: layoutList (q + 1) body := by
  simp [Alt.layout, branch, length_layoutList]

namespace Frame

theorem close_branch_layout (p : Nat) (done : List (Expr × List Stmt)) (c : Expr) (body : List Stmt) :
    (Frame.branch done c body).close.layout p = (Alt.ofArms done (.elseIf c body .endIf)).layout p := by
  cases done with
  | nil => exact (Alt.layout_elseIf p c body .endIf).symm
  | cons a more =>
    obtain ⟨c₁, b₁⟩ := a
    exact (Alt.layout_elseIf p c₁ b₁ _).symm

theorem layout_close_branch (p : Nat) (done : List (Expr × List Stmt)) (c : Expr) (body : List Stmt) :
    (Frame.branch done c body).close.layout p =
      armsCode p (p + armsWidth done + 1 + widthList body) done ++
        .if c (p + armsWidth done + 1 + widthList body) ::
          layoutList (p + armsWidth done + 1) body := by
  rw [close_branch_layout, Alt.layout_ofArms done rfl, Alt.layout_endBranch]
  simp only [Alt.width, Alt.jumps_endIf, Nat.add_zero]
  rw [show p + armsWidth done + (widthList body + 1) = p + armsWidth done + 1 + widthList body
    by omega, show p + armsWidth done + widthList body + 1 = p + armsWidth done + 1 + widthList body
    by omega]

theorem close_otherwise_layout (p : Nat) (first : Expr × List Stmt) (more : List (Expr × List Stmt))
    (body : List Stmt) :
    (Frame.otherwise first more body).close.layout p =
      (Alt.ofArms (first :: more) (.else body)).layout p := by
  obtain ⟨c₁, b₁⟩ := first
  exact (Alt.layout_elseIf p c₁ b₁ _).symm

theorem layout_close_otherwise (p : Nat) (first : Expr × List Stmt) (more : List (Expr × List Stmt))
    (body : List Stmt) :
    (Frame.otherwise first more body).close.layout p =
      armsCode p (p + armsWidth (first :: more) + widthList body) (first :: more) ++
        layoutList (p + armsWidth (first :: more)) body := by
  rw [close_otherwise_layout, Alt.layout_ofArms _ rfl]
  rfl

theorem layout_close_loop (p : Nat) (c : Expr) (body : List Stmt) :
    (Frame.loop c body).close.layout p =
      .while c (p + widthList body + 2) :: layoutList (p + 1) body ++ [.jump p] := by
  simp [close, Stmt.layout, length_layoutList]

end Frame

/-! ## Setting targets -/

theorem modify_append_cons (l₁ l₂ : List Item) (a : Item) (f : Item → Item) :
    (l₁ ++ a :: l₂).modify l₁.length f = l₁ ++ f a :: l₂ := by
  induction l₁ with
  | nil => simp
  | cons x l ih => simp [ih]

/-- Sets the targets of the items at positions `ps` to `t`. -/
def retargetAll (t : Nat) (l : List Item) (ps : List Nat) : List Item :=
  ps.foldl (fun l j => l.modify j (Item.retarget t)) l

theorem retargetAll_armsExits (t : Nat) (pre suf : List Item) (arms : List (Expr × List Stmt)) :
    retargetAll t (pre ++ armsCode pre.length 0 arms ++ suf) (armsExits pre.length arms) =
      pre ++ armsCode pre.length t arms ++ suf := by
  induction arms generalizing pre with
  | nil => simp [retargetAll, armsCode, armsExits]
  | cons a more ih =>
    obtain ⟨c, b⟩ := a
    let head := Item.if c (pre.length + widthList b + 2) :: layoutList (pre.length + 1) b
    have hlen : (pre ++ head).length = pre.length + widthList b + 1 := by
      simp [head, length_layoutList]; omega
    have hsplit (j : Nat) : pre ++ armsCode pre.length j ((c, b) :: more) ++ suf =
        (pre ++ head) ++ Item.jump j :: (armsCode (pre.length + widthList b + 2) j more ++ suf) := by
      simp [armsCode, head, length_layoutList]
    have hnext : (pre ++ head ++ [Item.jump t]).length = pre.length + widthList b + 2 := by
      rw [List.length_append, hlen, List.length_singleton]
    simp only [retargetAll, armsExits, List.foldl_cons]
    rw [hsplit 0, hsplit t, ← hlen, modify_append_cons]
    have h := ih (pre ++ head ++ [Item.jump t])
    rw [hnext] at h
    simpa [retargetAll, Item.retarget, List.append_assoc] using h

/-! ## Nests -/

/-- The blocks read so far: the finished blocks at the top level and the open blocks,
innermost first. -/
structure Nest where
  top : List Stmt := []
  frames : List Frame := []

/-- The items of the blocks read so far, laid out from the start, outermost block first. -/
def openCode (top : List Stmt) : List Frame → List Item
  | [] => layoutList 0 top
  | f :: fs => openCode top fs ++ f.code (openCode top fs).length

namespace Nest

def code (z : Nest) : List Item := openCode z.top z.frames

/-- Adds finished blocks to the innermost open part. -/
def add (z : Nest) (ss : List Stmt) : Nest :=
  match z.frames with
  | [] => { z with top := z.top ++ ss }
  | f :: fs => { z with frames := f.add ss :: fs }

/-- Reads one more clause, failing on a clause that continues or closes a block that is
not the innermost open one. -/
def feed (z : Nest) : Clause → Option Nest
  | .plain out => some (z.add (out.map .item))
  | .ifThen c => some { z with frames := .branch [] c [] :: z.frames }
  | .elseIf c =>
    match z.frames with
    | .branch done c₀ body :: fs => some { z with frames := .branch (done ++ [(c₀, body)]) c [] :: fs }
    | _ => none
  | .else =>
    match z.frames with
    | .branch done c₀ body :: fs =>
      match done ++ [(c₀, body)] with
      | first :: more => some { z with frames := .otherwise first more [] :: fs }
      | [] => none
    | _ => none
  | .endIf =>
    match z.frames with
    | .branch done c body :: fs => some ({ z with frames := fs }.add [(Frame.branch done c body).close])
    | .otherwise first more body :: fs =>
      some ({ z with frames := fs }.add [(Frame.otherwise first more body).close])
    | _ => none
  | .whileDo c => some { z with frames := .loop c [] :: z.frames }
  | .done =>
    match z.frames with
    | .loop c body :: fs => some ({ z with frames := fs }.add [(Frame.loop c body).close])
    | _ => none

theorem code_add (z : Nest) (ss : List Stmt) :
    (z.add ss).code = z.code ++ layoutList z.code.length ss := by
  obtain ⟨top, frames⟩ := z
  cases frames with
  | nil => simp [add, code, openCode, layoutList_append, length_layoutList]
  | cons f fs => simp [add, code, openCode, Frame.code_add, List.append_assoc]

end Nest

/-- The blocks that clauses nest into, when every block they open is closed. -/
def nest (cs : List Clause) : Option (List Stmt) :=
  match cs.foldlM Nest.feed {} with
  | some ⟨top, []⟩ => some top
  | _ => none

end ColumnSpec.Script
