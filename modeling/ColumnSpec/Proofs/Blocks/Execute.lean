import ColumnSpec.Proofs.Blocks.Tree
/-!
# The flat executor runs the blocks

Over the items of a laid-out tree, `execute` behaves as the tree does: `Exec.flat` one
way, `decomposes` the other, together `execute_iff_exec`.
-/
namespace ColumnSpec.Script

/-- The items `l` sit in `code` from `pc` on. -/
def Fits (code : Array Item) (pc : Nat) (l : List Item) : Prop :=
  ∀ j < l.length, code[pc + j]? = l[j]?

section Fits

variable {code : Array Item} {pc : Nat}

theorem fits_append {l₁ l₂ : List Item} :
    Fits code pc (l₁ ++ l₂) ↔ Fits code pc l₁ ∧ Fits code (pc + l₁.length) l₂ := by
  constructor
  · intro h
    refine ⟨fun j hj => ?_, fun j hj => ?_⟩
    · have hj' := h j (by simp only [List.length_append]; omega)
      rwa [List.getElem?_append_left hj] at hj'
    · have hj' := h (l₁.length + j) (by simp only [List.length_append]; omega)
      rwa [List.getElem?_append_right (by omega), Nat.add_sub_cancel_left, ← Nat.add_assoc]
        at hj'
  · rintro ⟨h₁, h₂⟩ j hj
    by_cases hj₁ : j < l₁.length
    · rw [List.getElem?_append_left hj₁]
      exact h₁ j hj₁
    · have hj' := h₂ (j - l₁.length) (by simp only [List.length_append] at hj; omega)
      rw [List.getElem?_append_right (by omega)]
      rwa [show pc + l₁.length + (j - l₁.length) = pc + j by omega] at hj'

theorem fits_cons {i : Item} {l : List Item} :
    Fits code pc (i :: l) ↔ code[pc]? = some i ∧ Fits code (pc + 1) l := by
  rw [← List.singleton_append, fits_append]
  simp [Fits]

theorem fits_layoutList_cons {s : Stmt} {ss : List Stmt} :
    Fits code pc (layoutList pc (s :: ss)) ↔
      Fits code pc (s.layout pc) ∧ Fits code (pc + s.width) (layoutList (pc + s.width) ss) := by
  rw [layoutList_cons, fits_append, Stmt.length_layout]

theorem fits_item {i : PlainItem} : Fits code pc ((Stmt.item i).layout pc) ↔ code[pc]? = some i.1 := by
  simp [Stmt.layout, Fits]

theorem Fits.loop {c : Expr} {body : List Stmt} (h : Fits code pc ((Stmt.loop c body).layout pc)) :
    code[pc]? = some (.while c (pc + widthList body + 2)) ∧
      Fits code (pc + 1) (layoutList (pc + 1) body) ∧
      code[pc + 1 + widthList body]? = some (.jump pc) := by
  rw [Stmt.layout, length_layoutList, List.cons_append, fits_cons, fits_append,
    length_layoutList, fits_cons] at h
  exact ⟨h.1, h.2.1, h.2.2.1⟩

theorem Fits.cond {c : Expr} {body : List Stmt} {alt : Alt}
    (h : Fits code pc ((Stmt.cond c body alt).layout pc)) :
    code[pc]? = some (.if c (pc + widthList body + 1 + alt.jumps)) ∧
      Fits code (pc + 1) (layoutList (pc + 1) body) ∧
      Fits code (pc + 1 + widthList body) (alt.exit (pc + (Stmt.cond c body alt).width)) ∧
      Fits code (pc + widthList body + 1 + alt.jumps)
        (alt.layout (pc + widthList body + 1 + alt.jumps)) := by
  simp only [Stmt.layout, branch, length_layoutList, Alt.length_layout, List.cons_append,
    List.append_assoc] at h
  rw [fits_cons, fits_append, fits_append, length_layoutList] at h
  obtain ⟨h₀, h₁, h₂, h₃⟩ := h
  refine ⟨h₀, h₁, ?_, ?_⟩
  · have hw : pc + (Stmt.cond c body alt).width =
        pc + widthList body + 1 + alt.jumps + alt.width := by
      rw [Stmt.width]
      omega
    rwa [hw]
  · cases alt <;> simp only [Alt.exit, Alt.jumps, List.length_nil, List.length_singleton] at h₃ ⊢
    all_goals first | exact h₃ | rwa [Nat.add_right_comm pc 1] at h₃

end Fits

/-- The outcome a cycle's items end with when they run to their end. -/
def Flow.outcome : Flow → Outcome
  | .next => .complete
  | .exit o => o

/-- How the flat run goes on once a piece has given `r` in state `s`: with `k` after the
piece, or with the piece's end of the cycle or its fault. -/
def resume (r : Except Fault Flow) (s : RunState) (k : RunState → Except Fault Outcome × RunState) :
    Except Fault Outcome × RunState :=
  match r with
  | .ok .next => k s
  | .ok (.exit o) => (.ok o, s)
  | .error e => (.error e, s)

section Execute

variable {env : Setting} {code : Array Item} {stop pc n : Nat} {s : RunState}

theorem execute_past (h : stop ≤ pc) : (execute env code stop (n + 1) pc).exec s = (.ok .complete, s) := by
  simp [execute, Nat.not_lt.mpr h]

theorem execute_test {c : Expr} {t : Nat} {v : Value} {s₁ : RunState} (hpc : pc < stop)
    (hi : code[pc]? = some (.if c t) ∨ code[pc]? = some (.while c t))
    (hv : (evaluate env c).exec s = (.ok v, s₁)) :
    (execute env code stop (n + 1) pc).exec s =
      (execute env code stop n (if v.isTrue then pc + 1 else t)).exec s₁ := by
  rcases hi with hi | hi <;> simp only [execute, hpc, if_true, hi, Eval.exec_bind, hv]

theorem execute_testFault {c : Expr} {t : Nat} {e : Fault} {s₁ : RunState} (hpc : pc < stop)
    (hi : code[pc]? = some (.if c t) ∨ code[pc]? = some (.while c t))
    (he : (evaluate env c).exec s = (.error e, s₁)) :
    (execute env code stop (n + 1) pc).exec s = (.error e, s₁) := by
  rcases hi with hi | hi <;> simp only [execute, hpc, if_true, hi, Eval.exec_bind, he]

theorem execute_jump {t : Nat} (hpc : pc < stop) (hi : code[pc]? = some (.jump t)) :
    (execute env code stop (n + 1) pc).exec s = (execute env code stop n t).exec s := by
  simp only [execute, hpc, if_true, hi]

theorem execute_plain {i : PlainItem} (hpc : pc < stop) (hi : code[pc]? = some i.1) :
    (execute env code stop (n + 1) pc).exec s =
      resume ((act env pc i.1).exec s).1 ((act env pc i.1).exec s).2
        ((execute env code stop n (pc + 1)).exec ·) := by
  obtain ⟨i, hs⟩ := i
  simp only [execute, hpc, if_true, hi]
  split
  · simp_all
  -- the items that steer control are not plain
  all_goals rename_i h
  · cases h; simp [Item.steers] at hs
  · cases h; simp [Item.steers] at hs
  · cases h; simp [Item.steers] at hs
  · cases h
    rw [Eval.exec_bind]
    rcases (act env pc i).exec s with ⟨_ | _ | _, s₁⟩ <;> rfl

end Execute

@[simp] theorem resume_next {s : RunState} {k : RunState → Except Fault Outcome × RunState} :
    resume (.ok .next) s k = k s := rfl

theorem resume_stops {r : Except Fault Flow} {s : RunState}
    {k k' : RunState → Except Fault Outcome × RunState} (h : r ≠ .ok .next) :
    resume r s k = resume r s k' := by
  rcases r with e | _ | o
  · rfl
  · exact absurd rfl h
  · rfl

theorem resume_congr {r : Except Fault Flow} {s : RunState}
    {k k' : RunState → Except Fault Outcome × RunState} (h : ∀ s, k s = k' s) :
    resume r s k = resume r s k' := by
  rw [funext h]

section Flat

variable {env : Setting} {code : Array Item} {stop : Nat}

/-- The flat run from `start`, given `k` units of fuel more than it has left at `finish`,
goes on there as a piece ends with `res`. -/
def RunsAs (env : Setting) (code : Array Item) (stop start finish : Nat) (s : RunState)
    (res : Except Fault Flow × RunState) (k : Nat) : Prop :=
  ∀ n, (execute env code stop (n + k) start).exec s =
    resume res.1 res.2 ((execute env code stop n finish).exec ·)

namespace RunsAs

variable {a b c : Nat} {s s₁ : RunState} {res : Except Fault Flow × RunState} {k k₁ k₂ : Nat}

theorem refl : RunsAs env code stop a a s (.ok .next, s) 0 := fun _ => rfl

theorem trans (h₁ : RunsAs env code stop a b s (.ok .next, s₁) k₁)
    (h₂ : RunsAs env code stop b c s₁ res k₂) : RunsAs env code stop a c s res (k₂ + k₁) := by
  intro n
  rw [← Nat.add_assoc, h₁, resume_next, h₂]

theorem skip (h₁ : RunsAs env code stop a b s res k₁)
    (h₂ : ∀ s', RunsAs env code stop b c s' (.ok .next, s') k₂) :
    RunsAs env code stop a c s res (k₂ + k₁) := by
  intro n
  rw [← Nat.add_assoc, h₁]
  exact resume_congr fun s' => h₂ s' n

theorem stops (h : RunsAs env code stop a b s res k) (hr : res.1 ≠ .ok .next) :
    RunsAs env code stop a c s res k := by
  intro n
  rw [h n]
  exact resume_stops hr

theorem finishAt (h : RunsAs env code stop a b s res k) (hb : b = c) : RunsAs env code stop a c s res k :=
  hb ▸ h

end RunsAs

section Steps

variable {pc : Nat} {s s₁ : RunState}

theorem runsAs_act {i : PlainItem} (hpc : pc < stop) (hi : code[pc]? = some i.1) :
    RunsAs env code stop pc (pc + 1) s ((act env pc i.1).exec s) 1 := fun _ =>
  execute_plain hpc hi

theorem runsAs_taken {c : Expr} {t : Nat} {v : Value} (hpc : pc < stop)
    (hi : code[pc]? = some (.if c t) ∨ code[pc]? = some (.while c t))
    (hv : (evaluate env c).exec s = (.ok v, s₁)) (ht : v.isTrue = true) :
    RunsAs env code stop pc (pc + 1) s (.ok .next, s₁) 1 := fun _ => by
  rw [execute_test hpc hi hv, ht, if_pos rfl]
  rfl

theorem runsAs_notTaken {c : Expr} {t : Nat} {v : Value} (hpc : pc < stop)
    (hi : code[pc]? = some (.if c t) ∨ code[pc]? = some (.while c t))
    (hv : (evaluate env c).exec s = (.ok v, s₁)) (hf : v.isTrue = false) :
    RunsAs env code stop pc t s (.ok .next, s₁) 1 := fun _ => by
  rw [execute_test hpc hi hv, hf, if_neg Bool.false_ne_true]
  rfl

theorem runsAs_testFault {c : Expr} {t b : Nat} {e : Fault} (hpc : pc < stop)
    (hi : code[pc]? = some (.if c t) ∨ code[pc]? = some (.while c t))
    (he : (evaluate env c).exec s = (.error e, s₁)) :
    RunsAs env code stop pc b s (.error e, s₁) 1 := fun _ =>
  execute_testFault hpc hi he

theorem runsAs_jump {t : Nat} (hpc : pc < stop) (hi : code[pc]? = some (.jump t)) :
    RunsAs env code stop pc t s (.ok .next, s) 1 := fun _ =>
  execute_jump hpc hi

end Steps

theorem Exec.flat {f : Frag} {s : RunState} {res : Except Fault Flow × RunState}
    (h : Exec env f s res) :
    Fits code f.pc f.layout → f.pc + f.width ≤ stop →
      ∃ k, RunsAs env code stop f.pc (f.pc + f.width) s res k := by
  induction h with
  | nil => exact fun _ _ => ⟨0, RunsAs.refl.finishAt (by simp [Frag.pc, Frag.width, widthList])⟩
  | @item pc i ss s s₁ res hact _ ih =>
    intro hfit hstop
    simp only [Frag.pc, Frag.layout, Frag.width, fits_layoutList_cons, fits_item, widthList,
      Stmt.width] at hfit hstop ih ⊢
    obtain ⟨k, hk⟩ := ih hfit.2 (by omega)
    have hs : RunsAs env code stop pc (pc + 1) s ((act env pc i.1).exec s) 1 :=
      runsAs_act (by omega) hfit.1
    rw [hact] at hs
    exact ⟨k + 1, (hs.trans hk).finishAt (by omega)⟩
  | @itemEnds pc i ss s r s₁ hact hr =>
    intro hfit hstop
    simp only [Frag.pc, Frag.layout, Frag.width, fits_layoutList_cons, fits_item, widthList,
      Stmt.width] at hfit hstop ⊢
    have hs : RunsAs env code stop pc (pc + 1) s ((act env pc i.1).exec s) 1 :=
      runsAs_act (by omega) hfit.1
    rw [hact] at hs
    exact ⟨1, hs.stops hr⟩
  | @cond pc c body alt ss s s₁ res _ _ ih₁ ih₂ =>
    intro hfit hstop
    simp only [Frag.pc, Frag.layout, Frag.width, fits_layoutList_cons, widthList] at hfit hstop ih₁ ih₂ ⊢
    obtain ⟨k₁, hk₁⟩ := ih₁ hfit.1 (by omega)
    obtain ⟨k₂, hk₂⟩ := ih₂ hfit.2 (by omega)
    exact ⟨k₂ + k₁, (hk₁.trans hk₂).finishAt (by omega)⟩
  | @condEnds pc c body alt ss s r s₁ _ hr ih =>
    intro hfit hstop
    simp only [Frag.pc, Frag.layout, Frag.width, fits_layoutList_cons, widthList] at hfit hstop ih ⊢
    obtain ⟨k, hk⟩ := ih hfit.1 (by omega)
    exact ⟨k, hk.stops hr⟩
  | @loopDone pc c body ss s v s₁ res hv hf _ ih =>
    intro hfit hstop
    simp only [Frag.pc, Frag.layout, Frag.width, fits_layoutList_cons, widthList,
      Stmt.width] at hfit hstop ih ⊢
    have hl := hfit.1.loop
    obtain ⟨k, hk⟩ := ih hfit.2 (by omega)
    exact ⟨k + 1, (((runsAs_notTaken (by omega) (.inr hl.1) hv hf).finishAt (by omega)).trans hk).finishAt
      (by omega)⟩
  | @loopRound pc c body ss s v s₁ s₂ res hv htrue _ _ ihb ihl =>
    intro hfit hstop
    simp only [Frag.pc, Frag.layout, Frag.width, fits_layoutList_cons, widthList] at hfit hstop ihb ihl ⊢
    have hl := hfit.1.loop
    simp only [Stmt.width] at hstop ihl ⊢
    obtain ⟨kb, hkb⟩ := ihb hl.2.1 (by omega)
    obtain ⟨kl, hkl⟩ := ihl hfit hstop
    exact ⟨_, (((runsAs_taken (by omega) (.inr hl.1) hv htrue).trans hkb).trans
      (runsAs_jump (by omega) hl.2.2)).trans hkl⟩
  | @loopEnds pc c body ss s v s₁ r s₂ hv htrue _ hr ihb =>
    intro hfit hstop
    simp only [Frag.pc, Frag.layout, Frag.width, fits_layoutList_cons, widthList] at hfit hstop ihb ⊢
    have hl := hfit.1.loop
    simp only [Stmt.width] at hstop
    obtain ⟨kb, hkb⟩ := ihb hl.2.1 (by omega)
    exact ⟨kb + 1, ((runsAs_taken (by omega) (.inr hl.1) hv htrue).trans hkb).stops hr⟩
  | @loopFault pc c body ss s e s₁ he =>
    intro hfit hstop
    simp only [Frag.pc, Frag.layout, Frag.width, fits_layoutList_cons, widthList] at hfit hstop ⊢
    simp only [Stmt.width] at hstop
    exact ⟨1, runsAs_testFault (by omega) (.inr hfit.1.loop.1) he⟩
  | @taken pc c body alt s v s₁ res hv htrue _ ih =>
    intro hfit hstop
    simp only [Frag.pc, Frag.layout, Frag.width] at hfit hstop ih ⊢
    obtain ⟨hc, hb, hx, -⟩ := hfit.cond
    simp only [Stmt.width] at hstop hx ⊢
    obtain ⟨k, hk⟩ := ih hb (by omega)
    have ht : RunsAs env code stop pc (pc + 1) s (.ok .next, s₁) 1 :=
      runsAs_taken (by omega) (.inl hc) hv htrue
    cases alt with
    | endIf => exact ⟨k + 1, (ht.trans hk).finishAt (by simp only [Alt.jumps_endIf, Alt.width]; omega)⟩
    | _ =>
      simp only [Alt.exit_else, Alt.exit_elseIf, Alt.jumps_else, Alt.jumps_elseIf, fits_cons]
        at hx hstop
      exact ⟨_, (ht.trans hk).skip fun s' => runsAs_jump (s := s') (by omega) hx.1⟩
  | @notTaken pc c body s v s₁ hv hf =>
    intro hfit hstop
    simp only [Frag.pc, Frag.layout, Frag.width] at hfit hstop ⊢
    obtain ⟨hc, -, -, -⟩ := hfit.cond
    simp only [Stmt.width, Alt.jumps_endIf, Alt.width] at hstop hc ⊢
    exact ⟨1, (runsAs_notTaken (by omega) (.inl hc) hv hf).finishAt (by omega)⟩
  | @otherwise pc c body e s v s₁ res hv hf _ ih =>
    intro hfit hstop
    simp only [Frag.pc, Frag.layout, Frag.width] at hfit hstop ih ⊢
    obtain ⟨hc, -, -, he⟩ := hfit.cond
    simp only [Stmt.width, Alt.jumps_else, Alt.width, Alt.layout] at hstop hc he ⊢
    obtain ⟨k, hk⟩ := ih (by rwa [Nat.add_assoc] at he) (by omega)
    exact ⟨k + 1, (((runsAs_notTaken (by omega) (.inl hc) hv hf).finishAt (by omega)).trans hk).finishAt
      (by omega)⟩
  | @elseIf pc c body c' body' alt s v s₁ res hv hf _ ih =>
    intro hfit hstop
    simp only [Frag.pc, Frag.layout, Frag.width] at hfit hstop ih ⊢
    obtain ⟨hc, -, -, he⟩ := hfit.cond
    rw [Alt.layout_elseIf] at he
    simp only [Stmt.width, Alt.jumps_elseIf, Alt.width] at hstop hc he ih ⊢
    obtain ⟨k, hk⟩ := ih (by rwa [Nat.add_assoc] at he) (by omega)
    exact ⟨k + 1, (((runsAs_notTaken (by omega) (.inl hc) hv hf).finishAt (by omega)).trans hk).finishAt
      (by omega)⟩
  | @testFault pc c body alt s e s₁ he =>
    intro hfit hstop
    simp only [Frag.pc, Frag.layout, Frag.width] at hfit hstop ⊢
    obtain ⟨hc, -, -, -⟩ := hfit.cond
    simp only [Stmt.width] at hstop
    exact ⟨1, runsAs_testFault (by omega) (.inl hc) he⟩

end Flat

section Decompose

variable {env : Setting} {code : Array Item} {stop : Nat}

/-- The flat run of a piece's items with fuel `n` from `s` runs out of fuel, or does what the
piece does and, when the piece goes on, goes on after its items with at most `n` units of fuel
left. -/
def Decomposes (env : Setting) (code : Array Item) (stop n : Nat) (f : Frag) (s : RunState) :
    Prop :=
  ((execute env code stop n f.pc).exec s).1 = .ok .exhausted ∨
    ∃ res m, Exec env f s res ∧ m ≤ n ∧
      (execute env code stop n f.pc).exec s =
        resume res.1 res.2 ((execute env code stop m (f.pc + f.width)).exec ·)

/-- The hypothesis of the induction on fuel: every piece decomposes with less fuel. -/
def DecomposesBelow (env : Setting) (code : Array Item) (stop n : Nat) : Prop :=
  ∀ m < n, ∀ f s, Fits code f.pc f.layout → f.pc + f.width ≤ stop → Decomposes env code stop m f s

theorem DecomposesBelow.mono {n n' : Nat} (ih : DecomposesBelow env code stop n) (h : n' ≤ n) :
    DecomposesBelow env code stop n' :=
  fun m hm => ih m (by omega)

theorem decomposes_zero {f : Frag} {s : RunState} : Decomposes env code stop 0 f s := .inl rfl

theorem decomposes_branch {n pc : Nat} {c : Expr} {body : List Stmt} {alt : Alt} {s : RunState}
    (ih : DecomposesBelow env code stop n)
    (hfit : Fits code pc ((Stmt.cond c body alt).layout pc))
    (hstop : pc + (Stmt.cond c body alt).width ≤ stop) :
    Decomposes env code stop n (.branch pc c body alt) s := by
  obtain ⟨hc, hb, hx, ha⟩ := hfit.cond
  simp only [Stmt.width] at hstop hx
  cases n with
  | zero => exact decomposes_zero
  | succ n =>
  simp only [Decomposes, Frag.pc, Frag.width, Stmt.width]
  rcases hv : (evaluate env c).exec s with ⟨_ | v, s₁⟩
  · exact .inr ⟨_, n, .testFault hv, by omega, execute_testFault (by omega) (.inl hc) hv⟩
  rw [execute_test (by omega) (.inl hc) hv]
  cases ht : v.isTrue
  · -- the test fails: go on with the alternatives
    rw [if_neg Bool.false_ne_true]
    cases alt with
    | endIf =>
      refine .inr ⟨_, n, .notTaken hv ht, by omega, ?_⟩
      simp only [Alt.jumps_endIf, Alt.width, resume_next, Nat.add_zero, Nat.add_assoc]
    | «else» e =>
      simp only [Alt.jumps_else, Alt.layout, Alt.width] at ha hstop ⊢
      rcases ih n (by omega) (.seq (pc + widthList body + 1 + 1) e) s₁ ha
        (by simp only [Frag.pc, Frag.width]; omega) with hx | ⟨res, m, hres, hm, he⟩
      · exact .inl hx
      · refine .inr ⟨res, m, .otherwise hv ht hres, by omega, ?_⟩
        simp only [Frag.pc, Frag.width] at he
        rw [he]
        simp only [Nat.add_assoc]
    | elseIf c' body' alt' =>
      simp only [Alt.jumps_elseIf, Alt.layout_elseIf, Alt.width] at ha hstop ⊢
      rcases decomposes_branch (ih.mono (Nat.le_succ n)) ha (by simp only [Stmt.width]; omega)
        (s := s₁) with hx | ⟨res, m, hres, hm, he⟩
      · exact .inl hx
      · refine .inr ⟨res, m, .elseIf hv ht hres, by omega, ?_⟩
        simp only [Frag.pc, Frag.width, Stmt.width] at he
        rw [he]
        simp only [Nat.add_assoc]
  · -- the test holds: run the branch, then leave the chain
    rw [if_pos rfl]
    rcases ih n (by omega) (.seq (pc + 1) body) s₁ hb (by simp only [Frag.pc, Frag.width]; omega)
      with hx | ⟨res, m, hres, hm, he⟩
    · exact .inl hx
    simp only [Frag.pc, Frag.width] at he
    rw [he]
    cases alt with
    | endIf =>
      refine .inr ⟨res, m, .taken hv ht hres, by omega, ?_⟩
      simp only [Alt.jumps_endIf, Alt.width, Nat.add_zero]
      rw [show pc + (widthList body + 1) = pc + 1 + widthList body by omega]
    | _ =>
      simp only [Alt.exit_else, Alt.exit_elseIf, Alt.jumps_else, Alt.jumps_elseIf, fits_cons]
        at hx hstop
      rcases res with ⟨_ | _ | o, s₂⟩
      · exact .inr ⟨_, m, .taken hv ht hres, by omega, rfl⟩
      · cases m with
        | zero => exact .inl rfl
        | succ m =>
          refine .inr ⟨_, m, .taken hv ht hres, by omega, ?_⟩
          rw [resume_next, execute_jump (by omega) hx.1]
          rfl
      · exact .inr ⟨_, m, .taken hv ht hres, by omega, rfl⟩

/-- A list of blocks decomposes, with any fuel up to `n`, once every piece does with less
fuel than `n`. The induction is on the list, since the chain ahead of the rest may leave it
all the fuel it was given. -/
theorem decomposes_seq {n : Nat} (ih : DecomposesBelow env code stop n) :
    ∀ (ss : List Stmt) (pc m : Nat) (s : RunState), m ≤ n → Fits code pc (layoutList pc ss) →
      pc + widthList ss ≤ stop → Decomposes env code stop m (.seq pc ss) s
  | [], pc, m, s, _, _, _ => .inr ⟨_, m, .nil, Nat.le_refl m, by simp [Frag.pc, Frag.width, widthList]⟩
  | .item i :: ss, pc, m, s, hm, hfit, hstop => by
    rw [fits_layoutList_cons, fits_item] at hfit
    simp only [widthList, Stmt.width] at hstop
    cases m with
    | zero => exact decomposes_zero
    | succ m =>
    simp only [Decomposes, Frag.pc, Frag.width, widthList, Stmt.width]
    rw [execute_plain (by omega) hfit.1]
    rcases hact : (act env pc i.1).exec s with ⟨r, s₁⟩
    by_cases hr : r = .ok .next
    · subst hr
      rcases ih m (by omega) (.seq (pc + 1) ss) s₁ hfit.2 (by simp only [Frag.pc, Frag.width]; omega)
        with hx | ⟨res, m', hres, hm', he⟩
      · exact .inl hx
      · simp only [Frag.pc, Frag.width] at he
        refine .inr ⟨res, m', .item hact hres, by omega, ?_⟩
        rw [resume_next, he, Nat.add_assoc]
    · exact .inr ⟨(r, s₁), m, .itemEnds hact hr, by omega, resume_stops hr⟩
  | .cond c body alt :: ss, pc, m, s, hm, hfit, hstop => by
    rw [fits_layoutList_cons] at hfit
    simp only [widthList] at hstop
    rcases decomposes_branch (ih.mono hm) hfit.1 (by omega) (s := s) with
      hx | ⟨⟨r, s₁⟩, m₁, h₁, hm₁, he₁⟩
    · exact .inl hx
    simp only [Decomposes, Frag.pc, Frag.width, widthList] at he₁ ⊢
    by_cases hr : r = .ok .next
    · subst hr
      rcases decomposes_seq ih ss (pc + (Stmt.cond c body alt).width) m₁ s₁ (by omega) hfit.2
        (by omega) with hx | ⟨res, m₂, h₂, hm₂, he₂⟩
      · left
        rw [he₁]
        exact hx
      · simp only [Frag.pc, Frag.width] at he₂
        refine .inr ⟨res, m₂, .cond h₁ h₂, by omega, ?_⟩
        rw [he₁, resume_next, he₂, Nat.add_assoc]
    · exact .inr ⟨(r, s₁), m₁, .condEnds h₁ hr, hm₁, he₁.trans (resume_stops hr)⟩
  | .loop c body :: ss, pc, m, s, hm, hfit, hstop => by
    rw [fits_layoutList_cons] at hfit
    have hl := hfit.1.loop
    simp only [widthList, Stmt.width] at hstop hfit
    cases m with
    | zero => exact decomposes_zero
    | succ m =>
    simp only [Decomposes, Frag.pc, Frag.width, widthList, Stmt.width]
    rcases hv : (evaluate env c).exec s with ⟨_ | v, s₁⟩
    · exact .inr ⟨_, m, .loopFault hv, by omega, execute_testFault (by omega) (.inr hl.1) hv⟩
    rw [execute_test (by omega) (.inr hl.1) hv]
    cases ht : v.isTrue
    · -- the loop is done: go on after it
      rw [if_neg Bool.false_ne_true]
      rcases ih m (by omega) (.seq (pc + (widthList body + 2)) ss) s₁ hfit.2
        (by simp only [Frag.pc, Frag.width]; omega) with hx | ⟨res, m', hres, hm', he⟩
      · left
        rwa [Nat.add_assoc]
      · simp only [Frag.pc, Frag.width] at he
        refine .inr ⟨res, m', .loopDone hv ht (by simpa only [Stmt.width] using hres), by omega, ?_⟩
        rw [Nat.add_assoc, he, Nat.add_assoc]
    · -- one more round: the body, then the jump back to the test
      rw [if_pos rfl]
      rcases ih m (by omega) (.seq (pc + 1) body) s₁ hl.2.1
        (by simp only [Frag.pc, Frag.width]; omega) with hx | ⟨⟨r, s₂⟩, m₁, h₁, hm₁, he₁⟩
      · exact .inl hx
      simp only [Frag.pc, Frag.width] at he₁
      rw [he₁]
      by_cases hr : r = .ok .next
      · subst hr
        cases m₁ with
        | zero => exact .inl rfl
        | succ j =>
        rw [resume_next, execute_jump (by omega) hl.2.2]
        rcases ih j (by omega) (.seq pc (.loop c body :: ss)) s₂
          (by simpa only [Frag.pc, Frag.layout, fits_layoutList_cons, Stmt.width] using hfit)
          (by simp only [Frag.pc, Frag.width, widthList, Stmt.width]; omega) with
          hx | ⟨res, m₂, h₂, hm₂, he₂⟩
        · exact .inl hx
        · simp only [Frag.pc, Frag.width, widthList, Stmt.width] at he₂
          exact .inr ⟨res, m₂, .loopRound hv ht h₁ h₂, by omega, he₂⟩
      · exact .inr ⟨(r, s₂), m₁, .loopEnds hv ht h₁ hr, by omega, resume_stops hr⟩

theorem decomposes (n : Nat) : ∀ (f : Frag) (s : RunState), Fits code f.pc f.layout →
    f.pc + f.width ≤ stop → Decomposes env code stop n f s := by
  induction n using Nat.strongRecOn with
  | ind n ih =>
    intro f s hfit hstop
    cases f with
    | seq pc ss => exact decomposes_seq ih ss pc n s (Nat.le_refl n) hfit hstop
    | branch pc c body alt => exact decomposes_branch ih hfit hstop

end Decompose

/-- A step of a run that never ends the cycle by running out of fuel. -/
def Settled (m : Run Flow) : Prop := ∀ s, (m.exec s).1 ≠ .ok (.exit .exhausted)

theorem Settled.bind {α : Type} {x : Run α} {f : α → Run Flow} (h : ∀ a, Settled (f a)) :
    Settled (x >>= f) := by
  intro s
  rw [Eval.exec_bind]
  rcases x.exec s with ⟨_ | a, s₁⟩
  · simp
  · exact h a s₁

theorem settled_pure {r : Flow} (h : r ≠ .exit .exhausted) : Settled (pure r) := by
  intro s
  simpa using h

theorem act_settled (env : Setting) (pc : Nat) (i : Item) : Settled (act env pc i) := by
  unfold act act.skip
  split
  · exact settled_pure (by simp)
  · exact settled_pure (by simp)
  · refine Settled.bind fun b => ?_
    split
    · exact Settled.bind fun _ => settled_pure (by simp)
    · exact settled_pure (by simp)
  -- the skips: passed over, dropping the record, or flipping for good; and the other items
  all_goals first
    | exact Settled.bind fun _ => settled_pure (by simp)
    | refine Settled.bind fun s => ?_
      split
      · exact settled_pure (by simp)
      · refine Settled.bind fun v => ?_
        dsimp only
        split
        · exact settled_pure (by simp)
        · exact Settled.bind fun _ => settled_pure (by simp)

theorem Exec.settled {env : Setting} {f : Frag} {s : RunState} {res : Except Fault Flow × RunState}
    (h : Exec env f s res) : res.1 ≠ .ok (.exit .exhausted) := by
  induction h with
  | @itemEnds pc i _ s _ _ hact _ =>
    have h := act_settled env pc i.1 s
    rw [hact] at h
    exact h
  | nil | notTaken => simp
  | loopFault | testFault => simp
  | _ => assumption

section Cycle

variable {env : Setting} {code : Array Item} {stop : Nat}

theorem resume_past {r : Except Fault Flow} {s : RunState} (n : Nat) (h : stop ≤ pc) :
    resume r s ((execute env code stop (n + 1) pc).exec ·) = (r.map Flow.outcome, s) := by
  rcases r with e | _ | o
  · rfl
  · exact execute_past h
  · rfl

/-- Laid-out blocks run by the flat executor up to a stop right after them end as the blocks
do: for some fuel the flat run ends with `x` in state `s'`, not by running out of fuel,
exactly when the blocks run to `s'` and end as `x` says. -/
theorem execute_iff_exec {pc : Nat} {ss : List Stmt} {s s' : RunState}
    {x : Except Fault Outcome} (hfit : Fits code pc (layoutList pc ss))
    (hstop : pc + widthList ss = stop) :
    (∃ n, (execute env code stop n pc).exec s = (x, s') ∧ x ≠ .ok .exhausted) ↔
      ∃ r, Exec env (.seq pc ss) s (r, s') ∧ x = r.map Flow.outcome := by
  constructor
  · rintro ⟨n, hn, hx⟩
    have hd : Decomposes env code stop n (.seq pc ss) s :=
      decomposes n _ s hfit (by simp only [Frag.pc, Frag.width]; omega)
    rcases hd with hex | ⟨⟨r, s₁⟩, m, hr, -, he⟩
    · simp only [Frag.pc, hn] at hex
      exact absurd hex hx
    simp only [Frag.pc, Frag.width, hn] at he
    cases m with
    | zero =>
      rcases r with e | _ | o
      · cases he
        exact ⟨_, hr, rfl⟩
      · cases he
        exact absurd rfl hx
      · cases he
        exact ⟨_, hr, rfl⟩
    | succ m =>
      rw [resume_past m (by omega)] at he
      cases he
      exact ⟨_, hr, rfl⟩
  · rintro ⟨r, hr, rfl⟩
    have hf : ∃ k, RunsAs env code stop pc (pc + widthList ss) s (r, s') k :=
      hr.flat hfit (by simp only [Frag.pc, Frag.width]; omega)
    obtain ⟨k, hk⟩ := hf
    refine ⟨1 + k, ?_, ?_⟩
    · rw [hk 1, resume_past 0 (by omega)]
    · have := hr.settled
      rcases r with e | _ | o
      · simp [Except.map]
      · simp [Except.map, Flow.outcome]
      · simpa [Except.map, Flow.outcome] using this

end Cycle

end ColumnSpec.Script
