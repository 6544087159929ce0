import Mathlib
import ColumnSpec.Proofs.Blocks.Execute
import ColumnSpec.Proofs.Blocks.Nest
import ColumnSpec.Proofs.Blocks.Steps
/-!
# Compiled programs run their blocks

The compiler patches the targets of its tests and jumps only when a block's next part or
end is read; the invariant `Agrees` shows that the items it builds are nonetheless the
layout of the program's nested blocks (`compile_nest`, `compile_runs_blocks`).
-/
namespace ColumnSpec.Script

/-! ## Reading tokens as clauses -/

/-- How the first tokens of a program read as a clause, with the tokens after it: a block
word with its condition, or the tokens of one other item, which adds items that do not
steer and leaves the open blocks alone. -/
inductive Reads : List Token → Clause → List Token → Prop
  | ifThen {t e k : Token} {rest : List Token} {c : Expr} : t.kind = .keyword .if →
      Parser.parse e.literalText = .ok c → k.isKeyword .then = true →
      Reads (t :: e :: k :: rest) (.ifThen c) rest
  | elseIf {t e k : Token} {rest : List Token} {c : Expr} : t.kind = .keyword .elseIf →
      Parser.parse e.literalText = .ok c → k.isKeyword .then = true →
      Reads (t :: e :: k :: rest) (.elseIf c) rest
  | else {t : Token} {rest : List Token} : t.kind = .keyword .else → Reads (t :: rest) .else rest
  | endIf {t : Token} {rest : List Token} : t.kind = .keyword .endIf → Reads (t :: rest) .endIf rest
  | whileDo {t e k : Token} {rest : List Token} {c : Expr} : t.kind = .keyword .while →
      Parser.parse e.literalText = .ok c → k.isKeyword .do = true →
      Reads (t :: e :: k :: rest) (.whileDo c) rest
  | done {t : Token} {rest : List Token} : t.kind = .keyword .done → Reads (t :: rest) .done rest
  | plain {t : Token} {ts rest : List Token} {out : List PlainItem} {b b' : Builder}
      {h : rest.length < (t :: ts).length} :
      (∀ k, t.kind = .keyword k → k.isBlockWord = false) →
      (item (t :: ts)).run b = .ok (⟨rest, h⟩, b') → b'.blocks = b.blocks →
      b'.program.items.toList = b.program.items.toList ++ out.map Subtype.val →
      Reads (t :: ts) (.plain out) rest

/-- How a program's tokens read as clauses, one after the other. -/
inductive ReadsAll : List Token → List Clause → Prop
  | nil : ReadsAll [] []
  | cons {ts rest : List Token} {c : Clause} {cs : List Clause} :
      Reads ts c rest → ReadsAll rest cs → ReadsAll ts (c :: cs)

/-! ## The invariant -/

/-- The `EOF` item, as a block of its own. -/
def eofStmt : Stmt := .item ⟨.eof, rfl⟩

/-- How an open block of the compiler stands for a frame laid out from `p`: an `IF`
chain's test still to be set is the last branch's, its exits are the jumps closing the
finished branches, and it has seen `ELSE` just when the frame is an `ELSE` part; a loop
starts where its frame does. -/
def Frame.Pending (p : Nat) : Frame → Block → Prop
  | .branch done _ _, .ifBlock test exits hasElse _ =>
    test = some (p + armsWidth done) ∧ exits = armsExits p done ∧ hasElse = false
  | .otherwise first more _, .ifBlock test exits hasElse _ =>
    test = none ∧ exits = armsExits p (first :: more) ∧ hasElse = true
  | .loop _ _, .whileBlock start _ => start = p
  | _, _ => False

/-- The open blocks of the compiler stand for the frames of a nest, innermost first. -/
def Pending (top : List Stmt) : List Frame → List Block → Prop
  | [], [] => True
  | f :: fs, blk :: bs => f.Pending (openCode top fs).length blk ∧ Pending top fs bs
  | _, _ => False

/-- Where `EOF` is, if anywhere: a block at the top level, after the blocks `pre`. -/
def EofAt (top : List Stmt) (e : Option Nat) : Prop :=
  e = none ∨ ∃ pre post, top = pre ++ eofStmt :: post ∧ e = some (widthList pre)

/-- A builder holds what a nest stands for. -/
structure Agrees (b : Builder) (z : Nest) : Prop where
  items : b.program.items.toList = z.code
  blocks : Pending z.top z.frames b.blocks
  eof : EofAt z.top b.program.eofAt

theorem Agrees.size_eq {b : Builder} {z : Nest} (hz : Agrees b z) :
    b.program.items.size = z.code.length := by
  rw [← Array.length_toList, hz.items]

theorem pending_nil {top : List Stmt} {fs : List Frame} (h : Pending top fs []) : fs = [] := by
  cases fs with
  | nil => rfl
  | cons f fs => exact h.elim

theorem layoutList_plain (pc : Nat) (out : List PlainItem) :
    layoutList pc (out.map Stmt.item) = out.map Subtype.val := by
  induction out generalizing pc with
  | nil => rfl
  | cons i out ih => simp [layoutList_cons, Stmt.layout, ih]

theorem Frame.pending_add (p : Nat) (f : Frame) (ss : List Stmt) (blk : Block) :
    (f.add ss).Pending p blk ↔ f.Pending p blk := by
  cases f <;> cases blk <;> rfl

theorem Nest.pending_add (z : Nest) (ss : List Stmt) (bs : List Block) :
    Pending (z.add ss).top (z.add ss).frames bs ↔ Pending z.top z.frames bs := by
  obtain ⟨top, frames⟩ := z
  cases frames with
  | nil => cases bs <;> rfl
  | cons f fs =>
    cases bs with
    | nil => rfl
    | cons blk bs => simp only [Nest.add, Pending, Frame.pending_add]

theorem EofAt.add {z : Nest} {e : Option Nat} (h : EofAt z.top e) (ss : List Stmt) :
    EofAt (z.add ss).top e := by
  have htop : ∃ extra, (z.add ss).top = z.top ++ extra := by
    obtain ⟨top, frames⟩ := z
    cases frames with
    | nil => exact ⟨ss, rfl⟩
    | cons f fs => exact ⟨[], by simp [Nest.add]⟩
  obtain ⟨extra, hx⟩ := htop
  rw [hx]
  rcases h with h | ⟨pre, post, htop, he⟩
  · exact .inl h
  · exact .inr ⟨pre, post ++ extra, by simp [htop], he⟩

theorem toList_foldl_modify (f : Item → Item) (ps : List Nat) (a : Array Item) :
    (ps.foldl (fun a j => a.modify j f) a).toList = ps.foldl (fun l j => l.modify j f) a.toList := by
  induction ps generalizing a with
  | nil => rfl
  | cons j ps ih => simp [ih]

/-! ## Patching the open code -/

theorem modify_branchTest (pre : List Item) (done : List (Expr × List Stmt)) (c₀ : Expr)
    (body : List Stmt) (extra : List Item) :
    (pre ++ armsCode pre.length 0 done ++
        .if c₀ 0 :: layoutList (pre.length + armsWidth done + 1) body ++ .jump 0 :: extra).modify
      (pre.length + armsWidth done) (Item.retarget (pre.length + armsWidth done + widthList body + 2)) =
      pre ++ armsCode pre.length 0 (done ++ [(c₀, body)]) ++ extra := by
  have hlen : (pre ++ armsCode pre.length 0 done).length = pre.length + armsWidth done := by
    simp [length_armsCode]
  have hsplit : pre ++ armsCode pre.length 0 done ++
      .if c₀ 0 :: layoutList (pre.length + armsWidth done + 1) body ++ .jump 0 :: extra =
      (pre ++ armsCode pre.length 0 done) ++
        .if c₀ 0 :: (layoutList (pre.length + armsWidth done + 1) body ++ .jump 0 :: extra) := by
    simp
  rw [hsplit, ← hlen, modify_append_cons, hlen, armsCode_append]
  simp [armsCode, length_layoutList, Item.retarget, Nat.add_assoc]

theorem retargetAll_branch (pre : List Item) (done : List (Expr × List Stmt)) (c : Expr)
    (body : List Stmt) :
    retargetAll (pre.length + armsWidth done + 1 + widthList body)
        (pre ++ (Frame.branch done c body).code pre.length)
        ([pre.length + armsWidth done] ++ armsExits pre.length done) =
      pre ++ (Frame.branch done c body).close.layout pre.length := by
  have hlen : (pre ++ armsCode pre.length 0 done).length = pre.length + armsWidth done := by
    simp [length_armsCode]
  rw [Frame.layout_close_branch, retargetAll, List.foldl_append, List.foldl_cons, List.foldl_nil,
    Frame.code, ← List.append_assoc, ← hlen, modify_append_cons, hlen]
  rw [← List.append_assoc]
  exact retargetAll_armsExits _ pre _ done

theorem retargetAll_otherwise (pre : List Item) (first : Expr × List Stmt)
    (more : List (Expr × List Stmt)) (body : List Stmt) :
    retargetAll (pre.length + armsWidth (first :: more) + widthList body)
        (pre ++ (Frame.otherwise first more body).code pre.length)
        (armsExits pre.length (first :: more)) =
      pre ++ (Frame.otherwise first more body).close.layout pre.length := by
  rw [Frame.layout_close_otherwise, Frame.code, ← List.append_assoc, ← List.append_assoc]
  exact retargetAll_armsExits _ pre _ (first :: more)

theorem modify_loopTest (pre : List Item) (c : Expr) (body : List Stmt) :
    (pre ++ (Frame.loop c body).code pre.length ++ [Item.jump pre.length]).modify pre.length
        (Item.retarget (pre.length + widthList body + 2)) =
      pre ++ (Frame.loop c body).close.layout pre.length := by
  rw [Frame.layout_close_loop, Frame.code, List.append_assoc, List.cons_append, modify_append_cons]
  rfl

/-! ## Each clause keeps the invariant -/

section Clauses

variable {b b' : Builder} {z : Nest}

theorem Agrees.plain {out : List PlainItem} (hz : Agrees b z) (hb : b'.blocks = b.blocks)
    (he : b'.program.eofAt = b.program.eofAt)
    (hi : b'.program.items.toList = b.program.items.toList ++ out.map Subtype.val) :
    Agrees b' (z.add (out.map .item)) where
  items := by rw [hi, hz.items, Nest.code_add, layoutList_plain]
  blocks := by rw [hb, Nest.pending_add]; exact hz.blocks
  eof := by rw [he]; exact hz.eof.add _

theorem Agrees.eofItem (hz : Agrees b z) (hb : b.blocks = []) (hb' : b'.blocks = [])
    (hi : b'.program.items = b.program.items.push .eof)
    (he' : b'.program.eofAt = some b.program.items.size) :
    Agrees b' (z.add [eofStmt]) := by
  obtain ⟨top, frames⟩ := z
  have hf : frames = [] := pending_nil (hb ▸ hz.blocks)
  subst hf
  refine ⟨?_, ?_, ?_⟩
  · rw [hi, Array.toList_push, hz.items, Nest.code_add]
    rfl
  · rw [hb']
    trivial
  · rw [he', hz.size_eq]
    exact .inr ⟨top, [], rfl, by simp [Nest.code, openCode, length_layoutList]⟩

theorem Agrees.ifThen {c : Expr} {o : String} (hz : Agrees b z)
    (hi : b'.program.items = b.program.items.push (.if c 0))
    (hb : b'.blocks = .ifBlock (some b.program.items.size) [] false o :: b.blocks)
    (he : b'.program.eofAt = b.program.eofAt) :
    Agrees b' { z with frames := .branch [] c [] :: z.frames } where
  items := by
    rw [hi, Array.toList_push, hz.items]
    simp [Nest.code, openCode, Frame.code, armsCode]
  blocks := by
    rw [hb]
    exact ⟨⟨by rw [hz.size_eq]; rfl, rfl, rfl⟩, hz.blocks⟩
  eof := by rw [he]; exact hz.eof

theorem Agrees.whileDo {c : Expr} {o : String} (hz : Agrees b z)
    (hi : b'.program.items = b.program.items.push (.while c 0))
    (hb : b'.blocks = .whileBlock b.program.items.size o :: b.blocks)
    (he : b'.program.eofAt = b.program.eofAt) :
    Agrees b' { z with frames := .loop c [] :: z.frames } where
  items := by
    rw [hi, Array.toList_push, hz.items]
    simp [Nest.code, openCode, Frame.code]
  blocks := by
    rw [hb]
    exact ⟨hz.size_eq, hz.blocks⟩
  eof := by rw [he]; exact hz.eof

theorem Agrees.elseIf {c : Expr} {test : Option Nat} {exits : List Nat} {o : String}
    {outer : List Block} (hz : Agrees b z) (hb : b.blocks = .ifBlock test exits false o :: outer)
    (hb' : b'.blocks =
      .ifBlock (some (b.program.items.size + 1)) (exits ++ [b.program.items.size]) false o :: outer)
    (hi : b'.program.items = test.toList.foldl
      (fun a j => a.modify j (·.retarget (b.program.items.size + 1)))
      ((b.program.items.push (.jump 0)).push (.if c 0)))
    (he : b'.program.eofAt = b.program.eofAt) :
    ∃ z', z.feed (.elseIf c) = some z' ∧ Agrees b' z' := by
  obtain ⟨top, frames⟩ := z
  have hp := hz.blocks
  rw [hb] at hp
  cases frames with
  | nil => exact hp.elim
  | cons f fs =>
    obtain ⟨hf, hfs⟩ := hp
    cases f with
    | branch done c₀ body =>
      obtain ⟨rfl, rfl, -⟩ := hf
      have hsize : b.program.items.size =
          (openCode top fs).length + armsWidth done + 1 + widthList body := by
        rw [hz.size_eq]
        simp [Nest.code, openCode, Frame.code, length_armsCode, length_layoutList]
        omega
      have hnext : b.program.items.size + 1 =
          (openCode top fs).length + armsWidth done + widthList body + 2 := by
        omega
      refine ⟨_, rfl, ?_, ?_, ?_⟩
      · rw [hi, hnext, toList_foldl_modify, Array.toList_push, Array.toList_push, hz.items]
        have h := modify_branchTest (openCode top fs) done c₀ body [.if c 0]
        simp only [Nest.code, openCode, Frame.code, Option.toList, List.foldl_cons,
          List.foldl_nil, List.append_assoc, List.cons_append, List.nil_append,
          layoutList_nil] at h ⊢
        exact h
      · rw [hb']
        refine ⟨⟨?_, ?_, rfl⟩, hfs⟩
        · simp [hsize, armsWidth_append, armsWidth]
          omega
        · simp [hsize, armsExits_append, armsExits]
          omega
      · rw [he]
        exact hz.eof
    | otherwise first more body => exact absurd hf.2.2 (by decide)
    | loop c₀ body => exact hf.elim

theorem Agrees.otherwise {test : Option Nat} {exits : List Nat} {o : String} {outer : List Block}
    (hz : Agrees b z) (hb : b.blocks = .ifBlock test exits false o :: outer)
    (hb' : b'.blocks = .ifBlock none (exits ++ [b.program.items.size]) true o :: outer)
    (hi : b'.program.items = test.toList.foldl
      (fun a j => a.modify j (·.retarget (b.program.items.size + 1)))
      (b.program.items.push (.jump 0)))
    (he : b'.program.eofAt = b.program.eofAt) :
    ∃ z', z.feed .else = some z' ∧ Agrees b' z' := by
  obtain ⟨top, frames⟩ := z
  have hp := hz.blocks
  rw [hb] at hp
  cases frames with
  | nil => exact hp.elim
  | cons f fs =>
    obtain ⟨hf, hfs⟩ := hp
    cases f with
    | branch done c₀ body =>
      obtain ⟨rfl, rfl, -⟩ := hf
      obtain ⟨first, more, hfm⟩ : ∃ first more, done ++ [(c₀, body)] = first :: more :=
        List.exists_cons_of_ne_nil (by simp)
      have hsize : b.program.items.size =
          (openCode top fs).length + armsWidth done + 1 + widthList body := by
        rw [hz.size_eq]
        simp [Nest.code, openCode, Frame.code, length_armsCode, length_layoutList]
        omega
      have hnext : b.program.items.size + 1 =
          (openCode top fs).length + armsWidth done + widthList body + 2 := by
        omega
      refine ⟨{ top, frames := .otherwise first more [] :: fs }, by simp [Nest.feed, hfm], ?_, ?_, ?_⟩
      · rw [hi, hnext, toList_foldl_modify, Array.toList_push, hz.items]
        have h := modify_branchTest (openCode top fs) done c₀ body []
        simp only [Nest.code, openCode, Frame.code, Option.toList, List.foldl_cons,
          List.foldl_nil, List.append_assoc, List.cons_append, layoutList_nil, List.append_nil,
          hfm] at h ⊢
        exact h
      · rw [hb']
        refine ⟨⟨rfl, ?_, rfl⟩, hfs⟩
        rw [← hfm, armsExits_append, hsize]
        simp [armsExits]
        omega
      · rw [he]
        exact hz.eof
    | otherwise first more body => exact absurd hf.2.2 (by decide)
    | loop c₀ body => exact hf.elim

theorem Agrees.endIf {test : Option Nat} {exits : List Nat} {e : Bool} {o : String}
    (hz : Agrees b z) (hb : b.blocks = .ifBlock test exits e o :: b'.blocks)
    (hi : b'.program.items = (test.toList ++ exits).foldl
      (fun a j => a.modify j (·.retarget b.program.items.size)) b.program.items)
    (he : b'.program.eofAt = b.program.eofAt) :
    ∃ z', z.feed .endIf = some z' ∧ Agrees b' z' := by
  obtain ⟨top, frames⟩ := z
  have hp := hz.blocks
  rw [hb] at hp
  cases frames with
  | nil => exact hp.elim
  | cons f fs =>
    obtain ⟨hf, hfs⟩ := hp
    cases f with
    | branch done c body =>
      obtain ⟨rfl, rfl, -⟩ := hf
      refine ⟨_, rfl, ?_, ?_, ?_⟩
      · rw [hi, toList_foldl_modify, hz.items, Nest.code_add]
        have hsize : b.program.items.size =
            (openCode top fs).length + armsWidth done + 1 + widthList body := by
          rw [hz.size_eq]
          simp [Nest.code, openCode, Frame.code, length_armsCode, length_layoutList]
          omega
        rw [hsize]
        simp only [Nest.code, openCode, Option.toList, layoutList_cons, layoutList_nil,
          List.append_nil]
        exact retargetAll_branch (openCode top fs) done c body
      · rw [Nest.pending_add]
        exact hfs
      · rw [he]
        exact EofAt.add (z := { top, frames := fs }) hz.eof _
    | otherwise first more body =>
      obtain ⟨rfl, rfl, -⟩ := hf
      refine ⟨_, rfl, ?_, ?_, ?_⟩
      · rw [hi, toList_foldl_modify, hz.items, Nest.code_add]
        have hsize : b.program.items.size =
            (openCode top fs).length + armsWidth (first :: more) + widthList body := by
          rw [hz.size_eq]
          simp [Nest.code, openCode, Frame.code, length_armsCode, length_layoutList]
          omega
        rw [hsize]
        simp only [Nest.code, openCode, Option.toList, layoutList_cons, layoutList_nil,
          List.append_nil, List.nil_append]
        exact retargetAll_otherwise (openCode top fs) first more body
      · rw [Nest.pending_add]
        exact hfs
      · rw [he]
        exact EofAt.add (z := { top, frames := fs }) hz.eof _
    | loop c body => exact hf.elim

theorem Agrees.done {start : Nat} {o : String} (hz : Agrees b z)
    (hb : b.blocks = .whileBlock start o :: b'.blocks)
    (hi : b'.program.items = (b.program.items.push (.jump start)).modify start
      (·.retarget (b.program.items.size + 1)))
    (he : b'.program.eofAt = b.program.eofAt) :
    ∃ z', z.feed .done = some z' ∧ Agrees b' z' := by
  obtain ⟨top, frames⟩ := z
  have hp := hz.blocks
  rw [hb] at hp
  cases frames with
  | nil => exact hp.elim
  | cons f fs =>
    obtain ⟨hf, hfs⟩ := hp
    cases f with
    | loop c body =>
      subst hf
      refine ⟨_, rfl, ?_, ?_, ?_⟩
      · have hnext : b.program.items.size + 1 = (openCode top fs).length + widthList body + 2 := by
          rw [hz.size_eq]
          simp [Nest.code, openCode, Frame.code, length_layoutList]
          omega
        rw [hi, hnext, Array.toList_modify, Array.toList_push, hz.items, Nest.code_add]
        simp only [Nest.code, openCode, layoutList_cons, layoutList_nil, List.append_nil]
        exact modify_loopTest (openCode top fs) c body
      · rw [Nest.pending_add]
        exact hfs
      · rw [he]
        exact EofAt.add (z := { top, frames := fs }) hz.eof _
    | branch done c body => exact hf.elim
    | otherwise first more body => exact hf.elim

end Clauses

/-! ## The pass -/

theorem item_step {t : Token} {ts : List Token} {b b' : Builder} {z : Nest} {r : Past (t :: ts)}
    (hz : Agrees b z) (h : (item (t :: ts)).run b = .ok (r, b')) :
    ∃ c z', Reads (t :: ts) c r.1 ∧ z.feed c = some z' ∧ Agrees b' z' := by
  by_cases hk : ∃ k, t.kind = .keyword k ∧ (k.isBlockWord = true ∨ k = .eof)
  · obtain ⟨k, hk, hword⟩ := hk
    cases k <;> simp only [Keyword.isBlockWord, Bool.false_eq_true, false_or, reduceCtorEq] at hword
    case «if» =>
      obtain ⟨r', h', hr⟩ := item_keyword hk rfl h
      obtain ⟨e, k, c, hts, hc, hkw, hi, hb, he⟩ := keywordItem_if h'
      have hread : Reads (t :: e :: k :: r'.1) (.ifThen c) r'.1 := .ifThen hk hc hkw
      rw [← hts, hr] at hread
      exact ⟨_, _, hread, rfl, hz.ifThen hi hb he⟩
    case elseIf =>
      obtain ⟨r', h', hr⟩ := item_keyword hk rfl h
      rw [keywordItem_elseIf] at h'
      obtain ⟨e, k, c, hts, hc, hkw, test, exits, o, outer, hb, hb', hi, he⟩ := elseBranch_elseIf h'
      have hread : Reads (t :: e :: k :: r'.1) (.elseIf c) r'.1 := .elseIf hk hc hkw
      rw [← hts, hr] at hread
      obtain ⟨z', hfeed, hz'⟩ := hz.elseIf hb hb' hi he
      exact ⟨_, z', hread, hfeed, hz'⟩
    case «else» =>
      obtain ⟨r', h', hr⟩ := item_keyword hk rfl h
      rw [keywordItem_else] at h'
      obtain ⟨hts, test, exits, o, outer, hb, hb', hi, he⟩ := elseBranch_else h'
      obtain ⟨z', hfeed, hz'⟩ := hz.otherwise hb hb' hi he
      exact ⟨_, z', by rw [← hr, hts]; exact .else hk, hfeed, hz'⟩
    case endIf =>
      obtain ⟨r', h', hr⟩ := item_keyword hk rfl h
      obtain ⟨hts, test, exits, e, o, hb, hi, he⟩ := keywordItem_endIf h'
      obtain ⟨z', hfeed, hz'⟩ := hz.endIf hb hi he
      exact ⟨_, z', by rw [← hr, hts]; exact .endIf hk, hfeed, hz'⟩
    case «while» =>
      obtain ⟨r', h', hr⟩ := item_keyword hk rfl h
      obtain ⟨e, k, c, hts, hc, hkw, hi, hb, he⟩ := keywordItem_while h'
      have hread : Reads (t :: e :: k :: r'.1) (.whileDo c) r'.1 := .whileDo hk hc hkw
      rw [← hts, hr] at hread
      exact ⟨_, _, hread, rfl, hz.whileDo hi hb he⟩
    case done =>
      obtain ⟨r', h', hr⟩ := item_keyword hk rfl h
      obtain ⟨hts, start, o, hb, hi, he⟩ := keywordItem_done h'
      obtain ⟨z', hfeed, hz'⟩ := hz.done hb hi he
      exact ⟨_, z', by rw [← hr, hts]; exact .done hk, hfeed, hz'⟩
    case eof =>
      obtain ⟨r', h', hr⟩ := item_keyword hk rfl h
      obtain ⟨-, -, hb, hb', hi, he⟩ := keywordItem_eof h'
      have hword : ∀ k, t.kind = .keyword k → k.isBlockWord = false := by
        intro k hk'
        rw [hk, TokenKind.keyword.injEq] at hk'
        rw [← hk']
        rfl
      have hitems : b'.program.items.toList = b.program.items.toList ++
          [(⟨.eof, rfl⟩ : PlainItem)].map Subtype.val := by
        simp [hi]
      exact ⟨_, _, .plain hword h (hb'.trans hb.symm) hitems, rfl, hz.eofItem hb hb' hi he⟩
  · simp only [not_exists, not_and, not_or] at hk
    have ht : ∀ k, t.kind = .keyword k → k.isBlockWord = false ∧ k ≠ .eof :=
      fun k h' => ⟨by simpa using (hk k h').1, (hk k h').2⟩
    obtain ⟨hb, he, out, hi⟩ := plainly_item ts ht b r b' h
    exact ⟨.plain out, _, .plain (fun k h' => (ht k h').1) h hb hi, rfl, hz.plain hb he hi⟩

theorem items_agree (ts : List Token) {b b' : Builder} {z : Nest} (hz : Agrees b z)
    (h : (items ts).run b = .ok ((), b')) :
    ∃ cs z', ReadsAll ts cs ∧ cs.foldlM Nest.feed z = some z' ∧ Agrees b' z' := by
  fun_induction items ts generalizing b z with
  | case1 =>
    cases h
    exact ⟨[], z, .nil, rfl, hz⟩
  | case2 t r ih =>
    obtain ⟨⟨r', hr'⟩, b₁, h₁, k₁⟩ := run_bind_ok h
    obtain ⟨c, z₁, hread, hfeed, hz₁⟩ := item_step hz h₁
    obtain ⟨cs, z', hall, hfold, hz'⟩ := ih r' hr' hz₁ k₁
    exact ⟨c :: cs, z', .cons hread hall, by simp [hfeed, hfold], hz'⟩

theorem compile_ok {ts : List Token} {p : Program} (h : compile ts = .ok p) :
    ∃ b, (items ts).run { lastLine := (ts.getLast?.map (·.line)).getD 1 } = .ok ((), b) ∧
      b.blocks = [] ∧ b.program = p := by
  unfold compile at h
  dsimp only at h
  cases hrun : (items ts).run { lastLine := (ts.getLast?.map (·.line)).getD 1 } with
  | error e =>
    rw [hrun] at h
    cases h
  | ok pr =>
    obtain ⟨⟨⟩, b⟩ := pr
    rw [hrun] at h
    refine ⟨b, rfl, ?_⟩
    simp only [bind, Except.bind] at h
    cases hb : b.blocks with
    | nil =>
      rw [hb] at h
      cases h
      exact ⟨rfl, rfl⟩
    | cons blk outer =>
      rw [hb] at h
      cases blk <;> cases h

theorem compile_nest {ts : List Token} {p : Program} (h : compile ts = .ok p) :
    ∃ cs top, ReadsAll ts cs ∧ nest cs = some top ∧ p.items.toList = layoutList 0 top ∧
      EofAt top p.eofAt := by
  obtain ⟨b, hrun, hb, rfl⟩ := compile_ok h
  have hstart : Agrees { lastLine := (ts.getLast?.map (·.line)).getD 1 } {} := ⟨rfl, trivial, .inl rfl⟩
  obtain ⟨cs, ⟨top, frames⟩, hall, hfold, hz⟩ := items_agree ts hstart hrun
  have hf : frames = [] := pending_nil (hb ▸ hz.blocks)
  subst hf
  exact ⟨cs, top, hall, by simp [nest, hfold], hz.items, hz.eof⟩

/-! ## Running a compiled program -/

/-- Running the items `code` from `pc`, with `stop` as the end, does what the blocks `ss`
do by the structured semantics: the results some fuel reaches short of running out of it
are exactly those the blocks reach. -/
def RunsBlocks (env : Setting) (code : Array Item) (stop pc : Nat) (ss : List Stmt) : Prop :=
  ∀ s s' (x : Except Fault Outcome),
    (∃ n, (execute env code stop n pc).exec s = (x, s') ∧ x ≠ .ok .exhausted) ↔
      ∃ r, Exec env (.seq pc ss) s (r, s') ∧ x = r.map Flow.outcome

theorem fits_of_toList {code : Array Item} {pre l suf : List Item}
    (h : code.toList = pre ++ l ++ suf) : Fits code pre.length l := by
  intro j hj
  rw [← Array.getElem?_toList, h, List.append_assoc, List.getElem?_append_right (by omega),
    Nat.add_sub_cancel_left, List.getElem?_append_left hj]

theorem runsBlocks_of_toList {code : Array Item} {ss : List Stmt} {stop pc : Nat} (env : Setting)
    (pre suf : List Item) (h : code.toList = pre ++ layoutList pc ss ++ suf)
    (hpc : pre.length = pc) (hstop : pc + widthList ss = stop) : RunsBlocks env code stop pc ss := by
  subst hpc
  exact fun _ _ _ => execute_iff_exec (fits_of_toList h) hstop

theorem targets_split {code : Array Item} {pre post : List Stmt}
    (h : code.toList = layoutList 0 pre ++ [.eof] ++ layoutList (widthList pre + 1) post)
    {i t : Nat} {item : Item} (hi : code[i]? = some item) (ht : item.target? = some t) :
    t ≤ code.size ∧ (i < widthList pre → t ≤ widthList pre) ∧
      (widthList pre < i → widthList pre < t) := by
  have hsize : code.size = widthList pre + 1 + widthList post := by
    rw [← Array.length_toList, h]
    simp [length_layoutList]
    omega
  rw [← Array.getElem?_toList, h] at hi
  rcases Nat.lt_trichotomy i (widthList pre) with hlt | rfl | hgt
  · rw [List.append_assoc, List.getElem?_append_left (by rw [length_layoutList]; exact hlt)] at hi
    have hw := targetsWithin_layoutList pre 0 item (List.mem_of_getElem? hi) t ht
    refine ⟨by omega, fun _ => by omega, fun h' => absurd h' (by omega)⟩
  · rw [List.append_assoc, List.getElem?_append_right (by simp [length_layoutList]),
      length_layoutList, Nat.sub_self] at hi
    cases hi
    cases ht
  · rw [List.getElem?_append_right (by simp [length_layoutList]; omega)] at hi
    have hw := targetsWithin_layoutList post (widthList pre + 1) item (List.mem_of_getElem? hi) t ht
    refine ⟨by omega, fun h' => absurd h' (by omega), fun _ => by omega⟩

/-- A program that compiles runs its blocks. Its tokens read as clauses that nest into
blocks, and its items are their layout, with `EOF`, if any, a block at the top level. A
regular cycle, which runs the items from the start up to `EOF` or the end, does what the
blocks before `EOF` do by the structured semantics `Exec`: an `IF` chain tests its
conditions in order, each once, until one holds, runs that branch, the `ELSE` part or
nothing, and goes on after `ENDIF`; a loop tests its condition before each round and goes
on after `DONE` once it fails; `CONTINUE` ends the cycle. The run-out, from after `EOF` to
the end, does what the blocks after `EOF` do. Every target lies within the program, and
on its own side of `EOF`. -/
theorem compile_runs_blocks {ts : List Token} {p : Program} (h : compile ts = .ok p) :
    ∃ cs top pre post, ReadsAll ts cs ∧ nest cs = some top ∧ p.items.toList = layoutList 0 top ∧
      (p.eofAt = none ∧ top = pre ∧ post = [] ∨
        p.eofAt = some (widthList pre) ∧ top = pre ++ eofStmt :: post) ∧
      (∀ env, RunsBlocks env p.items p.cycleEnd 0 pre) ∧
      (∀ env e, p.eofAt = some e → RunsBlocks env p.items p.items.size (e + 1) post) ∧
      (∀ i item t, p.items[i]? = some item → item.target? = some t →
        t ≤ p.items.size ∧ ∀ e, p.eofAt = some e → (i < e → t ≤ e) ∧ (e < i → e < t)) := by
  obtain ⟨cs, top, hall, hnest, hitems, heof⟩ := compile_nest h
  rcases heof with hnone | ⟨pre, post, htop, he⟩
  · have hsize : p.items.size = widthList top := by
      rw [← Array.length_toList, hitems, length_layoutList]
    refine ⟨cs, top, top, [], hall, hnest, hitems, .inl ⟨hnone, rfl, rfl⟩, fun env => ?_,
      fun env e he => by simp [hnone] at he, fun i item t hi ht => ?_⟩
    · refine runsBlocks_of_toList env [] [] (by simp [hitems]) rfl ?_
      simp [Program.cycleEnd, hnone, hsize]
    · rw [← Array.getElem?_toList, hitems] at hi
      have hw := targetsWithin_layoutList top 0 item (List.mem_of_getElem? hi) t ht
      exact ⟨by omega, fun e he => by simp [hnone] at he⟩
  · have hsplit : p.items.toList =
        layoutList 0 pre ++ [.eof] ++ layoutList (widthList pre + 1) post := by
      rw [hitems, htop, layoutList_append, layoutList_cons]
      simp [eofStmt, Stmt.layout, Stmt.width]
    have hsize : p.items.size = widthList pre + 1 + widthList post := by
      rw [← Array.length_toList, hsplit]
      simp [length_layoutList]
      omega
    refine ⟨cs, top, pre, post, hall, hnest, hitems, .inr ⟨he, htop⟩, fun env => ?_,
      fun env e he' => ?_, fun i item t hi ht => ?_⟩
    · refine runsBlocks_of_toList env [] (.eof :: layoutList (widthList pre + 1) post)
        (by simp [hsplit]) rfl ?_
      simp [Program.cycleEnd, he]
    · rw [he, Option.some.injEq] at he'
      subst he'
      refine runsBlocks_of_toList env (layoutList 0 pre ++ [.eof]) []
        (by simp [hsplit]) (by simp [length_layoutList]) hsize.symm
    · obtain ⟨hle, hbefore, hafter⟩ := targets_split hsplit hi ht
      refine ⟨hle, fun e he' => ?_⟩
      rw [he, Option.some.injEq] at he'
      subst he'
      exact ⟨hbefore, hafter⟩

/-- The tokens of
`IF '1' THEN WRITE ELSEIF '0' THEN NOWRITE ELSE WRITE ENDIF WHILE '0' DO WRITE DONE EOF WRITE`. -/
def chainLoopTokens : List Token :=
  [⟨.keyword .if, "if", 1, 1⟩, ⟨.literal "1", "'1'", 2, 1⟩, ⟨.keyword .then, "then", 3, 1⟩,
    ⟨.keyword .write, "write", 4, 1⟩,
    ⟨.keyword .elseIf, "elseif", 5, 1⟩, ⟨.literal "0", "'0'", 6, 1⟩, ⟨.keyword .then, "then", 7, 1⟩,
    ⟨.keyword .noWrite, "nowrite", 8, 1⟩,
    ⟨.keyword .else, "else", 9, 1⟩, ⟨.keyword .write, "write", 10, 1⟩,
    ⟨.keyword .endIf, "endif", 11, 1⟩,
    ⟨.keyword .while, "while", 12, 1⟩, ⟨.literal "0", "'0'", 13, 1⟩, ⟨.keyword .do, "do", 14, 1⟩,
    ⟨.keyword .write, "write", 15, 1⟩, ⟨.keyword .done, "done", 16, 1⟩,
    ⟨.keyword .eof, "eof", 17, 1⟩, ⟨.keyword .write, "write", 18, 1⟩]

/-- What `chainLoopTokens` compile to: each test jumps to the next arm, each arm's jump and
the loop's test to the item after the block, the loop's last jump back to its test. -/
def chainLoopProgram : Program :=
  { items := #[.if (.lit (.int 1)) 3, .write, .jump 7, .if (.lit (.int 0)) 6, .noWrite, .jump 7,
      .write, .while (.lit (.int 0)) 10, .write, .jump 7, .eof, .write],
    eofAt := some 10, usesInput := true }

theorem compile_runs_blocks_chainLoop :
    compile chainLoopTokens = .ok chainLoopProgram ∧
    ∃ cs top pre post, ReadsAll chainLoopTokens cs ∧ nest cs = some top ∧
      chainLoopProgram.items.toList = layoutList 0 top ∧
      (chainLoopProgram.eofAt = none ∧ top = pre ∧ post = [] ∨
        chainLoopProgram.eofAt = some (widthList pre) ∧ top = pre ++ eofStmt :: post) ∧
      (∀ env, RunsBlocks env chainLoopProgram.items chainLoopProgram.cycleEnd 0 pre) ∧
      (∀ env e, chainLoopProgram.eofAt = some e →
        RunsBlocks env chainLoopProgram.items chainLoopProgram.items.size (e + 1) post) ∧
      (∀ i item t, chainLoopProgram.items[i]? = some item → item.target? = some t →
        t ≤ chainLoopProgram.items.size ∧ ∀ e, chainLoopProgram.eofAt = some e →
          (i < e → t ≤ e) ∧ (e < i → e < t)) := by
  have h : compile chainLoopTokens = .ok chainLoopProgram := by cbv
  exact ⟨h, compile_runs_blocks h⟩

end ColumnSpec.Script
