import ColumnSpec.Proofs.Blocks.Tree
import ColumnSpec.Script.Compile
/-!
# What one compiler step does to the builder

Each successful compiler step, stated on the items, the stack of open blocks and the
position of `EOF`: plain items only add items that do not steer (`plainly_item`), and
the block keywords have exact specifications.
-/
namespace ColumnSpec.Script

/-! ## Running steps -/

/-- A step that left the items, the open blocks and `EOF` as they were. -/
structure Quiet (b b' : Builder) : Prop where
  items : b'.program.items = b.program.items
  blocks : b'.blocks = b.blocks
  eofAt : b'.program.eofAt = b.program.eofAt

/-- A step that only added items that do not steer, leaving the open blocks and `EOF` as
they were. -/
structure Grows (b b' : Builder) : Prop where
  blocks : b'.blocks = b.blocks
  eofAt : b'.program.eofAt = b.program.eofAt
  items : ∃ out : List PlainItem, b'.program.items.toList = b.program.items.toList ++ out.map Subtype.val

theorem Grows.refl (b : Builder) : Grows b b := ⟨rfl, rfl, [], by simp⟩

theorem Grows.trans {b₁ b₂ b₃ : Builder} (h₁ : Grows b₁ b₂) (h₂ : Grows b₂ b₃) : Grows b₁ b₃ := by
  obtain ⟨hb₁, he₁, o₁, hi₁⟩ := h₁
  obtain ⟨hb₂, he₂, o₂, hi₂⟩ := h₂
  exact ⟨hb₂.trans hb₁, he₂.trans he₁, o₁ ++ o₂, by simp [hi₂, hi₁]⟩

/-- Every successful run of `m` grows the builder plainly. -/
def Plainly (m : Compiler α) : Prop := ∀ b a b', m.run b = .ok (a, b') → Grows b b'

theorem Plainly.bind {m : Compiler α} {f : α → Compiler β} (hm : Plainly m) (hf : ∀ a, Plainly (f a)) :
    Plainly (m >>= f) := by
  intro b c b' h
  obtain ⟨a, b₁, h₁, h₂⟩ := run_bind_ok h
  exact (hm b a b₁ h₁).trans (hf a b₁ c b' h₂)

theorem Plainly.pure (a : α) : Plainly (pure a : Compiler α) := by
  intro b a' b' h
  cases h
  exact Grows.refl b

theorem Plainly.map {m : Compiler α} (f : α → β) (h : Plainly m) : Plainly (f <$> m) := by
  rw [map_eq_pure_bind]
  exact h.bind fun a => Plainly.pure (f a)

theorem Plainly.discard {m : Compiler α} (h : Plainly m) : Plainly (discard m) := by
  rw [Functor.discard, LawfulFunctor.map_const]
  exact h.map _

theorem plainly_failAt (t : Token) (m : String) : Plainly (failAt t m : Compiler α) := by
  intro b a b' h
  cases h

theorem plainly_failAt_bind (t : Token) (m : String) (f : α → Compiler β) :
    Plainly (failAt t m >>= f) := by
  intro b c b' h
  obtain ⟨_, _, h₁, _⟩ := run_bind_ok h
  cases h₁

theorem plainly_failAtEnd (m : String) : Plainly (failAtEnd m : Compiler α) := by
  intro b a b' h
  cases h

theorem plainly_markInput : Plainly markInput := by
  intro b a b' h
  cases h
  exact ⟨rfl, rfl, [], by simp⟩

theorem plainly_push (i : PlainItem) : Plainly (push i.1) := by
  intro b a b' h
  cases h
  exact ⟨rfl, rfl, [i], by simp⟩

theorem plainly_modify {f : Builder → Builder}
    (hf : ∀ b, (f b).blocks = b.blocks ∧ (f b).program.eofAt = b.program.eofAt ∧
      (f b).program.items = b.program.items) : Plainly (modify f) := by
  intro b a b' h
  cases h
  obtain ⟨h₁, h₂, h₃⟩ := hf b
  exact ⟨h₁, h₂, [], by simp [h₃]⟩

theorem plainly_setStop (policy : StopPolicy) :
    Plainly (modify fun b : Builder => { b with program := { b.program with stop := some policy } }) :=
  plainly_modify fun _ => ⟨rfl, rfl, rfl⟩

theorem plainly_directive (i : PlainItem) : Plainly (directive i.1) :=
  plainly_markInput.bind fun _ => (plainly_push i).discard

/-! ## The helpers read tokens and change nothing else -/

theorem plainly_argument (kw : Token) (ts : List Token) : Plainly (argument kw ts) := by
  cases ts with
  | nil => exact plainly_failAt _ _
  | cons t r => exact Plainly.pure _

theorem plainly_expectKeyword (k : Keyword) (after : Token) (ts : List Token) : Plainly (expectKeyword k after ts) := by
  cases ts with
  | nil => exact plainly_failAt _ _
  | cons t r =>
    simp only [expectKeyword]
    split
    · exact Plainly.pure _
    · exact plainly_failAt _ _

theorem plainly_expression (kw : Token) (ts : List Token) : Plainly (expression kw ts) := by
  unfold expression
  refine (plainly_argument kw ts).bind fun x => ?_
  obtain ⟨t, r⟩ := x
  dsimp only
  split
  · exact plainly_failAt _ _
  · split
    · exact plainly_markInput.bind fun _ => Plainly.pure _
    · exact Plainly.pure _

theorem plainly_streamNumber (t : Token) : Plainly (streamNumber t) := by
  unfold streamNumber
  split
  · split
    · exact Plainly.pure _
    · exact plainly_failAt _ _
  · exact plainly_failAt _ _

theorem plainly_source (ts : List Token) : Plainly (source ts) := by
  fun_induction source ts with
  | case1 => exact plainly_failAtEnd _
  | case10 t r _ =>
    refine (plainly_argument t r).bind fun x => ?_
    obtain ⟨arg, r', h⟩ := x
    dsimp only
    split
    · exact Plainly.pure _
    · exact plainly_failAt _ _
  | case11 t r _ => exact (plainly_expression t r).bind fun _ => Plainly.pure _
  | case12 t r _ ih₁ ih₂ =>
    refine ih₁.bind fun x => ?_
    obtain ⟨part, r1, h1⟩ := x
    dsimp only
    split
    · exact plainly_failAt_bind _ _ _
    · refine (plainly_expectKeyword .of t r1).bind fun y => ?_
      obtain ⟨r2, h2⟩ := y
      exact (ih₂ r1 h1 r2 h2).bind fun _ => Plainly.pure _
  | case13 => exact plainly_failAt _ _
  | _ => exact Plainly.pure _

theorem plainly_placement (ts : List Token) : Plainly (placement ts) := by
  cases ts with
  | nil => exact plainly_failAtEnd _
  | cons t r =>
    simp only [placement]
    split
    · exact plainly_failAt _ _
    · split
      · exact plainly_failAt _ _
      · exact Plainly.pure _

theorem plainly_alignment (p : Placement) (ts : List Token) : Plainly (alignment p ts) := by
  cases ts with
  | nil => exact Plainly.pure _
  | cons t r =>
    simp only [alignment]
    split
    · split
      · exact plainly_failAt _ _
      · exact Plainly.pure _
    · exact Plainly.pure _

theorem plainly_dataField (ts : List Token) : Plainly (dataField ts) := by
  unfold dataField
  split
  refine (plainly_source _).bind fun x => ?_
  obtain ⟨src, r1, h1⟩ := x
  dsimp only
  split
  · refine plainly_markInput.bind fun _ => ?_
    exact (plainly_placement _).bind fun _ => (plainly_alignment _ _).bind fun _ => Plainly.pure _
  · exact (plainly_placement _).bind fun _ => (plainly_alignment _ _).bind fun _ => Plainly.pure _

/-- The keywords that open, continue or close a block. -/
def Keyword.isBlockWord : Keyword → Bool
  | .if | .elseIf | .else | .endIf | .while | .done => true
  | _ => false

theorem plainly_keywordItem {k : Keyword} (hk : k.isBlockWord = false) (he : k ≠ .eof) (t : Token)
    (ts : List Token) : Plainly (keywordItem k t ts) := by
  unfold keywordItem
  cases k <;> simp only [Keyword.isBlockWord, Bool.true_eq_false] at hk <;> dsimp only
  case fieldSeparator | wordSeparator | pad =>
    refine (plainly_argument t ts).bind fun _ => ?_
    split
    · exact plainly_failAt _ _
    · exact (plainly_push ⟨_, rfl⟩).discard.bind fun _ => Plainly.pure _
  case stop =>
    refine (plainly_argument t ts).bind fun _ => ?_
    split
    all_goals
      refine Plainly.bind ?_ fun _ => (plainly_setStop _).bind fun _ => Plainly.pure _
    all_goals first | exact Plainly.pure _ | exact (plainly_streamNumber _).map _
  case requires =>
    refine (plainly_argument t ts).bind fun _ => ?_
    split
    · exact plainly_failAt _ _
    · exact Plainly.pure _
  case read | readStop | unread | redo =>
    exact (plainly_directive ⟨_, rfl⟩).bind fun _ => Plainly.pure _
  case write | noWrite | «continue» | stderr =>
    exact (plainly_push ⟨_, rfl⟩).discard.bind fun _ => Plainly.pure _
  case eof => exact absurd rfl he
  case select =>
    refine (plainly_argument t ts).bind fun _ => ?_
    split
    all_goals refine Plainly.bind ?_ fun _ => (plainly_directive ⟨_, rfl⟩).bind fun _ => Plainly.pure _
    all_goals first | exact Plainly.pure _ | exact plainly_streamNumber _
  case outStream =>
    refine (plainly_argument t ts).bind fun _ => (plainly_streamNumber _).bind fun _ => ?_
    exact (plainly_push ⟨_, rfl⟩).discard.bind fun _ => Plainly.pure _
  case assert =>
    exact (plainly_expression t ts).bind fun _ =>
      (plainly_push ⟨_, rfl⟩).discard.bind fun _ => Plainly.pure _
  case abend =>
    exact (plainly_argument t ts).bind fun _ =>
      (plainly_push ⟨_, rfl⟩).discard.bind fun _ => Plainly.pure _
  case set =>
    refine (plainly_expression t ts).bind fun _ => ?_
    split
    · exact plainly_failAt_bind _ _ _
    · exact (plainly_push ⟨_, rfl⟩).discard.bind fun _ => Plainly.pure _
  case «break» =>
    refine (plainly_argument t ts).bind fun _ => ?_
    split
    · exact plainly_failAt _ _
    · exact (plainly_directive ⟨_, rfl⟩).bind fun _ => Plainly.pure _
  case skipWhile | skipUntil =>
    exact (plainly_expression t ts).bind fun _ =>
      (plainly_directive ⟨_, rfl⟩).bind fun _ => Plainly.pure _
  all_goals exact plainly_failAt _ _

/-! ## Exact steps -/

theorem expression_ok {kw : Token} {ts : List Token} {b b' : Builder} {a : Expr × Token × Past ts}
    (h : (expression kw ts).run b = .ok (a, b')) :
    ts = a.2.1 :: a.2.2.1 ∧ Parser.parse a.2.1.literalText = .ok a.1 ∧ Quiet b b' := by
  obtain ⟨⟨t, r⟩, b₁, h₁, k₁⟩ := run_bind_ok h
  obtain ⟨hts, rfl⟩ := argument_ok h₁
  dsimp only at k₁
  split at k₁
  · cases k₁
  · rename_i e he
    split at k₁
    · obtain ⟨_, _, h₂, k₂⟩ := run_bind_ok k₁
      cases h₂; cases k₂
      exact ⟨hts, he, rfl, rfl, rfl⟩
    · cases k₁
      exact ⟨hts, he, rfl, rfl, rfl⟩

theorem keywordItem_if {t : Token} {ts : List Token} {b b' : Builder} {r : Rest ts}
    (h : (keywordItem .if t ts).run b = .ok (r, b')) :
    ∃ e k c, ts = e :: k :: r.1 ∧ Parser.parse e.literalText = .ok c ∧ k.isKeyword .then = true ∧
      b'.program.items = b.program.items.push (.if c 0) ∧
      b'.blocks = .ifBlock (some b.program.items.size) [] false t.describe :: b.blocks ∧
      b'.program.eofAt = b.program.eofAt := by
  unfold keywordItem at h
  dsimp only at h
  obtain ⟨⟨c, e, r1, _⟩, b₁, h₁, k₁⟩ := run_bind_ok h
  obtain ⟨hts, hc, q⟩ := expression_ok h₁
  obtain ⟨⟨r2, _⟩, b₂, h₂, k₂⟩ := run_bind_ok k₁
  obtain ⟨k, hr1, hk, rfl⟩ := expectKeyword_ok h₂
  obtain ⟨_, b₃, h₃, k₃⟩ := run_bind_ok k₂
  cases h₃
  obtain ⟨_, b₄, h₄, k₄⟩ := run_bind_ok k₃
  cases h₄; cases k₄
  refine ⟨e, k, c, by simp only at hts hr1 ⊢; rw [hts, hr1], hc, hk, ?_, ?_, ?_⟩
  · simp [q.items]
  · simp [q.blocks, q.items]
  · simp [q.eofAt]

theorem keywordItem_while {t : Token} {ts : List Token} {b b' : Builder} {r : Rest ts}
    (h : (keywordItem .while t ts).run b = .ok (r, b')) :
    ∃ e k c, ts = e :: k :: r.1 ∧ Parser.parse e.literalText = .ok c ∧ k.isKeyword .do = true ∧
      b'.program.items = b.program.items.push (.while c 0) ∧
      b'.blocks = .whileBlock b.program.items.size t.describe :: b.blocks ∧
      b'.program.eofAt = b.program.eofAt := by
  unfold keywordItem at h
  dsimp only at h
  obtain ⟨⟨c, e, r1, _⟩, b₁, h₁, k₁⟩ := run_bind_ok h
  obtain ⟨hts, hc, q⟩ := expression_ok h₁
  obtain ⟨⟨r2, _⟩, b₂, h₂, k₂⟩ := run_bind_ok k₁
  obtain ⟨k, hr1, hk, rfl⟩ := expectKeyword_ok h₂
  obtain ⟨_, b₃, h₃, k₃⟩ := run_bind_ok k₂
  cases h₃
  obtain ⟨_, b₄, h₄, k₄⟩ := run_bind_ok k₃
  cases h₄; cases k₄
  refine ⟨e, k, c, by simp only at hts hr1 ⊢; rw [hts, hr1], hc, hk, ?_, ?_, ?_⟩
  · simp [q.items]
  · simp [q.blocks, q.items]
  · simp [q.eofAt]

theorem keywordItem_done {t : Token} {ts : List Token} {b b' : Builder} {r : Rest ts}
    (h : (keywordItem .done t ts).run b = .ok (r, b')) :
    r.1 = ts ∧ ∃ start o, b.blocks = .whileBlock start o :: b'.blocks ∧
      b'.program.items = (b.program.items.push (.jump start)).modify start
        (·.retarget (b.program.items.size + 1)) ∧
      b'.program.eofAt = b.program.eofAt := by
  unfold keywordItem at h
  dsimp only at h
  obtain ⟨blk, b₁, h₁, k₁⟩ := run_bind_ok h
  split at k₁
  · rename_i start o
    obtain ⟨hb, hp⟩ := closeBlock_ok h₁
    cases k₁
    refine ⟨rfl, start, o, hb, ?_, ?_⟩
    · simp [hp]
    · simp [hp]
  · cases k₁

theorem keywordItem_endIf {t : Token} {ts : List Token} {b b' : Builder} {r : Rest ts}
    (h : (keywordItem .endIf t ts).run b = .ok (r, b')) :
    r.1 = ts ∧ ∃ test exits e o, b.blocks = .ifBlock test exits e o :: b'.blocks ∧
      b'.program.items = (test.toList ++ exits).foldl
        (fun a j => a.modify j (·.retarget b.program.items.size)) b.program.items ∧
      b'.program.eofAt = b.program.eofAt := by
  unfold keywordItem at h
  dsimp only at h
  obtain ⟨blk, b₁, h₁, k₁⟩ := run_bind_ok h
  split at k₁
  · rename_i test exits e o
    obtain ⟨hb, hp⟩ := closeBlock_ok h₁
    obtain ⟨_, b₂, h₂, k₂⟩ := run_bind_ok k₁
    cases h₂
    cases test with
    | none =>
      obtain ⟨_, b₄, h₄, k₄⟩ := run_bind_ok k₂
      rw [forM_patch_run] at h₄
      cases h₄; cases k₄
      exact ⟨rfl, none, exits, e, o, hb, by simp [hp], by simp [hp]⟩
    | some pos =>
      obtain ⟨_, b₃, h₃, k₃⟩ := run_bind_ok k₂
      cases h₃
      obtain ⟨_, b₄, h₄, k₄⟩ := run_bind_ok k₃
      rw [forM_patch_run] at h₄
      cases h₄; cases k₄
      exact ⟨rfl, some pos, exits, e, o, hb, by simp [hp], by simp [hp]⟩
  · cases k₁

theorem elseBranch_else {t : Token} {ts : List Token} {b b' : Builder} {r : Rest ts}
    (h : (elseBranch t false ts).run b = .ok (r, b')) :
    r.1 = ts ∧ ∃ test exits o outer, b.blocks = .ifBlock test exits false o :: outer ∧
      b'.blocks = .ifBlock none (exits ++ [b.program.items.size]) true o :: outer ∧
      b'.program.items = test.toList.foldl (fun a j => a.modify j (·.retarget (b.program.items.size + 1)))
        (b.program.items.push (.jump 0)) ∧
      b'.program.eofAt = b.program.eofAt := by
  unfold elseBranch at h
  obtain ⟨_, b₁, h₁, k₁⟩ := run_bind_ok h
  cases h₁
  dsimp only at k₁
  split at k₁
  · rename_i test exits o outer hb
    obtain ⟨_, b₂, h₂, k₂⟩ := run_bind_ok k₁
    simp only [Bool.false_eq_true, if_false] at h₂
    cases h₂
    obtain ⟨_, b₃, h₃, k₃⟩ := run_bind_ok k₂
    cases h₃
    obtain ⟨_, b₄, h₄, k₄⟩ := run_bind_ok k₃
    cases h₄
    simp only [hb] at k₄
    obtain ⟨_, b₅, h₅, k₅⟩ := run_bind_ok k₄
    cases h₅
    refine ⟨?_, test, exits, o, outer, hb, ?_⟩
    all_goals cases test with
      | none => cases k₅; simp
      | some pos =>
        obtain ⟨_, b₆, h₆, k₆⟩ := run_bind_ok k₅
        cases h₆; cases k₆; simp
  all_goals
    obtain ⟨_, _, h₂, _⟩ := run_bind_ok k₁
    cases h₂

theorem elseBranch_elseIf {t : Token} {ts : List Token} {b b' : Builder} {r : Rest ts}
    (h : (elseBranch t true ts).run b = .ok (r, b')) :
    ∃ e k c, ts = e :: k :: r.1 ∧ Parser.parse e.literalText = .ok c ∧ k.isKeyword .then = true ∧
      ∃ test exits o outer, b.blocks = .ifBlock test exits false o :: outer ∧
      b'.blocks = .ifBlock (some (b.program.items.size + 1)) (exits ++ [b.program.items.size]) false o ::
        outer ∧
      b'.program.items = test.toList.foldl (fun a j => a.modify j (·.retarget (b.program.items.size + 1)))
        ((b.program.items.push (.jump 0)).push (.if c 0)) ∧
      b'.program.eofAt = b.program.eofAt := by
  unfold elseBranch at h
  obtain ⟨_, b₁, h₁, k₁⟩ := run_bind_ok h
  cases h₁
  dsimp only at k₁
  split at k₁
  · rename_i test exits o outer hb
    obtain ⟨_, b₂, h₂, k₂⟩ := run_bind_ok k₁
    rw [if_pos rfl] at h₂
    obtain ⟨⟨c, e, r1, _⟩, b₇, h₇, k₇⟩ := run_bind_ok h₂
    obtain ⟨hts, hc, q⟩ := expression_ok h₇
    obtain ⟨⟨r2, _⟩, b₈, h₈, k₈⟩ := run_bind_ok k₇
    obtain ⟨k, hr1, hk, rfl⟩ := expectKeyword_ok h₈
    cases k₈
    obtain ⟨_, b₃, h₃, k₃⟩ := run_bind_ok k₂
    cases h₃
    obtain ⟨_, b₄, h₄, k₄⟩ := run_bind_ok k₃
    cases h₄
    simp only [q.blocks, hb] at k₄
    obtain ⟨_, b₅, h₅, k₅⟩ := run_bind_ok k₄
    cases h₅
    obtain ⟨_, b₆, h₆, k₆⟩ := run_bind_ok k₅
    cases h₆
    cases test with
    | none =>
      cases k₆
      exact ⟨e, k, c, by simp only at hts hr1 ⊢; rw [hts, hr1], hc, hk, none, exits, o, outer, hb, by simp [q.items, q.eofAt]⟩
    | some pos =>
      obtain ⟨_, b₉, h₉, k₉⟩ := run_bind_ok k₆
      cases h₉; cases k₉
      exact ⟨e, k, c, by simp only at hts hr1 ⊢; rw [hts, hr1], hc, hk, some pos, exits, o, outer, hb,
        by simp [q.items, q.eofAt]⟩
  all_goals
    obtain ⟨_, _, h₂, _⟩ := run_bind_ok k₁
    cases h₂

theorem keywordItem_eof {t : Token} {ts : List Token} {b b' : Builder} {r : Rest ts}
    (h : (keywordItem .eof t ts).run b = .ok (r, b')) :
    r.1 = ts ∧ b.program.eofAt = none ∧ b.blocks = [] ∧ b'.blocks = [] ∧
      b'.program.items = b.program.items.push .eof ∧ b'.program.eofAt = some b.program.items.size := by
  unfold keywordItem at h
  dsimp only at h
  obtain ⟨_, b₁, h₁, k₁⟩ := run_bind_ok h
  cases h₁
  split at k₁
  · obtain ⟨_, _, h₂, _⟩ := run_bind_ok k₁
    cases h₂
  · rename_i hnone
    split at k₁
    · obtain ⟨_, _, h₂, _⟩ := run_bind_ok k₁
      cases h₂
    · rename_i hempty
      obtain ⟨_, b₃, h₃, k₃⟩ := run_bind_ok k₁
      cases h₃
      obtain ⟨_, b₄, h₄, k₄⟩ := run_bind_ok k₃
      cases h₄; cases k₄
      simp_all

theorem keywordItem_elseIf (t : Token) (ts : List Token) :
    keywordItem .elseIf t ts = elseBranch t true ts := rfl

theorem keywordItem_else (t : Token) (ts : List Token) :
    keywordItem .else t ts = elseBranch t false ts := rfl

/-! ## One item -/

theorem plainly_item {t : Token} (ts : List Token)
    (ht : ∀ k, t.kind = .keyword k → k.isBlockWord = false ∧ k ≠ .eof) : Plainly (item (t :: ts)) := by
  simp only [item]
  split
  · rename_i k hk
    split
    · exact (plainly_dataField _).bind fun _ => (plainly_push ⟨_, rfl⟩).discard.bind fun _ => Plainly.pure _
    · obtain ⟨h₁, h₂⟩ := ht k hk
      exact (plainly_keywordItem h₁ h₂ t ts).bind fun _ => Plainly.pure _
  · exact (plainly_dataField _).bind fun _ => (plainly_push ⟨_, rfl⟩).discard.bind fun _ => Plainly.pure _

theorem item_keyword {t : Token} {ts : List Token} {k : Keyword} (hk : t.kind = .keyword k)
    (hf : startsField k = false) {b b' : Builder} {r : Past (t :: ts)}
    (h : (item (t :: ts)).run b = .ok (r, b')) :
    ∃ r' : Rest ts, (keywordItem k t ts).run b = .ok (r', b') ∧ r'.1 = r.1 := by
  simp only [item] at h
  split at h
  · rename_i k' hk'
    rw [hk, TokenKind.keyword.injEq] at hk'
    subst hk'
    rw [if_neg (by simp [hf])] at h
    obtain ⟨⟨r', h'⟩, b₁, h₁, k₁⟩ := run_bind_ok h
    cases k₁
    exact ⟨⟨r', h'⟩, h₁, rfl⟩
  · rename_i hne
    exact absurd hk (hne k)

end ColumnSpec.Script
