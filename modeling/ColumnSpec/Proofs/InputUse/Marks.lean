import ColumnSpec.Proofs.Blocks.Compile
/-!
# The compiler marks every program that reads input

Unless the program is marked as reading input, no item so far reads input and there is no
`EOF` (`Honest`), carried through the compiler as a `Triple` (`compile_marks_input`).
-/
namespace ColumnSpec.Script

/-- Whether an item looks at the input: it moves in it, selects a stream, tracks a break
key, skips a record or starts the run-out, or its source or condition reads the record. -/
def Item.readsInput : Item → Bool
  | .field f => f.source.readsInput
  | .assert cond _ | .set cond | .if cond _ | .while cond _ => Script.readsInput cond
  | .read | .readStop | .unread | .redo | .eof | .selectInput _ | .break _ | .skipWhile _
  | .skipUntil _ => true
  | .fieldSeparator _ | .wordSeparator _ | .pad _ | .write | .noWrite | .continue
  | .outStream _ | .stderr | .abend _ | .jump _ => false

@[simp] theorem Item.readsInput_retarget (target : Nat) (i : Item) :
    (i.retarget target).readsInput = i.readsInput := by
  cases i <;> rfl

theorem readsInput_modify_retarget {xs : Array Item} (h : ∀ i ∈ xs, i.readsInput = false)
    (pos target : Nat) : ∀ i ∈ xs.modify pos (·.retarget target), i.readsInput = false := by
  intro i hi
  obtain ⟨k, hk, rfl⟩ := Array.mem_iff_getElem.mp hi
  have hk' : k < xs.size := by simpa using hk
  rw [Array.getElem_modify]
  split
  · rw [Item.readsInput_retarget]
    exact h _ (Array.getElem_mem hk')
  · exact h _ (Array.getElem_mem hk')

/-! ## Triples over compiler steps -/

section Triples

variable {α β : Type} {P P' : Builder → Prop} {Q Q' : α → Builder → Prop}

/-- Every successful run of `m` from a builder satisfying `P` ends in a builder that
satisfies `Q` of the result. -/
def Triple (P : Builder → Prop) (m : Compiler α) (Q : α → Builder → Prop) : Prop :=
  ∀ b a b', m.run b = .ok (a, b') → P b → Q a b'

theorem Triple.bind {m : Compiler α} {f : α → Compiler β} {R : β → Builder → Prop}
    (hm : Triple P m Q) (hf : ∀ a, Triple (Q a) (f a) R) : Triple P (m >>= f) R := by
  intro b c b' h hp
  obtain ⟨a, b₁, h₁, h₂⟩ := run_bind_ok h
  exact hf a b₁ c b' h₂ (hm b a b₁ h₁ hp)

theorem Triple.pure {a : α} (h : ∀ b, P b → Q a b) : Triple P (pure a : Compiler α) Q := by
  intro b a' b' hr hp
  cases hr
  exact h b hp

theorem Triple.skip {a : α} : Triple P (Pure.pure a : Compiler α) fun _ => P :=
  Triple.pure fun _ h => h

theorem Triple.mono {m : Compiler α} (h : Triple P m Q) (hp : ∀ b, P' b → P b)
    (hq : ∀ a b, Q a b → Q' a b) : Triple P' m Q' :=
  fun b a b' hr hb => hq a b' (h b a b' hr (hp b hb))

theorem Triple.map {m : Compiler α} {R : β → Builder → Prop} (f : α → β)
    (h : Triple P m fun a => R (f a)) : Triple P (f <$> m) R := by
  rw [map_eq_pure_bind]
  exact h.bind fun a => Triple.pure fun _ hb => hb

theorem Triple.discard {m : Compiler α} {R : Builder → Prop} (h : Triple P m fun _ => R) :
    Triple P (discard m) fun _ => R := by
  rw [Functor.discard, LawfulFunctor.map_const]
  exact Triple.map _ h

theorem triple_failAt (t : Token) (msg : String) : Triple P (failAt t msg : Compiler α) Q := by
  intro b a b' h
  cases h

theorem triple_failAt_bind (t : Token) (msg : String) (f : α → Compiler β)
    {R : β → Builder → Prop} : Triple P (failAt t msg >>= f) R := by
  intro b c b' h
  obtain ⟨_, _, h₁, _⟩ := run_bind_ok h
  cases h₁

theorem triple_failAtEnd (msg : String) : Triple P (failAtEnd msg : Compiler α) Q := by
  intro b a b' h
  cases h

theorem triple_get_bind {k : Builder → Compiler α} (h : ∀ b, P b → Triple P (k b) Q) :
    Triple P (get >>= k) Q := by
  intro b a b' hr hp
  exact h b hp b a b' hr hp

end Triples

/-! ## Honest builders -/

/-- Unless the program is marked as reading input, `φ` holds, no item reads input and there
is no `EOF`. The side condition `φ` carries what a step has learned of the value it
returns. -/
def Honest (φ : Prop) (b : Builder) : Prop :=
  b.program.usesInput = false →
    φ ∧ (∀ i ∈ b.program.items, i.readsInput = false) ∧ b.program.eofAt = none

section Honest

variable {α : Type} {φ ψ : Prop} {P : Builder → Prop}

theorem Honest.weaken {b : Builder} (h : φ → ψ) (hb : Honest φ b) : Honest ψ b := by
  intro hu
  obtain ⟨hφ, hi, he⟩ := hb hu
  exact ⟨h hφ, hi, he⟩

theorem honest_of_marked {b : Builder} (h : b.program.usesInput = true) : Honest φ b := by
  intro hu
  rw [h] at hu
  cases hu

theorem triple_markInput : Triple P markInput fun _ => Honest φ := by
  intro b a b' h _
  cases h
  exact honest_of_marked rfl

theorem triple_push (i : Item) : Triple (Honest (φ ∧ i.readsInput = false)) (push i) fun _ => Honest φ := by
  intro b a b' h hb
  cases h
  intro hu
  obtain ⟨⟨hφ, hi⟩, hall, he⟩ := hb hu
  refine ⟨hφ, fun j hj => ?_, he⟩
  rcases Array.mem_push.mp hj with hj | rfl
  · exact hall j hj
  · exact hi

theorem triple_push_of {i : Item} (hi : i.readsInput = false) :
    Triple (Honest φ) (push i) fun _ => Honest φ :=
  (triple_push i).mono (fun _ hb => hb.weaken fun h => ⟨h, hi⟩) fun _ _ h => h

theorem triple_markEof (pos : Nat) :
    Triple P (modify fun b : Builder =>
      { b with program := { b.program with eofAt := some pos, usesInput := true } })
      fun _ => Honest φ := by
  intro b a b' h _
  cases h
  exact honest_of_marked rfl

theorem triple_directive (i : Item) : Triple P (directive i) fun _ => Honest φ :=
  triple_markInput.bind fun _ => (triple_push i).discard

theorem triple_patch (pos target : Nat) : Triple (Honest φ) (patch pos target) fun _ => Honest φ := by
  intro b a b' h hb
  cases h
  intro hu
  obtain ⟨hφ, hall, he⟩ := hb hu
  exact ⟨hφ, readsInput_modify_retarget hall pos target, he⟩

theorem triple_modify {f : Builder → Builder}
    (hf : ∀ b, (f b).program.items = b.program.items ∧
      (f b).program.usesInput = b.program.usesInput ∧ (f b).program.eofAt = b.program.eofAt) :
    Triple (Honest φ) (modify f) fun _ => Honest φ := by
  intro b a b' h hb
  cases h
  obtain ⟨hi, hu, he⟩ := hf b
  intro hu'
  rw [hu] at hu'
  obtain ⟨hφ, hall, he'⟩ := hb hu'
  exact ⟨hφ, hi ▸ hall, he.trans he'⟩

theorem triple_setStop (policy : StopPolicy) :
    Triple (Honest φ)
      (modify fun b : Builder => { b with program := { b.program with stop := some policy } })
      fun _ => Honest φ :=
  triple_modify fun _ => ⟨rfl, rfl, rfl⟩

theorem triple_openBlock (blk : Block) : Triple (Honest φ) (openBlock blk) fun _ => Honest φ :=
  triple_modify fun _ => ⟨rfl, rfl, rfl⟩

theorem triple_set_blocks {b : Builder} (bs : List Block) (hb : Honest φ b) :
    Triple P (set { b with blocks := bs } : Compiler PUnit) fun _ => Honest φ := by
  intro b₀ a b' hr _
  cases hr
  exact hb

theorem triple_closeBlock : Triple (Honest φ) closeBlock fun _ => Honest φ := by
  intro b a b' h hb
  unfold Honest
  rw [closeBlock_program h]
  exact hb

end Honest

/-! ## The helpers that read tokens -/

section Helpers

variable {φ : Prop} {P : Builder → Prop}

theorem triple_argument (kw : Token) (ts : List Token) :
    Triple P (argument kw ts) fun _ => P := by
  intro b a b' h hb
  obtain ⟨_, rfl⟩ := argument_ok h
  exact hb

theorem triple_expectKeyword (k : Keyword) (after : Token) (ts : List Token) :
    Triple P (expectKeyword k after ts) fun _ => P := by
  intro b a b' h hb
  obtain ⟨_, _, _, rfl⟩ := expectKeyword_ok h
  exact hb

theorem triple_streamNumber (t : Token) : Triple P (streamNumber t) fun _ => P := by
  unfold streamNumber
  split
  · split
    · exact Triple.skip
    · exact triple_failAt _ _
  · exact triple_failAt _ _

theorem triple_expression (kw : Token) (ts : List Token) :
    Triple (Honest φ) (expression kw ts) fun r => Honest (φ ∧ readsInput r.1 = false) := by
  unfold expression
  refine (triple_argument kw ts).bind fun x => ?_
  obtain ⟨t, r⟩ := x
  dsimp only
  split
  · exact triple_failAt _ _
  · split
    · exact triple_markInput.bind fun _ => Triple.pure fun _ h => h
    · rename_i hr
      exact Triple.pure fun _ hb => hb.weaken fun h => ⟨h, by simpa using hr⟩

theorem triple_source (ts : List Token) : Triple (Honest φ) (source ts) fun _ => Honest φ := by
  fun_induction source ts with
  | case1 => exact triple_failAtEnd _
  | case10 t r _ =>
    refine (triple_argument t r).bind fun x => ?_
    obtain ⟨arg, r', h⟩ := x
    dsimp only
    split
    · exact Triple.skip
    · exact triple_failAt _ _
  | case11 t r _ =>
    exact (triple_expression t r).bind fun _ => Triple.pure fun _ hb => hb.weaken And.left
  | case12 t r _ ih₁ ih₂ =>
    refine ih₁.bind fun x => ?_
    obtain ⟨part, r1, h1⟩ := x
    dsimp only
    split
    · exact triple_failAt_bind _ _ _
    · refine (triple_expectKeyword .of t r1).bind fun y => ?_
      obtain ⟨r2, h2⟩ := y
      exact (ih₂ r1 h1 r2 h2).bind fun _ => Triple.skip
  | case13 => exact triple_failAt _ _
  | _ => exact Triple.skip

theorem triple_placement (ts : List Token) : Triple P (placement ts) fun _ => P := by
  cases ts with
  | nil => exact triple_failAtEnd _
  | cons t r =>
    simp only [placement]
    split
    · exact triple_failAt _ _
    · split
      · exact triple_failAt _ _
      · exact Triple.skip

theorem triple_alignment (p : Placement) (ts : List Token) :
    Triple P (alignment p ts) fun _ => P := by
  cases ts with
  | nil => exact Triple.skip
  | cons t r =>
    simp only [alignment]
    split
    · split
      · exact triple_failAt _ _
      · exact Triple.skip
    · exact Triple.skip

theorem triple_dataField (ts : List Token) :
    Triple (Honest φ) (dataField ts) fun r => Honest (φ ∧ r.1.source.readsInput = false) := by
  unfold dataField
  split
  refine (triple_source _).bind fun x => ?_
  obtain ⟨src, r1, h1⟩ := x
  dsimp only
  -- from here on the builder is honest about the source as well
  split
  · refine Triple.bind (Q := fun _ => Honest (φ ∧ src.readsInput = false)) triple_markInput
      fun _ => ?_
    exact (triple_placement _).bind fun _ => (triple_alignment _ _).bind fun _ =>
      Triple.pure fun _ h => h
  · rename_i hr
    refine Triple.mono (P := Honest (φ ∧ src.readsInput = false)) ?_
      (fun _ hb => hb.weaken fun h => ⟨h, by simpa using hr⟩) fun _ _ h => h
    exact (triple_placement _).bind fun _ => (triple_alignment _ _).bind fun _ =>
      Triple.pure fun _ h => h

end Helpers

/-! ## Directives -/

section Directives

variable {φ : Prop}

theorem triple_elseBranch (t : Token) (isElseIf : Bool) (ts : List Token) :
    Triple (Honest φ) (elseBranch t isElseIf ts) fun _ => Honest φ := by
  unfold elseBranch
  refine triple_get_bind fun b _ => ?_
  dsimp only
  split
  · -- the condition of `ELSEIF` is read as that of `IF`, and carried to its test
    refine Triple.bind (Q := fun x => Honest (φ ∧ ∀ c, x.1 = some c → readsInput c = false))
      ?_ fun x => ?_
    · split
      · refine (triple_expression t ts).bind fun y => ?_
        refine (triple_expectKeyword _ _ _).bind fun _ => Triple.pure fun _ hb => ?_
        exact hb.weaken fun h => ⟨h.1, fun c hc => by cases hc; exact h.2⟩
      · exact Triple.pure fun _ hb => hb.weaken fun h => ⟨h, fun c hc => by cases hc⟩
    · refine (triple_push_of rfl).bind fun jump => triple_get_bind fun b₁ hb₁ => ?_
      refine (triple_set_blocks _ hb₁).bind fun _ => ?_
      split
      · rename_i c hc
        refine Triple.bind ((triple_push (.if c 0)).discard.mono
          (fun _ hb => hb.weaken fun h => ⟨h.1, h.2 c hc⟩) fun _ _ h => h) fun _ => ?_
        split
        · exact (triple_patch _ _).bind fun _ => Triple.skip
        · exact Triple.skip
      · refine Triple.mono (P := Honest φ) ?_ (fun _ hb => hb.weaken And.left) fun _ _ h => h
        split
        · exact (triple_patch _ _).bind fun _ => Triple.skip
        · exact Triple.skip
  · exact triple_failAt_bind _ _ _
  · exact triple_failAt_bind _ _ _

theorem triple_patchAll (exits : List Nat) (target : Nat) :
    Triple (Honest φ) (exits.forM fun j => patch j target) fun _ => Honest φ := by
  induction exits with
  | nil => exact Triple.skip
  | cons j more ih => exact (triple_patch j target).bind fun _ => ih

theorem triple_keywordItem (k : Keyword) (t : Token) (ts : List Token) :
    Triple (Honest φ) (keywordItem k t ts) fun _ => Honest φ := by
  unfold keywordItem
  cases k <;> dsimp only
  case fieldSeparator | wordSeparator | pad =>
    refine (triple_argument t ts).bind fun _ => ?_
    split
    · exact triple_failAt _ _
    · exact (triple_push_of rfl).discard.bind fun _ => Triple.skip
  case stop =>
    refine (triple_argument t ts).bind fun _ => ?_
    split
    all_goals refine Triple.bind ?_ fun _ =>
      (triple_setStop _).bind fun _ => Triple.skip
    all_goals first
      | exact Triple.skip
      | exact Triple.map _ (triple_streamNumber _)
  case requires =>
    refine (triple_argument t ts).bind fun _ => ?_
    split
    · exact triple_failAt _ _
    · exact Triple.skip
  case read | readStop | unread | redo =>
    exact (triple_directive _).bind fun _ => Triple.skip
  case write | noWrite | «continue» | stderr =>
    exact (triple_push_of rfl).discard.bind fun _ => Triple.skip
  case eof =>
    refine triple_get_bind fun b _ => ?_
    split
    · exact triple_failAt_bind _ _ _
    · split
      · exact triple_failAt_bind _ _ _
      · -- the item added reads input, and the next change marks the program
        refine Triple.bind (Q := fun _ _ => True) (fun _ _ _ _ _ => trivial) fun pos => ?_
        exact (triple_markEof pos).bind fun _ => Triple.skip
  case select =>
    refine (triple_argument t ts).bind fun _ => ?_
    split
    all_goals refine Triple.bind (Q := fun _ => Honest φ) ?_ fun _ =>
      (triple_directive _).bind fun _ => Triple.skip
    all_goals first | exact Triple.skip | exact triple_streamNumber _
  case outStream =>
    refine (triple_argument t ts).bind fun _ => (triple_streamNumber _).bind fun _ => ?_
    exact (triple_push_of rfl).discard.bind fun _ => Triple.skip
  case assert =>
    exact (triple_expression t ts).bind fun _ =>
      (triple_push _).discard.bind fun _ => Triple.skip
  case abend =>
    exact (triple_argument t ts).bind fun _ =>
      (triple_push_of rfl).discard.bind fun _ => Triple.skip
  case set =>
    refine (triple_expression t ts).bind fun _ => ?_
    split
    · exact triple_failAt_bind _ _ _
    · exact (triple_push _).discard.bind fun _ => Triple.skip
  case «break» =>
    refine (triple_argument t ts).bind fun _ => ?_
    split
    · exact triple_failAt _ _
    · exact (triple_directive _).bind fun _ => Triple.skip
  case skipWhile | skipUntil =>
    exact (triple_expression t ts).bind fun _ =>
      (triple_directive _).bind fun _ => Triple.skip
  case «if» | «while» =>
    exact (triple_expression t ts).bind fun _ => (triple_expectKeyword _ _ _).bind fun _ =>
      (triple_push _).bind fun _ => (triple_openBlock _).bind fun _ => Triple.skip
  case elseIf => exact triple_elseBranch t true ts
  case «else» => exact triple_elseBranch t false ts
  case endIf =>
    refine triple_closeBlock.bind fun blk => ?_
    split
    · refine triple_get_bind fun b _ => ?_
      split
      · exact (triple_patch _ _).bind fun _ => (triple_patchAll _ _).bind fun _ =>
          Triple.skip
      · exact (triple_patchAll _ _).bind fun _ => Triple.skip
    · exact triple_failAt _ _
  case done =>
    refine triple_closeBlock.bind fun blk => ?_
    split
    · exact (triple_push_of rfl).discard.bind fun _ => triple_get_bind fun b _ =>
        (triple_patch _ _).bind fun _ => Triple.skip
    · exact triple_failAt _ _
  all_goals exact triple_failAt _ _

end Directives

/-! ## The whole pass -/

section Pass

variable {φ : Prop}

theorem triple_item (ts : List Token) : Triple (Honest φ) (item ts) fun _ => Honest φ := by
  cases ts with
  | nil => exact triple_failAtEnd _
  | cons t r =>
    simp only [item]
    split
    · split
      · exact (triple_dataField _).bind fun _ => (triple_push _).discard.bind fun _ =>
          Triple.skip
      · exact (triple_keywordItem _ t r).bind fun _ => Triple.skip
    · exact (triple_dataField _).bind fun _ => (triple_push _).discard.bind fun _ =>
        Triple.skip

theorem triple_items (ts : List Token) : Triple (Honest φ) (items ts) fun _ => Honest φ := by
  fun_induction items ts with
  | case1 => exact Triple.skip
  | case2 t r ih =>
    refine (triple_item _).bind fun x => ?_
    obtain ⟨r', hr'⟩ := x
    exact ih r' hr'

end Pass

theorem compile_marks_input {ts : List Token} {p : Program} (h : compile ts = .ok p)
    (hu : p.usesInput = false) : (∀ i ∈ p.items, i.readsInput = false) ∧ p.eofAt = none := by
  obtain ⟨b, hrun, -, rfl⟩ := compile_ok h
  have hstart : Honest True { lastLine := (ts.getLast?.map (·.line)).getD 1 } :=
    fun _ => ⟨trivial, by simp, rfl⟩
  exact (triple_items ts _ () b hrun hstart hu).2

end ColumnSpec.Script
