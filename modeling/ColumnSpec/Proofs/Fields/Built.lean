import ColumnSpec.Proofs.InputUse.Marks
/-!
# The data fields of a compiled program

A data field enters a program only through `dataField`, so what holds of every field it
returns holds of every field of a compiled program (`compile_fields`).
-/
namespace ColumnSpec.Script

/-- Every data field among the builder's items satisfies `Q`. -/
def FieldsSatisfy (Q : DataField → Prop) (b : Builder) : Prop :=
  ∀ f, Item.field f ∈ b.program.items → Q f

theorem Item.eq_field_of_retarget {i : Item} {target : Nat} {f : DataField}
    (h : i.retarget target = .field f) : i = .field f := by
  cases i <;> first | exact h | cases h

section Steps

variable {Q : DataField → Prop}

theorem fields_of_items {α : Type} {m : Compiler α}
    (h : ∀ b a b', m.run b = .ok (a, b') → b'.program.items = b.program.items) :
    Triple (FieldsSatisfy Q) m fun _ => FieldsSatisfy Q := by
  intro b a b' hr hb f hf
  rw [h b a b' hr] at hf
  exact hb f hf

theorem fields_modify {f : Builder → Builder} (hf : ∀ b, (f b).program.items = b.program.items) :
    Triple (FieldsSatisfy Q) (modify f) fun _ => FieldsSatisfy Q :=
  fields_of_items fun b _ _ hr => by cases hr; exact hf b

theorem fields_markInput : Triple (FieldsSatisfy Q) markInput fun _ => FieldsSatisfy Q :=
  fields_modify fun _ => rfl

theorem fields_push {i : Item} (hi : ∀ f, i = .field f → Q f) :
    Triple (FieldsSatisfy Q) (push i) fun _ => FieldsSatisfy Q := by
  intro b a b' hr hb f hf
  cases hr
  rcases Array.mem_push.mp hf with hf | hf
  · exact hb f hf
  · exact hi f hf.symm

theorem fields_directive {i : Item} (hi : ∀ f, i ≠ .field f) :
    Triple (FieldsSatisfy Q) (directive i) fun _ => FieldsSatisfy Q :=
  fields_markInput.bind fun _ => (fields_push fun f h => absurd h (hi f)).discard

theorem fields_patch (pos target : Nat) :
    Triple (FieldsSatisfy Q) (patch pos target) fun _ => FieldsSatisfy Q := by
  intro b a b' hr hb f hf
  cases hr
  obtain ⟨k, hk, hkf⟩ := Array.mem_iff_getElem.mp hf
  have hk' : k < b.program.items.size := by simpa using hk
  have hkf' : (b.program.items.modify pos (·.retarget target))[k] = .field f := hkf
  rw [Array.getElem_modify] at hkf'
  split at hkf'
  · exact hb f (Item.eq_field_of_retarget hkf' ▸ Array.getElem_mem hk')
  · exact hb f (hkf' ▸ Array.getElem_mem hk')

theorem fields_patchAll (exits : List Nat) (target : Nat) :
    Triple (FieldsSatisfy Q) (exits.forM fun j => patch j target) fun _ => FieldsSatisfy Q := by
  induction exits with
  | nil => exact Triple.skip
  | cons j more ih => exact (fields_patch j target).bind fun _ => ih

theorem fields_closeBlock : Triple (FieldsSatisfy Q) closeBlock fun _ => FieldsSatisfy Q :=
  fields_of_items fun _ _ _ h => by rw [closeBlock_program h]

theorem fields_setStop (policy : StopPolicy) :
    Triple (FieldsSatisfy Q)
      (modify fun b : Builder => { b with program := { b.program with stop := some policy } })
      fun _ => FieldsSatisfy Q :=
  fields_modify fun _ => rfl

theorem fields_markEof (pos : Nat) :
    Triple (FieldsSatisfy Q) (modify fun b : Builder =>
      { b with program := { b.program with eofAt := some pos, usesInput := true } })
      fun _ => FieldsSatisfy Q :=
  fields_modify fun _ => rfl

theorem fields_openBlock (blk : Block) :
    Triple (FieldsSatisfy Q) (openBlock blk) fun _ => FieldsSatisfy Q :=
  fields_modify fun _ => rfl

theorem fields_set_blocks {b : Builder} (bs : List Block) (hb : FieldsSatisfy Q b) :
    Triple (FieldsSatisfy Q) (set { b with blocks := bs } : Compiler PUnit) fun _ => FieldsSatisfy Q := by
  intro b₀ a b' hr _
  cases hr
  exact hb

theorem fields_expression (kw : Token) (ts : List Token) :
    Triple (FieldsSatisfy Q) (expression kw ts) fun _ => FieldsSatisfy Q := by
  unfold expression
  refine (triple_argument kw ts).bind fun x => ?_
  dsimp only
  split
  · exact triple_failAt _ _
  · split
    · exact fields_markInput.bind fun _ => Triple.skip
    · exact Triple.skip

theorem fields_source (ts : List Token) :
    Triple (FieldsSatisfy Q) (source ts) fun _ => FieldsSatisfy Q := by
  fun_induction source ts with
  | case1 => exact triple_failAtEnd _
  | case10 t r _ =>
    refine (triple_argument t r).bind fun x => ?_
    dsimp only
    split
    · exact Triple.skip
    · exact triple_failAt _ _
  | case11 t r _ => exact (fields_expression t r).bind fun _ => Triple.skip
  | case12 t r _ ih₁ ih₂ =>
    refine ih₁.bind fun x => ?_
    obtain ⟨part, r1, h1⟩ := x
    dsimp only
    split
    · exact triple_failAt_bind _ _ _
    · refine (triple_expectKeyword .of t r1).bind fun y => ?_
      obtain ⟨r2, h2⟩ := y
      exact (ih₂ r1 h1 r2 h2).bind fun _ => Triple.skip
  | case13 => exact triple_failAt _ _
  | _ => exact Triple.skip

theorem fields_dataField (ts : List Token) :
    Triple (FieldsSatisfy Q) (dataField ts) fun _ => FieldsSatisfy Q := by
  unfold dataField
  split
  refine (fields_source _).bind fun x => ?_
  dsimp only
  split
  · exact fields_markInput.bind fun _ => (triple_placement _).bind fun _ =>
      (triple_alignment _ _).bind fun _ => Triple.skip
  · exact (triple_placement _).bind fun _ => (triple_alignment _ _).bind fun _ =>
      Triple.skip

end Steps

/-! ## Directives -/

section Directives

variable {Q : DataField → Prop}

theorem fields_elseBranch (t : Token) (isElseIf : Bool) (ts : List Token) :
    Triple (FieldsSatisfy Q) (elseBranch t isElseIf ts) fun _ => FieldsSatisfy Q := by
  unfold elseBranch
  refine triple_get_bind fun b _ => ?_
  dsimp only
  split
  · refine Triple.bind (Q := fun _ => FieldsSatisfy Q) ?_ fun x => ?_
    · split
      · exact (fields_expression t ts).bind fun _ =>
          (triple_expectKeyword _ _ _).bind fun _ => Triple.skip
      · exact Triple.skip
    · refine (fields_push fun _ h => by cases h).bind fun jump => triple_get_bind fun b₁ hb₁ => ?_
      refine (fields_set_blocks _ hb₁).bind fun _ => ?_
      split
      · refine (fields_push fun _ h => by cases h).discard.bind fun _ => ?_
        split
        · exact (fields_patch _ _).bind fun _ => Triple.skip
        · exact Triple.skip
      · split
        · exact (fields_patch _ _).bind fun _ => Triple.skip
        · exact Triple.skip
  · exact triple_failAt_bind _ _ _
  · exact triple_failAt_bind _ _ _

theorem fields_keywordItem (k : Keyword) (t : Token) (ts : List Token) :
    Triple (FieldsSatisfy Q) (keywordItem k t ts) fun _ => FieldsSatisfy Q := by
  have plain : ∀ {i : Item}, (∀ f, i ≠ .field f) →
      Triple (FieldsSatisfy Q) (discard (push i)) fun _ => FieldsSatisfy Q :=
    fun hi => (fields_push fun f h => absurd h (hi f)).discard
  unfold keywordItem
  cases k <;> dsimp only
  case fieldSeparator | wordSeparator | pad =>
    refine (triple_argument t ts).bind fun _ => ?_
    split
    · exact triple_failAt _ _
    · exact (plain fun _ h => by cases h).bind fun _ => Triple.skip
  case stop =>
    refine (triple_argument t ts).bind fun _ => ?_
    split
    all_goals refine Triple.bind ?_ fun _ =>
      (fields_setStop _).bind fun _ => Triple.skip
    all_goals first
      | exact Triple.skip
      | exact Triple.map _ (triple_streamNumber _)
  case requires =>
    refine (triple_argument t ts).bind fun _ => ?_
    split
    · exact triple_failAt _ _
    · exact Triple.skip
  case read | readStop | unread | redo =>
    exact (fields_directive fun _ h => by cases h).bind fun _ => Triple.skip
  case write | noWrite | «continue» | stderr =>
    exact (plain fun _ h => by cases h).bind fun _ => Triple.skip
  case eof =>
    refine triple_get_bind fun b _ => ?_
    split
    · exact triple_failAt_bind _ _ _
    · split
      · exact triple_failAt_bind _ _ _
      · exact (fields_push fun _ h => by cases h).bind fun pos =>
          (fields_markEof pos).bind fun _ => Triple.skip
  case select =>
    refine (triple_argument t ts).bind fun _ => ?_
    split
    all_goals refine Triple.bind (Q := fun _ => FieldsSatisfy Q) ?_ fun _ =>
      (fields_directive fun _ h => by cases h).bind fun _ => Triple.skip
    all_goals first | exact Triple.skip | exact triple_streamNumber _
  case outStream =>
    refine (triple_argument t ts).bind fun _ => (triple_streamNumber _).bind fun _ => ?_
    exact (plain fun _ h => by cases h).bind fun _ => Triple.skip
  case assert | skipWhile | skipUntil =>
    first
      | exact (fields_expression t ts).bind fun _ =>
          (plain fun _ h => by cases h).bind fun _ => Triple.skip
      | exact (fields_expression t ts).bind fun _ =>
          (fields_directive fun _ h => by cases h).bind fun _ => Triple.skip
  case abend =>
    exact (triple_argument t ts).bind fun _ =>
      (plain fun _ h => by cases h).bind fun _ => Triple.skip
  case set =>
    refine (fields_expression t ts).bind fun _ => ?_
    split
    · exact triple_failAt_bind _ _ _
    · exact (plain fun _ h => by cases h).bind fun _ => Triple.skip
  case «break» =>
    refine (triple_argument t ts).bind fun _ => ?_
    split
    · exact triple_failAt _ _
    · exact (fields_directive fun _ h => by cases h).bind fun _ => Triple.skip
  case «if» | «while» =>
    exact (fields_expression t ts).bind fun _ => (triple_expectKeyword _ _ _).bind fun _ =>
      (fields_push fun _ h => by cases h).bind fun _ =>
        (fields_openBlock _).bind fun _ => Triple.skip
  case elseIf => exact fields_elseBranch t true ts
  case «else» => exact fields_elseBranch t false ts
  case endIf =>
    refine fields_closeBlock.bind fun blk => ?_
    split
    · refine triple_get_bind fun b _ => ?_
      split
      · exact (fields_patch _ _).bind fun _ => (fields_patchAll _ _).bind fun _ =>
          Triple.skip
      · exact (fields_patchAll _ _).bind fun _ => Triple.skip
    · exact triple_failAt _ _
  case done =>
    refine fields_closeBlock.bind fun blk => ?_
    split
    · exact (plain fun _ h => by cases h).bind fun _ => triple_get_bind fun b _ =>
        (fields_patch _ _).bind fun _ => Triple.skip
    · exact triple_failAt _ _
  all_goals exact triple_failAt _ _

end Directives

/-! ## The whole pass -/

section Pass

variable {Q : DataField → Prop}
  (hQ : ∀ ts b f r b', (dataField ts).run b = .ok ((f, r), b') → Q f)
include hQ

theorem fields_readField (ts : List Token) :
    Triple (FieldsSatisfy Q) (dataField ts >>= fun x => discard (push (.field x.1)) >>= fun _ => pure x.2)
      fun _ => FieldsSatisfy Q := by
  refine Triple.bind (Q := fun x b => FieldsSatisfy Q b ∧ Q x.1)
    (fun b x b' hr hb => ⟨fields_dataField ts b x b' hr hb, hQ ts b x.1 x.2 b' hr⟩) fun x => ?_
  refine Triple.bind (Q := fun _ => FieldsSatisfy Q) ?_ fun _ => Triple.skip
  intro b a b' hr hb
  exact (fields_push (Q := Q) fun f h => by cases h; exact hb.2).discard b a b' hr hb.1

theorem fields_item (ts : List Token) : Triple (FieldsSatisfy Q) (item ts) fun _ => FieldsSatisfy Q := by
  cases ts with
  | nil => exact triple_failAtEnd _
  | cons t r =>
    simp only [item]
    split
    · split
      · exact fields_readField hQ _
      · exact (fields_keywordItem _ t r).bind fun _ => Triple.skip
    · exact fields_readField hQ _

theorem fields_items (ts : List Token) : Triple (FieldsSatisfy Q) (items ts) fun _ => FieldsSatisfy Q := by
  fun_induction items ts with
  | case1 => exact Triple.skip
  | case2 t r ih =>
    refine (fields_item hQ _).bind fun x => ?_
    obtain ⟨r', hr'⟩ := x
    exact ih r' hr'

theorem compile_fields {ts : List Token} {p : Program} (h : compile ts = .ok p) :
    ∀ f, Item.field f ∈ p.items → Q f := by
  obtain ⟨b, hrun, -, rfl⟩ := compile_ok h
  have hstart : FieldsSatisfy Q { lastLine := (ts.getLast?.map (·.line)).getD 1 } :=
    fun f hf => by simp at hf
  exact fields_items hQ ts _ () b hrun hstart

end Pass

end ColumnSpec.Script
