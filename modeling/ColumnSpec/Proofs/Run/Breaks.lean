import ColumnSpec.Proofs.Run.Exhausted
import ColumnSpec.Proofs.Run.Shift
/-!
# Control breaks

The run keeps one entry per break key: the first break on a key seeds it with the key's text,
and the end of every complete cycle gives each tracked entry the text its key has then. Here,
what the steps of items that keep their record do to the entries and the bound texts.
-/
namespace ColumnSpec.Script

/-- Whether an item keeps the record and the field identifiers of its cycle to the cycle's
end: all but the items that move in the input, stop at its end or skip the record. -/
def Item.keepsRecord : Item → Bool
  | .read | .readStop | .unread | .redo | .skipWhile _ | .skipUntil _ => false
  | _ => true

/-- The answer of a break on a key whose cycle started with the entry `start`, now bound to
`cur`: a change when a text was remembered and differs from it, none on the first look. -/
def breakLaw : Option String → String → Bool
  | some prev, cur => prev != cur
  | none, _ => false

/-- The entry of break key `k` in a cycle that started with the entry `start`: as the cycle
found it, or, if that was unset, seeded with the text of `k`. -/
def Tracking (k : Char) (start : Option String) (u : RunState) : Prop :=
  u.breaks.lookup k = start ∨ (start = none ∧ u.breaks.lookup k = u.fields.lookup k)

/-- At the start of a cycle, while the field identifiers are still the last cycle's: the entry
of `k` is unset, or holds the text `k` had then. -/
def Remembers (k : Char) (s : RunState) : Prop :=
  ∀ prev cur, s.breaks.lookup k = some prev → s.fields.lookup k = some cur → prev = cur

theorem lookup_cons_ne {α β : Type} [BEq α] [LawfulBEq α] {l : List (α × β)} {c k : α} {t : β}
    (h : c ≠ k) :
    ((c, t) :: l).lookup k = l.lookup k := by
  rw [List.lookup_cons, beq_false_of_ne (Ne.symm h)]

theorem lookup_map_snd {α β : Type} [BEq α] [LawfulBEq α] {l : List (α × β)} {g : α × β → α × β}
    (hg : ∀ q, (g q).1 = q.1) (k : α) :
    (l.map g).lookup k = (l.lookup k).map fun v => (g (k, v)).2 := by
  induction l with
  | nil => rfl
  | cons q l ih =>
    rcases q with ⟨c, v⟩
    have hq : g (c, v) = (c, (g (c, v)).2) := Prod.ext (hg (c, v)) rfl
    rw [List.map_cons, hq]
    rcases eq_or_ne c k with rfl | hck
    · rw [List.lookup_cons_self, List.lookup_cons_self, Option.map_some]
    · rw [lookup_cons_ne hck, lookup_cons_ne hck, ih]

/-! ## Invariants of the bindings -/

/-- A property of the state that the field identifiers and the break keys decide, and that
binding a field identifier and tracking a break key keep. -/
structure BindingInvariant (P : RunState → Prop) : Prop where
  frame : ∀ s t, s.fields = t.fields → s.breaks = t.breaks → P s → P t
  bind : ∀ c text, Preserves P (bindField c text)
  track : ∀ c, Preserves P (trackBreak c)

namespace BindingInvariant

variable {P : RunState → Prop} {env : Setting}

theorem keeps_modify (h : BindingInvariant P) {g : RunState → RunState}
    (hg : ∀ s, (g s).fields = s.fields ∧ (g s).breaks = s.breaks) : Preserves P (modify g) :=
  preserves_modify fun s hs => h.frame s (g s) (hg s).1.symm (hg s).2.symm hs

theorem keeps_onOutputs (h : BindingInvariant P) (f : Outputs → Except Fault Outputs) :
    Preserves P (onOutputs f) :=
  preserves_get_bind fun s hs =>
    Preserves.bind (preserves_ofExcept _) fun _ => preserves_set (h.frame s _ rfl rfl hs)

theorem keeps_onStreams (h : BindingInvariant P) (f : Streams → Except Fault Streams) :
    Preserves P (onStreams f) :=
  preserves_get_bind fun s hs =>
    Preserves.bind (preserves_ofExcept _) fun _ => preserves_set (h.frame s _ rfl rfl hs)

theorem keeps_asks (h : BindingInvariant P) : AsksKeep P :=
  asksKeep_of_streams fun s _ hs => h.frame s _ rfl rfl hs

theorem keeps_evaluate (h : BindingInvariant P) (e : Expr) : Preserves P (evaluate env e) :=
  evaluate_preserves (fun s _ _ hs => h.frame s _ rfl rfl hs) h.track h.keeps_asks e

theorem keeps_putField (h : BindingInvariant P) (f : DataField) : Preserves P (putField env f) :=
  putField_preserves f
    (sourceText_preserves h.keeps_evaluate (fun s hs => h.frame s _ rfl rfl hs) h.keeps_asks
      f.source) h.bind
    fun s _ hs => h.frame s _ rfl rfl hs

theorem keeps_step (h : BindingInvariant P) {i : Item} (hi : i.keepsRecord) :
    Preserves P (step env i) := by
  cases i with
  | field f => exact h.keeps_putField f
  | read | readStop | unread | redo | skipWhile _ | skipUntil _ =>
    simp only [Item.keepsRecord, Bool.false_eq_true] at hi
  | selectInput n => exact h.keeps_onStreams _
  | write | outStream _ | stderr => exact h.keeps_onOutputs _
  | assert c src =>
    refine Preserves.bind (h.keeps_evaluate c) fun _ => ?_
    split
    · exact preserves_throw _
    · exact preserves_pure _
  | set e => exact (h.keeps_evaluate e).discard
  | «break» c => exact (h.track c).discard
  | fieldSeparator _ | wordSeparator _ | pad _ | noWrite => exact h.keeps_modify fun _ => ⟨rfl, rfl⟩
  | abend _ => exact preserves_throw _
  | «continue» | eof | «if» _ _ | «while» _ _ | jump _ => exact preserves_pure _

theorem keeps_act (h : BindingInvariant P) (pc : Nat) {i : Item} (hi : i.keepsRecord) :
    Preserves P (act env pc i) := by
  cases i
  case readStop | skipWhile | skipUntil => simp only [Item.keepsRecord, Bool.false_eq_true] at hi
  case «continue» | eof => exact preserves_pure _
  all_goals exact Preserves.bind (h.keeps_step hi) fun _ => preserves_pure _

theorem keeps_execute (h : BindingInvariant P) {items : Array Item} {stop : Nat}
    (hp : ∀ i ∈ items, i.keepsRecord) (n pc : Nat) : Preserves P (execute env items stop n pc) :=
  execute_preserves (fun pc _ hi => h.keeps_act pc (hp _ (Array.mem_of_getElem? hi)))
    h.keeps_evaluate n pc

end BindingInvariant

theorem tracking_invariant (k : Char) (start : Option String) :
    BindingInvariant (Tracking k start) where
  frame s t hf hb hs := by
    unfold Tracking at hs ⊢
    rw [← hf, ← hb]
    exact hs
  bind c text s hs := by
    rw [exec_bindField]
    split
    · exact hs
    · rename_i hfree
      rcases eq_or_ne c k with rfl | hck
      · -- `k` was unbound, so its entry is still the one the cycle found
        have hnone : s.fields.lookup c = none := Option.not_isSome_iff_eq_none.mp hfree
        rcases hs with hs | ⟨rfl, hs⟩
        · exact Or.inl hs
        · exact Or.inl (hs.trans hnone)
      · unfold Tracking at hs ⊢
        rw [lookup_cons_ne hck]
        exact hs
  track c s hs := by
    rcases trackBreak_state c s with h | ⟨cur, hf, hb, h⟩
    · rw [h]
      exact hs
    rw [h]
    rcases eq_or_ne c k with rfl | hck
    · -- the first break on `k`: the cycle found the entry unset
      have hstart : start = none := by
        rcases hs with hs | ⟨hs, -⟩
        · exact hs ▸ hb
        · exact hs
      refine Or.inr ⟨hstart, ?_⟩
      rw [List.lookup_cons_self, hf]
    · unfold Tracking at hs ⊢
      rw [lookup_cons_ne hck]
      exact hs

theorem bound_invariant (k : Char) (cur : String) :
    BindingInvariant fun u => u.fields.lookup k = some cur where
  frame s t hf _ hs := hf ▸ hs
  bind c text s hs := by
    rw [exec_bindField]
    split
    · exact hs
    · rename_i hfree
      have hck : c ≠ k := by
        rintro rfl
        exact hfree (by rw [hs]; rfl)
      show ((c, text) :: s.fields).lookup k = some cur
      rw [lookup_cons_ne hck]
      exact hs
  track c s hs := by
    -- a look at a break key never changes the bindings
    rcases trackBreak_state c s with h | ⟨_, _, _, h⟩ <;> rw [h] <;> exact hs

theorem trackBreak_answers {k : Char} {start : Option String} {u : RunState} {cur : String}
    (h : Tracking k start u) (hcur : u.fields.lookup k = some cur) :
    ((trackBreak k).exec u).1 = .ok (breakLaw start cur) ∧
      (((trackBreak k).exec u).2.breaks.lookup k).isSome := by
  rw [exec_trackBreak, hcur]
  rcases h with h | ⟨rfl, h⟩
  · -- the entry is the one the cycle found: remembered, or seeded now
    cases start with
    | none => simp [breakLaw, h]
    | some prev => simp [breakLaw, h]
  · -- seeded earlier in the cycle with the same text
    rw [hcur] at h
    simp [breakLaw, h]

/-! ## Cycles -/

section Cycles

variable {env : Setting} {p : Program} {fuel : Nat}

theorem act_flow_of_keepsRecord {pc : Nat} {i : Item} (h : i.keepsRecord) {s s' : RunState}
    {fl : Flow} (ha : (act env pc i).exec s = (.ok fl, s')) : fl = .next ∨ fl = .exit .complete := by
  cases i
  all_goals first
    | (simp only [Item.keepsRecord, Bool.false_eq_true] at h; done)
    | exact Or.inl (exec_then_pure ha)
    | exact Or.inr (by cases ha; rfl)

theorem complete_of_keepsRecord (hp : ∀ i ∈ p.items, i.keepsRecord) {s s' : RunState}
    {o : Outcome} (h : (runCycle env p fuel).exec s = (.ok o, s'))
    (ho : o = .complete ∨ o = .skipped) : o = .complete := by
  rcases runCycle_ends_of_flow (fun i hi _ _ _ _ ha => act_flow_of_keepsRecord (hp i hi) ha) h
    with rfl | rfl
  · rfl
  · simp at ho

theorem finishCycle_complete {e e' : RunState} (h : (finishCycle .complete).exec e = (.ok (), e')) :
    e'.fields = e.fields ∧ ∀ k, e'.breaks.lookup k =
      (e.breaks.lookup k).map fun prev => (e.fields.lookup k).getD prev := by
  simp only [finishCycle, rememberBreaks, onOutputs, Eval.exec_bind, Eval.exec_modify,
    Eval.exec_get, Eval.exec_ofExcept] at h
  rcases hend : e.outputs.endCycle with _ | o
  · rw [hend] at h
    cases h
  · rw [hend] at h
    cases h
    exact ⟨rfl, lookup_map_snd (g := fun q => (q.1, (e.fields.lookup q.1).getD q.2)) fun _ => rfl⟩

/-- A complete cycle of items that keep the record, at whose end `k` is bound to `cur`, ends
with the entry of `k` holding `cur` if `k` was tracked at its start or seeded in it, and unset
otherwise. -/
theorem runCycle_handsOn (hp : ∀ i ∈ p.items, i.keepsRecord) {k : Char} {a a' : RunState}
    {cur : String} (h : (runCycle env p fuel).exec a = (.ok .complete, a'))
    (hcur : a'.fields.lookup k = some cur) :
    a'.breaks.lookup k = (a.breaks.lookup k).map (fun _ => cur) ∨
      (a.breaks.lookup k = none ∧ a'.breaks.lookup k = some cur) := by
  unfold runCycle at h
  obtain ⟨_, a₁, h₁, h⟩ := Eval.exec_bind_ok_inv h
  obtain ⟨_, a₂, h₂, h⟩ := Eval.exec_bind_ok_inv h
  obtain ⟨o, e, he, h⟩ := Eval.exec_bind_ok_inv h
  obtain ⟨_, e', hf, h⟩ := Eval.exec_bind_ok_inv h
  cases h
  -- the items start with the entry the cycle found and keep it but for seeding
  have hstart : Tracking k (a.breaks.lookup k) a₂ := by
    cases h₁
    cases h₂
    exact Or.inl rfl
  have hrun : Preserves (Tracking k (a.breaks.lookup k)) (execute env p.items p.cycleEnd fuel 0) :=
    (tracking_invariant k _).keeps_execute hp fuel 0
  have htrack := hrun a₂ hstart
  rw [he] at htrack
  obtain ⟨hfields, hbreaks⟩ := finishCycle_complete hf
  have hcur' : e.fields.lookup k = some cur := hfields ▸ hcur
  rw [hbreaks, hcur']
  rcases htrack with ht | ⟨hstart, ht⟩
  · exact Or.inl (by rw [ht]; rfl)
  · rw [ht, hcur']
    exact Or.inr ⟨hstart, rfl⟩

theorem advanceCycle_keeps {s a : RunState}
    (h : (streamStep Streams.advanceCycle).exec s = (.ok true, a)) :
    a.fields = s.fields ∧ a.breaks = s.breaks := by
  rw [exec_streamStep] at h
  have ha := congrArg Prod.snd h
  subst ha
  exact ⟨rfl, rfl⟩

theorem runCycle_remembers (hp : ∀ i ∈ p.items, i.keepsRecord) {a a' : RunState}
    (h : (runCycle env p fuel).exec a = (.ok .complete, a')) (k : Char) : Remembers k a' := by
  intro prev cur hprev hcur
  rcases runCycle_handsOn hp h hcur with h | ⟨-, h⟩
  · rw [h] at hprev
    obtain ⟨_, -, rfl⟩ := Option.map_eq_some_iff.mp hprev
    rfl
  · rw [h] at hprev
    exact (Option.some.inj hprev).symm

end Cycles

end ColumnSpec.Script
