import ColumnSpec.Record
import Mathlib.Data.List.Chain
/-!
# Words and fields of a record

The word spans of a text are its maximal runs of non-separators (`IsWordSpans`) and the field
spans the pieces cut at every separator (`IsFieldSpans`); `Record.views_reference` adds how
the count, an element and a range of elements are read off them.
-/
namespace ColumnSpec

/-- Whether position `p` lies in one of the spans. -/
def Covered (spans : List Span) (p : Nat) : Prop := ∃ sp ∈ spans, sp.start ≤ p ∧ p < sp.stop

/-- The separator test of words: a blank separator stands for every blank. -/
def wordSep (sep c : Char) : Bool := if sep == ' ' then Text.isBlank c else c == sep

/-- `spans` are the maximal non-empty runs of the characters of `cs` that `isSep` rejects. -/
structure IsWordSpans (isSep : Char → Bool) (cs : List Char) (spans : List Span) : Prop where
  apart : spans.IsChain fun a b => a.stop < b.start
  nonempty : ∀ sp ∈ spans, sp.start < sp.stop
  within : ∀ sp ∈ spans, sp.stop ≤ cs.length
  covered_iff : ∀ p (hp : p < cs.length), Covered spans p ↔ isSep cs[p] = false

/-- `spans` are the pieces of `cs` cut at every `sep`: none when `cs` is empty. -/
structure IsFieldSpans (sep : Char) (cs : List Char) (spans : List Span) : Prop where
  eq_nil_iff : spans = [] ↔ cs = []
  first : ∀ sp ∈ spans.head?, sp.start = 0
  last : ∀ sp ∈ spans.getLast?, sp.stop = cs.length
  cut : spans.IsChain fun a b => b.start = a.stop + 1
  ordered : ∀ sp ∈ spans, sp.start ≤ sp.stop
  covered_iff : ∀ p (hp : p < cs.length), Covered spans p ↔ cs[p] ≠ sep

theorem covered_cons {a : Span} {spans : List Span} {p : Nat} :
    Covered (a :: spans) p ↔ (a.start ≤ p ∧ p < a.stop) ∨ Covered spans p := by
  simp [Covered]

theorem not_covered_of_lt {spans : List Span} {p : Nat} (h : ∀ sp ∈ spans, p < sp.start) :
    ¬ Covered spans p := by
  rintro ⟨sp, hsp, hle, -⟩
  have := h sp hsp
  omega

/-! ## Words -/

section Words

variable (isSep : Char → Bool)

theorem wordSpansFrom_bounds (cs : List Char) (i : Nat) (o : Option Nat)
    (ho : ∀ s, o = some s → s < i) :
    ∀ sp ∈ wordSpansFrom isSep cs i o,
      o.getD i ≤ sp.start ∧ sp.start < sp.stop ∧ sp.stop ≤ i + cs.length := by
  induction cs generalizing i o with
  | nil =>
    rcases o with _ | s
    · simp [wordSpansFrom]
    · have := ho s rfl
      simp [wordSpansFrom]
      omega
  | cons c rest ih =>
    unfold wordSpansFrom
    by_cases hc : isSep c
    · rcases o with _ | s
      · simp only [hc, if_true]
        intro sp hsp
        have := ih (i + 1) none (by simp) sp hsp
        simp at this ⊢
        omega
      · have := ho s rfl
        simp only [hc, if_true, List.mem_cons]
        rintro sp (rfl | hsp)
        · simp
          omega
        · have := ih (i + 1) none (by simp) sp hsp
          simp at this ⊢
          omega
    · simp only [hc, Bool.false_eq_true, if_false]
      intro sp hsp
      rcases o with _ | s
      · have := ih (i + 1) (some i) (by simp) sp hsp
        simp at this ⊢
        omega
      · have := ho s rfl
        have := ih (i + 1) (some s) (by simp; omega) sp hsp
        simp at this ⊢
        omega

theorem wordSpansFrom_open (cs : List Char) (i s : Nat) :
    ∃ stop rest, wordSpansFrom isSep cs i (some s) = ⟨s, stop⟩ :: rest ∧ i ≤ stop := by
  induction cs generalizing i with
  | nil => exact ⟨i, [], rfl, Nat.le_refl i⟩
  | cons c rest ih =>
    unfold wordSpansFrom
    by_cases hc : isSep c
    · exact ⟨i, wordSpansFrom isSep rest (i + 1) none, by simp [hc], Nat.le_refl i⟩
    · obtain ⟨stop, rest', h, hle⟩ := ih (i + 1)
      exact ⟨stop, rest', by simpa [hc] using h, by omega⟩

theorem wordSpansFrom_apart (cs : List Char) (i : Nat) (o : Option Nat)
    (ho : ∀ s, o = some s → s < i) :
    (wordSpansFrom isSep cs i o).IsChain fun a b => a.stop < b.start := by
  induction cs generalizing i o with
  | nil => rcases o with _ | s <;> simp [wordSpansFrom]
  | cons c rest ih =>
    unfold wordSpansFrom
    by_cases hc : isSep c
    · rcases o with _ | s
      · simpa [hc] using ih (i + 1) none (by simp)
      · simp only [hc, if_true]
        refine List.isChain_cons.2 ⟨fun b hb => ?_, ih (i + 1) none (by simp)⟩
        -- the spans after a separator start past it
        have := wordSpansFrom_bounds isSep rest (i + 1) none (by simp) b (List.mem_of_mem_head? hb)
        simp at this ⊢
        omega
    · simp only [hc, Bool.false_eq_true, if_false]
      rcases o with _ | s
      · exact ih (i + 1) (some i) (by simp)
      · exact ih (i + 1) (some s) (by have := ho s rfl; simp; omega)

theorem wordSpansFrom_covered (cs : List Char) (i : Nat) (o : Option Nat)
    (ho : ∀ s, o = some s → s < i) :
    ∀ p (hp : p < cs.length), Covered (wordSpansFrom isSep cs i o) (i + p) ↔ isSep cs[p] = false := by
  induction cs generalizing i o with
  | nil => simp
  | cons c rest ih =>
    intro p hp
    unfold wordSpansFrom
    by_cases hc : isSep c
    · -- a separator closes the open word at `i`; what follows starts after it
      have hpast : ∀ q, q ≤ i → ¬ Covered (wordSpansFrom isSep rest (i + 1) none) q :=
        fun q hq => not_covered_of_lt fun sp hsp => by
          have := wordSpansFrom_bounds isSep rest (i + 1) none (by simp) sp hsp
          simp at this
          omega
      rcases p with _ | q
      · rcases o with _ | s
        · simpa [hc] using hpast i le_rfl
        · simpa [hc, covered_cons] using hpast i le_rfl
      · have hq : q < rest.length := by simpa using hp
        have := ih (i + 1) none (by simp) q hq
        rw [Nat.add_right_comm i 1 q, Nat.add_assoc] at this
        rcases o with _ | s
        · simpa [hc] using this
        · simp only [hc, if_true, covered_cons, List.getElem_cons_succ]
          rw [← this]
          constructor
          · rintro (⟨-, h⟩ | h)
            · omega
            · exact h
          · exact Or.inr
    · simp only [hc, Bool.false_eq_true, if_false]
      have ho' : ∀ s, o.orElse (fun _ => some i) = some s → s < i + 1 := by
        rcases o with _ | s
        · simp
        · have := ho s rfl
          simp
          omega
      rcases p with _ | q
      · -- the word open from `i` covers it
        have hs : o.orElse (fun _ => some i) = some (o.getD i) := by rcases o <;> rfl
        have hle : o.getD i ≤ i := by
          rcases o with _ | s
          · exact le_rfl
          · exact Nat.le_of_lt (ho s rfl)
        obtain ⟨stop, rest', h, hstop⟩ := wordSpansFrom_open isSep rest (i + 1) (o.getD i)
        rw [hs, h]
        simp only [List.getElem_cons_zero, hc, Nat.add_zero, covered_cons]
        simp only [iff_true]
        exact Or.inl ⟨hle, by omega⟩
      · have hq : q < rest.length := by simpa using hp
        have := ih (i + 1) _ ho' q hq
        simpa [Nat.add_right_comm, Nat.add_assoc] using this

end Words

theorem elementSpans_word (sep : Char) (cs : List Char) :
    elementSpans .word sep cs = wordSpansFrom (wordSep sep) cs 0 none := rfl

theorem wordSpans_spec (sep : Char) (cs : List Char) :
    IsWordSpans (wordSep sep) cs (elementSpans .word sep cs) := by
  rw [elementSpans_word]
  exact {
    apart := wordSpansFrom_apart (wordSep sep) cs 0 none (by simp)
    nonempty := fun sp hsp => (wordSpansFrom_bounds (wordSep sep) cs 0 none (by simp) sp hsp).2.1
    within := fun sp hsp => by
      simpa using (wordSpansFrom_bounds (wordSep sep) cs 0 none (by simp) sp hsp).2.2
    covered_iff := fun p hp => by
      simpa using wordSpansFrom_covered (wordSep sep) cs 0 none (by simp) p hp }

/-! ## Fields -/

section Fields

variable (sep : Char)

theorem fieldSpansFrom_open (cs : List Char) (i s : Nat) :
    ∃ stop rest, fieldSpansFrom sep cs i s = ⟨s, stop⟩ :: rest ∧ i ≤ stop := by
  induction cs generalizing i s with
  | nil => exact ⟨i, [], rfl, Nat.le_refl i⟩
  | cons c rest ih =>
    unfold fieldSpansFrom
    by_cases hc : c = sep
    · exact ⟨i, fieldSpansFrom sep rest (i + 1) (i + 1), by simp [hc], Nat.le_refl i⟩
    · obtain ⟨stop, rest', h, hle⟩ := ih (i + 1) s
      exact ⟨stop, rest', by simpa [hc] using h, by omega⟩

theorem fieldSpansFrom_bounds (cs : List Char) (i s : Nat) (hs : s ≤ i) :
    ∀ sp ∈ fieldSpansFrom sep cs i s, s ≤ sp.start ∧ sp.start ≤ sp.stop ∧ sp.stop ≤ i + cs.length := by
  induction cs generalizing i s with
  | nil =>
    simp [fieldSpansFrom]
    omega
  | cons c rest ih =>
    unfold fieldSpansFrom
    by_cases hc : c = sep
    · simp only [hc, beq_self_eq_true, if_true, List.mem_cons]
      rintro sp (rfl | hsp)
      · simp
        omega
      · have := ih (i + 1) (i + 1) le_rfl sp hsp
        simp at this ⊢
        omega
    · simp only [beq_false_of_ne hc, Bool.false_eq_true, if_false]
      intro sp hsp
      have := ih (i + 1) s (by omega) sp hsp
      simp at this ⊢
      omega

theorem fieldSpansFrom_last (cs : List Char) (i s : Nat) :
    ∀ sp ∈ (fieldSpansFrom sep cs i s).getLast?, sp.stop = i + cs.length := by
  induction cs generalizing i s with
  | nil => simp [fieldSpansFrom]
  | cons c rest ih =>
    unfold fieldSpansFrom
    by_cases hc : c = sep
    · obtain ⟨stop, rest', h, -⟩ := fieldSpansFrom_open sep rest (i + 1) (i + 1)
      intro sp hsp
      have := ih (i + 1) (i + 1) sp
      simp only [hc, beq_self_eq_true, if_true, h, List.getLast?_cons_cons] at hsp this
      simp only [List.length_cons]
      rw [this hsp]
      omega
    · intro sp hsp
      simp only [beq_false_of_ne hc, Bool.false_eq_true, if_false] at hsp
      rw [ih (i + 1) s sp hsp, List.length_cons]
      omega

theorem fieldSpansFrom_cut (cs : List Char) (i s : Nat) :
    (fieldSpansFrom sep cs i s).IsChain fun a b => b.start = a.stop + 1 := by
  induction cs generalizing i s with
  | nil => simp [fieldSpansFrom]
  | cons c rest ih =>
    unfold fieldSpansFrom
    by_cases hc : c = sep
    · obtain ⟨stop, rest', h, -⟩ := fieldSpansFrom_open sep rest (i + 1) (i + 1)
      have ht := ih (i + 1) (i + 1)
      simp only [hc, beq_self_eq_true, if_true]
      rw [h] at ht ⊢
      exact List.isChain_cons_cons.2 ⟨rfl, ht⟩
    · simpa [beq_false_of_ne hc] using ih (i + 1) s

theorem fieldSpansFrom_covered (cs : List Char) (i s : Nat) (hs : s ≤ i) :
    ∀ p (hp : p < cs.length), Covered (fieldSpansFrom sep cs i s) (i + p) ↔ cs[p] ≠ sep := by
  induction cs generalizing i s with
  | nil => simp
  | cons c rest ih =>
    intro p hp
    unfold fieldSpansFrom
    by_cases hc : c = sep
    · -- the separator at `i` ends the field open at `s`; the next field starts after it
      have hpast : ∀ q, q ≤ i → ¬ Covered (fieldSpansFrom sep rest (i + 1) (i + 1)) q :=
        fun q hq => not_covered_of_lt fun sp hsp => by
          have := fieldSpansFrom_bounds sep rest (i + 1) (i + 1) le_rfl sp hsp
          omega
      simp only [hc, beq_self_eq_true, if_true, covered_cons]
      rcases p with _ | q
      · simpa [hc] using hpast i le_rfl
      · have hq : q < rest.length := by simpa using hp
        have := ih (i + 1) (i + 1) le_rfl q hq
        rw [Nat.add_right_comm i 1 q, Nat.add_assoc] at this
        rw [List.getElem_cons_succ, ← this]
        constructor
        · rintro (⟨-, h⟩ | h)
          · omega
          · exact h
        · exact Or.inr
    · simp only [beq_false_of_ne hc, Bool.false_eq_true, if_false]
      rcases p with _ | q
      · -- the open field covers it
        obtain ⟨stop, rest', h, hstop⟩ := fieldSpansFrom_open sep rest (i + 1) s
        rw [h]
        simp only [List.getElem_cons_zero, Nat.add_zero, covered_cons, ne_eq, hc, not_false_eq_true,
          iff_true]
        exact Or.inl ⟨hs, by omega⟩
      · have hq : q < rest.length := by simpa using hp
        have := ih (i + 1) s (by omega) q hq
        simpa [Nat.add_right_comm, Nat.add_assoc] using this

theorem fieldSpansFrom_join (t cs : List Char) (i s : Nat) (ht : t.drop i = cs) (hs : s ≤ i) :
    [sep].intercalate ((fieldSpansFrom sep cs i s).map fun sp => (t.drop sp.start).take (sp.stop - sp.start)) =
      t.drop s := by
  induction cs generalizing i s with
  | nil =>
    have hlen : t.length ≤ i := by simpa using ht
    simp only [fieldSpansFrom, List.map_cons, List.map_nil, List.intercalate_singleton]
    exact List.take_of_length_le (by simp; omega)
  | cons c rest ih =>
    unfold fieldSpansFrom
    -- the text from `s` is the field up to `i`, then the character at `i`, then the rest
    have hsplit : t.drop s = (t.drop s).take (i - s) ++ c :: t.drop (i + 1) := by
      have hdrop : t.drop i = c :: t.drop (i + 1) := by
        rw [ht, ← List.drop_drop, ht, List.drop_one, List.tail_cons]
      have hskip : (t.drop s).drop (i - s) = t.drop i := by
        rw [List.drop_drop]
        congr 1
        omega
      rw [← hdrop, ← hskip, List.take_append_drop]
    have hrest : t.drop (i + 1) = rest := by rw [← List.drop_drop, ht, List.drop_one, List.tail_cons]
    by_cases hc : c = sep
    · obtain ⟨stop, rest', h, -⟩ := fieldSpansFrom_open sep rest (i + 1) (i + 1)
      have ih' := ih (i + 1) (i + 1) hrest le_rfl
      simp only [hc, beq_self_eq_true, if_true]
      rw [h, List.map_cons] at ih'
      rw [h, List.map_cons, List.map_cons, List.intercalate_cons_cons, ih']
      conv_rhs => rw [hsplit, hc]
      simp
    · simp only [beq_false_of_ne hc, Bool.false_eq_true, if_false]
      exact ih (i + 1) s hrest (by omega)

end Fields

theorem elementSpans_field (sep : Char) (cs : List Char) :
    elementSpans .field sep cs = if cs.isEmpty then [] else fieldSpansFrom sep cs 0 0 := rfl

theorem fieldSpans_spec (sep : Char) (cs : List Char) :
    IsFieldSpans sep cs (elementSpans .field sep cs) := by
  rw [elementSpans_field]
  cases cs with
  | nil =>
    exact { eq_nil_iff := by simp, first := by simp, last := by simp, cut := by simp,
            ordered := by simp, covered_iff := by simp }
  | cons c rest =>
    obtain ⟨stop, rest', h, -⟩ := fieldSpansFrom_open sep (c :: rest) 0 0
    simp only [List.isEmpty_cons, Bool.false_eq_true, if_false]
    exact {
      eq_nil_iff := by simp [h]
      first := by simp [h]
      last := fun sp hsp => by simpa using fieldSpansFrom_last sep (c :: rest) 0 0 sp hsp
      cut := fieldSpansFrom_cut sep (c :: rest) 0 0
      ordered := fun sp hsp => (fieldSpansFrom_bounds sep (c :: rest) 0 0 le_rfl sp hsp).2.1
      covered_iff := fun p hp => by
        simpa using fieldSpansFrom_covered sep (c :: rest) 0 0 le_rfl p hp }

theorem join_fields (r : Record) (sep : Char) :
    [sep].intercalate ((r.spans .field sep).map fun sp => (r.slice sp).toList) = r.text.toList := by
  simp only [Record.spans, Record.slice, String.toList_ofList, elementSpans_field]
  cases h : r.text.toList with
  | nil => simp
  | cons c rest =>
    simpa using fieldSpansFrom_join sep (c :: rest) (c :: rest) 0 0 rfl le_rfl

/-! ## The answers of a record -/

namespace Record

theorem element_eq (r : Record) (kind : Element) (sep : Char) (i : Int) :
    r.element kind sep i =
      if 1 ≤ resolve i (r.spans kind sep).length then
        ((r.spans kind sep).map r.slice).getD (resolve i (r.spans kind sep).length - 1).toNat ""
      else "" := by
  unfold element elementSpan? spanAt?
  by_cases h : resolve i (r.spans kind sep).length < 1
  · simp [h]
  · rw [if_neg h, if_pos (by omega), List.getD_eq_getElem?_getD, List.getElem?_map]
    rcases (r.spans kind sep)[(resolve i (r.spans kind sep).length - 1).toNat]? with _ | sp <;> rfl

/-- Elements `a` through `b` are the text from the start of element `max (resolve a n) 1` to
the end of element `n` when `b` is 0 and of element `min (resolve b n) n` otherwise,
separators included; empty when that range is. -/
theorem elements_eq (r : Record) (kind : Element) (sep : Char) (a b : Int) :
    r.elements kind sep (Range.span a b) =
      let S := r.spans kind sep
      let f := max (resolve a S.length) 1
      let l := if b = 0 then (S.length : Int) else min (resolve b S.length) S.length
      if f ≤ l then r.slice ⟨(S.getD (f - 1).toNat ⟨0, 0⟩).start, (S.getD (l - 1).toNat ⟨0, 0⟩).stop⟩
      else "" := by
  unfold elements elementBounds? boundsAmong?
  simp only [Range.span, beq_iff_eq]
  generalize r.spans kind sep = S
  obtain ⟨f, hf⟩ : ∃ f, max (resolve a S.length) 1 = f := ⟨_, rfl⟩
  obtain ⟨l, hl⟩ : ∃ l, (if b = 0 then (S.length : Int) else min (resolve b S.length) S.length) = l :=
    ⟨_, rfl⟩
  simp only [hf, hl]
  have hf1 : 1 ≤ f := by rw [← hf]; omega
  have hln : l ≤ S.length := by
    rw [← hl]
    split <;> omega
  by_cases hfl : f ≤ l
  · -- both ends are elements, so both lookups succeed
    have hi : (f - 1).toNat < S.length := by omega
    have hj : (l - 1).toNat < S.length := by omega
    rw [if_neg (by simp; omega), List.getElem?_eq_getElem hi, List.getElem?_eq_getElem hj, if_pos hfl,
      List.getD_eq_getElem?_getD, List.getD_eq_getElem?_getD, List.getElem?_eq_getElem hi,
      List.getElem?_eq_getElem hj]
    rfl
  · rw [if_pos (by simp; omega), if_neg hfl]

/-- Every view of a record is its reference decomposition: the word spans are the maximal
runs of non-separators (a blank separator standing for every blank), the field spans the
pieces cut at every separator, which joined with it give back the text; the count is the
number of spans, element `i` the text of span `resolve i n` (empty outside `1..n`), and a
range of elements the text from the start of its first element to the end of its last. -/
theorem views_reference (r : Record) (sep : Char) :
    IsWordSpans (wordSep sep) r.text.toList (r.spans .word sep) ∧
    IsFieldSpans sep r.text.toList (r.spans .field sep) ∧
    [sep].intercalate ((r.spans .field sep).map fun sp => (r.slice sp).toList) = r.text.toList ∧
    ∀ kind : Element,
      r.count kind sep = (r.spans kind sep).length ∧
      (∀ i, r.element kind sep i =
        if 1 ≤ resolve i (r.spans kind sep).length then
          ((r.spans kind sep).map r.slice).getD (resolve i (r.spans kind sep).length - 1).toNat ""
        else "") ∧
      ∀ a b, r.elements kind sep (Range.span a b) =
        let S := r.spans kind sep
        let f := max (resolve a S.length) 1
        let l := if b = 0 then (S.length : Int) else min (resolve b S.length) S.length
        if f ≤ l then
          r.slice ⟨(S.getD (f - 1).toNat ⟨0, 0⟩).start, (S.getD (l - 1).toNat ⟨0, 0⟩).stop⟩
        else "" :=
  ⟨wordSpans_spec sep r.text.toList, fieldSpans_spec sep r.text.toList, join_fields r sep,
    fun kind => ⟨rfl, element_eq r kind sep, elements_eq r kind sep⟩⟩

end Record

end ColumnSpec
