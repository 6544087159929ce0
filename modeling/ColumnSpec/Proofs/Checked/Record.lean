import ColumnSpec.Proofs.Checked.Builtin
import ColumnSpec.Proofs.Record.Views
/-!
# The record functions, every step checked

The record functions written on 64-bit words and the record's spans, every failing step
checked. Main statement (`checked_total`): on texts in memory and word arguments every
checked function answers as the function the language runs.
-/

namespace ColumnSpec.Checked

/-! ## Spans laid out in a text -/

/-- Spans laid out in order in a text of `len` characters: none ends before it starts or
past the text, and each starts no earlier than the one before it ends. -/
structure Laid (len : Nat) (spans : List Span) : Prop where
  ordered : ∀ sp ∈ spans, sp.start ≤ sp.stop
  within : ∀ sp ∈ spans, sp.stop ≤ len
  chain : spans.IsChain fun a b => a.stop ≤ b.start

theorem Laid.tail {len : Nat} {a : Span} {spans : List Span} (h : Laid len (a :: spans)) :
    Laid len spans where
  ordered sp hsp := h.ordered sp (List.mem_cons_of_mem a hsp)
  within sp hsp := h.within sp (List.mem_cons_of_mem a hsp)
  chain := h.chain.tail

theorem Laid.start_le_stop {len : Nat} :
    ∀ {spans : List Span} {i j : Nat} {a b : Span}, Laid len spans → spans[i]? = some a →
      spans[j]? = some b → i ≤ j → a.start ≤ b.stop
  | [], _, _, _, _, _, ha, _, _ => by simp at ha
  | c :: rest, 0, 0, a, b, h, ha, hb, _ => by
    simp only [List.getElem?_cons_zero, Option.some.injEq] at ha hb
    subst ha hb
    exact h.ordered c List.mem_cons_self
  | c :: rest, 0, j + 1, a, b, h, ha, hb, _ => by
    simp only [List.getElem?_cons_zero, Option.some.injEq, List.getElem?_cons_succ] at ha hb
    subst ha
    -- the next span sits between the first and the `j`-th of the rest
    obtain ⟨d, rest', rfl⟩ : ∃ d rest', rest = d :: rest' := by
      cases rest with
      | nil => simp at hb
      | cons d rest' => exact ⟨d, rest', rfl⟩
    have hcd : c.stop ≤ d.start := (List.isChain_cons_cons.mp h.chain).1
    have hd : d.start ≤ b.stop := Laid.start_le_stop h.tail rfl hb (Nat.zero_le j)
    have hc : c.start ≤ c.stop := h.ordered c List.mem_cons_self
    omega
  | c :: rest, i + 1, 0, a, b, h, ha, hb, hij => by omega
  | c :: rest, i + 1, j + 1, a, b, h, ha, hb, hij =>
    Laid.start_le_stop h.tail ha hb (by omega)

theorem laid_wordSpans (sep : Char) (cs : List Char) : Laid cs.length (elementSpans .word sep cs) :=
  have h := wordSpans_spec sep cs
  { ordered := fun sp hsp => Nat.le_of_lt (h.nonempty sp hsp)
    within := h.within
    chain := h.apart.imp fun _ _ hab => Nat.le_of_lt hab }

theorem laid_fieldSpans (sep : Char) (cs : List Char) : Laid cs.length (elementSpans .field sep cs) := by
  have h := fieldSpans_spec sep cs
  refine { ordered := h.ordered, within := fun sp hsp => ?_, chain := h.cut.imp fun _ _ hab => by omega }
  rw [elementSpans_field] at hsp
  split at hsp
  · simp at hsp
  · simpa using (fieldSpansFrom_bounds sep cs 0 0 le_rfl sp hsp).2.2

theorem laid_spans (r : Record) (kind : Element) (sep : Char) :
    Laid r.text.toList.length (r.spans kind sep) := by
  cases kind
  · exact laid_wordSpans sep r.text.toList
  · exact laid_fieldSpans sep r.text.toList

theorem length_wordSpansFrom_le (isSep : Char → Bool) :
    ∀ (cs : List Char) (i : Nat) (o : Option Nat), (wordSpansFrom isSep cs i o).length ≤ cs.length + 1
  | [], i, o => by cases o <;> simp [wordSpansFrom]
  | c :: rest, i, o => by
    have ih := length_wordSpansFrom_le isSep rest (i + 1)
    unfold wordSpansFrom
    split
    · cases o with
      | none => simpa using Nat.le_succ_of_le (ih none)
      | some s => simpa using ih none
    · simpa using Nat.le_succ_of_le (ih _)

theorem length_fieldSpansFrom_le (sep : Char) :
    ∀ (cs : List Char) (i s : Nat), (fieldSpansFrom sep cs i s).length ≤ cs.length + 1
  | [], i, s => by simp [fieldSpansFrom]
  | c :: rest, i, s => by
    have ih := length_fieldSpansFrom_le sep rest (i + 1)
    unfold fieldSpansFrom
    split
    · simpa using ih (i + 1)
    · simpa using Nat.le_succ_of_le (ih s)

theorem length_spans_le (r : Record) (kind : Element) (sep : Char) :
    (r.spans kind sep).length ≤ r.text.toList.length + 1 := by
  cases kind
  · exact length_wordSpansFrom_le _ _ 0 none
  · simp only [Record.spans, elementSpans]
    split
    · simp
    · exact length_fieldSpansFrom_le sep _ 0 0

/-! ## Positions -/

/-- A negative position `x` counted back from one past the end of `slen`: `x + slen + 1`,
added left to right. -/
def back (slen x : Int) : Option Int := add x slen >>= (add · 1)

theorem back_eq {slen x : Int} (h0 : 0 ≤ slen) (hs : slen < 2 ^ 62) (lo : -2 ^ 63 ≤ x) (hx : x < 0) :
    back slen x = some (x + slen + 1) := by
  rw [back, add_of_bounds (by omega) (by omega), Option.bind_eq_bind, Option.bind_some,
    add_of_bounds (by omega) (by omega)]

/-- `resolve` checked: the count taken as a word, a negative position counted back from it. -/
def resolve (idx : Int) (count : Nat) : Option Int :=
  if idx < 0 then word count >>= fun n => back n idx else pure idx

theorem resolve_eq {idx : Int} {count : Nat} (hidx : fitsWord idx) (hc : (count : Int) < 2 ^ 62) :
    resolve idx count = some (Record.resolve idx count) := by
  have lo := (fitsWord_iff.mp hidx).1
  unfold resolve Record.resolve
  split
  · rw [word_of_le (by omega), Option.bind_eq_bind, Option.bind_some,
      back_eq (by omega) hc lo (by assumption)]
  · rfl

/-! ## Characters of a record -/

/-- `range` checked: a position of 0 stands for the start or the end, a negative one counts
back from one past the end and is raised to 1; the characters `first - 1 .. last` are cut. -/
def fromTo (r : Record) (first last : Int) : Option String := do
  let cs := r.text.toList
  let slen ← word cs.length
  let first := if first = 0 then 1 else first
  let last := if last = 0 then slen else last
  let first ← if first < 0 then (max · 1) <$> back slen first else pure first
  let last ← if last < 0 then (max · 1) <$> back slen last else pure last
  if slen < first then return ""
  let last := min last slen
  if last < first then return ""
  let i ← sub first 1 >>= index
  let j ← index last
  String.ofList <$> slice cs i j

theorem back_bind {β : Type} {slen x : Int} (K : Int → Option β) (h0 : 0 ≤ slen)
    (hs : slen < 2 ^ 62) (lo : -2 ^ 63 ≤ x) :
    (if x < 0 then ((max · 1) <$> back slen x).bind K else K x) =
      K (if x < 0 then max (x + slen + 1) 1 else x) :=
  bind_ite K fun hx => by rw [back_eq h0 hs lo hx, Option.map_eq_map, Option.map_some]

theorem fromTo_eq {r : Record} {first last : Int} (hr : Addressable r.text.toList)
    (hf : fitsWord first) (hl : fitsWord last) : fromTo r first last = some (r.fromTo first last) := by
  have hn := hr.length_lt
  rw [String.length_toList] at hn
  obtain ⟨flo, fhi⟩ := fitsWord_iff.mp hf
  obtain ⟨llo, lhi⟩ := fitsWord_iff.mp hl
  unfold fromTo Record.fromTo
  dsimp only
  rw [String.length_toList, word_of_le (by omega)]
  simp only [Option.bind_eq_bind, Option.bind_some, Option.pure_def, beq_iff_eq, Record.length]
  generalize hf' : (if first = 0 then 1 else first) = f
  generalize hl' : (if last = 0 then (r.text.length : Int) else last) = l
  have flo' : -2 ^ 63 ≤ f := by split at hf' <;> omega
  have llo' : -2 ^ 63 ≤ l := by split at hl' <;> omega
  rw [back_bind _ (by omega) (by omega) flo', back_bind _ (by omega) (by omega) llo']
  -- the first position is raised to 1, and is past the end or within the text
  have hf0 : f ≠ 0 := by split at hf' <;> omega
  generalize hF : (if f < 0 then max (f + (r.text.length : Int) + 1) 1 else f) = F
  have hF1 : 1 ≤ F := by split at hF <;> omega
  by_cases h1 : (r.text.length : Int) < F
  · simp only [h1, if_true]
  simp only [h1, if_false]
  generalize hL : min (if l < 0 then max (l + (r.text.length : Int) + 1) 1 else l) r.text.length = L
  have hL : L ≤ r.text.length := by rw [← hL]; exact min_le_right _ _
  by_cases h2 : L < F
  · simp only [h2, if_true]
  simp only [h2, if_false]
  -- `first - 1 ≤ last ≤ length`: the cut is in order and within the text
  rw [sub_of_bounds (by omega) (by omega), Option.bind_some, index_of_nonneg (by omega),
    Option.bind_some, index_of_nonneg (by omega), Option.bind_some,
    slice_of_le (by omega) (by rw [String.length_toList]; omega), Option.map_eq_map, Option.map_some]
  rfl

/-! ## Elements -/

theorem ite_bind_some {β γ : Type} {c : Prop} [Decidable c] (a b : β) (K : β → Option γ) :
    (if c then (some a).bind K else (some b).bind K) = K (if c then a else b) := by
  split_ifs <;> rfl

section Elements

variable {r : Record} {kind : Element} {sep : Char}

theorem Addressable.spans_length_lt (hr : Addressable r.text.toList) :
    ((r.spans kind sep).length : Int) < 2 ^ 62 := by
  have := length_spans_le r kind sep
  have := hr.length_lt
  omega

/-- `elementSpan?` checked: `some none` when there is no element `idx`. -/
def elementSpan? (r : Record) (kind : Element) (sep : Char) (idx : Int) : Option (Option Span) := do
  let spans := r.spans kind sep
  let i ← resolve idx spans.length
  if i < 1 then return none
  let k ← index i
  if spans.length < k then return none
  let j ← usub k 1
  some <$> get spans j

theorem elementSpan?_eq (hr : Addressable r.text.toList) {idx : Int} (hidx : fitsWord idx) :
    elementSpan? r kind sep idx = some (r.elementSpan? kind sep idx) := by
  unfold elementSpan? Record.elementSpan? Record.spanAt?
  dsimp only
  rw [resolve_eq hidx hr.spans_length_lt, Option.bind_eq_bind, Option.bind_some]
  generalize Record.resolve idx (r.spans kind sep).length = i
  by_cases h1 : i < 1
  · simp only [h1, if_true, Option.pure_def]
  simp only [h1, if_false]
  rw [index_of_nonneg (by omega), Option.bind_eq_bind, Option.bind_some]
  by_cases h2 : (r.spans kind sep).length < i.toNat
  · -- past the last element the plain lookup finds nothing either
    rw [if_pos h2, List.getElem?_eq_none (by omega)]
    rfl
  · rw [if_neg h2, usub_of_le (by omega), Option.bind_some, get_of_lt (by omega),
      List.getElem?_eq_getElem (by omega)]
    simp only [Option.map_eq_map, Option.map_some]
    congr 3
    omega

theorem mem_spans_of_elementSpan? {idx : Int} {sp : Span} (h : r.elementSpan? kind sep idx = some sp) :
    sp ∈ r.spans kind sep := by
  unfold Record.elementSpan? Record.spanAt? at h
  dsimp only at h
  split at h
  · cases h
  · exact List.mem_of_getElem? h

theorem slice_span_mem (sp : Span) (h : sp ∈ r.spans kind sep) :
    slice r.text.toList sp.start sp.stop = some (r.slice sp).toList := by
  have hl := laid_spans r kind sep
  rw [slice_of_le (hl.ordered sp h) (hl.within sp h), Record.slice, String.toList_ofList]

/-- `word` and `field` checked: the text of the element's span, empty when there is none. -/
def element (r : Record) (kind : Element) (sep : Char) (idx : Int) : Option String := do
  match ← elementSpan? r kind sep idx with
  | some sp => String.ofList <$> slice r.text.toList sp.start sp.stop
  | none => pure ""

theorem element_eq (hr : Addressable r.text.toList) {idx : Int} (hidx : fitsWord idx) :
    element r kind sep idx = some (r.element kind sep idx) := by
  unfold element Record.element
  rw [elementSpan?_eq hr hidx, Option.bind_eq_bind, Option.bind_some]
  rcases h : r.elementSpan? kind sep idx with _ | sp
  · rfl
  · dsimp only
    rw [slice_span_mem sp (mem_spans_of_elementSpan? h), Option.map_eq_map, Option.map_some,
      String.ofList_toList]

/-- `wordstart`, `wordend` and `wordlen` (and the field ones) checked: the position of the
element's first character counted from 1, of its last, or its length, as a word; 0 when there
is no element. -/
def spanNumber (name : String) (found : Option Span) : Option Int := do
  let n ← match found with
    | none => pure 0
    | some sp =>
      if name.endsWith "start" then uadd sp.start 1
      else if name.endsWith "end" then pure sp.stop
      else usub sp.stop sp.start
  word n

theorem spanNumber_eq (hr : Addressable r.text.toList) (name : String) {found : Option Span}
    (hf : ∀ sp ∈ found, sp ∈ r.spans kind sep) :
    spanNumber name found = some (found.elim 0 fun sp =>
      if name.endsWith "start" then sp.start + 1
      else if name.endsWith "end" then sp.stop
      else sp.stop - sp.start : Nat) := by
  have hn := hr.length_lt
  unfold spanNumber
  rcases found with _ | sp
  · rfl
  · have hl := laid_spans r kind sep
    have hsp := hf sp rfl
    have ho := hl.ordered sp hsp
    have hw := hl.within sp hsp
    dsimp only
    split_ifs
    · rw [uadd_of_lt (by omega), Option.bind_eq_bind, Option.bind_some, word_of_le (by omega)]
      rfl
    · rw [Option.pure_def, Option.bind_eq_bind, Option.bind_some, word_of_le (by omega)]
      rfl
    · rw [usub_of_le ho, Option.bind_eq_bind, Option.bind_some, word_of_le (by omega)]
      rfl

/-- `elementBounds?` checked: the count taken as a word, both ends resolved, and the spans
of the first and last elements looked up. -/
def elementBounds? (r : Record) (kind : Element) (sep : Char) (rg : Range) : Option (Option Span) := do
  let spans := r.spans kind sep
  let n ← word spans.length
  let first := max (← resolve rg.first spans.length) 1
  let last ← if rg.last = 0 then pure n else (min · n) <$> resolve rg.last spans.length
  if n < first ∨ last < first then return none
  let a ← index first >>= (usub · 1) >>= get spans
  let b ← index last >>= (usub · 1) >>= get spans
  return some ⟨a.start, b.stop⟩

theorem elementBounds?_eq (hr : Addressable r.text.toList) {rg : Range} (hf : fitsWord rg.first)
    (hl : fitsWord rg.last) : elementBounds? r kind sep rg = some (r.elementBounds? kind sep rg) := by
  have hn : ((r.spans kind sep).length : Int) < 2 ^ 62 := hr.spans_length_lt
  unfold elementBounds? Record.elementBounds? Record.boundsAmong?
  dsimp only
  rw [word_of_le (by omega), Option.bind_eq_bind, Option.bind_some, resolve_eq hf hn,
    Option.bind_eq_bind, Option.bind_some, resolve_eq hl hn]
  simp only [beq_iff_eq, Option.pure_def, Option.map_eq_map, Option.map_some, Option.bind_eq_bind]
  rw [ite_bind_some]
  simp only [Bool.or_eq_true, decide_eq_true_eq]
  generalize hF : max (Record.resolve rg.first (r.spans kind sep).length) 1 = F
  have hF1 : 1 ≤ F := hF ▸ le_max_right _ _
  generalize hL : (if rg.last = 0 then ((r.spans kind sep).length : Int)
    else min (Record.resolve rg.last (r.spans kind sep).length) (r.spans kind sep).length) = L
  have hLn : L ≤ (r.spans kind sep).length := by
    rw [← hL]
    split <;> omega
  by_cases h : ((r.spans kind sep).length : Int) < F ∨ L < F
  · rw [if_pos h, if_pos h]
  rw [if_neg h, if_neg h]
  -- both ends are elements: `1 ≤ first ≤ last ≤ n`
  have e1 : (F - 1).toNat = F.toNat - 1 := by omega
  have e2 : (L - 1).toNat = L.toNat - 1 := by omega
  rw [index_of_nonneg (by omega), Option.bind_some, usub_of_le (by omega), Option.bind_some,
    get_of_lt (by omega), Option.bind_some, index_of_nonneg (by omega), Option.bind_some,
    usub_of_le (by omega), Option.bind_some, get_of_lt (by omega), Option.bind_some, e1, e2,
    List.getElem?_eq_getElem (by omega), List.getElem?_eq_getElem (by omega)]

theorem elementBounds?_within {rg : Range} {sp : Span} (h : r.elementBounds? kind sep rg = some sp) :
    sp.start ≤ sp.stop ∧ sp.stop ≤ r.text.toList.length := by
  have hl := laid_spans r kind sep
  unfold Record.elementBounds? Record.boundsAmong? at h
  dsimp only at h
  generalize max (Record.resolve rg.first (r.spans kind sep).length) 1 = F at h
  generalize (if rg.last == 0 then ((r.spans kind sep).length : Int)
    else min (Record.resolve rg.last (r.spans kind sep).length) (r.spans kind sep).length) = L at h
  split at h
  · cases h
  rename_i hout
  simp only [Bool.or_eq_true, decide_eq_true_eq, not_or, not_lt] at hout
  split at h
  · rename_i a b ha hb
    cases h
    have hij : (F - 1).toNat ≤ (L - 1).toNat := by omega
    dsimp only
    exact ⟨hl.start_le_stop ha hb hij, hl.within b (List.mem_of_getElem? hb)⟩
  · cases h

/-- `words` and `fields` checked: the text from the start of the first element to the end of
the last, empty when there are none. -/
def elements (r : Record) (kind : Element) (sep : Char) (rg : Range) : Option String := do
  match ← elementBounds? r kind sep rg with
  | some sp => String.ofList <$> slice r.text.toList sp.start sp.stop
  | none => pure ""

theorem elements_eq (hr : Addressable r.text.toList) {rg : Range} (hf : fitsWord rg.first)
    (hl : fitsWord rg.last) : elements r kind sep rg = some (r.elements kind sep rg) := by
  unfold elements Record.elements
  rw [elementBounds?_eq hr hf hl, Option.bind_eq_bind, Option.bind_some]
  rcases h : r.elementBounds? kind sep rg with _ | sp
  · rfl
  · obtain ⟨hss, hsl⟩ := elementBounds?_within h
    dsimp only
    rw [slice_of_le hss hsl, Option.map_eq_map, Option.map_some]
    rfl

end Elements

/-! ## Every function answers -/

/-- The text and record functions never take a step without an answer: on texts that fit in
memory and arguments that are signed words, the least and the greatest included, the checked
`substr`, `left`/`right`/`center` and the fit under them, `tobin`/`tobine`, `frombin`, the
grouping of `fmt`, `pos`/`rpos`, `range`, the element lookups behind `word`, `field`,
`wordstart`, `wordend`, `wordlen` (and the field ones), and the range lookups behind `words`
and `fields` all answer, with the answers of the functions the language runs; and an
argument read below the least count that the arity check allows is there. -/
theorem checked_total :
    (∀ (name : String) (args : List Value) (lo hi : Nat), Builtin.arity name args lo hi = .ok () →
      ∀ i < lo, args[i]? = some (Builtin.arg args i)) ∧
    (∀ (s : List Char) (start : Int) (len : Option Int), Addressable s → fitsWord start →
      (∀ l ∈ len, fitsWord l) → substring s start len = some (Builtin.substring s start len)) ∧
    (∀ (cs : List Char) (width : Nat) (align : Text.Align) (pad : Char), Addressable cs →
      fit cs width align pad = some (Text.fitChars cs width align pad)) ∧
    (∀ (align : Text.Align) (s : List Char) (n : Int), Addressable s → fitsWord n →
      justify align s n = some (Builtin.justify align s n)) ∧
    (∀ (name : String) (n bits : Int), toBinary name n bits = some (Builtin.toBinary name n bits)) ∧
    (∀ name s : String, fromBinary name s = some (Builtin.fromBinary name s)) ∧
    (∀ text decimal thousands : String,
      localize text decimal thousands = some (Builtin.localize text decimal thousands)) ∧
    (∀ (last : Bool) (needle hay : List Char), Addressable hay →
      position last needle hay = some (Builtin.position last needle hay)) ∧
    (∀ (r : Record) (first last : Int), Addressable r.text.toList → fitsWord first →
      fitsWord last → fromTo r first last = some (r.fromTo first last)) ∧
    (∀ (r : Record) (kind : Element) (sep : Char) (idx : Int), Addressable r.text.toList →
      fitsWord idx →
        elementSpan? r kind sep idx = some (r.elementSpan? kind sep idx) ∧
        element r kind sep idx = some (r.element kind sep idx) ∧
        ∀ name : String, spanNumber name (r.elementSpan? kind sep idx) =
          some (((r.elementSpan? kind sep idx).elim 0 fun sp =>
            if name.endsWith "start" then sp.start + 1
            else if name.endsWith "end" then sp.stop
            else sp.stop - sp.start : Nat) : Int)) ∧
    (∀ (r : Record) (kind : Element) (sep : Char) (rg : Range), Addressable r.text.toList →
      fitsWord rg.first → fitsWord rg.last →
        elementBounds? r kind sep rg = some (r.elementBounds? kind sep rg) ∧
        elements r kind sep rg = some (r.elements kind sep rg)) := by
  refine ⟨fun _ _ _ _ h _ hlt => getElem?_of_arity h hlt,
    fun _ _ _ hs hstart hlen => substring_eq hs hstart hlen,
    fun cs _ align pad hs => fit_eq align pad (by have := hs.length_lt; omega),
    fun align _ _ hs hn => justify_eq align hs hn, toBinary_eq, fromBinary_eq, localize_eq,
    fun last needle _ hs => position_eq last needle hs,
    fun _ _ _ hr hf hl => fromTo_eq hr hf hl, fun r kind sep idx hr hidx => ?_,
    fun _ _ _ _ hr hf hl => ⟨elementBounds?_eq hr hf hl, elements_eq hr hf hl⟩⟩
  exact ⟨elementSpan?_eq hr hidx, element_eq hr hidx,
    fun name => spanNumber_eq hr name fun _ h => mem_spans_of_elementSpan? h⟩

/-- At the extreme words: a start of `i64::MIN` with a length of `i64::MAX`, and a width, a
range and an element at `i64::MIN`, all answer. -/
theorem checked_total_extremes :
    substring ['a', 'b', 'c'] (-2 ^ 63) (some (2 ^ 63 - 1)) = some (.str "") ∧
    justify .center ['a', 'b', 'c'] (-2 ^ 63) = some "" ∧
    fromTo (.ofText "a b") (-2 ^ 63) (2 ^ 63 - 1) =
      some (Record.fromTo (.ofText "a b") (-2 ^ 63) (2 ^ 63 - 1)) ∧
    element (.ofText "a b") .word ' ' (-2 ^ 63) =
      some (Record.element (.ofText "a b") .word ' ' (-2 ^ 63)) := by
  have habc : Addressable ['a', 'b', 'c'] := by
    unfold Addressable
    decide
  have hab : Addressable (Record.ofText "a b").text.toList := by
    simp [Addressable, wordMax]
  have hmin : fitsWord (-2 ^ 63) = true := by decide
  have hmax : fitsWord (2 ^ 63 - 1) = true := by decide
  refine ⟨?_, ?_, (checked_total.2.2.2.2.2.2.2.2.1 _ _ _ hab hmin hmax),
    (checked_total.2.2.2.2.2.2.2.2.2.1 _ .word ' ' _ hab hmin).2.1⟩
  · rw [(checked_total.2.1 _ _ _ habc hmin fun l hl => by cases hl; exact hmax)]
    rfl
  · rw [(checked_total.2.2.2.1 .center _ _ habc hmin)]
    rfl

end ColumnSpec.Checked
