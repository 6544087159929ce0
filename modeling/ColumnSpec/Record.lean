import ColumnSpec.Range
import ColumnSpec.Text.Blank
/-!
# Records

A record is one line of input, viewed as characters, words or fields. Each view is computed
on first use and kept with the separator it was computed for; a query for another
separator computes it again.
-/
namespace ColumnSpec

/-- Words or fields. -/
inductive Element where
  | word
  | field
deriving DecidableEq, Repr

/-- A half-open interval of character positions, from 0. -/
structure Span where
  start : Nat
  stop : Nat
deriving DecidableEq, Repr

/-- The spans of the words of `cs` from position `i`; `open_` is where the current word
started, if one is open. -/
def wordSpansFrom (isSep : Char → Bool) : List Char → Nat → Option Nat → List Span
  | [], i, open_ => match open_ with
    | some s => [⟨s, i⟩]
    | none => []
  | c :: rest, i, open_ =>
    if isSep c then
      match open_ with
      | some s => ⟨s, i⟩ :: wordSpansFrom isSep rest (i + 1) none
      | none => wordSpansFrom isSep rest (i + 1) none
    else wordSpansFrom isSep rest (i + 1) (open_.orElse fun _ => some i)

/-- The spans of the fields of `cs` from position `i`, the current one starting at `s`. -/
def fieldSpansFrom (sep : Char) : List Char → Nat → Nat → List Span
  | [], i, s => [⟨s, i⟩]
  | c :: rest, i, s =>
    if c == sep then ⟨s, i⟩ :: fieldSpansFrom sep rest (i + 1) (i + 1)
    else fieldSpansFrom sep rest (i + 1) s

/-- The spans of the words or fields of a text. -/
def elementSpans (kind : Element) (sep : Char) (cs : List Char) : List Span :=
  match kind with
  | .word => wordSpansFrom (fun c => if sep == ' ' then Text.isBlank c else c == sep) cs 0 none
  | .field => if cs.isEmpty then [] else fieldSpansFrom sep cs 0 0

/-- The spans of one kind of element, kept with the separator they were computed for. -/
structure View where
  sep : Char
  spans : List Span
deriving DecidableEq, Repr

/-- A record: its text, and the word and field views computed so far. -/
structure Record where
  text : String
  words : Option View := none
  fields : Option View := none
deriving DecidableEq, Repr, Inhabited

namespace Record

/-- A record fresh from its text, no view computed. -/
def ofText (t : String) : Record := { text := t }

@[simp] theorem text_ofText (t : String) : (ofText t).text = t := rfl

/-- The characters from position `a` through `b`. -/
def slice (r : Record) (s : Span) : String :=
  String.ofList ((r.text.toList.drop s.start).take (s.stop - s.start))

def length (r : Record) : Nat := r.text.length

/-- Characters `first` through `last`, counted from 1: 0 stands for the start or the end,
a negative position counts from the end and stops at the first character. -/
def fromTo (r : Record) (first last : Int) : String :=
  let slen : Int := r.length
  let first := if first == 0 then 1 else first
  let last := if last == 0 then slen else last
  let first := if first < 0 then max (first + slen + 1) 1 else first
  let last := if last < 0 then max (last + slen + 1) 1 else last
  if slen < first then ""
  else
    let last := min last slen
    if last < first then "" else r.slice ⟨(first - 1).toNat, last.toNat⟩

def range (r : Record) (rg : Range) : String := r.fromTo rg.first rg.last

def spans (r : Record) (kind : Element) (sep : Char) : List Span :=
  elementSpans kind sep r.text.toList

def count (r : Record) (kind : Element) (sep : Char) : Nat := (r.spans kind sep).length

/-- An element position counted from the end when negative. -/
def resolve (idx : Int) (count : Nat) : Int := if idx < 0 then idx + count + 1 else idx

/-- Span `idx` of a list of spans, counted from the end when negative. -/
def spanAt? (spans : List Span) (idx : Int) : Option Span :=
  let i := resolve idx spans.length
  if i < 1 then none else spans[(i - 1).toNat]?

/-- The span from the start of span `first` to the end of span `last`: `first` is raised to
1, `last` of 0 is the last span and otherwise lowered to it. -/
def boundsAmong? (spans : List Span) (rg : Range) : Option Span :=
  let n : Int := spans.length
  let first := max (resolve rg.first spans.length) 1
  let last := if rg.last == 0 then n else min (resolve rg.last spans.length) n
  if n < first || last < first then none
  else
    match spans[(first - 1).toNat]?, spans[(last - 1).toNat]? with
    | some a, some b => some ⟨a.start, b.stop⟩
    | _, _ => none

/-- The span of element `idx`, if there is one. -/
def elementSpan? (r : Record) (kind : Element) (sep : Char) (idx : Int) : Option Span :=
  spanAt? (r.spans kind sep) idx

/-- The span from the start of element `first` to the end of element `last`. -/
def elementBounds? (r : Record) (kind : Element) (sep : Char) (rg : Range) : Option Span :=
  boundsAmong? (r.spans kind sep) rg

/-- The text of elements `first` through `last`, separators between them included. -/
def elements (r : Record) (kind : Element) (sep : Char) (rg : Range) : String :=
  match r.elementBounds? kind sep rg with
  | some s => r.slice s
  | none => ""

/-- The text of one element, empty when there is none. -/
def element (r : Record) (kind : Element) (sep : Char) (idx : Int) : String :=
  match r.elementSpan? kind sep idx with
  | some s => r.slice s
  | none => ""

/-! ## Kept views

The queries the language runs read the spans through `view`, which keeps them in the record.
`Coherent` says every kept view is the one its separator gives; it holds of a fresh record
and every query keeps it, so each query answers as the same query of a fresh record. -/

def kept (r : Record) : Element → Option View
  | .word => r.words
  | .field => r.fields

/-- The record keeping `v` as its view of a kind. -/
def keep (r : Record) : Element → View → Record
  | .word, v => { r with words := some v }
  | .field, v => { r with fields := some v }

/-- The spans for a separator computed from the text, and the record keeping them. -/
def refresh (r : Record) (kind : Element) (sep : Char) : List Span × Record :=
  let spans := elementSpans kind sep r.text.toList
  (spans, r.keep kind ⟨sep, spans⟩)

/-- The spans of the words or fields for a separator: those of the kept view when it was
computed for that separator, else computed afresh and kept in its place. -/
def view (r : Record) (kind : Element) (sep : Char) : List Span × Record :=
  match r.kept kind with
  | some v => if v.sep == sep then (v.spans, r) else r.refresh kind sep
  | none => r.refresh kind sep

/-- The number of words or fields, through the kept view. -/
def askCount (r : Record) (kind : Element) (sep : Char) : Nat × Record :=
  let v := r.view kind sep
  (v.1.length, v.2)

/-- The span of element `idx`, through the kept view. -/
def askElementSpan (r : Record) (kind : Element) (sep : Char) (idx : Int) : Option Span × Record :=
  let v := r.view kind sep
  (spanAt? v.1 idx, v.2)

/-- The text of elements `first` through `last`, through the kept view. -/
def askElements (r : Record) (kind : Element) (sep : Char) (rg : Range) : String × Record :=
  let v := r.view kind sep
  ((boundsAmong? v.1 rg).elim "" v.2.slice, v.2)

/-- The text of one element, through the kept view. -/
def askElement (r : Record) (kind : Element) (sep : Char) (idx : Int) : String × Record :=
  let a := r.askElementSpan kind sep idx
  (a.1.elim "" a.2.slice, a.2)

/-- Every kept view is the one its separator gives. -/
def Coherent (r : Record) : Prop :=
  ∀ kind v, r.kept kind = some v → v.spans = elementSpans kind v.sep r.text.toList

theorem ofText_coherent (t : String) : (ofText t).Coherent := by
  intro kind v h
  cases kind <;> cases h

@[simp] theorem text_keep (r : Record) (kind : Element) (v : View) : (r.keep kind v).text = r.text := by
  cases kind <;> rfl

theorem kept_keep (r : Record) (kind kind' : Element) (v : View) :
    (r.keep kind v).kept kind' = if kind' = kind then some v else r.kept kind' := by
  cases kind <;> cases kind' <;> rfl

@[simp] theorem text_refresh (r : Record) (kind : Element) (sep : Char) :
    (r.refresh kind sep).2.text = r.text :=
  text_keep _ _ _

@[simp] theorem text_view (r : Record) (kind : Element) (sep : Char) :
    (r.view kind sep).2.text = r.text := by
  unfold view
  split
  · split
    · rfl
    · exact text_refresh _ _ _
  · exact text_refresh _ _ _

@[simp] theorem text_askCount (r : Record) (kind : Element) (sep : Char) :
    (r.askCount kind sep).2.text = r.text := text_view _ _ _

@[simp] theorem text_askElementSpan (r : Record) (kind : Element) (sep : Char) (idx : Int) :
    (r.askElementSpan kind sep idx).2.text = r.text := text_view _ _ _

@[simp] theorem text_askElements (r : Record) (kind : Element) (sep : Char) (rg : Range) :
    (r.askElements kind sep rg).2.text = r.text := text_view _ _ _

@[simp] theorem text_askElement (r : Record) (kind : Element) (sep : Char) (idx : Int) :
    (r.askElement kind sep idx).2.text = r.text := text_view _ _ _

theorem refresh_coherent {r : Record} (h : r.Coherent) (kind : Element) (sep : Char) :
    (r.refresh kind sep).2.Coherent := by
  intro kind' v hv
  rw [text_refresh]
  simp only [refresh, kept_keep] at hv
  split at hv
  · -- the view just kept
    cases hv
    subst_vars
    rfl
  · exact h kind' v hv

theorem view_hit {r : Record} {kind : Element} {sep : Char} {v : View}
    (hk : r.kept kind = some v) (hs : v.sep = sep) : r.view kind sep = (v.spans, r) := by
  simp [view, hk, hs]

theorem view_miss {r : Record} {kind : Element} {sep : Char}
    (hk : ∀ v, r.kept kind = some v → v.sep ≠ sep) : r.view kind sep = r.refresh kind sep := by
  unfold view
  cases h : r.kept kind with
  | none => rfl
  | some v => simp [hk v h]

theorem view_spec {r : Record} (h : r.Coherent) (kind : Element) (sep : Char) :
    (r.view kind sep).1 = r.spans kind sep ∧ (r.view kind sep).2.Coherent := by
  by_cases hit : ∃ v, r.kept kind = some v ∧ v.sep = sep
  · -- a hit: the kept spans are those of the separator asked for
    obtain ⟨v, hk, hs⟩ := hit
    rw [view_hit hk hs, ← hs]
    exact ⟨h kind v hk, h⟩
  · rw [view_miss fun v hk hs => hit ⟨v, hk, hs⟩]
    exact ⟨rfl, refresh_coherent h kind sep⟩

theorem slice_eq_of_text {r r' : Record} (h : r'.text = r.text) : r'.slice = r.slice := by
  funext sp
  simp only [slice, h]

section Asks

variable {r : Record} (h : r.Coherent) (kind : Element) (sep : Char)
include h

theorem askCount_spec : (r.askCount kind sep).1 = r.count kind sep ∧
    (r.askCount kind sep).2.Coherent := by
  obtain ⟨hv, hc⟩ := view_spec h kind sep
  exact ⟨congrArg List.length hv, hc⟩

theorem askElementSpan_spec (idx : Int) :
    (r.askElementSpan kind sep idx).1 = r.elementSpan? kind sep idx ∧
      (r.askElementSpan kind sep idx).2.Coherent := by
  obtain ⟨hv, hc⟩ := view_spec h kind sep
  exact ⟨congrArg (spanAt? · idx) hv, hc⟩

theorem askElements_spec (rg : Range) :
    (r.askElements kind sep rg).1 = r.elements kind sep rg ∧
      (r.askElements kind sep rg).2.Coherent := by
  obtain ⟨hv, hc⟩ := view_spec h kind sep
  refine ⟨?_, hc⟩
  -- the slice is taken of the record that kept the view, which has the same text
  simp only [askElements, hv, slice_eq_of_text (text_view r kind sep), elements, elementBounds?]
  cases boundsAmong? (r.spans kind sep) rg <;> rfl

theorem askElement_spec (idx : Int) :
    (r.askElement kind sep idx).1 = r.element kind sep idx ∧
      (r.askElement kind sep idx).2.Coherent := by
  obtain ⟨hv, hc⟩ := askElementSpan_spec h kind sep idx
  refine ⟨?_, hc⟩
  simp only [askElement, hv, slice_eq_of_text (text_askElementSpan r kind sep idx), element]
  cases r.elementSpan? kind sep idx <;> rfl

end Asks

end Record

end ColumnSpec
