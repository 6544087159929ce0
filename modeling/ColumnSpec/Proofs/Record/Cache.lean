import ColumnSpec.Proofs.Record.Views
/-!
# Queries through the kept views

Main statement: a sequence of record queries, each with its own kind and separator, answers
on one record as each query answers on a fresh record of its text, which is the reference
decomposition of `Record.views_reference`.
-/
namespace ColumnSpec

namespace Record

/-- A query of the record functions: the count, the span of an element, the text of an
element, or the text of elements `a` through `b`, each of a kind and for a separator. -/
inductive Query where
  | count (kind : Element) (sep : Char)
  | span (kind : Element) (sep : Char) (idx : Int)
  | element (kind : Element) (sep : Char) (idx : Int)
  | elements (kind : Element) (sep : Char) (a b : Int)
deriving DecidableEq, Repr

/-- What a query answers. -/
inductive Answer where
  | count (n : Nat)
  | span (sp : Option Span)
  | text (t : String)
deriving DecidableEq, Repr

/-- A query through the kept views, and the record that keeps the view it read. -/
def ask (r : Record) : Query → Answer × Record
  | .count kind sep => let x := r.askCount kind sep; (.count x.1, x.2)
  | .span kind sep idx => let x := r.askElementSpan kind sep idx; (.span x.1, x.2)
  | .element kind sep idx => let x := r.askElement kind sep idx; (.text x.1, x.2)
  | .elements kind sep a b => let x := r.askElements kind sep (Range.span a b); (.text x.1, x.2)

/-- Queries in order on one record, each reading the views the ones before it kept. -/
def askAll (r : Record) : List Query → List Answer
  | [] => []
  | q :: qs => (r.ask q).1 :: (r.ask q).2.askAll qs

/-- The answer read off the spans of the text: element `i` is span `resolve i n` when that
lies in `1..n`, and elements `a` through `b` run from the start of element `max (resolve a n) 1`
to the end of element `n` (when `b` is 0) or `min (resolve b n) n`. -/
def Query.reference (r : Record) : Query → Answer
  | .count kind sep => .count (r.spans kind sep).length
  | .span kind sep idx =>
    let S := r.spans kind sep
    .span (if 1 ≤ resolve idx S.length then S[(resolve idx S.length - 1).toNat]? else none)
  | .element kind sep idx =>
    let S := r.spans kind sep
    .text (if 1 ≤ resolve idx S.length then (S.map r.slice).getD (resolve idx S.length - 1).toNat ""
      else "")
  | .elements kind sep a b =>
    let S := r.spans kind sep
    let f := max (resolve a S.length) 1
    let l := if b = 0 then (S.length : Int) else min (resolve b S.length) S.length
    .text (if f ≤ l then r.slice ⟨(S.getD (f - 1).toNat ⟨0, 0⟩).start, (S.getD (l - 1).toNat ⟨0, 0⟩).stop⟩
      else "")

theorem Query.reference_of_text {r r' : Record} (h : r'.text = r.text) :
    Query.reference r' = Query.reference r := by
  have hs : r'.spans = r.spans := by
    funext kind sep
    simp only [spans, h]
  funext q
  cases q <;> simp only [reference, hs, slice_eq_of_text h]

theorem elementSpan?_eq_getElem? (r : Record) (kind : Element) (sep : Char) (idx : Int) :
    r.elementSpan? kind sep idx =
      if 1 ≤ resolve idx (r.spans kind sep).length then
        (r.spans kind sep)[(resolve idx (r.spans kind sep).length - 1).toNat]?
      else none := by
  unfold elementSpan? spanAt?
  by_cases h : resolve idx (r.spans kind sep).length < 1
  · rw [if_pos h, if_neg (by omega)]
  · rw [if_neg h, if_pos (by omega)]

theorem ask_spec {r : Record} (h : r.Coherent) (q : Query) :
    (r.ask q).1 = q.reference r ∧ (r.ask q).2.text = r.text ∧ (r.ask q).2.Coherent := by
  cases q with
  | count kind sep =>
    obtain ⟨ha, hc⟩ := askCount_spec h kind sep
    exact ⟨by rw [ask, ha]; rfl, text_askCount r kind sep, hc⟩
  | span kind sep idx =>
    obtain ⟨ha, hc⟩ := askElementSpan_spec h kind sep idx
    exact ⟨by rw [ask, ha, elementSpan?_eq_getElem?]; rfl, text_askElementSpan r kind sep idx, hc⟩
  | element kind sep idx =>
    obtain ⟨ha, hc⟩ := askElement_spec h kind sep idx
    exact ⟨by rw [ask, ha, element_eq]; rfl, text_askElement r kind sep idx, hc⟩
  | elements kind sep a b =>
    obtain ⟨ha, hc⟩ := askElements_spec h kind sep (Range.span a b)
    exact ⟨by rw [ask, ha, elements_eq]; rfl, text_askElements r kind sep (Range.span a b), hc⟩

theorem askAll_eq_reference {r : Record} (h : r.Coherent) (qs : List Query) :
    r.askAll qs = qs.map (Query.reference r) := by
  -- coherence and the text carry from each query to the next
  induction qs generalizing r with
  | nil => rfl
  | cons q qs ih =>
    obtain ⟨ha, ht, hc⟩ := ask_spec h q
    rw [askAll, ha, ih hc, Query.reference_of_text ht, List.map_cons]

/-- Queries on one record, alternating kinds and separators in any order, answer as each
query does on a fresh record of the text, and that answer is read off the reference
decomposition: word spans the maximal runs of non-separators, field spans the pieces cut at
every separator, joining back to the text. -/
theorem queries_answer_reference (t : String) (qs : List Query) :
    (ofText t).askAll qs = qs.map (fun q => ((ofText t).ask q).1) ∧
    (ofText t).askAll qs = qs.map (Query.reference (ofText t)) ∧
    ∀ sep, IsWordSpans (wordSep sep) t.toList ((ofText t).spans .word sep) ∧
      IsFieldSpans sep t.toList ((ofText t).spans .field sep) ∧
      [sep].intercalate (((ofText t).spans .field sep).map fun sp => ((ofText t).slice sp).toList) =
        t.toList := by
  have hfresh : ∀ q, ((ofText t).ask q).1 = q.reference (ofText t) := fun q =>
    (ask_spec (ofText_coherent t) q).1
  refine ⟨?_, askAll_eq_reference (ofText_coherent t) qs, fun sep => ?_⟩
  · rw [askAll_eq_reference (ofText_coherent t), List.map_congr_left fun q _ => hfresh q]
  · obtain ⟨hw, hf, hj, -⟩ := views_reference (ofText t) sep
    exact ⟨hw, hf, hj⟩

example :
    (ofText "a,b c").askAll
        [.count .word ' ', .count .field ',', .element .word ',' 1, .element .word ' ' (-1)] =
      [.count 2, .count 2, .text "a", .text "c"] := by
  decide

end Record

end ColumnSpec
