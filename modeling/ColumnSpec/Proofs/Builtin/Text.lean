import Mathlib
import ColumnSpec.Builtin.Call
/-!
# Fitting and finding text

Fitted text has exactly the asked width (`fitChars_fitted`, `justify_fits`); the `includes`
family asks a lawful substring searcher for one needle or for every one (`containment`).
-/
namespace ColumnSpec

namespace Text

variable {cs : List Char} {w : Nat} {pad : Char}

theorem fitChars_length_self (align : Align) : fitChars cs cs.length align pad = cs := by
  cases align <;> simp [fitChars]

theorem fitChars_left_of_le (h : cs.length ≤ w) :
    fitChars cs w .left pad = cs ++ List.replicate (w - cs.length) pad := by
  rcases Nat.lt_or_eq_of_le h with hlt | rfl
  · simp [fitChars, Nat.not_le.mpr hlt]
  · simp [fitChars_length_self]

theorem fitChars_right_of_le (h : cs.length ≤ w) :
    fitChars cs w .right pad = List.replicate (w - cs.length) pad ++ cs := by
  rcases Nat.lt_or_eq_of_le h with hlt | rfl
  · simp [fitChars, Nat.not_le.mpr hlt]
  · simp [fitChars_length_self]

theorem fitChars_center_of_le (h : cs.length ≤ w) :
    fitChars cs w .center pad = List.replicate ((w - cs.length) / 2) pad ++ cs ++
      List.replicate ((w - cs.length + 1) / 2) pad := by
  rcases Nat.lt_or_eq_of_le h with hlt | rfl
  · have hafter : w - cs.length - (w - cs.length) / 2 = (w - cs.length + 1) / 2 := by omega
    simp [fitChars, Nat.not_le.mpr hlt, hafter]
  · simp [fitChars_length_self]

/-- What fitting `cs` to `w` characters with `pad` must give: exactly `w` characters; `cs`
padded on the right (left alignment), on the left (right alignment) or with the smaller half
on the left (centring) when it is no longer than `w`; its first `w` characters, its last
ones, or those from offset `(|cs| - w) / 2` when it is longer. -/
def Fitted (cs : List Char) (w : Nat) (pad : Char) : Align → List Char → Prop
  | .left, r => r.length = w ∧
    (cs.length ≤ w → r = cs ++ List.replicate (w - cs.length) pad) ∧ (w < cs.length → r = cs.take w)
  | .right, r => r.length = w ∧
    (cs.length ≤ w → r = List.replicate (w - cs.length) pad ++ cs) ∧
    (w < cs.length → r = cs.drop (cs.length - w))
  | .center, r => r.length = w ∧
    (cs.length ≤ w → r = List.replicate ((w - cs.length) / 2) pad ++ cs ++
      List.replicate ((w - cs.length + 1) / 2) pad) ∧
    (w < cs.length → r = (cs.drop ((cs.length - w) / 2)).take w)

theorem fitChars_fitted (cs : List Char) (w : Nat) (align : Align) (pad : Char) :
    Fitted cs w pad align (fitChars cs w align pad) := by
  have hlen := length_fitChars cs w align pad
  -- a longer text is cut at the offset of its alignment
  cases align with
  | left => exact ⟨hlen, fitChars_left_of_le, fun h => by simp [fitChars, Nat.le_of_lt h]⟩
  | right =>
    refine ⟨hlen, fitChars_right_of_le, fun h => ?_⟩
    simp [fitChars, Nat.le_of_lt h, List.take_of_length_le, Nat.sub_sub_self (Nat.le_of_lt h)]
  | center => exact ⟨hlen, fitChars_center_of_le, fun h => by simp [fitChars, Nat.le_of_lt h]⟩

end Text

namespace Builtin

theorem justify_eq (align : Text.Align) (s : List Char) (n : Int) :
    justify align s n =
      let width := if 0 ≤ n then n else n + s.length + 1
      if width ≤ 0 then "" else String.ofList (Text.fitChars s width.toNat align ' ') := by
  by_cases hn : 0 ≤ n
  · simp [justify, hn, Int.not_lt.mpr hn]
  · simp [justify, hn, Int.not_le.mp hn]

theorem call_justify (v : Value) (n : Int) :
    call? "left" [v, .int n] = some (.ok (.str (justify .left v.text.toList n))) ∧
    call? "right" [v, .int n] = some (.ok (.str (justify .right v.text.toList n))) ∧
    call? "center" [v, .int n] = some (.ok (.str (justify .center v.text.toList n))) ∧
    call? "centre" [v, .int n] = some (.ok (.str (justify .center v.text.toList n))) :=
  ⟨rfl, rfl, rfl, rfl⟩

/-- The alignment functions fit the text of their first argument with blanks to the width
their second argument gives, a negative width counting back from one past the length, and
give nothing for a width of zero or less; fitting pads or cuts to exactly that width. -/
theorem justify_fits :
    (∀ cs w align pad, Text.Fitted cs w pad align (Text.fitChars cs w align pad)) ∧
    ∀ (v : Value) (n : Int),
      call? "left" [v, .int n] = some (.ok (.str (if (if 0 ≤ n then n else n + v.text.length + 1) ≤ 0
        then "" else String.ofList (Text.fitChars v.text.toList
          (if 0 ≤ n then n else n + v.text.length + 1).toNat .left ' ')))) ∧
      call? "right" [v, .int n] = some (.ok (.str (if (if 0 ≤ n then n else n + v.text.length + 1) ≤ 0
        then "" else String.ofList (Text.fitChars v.text.toList
          (if 0 ≤ n then n else n + v.text.length + 1).toNat .right ' ')))) ∧
      call? "center" [v, .int n] = some (.ok (.str (if (if 0 ≤ n then n else n + v.text.length + 1) ≤ 0
        then "" else String.ofList (Text.fitChars v.text.toList
          (if 0 ≤ n then n else n + v.text.length + 1).toNat .center ' ')))) ∧
      call? "centre" [v, .int n] = some (.ok (.str (if (if 0 ≤ n then n else n + v.text.length + 1) ≤ 0
        then "" else String.ofList (Text.fitChars v.text.toList
          (if 0 ≤ n then n else n + v.text.length + 1).toNat .center ' ')))) := by
  refine ⟨Text.fitChars_fitted, fun v n => ?_⟩
  obtain ⟨hl, hr, hc, hc'⟩ := call_justify v n
  simp only [justify_eq, String.length_toList] at hl hr hc hc'
  exact ⟨hl, hr, hc, hc'⟩

/-! ## Containment -/

theorem occurs_iff (needle hay : List Char) : occurs needle hay = true ↔ needle <:+: hay := by
  induction hay with
  | nil => simp [occurs]
  | cons c rest ih =>
    simp only [occurs, Bool.or_eq_true, List.isPrefixOf_iff_prefix, ih]
    exact List.infix_cons_iff.symm

theorem Searcher.scan_lawful : Searcher.scan.Lawful where
  isMatch_iff needles hay := by simp [Searcher.scan, occurs_iff]
  overlapping_sound needles hay i h := by
    simp only [Searcher.scan, List.mem_filterMap, Prod.exists] at h
    obtain ⟨n, j, hmem, hsome⟩ := h
    split at hsome
    · next hocc =>
      cases hsome
      exact ⟨n, (List.mem_zipIdx_iff_getElem?.mp hmem), (occurs_iff _ _).mp hocc⟩
    · cases hsome
  overlapping_complete needles hay i n hi hocc := by
    simp only [Searcher.scan, List.mem_filterMap, Prod.exists]
    refine ⟨n, i, List.mem_zipIdx_iff_getElem?.mpr hi, ?_⟩
    rw [if_pos ((occurs_iff _ _).mpr hocc)]

theorem getElem?_foldl_set (found : List Nat) (seen : List Bool) (j : Nat) :
    (found.foldl (fun seen i => seen.set i true) seen)[j]? =
      seen[j]?.map fun b => b || decide (j ∈ found) := by
  induction found generalizing seen with
  | nil => simp
  | cons i rest ih =>
    rw [List.foldl_cons, ih, List.getElem?_set]
    by_cases hij : i = j
    · subst hij
      by_cases hi : i < seen.length <;> simp [hi]
    · simp [hij, Ne.symm hij]

theorem all_markSeen (k : Nat) (found : List Nat) :
    (markSeen k found).all id = true ↔ ∀ i < k, i ∈ found := by
  have hget : ∀ j, (markSeen k found)[j]? = if j < k then some (decide (j ∈ found)) else none := by
    intro j
    rw [markSeen, getElem?_foldl_set, List.getElem?_replicate]
    split <;> simp
  rw [List.all_eq_true]
  constructor
  · intro h i hi
    have hmem : decide (i ∈ found) ∈ markSeen k found :=
      List.mem_of_getElem? (by rw [hget, if_pos hi])
    simpa using h _ hmem
  · intro h b hb
    obtain ⟨j, hj⟩ := List.mem_iff_getElem?.mp hb
    rw [hget] at hj
    split at hj
    · next hjk =>
      cases hj
      simpa using h j hjk
    · cases hj

theorem all_markSeen_overlapping {S : Searcher} (hS : S.Lawful) (needles : List String)
    (hay : String) : (markSeen needles.length (S.overlapping needles hay)).all id =
      decide (∀ t ∈ needles, t.toList <:+: hay.toList) := by
  rw [Bool.eq_iff_iff, all_markSeen, decide_eq_true_iff]
  constructor
  · intro h t ht
    obtain ⟨i, hi⟩ := List.mem_iff_getElem?.mp ht
    obtain ⟨hlt, -⟩ := List.getElem?_eq_some_iff.mp hi
    obtain ⟨t', ht', hocc⟩ := hS.overlapping_sound needles hay i (h i hlt)
    rw [hi, Option.some.injEq] at ht'
    rwa [ht']
  · intro h i hi
    exact hS.overlapping_complete needles hay i _ (List.getElem?_eq_getElem hi)
      (h _ (List.getElem_mem hi))

theorem mem_eraseDups_texts {t : String} {ns : List Value} :
    t ∈ (ns.map Value.text).eraseDups ↔ ∃ m ∈ ns, m.text = t := by
  simp [List.mem_eraseDups]

theorem includes_needles {S : Searcher} (hS : S.Lawful) (name : String) (hay n : Value)
    (ns : List Value) (all : Bool) :
    includes S name (hay :: n :: ns) all = .ok (.ofBool (if all
      then decide (∀ m ∈ n :: ns, m.text.toList <:+: hay.text.toList)
      else decide (∃ m ∈ n :: ns, m.text.toList <:+: hay.text.toList))) := by
  have hany : S.isMatch ((n :: ns).map Value.text).eraseDups hay.text =
      decide (∃ m ∈ n :: ns, m.text.toList <:+: hay.text.toList) := by
    rw [Bool.eq_iff_iff, hS.isMatch_iff, decide_eq_true_iff]
    constructor
    · rintro ⟨t, ht, hocc⟩
      obtain ⟨m, hm, rfl⟩ := mem_eraseDups_texts.mp ht
      exact ⟨m, hm, hocc⟩
    · rintro ⟨m, hm, hocc⟩
      exact ⟨m.text, mem_eraseDups_texts.mpr ⟨m, hm, rfl⟩, hocc⟩
  have hevery : decide (∀ t ∈ ((n :: ns).map Value.text).eraseDups, t.toList <:+: hay.text.toList) =
      decide (∀ m ∈ n :: ns, m.text.toList <:+: hay.text.toList) := by
    rw [Bool.eq_iff_iff, decide_eq_true_iff, decide_eq_true_iff]
    constructor
    · intro h m hm
      exact h m.text (mem_eraseDups_texts.mpr ⟨m, hm, rfl⟩)
    · intro h t ht
      obtain ⟨m, hm, rfl⟩ := mem_eraseDups_texts.mp ht
      exact h m hm
  cases all with
  | false =>
    simp only [includes, Bool.false_eq_true, if_false, hany]
    rfl
  | true =>
    simp only [includes, if_true, all_markSeen_overlapping hS, hevery]
    rfl

theorem includes_short (S : Searcher) (name : String) {args : List Value} (h : args.length < 2)
    (all : Bool) : includes S name args all = .error (.argumentCount name "at least 2" args.length) := by
  match args, h with
  | [], _ => rfl
  | [_], _ => rfl

/-- `includes` and `includesany` answer 1 exactly when one of their needles is a contiguous
part of the haystack and `includesall` exactly when every one is, whatever duplicate, empty or
nested needles there are, for every searcher that keeps its promises; fewer than two arguments
is an argument-count fault. -/
theorem containment {S : Searcher} (hS : S.Lawful) (R : Pattern.Library) :
    (∀ (hay n : Value) (ns : List Value),
      callWith ⟨S, R⟩ "includes" (hay :: n :: ns) =
        some (.ok (.ofBool (decide (∃ m ∈ n :: ns, m.text.toList <:+: hay.text.toList)))) ∧
      callWith ⟨S, R⟩ "includesany" (hay :: n :: ns) =
        some (.ok (.ofBool (decide (∃ m ∈ n :: ns, m.text.toList <:+: hay.text.toList)))) ∧
      callWith ⟨S, R⟩ "includesall" (hay :: n :: ns) =
        some (.ok (.ofBool (decide (∀ m ∈ n :: ns, m.text.toList <:+: hay.text.toList))))) ∧
    ∀ args : List Value, args.length < 2 →
      callWith ⟨S, R⟩ "includes" args =
        some (.error (.argumentCount "includes" "at least 2" args.length)) ∧
      callWith ⟨S, R⟩ "includesany" args =
        some (.error (.argumentCount "includesany" "at least 2" args.length)) ∧
      callWith ⟨S, R⟩ "includesall" args =
        some (.error (.argumentCount "includesall" "at least 2" args.length)) := by
  refine ⟨fun hay n ns => ?_, fun args h => ?_⟩
  · refine ⟨?_, ?_, ?_⟩
    all_goals
      show some (includes S _ _ _) = _
      rw [includes_needles hS]
      rfl
  · refine ⟨?_, ?_, ?_⟩
    all_goals
      show some (includes S _ _ _) = _
      rw [includes_short S _ h]

/-- Nested needles: `own` and `brown` both occur in `brown fox`, and one argument is too few;
the plain scan keeps the searcher's promises. -/
theorem containment_nested :
    Searcher.scan.Lawful ∧
    call? "includesall" [.str "brown fox", .str "own", .str "brown", .str "own"] =
      some (.ok (.int 1)) ∧
    ([.str "brown fox"] : List Value).length < 2 ∧
    call? "includes" [.str "brown fox"] = some (.error (.argumentCount "includes" "at least 2" 1)) := by
  have h := containment Searcher.scan_lawful Pattern.Library.machine
  refine ⟨Searcher.scan_lawful, ?_, by decide, (h.2 [.str "brown fox"] (by decide)).1⟩
  have hall : decide (∀ m ∈ [Value.str "own", .str "brown", .str "own"],
      m.text.toList <:+: (Value.str "brown fox").text.toList) = true := by
    simp [Value.text]
    decide
  show callWith ⟨Searcher.scan, Pattern.Library.machine⟩ _ _ = _
  rw [(h.1 _ _ _).2.2, hall]
  rfl

end Builtin

end ColumnSpec
