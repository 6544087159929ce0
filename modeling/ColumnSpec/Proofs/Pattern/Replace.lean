import Mathlib
import ColumnSpec.Builtin.Call
/-!
# Replacement templates

Every lawful regex library reads the translated `rreplace` template as its expansion
(`interpolate_translate`), and this project's matcher is lawful.
-/
namespace ColumnSpec.Pattern

/-- The expansion of a template for one match: `$&` is the whole match, a dollar sign and a
maximal run of digits the group of that number (empty when it took no part or does not
exist), `$$` a dollar sign; everything else, a dollar sign before anything else included,
stands for itself. -/
def expand (text : Array Char) (caps : Array (Option Nat)) : List Char → List Char
  | [] => []
  | c :: rest =>
    if c = '$' then
      match rest with
      | [] => ['$']
      | d :: r =>
        if d = '&' then group text caps 0 ++ expand text caps r
        else if d.isDigit then
          group text caps (Decimal.digitsValue (d :: r.takeWhile Char.isDigit)) ++
            expand text caps (r.dropWhile Char.isDigit)
        else if d = '$' then '$' :: expand text caps r
        else '$' :: expand text caps (d :: r)
    else c :: expand text caps rest
termination_by cs => cs.length
decreasing_by
  all_goals first
    | exact Nat.lt_succ_self _
    | exact Nat.lt_succ_of_lt (Nat.lt_succ_self _)
    | exact Nat.lt_succ_of_lt (Nat.lt_succ_of_le (Text.length_dropWhile_le _ _))

section Expand

variable (text : Array Char) (caps : Array (Option Nat))

theorem expand_nil : expand text caps [] = [] := by
  rw [expand.eq_def]

theorem expand_cons_of_ne {c : Char} (hc : c ≠ '$') (rest : List Char) :
    expand text caps (c :: rest) = c :: expand text caps rest := by
  rw [expand.eq_def]
  simp only [if_neg hc]

theorem expand_dollar_nil : expand text caps ['$'] = ['$'] := by
  rw [expand.eq_def]
  simp only [if_true]

theorem expand_dollar_amp (r : List Char) :
    expand text caps ('$' :: '&' :: r) = group text caps 0 ++ expand text caps r := by
  rw [expand.eq_def]
  simp only [if_true]

theorem expand_dollar_digit {d : Char} (hd : d.isDigit = true) (r : List Char) :
    expand text caps ('$' :: d :: r) =
      group text caps (Decimal.digitsValue (d :: r.takeWhile Char.isDigit)) ++
        expand text caps (r.dropWhile Char.isDigit) := by
  have h : d ≠ '&' := by
    rintro rfl
    cases hd
  rw [expand.eq_def]
  simp only [if_true, if_neg h, hd]

theorem expand_dollar_dollar (r : List Char) :
    expand text caps ('$' :: '$' :: r) = '$' :: expand text caps r := by
  rw [expand.eq_def]
  simp only [if_true, if_neg (by decide : ('$' : Char) ≠ '&'),
    (by decide : ('$' : Char).isDigit = false), Bool.false_eq_true, if_false]

theorem expand_dollar_other {d : Char} (ha : d ≠ '&') (hd : d.isDigit = false) (hs : d ≠ '$')
    (r : List Char) : expand text caps ('$' :: d :: r) = '$' :: expand text caps (d :: r) := by
  rw [expand.eq_def]
  simp only [if_true, if_neg ha, hd, Bool.false_eq_true, if_false, if_neg hs]

end Expand

/-! ## The library's reading of a translated template -/

theorem group_of_size_le {text : Array Char} {caps : Array (Option Nat)} {k : Nat}
    (h : caps.size ≤ 2 * k) : group text caps k = [] := by
  have hs : caps[2 * k]? = none := Array.getElem?_eq_none (by omega)
  rw [group, hs]
  rfl

section Lawful

variable {L : Library} {text : Array Char} {caps : Array (Option Nat)}

theorem Library.Lawful.interpolate_digits (hL : L.Lawful) (hcaps : caps.size ≤ 2 * 2 ^ 64)
    {ds : List Char} (hne : ds ≠ []) (hds : ∀ c ∈ ds, c.isDigit = true) (rest : List Char) :
    L.interpolate text caps ('$' :: '{' :: (ds ++ '}' :: rest)) =
      group text caps (Decimal.digitsValue ds) ++ L.interpolate text caps rest := by
  rw [hL.interpolate_index text caps ds rest hne hds]
  by_cases hv : Decimal.digitsValue ds < Nat.pow 2 64
  · rw [if_pos hv]
  · have h64 : 2 ^ 64 ≤ Decimal.digitsValue ds := by
      rw [← Nat.pow_eq]
      omega
    rw [if_neg hv, group_of_size_le (by omega)]

/-- The library reads a translated template as the expansion of the template, for every match
with the slots of at most 2^64 groups. A dollar sign the translation left alone would become a
group reference, so this holds only because every dollar sign is rewritten. -/
theorem interpolate_translate (hL : L.Lawful) (hcaps : caps.size ≤ 2 * 2 ^ 64) (tpl : List Char) :
    L.interpolate text caps (translate tpl) = expand text caps tpl := by
  -- one case for each way the translation rewrites the front of the template
  fun_induction translate tpl with
  | case1 => rw [hL.interpolate_nil, expand_nil]
  | case2 => rw [hL.interpolate_dollar, hL.interpolate_nil, expand_dollar_nil]
  | case3 r ih =>
    have hzero : ∀ c ∈ ['0'], c.isDigit = true := fun c hc => by
      rw [List.mem_singleton.mp hc]
      rfl
    show L.interpolate text caps ('$' :: '{' :: (['0'] ++ '}' :: translate r)) = _
    rw [hL.interpolate_digits hcaps (List.cons_ne_nil _ _) hzero, ih, expand_dollar_amp]
    rfl
  | case4 d r _ hd ih =>
    have hall : ∀ c ∈ d :: r.takeWhile Char.isDigit, c.isDigit = true := by
      intro c hc
      rcases List.mem_cons.mp hc with rfl | hc
      · exact hd
      · exact List.all_eq_true.mp List.all_takeWhile c hc
    show L.interpolate text caps
      ('$' :: '{' :: ((d :: r.takeWhile Char.isDigit) ++ '}' :: translate (r.dropWhile Char.isDigit))) = _
    rw [hL.interpolate_digits hcaps (List.cons_ne_nil _ _) hall, ih, expand_dollar_digit _ _ hd]
  | case5 r _ _ ih => rw [hL.interpolate_dollar, ih, expand_dollar_dollar]
  | case6 d r ha hd hs ih =>
    rw [hL.interpolate_dollar, ih, expand_dollar_other _ _ ha (by simpa using hd) hs]
  | case7 c rest hc ih => rw [hL.interpolate_char _ _ _ _ hc, ih, expand_cons_of_ne _ _ hc]

end Lawful

/-! ## This project's matcher keeps the library's promises -/

section Interpolate

variable (text : Array Char) (caps : Array (Option Nat)) (index : List Char → Option Nat)

theorem interpolate_nil : interpolate text caps index [] = [] := by
  rw [interpolate.eq_def]

theorem interpolate_cons_of_ne {c : Char} (hc : c ≠ '$') (rest : List Char) :
    interpolate text caps index (c :: rest) = c :: interpolate text caps index rest := by
  rw [interpolate.eq_def]
  simp only [if_neg hc]

theorem interpolate_dollar_dollar (rest : List Char) :
    interpolate text caps index ('$' :: '$' :: rest) = '$' :: interpolate text caps index rest := by
  rw [interpolate.eq_def]
  simp only [if_true]

theorem interpolate_braced {r name after : List Char} (h : braced? r = some (name, after)) :
    interpolate text caps index ('$' :: '{' :: r) =
      refText text caps index name ++ interpolate text caps index after := by
  rw [interpolate.eq_def]
  simp only [if_true, if_neg (by decide : ('{' : Char) ≠ '$')]
  split
  · next h' => rw [h] at h'; cases h'; rfl
  · next h' => rw [h] at h'; cases h'

end Interpolate

theorem braced?_digits {ds : List Char} (hds : ∀ c ∈ ds, c.isDigit = true) (rest : List Char) :
    braced? (ds ++ '}' :: rest) = some (ds, rest) := by
  induction ds with
  | nil => rfl
  | cons c ds ih =>
    have hc : c ≠ '}' := by
      rintro rfl
      cases hds '}' List.mem_cons_self
    rw [List.cons_append, braced?, if_neg hc,
      ih fun c' h => hds c' (List.mem_cons_of_mem c h)]
    rfl

theorem refText_digits (text : Array Char) (caps : Array (Option Nat)) {ds : List Char}
    (hne : ds ≠ []) (hds : ∀ c ∈ ds, c.isDigit = true) :
    refText text caps (fun _ => none) ds =
      if Decimal.digitsValue ds < Nat.pow 2 64 then group text caps (Decimal.digitsValue ds)
      else [] := by
  obtain ⟨d, ds', rfl⟩ := List.exists_cons_of_ne_nil hne
  have hplus : (d :: ds').head? ≠ some '+' := by
    rintro h
    cases h
    cases hds '+' List.mem_cons_self
  have hall : (d :: ds').all Char.isDigit = true := List.all_eq_true.mpr hds
  unfold refText readIndex?
  simp only [if_neg hplus, hall, List.isEmpty_cons, Bool.not_false, Bool.true_and, Option.or_none]
  by_cases hv : Decimal.digitsValue (d :: ds') < Nat.pow 2 64
  · simp [hv]
  · simp [hv]

theorem matches_go_limit (re : Compiled) (text : Array Char) (fuel : Nat) :
    ∀ (start : Nat) (lastEnd : Option Nat) (k : Nat),
      Compiled.matches.go re text fuel start lastEnd (some k) =
        (Compiled.matches.go re text fuel start lastEnd none).take k := by
  induction fuel with
  | zero => intro _ _ _; rw [Compiled.matches.go, Compiled.matches.go, List.take_nil]
  | succ fuel ih =>
    intro start lastEnd k
    cases k with
    | zero => rw [Compiled.matches.go, List.take_zero]; rfl
    | succ k =>
      have hk : (some (k + 1) == some 0) = false := by simp
      have hnone : ((none : Option Nat) == some 0) = false := rfl
      rw [Compiled.matches.go, Compiled.matches.go]
      dsimp only
      rw [hk, hnone]
      simp only [Bool.false_eq_true, if_false]
      -- both runs look for the same next match
      split
      · rw [Option.map_some, Option.map_none, Nat.add_sub_cancel, List.take_succ_cons, ih]
      · rw [List.take_nil]

theorem matches_limit (re : Compiled) (text : Array Char) (k : Nat) :
    re.matches text (some k) = (re.matches text none).take k :=
  matches_go_limit re text _ 0 none k

theorem ofList_extract_zero (text : String) :
    String.ofList (text.toList.toArray.extract 0 text.toList.toArray.size).toList = text := by
  simp

theorem Library.machine_lawful : Library.machine.Lawful where
  replacen_eq src icase text limit tpl := by
    simp only [Library.machine]
    rcases compile src icase with e | re
    · -- a source that does not compile has no matches and leaves the text as it is
      have hnone : (if limit = 0 then ([] : List (Array (Option Nat))) else [].take limit) = [] := by
        split <;> simp
      rw [hnone, splice, ofList_extract_zero]
    · simp only [Compiled.replacen]
      by_cases hl : limit = 0
      · simp [hl]
      · simp [hl, matches_limit]
  interpolate_nil cs m := Pattern.interpolate_nil cs m _
  interpolate_char cs m c rest hc := Pattern.interpolate_cons_of_ne cs m _ hc rest
  interpolate_dollar cs m rest := Pattern.interpolate_dollar_dollar cs m _ rest
  interpolate_index cs m ds rest hne hds := by
    show Pattern.interpolate cs m _ _ = _ ++ Pattern.interpolate cs m _ _
    rw [Pattern.interpolate_braced cs m _ (braced?_digits hds rest), refText_digits cs m hne hds]

/-! ## Replacing -/

theorem splice_congr {cs : Array Char} {rep rep' : Array (Option Nat) → List Char} :
    ∀ {ms : List (Array (Option Nat))}, (∀ m ∈ ms, rep m = rep' m) →
      ∀ last, splice cs rep ms last = splice cs rep' ms last
  | [], _, _ => rfl
  | m :: ms, h, last => by
    rw [splice, splice, h m List.mem_cons_self,
      splice_congr (fun m' hm => h m' (List.mem_cons_of_mem m hm))]

theorem options_none : Builtin.MatchOptions.parse "rreplace" "" = .ok {} := by
  cbv

theorem options_firstOnly :
    Builtin.MatchOptions.parse "rreplace" "first_only" = .ok { firstOnly := true } := by
  cbv

theorem callWith_rreplace (L : Builtin.Libraries) (text pat template : Value)
    (hvalid : L.regex.valid pat.text false = true) :
    Builtin.callWith L "rreplace" [text, pat, template] = some (.ok (.str
      (L.regex.replacen pat.text false text.text 0 (String.ofList (translate template.text.toList))))) ∧
    Builtin.callWith L "rreplace" [text, pat, template, .str "first_only"] = some (.ok (.str
      (L.regex.replacen pat.text false text.text 1 (String.ofList (translate template.text.toList))))) := by
  constructor
  · simp [Builtin.callWith, Builtin.arity, Builtin.optional, Builtin.arg, Builtin.checkPattern,
      options_none, bind, Except.bind, pure, Except.pure, hvalid]
  · have hopt : (Value.str "first_only").text = "first_only" := rfl
    simp [Builtin.callWith, Builtin.arity, Builtin.optional, Builtin.arg, Builtin.checkPattern,
      hopt, options_firstOnly, bind, Except.bind, pure, Except.pure, hvalid]

/-- `rreplace` replaces each match the regex library reports, or only the first one under
`first_only`, by the expansion of the template for that match, and keeps the text between the
matches: for every library that keeps its documented promises, every source it reads and every
subject whose matches have the slots of at most 2^64 groups. -/
theorem replace_expands_template {L : Builtin.Libraries} (hL : L.regex.Lawful)
    (text pat template : Value) (hvalid : L.regex.valid pat.text false = true)
    (hcaps : ∀ m ∈ L.regex.captures pat.text false text.text, m.size ≤ 2 * 2 ^ 64) :
    Builtin.callWith L "rreplace" [text, pat, template] = some (.ok (.str (String.ofList
      (splice text.text.toList.toArray
        (fun m => expand text.text.toList.toArray m template.text.toList)
        (L.regex.captures pat.text false text.text) 0)))) ∧
    Builtin.callWith L "rreplace" [text, pat, template, .str "first_only"] = some (.ok (.str
      (String.ofList (splice text.text.toList.toArray
        (fun m => expand text.text.toList.toArray m template.text.toList)
        ((L.regex.captures pat.text false text.text).take 1) 0)))) := by
  obtain ⟨hall, hfirst⟩ := callWith_rreplace L text pat template hvalid
  -- the library reads the translated template as the expansion, match by match
  have hread : ∀ ms : List (Array (Option Nat)), (∀ m ∈ ms, m.size ≤ 2 * 2 ^ 64) →
      splice text.text.toList.toArray (fun m => L.regex.interpolate text.text.toList.toArray m
        (String.ofList (translate template.text.toList)).toList) ms 0 =
      splice text.text.toList.toArray
        (fun m => expand text.text.toList.toArray m template.text.toList) ms 0 := by
    intro ms hms
    refine splice_congr (fun m hm => ?_) 0
    rw [String.toList_ofList]
    exact interpolate_translate hL (hms m hm) _
  rw [hall, hfirst, hL.replacen_eq, hL.replacen_eq, if_pos rfl, if_neg Nat.one_ne_zero,
    hread _ hcaps, hread _ fun m hm => hcaps m (List.mem_of_mem_take hm)]
  exact ⟨rfl, rfl⟩

/-- The pattern `b` in `ab` replaced by `[$&]` through this project's matcher: `a[b]`, with
or without `first_only`. -/
theorem replace_expands_template_b :
    Library.machine.Lawful ∧ Library.machine.valid "b" false = true ∧
    (∀ m ∈ Library.machine.captures "b" false "ab", m.size ≤ 2 * 2 ^ 64) ∧
    Builtin.call? "rreplace" [.str "ab", .str "b", .str "[$&]"] = some (.ok (.str "a[b]")) ∧
    Builtin.call? "rreplace" [.str "ab", .str "b", .str "[$&]", .str "first_only"] =
      some (.ok (.str "a[b]")) := by
  have hvalid : Library.machine.valid "b" false = true := by cbv
  have hcaps : ∀ m ∈ Library.machine.captures "b" false "ab", m.size ≤ 2 * 2 ^ 64 := by
    have h : Library.machine.captures "b" false "ab" = [#[some 1, some 2]] := by cbv
    rw [h]
    intro m hm
    rw [List.mem_singleton.mp hm]
    decide
  have h := replace_expands_template (L := Builtin.Libraries.reference) Library.machine_lawful
    (.str "ab") (.str "b") (.str "[$&]") hvalid hcaps
  refine ⟨Library.machine_lawful, hvalid, hcaps, ?_, ?_⟩
  · show Builtin.callWith Builtin.Libraries.reference _ _ = _
    rw [h.1]
    cbv
  · show Builtin.callWith Builtin.Libraries.reference _ _ = _
    rw [h.2]
    cbv

end ColumnSpec.Pattern
