import Mathlib.Data.List.TakeDrop
import Mathlib.Data.List.TakeWhile
import ColumnSpec.Config
/-!
# The text form of a configuration

`Config.load` reads every usable line in order and reports each unusable one once
(`load_reads`); a configuration written back as text reads back as itself
(`text_form_round_trip`).
-/
namespace ColumnSpec.Config

/-! ## Setting and looking up literals -/

theorem lookup_cons_ite (a b k : String) (l : List (String × String)) :
    ((a, b) :: l).lookup k = if k = a then some b else l.lookup k := by
  by_cases h : k = a
  · subst h
    simp
  · rw [List.lookup_cons, beq_false_of_ne h, if_neg h]

theorem lookup_insertSorted (key value k : String) (l : List (String × String)) :
    (insertSorted key value l).lookup k = if k = key then some value else l.lookup k := by
  induction l with
  | nil => simp [insertSorted]
  | cons e rest ih =>
    obtain ⟨k', v'⟩ := e
    -- `key` replaces the entry of its own name, goes before a greater one, or further on
    by_cases hk : key = k'
    · subst hk
      by_cases h : k = key <;> simp [insertSorted, lookup_cons_ite, h]
    · by_cases hlt : key < k'
      · simp [insertSorted, hk, hlt, lookup_cons_ite]
      · simp only [insertSorted, hk, hlt, if_false, lookup_cons_ite, ih]
        by_cases h : k = key
        · subst h
          simp [hk]
        · simp [h]

theorem get?_eq (c : Config) (k : String) :
    c.get? k = (c.literals.lookup k).filter fun v => !v.isEmpty := by
  unfold get?
  cases c.literals.lookup k with
  | none => rfl
  | some v => by_cases h : v.isEmpty <;> simp [h, Option.filter]

@[simp] theorem lookup_set (c : Config) (key value k : String) :
    (c.set key value).literals.lookup k = if k = key then some value else c.literals.lookup k :=
  lookup_insertSorted key value k c.literals

theorem lookup_foldl_set (es : List (String × String)) (c : Config) (k : String) :
    (es.foldl (fun c e => c.set e.1 e.2) c).literals.lookup k =
      (es.reverse.lookup k).or (c.literals.lookup k) := by
  induction es generalizing c with
  | nil => simp
  | cons e es ih =>
    obtain ⟨a, b⟩ := e
    rw [List.foldl_cons, ih, List.reverse_cons, List.lookup_append, lookup_set, lookup_cons_ite]
    by_cases h : k = a <;> simp [h]

theorem lookup_reverse {m : List (String × String)} (h : (m.map Prod.fst).Nodup) (k : String) :
    m.reverse.lookup k = m.lookup k := by
  induction m with
  | nil => rfl
  | cons e m ih =>
    obtain ⟨a, b⟩ := e
    rw [List.map_cons, List.nodup_cons] at h
    rw [List.reverse_cons, List.lookup_append, ih h.2, lookup_cons_ite]
    by_cases hk : k = a
    · subst hk
      have hnone : m.lookup k = none := by
        rw [List.lookup_eq_none_iff]
        intro p hp
        have : p.1 ≠ k := fun he => h.1 (List.mem_map.mpr ⟨p, hp, he⟩)
        simpa using this.symm
      simp [hnone]
    · simp [hk, lookup_cons_ite]

/-! ## Reading a text line by line -/

/-- What a line holds once its leading blanks are dropped: nothing when it is blank or a
comment, else a literal or the reason it cannot be used. -/
def reading (line : List Char) : Option (Except String (String × String)) :=
  let l := line.dropWhile isSpaceOrTab
  if l.isEmpty || l.head? == some '#' then none else some (literal? l)

/-- The literal a line gives, if it gives one. -/
def literalOf (line : List Char) : Option (String × String) :=
  (reading line).bind Except.toOption

/-- The error line `i` (from 0) is reported with, if it is unusable. -/
def errorOf (line : List Char) (i : Nat) : Option ConfigError :=
  match reading line with
  | some (.error m) => some (.line (i + 1) m)
  | _ => none

theorem readLine_eq (acc : Config × List ConfigError) (line : List Char) (i : Nat) :
    readLine acc (line, i) =
      match reading line with
      | none => acc
      | some (.ok kv) => (acc.1.set kv.1 kv.2, acc.2)
      | some (.error m) => (acc.1, acc.2 ++ [.line (i + 1) m]) := by
  unfold readLine reading
  dsimp only
  by_cases h : ((line.dropWhile isSpaceOrTab).isEmpty ||
      (line.dropWhile isSpaceOrTab).head? == some '#') = true
  · simp only [h, if_true]
  · simp only [h, if_false, Bool.false_eq_true]
    cases literal? (line.dropWhile isSpaceOrTab) with
    | ok kv => rfl
    | error m => rfl

theorem foldl_readLine (xs : List (List Char × Nat)) (c : Config) (errs : List ConfigError) :
    xs.foldl readLine (c, errs) =
      ((xs.filterMap fun e => literalOf e.1).foldl (fun c e => c.set e.1 e.2) c,
        errs ++ xs.filterMap fun e => errorOf e.1 e.2) := by
  induction xs generalizing c errs with
  | nil => simp
  | cons e xs ih =>
    obtain ⟨line, i⟩ := e
    rw [List.foldl_cons, readLine_eq]
    cases hr : reading line with
    | none => simp [ih, literalOf, errorOf, hr]
    | some r =>
      cases r with
      | ok kv => simp [ih, literalOf, errorOf, hr, Except.toOption]
      | error m => simp [ih, literalOf, errorOf, hr, Except.toOption]

/-- Reading a configuration text: one error for each line that is neither blank nor a
comment and cannot be used, numbered from 1 and in order; the value of every name but
`version` is that of the last usable line for it (undefined when empty); and `version` is
the program's. -/
theorem load_reads (text : String) :
    (load text).2 = (textLines text).zipIdx.filterMap (fun e => errorOf e.1 e.2) ∧
    (∀ k, k ≠ "version" → (load text).1.get? k =
      ((((textLines text).filterMap literalOf).reverse.lookup k).filter fun v => !v.isEmpty)) ∧
    (load text).1.get? "version" = some programVersion := by
  have hfold := foldl_readLine (textLines text).zipIdx default []
  have hlits : ((textLines text).zipIdx.filterMap fun e => literalOf e.1) =
      (textLines text).filterMap literalOf := by
    have hcomp : (fun e : List Char × Nat => literalOf e.1) = literalOf ∘ Prod.fst := rfl
    rw [hcomp, ← List.filterMap_map, List.zipIdx_map_fst]
  have hempty (k : String) : (default : Config).literals.lookup k = none := rfl
  unfold load
  rw [hfold, hlits]
  refine ⟨by simp, fun k hk => ?_, ?_⟩
  · rw [get?_eq, lookup_set, if_neg hk, lookup_foldl_set, hempty, Option.or_none]
  · rw [get?_eq, lookup_set, if_pos rfl]
    rfl

/-! ## Writing a configuration as text -/

/-- The characters that may enclose a value. -/
def delimiters : List Char := ['/', '"', '\'']

/-- A name a line can carry: not empty, without blank, tab, line feed or carriage return,
not starting with `#`, and not `version`, which is the program's own. -/
structure NameFits (k : String) : Prop where
  ne_nil : k.toList ≠ []
  plain : ∀ c ∈ k.toList, c ≠ ' ' ∧ c ≠ '\t' ∧ c ≠ '\n' ∧ c ≠ '\r'
  not_comment : k.toList.head? ≠ some '#'
  not_version : k ≠ "version"

/-- A value a line can carry: not empty, without line feed or carriage return. -/
structure ValueFits (v : String) : Prop where
  ne_nil : v.toList ≠ []
  no_feed : '\n' ∉ v.toList
  no_return : '\r' ∉ v.toList

/-- The line `name: value` for a literal: the value bare when it has no blank or tab and does
not start with a delimiter, or between two of a delimiter it does not hold. -/
inductive Writes (k v : String) : List Char → Prop
  | bare : (∀ c ∈ v.toList, isSpaceOrTab c = false) → (∀ d ∈ delimiters, v.toList.head? ≠ some d) →
      Writes k v (k.toList ++ ':' :: ' ' :: v.toList)
  | enclosed {d : Char} : d ∈ delimiters → d ∉ v.toList →
      Writes k v (k.toList ++ ':' :: ' ' :: d :: (v.toList ++ [d]))

/-- Lines as a text, each ended by a line feed. -/
def fileText (lines : List (List Char)) : String := String.ofList (lines.flatMap (· ++ ['\n']))

theorem splitOn_fileText (lines : List (List Char)) (h : ∀ l ∈ lines, '\n' ∉ l) :
    (lines.flatMap (· ++ ['\n'])).splitOn '\n' = lines ++ [[]] := by
  induction lines with
  | nil => rfl
  | cons l ls ih =>
    rw [List.flatMap_cons, List.append_assoc, List.singleton_append,
      List.splitOn_append_cons_self_of_not_mem (h l List.mem_cons_self),
      ih fun l' hl' => h l' (List.mem_cons_of_mem l hl')]
    rfl

theorem textLines_fileText (lines : List (List Char)) (hf : ∀ l ∈ lines, '\n' ∉ l)
    (hr : ∀ l ∈ lines, '\r' ∉ l) : textLines (fileText lines) = lines := by
  unfold textLines fileText
  simp only [String.toList_ofList, splitOn_fileText lines hf, List.getLast?_concat,
    beq_self_eq_true, if_true, List.dropLast_concat]
  -- no line ends in a carriage return, so whichever branch is taken keeps it
  calc _ = lines.zipIdx.map Prod.fst := List.map_congr_left fun e he => ?_
    _ = lines := List.zipIdx_map_fst 0 lines
  obtain ⟨p, i⟩ := e
  have hmem : p ∈ lines := by
    have := List.mem_map_of_mem (f := Prod.fst) he
    rwa [List.zipIdx_map_fst] at this
  have hcr : (p.getLast? == some '\r') = false := by
    cases hl : p.getLast? with
    | none => rfl
    | some c =>
      have hc : c ∈ p := List.mem_of_getLast? hl
      have : c ≠ '\r' := fun hc' => hr _ hmem (hc' ▸ hc)
      simpa using this
  simp [hcr]

section Writes

variable {k v : String}

theorem dropWhile_name (hk : NameFits k) (rest : List Char) :
    (k.toList ++ rest).dropWhile isSpaceOrTab = k.toList ++ rest := by
  obtain ⟨c, cs, hc⟩ := List.exists_cons_of_ne_nil hk.ne_nil
  have hb : isSpaceOrTab c = false := by
    have := hk.plain c (by rw [hc]; exact List.mem_cons_self)
    simp [isSpaceOrTab, this.1, this.2.1]
  rw [hc, List.cons_append, List.dropWhile_cons_of_neg (by simp [hb])]

theorem span_name (hk : NameFits k) (w : List Char) :
    (k.toList ++ ':' :: ' ' :: w).span (!isSpaceOrTab ·) = (k.toList ++ [':'], ' ' :: w) := by
  rw [List.span_eq_takeWhile_dropWhile]
  have hplain : ∀ c ∈ k.toList, (!isSpaceOrTab c) = true := by
    intro c hc
    have := hk.plain c hc
    simp [isSpaceOrTab, this.1, this.2.1]
  rw [List.takeWhile_append_of_pos hplain, List.dropWhile_append_of_pos hplain]
  simp [isSpaceOrTab]

theorem reading_of_writes {line : List Char} (hk : NameFits k) (hv : ValueFits v)
    (hw : Writes k v line) : reading line = some (.ok (k, v)) := by
  -- the written value `w`: it starts with a character that is no blank, so no blank is
  -- dropped before it, and `value?` reads `v` back from it
  obtain ⟨w, rfl, hstart, hval⟩ : ∃ w, line = k.toList ++ ':' :: ' ' :: w ∧
      w.dropWhile isSpaceOrTab = w ∧ w ≠ [] ∧ value? w = .ok v := by
    cases hw with
    | bare hb hd =>
      obtain ⟨c, cs, hc⟩ := List.exists_cons_of_ne_nil hv.ne_nil
      have hcb : isSpaceOrTab c = false := hb c (by rw [hc]; exact List.mem_cons_self)
      have hcd : ¬ (c == '/' || c == '"' || c == '\'') = true := by
        have h1 := hd '/' (by simp [delimiters]); have h2 := hd '"' (by simp [delimiters])
        have h3 := hd '\'' (by simp [delimiters])
        rw [hc] at h1 h2 h3
        simp_all
      refine ⟨v.toList, rfl, ?_, hv.ne_nil, ?_⟩
      · rw [hc, List.dropWhile_cons_of_neg (by simp [hcb])]
      · rw [hc, value?, if_neg hcd, ← hc, List.takeWhile_eq_self_iff.mpr (by simpa using hb),
          String.ofList_toList]
    | enclosed hd hnot =>
      rename_i d
      have hdb : isSpaceOrTab d = false := by
        simp [delimiters] at hd
        rcases hd with rfl | rfl | rfl <;> rfl
      have hdd : (d == '/' || d == '"' || d == '\'') = true := by
        simp [delimiters] at hd
        rcases hd with rfl | rfl | rfl <;> rfl
      refine ⟨d :: (v.toList ++ [d]), rfl, ?_, List.cons_ne_nil _ _, ?_⟩
      · rw [List.dropWhile_cons_of_neg (by simp [hdb])]
      · have hspan : (v.toList ++ [d]).span (· != d) = (v.toList, [d]) := by
          have hne : ∀ c ∈ v.toList, (c != d) = true := by
            intro c hc
            have : c ≠ d := fun hcd => hnot (hcd ▸ hc)
            simpa using this
          rw [List.span_eq_takeWhile_dropWhile, List.takeWhile_append_of_pos hne,
            List.dropWhile_append_of_pos hne]
          simp
        rw [value?, if_pos hdd, hspan]
        dsimp only
        rw [String.ofList_toList]
  have hcond : ((k.toList ++ ':' :: ' ' :: w).isEmpty ||
      (k.toList ++ ':' :: ' ' :: w).head? == some '#') = false := by
    obtain ⟨c, cs, hc⟩ := List.exists_cons_of_ne_nil hk.ne_nil
    have hc0 : c ≠ '#' := fun h => hk.not_comment (by rw [hc, h]; rfl)
    rw [hc]
    simpa using hc0
  have hrev : (k.toList ++ [':']).reverse = ':' :: (k.toList.reverse) := by simp
  obtain ⟨r, rs, hr⟩ := List.exists_cons_of_ne_nil (by simpa using hk.ne_nil : k.toList.reverse ≠ [])
  unfold reading
  rw [dropWhile_name hk, if_neg (by rw [hcond]; decide)]
  unfold literal?
  rw [span_name hk]
  simp only []
  rw [hstart, if_neg (by simpa using hval.1), hrev, hr]
  simp only []
  rw [hval.2, ← hr, List.reverse_reverse, String.ofList_toList]
  rfl

theorem Writes.no_break {line : List Char} (hk : NameFits k) (hv : ValueFits v)
    (hw : Writes k v line) : '\n' ∉ line ∧ '\r' ∉ line := by
  have hkf : '\n' ∉ k.toList := fun h => (hk.plain _ h).2.2.1 rfl
  have hkr : '\r' ∉ k.toList := fun h => (hk.plain _ h).2.2.2 rfl
  cases hw with
  | bare => simp [hkf, hkr, hv.no_feed, hv.no_return]
  | enclosed hd =>
    simp only [delimiters, List.mem_cons, List.not_mem_nil, or_false] at hd
    rcases hd with rfl | rfl | rfl <;> simp [hkf, hkr, hv.no_feed, hv.no_return]

end Writes

theorem readings_of_writes {m : List (String × String)} {lines : List (List Char)}
    (hfit : ∀ e ∈ m, NameFits e.1 ∧ ValueFits e.2)
    (hw : List.Forall₂ (fun e line => Writes e.1 e.2 line) m lines) :
    lines.map reading = m.map (fun e => some (.ok e)) ∧ ∀ l ∈ lines, '\n' ∉ l ∧ '\r' ∉ l := by
  induction hw with
  | nil => simp
  | @cons e line m' lines' h _ ih =>
    have hf := hfit e List.mem_cons_self
    obtain ⟨hmap, hbreaks⟩ := ih fun e' he' => hfit e' (List.mem_cons_of_mem e he')
    refine ⟨by rw [List.map_cons, List.map_cons, hmap, reading_of_writes hf.1 hf.2 h], ?_⟩
    intro l hl
    rcases List.mem_cons.mp hl with rfl | hl
    · exact h.no_break hf.1 hf.2
    · exact hbreaks l hl

theorem load_writes (m : List (String × String)) (lines : List (List Char))
    (hkeys : (m.map Prod.fst).Nodup) (hfit : ∀ e ∈ m, NameFits e.1 ∧ ValueFits e.2)
    (hw : List.Forall₂ (fun e line => Writes e.1 e.2 line) m lines) :
    (load (fileText lines)).2 = [] ∧
    (∀ k, k ≠ "version" → (load (fileText lines)).1.get? k = m.lookup k) ∧
    (load (fileText lines)).1.get? "version" = some programVersion := by
  obtain ⟨hread, hbreaks⟩ := readings_of_writes hfit hw
  have htext : textLines (fileText lines) = lines :=
    textLines_fileText lines (fun l hl => (hbreaks l hl).1) fun l hl => (hbreaks l hl).2
  have hlits : lines.filterMap literalOf = m := by
    have hcomp : literalOf = (fun r => r.bind Except.toOption) ∘ reading := rfl
    rw [hcomp, ← List.filterMap_map, hread, List.filterMap_map]
    simp [Function.comp_def, Except.toOption]
  have herrs : lines.zipIdx.filterMap (fun e => errorOf e.1 e.2) = [] := by
    rw [List.filterMap_eq_nil_iff]
    intro e he
    have hl : e.1 ∈ lines := by
      have := List.mem_map_of_mem (f := Prod.fst) he
      rwa [List.zipIdx_map_fst] at this
    obtain ⟨kv, -, hkv⟩ := List.mem_map.mp (hread ▸ List.mem_map_of_mem (f := reading) hl)
    simp [errorOf, ← hkv]
  obtain ⟨herr, hget, hversion⟩ := load_reads (fileText lines)
  rw [htext] at herr hget
  refine ⟨herr.trans herrs, fun k hk => ?_, hversion⟩
  rw [hget k hk, hlits, lookup_reverse hkeys]
  -- the values of `m` are not empty, so none is dropped as undefined
  cases hl : m.lookup k with
  | none => rfl
  | some v =>
    obtain ⟨l₁, l₂, hm, -⟩ := List.lookup_eq_some_iff.mp hl
    have hv := (hfit (k, v) (by rw [hm]; simp)).2
    have hne : v.isEmpty = false :=
      String.isEmpty_eq_false_iff.mpr fun h => hv.ne_nil (by rw [h, String.toList_empty])
    simp [Option.filter, hne]

/-- The text form of a configuration: a configuration written as text, one `name: value`
line a literal, reads back without errors as that configuration, with `version` the
program's; and any text reads with one error for each unusable line, numbered from 1, and
the last usable line for a name giving its value. -/
theorem text_form_round_trip :
    (∀ (m : List (String × String)) (lines : List (List Char)), (m.map Prod.fst).Nodup →
      (∀ e ∈ m, NameFits e.1 ∧ ValueFits e.2) →
      List.Forall₂ (fun e line => Writes e.1 e.2 line) m lines →
      (load (fileText lines)).2 = [] ∧
      (∀ k, k ≠ "version" → (load (fileText lines)).1.get? k = m.lookup k) ∧
      (load (fileText lines)).1.get? "version" = some programVersion) ∧
    (∀ text : String,
      (load text).2 = (textLines text).zipIdx.filterMap (fun e => errorOf e.1 e.2) ∧
      (∀ k, k ≠ "version" → (load text).1.get? k =
        ((((textLines text).filterMap literalOf).reverse.lookup k).filter fun v => !v.isEmpty)) ∧
      (load text).1.get? "version" = some programVersion) :=
  ⟨load_writes, load_reads⟩

/-- Two literals, one written bare and one between slashes, since it holds a blank. -/
theorem text_form_round_trip_two :
    ([("k", "a b"), ("x", "1")].map Prod.fst).Nodup ∧
    (∀ e ∈ [("k", "a b"), ("x", "1")], NameFits e.1 ∧ ValueFits e.2) ∧
    List.Forall₂ (fun e line => Writes e.1 e.2 line) [("k", "a b"), ("x", "1")]
      [['k', ':', ' ', '/', 'a', ' ', 'b', '/'], ['x', ':', ' ', '1']] ∧
    (load (fileText [['k', ':', ' ', '/', 'a', ' ', 'b', '/'], ['x', ':', ' ', '1']])).2 = [] ∧
    (∀ k, k ≠ "version" →
      (load (fileText [['k', ':', ' ', '/', 'a', ' ', 'b', '/'], ['x', ':', ' ', '1']])).1.get? k =
        [("k", "a b"), ("x", "1")].lookup k) ∧
    (load (fileText [['k', ':', ' ', '/', 'a', ' ', 'b', '/'], ['x', ':', ' ', '1']])).1.get?
      "version" = some programVersion := by
  have hnodup : ([("k", "a b"), ("x", "1")].map Prod.fst).Nodup := by simp
  have hfit : ∀ e ∈ [("k", "a b"), ("x", "1")], NameFits e.1 ∧ ValueFits e.2 := by
    intro e he
    simp only [List.mem_cons, List.not_mem_nil, or_false] at he
    rcases he with rfl | rfl
    · exact ⟨⟨by simp, by simp, by simp, by simp⟩, ⟨by simp, by simp, by simp⟩⟩
    · exact ⟨⟨by simp, by simp, by simp, by simp⟩, ⟨by simp, by simp, by simp⟩⟩
  have hk : Writes "k" "a b" ['k', ':', ' ', '/', 'a', ' ', 'b', '/'] :=
    Writes.enclosed (d := '/') (by simp [delimiters]) (by simp)
  have hx : Writes "x" "1" ['x', ':', ' ', '1'] :=
    Writes.bare (by simp [isSpaceOrTab]) (by simp [delimiters])
  have hw : List.Forall₂ (fun e line => Writes e.1 e.2 line) [("k", "a b"), ("x", "1")]
      [['k', ':', ' ', '/', 'a', ' ', 'b', '/'], ['x', ':', ' ', '1']] :=
    .cons hk (.cons hx .nil)
  exact ⟨hnodup, hfit, hw, text_form_round_trip.1 _ _ hnodup hfit hw⟩

end ColumnSpec.Config
