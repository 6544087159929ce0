import ColumnSpec.Script.Words
/-!
# Splitting a program text into words

Words written out as one program text split back into those words, and splitting fails
only on an unclosed quoted word or a final backslash (`split_render_and_errors`).
-/
namespace ColumnSpec.Script

/-! ## Steps of the splitter -/

theorem Cursor.line_pass (k : Cursor) (c : Char) :
    (k.pass c).line = k.line + if c = '\n' then 1 else 0 := by
  unfold Cursor.pass
  by_cases h : c = '\n'
  · simp [h]
  · by_cases hb : Text.isBlank c <;> simp [h, hb]

theorem Cursor.line_pass_of_ne {c : Char} (k : Cursor) (h : c ≠ '\n') : (k.pass c).line = k.line := by
  rw [Cursor.line_pass, if_neg h, Nat.add_zero]

theorem Cursor.line_pass_count (k : Cursor) (c : Char) : (k.pass c).line = k.line + [c].count '\n' := by
  rw [Cursor.line_pass]
  by_cases h : c = '\n' <;> simp [h]

theorem Cursor.line_pass_escape (k : Cursor) (c : Char) :
    ((k.pass '\\').pass c).line = k.line + ['\\', c].count '\n' := by
  rw [Cursor.line_pass_count, Cursor.line_pass_of_ne _ (by decide)]
  by_cases h : c = '\n' <;> simp [h]

section Steps

variable (line : Nat) (acc : List Char) (k : Cursor) (done : List Word) (r : List Char)

theorem splitFrom_plain_escape (c : Char) :
    splitFrom (.plain line acc) ('\\' :: c :: r) k done =
      splitFrom (.plain line (c :: acc)) r ((k.pass '\\').pass c) done := rfl

theorem splitFrom_plain_char {c : Char} (hc : c ≠ '\\') (hb : Text.isBlank c = false) :
    splitFrom (.plain line acc) (c :: r) k done = splitFrom (.plain line (c :: acc)) r (k.pass c) done := by
  rw [splitFrom.eq_def]
  simp only [if_neg hc, hb, Bool.false_eq_true, if_false]

theorem splitFrom_plain_blank {c : Char} (hb : Text.isBlank c = true) :
    splitFrom (.plain line acc) (c :: r) k done =
      splitFrom .between r (k.pass c) (Word.ofReversed acc line :: done) := by
  have hc : c ≠ '\\' := by
    rintro rfl
    cases hb
  rw [splitFrom.eq_def]
  simp only [if_neg hc, hb, if_true]

theorem splitFrom_plain_end :
    splitFrom (.plain line acc) [] k done = .ok (Word.ofReversed acc line :: done).reverse := rfl

theorem splitFrom_between_escape (c : Char) :
    splitFrom .between ('\\' :: c :: r) k done =
      splitFrom (.plain k.line [c]) r ((k.pass '\\').pass c) done := rfl

theorem splitFrom_between_char {c : Char} (hb : Text.isBlank c = false)
    (hh : (decide (c = '#') && k.atLineStart && r.head?.all Text.isBlank) = false)
    (hq : isQuote c = false) (hc : c ≠ '\\') :
    splitFrom .between (c :: r) k done = splitFrom (.plain k.line [c]) r (k.pass c) done := by
  rw [splitFrom.eq_def]
  simp only [if_neg hc, hb, hh, hq, Bool.false_eq_true, if_false]

theorem splitFrom_between_blank {c : Char} (hb : Text.isBlank c = true) :
    splitFrom .between (c :: r) k done = splitFrom .between r (k.pass c) done := by
  have hc : c ≠ '\\' := by
    rintro rfl
    cases hb
  rw [splitFrom.eq_def]
  simp only [if_neg hc, hb, if_true]

theorem splitFrom_between_comment {c : Char} (hb : Text.isBlank c = false)
    (hh : (decide (c = '#') && k.atLineStart && r.head?.all Text.isBlank) = true) :
    splitFrom .between (c :: r) k done = splitFrom .comment r (k.pass c) done := by
  have hc : c ≠ '\\' := by
    rintro rfl
    cases hh
  rw [splitFrom.eq_def]
  simp only [if_neg hc, hb, hh, Bool.false_eq_true, if_false, if_true]

theorem splitFrom_between_quote {c : Char} (hb : Text.isBlank c = false)
    (hh : (decide (c = '#') && k.atLineStart && r.head?.all Text.isBlank) = false)
    (hq : isQuote c = true) :
    splitFrom .between (c :: r) k done = splitFrom (.quoted c k.line [c]) r (k.pass c) done := by
  have hc : c ≠ '\\' := by
    rintro rfl
    cases hq
  rw [splitFrom.eq_def]
  simp only [if_neg hc, hb, hh, hq, Bool.false_eq_true, if_false, if_true]

theorem splitFrom_comment (c : Char) :
    splitFrom .comment (c :: r) k done =
      splitFrom (if c = '\n' then .between else .comment) r (k.pass c) done := rfl

theorem splitFrom_quoted_escape (d c : Char) :
    splitFrom (.quoted d line acc) ('\\' :: c :: r) k done =
      splitFrom (.quoted d line (c :: acc)) r ((k.pass '\\').pass c) done := rfl

theorem splitFrom_quoted_close {c : Char} (hc : c ≠ '\\') :
    splitFrom (.quoted c line acc) (c :: r) k done =
      splitFrom .between r (k.pass c) (Word.ofReversed (c :: acc) line :: done) := by
  rw [splitFrom.eq_def]
  simp only [if_neg hc, if_true]

theorem splitFrom_quoted_char {c d : Char} (hc : c ≠ '\\') (hcd : c ≠ d) :
    splitFrom (.quoted d line acc) (c :: r) k done =
      splitFrom (.quoted d line (c :: acc)) r (k.pass c) done := by
  rw [splitFrom.eq_def]
  simp only [if_neg hc, if_neg hcd]

end Steps

/-! ## Writing words as one text -/

/-- Whether a character of a word is written after a backslash wherever it stands. -/
def needsEscape (c : Char) : Bool := c == '\\' || Text.isBlank c

/-- A character, after a backslash when `escape` holds. -/
def escapeChar (escape : Bool) (c : Char) : List Char := if escape then ['\\', c] else [c]

/-- The characters of a word after its first, each escaped where needed. -/
def escapeRest (cs : List Char) : List Char := cs.flatMap fun c => escapeChar (needsEscape c) c

/-- A word as written: its first character is also escaped when it would open a quoted word
or a comment. -/
def escapeWord : List Char → List Char
  | [] => []
  | c :: cs => escapeChar (needsEscape c || isQuote c || c == '#') c ++ escapeRest cs

/-- Words written as one program text, joined by single blanks. -/
def render (words : List String) : String :=
  String.ofList ([' '].intercalate (words.map fun w => escapeWord w.toList))

theorem splitFrom_escapeRest (cs : List Char) (hcs : '\n' ∉ cs) (line : Nat) (acc : List Char)
    (k : Cursor) (done : List Word) (rest : List Char) :
    ∃ k', k'.line = k.line ∧ splitFrom (.plain line acc) (escapeRest cs ++ rest) k done =
      splitFrom (.plain line (cs.reverse ++ acc)) rest k' done := by
  induction cs generalizing acc k with
  | nil => exact ⟨k, rfl, rfl⟩
  | cons c cs ih =>
    have hc : c ≠ '\n' := fun h => hcs (h ▸ List.mem_cons_self)
    have hcs' : '\n' ∉ cs := fun h => hcs (List.mem_cons_of_mem c h)
    simp only [escapeRest, List.flatMap_cons, List.append_assoc] at ih ⊢
    by_cases he : needsEscape c = true
    · obtain ⟨k', hk', hrun⟩ := ih hcs' (c :: acc) ((k.pass '\\').pass c)
      refine ⟨k', ?_, ?_⟩
      · rw [hk', Cursor.line_pass_of_ne _ hc, Cursor.line_pass_of_ne _ (by decide)]
      · rw [escapeChar, if_pos he, List.cons_append, List.cons_append, List.nil_append,
          splitFrom_plain_escape, hrun]
        simp
    · have hbs : c ≠ '\\' := fun h => he (by simp [needsEscape, h])
      have hb : Text.isBlank c = false :=
        (by simpa [needsEscape] using he : ¬c = '\\' ∧ Text.isBlank c = false).2
      obtain ⟨k', hk', hrun⟩ := ih hcs' (c :: acc) (k.pass c)
      refine ⟨k', hk'.trans (Cursor.line_pass_of_ne _ hc), ?_⟩
      rw [escapeChar, if_neg he, List.cons_append, List.nil_append,
        splitFrom_plain_char _ _ _ _ _ hbs hb, hrun]
      simp

theorem splitFrom_escapeWord (w : List Char) (hw : w ≠ []) (hn : '\n' ∉ w) (k : Cursor)
    (done : List Word) (rest : List Char) :
    ∃ k', k'.line = k.line ∧ splitFrom .between (escapeWord w ++ rest) k done =
      splitFrom (.plain k.line w.reverse) rest k' done := by
  obtain ⟨c, cs, rfl⟩ := List.exists_cons_of_ne_nil hw
  have hc : c ≠ '\n' := fun h => hn (h ▸ List.mem_cons_self)
  have hcs : '\n' ∉ cs := fun h => hn (List.mem_cons_of_mem c h)
  simp only [escapeWord, List.append_assoc, List.reverse_cons]
  -- the first character, escaped or not, starts a plain word
  by_cases he : (needsEscape c || isQuote c || c == '#') = true
  · obtain ⟨k', hk', hrun⟩ := splitFrom_escapeRest cs hcs k.line [c] ((k.pass '\\').pass c) done rest
    refine ⟨k', ?_, ?_⟩
    · rw [hk', Cursor.line_pass_of_ne _ hc, Cursor.line_pass_of_ne _ (by decide)]
    · rw [escapeChar, if_pos he, List.cons_append, List.cons_append, List.nil_append,
        splitFrom_between_escape, hrun]
  · simp only [Bool.or_eq_true, beq_iff_eq, not_or, needsEscape] at he
    obtain ⟨⟨⟨hbs, hb⟩, hq⟩, hh⟩ := he
    obtain ⟨k', hk', hrun⟩ := splitFrom_escapeRest cs hcs k.line [c] (k.pass c) done rest
    refine ⟨k', hk'.trans (Cursor.line_pass_of_ne _ hc), ?_⟩
    rw [escapeChar, if_neg (by simp [needsEscape, hbs, hb, hq, hh]), List.cons_append,
      List.nil_append, splitFrom_between_char _ _ _ (by simpa using hb) (by simp [hh]) (by simpa using hq) hbs,
      hrun]

theorem splitFrom_render (ws : List (List Char)) (hws : ∀ w ∈ ws, w ≠ [] ∧ '\n' ∉ w)
    (k : Cursor) (done : List Word) :
    splitFrom .between ([' '].intercalate (ws.map escapeWord)) k done =
      .ok (done.reverse ++ ws.map fun w => ⟨String.ofList w, k.line⟩) := by
  induction ws generalizing k done with
  | nil => simp [splitFrom]
  | cons w ws ih =>
    have hw := hws w List.mem_cons_self
    have hws' : ∀ w' ∈ ws, w' ≠ [] ∧ '\n' ∉ w' := fun w' h => hws w' (List.mem_cons_of_mem w h)
    cases ws with
    | nil =>
      obtain ⟨k', -, hrun⟩ := splitFrom_escapeWord w hw.1 hw.2 k done []
      simp only [List.map_cons, List.map_nil, List.intercalate_singleton] at hrun ⊢
      rw [← List.append_nil (escapeWord w), hrun, splitFrom_plain_end]
      simp [Word.ofReversed]
    | cons w' ws =>
      obtain ⟨k', hk', hrun⟩ := splitFrom_escapeWord w hw.1 hw.2 k done
        (' ' :: [' '].intercalate ((w' :: ws).map escapeWord))
      rw [List.map_cons, List.map_cons, List.intercalate_cons_cons, List.append_assoc,
        List.singleton_append, ← List.map_cons, hrun, splitFrom_plain_blank _ _ _ _ _ rfl,
        ih hws' _ _, Cursor.line_pass_of_ne _ (by decide), hk']
      simp [Word.ofReversed]

theorem splitProgram_render (words : List String) (hw : ∀ w ∈ words, w ≠ "" ∧ '\n' ∉ w.toList) :
    splitProgram (render words) = .ok (words.map fun w => ⟨w, 1⟩) := by
  have hws : ∀ w ∈ words.map String.toList, w ≠ [] ∧ '\n' ∉ w := by
    intro w hmem
    obtain ⟨s, hs, rfl⟩ := List.mem_map.mp hmem
    exact ⟨fun h => (hw s hs).1 (by rw [← String.ofList_toList (s := s), h]), (hw s hs).2⟩
  have hmap : (words.map fun w => escapeWord w.toList) = (words.map String.toList).map escapeWord := by
    simp
  rw [splitProgram, render, String.toList_ofList, hmap, splitFrom_render _ hws]
  simp [String.ofList_toList]

/-! ## How splitting fails -/

/-- The text after the opening delimiter `d` of a quoted word that it never closes:
characters other than `d` and the backslash, and backslashes each taking the character
after it. -/
inductive Unclosed (d : Char) : List Char → Prop
  | nil : Unclosed d []
  | char {c : Char} {r : List Char} : c ≠ d → c ≠ '\\' → Unclosed d r → Unclosed d (c :: r)
  | escape (c : Char) {r : List Char} : Unclosed d r → Unclosed d ('\\' :: c :: r)

/-- The error of a quoted word never closed, reported on the line it starts on. -/
def missingDelimiter (line : Nat) : ProgramError := ⟨some line, "Missing delimiter at end of input"⟩

/-- A quoted word opens in the rest `cs` of a text read in mode `m`, after `pre`, on line
`l`, and the rest `post` never closes it: given the delimiter twice there, the splitter
reads the two delimiters as its last word, on that line. -/
def OpensUnclosed (m : Mode) (cs : List Char) (k : Cursor) (done : List Word) (l : Nat) : Prop :=
  ∃ pre q post, cs = pre ++ q :: post ∧ isQuote q = true ∧ Unclosed q post ∧
    l = k.line + pre.count '\n' ∧
    ∃ ws, splitFrom m (pre ++ [q, q]) k done = .ok (ws ++ [⟨String.ofList [q, q], l⟩])

/-- How splitting the rest `cs` of a text in mode `m` can fail: a quoted word never closed,
either the one being read or one opening later, or a backslash ending the text. -/
def Fails (m : Mode) (cs : List Char) (k : Cursor) (done : List Word) (e : ProgramError) : Prop :=
  (∃ l, e = missingDelimiter l ∧
    ((∃ d acc, m = .quoted d l acc ∧ Unclosed d cs) ∨ OpensUnclosed m cs k done l)) ∨
  (∃ l, e = badEscape l ∧ cs.getLast? = some '\\')

section Failing

variable {m m' : Mode} {cs p : List Char} {k k' : Cursor} {done done' : List Word}
  {e : ProgramError}

theorem OpensUnclosed.step {l : Nat}
    (hstep : ∀ X : List Char, X.head? = cs.head? →
      splitFrom m (p ++ X) k done = splitFrom m' X k' done')
    (hline : k'.line = k.line + p.count '\n') (h : OpensUnclosed m' cs k' done' l) :
    OpensUnclosed m (p ++ cs) k done l := by
  obtain ⟨pre, q, post, rfl, hq, hpost, hl, ws, hrun⟩ := h
  refine ⟨p ++ pre, q, post, by simp, hq, hpost, ?_, ws, ?_⟩
  · rw [hl, hline, List.count_append]
    omega
  · rw [List.append_assoc, hstep _ (by cases pre <;> rfl), hrun]

theorem Fails.step
    (hstep : ∀ X : List Char, X.head? = cs.head? →
      splitFrom m (p ++ X) k done = splitFrom m' X k' done')
    (hline : k'.line = k.line + p.count '\n') (h : Fails m' cs k' done' e)
    (hq : ∀ d l acc, m' = .quoted d l acc → Unclosed d cs → e = missingDelimiter l →
      Fails m (p ++ cs) k done e) :
    Fails m (p ++ cs) k done e := by
  rcases h with ⟨l, he, ⟨d, acc, hm, hu⟩ | hopen⟩ | ⟨l, he, hlast⟩
  · exact hq d l acc hm hu he
  · exact .inl ⟨l, he, .inr (hopen.step hstep hline)⟩
  · refine .inr ⟨l, he, ?_⟩
    rw [List.getLast?_append, hlast]
    rfl

theorem Fails.step_plain
    (hstep : ∀ X : List Char, X.head? = cs.head? →
      splitFrom m (p ++ X) k done = splitFrom m' X k' done')
    (hline : k'.line = k.line + p.count '\n') (h : Fails m' cs k' done' e)
    (hm' : ∀ d l acc, m' ≠ .quoted d l acc) : Fails m (p ++ cs) k done e :=
  h.step hstep hline fun d l acc hm _ _ => absurd hm (hm' d l acc)

end Failing

theorem splitFrom_error {m : Mode} {cs : List Char} {k : Cursor} {done : List Word}
    {e : ProgramError} : splitFrom m cs k done = .error e → Fails m cs k done e := by
  -- one case for each step of the splitter; every step that goes on carries the failure back
  fun_induction splitFrom m cs k done with
  | case1 | case2 | case3 => intro h; cases h
  | case4 d line acc =>
    intro h
    cases h
    exact .inl ⟨line, rfl, .inl ⟨d, acc, rfl, .nil⟩⟩
  | case5 c r k done ih =>
    intro h
    refine (ih h).step_plain (p := [c]) (fun X _ => splitFrom_comment _ _ X c)
      (Cursor.line_pass_count k c) fun d l acc hm => ?_
    split at hm <;> cases hm
  | case6 line | case10 _ line =>
    intro h
    cases h
    exact .inr ⟨line, rfl, rfl⟩
  | case7 line acc k done c r ih =>
    intro h
    exact (ih h).step_plain (p := ['\\', c]) (fun X _ => splitFrom_plain_escape _ _ _ _ X c)
      (Cursor.line_pass_escape k c) fun _ _ _ hm => by cases hm
  | case8 line acc c r k done _ hb ih =>
    intro h
    exact (ih h).step_plain (p := [c]) (fun X _ => splitFrom_plain_blank _ _ _ _ X hb)
      (Cursor.line_pass_count k c) fun _ _ _ hm => by cases hm
  | case9 line acc c r k done hc hb ih =>
    intro h
    have hb' : Text.isBlank c = false := by simpa using hb
    exact (ih h).step_plain (p := [c]) (fun X _ => splitFrom_plain_char _ _ _ _ X hc hb')
      (Cursor.line_pass_count k c) fun _ _ _ hm => by cases hm
  | case11 d line acc k done c r ih =>
    intro h
    refine (ih h).step (p := ['\\', c]) (fun X _ => splitFrom_quoted_escape _ _ _ _ X d c)
      (Cursor.line_pass_escape k c) fun d' l acc' hm hu he => ?_
    cases hm
    exact .inl ⟨line, he, .inl ⟨d, acc, rfl, .escape c hu⟩⟩
  | case12 line acc c r k done hc ih =>
    intro h
    exact (ih h).step_plain (p := [c]) (fun X _ => splitFrom_quoted_close _ _ _ _ X hc)
      (Cursor.line_pass_count k c) fun _ _ _ hm => by cases hm
  | case13 d line acc c r k done hc hcd ih =>
    intro h
    refine (ih h).step (p := [c]) (fun X _ => splitFrom_quoted_char _ _ _ _ X hc hcd)
      (Cursor.line_pass_count k c) fun d' l acc' hm hu he => ?_
    cases hm
    exact .inl ⟨line, he, .inl ⟨d, acc, rfl, .char hcd hc hu⟩⟩
  | case14 k done =>
    intro h
    cases h
    exact .inr ⟨k.line, rfl, rfl⟩
  | case15 k done d r' ih =>
    intro h
    exact (ih h).step_plain (p := ['\\', d]) (fun X _ => splitFrom_between_escape _ _ X d)
      (Cursor.line_pass_escape k d) fun _ _ _ hm => by cases hm
  | case16 c r k done _ hb ih =>
    intro h
    exact (ih h).step_plain (p := [c]) (fun X _ => splitFrom_between_blank _ _ X hb)
      (Cursor.line_pass_count k c) fun _ _ _ hm => by cases hm
  | case17 c r k done _ hb hcom ih =>
    intro h
    have hb' : Text.isBlank c = false := by simpa using hb
    exact (ih h).step_plain (p := [c])
      (fun X hX => splitFrom_between_comment _ _ X hb' (by rw [hX]; exact hcom))
      (Cursor.line_pass_count k c) fun _ _ _ hm => by cases hm
  | case18 c r k done hc hb hcom hq ih =>
    intro h
    have hb' : Text.isBlank c = false := by simpa using hb
    have hcom' := Bool.eq_false_iff.mpr hcom
    refine (ih h).step (p := [c])
      (fun X hX => splitFrom_between_quote _ _ X hb' (by rw [hX]; exact hcom') hq)
      (Cursor.line_pass_count k c) fun d l acc hm hu he => ?_
    cases hm
    -- the word opens right here: given the delimiter twice, it closes at once
    have hh : c ≠ '#' := by
      rintro rfl
      cases hq
    refine .inl ⟨k.line, he, .inr ⟨[], c, r, rfl, hq, hu, by simp, done.reverse, ?_⟩⟩
    rw [List.nil_append, splitFrom_between_quote _ _ _ hb' (by simp [hh]) hq,
      splitFrom_quoted_close _ _ _ _ _ hc]
    simp [splitFrom, Word.ofReversed]
  | case19 c r k done hc hb hcom hq ih =>
    intro h
    have hb' : Text.isBlank c = false := by simpa using hb
    have hcom' := Bool.eq_false_iff.mpr hcom
    have hq' : isQuote c = false := by simpa using hq
    exact (ih h).step_plain (p := [c])
      (fun X hX => splitFrom_between_char _ _ X hb' (by rw [hX]; exact hcom') hq' hc)
      (Cursor.line_pass_count k c) fun _ _ _ hm => by cases hm

theorem splitProgram_error {src : String} {e : ProgramError} (h : splitProgram src = .error e) :
    (∃ pre q post, src.toList = pre ++ q :: post ∧ isQuote q = true ∧ Unclosed q post ∧
      e = ⟨some (pre.count '\n' + 1), "Missing delimiter at end of input"⟩ ∧
      ∃ ws, splitProgram (String.ofList (pre ++ [q, q])) =
        .ok (ws ++ [⟨String.ofList [q, q], pre.count '\n' + 1⟩])) ∨
    (∃ l, e = ⟨some l, "Bad escape character at end of input"⟩ ∧
      src.toList.getLast? = some '\\') := by
  rcases splitFrom_error h with
    ⟨l, he, ⟨d, acc, hm, -⟩ | ⟨pre, q, post, hsrc, hq, hpost, hl, ws, hrun⟩⟩ | ⟨l, he, hlast⟩
  · cases hm
  · -- the text starts on line 1
    have hl' : l = pre.count '\n' + 1 := by
      rw [hl]
      exact Nat.add_comm _ _
    subst hl'
    refine .inl ⟨pre, q, post, hsrc, hq, hpost, he, ws, ?_⟩
    rw [splitProgram, String.toList_ofList]
    exact hrun
  · exact .inr ⟨l, he, hlast⟩

/-- Program splitting honours quoting and escapes: words written out as one text split back
into those words, each on line 1; and splitting fails only with a quoted word never closed,
reported on the line it starts on, or with a backslash ending the text. -/
theorem split_render_and_errors :
    (∀ words : List String, (∀ w ∈ words, w ≠ "" ∧ '\n' ∉ w.toList) →
      splitProgram (render words) = .ok (words.map fun w => ⟨w, 1⟩)) ∧
    (∀ (src : String) (e : ProgramError), splitProgram src = .error e →
      (∃ pre q post, src.toList = pre ++ q :: post ∧ isQuote q = true ∧ Unclosed q post ∧
        e = ⟨some (pre.count '\n' + 1), "Missing delimiter at end of input"⟩ ∧
        ∃ ws, splitProgram (String.ofList (pre ++ [q, q])) =
          .ok (ws ++ [⟨String.ofList [q, q], pre.count '\n' + 1⟩])) ∨
      (∃ l, e = ⟨some l, "Bad escape character at end of input"⟩ ∧
        src.toList.getLast? = some '\\')) :=
  ⟨splitProgram_render, fun _ _ => splitProgram_error⟩

/-- A word holding a blank, one starting with a delimiter and a lone `#` split back; and an
unclosed quoted word on line 2 is reported there. -/
theorem split_render_and_errors_quoting :
    (∀ w ∈ ["a b", "/x", "#"], w ≠ "" ∧ '\n' ∉ w.toList) ∧
    splitProgram (render ["a b", "/x", "#"]) = .ok [⟨"a b", 1⟩, ⟨"/x", 1⟩, ⟨"#", 1⟩] ∧
    splitProgram (String.ofList ['a', '\n', '/', 'b']) =
      .error ⟨some 2, "Missing delimiter at end of input"⟩ ∧
    ((∃ pre q post, ['a', '\n', '/', 'b'] = pre ++ q :: post ∧ isQuote q = true ∧
        Unclosed q post ∧
        (⟨some 2, "Missing delimiter at end of input"⟩ : ProgramError) =
          ⟨some (pre.count '\n' + 1), "Missing delimiter at end of input"⟩ ∧
        ∃ ws, splitProgram (String.ofList (pre ++ [q, q])) =
          .ok (ws ++ [⟨String.ofList [q, q], pre.count '\n' + 1⟩])) ∨
      (∃ l, (⟨some 2, "Missing delimiter at end of input"⟩ : ProgramError) =
          ⟨some l, "Bad escape character at end of input"⟩ ∧
        ['a', '\n', '/', 'b'].getLast? = some '\\')) := by
  have hw : ∀ w ∈ ["a b", "/x", "#"], w ≠ "" ∧ '\n' ∉ w.toList := by
    intro w hw
    simp only [List.mem_cons, List.not_mem_nil, or_false] at hw
    rcases hw with rfl | rfl | rfl <;> simp
  have hfail : splitProgram (String.ofList ['a', '\n', '/', 'b']) =
      .error ⟨some 2, "Missing delimiter at end of input"⟩ := by
    rw [splitProgram, String.toList_ofList]
    rfl
  have herr := split_render_and_errors.2 _ _ hfail
  rw [String.toList_ofList] at herr
  exact ⟨hw, split_render_and_errors.1 _ hw, hfail, herr⟩

end ColumnSpec.Script
