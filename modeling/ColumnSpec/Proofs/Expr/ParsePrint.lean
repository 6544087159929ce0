import ColumnSpec.Proofs.Expr.LexPrint
/-!
# Parsing printed expressions

The parser reads every printable expression back from its printed text (`parse_print`),
by one induction over the expression whose invariant `Reads e` says how each entry point of
the grammar reads the tokens of `e`.
-/
namespace ColumnSpec.Parser

variable {α : Type}

/-- A parser's answer, with the bound on the rest forgotten. -/
def answer {ts : List Token} (x : Except String (α × Rest ts)) : Except String (α × List Token) :=
  x.map fun p => (p.1, p.2.1)

theorem eq_ok_of_answer {ts : List Token} {x : Except String (α × Rest ts)} {a : α}
    {r : List Token} (h : answer x = .ok (a, r)) : ∃ hr, x = .ok (a, ⟨r, hr⟩) := by
  rcases x with e | ⟨a', r', hr'⟩
  · cases h
  · simp only [answer, Except.map, Except.ok.injEq, Prod.mk.injEq] at h
    obtain ⟨rfl, rfl⟩ := h
    exact ⟨hr', rfl⟩

/-! ## The tokens between expressions -/

/-- A token that ends an expression: the end, a closing parenthesis or a comma. -/
def Closing (t : Token) : Prop := t = .eof ∨ t = .sym .rparen ∨ t = .sym .comma

theorem binaryAt_closing {t : Token} (ht : Closing t) (k : Nat) : binaryAt k t = none := by
  rcases ht with rfl | rfl | rfl <;> rcases k with _ | _ | _ | _ | _ | _ | k <;> rfl

theorem assignAt_closing {t : Token} (ht : Closing t) : assignAt t = none := by
  rcases ht with rfl | rfl | rfl <;> rfl

theorem binaryAt_sym (op : BinOp) (k : Nat) :
    binaryAt k (.sym op.sym) = if k = op.level then some op else none := by
  cases op <;> rcases k with _ | _ | _ | _ | _ | _ | k <;> rfl

theorem binaryAt_assign (op : AssignOp) (k : Nat) : binaryAt k (.sym op.sym) = none := by
  cases op <;> rcases k with _ | _ | _ | _ | _ | _ | k <;> rfl

theorem assignAt_sym (op : AssignOp) : assignAt (.sym op.sym) = some op := by
  cases op <;> rfl

theorem unaryAt_sym (op : UnaryOp) : unaryAt (.sym op.sym) = some op := by
  cases op <;> rfl

theorem omitted_toks : ∀ {e : Expr}, e.printable → ∀ rest, omitted (peek (e.toks ++ rest)) = false
  | .lit (.int _), _, _ | .lit (.str _), _, _ | .counter _, _, _ | .field _, _, _
  | .config _, _, _ | .assign .., _, _ | .call .., _, _ | .controlBreak _, _, _ => rfl
  | .lit (.real _), h, _ | .lit .absent, h, _ => by simp [Expr.printable] at h
  | .unary op _, _, _ => by cases op <;> rfl
  | .binary op l r, h, rest => by
    simp only [Expr.printable, Bool.and_eq_true] at h
    simp only [Expr.toks, List.append_assoc]
    unfold Expr.paren
    split
    · rfl
    · exact omitted_toks h.1 _

/-! ## One parser at a time -/

theorem operand_zero (ts : List Token) : operand 0 ts = unary ts := by
  rw [operand]

theorem operand_succ (k : Nat) (ts : List Token) : operand (k + 1) ts = level k ts := by
  rw [operand]

theorem answer_level {k : Nat} {ts r : List Token} {lhs : Expr}
    (h : answer (operand k ts) = .ok (lhs, r)) : answer (level k ts) = answer (chain k lhs r) := by
  obtain ⟨hr, hx⟩ := eq_ok_of_answer h
  rw [level, hx]
  dsimp only [bind, Except.bind]
  rcases chain k lhs r with e | ⟨e, r2, h2⟩ <;> rfl

theorem answer_chain_stop {k : Nat} {lhs : Expr} {ts : List Token}
    (h : binaryAt k (peek ts) = none) : answer (chain k lhs ts) = .ok (lhs, ts) := by
  cases ts with
  | nil =>
    rw [chain]
    rfl
  | cons t r =>
    rw [chain]
    simp only [peek] at h
    simp only [h]
    rfl

theorem answer_chain_step {k : Nat} {lhs rhs : Expr} {t : Token} {op : BinOp} {r r1 : List Token}
    (hop : binaryAt k t = some op) (h : answer (operand k r) = .ok (rhs, r1)) :
    answer (chain k lhs (t :: r)) = answer (chain k (.binary op lhs rhs) r1) := by
  obtain ⟨hr, hx⟩ := eq_ok_of_answer h
  rw [chain]
  simp only [hop, hx]
  dsimp only [bind, Except.bind]
  rcases chain k (.binary op lhs rhs) r1 with e | ⟨e, r2, h2⟩ <;> rfl

theorem unary_primary {ts : List Token} (h : unaryAt (peek ts) = none) : unary ts = primary ts := by
  cases ts with
  | nil => rw [unary]
  | cons t r =>
    rw [unary]
    simp only [peek] at h
    simp only [h]

theorem answer_unary_op {t : Token} {op : UnaryOp} {r r1 : List Token} {e : Expr}
    (hop : unaryAt t = some op) (h : answer (unary r) = .ok (e, r1)) :
    answer (unary (t :: r)) = .ok (.unary op e, r1) := by
  obtain ⟨hr, hx⟩ := eq_ok_of_answer h
  rw [unary]
  simp only [hop, hx]
  rfl

theorem answer_primary_paren {r r3 : List Token} {e : Expr}
    (h : answer (assignment r) = .ok (e, .sym .rparen :: r3)) :
    answer (primary (.sym .lparen :: r)) = .ok (e, r3) := by
  obtain ⟨hr, hx⟩ := eq_ok_of_answer h
  rw [primary]
  simp only [hx]
  rfl

theorem answer_primary_call {name : String} {r r2 : List Token} {args : List (Option Expr)}
    (hn : name ≠ "break") (h : answer (arguments name r) = .ok (args, r2)) :
    answer (primary (.func name :: .sym .lparen :: r)) = .ok (.call name args, r2) := by
  obtain ⟨hr, hx⟩ := eq_ok_of_answer h
  rw [primary]
  simp only [hx, bind, Except.bind, beq_iff_eq, hn, if_false]
  rfl

theorem answer_primary_break {c : Char} {r r2 : List Token}
    (h : answer (arguments "break" r) = .ok ([some (.field c)], r2)) :
    answer (primary (.func "break" :: .sym .lparen :: r)) = .ok (.controlBreak c, r2) := by
  obtain ⟨hr, hx⟩ := eq_ok_of_answer h
  rw [primary]
  simp only [hx]
  rfl

theorem answer_assignment_stop {ts r : List Token} {e : Expr}
    (h : answer (level 5 ts) = .ok (e, r)) (hr : assignAt (peek r) = none) :
    answer (assignment ts) = .ok (e, r) := by
  obtain ⟨hr', hx⟩ := eq_ok_of_answer h
  rw [assignment, hx]
  dsimp only [bind, Except.bind]
  cases r with
  | nil => rfl
  | cons t r' =>
    simp only [peek] at hr
    simp only [hr]
    rfl

theorem answer_assignment_step {ts r' r2 : List Token} {t : Token} {n : Nat} {op : AssignOp}
    {rhs : Expr} (h : answer (level 5 ts) = .ok (.counter n, t :: r')) (hop : assignAt t = some op)
    (hr : answer (assignment r') = .ok (rhs, r2)) :
    answer (assignment ts) = .ok (.assign n op rhs, r2) := by
  obtain ⟨h1, hx⟩ := eq_ok_of_answer h
  obtain ⟨h2, hy⟩ := eq_ok_of_answer hr
  rw [assignment, hx]
  dsimp only [bind, Except.bind]
  simp only [hop, hy]
  rfl

theorem answer_arguments_nil (name : String) (r : List Token) :
    answer (arguments name (.sym .rparen :: r)) = .ok ([], r) := by
  rw [arguments]
  rfl

theorem arguments_eq {name : String} {ts : List Token} (h : ∀ r, ts ≠ .sym .rparen :: r) :
    arguments name ts = argumentList name ts := by
  rw [arguments]
  exact h

theorem answer_argumentList_omitted_comma {name : String} {r2 r3 : List Token}
    {more : List (Option Expr)} (h : answer (argumentList name r2) = .ok (more, r3)) :
    answer (argumentList name (.sym .comma :: r2)) = .ok (none :: more, r3) := by
  obtain ⟨hr, hx⟩ := eq_ok_of_answer h
  have hom : omitted (peek (.sym .comma :: r2)) = true := rfl
  rw [argumentList, if_pos hom]
  dsimp only [bind, Except.bind, pure, Except.pure]
  simp only [hx]
  rfl

theorem answer_argumentList_omitted_close (name : String) (r2 : List Token) :
    answer (argumentList name (.sym .rparen :: r2)) = .ok ([none], r2) := by
  rw [argumentList]
  rfl

theorem answer_argumentList_comma {name : String} {ts r2 r3 : List Token} {e : Expr}
    {more : List (Option Expr)} (ho : omitted (peek ts) = false)
    (he : answer (assignment ts) = .ok (e, .sym .comma :: r2))
    (h : answer (argumentList name r2) = .ok (more, r3)) :
    answer (argumentList name ts) = .ok (some e :: more, r3) := by
  obtain ⟨h1, hx⟩ := eq_ok_of_answer he
  obtain ⟨h2, hy⟩ := eq_ok_of_answer h
  rw [argumentList, if_neg (by simp [ho])]
  dsimp only [bind, Except.bind, pure, Except.pure]
  simp only [hx, hy]
  rfl

theorem answer_argumentList_close {name : String} {ts r2 : List Token} {e : Expr}
    (ho : omitted (peek ts) = false) (he : answer (assignment ts) = .ok (e, .sym .rparen :: r2)) :
    answer (argumentList name ts) = .ok ([some e], r2) := by
  obtain ⟨h1, hx⟩ := eq_ok_of_answer he
  rw [argumentList, if_neg (by simp [ho])]
  dsimp only [bind, Except.bind, pure, Except.pure]
  simp only [hx]
  rfl

/-! ## Climbing the levels -/

theorem level_lift {j k : Nat} {ts rest : List Token} {e : Expr} (hjk : j ≤ k)
    (hj : answer (level j ts) = answer (chain j e rest))
    (hrest : ∀ i < k, binaryAt i (peek rest) = none) :
    answer (level k ts) = answer (chain k e rest) := by
  induction k, hjk using Nat.le_induction with
  | base => exact hj
  | succ k hjk ih =>
    have hk : answer (level k ts) = .ok (e, rest) := by
      rw [ih fun i hi => hrest i (by omega), answer_chain_stop (hrest k (by omega))]
    exact answer_level (by rw [operand_succ]; exact hk)

theorem level_of_unary {k : Nat} {ts rest : List Token} {e : Expr}
    (h : answer (unary ts) = .ok (e, rest)) (hrest : ∀ i < k, binaryAt i (peek rest) = none) :
    answer (level k ts) = answer (chain k e rest) :=
  level_lift (Nat.zero_le k) (answer_level (by rw [operand_zero]; exact h)) hrest

/-! ## Reading printed expressions -/

/-- How the parser reads the printed tokens of `e`, followed by what may follow them. -/
structure Reads (e : Expr) : Prop where
  /-- As a whole expression, up to a closing token. -/
  whole : ∀ rest, Closing (peek rest) → answer (assignment (e.toks ++ rest)) = .ok (e, rest)
  /-- As the operand of a unary operator, whatever follows. -/
  unaryOperand : ∀ rest, answer (unary (e.paren 7 e.toks ++ rest)) = .ok (e, rest)
  /-- As the first operand at binary level `k`, when no operator of a tighter level follows. -/
  levelOperand : ∀ k rest, k ≤ 5 → (∀ i < k, binaryAt i (peek rest) = none) →
    answer (level k (e.paren (6 - k) e.toks ++ rest)) = answer (chain k e rest)

theorem unary_paren {e : Expr}
    (hw : ∀ rest, Closing (peek rest) → answer (assignment (e.toks ++ rest)) = .ok (e, rest))
    (rest : List Token) :
    answer (unary ((.sym .lparen :: e.toks ++ [.sym .rparen]) ++ rest)) = .ok (e, rest) := by
  have hts : (.sym .lparen :: e.toks ++ [.sym .rparen]) ++ rest =
      .sym .lparen :: (e.toks ++ .sym .rparen :: rest) := by simp
  rw [unary_primary rfl, hts]
  exact answer_primary_paren (hw _ (.inr (.inl rfl)))

/-- The readings of an expression follow from its whole reading, from how each level reads it
where no parenthesis is needed, and from how the unary parser reads it where it binds as
tightly as a unary operator. -/
theorem Reads.of_parts {e : Expr}
    (hw : ∀ rest, Closing (peek rest) → answer (assignment (e.toks ++ rest)) = .ok (e, rest))
    (hlevel : ∀ k rest, k ≤ 5 → 6 - k ≤ e.grade → (∀ i < k, binaryAt i (peek rest) = none) →
      answer (level k (e.toks ++ rest)) = answer (chain k e rest))
    (hunary : 7 ≤ e.grade → ∀ rest, answer (unary (e.toks ++ rest)) = .ok (e, rest)) :
    Reads e where
  whole := hw
  unaryOperand rest := by
    by_cases hg : e.grade < 7
    · rw [Expr.paren_of_lt hg]
      exact unary_paren hw rest
    · rw [Expr.paren_of_le (by omega)]
      exact hunary (by omega) rest
  levelOperand k rest hk hrest := by
    by_cases hg : e.grade < 6 - k
    · rw [Expr.paren_of_lt hg]
      exact level_of_unary (unary_paren hw rest) hrest
    · rw [Expr.paren_of_le (by omega)]
      exact hlevel k rest hk (by omega) hrest

theorem whole_of_level {e : Expr}
    (h : ∀ rest, (∀ i < 5, binaryAt i (peek rest) = none) →
      answer (level 5 (e.toks ++ rest)) = answer (chain 5 e rest))
    (rest : List Token) (hc : Closing (peek rest)) :
    answer (assignment (e.toks ++ rest)) = .ok (e, rest) := by
  have h5 : answer (level 5 (e.toks ++ rest)) = .ok (e, rest) := by
    rw [h rest fun i _ => binaryAt_closing hc i, answer_chain_stop (binaryAt_closing hc 5)]
  exact answer_assignment_stop h5 (assignAt_closing hc)

theorem Reads.of_unary {e : Expr}
    (h : ∀ rest, answer (unary (e.toks ++ rest)) = .ok (e, rest)) : Reads e :=
  have hlevel : ∀ k rest, (∀ i < k, binaryAt i (peek rest) = none) →
      answer (level k (e.toks ++ rest)) = answer (chain k e rest) :=
    fun _ rest hrest => level_of_unary (h rest) hrest
  .of_parts (whole_of_level (hlevel 5)) (fun k rest _ _ => hlevel k rest) fun _ => h

theorem Reads.operand {r : Expr} (hr : Reads r) {j : Nat} (hj : j ≤ 5) {rest : List Token}
    (hrest : ∀ i < j, binaryAt i (peek rest) = none) :
    answer (operand j (r.paren (7 - j) r.toks ++ rest)) = .ok (r, rest) := by
  cases j with
  | zero =>
    rw [operand_zero]
    exact hr.unaryOperand rest
  | succ i =>
    have hi : 7 - (i + 1) = 6 - i := by omega
    rw [operand_succ, hi, hr.levelOperand i rest (by omega) fun i' hi' => hrest i' (by omega),
      answer_chain_stop (hrest i (by omega))]

theorem level_binary {op : BinOp} {l r : Expr} (hl : Reads l) (hr : Reads r) {k : Nat}
    {rest : List Token} (hjk : op.level ≤ k)
    (hrest : ∀ i < k, binaryAt i (peek rest) = none) :
    answer (level k ((Expr.binary op l r).toks ++ rest)) =
      answer (chain k (.binary op l r) rest) := by
  have hop : ∀ i < op.level,
      binaryAt i (peek (.sym op.sym :: (r.paren (7 - op.level) r.toks ++ rest))) = none := by
    intro i hi
    rw [peek, binaryAt_sym, if_neg (by omega)]
  have hright := hr.operand op.level_le fun i hi => hrest i (by omega)
  have hts : (Expr.binary op l r).toks ++ rest = l.paren (6 - op.level) l.toks ++
      .sym op.sym :: (r.paren (7 - op.level) r.toks ++ rest) := by
    simp [Expr.toks]
  have hj : answer (level op.level ((Expr.binary op l r).toks ++ rest)) =
      answer (chain op.level (.binary op l r) rest) := by
    rw [hts, hl.levelOperand op.level _ op.level_le hop,
      answer_chain_step (by rw [binaryAt_sym, if_pos rfl]) hright]
  exact level_lift hjk hj hrest

theorem answer_arguments {name : String} {args : List (Option Expr)} {rest : List Token}
    (hp : Expr.argsPrintable args) (hlone : Expr.loneOmitted args = false)
    (h : args ≠ [] →
      answer (argumentList name (Expr.argToks args ++ .sym .rparen :: rest)) = .ok (args, rest)) :
    answer (arguments name (Expr.argToks args ++ .sym .rparen :: rest)) = .ok (args, rest) := by
  match args, hp, hlone, h with
  | [], _, _, _ => exact answer_arguments_nil name rest
  | [none], _, hlone, _ => exact absurd hlone (by decide)
  | none :: a :: more, _, _, h =>
    rw [arguments_eq fun r he => by cases he]
    exact h (List.cons_ne_nil _ _)
  | some e :: more, hp, _, h =>
    simp only [Expr.argsPrintable, Bool.and_eq_true] at hp
    have ho : omitted (peek (Expr.argToks (some e :: more) ++ .sym .rparen :: rest)) = false := by
      cases more with
      | nil => exact omitted_toks hp.1 _
      | cons a more =>
        simp only [Expr.argToks, List.append_assoc]
        exact omitted_toks hp.1 _
    rw [arguments_eq fun r he => by rw [he] at ho; cases ho]
    exact h (List.cons_ne_nil _ _)

theorem Reads.of_primary {e : Expr} {t : Token} (htoks : e.toks = [t])
    (hu : unaryAt t = none) (hp : ∀ rest, answer (primary (t :: rest)) = .ok (e, rest)) :
    Reads e :=
  .of_unary fun rest => by
    have hu' : unaryAt (peek (t :: rest)) = none := hu
    rw [htoks, List.singleton_append, unary_primary hu']
    exact hp rest

theorem reads_field {c : Char} : Reads (.field c) :=
  .of_primary rfl rfl fun rest => by
    rw [primary]
    rfl

mutual
theorem Expr.reads : ∀ e : Expr, e.printable → Reads e
  | .lit (.int _), _ | .lit (.str _), _ | .counter _, _ | .config _, _ =>
    .of_primary rfl rfl fun rest => by
      rw [primary]
      rfl
  | .lit (.real _), h | .lit .absent, h => by simp [Expr.printable] at h
  | .field c, _ => reads_field
  | .unary op e, h => by
    simp only [Expr.printable] at h
    exact .of_unary fun rest =>
      answer_unary_op (unaryAt_sym op) ((Expr.reads e h).unaryOperand rest)
  | .binary op l r, h => by
    simp only [Expr.printable, Bool.and_eq_true] at h
    have hl := Expr.reads l h.1
    have hr := Expr.reads r h.2
    have hg : (Expr.binary op l r).grade = 6 - op.level := rfl
    have hlevel : ∀ k rest, k ≤ 5 → 6 - k ≤ (Expr.binary op l r).grade →
        (∀ i < k, binaryAt i (peek rest) = none) →
        answer (level k ((Expr.binary op l r).toks ++ rest)) =
          answer (chain k (.binary op l r) rest) :=
      fun k rest _ hgk hrest => level_binary hl hr (by have := op.level_le; omega) hrest
    have hg5 : 6 - 5 ≤ (Expr.binary op l r).grade := by
      have := op.level_le
      omega
    exact .of_parts (whole_of_level fun rest => hlevel 5 rest le_rfl hg5)
      hlevel fun h7 => absurd h7 (by omega)
  | .assign n op e, h => by
    simp only [Expr.printable, Bool.and_eq_true, decide_eq_true_eq] at h
    have he := Expr.reads e h.2
    -- the counter is read by level 5, which stops at the assignment operator
    have hcounter : ∀ rest : List Token, answer (level 5 (.counter n :: .sym op.sym :: rest)) =
        .ok (.counter n, .sym op.sym :: rest) := by
      intro rest
      have hu : answer (unary (.counter n :: .sym op.sym :: rest)) =
          .ok (.counter n, .sym op.sym :: rest) := by
        rw [unary_primary rfl, primary]
        rfl
      rw [level_of_unary hu fun i _ => binaryAt_assign op i,
        answer_chain_stop (binaryAt_assign op 5)]
    -- an assignment is read only whole: every other entry point parenthesises it
    refine .of_parts (fun rest hc => ?_) (fun k _ hk hgk _ => absurd hgk (by simp [Expr.grade]; omega))
      fun h7 => absurd h7 (by simp [Expr.grade])
    exact answer_assignment_step (hcounter _) (assignAt_sym op) (he.whole rest hc)
  | .call name args, h => by
    simp only [Expr.printable, Bool.and_eq_true, bne_iff_ne, ne_eq, Bool.not_eq_true'] at h
    obtain ⟨⟨⟨-, hn⟩, hlone⟩, hargs⟩ := h
    refine .of_unary fun rest => ?_
    have hts : (Expr.call name args).toks ++ rest =
        .func name :: .sym .lparen :: (Expr.argToks args ++ .sym .rparen :: rest) := by
      simp [Expr.toks]
    rw [hts, unary_primary rfl]
    exact answer_primary_call hn
      (answer_arguments hargs hlone fun hne => Expr.readsArgs args hargs hne name rest)
  | .controlBreak c, h => .of_unary fun rest => by
    rw [unary_primary rfl]
    have ho : omitted (peek (.field c :: .sym .rparen :: rest)) = false := rfl
    have hw : answer (assignment ([.field c] ++ .sym .rparen :: rest)) =
        .ok (.field c, .sym .rparen :: rest) := reads_field.whole _ (.inr (.inl rfl))
    exact answer_primary_break (by
      rw [arguments_eq fun r he => by cases he]
      exact answer_argumentList_close ho hw)
theorem Expr.readsArgs : ∀ args : List (Option Expr), Expr.argsPrintable args → args ≠ [] →
    ∀ name rest, answer (argumentList name (Expr.argToks args ++ .sym .rparen :: rest)) =
      .ok (args, rest)
  | [], _, hne, _, _ => absurd rfl hne
  | [none], _, _, name, rest => answer_argumentList_omitted_close name rest
  | [some e], h, _, name, rest => by
    simp only [Expr.argsPrintable, Bool.and_true] at h
    exact answer_argumentList_close (omitted_toks h _)
      ((Expr.reads e h).whole _ (.inr (.inl rfl)))
  | none :: a :: more, h, _, name, rest => by
    simp only [Expr.argsPrintable] at h
    exact answer_argumentList_omitted_comma (Expr.readsArgs (a :: more) h (List.cons_ne_nil _ _)
      name rest)
  | some e :: a :: more, h, _, name, rest => by
    simp only [Expr.argsPrintable, Bool.and_eq_true] at h
    have hts : Expr.argToks (some e :: a :: more) ++ .sym .rparen :: rest =
        e.toks ++ .sym .comma :: (Expr.argToks (a :: more) ++ .sym .rparen :: rest) := by
      simp [Expr.argToks]
    rw [hts]
    exact answer_argumentList_comma (omitted_toks h.1 _)
      ((Expr.reads e h.1).whole _ (.inr (.inr rfl)))
      (Expr.readsArgs (a :: more) h.2 (List.cons_ne_nil _ _) name rest)
end

theorem parse_eq {s : String} {e : Expr} {r : List Token}
    (h : answer (assignment (Lexer.tokens s)) = .ok (e, r)) (hr : peek r = .eof) :
    parse s = .ok e := by
  obtain ⟨_, hx⟩ := eq_ok_of_answer h
  rw [parse, parseTokens, hx]
  dsimp only [bind, Except.bind]
  rw [hr]
  rfl

/-- The parser reads every printable expression back from its printed text. -/
theorem parse_print {e : Expr} (h : e.printable) : parse e.print = .ok e := by
  have hread : answer (assignment (Lexer.tokens e.print)) = .ok (e, [.eof]) := by
    rw [Lexer.tokens_print h]
    exact (Expr.reads e h).whole [.eof] (.inl rfl)
  exact parse_eq hread rfl

/-- `( #1 += 2 ) * f ( , "a" )` reads back: an assignment in parentheses, and a call whose
first argument is omitted. -/
theorem parse_print_assignment_call :
    (Expr.binary .mul (.assign 1 .add (.lit (.int 2))) (.call "f" [none, some (.lit (.str "a"))])).printable ∧
      parse (Expr.binary .mul (.assign 1 .add (.lit (.int 2)))
        (.call "f" [none, some (.lit (.str "a"))])).print =
        .ok (.binary .mul (.assign 1 .add (.lit (.int 2))) (.call "f" [none, some (.lit (.str "a"))])) :=
  ⟨by decide, parse_print (by decide)⟩

end ColumnSpec.Parser
