import ColumnSpec.Proofs.Expr.ParsePrint
/-!
# Reading an expression takes input at every step

Every token takes its first character (`token_rest_le`), and every production that answers
has taken a token (`Consumes`) and fails at the end of the input (`Progresses`); main
statement `reading_progresses`.
-/
namespace ColumnSpec.Lexer

theorem spanDigits_rest_le (cs : List Char) : (Decimal.spanDigits cs).2.length ≤ cs.length :=
  Text.length_dropWhile_le _ _

theorem number_rest_le (first : Char) (cs : List Char) :
    (number first cs).2.length ≤ cs.length := by
  unfold number
  split; rename_i ds r hdigits
  split; rename_i frac r2 hfrac
  split; rename_i expo r3 hexpo
  have h1 := spanDigits_rest_le cs
  have h2 : r2.length ≤ r.length := by
    repeat' split at hfrac
    all_goals grind [spanDigits_rest_le]
  have h3 : r3.length ≤ r2.length := by
    repeat' split at hexpo
    all_goals grind [spanDigits_rest_le]
  rw [hdigits] at h1
  dsimp only at h1 ⊢
  -- which token the text makes does not change what is left
  split <;> (try split) <;> dsimp only <;> omega

theorem quoted_rest_le (q : Char) (acc cs : List Char) :
    (quoted q acc cs).2.length ≤ cs.length := by
  fun_induction quoted q acc cs <;> simp_all <;> omega

theorem name_rest_le (first : Char) (cs : List Char) : (name first cs).2.length ≤ cs.length := by
  have h1 := Text.length_dropWhile_le isNameChar cs
  have h2 := Text.length_dropWhile_le Text.isBlank (cs.dropWhile isNameChar)
  unfold name
  dsimp only
  split <;> (try split) <;> (try split) <;> dsimp only <;> omega

theorem withEq_rest_le (cs : List Char) (yes no : Sym) :
    (withEq cs yes no).2.length ≤ cs.length := by
  unfold withEq
  split <;> simp

theorem token_rest_le (c : Char) (cs : List Char) : (token c cs).2.length ≤ cs.length := by
  unfold token
  split
  · exact number_rest_le c cs
  split
  · exact quoted_rest_le c [] cs
  split
  · exact name_rest_le c cs
  -- a symbol takes at most two characters after its first
  split <;> (repeat' split) <;>
    grind [withEq_rest_le, spanDigits_rest_le, Text.length_dropWhile_le]

theorem tokensOf_step {cs r : List Char} {c : Char} (h : cs.dropWhile Text.isBlank = c :: r) :
    tokensOf cs = (token c r).1 :: tokensOf (token c r).2 := by
  have hdrop := Text.length_dropWhile_le Text.isBlank cs
  rw [h, List.length_cons] at hdrop
  have htoken := token_rest_le c r
  exact tokensOf_cons h rfl (by omega)

theorem length_tokensOf_le (cs : List Char) : (tokensOf cs).length ≤ cs.length + 1 := by
  fun_induction tokensOf cs with
  | case1 => simp
  | case2 cs c r h t rest _ hlt ih =>
    simp only [List.length_cons]
    omega
  | case3 cs c r h t rest _ hlt =>
    have hdrop := Text.length_dropWhile_le Text.isBlank cs
    rw [h, List.length_cons] at hdrop
    simp only [List.length_cons, List.length_nil]
    omega

end ColumnSpec.Lexer

namespace ColumnSpec.Parser

variable {α : Type}

/-- An answer that has taken at least one token. -/
def Consumes {ts : List Token} (x : Except String (α × Rest ts)) : Prop :=
  ∀ a r, x = .ok (a, r) → r.1.length < ts.length

/-- What the termination of a production rests on: every answer takes a token, and at the end
of the tokens there is no answer. -/
def Progresses (p : (ts : List Token) → Except String (α × Rest ts)) : Prop :=
  (∀ ts, Consumes (p ts)) ∧
    ∀ ts, peek ts = .eof → p ts = .error "Unexpected end of expression in expression"

theorem except_bind_ok_inv {ε β γ : Type} {x : Except ε β} {f : β → Except ε γ} {c : γ}
    (h : x >>= f = .ok c) : ∃ b, x = .ok b ∧ f b = .ok c := by
  cases x with
  | error e => cases h
  | ok b => exact ⟨b, rfl, h⟩

theorem except_bind_error {ε β γ : Type} {x : Except ε β} {e : ε} (f : β → Except ε γ)
    (h : x = .error e) : x >>= f = .error e := by
  subst h
  rfl

/-! ## Every answer takes a token -/

theorem primary_consumes (ts : List Token) : Consumes (primary ts) := by
  intro a r h
  cases ts with
  | nil => rw [primary] at h; cases h
  | cons t rest =>
    rw [primary.eq_def] at h
    dsimp only at h
    -- the token is taken, and what follows it only shrinks
    suffices r.1.length ≤ rest.length by simp; omega
    split at h
    case h_7 name =>
      split at h
      · obtain ⟨⟨args, r2, h2⟩, -, h⟩ := except_bind_ok_inv h
        split at h
        · split at h
          · cases h; simp; omega
          · cases h
        · cases h; simp; omega
      · cases h
    case h_8 =>
      obtain ⟨⟨inner, r2, h2⟩, -, h⟩ := except_bind_ok_inv h
      split at h
      · rename_i hlen _ _
        cases h
        simp only [List.length_cons] at hlen
        simp only
        omega
      · cases h
    all_goals cases h
    all_goals simp

theorem unary_consumes (ts : List Token) : Consumes (unary ts) := by
  intro a r h
  cases ts with
  | nil =>
    rw [unary] at h
    exact primary_consumes [] a r h
  | cons t rest =>
    rw [unary] at h
    split at h
    · obtain ⟨⟨e, r1, h1⟩, -, h⟩ := except_bind_ok_inv h
      cases h
      simp only [List.length_cons]
      omega
    · exact primary_consumes _ a r h

theorem level_consumes_of {k : Nat} (hop : ∀ ts, Consumes (operand k ts)) (ts : List Token) :
    Consumes (level k ts) := by
  intro a r h
  rw [level] at h
  obtain ⟨⟨lhs, r1, h1⟩, hx, h⟩ := except_bind_ok_inv h
  obtain ⟨⟨e, r2, h2⟩, -, h⟩ := except_bind_ok_inv h
  cases h
  have := hop ts _ _ hx
  simp only at this ⊢
  omega

theorem operand_consumes (k : Nat) (ts : List Token) : Consumes (operand k ts) := by
  induction k generalizing ts with
  | zero => rw [operand_zero]; exact unary_consumes ts
  | succ k ih => rw [operand_succ]; exact level_consumes_of ih ts

theorem level_consumes (k : Nat) (ts : List Token) : Consumes (level k ts) :=
  level_consumes_of (operand_consumes k) ts

theorem assignment_consumes (ts : List Token) : Consumes (assignment ts) := by
  intro a r h
  rw [assignment] at h
  obtain ⟨⟨lhs, r1, h1⟩, hx, h⟩ := except_bind_ok_inv h
  have hlt := level_consumes 5 ts _ _ hx
  dsimp only at h hlt
  -- what follows the loosest binary level, less an assignment's operator and right side
  split at h
  · split at h
    · split at h
      · obtain ⟨⟨rhs, r2, h2⟩, -, h⟩ := except_bind_ok_inv h
        cases h
        simp only [List.length_cons] at hlt
        simp only
        omega
      · cases h
    · cases h
      exact hlt
  · cases h
    exact hlt

theorem argumentList_consumes (name : String) (ts : List Token) :
    Consumes (argumentList name ts) := by
  intro a r h
  rw [argumentList] at h
  obtain ⟨⟨arg, r1, h1⟩, -, h⟩ := except_bind_ok_inv h
  dsimp only at h
  split at h
  · rename_i r2 hlen
    obtain ⟨⟨more, r3, h3⟩, -, h⟩ := except_bind_ok_inv h
    cases h
    simp only [List.length_cons] at hlen
    simp only
    omega
  · rename_i r2 hlen
    cases h
    simp only [List.length_cons] at hlen
    simp only
    omega
  · cases h

theorem arguments_consumes (name : String) (ts : List Token) :
    Consumes (arguments name ts) := by
  intro a r h
  rw [arguments.eq_def] at h
  split at h
  · cases h
    simp
  · exact argumentList_consumes name _ a r h

/-! ## At the end of the tokens no production answers -/

theorem primary_at_end {ts : List Token} (h : peek ts = .eof) :
    primary ts = .error "Unexpected end of expression in expression" := by
  cases ts with
  | nil => rw [primary]; rfl
  | cons t rest =>
    simp only [peek] at h
    subst h
    rw [primary.eq_def]
    rfl

theorem unary_at_end {ts : List Token} (h : peek ts = .eof) :
    unary ts = .error "Unexpected end of expression in expression" := by
  rw [unary_primary (by rw [h]; rfl)]
  exact primary_at_end h

theorem level_at_end (k : Nat) {ts : List Token} (h : peek ts = .eof) :
    level k ts = .error "Unexpected end of expression in expression" := by
  induction k with
  | zero => rw [level]; exact except_bind_error _ (by rw [operand_zero]; exact unary_at_end h)
  | succ k ih => rw [level]; exact except_bind_error _ (by rw [operand_succ]; exact ih)

theorem assignment_at_end {ts : List Token} (h : peek ts = .eof) :
    assignment ts = .error "Unexpected end of expression in expression" := by
  rw [assignment]
  exact except_bind_error _ (level_at_end 5 h)

theorem argumentList_at_end (name : String) {ts : List Token} (h : peek ts = .eof) :
    argumentList name ts = .error "Unexpected end of expression in expression" := by
  rw [argumentList]
  -- the end is no omitted argument, so an expression is read there
  have homit : omitted (peek ts) = false := by rw [h]; rfl
  simp only [homit, Bool.false_eq_true, ↓reduceIte]
  exact except_bind_error _ (except_bind_error _ (assignment_at_end h))

theorem arguments_at_end (name : String) {ts : List Token} (h : peek ts = .eof) :
    arguments name ts = .error "Unexpected end of expression in expression" := by
  cases ts with
  | nil => rw [arguments.eq_def]; exact argumentList_at_end name h
  | cons t rest =>
    simp only [peek] at h
    subst h
    rw [arguments.eq_def]
    exact argumentList_at_end name rfl

/-! ## The reader -/

/-- Every step of reading an expression takes input: each token at least one character, so
that the lexer's loop needs no guard and makes at most one token per character besides the
final `eof`; each production of the parser that answers at least one token, and at the end of
the tokens none answers. -/
theorem reading_progresses :
    (∀ c cs, (Lexer.token c cs).2.length ≤ cs.length) ∧
    (∀ cs c r, cs.dropWhile Text.isBlank = c :: r →
      Lexer.tokensOf cs = (Lexer.token c r).1 :: Lexer.tokensOf (Lexer.token c r).2) ∧
    (∀ cs, (Lexer.tokensOf cs).length ≤ cs.length + 1) ∧
    Progresses assignment ∧ (∀ k, Progresses (level k)) ∧ Progresses unary ∧
    Progresses primary ∧ (∀ name, Progresses (arguments name)) ∧
    (∀ name, Progresses (argumentList name)) :=
  ⟨Lexer.token_rest_le, fun _ _ _ h => Lexer.tokensOf_step h, Lexer.length_tokensOf_le,
    ⟨assignment_consumes, fun _ => assignment_at_end⟩,
    fun k => ⟨level_consumes k, fun _ => level_at_end k⟩,
    ⟨unary_consumes, fun _ => unary_at_end⟩, ⟨primary_consumes, fun _ => primary_at_end⟩,
    fun name => ⟨arguments_consumes name, fun _ => arguments_at_end name⟩,
    fun name => ⟨argumentList_consumes name, fun _ => argumentList_at_end name⟩⟩

/-- The lexer's loop over `1+2` starts with the token of its first character, and an
expression read at the end of the tokens fails. -/
theorem reading_progresses_sum_and_end :
    ['1', '+', '2'].dropWhile Text.isBlank = '1' :: ['+', '2'] ∧
      Lexer.tokensOf ['1', '+', '2'] =
        (Lexer.token '1' ['+', '2']).1 :: Lexer.tokensOf (Lexer.token '1' ['+', '2']).2 ∧
      peek [] = .eof ∧ assignment [] = .error "Unexpected end of expression in expression" :=
  ⟨by decide, reading_progresses.2.1 _ _ _ (by decide), rfl,
    reading_progresses.2.2.2.1.2 [] rfl⟩

end ColumnSpec.Parser
