import ColumnSpec.Expr.Parser
import Mathlib.Data.List.Chain
/-!
# Printing expressions

`Expr.print` writes an expression with the parentheses its precedence needs;
`Expr.printable` says which expressions have a printed form that reads back.
-/
namespace ColumnSpec

/-! ## Operators -/

/-- The binary level of an operator, tightest first, as the parser numbers them. -/
def BinOp.level : BinOp → Nat
  | .mul | .div | .intDiv | .rem => 0
  | .add | .sub => 1
  | .concat => 2
  | .eq | .ne | .lt | .le | .gt | .ge
  | .strictEq | .strictNe | .strictLt | .strictLe | .strictGt | .strictGe => 3
  | .and => 4
  | .or => 5

/-- The symbol a binary operator is written with. -/
def BinOp.sym : BinOp → Sym
  | .add => .plus | .sub => .minus | .mul => .star | .div => .slash
  | .intDiv => .slashSlash | .rem => .percent | .concat => .concat
  | .eq => .eq | .ne => .ne | .lt => .lt | .le => .le | .gt => .gt | .ge => .ge
  | .strictEq => .strictEq | .strictNe => .strictNe | .strictLt => .strictLt
  | .strictLe => .strictLe | .strictGt => .strictGt | .strictGe => .strictGe
  | .and => .and | .or => .or

/-- The symbol a unary operator is written with. -/
def UnaryOp.sym : UnaryOp → Sym
  | .plus => .plus | .neg => .minus | .not => .not

/-- The symbol an assignment operator is written with. -/
def AssignOp.sym : AssignOp → Sym
  | .set => .assign | .add => .addAssign | .sub => .subAssign | .mul => .mulAssign
  | .div => .divAssign | .intDiv => .intDivAssign | .rem => .remAssign
  | .concat => .concatAssign

theorem BinOp.level_le (op : BinOp) : op.level ≤ 5 := by
  cases op <;> decide

/-! ## Tokens -/

/-- A string's characters with a backslash before each double quote and backslash. -/
def escape : List Char → List Char
  | [] => []
  | c :: cs => if c = '"' ∨ c = '\\' then '\\' :: c :: escape cs else c :: escape cs

def Token.written : Token → List Char
  | .int n => Nat.toDigits 10 n.toNat
  | .str s => '"' :: escape s.toList ++ ['"']
  | .counter n => '#' :: Nat.toDigits 10 n
  | .field c => [c]
  | .config k => '@' :: k.toList
  | .func name => name.toList
  | .sym s => s.text.toList
  | .real _ | .unknown _ | .eof => []

/-- A function name the lexer reads back as it is: a lower-case letter or `_`, then
lower-case letters, digits and `_`. -/
def isCallName (name : String) : Bool :=
  match name.toList with
  | c :: cs => (c.isLower || c == '_') && cs.all fun d => d.isLower || d.isDigit || d == '_'
  | [] => false

/-- The tokens the printer writes so that the lexer reads them back. -/
def Token.writable : Token → Bool
  | .int n => decide (0 ≤ n ∧ n ≤ wordMax)
  | .str _ => true
  | .counter n => decide (n < Nat.pow 2 64)
  | .field c => c.isAlpha
  | .config k => !k.isEmpty && k.toList.all Lexer.isNameChar
  | .func name => isCallName name
  | .sym _ => true
  | .real _ | .unknown _ | .eof => false

/-- Which token may follow which in a printed text: a name is read as a function exactly
when an opening parenthesis follows it. -/
def Token.Adjacent : Token → Token → Prop
  | .field _, b => b ≠ .sym .lparen
  | .func _, b => b = .sym .lparen
  | _, _ => True

/-- Tokens written one after another, one blank between two. -/
def Token.spell : List Token → List Char
  | [] => []
  | [t] => t.written
  | t :: u :: ts => t.written ++ ' ' :: Token.spell (u :: ts)

/-! ## Expressions -/

/-- How tightly an expression binds in print: an assignment 0, a binary operator of level
`k` `6 - k`, a unary operator 7, anything else 8. -/
def Expr.grade : Expr → Nat
  | .assign .. => 0
  | .binary op _ _ => 6 - op.level
  | .unary .. => 7
  | _ => 8

/-- The tokens `ts` of `e`, in parentheses when `e` binds looser than grade `g`. -/
def Expr.paren (g : Nat) (e : Expr) (ts : List Token) : List Token :=
  if e.grade < g then .sym .lparen :: ts ++ [.sym .rparen] else ts

mutual
/-- The tokens of an expression in print. The operand of a unary operator binds at least as
tightly as a unary operator; of a binary operator of level `k`, the left one as tightly as
level `k` and the right one more tightly. -/
def Expr.toks : Expr → List Token
  | .lit (.int n) => [.int n]
  | .lit (.str s) => [.str s]
  | .lit _ => []
  | .counter n => [.counter n]
  | .field c => [.field c]
  | .config k => [.config k]
  | .unary op e => .sym op.sym :: e.paren 7 e.toks
  | .binary op l r =>
    l.paren (6 - op.level) l.toks ++ .sym op.sym :: r.paren (7 - op.level) r.toks
  | .assign n op e => .counter n :: .sym op.sym :: e.toks
  | .call name args => .func name :: .sym .lparen :: Expr.argToks args ++ [.sym .rparen]
  | .controlBreak c => [.func "break", .sym .lparen, .field c, .sym .rparen]
/-- The tokens of call arguments, separated by commas; an omitted argument has none. -/
def Expr.argToks : List (Option Expr) → List Token
  | [] => []
  | [none] => []
  | [some e] => e.toks
  | none :: a :: rest => .sym .comma :: Expr.argToks (a :: rest)
  | some e :: a :: rest => e.toks ++ .sym .comma :: Expr.argToks (a :: rest)
end

def Expr.print (e : Expr) : String := String.ofList (Token.spell e.toks)

-- subtraction groups to the left, so only a right operand of its level is parenthesised
example : (Expr.binary .sub (.binary .sub (.lit (.int 1)) (.lit (.int 2))) (.lit (.int 3))).print =
    "1 - 2 - 3" := by decide
example : (Expr.binary .sub (.lit (.int 1)) (.binary .sub (.lit (.int 2)) (.lit (.int 3)))).print =
    "1 - ( 2 - 3 )" := by decide
example : (Expr.call "f" [none, some (.lit (.str "a\"b"))]).print = "f ( , \"a\\\"b\" )" := by
  decide

/-- Whether an argument list is one omitted argument, which prints as no argument. -/
def Expr.loneOmitted : List (Option Expr) → Bool
  | [none] => true
  | _ => false

mutual
/-- Whether an expression has a printed form that reads back. -/
def Expr.printable : Expr → Bool
  | .lit (.int n) => decide (0 ≤ n ∧ n ≤ wordMax)
  | .lit (.str _) => true
  | .lit _ => false
  | .counter n => decide (n < Nat.pow 2 64)
  | .field c => c.isAlpha
  | .config k => !k.isEmpty && k.toList.all Lexer.isNameChar
  | .unary _ e => e.printable
  | .binary _ l r => l.printable && r.printable
  | .assign n _ e => decide (n < Nat.pow 2 64) && e.printable
  | .call name args =>
    isCallName name && name != "break" && !Expr.loneOmitted args && Expr.argsPrintable args
  | .controlBreak c => c.isAlpha
/-- `Expr.printable` over call arguments. -/
def Expr.argsPrintable : List (Option Expr) → Bool
  | [] => true
  | none :: rest => Expr.argsPrintable rest
  | some e :: rest => e.printable && Expr.argsPrintable rest
end

/-! ## The printed tokens -/

section Tokens

open List Token

theorem Expr.paren_of_lt {g : Nat} {e : Expr} (h : e.grade < g) (ts : List Token) :
    e.paren g ts = .sym .lparen :: ts ++ [.sym .rparen] := if_pos h

theorem Expr.paren_of_le {g : Nat} {e : Expr} (h : g ≤ e.grade) (ts : List Token) :
    e.paren g ts = ts := if_neg (Nat.not_lt.mpr h)

theorem Expr.mem_paren {g : Nat} {e : Expr} {ts : List Token} {t : Token}
    (h : t ∈ e.paren g ts) : t ∈ ts ∨ t = .sym .lparen ∨ t = .sym .rparen := by
  unfold Expr.paren at h
  split at h
  · simp only [cons_append, mem_cons, mem_append, not_mem_nil, or_false] at h
    rcases h with h | h | h
    · exact .inr (.inl h)
    · exact .inl h
    · exact .inr (.inr h)
  · exact .inl h

mutual
theorem Expr.writable_of_mem_toks : ∀ {e : Expr}, e.printable → ∀ t ∈ e.toks, t.writable
  | .lit (.int _), h, t, ht | .lit (.str _), h, t, ht | .counter _, h, t, ht
  | .field _, h, t, ht | .config _, h, t, ht => by
    rcases mem_singleton.mp ht with rfl
    exact h
  | .lit (.real _), h, _, _ | .lit .absent, h, _, _ => by simp [Expr.printable] at h
  | .controlBreak c, h, t, ht => by
    simp only [Expr.toks, mem_cons, not_mem_nil, or_false] at ht
    rcases ht with rfl | rfl | rfl | rfl
    · rfl
    · rfl
    · exact h
    · rfl
  | .unary op e, h, t, ht => by
    simp only [Expr.printable] at h
    rcases mem_cons.mp ht with rfl | ht
    · rfl
    · rcases Expr.mem_paren ht with ht | rfl | rfl
      · exact Expr.writable_of_mem_toks h t ht
      · rfl
      · rfl
  | .binary op l r, h, t, ht => by
    simp only [Expr.printable, Bool.and_eq_true] at h
    rcases mem_append.mp ht with ht | ht
    · rcases Expr.mem_paren ht with ht | rfl | rfl
      · exact Expr.writable_of_mem_toks h.1 t ht
      · rfl
      · rfl
    · rcases mem_cons.mp ht with rfl | ht
      · rfl
      · rcases Expr.mem_paren ht with ht | rfl | rfl
        · exact Expr.writable_of_mem_toks h.2 t ht
        · rfl
        · rfl
  | .assign n op e, h, t, ht => by
    simp only [Expr.printable, Bool.and_eq_true] at h
    rcases mem_cons.mp ht with rfl | ht
    · exact h.1
    · rcases mem_cons.mp ht with rfl | ht
      · rfl
      · exact Expr.writable_of_mem_toks h.2 t ht
  | .call name args, h, t, ht => by
    simp only [Expr.printable, Bool.and_eq_true] at h
    simp only [Expr.toks, cons_append, mem_cons, mem_append, not_mem_nil, or_false] at ht
    rcases ht with rfl | rfl | ht | rfl
    · exact h.1.1.1
    · rfl
    · exact Expr.writable_of_mem_argToks h.2 t ht
    · rfl
theorem Expr.writable_of_mem_argToks :
    ∀ {args : List (Option Expr)}, Expr.argsPrintable args → ∀ t ∈ Expr.argToks args, t.writable
  | [], _, t, ht | [none], _, t, ht => by simp [Expr.argToks] at ht
  | [some e], h, t, ht => by
    simp only [Expr.argsPrintable, Bool.and_eq_true] at h
    exact Expr.writable_of_mem_toks h.1 t ht
  | none :: a :: rest, h, t, ht => by
    simp only [Expr.argsPrintable] at h
    rcases mem_cons.mp ht with rfl | ht
    · rfl
    · exact Expr.writable_of_mem_argToks h t ht
  | some e :: a :: rest, h, t, ht => by
    simp only [Expr.argsPrintable, Bool.and_eq_true] at h
    rcases mem_append.mp ht with ht | ht
    · exact Expr.writable_of_mem_toks h.1 t ht
    · rcases mem_cons.mp ht with rfl | ht
      · rfl
      · exact Expr.writable_of_mem_argToks h.2 t ht
end

/-- What may follow the tokens of a printed expression so that they read back: tokens that
read back among themselves and do not open with a parenthesis, which would turn a trailing
field identifier into a call. -/
def Token.Trail (rest : List Token) : Prop :=
  List.IsChain Adjacent rest ∧ ∀ y ∈ rest.head?, y ≠ .sym .lparen

theorem Token.sym_ne_lparen {s : Sym} (h : s ≠ .lparen) : Token.sym s ≠ .sym .lparen :=
  fun e => h (Token.sym.inj e)

theorem BinOp.sym_ne_lparen (op : BinOp) : op.sym ≠ .lparen := by
  cases op <;> decide

theorem Token.isChain_sym_cons {s : Sym} {rest : List Token} (h : List.IsChain Adjacent rest) :
    List.IsChain Adjacent (.sym s :: rest) :=
  isChain_cons.mpr ⟨fun _ _ => trivial, h⟩

theorem Token.trail_sym_cons {s : Sym} {rest : List Token} (h : List.IsChain Adjacent rest)
    (hs : s ≠ .lparen) : Trail (.sym s :: rest) := by
  refine ⟨isChain_sym_cons h, fun y hy => ?_⟩
  rcases Option.mem_some_iff.mp hy with rfl
  exact sym_ne_lparen hs

theorem Expr.isChain_paren_append {g : Nat} {e : Expr} {ts rest : List Token}
    (hts : ∀ rest, Trail rest → List.IsChain Adjacent (ts ++ rest)) (hr : Trail rest) :
    List.IsChain Adjacent (e.paren g ts ++ rest) := by
  unfold Expr.paren
  split
  · simp only [cons_append, append_assoc]
    exact isChain_sym_cons (hts _ (trail_sym_cons hr.1 (by decide)))
  · exact hts rest hr

mutual
theorem Expr.isChain_toks_append :
    ∀ e : Expr, e.printable → ∀ rest, Trail rest → List.IsChain Adjacent (e.toks ++ rest)
  | .lit (.int _), _, _, hr | .lit (.str _), _, _, hr | .counter _, _, _, hr
  | .config _, _, _, hr => isChain_cons.mpr ⟨fun _ _ => trivial, hr.1⟩
  | .field _, _, _, hr => isChain_cons.mpr ⟨hr.2, hr.1⟩
  | .lit (.real _), h, _, _ | .lit .absent, h, _, _ => by simp [Expr.printable] at h
  | .unary op e, h, rest, hr => by
    simp only [Expr.printable] at h
    exact isChain_sym_cons (isChain_paren_append (isChain_toks_append e h) hr)
  | .binary op l r, h, rest, hr => by
    simp only [Expr.printable, Bool.and_eq_true] at h
    have hright : List.IsChain Adjacent (r.paren (7 - op.level) r.toks ++ rest) :=
      isChain_paren_append (isChain_toks_append r h.2) hr
    simp only [Expr.toks, append_assoc, cons_append]
    exact isChain_paren_append (isChain_toks_append l h.1)
      (trail_sym_cons hright (BinOp.sym_ne_lparen op))
  | .assign n op e, h, rest, hr => by
    simp only [Expr.printable, Bool.and_eq_true] at h
    exact isChain_cons.mpr ⟨fun _ _ => trivial,
      isChain_sym_cons (isChain_toks_append e h.2 rest hr)⟩
  | .call name args, h, rest, hr => by
    simp only [Expr.printable, Bool.and_eq_true] at h
    simp only [Expr.toks, cons_append, append_assoc]
    exact isChain_cons_cons.mpr ⟨rfl, isChain_sym_cons
      (isChain_argToks_append args h.2 _ (trail_sym_cons hr.1 (by decide)))⟩
  | .controlBreak c, _, rest, hr =>
    isChain_cons_cons.mpr ⟨rfl, isChain_sym_cons
      (isChain_cons_cons.mpr ⟨sym_ne_lparen (by decide), isChain_sym_cons hr.1⟩)⟩
theorem Expr.isChain_argToks_append : ∀ args : List (Option Expr), Expr.argsPrintable args →
    ∀ rest, Trail rest → List.IsChain Adjacent (Expr.argToks args ++ rest)
  | [], _, _, hr | [none], _, _, hr => hr.1
  | [some e], h, rest, hr => by
    simp only [Expr.argsPrintable, Bool.and_true] at h
    exact isChain_toks_append e h rest hr
  | none :: a :: more, h, rest, hr => by
    simp only [Expr.argsPrintable] at h
    exact isChain_sym_cons (isChain_argToks_append (a :: more) h rest hr)
  | some e :: a :: more, h, rest, hr => by
    simp only [Expr.argsPrintable, Bool.and_eq_true] at h
    simp only [Expr.argToks, append_assoc, cons_append]
    exact isChain_toks_append e h.1 _
      (trail_sym_cons (isChain_argToks_append (a :: more) h.2 rest hr) (by decide))
end

theorem Expr.isChain_toks_eof {e : Expr} (h : e.printable) :
    List.IsChain Adjacent (e.toks ++ [.eof]) :=
  isChain_toks_append e h [.eof] ⟨isChain_singleton _, by simp⟩

end Tokens

end ColumnSpec
