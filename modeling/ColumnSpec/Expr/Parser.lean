import ColumnSpec.Expr.Lexer
/-!
# Expression parser

A precedence parser over the token list. Every parser returns the tokens it left, no more
than it was given, so the parsers recurse on input length and grammar level without fuel.
-/
namespace ColumnSpec.Parser

/-- The tokens a parser leaves, never more than it was given. -/
abbrev Rest (ts : List Token) := { r : List Token // r.length ≤ ts.length }

/-- The next token; past the end there is only `eof`. -/
def peek : List Token → Token
  | t :: _ => t
  | [] => .eof

/-- The binary operator of a token at binary level `k`. -/
def binaryAt : Nat → Token → Option BinOp
  | 0, .sym .star => some .mul
  | 0, .sym .slash => some .div
  | 0, .sym .slashSlash => some .intDiv
  | 0, .sym .percent => some .rem
  | 1, .sym .plus => some .add
  | 1, .sym .minus => some .sub
  | 2, .sym .concat => some .concat
  | 3, .sym .eq => some .eq
  | 3, .sym .ne => some .ne
  | 3, .sym .lt => some .lt
  | 3, .sym .le => some .le
  | 3, .sym .gt => some .gt
  | 3, .sym .ge => some .ge
  | 3, .sym .strictEq => some .strictEq
  | 3, .sym .strictNe => some .strictNe
  | 3, .sym .strictLt => some .strictLt
  | 3, .sym .strictLe => some .strictLe
  | 3, .sym .strictGt => some .strictGt
  | 3, .sym .strictGe => some .strictGe
  | 4, .sym .and => some .and
  | 5, .sym .or => some .or
  | _, _ => none

def assignAt : Token → Option AssignOp
  | .sym .assign => some .set
  | .sym .addAssign => some .add
  | .sym .subAssign => some .sub
  | .sym .mulAssign => some .mul
  | .sym .divAssign => some .div
  | .sym .intDivAssign => some .intDiv
  | .sym .remAssign => some .rem
  | .sym .concatAssign => some .concat
  | _ => none

def unaryAt : Token → Option UnaryOp
  | .sym .minus => some .neg
  | .sym .plus => some .plus
  | .sym .not => some .not
  | _ => none

/-- Whether an argument is omitted here: a comma or a closing parenthesis follows. -/
def omitted (t : Token) : Bool := t.isSym .comma || t.isSym .rparen

mutual
/-- `assignment := level₅ (assignOp assignment)?`, the target being a counter. -/
def assignment (ts : List Token) : Except String (Expr × Rest ts) := do
  let (lhs, ⟨r, h⟩) ← level 5 ts
  match r, h with
  | t :: r', h =>
    match assignAt t with
    | some op =>
      match lhs with
      | .counter n =>
        let (rhs, ⟨r2, h2⟩) ← assignment r'
        pure (.assign n op rhs, ⟨r2, by simp at h; omega⟩)
      | _ => throw (Fault.assignmentTarget (peek ts).text).message
    | none => pure (lhs, ⟨t :: r', h⟩)
  | [], _ => pure (lhs, ⟨[], by simp⟩)
termination_by (ts.length, 15)

/-- `level k := operand k (op_k operand k)*`. -/
def level (k : Nat) (ts : List Token) : Except String (Expr × Rest ts) := do
  let (lhs, ⟨r, h⟩) ← operand k ts
  let (e, ⟨r2, h2⟩) ← chain k lhs r
  pure (e, ⟨r2, by omega⟩)
termination_by (ts.length, 2 * k + 3)
decreasing_by
  all_goals
    first
      | exact Prod.Lex.right _ (by omega)
      | (rcases Nat.lt_or_eq_of_le h with h | h
         · exact Prod.Lex.left _ _ h
         · rw [h]; exact Prod.Lex.right _ (by omega))

/-- The operands of binary level `k`: level `k - 1`, or the unary level below level 0. -/
def operand (k : Nat) (ts : List Token) : Except String (Expr × Rest ts) :=
  match k with
  | 0 => unary ts
  | k + 1 => level k ts
termination_by (ts.length, 2 * k + 2)

/-- The operators and operands of level `k` that follow `lhs`, grouped to the left. -/
def chain (k : Nat) (lhs : Expr) (ts : List Token) : Except String (Expr × Rest ts) :=
  match ts with
  | t :: r =>
    match binaryAt k t with
    | some op => do
      let (rhs, ⟨r1, h1⟩) ← operand k r
      let (e, ⟨r2, h2⟩) ← chain k (.binary op lhs rhs) r1
      pure (e, ⟨r2, by simp; omega⟩)
    | none => pure (lhs, ⟨t :: r, Nat.le_refl _⟩)
  | [] => pure (lhs, ⟨[], Nat.le_refl _⟩)
termination_by (ts.length, 2 * k + 2)

/-- `unary := unaryOp unary | primary`. -/
def unary (ts : List Token) : Except String (Expr × Rest ts) :=
  match ts with
  | t :: r =>
    match unaryAt t with
    | some op => do
      let (e, ⟨r1, h1⟩) ← unary r
      pure (.unary op e, ⟨r1, by simp; omega⟩)
    | none => primary (t :: r)
  | [] => primary []
termination_by (ts.length, 1)

/-- Literals, counters, fields, configuration literals, calls and parenthesised
expressions. -/
def primary (ts : List Token) : Except String (Expr × Rest ts) :=
  match ts with
  | [] => throw "Unexpected end of expression in expression"
  | t :: r =>
    match t with
    | .int n => pure (.lit (.int n), ⟨r, by simp⟩)
    | .real x => pure (.lit (.real x), ⟨r, by simp⟩)
    | .str s => pure (.lit (.str s), ⟨r, by simp⟩)
    | .counter n => pure (.counter n, ⟨r, by simp⟩)
    | .field c => pure (.field c, ⟨r, by simp⟩)
    | .config k => pure (.config k, ⟨r, by simp⟩)
    | .func name =>
      match r with
      | .sym .lparen :: r' => do
        let (args, ⟨r2, h2⟩) ← arguments name r'
        if name == "break" then
          match args with
          | [some (.field c)] => pure (.controlBreak c, ⟨r2, by simp; omega⟩)
          | _ => throw "break() takes one field identifier"
        else pure (.call name args, ⟨r2, by simp; omega⟩)
      | _ => throw ("Expected '(' after " ++ name)
    | .sym .lparen => do
      let (inner, ⟨r2, h2⟩) ← assignment r
      match r2, h2 with
      | .sym .rparen :: r3, h2 => pure (inner, ⟨r3, by simp at h2 ⊢; omega⟩)
      | r2, _ => throw ("Expected ')', got " ++ (peek r2).text)
    | .unknown s => throw ("Unknown token " ++ s ++ " in expression")
    | other => throw ("Unexpected " ++ other.text ++ " in expression")
termination_by (ts.length, 0)

/-- The arguments of a call, after its opening parenthesis. -/
def arguments (name : String) (ts : List Token) :
    Except String (List (Option Expr) × Rest ts) :=
  match ts with
  | .sym .rparen :: r => pure ([], ⟨r, by simp⟩)
  | ts' => argumentList name ts'
termination_by (ts.length, 17)

/-- Arguments separated by commas up to the closing parenthesis; an argument may be
omitted. -/
def argumentList (name : String) (ts : List Token) :
    Except String (List (Option Expr) × Rest ts) := do
  let (arg, ⟨r1, h1⟩) ← (if omitted (peek ts) then pure (none, ⟨ts, Nat.le_refl _⟩)
    else do
      let (e, ⟨r, h⟩) ← assignment ts
      pure (some e, ⟨r, h⟩) : Except String (Option Expr × Rest ts))
  match r1, h1 with
  | .sym .comma :: r2, h1 =>
    let (more, ⟨r3, h3⟩) ← argumentList name r2
    pure (arg :: more, ⟨r3, by simp at h1; omega⟩)
  | .sym .rparen :: r2, h1 => pure ([arg], ⟨r2, by simp at h1; omega⟩)
  | r1, _ => throw ("Expected ')' after arguments to " ++ name ++ ", got " ++ (peek r1).text)
termination_by (ts.length, 16)
end

/-- Reads a whole expression from tokens: the tokens after it must be the end. -/
def parseTokens (ts : List Token) : Except String Expr := do
  let (e, ⟨r, _⟩) ← assignment ts
  match peek r with
  | .eof => pure e
  | t => throw ("Unexpected " ++ t.text ++ " in expression")

def parse (s : String) : Except String Expr := parseTokens (Lexer.tokens s)

end ColumnSpec.Parser
