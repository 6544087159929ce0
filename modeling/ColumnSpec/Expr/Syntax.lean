import ColumnSpec.Value.Basic
/-!
# Expression syntax

Literals, counters `#n`, field identifiers, configuration literals `@key`, calls and
`break(c)`. Binary operators group to the left, assignment to the right and loosest.
-/
namespace ColumnSpec

/-- The operator and punctuation symbols of expressions. -/
inductive Sym where
  | plus | minus | star | slash | slashSlash | percent | concat | not
  | eq | ne | lt | le | gt | ge
  | strictEq | strictNe | strictLt | strictLe | strictGt | strictGe
  | and | or
  | assign | addAssign | subAssign | mulAssign | divAssign | intDivAssign | remAssign
  | concatAssign
  | comma | lparen | rparen
deriving DecidableEq, Repr

def Sym.text : Sym → String
  | .plus => "+" | .minus => "-" | .star => "*" | .slash => "/" | .slashSlash => "//"
  | .percent => "%" | .concat => "||" | .not => "!"
  | .eq => "=" | .ne => "!=" | .lt => "<" | .le => "<=" | .gt => ">" | .ge => ">="
  | .strictEq => "==" | .strictNe => "!==" | .strictLt => "<<" | .strictLe => "<<="
  | .strictGt => ">>" | .strictGe => ">>="
  | .and => "&" | .or => "|"
  | .assign => ":=" | .addAssign => "+=" | .subAssign => "-=" | .mulAssign => "*="
  | .divAssign => "/=" | .intDivAssign => "//=" | .remAssign => "%=" | .concatAssign => "||="
  | .comma => "," | .lparen => "(" | .rparen => ")"

/-- A lexical token of an expression. -/
inductive Token where
  | int (n : Int)
  | real (x : Float)
  | str (s : String)
  | counter (n : Nat)
  | field (c : Char)
  | config (key : String)
  /-- A name followed by an opening parenthesis, lower-cased. -/
  | func (name : String)
  | sym (s : Sym)
  /-- Text that is no token; reported when the parser reaches it. -/
  | unknown (s : String)
  | eof

def Token.text : Token → String
  | .int n => toString n
  | .real x => realText x
  | .str s => "'" ++ s ++ "'"
  | .counter n => "#" ++ toString n
  | .field c => c.toString
  | .config k => "@" ++ k
  | .func name => name ++ "("
  | .sym s => s.text
  | .unknown s => s
  | .eof => "end of expression"

def Token.isSym (t : Token) (s : Sym) : Bool :=
  match t with
  | .sym s' => s' == s
  | _ => false

inductive UnaryOp where
  | plus | neg | not
deriving DecidableEq, Repr

inductive BinOp where
  | add | sub | mul | div | intDiv | rem | concat
  | eq | ne | lt | le | gt | ge
  | strictEq | strictNe | strictLt | strictLe | strictGt | strictGe
  | and | or
deriving DecidableEq, Repr

def UnaryOp.name : UnaryOp → String
  | .plus => "plus" | .neg => "neg" | .not => "not"

def BinOp.symbol : BinOp → String
  | .add => "+" | .sub => "-" | .mul => "*" | .div => "/" | .intDiv => "//" | .rem => "%"
  | .concat => "||" | .eq => "=" | .ne => "!=" | .lt => "<" | .le => "<=" | .gt => ">"
  | .ge => ">=" | .strictEq => "==" | .strictNe => "!==" | .strictLt => "<<"
  | .strictLe => "<<=" | .strictGt => ">>" | .strictGe => ">>=" | .and => "&" | .or => "|"

/-- The assignment operators: plain, and compound with a binary operator. -/
inductive AssignOp where
  | set | add | sub | mul | div | intDiv | rem | concat
deriving DecidableEq, Repr

def AssignOp.symbol : AssignOp → String
  | .set => ":=" | .add => "+=" | .sub => "-=" | .mul => "*=" | .div => "/="
  | .intDiv => "//=" | .rem => "%=" | .concat => "||="

/-- An expression. -/
inductive Expr where
  | lit (v : Value)
  | counter (n : Nat)
  | field (c : Char)
  | config (key : String)
  | unary (op : UnaryOp) (e : Expr)
  | binary (op : BinOp) (l r : Expr)
  | assign (n : Nat) (op : AssignOp) (e : Expr)
  /-- A call; an omitted argument is `none`. -/
  | call (name : String) (args : List (Option Expr))
  /-- `break(c)`: whether the text bound to `c` changed since the previous record. -/
  | controlBreak (c : Char)

instance : Inhabited Expr := ⟨.lit .absent⟩

def Expr.isAssignment : Expr → Bool
  | .assign .. => true
  | _ => false

/-- The binary operator of a compound assignment. -/
def AssignOp.binOp? : AssignOp → Option BinOp
  | .set => none
  | .add => some .add
  | .sub => some .sub
  | .mul => some .mul
  | .div => some .div
  | .intDiv => some .intDiv
  | .rem => some .rem
  | .concat => some .concat

mutual
/-- Whether some call in the expression, or a control break, satisfies `p`. -/
def Expr.anyCall (p : String → Bool) : Expr → Bool
  | .unary _ e => e.anyCall p
  | .binary _ l r => l.anyCall p || r.anyCall p
  | .assign _ _ e => e.anyCall p
  | .call name args => p name || Expr.anyCallArgs p args
  | .controlBreak _ => true
  | _ => false
/-- `Expr.anyCall` over an argument list. -/
def Expr.anyCallArgs (p : String → Bool) : List (Option Expr) → Bool
  | [] => false
  | none :: rest => Expr.anyCallArgs p rest
  | some e :: rest => e.anyCall p || Expr.anyCallArgs p rest
end

end ColumnSpec
