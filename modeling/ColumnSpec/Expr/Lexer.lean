import ColumnSpec.Expr.Syntax
/-!
# Expression tokens

`Lexer.tokens` cuts an expression into tokens, skipping blanks. Text that is no token
becomes an `unknown` token, so that the parser reports it where it stands.
-/
namespace ColumnSpec.Lexer

def isNameChar (c : Char) : Bool := c.isAlphanum || c == '_'

/-- Whether the list starts with an ASCII digit. -/
def startsWithDigit : List Char → Bool
  | c :: _ => c.isDigit
  | [] => false

/-- The rest of a number after its first character: the text read and the token. A fraction
needs a digit after the point, an exponent a digit after its optional sign. -/
def number (first : Char) (cs : List Char) : Token × List Char :=
  let (ds, r) := Decimal.spanDigits cs
  let intPart := first :: ds
  let (frac, r) :=
    if first != '.' then
      match r with
      | '.' :: r' => if startsWithDigit r' then
          let (fs, r'') := Decimal.spanDigits r'
          ('.' :: fs, r'')
        else ([], r)
      | _ => ([], r)
    else ([], r)
  let (expo, r) := match r with
    | e :: r' =>
      if e == 'e' || e == 'E' then
        match r' with
        | s :: r'' =>
          if (s == '+' || s == '-') && startsWithDigit r'' then
            let (es, r3) := Decimal.spanDigits r''
            (e :: s :: es, r3)
          else if s.isDigit then
            let (es, r3) := Decimal.spanDigits r'
            (e :: es, r3)
          else ([], r)
        | [] => ([], r)
      else ([], r)
    | [] => ([], r)
  let text := intPart ++ frac ++ expo
  let isReal := first == '.' || !frac.isEmpty || !expo.isEmpty
  let asReal : Token := match Decimal.read? text with
    | some x => .real x
    | none => .unknown (String.ofList text)
  if isReal then (asReal, r)
  else match readWord? text with
    | some n => (.int n, r)
    | none => (asReal, r)

/-- The rest of a quoted string after its opening quote; `acc` holds the characters read,
last first. An unterminated string is an unknown token of the quote and the text read. -/
def quoted (q : Char) (acc : List Char) : List Char → Token × List Char
  | [] => (.unknown (String.ofList (q :: acc.reverse)), [])
  | '\\' :: [] => (.unknown (String.ofList (q :: acc.reverse ++ ['\\'])), [])
  | '\\' :: c :: r =>
    let c' := if c == 'n' then '\n' else if c == 't' then '\t' else c
    quoted q (c' :: acc) r
  | c :: r => if c == q then (.str (String.ofList acc.reverse), r) else quoted q (c :: acc) r

/-- The rest of a name after its first letter. -/
def name (first : Char) (cs : List Char) : Token × List Char :=
  let (more, r) := (cs.takeWhile isNameChar, cs.dropWhile isNameChar)
  let s := first :: more
  match r.dropWhile Text.isBlank with
  | '(' :: _ => (.func (String.ofList (s.map Char.toLower)), r.dropWhile Text.isBlank)
  | _ =>
    match s with
    | [c] => if c.isAlpha then (.field c, r) else (.unknown (String.ofList s), r)
    | _ => (.unknown (String.ofList s), r)

/-- A symbol whose text may be extended by `=`: the symbol with and without it. -/
def withEq (cs : List Char) (yes no : Sym) : Token × List Char :=
  match cs with
  | '=' :: r => (.sym yes, r)
  | _ => (.sym no, cs)

/-- The token at the head of a non-empty text, after its first character `c`. -/
def token (c : Char) (cs : List Char) : Token × List Char :=
  if c.isDigit || (c == '.' && startsWithDigit cs) then number c cs
  else if c == '"' || c == '\x27' then quoted c [] cs
  else if c.isAlpha || c == '_' then name c cs
  else match c with
    | '#' =>
      let (ds, r) := Decimal.spanDigits cs
      let n := Decimal.digitsValue ds
      if ds.isEmpty || Nat.pow 2 64 ≤ n then (.unknown (String.ofList ('#' :: ds)), r)
      else (.counter n, r)
    | '@' =>
      let (ks, r) := (cs.takeWhile isNameChar, cs.dropWhile isNameChar)
      if ks.isEmpty then (.unknown "@", r) else (.config (String.ofList ks), r)
    | '+' => withEq cs .addAssign .plus
    | '-' => withEq cs .subAssign .minus
    | '*' => withEq cs .mulAssign .star
    | '/' =>
      match cs with
      | '/' :: r => withEq r .intDivAssign .slashSlash
      | _ => withEq cs .divAssign .slash
    | '%' => withEq cs .remAssign .percent
    | '|' =>
      match cs with
      | '|' :: r => withEq r .concatAssign .concat
      | _ => (.sym .or, cs)
    | '&' => (.sym .and, cs)
    | ':' =>
      match cs with
      | '=' :: r => (.sym .assign, r)
      | _ => (.unknown ":", cs)
    | '=' => withEq cs .strictEq .eq
    | '!' =>
      match cs with
      | '=' :: r => withEq r .strictNe .ne
      | _ => (.sym .not, cs)
    | '¬' => withEq cs .ne .not
    | '<' =>
      match cs with
      | '<' :: r => withEq r .strictLe .strictLt
      | _ => withEq cs .le .lt
    | '>' =>
      match cs with
      | '>' :: r => withEq r .strictGe .strictGt
      | _ => withEq cs .ge .gt
    | ',' => (.sym .comma, cs)
    | '(' => (.sym .lparen, cs)
    | ')' => (.sym .rparen, cs)
    | _ => (.unknown c.toString, cs)

/-- The tokens of a text, ending with `eof`. Each token takes at least its first
character, which the guard on the rest's length records for termination. -/
def tokensOf (cs : List Char) : List Token :=
  match cs.dropWhile Text.isBlank with
  | [] => [.eof]
  | c :: r =>
    let (t, rest) := token c r
    if _ : rest.length < cs.length then t :: tokensOf rest else [t, .eof]
termination_by cs.length

/-- The tokens of an expression, ending with `eof`. -/
def tokens (s : String) : List Token := tokensOf s.toList

/-- The first token of an expression as written, for diagnostics. -/
def leadingText (s : String) : String := ((tokens s).headD .eof).text

end ColumnSpec.Lexer
