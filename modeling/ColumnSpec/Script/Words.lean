import ColumnSpec.Text.Blank
import ColumnSpec.Fault
/-!
# Words of a program

A program text is split into words at blanks, one pass over its characters: quoted words
may hold blanks, a backslash takes the next character, and `# ` starts a comment line.
-/
namespace ColumnSpec.Script

/-- A word of program text and the line it starts on, from 1. -/
structure Word where
  text : String
  line : Nat
deriving DecidableEq, Repr

/-- Characters that may delimit a literal such as `/abc/`, `.abc.` or `"abc"`. -/
def isDelimiter (c : Char) : Bool :=
  "/@'\"#!$%^&~*+-_=.,".toList.contains c

/-- Delimiters whose literal may hold blanks. -/
def isQuote (c : Char) : Bool := c == '"' || c == '\'' || c == '/'

/-- The line being read and whether only blanks were seen on it so far. -/
structure Cursor where
  line : Nat := 1
  atLineStart : Bool := true
deriving DecidableEq, Repr

def Cursor.pass (k : Cursor) (c : Char) : Cursor :=
  if c = '\n' then ⟨k.line + 1, true⟩
  else if Text.isBlank c then k
  else ⟨k.line, false⟩

/-- Where the splitter is: between words, in a comment, or in a plain or delimited word
started on `line`, whose characters so far are `acc` in reverse. -/
inductive Mode where
  | between
  | comment
  | plain (line : Nat) (acc : List Char)
  | quoted (delim : Char) (line : Nat) (acc : List Char)

def Word.ofReversed (acc : List Char) (line : Nat) : Word := ⟨String.ofList acc.reverse, line⟩

/-- The error of a backslash ending the text. -/
def badEscape (line : Nat) : ProgramError := ⟨some line, "Bad escape character at end of input"⟩

/-- Splits the rest of a text in a mode; `done` holds the words so far in reverse. -/
def splitFrom : Mode → List Char → Cursor → List Word → Except ProgramError (List Word)
  | .between, [], _, done | .comment, [], _, done => .ok done.reverse
  | .plain line acc, [], _, done => .ok (Word.ofReversed acc line :: done).reverse
  | .quoted _ line _, [], _, _ => .error ⟨some line, "Missing delimiter at end of input"⟩
  | .comment, c :: r, k, done =>
    splitFrom (if c = '\n' then .between else .comment) r (k.pass c) done
  | .plain line acc, c :: r, k, done =>
    if c = '\\' then
      match r with
      | [] => .error (badEscape line)
      | e :: r' => splitFrom (.plain line (e :: acc)) r' ((k.pass '\\').pass e) done
    else if Text.isBlank c then splitFrom .between r (k.pass c) (Word.ofReversed acc line :: done)
    else splitFrom (.plain line (c :: acc)) r (k.pass c) done
  | .quoted d line acc, c :: r, k, done =>
    if c = '\\' then
      match r with
      | [] => .error (badEscape line)
      | e :: r' => splitFrom (.quoted d line (e :: acc)) r' ((k.pass '\\').pass e) done
    else if c = d then splitFrom .between r (k.pass c) (Word.ofReversed (c :: acc) line :: done)
    else splitFrom (.quoted d line (c :: acc)) r (k.pass c) done
  | .between, c :: r, k, done =>
    if c = '\\' then
      match r with
      | [] => .error (badEscape k.line)
      | d :: r' => splitFrom (.plain k.line [d]) r' ((k.pass '\\').pass d) done
    else if Text.isBlank c then splitFrom .between r (k.pass c) done
    else if c = '#' && k.atLineStart && r.head?.all Text.isBlank then
      splitFrom .comment r (k.pass c) done
    else if isQuote c then splitFrom (.quoted c k.line [c]) r (k.pass c) done
    else splitFrom (.plain k.line [c]) r (k.pass c) done

def splitProgram (src : String) : Except ProgramError (List Word) :=
  splitFrom .between src.toList {} []

/-- The words of a program given as command-line arguments: a lone argument is split,
several are one word each, as given. -/
def wordsFromArgs : List String → Except ProgramError (List Word)
  | [single] => splitProgram single
  | many => .ok (many.map (⟨·, 1⟩))

end ColumnSpec.Script
