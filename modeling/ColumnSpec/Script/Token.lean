import ColumnSpec.Script.Words
import ColumnSpec.Range
import ColumnSpec.Conversion
import ColumnSpec.Text.Fit
/-!
# Tokens of a program

Each word is classified by its shape alone; whether a range picks input or names an output
column is left to the compiler.
-/
namespace ColumnSpec.Script

/-- The keywords of the language. -/
inductive Keyword where
  | stop | allEof | anyEof | matchEof | eof
  | read | readStop | write | noWrite | unread | redo
  | assert | abend | id | set | print
  | if | then | else | elseIf | endIf | while | do | done | continue | break
  | skipWhile | skipUntil | select | first | second | outStream | stderr
  | number | todClock | dtodClock | timeDiff | strip | substring | of
  | fieldSeparator | wordSeparator | pad | requires
deriving DecidableEq, Repr

/-- The name of a keyword, in lower case and without hyphens. -/
def Keyword.name : Keyword → String
  | .stop => "stop" | .allEof => "alleof" | .anyEof => "anyeof" | .matchEof => "matcheof"
  | .eof => "eof" | .read => "read" | .readStop => "readstop" | .write => "write"
  | .noWrite => "nowrite" | .unread => "unread" | .redo => "redo" | .assert => "assert"
  | .abend => "abend" | .id => "id" | .set => "set" | .print => "print" | .if => "if"
  | .then => "then" | .else => "else" | .elseIf => "elseif" | .endIf => "endif"
  | .while => "while" | .do => "do" | .done => "done" | .continue => "continue"
  | .break => "break" | .skipWhile => "skipwhile" | .skipUntil => "skipuntil"
  | .select => "select" | .first => "first" | .second => "second"
  | .outStream => "outstream" | .stderr => "stderr" | .number => "number"
  | .todClock => "todclock" | .dtodClock => "dtodclock" | .timeDiff => "timediff"
  | .strip => "strip" | .substring => "substring" | .of => "of"
  | .fieldSeparator => "fieldseparator" | .wordSeparator => "wordseparator"
  | .pad => "pad" | .requires => "requires"

/-- What a word is, by its shape. -/
inductive TokenKind where
  | range (r : Range)
  | wordRange (r : Range)
  | fieldRange (r : Range)
  | label (c : Char)
  | period
  | literal (s : String)
  | next (width : Option Nat)
  | nextWord (width : Option Nat)
  | nextField (width : Option Nat)
  | conversion (c : Conversion)
  | align (a : Text.Align)
  | keyword (k : Keyword)
deriving DecidableEq, Repr

/-- A classified word, with its text as written, its position among the words (from 1)
and its line. -/
structure Token where
  kind : TokenKind
  text : String
  index : Nat
  line : Nat
deriving DecidableEq, Repr

namespace Token

/-- The text a word stands for: a literal's decoded text, else the word itself. -/
def literalText (t : Token) : String :=
  match t.kind with
  | .literal s => s
  | _ => t.text

def isKeyword (t : Token) (k : Keyword) : Bool := t.kind == .keyword k

/-- How an error names a token: its text and position. -/
def describe (t : Token) : String := "<" ++ t.text ++ "> at index " ++ toString t.index

end Token

def asciiLower (s : String) : String := String.ofList (s.toList.map Char.toLower)

/-- Whether `word` abbreviates `full` to at least `least` characters, ignoring ASCII case. -/
def abbreviates (word full : String) (least : Nat) : Bool :=
  let w := word.toList
  least ≤ w.length && w.length ≤ full.length &&
    (full.toList.take w.length).map Char.toLower == w.map Char.toLower

def keywordSpellings : List (String × Keyword) :=
  [("stop", .stop), ("alleof", .allEof), ("anyeof", .anyEof), ("matcheof", .matchEof),
   ("eof", .eof), ("read", .read), ("readstop", .readStop), ("write", .write),
   ("nowrite", .noWrite), ("unread", .unread), ("redo", .redo), ("assert", .assert),
   ("abend", .abend), ("id", .id), ("set", .set), ("print", .print), ("if", .if),
   ("then", .then), ("else", .else), ("elseif", .elseIf), ("endif", .endIf),
   ("while", .while), ("do", .do), ("done", .done), ("continue", .continue),
   ("break", .break), ("skip-while", .skipWhile), ("skip-until", .skipUntil),
   ("select", .select), ("first", .first), ("second", .second),
   ("outstream", .outStream), ("stderr", .stderr), ("number", .number),
   ("todclock", .todClock), ("dtodclock", .dtodClock), ("timediff", .timeDiff),
   ("strip", .strip), ("of", .of), ("fs", .fieldSeparator), ("ws", .wordSeparator),
   ("pad", .pad), ("requires", .requires)]

/-- The keyword a word spells, in any case; `SUBSTRING`, `FIELDSEPARATOR` and
`WORDSEPARATOR` may be cut down to 6, 8 and 7 letters. -/
def keyword? (word : String) : Option Keyword :=
  match keywordSpellings.lookup (asciiLower word) with
  | some k => some k
  | none =>
    if abbreviates word "substring" 6 then some .substring
    else if abbreviates word "fieldseparator" 8 then some .fieldSeparator
    else if abbreviates word "wordseparator" 7 then some .wordSeparator
    else none

def alignment? (word : String) : Option Text.Align :=
  match asciiLower word with
  | "left" => some .left
  | "center" | "centre" => some .center
  | "right" => some .right
  | _ => none

/-- A positive count written in canonical decimal that fits in 64 bits. -/
def canonicalCount? (cs : List Char) : Option Nat :=
  if cs.isEmpty || !cs.all Char.isDigit then none
  else
    let n := cs.foldl (fun n c => 10 * n + (c.toNat - '0'.toNat)) 0
    if n = 0 || n ≥ Nat.pow 2 64 || (toString n).toList != cs then none else some n

/-- `NEXT`, `NEXTWORD` or `NEXTFIELD` in one of their spellings, with an optional width
after a period. -/
def nextPlacement? (word : String) : Option TokenKind := do
  let (base, width) ← match word.toList.span (· != '.') with
    | (base, []) => some (base, none)
    | (base, _ :: len) => (canonicalCount? len).map fun n => (base, some n)
  let base := String.ofList base
  let lower := asciiLower base
  if lower == "nw" || lower == "nword" || abbreviates base "nextword" 5 then
    some (.nextWord width)
  else if lower == "nf" || lower == "nfield" || abbreviates base "nextfield" 5 then
    some (.nextField width)
  else if abbreviates base "next" 1 then some (.next width)
  else none

/-- A word without its delimiters, when it starts and ends with the same delimiter. -/
def stripDelimiters (word : String) : String :=
  match word.toList with
  | a :: rest@(_ :: _) =>
    if rest.getLast? == some a && isDelimiter a then String.ofList rest.dropLast else word
  | _ => word

/-- A range after a one-letter prefix in either case. -/
def prefixedRange? (lower : Char) (word : String) : Option Range :=
  match word.toList with
  | c :: rest => if c.toLower == lower then Range.parse? (String.ofList rest) else none
  | [] => none

def classify (word : String) : TokenKind :=
  match keyword? word with
  | some k => .keyword k
  | none =>
  match alignment? word with
  | some a => .align a
  | none =>
  match word.toList with
  | [c, ':'] =>
    if c.isAlpha then .label c else classifyRest word
  | _ => classifyRest word
where
  /-- The shapes after labels. -/
  classifyRest (word : String) : TokenKind :=
    if word == "." then .period
    else match Conversion.ofName? word with
    | some c => .conversion c
    | none =>
    match Range.parse? word with
    | some r => .range r
    | none =>
    match prefixedRange? 'w' word with
    | some r => .wordRange r
    | none =>
    match prefixedRange? 'f' word with
    | some r => .fieldRange r
    | none =>
    match nextPlacement? word with
    | some k => k
    | none =>
    match word.toList with
    | c :: hex =>
      if c.toLower == 'x' then
        match Text.decodeHex? hex with
        | some lit => .literal (String.ofList lit)
        | none => .literal (stripDelimiters word)
      else .literal (stripDelimiters word)
    | [] => .literal (stripDelimiters word)

/-- Whether a word is `WORD` or `FIELD` cut down to some letters, and not a keyword. -/
def foldsRange (word full : String) : Bool :=
  abbreviates word full 1 && (keyword? word).isNone

/-- The error of `WORD` or `FIELD` on `line` without a range at position `index`. -/
def badRange (line index : Nat) (next : String) : ProgramError :=
  ⟨some line, "Bad word/field range <" ++ next ++ "> at index " ++ toString index ++ "."⟩

/-- Classifies words from position `index` on. -/
def tokenizeFrom (index : Nat) : List Word → Except ProgramError (List Token)
  | [] => .ok []
  | w :: rest =>
    let isWord := foldsRange w.text "word"
    if isWord || foldsRange w.text "field" then
      match rest with
      | next :: rest' =>
        match Range.parse? next.text with
        | some r => do
          let kind := if isWord then TokenKind.wordRange r else .fieldRange r
          let ts ← tokenizeFrom (index + 2) rest'
          pure (⟨kind, w.text, index, w.line⟩ :: ts)
        | none => .error (badRange w.line (index + 1) next.text)
      | [] => .error (badRange w.line (index + 1) "")
    else do
      let ts ← tokenizeFrom (index + 1) rest
      pure (⟨classify w.text, w.text, index, w.line⟩ :: ts)

def tokenize (words : List Word) : Except ProgramError (List Token) := tokenizeFrom 1 words

end ColumnSpec.Script
