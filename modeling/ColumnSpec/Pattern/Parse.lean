import ColumnSpec.Pattern.Syntax
import ColumnSpec.Pattern.UnicodeClass
import ColumnSpec.Text.Blank
import ColumnSpec.Text.Bytes
import ColumnSpec.Number.Decimal
/-!
# Reading patterns

`Pattern.read` turns the text of a regular expression into a `Node`, or says why it
cannot. Look-around, back-references and unknown escapes are refused.
-/
namespace ColumnSpec.Pattern

open Text (RangeSet)

/-- Reading a pattern: a failure carries its reason. -/
abbrev Read := Except String

mutual
/-- Skips blanks and `#` comments, as verbose mode wants. -/
def skipSpace : List Char → List Char
  | [] => []
  | c :: r => if Text.isBlank c then skipSpace r else if c == '#' then skipComment r else c :: r
def skipComment : List Char → List Char
  | [] => []
  | '\n' :: r => skipSpace r
  | _ :: r => skipComment r
end

/-- Skips what verbose mode ignores, if it is on. -/
def skipIgnored (fl : Flags) (cs : List Char) : List Char :=
  if fl.verbose then skipSpace cs else cs

theorem length_skip_le : ∀ cs : List Char,
    (skipSpace cs).length ≤ cs.length ∧ (skipComment cs).length ≤ cs.length
  | [] => by simp [skipSpace, skipComment]
  | c :: r => by
    have ih := length_skip_le r
    refine ⟨?_, ?_⟩
    · simp only [skipSpace]
      split
      · simp; omega
      · split
        · simp; omega
        · simp
    · by_cases h : c = '\n'
      · subst h; simp [skipComment]; omega
      · simp [skipComment]; omega

theorem length_skipIgnored_le (fl : Flags) (cs : List Char) :
    (skipIgnored fl cs).length ≤ cs.length := by
  unfold skipIgnored
  split
  · exact (length_skip_le cs).1
  · exact Nat.le_refl _

/-- What an escape stands for. -/
inductive Escaped where
  | char (c : Char)
  | cls (s : RangeSet)
  | look (l : Look)

def hexValue? (ds : List Char) : Option Nat :=
  ds.foldlM (fun n c => (Text.hexDigit? c).map (16 * n + ·)) 0

/-- Hexadecimal digits in braces up to the closing brace, with what verbose mode ignores
skipped after every digit: the digits and the rest after the brace. -/
def bracedHex (fl : Flags) : List Char → Read (List Char × List Char)
  | [] => throw "unclosed hex escape"
  | c :: r =>
    if c == '}' then pure ([], r)
    else if (Text.hexDigit? c).isNone then throw "invalid hex digit"
    else
      have : (skipIgnored fl r).length < r.length + 1 :=
        Nat.lt_succ_of_le (length_skipIgnored_le fl r)
      (bracedHex fl (skipIgnored fl r)).map fun (ds, rest) => (c :: ds, rest)
termination_by cs => cs.length

/-- Exactly `n` hexadecimal digits, with what verbose mode ignores skipped between them. -/
def fixedHex (fl : Flags) : Nat → List Char → Read (List Char × List Char)
  | 0, cs => pure ([], cs)
  | _ + 1, [] => throw "incomplete hex escape"
  | n + 1, c :: r =>
    if (Text.hexDigit? c).isNone then throw "invalid hex digit"
    else
      (fixedHex fl n (if n == 0 then r else skipIgnored fl r)).map fun (ds, rest) =>
        (c :: ds, rest)

/-- A code point written in hexadecimal after `\x`, `\u` or `\U`: exactly `width` digits, or
any number of digits in braces, and in verbose mode what it ignores may stand before and
between them. Without Unicode, the two digits of `\x` name a byte, which must be ASCII. -/
def codePoint (fl : Flags) (width : Nat) (cs : List Char) : Read (Char × List Char) := do
  let (braced, ds, rest) ← match skipIgnored fl cs with
    | '{' :: r => do
      let (ds, rest) ← bracedHex fl (skipIgnored fl r)
      pure (true, ds, rest)
    | r => do
      let (ds, rest) ← fixedHex fl width r
      pure (false, ds, rest)
  if ds.isEmpty then throw "empty hex escape"
  let n := (hexValue? ds).getD 0
  if !isScalar n then throw "invalid Unicode scalar value"
  if !fl.unicode && !braced && width == 2 && 128 ≤ n then
    throw "pattern can match invalid UTF-8"
  pure (Char.ofNat n, skipIgnored fl rest)

/-- The text in braces after `\p`, through the closing brace, with what verbose mode ignores
skipped after every character; `none` when no brace closes it. -/
def bracedName (fl : Flags) : List Char → Option (List Char × List Char)
  | [] => none
  | c :: r =>
    if c == '}' then some ([], r)
    else
      have : (skipIgnored fl r).length < r.length + 1 :=
        Nat.lt_succ_of_le (length_skipIgnored_le fl r)
      (bracedName fl (skipIgnored fl r)).map fun (text, rest) => (c :: text, rest)
termination_by cs => cs.length

/-- The class named after `\p` or `\P`: one letter, or a name or query in braces. Without
regard to case the class is widened to every case variant before it is turned around, which a
`\P` and a `!=` each do. -/
def unicodeEscape (fl : Flags) (negated : Bool) (cs : List Char) :
    Read (Escaped × List Char) := do
  let (query, rest) ← match skipIgnored fl cs with
    | '{' :: r =>
      match bracedName fl (skipIgnored fl r) with
      | some (text, rest) => pure (bracedClass? text, rest)
      | none => throw "unclosed Unicode class"
    | c :: r => pure ((namedClass? (String.ofList [c])).map (·, false), r)
    | [] => throw "incomplete escape"
  match query with
  | some (s, flip) =>
    let q := fl.foldSet s
    pure (.cls (if negated != flip then q.complement else q), rest)
  | none => throw "unknown Unicode class"

/-- Whether a character may follow a backslash to stand for itself. -/
def isEscapable (c : Char) : Bool :=
  c.toNat < 128 && !c.isAlphanum && c != '<' && c != '>'

/-- The word boundaries that `\b` names in braces. -/
def specialBoundary? (unicode : Bool) (name : List Char) : Option Look :=
  match String.ofList name with
  | "start" => some (.wordStart unicode)
  | "end" => some (.wordEnd unicode)
  | "start-half" => some (.wordStartHalf unicode)
  | "end-half" => some (.wordEndHalf unicode)
  | _ => none

/-- Whether a character may be part of a boundary name. -/
def isBoundaryNameChar (c : Char) : Bool := c.isAlpha || c == '-'

/-- The boundary name at the front of a text and the rest, with what verbose mode ignores
skipped after every letter. -/
def boundaryName (fl : Flags) : List Char → List Char × List Char
  | [] => ([], [])
  | c :: r =>
    if isBoundaryNameChar c then
      have : (skipIgnored fl r).length < r.length + 1 :=
        Nat.lt_succ_of_le (length_skipIgnored_le fl r)
      let (name, rest) := boundaryName fl (skipIgnored fl r)
      (c :: name, rest)
    else ([], c :: r)
termination_by cs => cs.length

/-- What follows `\b`: a plain word boundary, or `{start}`, `{end}`, `{start-half}` or
`{end-half}`. A brace that cannot start a name is left for a counted repetition of the
boundary. -/
def boundaryAfter (fl : Flags) (cs : List Char) : Read (Look × List Char) :=
  match cs with
  | '{' :: r =>
    match skipIgnored fl r with
    | [] => throw "unexpected end after word boundary"
    | c :: r' =>
      if !isBoundaryNameChar c then pure (.wordBoundary fl.unicode, cs)
      else
        match boundaryName fl (c :: r') with
        | (name, '}' :: rest) =>
          match specialBoundary? fl.unicode name with
          | some l => pure (l, rest)
          | none => throw "unrecognized special word boundary"
        | _ => throw "unclosed special word boundary"
  | _ => pure (.wordBoundary fl.unicode, cs)

/-- The refusal of what could match a character outside ASCII without Unicode. -/
def notAscii {α : Type} : Read α := throw "pattern can match invalid UTF-8"

/-- A Perl class, or its complement when `negated`: without Unicode its ASCII part, whose
complement would reach outside ASCII. -/
def perlClass (fl : Flags) (unicodeSet asciiSet : RangeSet) (negated : Bool)
    (rest : List Char) : Read (Escaped × List Char) :=
  if fl.unicode then pure (.cls (if negated then unicodeSet.complement else unicodeSet), rest)
  else if negated then notAscii
  else pure (.cls asciiSet, rest)

/-- The escape after a backslash, under the flags in force. -/
def escape (fl : Flags) (inClass : Bool) : List Char → Read (Escaped × List Char)
  | [] => throw "incomplete escape sequence"
  | c :: r =>
    match c with
    | 'd' => perlClass fl digitSet asciiDigitSet false r
    | 'D' => perlClass fl digitSet asciiDigitSet true r
    | 'w' => perlClass fl wordSet asciiWordSet false r
    | 'W' => perlClass fl wordSet asciiWordSet true r
    | 's' => perlClass fl spaceSet asciiSpaceSet false r
    | 'S' => perlClass fl spaceSet asciiSpaceSet true r
    | 'p' => if fl.unicode then unicodeEscape fl false r else throw "Unicode class without Unicode"
    | 'P' => if fl.unicode then unicodeEscape fl true r else throw "Unicode class without Unicode"
    | 'a' => pure (.char '\x07', r)
    | 'f' => pure (.char '\x0c', r)
    | 't' => pure (.char '\t', r)
    | 'n' => pure (.char '\n', r)
    | 'r' => pure (.char '\r', r)
    | 'v' => pure (.char '\x0b', r)
    | 'x' => do let (ch, rest) ← codePoint fl 2 r; pure (.char ch, rest)
    | 'u' => do let (ch, rest) ← codePoint fl 4 r; pure (.char ch, rest)
    | 'U' => do let (ch, rest) ← codePoint fl 8 r; pure (.char ch, rest)
    | 'b' =>
      if inClass then throw "unsupported escape in class"
      else do let (l, rest) ← boundaryAfter fl r; pure (.look l, rest)
    | 'B' =>
      if inClass then throw "unsupported escape in class"
      else pure (.look (.notWordBoundary fl.unicode), r)
    | 'A' => if inClass then throw "unsupported escape in class" else pure (.look .textStart, r)
    | 'z' => if inClass then throw "unsupported escape in class" else pure (.look .textEnd, r)
    | '<' =>
      if inClass then throw "unsupported escape in class" else pure (.look (.wordStart fl.unicode), r)
    | '>' =>
      if inClass then throw "unsupported escape in class" else pure (.look (.wordEnd fl.unicode), r)
    | _ =>
      if c.isDigit then throw "backreferences are not supported"
      else if isEscapable c then pure (.char c, r)
      else throw "unrecognized escape sequence"

/-- The ASCII classes that `[:name:]` names inside brackets. -/
def posixClass? (name : String) : Option RangeSet :=
  let r (lo hi : Char) : RangeSet := .ofRange lo.toNat hi.toNat
  match name with
  | "alnum" => some (RangeSet.unionAll [r '0' '9', r 'A' 'Z', r 'a' 'z'])
  | "alpha" => some ((r 'A' 'Z').union (r 'a' 'z'))
  | "ascii" => some (.ofRange 0 0x7F)
  | "blank" => some ((r '\t' '\t').union (r ' ' ' '))
  | "cntrl" => some ((RangeSet.ofRange 0 0x1F).union (.ofRange 0x7F 0x7F))
  | "digit" => some (r '0' '9')
  | "graph" => some (r '!' '~')
  | "lower" => some (r 'a' 'z')
  | "print" => some (r ' ' '~')
  | "punct" => some (RangeSet.unionAll [r '!' '/', r ':' '@', r '[' '`', r '{' '~'])
  | "space" => some ((r '\t' '\r').union (r ' ' ' '))
  | "upper" => some (r 'A' 'Z')
  | "word" => some (RangeSet.unionAll [r '0' '9', r 'A' 'Z', r '_' '_', r 'a' 'z'])
  | "xdigit" => some (RangeSet.unionAll [r '0' '9', r 'A' 'F', r 'a' 'f'])
  | _ => none

/-- A POSIX class `:name:]` or `:^name:]` right after an opening bracket: its class, whether a
`^` negates it, and the rest. -/
def posix (cs : List Char) : Option (RangeSet × Bool × List Char) :=
  match cs with
  | ':' :: r =>
    let (neg, r) := match r with
      | '^' :: r' => (true, r')
      | r' => (false, r')
    let name := r.takeWhile Char.isAlpha
    match r.dropWhile Char.isAlpha with
    | ':' :: ']' :: rest => (posixClass? (String.ofList name)).map fun p => (p, neg, rest)
    | _ => none
  | _ => none

/-- A class widened as the flags fold case and then turned around when `negated`; without
Unicode no complement may be taken, as it would reach outside ASCII. -/
def foldNegate (fl : Flags) (s : RangeSet) (negated : Bool) : Read RangeSet :=
  if !negated then pure (fl.foldSet s)
  else if fl.unicode then pure (fl.foldSet s).complement
  else notAscii

/-- A character written in a class, which without Unicode must be ASCII. -/
def classChar (fl : Flags) (c : Char) : Read Char :=
  if !fl.unicode && 128 ≤ c.toNat then throw "non-ASCII character in a class without Unicode"
  else pure c

/-- The set operations of bracketed classes. -/
inductive SetOp where
  | inter | diff | symDiff

def SetOp.apply : SetOp → RangeSet → RangeSet → RangeSet
  | .inter, p, q => p.inter q
  | .diff, p, q => p.diff q
  | .symDiff, p, q => p.symmDiff q

/-- The set operation that `c` spells when the class goes on with `c` again: `&&`, `--`
or `~~`. -/
def SetOp.doubled? : Char → List Char → Option SetOp
  | '&', '&' :: _ => some .inter
  | '-', '-' :: _ => some .diff
  | '~', '~' :: _ => some .symDiff
  | _, _ => none

/-- The items of a class operand read so far: their union, how many there are, and the
deepest nesting among them. -/
structure Operand where
  test : RangeSet := .empty
  count : Nat := 0
  nest : Nat := 0

/-- An operand with one more item, itself nested `nest` deep. -/
def Operand.add (o : Operand) (p : RangeSet) (nest : Nat) : Operand :=
  { test := o.test.union p, count := o.count + 1, nest := Nat.max o.nest nest }

/-- How deeply an operand nests: a union of two or more items is one level over its deepest
item, and a single item is as deep as itself. -/
def Operand.height (o : Operand) : Nat := if 2 ≤ o.count then o.nest + 1 else o.nest

/-- A finished left operand of a set operation: its test, the operation, and its nesting. -/
abbrev LeftOperand := RangeSet × SetOp × Nat

/-- A class operand finished: the left side and its operation, if any, applied, with the
nesting of the result, an operation being one level over its deeper side. Both sides are
widened by `fold` first, which folds case as the flags ask. -/
def SetOp.close (fold : RangeSet → RangeSet) (left : Option LeftOperand)
    (right : Operand) : RangeSet × Nat :=
  match left with
  | none => (right.test, right.height)
  | some (l, op, h) => (op.apply (fold l) (fold right.test), Nat.max h right.height + 1)

/-- A class in brackets: its test, and how deeply its brackets, unions and set operations
nest, the brackets counting one level. -/
structure Bracketed where
  test : RangeSet
  nest : Nat

/-- A class item: one character, which may bound a range, or a class. -/
inductive ClassItem where
  | char (c : Char)
  | cls (s : RangeSet)

def ClassItem.set : ClassItem → RangeSet
  | .char c => .ofRange c.toNat c.toNat
  | .cls s => s

/-- The character that a glance past what verbose mode ignores finds: blanks are passed over,
and a `#` with the blanks after it, without reading on to the end of its line. -/
def peekIgnored (fl : Flags) (cs : List Char) : Option Char :=
  if fl.verbose then
    match cs.dropWhile Text.isBlank with
    | '#' :: r => (r.dropWhile Text.isBlank).head?
    | r => r.head?
  else cs.head?

/-- Classes nest at most this many brackets deep, as patterns do. -/
def nestLimit : Nat := 250

mutual
/-- A bracketed class after its opening bracket, `level` brackets deep: a `^` first negates
it. In verbose mode what it ignores is skipped before every item. -/
def bracket (fl : Flags) (level : Nat) (cs : List Char) : Read (Bracketed × List Char) :=
  if nestLimit < level then throw "nest limit exceeded"
  else
    match h : skipIgnored fl cs with
    | [] => throw "unclosed character class"
    | c :: r =>
      have : r.length + 1 ≤ cs.length := by
        have := length_skipIgnored_le fl cs
        rw [h] at this
        simpa using this
      have := length_skipIgnored_le fl r
      if c == '^' then classOpen fl level true 0 (skipIgnored fl r)
      else classOpen fl level false 0 (c :: r)
termination_by 4 * cs.length + 3
decreasing_by all_goals ((simp_wf; try simp only [List.length_cons] at *) <;> omega)

/-- The front of a class: any number of `-` stand for themselves, and a `]` before any
other item stands for itself, so that no class is empty. -/
def classOpen (fl : Flags) (level : Nat) (neg : Bool) (dashes : Nat) (cs : List Char) :
    Read (Bracketed × List Char) :=
  match cs with
  | [] => throw "unclosed character class"
  | c :: r =>
    have := length_skipIgnored_le fl r
    if c == '-' then classOpen fl level neg (dashes + 1) (skipIgnored fl r)
    else if c == ']' && dashes == 0 then
      classItems fl level neg none { test := .ofRange 0x5D 0x5D, count := 1 } (skipIgnored fl r)
    else
      let dash : RangeSet := if 0 < dashes then .ofRange 0x2D 0x2D else .empty
      classItems fl level neg none { test := dash, count := dashes }
        (c :: r)
termination_by 4 * cs.length + 2
decreasing_by all_goals ((simp_wf; try simp only [List.length_cons] at *) <;> omega)

/-- The items of a bracketed class up to its closing bracket. `acc` holds the items of the
current operand, `left` the finished left operand and its operation. -/
def classItems (fl : Flags) (level : Nat) (neg : Bool) (left : Option LeftOperand)
    (acc : Operand) (cs : List Char) : Read (Bracketed × List Char) :=
  match h : skipIgnored fl cs with
  | [] => throw "unclosed character class"
  | c :: r =>
    have : r.length + 1 ≤ cs.length := by
      have := length_skipIgnored_le fl cs
      rw [h] at this
      simpa using this
    if c == ']' then do
      let (p, nest) := SetOp.close fl.foldSet left acc
      pure (⟨← foldNegate fl p neg, nest + 1⟩, r)
    else if c == '[' then
      match posix r with
      | some (p, pneg, r') => do
        let q ← foldNegate fl p pneg
        if _ : r'.length ≤ r.length then classItems fl level neg left (acc.add q 0) r'
        else throw "unclosed character class"
      | none => do
        let (b, r') ← bracket fl (level + 1) r
        if _ : r'.length ≤ r.length then classItems fl level neg left (acc.add b.test b.nest) r'
        else throw "unclosed character class"
    else match SetOp.doubled? c r with
      | some op =>
        let (p, nest) := SetOp.close fl.foldSet left acc
        classItems fl level neg (some (p, op, nest)) {} r.tail
      | none =>
        if c == '\\' then do
          let (e, r') ← escape fl true r
          if _ : r'.length ≤ r.length then
            match e with
            | .char x => do classRange fl level neg left acc (.char (← classChar fl x)) r'
            | .cls p => classRange fl level neg left acc (.cls p) r'
            | .look _ => throw "unsupported escape in class"
          else throw "unclosed character class"
        else do classRange fl level neg left acc (.char (← classChar fl c)) r
termination_by 4 * cs.length + 1
decreasing_by all_goals ((simp_wf; try simp only [List.length_cons] at *) <;> omega)

/-- A class item and what follows it: a hyphen that neither closes the class nor starts a
difference makes the item the low end of a range, and otherwise the item stands alone. Only
characters can bound a range. -/
def classRange (fl : Flags) (level : Nat) (neg : Bool) (left : Option LeftOperand)
    (acc : Operand) (item : ClassItem) (cs : List Char) : Read (Bracketed × List Char) :=
  match h : skipIgnored fl cs with
  | '-' :: r =>
    have : r.length + 1 ≤ cs.length := by
      have := length_skipIgnored_le fl cs
      rw [h] at this
      simpa using this
    if peekIgnored fl r == some ']' || peekIgnored fl r == some '-' then
      classItems fl level neg left (acc.add item.set 0) ('-' :: r)
    else
      match item with
      | .cls _ => throw "invalid range in character class"
      | .char lo =>
        match skipIgnored fl r with
        | [] => throw "unclosed character class"
        | c :: r2 => do
          let (hi, r') ← (if c == '\\' then do
              let (e, r') ← escape fl true r2
              match e with
              | .char h => pure (← classChar fl h, r')
              | _ => throw "invalid range in character class"
            else do pure (← classChar fl c, r2) : Read (Char × List Char))
          if hi < lo then throw "invalid character class range"
          if _ : r'.length ≤ r.length then
            classItems fl level neg left (acc.add (.ofRange lo.toNat hi.toNat) 0) r'
          else throw "unclosed character class"
  | r =>
    have : r.length ≤ cs.length := h ▸ length_skipIgnored_le fl cs
    classItems fl level neg left (acc.add item.set 0) r
termination_by 4 * cs.length + 2
decreasing_by all_goals ((simp_wf; try simp only [List.length_cons] at *) <;> omega)
end

end ColumnSpec.Pattern

namespace ColumnSpec.Pattern

open Text (RangeSet)

/-- An open group while reading: the alternatives finished so far and the items of the
current one (both last first, each with how deeply it nests), its capture number, and the
flags to restore at its end. -/
structure Frame where
  alts : List (Node × Nat) := []
  items : List (Node × Nat) := []
  cap : Option Nat := none
  saved : Flags := {}

/-- How deeply a sequence or a choice nests: one level over its deepest part when it has two
or more parts, and as deep as its part otherwise. -/
def partsHeight (hs : List Nat) : Nat :=
  let deepest := hs.foldl Nat.max 0
  if 2 ≤ hs.length then deepest + 1 else deepest

/-- The current alternative of a group, and how deeply it nests. -/
def Frame.sequence (f : Frame) : Node × Nat :=
  (Node.cat (f.items.reverse.map (·.1)), partsHeight (f.items.map (·.2)))

/-- The node of a finished group body, and how deeply it nests. -/
def Frame.node (f : Frame) : Node × Nat :=
  match f.alts with
  | [] => f.sequence
  | alts =>
    let all := alts.reverse ++ [f.sequence]
    (.alt (all.map (·.1)), partsHeight (all.map (·.2)))

/-- The state of the reader: the innermost open group, the groups around it (innermost
first), the flags in force, the captures opened so far and the group names seen. -/
structure Reader where
  top : Frame := {}
  outer : List Frame := []
  flags : Flags
  caps : Nat := 0
  names : List String := []

/-- Adds an item that nests `nest` deep to the innermost group. -/
def Reader.pushNested (st : Reader) (n : Node) (nest : Nat) : Reader :=
  { st with top := { st.top with items := (n, nest) :: st.top.items } }

/-- Adds an item without nesting to the innermost group. -/
def Reader.push (st : Reader) (n : Node) : Reader := st.pushNested n 0

/-- Repeats the last item, one level deeper; there must be one, and not a flag group. `U`
swaps greed. -/
def Reader.repeatLast (st : Reader) (min : Nat) (max : Option Nat) (lazy : Bool) : Read Reader :=
  match st.top.items with
  | [] => throw "repetition operator missing expression"
  | (.flagMark, _) :: _ => throw "repetition operator missing expression"
  | (n, h) :: rest =>
    let item := (.rep n min max (lazy == st.flags.swapGreed), h + 1)
    pure { st with top := { st.top with items := item :: rest } }

/-- Ends the current alternative of the innermost group. -/
def Reader.alternate (st : Reader) : Reader :=
  { st with top := { st.top with alts := st.top.sequence :: st.top.alts, items := [] } }

/-- Opens a group. Groups nest at most 250 deep. -/
def Reader.openGroup (st : Reader) (cap : Option Nat) (inner : Flags) : Read Reader :=
  if 250 ≤ st.outer.length then throw "nest limit exceeded"
  else pure { st with top := { cap := cap, saved := st.flags }, outer := st.top :: st.outer, flags := inner }

/-- Closes the innermost group. -/
def Reader.closeGroup (st : Reader) : Read Reader :=
  match st.outer with
  | [] => throw "unopened group"
  | parent :: rest =>
    let (body, h) := st.top.node
    let item := (Node.group st.top.cap body, h + 1)
    let top : Frame := { parent with items := item :: parent.items }
    pure { st with top := top, outer := rest, flags := st.top.saved }

/-- The flags of `(?flags)` or `(?flags:`: the new flags, whether a body follows, and the
rest. A flag may appear once, the negation once and not last. -/
def readFlags (fl : Flags) (cs : List Char) : Read (Flags × Bool × List Char) :=
  let rec go (fl : Flags) (neg : Bool) (seen : List Char) (last : Option Char) :
      List Char → Read (Flags × Bool × List Char)
    | [] => throw "unexpected end of flags"
    | c :: r =>
      if c == ')' || c == ':' then
        if seen.isEmpty && c == ')' then throw "empty flag group"
        else if last == some '-' then throw "dangling flag negation"
        else pure (fl, c == ':', r)
      else if c == '-' then
        if neg then throw "repeated flag negation" else go fl true (c :: seen) (some c) r
      else if seen.contains c then throw "duplicate flag"
      else
        let on := !neg
        let fl' : Option Flags := match c with
          | 'i' => some { fl with icase := on }
          | 'm' => some { fl with multiLine := on }
          | 's' => some { fl with dotAll := on }
          | 'U' => some { fl with swapGreed := on }
          | 'x' => some { fl with verbose := on }
          | 'R' => some { fl with crlf := on }
          | 'u' => some { fl with unicode := on }
          | _ => none
        match fl' with
        | some fl' => go fl' neg (c :: seen) (some c) r
        | none => throw "unrecognized flag"
  go fl false [] none cs

/-- A group name and the rest after its closing angle bracket. -/
def readName (cs : List Char) : Read (String × List Char) :=
  let name := cs.takeWhile isNameChar
  match cs.dropWhile isNameChar with
  | '>' :: rest =>
    match name with
    | c :: _ =>
      if isNameStart c then pure (String.ofList name, rest) else throw "invalid capture name"
    | [] => throw "empty capture name"
  | _ => throw "invalid capture name"

/-- The digits at the front of a text, with what verbose mode ignores skipped after each. -/
def countDigits (fl : Flags) : List Char → List Char × List Char
  | [] => ([], [])
  | c :: r =>
    if c.isDigit then
      have : (skipIgnored fl r).length < r.length + 1 :=
        Nat.lt_succ_of_le (length_skipIgnored_le fl r)
      let (ds, rest) := countDigits fl (skipIgnored fl r)
      (c :: ds, rest)
    else ([], c :: r)
termination_by cs => cs.length

/-- A decimal count of a counted repetition. Blanks around it are skipped in any mode. -/
def readCountValue (fl : Flags) (cs : List Char) : Read (Nat × List Char) :=
  let (ds, r) := countDigits fl (cs.dropWhile Text.isBlank)
  if ds.isEmpty then throw "repetition quantifier expects a valid decimal"
  else
    let n := Decimal.digitsValue ds
    if Nat.pow 2 32 ≤ n then throw "repetition count too large"
    else pure (n, r.dropWhile Text.isBlank)

/-- The bounds of `{n}`, `{n,}` or `{n,m}` after the opening brace, and the rest. -/
def readCount (fl : Flags) (cs : List Char) : Read (Nat × Option Nat × List Char) := do
  let cs := skipIgnored fl cs
  if cs.isEmpty then throw "unclosed counted repetition"
  let (n, r) ← readCountValue fl cs
  match r with
  | '}' :: rest => pure (n, some n, rest)
  | ',' :: r' =>
    match skipIgnored fl r' with
    | [] => throw "unclosed counted repetition"
    | '}' :: rest => pure (n, none, rest)
    | r'' => do
      let (m, r3) ← readCountValue fl r''
      match r3 with
      | '}' :: rest => if m < n then throw "invalid repetition range" else pure (n, some m, rest)
      | _ => throw "unclosed counted repetition"
  | _ => throw "unclosed counted repetition"

/-- Whether a repetition operator is made lazy by a question mark after it. -/
def lazySuffix : List Char → Bool × List Char
  | '?' :: r => (true, r)
  | r => (false, r)

/-- The test of a literal character under the flags. -/
def literal (fl : Flags) (c : Char) : Node :=
  .cls (fl.foldSet (.ofRange c.toNat c.toNat))

/-- The test of the dot under the flags; without Unicode it would match bytes outside ASCII,
and is refused. -/
def dot (fl : Flags) : Read Node :=
  if !fl.unicode then notAscii
  else if fl.dotAll then pure (.cls .scalars)
  else if fl.crlf then
    pure (.cls (RangeSet.scalars.diff ((RangeSet.ofRange 10 10).union (.ofRange 13 13))))
  else pure (.cls (RangeSet.scalars.diff (.ofRange 10 10)))

/-- The node of the whole pattern once the text is used up, and the number of captures.
Groups, repetitions, sequences and choices of two or more parts, and bracketed classes each
nest one level, and a pattern nests at most `nestLimit` levels. -/
def Reader.finish (st : Reader) : Read (Node × Nat) :=
  if st.outer.isEmpty then
    let (node, h) := st.top.node
    if nestLimit < h then throw "nest limit exceeded" else pure (node, st.caps)
  else throw "unclosed group"

def Reader.afterParen (st : Reader) (cs : List Char) : Read (Reader × List Char) :=
  let named (cs : List Char) : Read (Reader × List Char) := do
    let (name, rest) ← readName cs
    if st.names.contains name then throw "duplicate capture group name"
    let st' ← { st with caps := st.caps + 1, names := name :: st.names }.openGroup
      (some (st.caps + 1)) st.flags
    pure (st', rest)
  match cs with
  | '?' :: 'P' :: '<' :: r => named r
  | '?' :: '<' :: '=' :: _ => throw "look-around is not supported"
  | '?' :: '<' :: '!' :: _ => throw "look-around is not supported"
  | '?' :: '<' :: r => named r
  | '?' :: '=' :: _ => throw "look-around is not supported"
  | '?' :: '!' :: _ => throw "look-around is not supported"
  | '?' :: r => do
    let (fl, hasBody, rest) ← readFlags st.flags r
    if hasBody then pure (← st.openGroup none fl, rest)
    else pure ({ st.push .flagMark with flags := fl }, rest)
  | r => do pure (← { st with caps := st.caps + 1 }.openGroup (some (st.caps + 1)) st.flags, r)

/-- Reads the pattern text after the state `st`. Every step uses at least one character,
which the guards on the rest's length record. -/
def Reader.loop (st : Reader) (cs : List Char) : Read (Node × Nat) :=
  match cs with
  | [] => st.finish
  | c :: r =>
    if st.flags.verbose && (Text.isBlank c || c == '#') then
      if _ : (skipSpace (c :: r)).length ≤ r.length then st.loop (skipSpace (c :: r))
      else st.finish
    else match c with
      | '(' => do
        let (st', rest) ← st.afterParen (skipIgnored st.flags r)
        if _ : rest.length ≤ r.length then st'.loop rest else throw "unclosed group"
      | ')' => do (← st.closeGroup).loop r
      | '|' => st.alternate.loop r
      | '*' => do
        let (lazy, rest) := lazySuffix r
        if _ : rest.length ≤ r.length then (← st.repeatLast 0 none lazy).loop rest else st.finish
      | '+' => do
        let (lazy, rest) := lazySuffix r
        if _ : rest.length ≤ r.length then (← st.repeatLast 1 none lazy).loop rest else st.finish
      | '?' => do
        let (lazy, rest) := lazySuffix r
        if _ : rest.length ≤ r.length then (← st.repeatLast 0 (some 1) lazy).loop rest else st.finish
      | '{' => do
        if st.top.items.isEmpty then throw "repetition operator missing expression"
        let (lo, hi, r') ← readCount st.flags r
        let (lazy, rest) := lazySuffix (skipIgnored st.flags r')
        if _ : rest.length ≤ r.length then (← st.repeatLast lo hi lazy).loop rest
        else throw "unclosed counted repetition"
      | '[' => do
        let (b, rest) ← bracket st.flags 1 r
        if _ : rest.length ≤ r.length then (st.pushNested (.cls b.test) b.nest).loop rest
        else throw "unclosed character class"
      | '.' => do (st.push (← dot st.flags)).loop r
      | '^' =>
        (st.push (.look (if st.flags.multiLine then .lineStart st.flags.crlf else .textStart))).loop r
      | '$' =>
        (st.push (.look (if st.flags.multiLine then .lineEnd st.flags.crlf else .textEnd))).loop r
      | '\\' => do
        let (e, rest) ← escape st.flags false r
        let node := match e with
          | .char x => literal st.flags x
          | .cls p => .cls p
          | .look l => .look l
        if _ : rest.length ≤ r.length then (st.push node).loop rest
        else throw "incomplete escape sequence"
      | _ => (st.push (literal st.flags c)).loop r
termination_by cs.length

/-- Reads a pattern, case-insensitive from the start when `icase`; the result and the
number of capture groups. -/
def read (src : String) (icase : Bool) : Read (Node × Nat) :=
  ({ flags := { icase := icase } } : Reader).loop src.toList

end ColumnSpec.Pattern
