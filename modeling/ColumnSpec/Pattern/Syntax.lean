import ColumnSpec.Pattern.Classes
import ColumnSpec.Text.Fold
/-!
# Pattern syntax

A character test is kept as the set of code points it passes, case and negation folded
in; zero-width tests are `Look`s, and capture groups are numbered from 1.
-/
namespace ColumnSpec.Pattern

/-- The modes a pattern can switch with `(?flags)`. Without `unicode` the Perl classes, word
tests and case folding know ASCII only, and nothing may match a character outside ASCII
that the pattern does not spell out. -/
structure Flags where
  icase : Bool := false
  multiLine : Bool := false
  dotAll : Bool := false
  swapGreed : Bool := false
  verbose : Bool := false
  crlf : Bool := false
  unicode : Bool := true

/-- Zero-width tests. The word tests look at whether the characters before and after the
position are word characters, the text's ends counting as non-word; with `unicode` off only
ASCII characters count as word characters. -/
inductive Look where
  | textStart
  | textEnd
  | lineStart (crlf : Bool)
  | lineEnd (crlf : Bool)
  | wordBoundary (unicode : Bool)
  | notWordBoundary (unicode : Bool)
  /-- A word starts here: a non-word before, a word character after. -/
  | wordStart (unicode : Bool)
  /-- A word ends here: a word character before, a non-word after. -/
  | wordEnd (unicode : Bool)
  /-- No word character before. -/
  | wordStartHalf (unicode : Bool)
  /-- No word character after. -/
  | wordEndHalf (unicode : Bool)
  deriving BEq

/-- A pattern. -/
inductive Node where
  | empty
  /-- A flag group: it matches the empty text and cannot be repeated. -/
  | flagMark
  | cls (s : Text.RangeSet)
  | look (l : Look)
  | group (cap : Option Nat) (n : Node)
  | cat (ns : List Node)
  | alt (ns : List Node)
  | rep (n : Node) (min : Nat) (max : Option Nat) (greedy : Bool)

instance : Inhabited Node := ⟨.empty⟩

mutual
/-- Whether a node matches only the empty text: no way through it consumes a character. -/
def Node.onlyEmpty : Node → Bool
  | .empty | .flagMark | .look _ => true
  | .cls _ => false
  | .group _ n => n.onlyEmpty
  | .cat ns | .alt ns => Node.allOnlyEmpty ns
  | .rep n _ max _ => n.onlyEmpty || max == some 0
/-- Whether every node of a list matches only the empty text. -/
def Node.allOnlyEmpty : List Node → Bool
  | [] => true
  | n :: rest => n.onlyEmpty && Node.allOnlyEmpty rest
end

mutual
/-- Whether some way through a node consumes no character, zero-width tests counting as
passable. -/
def Node.canBeEmpty : Node → Bool
  | .empty | .flagMark | .look _ => true
  | .cls _ => false
  | .group _ n => n.canBeEmpty
  | .cat ns => Node.allCanBeEmpty ns
  | .alt ns => Node.anyCanBeEmpty ns
  | .rep n min _ _ => min == 0 || n.canBeEmpty
/-- Whether every node of a list can be passed without consuming. -/
def Node.allCanBeEmpty : List Node → Bool
  | [] => true
  | n :: rest => n.canBeEmpty && Node.allCanBeEmpty rest
/-- Whether some node of a list can be passed without consuming. -/
def Node.anyCanBeEmpty : List Node → Bool
  | [] => false
  | n :: rest => n.canBeEmpty || Node.anyCanBeEmpty rest
end

/-- The ASCII letters of a set in their other case. -/
def asciiOtherCase (s : Text.RangeSet) : Text.RangeSet :=
  let upper := s.inter (.ofRange 0x41 0x5A)
  let lower := s.inter (.ofRange 0x61 0x7A)
  Text.RangeSet.union ⟨upper.points.map (· + 32)⟩ ⟨lower.points.map (· - 32)⟩

/-- A set as the flags see it: without regard to case, closed under simple case folding, or
under the case of ASCII letters only when Unicode is off. -/
def Flags.foldSet (fl : Flags) (s : Text.RangeSet) : Text.RangeSet :=
  if !fl.icase then s
  else if fl.unicode then Text.Fold.closeSet s
  else s.union (asciiOtherCase s)

/-- Whether a code point may name a character: not a surrogate, not past `U+10FFFF`. -/
def isScalar (n : Nat) : Bool := n < 0xD800 || (0xDFFF < n && n ≤ 0x10FFFF)

end ColumnSpec.Pattern
