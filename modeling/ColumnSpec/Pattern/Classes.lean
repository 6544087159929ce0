import ColumnSpec.Text.Category
import ColumnSpec.Text.Property
/-!
# Character classes of patterns

The Perl classes `\d`, `\s` and `\w` as sets of code points, with their ASCII parts for
patterns without Unicode, and the characters of group names.
-/
namespace ColumnSpec.Pattern

open Text (RangeSet)

/-- The characters of some general categories. -/
def categorySet (gs : List Text.Category) : RangeSet :=
  (Text.Category.table.setWhere gs.contains).inter .scalars

/-- The characters that have a binary property. -/
def propertySet (p : Text.Property) : RangeSet := p.members.inter .scalars

/-- The decimal digits, `\d`. -/
def digitSet : RangeSet := categorySet [.decimalNumber]

/-- The word characters, `\w`: alphabetic characters, the joiners, marks, decimal digits and
connector punctuation. -/
def wordSet : RangeSet :=
  RangeSet.unionAll [propertySet .alphabetic, propertySet .joinControl,
    categorySet [.nonspacingMark, .spacingMark, .enclosingMark, .decimalNumber,
      .connectorPunctuation]]

/-- The white space characters, `\s`. -/
def spaceSet : RangeSet := propertySet .whiteSpace

def asciiDigitSet : RangeSet := .ofRange 0x30 0x39

/-- The ASCII word characters: letters, digits and `_`. -/
def asciiWordSet : RangeSet :=
  RangeSet.unionAll [.ofRange 0x30 0x39, .ofRange 0x41 0x5A, .ofRange 0x5F 0x5F, .ofRange 0x61 0x7A]

/-- The ASCII white space: tab, line feed, vertical tab, form feed, carriage return, space. -/
def asciiSpaceSet : RangeSet := (RangeSet.ofRange 9 13).union (.ofRange 32 32)

/-- Whether a character is a word character. -/
def isWordChar (c : Char) : Bool :=
  if c.toNat < 128 then c.isAlphanum || c == '_' else wordSet.contains c.toNat

/-- Whether a character is an ASCII word character: a letter, a digit or `_`. -/
def isAsciiWordChar (c : Char) : Bool := c.isAlphanum || c == '_'

/-- The word characters of word tests: Unicode ones, or ASCII ones only. -/
def wordTest (unicode : Bool) : Char → Bool := if unicode then isWordChar else isAsciiWordChar

/-- Whether a character is a number: a decimal digit, a letter number or another number. -/
def isNumberChar (c : Char) : Bool :=
  match Text.Category.of c with
  | .decimalNumber | .letterNumber | .otherNumber => true
  | _ => false

/-- Whether a character may start a group name: `_` or an alphabetic character. -/
def isNameStart (c : Char) : Bool := c == '_' || Text.Property.alphabetic.holds c

/-- Whether a character may continue a group name: also a number, `.`, `[` or `]`. -/
def isNameChar (c : Char) : Bool :=
  isNameStart c || isNumberChar c || c == '.' || c == '[' || c == ']'

end ColumnSpec.Pattern
