import ColumnSpec.Pattern.Classes
import ColumnSpec.Text.Age
import ColumnSpec.Text.Script
import ColumnSpec.Text.Segment
/-!
# Unicode classes by name

What `\p{…}` and `\P{…}` name: a binary property, a general category or a script, or by
value a category, script, script extension, age or boundary class. Names match loosely.
-/
namespace ColumnSpec.Pattern

open Text (RangeSet)

/-- A name as Unicode classes compare it: spaces, underscores, hyphens and characters outside
ASCII dropped, capitals lowered, and a leading `is` ignored, except that `isc` (a property's
short name) stays whole rather than becoming the category `c`. -/
def looseName (s : String) : String :=
  let (prefixed, body) := match s.toList with
    | a :: b :: r =>
      if (a == 'i' || a == 'I') && (b == 's' || b == 'S') then (true, r) else (false, a :: b :: r)
    | cs => (false, cs)
  let kept := (body.filter fun c => c.toNat < 128 && c != ' ' && c != '_' && c != '-').map
    Char.toLower
  if prefixed && kept == ['c'] then "isc" else String.ofList kept

/-- Whether one of a list of names matches a loose name. -/
def namesMatch (names : List String) (loose : String) : Bool :=
  names.any fun n => looseName n == loose

/-- The class of a general category, of a group of them, or of `Any`, `Assigned` or `ASCII`. -/
def categoryClass? (loose : String) : Option RangeSet :=
  if loose == "any" then some .scalars
  else if loose == "assigned" then some (categorySet [.unassigned]).complement
  else if loose == "ascii" then some (.ofRange 0 0x7F)
  else
    match Text.Category.all.find? (fun g => g != .surrogate && namesMatch g.names loose) with
    | some g => some (categorySet [g])
    | none =>
      (Text.Category.groups.find? fun (names, _) => namesMatch names loose).map
        fun (_, gs) => categorySet gs

def scriptNamed? (loose : String) : Option Text.Script :=
  (Text.Script.names.findIdx? fun names => namesMatch names loose).map Text.Script.mk

def scriptSet (s : Text.Script) : RangeSet :=
  Text.Script.table.setWhere (· == s.index + 1)

/-- The characters used with a script: those whose extensions name it, and those of the script
whose extensions are the script alone. -/
def extensionSet (s : Text.Script) : RangeSet :=
  let listed := Text.Script.extensionTable.setWhere fun
    | 0 => false
    | n + 1 => (Text.Script.extensionSets.getD n []).contains s
  let extended := Text.Script.extensionTable.setWhere (· != 0)
  listed.union ((scriptSet s).diff extended)

def propertyClass? (loose : String) : Option RangeSet :=
  (Text.Property.all.find? fun p => namesMatch p.names loose).map propertySet

/-- The class that a name alone stands for: a binary property first, then a general category,
then a script. -/
def namedClass? (name : String) : Option RangeSet :=
  let loose := looseName name
  propertyClass? loose <|> categoryClass? loose <|> (scriptNamed? loose).map scriptSet

/-- The characters that a version or an earlier one assigned. -/
def ageClass? (loose : String) : Option RangeSet :=
  (Text.Age.versions.findIdx? fun names => namesMatch names loose).map fun i =>
    Text.Age.table.setWhere fun v => v != 0 && v ≤ i + 1

/-- The characters of one class of a property for text boundaries. -/
def boundaryClass? (p : Text.BreakProperty) (loose : String) : Option RangeSet :=
  (p.classes.findIdx? fun names => namesMatch names loose).map fun i =>
    p.table.setWhere (· == i + 1)

/-- The class of a property asked for by value: the general category, the script, the script
extensions (which hold the value when it is one of them), the age, or a class for text
boundaries. -/
def valueClass? (prop value : String) : Option RangeSet :=
  let p := looseName prop
  let v := looseName value
  if p == "gc" || p == "generalcategory" then categoryClass? v
  else if p == "sc" || p == "script" then (scriptNamed? v).map scriptSet
  else if p == "scx" || p == "scriptextensions" then (scriptNamed? v).map extensionSet
  else if p == "age" then ageClass? v
  else
    match Text.BreakProperty.all.find? fun b => namesMatch b.names p with
    | some b => boundaryClass? b v
    | none => none

/-- A text cut where a separator first starts: what comes before and what follows it. -/
def splitAtFirst? (sep : List Char) : List Char → Option (List Char × List Char)
  | [] => none
  | c :: r =>
    if sep.isPrefixOf (c :: r) then some ([], (c :: r).drop sep.length)
    else (splitAtFirst? sep r).map fun (before, after) => (c :: before, after)

/-- The class that the text in braces after `\p` names, and whether `!=` turns it around. -/
def bracedClass? (text : List Char) : Option (RangeSet × Bool) :=
  let byValue (negated : Bool) : List Char × List Char → Option (RangeSet × Bool) :=
    fun (prop, value) => (valueClass? (String.ofList prop) (String.ofList value)).map (·, negated)
  match splitAtFirst? ['!', '='] text with
  | some parts => byValue true parts
  | none =>
    match splitAtFirst? [':'] text <|> splitAtFirst? ['='] text with
    | some parts => byValue false parts
    | none => (namedClass? (String.ofList text)).map (·, false)

end ColumnSpec.Pattern
