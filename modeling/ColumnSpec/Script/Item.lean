import ColumnSpec.Script.Token
import ColumnSpec.Expr.Syntax
import ColumnSpec.Input
import ColumnSpec.Output
/-!
# Compiled programs

A program compiles to a flat list of items: data fields, directives, and conditional items
and jumps with known targets for `IF`, `ELSEIF`, `ELSE` and `WHILE`.
-/
namespace ColumnSpec.Script

/-- The functions that look at the current record or the position in the run. -/
def recordFunctions : List String :=
  ["record", "recno", "iterno", "wordcount", "fieldcount", "word", "field", "words", "fields",
   "range", "wordstart", "wordend", "wordlen", "fieldstart", "fieldend", "fieldlen", "first",
   "eof"]

/-- Whether an expression looks at input: a record function or a control break in it. -/
def readsInput (e : Expr) : Bool := e.anyCall (recordFunctions.contains ·)

/-- Where a data field's text comes from. -/
inductive Source where
  /-- Characters of the record. -/
  | range (r : Range)
  | words (r : Range)
  | fields (r : Range)
  | literal (s : String)
  /-- The text bound to a field identifier. -/
  | id (c : Char)
  /-- The cycle number. -/
  | number
  | todClock
  | dtodClock
  | timeDiff
  /-- The text of an expression's value. -/
  | print (e : Expr)
  /-- A range of another source's text. -/
  | substring (part whole : Source)

namespace Source

/-- The range sources, which may pick from another source's text. -/
def isRange : Source → Bool
  | .range _ | .words _ | .fields _ => true
  | _ => false

/-- Whether a source looks at the input record. -/
def readsInput : Source → Bool
  | .range _ | .words _ | .fields _ | .id _ => true
  | .print e => Script.readsInput e
  | .substring _ whole => whole.readsInput
  | _ => false

end Source

/-- A data field: an optional label binding the extracted text, the source, whether to
strip blanks, a conversion, and where and how to place the result. -/
structure DataField where
  label : Option Char
  source : Source
  strip : Bool
  conversion : Option Conversion
  placement : Placement
  align : Text.Align

/-- One step of a program. -/
inductive Item where
  | field (f : DataField)
  | fieldSeparator (c : Char)
  | wordSeparator (c : Char)
  | pad (c : Char)
  | read
  | readStop
  | write
  | noWrite
  | unread
  | redo
  | continue
  /-- The start of the items run once after the input ends. -/
  | eof
  | selectInput (n : Nat)
  | outStream (n : Nat)
  | stderr
  | assert (cond : Expr) (src : String)
  | abend (message : String)
  | set (e : Expr)
  /-- Starts tracking a break key on this record. -/
  | break (c : Char)
  | skipWhile (cond : Expr)
  | skipUntil (cond : Expr)
  /-- Falls through when `cond` holds, else goes on at `onFalse`. -/
  | if (cond : Expr) (onFalse : Nat)
  | while (cond : Expr) (onFalse : Nat)
  | jump (target : Nat)

/-- An item with its jump target set, if it has one. -/
def Item.retarget (target : Nat) : Item → Item
  | .if c _ => .if c target
  | .while c _ => .while c target
  | .jump _ => .jump target
  | i => i

/-- A compiled program. -/
structure Program where
  items : Array Item := #[]
  /-- Where the `EOF` item is, if there is one. -/
  eofAt : Option Nat := none
  stop : Option StopPolicy := none
  /-- Whether any item looks at input records. -/
  usesInput : Bool := false

/-- The items that steer control: the conditional items and jumps. -/
def Item.steers : Item → Bool
  | .if _ _ | .while _ _ | .jump _ => true
  | _ => false

theorem Item.steers_cases (i : Item) :
    i.steers = false ∨ (∃ c t, i = .if c t ∨ i = .while c t) ∨ ∃ t, i = .jump t := by
  cases i
  all_goals first
    | exact Or.inl rfl
    | exact Or.inr (Or.inl ⟨_, _, Or.inl rfl⟩)
    | exact Or.inr (Or.inl ⟨_, _, Or.inr rfl⟩)
    | exact Or.inr (Or.inr ⟨_, rfl⟩)

/-- The end of a regular cycle: the `EOF` item, or the end. -/
def Program.cycleEnd (p : Program) : Nat := p.eofAt.getD p.items.size

end ColumnSpec.Script
