import ColumnSpec.Number.Decimal
import ColumnSpec.Text.Blank
import ColumnSpec.Fault
/-!
# Values

Signed 64-bit integers, doubles, text and the absent value. A real is written with sixteen
significant digits, positionally for exponents from -4 to 15.
-/
namespace ColumnSpec

/-- The least signed 64-bit integer. -/
def wordMin : Int := -Int.pow 2 63

/-- The greatest signed 64-bit integer. -/
def wordMax : Int := Int.pow 2 63 - 1

/-- Whether an integer fits in a signed 64-bit word. -/
def fitsWord (n : Int) : Bool := wordMin ≤ n && n ≤ wordMax

/-- `n` when it fits in a signed 64-bit word. -/
def checkedWord (n : Int) : Option Int := if fitsWord n then some n else none

/-- A numeric reading: an integer in the signed 64-bit range, or a double. -/
inductive Number where
  | int (n : Int)
  | real (x : Float)

/-- A value of the expression language. -/
inductive Value where
  | int (n : Int)
  | real (x : Float)
  | str (s : String)
  | absent

instance : Inhabited Value := ⟨.absent⟩

/-- The double of a number; an integer is rounded to the nearest double. -/
def Number.toFloat : Number → Float
  | .int n => Binary64.ofInt n
  | .real x => x

def Number.toValue : Number → Value
  | .int n => .int n
  | .real x => .real x

/-- `cs` without the trailing zeros of its fraction, and without a point left bare. -/
def trimFraction (cs : List Char) : List Char :=
  if cs.contains '.' then
    ((cs.reverse.dropWhile (· == '0')).dropWhile (· == '.')).reverse
  else cs

/-- The text of a real: zero of either sign is `0`; otherwise sixteen significant digits,
positional for exponents from -4 to 15, scientific with a signed exponent of at least two
digits outside, trailing zeros dropped. -/
def realText (x : Float) : String :=
  match Binary64.kind x with
  | .finite f =>
    if f.man = 0 then "0"
    else
      let (q, k) := Decimal.roundSignificant f.num f.den 15
      if k < -4 ∨ 16 ≤ k then
        let mant := trimFraction (Decimal.sciText q 0 16).toList |>.takeWhile (· != 'e')
        let digits := Decimal.padDigits k.natAbs 2
        Decimal.signText f.neg ++ String.ofList (trimFraction mant) ++ "e" ++
          (if k < 0 then "-" else "+") ++ String.ofList digits
      else String.ofList (trimFraction (Decimal.fixed x (15 - k).toNat).toList)
  | k => Decimal.specialText k

/-- Reads a signed 64-bit integer: an optional sign, then decimal digits only. -/
def readWord? (cs : List Char) : Option Int :=
  let (neg, ds) := Decimal.readSign cs
  if ds.isEmpty || !ds.all Char.isDigit then none
  else
    let n : Int := Decimal.digitsValue ds
    checkedWord (if neg then -n else n)

/-- The numeric reading of a text, blanks around it ignored: an integer if it is one in
range, else a decimal numeral of digits, signs, points and exponent marks. -/
def readNumber? (s : String) : Option Number :=
  let t := Text.trimChars s.toList
  if t.isEmpty then none
  else match readWord? t with
    | some n => some (.int n)
    | none =>
      let numeric := t.any Char.isDigit &&
        t.all fun c => c.isDigit || c == '+' || c == '-' || c == '.' || c == 'e' || c == 'E'
      if numeric then (Decimal.read? t).map .real else none

namespace Value

/-- The text of a value; the absent value is empty. -/
def text : Value → String
  | .int n => toString n
  | .real x => realText x
  | .str s => s
  | .absent => ""

/-- The numeric reading of a value, if it has one. -/
def number? : Value → Option Number
  | .int n => some (.int n)
  | .real x => some (.real x)
  | .str s => readNumber? s
  | .absent => none

/-- Truth: a number is true when non-zero (NaN included), a numeric text likewise, any
other text when non-empty; the absent value is false. -/
def isTrue : Value → Bool
  | .int n => n != 0
  | .real x => x != 0.0
  | .str s => match readNumber? s with
    | some n => n.toFloat != 0.0
    | none => !s.isEmpty
  | .absent => false

def typeName : Value → String
  | .int _ => "integer"
  | .real _ => "real"
  | .str s => match readNumber? s with
    | some (.int _) => "integer"
    | some (.real _) => "real"
    | none => "string"
  | .absent => "none"

/-- The number an operator `op` works on: the absent value and blank text count as zero. -/
def operand (v : Value) (op : String) : Except Fault Number :=
  match v with
  | .absent => .ok (.int 0)
  | .str s =>
    if Text.isBlankText s then .ok (.int 0)
    else match readNumber? s with
      | some n => .ok n
      | none => .error (.notNumeric op s)
  | .int n => .ok (.int n)
  | .real x => .ok (.real x)

/-- The integer of a value for `op`: a finite real below `9.2e18` in magnitude is cut
toward zero, any other real overflows. -/
def toInt (v : Value) (op : String) : Except Fault Int := do
  match ← v.operand op with
  | .int n => pure n
  | .real x =>
    match Binary64.kind x with
    | .finite f =>
      if f.num < 9200000000000000000 * f.den then pure f.truncate
      else throw (.integerOverflow op)
    | _ => throw (.integerOverflow op)

/-- The double of a value for `op`. -/
def toFloat (v : Value) (op : String) : Except Fault Float :=
  (v.operand op).map Number.toFloat

def ofBool (b : Bool) : Value := .int (if b then 1 else 0)

end Value

end ColumnSpec
