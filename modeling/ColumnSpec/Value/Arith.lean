import ColumnSpec.Value.Basic
/-!
# Arithmetic and comparison of values

Integer arithmetic is exact or an `integerOverflow`; with a real operand it is done on
doubles. Comparison is numeric when both sides read as numbers, the strict ones always
textual.
-/
namespace ColumnSpec.Value

/-- An integer result, or an overflow in `op`. -/
def wordResult (op : String) (n : Int) : Except Fault Value :=
  match checkedWord n with
  | some r => .ok (.int r)
  | none => .error (.integerOverflow op)

/-- An operation that is exact on two integers and done on doubles otherwise. -/
def arith (op : String) (intOp : Int → Int → Int) (realOp : Float → Float → Float)
    (a b : Value) : Except Fault Value := do
  let x ← a.operand op
  let y ← b.operand op
  match x, y with
  | .int m, .int n => wordResult op (intOp m n)
  | _, _ => pure (.real (realOp x.toFloat y.toFloat))

def add : Value → Value → Except Fault Value := arith "+" (· + ·) (· + ·)

def sub : Value → Value → Except Fault Value := arith "-" (· - ·) (· - ·)

def mul : Value → Value → Except Fault Value := arith "*" (· * ·) (· * ·)

/-- `/`: the quotient of the doubles; a zero divisor fails. -/
def div (a b : Value) : Except Fault Value := do
  let x ← a.toFloat "/"
  let y ← b.toFloat "/"
  if y == 0.0 then throw .divisionByZero
  pure (.real (x / y))

/-- `//`: the integer quotient cut toward zero. -/
def intDiv (a b : Value) : Except Fault Value := do
  let x ← a.toInt "//"
  let y ← b.toInt "//"
  if y = 0 then throw .divisionByZero
  wordResult "//" (x.tdiv y)

/-- `%`: the remainder of `//`, with the sign of the dividend. -/
def rem (a b : Value) : Except Fault Value := do
  let x ← a.toInt "%"
  let y ← b.toInt "%"
  if y = 0 then throw .moduloByZero
  -- the remainder is refused whenever the quotient overflows, as for the least word by -1
  if fitsWord (x.tdiv y) then pure (.int (x.tmod y)) else throw (.integerOverflow "%")

def neg (a : Value) : Except Fault Value := do
  match ← a.operand "-" with
  | .int n => wordResult "-" (-n)
  | .real x => pure (.real (-x))

/-- Unary plus: the numeric reading as a value. -/
def pos (a : Value) : Except Fault Value := (a.operand "+").map Number.toValue

/-- `||`: the texts joined. -/
def concat (a b : Value) : Value := .str (a.text ++ b.text)

/-- The order of two doubles; NaN is equal to everything. -/
def compareFloat (x y : Float) : Ordering :=
  if x < y then .lt else if y < x then .gt else .eq

/-- Numeric order when both values read as numbers (exact for two integers), text order
otherwise. -/
def compareLoose (a b : Value) : Ordering :=
  match a.number?, b.number? with
  | some (.int m), some (.int n) => compare m n
  | some x, some y => compareFloat x.toFloat y.toFloat
  | _, _ => compare a.text b.text

/-- Text order, always. -/
def compareStrict (a b : Value) : Ordering := compare a.text b.text

end ColumnSpec.Value
