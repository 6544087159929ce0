import ColumnSpec.Builtin.Args
import ColumnSpec.Value.Arith
import ColumnSpec.Text.Bytes
/-!
# Numeric functions

`abs`, `pow` and `sqrt`; the binary encodings `tobin`, `tobine` and `frombin`, which write
an integer as its little-endian bytes, one character per byte; and `fmt`, which writes a
number in fixed or scientific notation with a chosen decimal mark and thousands separator.
-/
namespace ColumnSpec.Builtin

/-- `abs(x)`: exact on integers. -/
def absValue (v : Value) : Except Fault Value := do
  match ← v.operand "abs" with
  | .int n => Value.wordResult "abs" n.natAbs
  | .real x => pure (.real x.abs)

/-- `b ^ e` on integers when it fits in 64 bits. A base other than 0 and ±1 overflows for
any exponent of 64 or more, so the power is only computed below that. -/
def wordPow (b : Int) (e : Nat) : Option Int :=
  if b.natAbs ≤ 1 || e < 64 then checkedWord (Int.pow b e) else none

/-- `pow(b, e)`: exact for an integer base and an exponent in `0..2^32-1`, on doubles
otherwise. -/
def powValue (base exp : Value) : Except Fault Value := do
  let b ← base.operand "pow"
  let e ← exp.operand "pow"
  match b, e with
  | .int b, .int e =>
    if 0 ≤ e && e < Int.pow 2 32 then
      match wordPow b e.toNat with
      | some r => pure (.int r)
      | none => throw (.integerOverflow "pow")
    else pure (.real (Float.pow (Binary64.ofInt b) (Binary64.ofInt e)))
  | _, _ => pure (.real (Float.pow b.toFloat e.toFloat))

/-- `sqrt(x)`: a negative argument fails. -/
def sqrtValue (v : Value) : Except Fault Value := do
  let x ← v.toFloat "sqrt"
  if x < 0.0 then throw (.invalidArgument "sqrt" "negative argument")
  pure (.real x.sqrt)

/-- The `k` low bytes of an integer's 64-bit two's complement, least significant first. -/
def leBytes (n : Int) (k : Nat) : List Nat :=
  let u := if n < 0 then (n + Int.pow 2 64).toNat else n.toNat
  (List.range k).map fun i => u / Nat.pow 256 i % 256

/-- `n` in `bits` bits, one character per byte: the width must be 8, 16, 32 or 64, and
below 64 the value must lie between `-2^(bits-1)` and `2^bits - 1`. -/
def toBinary (name : String) (n bits : Int) : Except Fault Value :=
  if !(bits == 8 || bits == 16 || bits == 32 || bits == 64) then
    throw (.invalidArgument name ("Invalid bit length " ++ toString bits))
  else if bits < 64 && (n < -Int.pow 2 (bits.toNat - 1) || Int.pow 2 bits.toNat - 1 < n) then
    throw (.invalidArgument name (toString n ++ " does not fit in " ++ toString bits ++ " bits"))
  else pure (.str (String.ofList (Text.latin1 (leBytes n (bits.toNat / 8)))))

/-- The width `tobin` chooses: the fewest of 8, 16, 32 bits that hold a non-negative
value, 64 otherwise. -/
def binaryWidth (n : Int) : Int :=
  if 0 ≤ n && n < Int.pow 2 8 then 8
  else if 0 ≤ n && n < Int.pow 2 16 then 16
  else if 0 ≤ n && n < Int.pow 2 32 then 32
  else 64

/-- `frombin(s)`: one to eight characters up to `ÿ`, read as a little-endian 64-bit two's
complement integer. -/
def fromBinary (name : String) (s : String) : Except Fault Value :=
  let cs := s.toList
  let bytes := Text.textBytes cs
  if bytes.isEmpty || 8 < bytes.length || bytes.length != cs.length then
    throw (.invalidArgument name ("Invalid binary field length " ++ toString cs.length))
  else
    let u : Nat := bytes.foldr (fun b acc => b + 256 * acc) 0
    pure (.int (if Nat.pow 2 63 ≤ u then (u : Int) - Int.pow 2 64 else u))

/-- A scientific numeral with its exponent signed and of at least two digits: `1.5e3`
becomes `1.5e+03`. -/
def signedExponent (s : String) : String :=
  let cs := s.toList
  match cs.span (· != 'e') with
  | (mant, 'e' :: exp) =>
    let (sign, ds) := match exp with
      | '-' :: d => ('-', d)
      | d => ('+', d)
    String.ofList (mant ++ 'e' :: sign :: (List.replicate (2 - ds.length) '0' ++ ds))
  | _ => s

/-- Groups the leading digits of a numeral by three with `thousands` and replaces its
decimal point by `decimal`. -/
def localize (text decimal thousands : String) : String :=
  let cs := text.toList
  let (sign, unsigned) := match cs with
    | '-' :: r => ("-", r)
    | r => ("", r)
  let (whole, rest) := unsigned.span Char.isDigit
  let grouped := whole.zipIdx.foldl (fun acc (c, i) =>
    acc ++ (if 0 < i && (whole.length - i) % 3 == 0 then thousands.toList else []) ++ [c]) []
  let tail := match rest with
    | '.' :: frac => decimal.toList ++ frac
    | r => r
  sign ++ String.ofList (grouped ++ tail)

/-- `fmt(x [, kind [, digits [, decimal [, thousands]]]])`: kind `f` (fixed, the default)
or `e` (scientific) in either case; without digits an integer is written as is, a real as
its usual text, and scientific notation uses the fewest digits that read back. -/
def fmtValue (args : List Value) : Except Fault Value := do
  let kind := ((optional args 1).map Value.text).getD "f"
  let lower := String.ofList (kind.toList.map Char.toLower)
  let scientific ← if lower == "f" then pure false else if lower == "e" then pure true
    else throw (.invalidArgument "fmt" ("Invalid format type " ++ kind))
  let digits ← match optional args 2 with
    | some v => do
      let d ← v.toInt "fmt"
      if d < 0 then throw (.invalidArgument "fmt" "negative precision") else pure (some d.toNat)
    | none => pure none
  let decimal := ((optional args 3).map Value.text).getD "."
  let thousands := ((optional args 4).map Value.text).getD ""
  let number ← (arg args 0).operand "fmt"
  let text := match scientific, digits, number with
    | false, none, .int n => toString n
    | false, none, .real x => realText x
    | false, some d, n => Decimal.fixed n.toFloat d
    | true, none, n => signedExponent (Decimal.scientificShortest n.toFloat)
    | true, some d, n => signedExponent (Decimal.scientific n.toFloat d)
  pure (.str (localize text decimal thousands))

end ColumnSpec.Builtin
