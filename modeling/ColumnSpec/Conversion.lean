import ColumnSpec.Text.Bytes
import ColumnSpec.Text.Case
import ColumnSpec.Text.Blank
import ColumnSpec.Value.Basic
/-!
# Field conversions

A conversion changes a field's text between extraction and placement: `c2b`, `c2x`, `b2c`
and `x2c` between bytes and digits, `d2x` and `x2d` between decimal and hexadecimal
numbers, and `ucase` and `lcase`.
-/
namespace ColumnSpec

inductive Conversion where
  | c2b | c2x | b2c | x2c | d2x | x2d | ucase | lcase
deriving DecidableEq, Repr

namespace Conversion

def all : List Conversion := [.c2b, .c2x, .b2c, .x2c, .d2x, .x2d, .ucase, .lcase]

def name : Conversion → String
  | .c2b => "c2b" | .c2x => "c2x" | .b2c => "b2c" | .x2c => "x2c"
  | .d2x => "d2x" | .x2d => "x2d" | .ucase => "ucase" | .lcase => "lcase"

def ofName? (s : String) : Option Conversion :=
  all.find? fun c => c.name.toList == s.toList.map Char.toLower

/-- The eight bits of a byte, most significant first. -/
def bits (b : Nat) : List Char :=
  (List.range 8).reverse.map fun i => if b / Nat.pow 2 i % 2 = 1 then '1' else '0'

def ofBits (cs : List Char) : Nat := cs.foldl (fun n c => 2 * n + (if c == '1' then 1 else 0)) 0

def octets : List Char → List (List Char)
  | a :: b :: c :: d :: e :: f :: g :: h :: rest => [a, b, c, d, e, f, g, h] :: octets rest
  | [] => []
  | short => [short]

/-- Lower-case hexadecimal digits of a natural number, without leading zeros. -/
def hexDigits (n : Nat) : List Char := (Nat.toDigits 16 n)

/-- Reads hexadecimal digits, with an optional leading plus, into a 64-bit unsigned value. -/
def readHexWord? (cs : List Char) : Option Nat :=
  let ds := match cs with
    | '+' :: r => r
    | r => r
  if ds.isEmpty then none
  else do
    let vals ← ds.mapM Text.hexDigit?
    let n := vals.foldl (fun n d => 16 * n + d) 0
    if n < Nat.pow 2 64 then some n else none

/-- Applies a conversion; text it cannot read fails with an `invalidArgument`. -/
def apply (conv : Conversion) (s : String) : Except Fault String :=
  let bad (what : String) : Except Fault String :=
    .error (.invalidArgument conv.name (what ++ " <" ++ s ++ ">"))
  match conv with
  | .c2b => .ok (String.ofList ((Text.textBytes s.toList).flatMap bits))
  | .c2x => .ok (String.ofList ((Text.textBytes s.toList).flatMap Text.hexByte))
  | .b2c =>
    let cs := s.toList
    if cs.length % 8 = 0 && cs.all (fun c => c == '0' || c == '1') then
      .ok (String.ofList (Text.latin1 ((octets cs).map ofBits)))
    else bad "invalid binary string"
  | .x2c =>
    match Text.decodeHex? s.toList with
    | some cs => .ok (String.ofList cs)
    | none => bad "invalid hex string"
  | .d2x =>
    match readWord? (Text.trimChars s.toList) with
    | some n => .ok (String.ofList (hexDigits (if n < 0 then (n + Int.pow 2 64).toNat else n.toNat)))
    | none => bad "invalid decimal number"
  | .x2d =>
    match readHexWord? (Text.trimChars s.toList) with
    | some n => .ok (toString n)
    | none => bad "invalid hex number"
  | .ucase => .ok (Text.upper s)
  | .lcase => .ok (Text.lower s)

end Conversion

end ColumnSpec
