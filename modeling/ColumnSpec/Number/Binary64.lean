/-!
# Binary64 values as exact numbers

A finite double is `(-1)^neg * man * 2^exp`. `Binary64.kind` reads the fields of
`Float.toBits`, and `Binary64.ofRatio` rounds an exact ratio to the nearest double, ties to
even, both in `Nat` arithmetic.
-/
namespace ColumnSpec.Binary64

/-- A finite double `(-1)^neg * man * 2^exp`. -/
structure Finite where
  neg : Bool
  man : Nat
  exp : Int
deriving DecidableEq, Repr

/-- What a bit pattern stands for. -/
inductive Kind where
  | nan
  | inf (neg : Bool)
  | finite (x : Finite)
deriving DecidableEq, Repr

/-- The meaning of a 64-bit pattern: sign bit, 11 exponent bits, 52 fraction bits. -/
def kindOfBits (b : Nat) : Kind :=
  let neg := decide (b / Nat.pow 2 63 % 2 = 1)
  let e := b / Nat.pow 2 52 % Nat.pow 2 11
  let f := b % Nat.pow 2 52
  if e = 2047 then (if f = 0 then .inf neg else .nan)
  else if e = 0 then .finite ⟨neg, f, -1074⟩
  else .finite ⟨neg, f + Nat.pow 2 52, Int.ofNat e - 1075⟩

def kind (x : Float) : Kind := kindOfBits x.toBits.toNat

/-- The numerator of `|x|` over the denominator `Finite.den`. -/
def Finite.num (x : Finite) : Nat :=
  if 0 ≤ x.exp then x.man * Nat.pow 2 x.exp.toNat else x.man

/-- The denominator of `|x|`, a power of two. -/
def Finite.den (x : Finite) : Nat :=
  if 0 ≤ x.exp then 1 else Nat.pow 2 (-x.exp).toNat

/-- `x` rounded toward zero to an integer. -/
def Finite.truncate (x : Finite) : Int :=
  let m := x.num / x.den
  if x.neg then -(m : Int) else m

/-- `n / d` rounded to the nearest natural number, a tie going to the even one. -/
def roundHalfEven (n d : Nat) : Nat :=
  let q := n / d
  let r := n % d
  if 2 * r < d then q
  else if d < 2 * r then q + 1
  else if q % 2 = 0 then q else q + 1

/-- `n / d / 2^e`, rounded half to even. -/
def scaledRound (n d : Nat) (e : Int) : Nat :=
  if e ≤ 0 then roundHalfEven (n * Nat.pow 2 (-e).toNat) d
  else roundHalfEven n (d * Nat.pow 2 e.toNat)

/-- Significand and exponent of the double nearest to `n / d`, before the range check:
the significand is below `2^53`, and below `2^52` only at the least exponent. -/
def nearest (n d : Nat) : Nat × Int :=
  let e₀ : Int := max ((n.log2 : Int) - d.log2 - 53) (-1074)
  let q₀ := scaledRound n d e₀
  if q₀ < Nat.pow 2 53 then (q₀, e₀)
  else
    let q₁ := scaledRound n d (e₀ + 1)
    if q₁ < Nat.pow 2 53 then (q₁, e₀ + 1) else (Nat.pow 2 52, e₀ + 2)

def infBits : Nat := 2047 * Nat.pow 2 52

/-- Bits of the magnitude nearest to `n / d`; infinity past the largest double. -/
def magnitudeBits (n d : Nat) : Nat :=
  if n = 0 then 0
  else
    let (q, e) := nearest n d
    if q < Nat.pow 2 52 then q
    else
      let field := e + 1075
      if 2047 ≤ field then infBits else field.toNat * Nat.pow 2 52 + (q - Nat.pow 2 52)

/-- The double nearest to `±n / d` (`d > 0`), a tie going to the even significand. -/
def ofRatio (neg : Bool) (n d : Nat) : Float :=
  Float.ofBits (UInt64.ofNat ((if neg then Nat.pow 2 63 else 0) + magnitudeBits n d))

/-- The double nearest to an integer. -/
def ofInt (i : Int) : Float := ofRatio (i < 0) i.natAbs 1

def inf : Float := Float.ofBits (UInt64.ofNat infBits)

def negInf : Float := Float.ofBits (UInt64.ofNat (Nat.pow 2 63 + infBits))

/-- The quiet NaN with an empty payload. -/
def nan : Float := Float.ofBits (UInt64.ofNat (infBits + Nat.pow 2 51))

/-- Whether a double is neither infinite nor NaN. -/
def isFinite (x : Float) : Bool :=
  match kind x with
  | .finite _ => true
  | _ => false

end ColumnSpec.Binary64
