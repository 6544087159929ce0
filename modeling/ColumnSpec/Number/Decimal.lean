import ColumnSpec.Number.Binary64
/-!
# Decimal numerals of doubles

Decimal numerals of finite doubles, computed exactly on the ratio a double stands for:
`roundSignificant`, `roundPlaces` and `shortest`, and `read?` back to the nearest double.
-/
namespace ColumnSpec.Decimal

open Binary64

/-- Number of decimal digits of `n` (one for zero). -/
def digitCount (n : Nat) : Nat := (Nat.toDigits 10 n).length

/-- `⌊log₁₀ (n / d)⌋` for positive `n` and `d`. -/
def floorLog10 (n d : Nat) : Int :=
  let k : Int := (digitCount n : Int) - digitCount d
  if 0 ≤ k then (if d * Nat.pow 10 k.toNat ≤ n then k else k - 1)
  else (if d ≤ n * Nat.pow 10 (-k).toNat then k else k - 1)

/-- `n / d / 10^s` rounded half to even. -/
def roundScaled (n d : Nat) (s : Int) : Nat :=
  if 0 ≤ s then roundHalfEven n (d * Nat.pow 10 s.toNat) else roundHalfEven (n * Nat.pow 10 (-s).toNat) d

/-- The positive ratio `n / d` to `p + 1` significant digits: `(q, k)` with
`10^p ≤ q < 10^(p+1)` and `n / d ≈ q * 10^(k - p)`, a tie going to the even digit. -/
def roundSignificant (n d p : Nat) : Nat × Int :=
  let k := floorLog10 n d
  let q := roundScaled n d (k - p)
  if q = Nat.pow 10 (p + 1) then (Nat.pow 10 p, k + 1) else (q, k)

/-- `n / d * 10^places` rounded half to even. -/
def roundPlaces (n d places : Nat) : Nat := roundHalfEven (n * Nat.pow 10 places) d

/-- Compares `c * 10^s` with `x * 2^t`. -/
def compareScaled (c : Nat) (s : Int) (x : Nat) (t : Int) : Ordering :=
  compare (c * Nat.pow 10 s.toNat * Nat.pow 2 (-t).toNat) (x * Nat.pow 2 t.toNat * Nat.pow 10 (-s).toNat)

/-- Whether `a` lies below `b`, or at `b` when `closed`. -/
def isBelow (o : Ordering) (closed : Bool) : Bool :=
  o == .lt || (closed && o == .eq)

/-- The numeral `c * 10^s` of `n` significant digits nearest to a positive finite double
among those that read back as it, if there is one. A double reads back from every number
strictly between the midpoints to its neighbours, and from the midpoints too when its
significand is even. -/
def shortestAt (x : Finite) (n : Nat) : Option (Nat × Int) :=
  let t := x.exp - 2
  let v := 4 * x.man
  let hi := 4 * x.man + 2
  let lo := if x.man = Nat.pow 2 52 ∧ -1074 < x.exp then 4 * x.man - 1 else 4 * x.man - 2
  let closed := x.man % 2 == 0
  let k := floorLog10 x.num x.den
  let s := k - (n - 1 : Nat)
  let below := if 0 ≤ s then x.num / (x.den * Nat.pow 10 s.toNat) else x.num * Nat.pow 10 (-s).toNat / x.den
  let above := below + 1
  let fits (c : Nat) : Bool :=
    isBelow (compareScaled c s lo t).swap closed && isBelow (compareScaled c s hi t) closed
  match fits below, fits above with
  | true, true =>
    if compareScaled (2 * below + 1) s (2 * v) t == .gt then some (below, s) else some (above, s)
  | true, false => some (below, s)
  | false, true => some (above, s)
  | false, false => none

/-- Drops the trailing zeros of `c * 10^s`, keeping its value. -/
def dropZeros : Nat → Nat → Int → Nat × Int
  | 0, c, s => (c, s)
  | fuel + 1, c, s => if c ≠ 0 ∧ c % 10 = 0 then dropZeros fuel (c / 10) (s + 1) else (c, s)

/-- The shortest numeral of a positive finite double: `(q, k)` with `q` free of trailing
zeros and the double reading back from `q * 10^(k + 1 - digitCount q)`. Seventeen
significant digits always suffice. -/
def shortest (x : Finite) : Nat × Int :=
  let found := (List.range' 1 17).findSome? (shortestAt x)
  let (c, s) := found.getD (roundScaled x.num x.den (floorLog10 x.num x.den - 16), floorLog10 x.num x.den - 16)
  let (q, s) := dropZeros (digitCount c) c s
  (q, s + digitCount q - 1)

/-- The digits of `q`, at least `width` of them, padded with leading zeros. -/
def padDigits (q width : Nat) : List Char :=
  let ds := Nat.toDigits 10 q
  List.replicate (width - ds.length) '0' ++ ds

/-- Scientific notation `d.ddd` with `q`'s digits, followed by `e` and the exponent. -/
def sciText (q : Nat) (k : Int) (digits : Nat) : String :=
  match padDigits q digits with
  | [] => "0e" ++ toString k
  | d :: rest => String.ofList (if rest.isEmpty then [d] else d :: '.' :: rest) ++ "e" ++ toString k

/-- The sign of a written number: a minus for every negative value, zero included. -/
def signText (neg : Bool) : String := if neg then "-" else ""

def specialText : Kind → String
  | .nan => "NaN"
  | .inf true => "-inf"
  | _ => "inf"

/-- `x` in scientific notation with `p` digits after the point, rounded half to even. -/
def scientific (x : Float) (p : Nat) : String :=
  match kind x with
  | .finite f =>
    if f.man = 0 then signText f.neg ++ sciText 0 0 (p + 1)
    else
      let (q, k) := roundSignificant f.num f.den p
      signText f.neg ++ sciText q k (p + 1)
  | k => specialText k

/-- `x` in scientific notation with the fewest digits that read back. -/
def scientificShortest (x : Float) : String :=
  match kind x with
  | .finite f =>
    if f.man = 0 then signText f.neg ++ "0e0"
    else
      let (q, k) := shortest f
      signText f.neg ++ sciText q k 1
  | k => specialText k

/-- `x` with `places` digits after the point, rounded half to even. -/
def fixed (x : Float) (places : Nat) : String :=
  match kind x with
  | .finite f =>
    let ds := padDigits (roundPlaces f.num f.den places) (places + 1)
    let whole := ds.take (ds.length - places)
    let frac := ds.drop (ds.length - places)
    signText f.neg ++ String.ofList (if places = 0 then whole else whole ++ '.' :: frac)
  | k => specialText k

/-! ## Reading -/

def spanDigits (cs : List Char) : List Char × List Char :=
  (cs.takeWhile Char.isDigit, cs.dropWhile Char.isDigit)

def digitsValue (ds : List Char) : Nat :=
  ds.foldl (fun n c => 10 * n + (c.toNat - '0'.toNat)) 0

/-- An optional sign: whether it is a minus, and the rest. -/
def readSign : List Char → Bool × List Char
  | '-' :: r => (true, r)
  | '+' :: r => (false, r)
  | r => (false, r)

/-- The double nearest to `±m * 10^e`. Past `10^310` it is infinite and below `10^-330`
zero, which spares the exact ratio of a huge exponent. -/
def ofScientific (neg : Bool) (m : Nat) (e : Int) : Float :=
  let top := (digitCount m : Int) + e
  if m = 0 then ofRatio neg 0 1
  else if 311 < top then (if neg then negInf else inf)
  else if top < -330 then ofRatio neg 0 1
  else if 0 ≤ e then ofRatio neg (m * Nat.pow 10 e.toNat) 1
  else ofRatio neg m (Nat.pow 10 (-e).toNat)

/-- Whether `cs` spells `word`, ignoring ASCII case. -/
def spells (cs : List Char) (word : String) : Bool :=
  cs.map Char.toLower == word.toList

/-- Reads a decimal numeral to the nearest double: an optional sign, then `inf`,
`infinity` or `nan` in any case, or digits with an optional point and at least one digit,
then an optional exponent `e` or `E` with an optional sign and at least one digit. -/
def read? (s : List Char) : Option Float :=
  let (neg, r) := readSign s
  if spells r "inf" || spells r "infinity" then some (if neg then negInf else inf)
  else if spells r "nan" then some nan
  else
    let (whole, r) := spanDigits r
    let (frac, r) := match r with
      | '.' :: r' => spanDigits r'
      | _ => ([], r)
    if whole.isEmpty && frac.isEmpty then none
    else
      let e : Option Int := match r with
        | [] => some 0
        | c :: r' =>
          if c = 'e' ∨ c = 'E' then
            let (eneg, r'') := readSign r'
            let (ds, rest) := spanDigits r''
            if ds.isEmpty || !rest.isEmpty then none
            else some (if eneg then -(digitsValue ds : Int) else digitsValue ds)
          else none
      e.map fun e => ofScientific neg (digitsValue (whole ++ frac)) (e - frac.length)

end ColumnSpec.Decimal
