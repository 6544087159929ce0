/-!
# Sets and maps of code points

A `RangeSet` holds a set by the points where membership flips, a `RangeMap` a value for
each run of code points. Tables are written as gaps in base 26, and set operations keep
their points strictly ascending.
-/
namespace ColumnSpec.Text

/-- One letter of a table's text, added to the number read so far: a small letter ends the
number and sends it to the output, a capital is a leading digit, anything else is skipped. -/
def readDigit (acc : Array Nat × Nat) (c : Char) : Array Nat × Nat :=
  if 'a' ≤ c && c ≤ 'z' then (acc.1.push (acc.2 * 26 + (c.toNat - 'a'.toNat)), 0)
  else if 'A' ≤ c && c ≤ 'Z' then (acc.1, acc.2 * 26 + (c.toNat - 'A'.toNat))
  else acc

def readNumbers (lines : List String) : Array Nat :=
  (lines.foldl (fun acc s => s.foldl readDigit acc) (#[], 0)).1

/-- The points that gaps lead to, each gap measured from the point before and the first from
zero. -/
def pointsOfGaps (gaps : Array Nat) : Array Nat :=
  (gaps.foldl (fun (acc : Array Nat × Nat) g => (acc.1.push (acc.2 + g), acc.2 + g)) (#[], 0)).1

/-- How many entries of an ascending array are at most `c`, when the answer is known to lie
between `lo` and `hi`: halving the window keeps the entries before it at most `c` and those
from its end on above `c`. -/
def countAtMost (a : Array Nat) (c : Nat) (lo hi : Nat) : Nat :=
  if lo < hi then
    let mid := (lo + hi) / 2
    if a.getD mid 0 ≤ c then countAtMost a c (mid + 1) hi else countAtMost a c lo mid
  else lo
termination_by hi - lo

/-- A set of code points, by the ascending points where membership flips. -/
structure RangeSet where
  points : Array Nat
  deriving BEq, Inhabited

def RangeSet.ofLines (lines : List String) : RangeSet := ⟨pointsOfGaps (readNumbers lines)⟩

/-- Whether a code point is in the set: an odd number of flips lies at or below it. -/
def RangeSet.contains (t : RangeSet) (c : Nat) : Bool :=
  countAtMost t.points c 0 t.points.size % 2 == 1

/-- The flip points of a combination of two sets: `op` gives membership in the result from
membership in the two sets; `inA` and `inB` are the memberships before the next points, and
`was` the result's. A point is kept where the result's membership changes. -/
def mergeFlips (op : Bool → Bool → Bool) (inA inB was : Bool) :
    List Nat → List Nat → List Nat
  | [], [] => []
  | a :: as, [] =>
    let now := op (!inA) inB
    let rest := mergeFlips op (!inA) inB now as []
    if now != was then a :: rest else rest
  | [], b :: bs =>
    let now := op inA (!inB)
    let rest := mergeFlips op inA (!inB) now [] bs
    if now != was then b :: rest else rest
  | a :: as, b :: bs =>
    if a < b then
      let now := op (!inA) inB
      let rest := mergeFlips op (!inA) inB now as (b :: bs)
      if now != was then a :: rest else rest
    else if b < a then
      let now := op inA (!inB)
      let rest := mergeFlips op inA (!inB) now (a :: as) bs
      if now != was then b :: rest else rest
    else
      let now := op (!inA) (!inB)
      let rest := mergeFlips op (!inA) (!inB) now as bs
      if now != was then a :: rest else rest
termination_by as bs => as.length + bs.length

/-- The set of the code points where `op` holds of membership in two sets; `op` must leave out
what is in neither. -/
def RangeSet.combine (op : Bool → Bool → Bool) (a b : RangeSet) : RangeSet :=
  ⟨(mergeFlips op false false false a.points.toList b.points.toList).toArray⟩

def RangeSet.empty : RangeSet := ⟨#[]⟩

/-- The code points from `lo` to `hi`, both included. -/
def RangeSet.ofRange (lo hi : Nat) : RangeSet := if hi < lo then .empty else ⟨#[lo, hi + 1]⟩

/-- The code points that are characters: all up to `U+10FFFF` but the surrogates. -/
def RangeSet.scalars : RangeSet := ⟨#[0, 0xD800, 0xE000, 0x110000]⟩

def RangeSet.union (a b : RangeSet) : RangeSet := RangeSet.combine (· || ·) a b

def RangeSet.inter (a b : RangeSet) : RangeSet := RangeSet.combine (· && ·) a b

/-- The code points in the first set and not in the second. -/
def RangeSet.diff (a b : RangeSet) : RangeSet := RangeSet.combine (fun x y => x && !y) a b

/-- The code points in exactly one of the sets. -/
def RangeSet.symmDiff (a b : RangeSet) : RangeSet := RangeSet.combine (· != ·) a b

def RangeSet.complement (a : RangeSet) : RangeSet := RangeSet.scalars.diff a

def RangeSet.unionAll (sets : List RangeSet) : RangeSet := sets.foldl RangeSet.union .empty

/-- The set's ranges, each as its first and last code point. -/
def RangeSet.ranges (s : RangeSet) : List (Nat × Nat) :=
  let rec pairs : List Nat → List (Nat × Nat)
    | a :: b :: rest => (a, b - 1) :: pairs rest
    | [a] => [(a, 0x10FFFF)]
    | [] => []
  pairs s.points.toList

def RangeSet.isEmpty (s : RangeSet) : Bool := s.points.isEmpty

/-- The one code point of a set that has exactly one. -/
def RangeSet.single? (s : RangeSet) : Option Nat :=
  match s.points.toList with
  | [a, b] => if b == a + 1 then some a else none
  | _ => none

/-- The set of code points listed in ascending order, repeats allowed: each run of
consecutive ones becomes one range. -/
def RangeSet.ofAscending (cs : List Nat) : RangeSet :=
  let close (flips : List Nat) : Option (Nat × Nat) → List Nat
    | some (lo, hi) => (hi + 1) :: lo :: flips
    | none => flips
  let step (acc : List Nat × Option (Nat × Nat)) (c : Nat) :=
    match acc.2 with
    | some (lo, hi) =>
      if c ≤ hi then acc
      else if c == hi + 1 then (acc.1, some (lo, c))
      else (close acc.1 acc.2, some (c, c))
    | none => (acc.1, some (c, c))
  let (flips, run) := cs.foldl step ([], none)
  ⟨(close flips run).reverse.toArray⟩

/-- A value for the code points of each run, by the ascending points where the runs start and
the value of each run. -/
structure RangeMap (α : Type) where
  points : Array Nat
  values : Array α

/-- The map that a table's lines write: the starts of the runs as gaps, and each run's value as
a number that `decode` turns into a value. -/
def RangeMap.ofLines {α : Type} (gaps values : List String) (decode : Nat → α) : RangeMap α :=
  ⟨pointsOfGaps (readNumbers gaps), (readNumbers values).map decode⟩

/-- The value of the run that holds a code point, if one does. -/
def RangeMap.get? {α : Type} (t : RangeMap α) (c : Nat) : Option α :=
  match countAtMost t.points c 0 t.points.size with
  | 0 => none
  | n + 1 => t.values[n]?

/-- The code points of the runs whose value passes a test. -/
def RangeMap.setWhere {α : Type} (t : RangeMap α) (p : α → Bool) : RangeSet :=
  let flips := (t.points.toList.zip t.values.toList).foldl
    (fun (acc : List Nat × Bool) (start, v) =>
      let now := p v
      (if now != acc.2 then start :: acc.1 else acc.1, now)) ([], false)
  ⟨(if flips.2 then 0x110000 :: flips.1 else flips.1).reverse.toArray⟩

end ColumnSpec.Text
