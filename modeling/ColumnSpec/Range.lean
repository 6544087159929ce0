import ColumnSpec.Value.Basic
/-!
# Ranges

A range picks positions `first` to `last`, counted from 1; a negative bound counts from
the end and a `last` of 0 means to the end. Spellings: `n`, `a-b`, `a-*`, `a;b`, `a;*`
and `a.n`.
-/
namespace ColumnSpec

/-- An inclusive range of positions. -/
structure Range where
  first : Int
  last : Int
  single : Bool
deriving DecidableEq, Repr

namespace Range

def ofSingle (n : Int) : Range := ⟨n, n, true⟩

/-- A range from `a` to `b`. -/
def span (a b : Int) : Range := ⟨a, b, false⟩

def width? (r : Range) : Option Nat :=
  if 0 < r.first && r.first ≤ r.last then some (r.last - r.first + 1).toNat else none

/-- A non-zero 64-bit integer in canonical decimal form. -/
def canonical? (cs : List Char) : Option Int :=
  match readWord? cs with
  | some n => if n != 0 && (toString n).toList == cs then some n else none
  | none => none

/-- `a-b`, `a-*`, `a;b` or `a;*`: split at the first hyphen or semicolon after the first
character. -/
def fromTo? (cs : List Char) : Option Range :=
  match cs with
  | [] => none
  | c :: rest =>
    let (tail, sepRest) := rest.span fun x => x != '-' && x != ';'
    match sepRest with
    | sep :: upper => do
      let first ← canonical? (c :: tail)
      let semicolon := sep == ';'
      if upper == ['*'] then
        if semicolon || 0 < first then some (span first 0) else none
      else
        let last ← canonical? upper
        if !semicolon && (first < 1 || last < first) then none else some (span first last)
    | [] => none

/-- `a.n`: `n` positions from `a`. -/
def fromLength? (cs : List Char) : Option Range := do
  let (a, rest) := cs.span (· != '.')
  match rest with
  | _ :: n => do
    let first ← canonical? a
    let len ← canonical? n
    if len < 1 then none
    let last := first + len - 1
    if !fitsWord last then none
    some (span first (if first < 0 && 0 ≤ last then last + 1 else last))
  | [] => none

def parse? (s : String) : Option Range :=
  let cs := s.toList
  ((canonical? cs).map ofSingle).orElse fun _ => (fromTo? cs).orElse fun _ => fromLength? cs

end Range

end ColumnSpec
