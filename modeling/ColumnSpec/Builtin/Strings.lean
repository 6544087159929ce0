import ColumnSpec.Builtin.Args
import ColumnSpec.Text.Fit
/-!
# Text functions

Lengths and positions count characters; `substr` counts a negative start or length from
the end, and `left`, `right` and `center` fit a text to a width.
-/
namespace ColumnSpec.Builtin

/-- `substr(s, start [, len])`: a start of 0 is absent; a start past the end gives the
empty text; negative start and length count from the end; the length is cut at the end. -/
def substring (s : List Char) (start : Int) (len : Option Int) : Value :=
  let slen : Int := s.length
  if start = 0 then .absent
  else if slen < start then .str ""
  else
    let start := if start < 0 then start + slen + 1 else start
    if start < 1 then .str ""
    else
      let len := len.getD (slen - start + 1)
      let len := if len < 0 then len + slen + 1 else len
      if len < 0 then .str ""
      else
        let len := min len (slen - start + 1)
        .str (String.ofList ((s.drop (start - 1).toNat).take len.toNat))

/-- `left`, `right` and `center`: `s` fitted to `n` characters with blanks, a negative `n`
counting from the length, nothing for a width of zero or less. -/
def justify (align : Text.Align) (s : List Char) (n : Int) : String :=
  let n := if n < 0 then n + s.length + 1 else n
  if n ≤ 0 then "" else String.ofList (Text.fitChars s n.toNat align ' ')

/-- Whether `needle` occurs in `hay`. -/
def occurs (needle hay : List Char) : Bool :=
  match hay with
  | [] => needle.isEmpty
  | _ :: rest => needle.isPrefixOf hay || occurs needle rest

/-- The positions, from 0, at which `needle` occurs in `hay`. -/
def occurrences (needle : List Char) : List Char → Nat → List Nat
  | [], i => if needle.isEmpty then [i] else []
  | c :: rest, i =>
    let here := if needle.isPrefixOf (c :: rest) then [i] else []
    here ++ occurrences needle rest (i + 1)

/-- `pos` (first) and `rpos` (last): the position of `needle` in `hay` from 1, or 0. -/
def position (last : Bool) (needle hay : List Char) : Int :=
  let found := occurrences needle hay 0
  match (if last then found.getLast? else found.head?) with
  | some i => i + 1
  | none => 0

/-- A search for many needles at once, as the `includes` family runs one: built over the
needles in order, it says whether any of them occurs in a haystack, and lists the matches it
finds when matches may overlap, each by the index of its needle. -/
structure Searcher where
  isMatch : List String → String → Bool
  overlapping : List String → String → List Nat

/-- What a searcher promises: `isMatch` tells whether some needle occurs, and the overlapping
search reports only needles that occur and at least one match of each that does. -/
structure Searcher.Lawful (S : Searcher) : Prop where
  isMatch_iff : ∀ needles hay,
    S.isMatch needles hay = true ↔ ∃ n ∈ needles, n.toList <:+: hay.toList
  overlapping_sound : ∀ needles hay i, i ∈ S.overlapping needles hay →
    ∃ n, needles[i]? = some n ∧ n.toList <:+: hay.toList
  overlapping_complete : ∀ needles hay i n, needles[i]? = some n → n.toList <:+: hay.toList →
    i ∈ S.overlapping needles hay

/-- The searcher that tries each needle at every position of the haystack. -/
def Searcher.scan : Searcher where
  isMatch needles hay := needles.any fun n => occurs n.toList hay.toList
  overlapping needles hay :=
    needles.zipIdx.filterMap fun (n, i) => if occurs n.toList hay.toList then some i else none

/-- Marks the needles a search reported, by index, among `k` needles. -/
def markSeen (k : Nat) (found : List Nat) : List Bool :=
  found.foldl (fun seen i => seen.set i true) (List.replicate k false)

/-- The `includes` family: whether any (or, with `all`, every) needle occurs. Needles that
repeat an earlier one are dropped before the search. -/
def includes (S : Searcher) (name : String) (args : List Value) (all : Bool) :
    Except Fault Value :=
  match args with
  | hay :: needles@(_ :: _) =>
    let needles := (needles.map Value.text).eraseDups
    if all then pure (.ofBool ((markSeen needles.length (S.overlapping needles hay.text)).all id))
    else pure (.ofBool (S.isMatch needles hay.text))
  | _ => throw (.argumentCount name "at least 2" args.length)

end ColumnSpec.Builtin
