/-!
# Fitting text to a width

`fit` pads or truncates a text to an exact number of characters. A text that is too long
keeps its left, right or middle part; one that is too short is padded on the right, on
the left, or on both sides with the odd character going to the right.
-/
namespace ColumnSpec.Text

/-- Where a text sits in a wider column. -/
inductive Align where
  | left
  | center
  | right
deriving DecidableEq, Repr, Inhabited

/-- `cs` cut or padded with `pad` to exactly `width` characters. -/
def fitChars (cs : List Char) (width : Nat) (align : Align) (pad : Char) : List Char :=
  let len := cs.length
  if width ≤ len then
    let start := match align with
      | .left => 0
      | .right => len - width
      | .center => (len - width) / 2
    (cs.drop start).take width
  else
    let extra := width - len
    let (before, after) := match align with
      | .left => (0, extra)
      | .right => (extra, 0)
      | .center => (extra / 2, extra - extra / 2)
    List.replicate before pad ++ cs ++ List.replicate after pad

/-- `s` cut or padded with `pad` to exactly `width` characters. -/
def fit (s : String) (width : Nat) (align : Align) (pad : Char) : String :=
  String.ofList (fitChars s.toList width align pad)

theorem length_fitChars (cs : List Char) (width : Nat) (align : Align) (pad : Char) :
    (fitChars cs width align pad).length = width := by
  cases align <;> by_cases h : width ≤ cs.length <;> simp [fitChars, h] <;> omega

end ColumnSpec.Text
