import ColumnSpec.Text.Bytes
/-!
# UTF-8 sequences of a range of code points

The UTF-8 forms of a range of code points as byte-range sequences, cut around the
surrogates, where the length changes and where a byte would wrap, in ascending order.
-/
namespace ColumnSpec.Text

/-- The largest code point whose UTF-8 form has `n` bytes. -/
def maxOfWidth : Nat → Nat
  | 1 => 0x7F
  | 2 => 0x7FF
  | 3 => 0xFFFF
  | _ => 0x10FFFF

/-- The byte-range sequences of the code points from `lo` to `hi`. `fuel` bounds how deep
ranges are cut; no range of code points needs more than a dozen cuts. -/
def utf8Sequences : Nat → Nat → Nat → List (List (Nat × Nat))
  | 0, _, _ => []
  | fuel + 1, lo, hi =>
    if hi < lo then []
    else if lo < 0xE000 && 0xD7FF < hi then
      utf8Sequences fuel lo 0xD7FF ++ utf8Sequences fuel 0xE000 hi
    else
      match [1, 2, 3].find? (fun n => lo ≤ maxOfWidth n && maxOfWidth n < hi) with
      | some n => utf8Sequences fuel lo (maxOfWidth n) ++ utf8Sequences fuel (maxOfWidth n + 1) hi
      | none =>
        if hi ≤ 0x7F then [[(lo, hi)]]
        else
          -- A block is the code points that share every byte but the last `n` ones.
          let block (n : Nat) := Nat.pow 64 n
          let cut := [1, 2, 3].find? fun n =>
            lo / block n != hi / block n && (lo % block n != 0 || hi % block n != block n - 1)
          match cut with
          | some n =>
            if lo % block n != 0 then
              let top := lo - lo % block n + block n - 1
              utf8Sequences fuel lo top ++ utf8Sequences fuel (top + 1) hi
            else
              let bottom := hi - hi % block n
              utf8Sequences fuel lo (bottom - 1) ++ utf8Sequences fuel bottom hi
          | none => [(utf8Code lo).zip (utf8Code hi)]

/-- The byte-range sequences of the code points from `lo` to `hi`. -/
def utf8RangeSequences (lo hi : Nat) : List (List (Nat × Nat)) := utf8Sequences 32 lo hi

end ColumnSpec.Text
