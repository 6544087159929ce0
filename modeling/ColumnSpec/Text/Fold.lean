import ColumnSpec.Text.Ranges
/-!
# Case folding

Simple case folding, as of Unicode 16.0: every class of two or more characters that match
one another without regard to case.
-/
namespace ColumnSpec.Text

/-- The classes that a table's numbers write: each class is its size, the gap from the first
member of the class before to its own first member, and how far each other member lies above
its first. -/
def readClasses (prev : Nat) : List Nat → List (List Nat)
  | size :: gap :: rest =>
    let first := prev + gap
    (first :: (rest.take (size - 1)).map (first + ·)) :: readClasses first (rest.drop (size - 1))
  | _ => []
termination_by ns => ns.length
decreasing_by simp only [List.length_drop, List.length_cons]; omega

/-- The classes of two or more characters that match one another without regard to case. -/
def Fold.classes : Array (List Nat) :=
  (readClasses 0 (readNumbers
  ["cCnBgcbBgcbBgcbBgcbBgcbBgcbBgcbBgcbBgcbBgdbBgMLrcbBgcbBgcbBgcbBgcbBgcbBgcbBgdbBgLocbBgcbBg",
   "cbBgcbBgcbBgcbBgcbBgdDnBCpBDvclBgcbBgcbBgcbBgcbBgdbBgMHacbBgcbBgcbBgcbBgcbBgcbBgcbBgcbBgcb",
   "BgcbBgcbBgcbBgcbBgcbBgcbBgcbBgcbBgccBgcbBgcbBgcbBgcbBgcbBgcbBgcbLGxcBgErcbbccbccbccbccbccb",
   "ccbccbccbccbccbccbccbccbccbccbccbccbccbccbccbccbccbccbcebccbccbcdbccbccbccbccbccbccbccbcdb",
   "ccbccbccbccbccbccbccbccbccbccbccbccbccbccbccbccbccbccbccbccbccbccbcdbccbccbcdHncbIccbbccbc",
   "cHycbbccHxcbHxcbbcdDbcbHucbHvcbbccHxcbHzcbDtcbIdcbIbcbbccGhcbCKYzcbIdcbIfcbFacbIgcbbccbccb",
   "ccIkcbbccIkcdbccIkcbbccIjcbIjcbbccbccIlcbbcebcdCedfbcddbcddbccdbccbccbccbccbccbccbccbcdbcc",
   "bccbccbccbccbccbccbccbddbccdbcebccbccbccbccbccbccbccbccbccbccbccbccbccbccbccbccbccbccbccbc",
   "ebccbccbccbccbccbccbccbccbciPZfcbbcdPZccbPZzcbPZzcbbcdCrcbCtcbbccbccbccbccbccPYtcbPYqcbPYs",
   "ckCKPrcfCKPncdCKQpcbCKOecbCKPgceCKPgcbPXfcbCKPdcfPXlcmPWpcfCKPfcfCKOgcwCKNlcbCKNieGlDgEmKU",
   "jcBrbccbcebcfFacbFacbFaccEmchBmccBlcbBlcbBlccCmccClcbClcbKShcbBgdbBgCkcbBgcbBgdbBgDscbBgcb",
   "BgebBgCfDodcBgDicbBgccBgcbBgcbBgdbBgCcdbBgDcdcBfBgcbBgcbBgdbBgBvcbBgcbBgdbBgLEjcbBgcbBgcfK",
   "RrcBficjbccbccbccbccbccbccbccbccbccbccbccbcehcfbcdbcgDccbDccbDccbDccbDccbDccbDccbDccbDccbD",
   "ccbDccbDccbDccbDccbDccbDccbBgcbBgdbBgJGocbBgdbBgJGncbBgcbBgcbBgcbBgcbBgcbBgcbBgcbBgcbBgdbB",
   "gJGecbBgcbBgdbBgJGcebBgJGcJGdcbBgcbBgcbBgcbBgcbBgcbBgcbBgdbBgJFwcbBgcbBgcbBgcbBgcbBgcBxbdc",
   "bJDtccbccbccbccbccbccbccbccbccbccbccbccbccbccbccbckbccbccbccbccbccbccbccbccbccbccbccbccbcc",
   "bccbccbccbccbccbccbccbccbccbccbccbccbccbccpcbbccbccbccbccbccbccbcdbccbccbccbccbccbccbccbcc",
   "bccbccbccbccbccbccbccbccbccbccbccbccbccbccbccbccbccbccbccbccbccbccbccbccbccbccbccbccbccbcc",
   "bccbccbccbccbccbccbccbccbccbcdBwcbBwcbBwcbBwcbBwcbBwcbBwcbBwcbBwcbBwcbBwcbBwcbBwcbBwcbBwcb",
   "BwcbBwcbBwcbBwcbBwcbBwcbBwcbBwcbBwcbBwcbBwcbBwcbBwcbBwcbBwcbBwcbBwcbBwcbBwcbBwcbBwcbBwcbBw",
   "cEHeKTkcbKTkcbKTkcbKTkcbKTkcbKTkcbKTkcbKTkcbKTkcbKTkcbKTkcbKTkcbKTkcbKTkcbKTkcbKTkcbKTkcbK",
   "TkcbKTkcbKTkcbKTkcbKTkcbKTkcbKTkcbKTkcbKTkcbKTkcbKTkcbKTkcbKTkcbKTkcbKTkcbKTkcbKTkcbKTkcbK",
   "TkcbKTkcbKTkccKTkcgKTkcdELscbELscbELscbELscbELscbELscbELscbELscbELscbELscbELscbELscbELscbE",
   "LscbELscbELscbELscbELscbELscbELscbELscbELscbELscbELscbELscbELscbELscbELscbELscbELscbELscbE",
   "LscbELscbELscbELscbELscbELscbELscbELscbELscbELscbELscbELscdELscbELscbELscZxCFMucbCFMucbCFM",
   "ucbCFMucbCFMucbCFMucbCFMucbCFMucbCFMucbCFMucbCFMucbCFMucbCFMucbCFMucbCFMucbCFMucbCFMucbCFM",
   "ucbCFMucbCFMucbCFMucbCFMucbCFMucbCFMucbCFMucbCFMucbCFMucbCFMucbCFMucbCFMucbCFMucbCFMucbCFM",
   "ucbCFMucbCFMucbCFMucbCFMucbCFMucbCFMucbCFMucbCFMucbCFMucbCFMucbCFMucbCFMucbCFMucbCFMucbCFM",
   "ucbCFMucbCFMucbCFMucbCFMucbCFMucbCFMucbCFMucbCFMucbCFMucbCFMucbCFMucbCFMucbCFMucbCFMucbCFM",
   "ucbCFMucbCFMucbCFMucbCFMucbCFMucbCFMucbCFMucbCFMucbCFMucbCFMucbCFMucbCFMucbCFMucbCFMucbCFM",
   "ucbCFMucbCFMucbicbicbicbicbicbidDGlCAEkCAElcbbcJgCAGyceFQscrCAIycEkbccbccbccbccbccbccbccbc",
   "cbccbccbccbccbccbccbccbccbccbccbccbccbccbccbccbccbccbccbccbccbccbccbccbccbccbccbccbccbccbc",
   "cbccbccbccbccbccbccbccbccbccbdcbChccbccbccbccbccbccbccbccbccbccbccbccbccbccbccbccbccbccbcc",
   "bccbccbccbccbccbccbccbcmbccbccbccbccbccbccbccbccbccbccbccbccbccbccbccbccbccbccbccbccbccbcc",
   "bccbccbccbccbccbccbccbccbccbccbccbccbccbccbccbccbccbccbccbccbccbccbccbccbccbccicbicbicbicb",
   "icbicbicbicjicbicbicbicbicbiclicbicbicbicbicbicbicbicjicbicbicbicbicbicbicbicjicbicbicbicb",
   "icbicmiccicciccicjicbicbicbicbicbicbicbicjCwcbCwcbDicbDicbDicbDicbDwcbDwcbEycbEycbEicbEicb",
   "EwcbEwcdicbicbicbicbicbicbicbicjicbicbicbicbicbicbicbicjicbicbicbicbicbicbicbicjicbiccjcqj",
   "cnicbicpicbicehcojcMhBccBuqcbqcbqcbqcbqcbqcbqcbqcbqcbqcbqcbqcbqcbqcbqcbqcubcBFnBacbBacbBac",
   "bBacbBacbBacbBacbBacbBacbBacbBacbBacbBacbBacbBacbBacbBacbBacbBacbBacbBacbBacbBacbBacbBacbB",
   "acCSvBwcbBwcbBwcbBwcbBwcbBwcbBwcbBwcbBwcbBwcbBwcbBwcbBwcbBwcbBwcbBwcbBwcbBwcbBwcbBwcbBwcbB",
   "wcbBwcbBwcbBwcbBwcbBwcbBwcbBwcbBwcbBwcbBwcbBwcbBwcbBwcbBwcbBwcbBwcbBwcbBwcbBwcbBwcbBwcbBwc",
   "bBwcbBwcbBwcbBwcBxbchbccbccbchbcdbclbccbccbccbccbccbccbccbccbccbccbccbccbccbccbccbccbccbcc",
   "bccbccbccbccbccbccbccbccbccbccbccbccbccbccbccbccbccbccbccbccbccbccbccbccbccbccbccbccbccbcc",
   "bccbcjbccbcfbcBTYkbccbccbccbccbcebccbccbccbccbccbccbccbccbccbccbccbccbccbccbccbccbcubccbcc",
   "bccbccbccbccbccbccbccbccbccbccbccbcFgbccbccbccbccbccbccbcebccbccbccbccbccbccbccbccbccbccbc",
   "cbccbccbccbccbccbccbccbccbccbccbccbccbccbccbccbccbccbccbccbclbccbcdbccbccbccbccbcfbcfbccbc",
   "cBwccbccbccbccbccbccbccbccbccbccbclBJscbbccbccbccbccbccbccbccbcfbccbcdbcebcgbccbccbcBbbcBF",
   "LwbcBOmBgcbBgcbBgcbBgcbBgcbBgcbBgcbBgcbBgcbBgcbBgcbBgcbBgcbBgcbBgcbBgcbBgcbBgcbBgcbBgcbBgc",
   "bBgcbBgcbBgcbBgcbBgcBVaBocbBocbBocbBocbBocbBocbBocbBocbBocbBocbBocbBocbBocbBocbBocbBocbBoc",
   "bBocbBocbBocbBocbBocbBocbBocbBocbBocbBocbBocbBocbBocbBocbBocbBocbBocbBocbBocbBocbBocbBocbB",
   "ocFhBocbBocbBocbBocbBocbBocbBocbBocbBocbBocbBocbBocbBocbBocbBocbBocbBocbBocbBocbBocbBocbBo",
   "cbBocbBocbBocbBocbBocbBocbBocbBocbBocbBocbBocbBocbBocbBocGbBncbBncbBncbBncbBncbBncbBncbBnc",
   "bBncbBncbBnccBncbBncbBncbBncbBncbBncbBncbBncbBncbBncbBncbBncbBncbBncbBnccBncbBncbBncbBncbB",
   "ncbBncbBnccBncbBncCQdCmcbCmcbCmcbCmcbCmcbCmcbCmcbCmcbCmcbCmcbCmcbCmcbCmcbCmcbCmcbCmcbCmcbC",
   "mcbCmcbCmcbCmcbCmcbCmcbCmcbCmcbCmcbCmcbCmcbCmcbCmcbCmcbCmcbCmcbCmcbCmcbCmcbCmcbCmcbCmcbCmc",
   "bCmcbCmcbCmcbCmcbCmcbCmcbCmcbCmcbCmcbCmcbCmcGcBgcbBgcbBgcbBgcbBgcbBgcbBgcbBgcbBgcbBgcbBgcb",
   "BgcbBgcbBgcbBgcbBgcbBgcbBgcbBgcbBgcbBgcbBgcEGpBgcbBgcbBgcbBgcbBgcbBgcbBgcbBgcbBgcbBgcbBgcb",
   "BgcbBgcbBgcbBgcbBgcbBgcbBgcbBgcbBgcbBgcbBgcbBgcbBgcbBgcbBgcbBgcbBgcbBgcbBgcbBgcbBgcBGJxBgc",
   "bBgcbBgcbBgcbBgcbBgcbBgcbBgcbBgcbBgcbBgcbBgcbBgcbBgcbBgcbBgcbBgcbBgcbBgcbBgcbBgcbBgcbBgcbB",
   "gcbBgcbBgcbBgcbBgcbBgcbBgcbBgcbBgcBULlBicbBicbBicbBicbBicbBicbBicbBicbBicbBicbBicbBicbBicb",
   "BicbBicbBicbBicbBicbBicbBicbBicbBicbBicbBicbBicbBicbBicbBicbBicbBicbBicbBicbBicbBi"]).toList).toArray

/-- Every member of a class with the class's place, ordered by code point. -/
def Fold.members : Array (Nat × Nat) :=
  ((Fold.classes.toList.zipIdx.flatMap fun (ms, i) => ms.map (·, i)).mergeSort
    fun a b => a.1 ≤ b.1).toArray

/-- The code points of `Fold.members`, for searching. -/
def Fold.points : Array Nat := Fold.members.map (·.1)

/-- The characters that match a character without regard to case: its class, the character
itself among them. -/
def Fold.variants (c : Char) : List Char :=
  match countAtMost Fold.points c.toNat 0 Fold.points.size with
  | 0 => [c]
  | n + 1 =>
    match Fold.members[n]? with
    | some (p, i) =>
      if p == c.toNat then ((Fold.classes[i]?).getD [c.toNat]).map Char.ofNat else [c]
    | none => [c]

/-- A set widened to every character that matches one of its members without regard to case:
each member that has a class brings in the whole class. The members of the table that lie in
a range are the entries from the first at or above its start to the last at or below its
end. -/
def Fold.closeSet (s : RangeSet) : RangeSet :=
  let count (c : Nat) := countAtMost Fold.points c 0 Fold.points.size
  let brought := s.ranges.flatMap fun (lo, hi) =>
    let first := if lo == 0 then 0 else count (lo - 1)
    (List.range' first (count hi - first)).flatMap fun i =>
      match Fold.members[i]? with
      | some (_, k) => (Fold.classes[k]?).getD []
      | none => []
  s.union (RangeSet.ofAscending (brought.mergeSort (· ≤ ·)))

end ColumnSpec.Text
