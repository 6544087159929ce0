import ColumnSpec.Pattern.Machine
/-!
# The regular-expression library

The pattern functions call a regular-expression library; `Library` is what they use of it,
and `Library.Lawful` what its documentation promises of replacement. `Library.machine` is
the library as this project's matcher implements it.
-/
namespace ColumnSpec.Pattern

/-- What the pattern functions use of a regular-expression library, each operation given the
expression's source and whether case is ignored: whether the source is an expression, whether
it matches somewhere in a text, the capture slots of its successive matches, how a template in
the library's replacement syntax reads for one match, and `replacen`, which replaces the first
`limit` matches (all of them for 0) by a template. -/
structure Library where
  valid : String → Bool → Bool
  isMatch : String → Bool → String → Bool
  captures : String → Bool → String → List (Array (Option Nat))
  interpolate : Array Char → Array (Option Nat) → List Char → List Char
  replacen : String → Bool → String → Nat → String → String

/-- What the library documents of replacement: `replacen` splices in, for each of the first
`limit` matches (all for 0), the interpolation of the template. In a template `$$` is a dollar
sign, `${name}` with a name of digits is the group of that index when the index fits a machine
word (empty when the group took no part or does not exist) and otherwise a name no group has,
and every other character stands for itself. -/
structure Library.Lawful (L : Library) : Prop where
  replacen_eq : ∀ src icase text limit tpl, L.replacen src icase text limit tpl =
    String.ofList (splice text.toList.toArray (fun m => L.interpolate text.toList.toArray m tpl.toList)
      (if limit = 0 then L.captures src icase text else (L.captures src icase text).take limit) 0)
  interpolate_nil : ∀ cs m, L.interpolate cs m [] = []
  interpolate_char : ∀ cs m c rest, c ≠ '$' → L.interpolate cs m (c :: rest) = c :: L.interpolate cs m rest
  interpolate_dollar : ∀ cs m rest, L.interpolate cs m ('$' :: '$' :: rest) = '$' :: L.interpolate cs m rest
  interpolate_index : ∀ cs m ds rest, ds ≠ [] → (∀ c ∈ ds, c.isDigit = true) →
    L.interpolate cs m ('$' :: '{' :: (ds ++ '}' :: rest)) =
      (if Decimal.digitsValue ds < Nat.pow 2 64 then group cs m (Decimal.digitsValue ds) else []) ++
        L.interpolate cs m rest

/-- The matches of a compiled pattern, or at most `limit` of them (all for 0), replaced by a
template in the library's syntax; a template names no group, so no name is looked up. -/
def Compiled.replacen (re : Compiled) (text : String) (limit : Nat) (tpl : String) : String :=
  let cs := text.toList.toArray
  String.ofList (splice cs (fun m => interpolate cs m (fun _ => none) tpl.toList)
    (re.matches cs (if limit = 0 then none else some limit)) 0)

/-- The library as this project's matcher implements it; a source that does not compile has
no matches and replaces nothing. -/
def Library.machine : Library where
  valid src icase := (compile src icase).toBool
  isMatch src icase text := match compile src icase with
    | .ok re => re.isMatch text
    | .error _ => false
  captures src icase text := match compile src icase with
    | .ok re => re.matches text.toList.toArray none
    | .error _ => []
  interpolate cs m tpl := Pattern.interpolate cs m (fun _ => none) tpl
  replacen src icase text limit tpl := match compile src icase with
    | .ok re => re.replacen text limit tpl
    | .error _ => text

end ColumnSpec.Pattern
