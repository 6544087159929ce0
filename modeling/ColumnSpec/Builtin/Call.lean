import ColumnSpec.Builtin.Numeric
import ColumnSpec.Builtin.Strings
import ColumnSpec.Pattern.Library
import ColumnSpec.Clock.Format
import ColumnSpec.Text.Blank
/-!
# The built-in functions

`Builtin.call?` gives the result of a built-in function, or `none` when the name is not
one. Each function checks its argument count first and reads its arguments left to right;
the pattern functions take the options `icase`, `first_only` and `default`.
-/
namespace ColumnSpec.Builtin

def version : String := "0.1.0"

/-- Options of the pattern functions. -/
structure MatchOptions where
  icase : Bool := false
  firstOnly : Bool := false

/-- Reads a comma-separated option list; blanks around words and empty words are ignored. -/
def MatchOptions.parse (name : String) (list : String) : Except Fault MatchOptions :=
  let words := (list.toList.splitOn ',').map (Text.trim ∘ String.ofList) |>.filter (!·.isEmpty)
  words.foldlM (fun (o : MatchOptions) w =>
    let lw := String.ofList (w.toList.map Char.toLower)
    if lw == "icase" then pure { o with icase := true }
    else if lw == "first_only" then pure { o with firstOnly := true }
    else if lw == "default" then pure o
    else throw (.invalidArgument name ("Invalid regular expression option: " ++ w))) {}

/-- The outside libraries the built-in functions call: a search for many needles at once and
a regular-expression library. -/
structure Libraries where
  search : Searcher
  regex : Pattern.Library

/-- This project's own implementations of the libraries. -/
def Libraries.reference : Libraries := ⟨Searcher.scan, Pattern.Library.machine⟩

/-- Refuses a pattern the library cannot read. -/
def checkPattern (R : Pattern.Library) (name src : String) (icase : Bool) : Except Fault Unit :=
  if R.valid src icase then pure () else throw (.invalidArgument name "invalid regular expression")

/-- The microseconds of a number of seconds, rounded half away from zero and held to the
64-bit range; NaN gives zero. -/
def secondsToMicros (secs : Float) : Int :=
  match Binary64.kind (secs * 1000000.0).round with
  | .finite f => max wordMin (min wordMax f.truncate)
  | .inf true => wordMin
  | .inf false => wordMax
  | .nan => 0

/-- The result of a built-in function over the libraries `L`, `none` if there is none of that
name. -/
def callWith (L : Libraries) (name : String) (args : List Value) : Option (Except Fault Value) :=
  let a := arg args
  let run (lo hi : Nat) (body : Unit → Except Fault Value) : Option (Except Fault Value) :=
    some (do arity name args lo hi; body ())
  match name with
  | "abs" => run 1 1 fun _ => absValue (a 0)
  | "pow" => run 2 2 fun _ => powValue (a 0) (a 1)
  | "sqrt" => run 1 1 fun _ => sqrtValue (a 0)
  | "tobin" => run 1 1 fun _ => do
    let n ← (a 0).toInt name
    toBinary name n (binaryWidth n)
  | "tobine" => run 2 2 fun _ => do
    let n ← (a 0).toInt name
    let bits ← (a 1).toInt name
    toBinary name n bits
  | "frombin" => run 1 1 fun _ => fromBinary name (a 0).text
  | "fmt" => run 1 5 fun _ => fmtValue args
  | "len" | "length" => run 1 1 fun _ => pure (.int (a 0).text.length)
  | "substr" => run 2 3 fun _ => do
    let start ← (a 1).toInt name
    let len ← match optional args 2 with
      | some v => some <$> v.toInt name
      | none => pure none
    pure (substring (a 0).text.toList start len)
  | "left" => run 2 2 fun _ => do pure (.str (justify .left (a 0).text.toList (← (a 1).toInt name)))
  | "right" => run 2 2 fun _ => do pure (.str (justify .right (a 0).text.toList (← (a 1).toInt name)))
  | "center" | "centre" => run 2 2 fun _ => do
    pure (.str (justify .center (a 0).text.toList (← (a 1).toInt name)))
  | "pos" => run 2 2 fun _ => pure (.int (position false (a 0).text.toList (a 1).text.toList))
  | "rpos" => run 2 2 fun _ => pure (.int (position true (a 0).text.toList (a 1).text.toList))
  | "includes" | "includesany" => some (includes L.search name args false)
  | "includesall" => some (includes L.search name args true)
  | "rmatch" => run 2 3 fun _ => do
    let o ← MatchOptions.parse name (((optional args 2).map Value.text).getD "")
    let src := "^(?:" ++ (a 1).text ++ ")$"
    checkPattern L.regex name src o.icase
    pure (.ofBool (L.regex.isMatch src o.icase (a 0).text))
  | "rsearch" => run 2 3 fun _ => do
    let o ← MatchOptions.parse name (((optional args 2).map Value.text).getD "")
    checkPattern L.regex name (a 1).text o.icase
    pure (.ofBool (L.regex.isMatch (a 1).text o.icase (a 0).text))
  | "rreplace" => run 3 4 fun _ => do
    let o ← MatchOptions.parse name (((optional args 3).map Value.text).getD "")
    checkPattern L.regex name (a 1).text o.icase
    -- the template goes to the library in its own replacement syntax
    let tpl := String.ofList (Pattern.translate (a 2).text.toList)
    pure (.str (L.regex.replacen (a 1).text o.icase (a 0).text (if o.firstOnly then 1 else 0) tpl))
  | "d2tf" => run 2 2 fun _ => do
    let secs ← (a 0).toFloat name
    pure (.str (Timestamp.format (secondsToMicros secs) (a 1).text))
  | "tf2d" => run 2 2 fun _ => do
    let text := (a 0).text
    let template := (a 1).text
    match Timestamp.parse? text template with
    | some micros =>
      if micros % Timestamp.microsPerSecond == 0 then pure (.int (micros / Timestamp.microsPerSecond))
      else pure (.real (Binary64.ofInt micros / 1000000.0))
    | none =>
      throw (.invalidArgument name ("'" ++ text ++ "' does not match format '" ++ template ++ "'"))
  | "version" => run 0 0 fun _ => pure (.str version)
  | _ => none

/-- The result of a built-in function, `none` if there is none of that name. -/
def call? (name : String) (args : List Value) : Option (Except Fault Value) :=
  callWith Libraries.reference name args

end ColumnSpec.Builtin
