import ColumnSpec.Value.Basic
/-!
# Functions from outside the language

Functions given to a run from outside, tried after the record functions and the built-in
ones: a table of named functions, or the reason loading them failed.
-/
namespace ColumnSpec

/-- A function given from outside, on the values of its arguments. -/
abbrev ExternalFn := List Value → Except Fault Value

/-- The functions given from outside. -/
inductive External where
  /-- Loading failed for the reason given. -/
  | failed (detail : String)
  /-- Functions by name; the first entry of a name counts. -/
  | table (funcs : List (String × ExternalFn))

/-- The report of every call when loading failed. -/
def External.loadError (detail : String) : Fault :=
  .external ("error loading local functions: " ++ detail)

def External.call (e : External) (name : String) (args : List Value) : Except Fault Value :=
  match e with
  | .failed detail => .error (loadError detail)
  | .table funcs =>
    match funcs.lookup name with
    | some f =>
      match f args with
      | .ok v => .ok v
      | .error err => .error (.external ("error in external function " ++ name ++ ": " ++ err.message))
    | none => .error (.unknownFunction name)

end ColumnSpec
