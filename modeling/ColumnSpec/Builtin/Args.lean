import ColumnSpec.Value.Basic
/-!
# Arguments of functions

A function takes a range of argument counts; a call outside it fails with an
`argumentCount` fault that states the range. An argument that is missing or omitted is
absent, and optional arguments treat it as not given.
-/
namespace ColumnSpec.Builtin

/-- Checks that a call has between `lo` and `hi` arguments. -/
def arity (name : String) (args : List Value) (lo hi : Nat) : Except Fault Unit :=
  if lo ≤ args.length && args.length ≤ hi then pure ()
  else
    let expected := if lo == hi then toString lo else toString lo ++ " to " ++ toString hi
    throw (.argumentCount name expected args.length)

/-- Argument `i`, absent when missing. -/
def arg (args : List Value) (i : Nat) : Value := args.getD i .absent

/-- Argument `i` when it is given and not absent. -/
def optional (args : List Value) (i : Nat) : Option Value :=
  match args[i]? with
  | some .absent => none
  | some v => some v
  | none => none

end ColumnSpec.Builtin
