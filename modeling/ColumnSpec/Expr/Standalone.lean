import ColumnSpec.Expr.Eval
import ColumnSpec.Expr.Parser
import ColumnSpec.Builtin.Call
import ColumnSpec.Config
/-!
# Expressions outside a run

An expression evaluated without a program: field identifiers have fixed texts, only the
built-in functions are known, and the counters are the whole state.
-/
namespace ColumnSpec

/-- What an expression sees outside a run. -/
structure Standalone where
  fields : List (Char × String) := []
  config : Config := Config.builtin

namespace Standalone

/-- The scope of a standalone evaluation, over the counters. -/
def scope (c : Standalone) : Scope Counters where
  field _ id := match c.fields.lookup id with
    | some t => .ok (.str t)
    | none => .error (.fieldNotDefined id)
  counter cs n := cs.get n
  setCounter cs n v := cs.set n v
  config _ k := match c.config.get? k with
    | some v => .ok (.str v)
    | none => .error (.unknownConfig k)
  controlBreak id :=
    if (c.fields.lookup id).isSome then pure false else throw (.fieldNotDefined id)
  call name args :=
    match Builtin.call? name args with
    | some r => Eval.ofExcept r
    | none => throw (.unknownFunction name)

/-- Evaluates an expression from some counters: its value or fault, and the counters
after it. -/
def evaluate (c : Standalone) (e : Expr) (cs : Counters) : Except Fault Value × Counters :=
  (ExceptT.run (e.eval c.scope)).run cs

end Standalone

end ColumnSpec
