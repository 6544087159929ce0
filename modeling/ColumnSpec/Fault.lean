/-!
# Faults

What can go wrong while a program runs, one constructor per cause, and the sentence that
reports each. Faults in the program text itself are `ProgramError`s: they carry the line
of the offending word when there is one.
-/
namespace ColumnSpec

/-- A failure while a program runs. -/
inductive Fault where
  /-- An operator met a value that has no numeric reading. -/
  | notNumeric (op value : String)
  | divisionByZero
  | moduloByZero
  /-- An integer result left the signed 64-bit range. -/
  | integerOverflow (op : String)
  | unknownFunction (name : String)
  /-- A function got a number of arguments outside its range, written as `expected`. -/
  | argumentCount (name expected : String) (got : Nat)
  | invalidArgument (name message : String)
  | unknownConfig (key : String)
  | fieldNotDefined (id : Char)
  | fieldRedefined (id : Char)
  /-- An assignment whose target is not a counter; `token` is what stood there. -/
  | assignmentTarget (token : String)
  | assertionFailed (source : String)
  | abend (message : String)
  | readPastEnd (stream : Nat)
  | doubleUnread (stream : Nat)
  /-- Under the matched-end policy one input stream ended before the others. -/
  | streamMismatch (stream : Nat)
  | unknownInputStream (stream : Nat)
  | unknownOutputStream (stream : Nat)
  /-- A failure reported by a function supplied from outside. -/
  | external (message : String)
deriving DecidableEq, Repr

def Fault.message : Fault → String
  | .notNumeric op value => "Operand '" ++ value ++ "' of '" ++ op ++ "' is not numeric"
  | .divisionByZero => "Division by zero"
  | .moduloByZero => "Modulo by zero"
  | .integerOverflow op => "Integer overflow in '" ++ op ++ "'"
  | .unknownFunction name => "Unrecognized function " ++ name
  | .argumentCount name expected got =>
    name ++ ": expected " ++ expected ++ " argument(s), got " ++ toString got
  | .invalidArgument name message => name ++ ": " ++ message
  | .unknownConfig key => "Configuration literal '@" ++ key ++ "' is not defined"
  | .fieldNotDefined c => "Field Identifier " ++ c.toString ++ " not defined yet."
  | .fieldRedefined c => "Field Identifier " ++ c.toString ++ " redefined."
  | .assignmentTarget token =>
    "ALU assignment statements must begin with a counter. Got " ++ token ++ " instead."
  | .assertionFailed source => "Assertion failed: " ++ source
  | .abend message => message
  | .readPastEnd n => "READ past the end of input stream " ++ toString n
  | .doubleUnread n => "UNREAD called twice on input stream " ++ toString n
  | .streamMismatch n => "Input stream " ++ toString n ++ " ended before the other input streams"
  | .unknownInputStream n => "Input stream " ++ toString n ++ " is not defined"
  | .unknownOutputStream n => "Output stream " ++ toString n ++ " is not defined"
  | .external message => message

def Fault.kind : Fault → String
  | .notNumeric .. => "NotNumeric"
  | .divisionByZero => "DivisionByZero"
  | .moduloByZero => "ModuloByZero"
  | .integerOverflow _ => "IntegerOverflow"
  | .unknownFunction _ => "UnknownFunction"
  | .argumentCount .. => "ArgumentCount"
  | .invalidArgument .. => "InvalidArgument"
  | .unknownConfig _ => "UnknownConfig"
  | .fieldNotDefined _ => "FieldNotDefined"
  | .fieldRedefined _ => "FieldRedefined"
  | .assignmentTarget _ => "AssignmentTarget"
  | .assertionFailed _ => "AssertionFailed"
  | .abend _ => "Abend"
  | .readPastEnd _ => "ReadPastEnd"
  | .doubleUnread _ => "DoubleUnread"
  | .streamMismatch _ => "StreamMismatch"
  | .unknownInputStream _ => "UnknownInputStream"
  | .unknownOutputStream _ => "UnknownOutputStream"
  | .external _ => "External"

/-- A fault in the program text, at a line when one is known. -/
structure ProgramError where
  line : Option Nat
  message : String
deriving DecidableEq, Repr

/-- The report of a program error: the line first when it is known. -/
def ProgramError.text (e : ProgramError) : String :=
  match e.line with
  | some l => "line " ++ toString l ++ ": " ++ e.message
  | none => e.message

end ColumnSpec
