import ColumnSpec.Output
/-!
# Command-line arguments

`specs [OPTIONS] [SPEC]...` or `specs [OPTIONS] -f PATH`, read left to right. A value
waiting for its option is checked and stored only when the next option starts or the
arguments end; conflicts between options are reported, two of them at the end.
-/
namespace ColumnSpec

/-- The parsed command line. -/
structure Invocation where
  spec : List String := []
  specfile : Option String := none
  inputfile : Option String := none
  inputstreams : List (Nat × String) := []
  outputfile : Option String := none
  outputstreams : List (Nat × String) := []
  set : List String := []
  config : Option String := none
  noConfig : Bool := false
  forceReadInput : Bool := false
  verbose : Bool := false
deriving DecidableEq, Repr

/-- Whether neither program words nor a program file were given. -/
def Invocation.missingProgram (a : Invocation) : Bool := a.spec.isEmpty && a.specfile.isNone

/-- Why a command line was not accepted, or that it asked for help or the version. -/
inductive UsageError where
  | unknownArgument
  | argumentConflict
  | valueValidation
  | invalidValue
  | tooManyValues
  | displayHelp
  | displayVersion
deriving DecidableEq, Repr

def UsageError.kind : UsageError → String
  | .unknownArgument => "UnknownArgument"
  | .argumentConflict => "ArgumentConflict"
  | .valueValidation => "ValueValidation"
  | .invalidValue => "InvalidValue"
  | .tooManyValues => "TooManyValues"
  | .displayHelp => "DisplayHelp"
  | .displayVersion => "DisplayVersion"

/-- A natural number in decimal with an optional plus sign, below `2^64`. -/
def readCount? (cs : List Char) : Option Nat :=
  let ds := match cs with
    | '+' :: rest => rest
    | _ => cs
  if ds.isEmpty || !ds.all Char.isDigit then none
  else
    let n := ds.foldl (fun n c => 10 * n + (c.toNat - '0'.toNat)) 0
    if n < Nat.pow 2 64 then some n else none

/-- `N=PATH` for an extra stream: `N` from 2 to `maxStreams`, a path that is not empty. -/
def parseStreamSpec (s : String) : Except String (Nat × String) :=
  match s.toList.span (· != '=') with
  | (_, []) => .error ("expected N=PATH, got '" ++ s ++ "'")
  | (n, _ :: path) =>
    match readCount? n with
    | none => .error ("bad stream number '" ++ String.ofList n ++ "'")
    | some k =>
      if k < 2 || maxStreams < k then
        .error ("stream number must be 2 to " ++ toString maxStreams ++ ", got " ++ toString k)
      else if path.isEmpty then .error ("missing path for stream " ++ toString k)
      else .ok (k, String.ofList path)

/-- The options. -/
inductive Opt where
  | specfile | inputfile | inputstream | outputfile | outputstream | set | config
  | noConfig | forceReadInput | verbose | help | version
deriving DecidableEq, Repr

namespace Opt

def all : List Opt :=
  [.specfile, .inputfile, .inputstream, .outputfile, .outputstream, .set, .config,
   .noConfig, .forceReadInput, .verbose, .help, .version]

def long : Opt → String
  | .specfile => "specfile" | .inputfile => "inputfile" | .inputstream => "inputstream"
  | .outputfile => "outputfile" | .outputstream => "outputstream" | .set => "set"
  | .config => "config" | .noConfig => "no-config" | .forceReadInput => "force-read-input"
  | .verbose => "verbose" | .help => "help" | .version => "version"

/-- The short name of an option, if it has one. -/
def short : Opt → Option Char
  | .specfile => some 'f' | .inputfile => some 'i' | .outputfile => some 'o'
  | .verbose => some 'v' | .help => some 'h' | .version => some 'V'
  | _ => none

def takesValue : Opt → Bool
  | .specfile | .inputfile | .inputstream | .outputfile | .outputstream | .set | .config => true
  | _ => false

/-- Whether an option gathers every value given rather than taking one. -/
def gathers : Opt → Bool
  | .inputstream | .outputstream | .set => true
  | _ => false

end Opt

/-- What waits for its values: an option, or the program words. -/
inductive Waiting where
  | option (o : Opt)
  | words
deriving DecidableEq, Repr

/-- The state of the reading: the command line so far, the options and flags given, what
waits for values with the values so far, whether an option still needs its value, and
whether `--` was seen. -/
structure Reading where
  args : Invocation := {}
  given : List Opt := []
  pending : Option (Waiting × List String) := none
  needsValue : Option Opt := none
  trailing : Bool := false

/-- Reading arguments: it may stop with a usage error. -/
abbrev ReadArgs := StateT Reading (Except UsageError)

/-- A path value, which must not be empty. -/
def pathValue (v : String) : Except UsageError String :=
  if v.isEmpty then .error .invalidValue else .ok v

/-- A stream value `N=PATH`. -/
def streamValue (v : String) : Except UsageError (Nat × String) :=
  match parseStreamSpec v with
  | .ok r => .ok r
  | .error _ => .error .valueValidation

def store (a : Invocation) (o : Opt) (v : String) : Except UsageError Invocation :=
  match o with
  | .specfile => do pure { a with specfile := some (← pathValue v) }
  | .inputfile => do pure { a with inputfile := some (← pathValue v) }
  | .outputfile => do pure { a with outputfile := some (← pathValue v) }
  | .config => do pure { a with config := some (← pathValue v) }
  | .inputstream => do pure { a with inputstreams := a.inputstreams ++ [← streamValue v] }
  | .outputstream => do pure { a with outputstreams := a.outputstreams ++ [← streamValue v] }
  | .set => pure { a with set := a.set ++ [v] }
  | .noConfig => pure { a with noConfig := true }
  | .forceReadInput => pure { a with forceReadInput := true }
  | .verbose => pure { a with verbose := true }
  | .help | .version => pure a

/-- Acts on an option with its values: an option that takes one needs it, one that takes
a single value or a flag may be given only once, help and version stop the reading. -/
def act (o : Opt) (values : List String) : ReadArgs Unit := do
  let r ← get
  if o.takesValue && values.isEmpty then throw .invalidValue
  match o with
  | .help => throw .displayHelp
  | .version => throw .displayVersion
  | _ => pure ()
  if !o.gathers && r.given.contains o then throw .argumentConflict
  let a ← values.foldlM (fun a v => store a o v) r.args
  let a ← if o.takesValue then pure a else store a o ""
  set { r with args := a, given := o :: r.given }

def resolvePending : ReadArgs Unit := do
  let r ← get
  match r.pending with
  | none => pure ()
  | some (w, values) =>
    set { r with pending := none, needsValue := none }
    match w with
    | .option o => act o values
    | .words => modify fun r => { r with args := { r.args with spec := r.args.spec ++ values } }

/-- Acts on an option given now, after taking what waits. -/
def react (o : Opt) (values : List String) : ReadArgs Unit := do
  resolvePending
  act o values

/-- An option that takes a value: given attached, or to wait for the next argument. -/
def optionValue (o : Opt) (attached : Option String) : ReadArgs Unit :=
  match attached with
  | some v => react o [v]
  | none => do
    resolvePending
    modify fun r => { r with pending := some (.option o, []), needsValue := some o }

/-- The options named in a cluster of short options. -/
def shortCluster : List Char → ReadArgs Unit
  | [] => pure ()
  | c :: rest =>
    match Opt.all.find? (·.short == some c) with
    | none => throw .unknownArgument
    | some o =>
      if o.takesValue then
        let attached := match rest with
          | [] => none
          | '=' :: v => some (String.ofList v)
          | v => some (String.ofList v)
        optionValue o attached
      else do
        react o []
        shortCluster rest

/-- A long option, with a value after `=` if there is one. -/
def longOption (name : List Char) : ReadArgs Unit :=
  let (key, value) := match name.span (· != '=') with
    | (k, []) => (String.ofList k, none)
    | (k, _ :: v) => (String.ofList k, some (String.ofList v))
  match Opt.all.find? (·.long == key) with
  | none => throw .unknownArgument
  | some o =>
    if o.takesValue then optionValue o value
    else match value with
      | some _ => throw .tooManyValues
      | none => react o []

def programWord (w : String) : ReadArgs Unit := do
  let r ← get
  match r.pending with
  | some (.words, values) => set { r with pending := some (.words, values ++ [w]) }
  | _ => do
    resolvePending
    modify fun r => { r with pending := some (.words, [w]) }

def argument (arg : String) : ReadArgs Unit := do
  let r ← get
  if r.trailing then programWord arg
  else
    match arg.toList with
    | ['-', '-'] => do
      modify fun r => { r with trailing := true }
      resolvePending
    | '-' :: '-' :: name => longOption name
    | '-' :: c :: rest => shortCluster (c :: rest)
    | _ =>
      match r.needsValue, r.pending with
      | some _, some (w, values) =>
        set { r with pending := some (w, values ++ [arg]), needsValue := none }
      | _, _ => programWord arg

/-- Reads a command line, the program name left out. -/
def parseInvocation (args : List String) : Except UsageError Invocation := do
  let ((), r) ← (do args.forM argument; resolvePending).run {}
  if r.given.contains .specfile && !r.args.spec.isEmpty then throw .argumentConflict
  if r.given.contains .config && r.given.contains .noConfig then throw .argumentConflict
  pure r.args

end ColumnSpec
