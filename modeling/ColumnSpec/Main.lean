import ColumnSpec.Command
import ColumnSpec.Script.Compile
import ColumnSpec.Script.Run
/-!
# The command

Reads the command line, the program, the configuration and the inputs, and writes the
outputs; the work is done by `Script.runProgram`.
-/
namespace ColumnSpec.Command

def usage : String := "Usage: specs [OPTIONS] [SPEC]..."

/-- The text of `--help`. -/
def helpText : String :=
  "Column-oriented, record-at-a-time text processing\n\n" ++ usage ++ "\n\n" ++
  "Arguments:\n" ++
  "  [SPEC]...  Program words.  A single argument is split at blanks\n\n" ++
  "Options:\n" ++
  "  -f, --specfile <PATH>        Read the program from a file\n" ++
  "  -i, --inputfile <PATH>       Primary input (default stdin)\n" ++
  "      --inputstream <N=PATH>   Additional input stream N (2..=8)\n" ++
  "  -o, --outputfile <PATH>      Primary output (default stdout)\n" ++
  "      --outputstream <N=PATH>  Additional output stream N (2..=8)\n" ++
  "      --set <KEY=VALUE>        Define a configuration literal\n" ++
  "      --config <PATH>          Alternate configuration file\n" ++
  "      --no-config              Skip the configuration file\n" ++
  "      --force-read-input       Read input even if the program references none\n" ++
  "  -v, --verbose                Enable debug logging\n" ++
  "  -h, --help                   Print help\n" ++
  "  -V, --version                Print version"

def usageErrorText : UsageError → String
  | .unknownArgument => "error: unexpected argument found"
  | .argumentConflict => "error: an argument cannot be used with another one"
  | .valueValidation => "error: invalid stream value: expected N=PATH with N from 2 to 8"
  | .invalidValue => "error: a value is required but none was supplied"
  | .tooManyValues => "error: unexpected value for a flag"
  | .displayHelp => helpText
  | .displayVersion => "specs " ++ programVersion

/-- The wall clock in microseconds, read from the time stamp of a fresh file. -/
def wallClock : IO Int := do
  let (h, path) ← IO.FS.createTempFile
  h.flush
  let m ← path.metadata
  IO.FS.removeFile path
  pure (m.modified.sec * 1000000 + (m.modified.nsec.toNat / 1000 : Nat))

/-- Reads a stream to its end. -/
partial def readAll (s : IO.FS.Stream) (acc : ByteArray) : IO ByteArray := do
  let chunk ← s.read 65536
  if chunk.isEmpty then pure acc else readAll s (acc ++ chunk)

def fileBytes (path : String) : IO (List Nat) := do
  pure ((← IO.FS.readBinFile path).toList.map (·.toNat))

/-- A configuration file, which must be readable. -/
def readConfigFile (p : String) : IO (Except String Config) := do
  try
    pure (.ok (Config.load (← IO.FS.readFile p)).1)
  catch e =>
    pure (.error ("cannot read configuration file " ++ p ++ ": " ++ toString e))

/-- The configuration: the file unless refused (`~/.specs` when it can be read, if no
other is named), then the overrides. -/
def loadConfig (a : Invocation) : IO (Except String Config) := do
  let base ← if a.noConfig then pure (.ok Config.builtin)
    else match a.config with
      | some p => readConfigFile p
      | none =>
        match ← IO.getEnv "HOME" with
        | some home => do
          try
            pure (.ok (Config.load (← IO.FS.readFile (home ++ "/.specs"))).1)
          catch _ => pure (.ok Config.builtin)
        | none => pure (.ok Config.builtin)
  pure (base.bind fun c => (a.set.foldlM Config.override c).mapError ConfigError.message)

/-- Runs a parsed command line: the exit code. -/
def execute (a : Invocation) : IO UInt32 := do
  let fail (msg : String) : IO UInt32 := do
    IO.eprintln ("specs: " ++ msg)
    pure 1
  let program ← match a.specfile with
    | some p => do
      try
        pure (Script.compileText (← IO.FS.readFile p))
      catch e => pure (.error ⟨none, "I/O error: " ++ toString e⟩)
    | none => pure (Script.wordsFromArgs a.spec >>= Script.tokenize >>= Script.compile)
  let program ← match program with
    | .ok p => pure p
    | .error e => return ← fail e.text
  let config ← match ← loadConfig a with
    | .ok c => pure c
    | .error m => return ← fail m
  let primary ← match a.inputfile with
    | some p => fileBytes p
    | none => do pure ((← readAll (← IO.getStdin) ByteArray.empty).toList.map (·.toNat))
  let mut streams : Streams := ({} : Streams).add (InputStream.ofBytes 1 primary)
  for (n, p) in a.inputstreams do
    streams := streams.add (InputStream.ofBytes n (← fileBytes p))
  let outputs := Outputs.withStreams (a.outputstreams.map (·.1))
  let now ← wallClock
  let env : Script.Setting := { config, clock := fun _ => now }
  let (fault, s) := Script.runProgram env program a.forceReadInput Script.standardFuel
    (Script.RunState.start streams outputs)
  match a.outputfile with
  | some p => IO.FS.writeFile p (s.outputs.sinkText 1)
  | none => do
    let out ← IO.getStdout
    out.putStr (s.outputs.sinkText 1)
    out.flush
  for (n, p) in a.outputstreams do
    IO.FS.writeFile p (s.outputs.sinkText n)
  IO.eprint s.outputs.stderrText
  match fault with
  | some f => fail f.message
  | none => pure 0

end ColumnSpec.Command

open ColumnSpec in
def main (args : List String) : IO UInt32 := do
  match parseInvocation args with
  | .error e =>
    match e with
    | .displayHelp | .displayVersion =>
      IO.println (Command.usageErrorText e)
      pure 0
    | _ =>
      IO.eprintln (Command.usageErrorText e ++ "\n\n" ++ Command.usage ++
        "\n\nFor more information, try '--help'.")
      pure 2
  | .ok a =>
    if a.missingProgram then
      IO.eprintln "specs: no specification given"
      IO.eprintln "Usage: specs [OPTIONS] [SPEC]...   or   specs [OPTIONS] -f <PATH>"
      pure 2
    else Command.execute a
