import ColumnSpec.Text.Blank
/-!
# Configuration literals

A configuration maps names to literal texts, read by `@name`. Its text form has one
`name: value` line a literal; blank and `#` lines are skipped, unusable lines reported with
their numbers, and `version` is always the program's version.
-/
namespace ColumnSpec

/-- The version the program reports and checks `REQUIRES` against. -/
def programVersion : String := "0.1.0"

/-- A configuration text that could not be used. -/
inductive ConfigError where
  /-- A line that is not a literal, numbered from 1. -/
  | line (n : Nat) (message : String)
  /-- An override that is not `KEY=VALUE`. -/
  | badOverride (spec : String)
deriving DecidableEq, Repr

def ConfigError.message : ConfigError → String
  | .line n m => "line " ++ toString n ++ ": " ++ m
  | .badOverride spec => "--set expects KEY=VALUE, got '" ++ spec ++ "'"

/-- Literals sorted by name, each name once. -/
structure Config where
  literals : List (String × String) := []
deriving DecidableEq, Repr, Inhabited

namespace Config

/-- Sets `key` to `value`, replacing an earlier value. -/
def insertSorted (key value : String) : List (String × String) → List (String × String)
  | [] => [(key, value)]
  | (k, v) :: rest =>
    if key = k then (key, value) :: rest
    else if key < k then (key, value) :: (k, v) :: rest
    else (k, v) :: insertSorted key value rest

def set (c : Config) (key value : String) : Config := ⟨insertSorted key value c.literals⟩

/-- The configuration holding only `version`. -/
def builtin : Config := (default : Config).set "version" programVersion

/-- The value of a literal; an empty value counts as undefined. -/
def get? (c : Config) (key : String) : Option String :=
  match c.literals.lookup key with
  | some v => if v.isEmpty then none else some v
  | none => none

/-- The number of literals, empty ones included. -/
def size (c : Config) : Nat := c.literals.length

/-- Space and tab, which separate a name from its value. -/
def isSpaceOrTab (c : Char) : Bool := c == ' ' || c == '\t'

/-- The value after a name: delimited by its first character when that is `/`, `"` or
`'`, else the first blank-free word. -/
def value? : List Char → Except String String
  | [] => .error "No value found"
  | d :: rest =>
    if d == '/' || d == '"' || d == '\'' then
      match rest.span (· != d) with
      | (body, _ :: _) => .ok (String.ofList body)
      | (_, []) => .error "Delimited value not terminated."
    else .ok (String.ofList ((d :: rest).takeWhile (!isSpaceOrTab ·)))

/-- One `name: value` line, its leading blanks removed. -/
def literal? (line : List Char) : Except String (String × String) :=
  match line.span (!isSpaceOrTab ·) with
  | (_, []) => .error "Key extends to end of line."
  | (key, _ :: rest) =>
    let rest := rest.dropWhile isSpaceOrTab
    if rest.isEmpty then .error "No value found"
    else
      match key.reverse with
      | ':' :: name@(_ :: _) => do
        let v ← value? rest
        pure (String.ofList name.reverse, v)
      | _ => .error ("Key '" ++ String.ofList key ++ "' must end with ':'")

/-- The lines of a text: split at line feeds, a carriage return before one dropped, no
line after a final line feed. -/
def textLines (s : String) : List (List Char) :=
  let parts := s.toList.splitOn '\n'
  let parts := if parts.getLast? == some [] then parts.dropLast else parts
  let n := parts.length
  (parts.zipIdx).map fun (p, i) =>
    if i + 1 < n || s.toList.getLast? == some '\n' then
      (if p.getLast? == some '\r' then p.dropLast else p)
    else p

/-- Reads line `entry.2` (from 0) of a configuration text: a blank or comment line is
skipped, a literal is set, and an unusable line is reported with its number from 1. -/
def readLine (acc : Config × List ConfigError) (entry : List Char × Nat) :
    Config × List ConfigError :=
  let line := entry.1.dropWhile isSpaceOrTab
  if line.isEmpty || line.head? == some '#' then acc
  else
    match literal? line with
    | .ok (k, v) => (acc.1.set k v, acc.2)
    | .error m => (acc.1, acc.2 ++ [.line (entry.2 + 1) m])

/-- Reads a configuration text on top of nothing, then sets `version`. Unusable lines are
reported and skipped. -/
def load (text : String) : Config × List ConfigError :=
  let (c, errs) := (textLines text).zipIdx.foldl readLine ((default : Config), [])
  (c.set "version" programVersion, errs)

/-- Applies a `KEY=VALUE` override. -/
def override (c : Config) (spec : String) : Except ConfigError Config :=
  match spec.toList.span (· != '=') with
  | (key@(_ :: _), _ :: value) => .ok (c.set (String.ofList key) (String.ofList value))
  | _ => .error (.badOverride spec)

end Config

end ColumnSpec
