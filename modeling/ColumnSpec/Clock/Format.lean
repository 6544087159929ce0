import ColumnSpec.Clock.Calendar
import ColumnSpec.Number.Decimal
import ColumnSpec.Text.Bytes
/-!
# Timestamps as text

A timestamp counts microseconds since 1970-01-01 00:00:00 UTC. `Timestamp.format` writes
one by a template of `%` codes; `Timestamp.parse?` reads one back by such a template,
starting from the epoch and overriding what the text gives.
-/
namespace ColumnSpec.Timestamp

def microsPerSecond : Int := 1000000

def monthNames : List String :=
  ["January", "February", "March", "April", "May", "June", "July", "August", "September",
    "October", "November", "December"]

def dayNames : List String :=
  ["Sunday", "Monday", "Tuesday", "Wednesday", "Thursday", "Friday", "Saturday"]

/-- The digits of `n`, at least `width` of them. -/
def zeroPad (n width : Nat) : List Char := Decimal.padDigits n width

/-- What a template can show of one timestamp. -/
structure Parts where
  date : Calendar.Date
  hour : Nat
  minute : Nat
  second : Nat
  micro : Nat
  yday : Nat
  wday : Nat

def parts (micros : Int) : Parts :=
  let secs := micros / microsPerSecond
  let frac := (micros % microsPerSecond).toNat
  let daySecs := (secs % 86400).toNat
  let days := secs / 86400
  let date := Calendar.civilOfDays days
  { date, hour := daySecs / 3600, minute := daySecs % 3600 / 60, second := daySecs % 60,
    micro := frac, yday := Calendar.dayOfYear date.year date.month date.day,
    wday := ((days + 4) % 7).toNat }

/-- The text of one code letter; an unknown letter is written back with its `%`. -/
def codeText (p : Parts) (c : Char) : List Char :=
  let monthName := (monthNames[p.date.month - 1]?).getD ""
  let dayName := (dayNames[p.wday]?).getD ""
  match c with
  | '%' => ['%']
  | 'n' => ['\n']
  | 't' => ['\t']
  | 'H' => zeroPad p.hour 2
  | 'I' => zeroPad (if p.hour % 12 = 0 then 12 else p.hour % 12) 2
  | 'M' => zeroPad p.minute 2
  | 'S' => zeroPad p.second 2
  | 'f' => zeroPad p.micro 6
  | 'p' => (if p.hour < 12 then "AM" else "PM").toList
  | 'Y' => (toString p.date.year).toList
  | 'y' => zeroPad (p.date.year % 100).toNat 2
  | 'm' => zeroPad p.date.month 2
  | 'd' => zeroPad p.date.day 2
  | 'e' => if p.date.day < 10 then ' ' :: Nat.toDigits 10 p.date.day else Nat.toDigits 10 p.date.day
  | 'j' => zeroPad p.yday 3
  | 'w' => Nat.toDigits 10 p.wday
  | 'A' => dayName.toList
  | 'a' => dayName.toList.take 3
  | 'B' => monthName.toList
  | 'b' => monthName.toList.take 3
  | 'h' => monthName.toList.take 3
  | other => ['%', other]

/-- A template filled in; a `%` at the very end stands for itself. -/
def render (p : Parts) : List Char → List Char
  | [] => []
  | ['%'] => ['%']
  | '%' :: c :: rest => codeText p c ++ render p rest
  | c :: rest => c :: render p rest

def format (micros : Int) (template : String) : String :=
  String.ofList (render (parts micros) template.toList)

/-! ## Reading -/

/-- What a template has read so far. -/
structure Fields where
  year : Int := 1970
  month : Nat := 1
  day : Nat := 1
  yday : Option Nat := none
  hour : Nat := 0
  minute : Nat := 0
  second : Nat := 0
  micro : Nat := 0
  pm : Option Bool := none

def isDigitByte (b : Nat) : Bool := 48 ≤ b && b ≤ 57

def isBlankByte (b : Nat) : Bool := b == 32 || b == 9 || b == 10 || b == 12 || b == 13

/-- One to `max` digits: their value, how many, and the rest. -/
def digits (max : Nat) (bs : List Nat) : Option (Nat × Nat × List Nat) :=
  let ds := (bs.take max).takeWhile isDigitByte
  if ds.isEmpty then none
  else some (ds.foldl (fun n b => 10 * n + (b - 48)) 0, ds.length, bs.drop ds.length)

/-- Digits whose value lies in `lo..hi`. -/
def digitsIn (max lo hi : Nat) (bs : List Nat) : Option (Nat × List Nat) := do
  let (n, _, rest) ← digits max bs
  if lo ≤ n && n ≤ hi then some (n, rest) else none

/-- An ASCII byte in lower case. -/
def lowerByte (b : Nat) : Nat := if 65 ≤ b && b ≤ 90 then b + 32 else b

/-- Whether `bs` starts with `word`, ignoring ASCII case. -/
def startsWithName (bs : List Nat) (word : List Nat) : Bool :=
  word.length ≤ bs.length && (bs.take word.length).map lowerByte == word.map lowerByte

/-- The index of the name at the start of the text, full names tried before their first
three letters, and the rest. -/
def name (names : List String) (bs : List Nat) : Option (Nat × List Nat) :=
  let full := names.map fun n => Text.textBytes n.toList
  let short := full.map fun n => if 3 ≤ n.length then n.take 3 else n
  let pick (cands : List (List Nat)) : Option (Nat × List Nat) :=
    (cands.zipIdx.find? fun (w, _) => startsWithName bs w).map fun (w, i) => (i, bs.drop w.length)
  (pick full).orElse fun _ => pick short

/-- Reads the text `bs` by the template `spec`, both as bytes. -/
def scan (f : Fields) : List Nat → List Nat → Option (Fields × List Nat)
  | [], bs => some (f, bs)
  | c :: spec, bs =>
    if isBlankByte c then scan f spec (bs.dropWhile isBlankByte)
    else if c != 37 then
      match bs with
      | b :: rest => if b == c then scan f spec rest else none
      | [] => none
    else match spec with
      | [] => none
      | code :: spec => do
        let (f, bs) ← scanCode f code bs
        scan f spec bs
where
  /-- One code letter. -/
  scanCode (f : Fields) (code : Nat) (bs : List Nat) : Option (Fields × List Nat) :=
    if code == 37 then
      match bs with
      | 37 :: rest => some (f, rest)
      | _ => none
    else if code == 110 || code == 116 then some (f, bs.dropWhile isBlankByte)
    else if code == 89 then do
      let (neg, bs) := match bs with
        | 45 :: rest => (true, rest)
        | _ => (false, bs)
      let (y, _, rest) ← digits 4 bs
      some ({ f with year := if neg then -(y : Int) else y }, rest)
    else if code == 121 then do
      let (y, _, rest) ← digits 2 bs
      some ({ f with year := if y < 69 then 2000 + y else 1900 + y }, rest)
    else if code == 109 then do
      let (m, rest) ← digitsIn 2 1 12 bs
      some ({ f with month := m }, rest)
    else if code == 100 then do
      let (d, rest) ← digitsIn 2 1 31 bs
      some ({ f with day := d }, rest)
    else if code == 101 then do
      let (d, rest) ← digitsIn 2 1 31 (bs.dropWhile isBlankByte)
      some ({ f with day := d }, rest)
    else if code == 106 then do
      let (d, rest) ← digitsIn 3 1 366 bs
      some ({ f with yday := some d }, rest)
    else if code == 72 then do
      let (h, rest) ← digitsIn 2 0 23 bs
      some ({ f with hour := h }, rest)
    else if code == 73 then do
      let (h, rest) ← digitsIn 2 1 12 bs
      some ({ f with hour := h % 12 }, rest)
    else if code == 77 then do
      let (m, rest) ← digitsIn 2 0 59 bs
      some ({ f with minute := m }, rest)
    else if code == 83 then do
      let (s, rest) ← digitsIn 2 0 60 bs
      some ({ f with second := s }, rest)
    else if code == 102 then do
      let (n, width, rest) ← digits 6 bs
      some ({ f with micro := n * Nat.pow 10 (6 - width) }, rest)
    else if code == 112 then do
      let (i, rest) ← name ["AM", "PM"] bs
      some ({ f with pm := some (i == 1) }, rest)
    else if code == 66 || code == 98 || code == 104 then do
      let (i, rest) ← name monthNames bs
      some ({ f with month := i + 1 }, rest)
    else if code == 65 || code == 97 then do
      let (_, rest) ← name dayNames bs
      some (f, rest)
    else if code == 119 then do
      let (_, _, rest) ← digits 1 bs
      some (f, rest)
    else none

/-- The timestamp that a text gives by a template: every byte of the text must be used. -/
def parse? (text template : String) : Option Int := do
  let (f, rest) ← scan {} (template.toList.flatMap Text.utf8Char) (text.toList.flatMap Text.utf8Char)
  if !rest.isEmpty then none
  let hour := if f.pm == some true && f.hour < 12 then f.hour + 12 else f.hour
  let days : Int := match f.yday with
    | some yd => Calendar.daysOfCivil f.year 1 1 + yd - 1
    | none => Calendar.daysOfCivil f.year f.month f.day
  let secs : Int := days * 86400 + hour * 3600 + f.minute * 60 + f.second
  some (secs * microsPerSecond + f.micro)

end ColumnSpec.Timestamp
