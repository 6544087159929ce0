/-!
# Text as bytes

A line that is valid UTF-8 is read as such and any other one byte a character, so no input
is refused; the conversions see a text as bytes the same way.
-/
namespace ColumnSpec.Text

/-- Whether `b` continues a multi-byte UTF-8 sequence. -/
def isCont (b : Nat) : Bool := 0x80 ≤ b && b ≤ 0xBF

/-- The characters of strictly valid UTF-8 bytes: no overlong form, no surrogate, nothing
past `U+10FFFF`, no truncated sequence. -/
def decodeUtf8 : List Nat → Option (List Char)
  | [] => some []
  | b :: rest =>
    if b < 0x80 then (decodeUtf8 rest).map (Char.ofNat b :: ·)
    else match rest with
      | b1 :: rest1 =>
        if 0xC2 ≤ b && b ≤ 0xDF then
          if isCont b1 then (decodeUtf8 rest1).map (Char.ofNat ((b - 0xC0) * 64 + (b1 - 0x80)) :: ·)
          else none
        else match rest1 with
          | b2 :: rest2 =>
            if 0xE0 ≤ b && b ≤ 0xEF then
              let lo := if b == 0xE0 then 0xA0 else 0x80
              let hi := if b == 0xED then 0x9F else 0xBF
              if lo ≤ b1 && b1 ≤ hi && isCont b2 then
                (decodeUtf8 rest2).map
                  (Char.ofNat ((b - 0xE0) * 4096 + (b1 - 0x80) * 64 + (b2 - 0x80)) :: ·)
              else none
            else match rest2 with
              | b3 :: rest3 =>
                if 0xF0 ≤ b && b ≤ 0xF4 then
                  let lo := if b == 0xF0 then 0x90 else 0x80
                  let hi := if b == 0xF4 then 0x8F else 0xBF
                  if lo ≤ b1 && b1 ≤ hi && isCont b2 && isCont b3 then
                    (decodeUtf8 rest3).map (Char.ofNat ((b - 0xF0) * 262144 + (b1 - 0x80) * 4096 +
                      (b2 - 0x80) * 64 + (b3 - 0x80)) :: ·)
                  else none
                else none
              | [] => none
          | [] => none
      | [] => none

/-- One character per byte. -/
def latin1 (bs : List Nat) : List Char := bs.map Char.ofNat

/-- The text of a line's bytes: UTF-8 when valid, one character per byte otherwise. -/
def decodeLine (bs : List Nat) : String :=
  String.ofList ((decodeUtf8 bs).getD (latin1 bs))

def utf8Code (n : Nat) : List Nat :=
  if n < 0x80 then [n]
  else if n < 0x800 then [0xC0 + n / 64, 0x80 + n % 64]
  else if n < 0x10000 then [0xE0 + n / 4096, 0x80 + n / 64 % 64, 0x80 + n % 64]
  else [0xF0 + n / 262144, 0x80 + n / 4096 % 64, 0x80 + n / 64 % 64, 0x80 + n % 64]

def utf8Char (c : Char) : List Nat := utf8Code c.toNat

/-- The bytes that a text stands for: its own code for a character up to `ÿ`, the UTF-8
bytes for any other. -/
def textBytes (cs : List Char) : List Nat :=
  cs.flatMap fun c => if c.toNat ≤ 0xFF then [c.toNat] else utf8Char c

/-- The value of a hexadecimal digit in either case. -/
def hexDigit? (c : Char) : Option Nat :=
  if c.isDigit then some (c.toNat - '0'.toNat)
  else if 'a' ≤ c && c ≤ 'f' then some (c.toNat - 'a'.toNat + 10)
  else if 'A' ≤ c && c ≤ 'F' then some (c.toNat - 'A'.toNat + 10)
  else none

/-- Bytes written as pairs of hexadecimal digits; an odd digit out or a non-digit fails. -/
def hexPairs? : List Char → Option (List Nat)
  | [] => some []
  | a :: b :: rest => do
    let x ← hexDigit? a
    let y ← hexDigit? b
    let r ← hexPairs? rest
    pure ((16 * x + y) :: r)
  | [_] => none

/-- The characters of non-empty hexadecimal text, one per byte. -/
def decodeHex? (cs : List Char) : Option (List Char) :=
  if cs.isEmpty then none else (hexPairs? cs).map latin1

def hexChar (n : Nat) : Char :=
  if n < 10 then Char.ofNat ('0'.toNat + n) else Char.ofNat ('a'.toNat + n - 10)

/-- Two lower-case hexadecimal digits of a byte. -/
def hexByte (b : Nat) : List Char := [hexChar (b / 16 % 16), hexChar (b % 16)]

/-- A line without the carriage return at its end, if it has one. -/
def dropCarriageReturn (l : List Nat) : List Nat :=
  match l.reverse with
  | 13 :: r => r.reverse
  | _ => l

/-- Lines of a byte stream: each ends at a line feed, a last line may lack one, and one
carriage return right before a line feed is dropped with it. -/
def splitLines (bs : List Nat) : List (List Nat) :=
  let rec go : List Nat → List Nat → List (List Nat)
    | [], acc => if acc.isEmpty then [] else [acc.reverse]
    | 10 :: rest, acc => dropCarriageReturn acc.reverse :: go rest []
    | b :: rest, acc => go rest (b :: acc)
  go bs []

end ColumnSpec.Text
