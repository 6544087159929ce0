import ColumnSpec.Text.Fit
import ColumnSpec.Fault
/-!
# Output lines and streams

Each output target owns a buffer in which a line is built by placements. A buffer placed
into is dirty; buffers become lines on `WRITE`, when another target is selected, and for
every dirty buffer at the end of a cycle.
-/
namespace ColumnSpec

/-- The widest line a placement may reach, 2^20. -/
def maxLineWidth : Nat := 1048576

def maxStreams : Nat := 8

/-- Where placed text goes in the line. -/
inductive Placement where
  /-- At a column, from 1, fitted to a width when one is given. -/
  | column (col : Nat) (width : Option Nat)
  /-- Right after the line. -/
  | next (width : Option Nat)
  /-- After the line and one pad character, unless the line is empty. -/
  | nextWord (width : Option Nat)
  /-- After the line and one field separator, unless the line is empty. -/
  | nextField (width : Option Nat)
  /-- Nowhere. -/
  | discard
deriving DecidableEq, Repr

namespace Placement

def width? : Placement → Option Nat
  | .column _ w | .next w | .nextWord w | .nextField w => w
  | .discard => none

/-- The last column a placement can write: for a column its start plus width, else the
width. -/
def reach : Placement → Nat
  | .column col w => col + w.getD 1 - 1
  | p => p.width?.getD 0

end Placement

/-- A line being built. -/
structure Buffer where
  chars : List Char := []
  dirty : Bool := false
deriving DecidableEq, Repr, Inhabited

namespace Buffer

/-- `text` written from column `col` (from 1, at least 1), over what is there. -/
def putAt (b : Buffer) (col : Nat) (text : List Char) : Buffer :=
  let start := max col 1 - 1
  let base := b.chars ++ List.replicate (start - b.chars.length) ' '
  let after := base.drop (start + text.length)
  { chars := base.take start ++ text ++ after, dirty := true }

/-- `text` added at the end. -/
def append (b : Buffer) (text : List Char) : Buffer := { chars := b.chars ++ text, dirty := true }

/-- `text` added at the end after `sep`, unless the line is empty. -/
def appendSeparated (b : Buffer) (sep : Char) (text : List Char) : Buffer :=
  b.append (if b.chars.isEmpty then text else sep :: text)

/-- Places a text, fitted to the placement's width with `align` and `pad`; the word form
separates with `pad`, the field form with `fs`. -/
def place (b : Buffer) (p : Placement) (text : String) (align : Text.Align) (pad fs : Char) :
    Buffer :=
  let cs := match p.width? with
    | some w => Text.fitChars text.toList w align pad
    | none => text.toList
  match p with
  | .column col _ => b.putAt col cs
  | .next _ => b.append cs
  | .nextWord _ => b.appendSeparated pad cs
  | .nextField _ => b.appendSeparated fs cs
  | .discard => b

def text (b : Buffer) : String := String.ofList b.chars

end Buffer

/-- An output target. Streams come before standard error, by number. -/
inductive Target where
  | stream (n : Nat)
  | stderr
deriving DecidableEq, Repr

def Target.key : Target → Nat
  | .stream n => n
  | .stderr => maxStreams + 1 + Nat.pow 2 64

/-- The output side of a run: the lines written to each configured stream (stream 1
always among them) and to standard error, each kept last first so that writing a line
takes constant time; the buffers by target, the active target and the number of lines
written. -/
structure Outputs where
  sinks : List (Nat × List String) := [(1, [])]
  errLines : List String := []
  buffers : List (Target × Buffer) := []
  active : Target := .stream 1
  lines : Nat := 0
deriving Repr

namespace Outputs

/-- Outputs with stream 1 and the given extra streams. -/
def withStreams (extra : List Nat) : Outputs :=
  let rec ins (n : Nat) : List (Nat × List String) → List (Nat × List String)
    | [] => [(n, [])]
    | (m, t) :: rest => if n < m then (n, []) :: (m, t) :: rest else if n == m then (m, t) :: rest
      else (m, t) :: ins n rest
  { sinks := extra.foldl (fun s n => ins n s) [(1, [])] }

/-- The buffer of a target, empty if it has none yet. -/
def bufferOf (o : Outputs) (t : Target) : Buffer := (o.buffers.lookup t).getD {}

def buffer (o : Outputs) : Buffer := o.bufferOf o.active

/-- Replaces the buffer of a target, keeping the targets in order. -/
def setBuffer (o : Outputs) (t : Target) (b : Buffer) : Outputs :=
  let rec ins : List (Target × Buffer) → List (Target × Buffer)
    | [] => [(t, b)]
    | (u, c) :: rest =>
      if t.key < u.key then (t, b) :: (u, c) :: rest
      else if t == u then (t, b) :: rest
      else (u, c) :: ins rest
  { o with buffers := ins o.buffers }

theorem lookup_cons_eq {α β : Type} [DecidableEq α] (a k : α) (b : β) (es : List (α × β)) :
    ((k, b) :: es).lookup a = if a = k then some b else es.lookup a := by
  by_cases h : a = k
  · subst h
    rw [List.lookup_cons_self, if_pos rfl]
  · rw [List.lookup_cons, beq_false_of_ne h, if_neg h]

theorem lookup_setBuffer_ins (t : Target) (b : Buffer) (u : Target) :
    ∀ l : List (Target × Buffer),
      (setBuffer.ins t b l).lookup u = if u = t then some b else l.lookup u
  | [] => by simp only [setBuffer.ins, lookup_cons_eq, List.lookup_nil]
  | (v, c) :: rest => by
    unfold setBuffer.ins
    split
    · rw [lookup_cons_eq]
    · split
      · next hv =>
        -- the entry of `t` is replaced
        have hvt : v = t := (beq_iff_eq.1 hv).symm
        subst hvt
        simp only [lookup_cons_eq]
        by_cases h : u = v <;> simp [h]
      · next hv =>
        have hvt : t ≠ v := fun h => hv (beq_iff_eq.2 h)
        simp only [lookup_cons_eq, lookup_setBuffer_ins t b u rest]
        by_cases h : u = t
        · subst h
          simp [hvt]
        · simp [h]

theorem mem_keys_setBuffer_ins {t u : Target} {b : Buffer} :
    ∀ {l : List (Target × Buffer)}, u ∈ (setBuffer.ins t b l).map (·.1) → u = t ∨ u ∈ l.map (·.1)
  | [], h => by simpa [setBuffer.ins] using h
  | (v, c) :: rest, h => by
    unfold setBuffer.ins at h
    split at h
    · simpa using h
    · split at h
      · simp only [List.map_cons, List.mem_cons] at h ⊢
        rcases h with h | h
        · exact .inl h
        · exact .inr (.inr h)
      · simp only [List.map_cons, List.mem_cons] at h ⊢
        rcases h with h | h
        · exact .inr (.inl h)
        · rcases mem_keys_setBuffer_ins h with h | h
          · exact .inl h
          · exact .inr (.inr h)

@[simp] theorem bufferOf_setBuffer {o : Outputs} (t u : Target) (b : Buffer) :
    (o.setBuffer t b).bufferOf u = if u = t then b else o.bufferOf u := by
  simp only [bufferOf, setBuffer, lookup_setBuffer_ins]
  split <;> rfl

def modifyBuffer (o : Outputs) (f : Buffer → Buffer) : Outputs := o.setBuffer o.active (f o.buffer)

def emit (o : Outputs) (t : Target) (line : String) : Except Fault Outputs :=
  match t with
  | .stream n =>
    if o.sinks.any (·.1 == n) then
      pure { o with sinks := o.sinks.map fun (m, ls) => if m == n then (m, line :: ls) else (m, ls),
                    lines := o.lines + 1 }
    else throw (.unknownOutputStream n)
  | .stderr => pure { o with errLines := line :: o.errLines, lines := o.lines + 1 }

theorem emit_stream {o : Outputs} {n : Nat} (line : String) (h : o.sinks.any (·.1 == n) = true) :
    o.emit (.stream n) line = .ok { o with
      sinks := o.sinks.map (fun x => if x.1 == n then (x.1, line :: x.2) else (x.1, x.2)),
      lines := o.lines + 1 } := by
  simp only [emit, h, if_true]
  rfl

/-- Writes a target's buffer as a line if it is dirty. -/
def flushIfDirty (o : Outputs) (t : Target) : Except Fault Outputs :=
  match o.buffers.lookup t with
  | some b => if b.dirty then (o.setBuffer t {}).emit t b.text else pure o
  | none => pure o

/-- Makes a target active, writing out the buffer of the one left if it is dirty. A
stream must be configured and numbered 1 to 8. -/
def select (o : Outputs) (t : Target) : Except Fault Outputs := do
  match t with
  | .stream n =>
    if !(1 ≤ n && n ≤ maxStreams) || !o.sinks.any (·.1 == n) then throw (.unknownOutputStream n)
  | .stderr => pure ()
  if t == o.active then pure o
  else
    let o ← o.flushIfDirty o.active
    pure { o with active := t }

/-- `WRITE`: the active buffer becomes a line, even when empty. -/
def write (o : Outputs) : Except Fault Outputs :=
  let line := o.buffer.text
  (o.setBuffer o.active {}).emit o.active line

/-- `NOWRITE`: the active buffer is cleared. -/
def nowrite (o : Outputs) : Outputs := o.setBuffer o.active {}

/-- The active buffer's text, taken out of it. -/
def redoTake (o : Outputs) : String × Outputs := (o.buffer.text, o.setBuffer o.active {})

/-- The end of a cycle: every dirty buffer is written, in target order, and stream 1
becomes active. The buffers are all empty then, and an empty buffer reads as no buffer, so
none is kept. -/
def endCycle (o : Outputs) : Except Fault Outputs := do
  let o ← o.buffers.map (·.1) |>.foldlM (fun o t => o.flushIfDirty t) o
  pure { o with buffers := [], active := .stream 1 }

/-- Every buffer is cleared and stream 1 becomes active. -/
def discardAll (o : Outputs) : Outputs := { o with buffers := [], active := .stream 1 }

/-- The text of lines kept last first: each line followed by a line feed, in the order
written. -/
def linesText (ls : List String) : String := String.join (ls.reverse.map (· ++ "\n"))

def sinkText (o : Outputs) (n : Nat) : String := linesText ((o.sinks.lookup n).getD [])

def stderrText (o : Outputs) : String := linesText o.errLines

theorem linesText_cons (l : String) (ls : List String) :
    linesText (l :: ls) = linesText ls ++ (l ++ "\n") := by
  simp [linesText, String.join]

end Outputs

end ColumnSpec
