import ColumnSpec.Record
import ColumnSpec.Text.Bytes
import ColumnSpec.Expr.Eval
/-!
# Input streams

An input stream hands out the lines of its text one record at a time, with one record
that may be pushed back. Every cycle advances all streams, and the stop policy decides
from their states whether the cycle runs.
-/
namespace ColumnSpec

inductive StreamState where
  | unstarted
  | positioned
  | exhausted
deriving DecidableEq, Repr

/-- One input stream. -/
structure InputStream where
  id : Nat
  /-- The lines not read yet. -/
  pending : List String
  state : StreamState := .unstarted
  current : Record := .ofText ""
  pushback : Option Record := none
  /-- Lines taken from the text so far; records served again are not counted. -/
  recordsRead : Nat := 0
deriving Repr

namespace InputStream

def ofBytes (id : Nat) (bytes : List Nat) : InputStream :=
  { id, pending := (Text.splitLines bytes).map Text.decodeLine }

/-- Moves to the next record: the pushed-back one first, else the next line. `false`
once the stream is exhausted. -/
def advance (s : InputStream) : Bool × InputStream :=
  match s.pushback with
  | some r => (true, { s with current := r, state := .positioned, pushback := none })
  | none =>
    if s.state == .exhausted then (false, s)
    else match s.pending with
      | [] => (false, { s with state := .exhausted, current := .ofText "" })
      | l :: rest =>
        let next := { s with pending := rest, current := .ofText l, state := .positioned }
        (true, { next with recordsRead := s.recordsRead + 1 })

theorem advance_slot {s : InputStream} {r : Record} (h : s.pushback = some r) :
    s.advance = (true, { s with current := r, state := .positioned, pushback := none }) := by
  simp [advance, h]

theorem advance_exhausted {s : InputStream} (hs : s.pushback = none) (hst : s.state = .exhausted) :
    s.advance = (false, s) := by
  simp [advance, hs, hst]

theorem id_advance (s : InputStream) : s.advance.2.id = s.id := by
  unfold advance
  split
  · rfl
  · split
    · rfl
    · split <;> rfl

/-- Pushes the current record back; a second push-back before an advance fails. -/
def unread (s : InputStream) : Except Fault InputStream :=
  if s.pushback.isSome then throw (.doubleUnread s.id)
  else if s.state == .positioned then pure { s with pushback := some s.current, current := .ofText "" }
  else pure s

theorem unread_full {s : InputStream} (h : s.pushback.isSome) : s.unread = .error (.doubleUnread s.id) := by
  simp [unread, h]

theorem unread_positioned {s : InputStream} (h : s.pushback = none) (hst : s.state = .positioned) :
    s.unread = .ok { s with pushback := some s.current, current := .ofText "" } := by
  simp [unread, h, hst]

theorem unread_idle {s : InputStream} (h : s.pushback = none) (hst : s.state ≠ .positioned) : s.unread = .ok s := by
  simp [unread, h, hst]

/-- Replaces the current record, as `REDO` does; where the stream is in its text stays. -/
def setCurrent (s : InputStream) (r : Record) : InputStream := { s with current := r }

def exhausted (s : InputStream) : Bool := s.state == .exhausted

end InputStream

/-- When the run stops. -/
inductive StopPolicy where
  | primary
  | allEof
  | anyEof
  | matchEof
  | stream (n : Nat)
deriving DecidableEq, Repr

/-- The input streams of a run, by number in ascending order. -/
structure Streams where
  inputs : List InputStream := []
  selected : Nat := 1
  policy : StopPolicy := .primary
  cycles : Nat := 0
deriving Repr

namespace Streams

def get? (ss : Streams) (n : Nat) : Option InputStream := ss.inputs.find? (·.id == n)

/-- Whether a stream of that number is configured. -/
def contains (ss : Streams) (n : Nat) : Bool := (ss.get? n).isSome

/-- Adds or replaces a stream, keeping the numbers in order. -/
def add (ss : Streams) (s : InputStream) : Streams :=
  let rec ins : List InputStream → List InputStream
    | [] => [s]
    | t :: rest => if s.id < t.id then s :: t :: rest else if s.id == t.id then s :: rest
      else t :: ins rest
  { ss with inputs := ins ss.inputs }

/-- Replaces the stream of a number by the result of `f`. -/
def update (ss : Streams) (n : Nat) (f : InputStream → InputStream) : Streams :=
  { ss with inputs := ss.inputs.map fun s => if s.id == n then f s else s }

/-- Sets the stop policy; a policy on one stream needs that stream. -/
def setPolicy (ss : Streams) (p : StopPolicy) : Except Fault Streams :=
  match p with
  | .stream n => if ss.contains n then pure { ss with policy := p } else throw (.unknownInputStream n)
  | _ => pure { ss with policy := p }

/-- Makes a stream the one that record access reads. -/
def select (ss : Streams) (n : Nat) : Except Fault Streams :=
  if ss.contains n then pure { ss with selected := n } else throw (.unknownInputStream n)

/-- Back to stream 1, as at the start of every cycle. -/
def resetSelection (ss : Streams) : Streams := { ss with selected := 1 }

def active (ss : Streams) : Except Fault InputStream :=
  match ss.get? ss.selected with
  | some s => pure s
  | none => throw (.unknownInputStream ss.selected)

theorem mem_of_active {ss : Streams} {s : InputStream} (h : ss.active = .ok s) : s ∈ ss.inputs := by
  unfold active get? at h
  split at h
  · rename_i t ht
    cases h
    exact List.mem_of_find?_eq_some ht
  · cases h

/-- The record number of the selected stream, 0 when there is none. -/
def recno (ss : Streams) : Nat := ((ss.get? ss.selected).map (·.recordsRead)).getD 0

/-- A step on the streams that may fail; a failure keeps the changes made before it. -/
abbrev Step (α : Type) := ExceptT Fault (StateM Streams) α

/-- Whether the cycle runs, by the stop policy, once every stream has advanced. -/
def proceed (ss : Streams) : Except Fault Bool :=
  match ss.policy with
  | .primary => pure !(((ss.get? 1).map InputStream.exhausted).getD true)
  | .stream n =>
    match ss.get? n with
    | some s => pure !s.exhausted
    | none => throw (.unknownInputStream n)
  | .allEof => pure !(ss.inputs.all InputStream.exhausted)
  | .anyEof => pure !(ss.inputs.any InputStream.exhausted)
  | .matchEof =>
    if ss.inputs.all InputStream.exhausted then pure false
    else match ss.inputs.find? InputStream.exhausted with
      | some early => throw (.streamMismatch early.id)
      | none => pure true

/-- Advances every stream once and applies the stop policy: whether the cycle runs. -/
def advanceCycle : Step Bool := do
  modify fun ss => { ss with inputs := ss.inputs.map fun s => s.advance.2 }
  let go ← ExceptT.mk (pure (proceed (← get)))
  if go then modify fun ss => { ss with cycles := ss.cycles + 1 }
  pure go

/-- The selected stream, which must exist. -/
def activeStep : Step InputStream := do
  ExceptT.mk (pure (← get).active)

theorem exec_activeStep (ss : Streams) : Eval.exec activeStep ss = (ss.active, ss) := rfl

/-- Advances the selected stream: whether it had a record. -/
def readStop : Step Bool := do
  let s ← activeStep
  let (ok, s') := s.advance
  modify fun ss => ss.update s.id fun _ => s'
  pure ok

/-- `READ`: advances the selected stream, which must have a record. -/
def read : Step Unit := do
  let s ← activeStep
  if !(← readStop) then throw (.readPastEnd s.id)

/-- `UNREAD` on the selected stream. -/
def unread : Step Unit := do
  let s ← activeStep
  let s' ← ExceptT.mk (pure s.unread)
  modify fun ss => ss.update s.id fun _ => s'

/-- `REDO`: a text becomes the current record of the selected stream. -/
def redo (text : String) : Step Unit := do
  let s ← activeStep
  modify fun ss => ss.update s.id fun t => t.setCurrent (.ofText text)

/-- The current record of the selected stream. -/
def record (ss : Streams) : Except Fault Record := (·.current) <$> ss.active

/-- Runs a step: its result and the streams after it, failed or not. -/
def Step.run {α : Type} (step : Step α) (ss : Streams) : Except Fault α × Streams :=
  (ExceptT.run step).run ss

/-- Asks the current record of the selected stream, which keeps the views the question
computed. -/
def askRecord {α : Type} (q : Record → α × Record) : Step α := do
  let s ← activeStep
  let a := q s.current
  modify fun ss => ss.update s.id fun _ => s.setCurrent a.2
  pure a.1

theorem askRecord_run {α : Type} (q : Record → α × Record) (ss : Streams) :
    (askRecord q).run ss = match ss.active with
      | .ok s => (.ok (q s.current).1, ss.update s.id fun _ => s.setCurrent (q s.current).2)
      | .error e => (.error e, ss) := by
  show Eval.exec _ ss = _
  simp only [askRecord, Eval.exec_bind, exec_activeStep]
  cases ss.active <;> rfl

end Streams

end ColumnSpec
