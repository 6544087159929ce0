import ColumnSpec.Script.Item
import ColumnSpec.Expr.Eval
import ColumnSpec.Builtin.Call
import ColumnSpec.External
import ColumnSpec.Config
/-!
# Running a program

A run goes cycle by cycle: each advances the input streams, executes the items before `EOF`
and writes the lines built; the items after `EOF` run once more when the input is done. The
items of a cycle and the cycles of a run are each bounded by a fuel count.
-/
namespace ColumnSpec.Script

/-- What a run reads besides its state: configuration literals, functions from outside,
and the readings of the wall clock in microseconds, in the order the run takes them. -/
structure Setting where
  config : Config := Config.builtin
  external : Option External := none
  clock : Nat → Int := fun _ => 0

/-- The state of a run. `fields` holds the field identifiers bound in the cycle, and
`breaks` the values of the break keys at the end of the cycle before; `skipDone` lists the
skip items whose condition has flipped, which are passed over from then on. `clockReads`
counts the clock readings taken, and `startMicros` is the one taken when the run started. -/
structure RunState where
  streams : Streams
  outputs : Outputs
  counters : Counters := []
  fields : List (Char × String) := []
  breaks : List (Char × String) := []
  fieldSep : Char := '\t'
  wordSep : Char := ' '
  pad : Char := ' '
  skipDone : List Nat := []
  inRunout : Bool := false
  cycle : Nat := 0
  clockReads : Nat := 0
  startMicros : Int := 0

/-- A step of a run: it may fail, keeping the state reached. -/
abbrev Run := Eval RunState

/-- How the items of a cycle ended. -/
inductive Outcome where
  /-- They ran to the end or to `CONTINUE`. -/
  | complete
  /-- A skip item rejected the record. -/
  | skipped
  /-- `READSTOP` found the input done. -/
  | stopped
  /-- The fuel ran out. -/
  | exhausted
deriving DecidableEq, Repr

/-- The per-cycle state set back before the first item runs. -/
def beginCycle : Run Unit :=
  modify fun s =>
    { s with
        fields := [], streams := s.streams.resetSelection,
        fieldSep := '\t', wordSep := ' ', pad := ' ' }

/-- The current record of the selected stream. -/
def currentRecord : Run Record := do
  Eval.ofExcept (← get).streams.record

/-- Runs a step on the streams, keeping what it changed even when it fails. -/
def streamStep {α : Type} (st : Streams.Step α) : Run α := do
  let s ← get
  let (r, ss) := st.run s.streams
  set { s with streams := ss }
  Eval.ofExcept r

theorem exec_streamStep {β : Type} (st : Streams.Step β) (s : RunState) :
    (streamStep st).exec s = ((st.run s.streams).1, { s with streams := (st.run s.streams).2 }) := by
  simp only [streamStep, Eval.exec_bind, Eval.exec_get, Eval.exec_set, Eval.exec_ofExcept]

/-- Asks the current record of the selected stream a question that reads its words or
fields, the views computed kept in the record. -/
def askRecord {α : Type} (q : Record → α × Record) : Run α := streamStep (Streams.askRecord q)

/-- Whether break key `id` changed since the cycle before. The first look starts tracking
the key and sees no change. -/
def trackBreak (id : Char) : Run Bool := do
  let s ← get
  match s.fields.lookup id with
  | none => throw (.fieldNotDefined id)
  | some current =>
    match s.breaks.lookup id with
    | some prev => pure (prev != current)
    | none =>
      set { s with breaks := (id, current) :: s.breaks }
      pure false

theorem exec_trackBreak (c : Char) (s : RunState) :
    (trackBreak c).exec s = match s.fields.lookup c with
      | none => (.error (.fieldNotDefined c), s)
      | some current =>
        match s.breaks.lookup c with
        | some prev => (.ok (prev != current), s)
        | none => (.ok false, { s with breaks := (c, current) :: s.breaks }) := by
  unfold trackBreak
  rw [Eval.exec_bind, Eval.exec_get]
  dsimp only
  rcases s.fields.lookup c with _ | current
  · rfl
  · rcases s.breaks.lookup c with _ | prev <;> rfl

/-- A look at break key `c` leaves the state as it was, or starts tracking `c`, which was bound
to `cur` and not tracked yet. -/
theorem trackBreak_state (c : Char) (s : RunState) :
    ((trackBreak c).exec s).2 = s ∨
      ∃ cur, s.fields.lookup c = some cur ∧ s.breaks.lookup c = none ∧
        ((trackBreak c).exec s).2 = { s with breaks := (c, cur) :: s.breaks } := by
  rw [exec_trackBreak]
  rcases s.fields.lookup c with _ | cur
  · exact Or.inl rfl
  · rcases s.breaks.lookup c with _ | prev
    · exact Or.inr ⟨cur, rfl, rfl, rfl⟩
    · exact Or.inl rfl

/-- Carries the values of the tracked break keys over to the next cycle. -/
def rememberBreaks : Run Unit :=
  modify fun s =>
    { s with breaks := s.breaks.map fun (k, prev) => (k, (s.fields.lookup k).getD prev) }

/-- The functions of the position in the run: whether this is the first cycle, whether it
is the run-out, the record number and the cycle number; `none` for other names. -/
def positionFunction (name : String) (args : List Value) : Run (Option Value) := do
  let s ← get
  let check : Run Unit := Eval.ofExcept (Builtin.arity name args 0 0)
  match name with
  | "first" => check; pure (some (.ofBool (s.cycle == 1 && !s.inRunout)))
  | "eof" => check; pure (some (.ofBool s.inRunout))
  | "recno" => check; pure (some (.int s.streams.recno))
  | "iterno" => check; pure (some (.int s.cycle))
  | _ => pure none

/-- The functions of the record, and `conf`; `none` for other names. Names starting with
`word` count words, the others fields. -/
def recordFunction (env : Setting) (name : String) (args : List Value) : Run (Option Value) := do
  let s ← get
  let (kind, sep) := if name.startsWith "word" then (Element.word, s.wordSep)
    else (Element.field, s.fieldSep)
  let a := Builtin.arg args
  let check (lo hi : Nat) : Run Unit := Eval.ofExcept (Builtin.arity name args lo hi)
  let int (i : Nat) : Run Int := Eval.ofExcept ((a i).toInt name)
  match name with
  | "record" => check 0 0; pure (some (.str (← currentRecord).text))
  | "wordcount" | "fieldcount" =>
    check 0 0; pure (some (.int (← askRecord (·.askCount kind sep))))
  | "word" | "field" =>
    check 1 1
    let i ← int 0
    pure (some (.str (← askRecord (·.askElement kind sep i))))
  | "words" | "fields" =>
    check 2 2
    let i ← int 0
    let j ← int 1
    pure (some (.str (← askRecord (·.askElements kind sep (Range.span i j)))))
  | "range" =>
    check 2 2
    let i ← int 0
    let j ← int 1
    pure (some (.str ((← currentRecord).fromTo i j)))
  | "wordstart" | "fieldstart" | "wordend" | "fieldend" | "wordlen" | "fieldlen" =>
    check 1 1
    let i ← int 0
    let n := match ← askRecord (·.askElementSpan kind sep i) with
      | none => 0
      | some sp =>
        if name.endsWith "start" then sp.start + 1
        else if name.endsWith "end" then sp.stop
        else sp.stop - sp.start
    pure (some (.int n))
  | "conf" =>
    check 1 2
    match env.config.get? (a 0).text with
    | some v => pure (some (.str v))
    | none => pure (some ((Builtin.optional args 1).getD .absent))
  | _ => pure none

/-- Calls a function: a function of the position or of the record, else a built-in one,
else one from outside. -/
def callFunction (env : Setting) (name : String) (args : List Value) : Run Value := do
  match ← positionFunction name args with
  | some v => pure v
  | none =>
    match ← recordFunction env name args with
    | some v => pure v
    | none =>
      match Builtin.call? name args with
      | some r => Eval.ofExcept r
      | none =>
        match env.external with
        | some e => Eval.ofExcept (e.call name args)
        | none => throw (.unknownFunction name)

def scope (env : Setting) : Scope RunState where
  field s c := match s.fields.lookup c with
    | some t => .ok (.str t)
    | none => .error (.fieldNotDefined c)
  counter s n := s.counters.get n
  setCounter s n v := { s with counters := s.counters.set n v }
  config _ k := match env.config.get? k with
    | some v => .ok (.str v)
    | none => .error (.unknownConfig k)
  controlBreak := trackBreak
  call := callFunction env

def evaluate (env : Setting) (e : Expr) : Run Value := e.eval (scope env)

theorem evaluate_unary {env : Setting} (op : UnaryOp) (e : Expr) :
    evaluate env (.unary op e) = evaluate env e >>= fun v => Eval.ofExcept (op.apply v) := rfl

theorem evaluate_assign {env : Setting} (n : Nat) (op : AssignOp) (e : Expr) :
    evaluate env (.assign n op e) = evaluate env e >>= fun v => get >>= fun s =>
      Eval.ofExcept (op.combine (s.counters.get n) v) >>= fun new =>
        modify (fun t : RunState => { t with counters := t.counters.set n new }) >>= fun _ =>
          pure new := rfl

theorem evaluate_call {env : Setting} (name : String) (args : List (Option Expr)) :
    evaluate env (.call name args) =
      Expr.evalArgs (scope env) args >>= fun vs => callFunction env name vs := rfl

theorem evaluate_controlBreak {env : Setting} (c : Char) :
    evaluate env (.controlBreak c) = trackBreak c >>= fun b => pure (.ofBool b) := rfl

theorem evalArgs_omitted {env : Setting} (rest : List (Option Expr)) :
    Expr.evalArgs (scope env) (none :: rest) =
      Expr.evalArgs (scope env) rest >>= fun vs => pure (.absent :: vs) := rfl

theorem evalArgs_some {env : Setting} (e : Expr) (rest : List (Option Expr)) :
    Expr.evalArgs (scope env) (some e :: rest) = evaluate env e >>= fun v =>
      Expr.evalArgs (scope env) rest >>= fun vs => pure (v :: vs) := rfl

/-- The text a range source picks from a record fresh from `t`. -/
def extract (t : String) (src : Source) (ws fs : Char) : String :=
  match src with
  | .range rg => (Record.ofText t).range rg
  | .words rg => ((Record.ofText t).askElements .word ws rg).1
  | .fields rg => ((Record.ofText t).askElements .field fs rg).1
  | _ => ""

/-- A text right-aligned in at least `width` characters. -/
def alignRight (s : String) (width : Nat) : String :=
  String.ofList (List.replicate (width - s.length) ' ') ++ s

/-- The next reading of the wall clock. -/
def readClock (env : Setting) : Run Int := do
  let s ← get
  modify fun s => { s with clockReads := s.clockReads + 1 }
  pure (env.clock s.clockReads)

theorem readClock_exec (env : Setting) (s : RunState) :
    (readClock env).exec s = (.ok (env.clock s.clockReads), { s with clockReads := s.clockReads + 1 }) :=
  rfl

def sourceText (env : Setting) : Source → Run String
  | .range rg => do pure ((← currentRecord).range rg)
  | .words rg => do
    let s ← get
    askRecord (·.askElements .word s.wordSep rg)
  | .fields rg => do
    let s ← get
    askRecord (·.askElements .field s.fieldSep rg)
  | .literal t => pure t
  | .id c => do
    match (← get).fields.lookup c with
    | some t => pure t
    | none => throw (.fieldNotDefined c)
  | .number => do pure (alignRight (toString (← get).cycle) 10)
  | .todClock => do pure (toString (← get).startMicros)
  | .dtodClock => do pure (toString (← readClock env))
  | .timeDiff => do
    let now ← readClock env
    pure (alignRight (toString (now - (← get).startMicros)) 8)
  | .print e => do pure (← evaluate env e).text
  | .substring part whole => do
    let t ← sourceText env whole
    let s ← get
    pure (extract t part s.wordSep s.fieldSep)

/-- Binds a field identifier, which must be free in this cycle. -/
def bindField (id : Char) (text : String) : Run Unit := do
  let s ← get
  if (s.fields.lookup id).isSome then throw (.fieldRedefined id)
  set { s with fields := (id, text) :: s.fields }

theorem exec_bindField (id : Char) (text : String) (s : RunState) :
    (bindField id text).exec s = if (s.fields.lookup id).isSome then (.error (.fieldRedefined id), s)
      else (.ok (), { s with fields := (id, text) :: s.fields }) := by
  unfold bindField
  by_cases h : (s.fields.lookup id).isSome
  · simp [h, Eval.exec_bind]
  · simp [h, Eval.exec_bind]

/-- Places a data field in the active output line. -/
def putField (env : Setting) (f : DataField) : Run Unit := do
  let raw ← sourceText env f.source
  match f.label with
  | some id => bindField id raw
  | none => pure ()
  let text := if f.strip then Text.trim raw else raw
  let text ← match f.conversion with
    | some c => Eval.ofExcept (c.apply text)
    | none => pure text
  modify fun s =>
    { s with outputs := s.outputs.modifyBuffer (·.place f.placement text f.align s.pad s.fieldSep) }

/-- Changes the streams by a step that may fail. -/
def onStreams (f : Streams → Except Fault Streams) : Run Unit := do
  let s ← get
  let ss ← Eval.ofExcept (f s.streams)
  set { s with streams := ss }

/-- Changes the outputs by a step that may fail. -/
def onOutputs (f : Outputs → Except Fault Outputs) : Run Unit := do
  let s ← get
  let o ← Eval.ofExcept (f s.outputs)
  set { s with outputs := o }

/-- Forgets the field identifiers, as a new record makes them stale. -/
def clearFields : Run Unit := modify fun s => { s with fields := [] }

/-- Runs one item other than the skips and the control items, which `execute` handles. -/
def step (env : Setting) : Item → Run Unit
  | .field f => putField env f
  | .fieldSeparator c => modify fun s => { s with fieldSep := c }
  | .wordSeparator c => modify fun s => { s with wordSep := c }
  | .pad c => modify fun s => { s with pad := c }
  | .read => do streamStep Streams.read; clearFields
  | .write => onOutputs Outputs.write
  | .noWrite => modify fun s => { s with outputs := s.outputs.nowrite }
  | .unread => do streamStep Streams.unread; clearFields
  | .redo => do
    let s ← get
    let (text, o) := s.outputs.redoTake
    set { s with outputs := o }
    streamStep (Streams.redo text)
    clearFields
  | .selectInput n => onStreams (·.select n)
  | .outStream n => onOutputs (·.select (.stream n))
  | .stderr => onOutputs (·.select .stderr)
  | .assert cond src => do
    if !(← evaluate env cond).isTrue then throw (.assertionFailed src)
  | .abend message => throw (.abend message)
  | .set e => discard (evaluate env e)
  | .break id => discard (trackBreak id)
  | _ => pure ()

/-- How the items of a cycle go on after one of them. -/
inductive Flow where
  /-- With the item after it. -/
  | next
  /-- Not at all: the items of the cycle end with this outcome. -/
  | exit (o : Outcome)
deriving DecidableEq, Repr

/-- Runs the item at `pc`, one that does not steer control. `CONTINUE` and `EOF` end the
cycle, and so do a skip item that drops the record and `READSTOP` at the end of input. -/
def act (env : Setting) (pc : Nat) : Item → Run Flow
  | .continue | .eof => pure (.exit .complete)
  | .readStop => do
    if ← streamStep Streams.readStop then
      clearFields
      pure .next
    else pure (.exit .stopped)
  | .skipWhile cond => skip cond true
  | .skipUntil cond => skip cond false
  | item => do
    step env item
    pure .next
where
  /-- A skip item: drops the cycle while (or until) its condition holds, and once it no
  longer does, is passed over for the rest of the run. -/
  skip (cond : Expr) (whileHolds : Bool) : Run Flow := do
    if (← get).skipDone.contains pc then pure .next
    else
      let holds := (← evaluate env cond).isTrue
      if holds == whileHolds then pure (.exit .skipped)
      else
        modify fun s => { s with skipDone := pc :: s.skipDone }
        pure .next

/-- Executes the items from `pc` until `stop`, a `CONTINUE` or `EOF`, taking one unit of
fuel for each item. -/
def execute (env : Setting) (items : Array Item) (stop : Nat) : Nat → Nat → Run Outcome
  | 0, _ => pure .exhausted
  | fuel + 1, pc =>
    if pc < stop then
      match items[pc]? with
      | none => pure .complete
      | some (.if cond onFalse) | some (.while cond onFalse) => do
        let holds := (← evaluate env cond).isTrue
        execute env items stop fuel (if holds then pc + 1 else onFalse)
      | some (.jump target) => execute env items stop fuel target
      | some item => do
        match ← act env pc item with
        | .next => execute env items stop fuel (pc + 1)
        | .exit o => pure o
    else pure .complete

/-- How the items go on after a plain one: with the next, unless it ended the cycle. -/
def afterFlow (env : Setting) (items : Array Item) (stop n pc : Nat) : Flow → Run Outcome
  | .next => execute env items stop n (pc + 1)
  | .exit o => pure o

section Execute

variable {env : Setting} {items : Array Item} {stop n pc : Nat}

theorem execute_succ_past (h : stop ≤ pc) : execute env items stop (n + 1) pc = pure .complete := by
  simp only [execute, Nat.not_lt.mpr h, if_false]

theorem execute_succ_none (hpc : pc < stop) (hi : items[pc]? = none) :
    execute env items stop (n + 1) pc = pure .complete := by
  simp only [execute, hpc, if_true, hi]

theorem execute_succ_test {i : Item} {c : Expr} {t : Nat} (hpc : pc < stop)
    (hi : items[pc]? = some i) (hct : i = .if c t ∨ i = .while c t) :
    execute env items stop (n + 1) pc =
      evaluate env c >>= fun v => execute env items stop n (if v.isTrue then pc + 1 else t) := by
  rcases hct with rfl | rfl <;> simp only [execute, hpc, if_true, hi]

theorem execute_succ_jump {t : Nat} (hpc : pc < stop) (hi : items[pc]? = some (.jump t)) :
    execute env items stop (n + 1) pc = execute env items stop n t := by
  simp only [execute, hpc, if_true, hi]

theorem execute_succ_plain {i : Item} (hpc : pc < stop) (hi : items[pc]? = some i)
    (hs : i.steers = false) :
    execute env items stop (n + 1) pc = act env pc i >>= afterFlow env items stop n pc := by
  rcases i.steers_cases with hs' | ⟨c, t, rfl | rfl⟩ | ⟨t, rfl⟩
  · simp only [execute, hpc, if_true, hi]
    split
    · contradiction
    all_goals rename_i h
    · cases h
      simp [Item.steers] at hs
    · cases h
      simp [Item.steers] at hs
    · cases h
      simp [Item.steers] at hs
    · cases h
      refine congrArg (act env pc i >>= ·) (funext fun fl => ?_)
      cases fl <;> rfl
  all_goals simp [Item.steers] at hs

end Execute

/-- Ends a cycle by its outcome: a complete one carries its break keys over and writes its
lines, any other drops them. -/
def finishCycle (o : Outcome) : Run Unit :=
  match o with
  | .complete => do rememberBreaks; onOutputs Outputs.endCycle
  | _ => modify fun s => { s with outputs := s.outputs.discardAll }

/-- Ends the one cycle of a program that reads no input, or the run-out cycle: a complete
one writes its lines, any other drops them. No cycle of the loop follows to compare break
keys against, so they are left as they are. -/
def closeCycle (o : Outcome) : Run Unit :=
  match o with
  | .complete => onOutputs Outputs.endCycle
  | _ => modify fun s => { s with outputs := s.outputs.discardAll }

/-- Runs cycles while the streams allow, at most `cycles` of them, each with `fuel`: whether
the cycles came to their end, the input done or `READSTOP` at its end, before the fuel ran
out. -/
def cycleLoop (env : Setting) (p : Program) (fuel : Nat) : Nat → Run Bool
  | 0 => pure false
  | cycles + 1 => do
    if ← streamStep Streams.advanceCycle then
      modify fun s => { s with cycle := s.cycle + 1 }
      beginCycle
      let o ← execute env p.items p.cycleEnd fuel 0
      finishCycle o
      match o with
      | .complete | .skipped => cycleLoop env p fuel cycles
      | .stopped => pure true
      | .exhausted => pure false
    else pure true

/-- The streams with the stop policy the program names. -/
def Program.policyStreams (p : Program) (ss : Streams) : Except Fault Streams :=
  match p.stop with
  | some policy => ss.setPolicy policy
  | none => pure ss

/-- Sets the stop policy the program names and takes the run's start time from the clock. -/
def Program.setUp (env : Setting) (p : Program) : Run Unit := do
  onStreams p.policyStreams
  let t ← readClock env
  modify fun s => { s with startMicros := t }

/-- Runs a program: its cycles, over the input when it reads any (or when `force` asks
for it), then the run-out cycle if it has `EOF`. The result says whether the run
finished within its fuel. -/
def Program.run (env : Setting) (p : Program) (force : Bool) (fuel : Nat) : Run Bool := do
  p.setUp env
  let finished ← if p.usesInput || force then cycleLoop env p fuel fuel
    else do
      modify fun s => { s with cycle := 1 }
      beginCycle
      let o ← execute env p.items p.cycleEnd fuel 0
      closeCycle o
      pure (o != .exhausted)
  match p.eofAt with
  | some pos =>
    modify fun s => { s with inRunout := true }
    beginCycle
    let o ← execute env p.items p.items.size fuel (pos + 1)
    closeCycle o
    pure (finished && o != .exhausted)
  | none => pure finished

section Whole

variable {env : Setting} {p : Program} {force : Bool} {fuel : Nat}

theorem Program.setUp_exec (s : RunState) :
    (p.setUp env).exec s = match p.policyStreams s.streams with
      | .ok ss => (.ok (), { s with
          streams := ss, clockReads := s.clockReads + 1, startMicros := env.clock s.clockReads })
      | .error e => (.error e, s) := by
  simp only [Program.setUp, onStreams, Eval.exec_bind, Eval.exec_get, Eval.exec_ofExcept]
  cases p.policyStreams s.streams <;> rfl

theorem Program.run_cycles (heof : p.eofAt = none) (hin : (p.usesInput || force) = true) :
    p.run env force fuel = p.setUp env >>= fun _ => cycleLoop env p fuel fuel := by
  simp [Program.run, heof, hin]

theorem Program.run_once (heof : p.eofAt = none) (hin : (p.usesInput || force) = false) :
    p.run env force fuel = p.setUp env >>= fun _ =>
      modify (fun s : RunState => { s with cycle := 1 }) >>= fun _ => beginCycle >>= fun _ =>
        (execute env p.items p.cycleEnd fuel 0 >>= fun o => closeCycle o >>= fun _ => pure o) >>=
          fun o => pure (o != .exhausted) := by
  simp [Program.run, heof, hin]

end Whole

/-- The fuel a run is given by default: the most items a cycle runs and the most cycles.
Only a program that loops for ever comes near it. -/
def standardFuel : Nat := Nat.pow 2 24

def RunState.start (streams : Streams) (outputs : Outputs) : RunState :=
  { streams := streams, outputs := outputs }

/-- Runs a program from a start state: the final state, and the fault that ended the run
early, if one did. A run out of fuel gives the state where it stopped. -/
def runProgram (env : Setting) (p : Program) (force : Bool) (fuel : Nat) (start : RunState) :
    Option Fault × RunState :=
  match (p.run env force fuel).run.run start with
  | (.ok _, s) => (none, s)
  | (.error e, s) => (some e, s)

end ColumnSpec.Script
