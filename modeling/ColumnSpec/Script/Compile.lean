import ColumnSpec.Script.Item
import ColumnSpec.Expr.Parser
import ColumnSpec.Config
/-!
# Compiling tokens to items

One pass over the tokens; open `IF` and `WHILE` blocks wait on a stack until their next
part or end patches their targets. Every item takes a token, so the pass recurses on the
tokens left.
-/
namespace ColumnSpec.Script

/-- An open block: an `IF` with the conditional item still to be patched, the jumps to
its end, and whether `ELSE` was seen; or a `WHILE` with its first item. Both remember how
their opening token is described. -/
inductive Block where
  | ifBlock (test : Option Nat) (exits : List Nat) (hasElse : Bool) (opened : String)
  | whileBlock (start : Nat) (opened : String)

/-- The compiler's state: the program so far, the open blocks (innermost first) and the
line of the last token, where errors at the end of the program are reported. -/
structure Builder where
  program : Program := {}
  blocks : List Block := []
  lastLine : Nat := 1

/-- Compiling: state over a builder, failing with a program error. -/
abbrev Compiler := StateT Builder (Except ProgramError)

/-- Tokens left after a step that may take none. -/
abbrev Rest (ts : List Token) := { r : List Token // r.length ≤ ts.length }

/-- Tokens left after a step that takes at least one. -/
abbrev Past (ts : List Token) := { r : List Token // r.length < ts.length }

theorem run_bind_ok {m : Compiler α} {f : α → Compiler β} {b b' : Builder} {c : β}
    (h : (m >>= f).run b = .ok (c, b')) : ∃ a b₁, m.run b = .ok (a, b₁) ∧ (f a).run b₁ = .ok (c, b') := by
  rw [StateT.run_bind] at h
  cases hm : m.run b with
  | error e => rw [hm] at h; cases h
  | ok p => rw [hm] at h; exact ⟨p.1, p.2, rfl, h⟩

def failAt (t : Token) (message : String) : Compiler α := throw ⟨some t.line, message⟩

/-- Fails with an error on the line of the last token. -/
def failAtEnd (message : String) : Compiler α := do
  let b ← get
  throw ⟨some b.lastLine, message⟩

def push (i : Item) : Compiler Nat :=
  modifyGet fun b => (b.program.items.size,
    { b with program := { b.program with items := b.program.items.push i } })

/-- Notes that the program looks at input records. -/
def markInput : Compiler Unit :=
  modify fun b => { b with program := { b.program with usesInput := true } }

/-- Adds an item that moves through the input. -/
def directive (i : Item) : Compiler Unit := do
  markInput
  discard (push i)

/-- Sets the jump target of the item at `pos`. -/
def patch (pos target : Nat) : Compiler Unit :=
  modify fun b =>
    { b with program := { b.program with items := b.program.items.modify pos (·.retarget target) } }

theorem forM_patch_run (exits : List Nat) (target : Nat) (b : Builder) :
    (exits.forM fun j => patch j target).run b =
      .ok ((), { b with program := { b.program with
        items := exits.foldl (fun a j => a.modify j (·.retarget target)) b.program.items } }) := by
  induction exits generalizing b with
  | nil => rfl
  | cons j more ih =>
    exact ih _

/-- The token after a keyword, which it needs. -/
def argument (kw : Token) : (ts : List Token) → Compiler (Token × Past ts)
  | [] => failAt kw ("Missing argument after " ++ kw.describe)
  | t :: r => pure (t, ⟨r, by simp⟩)

theorem argument_ok {kw : Token} {ts : List Token} {b b' : Builder} {a : Token × Past ts}
    (h : (argument kw ts).run b = .ok (a, b')) : ts = a.1 :: a.2.1 ∧ b' = b := by
  cases ts with
  | nil => cases h
  | cons t r => cases h; exact ⟨rfl, rfl⟩

/-- Takes keyword `k`, which must follow `after`. -/
def expectKeyword (k : Keyword) (after : Token) : (ts : List Token) → Compiler (Past ts)
  | [] => failAt after ("Expected " ++ k.name.toUpper ++ " after " ++ after.describe)
  | t :: r =>
    if t.isKeyword k then pure ⟨r, by simp⟩
    else failAt t ("Expected " ++ k.name.toUpper ++ " after " ++ after.describe ++ ", got " ++
      t.describe)

theorem expectKeyword_ok {k : Keyword} {after : Token} {ts : List Token} {b b' : Builder} {r : Past ts}
    (h : (expectKeyword k after ts).run b = .ok (r, b')) :
    ∃ t, ts = t :: r.1 ∧ t.isKeyword k = true ∧ b' = b := by
  cases ts with
  | nil => cases h
  | cons t rest =>
    simp only [expectKeyword] at h
    split at h
    · cases h; exact ⟨t, rfl, by assumption, rfl⟩
    · cases h

/-- The expression after a keyword, with the token that holds it. -/
def expression (kw : Token) (ts : List Token) : Compiler (Expr × Token × Past ts) := do
  let (t, r) ← argument kw ts
  match Parser.parse t.literalText with
  | .error e => failAt t ("Error in expression " ++ t.describe ++ ": " ++ e)
  | .ok e =>
    if readsInput e then markInput
    pure (e, t, r)

/-- A field identifier: one ASCII letter. -/
def identifier (t : Token) : Option Char :=
  match t.text.toList with
  | [c] => if c.isAlpha then some c else none
  | _ => none

def singleChar (s : String) : Option Char :=
  match s.toList with
  | [c] => some c
  | _ => none

/-- A separator or pad: one character, `BLANK` or `SPACE`, `TAB`, or `x` and two hex digits. -/
def separatorChar (t : Token) : Option Char :=
  match singleChar t.text with
  | some c => some c
  | none =>
    match asciiLower t.text with
    | "blank" | "space" => some ' '
    | "tab" => some '\t'
    | _ =>
      let hex := match t.text.toList with
        | [x, a, b] => if x.toLower == 'x' then (Text.decodeHex? [a, b]).bind (singleChar ∘ String.ofList) else none
        | _ => none
      hex.orElse fun _ => singleChar t.literalText

/-- The numbers of a version: the parts between periods after leading `v`s, each its
leading digits (zero when there are none or too many). -/
def versionParts (v : String) : List Nat :=
  let parts := (v.toList.dropWhile (fun c => c == 'v' || c == 'V')).splitOn '.'
  parts.map fun p =>
    let n := (p.takeWhile Char.isDigit).foldl (fun n c => 10 * n + (c.toNat - '0'.toNat)) 0
    if n < Nat.pow 2 64 then n else 0

/-- Whether one list of version numbers is at least another, the shorter padded with
zeros. -/
def versionAtLeast : List Nat → List Nat → Bool
  | [], need => need.all (· == 0)
  | _ :: _, [] => true
  | h :: hs, n :: ns => if h = n then versionAtLeast hs ns else n < h

/-- `REQUIRES`: this version must be at least the one wanted. -/
def checkVersion (wanted : String) : Except String Unit :=
  if versionAtLeast (versionParts programVersion) (versionParts wanted) then .ok ()
  else .error ("This program requires version " ++ wanted ++ "; this is version " ++
    programVersion)

/-- An input or output stream number, 1 to `maxStreams`. -/
def streamNumber (t : Token) : Compiler Nat :=
  match t.kind with
  | .range r =>
    if r.single && 1 ≤ r.first && r.first ≤ maxStreams then pure r.first.toNat
    else failAt t ("Bad stream number " ++ t.describe)
  | _ => failAt t ("Bad stream number " ++ t.describe)

def source : (ts : List Token) → Compiler (Source × Past ts)
  | [] => failAtEnd "Missing input source at end of program"
  | t :: ts =>
    match t.kind with
    | .range r => pure (.range r, ⟨ts, by simp⟩)
    | .wordRange r => pure (.words r, ⟨ts, by simp⟩)
    | .fieldRange r => pure (.fields r, ⟨ts, by simp⟩)
    | .literal s => pure (.literal s, ⟨ts, by simp⟩)
    | .keyword .number => pure (.number, ⟨ts, by simp⟩)
    | .keyword .todClock => pure (.todClock, ⟨ts, by simp⟩)
    | .keyword .dtodClock => pure (.dtodClock, ⟨ts, by simp⟩)
    | .keyword .timeDiff => pure (.timeDiff, ⟨ts, by simp⟩)
    | .keyword .id => do
      let (arg, ⟨r, h⟩) ← argument t ts
      match identifier arg with
      | some c => pure (.id c, ⟨r, by simp; omega⟩)
      | none => failAt arg ("Bad field identifier " ++ arg.describe)
    | .keyword .print => do
      let (e, _, ⟨r, h⟩) ← expression t ts
      pure (.print e, ⟨r, by simp; omega⟩)
    | .keyword .substring => do
      let (part, ⟨r1, h1⟩) ← source ts
      if !part.isRange then failAt t ("SUBSTRING needs a range after " ++ t.describe)
      let ⟨r2, h2⟩ ← expectKeyword .of t r1
      let (whole, ⟨r3, h3⟩) ← source r2
      pure (.substring part whole, ⟨r3, by simp; omega⟩)
    | _ => failAt t ("Bad input source " ++ t.describe)
termination_by ts => ts.length

/-- Where a data field goes, from its placement token. -/
def placementOf : TokenKind → Option Placement
  | .period => some .discard
  | .next w => some (.next w)
  | .nextWord w => some (.nextWord w)
  | .nextField w => some (.nextField w)
  | .range r =>
    if r.single && 0 < r.first then some (.column r.first.toNat none)
    else r.width?.map fun w => .column r.first.toNat (some w)
  | _ => none

def placement : (ts : List Token) → Compiler (Placement × Past ts)
  | [] => failAtEnd "Missing output placement at end of program"
  | t :: r =>
    match placementOf t.kind with
    | none => failAt t ("Bad output placement " ++ t.describe)
    | some p =>
      if maxLineWidth < p.reach then
        failAt t ("Output placement " ++ t.describe ++ " is beyond column " ++
          toString maxLineWidth)
      else pure (p, ⟨r, by simp⟩)

def label? : (ts : List Token) → Option Char × Rest ts
  | ⟨.label c, _, _, _⟩ :: r => (some c, ⟨r, by simp⟩)
  | ts => (none, ⟨ts, Nat.le_refl _⟩)

/-- An optional `STRIP`. -/
def strip? : (ts : List Token) → Bool × Rest ts
  | ⟨.keyword .strip, _, _, _⟩ :: r => (true, ⟨r, by simp⟩)
  | ts => (false, ⟨ts, Nat.le_refl _⟩)

def conversion? : (ts : List Token) → Option Conversion × Rest ts
  | ⟨.conversion c, _, _, _⟩ :: r => (some c, ⟨r, by simp⟩)
  | ts => (none, ⟨ts, Nat.le_refl _⟩)

/-- An optional alignment, which needs a placement with a width. -/
def alignment (p : Placement) : (ts : List Token) → Compiler (Text.Align × Rest ts)
  | t :: r =>
    match t.kind with
    | .align a =>
      if p.width?.isNone then failAt t ("Alignment " ++ t.describe ++ " requires an output width")
      else pure (a, ⟨r, by simp⟩)
    | _ => pure (.left, ⟨t :: r, Nat.le_refl _⟩)
  | [] => pure (.left, ⟨[], Nat.le_refl _⟩)

def dataField (ts : List Token) : Compiler (DataField × Past ts) := do
  let (lbl, ⟨r0, h0⟩) := label? ts
  let (src, ⟨r1, h1⟩) ← source r0
  if src.readsInput then markInput
  let (strip, ⟨r2, h2⟩) := strip? r1
  let (conv, ⟨r3, h3⟩) := conversion? r2
  let (p, ⟨r4, h4⟩) ← placement r3
  let (align, ⟨r5, h5⟩) ← alignment p r4
  pure (⟨lbl, src, strip, conv, p, align⟩, ⟨r5, by omega⟩)

/-- `ELSE` or `ELSEIF`: closes the branch before it with a jump to the end and opens the
next one. -/
def elseBranch (t : Token) (isElseIf : Bool) (ts : List Token) : Compiler (Rest ts) := do
  let b ← get
  match b.blocks with
  | .ifBlock _ _ false _ :: _ => pure ()
  | .ifBlock _ _ true _ :: _ => failAt t (t.describe ++ " after ELSE")
  | _ => failAt t ((if isElseIf then "ELSEIF" else "ELSE") ++ " without IF at " ++ t.describe)
  let (cond, ⟨r, h⟩) ← (if isElseIf then do
      let (cond, _, ⟨r1, h1⟩) ← expression t ts
      let ⟨r2, h2⟩ ← expectKeyword .then t r1
      pure (some cond, ⟨r2, by omega⟩)
    else pure (none, ⟨ts, Nat.le_refl _⟩) : Compiler (Option Expr × Rest ts))
  let jump ← push (.jump 0)
  let b ← get
  let here := b.program.items.size
  let (opened, blocks) := match b.blocks with
    | .ifBlock test exits hasElse o :: outer =>
      (test, .ifBlock (if cond.isSome then some here else none) (exits ++ [jump])
        (hasElse || cond.isNone) o :: outer)
    | bs => (none, bs)
  set { b with blocks := blocks }
  match cond with
  | some c => discard (push (.if c 0))
  | none => pure ()
  match opened with
  | some pos => patch pos here
  | none => pure ()
  pure ⟨r, h⟩

def openBlock (blk : Block) : Compiler Unit := modify fun b => { b with blocks := blk :: b.blocks }

/-- Closes the innermost block, returning it. -/
def closeBlock : Compiler (Option Block) :=
  modifyGet fun b => match b.blocks with
    | blk :: outer => (some blk, { b with blocks := outer })
    | [] => (none, b)

theorem closeBlock_program {b b₁ : Builder} {r : Option Block} (h : closeBlock.run b = .ok (r, b₁)) :
    b₁.program = b.program := by
  cases hb : b.blocks with
  | nil =>
    simp [closeBlock, StateT.run, modifyGet, MonadStateOf.modifyGet, StateT.modifyGet, hb, pure,
      Except.pure] at h
    rw [← h.2]
  | cons blk outer =>
    simp [closeBlock, StateT.run, modifyGet, MonadStateOf.modifyGet, StateT.modifyGet, hb] at h
    cases h
    rfl

theorem closeBlock_ok {b b₁ : Builder} {blk : Block} (h : closeBlock.run b = .ok (some blk, b₁)) :
    b.blocks = blk :: b₁.blocks ∧ b₁.program = b.program := by
  cases hb : b.blocks with
  | nil =>
    simp [closeBlock, StateT.run, modifyGet, MonadStateOf.modifyGet, StateT.modifyGet, hb, pure,
      Except.pure] at h
  | cons blk' outer =>
    simp [closeBlock, StateT.run, modifyGet, MonadStateOf.modifyGet, StateT.modifyGet, hb] at h
    obtain ⟨rfl, rfl⟩ := h
    exact ⟨rfl, rfl⟩

/-- The directive of keyword `k`, from token `t`, with the tokens after it. -/
def keywordItem (k : Keyword) (t : Token) (ts : List Token) : Compiler (Rest ts) := do
  let weaken {ts : List Token} (r : Past ts) : Rest ts := ⟨r.1, Nat.le_of_lt r.2⟩
  match k with
  | .fieldSeparator | .wordSeparator | .pad =>
    let (arg, r) ← argument t ts
    match separatorChar arg with
    | none => failAt arg ("Bad separator " ++ arg.describe)
    | some c =>
      discard (push (match k with
        | .fieldSeparator => .fieldSeparator c
        | .wordSeparator => .wordSeparator c
        | _ => .pad c))
      pure (weaken r)
  | .stop =>
    let (arg, r) ← argument t ts
    let policy ← match arg.kind with
      | .keyword .allEof => pure StopPolicy.allEof
      | .keyword .anyEof => pure .anyEof
      | .keyword .matchEof => pure .matchEof
      | _ => StopPolicy.stream <$> streamNumber arg
    modify fun b => { b with program := { b.program with stop := some policy } }
    pure (weaken r)
  | .requires =>
    let (arg, r) ← argument t ts
    match checkVersion arg.literalText with
    | .error m => failAt arg m
    | .ok () => pure (weaken r)
  | .read => directive .read; pure ⟨ts, Nat.le_refl _⟩
  | .readStop => directive .readStop; pure ⟨ts, Nat.le_refl _⟩
  | .unread => directive .unread; pure ⟨ts, Nat.le_refl _⟩
  | .redo => directive .redo; pure ⟨ts, Nat.le_refl _⟩
  | .write => discard (push .write); pure ⟨ts, Nat.le_refl _⟩
  | .noWrite => discard (push .noWrite); pure ⟨ts, Nat.le_refl _⟩
  | .continue => discard (push .continue); pure ⟨ts, Nat.le_refl _⟩
  | .stderr => discard (push .stderr); pure ⟨ts, Nat.le_refl _⟩
  | .eof =>
    let b ← get
    if b.program.eofAt.isSome then failAt t ("Second EOF at " ++ t.describe)
    if !b.blocks.isEmpty then failAt t ("EOF inside a conditional or loop at " ++ t.describe)
    let pos ← push .eof
    modify fun b => { b with program := { b.program with eofAt := some pos, usesInput := true } }
    pure ⟨ts, Nat.le_refl _⟩
  | .select =>
    let (arg, r) ← argument t ts
    let n ← match arg.kind with
      | .keyword .first => pure 1
      | .keyword .second => pure 2
      | _ => streamNumber arg
    directive (.selectInput n)
    pure (weaken r)
  | .outStream =>
    let (arg, r) ← argument t ts
    let n ← streamNumber arg
    discard (push (.outStream n))
    pure (weaken r)
  | .assert =>
    let (cond, arg, r) ← expression t ts
    discard (push (.assert cond arg.literalText))
    pure (weaken r)
  | .abend =>
    let (arg, r) ← argument t ts
    discard (push (.abend arg.literalText))
    pure (weaken r)
  | .set =>
    let (e, arg, r) ← expression t ts
    if !e.isAssignment then
      failAt arg (Fault.assignmentTarget (Lexer.leadingText arg.literalText)).message
    discard (push (.set e))
    pure (weaken r)
  | .break =>
    let (arg, r) ← argument t ts
    match identifier arg with
    | none => failAt arg ("Bad break key " ++ arg.describe)
    | some c =>
      directive (.break c)
      pure (weaken r)
  | .skipWhile =>
    let (cond, _, r) ← expression t ts
    directive (.skipWhile cond)
    pure (weaken r)
  | .skipUntil =>
    let (cond, _, r) ← expression t ts
    directive (.skipUntil cond)
    pure (weaken r)
  | .if =>
    let (cond, _, ⟨r1, h1⟩) ← expression t ts
    let ⟨r2, h2⟩ ← expectKeyword .then t r1
    let test ← push (.if cond 0)
    openBlock (.ifBlock (some test) [] false t.describe)
    pure ⟨r2, by omega⟩
  | .elseIf => elseBranch t true ts
  | .else => elseBranch t false ts
  | .endIf =>
    match ← closeBlock with
    | some (.ifBlock test exits _ _) =>
      let b ← get
      let stop := b.program.items.size
      match test with
      | some pos => patch pos stop
      | none => pure ()
      exits.forM fun j => patch j stop
      pure ⟨ts, Nat.le_refl _⟩
    | _ => failAt t ("ENDIF without IF at " ++ t.describe)
  | .while =>
    let (cond, _, ⟨r1, h1⟩) ← expression t ts
    let ⟨r2, h2⟩ ← expectKeyword .do t r1
    let start ← push (.while cond 0)
    openBlock (.whileBlock start t.describe)
    pure ⟨r2, by omega⟩
  | .done =>
    match ← closeBlock with
    | some (.whileBlock start _) =>
      discard (push (.jump start))
      let b ← get
      patch start b.program.items.size
      pure ⟨ts, Nat.le_refl _⟩
    | _ => failAt t ("DONE without WHILE at " ++ t.describe)
  | _ => failAt t ("Unexpected " ++ t.describe)

/-- Whether a keyword starts a data field rather than a directive. -/
def startsField : Keyword → Bool
  | .id | .number | .todClock | .dtodClock | .timeDiff | .print | .substring => true
  | _ => false

def item : (ts : List Token) → Compiler (Past ts)
  | [] => failAtEnd "Missing input source at end of program"
  | t :: ts =>
    match t.kind with
    | .keyword k =>
      if startsField k then do
        let (f, r) ← dataField (t :: ts)
        discard (push (.field f))
        pure r
      else do
        let ⟨r, h⟩ ← keywordItem k t ts
        pure ⟨r, by simp; omega⟩
    | _ => do
      let (f, r) ← dataField (t :: ts)
      discard (push (.field f))
      pure r

def items (ts : List Token) : Compiler Unit :=
  match ts with
  | [] => pure ()
  | t :: r => do
    let ⟨r', _h⟩ ← item (t :: r)
    items r'
termination_by ts.length
decreasing_by simp only [List.length_cons] at _h ⊢; omega

/-- Compiles tokens to a program. A block left open is reported without a line. -/
def compile (ts : List Token) : Except ProgramError Program := do
  let lastLine := (ts.getLast?.map (·.line)).getD 1
  let ((), b) ← (items ts).run { lastLine := lastLine }
  match b.blocks with
  | .ifBlock _ _ _ opened :: _ => throw ⟨none, opened ++ " is not terminated by ENDIF"⟩
  | .whileBlock _ opened :: _ => throw ⟨none, opened ++ " is not terminated by DONE"⟩
  | [] => pure b.program

/-- Splits, classifies and compiles a program text. -/
def compileText (src : String) : Except ProgramError Program := do
  compile (← tokenize (← splitProgram src))

end ColumnSpec.Script
