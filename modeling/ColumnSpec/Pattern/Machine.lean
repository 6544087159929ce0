import ColumnSpec.Pattern.Footprint
import ColumnSpec.Pattern.Parse
import ColumnSpec.Text.Blank
/-!
# Matching patterns

A pattern compiles to a program of a small automaton, run by simulating its threads in
priority order, at most one per instruction at each position. The first thread to finish
gives the leftmost match that the alternatives and repetitions prefer.
-/
namespace ColumnSpec.Pattern

/-- An instruction of the automaton. -/
inductive Inst where
  /-- Consume one character that passes the test. -/
  | test (p : Char → Bool)
  /-- Continue at both offsets, the first preferred. -/
  | split (a b : Int)
  | jump (off : Int)
  /-- Record the position in a capture slot. -/
  | save (slot : Nat)
  | look (l : Look)
  | done

/-- The bounds a repetition is laid out with: a node that only matches the empty text is
repeated at most once, since a further pass could add nothing. -/
def repeatBounds (onlyEmpty : Bool) (min : Nat) (max : Option Nat) : Nat × Option Nat :=
  if onlyEmpty then (Nat.min min 1, some (Nat.min (max.getD 1) 1)) else (min, max)

/-- `k` copies of a list, joined. -/
def copies (k : Nat) (code : List Inst) : List Inst := (List.replicate k code).flatten

/-- `k` optional copies, nested so that each is tried only after the one before it. -/
def optionals (greedy : Bool) (code : List Inst) : Nat → List Inst
  | 0 => []
  | k + 1 =>
    let rest := optionals greedy code k
    let skip : Int := code.length + rest.length + 1
    (if greedy then Inst.split 1 skip else Inst.split skip 1) :: code ++ rest

/-- A split that goes back `len` instructions to repeat a body or goes on, in the order of
greed. -/
def again (greedy : Bool) (len : Int) : Inst :=
  if greedy then .split (-len) 1 else .split 1 (-len)

/-- The code of a repetition of `code` at least `min` times and without bound. With a
minimum, the last copy repeats itself. With none, a body that can pass without consuming is
laid out as one pass made optional: after an empty pass the way on is still open through the
split behind the body, so such a pass stops the repetition ahead of the passes that consume,
as a backtracking matcher would have it. A body that always consumes loops through the split
before it. -/
def loopCode (code : List Inst) (canBeEmpty greedy : Bool) : Nat → List Inst
  | 0 =>
    let len : Int := code.length
    let enter := if greedy then Inst.split 1 (len + 2) else Inst.split (len + 2) 1
    if canBeEmpty then enter :: code ++ [again greedy len]
    else enter :: code ++ [.jump (-(len + 1))]
  | min + 1 => copies (min + 1) code ++ [again greedy code.length]

mutual
def Node.emit : Node → List Inst
  | .empty | .flagMark => []
  | .cls s => [.test fun c => s.contains c.toNat]
  | .look l => [.look l]
  | .group none n => n.emit
  | .group (some k) n => .save (2 * k) :: n.emit ++ [.save (2 * k + 1)]
  | .cat ns => Node.emitAll ns
  | .alt ns => Node.emitAlt ns
  | .rep n min max greedy =>
    let code := n.emit
    match repeatBounds n.onlyEmpty min max with
    | (min, none) => loopCode code n.canBeEmpty greedy min
    | (min, some m) => copies min code ++ optionals greedy code (m - min)
def Node.emitAll : List Node → List Inst
  | [] => []
  | n :: rest => n.emit ++ Node.emitAll rest
/-- The code of alternatives, the first preferred. -/
def Node.emitAlt : List Node → List Inst
  | [] => []
  | [n] => n.emit
  | n :: rest =>
    let code := n.emit
    let more := Node.emitAlt rest
    (Inst.split 1 (code.length + 2) :: code) ++ (Inst.jump (more.length + 1) :: more)
end

/-- A compiled pattern: its program and its number of capture groups. -/
structure Compiled where
  prog : Array Inst
  groups : Nat

/-- Compiles a pattern; the whole match is group 0. A pattern whose automaton would not fit
the size limit is refused. -/
def compile (src : String) (icase : Bool) : Read Compiled := do
  let (node, groups) ← read src icase
  if !node.fits then throw "compiled pattern exceeds size limit"
  pure ⟨(Inst.save 0 :: node.emit ++ [Inst.save 1, Inst.done]).toArray, groups⟩

/-- Whether a zero-width test holds between positions `pos - 1` and `pos`. -/
def Look.holds (l : Look) (text : Array Char) (pos : Nat) : Bool :=
  let before := if pos = 0 then none else text[pos - 1]?
  let after := text[pos]?
  match l with
  | .textStart => pos == 0
  | .textEnd => pos == text.size
  | .lineStart crlf =>
    match before with
    | none => true
    | some '\n' => true
    | some '\r' => crlf && after != some '\n'
    | some _ => false
  | .lineEnd crlf =>
    match after with
    | none => true
    | some '\n' => !crlf || before != some '\r'
    | some '\r' => crlf
    | some _ => false
  | .wordBoundary u => (before.map (wordTest u)).getD false != (after.map (wordTest u)).getD false
  | .notWordBoundary u =>
    (before.map (wordTest u)).getD false == (after.map (wordTest u)).getD false
  | .wordStart u => !(before.map (wordTest u)).getD false && (after.map (wordTest u)).getD false
  | .wordEnd u => (before.map (wordTest u)).getD false && !(after.map (wordTest u)).getD false
  | .wordStartHalf u => !(before.map (wordTest u)).getD false
  | .wordEndHalf u => !(after.map (wordTest u)).getD false

/-- A thread: the instruction it waits at and its capture slots. -/
structure Thread where
  pc : Nat
  caps : Array (Option Nat)

/-- Threads waiting at one position, in priority order (kept last first), and the
instructions they have reached. -/
structure Threads where
  seen : Array Bool
  list : List Thread

/-- No threads, for a program of `n` instructions. -/
def Threads.empty (n : Nat) : Threads := ⟨Array.replicate n false, []⟩

/-- Adds a thread at `pc` and everything it reaches without consuming a character at
position `pos`. Each instruction is reached once per position, so `fuel` of one more than
the program size is enough. -/
def Threads.follow (prog : Array Inst) (text : Array Char) (pos : Nat) :
    Nat → Nat → Array (Option Nat) → Threads → Threads
  | 0, _, _, ts => ts
  | fuel + 1, pc, caps, ts =>
    if ts.seen[pc]?.getD true then ts
    else
      let ts := { ts with seen := ts.seen.setIfInBounds pc true }
      let go (off : Int) (caps : Array (Option Nat)) (ts : Threads) : Threads :=
        Threads.follow prog text pos fuel ((pc : Int) + off).toNat caps ts
      match prog[pc]? with
      | some (.test _) | some .done => { ts with list := ⟨pc, caps⟩ :: ts.list }
      | some (.jump off) => go off caps ts
      | some (.split a b) => go b caps (go a caps ts)
      | some (.save k) => go 1 (caps.setIfInBounds k (some pos)) ts
      | some (.look l) => if l.holds text pos then go 1 caps ts else ts
      | none => ts

/-- One position of the simulation: each thread in priority order either matches, ending
the threads after it, or consumes the character at `pos` into the threads of the next
position. -/
def step (prog : Array Inst) (text : Array Char) (pos : Nat) :
    List Thread → Threads → Option (Array (Option Nat)) → Threads × Option (Array (Option Nat))
  | [], next, found => (next, found)
  | t :: rest, next, found =>
    match prog[t.pc]? with
    | some .done => (next, some t.caps)
    | some (.test p) =>
      match text[pos]? with
      | some c =>
        if p c then step prog text pos rest (next.follow prog text (pos + 1) (prog.size + 1) (t.pc + 1) t.caps) found
        else step prog text pos rest next found
      | none => step prog text pos rest next found
    | _ => step prog text pos rest next found

/-- Runs the simulation from position `pos` with the threads `now`; a new thread starts at
each position until a match is found. -/
def run (re : Compiled) (text : Array Char) : Nat → Nat → Threads → Option (Array (Option Nat)) →
    Option (Array (Option Nat))
  | 0, _, _, found => found
  | fuel + 1, pos, now, found =>
    let slots := Array.replicate (2 * re.groups + 2) none
    let now := if found.isNone then now.follow re.prog text pos (re.prog.size + 1) 0 slots else now
    if now.list.isEmpty && found.isSome then found
    else
      let (next, found) := step re.prog text pos now.list.reverse (Threads.empty re.prog.size) found
      if text.size ≤ pos then found
      else run re text fuel (pos + 1) next found

/-- The capture slots of the leftmost-first match starting at or after `start`. -/
def Compiled.find? (re : Compiled) (text : Array Char) (start : Nat) : Option (Array (Option Nat)) :=
  run re text (text.size + 2 - start) start (Threads.empty re.prog.size) none

/-- The span of the whole match in capture slots. -/
def matchSpan (caps : Array (Option Nat)) : Nat × Nat :=
  ((caps[0]?).join.getD 0, (caps[1]?).join.getD 0)

/-- Whether the pattern matches somewhere in the text. -/
def Compiled.isMatch (re : Compiled) (text : String) : Bool :=
  (re.find? text.toList.toArray 0).isSome

/-- The successive matches, as the slots of each: the search resumes at the end of the last
match, and an empty match at the very end of the previous one is passed over by searching
again one character further. At most `limit` matches when a limit is given. -/
def Compiled.matches (re : Compiled) (text : Array Char) (limit : Option Nat) :
    List (Array (Option Nat)) :=
  let rec go : Nat → Nat → Option Nat → Option Nat → List (Array (Option Nat))
    | 0, _, _, _ => []
    | fuel + 1, start, lastEnd, left =>
      if left == some 0 then []
      else
        let found := match re.find? text start with
          | some m =>
            let (s, e) := matchSpan m
            if s == e && lastEnd == some e then
              if text.size < start + 1 then none else re.find? text (start + 1)
            else some m
          | none => none
        match found with
        | some m =>
          let e := (matchSpan m).2
          m :: go fuel e (some e) (left.map (· - 1))
        | none => []
  go (2 * text.size + 2) 0 none limit

/-- The text of a capture group, empty when it did not take part. -/
def group (text : Array Char) (caps : Array (Option Nat)) (k : Nat) : List Char :=
  match (caps[2 * k]?).join, (caps[2 * k + 1]?).join with
  | some s, some e => (text.extract s e).toList
  | _, _ => []

/-- A template rewritten into the replacement syntax of the regex library: `$&` becomes
`${0}`, a dollar sign and a run of digits `${digits}`, `$$` stays, and any other dollar sign
is doubled so that it stands for itself. -/
def translate : List Char → List Char
  | [] => []
  | c :: rest =>
    if c = '$' then
      match rest with
      | [] => ['$', '$']
      | d :: r =>
        if d = '&' then ['$', '{', '0', '}'] ++ translate r
        else if d.isDigit then
          '$' :: '{' :: (d :: r.takeWhile Char.isDigit) ++ '}' :: translate (r.dropWhile Char.isDigit)
        else if d = '$' then '$' :: '$' :: translate r
        else '$' :: '$' :: translate (d :: r)
    else c :: translate rest
termination_by cs => cs.length
decreasing_by
  all_goals first
    | exact Nat.lt_succ_self _
    | exact Nat.lt_succ_of_lt (Nat.lt_succ_self _)
    | exact Nat.lt_succ_of_lt (Nat.lt_succ_of_le (Text.length_dropWhile_le _ _))

/-- A group name in braces: what stands before the first closing brace, and the text after
it; nothing when no brace closes it. -/
def braced? : List Char → Option (List Char × List Char)
  | [] => none
  | c :: r => if c = '}' then some ([], r) else (braced? r).map (Prod.map (c :: ·) id)

theorem length_of_braced? : ∀ {cs name after : List Char}, braced? cs = some (name, after) →
    after.length < cs.length + 1
  | [], _, _, h => by cases h
  | c :: r, name, after, h => by
    unfold braced? at h
    by_cases hc : c = '}'
    · rw [if_pos hc] at h
      cases h
      simp only [List.length_cons]
      omega
    · rw [if_neg hc] at h
      obtain ⟨⟨name', after'⟩, hr, he⟩ := Option.map_eq_some_iff.mp h
      simp only [Prod.map, id, Prod.mk.injEq] at he
      obtain ⟨-, rfl⟩ := he
      have := length_of_braced? hr
      simp only [List.length_cons]
      omega

/-- Whether a character may be part of a group name written without braces. -/
def isRefChar (c : Char) : Bool := c.isAlphanum || c == '_'

/-- The group number a name stands for: decimal digits after an optional plus sign, of a
value that fits a machine word. -/
def readIndex? (name : List Char) : Option Nat :=
  let ds := if name.head? = some '+' then name.tail else name
  if !ds.isEmpty && ds.all Char.isDigit && decide (Decimal.digitsValue ds < Nat.pow 2 64) then
    some (Decimal.digitsValue ds)
  else none

/-- The text a reference to a group stands for: the group of the number the name stands for,
or else the group that `index` gives for the name, empty when there is none. -/
def refText (text : Array Char) (caps : Array (Option Nat)) (index : List Char → Option Nat)
    (name : List Char) : List Char :=
  (((readIndex? name).or (index name)).map (group text caps)).getD []

/-- The replacement for one match from a template in the regex library's syntax: `$$` is a
dollar sign, `${name}` and `$name` (a name of letters, digits and underscores) the group the
name refers to, and a dollar sign that starts neither stands for itself. -/
def interpolate (text : Array Char) (caps : Array (Option Nat)) (index : List Char → Option Nat) :
    List Char → List Char
  | [] => []
  | c :: rest =>
    if c = '$' then
      match rest with
      | [] => ['$']
      | d :: r =>
        if d = '$' then '$' :: interpolate text caps index r
        else if d = '{' then
          match h : braced? r with
          | some (name, after) =>
            have := length_of_braced? h
            refText text caps index name ++ interpolate text caps index after
          | none => '$' :: interpolate text caps index (d :: r)
        else if isRefChar d then
          refText text caps index (d :: r.takeWhile isRefChar) ++
            interpolate text caps index (r.dropWhile isRefChar)
        else '$' :: interpolate text caps index (d :: r)
    else c :: interpolate text caps index rest
termination_by cs => cs.length
decreasing_by
  all_goals first
    | exact Nat.lt_succ_self _
    | exact Nat.lt_succ_of_lt (Nat.lt_succ_self _)
    | exact Nat.lt_succ_of_lt (Nat.lt_succ_of_le (Text.length_dropWhile_le _ _))
    | exact Nat.lt_succ_of_lt ‹_›

/-- The text with each match, given by its slots, replaced by `rep` of it, from position
`last` on. -/
def splice (cs : Array Char) (rep : Array (Option Nat) → List Char) :
    List (Array (Option Nat)) → Nat → List Char
  | [], last => (cs.extract last cs.size).toList
  | m :: rest, last =>
    (cs.extract last (matchSpan m).1).toList ++ rep m ++ splice cs rep rest (matchSpan m).2

end ColumnSpec.Pattern
