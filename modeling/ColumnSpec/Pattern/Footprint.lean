import ColumnSpec.Pattern.Syntax
import ColumnSpec.Text.Utf8Sequences
/-!
# The size of a compiled pattern

A pattern is refused when its forward or backward automaton would take more than ten
mebibytes. The automata are built by the Thompson construction from a simplified `Shape`
of the pattern, counting the bytes each state takes.
-/
namespace ColumnSpec.Pattern

open Text (RangeSet)

/-- The simplified form of a pattern that its automaton is built from. -/
inductive Shape where
  | empty
  /-- Literal characters, as their UTF-8 bytes. -/
  | literal (bytes : List Nat)
  | cls (s : RangeSet)
  | look (l : Look)
  /-- A capture group, by its number; groups of different numbers are different shapes. -/
  | capture (index : Nat) (sub : Shape)
  | concat (subs : List Shape)
  | alt (subs : List Shape)
  | rep (sub : Shape) (min : Nat) (max : Option Nat) (greedy : Bool)
  deriving BEq, Inhabited

/-- The number of bytes of the UTF-8 form of a code point. -/
def utf8Width (n : Nat) : Nat :=
  if n < 0x80 then 1 else if n < 0x800 then 2 else if n < 0x10000 then 3 else 4

/-- Whether every character of a set is ASCII. -/
def asciiOnly (s : RangeSet) : Bool := s.points.size % 2 == 0 && s.points.all (· ≤ 0x80)

mutual
/-- The fewest bytes a shape matches, none if it matches nothing. -/
def Shape.minLen : Shape → Option Nat
  | .empty | .look _ => some 0
  | .literal bytes => some bytes.length
  | .cls s => s.points[0]?.map utf8Width
  | .capture _ sub => sub.minLen
  | .concat subs => Shape.sumMinLen subs
  | .alt subs => Shape.leastMinLen subs
  | .rep sub min _ _ => sub.minLen.map (· * min)
def Shape.sumMinLen : List Shape → Option Nat
  | [] => some 0
  | s :: rest => do pure ((← s.minLen) + (← Shape.sumMinLen rest))
def Shape.leastMinLen : List Shape → Option Nat
  | [] => none
  | [s] => s.minLen
  | s :: rest => do pure (Nat.min (← s.minLen) (← Shape.leastMinLen rest))
end

mutual
/-- The most bytes a shape matches, none if there is no bound or it matches nothing. -/
def Shape.maxLen : Shape → Option Nat
  | .empty | .look _ => some 0
  | .literal bytes => some bytes.length
  | .cls s =>
    if s.points.isEmpty then none
    else if s.points.size % 2 == 1 then some 4
    else s.points.back?.map fun p => utf8Width (p - 1)
  | .capture _ sub => sub.maxLen
  | .concat subs => Shape.sumMaxLen subs
  | .alt subs => Shape.mostMaxLen subs
  | .rep sub _ max _ => do pure ((← sub.maxLen) * (← max))
def Shape.sumMaxLen : List Shape → Option Nat
  | [] => some 0
  | s :: rest => do pure ((← s.maxLen) + (← Shape.sumMaxLen rest))
def Shape.mostMaxLen : List Shape → Option Nat
  | [] => some 0
  | [s] => s.maxLen
  | s :: rest => do pure (Nat.max (← s.maxLen) (← Shape.mostMaxLen rest))
end

mutual
/-- Whether a shape can only match at the start of the text: every way through it passes the
start-of-text test before it matches anything. -/
def Shape.startsAnchored : Shape → Bool
  | .look l => l == .textStart
  | .capture _ sub => sub.startsAnchored
  | .concat subs => Shape.leadAnchored subs
  | .alt subs => Shape.allStartAnchored subs
  | .rep sub min _ _ => 0 < min && sub.startsAnchored
  | _ => false
/-- Whether a sequence passes the start test before its first part that can match a
character. -/
def Shape.leadAnchored : List Shape → Bool
  | [] => false
  | s :: rest => s.startsAnchored || (s.maxLen == some 0 && Shape.leadAnchored rest)
/-- Whether every branch of a choice starts anchored. -/
def Shape.allStartAnchored : List Shape → Bool
  | [] => true
  | s :: rest => s.startsAnchored && Shape.allStartAnchored rest
end

mutual
/-- Whether a shape can only match at the end of the text: every way through it passes the
end-of-text test after it has matched everything. -/
def Shape.endsAnchored : Shape → Bool
  | .look l => l == .textEnd
  | .capture _ sub => sub.endsAnchored
  | .concat subs => Shape.trailAnchored subs
  | .alt subs => Shape.allEndAnchored subs
  | .rep sub min _ _ => 0 < min && sub.endsAnchored
  | _ => false
/-- Whether a sequence passes the end test after its last part that can match a character. -/
def Shape.trailAnchored : List Shape → Bool
  | [] => false
  | s :: rest => Shape.trailAnchored rest || (s.endsAnchored && rest.all (·.maxLen == some 0))
/-- Whether every branch of a choice ends anchored. -/
def Shape.allEndAnchored : List Shape → Bool
  | [] => true
  | s :: rest => s.endsAnchored && Shape.allEndAnchored rest
end

/-- The number of constructors of a shape. Taking out common parts in front of a choice
makes its branches' total weight smaller, so it bounds how often that can happen. -/
def Shape.weight : Shape → Nat
  | .capture _ sub => sub.weight + 1
  | .concat subs => (subs.attach.map fun ⟨x, _⟩ => x.weight).foldr (· + ·) 0 + 1
  | .alt subs => (subs.attach.map fun ⟨x, _⟩ => x.weight).foldr (· + ·) 0 + 1
  | .rep sub _ _ _ => sub.weight + 1
  | _ => 1

/-- A class as a shape: a class of one character is that literal character. -/
def Shape.ofSet (s : RangeSet) : Shape :=
  match s.single? with
  | some c => .literal (Text.utf8Code c)
  | none => .cls s

/-- A sequence as a shape: sequences inside it are flattened, runs of literals joined and empty
parts dropped; a sequence of one part is that part, and of none the empty shape. -/
def Shape.sequence (parts : List Shape) : Shape :=
  let flat := parts.flatMap fun
    | .concat xs => xs
    | x => [x]
  let close (done : List Shape) : Option (List (List Nat)) → List Shape
    | some chunks => .literal chunks.reverse.flatten :: done
    | none => done
  let step (acc : List Shape × Option (List (List Nat))) (x : Shape) :=
    match x, acc.2 with
    | .literal bytes, some chunks => (acc.1, some (bytes :: chunks))
    | .literal bytes, none => (acc.1, some [bytes])
    | .empty, _ => acc
    | x, lit => (x :: close acc.1 lit, none)
  let (done, lit) := flat.foldl step ([], none)
  match (close done lit).reverse with
  | [] => .empty
  | [x] => x
  | xs => .concat xs

/-- The characters of a choice whose every branch is one literal character. -/
def singleChars? (alts : List Shape) : Option (List Nat) :=
  alts.mapM fun
    | .literal bytes =>
      match Text.decodeUtf8 bytes with
      | some [c] => some c.toNat
      | _ => none
    | _ => none

/-- The union of a choice whose every branch is a class. -/
def classUnion? (alts : List Shape) : Option RangeSet :=
  alts.foldlM (fun acc x => match x with
    | .cls s => some (acc.union s)
    | _ => none) RangeSet.empty

/-- The parts of a choice's branches that are sequences, none if a branch is not one. -/
def sequenceParts? (alts : List Shape) : Option (List (List Shape)) :=
  alts.mapM fun
    | .concat xs => some xs
    | _ => none

/-- How many leading parts all the lists share. -/
def commonPrefixLength : List (List Shape) → Nat
  | [] => 0
  | first :: rest =>
    rest.foldl (fun n xs => ((first.take n).zip xs).takeWhile (fun (a, b) => a == b) |>.length)
      first.length

/-- A choice as a shape, the first branch preferred: choices inside it are flattened; a choice
of one branch is that branch and of none a class that matches nothing; a choice of single
characters or of classes is their union; and a choice of sequences that all start with the
same parts has those parts taken out in front of a choice of the rests. `fuel` bounds how often
parts are taken out. -/
def Shape.choice : Nat → List Shape → Shape
  | fuel, alts =>
    let flat := alts.flatMap fun
      | .alt xs => xs
      | x => [x]
    match flat with
    | [] => .cls .empty
    | [x] => x
    | _ =>
      match singleChars? flat with
      | some cs => Shape.ofSet (RangeSet.ofAscending (cs.mergeSort (· ≤ ·)))
      | none =>
        match classUnion? flat with
        | some s => Shape.ofSet s
        | none =>
          match fuel, sequenceParts? flat with
          | fuel + 1, some parts =>
            let n := commonPrefixLength parts
            if n == 0 then .alt flat
            else
              let front := (parts.head?.getD []).take n
              Shape.sequence (front ++ [Shape.choice fuel (parts.map fun xs => Shape.sequence (xs.drop n))])
          | _, _ => .alt flat

/-- A repetition as a shape: one of something that can only match the empty text is repeated
at most once; none of anything is the empty shape, and exactly one is the thing itself. -/
def Shape.repeat (sub : Shape) (min : Nat) (max : Option Nat) (greedy : Bool) : Shape :=
  let (min, max) :=
    if sub.maxLen == some 0 then (Nat.min min 1, some (Nat.min (max.getD 1) 1)) else (min, max)
  if min == 0 && max == some 0 then .empty
  else if min == 1 && max == some 1 then sub
  else .rep sub min max greedy

def Shape.ofNode : Node → Shape
  | .empty | .flagMark => .empty
  | .cls s => Shape.ofSet s
  | .look l => .look l
  | .group (some i) n => .capture i (Shape.ofNode n)
  | .group none n => Shape.ofNode n
  | .cat ns => Shape.sequence (ns.attach.map fun ⟨n, _⟩ => Shape.ofNode n)
  | .alt ns =>
    let alts := ns.attach.map fun ⟨n, _⟩ => Shape.ofNode n
    Shape.choice (alts.foldl (fun w x => w + x.weight) 1) alts
  | .rep n min max greedy => Shape.repeat (Shape.ofNode n) min max greedy

/-- The most bytes an automaton may take, 10 · 2^20. -/
def sizeLimit : Nat := 10485760

/-- The automaton built so far, as far as its size goes: its states and the bytes that their
lists of transitions and branches hold. -/
structure Build where
  states : Nat := 0
  lists : Nat := 0

def Build.bytes (b : Build) : Nat := 32 * b.states + b.lists

/-- Building an automaton, stopped as soon as it takes more than `sizeLimit` bytes. -/
abbrev Grow := StateT Build (Except Unit)

/-- Adds a state whose lists hold `bytes`; the number of the new state. -/
def addState (bytes : Nat) : Grow Nat := do
  let b ← get
  let b' : Build := { states := b.states + 1, lists := b.lists + bytes }
  set b'
  if sizeLimit < b'.bytes then throw ()
  pure b.states

def addBranch : Grow Unit := do
  let b ← get
  let b' := { b with lists := b.lists + 4 }
  set b'
  if sizeLimit < b'.bytes then throw ()

/-- A piece of automaton: its first state, its last state, and whether the last state is a
fork, which gains a branch when the piece is continued. -/
structure Piece where
  start : Nat
  stop : Nat
  forks : Bool

def Piece.extend (p : Piece) : Grow Unit := if p.forks then addBranch else pure ()

def singlePiece : Grow Piece := do
  let id ← addState 0
  pure ⟨id, id, false⟩

def literalPiece (bytes : List Nat) : Grow Piece := do
  let first ← addState 0
  for _ in bytes.drop 1 do discard (addState 0)
  pure ⟨first, first + (bytes.length - 1), false⟩

/-- A class of ASCII characters: a state with a transition per range, and the state it leads
to. -/
def asciiClassPiece (s : RangeSet) : Grow Piece := do
  let stop ← addState 0
  let start ← addState (8 * s.ranges.length)
  pure ⟨start, stop, false⟩

/-- FNV-1a over numbers, 64 bits wide. -/
def fnv1a (ns : List Nat) : UInt64 :=
  ns.foldl (fun h n => (h ^^^ n.toUInt64) * 1099511628211) 14695981039346656037

/-- A transition: a byte range and the state it leads to. -/
structure Arrow where
  lo : Nat
  hi : Nat
  next : Nat
  deriving BEq

/-- A state of a forward class automaton not added yet: its finished transitions, and the
range of the transition it is following, whose target is not known yet. -/
structure Pending where
  arrows : Array Arrow := #[]
  last : Option (Nat × Nat) := none

/-- The states of a forward class automaton added so far, as far as a table of 10 000 entries
remembers them: each entry holds a state's transitions and its number. -/
abbrev StateTable := Array (Option (Array Arrow × Nat))

/-- The number of a state with the given transitions: one equal to it that the table still
holds, or a new one, which the table then holds in place of what its entry held. -/
def internState (table : StateTable) (arrows : Array Arrow) : Grow (Nat × StateTable) := do
  let slot := (fnv1a (arrows.toList.flatMap fun a => [a.lo, a.hi, a.next])).toNat % 10000
  if let some (some (key, id)) := table[slot]? then
    if key == arrows then return (id, table)
  let id ← addState (8 * arrows.size)
  pure (id, table.setIfInBounds slot (some (arrows, id)))

/-- A pending state finished: its last transition leads to `next`. -/
def Pending.close (p : Pending) (next : Nat) : Pending :=
  match p.last with
  | some (lo, hi) => { arrows := p.arrows.push ⟨lo, hi, next⟩ }
  | none => p

/-- Adds the pending states of the path after its first `keep + 1`, last first, each leading to
the one added before it and the last of them to `next`; the state then left last on the path
leads to the first added. -/
def settle (keep next : Nat) (path : Array Pending) (table : StateTable) :
    Grow (Array Pending × StateTable) :=
  if keep + 1 < path.size then do
    let (id, table) ← internState table ((path.back?.getD ({} : Pending)).close next).arrows
    settle keep id path.pop table
  else
    pure (path.modify (path.size - 1) (·.close next), table)
termination_by path.size
decreasing_by simp only [Array.size_pop]; omega

/-- A forward class automaton under construction: the path of pending states from the start,
the table of states added, and the state every path ends in. -/
structure ClassBuild where
  path : Array Pending
  table : StateTable
  target : Nat

/-- Adds the byte-range sequence of some UTF-8 forms: the pending states that start like it are
kept, the others added, and pending states follow the rest of the sequence. Sequences come in
ascending order, so a state once added gains no more transitions. -/
def ClassBuild.addSequence (c : ClassBuild) (seq : List (Nat × Nat)) : Grow ClassBuild := do
  let shared := ((seq.zip c.path.toList).takeWhile fun (r, p) => p.last == some r).length
  let (path, table) ← settle shared c.target c.path c.table
  match seq.drop shared with
  | [] => pure { c with path, table }
  | r :: rest =>
    let path := path.modify (path.size - 1) fun p => { p with last := some r }
    pure { c with path := path ++ (rest.map fun r => ({ last := some r } : Pending)).toArray, table }

/-- A class compiled forward: the automaton of its characters' UTF-8 forms, from its start
state to the state every form ends in. -/
def forwardClassPiece (s : RangeSet) : Grow Piece := do
  let target ← addState 0
  let c : ClassBuild := { path := #[{}], table := Array.replicate 10000 none, target }
  let seqs := s.ranges.flatMap fun (lo, hi) => Text.utf8RangeSequences lo hi
  let c ← seqs.foldlM ClassBuild.addSequence c
  let (path, table) ← settle 0 c.target c.path c.table
  let (start, _) ← internState table ((path[0]?.getD ({} : Pending)).arrows)
  pure ⟨start, target, false⟩

/-- The paths of a backward class automaton added so far, as far as a table of 1 000 entries
remembers them: each entry holds a state's byte range and the state it leads to, and its
number. -/
abbrev SuffixTable := Array (Option ((Nat × Nat × Nat) × Nat))

/-- A state for a byte range leading to `next`: one the table still holds, or a new one. -/
def internSuffix (acc : SuffixTable × Nat) (r : Nat × Nat) : Grow (SuffixTable × Nat) := do
  let (table, next) := acc
  let key := (next, r.1, r.2)
  let slot := (fnv1a [next, r.1, r.2]).toNat % 1000
  if let some (some (k, id)) := table[slot]? then
    if k == key then return (table, id)
  let id ← addState 0
  pure (table.setIfInBounds slot (some (key, id)), id)

/-- A class compiled backward: a fork with a branch per UTF-8 sequence, each a path of states
from the sequence's first byte range to its last and on to the state every path ends in. -/
def backwardClassPiece (s : RangeSet) : Grow Piece := do
  let fork ← addState 0
  let stop ← addState 0
  let seqs := s.ranges.flatMap fun (lo, hi) => Text.utf8RangeSequences lo hi
  let addPath (table : SuffixTable) (seq : List (Nat × Nat)) : Grow SuffixTable := do
    let (table, _) ← seq.foldlM internSuffix (table, stop)
    addBranch
    pure table
  discard (seqs.foldlM addPath (Array.replicate 1000 none))
  pure ⟨fork, stop, false⟩

/-- A class: of ASCII characters only, one state; otherwise through its UTF-8 forms. -/
def classPiece (backward : Bool) (s : RangeSet) : Grow Piece :=
  if asciiOnly s then asciiClassPiece s
  else if backward then backwardClassPiece s
  else forwardClassPiece s

/-- A state of a trie of words: its transitions, a byte and the state it leads to each, and
the chunks they are grouped into. A word that ends here closes the chunk of the transitions
added before it; the transitions after the last closed chunk are kept in order of their
bytes. -/
structure TrieNode where
  arrows : Array (Nat × Nat) := #[]
  chunks : Array (Nat × Nat) := #[]

/-- Where the open chunk of transitions starts. -/
def TrieNode.openStart (n : TrieNode) : Nat := (n.chunks.back?.map (·.2)).getD 0

/-- Adds a word to a trie whose root is its state 0. A word that ends at a state whose words all
end there already adds nothing; a word is never matched past an earlier word it extends. -/
def trieInsert (nodes : Array TrieNode) (word : List Nat) : Array TrieNode :=
  let step (acc : Array TrieNode × Nat) (b : Nat) : Array TrieNode × Nat :=
    let (nodes, cur) := acc
    let n := nodes.getD cur ({} : TrieNode)
    let start := n.openStart
    let opened := n.arrows.extract start n.arrows.size
    match opened.find? (·.1 == b) with
    | some (_, next) => (nodes, next)
    | none =>
      let next := nodes.size
      let pos := start + (opened.filter (·.1 < b)).size
      let arrows := (n.arrows.extract 0 pos).push (b, next) ++ n.arrows.extract pos n.arrows.size
      ((nodes.setIfInBounds cur { n with arrows }).push {}, next)
  let (nodes, last) := word.foldl step (nodes, 0)
  let n := nodes.getD last ({} : TrieNode)
  if n.arrows.isEmpty && !n.chunks.isEmpty then nodes
  else nodes.setIfInBounds last { n with chunks := n.chunks.push (n.openStart, n.arrows.size) }

/-- Compiles a state of a trie whose words all end in `final`: each chunk of its transitions
becomes a state, with the states of the transitions' targets compiled first, and the state
itself a fork over the chunks with `final` between them. `fuel` bounds the depth. -/
def triePieceAt (nodes : Array TrieNode) : Nat → Nat → Grow Unit
  | 0, _ => pure ()
  | fuel + 1, i => do
    let n := nodes.getD i ({} : TrieNode)
    let chunks := (n.chunks.toList.map fun (a, b) => n.arrows.extract a b) ++
      [n.arrows.extract n.openStart n.arrows.size]
    let mut branches := chunks.length - 1
    for chunk in chunks do
      for (_, next) in chunk do
        if !(nodes.getD next ({} : TrieNode)).arrows.isEmpty then triePieceAt nodes fuel next
      if chunk.size == 1 then discard (addState 0)
      else if 1 < chunk.size then discard (addState (8 * chunk.size))
      if !chunk.isEmpty then branches := branches + 1
    discard (addState (4 * branches))

/-- A choice of literals, compiled as a trie of their bytes. -/
def triePiece (words : List (List Nat)) : Grow Piece := do
  let final ← addState 0
  let nodes := words.foldl trieInsert #[{}]
  let before ← get
  triePieceAt nodes (words.foldl (fun n w => Nat.max n w.length) 0 + 1) 0
  pure ⟨before.states, final, false⟩

/-- Pieces in sequence, each continued by the next. -/
def sequencePiece (parts : List (Grow Piece)) : Grow Piece :=
  match parts with
  | [] => singlePiece
  | first :: rest => do
    let p ← first
    rest.foldlM (fun (acc : Piece) part => do
      let next ← part
      acc.extend
      pure ⟨acc.start, next.stop, next.forks⟩) p

/-- More copies of a piece after `acc`, each continued by the next. -/
def repeatAfter (sub : Grow Piece) : Nat → Piece → Grow Piece
  | 0, acc => pure acc
  | k + 1, acc => do
    let next ← sub
    acc.extend
    repeatAfter sub k ⟨acc.start, next.stop, next.forks⟩

/-- Exactly `n` copies of a piece in sequence. -/
def exactlyPiece (sub : Grow Piece) (n : Nat) : Grow Piece :=
  match n with
  | 0 => singlePiece
  | k + 1 => do repeatAfter sub k (← sub)

/-- A choice of pieces, the first preferred: a fork with a branch to each, and a state that
each continues to. -/
def choicePiece (alts : List (Grow Piece)) : Grow Piece :=
  match alts with
  | [] => singlePiece
  | [a] => a
  | a :: b :: rest => do
    let first ← a
    let second ← b
    let fork ← addState 0
    let stop ← addState 0
    addBranch
    first.extend
    addBranch
    second.extend
    for alt in rest do
      let p ← alt
      addBranch
      p.extend
    pure ⟨fork, stop, false⟩

/-- A piece inside the states that record where a capture starts and ends. -/
def capturePiece (inner : Grow Piece) : Grow Piece := do
  let start ← addState 0
  let p ← inner
  let stop ← addState 0
  p.extend
  pure ⟨start, stop, false⟩

/-- At most `k` more optional copies of a piece after `prev`, each behind a fork that may skip
to `stop`. -/
def optionalAfter (sub : Grow Piece) : Nat → Piece → Grow Piece
  | 0, prev => do
    prev.extend
    pure prev
  | k + 1, prev => do
    discard (addState 0)
    let next ← sub
    prev.extend
    addBranch
    addBranch
    optionalAfter sub k next

/-- A repetition of a piece, `min` to `max` times; `nonEmpty` tells whether every copy
matches at least one byte. -/
def repeatPiece (sub : Grow Piece) (nonEmpty : Bool) (min : Nat) (max : Option Nat) :
    Grow Piece :=
  match min, max with
  | 0, some 1 => do
    let fork ← addState 0
    let p ← sub
    let stop ← addState 0
    addBranch
    addBranch
    p.extend
    pure ⟨fork, stop, false⟩
  | 0, none =>
    if nonEmpty then do
      let fork ← addState 0
      let p ← sub
      addBranch
      p.extend
      pure ⟨fork, fork, true⟩
    else do
      let p ← sub
      discard (addState 0)
      p.extend
      addBranch
      let skip ← addState 0
      let stop ← addState 0
      addBranch
      addBranch
      addBranch
      pure ⟨skip, stop, false⟩
  | 1, none => do
    let p ← sub
    let fork ← addState 0
    p.extend
    addBranch
    pure ⟨p.start, fork, true⟩
  | k + 2, none => do
    let front ← exactlyPiece sub (k + 1)
    let last ← sub
    let fork ← addState 0
    front.extend
    last.extend
    addBranch
    pure ⟨front.start, fork, true⟩
  | min, some max =>
    if min == max then exactlyPiece sub min
    else do
      let front ← exactlyPiece sub min
      let stop ← addState 0
      discard (optionalAfter sub (max - min) front)
      pure ⟨front.start, stop, false⟩

/-- The words of a choice whose every branch is a literal, when there are two or more. -/
def literalWords? (alts : List Shape) : Option (List (List Nat)) :=
  if alts.length < 2 then none
  else alts.mapM fun
    | .literal bytes => some bytes
    | _ => none

/-- The automaton of a shape, built forward or backward; captures get their own states when
`captures` holds. -/
def Shape.build (backward captures : Bool) : Shape → Grow Piece
  | .empty | .look _ => singlePiece
  | .literal bytes => literalPiece bytes
  | .cls s => classPiece backward s
  | .capture _ sub =>
    let inner := sub.build backward captures
    if captures then capturePiece inner else inner
  | .concat subs =>
    let parts := subs.attach.map fun ⟨x, _⟩ => x.build backward captures
    sequencePiece (if backward then parts.reverse else parts)
  | .alt subs =>
    match literalWords? subs with
    | some words => triePiece (if backward then words.map List.reverse else words)
    | none => choicePiece (subs.attach.map fun ⟨x, _⟩ => x.build backward captures)
  | .rep sub min max _ =>
    repeatPiece (sub.build backward captures) (sub.minLen.any (0 < ·)) min max

/-- Whether the automaton of a shape stays within `sizeLimit` bytes, built forward with its
captures and the whole pattern as capture 0, or backward without captures. Unless the shape
is anchored at the end it starts from, a loop over any byte comes first. -/
def Shape.fitsBuilt (backward : Bool) (shape : Shape) : Bool :=
  let anchored := if backward then shape.endsAnchored else shape.startsAnchored
  let run : Grow Unit := do
    let front ← if anchored then singlePiece else repeatPiece (asciiClassPiece (.ofRange 0 0x7F)) true 0 none
    let body ← if backward then shape.build true false else capturePiece (shape.build false true)
    discard (addState 0)
    body.extend
    front.extend
  match run.run {} with
  | .ok _ => true
  | .error _ => false

/-- Whether a shape is searched for as a plain set of words, with no automaton: a choice of at
least 3 000 literals, where a word search beats the automaton. -/
def Shape.isWordSet : Shape → Bool
  | .alt subs => 3000 ≤ subs.length && subs.all fun
    | .literal _ => true
    | _ => false
  | _ => false

/-- Whether a pattern compiles within the size limit: it is a set of words, or its automaton
fits both ways. -/
def Node.fits (n : Node) : Bool :=
  let shape := Shape.ofNode n
  shape.isWordSet || (shape.fitsBuilt false && shape.fitsBuilt true)

end ColumnSpec.Pattern
