import ColumnSpec.Proofs.Run.Append
import ColumnSpec.Proofs.Run.Breaks
/-!
# Routing of output lines

Seen from one target each output operation is one `LineOp`. From outputs in `Good` each
target holds what its own machine makes of what it saw (`runOps_routes`).
-/
namespace ColumnSpec

theorem Buffer.eq_empty {b : Buffer} (hd : b.dirty = false) (h : b.chars ≠ [] → b.dirty = true) :
    b = {} := by
  have hc : b.chars = [] := Classical.byContradiction fun hc => by simp [h hc] at hd
  cases b
  simp_all

namespace Outputs

open Script (outputKeys lookup_map_snd lookup_cons_ne)

/-! ## One target alone -/

/-- One target: the line it is building and the lines it wrote, last first. -/
structure Line where
  buffer : Buffer := {}
  written : List String := []

/-- What an operation does to one target. -/
inductive LineOp where
  /-- Nothing. -/
  | keep
  /-- The buffer is changed. -/
  | edit (f : Buffer → Buffer)
  /-- The buffer is written as a line, even when empty, and left empty and clean. -/
  | emit
  /-- The buffer is written as a line if it is dirty. -/
  | flush
  /-- The buffer is dropped. -/
  | clear

namespace Line

def apply (l : Line) : LineOp → Line
  | .keep => l
  | .edit f => { l with buffer := f l.buffer }
  | .emit => ⟨{}, l.buffer.text :: l.written⟩
  | .flush => if l.buffer.dirty then ⟨{}, l.buffer.text :: l.written⟩ else l
  | .clear => { l with buffer := {} }

def applyAll (l : Line) (ops : List LineOp) : Line := ops.foldl apply l

theorem apply_flush_flush (l : Line) : (l.apply .flush).apply .flush = l.apply .flush := by
  by_cases hd : l.buffer.dirty = true
  · simp [apply, hd]
  · simp [apply, hd]

end Line

/-! ## Targets in the outputs -/

/-- The lines written to a target, last first; a stream without a sink has none. -/
def linesOf (o : Outputs) : Target → List String
  | .stream n => (o.sinks.lookup n).getD []
  | .stderr => o.errLines

def view (o : Outputs) (t : Target) : Line := ⟨o.bufferOf t, o.linesOf t⟩

@[simp] theorem view_buffer (o : Outputs) (t : Target) : (o.view t).buffer = o.bufferOf t := rfl

@[simp] theorem view_written (o : Outputs) (t : Target) : (o.view t).written = o.linesOf t := rfl

/-- Whether a target can be selected: standard error, or a stream numbered 1 to 8 that has a
sink. -/
def configured (o : Outputs) : Target → Bool
  | .stream n => 1 ≤ n && n ≤ maxStreams && o.sinks.any (·.1 == n)
  | .stderr => true

def lineCount : List (Nat × List String) → Nat
  | [] => 0
  | q :: rest => q.2.length + lineCount rest

def sinkLines (o : Outputs) : Nat := lineCount o.sinks + o.errLines.length

/-- The invariant of the outputs. -/
structure Good (o : Outputs) : Prop where
  /-- The streams with a sink are in ascending order, each once. -/
  sorted : (outputKeys o).Pairwise (· < ·)
  /-- Stream 1 has a sink. -/
  first : o.configured (.stream 1) = true
  /-- The active target can be selected. -/
  active : o.configured o.active = true
  /-- So can every target that owns a buffer. -/
  owners : ∀ t ∈ o.buffers.map (·.1), o.configured t = true
  /-- A buffer that holds text is dirty. -/
  dirty : ∀ t, (o.bufferOf t).chars ≠ [] → (o.bufferOf t).dirty = true
  /-- The count of lines written is the number of lines in the sinks. -/
  lines : o.lines = o.sinkLines

variable {o : Outputs}

theorem Good.nodup (hg : Good o) : (outputKeys o).Nodup := hg.sorted.imp Nat.ne_of_lt

theorem configured_eq_of_keys {o' : Outputs} (h : outputKeys o' = outputKeys o) :
    o'.configured = o.configured := by
  have hany : ∀ (p : Outputs) (n : Nat), p.sinks.any (·.1 == n) = (outputKeys p).any (· == n) := by
    intro p n
    simp [outputKeys, List.any_map, Function.comp_def]
  funext t
  cases t with
  | stream n => simp only [configured, hany, h]
  | stderr => rfl

theorem configured_stream_iff {n : Nat} :
    o.configured (.stream n) = true ↔ 1 ≤ n ∧ n ≤ maxStreams ∧ n ∈ outputKeys o := by
  simp [configured, outputKeys, and_assoc]

/-! ## Buffers -/

@[simp] theorem linesOf_setBuffer (t u : Target) (b : Buffer) :
    (o.setBuffer t b).linesOf u = o.linesOf u := by
  cases u <;> rfl

theorem good_setBuffer (hg : Good o) {t : Target} (ht : o.configured t = true) {b : Buffer}
    (hb : b.chars ≠ [] → b.dirty = true) : Good (o.setBuffer t b) where
  sorted := hg.sorted
  first := hg.first
  active := hg.active
  owners := by
    intro u hu
    rcases mem_keys_setBuffer_ins hu with rfl | hu
    · exact ht
    · exact hg.owners u hu
  dirty := by
    intro u
    rw [bufferOf_setBuffer]
    split
    · exact hb
    · exact hg.dirty u
  lines := hg.lines

/-! ## Sinks -/

section Sinks

variable {n : Nat} {line : String} {g : Nat × List String → Nat × List String}

/-- `g` writes `line` to the sink of stream `n` and leaves the others. -/
def WritesTo (n : Nat) (line : String) (g : Nat × List String → Nat × List String) : Prop :=
  ∀ m ls, g (m, ls) = if m == n then (m, line :: ls) else (m, ls)

theorem WritesTo.fst (hg : WritesTo n line g) (q : Nat × List String) : (g q).1 = q.1 := by
  rcases q with ⟨m, ls⟩
  rw [hg]
  split <;> rfl

theorem WritesTo.getD_lookup (hg : WritesTo n line g) {l : List (Nat × List String)}
    (hn : n ∈ l.map (·.1)) (m : Nat) :
    ((l.map g).lookup m).getD [] = if m = n then line :: (l.lookup m).getD [] else (l.lookup m).getD [] := by
  rw [lookup_map_snd hg.fst]
  by_cases hm : m = n
  · subst hm
    obtain ⟨v, hv⟩ : ∃ v, l.lookup m = some v := by
      obtain ⟨q, hq, hqm⟩ := List.mem_map.1 hn
      cases hl : l.lookup m with
      | some v => exact ⟨v, rfl⟩
      | none =>
        have := List.lookup_eq_none_iff.1 hl q hq
        simp [hqm] at this
    simp [hv, hg m v]
  · have hval : ∀ v, (g (m, v)).2 = v := fun v => by simp [hg m v, hm]
    simp [hval, hm]

theorem WritesTo.lineCount_map (hg : WritesTo n line g) :
    ∀ {l : List (Nat × List String)}, (l.map (·.1)).Nodup → n ∈ l.map (·.1) →
      lineCount (l.map g) = lineCount l + 1
  | [], _, hn => absurd hn List.not_mem_nil
  | (m, ls) :: l, hnd, hn => by
    obtain ⟨hm, hnd⟩ := List.nodup_cons.1 hnd
    simp only [List.map_cons, lineCount, hg m ls]
    by_cases hmn : m = n
    · subst hmn
      -- no other entry is the stream's, so the rest is unchanged
      have hrest : l.map g = l := by
        refine (List.map_congr_left fun q hq => ?_).trans (List.map_id _)
        rcases q with ⟨k, ks⟩
        have hk : k ≠ m := fun h => hm (h ▸ List.mem_map_of_mem (f := (·.1)) hq)
        simp [hg k ks, hk]
      simp only [beq_self_eq_true, if_true, List.length_cons, hrest]
      omega
    · have hn' : n ∈ l.map (·.1) := by
        simp only [List.map_cons, List.mem_cons] at hn
        exact hn.resolve_left (Ne.symm hmn)
      simp only [beq_false_of_ne hmn, Bool.false_eq_true, if_false, hg.lineCount_map hnd hn']
      omega

end Sinks

theorem emit_spec (hg : Good o) {t : Target} (ht : o.configured t = true) (line : String) :
    ∃ o', o.emit t line = .ok o' ∧ Good o' ∧ o'.active = o.active ∧
      outputKeys o' = outputKeys o ∧
      ∀ u, o'.view u = if u = t then ⟨o.bufferOf u, line :: o.linesOf u⟩ else o.view u := by
  cases t with
  | stderr =>
    refine ⟨_, rfl, ⟨hg.sorted, hg.first, hg.active, hg.owners, hg.dirty, ?_⟩, rfl, rfl, ?_⟩
    · simp only [sinkLines, List.length_cons, hg.lines]
      omega
    · intro u
      cases u <;> rfl
  | stream n =>
    have hn := (configured_stream_iff.1 ht).2.2
    have hany : o.sinks.any (·.1 == n) = true := by
      simp only [configured, Bool.and_eq_true] at ht
      exact ht.2
    have hw : WritesTo n line fun x => if x.1 == n then (x.1, line :: x.2) else (x.1, x.2) :=
      fun _ _ => rfl
    have hkeys := Script.emit_keys (emit_stream line hany)
    -- the stream numbers stay, so whatever could be selected still can
    have hconf := configured_eq_of_keys hkeys
    refine ⟨_, emit_stream line hany, ⟨?_, ?_, ?_, ?_, hg.dirty, ?_⟩, rfl, hkeys, fun u => ?_⟩
    · exact hkeys ▸ hg.sorted
    · exact hconf ▸ hg.first
    · exact hconf ▸ hg.active
    · exact hconf ▸ hg.owners
    · simp only [sinkLines, hw.lineCount_map hg.nodup hn, hg.lines]
      omega
    · cases u with
      | stream m =>
        simp only [view, linesOf, hw.getD_lookup hn, Target.stream.injEq]
        split <;> rfl
      | stderr => rfl

theorem flushIfDirty_spec (hg : Good o) {t : Target} (ht : o.configured t = true) :
    ∃ o', o.flushIfDirty t = .ok o' ∧ Good o' ∧ o'.active = o.active ∧
      outputKeys o' = outputKeys o ∧
      ∀ u, o'.view u = if u = t then (o.view u).apply .flush else o.view u := by
  -- a buffer left as it is: a flush of the target changes nothing if its buffer is clean
  have hsame : (o.bufferOf t).dirty = false →
      ∀ u, o.view u = if u = t then (o.view u).apply .flush else o.view u := by
    intro hd u
    split
    · next hu =>
      subst hu
      simp [view, Line.apply, hd]
    · rfl
  unfold flushIfDirty
  cases hb : o.buffers.lookup t with
  | none => exact ⟨o, rfl, hg, rfl, rfl, hsame (by simp [bufferOf, hb])⟩
  | some b =>
    have hbuf : o.bufferOf t = b := by simp [bufferOf, hb]
    by_cases hd : b.dirty = true
    · simp only [hd, if_true]
      have hg₁ := good_setBuffer hg ht (b := {}) (by simp)
      obtain ⟨o', he, hg', hact, hkeys, hview⟩ := emit_spec hg₁ ht b.text
      refine ⟨o', he, hg', hact, hkeys, fun u => ?_⟩
      rw [hview]
      split
      · next hu =>
        subst hu
        simp [view, Line.apply, hbuf, hd]
      · next hu => simp [view, hu]
    · exact ⟨o, by simp [hd], hg, rfl, rfl, hsame (by simpa [hbuf] using hd)⟩

theorem foldlM_flushIfDirty_spec :
    ∀ (ts : List Target) {o : Outputs}, Good o → (∀ t ∈ ts, o.configured t = true) →
      ∃ o', ts.foldlM (fun (o : Outputs) t => o.flushIfDirty t) o = .ok o' ∧ Good o' ∧
        o'.active = o.active ∧ outputKeys o' = outputKeys o ∧
        ∀ u, o'.view u = if u ∈ ts then (o.view u).apply .flush else o.view u
  | [], o, hg, _ => ⟨o, rfl, hg, rfl, rfl, fun _ => rfl⟩
  | t :: ts, o, hg, hts => by
    obtain ⟨o₁, h₁, hg₁, hact₁, hkeys₁, hview₁⟩ := flushIfDirty_spec hg (hts t (.head _))
    have hts₁ : ∀ u ∈ ts, o₁.configured u = true := fun u hu => by
      rw [configured_eq_of_keys hkeys₁]
      exact hts u (.tail _ hu)
    obtain ⟨o', h', hg', hact', hkeys', hview'⟩ := foldlM_flushIfDirty_spec ts hg₁ hts₁
    refine ⟨o', by rw [List.foldlM_cons, h₁]; exact h', hg', hact'.trans hact₁,
      hkeys'.trans hkeys₁, fun u => ?_⟩
    rw [hview', hview₁]
    by_cases hu : u = t
    · subst hu
      by_cases hmem : u ∈ ts
      · simp [hmem, Line.apply_flush_flush]
      · simp [hmem]
    · by_cases hmem : u ∈ ts <;> simp [hu, hmem]

/-! ## The operations one by one -/

theorem select_of_configured {t : Target} (h : o.configured t = true) :
    o.select t = if t = o.active then .ok o
      else o.flushIfDirty o.active >>= fun o₁ => .ok { o₁ with active := t } := by
  cases t with
  | stream n =>
    have hcheck : (!(1 ≤ n && n ≤ maxStreams) || !o.sinks.any (·.1 == n)) = false := by
      simp only [configured, Bool.and_eq_true] at h
      simp [h.1.1, h.1.2, h.2]
    simp only [select, hcheck, Bool.false_eq_true, if_false, beq_iff_eq]
    rfl
  | stderr =>
    simp only [select, beq_iff_eq]
    rfl

theorem select_of_not_configured {n : Nat} (h : o.configured (.stream n) = false) :
    o.select (.stream n) = .error (.unknownOutputStream n) := by
  have h' : (1 ≤ n && n ≤ maxStreams && o.sinks.any (·.1 == n)) = false := h
  have hcheck : (!(1 ≤ n && n ≤ maxStreams) || !o.sinks.any (·.1 == n)) = true := by
    rw [← Bool.not_and, h']
    rfl
  simp only [select, hcheck]
  rfl

theorem eq_stream_of_not_configured {t : Target} (h : o.configured t = false) :
    ∃ n, t = .stream n := by
  cases t with
  | stream n => exact ⟨n, rfl⟩
  | stderr => exact absurd h (by simp [configured])

theorem good_discardAll (hg : Good o) : Good o.discardAll :=
  ⟨hg.sorted, hg.first, hg.first, by simp [discardAll], by simp [discardAll, bufferOf], hg.lines⟩

theorem view_discardAll (t : Target) : o.discardAll.view t = ⟨{}, o.linesOf t⟩ := by
  cases t <;> rfl

theorem endCycle_spec (hg : Good o) :
    ∃ o', o.endCycle = .ok o' ∧ Good o' ∧ o'.active = .stream 1 ∧ (∀ t, o'.bufferOf t = {}) ∧
      ∀ t, o'.view t = (o.view t).apply .flush := by
  obtain ⟨o₁, h₁, hg₁, -, -, hview₁⟩ :=
    foldlM_flushIfDirty_spec (o.buffers.map (·.1)) hg hg.owners
  have hend : o.endCycle = .ok o₁.discardAll := by
    rw [endCycle, h₁]
    rfl
  refine ⟨_, hend, good_discardAll hg₁, rfl, fun _ => rfl, fun t => ?_⟩
  -- the buffer a flush leaves is empty: written out if dirty, else empty already
  have hbuf : ((o.view t).apply .flush).buffer = {} := by
    by_cases hd : (o.bufferOf t).dirty = true
    · simp [view, Line.apply, hd]
    · simp only [view, Line.apply, hd, Bool.false_eq_true, if_false]
      exact Buffer.eq_empty (by simpa using hd) (hg.dirty t)
  rw [view_discardAll, ← hbuf]
  by_cases hmem : t ∈ o.buffers.map (·.1)
  · have hlines : o₁.linesOf t = ((o.view t).apply .flush).written := by
      simpa only [hmem, if_true, view_written] using congrArg Line.written (hview₁ t)
    rw [hlines]
  · -- a target without a buffer has nothing to write
    have hlines : o₁.linesOf t = o.linesOf t := by
      simpa only [hmem, if_false, view_written] using congrArg Line.written (hview₁ t)
    have hnone : o.buffers.lookup t = none := by
      rw [List.lookup_eq_none_iff]
      intro p hp
      simpa [bne_iff_ne] using fun h : t = p.1 => hmem (h ▸ List.mem_map_of_mem hp)
    have hempty : o.bufferOf t = {} := by simp [bufferOf, hnone]
    simp [view, Line.apply, hempty, hlines]

/-! ## Adding a stream -/

theorem mem_keys_ins {n k : Nat} :
    ∀ {l : List (Nat × List String)}, k ∈ (withStreams.ins n l).map (·.1) ↔ k = n ∨ k ∈ l.map (·.1)
  | [] => by simp [withStreams.ins]
  | (m, t) :: rest => by
    unfold withStreams.ins
    split
    · simp
    · split
      · next h =>
        have hnm : n = m := beq_iff_eq.1 h
        subst hnm
        simp
      · simp only [List.map_cons, List.mem_cons, mem_keys_ins]
        exact or_left_comm

theorem getD_lookup_ins (n m : Nat) :
    ∀ {l : List (Nat × List String)}, l.Pairwise (fun a b => a.1 < b.1) →
      ((withStreams.ins n l).lookup m).getD [] = (l.lookup m).getD []
  | [], _ => by
    simp only [withStreams.ins, lookup_cons_eq, List.lookup_nil]
    split <;> rfl
  | (k, t) :: rest, hl => by
    unfold withStreams.ins
    split
    · next hlt =>
      simp only [lookup_cons_eq]
      by_cases hm : m = n
      · -- the new stream comes before all others, so it had no lines
        subst hm
        have hrest : rest.lookup m = none := by
          rw [List.lookup_eq_none_iff]
          intro p hp
          have := (List.pairwise_cons.1 hl).1 p hp
          simp only [bne_iff_ne, ne_eq]
          omega
        simp [Nat.ne_of_lt hlt, hrest]
      · simp [hm]
    · split
      · rfl
      · simp only [lookup_cons_eq]
        split
        · rfl
        · exact getD_lookup_ins n m (List.pairwise_cons.1 hl).2

theorem lineCount_ins (n : Nat) :
    ∀ l : List (Nat × List String), lineCount (withStreams.ins n l) = lineCount l
  | [] => rfl
  | (m, t) :: rest => by
    unfold withStreams.ins
    split
    · simp [lineCount]
    · split
      · rfl
      · simp [lineCount, lineCount_ins n rest]

theorem configured_add {t : Target} (n : Nat) (h : o.configured t = true) :
    ({ o with sinks := withStreams.ins n o.sinks } : Outputs).configured t = true := by
  cases t with
  | stream m =>
    obtain ⟨h1, h8, hm⟩ := configured_stream_iff.1 h
    exact configured_stream_iff.2 ⟨h1, h8, mem_keys_ins.2 (.inr hm)⟩
  | stderr => rfl

theorem good_add (hg : Good o) (n : Nat) : Good { o with sinks := withStreams.ins n o.sinks } where
  sorted := List.pairwise_map.2 (withStreams_ins_sorted n (List.pairwise_map.1 hg.sorted))
  first := configured_add n hg.first
  active := configured_add n hg.active
  owners := fun t ht => configured_add n (hg.owners t ht)
  dirty := hg.dirty
  lines := by
    rw [hg.lines, sinkLines, sinkLines, lineCount_ins]

theorem view_add (hg : Good o) (n : Nat) (t : Target) :
    ({ o with sinks := withStreams.ins n o.sinks } : Outputs).view t = o.view t := by
  cases t with
  | stream m =>
    simp only [view, linesOf, getD_lookup_ins n m (List.pairwise_map.1 hg.sorted)]
    rfl
  | stderr => rfl

/-! ## The operations -/

/-- A change to the active buffer. -/
inductive Edit where
  /-- Text placed as a data field: at a column or after the line, fitted to a width. -/
  | place (p : Placement) (text : String) (align : Text.Align) (pad fs : Char)
  /-- Text written from a column. -/
  | putAt (col : Nat) (text : List Char)
  /-- Text added at the end. -/
  | append (text : List Char)

def Edit.run : Edit → Buffer → Buffer
  | .place p text align pad fs, b => b.place p text align pad fs
  | .putAt col text, b => b.putAt col text
  | .append text, b => b.append text

theorem Edit.dirty_or_eq (e : Edit) (b : Buffer) : (e.run b).dirty = true ∨ e.run b = b := by
  cases e with
  | place p text align pad fs =>
    cases p with
    | discard => exact .inr rfl
    | _ => exact .inl rfl
  | putAt col text => exact .inl rfl
  | append text => exact .inl rfl

/-- The operations of the output side. -/
inductive Op where
  /-- An edit of the active buffer. -/
  | edit (e : Edit)
  /-- Makes a target active (`OUTSTREAM`, `STDERR`). -/
  | select (t : Target)
  /-- `WRITE`. -/
  | write
  /-- `NOWRITE`. -/
  | nowrite
  /-- Takes the active line for `REDO`. -/
  | redoTake
  /-- The end of a cycle. -/
  | endCycle
  /-- Drops every line. -/
  | discardAll
  /-- Gives stream `n` a sink. -/
  | add (n : Nat)

namespace Op

def apply : Op → Outputs → Except Fault Outputs
  | .edit e, o => .ok (o.modifyBuffer e.run)
  | .select t, o => o.select t
  | .write, o => o.write
  | .nowrite, o => .ok o.nowrite
  | .redoTake, o => .ok o.redoTake.2
  | .endCycle, o => o.endCycle
  | .discardAll, o => .ok o.discardAll
  | .add n, o => .ok { o with sinks := withStreams.ins n o.sinks }

/-- What target `t` sees of an operation that succeeds, `act` being the active target. -/
def seen (act t : Target) : Op → LineOp
  | .edit e => if t = act then .edit e.run else .keep
  | .select u => if u ≠ act ∧ t = act then .flush else .keep
  | .write => if t = act then .emit else .keep
  | .nowrite | .redoTake => if t = act then .clear else .keep
  | .endCycle => .flush
  | .discardAll => .clear
  | .add _ => .keep

/-- One operation; one that fails leaves the outputs as they were. -/
def step (op : Op) (o : Outputs) : Outputs :=
  match op.apply o with
  | .ok o' => o'
  | .error _ => o

/-- What target `t` sees of an operation on `o`: nothing if it fails. -/
def seenOn (op : Op) (o : Outputs) (t : Target) : LineOp :=
  match op.apply o with
  | .ok _ => op.seen o.active t
  | .error _ => .keep

end Op

def runOps : List Op → Outputs → Outputs
  | [], o => o
  | op :: ops, o => runOps ops (op.step o)

/-- What target `t` sees of a run of operations, in order. -/
def seenAlong (t : Target) : List Op → Outputs → List LineOp
  | [], _ => []
  | op :: ops, o => op.seenOn o t :: seenAlong t ops (op.step o)

/-! ## One step -/

theorem Good.setActive (hg : Good o) {t : Target} (ht : o.configured t = true) :
    Good { o with active := t } :=
  ⟨hg.sorted, hg.first, ht, hg.owners, hg.dirty, hg.lines⟩

theorem view_setBuffer_active (b : Buffer) (u : Target) :
    (o.setBuffer o.active b).view u = if u = o.active then ⟨b, o.linesOf u⟩ else o.view u := by
  by_cases hu : u = o.active <;> simp [view, hu]

theorem good_edit (hg : Good o) (e : Edit) : Good (o.modifyBuffer e.run) := by
  refine good_setBuffer hg hg.active fun hc => ?_
  rcases e.dirty_or_eq o.buffer with hd | he
  · exact hd
  · rw [he] at hc ⊢
    exact hg.dirty o.active hc

/-- What a step can do. From `Good` outputs an operation either selects a stream that cannot be
selected, and fails, or succeeds, keeps `Good`, and acts on every target as the target sees
it. -/
theorem Op.apply_cases (hg : Good o) (op : Op) :
    (∃ o', op.apply o = .ok o' ∧ Good o' ∧ ∀ t, o'.view t = (o.view t).apply (op.seen o.active t)) ∨
      ∃ n, op = .select (.stream n) ∧ o.configured (.stream n) = false ∧
        op.apply o = .error (.unknownOutputStream n) := by
  -- the buffer of the active target replaced, as the active target sees it
  have hactive : ∀ (b : Buffer) (f : LineOp), (o.view o.active).apply f = ⟨b, o.linesOf o.active⟩ →
      ∀ u, (o.setBuffer o.active b).view u = (o.view u).apply (if u = o.active then f else .keep) := by
    intro b f hf u
    rw [view_setBuffer_active]
    split
    · next hu =>
      subst hu
      exact hf.symm
    · rfl
  cases op with
  | edit e => exact .inl ⟨_, rfl, good_edit hg e, hactive _ (.edit e.run) rfl⟩
  | select t =>
    cases hc : o.configured t with
    | false =>
      obtain ⟨n, rfl⟩ := eq_stream_of_not_configured hc
      exact .inr ⟨n, rfl, hc, select_of_not_configured hc⟩
    | true =>
      refine .inl ?_
      by_cases ha : t = o.active
      · refine ⟨o, by rw [Op.apply, select_of_configured hc, if_pos ha], hg, fun u => ?_⟩
        simp [Op.seen, ha, Line.apply]
      · -- the target left behind has its buffer written if dirty
        obtain ⟨o₁, h₁, hg₁, hact₁, hkeys₁, hview₁⟩ := flushIfDirty_spec hg hg.active
        refine ⟨{ o₁ with active := t }, ?_, hg₁.setActive ?_, fun u => ?_⟩
        · rw [Op.apply, select_of_configured hc, if_neg ha, h₁]
          rfl
        · rw [configured_eq_of_keys hkeys₁]
          exact hc
        · have hv : ({ o₁ with active := t } : Outputs).view u = o₁.view u := rfl
          rw [hv, hview₁]
          by_cases hu : u = o.active <;> simp [Op.seen, ha, hu, Line.apply]
  | write =>
    have hg₁ := good_setBuffer hg hg.active (b := {}) (by simp)
    obtain ⟨o', he, hg', -, -, hview⟩ := emit_spec hg₁ hg.active o.buffer.text
    refine .inl ⟨o', by rw [Op.apply, Outputs.write, he], hg', fun u => ?_⟩
    rw [hview]
    by_cases hu : u = o.active
    · subst hu
      simp [Op.seen, Line.apply, view, buffer]
    · simp [Op.seen, hu, view, Line.apply]
  | nowrite => exact .inl ⟨_, rfl, good_setBuffer hg hg.active (by simp), hactive {} .clear rfl⟩
  | redoTake => exact .inl ⟨_, rfl, good_setBuffer hg hg.active (by simp), hactive {} .clear rfl⟩
  | endCycle =>
    obtain ⟨o', he, hg', -, -, hview⟩ := endCycle_spec hg
    exact .inl ⟨o', he, hg', hview⟩
  | discardAll =>
    exact .inl ⟨_, rfl, good_discardAll hg, fun u => by rw [view_discardAll]; rfl⟩
  | add n => exact .inl ⟨_, rfl, good_add hg n, view_add hg n⟩

theorem Op.step_good (hg : Good o) (op : Op) :
    Good (op.step o) ∧ ∀ t, (op.step o).view t = (o.view t).apply (op.seenOn o t) := by
  rcases op.apply_cases hg with ⟨o', h, hg', hview⟩ | ⟨n, -, -, h⟩
  · simp only [Op.step, Op.seenOn, h]
    exact ⟨hg', hview⟩
  · simp only [Op.step, Op.seenOn, h]
    exact ⟨hg, fun _ => rfl⟩

theorem Op.apply_error_iff (hg : Good o) (op : Op) (e : Fault) :
    op.apply o = .error e ↔
      ∃ n, op = .select (.stream n) ∧ o.configured (.stream n) = false ∧ e = .unknownOutputStream n := by
  rcases op.apply_cases hg with ⟨o', h, -, -⟩ | ⟨n, rfl, hc, h⟩
  · rw [h]
    constructor
    · intro he
      cases he
    · rintro ⟨n, rfl, hc, -⟩
      rw [Op.apply, select_of_not_configured hc] at h
      cases h
  · rw [h]
    constructor
    · intro he
      cases he
      exact ⟨n, rfl, hc, rfl⟩
    · rintro ⟨m, hm, -, rfl⟩
      cases hm
      rfl

/-! ## Runs -/

theorem runOps_good :
    ∀ (ops : List Op) {o : Outputs}, Good o →
      Good (runOps ops o) ∧ ∀ t, (runOps ops o).view t = (o.view t).applyAll (seenAlong t ops o)
  | [], _, hg => ⟨hg, fun _ => rfl⟩
  | op :: ops, o, hg => by
    obtain ⟨hg₁, hview₁⟩ := op.step_good hg
    obtain ⟨hg', hview'⟩ := runOps_good ops hg₁
    refine ⟨hg', fun t => ?_⟩
    rw [runOps, hview', hview₁]
    rfl

theorem good_fresh : Good ({} : Outputs) where
  sorted := List.pairwise_singleton _ _
  first := rfl
  active := rfl
  owners := by simp
  dirty := by simp [bufferOf]
  lines := rfl

theorem view_fresh (t : Target) : ({} : Outputs).view t = {} := by
  cases t with
  | stream n =>
    simp only [view, linesOf, lookup_cons_eq, List.lookup_nil, bufferOf]
    split <;> rfl
  | stderr => rfl

/-! ## Lines are routed -/

/-- Output targets never lose, duplicate or misroute a line. After any operations on fresh
outputs the outputs are `Good`: the active target and every target that owns a buffer can be
selected, a buffer that holds text is dirty, and the count of lines written is the number of
lines in the sinks. An operation then fails exactly when it selects a stream that cannot be
selected; the end of a cycle and dropping every line succeed and leave every buffer empty and
clean, with stream 1 active. And every target holds what its own machine makes of the
operations it saw: its lines are the texts its own buffer held when it was written, each
written once. -/
theorem runOps_routes (ops : List Op) :
    Good (runOps ops {}) ∧
      (∀ (op : Op) (e : Fault), op.apply (runOps ops {}) = .error e ↔
        ∃ n, op = .select (.stream n) ∧ (runOps ops {}).configured (.stream n) = false ∧
          e = .unknownOutputStream n) ∧
      (∀ op ∈ [Op.endCycle, Op.discardAll], ∃ o', op.apply (runOps ops {}) = .ok o' ∧
        o'.active = .stream 1 ∧ ∀ t, o'.bufferOf t = {}) ∧
      ∀ t, (runOps ops {}).view t = ({} : Line).applyAll (seenAlong t ops {}) := by
  obtain ⟨hg, hview⟩ := runOps_good ops good_fresh
  refine ⟨hg, Op.apply_error_iff hg, fun op hop => ?_, fun t => by rw [hview, view_fresh]⟩
  simp only [List.mem_cons, List.not_mem_nil, or_false] at hop
  rcases hop with rfl | rfl
  · obtain ⟨o', he, -, hact, hbuf, -⟩ := endCycle_spec hg
    exact ⟨o', he, hact, hbuf⟩
  · exact ⟨_, rfl, rfl, fun _ => rfl⟩

/-- With a line begun on stream 1 and stream 2 given a sink and selected, stream 3 still has no
sink, and selecting it fails. -/
theorem select_without_sink :
    (Op.select (.stream 3)).apply (runOps [.edit (.append ['a']), .add 2, .select (.stream 2)] {}) =
      .error (.unknownOutputStream 3) :=
  ((runOps_routes [.edit (.append ['a']), .add 2, .select (.stream 2)]).2.1 _ _).2
    ⟨3, rfl, by decide, rfl⟩

end Outputs

end ColumnSpec
