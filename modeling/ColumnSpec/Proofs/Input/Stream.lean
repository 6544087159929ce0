import ColumnSpec.Input
/-!
# One input stream as a state machine

A stream over the lines of its text is described by the number of lines it has taken
(`InputStream.Tracks`); every operation keeps that description, and the lines are taken in
order (`runOps_tracks`).
-/
namespace ColumnSpec

namespace Text

theorem splitLines_go_line {l : List Nat} (hl : 10 ∉ l) (rest acc : List Nat) :
    splitLines.go (l ++ 10 :: rest) acc =
      dropCarriageReturn (acc.reverse ++ l) :: splitLines.go rest [] := by
  induction l generalizing acc with
  | nil => simp [splitLines.go]
  | cons b l ih =>
    have hb : b ≠ 10 := fun h => hl (h ▸ List.mem_cons_self)
    have hl' : 10 ∉ l := fun h => hl (List.mem_cons_of_mem b h)
    rw [List.cons_append, splitLines.go.eq_3 _ _ _ hb, ih hl']
    simp

theorem splitLines_line {l : List Nat} (hl : 10 ∉ l) (rest : List Nat) :
    splitLines (l ++ 10 :: rest) = dropCarriageReturn l :: splitLines rest := by
  simpa [splitLines] using splitLines_go_line hl rest []

theorem splitLines_go_last {l : List Nat} (hl : 10 ∉ l) (acc : List Nat) :
    splitLines.go l acc = if acc.isEmpty && l.isEmpty then [] else [acc.reverse ++ l] := by
  induction l generalizing acc with
  | nil => cases acc <;> simp [splitLines.go]
  | cons b l ih =>
    have hb : b ≠ 10 := fun h => hl (h ▸ List.mem_cons_self)
    have hl' : 10 ∉ l := fun h => hl (List.mem_cons_of_mem b h)
    rw [splitLines.go.eq_3 _ _ _ hb, ih hl']
    simp

theorem splitLines_last {l : List Nat} (hl : 10 ∉ l) (hne : l ≠ []) : splitLines l = [l] := by
  simp [splitLines, splitLines_go_last hl [], hne]

theorem splitLines_append {a : List Nat} (ha : a = [] ∨ a.getLast? = some 10) (b : List Nat) :
    splitLines (a ++ b) = splitLines a ++ splitLines b := by
  unfold splitLines
  suffices h : ∀ a acc, a.getLast? = some 10 →
      splitLines.go (a ++ b) acc = splitLines.go a acc ++ splitLines.go b [] by
    rcases ha with rfl | ha
    · simp [splitLines.go]
    · exact h a [] ha
  intro a
  induction a with
  | nil => simp
  | cons c a ih =>
    intro acc hlast
    by_cases hc : c = 10
    · subst hc
      rw [List.cons_append, splitLines.go.eq_2, splitLines.go.eq_2, List.cons_append]
      cases a with
      | nil => simp [splitLines.go]
      | cons d a =>
        rw [ih [] (by simpa using hlast)]
    · have ha : a.getLast? = some 10 := by
        cases a with
        | nil => simp_all
        | cons d a => simpa using hlast
      rw [List.cons_append, splitLines.go.eq_3 _ _ _ hc, splitLines.go.eq_3 _ _ _ hc, ih _ ha]

end Text

namespace InputStream

/-- A stream over `lines` that has taken the first `recordsRead` of them. -/
structure Tracks (lines : List String) (s : InputStream) : Prop where
  pending_eq : s.pending = lines.drop s.recordsRead
  read_le : s.recordsRead ≤ lines.length
  slot_positioned : s.pushback.isSome → s.state = .positioned
  exhausted_all : s.state = .exhausted → s.recordsRead = lines.length

/-- The lines of a byte text, as a stream reads them. -/
def linesOf (bytes : List Nat) : List String := (Text.splitLines bytes).map Text.decodeLine

theorem tracks_ofBytes (id : Nat) (bytes : List Nat) : Tracks (linesOf bytes) (ofBytes id bytes) :=
  ⟨by simp [ofBytes, linesOf], by simp [ofBytes], by simp [ofBytes], by simp [ofBytes]⟩

variable {lines : List String} {s : InputStream}

theorem advance_next (ht : Tracks lines s) (hs : s.pushback = none)
    (hk : s.recordsRead < lines.length) :
    s.advance = (true, { s with
      pending := lines.drop (s.recordsRead + 1), current := .ofText lines[s.recordsRead],
      state := .positioned, recordsRead := s.recordsRead + 1 }) := by
  have hst : s.state ≠ .exhausted := fun h => by have := ht.exhausted_all h; omega
  have hp : s.pending = lines[s.recordsRead] :: lines.drop (s.recordsRead + 1) := by
    rw [ht.pending_eq, List.drop_eq_getElem_cons hk]
  have hb : (s.state == .exhausted) = false := by simpa using hst
  simp only [advance, hs, hb, hp, Bool.false_eq_true, if_false]

theorem advance_last (ht : Tracks lines s) (hs : s.pushback = none)
    (hk : s.recordsRead = lines.length) (hst : s.state ≠ .exhausted) :
    s.advance = (false, { s with state := .exhausted, current := .ofText "" }) := by
  have hp : s.pending = [] := by rw [ht.pending_eq, hk, List.drop_length]
  simp [advance, hs, hst, hp]

theorem Tracks.advance (ht : Tracks lines s) : Tracks lines s.advance.2 := by
  cases hs : s.pushback with
  | some r =>
    rw [advance_slot hs]
    exact ⟨ht.pending_eq, ht.read_le, fun _ => rfl, by simp⟩
  | none =>
    by_cases hst : s.state = .exhausted
    · rwa [advance_exhausted hs hst]
    · rcases Nat.lt_or_ge s.recordsRead lines.length with hk | hk
      · rw [advance_next ht hs hk]
        exact ⟨by simp, by simp; omega, by simp, by simp⟩
      · have hn : s.recordsRead = lines.length := by have := ht.read_le; omega
        rw [advance_last ht hs hn hst]
        exact ⟨by simpa using ht.pending_eq, by simp [hn], by simp [hs], by simp [hn]⟩

theorem Tracks.unread {t : InputStream} (ht : Tracks lines s) (h : s.unread = .ok t) :
    Tracks lines t := by
  cases hs : s.pushback with
  | some r => rw [unread_full (by simp [hs])] at h; cases h
  | none =>
    by_cases hst : s.state = .positioned
    · rw [unread_positioned hs hst] at h
      cases h
      exact ⟨ht.pending_eq, ht.read_le, fun _ => hst, ht.exhausted_all⟩
    · rw [unread_idle hs hst] at h
      cases h
      exact ht

theorem Tracks.setCurrent (ht : Tracks lines s) (r : Record) : Tracks lines (s.setCurrent r) :=
  ⟨ht.pending_eq, ht.read_le, ht.slot_positioned, ht.exhausted_all⟩

/-- How each operation acts on a stream that has taken the first `recordsRead` of `lines`:
a push-back fails on a full slot, fills an empty one from a positioned stream and otherwise
does nothing; an advance serves the slot first, else takes the next line, else exhausts the
stream, after which it does nothing. -/
structure Steps (lines : List String) (s : InputStream) : Prop where
  unread_full : s.pushback.isSome → s.unread = .error (.doubleUnread s.id)
  unread_positioned : s.pushback = none → s.state = .positioned →
    s.unread = .ok { s with pushback := some s.current, current := .ofText "" }
  unread_idle : s.pushback = none → s.state ≠ .positioned → s.unread = .ok s
  advance_slot : ∀ r, s.pushback = some r →
    s.advance = (true, { s with current := r, state := .positioned, pushback := none })
  advance_next : s.pushback = none → ∀ hk : s.recordsRead < lines.length,
    s.advance = (true, { s with
      pending := lines.drop (s.recordsRead + 1), current := .ofText lines[s.recordsRead],
      state := .positioned, recordsRead := s.recordsRead + 1 })
  advance_last : s.pushback = none → s.recordsRead = lines.length → s.state ≠ .exhausted →
    s.advance = (false, { s with state := .exhausted, current := .ofText "" })
  advance_exhausted : s.pushback = none → s.state = .exhausted → s.advance = (false, s)

theorem Tracks.steps (ht : Tracks lines s) : Steps lines s :=
  ⟨unread_full, unread_positioned, unread_idle, fun _ => advance_slot, advance_next ht,
    advance_last ht, advance_exhausted⟩

/-- The operations on one stream: advance, push back, and set the current record. -/
inductive Op where
  | advance
  | unread
  | setCurrent (r : Record)

/-- One operation: the stream after it, a failed push-back leaving it as it was, and the
record an advance took from the text, if it took one; a record served again from the slot
is not taken from the text. -/
def Op.apply : Op → InputStream → InputStream × Option Record
  | .advance, s =>
    let (ok, t) := s.advance
    (t, if ok && s.pushback.isNone then some t.current else none)
  | .unread, s =>
    match s.unread with
    | .ok t => (t, none)
    | .error _ => (s, none)
  | .setCurrent r, s => (s.setCurrent r, none)

/-- Operations in turn: the stream after them, and the records the advances took from the
text, in order. -/
def runOps : List Op → InputStream → InputStream × List Record
  | [], s => (s, [])
  | op :: ops, s =>
    let (t, taken) := op.apply s
    let (u, rest) := runOps ops t
    (u, taken.toList ++ rest)

theorem Op.apply_tracks (op : Op) (ht : Tracks lines s) :
    Tracks lines (op.apply s).1 ∧ s.recordsRead ≤ (op.apply s).1.recordsRead ∧
      (lines.take s.recordsRead).map Record.ofText ++ (op.apply s).2.toList =
        (lines.take (op.apply s).1.recordsRead).map Record.ofText := by
  cases op with
  | advance =>
    refine ⟨ht.advance, ?_⟩
    cases hs : s.pushback with
    | some r => simp [apply, advance_slot hs, hs]
    | none =>
      by_cases hst : s.state = .exhausted
      · simp [apply, advance_exhausted hs hst]
      · rcases Nat.lt_or_ge s.recordsRead lines.length with hk | hk
        · simp only [apply, advance_next ht hs hk, hs, Option.isNone_none, Bool.and_self,
            if_true, Option.toList_some]
          rw [List.take_succ_eq_append_getElem hk, List.map_append]
          exact ⟨Nat.le_succ _, rfl⟩
        · simp [apply, advance_last ht hs (by have := ht.read_le; omega) hst]
  | unread =>
    simp only [apply]
    split
    · next t h =>
      have hr : t.recordsRead = s.recordsRead := by
        cases hs : s.pushback with
        | some r => rw [unread_full (by simp [hs])] at h; cases h
        | none =>
          by_cases hst : s.state = .positioned
          · rw [unread_positioned hs hst] at h; cases h; rfl
          · rw [unread_idle hs hst] at h; cases h; rfl
      exact ⟨ht.unread h, by simp [hr], by simp [hr]⟩
    · exact ⟨ht, Nat.le_refl _, by simp⟩
  | setCurrent r => exact ⟨ht.setCurrent r, Nat.le_refl _, by simp [apply, InputStream.setCurrent]⟩

/-- The state machine of an input stream. After any operations on a fresh stream over the
lines of a text, the stream has taken the first `k` lines, with `k` at most their number,
what is still to read being the rest; a record waits in the slot only while the stream is
positioned; every operation acts from there as `Steps` says; and the advances that took a
line from the text took the first `k` lines, in order, none lost and none twice. -/
theorem runOps_tracks (id : Nat) (bytes : List Nat) (ops : List Op) :
    Tracks (linesOf bytes) (runOps ops (ofBytes id bytes)).1 ∧
      Steps (linesOf bytes) (runOps ops (ofBytes id bytes)).1 ∧
      (runOps ops (ofBytes id bytes)).2 =
        ((linesOf bytes).take (runOps ops (ofBytes id bytes)).1.recordsRead).map Record.ofText := by
  -- The run is followed from any described stream, with the lines it took before.
  suffices h : ∀ s, Tracks (linesOf bytes) s →
      Tracks (linesOf bytes) (runOps ops s).1 ∧
        ((linesOf bytes).take s.recordsRead).map Record.ofText ++ (runOps ops s).2 =
          ((linesOf bytes).take (runOps ops s).1.recordsRead).map Record.ofText by
    obtain ⟨ht, htaken⟩ := h _ (tracks_ofBytes id bytes)
    exact ⟨ht, ht.steps, by simpa [ofBytes] using htaken⟩
  induction ops with
  | nil => intro s ht; simp [runOps, ht]
  | cons op ops ih =>
    intro s ht
    obtain ⟨ht₁, -, htaken₁⟩ := op.apply_tracks ht
    obtain ⟨ht₂, htaken₂⟩ := ih _ ht₁
    refine ⟨ht₂, ?_⟩
    simp only [runOps]
    rw [← List.append_assoc, htaken₁, htaken₂]

/-- A last line without a line feed keeps its carriage return: the first advance over the
bytes of `abc\r` serves `abc\r`. -/
theorem advance_keeps_last_carriageReturn :
    ((runOps [.advance] (ofBytes 1 [97, 98, 99, 13])).2.map Record.text) = ["abc\r"] := by
  decide

end InputStream

end ColumnSpec
