import ColumnSpec.Proofs.Clock.Calendar
import ColumnSpec.Proofs.Clock.Scan
import Mathlib.Data.List.Chain
/-!
# Reading back what was written

`Timestamp.parse?` reads back what `Timestamp.format` writes, by any template whose codes
give the date, hour, minute, second and microseconds (`parse_format`); `%e` before a field
of digits is the exception (`parse_format_day_run`).
-/
namespace ColumnSpec.Timestamp

/-- A piece of a template: a character that stands for itself, or a `%` code. -/
inductive Piece where
  | lit (c : Char)
  | code (x : Char)
deriving DecidableEq, Repr

def readableCodes : List Char :=
  ['%', 'n', 't', 'Y', 'm', 'B', 'd', 'e', 'j', 'H', 'I', 'p', 'M', 'S', 'f']

def digitCodes : List Char := ['Y', 'm', 'd', 'j', 'H', 'I', 'M', 'S', 'f']

namespace Piece

def chars : Piece → List Char
  | lit c => [c]
  | code x => ['%', x]

def text (p : Parts) : Piece → List Char
  | lit c => [c]
  | code x => codeText p x

/-- A character other than `%` or a digit, or a code whose text can be read back. -/
def allowed : Piece → Bool
  | lit c => c != '%' && !c.isDigit
  | code x => readableCodes.contains x

/-- Whether a piece is written as a run of digits. -/
def readsDigits : Piece → Bool
  | lit _ => false
  | code x => digitCodes.contains x

/-- What reading a piece's text sets in the fields. -/
def learn (p : Parts) (f : Fields) : Piece → Fields
  | code 'Y' => { f with year := p.date.year }
  | code 'm' | code 'B' => { f with month := p.date.month }
  | code 'd' | code 'e' => { f with day := p.date.day }
  | code 'j' => { f with yday := some p.yday }
  | code 'H' => { f with hour := p.hour }
  | code 'I' => { f with hour := p.hour % 12 }
  | code 'p' => { f with pm := some (decide (12 ≤ p.hour)) }
  | code 'M' => { f with minute := p.minute }
  | code 'S' => { f with second := p.second }
  | code 'f' => { f with micro := p.micro }
  | _ => f

end Piece

def template (ps : List Piece) : String := String.ofList (ps.flatMap Piece.chars)

/-- No day padded with a blank is followed directly by a field of digits. -/
def DayApart (ps : List Piece) : Prop :=
  ps.IsChain fun a b => a = .code 'e' → b.readsDigits = false

instance (ps : List Piece) : Decidable (DayApart ps) := by
  unfold DayApart
  infer_instance

/-- A template that gives a whole timestamp back: every piece can be read back, and together
they give the date, the hour, the minute, the second and the microseconds. -/
structure Readable (ps : List Piece) : Prop where
  allowed : ∀ pc ∈ ps, pc.allowed = true
  year : .code 'Y' ∈ ps
  date : ((.code 'm' ∈ ps ∨ .code 'B' ∈ ps) ∧ (.code 'd' ∈ ps ∨ .code 'e' ∈ ps)) ∨
    .code 'j' ∈ ps
  hour : .code 'H' ∈ ps ∨ .code 'I' ∈ ps
  ampm : .code 'I' ∈ ps → .code 'p' ∈ ps
  minute : .code 'M' ∈ ps
  second : .code 'S' ∈ ps
  micro : .code 'f' ∈ ps

/-- The parts of a timestamp whose year has four digits: every field fits its code, and the
day of the year is that of the date. -/
structure Parts.Valid (p : Parts) : Prop where
  year : 1000 ≤ p.date.year ∧ p.date.year ≤ 9999
  month : 1 ≤ p.date.month ∧ p.date.month ≤ 12
  day : 1 ≤ p.date.day ∧ p.date.day ≤ 31
  yday : p.yday = Calendar.dayOfYear p.date.year p.date.month p.date.day
  hour : p.hour < 24
  minute : p.minute < 60
  second : p.second < 60
  micro : p.micro < 1000000

/-- The hour that read fields stand for, on the 24-hour clock. -/
def Fields.hour24 (f : Fields) : Nat :=
  if f.pm == some true && f.hour < 12 then f.hour + 12 else f.hour

/-- The day number that read fields stand for: by the day of the year when one was read. -/
def Fields.days (f : Fields) : Int :=
  match f.yday with
  | some yd => Calendar.daysOfCivil f.year 1 1 + yd - 1
  | none => Calendar.daysOfCivil f.year f.month f.day

/-- The timestamp that read fields stand for, as `parse?` puts it together. -/
def Fields.micros (f : Fields) : Int :=
  (f.days * 86400 + f.hour24 * 3600 + f.minute * 60 + f.second) * microsPerSecond + f.micro

/-- `bs` is `rest` less some of its leading blanks. -/
def BlankDrop (rest bs : List Nat) : Prop :=
  ∃ pre, pre ++ bs = rest ∧ ∀ b ∈ pre, isBlankByte b = true

/-! ## The parts of a timestamp -/

theorem parts_valid {micros : Int}
    (hy : 1000 ≤ (parts micros).date.year ∧ (parts micros).date.year ≤ 9999) :
    (parts micros).Valid := by
  obtain ⟨hm1, hm2, hd1, hd2⟩ := Calendar.civilOfDays_bounds (micros / microsPerSecond / 86400)
  refine ⟨hy, ⟨hm1, hm2⟩, ⟨hd1, hd2⟩, rfl, ?_, ?_, ?_, ?_⟩ <;>
    simp only [parts, microsPerSecond] <;> omega

theorem parts_reassemble (micros : Int) :
    (Calendar.daysOfCivil (parts micros).date.year (parts micros).date.month
        (parts micros).date.day * 86400 + (parts micros).hour * 3600 +
      (parts micros).minute * 60 + (parts micros).second) * microsPerSecond +
      (parts micros).micro = micros := by
  have hdays := Calendar.daysOfCivil_civilOfDays (micros / microsPerSecond / 86400)
  simp only [parts] at hdays ⊢
  rw [hdays]
  simp only [microsPerSecond]
  omega

/-! ## Templates and their text -/

theorem render_cons_of_ne {c : Char} (hc : c ≠ '%') (p : Parts) (cs : List Char) :
    render p (c :: cs) = c :: render p cs :=
  render.eq_4 p c cs (fun h => absurd h hc) (fun _ _ h => absurd h hc)

theorem render_template {p : Parts} {ps : List Piece} (h : ∀ pc ∈ ps, pc.allowed = true) :
    render p (ps.flatMap Piece.chars) = ps.flatMap (Piece.text p) := by
  induction ps with
  | nil => simp [render]
  | cons pc ps ih =>
    have hrest := ih fun q hq => h q (.tail _ hq)
    cases pc with
    | lit c =>
      have hc : c ≠ '%' := (by simpa [Piece.allowed] using h _ (.head _) : c ≠ '%' ∧ _).1
      simp [Piece.chars, Piece.text, render_cons_of_ne hc, hrest]
    | code x => simp [Piece.chars, Piece.text, render, hrest]

theorem format_template (micros : Int) {ps : List Piece} (h : ∀ pc ∈ ps, pc.allowed = true) :
    (format micros (template ps)).toList = ps.flatMap (Piece.text (parts micros)) := by
  rw [format, template, String.toList_ofList, String.toList_ofList, render_template h]

/-! ## Bytes -/

theorem byte_high {b : Nat} (h : 0x80 ≤ b) :
    isBlankByte b = false ∧ b ≠ 37 ∧ isDigitByte b = false := by
  simp only [isBlankByte, isDigitByte, Bool.or_eq_false_iff, beq_eq_false_iff_ne,
    Bool.and_eq_false_iff, decide_eq_false_iff_not]
  omega

theorem utf8Code_high {n : Nat} (h : 0x80 ≤ n) : ∀ b ∈ Text.utf8Code n, 0x80 ≤ b := by
  intro b hb
  unfold Text.utf8Code at hb
  rw [if_neg (by omega)] at hb
  repeat' split at hb
  all_goals
    simp only [List.mem_cons, List.not_mem_nil, or_false] at hb
    omega

theorem utf8Char_cases (c : Char) :
    (c.toNat < 0x80 ∧ Text.utf8Char c = [c.toNat]) ∨
      (Text.utf8Char c ≠ [] ∧ ∀ b ∈ Text.utf8Char c, 0x80 ≤ b) := by
  by_cases h : c.toNat < 0x80
  · exact Or.inl ⟨h, utf8Char_of_lt h⟩
  · refine Or.inr ⟨?_, utf8Code_high (by omega)⟩
    unfold Text.utf8Char Text.utf8Code
    rw [if_neg h]
    repeat' split
    all_goals simp

theorem utf8Char_ne_nil (c : Char) : Text.utf8Char c ≠ [] := by
  rcases utf8Char_cases c with ⟨-, h⟩ | ⟨h, -⟩
  · simp [h]
  · exact h

/-- A text whose first byte is not a blank. -/
def Solid (T : List Nat) : Prop := ∃ c cs, T = c :: cs ∧ isBlankByte c = false

theorem Solid.dropWhile {T : List Nat} (h : Solid T) (rest : List Nat) :
    (T ++ rest).dropWhile isBlankByte = T ++ rest := by
  obtain ⟨c, cs, rfl, hc⟩ := h
  rw [List.cons_append, List.dropWhile_cons_of_neg (by simp [hc])]

theorem solid_zeroPad (n w : Nat) : Solid ((zeroPad n w).flatMap Text.utf8Char) := by
  rw [bytes_of_ascii fun c hc => toNat_lt_of_mem_zeroPad hc]
  have hne : zeroPad n w ≠ [] := by
    simp [zeroPad, Decimal.padDigits, Nat.toDigits_ne_nil]
  obtain ⟨c, cs, hcs⟩ := List.exists_cons_of_ne_nil hne
  have hd := Char.isDigit_iff_toNat.1 (isDigit_of_mem_zeroPad (hcs ▸ List.mem_cons_self))
  refine ⟨c.toNat, cs.map Char.toNat, by rw [hcs, List.map_cons], ?_⟩
  simp only [Char.reduceToNat] at hd
  simp only [isBlankByte, Bool.or_eq_false_iff, beq_eq_false_iff_ne]
  omega

/-! ## Skipping blanks -/

theorem BlankDrop.refl (rest : List Nat) : BlankDrop rest rest := ⟨[], rfl, by simp⟩

theorem BlankDrop.dropWhile (rest : List Nat) : BlankDrop rest (rest.dropWhile isBlankByte) :=
  ⟨rest.takeWhile isBlankByte, List.takeWhile_append_dropWhile,
    fun b hb => List.all_eq_true.1 List.all_takeWhile b hb⟩

theorem BlankDrop.dropWhile_eq {rest bs : List Nat} (h : BlankDrop rest bs) :
    bs.dropWhile isBlankByte = rest.dropWhile isBlankByte := by
  obtain ⟨pre, rfl, hpre⟩ := h
  induction pre with
  | nil => rfl
  | cons b pre ih =>
    rw [List.cons_append, List.dropWhile_cons_of_pos (hpre b (.head _)),
      ih fun x hx => hpre x (.tail _ hx)]

theorem BlankDrop.eq_of_solid {T rest bs : List Nat} (h : BlankDrop (T ++ rest) bs) (hT : Solid T) :
    bs = T ++ rest := by
  obtain ⟨pre, hpre, hb⟩ := h
  obtain ⟨c, cs, rfl, hc⟩ := hT
  cases pre with
  | nil => exact hpre
  | cons b pre =>
    obtain ⟨rfl, -⟩ := List.cons.inj hpre
    simp [hb b (.head _)] at hc

theorem BlankDrop.eq_nil {bs : List Nat} (h : BlankDrop [] bs) : bs = [] := by
  obtain ⟨pre, hpre, -⟩ := h
  exact (List.append_eq_nil_iff.1 hpre).2

theorem lead_of_any {T : List Nat}
    (h : T.head?.any (fun c => !isBlankByte c && !isDigitByte c) = true) :
    Solid T ∧ ∀ b ∈ T.head?, isDigitByte b = false := by
  cases T with
  | nil => simp at h
  | cons c cs =>
    simp only [List.head?_cons, Option.any_some, Bool.and_eq_true, Bool.not_eq_true'] at h
    exact ⟨⟨c, cs, rfl, h.1⟩, by simp [h.2]⟩

/-! ## The texts of the codes -/

theorem toString_year {y : Int} (h : 1000 ≤ y ∧ y ≤ 9999) :
    (toString y).toList = zeroPad y.toNat 4 := by
  rw [Int.toString_eq_repr, Int.repr_eq_if, if_pos (by omega), Nat.toList_repr,
    zeroPad_eq_toDigits (by decide) (by simp only [Nat.reducePow, Nat.reduceSub]; omega)]

theorem monthNames_bytes :
    monthNames.map (fun n => n.toList.flatMap Text.utf8Char) =
      monthNames.map (fun n => Text.textBytes n.toList) := by
  decide +kernel

theorem monthNames_lead :
    (monthNames.map fun n => n.toList.flatMap Text.utf8Char).all
      (fun u => u.head?.any fun c => !isBlankByte c && !isDigitByte c) = true := by
  decide

theorem monthName_bytes {m : Nat} (hm : 1 ≤ m ∧ m ≤ 12) :
    (monthNames.map fun n => Text.textBytes n.toList)[m - 1]? =
      some (((monthNames[m - 1]?).getD "").toList.flatMap Text.utf8Char) := by
  have hlt : m - 1 < monthNames.length := by simp [monthNames]; omega
  rw [← monthNames_bytes, List.getElem?_map, List.getElem?_eq_getElem hlt]
  rfl

theorem monthName_lead {m : Nat} (hm : 1 ≤ m ∧ m ≤ 12) :
    Solid (((monthNames[m - 1]?).getD "").toList.flatMap Text.utf8Char) ∧
      ∀ b ∈ (((monthNames[m - 1]?).getD "").toList.flatMap Text.utf8Char).head?,
        isDigitByte b = false := by
  have hlt : m - 1 < monthNames.length := by simp [monthNames]; omega
  apply lead_of_any
  refine List.all_eq_true.1 monthNames_lead _ (List.mem_map.2 ⟨_, ?_, rfl⟩)
  rw [List.getElem?_eq_getElem hlt, Option.getD_some]
  exact List.getElem_mem hlt

/-! ## One piece -/

theorem Piece.learn_lit (p : Parts) (f : Fields) (c : Char) : (Piece.lit c).learn p f = f := by
  simp [Piece.learn]

theorem scan_lit {p : Parts} {c : Char} (hc : (Piece.lit c).allowed = true) {rest bs : List Nat}
    (hbs : BlankDrop (((Piece.lit c).text p).flatMap Text.utf8Char ++ rest) bs) (f : Fields)
    (spec : List Nat) :
    ∃ bs', BlankDrop rest bs' ∧ scan f ((Piece.lit c).chars.flatMap Text.utf8Char ++ spec) bs =
      scan ((Piece.lit c).learn p f) spec bs' := by
  have hpc : c ≠ '%' := (by simpa [Piece.allowed] using hc : c ≠ '%' ∧ _).1
  simp only [Piece.text, Piece.chars, List.flatMap_cons, List.flatMap_nil, List.append_nil,
    Piece.learn_lit] at hbs ⊢
  by_cases hb : isBlankByte c.toNat = true
  · have hlt : c.toNat < 0x80 := by
      simp only [isBlankByte, Bool.or_eq_true, beq_iff_eq] at hb
      omega
    rw [utf8Char_of_lt hlt] at hbs ⊢
    refine ⟨rest.dropWhile isBlankByte, .dropWhile rest, ?_⟩
    rw [List.singleton_append, scan_blank hb, hbs.dropWhile_eq, List.singleton_append,
      List.dropWhile_cons_of_pos hb]
  · have hsame : ∀ b ∈ Text.utf8Char c, isBlankByte b = false ∧ b ≠ 37 := by
      rcases utf8Char_cases c with ⟨-, hu⟩ | ⟨-, hu⟩
      · rw [hu]
        intro b hb'
        rw [List.mem_singleton.1 hb']
        exact ⟨by simpa using hb, fun h => hpc (Char.toNat_inj.1 h)⟩
      · exact fun b hb' => ⟨(byte_high (hu b hb')).1, (byte_high (hu b hb')).2.1⟩
    have hsolid : Solid (Text.utf8Char c) := by
      obtain ⟨b, bs0, hu⟩ := List.exists_cons_of_ne_nil (utf8Char_ne_nil c)
      exact ⟨b, bs0, hu, (hsame b (hu ▸ .head _)).1⟩
    refine ⟨rest, .refl rest, ?_⟩
    rw [hbs.eq_of_solid hsolid, scan_append_same hsame]

theorem BlankDrop.step {T rest bs : List Nat} (hbs : BlankDrop (T ++ rest) bs) (hT : Solid T)
    {f f' : Fields} {x : Nat} (h : scan.scanCode f x (T ++ rest) = some (f', rest)) :
    ∃ bs', BlankDrop rest bs' ∧ scan.scanCode f x bs = some (f', bs') :=
  ⟨rest, .refl rest, by rw [hbs.eq_of_solid hT]; exact h⟩

theorem codeText_e_bytes {p : Parts} (hd : 1 ≤ p.date.day ∧ p.date.day < 10) :
    (codeText p 'e').flatMap Text.utf8Char =
      32 :: (zeroPad p.date.day 1).flatMap Text.utf8Char := by
  simp [codeText, hd.2,
    zeroPad_eq_toDigits (Nat.le_refl 1) (by simp; omega : 10 ^ (1 - 1) ≤ p.date.day)]
  rfl

theorem codeText_p_bytes (p : Parts) :
    (codeText p 'p').flatMap Text.utf8Char = if p.hour < 12 then [65, 77] else [80, 77] := by
  by_cases hh : p.hour < 12
  · simp [codeText, hh]
    rfl
  · simp [codeText, hh]
    rfl

theorem scanCode_piece {p : Parts} (hp : p.Valid) {x : Char}
    (hx : readableCodes.contains x = true) {rest bs : List Nat}
    (hnext : x = 'e' → p.date.day < 10 → ∀ b ∈ rest.head?, isDigitByte b = false)
    (hbs : BlankDrop ((codeText p x).flatMap Text.utf8Char ++ rest) bs) (f : Fields) :
    ∃ bs', BlankDrop rest bs' ∧
      scan.scanCode f x.toNat bs = some ((Piece.code x).learn p f, bs') := by
  obtain ⟨hyear, hmonth, hday, hyday, hhour, hminute, hsecond, hmicro⟩ := hp
  simp only [readableCodes, List.contains_cons, List.contains_nil, Bool.or_false, Bool.or_eq_true,
    beq_iff_eq] at hx
  rcases hx with rfl | rfl | rfl | rfl | rfl | rfl | rfl | rfl | rfl | rfl | rfl | rfl | rfl |
    rfl | rfl
  · -- `%%`
    rw [show (codeText p '%').flatMap Text.utf8Char = [37] from rfl] at hbs
    exact hbs.step ⟨37, [], rfl, rfl⟩ (by simp [scan.scanCode, Piece.learn])
  · -- `%n`: any run of blanks
    rw [show (codeText p 'n').flatMap Text.utf8Char = [10] from rfl] at hbs
    refine ⟨rest.dropWhile isBlankByte, .dropWhile rest, ?_⟩
    simp [scan.scanCode, hbs.dropWhile_eq, Piece.learn, isBlankByte]
  · -- `%t`
    rw [show (codeText p 't').flatMap Text.utf8Char = [9] from rfl] at hbs
    refine ⟨rest.dropWhile isBlankByte, .dropWhile rest, ?_⟩
    simp [scan.scanCode, hbs.dropWhile_eq, Piece.learn, isBlankByte]
  · -- `%Y`: four digits, no sign
    rw [show codeText p 'Y' = zeroPad p.date.year.toNat 4 from toString_year hyear] at hbs
    refine hbs.step (solid_zeroPad _ _) ?_
    have hsign : ∀ b ∈ ((zeroPad p.date.year.toNat 4).flatMap Text.utf8Char ++ rest).head?,
        b ≠ 45 := by
      obtain ⟨c, cs, hcs, -⟩ := solid_zeroPad p.date.year.toNat 4
      have hc : isDigitByte c = true := digit_of_mem_zeroPad (by rw [hcs]; exact List.mem_cons_self)
      rw [hcs]
      rintro b hb rfl
      simp only [List.cons_append, List.head?_cons, Option.mem_def, Option.some.injEq] at hb
      simp only [isDigitByte, Bool.and_eq_true, decide_eq_true_eq] at hc
      omega
    rw [show 'Y'.toNat = 89 from rfl, scanCode_year hsign (digits_zeroPad (by decide)
      (by simp only [Nat.reducePow]; omega) (Nat.le_refl 4) (Or.inl rfl))]
    simp [Piece.learn, Int.toNat_of_nonneg (by omega : 0 ≤ p.date.year)]
  · -- `%m`
    rw [show codeText p 'm' = zeroPad p.date.month 2 from rfl] at hbs
    refine hbs.step (solid_zeroPad _ _) ?_
    simp [scan.scanCode, Piece.learn,
      digitsIn_zeroPad_of_le (w := 2) (by decide) (by decide) hmonth.1 hmonth.2]
  · -- `%B`: the month's name
    have hlead := monthName_lead hmonth
    refine hbs.step hlead.1 ?_
    simp [scan.scanCode, Piece.learn, codeText,
      name_of_apart monthNames_apart (monthName_bytes hmonth), Nat.sub_add_cancel hmonth.1]
  · -- `%d`
    rw [show codeText p 'd' = zeroPad p.date.day 2 from rfl] at hbs
    refine hbs.step (solid_zeroPad _ _) ?_
    simp [scan.scanCode, Piece.learn,
      digitsIn_zeroPad_of_le (w := 2) (by decide) (by decide) hday.1 hday.2]
  · -- `%e`: a blank and one digit below 10, two digits from 10
    by_cases hd : p.date.day < 10
    · rw [codeText_e_bytes ⟨hday.1, hd⟩] at hbs
      refine ⟨rest, .refl rest, ?_⟩
      have hskip :
          bs.dropWhile isBlankByte = (zeroPad p.date.day 1).flatMap Text.utf8Char ++ rest := by
        rw [hbs.dropWhile_eq, List.cons_append, List.dropWhile_cons_of_pos rfl,
          (solid_zeroPad _ _).dropWhile]
      simp [scan.scanCode, Piece.learn, hskip,
        digitsIn_zeroPad (by decide) (by omega : p.date.day < 10 ^ 1) (by decide : 1 ≤ 2)
          (Or.inr (hnext rfl hd)) hday.1 hday.2]
    · rw [show codeText p 'e' = zeroPad p.date.day 2 by
        simp [codeText, hd,
          zeroPad_eq_toDigits (by decide : 0 < 2) (by simp; omega : 10 ^ (2 - 1) ≤ p.date.day)]]
        at hbs
      refine hbs.step (solid_zeroPad _ _) ?_
      simp [scan.scanCode, Piece.learn, (solid_zeroPad _ _).dropWhile,
        digitsIn_zeroPad_of_le (w := 2) (by decide) (by decide) hday.1 hday.2]
  · -- `%j`: three digits of the day of the year
    rw [show codeText p 'j' = zeroPad p.yday 3 from rfl] at hbs
    have hle := Calendar.dayOfYear_le (y := p.date.year) hmonth.2 hday.2
    have hge := Calendar.le_dayOfYear p.date.year p.date.month p.date.day
    refine hbs.step (solid_zeroPad _ _) ?_
    simp [scan.scanCode, Piece.learn, digitsIn_zeroPad_of_le (w := 3) (by decide) (by decide)
      (by rw [hyday]; omega : 1 ≤ p.yday) (by rw [hyday]; omega : p.yday ≤ 366)]
  · -- `%H`
    rw [show codeText p 'H' = zeroPad p.hour 2 from rfl] at hbs
    refine hbs.step (solid_zeroPad _ _) ?_
    simp [scan.scanCode, Piece.learn,
      digitsIn_zeroPad_of_le (w := 2) (by decide) (by decide) (Nat.zero_le _)
        (by omega : p.hour ≤ 23)]
  · -- `%I`: the hour on the 12-hour clock, 12 for 0
    rw [show codeText p 'I' = zeroPad (if p.hour % 12 = 0 then 12 else p.hour % 12) 2 from rfl]
      at hbs
    have hI : (if p.hour % 12 = 0 then 12 else p.hour % 12) % 12 = p.hour % 12 := by split <;> omega
    refine hbs.step (solid_zeroPad _ _) ?_
    simp only [scan.scanCode, Piece.learn]
    rw [digitsIn_zeroPad_of_le (w := 2) (by decide) (by decide) (by split <;> omega)
      (by split <;> omega)]
    simp [hI]
  · -- `%p`: `AM` or `PM`
    rw [codeText_p_bytes] at hbs
    by_cases hh : p.hour < 12
    · rw [if_pos hh] at hbs
      have hname : name ["AM", "PM"] (65 :: 77 :: rest) = some (0, rest) :=
        name_of_apart ampm_apart (w := [65, 77]) (by decide) rest
      refine hbs.step ⟨65, [77], rfl, rfl⟩ ?_
      simp [scan.scanCode, Piece.learn, hname, Nat.not_le.2 hh]
    · rw [if_neg hh] at hbs
      have hname : name ["AM", "PM"] (80 :: 77 :: rest) = some (1, rest) :=
        name_of_apart ampm_apart (w := [80, 77]) (by decide) rest
      refine hbs.step ⟨80, [77], rfl, rfl⟩ ?_
      simp [scan.scanCode, Piece.learn, hname, Nat.le_of_not_lt hh]
  · -- `%M`
    rw [show codeText p 'M' = zeroPad p.minute 2 from rfl] at hbs
    refine hbs.step (solid_zeroPad _ _) ?_
    simp [scan.scanCode, Piece.learn,
      digitsIn_zeroPad_of_le (w := 2) (by decide) (by decide) (Nat.zero_le _)
        (by omega : p.minute ≤ 59)]
  · -- `%S`
    rw [show codeText p 'S' = zeroPad p.second 2 from rfl] at hbs
    refine hbs.step (solid_zeroPad _ _) ?_
    simp [scan.scanCode, Piece.learn,
      digitsIn_zeroPad_of_le (w := 2) (by decide) (by decide) (Nat.zero_le _)
        (by omega : p.second ≤ 60)]
  · -- `%f`: six digits of microseconds
    rw [show codeText p 'f' = zeroPad p.micro 6 from rfl] at hbs
    refine hbs.step (solid_zeroPad _ _) ?_
    simp [scan.scanCode, Piece.learn, digits_zeroPad (by decide) (by omega : p.micro < 10 ^ 6)
      (Nat.le_refl 6) (Or.inl rfl)]

theorem readableCodes_ascii : readableCodes.all (fun x => x.toNat < 0x80) = true := by decide

theorem scan_piece {p : Parts} (hp : p.Valid) {pc : Piece} (hpc : pc.allowed = true)
    {rest bs : List Nat}
    (hnext : pc = .code 'e' → p.date.day < 10 → ∀ b ∈ rest.head?, isDigitByte b = false)
    (hbs : BlankDrop ((pc.text p).flatMap Text.utf8Char ++ rest) bs) (f : Fields)
    (spec : List Nat) :
    ∃ bs', BlankDrop rest bs' ∧
      scan f (pc.chars.flatMap Text.utf8Char ++ spec) bs = scan (pc.learn p f) spec bs' := by
  cases pc with
  | lit c => exact scan_lit hpc hbs f spec
  | code x =>
    obtain ⟨bs', hbs', hcode⟩ := scanCode_piece hp hpc (fun hx => hnext (by rw [hx])) hbs f
    refine ⟨bs', hbs', ?_⟩
    have hx : x.toNat < 0x80 :=
      of_decide_eq_true (List.all_eq_true.1 readableCodes_ascii x (List.contains_iff_mem.1 hpc))
    rw [show (Piece.code x).chars.flatMap Text.utf8Char = [37, x.toNat] by
      simp [Piece.chars, utf8Char_of_lt hx]; rfl]
    exact scan_code hcode

theorem head_text_not_digit {p : Parts} (hp : p.Valid) {b : Piece} (hb : b.allowed = true)
    (hd : b.readsDigits = false) (hday : p.date.day < 10) (X : List Nat) :
    ∀ c ∈ ((b.text p).flatMap Text.utf8Char ++ X).head?, isDigitByte c = false := by
  cases b with
  | lit c =>
    have hc : c.isDigit = false := (by simpa [Piece.allowed] using hb : c ≠ '%' ∧ _).2
    obtain ⟨d, ds, hu⟩ := List.exists_cons_of_ne_nil (utf8Char_ne_nil c)
    simp only [Piece.text, List.flatMap_cons, List.flatMap_nil, List.append_nil, hu,
      List.cons_append, List.head?_cons, Option.mem_def, Option.some.injEq]
    rintro e rfl
    rcases utf8Char_cases c with ⟨-, h⟩ | ⟨-, h⟩
    · obtain ⟨rfl, -⟩ := List.cons.inj (hu.symm.trans h)
      rw [isDigitByte_toNat, hc]
    · exact (byte_high (h d (hu ▸ .head _))).2.2
  | code x =>
    -- the codes that are not runs of digits
    have hx : x = '%' ∨ x = 'n' ∨ x = 't' ∨ x = 'B' ∨ x = 'e' ∨ x = 'p' := by
      simp only [Piece.allowed, Piece.readsDigits, readableCodes, digitCodes, List.contains_cons,
        List.contains_nil, Bool.or_false, Bool.or_eq_true, Bool.or_eq_false_iff, beq_iff_eq,
        beq_eq_false_iff_ne] at hb hd
      rcases hb with rfl | rfl | rfl | rfl | rfl | rfl | rfl | rfl | rfl | rfl | rfl | rfl | rfl |
        rfl | rfl <;> simp_all
    rcases hx with rfl | rfl | rfl | rfl | rfl | rfl
    · show ∀ c ∈ ([37] ++ X).head?, isDigitByte c = false
      simp [isDigitByte]
    · show ∀ c ∈ ([10] ++ X).head?, isDigitByte c = false
      simp [isDigitByte]
    · show ∀ c ∈ ([9] ++ X).head?, isDigitByte c = false
      simp [isDigitByte]
    · obtain ⟨⟨c, cs, hcs, -⟩, hhead⟩ := monthName_lead hp.month
      rw [hcs] at hhead
      simpa [Piece.text, codeText, hcs] using hhead
    · rw [Piece.text, codeText_e_bytes ⟨hp.day.1, hday⟩]
      simp [isDigitByte]
    · rw [Piece.text, codeText_p_bytes]
      split <;> simp [isDigitByte]

theorem scan_pieces {p : Parts} (hp : p.Valid) {ps : List Piece}
    (hall : ∀ pc ∈ ps, pc.allowed = true) (hapart : p.date.day < 10 → DayApart ps)
    {bs : List Nat} (f : Fields)
    (hbs : BlankDrop ((ps.flatMap (Piece.text p)).flatMap Text.utf8Char) bs) :
    scan f ((ps.flatMap Piece.chars).flatMap Text.utf8Char) bs =
      some (ps.foldl (Piece.learn p) f, []) := by
  induction ps generalizing f bs with
  | nil =>
    rw [hbs.eq_nil]
    rfl
  | cons pc ps ih =>
    simp only [List.flatMap_cons, List.flatMap_append] at hbs ⊢
    -- the piece after a day padded with a blank starts with a byte that is not a digit
    have hnext : pc = .code 'e' → p.date.day < 10 →
        ∀ b ∈ ((ps.flatMap (Piece.text p)).flatMap Text.utf8Char).head?,
          isDigitByte b = false := by
      intro he hd
      cases ps with
      | nil => simp
      | cons q ps =>
        simp only [List.flatMap_cons, List.flatMap_append]
        exact head_text_not_digit hp (hall q (.tail _ (.head _)))
          ((List.isChain_cons_cons.1 (hapart hd)).1 he) hd _
    obtain ⟨bs', hbs', heq⟩ := scan_piece hp (hall pc (.head _)) hnext hbs f _
    rw [heq, List.foldl_cons]
    exact ih (fun q hq => hall q (.tail _ hq)) (fun hd => (hapart hd).tail) _ hbs'

/-! ## The fields read -/

theorem Piece.learn_eq (p : Parts) (f : Fields) (pc : Piece) :
    pc.learn p f =
      { year := if pc = .code 'Y' then p.date.year else f.year
        month := if pc = .code 'm' ∨ pc = .code 'B' then p.date.month else f.month
        day := if pc = .code 'd' ∨ pc = .code 'e' then p.date.day else f.day
        yday := if pc = .code 'j' then some p.yday else f.yday
        hour := if pc = .code 'H' then p.hour else if pc = .code 'I' then p.hour % 12 else f.hour
        minute := if pc = .code 'M' then p.minute else f.minute
        second := if pc = .code 'S' then p.second else f.second
        micro := if pc = .code 'f' then p.micro else f.micro
        pm := if pc = .code 'p' then some (decide (12 ≤ p.hour)) else f.pm } := by
  cases pc with
  | lit c => simp [Piece.learn]
  | code x =>
    unfold Piece.learn
    split <;> simp_all

/-- A field ends up with what the last piece to set it gave it: when every piece keeps it or
gives it a value with property `Q`, it has `Q` at the end if it had it at the start or some
piece sets it. -/
theorem foldl_learn_of_last {α : Type} (g : Fields → α) (Q : α → Prop) {p : Parts}
    {ps : List Piece} {f : Fields}
    (hkeep : ∀ pc ∈ ps, ∀ f, g (pc.learn p f) = g f ∨ Q (g (pc.learn p f)))
    (hset : Q (g f) ∨ ∃ pc ∈ ps, ∀ f, Q (g (pc.learn p f))) :
    Q (g (ps.foldl (Piece.learn p) f)) := by
  induction ps generalizing f with
  | nil => simpa using hset
  | cons pc ps ih =>
    rw [List.foldl_cons]
    apply ih (fun q hq => hkeep q (.tail _ hq))
    rcases hset with h | ⟨q, hq, hQ⟩
    · rcases hkeep pc (.head _) f with h' | h'
      · exact Or.inl (h' ▸ h)
      · exact Or.inl h'
    · rcases List.mem_cons.1 hq with rfl | hq
      · exact Or.inl (hQ f)
      · exact Or.inr ⟨q, hq, hQ⟩

theorem foldl_learn_eq {α : Type} (g : Fields → α) (v : α) {p : Parts} {ps : List Piece}
    {f : Fields} (hkeep : ∀ pc ∈ ps, ∀ f, g (pc.learn p f) = g f ∨ g (pc.learn p f) = v)
    (hset : ∃ pc ∈ ps, ∀ f, g (pc.learn p f) = v) : g (ps.foldl (Piece.learn p) f) = v :=
  foldl_learn_of_last g (· = v) hkeep (Or.inr hset)

theorem foldl_learn_keep {α : Type} (g : Fields → α) {p : Parts} {ps : List Piece} {f : Fields}
    (hkeep : ∀ pc ∈ ps, ∀ f, g (pc.learn p f) = g f) : g (ps.foldl (Piece.learn p) f) = g f :=
  foldl_learn_of_last g (· = g f) (fun pc hpc f => Or.inl (hkeep pc hpc f)) (Or.inl rfl)

section Fields

variable {p : Parts} {ps : List Piece}

theorem foldl_learn_hour24 (hp : p.Valid) (hps : Readable ps) :
    (ps.foldl (Piece.learn p) {}).hour24 = p.hour := by
  have hh := hp.hour
  by_cases hpm : Piece.code 'p' ∈ ps
  · -- with `AM` or `PM` read, either hour is put back on the 24-hour clock
    have hpm' : (ps.foldl (Piece.learn p) {}).pm = some (decide (12 ≤ p.hour)) :=
      foldl_learn_eq Fields.pm _ (fun pc _ f => by simp only [Piece.learn_eq]; split_ifs <;> simp)
        ⟨_, hpm, fun f => by simp [Piece.learn]⟩
    have hhour : (ps.foldl (Piece.learn p) {}).hour = p.hour ∨
        (ps.foldl (Piece.learn p) {}).hour = p.hour % 12 :=
      foldl_learn_of_last Fields.hour (fun h => h = p.hour ∨ h = p.hour % 12)
        (fun pc _ f => by simp only [Piece.learn_eq]; split_ifs <;> simp)
        (Or.inr (hps.hour.elim (fun h => ⟨_, h, fun f => by simp [Piece.learn]⟩)
          (fun h => ⟨_, h, fun f => by simp [Piece.learn]⟩)))
    unfold Fields.hour24
    rw [hpm']
    rcases hhour with h | h <;> rw [h] <;> split_ifs with hc <;> simp at hc <;> omega
  · -- without them no `%I` is read, and `%H` gives the hour itself
    have hI : Piece.code 'I' ∉ ps := fun h => hpm (hps.ampm h)
    have hpm' : (ps.foldl (Piece.learn p) {}).pm = none :=
      foldl_learn_keep Fields.pm fun pc hpc f => by
        simp only [Piece.learn_eq, if_neg (show pc ≠ .code 'p' from fun h => hpm (h ▸ hpc))]
    have hhour : (ps.foldl (Piece.learn p) {}).hour = p.hour :=
      foldl_learn_eq Fields.hour _
        (fun pc hpc f => by
          simp only [Piece.learn_eq, if_neg (show pc ≠ .code 'I' from fun h => hI (h ▸ hpc))]
          split_ifs <;> simp)
        (hps.hour.elim (fun h => ⟨_, h, fun f => by simp [Piece.learn]⟩) (fun h => absurd h hI))
    simp [Fields.hour24, hpm', hhour]

theorem foldl_learn_days (hp : p.Valid) (hps : Readable ps) :
    (ps.foldl (Piece.learn p) {}).days =
      Calendar.daysOfCivil p.date.year p.date.month p.date.day := by
  have hyear : (ps.foldl (Piece.learn p) {}).year = p.date.year :=
    foldl_learn_eq Fields.year _ (fun pc _ f => by simp only [Piece.learn_eq]; split_ifs <;> simp)
      ⟨_, hps.year, fun f => by simp [Piece.learn]⟩
  by_cases hj : Piece.code 'j' ∈ ps
  · have hyday : (ps.foldl (Piece.learn p) {}).yday = some p.yday :=
      foldl_learn_eq Fields.yday _ (fun pc _ f => by simp only [Piece.learn_eq]; split_ifs <;> simp)
        ⟨_, hj, fun f => by simp [Piece.learn]⟩
    rw [Fields.days, hyday, hyear, hp.yday,
      Calendar.daysOfCivil_eq_dayOfYear _ hp.month hp.day.1]
  · have hyday : (ps.foldl (Piece.learn p) {}).yday = none :=
      foldl_learn_keep Fields.yday fun pc hpc f => by
        simp only [Piece.learn_eq, if_neg (show pc ≠ .code 'j' from fun h => hj (h ▸ hpc))]
    obtain ⟨hm, hd⟩ := hps.date.resolve_right hj
    have hmonth : (ps.foldl (Piece.learn p) {}).month = p.date.month :=
      foldl_learn_eq Fields.month _
        (fun pc _ f => by simp only [Piece.learn_eq]; split_ifs <;> simp)
        (hm.elim (fun h => ⟨_, h, fun f => by simp [Piece.learn]⟩)
          (fun h => ⟨_, h, fun f => by simp [Piece.learn]⟩))
    have hday : (ps.foldl (Piece.learn p) {}).day = p.date.day :=
      foldl_learn_eq Fields.day _ (fun pc _ f => by simp only [Piece.learn_eq]; split_ifs <;> simp)
        (hd.elim (fun h => ⟨_, h, fun f => by simp [Piece.learn]⟩)
          (fun h => ⟨_, h, fun f => by simp [Piece.learn]⟩))
    rw [Fields.days, hyday, hyear, hmonth, hday]

theorem foldl_learn_micros (hp : p.Valid) (hps : Readable ps) :
    (ps.foldl (Piece.learn p) {}).micros =
      (Calendar.daysOfCivil p.date.year p.date.month p.date.day * 86400 + p.hour * 3600 +
        p.minute * 60 + p.second) * microsPerSecond + p.micro := by
  have hminute : (ps.foldl (Piece.learn p) {}).minute = p.minute :=
    foldl_learn_eq Fields.minute _ (fun pc _ f => by simp only [Piece.learn_eq]; split_ifs <;> simp)
      ⟨_, hps.minute, fun f => by simp [Piece.learn]⟩
  have hsecond : (ps.foldl (Piece.learn p) {}).second = p.second :=
    foldl_learn_eq Fields.second _ (fun pc _ f => by simp only [Piece.learn_eq]; split_ifs <;> simp)
      ⟨_, hps.second, fun f => by simp [Piece.learn]⟩
  have hmicro : (ps.foldl (Piece.learn p) {}).micro = p.micro :=
    foldl_learn_eq Fields.micro _ (fun pc _ f => by simp only [Piece.learn_eq]; split_ifs <;> simp)
      ⟨_, hps.micro, fun f => by simp [Piece.learn]⟩
  rw [Fields.micros, foldl_learn_days hp hps, foldl_learn_hour24 hp hps, hminute, hsecond, hmicro]

end Fields

/-! ## Reading back -/

theorem parse?_eq_micros {text tmpl : String} {F : Fields}
    (h : scan {} (tmpl.toList.flatMap Text.utf8Char) (text.toList.flatMap Text.utf8Char) =
      some (F, [])) :
    parse? text tmpl = some F.micros := by
  simp only [parse?, h]
  cases hy : F.yday <;> simp [Fields.micros, Fields.days, Fields.hour24, hy]

theorem parse_format {micros : Int}
    (hy : 1000 ≤ (parts micros).date.year ∧ (parts micros).date.year ≤ 9999)
    {ps : List Piece} (hps : Readable ps) (hday : (parts micros).date.day < 10 → DayApart ps) :
    parse? (format micros (template ps)) (template ps) = some micros := by
  have hp := parts_valid hy
  have hspec : (template ps).toList = ps.flatMap Piece.chars := String.toList_ofList
  have hscan : scan {} ((template ps).toList.flatMap Text.utf8Char)
      ((format micros (template ps)).toList.flatMap Text.utf8Char) =
        some (ps.foldl (Piece.learn (parts micros)) {}, []) := by
    rw [hspec, format_template micros hps.allowed]
    exact scan_pieces hp hps.allowed hday {} (.refl _)
  rw [parse?_eq_micros hscan, foldl_learn_micros hp hps, parts_reassemble]

theorem parse_format_twelve_hour :
    parse? (format 1000000000123456 "%Y-%m-%e %I:%M:%S.%f %p") "%Y-%m-%e %I:%M:%S.%f %p" =
      some 1000000000123456 := by
  have hy : 1000 ≤ (parts 1000000000123456).date.year ∧
      (parts 1000000000123456).date.year ≤ 9999 := by decide +kernel
  have hps : Readable [.code 'Y', .lit '-', .code 'm', .lit '-', .code 'e', .lit ' ', .code 'I',
      .lit ':', .code 'M', .lit ':', .code 'S', .lit '.', .code 'f', .lit ' ', .code 'p'] := by
    constructor <;> decide
  have hday : (parts 1000000000123456).date.day < 10 →
      DayApart [.code 'Y', .lit '-', .code 'm', .lit '-', .code 'e', .lit ' ', .code 'I', .lit ':',
        .code 'M', .lit ':', .code 'S', .lit '.', .code 'f', .lit ' ', .code 'p'] :=
    fun _ => by decide
  have h := parse_format hy hps hday
  rwa [show template [.code 'Y', .lit '-', .code 'm', .lit '-', .code 'e', .lit ' ', .code 'I',
      .lit ':', .code 'M', .lit ':', .code 'S', .lit '.', .code 'f', .lit ' ', .code 'p'] =
      "%Y-%m-%e %I:%M:%S.%f %p" by decide +kernel] at h

/-- A day below 10 padded with a blank, right before the hour: the day's digit and the
hour's first digit are read together as the day 90, which is out of range. -/
theorem parse_format_day_run :
    format 1000000000123456 "%Y-%m-%e%H:%M:%S.%f" = "2001-09- 901:46:40.123456" ∧
      parse? "2001-09- 901:46:40.123456" "%Y-%m-%e%H:%M:%S.%f" = none := by
  constructor <;> decide +kernel

end ColumnSpec.Timestamp
