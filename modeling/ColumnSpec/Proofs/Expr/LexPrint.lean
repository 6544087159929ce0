import ColumnSpec.Proofs.Expr.Print
import Mathlib.Data.List.TakeWhile
/-!
# Reading printed tokens back

The lexer reads the spelling of writable tokens back as those tokens (`tokensOf_spell`),
so it reads a printable expression back as its printed tokens (`tokens_print`).
-/
namespace ColumnSpec.Lexer

open Token

/-- What follows the text of a token in a spelling: nothing, or a blank and more. -/
def Gap (sep : List Char) : Prop := sep = [] ∨ ∃ more, sep = ' ' :: more

/-! ## Characters -/

theorem isBlank_eq_false {c : Char} (h₁ : 33 ≤ c.toNat) (h₂ : c.toNat ≤ 126) :
    Text.isBlank c = false := by
  unfold Text.isBlank
  simp only [Bool.or_eq_false_iff, Bool.and_eq_false_iff, decide_eq_false_iff_not,
    beq_eq_false_iff_ne]
  omega

theorem toNat_of_isDigit {c : Char} (h : c.isDigit) : 48 ≤ c.toNat ∧ c.toNat ≤ 57 :=
  Char.isDigit_iff_toNat.mp h

theorem toNat_of_isAlpha {c : Char} (h : c.isAlpha) :
    65 ≤ c.toNat ∧ c.toNat ≤ 90 ∨ 97 ≤ c.toNat ∧ c.toNat ≤ 122 := by
  -- a letter is an upper-case or a lower-case one, each a range of code points
  have h' : (decide ('A'.val ≤ c.val ∧ c.val ≤ 'Z'.val) ||
      ('a'.val ≤ c.val && c.val ≤ 'z'.val)) = true := h
  simpa [UInt32.le_iff_toNat_le] using h'

theorem toNat_of_callChar {d : Char} (h : (d.isLower || d.isDigit || d == '_') = true) :
    48 ≤ d.toNat ∧ d.toNat ≤ 57 ∨ d.toNat = 95 ∨ 97 ≤ d.toNat ∧ d.toNat ≤ 122 := by
  have h' : (('a'.val ≤ d.val && d.val ≤ 'z'.val) || ('0'.val ≤ d.val && d.val ≤ '9'.val) ||
      d == '_') = true := h
  simp [UInt32.le_iff_toNat_le] at h'
  rcases h' with (h | h) | rfl
  · omega
  · omega
  · decide

theorem toLower_of_callChar {d : Char} (h : (d.isLower || d.isDigit || d == '_') = true) :
    d.toLower = d := by
  have hr := toNat_of_callChar h
  unfold Char.toLower
  rw [dif_neg]
  simp [UInt32.le_iff_toNat_le]
  omega

theorem isNameChar_of_callChar {d : Char} (h : (d.isLower || d.isDigit || d == '_') = true) :
    isNameChar d := by
  show (((d.isUpper || d.isLower) || d.isDigit) || d == '_') = true
  simp only [Bool.or_eq_true] at h ⊢
  tauto

/-! ## Scanning up to a blank -/

theorem takeWhile_gap {p : Char → Bool} {w sep : List Char} (hw : ∀ d ∈ w, p d)
    (hp : p ' ' = false) (hsep : Gap sep) : (w ++ sep).takeWhile p = w := by
  rw [List.takeWhile_append_of_pos hw]
  rcases hsep with rfl | ⟨more, rfl⟩ <;> simp [hp]

theorem dropWhile_gap {p : Char → Bool} {w sep : List Char} (hw : ∀ d ∈ w, p d)
    (hp : p ' ' = false) (hsep : Gap sep) : (w ++ sep).dropWhile p = sep := by
  rw [List.dropWhile_append_of_pos hw]
  rcases hsep with rfl | ⟨more, rfl⟩ <;> simp [hp]

theorem spanDigits_gap {ds sep : List Char} (hds : ∀ d ∈ ds, d.isDigit) (hsep : Gap sep) :
    Decimal.spanDigits (ds ++ sep) = (ds, sep) := by
  rw [Decimal.spanDigits, takeWhile_gap hds rfl hsep, dropWhile_gap hds rfl hsep]

theorem isDigit_of_mem_toDigits {n : Nat} {d : Char} (h : d ∈ Nat.toDigits 10 n) : d.isDigit :=
  Nat.isDigit_of_mem_toDigits (by decide) (by decide) h

theorem digitsValue_toDigits (n : Nat) : Decimal.digitsValue (Nat.toDigits 10 n) = n :=
  Nat.ofDigitChars_ten_toDigits

theorem readSign_of_isDigit {d : Char} (h : d.isDigit) (ds : List Char) :
    Decimal.readSign (d :: ds) = (false, d :: ds) := by
  unfold Decimal.readSign
  split
  · next r heq =>
    obtain ⟨rfl, -⟩ := List.cons.inj heq
    exact absurd h (by decide)
  · next r heq =>
    obtain ⟨rfl, -⟩ := List.cons.inj heq
    exact absurd h (by decide)
  · rfl

theorem readWord?_toDigits {m : Nat} (h : (m : Int) ≤ wordMax) :
    readWord? (Nat.toDigits 10 m) = some (m : Int) := by
  obtain ⟨d, ds, hd⟩ := List.exists_cons_of_ne_nil (Nat.toDigits_ne_nil (b := 10) (n := m))
  have hdig : ∀ c ∈ Nat.toDigits 10 m, c.isDigit := fun c hc => isDigit_of_mem_toDigits hc
  have hsign : Decimal.readSign (Nat.toDigits 10 m) = (false, Nat.toDigits 10 m) := by
    rw [hd]
    exact readSign_of_isDigit (hdig d (by simp [hd])) ds
  have hfits : fitsWord (m : Int) = true := by
    have hmin : wordMin ≤ 0 := by decide
    simp only [fitsWord, Bool.and_eq_true, decide_eq_true_iff]
    exact ⟨by omega, h⟩
  have hne : (Nat.toDigits 10 m).isEmpty = false := by
    rw [hd]
    rfl
  simp only [readWord?, hsign, hne, List.all_eq_true.mpr hdig, digitsValue_toDigits, checkedWord,
    hfits, Bool.not_true, Bool.or_false, Bool.false_eq_true, if_false, if_true]

/-! ## One token at a time -/

theorem token_of_startsName {c : Char} (h : (c.isAlpha || c == '_') = true) (cs : List Char) :
    token c cs = name c cs := by
  have hr : 65 ≤ c.toNat ∧ c.toNat ≤ 122 := by
    rcases Bool.or_eq_true_iff.mp h with h | h
    · have := toNat_of_isAlpha h
      omega
    · rw [beq_iff_eq.mp h]
      decide
  have hd : c.isDigit = false := by
    rw [← Bool.not_eq_true]
    intro h'
    have := toNat_of_isDigit h'
    omega
  have hne : ∀ d : Char, d.toNat < 65 → c ≠ d := fun d hd he => by
    subst he
    omega
  simp [token, hd, hne '.' (by decide), hne '"' (by decide), hne '\x27' (by decide), h]

theorem name_call {c : Char} {w : List Char} (hw : ∀ d ∈ w, isNameChar d) (more : List Char) :
    name c (w ++ ' ' :: '(' :: more) =
      (.func (String.ofList ((c :: w).map Char.toLower)), '(' :: more) := by
  have hgap : Gap (' ' :: '(' :: more) := .inr ⟨_, rfl⟩
  simp only [name, takeWhile_gap hw rfl hgap, dropWhile_gap hw rfl hgap]
  rfl

theorem name_field {c : Char} (hc : c.isAlpha) {sep : List Char} (hsep : Gap sep)
    (hpar : ∀ more, sep.dropWhile Text.isBlank ≠ '(' :: more) :
    name c sep = (.field c, sep) := by
  have hnil : ∀ d ∈ ([] : List Char), isNameChar d := by simp
  have ht := takeWhile_gap hnil (p := isNameChar) rfl hsep
  have hd := dropWhile_gap hnil (p := isNameChar) rfl hsep
  rw [List.nil_append] at ht hd
  -- the parenthesis test fails by `hpar`, which `simp` finds among the hypotheses
  simp only [name, ht, hd]
  rw [if_pos hc]

theorem token_int {n : Int} (h₀ : 0 ≤ n) (h₁ : n ≤ wordMax) {c : Char} {w sep : List Char}
    (hsep : Gap sep) (hw : Nat.toDigits 10 n.toNat = c :: w) :
    token c (w ++ sep) = (.int n, sep) := by
  have hdig : ∀ d ∈ c :: w, d.isDigit := by
    rw [← hw]
    exact fun d hd => isDigit_of_mem_toDigits hd
  have hc : c.isDigit := hdig c (by simp)
  have hw' : ∀ d ∈ w, d.isDigit := fun d hd => hdig d (List.mem_cons_of_mem c hd)
  have hread : readWord? (c :: w) = some n := by
    rw [← hw, readWord?_toDigits (by omega), Int.toNat_of_nonneg h₀]
  have hdot : c ≠ '.' := fun he => absurd (he ▸ hc) (by decide)
  -- the number ends at the blank or at the end: no fraction, no exponent
  rcases hsep with rfl | ⟨more, rfl⟩
  · have hspan : Decimal.spanDigits w = (w, []) := by
      simpa using spanDigits_gap hw' (.inl rfl)
    simp [token, hc, number, hspan, hdot, hread]
  · have hspan := spanDigits_gap hw' (.inr ⟨more, rfl⟩)
    simp [token, hc, number, hspan, hdot, hread]

theorem token_counter {n : Nat} (h : n < Nat.pow 2 64) {sep : List Char} (hsep : Gap sep) :
    token '#' (Nat.toDigits 10 n ++ sep) = (.counter n, sep) := by
  have hspan : Decimal.spanDigits (Nat.toDigits 10 n ++ sep) = (Nat.toDigits 10 n, sep) :=
    spanDigits_gap (fun _ hd => isDigit_of_mem_toDigits hd) hsep
  have hn : ¬Nat.pow 2 64 ≤ n := Nat.not_le.mpr h
  simp [token, hspan, digitsValue_toDigits, Nat.toDigits_ne_nil, hn]

theorem quoted_escape (acc cs sep : List Char) :
    quoted '"' acc (escape cs ++ '"' :: sep) = (.str (String.ofList (acc.reverse ++ cs)), sep) := by
  induction cs generalizing acc with
  | nil => simp [escape, quoted]
  | cons c cs ih =>
    by_cases hc : c = '"' ∨ c = '\\'
    · -- an escaped character stands for itself: neither is `n` nor `t`
      have hn : c ≠ 'n' ∧ c ≠ 't' := by
        rcases hc with rfl | rfl <;> decide
      simp only [escape, if_pos hc, List.cons_append]
      rw [quoted]
      simp [hn.1, hn.2, ih]
    · have hb : c ≠ '\\' := fun h => hc (.inr h)
      have hq : c ≠ '"' := fun h => hc (.inl h)
      simp only [escape, if_neg hc, List.cons_append]
      simp [quoted, hb, hq, ih]

theorem token_str (s : String) (sep : List Char) :
    token '"' ((escape s.toList ++ ['"']) ++ sep) = (.str s, sep) := by
  have h : token '"' ((escape s.toList ++ ['"']) ++ sep) =
      quoted '"' [] (escape s.toList ++ '"' :: sep) := by
    simp only [List.append_assoc, List.singleton_append]
    rfl
  rw [h, quoted_escape]
  simp

theorem token_config {k : String} (hk : (!k.isEmpty && k.toList.all isNameChar) = true)
    {sep : List Char} (hsep : Gap sep) : token '@' (k.toList ++ sep) = (.config k, sep) := by
  simp only [Bool.and_eq_true, Bool.not_eq_true', List.all_eq_true] at hk
  have hne : k.toList.isEmpty = false := by
    simpa [String.isEmpty_iff, String.toList_eq_nil_iff] using hk.1
  have ht := takeWhile_gap hk.2 rfl hsep
  have hd := dropWhile_gap hk.2 rfl hsep
  simp [token, ht, hd, hne]

theorem token_field {c : Char} (hc : c.isAlpha) {sep : List Char} (hsep : Gap sep)
    (hpar : ∀ more, sep.dropWhile Text.isBlank ≠ '(' :: more) :
    token c sep = (.field c, sep) := by
  rw [token_of_startsName (by simp [hc]), name_field hc hsep hpar]

theorem token_func {name : String} (h : isCallName name) {c : Char} {w : List Char}
    (hw : name.toList = c :: w) (more : List Char) :
    token c (w ++ ' ' :: '(' :: more) = (.func name, '(' :: more) := by
  simp only [isCallName, hw, Bool.and_eq_true, List.all_eq_true] at h
  have hc : (c.isLower || c.isDigit || c == '_') = true := by
    simp only [Bool.or_eq_true] at h ⊢
    tauto
  have hstart : ((c.isUpper || c.isLower) || c == '_') = true := by
    simp only [Bool.or_eq_true] at h ⊢
    tauto
  have hlower : (c :: w).map Char.toLower = c :: w := by
    rw [List.map_congr_left (g := id), List.map_id]
    intro d hd
    rcases List.mem_cons.mp hd with rfl | hd
    · exact toLower_of_callChar hc
    · exact toLower_of_callChar (h.2 d hd)
  rw [token_of_startsName hstart, name_call (fun d hd => isNameChar_of_callChar (h.2 d hd)),
    hlower, ← hw, String.ofList_toList]

theorem token_sym (s : Sym) {c : Char} {w sep : List Char} (hsep : Gap sep)
    (hw : s.text.toList = c :: w) : token c (w ++ sep) = (.sym s, sep) := by
  rcases hsep with rfl | ⟨more, rfl⟩ <;> cases s <;> simp [Sym.text] at hw <;>
    obtain ⟨rfl, rfl⟩ := hw <;> rfl

theorem token_written {t : Token} (ht : t.writable) (hnf : ∀ name, t ≠ .func name)
    (hfield : ∀ c, t = .field c → ∀ more, sep.dropWhile Text.isBlank ≠ '(' :: more)
    (hsep : Gap sep) {c : Char} {w : List Char} (hw : t.written = c :: w) :
    token c (w ++ sep) = (t, sep) := by
  cases t with
  | int n =>
    simp only [writable, decide_eq_true_eq] at ht
    exact token_int ht.1 ht.2 hsep hw
  | str s =>
    simp only [written, List.cons_append, List.cons.injEq] at hw
    obtain ⟨rfl, rfl⟩ := hw
    exact token_str s sep
  | counter n =>
    simp only [written, List.cons.injEq] at hw
    obtain ⟨rfl, rfl⟩ := hw
    exact token_counter (of_decide_eq_true ht) hsep
  | field d =>
    simp only [written, List.cons.injEq] at hw
    obtain ⟨rfl, rfl⟩ := hw
    exact token_field ht hsep (hfield _ rfl)
  | config k =>
    simp only [written, List.cons.injEq] at hw
    obtain ⟨rfl, rfl⟩ := hw
    exact token_config ht hsep
  | func name => exact absurd rfl (hnf name)
  | sym s => exact token_sym s hsep hw
  | real _ | unknown _ | eof => simp [writable] at ht

/-! ## Whole spellings -/

theorem written_cons {t : Token} (ht : t.writable) :
    ∃ c w, t.written = c :: w ∧ Text.isBlank c = false ∧ (c = '(' → t = .sym .lparen) := by
  cases t with
  | int n =>
    obtain ⟨c, w, hw⟩ := List.exists_cons_of_ne_nil (Nat.toDigits_ne_nil (b := 10) (n := n.toNat))
    have hr := toNat_of_isDigit (isDigit_of_mem_toDigits (hw ▸ List.mem_cons_self))
    refine ⟨c, w, hw, isBlank_eq_false (by omega) (by omega), fun he => ?_⟩
    subst he
    simp at hr
  | str s => exact ⟨'"', _, rfl, by decide, fun h => absurd h (by decide)⟩
  | counter n => exact ⟨'#', _, rfl, by decide, fun h => absurd h (by decide)⟩
  | field d =>
    have hr := toNat_of_isAlpha ht
    refine ⟨d, [], rfl, isBlank_eq_false (by omega) (by omega), fun he => ?_⟩
    subst he
    simp at hr
  | config k => exact ⟨'@', _, rfl, by decide, fun h => absurd h (by decide)⟩
  | func name =>
    simp only [writable, isCallName] at ht
    split at ht
    · next c w hw =>
      simp only [Bool.and_eq_true] at ht
      have hr := toNat_of_callChar (by simp only [Bool.or_eq_true] at ht ⊢; tauto)
      refine ⟨c, w, hw, isBlank_eq_false (by omega) (by omega), fun he => ?_⟩
      subst he
      simp at hr
    · exact absurd ht (by decide)
  | sym s =>
    cases s
    case lparen => exact ⟨'(', [], rfl, by decide, fun _ => rfl⟩
    all_goals exact ⟨_, _, rfl, by decide, fun h => absurd h (by decide)⟩
  | real _ | unknown _ | eof => simp [writable] at ht

theorem spell_cons (u : Token) (ts : List Token) : ∃ tail, spell (u :: ts) = u.written ++ tail := by
  cases ts with
  | nil => exact ⟨[], by simp [spell]⟩
  | cons v ts => exact ⟨_, rfl⟩

theorem tokensOf_nil {cs : List Char} (h : cs.dropWhile Text.isBlank = []) :
    tokensOf cs = [.eof] := by
  rw [tokensOf, h]

theorem tokensOf_cons {cs r rest : List Char} {c : Char} {t : Token}
    (h : cs.dropWhile Text.isBlank = c :: r) (ht : token c r = (t, rest))
    (hl : rest.length < cs.length) : tokensOf cs = t :: tokensOf rest := by
  rw [tokensOf, h]
  simp only [ht, dif_pos hl]

theorem blank_space : ∀ d ∈ [' '], Text.isBlank d := fun d hd => by
  rw [List.mem_singleton.mp hd]
  rfl

theorem dropWhile_blank {pre w : List Char} {c : Char} (hpre : ∀ d ∈ pre, Text.isBlank d)
    (hc : Text.isBlank c = false) : (pre ++ c :: w).dropWhile Text.isBlank = c :: w := by
  rw [List.dropWhile_append_of_pos hpre, List.dropWhile_cons_of_neg (by simp [hc])]

theorem tokensOf_spell : ∀ (ts : List Token) {pre : List Char}, (∀ d ∈ pre, Text.isBlank d) →
    (∀ t ∈ ts, t.writable) → List.IsChain Adjacent (ts ++ [.eof]) →
    tokensOf (pre ++ spell ts) = ts ++ [.eof]
  | [], pre, hpre, _, _ => by
    rw [spell, List.append_nil]
    exact tokensOf_nil (List.dropWhile_eq_nil_iff.mpr hpre)
  | [t], pre, hpre, hw, hc => by
    obtain ⟨c, w, hcw, hblank, -⟩ := written_cons (hw t List.mem_cons_self)
    have hadj : Adjacent t .eof := (List.isChain_cons_cons.mp hc).1
    have hnf : ∀ name, t ≠ .func name := by
      rintro name rfl
      nomatch hadj
    have htok := token_written (hw t List.mem_cons_self) hnf (fun _ _ _ => by simp) (.inl rfl) hcw
    rw [List.append_nil] at htok
    have hlen : ([] : List Char).length < (pre ++ c :: w).length := by
      simp only [List.length_append, List.length_cons, List.length_nil]
      omega
    rw [spell, hcw, tokensOf_cons (dropWhile_blank hpre hblank) htok hlen, tokensOf_nil rfl]
    rfl
  | t :: u :: ts, pre, hpre, hw, hc => by
    obtain ⟨c, w, hcw, hblank, -⟩ := written_cons (hw t List.mem_cons_self)
    obtain ⟨c', w', hcw', hblank', hpar⟩ := written_cons (hw u (by simp))
    have hadj : Adjacent t u := (List.isChain_cons_cons.mp hc).1
    have hrest : List.IsChain Adjacent (u :: ts ++ [.eof]) := (List.isChain_cons_cons.mp hc).2
    have hwrest : ∀ v ∈ u :: ts, v.writable := fun v hv => hw v (List.mem_cons_of_mem t hv)
    obtain ⟨tail, htail⟩ := spell_cons u ts
    have hgap : (' ' :: spell (u :: ts)).dropWhile Text.isBlank = spell (u :: ts) := by
      rw [htail, hcw', List.cons_append]
      exact dropWhile_blank blank_space hblank'
    rw [spell, hcw, List.cons_append]
    by_cases hf : ∃ name, t = .func name
    · -- a function name leaves the parenthesis that follows it
      obtain ⟨name, rfl⟩ := hf
      have hu : u = .sym .lparen := hadj
      subst hu
      have hw' : spell (.sym .lparen :: ts) = '(' :: tail := by
        rw [htail]
        rfl
      have htok := token_func (hw _ List.mem_cons_self) hcw tail
      have hlen : ('(' :: tail).length < (pre ++ c :: (w ++ ' ' :: '(' :: tail)).length := by
        simp only [List.length_append, List.length_cons]
        omega
      have hnext := tokensOf_spell (.sym .lparen :: ts) (by simp : ∀ d ∈ ([] : List Char),
        Text.isBlank d) hwrest hrest
      rw [List.nil_append, hw'] at hnext
      rw [hw', tokensOf_cons (dropWhile_blank hpre hblank) htok hlen, hnext]
      rfl
    · have hnf : ∀ name, t ≠ .func name := fun name he => hf ⟨name, he⟩
      have hfield : ∀ d, t = .field d → ∀ more,
          (' ' :: spell (u :: ts)).dropWhile Text.isBlank ≠ '(' :: more := by
        rintro d rfl more he
        rw [hgap, htail, hcw', List.cons_append, List.cons.injEq] at he
        exact hadj (hpar he.1)
      have htok := token_written (hw t List.mem_cons_self) hnf hfield (.inr ⟨_, rfl⟩) hcw
      have hlen : (' ' :: spell (u :: ts)).length <
          (pre ++ c :: (w ++ ' ' :: spell (u :: ts))).length := by
        simp only [List.length_append, List.length_cons]
        omega
      have hnext := tokensOf_spell (u :: ts) blank_space hwrest hrest
      rw [List.singleton_append] at hnext
      rw [tokensOf_cons (dropWhile_blank hpre hblank) htok hlen, hnext]
      rfl

theorem tokens_print {e : Expr} (h : e.printable) : tokens e.print = e.toks ++ [.eof] := by
  rw [tokens, Expr.print, String.toList_ofList, ← List.nil_append (spell e.toks)]
  exact tokensOf_spell e.toks (by simp) (Expr.writable_of_mem_toks h) (Expr.isChain_toks_eof h)

end ColumnSpec.Lexer
