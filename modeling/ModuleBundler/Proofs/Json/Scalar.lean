import Mathlib.Data.List.Induction
import Mathlib.Tactic.IntervalCases
import ModuleBundler.Proofs.Json.Compact
import ModuleBundler.Proofs.Json.Grammar

/-!
# Reading strings and numbers

A string is read if and only if it is spelled in front of the rest, and what it denotes is read. A
number is only read where one is spelled, and an integer that 64 bits hold is read as that integer.
-/

namespace ModuleBundler.Json

/-! ## Blanks -/

/-- No blank comes next. -/
def NoBlank (cs : List Char) : Prop := ∀ c ∈ cs.head?, c ∉ blanks

theorem noBlank_cons {c : Char} (h : c ∉ blanks) (cs : List Char) : NoBlank (c :: cs) := by
  rintro d ⟨⟩
  exact h

theorem skipBlanksFrom_cons (c : Char) (cs : List Char) (n : Nat) :
    Input.skipBlanksFrom (c :: cs) n =
      if c ∈ blanks then Input.skipBlanksFrom cs (n + 1) else ⟨c :: cs, n⟩ := by
  simp [Input.skipBlanksFrom, blanks, or_assoc]

theorem skipBlanks_of_noBlank {cs : List Char} (h : NoBlank cs) (n : Nat) :
    Input.skipBlanks ⟨cs, n⟩ = ⟨cs, n⟩ := by
  cases cs with
  | nil => rfl
  | cons c cs =>
    rw [Input.skipBlanks, skipBlanksFrom_cons, if_neg (h c rfl)]

/-- Skipping blanks leaves what is behind them. -/
theorem skipBlanks_of_blank {cs rest : List Char} (h : Blank cs rest) (hrest : NoBlank rest)
    (n : Nat) : ∃ m, Input.skipBlanks ⟨cs, n⟩ = ⟨rest, m⟩ := by
  induction h generalizing n with
  | none rest => exact ⟨n, skipBlanks_of_noBlank hrest n⟩
  | @more c cs rest hc h ih =>
    obtain ⟨m, hm⟩ := ih hrest (n + 1)
    refine ⟨m, ?_⟩
    rw [Input.skipBlanks, skipBlanksFrom_cons, if_pos hc]
    exact hm

theorem blank_skipBlanks (cs : List Char) (n : Nat) :
    Blank cs (Input.skipBlanks ⟨cs, n⟩).rest ∧ NoBlank (Input.skipBlanks ⟨cs, n⟩).rest := by
  induction cs generalizing n with
  | nil => exact ⟨.none _, by simp [NoBlank, Input.skipBlanks, Input.skipBlanksFrom]⟩
  | cons c cs ih =>
    rw [Input.skipBlanks, skipBlanksFrom_cons]
    split
    · rename_i hc
      exact ⟨.more hc (ih (n + 1)).1, (ih (n + 1)).2⟩
    · rename_i hc
      exact ⟨.none _, noBlank_cons hc cs⟩

theorem Blank.length_le {cs rest : List Char} (h : Blank cs rest) : rest.length ≤ cs.length := by
  induction h with
  | none => exact Nat.le_refl _
  | more _ _ ih => exact Nat.le_succ_of_le ih

theorem Blank.eq_nil {rest : List Char} (h : Blank [] rest) : rest = [] := by
  cases h
  rfl

/-! ## Strings -/

theorem isHexDigit_of_hexValue? {c : Char} {n : Nat} (h : hexValue? c = some n) :
    IsHexDigit c n := by
  have hranges : 48 ≤ c.toNat ∧ c.toNat ≤ 57 ∨ 97 ≤ c.toNat ∧ c.toNat ≤ 102 ∨
      65 ≤ c.toNat ∧ c.toNat ≤ 70 := by
    unfold hexValue? at h
    split at h
    · rename_i hdigit
      rw [Char.isDigit, Bool.and_eq_true, decide_eq_true_eq, decide_eq_true_eq] at hdigit
      exact .inl ⟨UInt32.le_iff_toNat_le.1 hdigit.1, UInt32.le_iff_toNat_le.1 hdigit.2⟩
    · split at h
      · rename_i hlower
        exact .inr (.inl hlower)
      · split at h
        · rename_i hupper
          exact .inr (.inr hupper)
        · cases h
  have hc := Char.ofNat_toNat c
  generalize c.toNat = k at hc hranges
  subst hc
  have hdigits : ∀ k < 128, ∀ n ∈ hexValue? (Char.ofNat k), n < 16 ∧
      (Char.ofNat k = Nat.digitChar n ∨ Char.ofNat k = (Nat.digitChar n).toUpper) := by
    decide
  exact hdigits k (by omega) n h

theorem hexValue?_eq_some_iff {c : Char} {n : Nat} : hexValue? c = some n ↔ IsHexDigit c n := by
  refine ⟨isHexDigit_of_hexValue?, ?_⟩
  rintro ⟨hn, hc⟩
  have hdigits : ∀ n < 16, hexValue? (Nat.digitChar n) = some n ∧
      hexValue? (Nat.digitChar n).toUpper = some n := by
    decide
  obtain rfl | rfl := hc
  · exact (hdigits n hn).1
  · exact (hdigits n hn).2

theorem hexEscape_eq_ok_iff {i j : Input} {v : Nat} :
    hexEscape i = .ok (v, j) ↔ FourHexDigits i.rest v j.rest ∧ j.index = i.index + 4 := by
  obtain ⟨cs, n⟩ := i
  constructor
  · intro h
    unfold hexEscape at h
    split at h
    · rename_i a b c d r hcs
      obtain rfl : cs = a :: b :: c :: d :: r := hcs
      split at h
      · rename_i i k l m ha hb hc hd
        cases h
        exact ⟨.digits (hexValue?_eq_some_iff.1 ha) (hexValue?_eq_some_iff.1 hb)
          (hexValue?_eq_some_iff.1 hc) (hexValue?_eq_some_iff.1 hd) r, rfl⟩
      · cases h
    · dsimp only at h
      split at h <;> cases h
  · rintro ⟨h, hindex⟩
    obtain ⟨rest, index⟩ := j
    obtain rfl : index = n + 4 := hindex
    change FourHexDigits cs v rest at h
    cases h with
    | digits ha hb hc hd rest =>
      simp only [hexEscape, hexValue?_eq_some_iff.2 ha, hexValue?_eq_some_iff.2 hb,
        hexValue?_eq_some_iff.2 hc, hexValue?_eq_some_iff.2 hd]

theorem unicodeEscape_of_escape {cs rest : List Char} {c : Char}
    (h : Escape ('u' :: cs) c rest) (n : Nat) :
    ∃ used, cs = used ++ rest ∧ unicodeEscape ⟨cs, n⟩ = .ok (c, ⟨rest, n + used.length⟩) := by
  cases h with
  | letter hmem => simp [letterEscapes] at hmem
  | @code value cs rest hcs hvalue =>
    have hhex : hexEscape ⟨cs, n⟩ = .ok (value, ⟨rest, n + 4⟩) :=
      hexEscape_eq_ok_iff.2 ⟨hcs, rfl⟩
    have hlow : ¬ (0xDC00 ≤ value ∧ value ≤ 0xDFFF) := fun h => hvalue ⟨by omega, h.2⟩
    have hplain : value < 0xD800 ∨ 0xDBFF < value := by
      by_contra hsurrogate
      exact hvalue ⟨by omega, by omega⟩
    cases hcs with
    | @digits a b c d =>
      refine ⟨[a, b, c, d], rfl, ?_⟩
      rw [unicodeEscape, hhex]
      simp only [bind, Except.bind, hlow, hplain, if_true, if_false, pure, Except.pure]
      rfl
  | @pair high low cs more rest hcs hmore hhigh hlow =>
    have hhex : hexEscape ⟨cs, n⟩ = .ok (high, ⟨'\\' :: 'u' :: more, n + 4⟩) :=
      hexEscape_eq_ok_iff.2 ⟨hcs, rfl⟩
    have hhex' : hexEscape (Input.drop1 (Input.drop1 ⟨'\\' :: 'u' :: more, n + 4⟩)) =
        .ok (low, ⟨rest, n + 10⟩) :=
      hexEscape_eq_ok_iff.2 ⟨hmore, rfl⟩
    have hfirst : ¬ (0xDC00 ≤ high ∧ high ≤ 0xDFFF) := by omega
    have hsecond : ¬ (high < 0xD800 ∨ 0xDBFF < high) := by omega
    have hthird : ¬ (low < 0xDC00 ∨ 0xDFFF < low) := by omega
    cases hcs with
    | @digits a b c d =>
      cases hmore with
      | @digits a' b' c' d' =>
        refine ⟨[a, b, c, d, '\\', 'u', a', b', c', d'], rfl, ?_⟩
        rw [unicodeEscape, hhex]
        simp only [bind, Except.bind, hfirst, hsecond, if_false, hhex', hthird, pure, Except.pure]
        rfl

theorem escape_of_unicodeEscape {cs : List Char} {n : Nat} {c : Char} {j : Input}
    (h : unicodeEscape ⟨cs, n⟩ = .ok (c, j)) : Escape ('u' :: cs) c j.rest := by
  unfold unicodeEscape at h
  cases hhex : hexEscape ⟨cs, n⟩ with
  | error f => simp [hhex, bind, Except.bind] at h
  | ok r =>
    obtain ⟨value, i⟩ := r
    obtain ⟨hcs, -⟩ := hexEscape_eq_ok_iff.1 hhex
    rw [hhex] at h
    simp only [bind, Except.bind] at h
    split at h
    · cases h
    · rename_i hlow
      split at h
      · rename_i hplain
        cases h
        exact .code hcs fun hsurrogate => by
          obtain ⟨hlo, hhi⟩ := hsurrogate
          omega
      · rename_i hhigh
        split at h
        · cases h
        · cases h
        · rename_i more hrest
          rw [hrest] at hcs
          cases hhex' : hexEscape i.drop1.drop1 with
          | error f => simp [hhex'] at h
          | ok r =>
            obtain ⟨low, k⟩ := r
            obtain ⟨hmore, -⟩ := hexEscape_eq_ok_iff.1 hhex'
            have hdrop : i.drop1.drop1.rest = more := by
              simp [Input.drop1, hrest]
            rw [hdrop] at hmore
            rw [hhex'] at h
            dsimp only at h
            split at h
            · cases h
            · rename_i hlow'
              have hpair := Escape.pair hcs hmore (by omega) (by omega)
              simp only [pure, Except.pure, Except.ok.injEq, Prod.mk.injEq] at h
              obtain ⟨rfl, rfl⟩ := h
              exact hpair
        · cases h
        · cases h

theorem simpleEscape?_eq_some_iff {e c : Char} :
    simpleEscape? e = some c ↔ (e, c) ∈ letterEscapes := by
  unfold simpleEscape?
  split <;> simp_all [letterEscapes, eq_comm]

/-- An escape is passed as a whole. -/
theorem readStringFrom_escape {cs more : List Char} {c : Char} (h : Escape cs c more) (n : Nat)
    (acc : List Char) :
    ∃ m, readStringFrom 0 ('\\' :: cs) n acc = readStringFrom 0 more m (c :: acc) := by
  have hunicode : ∀ r, cs = 'u' :: r →
      ∃ m, readStringFrom 0 ('\\' :: cs) n acc = readStringFrom 0 more m (c :: acc) := by
    rintro r rfl
    obtain ⟨used, rfl, hused⟩ := unicodeEscape_of_escape h (n + 2)
    obtain ⟨m, hm⟩ := readStringFrom_skip ('u' :: used) more (n + 1) (c :: acc)
    have hskip : n + 2 + used.length - (n + 1) = ('u' :: used).length := by
      simp only [List.length_cons]
      omega
    refine ⟨m, ?_⟩
    rw [← hm, readStringFrom.eq_def]
    simp only [hused, hskip]
    rfl
  cases h with
  | letter hmem rest =>
    rename_i e
    have hescape := simpleEscape?_eq_some_iff.2 hmem
    have hne : e ≠ 'u' := by
      rintro rfl
      simp [letterEscapes] at hmem
    obtain ⟨m, hm⟩ := readStringFrom_skip [e] more (n + 1) (c :: acc)
    refine ⟨m, ?_⟩
    rw [← hm, readStringFrom.eq_def]
    simp [hescape]
  | code => exact hunicode _ rfl
  | pair => exact hunicode _ rfl

theorem exists_escape_of_readStringFrom {cs : List Char} {n : Nat} {acc : List Char}
    {r : String × Input} (h : readStringFrom 0 ('\\' :: cs) n acc = .ok r) :
    ∃ c more, Escape cs c more := by
  rw [readStringFrom.eq_def] at h
  cases cs with
  | nil => simp at h
  | cons e cs =>
    by_cases he : e = 'u'
    · subst he
      cases hunicode : unicodeEscape ⟨cs, n + 2⟩ with
      | error f => simp [hunicode] at h
      | ok r => exact ⟨_, _, escape_of_unicodeEscape hunicode⟩
    · cases hsimple : simpleEscape? e with
      | none => simp [hsimple] at h
      | some c => exact ⟨c, cs, .letter (simpleEscape?_eq_some_iff.1 hsimple) cs⟩

theorem readStringFrom_plain {c : Char} (hquote : c ≠ '"') (hslash : c ≠ '\\')
    (hcontrol : 0x20 ≤ c.toNat) (cs : List Char) (n : Nat) (acc : List Char) :
    readStringFrom 0 (c :: cs) n acc = readStringFrom 0 cs (n + c.utf8Size) (c :: acc) := by
  rw [readStringFrom.eq_def]
  simp [hquote, hslash, Nat.not_lt.2 hcontrol]

/-- What is quoted is read up to the closing quote. -/
theorem readStringFrom_of_quoted {cs s rest : List Char} (h : Quoted cs s rest) (n : Nat)
    (acc : List Char) :
    ∃ m, readStringFrom 0 cs n acc = .ok (String.ofList (acc.reverse ++ s), ⟨rest, m⟩) := by
  induction h generalizing n acc with
  | close rest =>
    refine ⟨n + 1, ?_⟩
    rw [readStringFrom.eq_def, List.append_nil]
    rfl
  | @plain c cs s rest hquote hslash hcontrol h ih =>
    obtain ⟨m, hm⟩ := ih (n + c.utf8Size) (c :: acc)
    exact ⟨m, by rw [readStringFrom_plain hquote hslash hcontrol, hm]; simp⟩
  | @escape c cs more s rest hc h ih =>
    obtain ⟨k, hk⟩ := readStringFrom_escape hc n acc
    obtain ⟨m, hm⟩ := ih k (c :: acc)
    exact ⟨m, by rw [hk, hm]; simp⟩

theorem Escape.length_lt {cs more : List Char} {c : Char} (h : Escape cs c more) :
    more.length < cs.length := by
  cases h with
  | letter => simp
  | code hcs =>
    cases hcs
    simp only [List.length_cons]
    omega
  | pair hcs hmore =>
    cases hcs
    cases hmore
    simp only [List.length_cons]
    omega

/-- Whatever is read as a string is quoted. -/
theorem quoted_of_readStringFrom {cs : List Char} {n : Nat} {acc : List Char} {s : String}
    {j : Input} (h : readStringFrom 0 cs n acc = .ok (s, j)) :
    ∃ t, Quoted cs t j.rest ∧ s = String.ofList (acc.reverse ++ t) := by
  induction hlength : cs.length using Nat.strong_induction_on generalizing cs n acc with
  | _ length ih =>
    subst hlength
    cases cs with
    | nil => simp [readStringFrom] at h
    | cons c cs =>
      by_cases hquote : c = '"'
      · subst hquote
        rw [readStringFrom.eq_def] at h
        simp only [if_true, Except.ok.injEq, Prod.mk.injEq] at h
        obtain ⟨rfl, rfl⟩ := h
        exact ⟨[], .close cs, by simp⟩
      by_cases hslash : c = '\\'
      · subst hslash
        obtain ⟨d, more, hescape⟩ := exists_escape_of_readStringFrom h
        obtain ⟨m, hm⟩ := readStringFrom_escape hescape n acc
        rw [hm] at h
        obtain ⟨t, ht, hs⟩ := ih more.length (Nat.lt_succ_of_lt hescape.length_lt) h rfl
        exact ⟨d :: t, .escape hescape ht, by rw [hs]; simp⟩
      · have hcontrol : 0x20 ≤ c.toNat := by
          by_contra hlow
          rw [readStringFrom.eq_def] at h
          simp [hquote, hslash, Nat.not_le.1 hlow] at h
        rw [readStringFrom_plain hquote hslash hcontrol] at h
        obtain ⟨t, ht, hs⟩ := ih cs.length (Nat.lt_succ_self _) h rfl
        exact ⟨c :: t, .plain hquote hslash hcontrol ht, by rw [hs]; simp⟩

theorem readString_of_spelled {s : String} {cs rest : List Char} (h : SpelledString s cs rest)
    (n : Nat) : ∃ m, readString (Input.drop1 ⟨cs, n⟩) = .ok (s, ⟨rest, m⟩) := by
  obtain ⟨inner, rfl, hinner⟩ := h
  obtain ⟨m, hm⟩ := readStringFrom_of_quoted hinner (n + 1) []
  exact ⟨m, hm.trans (by simp)⟩

theorem spelledString_of_readString {s : String} {cs : List Char} {n : Nat} {j : Input}
    (h : readString (Input.drop1 ⟨'"' :: cs, n⟩) = .ok (s, j)) :
    SpelledString s ('"' :: cs) j.rest := by
  obtain ⟨t, ht, rfl⟩ := quoted_of_readStringFrom h
  rw [List.reverse_nil, List.nil_append] at *
  exact ⟨cs, rfl, by rw [String.toList_ofList]; exact ht⟩

/-! ## Digits -/

/-- No digit comes next. -/
def NoDigit (cs : List Char) : Prop := ∀ c ∈ cs.head?, c.isDigit = false

theorem exists_digits (cs : List Char) :
    ∃ ds rest, cs = ds ++ rest ∧ (∀ c ∈ ds, c.isDigit = true) ∧ NoDigit rest := by
  induction cs with
  | nil => exact ⟨[], [], rfl, by simp, by simp [NoDigit]⟩
  | cons c cs ih =>
    by_cases hc : c.isDigit = true
    · obtain ⟨ds, rest, rfl, hds, hrest⟩ := ih
      exact ⟨c :: ds, rest, rfl, by simpa using ⟨hc, hds⟩, hrest⟩
    · refine ⟨[], c :: cs, rfl, by simp, ?_⟩
      rintro d ⟨⟩
      exact Bool.eq_false_iff.2 hc

variable {ds rest : List Char}

theorem digits_append (hds : ∀ c ∈ ds, c.isDigit = true) (hne : ds ≠ []) (rest : List Char) :
    Digits (ds ++ rest) rest := by
  induction ds with
  | nil => exact absurd rfl hne
  | cons c ds ih =>
    rw [List.forall_mem_cons] at hds
    cases ds with
    | nil => exact .last hds.1 rest
    | cons d ds => exact .more hds.1 (ih hds.2 (by simp))

theorem skipDigitsFrom_append (hds : ∀ c ∈ ds, c.isDigit = true) (hrest : NoDigit rest) (n : Nat) :
    Input.skipDigitsFrom (ds ++ rest) n = ⟨rest, n + ds.length⟩ := by
  induction ds generalizing n with
  | nil =>
    cases rest with
    | nil => rfl
    | cons c rest => simp [Input.skipDigitsFrom, hrest c rfl]
  | cons c ds ih =>
    rw [List.forall_mem_cons] at hds
    rw [List.cons_append, Input.skipDigitsFrom, if_pos hds.1, ih hds.2, List.length_cons]
    congr 1
    omega

theorem le_ofDigitChars (ds : List Char) (init : Nat) : init ≤ Nat.ofDigitChars 10 ds init := by
  induction ds generalizing init with
  | nil => exact Nat.le_refl _
  | cons c ds ih =>
    rw [Nat.ofDigitChars_cons]
    exact Nat.le_trans (by omega) (ih _)

/-- No zero stands in front of other digits. -/
def NoLeadingZero (ds : List Char) : Prop := ds.head? = some '0' → ds = ['0']

/-- A number has one text without a needless zero. -/
theorem toDigits_ofDigitChars (hne : ds ≠ []) (hds : ∀ c ∈ ds, c.isDigit = true)
    (hzero : NoLeadingZero ds) : Nat.toDigits 10 (Nat.ofDigitChars 10 ds 0) = ds := by
  have hdigit : ∀ c : Char, c.isDigit = true →
      c.toNat - '0'.toNat < 10 ∧ Nat.digitChar (c.toNat - '0'.toNat) = c := by
    intro c hc
    rw [Char.isDigit, Bool.and_eq_true, decide_eq_true_eq, decide_eq_true_eq] at hc
    have hlo : 48 ≤ c.toNat := UInt32.le_iff_toNat_le.1 hc.1
    have hhi : c.toNat ≤ 57 := UInt32.le_iff_toNat_le.1 hc.2
    have hbase : '0'.toNat = 48 := rfl
    refine ⟨by omega, Char.toNat_inj.1 ?_⟩
    rw [Nat.toNat_digitChar_of_lt_ten (by omega)]
    omega
  induction ds using List.reverseRecOn with
  | nil => exact absurd rfl hne
  | append_singleton init c ih =>
    obtain ⟨hlt, hc⟩ := hdigit c (hds c (by simp))
    rw [Nat.ofDigitChars_append, Nat.ofDigitChars_cons, Nat.ofDigitChars_nil]
    by_cases hinit : init = []
    · subst hinit
      rw [Nat.ofDigitChars_nil, Nat.mul_zero, Nat.zero_add, Nat.toDigits_of_lt_base hlt, hc]
      rfl
    · obtain ⟨d, more, rfl⟩ := List.exists_cons_of_ne_nil hinit
      have hd : d ≠ '0' := by
        rintro rfl
        have heq := hzero rfl
        simp at heq
      have hvalue := ih hinit (fun e he => hds e (List.mem_append_left _ he)) fun h =>
        absurd (by simpa using h) hd
      have hpositive : 0 < Nat.ofDigitChars 10 (d :: more) 0 := by
        rw [Nat.pos_iff_ne_zero]
        intro h
        rw [h, Nat.toDigits_zero, List.cons.injEq] at hvalue
        exact hd hvalue.1.symm
      rw [← Nat.toDigits_append_toDigits (by decide) hpositive hlt, hvalue,
        Nat.toDigits_of_lt_base hlt, hc]

theorem isDigit_toDigits (n : Nat) : ∀ c ∈ Nat.toDigits 10 n, c.isDigit = true := fun _ hc =>
  Nat.isDigit_of_mem_toDigits (by decide) (by decide) hc

theorem exists_cons_toDigits (n : Nat) :
    ∃ c ds, Nat.toDigits 10 n = c :: ds ∧ c.isDigit = true := by
  obtain ⟨c, ds, hcons⟩ := List.exists_cons_of_ne_nil (Nat.toDigits_ne_nil (n := n) (b := 10))
  exact ⟨c, ds, hcons, isDigit_toDigits n c (hcons ▸ List.mem_cons_self)⟩

theorem eq_zero_of_head_toDigits (n : Nat) (h : (Nat.toDigits 10 n).head? = some '0') : n = 0 := by
  induction n using Nat.strong_induction_on with
  | _ n ih =>
    by_cases hn : n < 10
    · rw [Nat.toDigits_of_lt_base hn] at h
      revert h
      interval_cases n <;> simp [Nat.digitChar]
    · obtain ⟨d, more, hmore, -⟩ := exists_cons_toDigits (n / 10)
      rw [Nat.toDigits_of_base_le (by decide) (by omega), hmore] at h
      have hzero := ih (n / 10) (by omega) (by rw [hmore]; exact h)
      omega

theorem noLeadingZero_toDigits (n : Nat) : NoLeadingZero (Nat.toDigits 10 n) := by
  intro h
  rw [eq_zero_of_head_toDigits n h]
  rfl

theorem integerDigits_append (hds : ∀ c ∈ ds, c.isDigit = true) (hrest : NoDigit rest)
    (n : Nat) {acc : Nat} (hacc : acc ≤ maxNatural) :
    ∃ m, integerDigits (ds ++ rest) n acc = (Nat.ofDigitChars 10 ds acc, none, ⟨rest, m⟩) ∧
        Nat.ofDigitChars 10 ds acc ≤ maxNatural ∨
      (∃ v i, integerDigits (ds ++ rest) n acc = (v, some i, ⟨rest, m⟩)) ∧
        maxNatural < Nat.ofDigitChars 10 ds acc := by
  induction ds generalizing n acc with
  | nil =>
    refine ⟨n, .inl ⟨?_, hacc⟩⟩
    cases rest with
    | nil => rfl
    | cons c rest => simp [integerDigits, hrest c rfl]
  | cons c ds ih =>
    have hall := hds
    rw [List.forall_mem_cons] at hds
    have hvalue : 10 * acc + (c.toNat - '0'.toNat) = acc * 10 + (c.toNat - 48) := by
      rw [Nat.mul_comm]
      rfl
    rw [Nat.ofDigitChars_cons, hvalue, List.cons_append, integerDigits, if_pos hds.1]
    by_cases hbig : acc * 10 + (c.toNat - 48) > maxNatural
    · rw [if_pos hbig, ← List.cons_append, Input.skipDigits, skipDigitsFrom_append hall hrest]
      exact ⟨_, .inr ⟨⟨_, _, rfl⟩, Nat.lt_of_lt_of_le hbig (le_ofDigitChars ds _)⟩⟩
    · rw [if_neg hbig]
      exact ih hds.2 (n + 1) (Nat.not_lt.1 hbig)

theorem fractionDigits_append (hds : ∀ c ∈ ds, c.isDigit = true) (hrest : NoDigit rest)
    (n significand : Nat) (exponent : Int) :
    (fractionDigits (ds ++ rest) n significand exponent).2.2.rest = rest := by
  induction ds generalizing n significand exponent with
  | nil =>
    cases rest with
    | nil => rfl
    | cons c rest => simp [fractionDigits, hrest c rfl]
  | cons c ds ih =>
    have hall := hds
    rw [List.forall_mem_cons] at hds
    rw [List.cons_append, fractionDigits, if_pos hds.1]
    dsimp only
    split
    · rw [← List.cons_append, Input.skipDigits, skipDigitsFrom_append hall hrest]
    · exact ih hds.2 _ _ _

theorem exponentDigits_append (hds : ∀ c ∈ ds, c.isDigit = true) (hrest : NoDigit rest)
    (n acc : Nat) : ((exponentDigits (ds ++ rest) n acc).1.isSome = true ∧
        (exponentDigits (ds ++ rest) n acc).2.rest = rest) ∨
      ((exponentDigits (ds ++ rest) n acc).1 = none ∧
        (exponentDigits (ds ++ rest) n acc).2.skipDigits.rest = rest) := by
  induction ds generalizing n acc with
  | nil =>
    cases rest with
    | nil => exact .inl ⟨rfl, rfl⟩
    | cons c rest => simp [exponentDigits, hrest c rfl]
  | cons c ds ih =>
    rw [List.forall_mem_cons] at hds
    rw [List.cons_append, exponentDigits, if_pos hds.1]
    dsimp only
    split
    · refine .inr ⟨rfl, ?_⟩
      rw [Input.skipDigits, skipDigitsFrom_append hds.2 hrest]
    · exact ih hds.2 _ _

/-! ## Numbers -/

variable {negative : Bool} {significand : Nat} {exponent : Int} {i j : Input} {n : Number}

def IsFloat (n : Number) : Prop := ∃ x, n = .float x

theorem of_finishFloat (h : finishFloat negative significand exponent i = .ok (.ok n, j)) :
    IsFloat n ∧ j = i := by
  unfold finishFloat floatOf at h
  split at h
  · rename_i m hm
    obtain ⟨x, -, rfl⟩ := Option.map_eq_some_iff.1 hm
    cases h
    exact ⟨⟨_, rfl⟩, rfl⟩
  · cases h

/-- Behind the letter of an exponent stand a sign, unless it is left out, and digits. -/
theorem of_readExponent (h : readExponent negative significand exponent i = .ok (.ok n, j)) :
    IsFloat n ∧ ∃ sign cs, i.rest = sign ++ cs ∧ (sign = [] ∨ sign = ['+'] ∨ sign = ['-']) ∧
      Digits cs j.rest := by
  unfold readExponent at h
  split at h
  rename_i down k hdown
  have hsign : ∃ sign, i.rest = sign ++ k.rest ∧ (sign = [] ∨ sign = ['+'] ∨ sign = ['-']) := by
    obtain ⟨cs, m⟩ := i
    split at hdown <;> rename_i hcs <;> cases hdown
    · obtain rfl : cs = '+' :: _ := hcs
      exact ⟨['+'], rfl, .inr (.inl rfl)⟩
    · obtain rfl : cs = '-' :: _ := hcs
      exact ⟨['-'], rfl, .inr (.inr rfl)⟩
    · exact ⟨[], rfl, .inl rfl⟩
  obtain ⟨sign, hrest, hsign⟩ := hsign
  suffices hdigits : IsFloat n ∧ Digits k.rest j.rest from
    ⟨hdigits.1, sign, k.rest, hrest, hsign, hdigits.2⟩
  obtain ⟨cs, m⟩ := k
  obtain ⟨ds, rest, rfl, hds, hnext⟩ := exists_digits cs
  have hne : ds ≠ [] := by
    rintro rfl
    cases rest with
    | nil => cases h
    | cons c rest => simp [hnext c rfl] at h
  have hdigits := digits_append hds hne rest
  obtain ⟨c, ds', hcons⟩ := List.exists_cons_of_ne_nil hne
  have hc : c.isDigit = true := hds c (by simp [hcons])
  simp only [hcons, List.cons_append, hc, if_true] at h
  rw [← List.cons_append, ← hcons] at h
  obtain ⟨hsome, hleft⟩ | ⟨hnone, hleft⟩ := exponentDigits_append hds hnext m 0
  · split at h
    · obtain ⟨hfloat, rfl⟩ := of_finishFloat h
      rename_i hread
      rw [hread] at hleft
      exact ⟨hfloat, hleft ▸ hdigits⟩
    · rename_i hread
      rw [hread] at hsome
      cases hsome
  · split at h
    · rename_i hread
      rw [hread] at hnone
      cases hnone
    · rename_i hread
      rw [hread] at hleft
      split at h <;> cases h
      exact ⟨⟨_, rfl⟩, hleft ▸ hdigits⟩

theorem exponent_of_readExponent {e : Char} {cs : List Char} {m : Nat} (he : e = 'e' ∨ e = 'E')
    (h : readExponent negative significand exponent (Input.drop1 ⟨e :: cs, m⟩) = .ok (.ok n, j)) :
    IsFloat n ∧ Exponent (e :: cs) j.rest := by
  obtain ⟨hfloat, sign, ds, hrest, hsign, hdigits⟩ := of_readExponent h
  obtain rfl : cs = sign ++ ds := hrest
  exact ⟨hfloat, .some he hsign hdigits⟩

theorem of_afterDigits (h : afterDigits negative significand exponent i = .ok (.ok n, j)) :
    IsFloat n ∧ Exponent i.rest j.rest := by
  obtain ⟨cs, m⟩ := i
  unfold afterDigits at h
  split at h
  · rename_i hcs
    obtain rfl : cs = 'e' :: _ := hcs
    exact exponent_of_readExponent (.inl rfl) h
  · rename_i hcs
    obtain rfl : cs = 'E' :: _ := hcs
    exact exponent_of_readExponent (.inr rfl) h
  · obtain ⟨hfloat, rfl⟩ := of_finishFloat h
    exact ⟨hfloat, .none _⟩

theorem of_readFraction (h : readFraction negative significand exponent i = .ok (.ok n, j)) :
    IsFloat n ∧ ∃ more, Digits i.rest more ∧ Exponent more j.rest := by
  obtain ⟨cs, m⟩ := i
  obtain ⟨ds, rest, rfl, hds, hnext⟩ := exists_digits cs
  have hleft := fractionDigits_append hds hnext m significand exponent
  unfold readFraction at h
  dsimp only at h
  have hne : ds ≠ [] := by
    rintro rfl
    cases rest with
    | nil => cases h
    | cons c rest => simp [hnext c rfl] at h
  have hdigits := digits_append hds hne rest
  obtain ⟨c, ds', hcons⟩ := List.exists_cons_of_ne_nil hne
  have hc : c.isDigit = true := hds c (by simp [hcons])
  simp only [hcons, List.cons_append, hc, if_true] at h
  rw [← List.cons_append, ← hcons] at h
  obtain ⟨hfloat, hexponent⟩ := of_afterDigits h
  rw [hleft] at hexponent
  exact ⟨hfloat, rest, hdigits, hexponent⟩

theorem fits64_integerValue (negative : Bool) {k : Nat} (hk : k ≤ maxNatural) :
    integerValue negative k = (if negative then .negative k else .natural k) ∧ Fits64 negative k ∨
      IsFloat (integerValue negative k) ∧ ¬ Fits64 negative k := by
  cases negative with
  | false => exact .inl ⟨rfl, hk⟩
  | true =>
    by_cases hfits : 0 < k ∧ k ≤ Nat.pow 2 63
    · exact .inl ⟨if_pos hfits, hfits⟩
    · exact .inr ⟨⟨_, if_neg hfits⟩, hfits⟩

theorem fits64_le {k : Nat} (h : Fits64 negative k) : k ≤ maxNatural := by
  cases negative with
  | false => exact h
  | true => exact Nat.le_trans h.2 (by decide)

theorem Digits.length_lt {cs rest : List Char} (h : Digits cs rest) :
    rest.length < cs.length := by
  induction h with
  | last => simp
  | more _ _ ih => exact Nat.lt_succ_of_lt ih

theorem Exponent.length_le {cs rest : List Char} (h : Exponent cs rest) :
    rest.length ≤ cs.length := by
  cases h with
  | none => exact Nat.le_refl _
  | some _ _ h =>
    have hlt := h.length_lt
    simp only [List.length_cons, List.length_append]
    omega

theorem spelledNumber_float {k : Nat} {point more rest : List Char} (hn : IsFloat n)
    (hfraction : Fraction point more) (hexponent : Exponent more rest)
    (hfits : point = rest → ¬ Fits64 negative k) :
    SpelledNumber n (signOf negative ++ (Nat.toDigits 10 k ++ point)) rest := by
  obtain ⟨x, rfl⟩ := hn
  exact ⟨negative, k, point, more, rfl, hfraction, hexponent, hfits⟩

theorem spelledNumber_fraction {more : List Char} {m : Nat} (k : Nat)
    (h : readFraction negative significand exponent (Input.drop1 ⟨'.' :: more, m⟩) =
      .ok (.ok n, j)) :
    SpelledNumber n (signOf negative ++ (Nat.toDigits 10 k ++ '.' :: more)) j.rest := by
  obtain ⟨hfloat, behind, hdigits, hexponent⟩ := of_readFraction h
  change Digits more behind at hdigits
  refine spelledNumber_float hfloat (.some hdigits) hexponent fun heq => ?_
  have hlt := hdigits.length_lt
  have hle := hexponent.length_le
  rw [← heq, List.length_cons] at hle
  omega

theorem spelledNumber_exponent {e : Char} {more : List Char} {m : Nat} (k : Nat)
    (he : e = 'e' ∨ e = 'E')
    (h : readExponent negative significand exponent (Input.drop1 ⟨e :: more, m⟩) =
      .ok (.ok n, j)) :
    SpelledNumber n (signOf negative ++ (Nat.toDigits 10 k ++ e :: more)) j.rest := by
  obtain ⟨hfloat, sign, cs, hrest, hsign, hdigits⟩ := of_readExponent h
  obtain rfl : more = sign ++ cs := hrest
  refine spelledNumber_float hfloat (.none _) (.some he hsign hdigits) fun heq => ?_
  have hlt := hdigits.length_lt
  rw [← heq, List.length_cons, List.length_append] at hlt
  omega

theorem spelledNumber_integerValue {k : Nat} (hk : k ≤ maxNatural) (rest : List Char) :
    SpelledNumber (integerValue negative k) (signOf negative ++ (Nat.toDigits 10 k ++ rest))
      rest := by
  obtain ⟨hvalue, hfits⟩ | ⟨hfloat, hfits⟩ := fits64_integerValue negative hk
  · rw [hvalue]
    cases negative with
    | false => exact ⟨rfl, hfits⟩
    | true => exact ⟨rfl, hfits⟩
  · exact spelledNumber_float hfloat (.none _) (.none _) fun _ => hfits

/-- A point or the letter of an exponent goes on with the number; otherwise it ends behind its
digits. -/
theorem spelledNumber_tail {m : Nat} {ended : ReadNumber} (k : Nat)
    (hended : ended = .ok (.ok n, j) →
      SpelledNumber n (signOf negative ++ (Nat.toDigits 10 k ++ rest)) j.rest)
    (h : (match rest with
      | '.' :: _ => readFraction negative significand exponent (Input.drop1 ⟨rest, m⟩)
      | 'e' :: _ | 'E' :: _ => readExponent negative significand exponent (Input.drop1 ⟨rest, m⟩)
      | _ => ended) = .ok (.ok n, j)) :
    SpelledNumber n (signOf negative ++ (Nat.toDigits 10 k ++ rest)) j.rest := by
  split at h
  · exact spelledNumber_fraction k h
  · exact spelledNumber_exponent k (.inl rfl) h
  · exact spelledNumber_exponent k (.inr rfl) h
  · exact hended h

/-- Whatever is read as a number is spelled like one. -/
theorem spelledNumber_of_readUnsigned {cs : List Char} {m : Nat}
    (h : readUnsigned negative ⟨cs, m⟩ = .ok (.ok n, j)) :
    SpelledNumber n (signOf negative ++ cs) j.rest := by
  unfold readUnsigned at h
  split at h
  · cases h
  rename_i c r hcs
  obtain rfl : cs = c :: r := hcs
  split at h
  · cases h
  rename_i hlead
  split at h
  case isFalse => cases h
  rename_i hc
  obtain ⟨ds, rest, hsplit, hds, hnext⟩ := exists_digits (c :: r)
  have hne : ds ≠ [] := by
    rintro rfl
    obtain rfl : c :: r = rest := hsplit
    rw [hnext c rfl] at hc
    cases hc
  have hzero : NoLeadingZero ds := by
    intro hhead
    obtain ⟨d, ds, rfl⟩ := List.exists_cons_of_ne_nil hne
    obtain rfl : d = '0' := by simpa using hhead
    obtain ⟨rfl, rfl⟩ : c = '0' ∧ r = ds ++ rest := by simpa using hsplit
    cases ds with
    | nil => rfl
    | cons e ds =>
      have he : e.isDigit = true := hds e (by simp)
      simp [he] at hlead
  have hvalue := toDigits_ofDigitChars hne hds hzero
  rw [hsplit] at h ⊢
  obtain ⟨m', hint⟩ := integerDigits_append hds hnext m (Nat.zero_le _)
  obtain ⟨hint, hsmall⟩ | ⟨⟨v, i, hint⟩, hbig⟩ := hint
  · simp only [hint] at h
    rw [← hvalue]
    refine spelledNumber_tail _ (fun hended => ?_) h
    simp only [Option.isSome_none, Bool.false_eq_true, if_false, Except.ok.injEq,
      Prod.mk.injEq] at hended
    obtain ⟨rfl, rfl⟩ := hended
    exact spelledNumber_integerValue hsmall rest
  · simp only [hint] at h
    rw [← hvalue]
    refine spelledNumber_tail _ (fun hended => ?_) h
    rw [Option.isSome_some, if_pos rfl] at hended
    obtain ⟨hfloat, rfl⟩ := of_finishFloat hended
    exact spelledNumber_float hfloat (.none _) (.none _) fun _ hfits =>
      Nat.not_le.2 hbig (fits64_le hfits)

/-- Nothing that comes next could belong to a number. -/
def EndsNumber (rest : List Char) : Prop :=
  ∀ c ∈ rest.head?, c.isDigit = false ∧ c ≠ '.' ∧ c ≠ 'e' ∧ c ≠ 'E'

theorem readUnsigned_toDigits (negative : Bool) {k : Nat} (hk : k ≤ maxNatural)
    (hrest : EndsNumber rest) (m : Nat) :
    ∃ m', readUnsigned negative ⟨Nat.toDigits 10 k ++ rest, m⟩ =
      .ok (.ok (integerValue negative k), ⟨rest, m'⟩) := by
  have hdigits := isDigit_toDigits k
  have hnext : NoDigit rest := fun c hc => (hrest c hc).1
  have hvalue : Nat.ofDigitChars 10 (Nat.toDigits 10 k) 0 = k :=
    Nat.ofDigitChars_toDigits (by decide) (by decide)
  obtain ⟨m', hint⟩ := integerDigits_append hdigits hnext m (Nat.zero_le _)
  rw [hvalue] at hint
  obtain ⟨hint, -⟩ | ⟨-, hbig⟩ := hint
  case inr => exact absurd hk (Nat.not_le.2 hbig)
  have hzero := noLeadingZero_toDigits k
  obtain ⟨c, ds, hcons, hc⟩ := exists_cons_toDigits k
  have hlead : ¬ (c = '0' ∧ ((ds ++ rest).head?.map Char.isDigit).getD false = true) := by
    rintro ⟨rfl, hdigit⟩
    have hds : ds = [] := by simpa [hcons] using hzero (by simp [hcons])
    rw [hds, List.nil_append] at hdigit
    cases rest with
    | nil => simp at hdigit
    | cons d rest => simp [hnext d rfl] at hdigit
  refine ⟨m', ?_⟩
  rw [hcons, List.cons_append] at hint ⊢
  unfold readUnsigned
  simp only [hlead, if_false, hc, if_true, hint]
  split
  · exact absurd rfl (hrest _ rfl).2.1
  · exact absurd rfl (hrest _ rfl).2.2.1
  · exact absurd rfl (hrest _ rfl).2.2.2
  · rfl

end ModuleBundler.Json
