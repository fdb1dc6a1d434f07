import ModuleBundler.Json.Document

/-!
# Reading what was written

A value made of texts and objects is read off its compact form as it was written, whatever stands
behind it, so that two of them with the same compact form are the same.
-/

namespace ModuleBundler.Json

/-! ## Strings -/

/-- The characters of an escape are passed without being looked at. -/
theorem readStringFrom_skip (passed rest : List Char) (n : Nat) (acc : List Char) :
    ∃ m, readStringFrom passed.length (passed ++ rest) n acc = readStringFrom 0 rest m acc := by
  induction passed generalizing n with
  | nil => exact ⟨n, rfl⟩
  | cons c passed ih =>
    obtain ⟨m, hm⟩ := ih (n + c.utf8Size)
    refine ⟨m, ?_⟩
    rw [List.length_cons, List.cons_append, readStringFrom, hm]

theorem hexValue?_hexDigit : ∀ n < 16, hexValue? (hexDigit n) = some n := by decide

/-- The escape of a control character denotes it. -/
theorem unicodeEscape_control {n : Nat} (hn : n < 32) (rest : List Char) (index : Nat) :
    unicodeEscape ⟨'0' :: '0' :: hexDigit (n / 16) :: hexDigit (n % 16) :: rest, index⟩ =
      .ok (Char.ofNat n, ⟨rest, index + 4⟩) := by
  have hzero : hexValue? '0' = some 0 := by decide
  have hvalue : ((0 * 16 + 0) * 16 + n / 16) * 16 + n % 16 = n := by omega
  have hhex : hexEscape ⟨'0' :: '0' :: hexDigit (n / 16) :: hexDigit (n % 16) :: rest, index⟩ =
      .ok (n, ⟨rest, index + 4⟩) := by
    simp only [hexEscape, hzero, hexValue?_hexDigit _ (show n / 16 < 16 by omega),
      hexValue?_hexDigit _ (show n % 16 < 16 by omega), hvalue]
  have hlow : ¬ (0xDC00 ≤ n ∧ n ≤ 0xDFFF) := by omega
  have hplain : n < 0xD800 ∨ 0xDBFF < n := by omega
  rw [unicodeEscape, hhex]
  simp only [bind, Except.bind, hlow, hplain, if_true, if_false, pure, Except.pure]

/-- A written character is read as itself. -/
theorem readStringFrom_quoteChar (c : Char) (rest : List Char) (n : Nat) (acc : List Char) :
    ∃ m, readStringFrom 0 (quoteChar c ++ rest) n acc = readStringFrom 0 rest m (c :: acc) := by
  unfold quoteChar
  split
  case h_8 _ hquote hslash _ _ _ _ _ =>
    split
    case isTrue hc =>
      obtain ⟨m, hm⟩ := readStringFrom_skip
        ['u', '0', '0', hexDigit (c.toNat / 16), hexDigit (c.toNat % 16)] rest (n + 1) (c :: acc)
      refine ⟨m, ?_⟩
      rw [← hm]
      simp only [List.cons_append, List.nil_append]
      rw [readStringFrom.eq_def]
      simp only [unicodeEscape_control hc, Char.ofNat_toNat]
      have hsize : n + 2 + 4 - (n + 1) = 5 := by omega
      simp [hsize]
    case isFalse hc =>
      refine ⟨n + c.utf8Size, ?_⟩
      rw [List.singleton_append, readStringFrom.eq_def]
      have hquote : c ≠ '"' := hquote
      have hslash : c ≠ '\\' := hslash
      simp [hquote, hslash, hc]
  all_goals
    exact ⟨_, rfl⟩

/-- A quoted text is read up to its closing quote. -/
theorem readStringFrom_quoted (cs rest : List Char) (n : Nat) (acc : List Char) :
    ∃ m, readStringFrom 0 (cs.flatMap quoteChar ++ '"' :: rest) n acc =
      .ok (String.ofList (acc.reverse ++ cs), ⟨rest, m⟩) := by
  induction cs generalizing n acc with
  | nil =>
    refine ⟨n + 1, ?_⟩
    rw [List.flatMap_nil, List.nil_append, readStringFrom.eq_def, List.append_nil]
    rfl
  | cons c cs ih =>
    obtain ⟨m, hm⟩ := readStringFrom_quoteChar c (cs.flatMap quoteChar ++ '"' :: rest) n acc
    obtain ⟨m', hm'⟩ := ih m (c :: acc)
    refine ⟨m', ?_⟩
    rw [List.flatMap_cons, List.append_assoc, hm, hm', List.reverse_cons, List.append_assoc]
    rfl

theorem toList_quote (s : String) :
    (quote s).toList = '"' :: (s.toList.flatMap quoteChar ++ ['"']) := by
  rw [quote, String.toList_ofList, quoteChars]
  rfl

/-- Behind its opening quote a quoted text is read as that text. -/
theorem readString_quote (s : String) (rest : List Char) (n : Nat) :
    ∃ m, readString (Input.drop1 ⟨(quote s).toList ++ rest, n⟩) = .ok (s, ⟨rest, m⟩) := by
  obtain ⟨m, hm⟩ := readStringFrom_quoted s.toList rest (n + 1) []
  refine ⟨m, ?_⟩
  rw [toList_quote, List.cons_append, List.append_assoc]
  exact hm.trans (by simp)

/-! ## Values as they were written -/

namespace Document

mutual

/-- The value that a whole document was read from, with the members of its objects in their
order. -/
def written? : Document → Option Value
  | .null _ => some .null
  | .bool b _ => some (.bool b)
  | .number (.ok n) _ => some (.number n)
  | .string s _ => some (.string s)
  | .array items none _ => (writtenItems? items).map .array
  | .object members none _ => (writtenMembers? members).map .object
  | .number (.error _) _ | .array _ (some _) _ | .object _ (some _) _ | .broken _ => none

def writtenItems? : List Document → Option (List Value)
  | [] => some []
  | d :: ds => (written? d).bind fun v => (writtenItems? ds).map (v :: ·)

def writtenMembers? : List (String × Document) → Option (List (String × Value))
  | [] => some []
  | (k, d) :: ds => (written? d).bind fun v => (writtenMembers? ds).map ((k, v) :: ·)

end

variable {d : Document} {s : String} {ds : List (String × Document)} {ms : List (String × Value)}

theorem eq_string (h : d.written? = some (.string s)) : ∃ stop, d = .string s stop := by
  cases d with
  | string s' stop =>
    simp only [written?, Option.some.injEq, Value.string.injEq] at h
    exact ⟨stop, by rw [h]⟩
  | null | bool | broken => simp [written?] at h
  | number n => cases n <;> simp [written?] at h
  | array _ ending | object _ ending => cases ending <;> simp [written?] at h

theorem eq_object (h : d.written? = some (.object ms)) :
    ∃ ds start, d = .object ds none start ∧ writtenMembers? ds = some ms := by
  cases d with
  | object ds ending start =>
    cases ending with
    | none => exact ⟨ds, start, rfl, by simpa [written?] using h⟩
    | some f => simp [written?] at h
  | null | bool | string | broken => simp [written?] at h
  | number n => cases n <;> simp [written?] at h
  | array _ ending => cases ending <;> simp [written?] at h

theorem eq_nil (h : writtenMembers? ds = some []) : ds = [] := by
  cases ds with
  | nil => rfl
  | cons m ds => simp [writtenMembers?, Option.bind_eq_some_iff] at h

theorem eq_cons {k : String} {v : Value} (h : writtenMembers? ds = some ((k, v) :: ms)) :
    ∃ d ds', ds = (k, d) :: ds' ∧ d.written? = some v ∧ writtenMembers? ds' = some ms := by
  cases ds with
  | nil => simp [writtenMembers?] at h
  | cons m ds =>
    obtain ⟨k', d⟩ := m
    simp only [writtenMembers?, Option.bind_eq_some_iff, Option.map_eq_some_iff, List.cons.injEq,
      Prod.mk.injEq] at h
    obtain ⟨v', hd, ms', hds, ⟨rfl, rfl⟩, rfl⟩ := h
    exact ⟨d, ds, rfl, hd, hds⟩

/-- A document has a value of its own kind, and only a whole one has. -/
theorem shape_of_value {v : Value} (h : d.value = .ok v) :
    match v with
    | .null => ∃ stop, d = .null stop
    | .bool b => ∃ stop, d = .bool b stop
    | .number n => ∃ stop, d = .number (.ok n) stop
    | .string s => ∃ stop, d = .string s stop
    | .array vs => ∃ ds start, d = .array ds none start ∧ valueItems ds = .ok vs
    | .object ms => ∃ ds start ms', d = .object ds none start ∧ valueMembers ds = .ok ms' ∧
        ms = Value.sortMembers ms' := by
  cases d with
  | null stop | bool b stop | string s stop =>
    cases h
    exact ⟨stop, rfl⟩
  | number n stop =>
    cases n with
    | error f => cases h
    | ok n =>
      cases h
      exact ⟨stop, rfl⟩
  | array ds ending start =>
    rw [value] at h
    cases hds : valueItems ds with
    | error f => simp [hds, bind, Except.bind] at h
    | ok vs =>
      cases ending with
      | some f => simp [hds, bind, Except.bind, throw, throwThe, MonadExceptOf.throw] at h
      | none =>
        rw [hds] at h
        cases h
        exact ⟨ds, start, rfl, hds⟩
  | object ds ending start =>
    rw [value] at h
    cases hds : valueMembers ds with
    | error f => simp [hds, bind, Except.bind] at h
    | ok ms =>
      cases ending with
      | some f => simp [hds, bind, Except.bind, throw, throwThe, MonadExceptOf.throw] at h
      | none =>
        rw [hds] at h
        cases h
        exact ⟨ds, start, ms, rfl, hds, rfl⟩
  | broken f => cases h

end Document

/-! ## Legible values -/

/-- Wherever the compact form of a value stands, this value is read off it, as long as more than
`depth` containers may open and there is a step for each of its characters. -/
def Legible (depth : Nat) (v : Value) : Prop :=
  ∀ fuel opens n rest, v.compact.toList.length ≤ fuel → depth < opens →
    ∃ d m, readValue fuel opens ⟨v.compact.toList ++ rest, n⟩ = (d, some ⟨rest, m⟩) ∧
      d.written? = some v

theorem skipBlanks_quote (s : String) (rest : List Char) (n : Nat) :
    Input.skipBlanks ⟨(quote s).toList ++ rest, n⟩ = ⟨(quote s).toList ++ rest, n⟩ := by
  rw [toList_quote]
  rfl

theorem readValue_quote (fuel depth : Nat) (s : String) (rest : List Char) (n : Nat) :
    ∃ m, readValue (fuel + 1) depth ⟨(quote s).toList ++ rest, n⟩ =
      (.string s m, some ⟨rest, m⟩) := by
  obtain ⟨m, hm⟩ := readString_quote s rest n
  refine ⟨m, ?_⟩
  rw [readValue.eq_def]
  dsimp only
  rw [skipBlanks_quote]
  rw [toList_quote] at hm ⊢
  simp only [List.cons_append] at hm ⊢
  rw [hm]

theorem legible_string (s : String) : Legible 0 (.string s) := by
  intro fuel opens n rest hfuel _
  obtain ⟨fuel, rfl⟩ : ∃ f, fuel = f + 1 := by
    rw [Value.compact, toList_quote, List.length_cons] at hfuel
    exact ⟨fuel - 1, by omega⟩
  obtain ⟨m, hm⟩ := readValue_quote fuel opens s rest n
  exact ⟨_, m, hm, rfl⟩

/-- Members as they stand behind others. -/
def furtherMembers : List (String × Value) → List Char
  | [] => []
  | m :: ms => ',' :: (Value.compactMembers (m :: ms)).toList

theorem compactMembers_cons (k : String) (v : Value) (ms : List (String × Value)) :
    (Value.compactMembers ((k, v) :: ms)).toList =
      (quote k).toList ++ ':' :: (v.compact.toList ++ furtherMembers ms) := by
  cases ms with
  | nil => simp [Value.compactMembers, furtherMembers]
  | cons m ms => simp [Value.compactMembers, furtherMembers]

theorem toList_compact_object (ms : List (String × Value)) :
    (Value.compact (.object ms)).toList =
      '\x7b' :: ((Value.compactMembers ms).toList ++ ['\x7d']) := by
  rw [Value.compact]
  simp

/-- What stands in front of a member: behind others a comma. -/
def separator : Bool → List Char
  | true => []
  | false => [',']

/-- One member is read and the reading goes on behind it. -/
theorem readMembers_member {fuel depth : Nat} {v : Value} {rest : List Char}
    (first : Bool) (k : String) (n : Nat)
    (hvalue : ∀ n, ∃ d m, readValue fuel depth ⟨v.compact.toList ++ rest, n⟩ =
      (d, some ⟨rest, m⟩) ∧ d.written? = some v) :
    ∃ d m, readMembers (fuel + 1) depth first
        ⟨separator first ++ ((quote k).toList ++ ':' :: (v.compact.toList ++ rest)), n⟩ =
      ((k, d) :: (readMembers fuel depth false ⟨rest, m⟩).1,
        (readMembers fuel depth false ⟨rest, m⟩).2) ∧ d.written? = some v := by
  have hcolon (m : Nat) : Input.skipBlanks ⟨':' :: (v.compact.toList ++ rest), m⟩ =
      ⟨':' :: (v.compact.toList ++ rest), m⟩ := rfl
  have hdrop (m : Nat) : Input.drop1 ⟨':' :: (v.compact.toList ++ rest), m⟩ =
      ⟨v.compact.toList ++ rest, m + 1⟩ := rfl
  cases first with
  | true =>
    obtain ⟨m, hkey⟩ := readString_quote k (':' :: (v.compact.toList ++ rest)) n
    obtain ⟨d, m', hd, hwritten⟩ := hvalue (m + 1)
    refine ⟨d, m', ?_, hwritten⟩
    rw [readMembers.eq_def]
    dsimp only [separator, List.nil_append]
    rw [skipBlanks_quote]
    rw [toList_quote k] at hkey ⊢
    simp only [List.cons_append, if_true] at hkey ⊢
    simp only [hkey, hcolon, hdrop, hd]
  | false =>
    obtain ⟨m, hkey⟩ := readString_quote k (':' :: (v.compact.toList ++ rest)) (n + 1)
    obtain ⟨d, m', hd, hwritten⟩ := hvalue (m + 1)
    have hcomma : Input.skipBlanks
          ⟨',' :: ((quote k).toList ++ ':' :: (v.compact.toList ++ rest)), n⟩ =
        ⟨',' :: ((quote k).toList ++ ':' :: (v.compact.toList ++ rest)), n⟩ := rfl
    have hnext : Input.drop1 ⟨',' :: ((quote k).toList ++ ':' :: (v.compact.toList ++ rest)), n⟩ =
        ⟨(quote k).toList ++ ':' :: (v.compact.toList ++ rest), n + 1⟩ := rfl
    refine ⟨d, m', ?_, hwritten⟩
    rw [readMembers.eq_def]
    dsimp only [separator, List.singleton_append]
    simp only [hcomma, hnext, skipBlanks_quote, Bool.false_eq_true, if_false]
    rw [toList_quote k] at hkey ⊢
    simp only [List.cons_append] at hkey ⊢
    simp only [hkey, hcolon, hdrop, hd]

variable {depth opens : Nat} {ms : List (String × Value)}

/-- Further members are read up to the brace that closes the object. -/
theorem readMembers_furtherMembers (hms : ∀ m ∈ ms, Legible depth m.2) (hopens : depth < opens)
    (rest : List Char) :
    ∀ fuel n, (furtherMembers ms).length < fuel →
      ∃ ds m, readMembers fuel opens false ⟨furtherMembers ms ++ '\x7d' :: rest, n⟩ =
          (ds, .ok ⟨rest, m⟩) ∧
        Document.writtenMembers? ds = some ms := by
  induction ms with
  | nil =>
    intro fuel n hfuel
    obtain ⟨fuel, rfl⟩ : ∃ f, fuel = f + 1 := ⟨fuel - 1, by omega⟩
    refine ⟨[], n + 1, ?_, rfl⟩
    rw [readMembers.eq_def]
    rfl
  | cons member ms ih =>
    intro fuel n hfuel
    obtain ⟨k, v⟩ := member
    rw [furtherMembers, compactMembers_cons] at hfuel ⊢
    simp only [List.length_cons, List.length_append] at hfuel
    obtain ⟨fuel, rfl⟩ : ∃ f, fuel = f + 1 := ⟨fuel - 1, by omega⟩
    have hv : Legible depth v := hms (k, v) (List.mem_cons_self ..)
    obtain ⟨d, m, hmember, hd⟩ := readMembers_member false k n fun n =>
      hv fuel opens n (furtherMembers ms ++ '\x7d' :: rest) (by omega) hopens
    obtain ⟨ds, m', hmore, hds⟩ :=
      ih (fun m hm => hms m (List.mem_cons_of_mem _ hm)) fuel m (by omega)
    refine ⟨(k, d) :: ds, m', ?_, ?_⟩
    · rw [hmore] at hmember
      simpa [separator] using hmember
    · rw [Document.writtenMembers?, hd, hds]
      rfl

/-- The members of an object are read up to its brace. -/
theorem readMembers_compactMembers (hms : ∀ m ∈ ms, Legible depth m.2) (hopens : depth < opens)
    (rest : List Char) (fuel n : Nat) (hfuel : (Value.compactMembers ms).toList.length < fuel) :
    ∃ ds m, readMembers fuel opens true
        ⟨(Value.compactMembers ms).toList ++ '\x7d' :: rest, n⟩ = (ds, .ok ⟨rest, m⟩) ∧
      Document.writtenMembers? ds = some ms := by
  cases ms with
  | nil =>
    obtain ⟨fuel, rfl⟩ : ∃ f, fuel = f + 1 := ⟨fuel - 1, by omega⟩
    refine ⟨[], n + 1, ?_, rfl⟩
    rw [readMembers.eq_def]
    rfl
  | cons member ms =>
    obtain ⟨k, v⟩ := member
    rw [compactMembers_cons] at hfuel ⊢
    simp only [List.length_cons, List.length_append] at hfuel
    obtain ⟨fuel, rfl⟩ : ∃ f, fuel = f + 1 := ⟨fuel - 1, by omega⟩
    have hv : Legible depth v := hms (k, v) (List.mem_cons_self ..)
    obtain ⟨d, m, hmember, hd⟩ := readMembers_member true k n fun n =>
      hv fuel opens n (furtherMembers ms ++ '\x7d' :: rest) (by omega) hopens
    obtain ⟨ds, m', hmore, hds⟩ := readMembers_furtherMembers
      (fun m hm => hms m (List.mem_cons_of_mem _ hm)) hopens rest fuel m (by omega)
    refine ⟨(k, d) :: ds, m', ?_, ?_⟩
    · rw [hmore] at hmember
      simpa [separator] using hmember
    · rw [Document.writtenMembers?, hd, hds]
      rfl

theorem readValue_object {fuel n m : Nat} {cs rest : List Char} {ds : List (String × Document)}
    (hopens : 1 ≤ opens)
    (hmembers : readMembers fuel opens true ⟨cs, n + 1⟩ = (ds, .ok ⟨rest, m⟩)) :
    ∃ start, readValue (fuel + 1) (opens + 1) ⟨'\x7b' :: cs, n⟩ =
      (.object ds none start, some ⟨rest, m⟩) := by
  have hbrace : Input.skipBlanks ⟨'\x7b' :: cs, n⟩ = ⟨'\x7b' :: cs, n⟩ := rfl
  have hdrop : Input.drop1 ⟨'\x7b' :: cs, n⟩ = ⟨cs, n + 1⟩ := rfl
  obtain ⟨opens, rfl⟩ : ∃ o, opens = o + 1 := ⟨opens - 1, by omega⟩
  refine ⟨n, ?_⟩
  rw [readValue.eq_def]
  simp only [hbrace, hdrop, hmembers]
  rfl

/-- An object of legible values is legible. -/
theorem legible_object (hms : ∀ m ∈ ms, Legible depth m.2) : Legible (depth + 1) (.object ms) := by
  intro fuel opens n rest hfuel hopens
  rw [toList_compact_object] at hfuel ⊢
  simp only [List.length_cons, List.length_append, List.length_nil] at hfuel
  obtain ⟨fuel, rfl⟩ : ∃ f, fuel = f + 1 := ⟨fuel - 1, by omega⟩
  obtain ⟨opens, rfl⟩ : ∃ o, opens = o + 1 := ⟨opens - 1, by omega⟩
  obtain ⟨ds, m, hmembers, hds⟩ :=
    readMembers_compactMembers hms (show depth < opens by omega) rest fuel (n + 1) (by omega)
  obtain ⟨start, hstart⟩ := readValue_object (by omega) hmembers
  refine ⟨.object ds none start, m, ?_, ?_⟩
  · simpa using hstart
  · rw [Document.written?, hds]
    rfl

theorem Legible.mono {v : Value} {depth' : Nat} (h : Legible depth v) (hle : depth ≤ depth') :
    Legible depth' v :=
  fun fuel opens n rest hfuel hopens => h fuel opens n rest hfuel (Nat.lt_of_le_of_lt hle hopens)

/-! ## Whole texts -/

/-- The compact form of a legible value is read as a whole, and nothing is left. -/
theorem Legible.read {v : Value} (h : Legible depth v) (hdepth : depth < maxDepth) :
    ∃ d, read v.compact = ⟨d, none⟩ ∧ d.written? = some v := by
  obtain ⟨d, m, hread, hd⟩ := h (2 * v.compact.toList.length + 2) maxDepth 0 [] (by omega) hdepth
  rw [List.append_nil] at hread
  refine ⟨d, ?_, hd⟩
  rw [Json.read, hread]
  rfl

/-- Legible values with the same compact form are the same. -/
theorem Legible.eq_of_compact {v w : Value} (hv : Legible depth v) (hw : Legible depth w)
    (hdepth : depth < maxDepth) (h : v.compact = w.compact) : v = w := by
  obtain ⟨d, hd, hdv⟩ := hv.read hdepth
  obtain ⟨e, he, hew⟩ := hw.read hdepth
  have hsame : d = e := by
    rw [h, he] at hd
    exact congrArg Text.document hd.symm
  rw [← hsame, hdv] at hew
  exact Option.some.inj hew

/-- A text denotes the value of its document, and nothing stands behind it. -/
theorem read_of_parse {text : String} {v : Value} (h : parse text = .ok v) :
    ∃ d, read text = ⟨d, none⟩ ∧ d.value = .ok v := by
  unfold parse at h
  cases hread : read text with
  | mk d trailing =>
    rw [hread] at h
    dsimp only at h
    cases hvalue : d.value with
    | error f => simp [hvalue, bind, Except.bind] at h
    | ok v' =>
      cases trailing with
      | some f => simp [hvalue, bind, Except.bind, throw, throwThe, MonadExceptOf.throw] at h
      | none =>
        rw [hvalue] at h
        cases h
        exact ⟨d, rfl, hvalue⟩

/-- A quoted text is read as that text. -/
theorem parse_quote (s : String) : parse (quote s) = .ok (.string s) := by
  obtain ⟨d, hread, hd⟩ := (legible_string s).read (by decide)
  obtain ⟨stop, rfl⟩ := Document.eq_string hd
  rw [Value.compact] at hread
  rw [parse, hread]
  rfl

/-- The member with a text as its value. -/
def textMember (m : String × String) : String × Value := (m.1, .string m.2)

theorem valueMembers_textMembers {ds : List (String × Document)} {ms : List (String × String)}
    (h : Document.writtenMembers? ds = some (ms.map textMember)) :
    Document.valueMembers ds = .ok (ms.map textMember) := by
  induction ms generalizing ds with
  | nil =>
    rw [Document.eq_nil h]
    rfl
  | cons m ms ih =>
    obtain ⟨d, ds, rfl, hd, hds⟩ := Document.eq_cons h
    obtain ⟨stop, rfl⟩ := Document.eq_string hd
    rw [Document.valueMembers, ih hds]
    rfl

/-- The compact form of an object of texts is read as that object. -/
theorem parse_compact (ms : List (String × String)) :
    parse (Value.compact (.object (ms.map textMember))) =
      .ok (.object (Value.sortMembers (ms.map textMember))) := by
  have hlegible : Legible 1 (.object (ms.map textMember)) := by
    apply legible_object
    intro m hm
    obtain ⟨t, -, rfl⟩ := List.mem_map.1 hm
    exact legible_string t.2
  obtain ⟨d, hread, hd⟩ := hlegible.read (by decide)
  obtain ⟨ds, start, rfl, hds⟩ := Document.eq_object hd
  rw [parse, hread]
  dsimp only
  rw [Document.value, valueMembers_textMembers hds]
  rfl

end ModuleBundler.Json
