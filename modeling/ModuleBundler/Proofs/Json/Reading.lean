import ModuleBundler.Proofs.Json.Scalar

/-!
# Reading by the grammar

The reader accepts what the grammar derives and nothing else: whatever is read as a value is spelled
in front of the rest, and a value that is spelled with exact numbers, and not nested too deeply, is
read.
-/

namespace ModuleBundler.Json

open Document (written? writtenItems? writtenMembers?)

theorem Blank.trans {cs behind rest : List Char} (h : Blank cs behind) (hrest : Blank behind rest) :
    Blank cs rest := by
  induction h with
  | none => exact hrest
  | more hc _ ih => exact .more hc (ih hrest)

theorem Lead.blank {first : Bool} {cs behind rest : List Char} (h : Lead first cs behind)
    (hrest : Blank behind rest) : Lead first cs rest := by
  cases first with
  | true => exact Blank.trans h hrest
  | false =>
    obtain ⟨more, hmore, hbehind⟩ := h
    exact ⟨more, hmore, hbehind.trans hrest⟩

/-! ## Words -/

theorem readWord_append (word rest : List Char) (n : Nat) :
    ∃ m, readWord word ⟨word ++ rest, n⟩ = .ok ⟨rest, m⟩ := by
  induction word generalizing n with
  | nil => exact ⟨n, rfl⟩
  | cons c word ih =>
    obtain ⟨m, hm⟩ := ih (n + c.utf8Size)
    refine ⟨m, ?_⟩
    rw [List.cons_append, readWord]
    exact (if_pos rfl).trans hm

/-- A word that stands there is read as what it denotes. -/
theorem scalar_append (word rest : List Char) (n : Nat) {make : Nat → Document} {v : Value}
    (hmake : ∀ n, (make n).written? = some v) :
    ∃ d m, scalar (readWord word ⟨word ++ rest, n⟩) make = (d, some ⟨rest, m⟩) ∧
      d.written? = some v := by
  obtain ⟨m, hm⟩ := readWord_append word rest n
  exact ⟨make m, m, congrArg (scalar · make) hm, hmake m⟩

theorem eq_append_of_readWord {word : List Char} {i j : Input} (h : readWord word i = .ok j) :
    i.rest = word ++ j.rest := by
  induction word generalizing i with
  | nil =>
    cases h
    rfl
  | cons e word ih =>
    obtain ⟨cs, n⟩ := i
    cases cs with
    | nil => cases h
    | cons c cs =>
      rw [readWord] at h
      dsimp only at h
      split at h
      · rename_i hc
        have hrest := ih h
        obtain rfl : cs = word ++ j.rest := hrest
        rw [hc, List.cons_append]
      · cases h

/-- What a word is read as, if it stands there. -/
theorem of_scalar {word : List Char} {i : Input} {make : Nat → Document} {v w : Value}
    (hmake : ∀ n, (make n).written? = some v)
    (h : (scalar (readWord word i) make).1.written? = some w) :
    w = v ∧ ∃ j, (scalar (readWord word i) make).2 = some j ∧ i.rest = word ++ j.rest := by
  cases hread : readWord word i with
  | error f => simp [hread, scalar, written?] at h
  | ok j =>
    rw [hread] at h
    exact ⟨Option.some.inj (h.symm.trans (hmake _)), j, rfl, eq_append_of_readWord hread⟩

/-! ## Whatever is read is spelled -/

/-- An array or an object that ended has no fault at its end. -/
theorem ne_error_of_ending {e : Except (Option FaultAt) Input}
    (h : (match e with
      | .error f? => f?
      | .ok _ => none) = none) (f : FaultAt) : e ≠ .error (some f) := by
  rintro rfl
  cases h

theorem written?_array {items : List Document} {ending : Option FaultAt} {start : Nat} {v : Value}
    (h : (Document.array items ending start).written? = some v) :
    ending = none ∧ ∃ vs, writtenItems? items = some vs ∧ v = .array vs := by
  cases ending with
  | some f => cases h
  | none =>
    obtain ⟨vs, hvs, rfl⟩ := Option.map_eq_some_iff.1 h
    exact ⟨rfl, vs, hvs, rfl⟩

theorem written?_object {members : List (String × Document)} {ending : Option FaultAt}
    {start : Nat} {v : Value} (h : (Document.object members ending start).written? = some v) :
    ending = none ∧ ∃ ms, writtenMembers? members = some ms ∧ v = .object ms := by
  cases ending with
  | some f => cases h
  | none =>
    obtain ⟨ms, hms, rfl⟩ := Option.map_eq_some_iff.1 h
    exact ⟨rfl, ms, hms, rfl⟩

/-- A number with its sign. -/
theorem spelledNumber_of_read {c : Char} {cs : List Char} {n : Nat} {x : Number} {j : Input}
    (h : readUnsigned (c = '-') (if c = '-' then Input.drop1 ⟨c :: cs, n⟩ else ⟨c :: cs, n⟩) =
      .ok (.ok x, j)) : SpelledNumber x (c :: cs) j.rest := by
  by_cases hc : c = '-'
  · subst hc
    exact (spelledNumber_of_readUnsigned h : SpelledNumber x (signOf true ++ cs) j.rest)
  · rw [if_neg hc, decide_eq_false hc] at h
    exact spelledNumber_of_readUnsigned h

/-- What is read with so much fuel as a value is spelled. -/
def ValuesSpelled (fuel : Nat) : Prop :=
  ∀ opens cs n v, 0 < opens → (readValue fuel opens ⟨cs, n⟩).1.written? = some v →
    ∃ text j, (readValue fuel opens ⟨cs, n⟩).2 = some j ∧ Blank cs text ∧
      Spelled v text j.rest ∧ v.nesting < opens

def ItemsSpelled (fuel : Nat) : Prop :=
  ∀ opens first cs n vs, 0 < opens →
    writtenItems? (readItems fuel opens first ⟨cs, n⟩).1 = some vs →
    (∀ f, (readItems fuel opens first ⟨cs, n⟩).2 ≠ .error (some f)) →
    ∃ j, (readItems fuel opens first ⟨cs, n⟩).2 = .ok j ∧ SpelledItems vs first cs j.rest ∧
      Value.nestingOfItems vs < opens

def MembersSpelled (fuel : Nat) : Prop :=
  ∀ opens first cs n ms, 0 < opens →
    writtenMembers? (readMembers fuel opens first ⟨cs, n⟩).1 = some ms →
    (∀ f, (readMembers fuel opens first ⟨cs, n⟩).2 ≠ .error (some f)) →
    ∃ j, (readMembers fuel opens first ⟨cs, n⟩).2 = .ok j ∧ SpelledMembers ms first cs j.rest ∧
      Value.nestingOfMembers ms < opens

theorem valuesSpelled_succ {fuel : Nat} (hitems : ItemsSpelled fuel)
    (hmembers : MembersSpelled fuel) : ValuesSpelled (fuel + 1) := by
  intro opens cs n v hopens h
  rw [readValue.eq_def] at h ⊢
  dsimp only at h ⊢
  obtain ⟨hblank, -⟩ := blank_skipBlanks cs n
  generalize Input.skipBlanks ⟨cs, n⟩ = i at h hblank ⊢
  obtain ⟨text, m⟩ := i
  refine ⟨text, ?_⟩
  dsimp only at h hblank ⊢
  split at h
  · cases h
  · obtain ⟨rfl, j, hj, hrest⟩ := of_scalar (fun _ => rfl) h
    exact ⟨j, hj, hblank, congrArg _ hrest, hopens⟩
  · obtain ⟨rfl, j, hj, hrest⟩ := of_scalar (fun _ => rfl) h
    exact ⟨j, hj, hblank, congrArg _ hrest, hopens⟩
  · obtain ⟨rfl, j, hj, hrest⟩ := of_scalar (fun _ => rfl) h
    exact ⟨j, hj, hblank, congrArg _ hrest, hopens⟩
  · split at h
    · cases h
    · rename_i s j hread
      cases h
      exact ⟨j, rfl, hblank, spelledString_of_readString hread, hopens⟩
  · split at h
    · cases h
    · cases h
    · rename_i tail _ depth hdepth
      obtain ⟨hending, vs, hvs, rfl⟩ := written?_array h
      obtain ⟨j, hj, hspelled, hnesting⟩ := hitems depth true tail _ vs
        (Nat.pos_of_ne_zero hdepth) hvs (ne_error_of_ending hending)
      exact ⟨j, congrArg Except.toOption hj, hblank, ⟨tail, rfl, hspelled⟩,
        Nat.succ_lt_succ hnesting⟩
  · split at h
    · cases h
    · cases h
    · rename_i tail _ depth hdepth
      obtain ⟨hending, ms, hms, rfl⟩ := written?_object h
      obtain ⟨j, hj, hspelled, hnesting⟩ := hmembers depth true tail _ ms
        (Nat.pos_of_ne_zero hdepth) hms (ne_error_of_ending hending)
      exact ⟨j, congrArg Except.toOption hj, hblank, ⟨tail, rfl, hspelled⟩,
        Nat.succ_lt_succ hnesting⟩
  · split at h
    · rename_i hc
      split at h
      · cases h
      · rename_i x j hread
        cases x with
        | error f => cases h
        | ok x =>
          cases h
          rw [if_pos hc]
          exact ⟨j, rfl, hblank, spelledNumber_of_read hread, hopens⟩
    · cases h

/-- An item that has been read, and the items behind it. -/
def thenItems (fuel opens : Nat) :
    Document × Option Input → List Document × Except (Option FaultAt) Input
  | (d, none) => ([d], .error none)
  | (d, some i) =>
    (d :: (readItems fuel opens false i).1, (readItems fuel opens false i).2)

/-- Unless there is a fault, the list ends or an item comes next. -/
theorem readItems_cases {fuel opens : Nat} {first : Bool} {cs : List Char} {n : Nat}
    (h : ∀ f, (readItems (fuel + 1) opens first ⟨cs, n⟩).2 ≠ .error (some f)) :
    (∃ rest m, Blank cs (']' :: rest) ∧
      readItems (fuel + 1) opens first ⟨cs, n⟩ = ([], .ok ⟨rest, m⟩)) ∨
    ∃ text m, Lead first cs text ∧ readItems (fuel + 1) opens first ⟨cs, n⟩ =
      thenItems fuel opens (readValue fuel opens ⟨text, m⟩) := by
  rw [readItems.eq_def] at h ⊢
  dsimp only at h ⊢
  obtain ⟨hblank, -⟩ := blank_skipBlanks cs n
  generalize Input.skipBlanks ⟨cs, n⟩ = i at h hblank ⊢
  obtain ⟨text, m⟩ := i
  dsimp only at h hblank ⊢
  split at h
  · exact absurd rfl (h _)
  · exact .inl ⟨_, _, hblank, rfl⟩
  · split at h
    · rename_i hfirst
      subst hfirst
      exact .inr ⟨_, m, hblank, rfl⟩
    · rename_i hfirst
      obtain rfl : first = false := Bool.eq_false_iff.2 hfirst
      rename_i more
      have hdrop : Input.drop1 ⟨',' :: more, m⟩ = ⟨more, m + 1⟩ := rfl
      simp only [hdrop] at h ⊢
      obtain ⟨hbehind, -⟩ := blank_skipBlanks more (m + 1)
      generalize Input.skipBlanks ⟨more, m + 1⟩ = i at h hbehind ⊢
      obtain ⟨text, k⟩ := i
      dsimp only at h hbehind ⊢
      split at h
      · exact absurd rfl (h _)
      · exact absurd rfl (h _)
      · exact .inr ⟨_, k, ⟨more, hblank, hbehind⟩, rfl⟩
  · split at h
    · rename_i hfirst
      subst hfirst
      exact .inr ⟨_, m, hblank, rfl⟩
    · exact absurd rfl (h _)

theorem itemsSpelled_succ {fuel : Nat} (hvalues : ValuesSpelled fuel)
    (hitems : ItemsSpelled fuel) : ItemsSpelled (fuel + 1) := by
  intro opens first cs n vs hopens h hending
  obtain ⟨rest, m, hblank, hread⟩ | ⟨text, m, hlead, hread⟩ := readItems_cases hending
  · rw [hread] at h ⊢
    cases h
    exact ⟨_, rfl, hblank, hopens⟩
  · rw [hread] at h hending ⊢
    have hvalue := hvalues opens text m
    generalize readValue fuel opens ⟨text, m⟩ = r at h hending hvalue ⊢
    obtain ⟨d, _ | ⟨cs, m⟩⟩ := r
    · obtain ⟨v, hv, -⟩ := Option.bind_eq_some_iff.1 h
      obtain ⟨_, _, hnone, -⟩ := hvalue v hopens hv
      cases hnone
    · obtain ⟨v, hv, hmore⟩ := Option.bind_eq_some_iff.1 h
      obtain ⟨vs, hvs, rfl⟩ := Option.map_eq_some_iff.1 hmore
      obtain ⟨behind, _, ⟨⟩, hblank, hspelled, hnesting⟩ := hvalue v hopens hv
      obtain ⟨j, hj, hitems, hdepth⟩ := hitems opens false cs m vs hopens hvs hending
      exact ⟨j, hj, ⟨behind, cs, hlead.blank hblank, hspelled, hitems⟩,
        Nat.max_lt.2 ⟨hnesting, hdepth⟩⟩

/-- A member of which the key has been read, and the members behind it. -/
def thenMembers (fuel opens : Nat) (key : String) :
    Document × Option Input → List (String × Document) × Except (Option FaultAt) Input
  | (d, none) => ([(key, d)], .error none)
  | (d, some i) =>
    ((key, d) :: (readMembers fuel opens false i).1, (readMembers fuel opens false i).2)

/-- What is read from a key on. -/
def memberFrom (fuel opens : Nat) (i : Input) :
    List (String × Document) × Except (Option FaultAt) Input :=
  match readString i.drop1 with
  | .error f => ([], .error (some f))
  | .ok (key, i) =>
    match i.skipBlanks.rest with
    | [] => ([(key, .broken (i.skipBlanks.faultAtNext .endInObject))], .error none)
    | ':' :: _ => thenMembers fuel opens key (readValue fuel opens i.skipBlanks.drop1)
    | _ => ([(key, .broken (i.skipBlanks.faultAtNext .expectedColon))], .error none)

/-- Unless there is a fault, the object ends or a key comes next. -/
theorem readMembers_cases {fuel opens : Nat} {first : Bool} {cs : List Char} {n : Nat}
    (h : ∀ f, (readMembers (fuel + 1) opens first ⟨cs, n⟩).2 ≠ .error (some f)) :
    (∃ rest m, Blank cs ('\x7d' :: rest) ∧
      readMembers (fuel + 1) opens first ⟨cs, n⟩ = ([], .ok ⟨rest, m⟩)) ∨
    ∃ text m, Lead first cs ('"' :: text) ∧ readMembers (fuel + 1) opens first ⟨cs, n⟩ =
      memberFrom fuel opens ⟨'"' :: text, m⟩ := by
  rw [readMembers.eq_def] at h ⊢
  dsimp only at h ⊢
  obtain ⟨hblank, -⟩ := blank_skipBlanks cs n
  generalize Input.skipBlanks ⟨cs, n⟩ = i at h hblank ⊢
  obtain ⟨text, m⟩ := i
  dsimp only at h hblank ⊢
  split at h
  · exact absurd rfl (h _)
  · exact .inl ⟨_, _, hblank, rfl⟩
  · split at h
    · exact absurd rfl (h _)
    · rename_i more hfirst
      obtain rfl : first = false := Bool.eq_false_iff.2 hfirst
      have hdrop : Input.drop1 ⟨',' :: more, m⟩ = ⟨more, m + 1⟩ := rfl
      simp only [hdrop] at h ⊢
      obtain ⟨hbehind, -⟩ := blank_skipBlanks more (m + 1)
      generalize Input.skipBlanks ⟨more, m + 1⟩ = i at h hbehind ⊢
      obtain ⟨text, k⟩ := i
      dsimp only at h hbehind ⊢
      split at h
      · exact absurd rfl (h _)
      · exact .inr ⟨_, k, ⟨more, hblank, hbehind⟩, rfl⟩
      · exact absurd rfl (h _)
      · exact absurd rfl (h _)
  · split at h
    · rename_i hfirst
      subst hfirst
      exact .inr ⟨_, m, hblank, rfl⟩
    · exact absurd rfl (h _)
  · exact absurd rfl (h _)

/-- Unless it breaks off, a member has a key, a colon and a value. -/
theorem memberFrom_cases {fuel opens : Nat} {text : List Char} {m : Nat}
    {ms : List (String × Value)}
    (h : writtenMembers? (memberFrom fuel opens ⟨'"' :: text, m⟩).1 = some ms)
    (hending : ∀ f, (memberFrom fuel opens ⟨'"' :: text, m⟩).2 ≠ .error (some f)) :
    ∃ key colon behind n, SpelledString key ('"' :: text) colon ∧ Blank colon (':' :: behind) ∧
      memberFrom fuel opens ⟨'"' :: text, m⟩ =
        thenMembers fuel opens key (readValue fuel opens ⟨behind, n⟩) := by
  unfold memberFrom at h hending ⊢
  cases hkey : readString (Input.drop1 ⟨'"' :: text, m⟩) with
  | error f => exact absurd (by rw [hkey]) (hending f)
  | ok r =>
    obtain ⟨key, ⟨colon, k⟩⟩ := r
    obtain ⟨hcolon, -⟩ := blank_skipBlanks colon k
    simp only [hkey] at h hending ⊢
    generalize Input.skipBlanks ⟨colon, k⟩ = i at h hending hcolon ⊢
    obtain ⟨behind, l⟩ := i
    dsimp only at h hending hcolon ⊢
    split at h
    · cases h
    · exact ⟨key, colon, _, _, spelledString_of_readString hkey, hcolon, rfl⟩
    · cases h

theorem membersSpelled_succ {fuel : Nat} (hvalues : ValuesSpelled fuel)
    (hmembers : MembersSpelled fuel) : MembersSpelled (fuel + 1) := by
  intro opens first cs n ms hopens h hending
  obtain ⟨rest, m, hblank, hread⟩ | ⟨text, m, hlead, hread⟩ := readMembers_cases hending
  · rw [hread] at h ⊢
    cases h
    exact ⟨_, rfl, hblank, hopens⟩
  · rw [hread] at h hending ⊢
    obtain ⟨key, colon, behind, l, hkey, hcolon, hmember⟩ := memberFrom_cases h hending
    rw [hmember] at h hending ⊢
    have hvalue := hvalues opens behind l
    generalize readValue fuel opens ⟨behind, l⟩ = r at h hending hvalue ⊢
    obtain ⟨d, _ | ⟨cs, m⟩⟩ := r
    · obtain ⟨v, hv, -⟩ := Option.bind_eq_some_iff.1 h
      obtain ⟨_, _, hnone, -⟩ := hvalue v hopens hv
      cases hnone
    · obtain ⟨v, hv, hmore⟩ := Option.bind_eq_some_iff.1 h
      obtain ⟨ms, hms, rfl⟩ := Option.map_eq_some_iff.1 hmore
      obtain ⟨value, _, ⟨⟩, hblank, hspelled, hnesting⟩ := hvalue v hopens hv
      obtain ⟨j, hj, hmembers, hdepth⟩ := hmembers opens false cs m ms hopens hms hending
      exact ⟨j, hj, ⟨_, colon, behind, value, cs, hlead, hkey, hcolon, hblank, hspelled,
        hmembers⟩, Nat.max_lt.2 ⟨hnesting, hdepth⟩⟩

theorem reader_spelled (fuel : Nat) :
    ValuesSpelled fuel ∧ ItemsSpelled fuel ∧ MembersSpelled fuel := by
  induction fuel with
  | zero =>
    refine ⟨?_, ?_, ?_⟩
    · intro opens cs n v _ h
      cases h
    · intro opens first cs n vs _ _ hending
      exact absurd rfl (hending _)
    · intro opens first cs n ms _ _ hending
      exact absurd rfl (hending _)
  | succ fuel ih =>
    obtain ⟨hvalues, hitems, hmembers⟩ := ih
    exact ⟨valuesSpelled_succ hitems hmembers, itemsSpelled_succ hvalues hitems,
      membersSpelled_succ hvalues hmembers⟩

/-- A text that is read as a whole is JSON for what was read. -/
theorem denotes_of_read {text : String} {d : Document} {v : Value}
    (hread : read text = ⟨d, none⟩) (h : d.written? = some v) :
    Denotes text v ∧ v.nesting < maxDepth := by
  unfold read at hread
  dsimp only at hread
  obtain ⟨hvalues, -⟩ := reader_spelled (2 * text.toList.length + 2)
  have hvalue := hvalues maxDepth text.toList 0 v (by decide)
  generalize readValue (2 * text.toList.length + 2) maxDepth ⟨text.toList, 0⟩ = r at hread hvalue
  obtain ⟨d', _ | ⟨rest, m⟩⟩ := r
  · cases hread
    obtain ⟨_, _, hnone, -⟩ := hvalue h
    cases hnone
  · obtain ⟨hd, htrailing⟩ := Text.mk.inj hread
    subst hd
    obtain ⟨cs, _, ⟨⟩, hblank, hspelled, hnesting⟩ := hvalue h
    obtain ⟨hrest, -⟩ := blank_skipBlanks rest m
    have hend : (Input.skipBlanks ⟨rest, m⟩).rest = [] := by
      by_contra hne
      rw [if_neg (by simpa using hne)] at htrailing
      cases htrailing
    rw [hend] at hrest
    exact ⟨⟨cs, rest, hblank, hspelled, hrest⟩, hnesting⟩

/-! ## Whatever is spelled is read -/

theorem endsNumber_cons {c : Char} (h : c ∈ blanks ++ [',', ']', '\x7d']) (cs : List Char) :
    EndsNumber (c :: cs) := by
  rintro d ⟨⟩
  have hmarks : (blanks ++ [',', ']', '\x7d']).all fun d =>
      !d.isDigit && d != '.' && d != 'e' && d != 'E' := by decide
  simpa [and_assoc] using List.all_eq_true.1 hmarks _ h

theorem EndsNumber.of_blank {cs rest : List Char} (h : Blank cs rest) (hrest : EndsNumber rest) :
    EndsNumber cs := by
  cases h with
  | none => exact hrest
  | more hc => exact endsNumber_cons (List.mem_append_left _ hc) _

theorem SpelledItems.endsNumber {vs : List Value} {cs rest : List Char}
    (h : SpelledItems vs false cs rest) : EndsNumber cs := by
  cases vs with
  | nil => exact .of_blank h (endsNumber_cons (by decide) rest)
  | cons v vs =>
    obtain ⟨_, _, ⟨more, hcomma, -⟩, -, -⟩ := h
    exact .of_blank hcomma (endsNumber_cons (by decide) more)

theorem SpelledMembers.endsNumber {ms : List (String × Value)} {cs rest : List Char}
    (h : SpelledMembers ms false cs rest) : EndsNumber cs := by
  cases ms with
  | nil => exact .of_blank h (endsNumber_cons (by decide) rest)
  | cons m ms =>
    obtain ⟨_, _, _, _, _, ⟨more, hcomma, -⟩, -⟩ := h
    exact .of_blank hcomma (endsNumber_cons (by decide) more)

/-- The first letter of a number. -/
theorem SpelledNumber.head {x : Number} {cs rest : List Char} (h : SpelledNumber x cs rest) :
    ∃ c ∈ cs.head?, c = '-' ∨ c.isDigit = true := by
  have hdigits (k : Nat) (more : List Char) :
      ∃ c ∈ (Nat.toDigits 10 k ++ more).head?, c = '-' ∨ c.isDigit = true := by
    obtain ⟨c, ds, hcons, hc⟩ := exists_cons_toDigits k
    exact ⟨c, by simp [hcons], .inr hc⟩
  cases x with
  | natural k =>
    rw [h.1]
    exact hdigits k rest
  | negative k =>
    rw [h.1]
    exact ⟨'-', rfl, .inl rfl⟩
  | float x =>
    obtain ⟨negative, k, point, more, rfl, -⟩ := h
    cases negative with
    | true => exact ⟨'-', rfl, .inl rfl⟩
    | false => exact hdigits k point

/-- A value starts with a letter that cannot be taken for a blank or for the end of a list. -/
theorem Spelled.head {v : Value} {cs rest : List Char} (h : Spelled v cs rest) :
    ∃ c tail, cs = c :: tail ∧ c ∉ blanks ∧ c ≠ ']' := by
  cases v with
  | null =>
    rw [Spelled] at h
    exact ⟨_, _, h, by decide⟩
  | bool b =>
    cases b <;> rw [Spelled] at h <;> exact ⟨_, _, h, by decide⟩
  | number x =>
    rw [Spelled] at h
    obtain ⟨c, hmem, hc⟩ := h.head
    obtain ⟨tail, rfl⟩ := List.head?_eq_some_iff.1 hmem
    refine ⟨c, tail, rfl, ?_⟩
    obtain rfl | hdigit := hc
    · decide
    · refine ⟨fun hblank => ?_, ?_⟩
      · have hends := (endsNumber_cons (List.mem_append_left _ hblank) tail c rfl).1
        rw [hends] at hdigit
        cases hdigit
      · rintro rfl
        cases hdigit
  | string s =>
    rw [Spelled] at h
    obtain ⟨inner, rfl, -⟩ := h
    exact ⟨_, _, rfl, by decide⟩
  | array vs | object ms =>
    rw [Spelled] at h
    obtain ⟨inner, rfl, -⟩ := h
    exact ⟨_, _, rfl, by decide⟩

/-- Items come one after the other. -/
theorem readItems_of_lead {first : Bool} {cs text tail : List Char} {c : Char}
    (h : Lead first cs text) (htext : text = c :: tail) (hblank : c ∉ blanks) (hend : c ≠ ']')
    (fuel opens n : Nat) :
    ∃ m, readItems (fuel + 1) opens first ⟨cs, n⟩ =
      thenItems fuel opens (readValue fuel opens ⟨text, m⟩) := by
  subst htext
  cases first with
  | true =>
    obtain ⟨m, hm⟩ := skipBlanks_of_blank h (noBlank_cons hblank tail) n
    refine ⟨m, ?_⟩
    rw [readItems.eq_def]
    simp only [hm, if_true]
    split <;> first | rfl | simp_all
  | false =>
    obtain ⟨more, hcomma, hmore⟩ := h
    obtain ⟨k, hk⟩ := skipBlanks_of_blank hcomma (noBlank_cons (by decide) more) n
    obtain ⟨m, hm⟩ := skipBlanks_of_blank hmore (noBlank_cons hblank tail) (k + 1)
    have hdrop : Input.drop1 ⟨',' :: more, k⟩ = ⟨more, k + 1⟩ := rfl
    refine ⟨m, ?_⟩
    rw [readItems.eq_def]
    simp only [hk, hdrop, hm, Bool.false_eq_true, if_false]
    split <;> first | rfl | simp_all

/-- Likewise members. -/
theorem readMembers_of_lead {first : Bool} {cs text : List Char} (h : Lead first cs ('"' :: text))
    (fuel opens n : Nat) :
    ∃ m, readMembers (fuel + 1) opens first ⟨cs, n⟩ = memberFrom fuel opens ⟨'"' :: text, m⟩ := by
  cases first with
  | true =>
    obtain ⟨m, hm⟩ := skipBlanks_of_blank h (noBlank_cons (by decide) text) n
    refine ⟨m, ?_⟩
    rw [readMembers.eq_def]
    simp only [hm, if_true]
    rfl
  | false =>
    obtain ⟨more, hcomma, hmore⟩ := h
    obtain ⟨k, hk⟩ := skipBlanks_of_blank hcomma (noBlank_cons (by decide) more) n
    obtain ⟨m, hm⟩ := skipBlanks_of_blank hmore (noBlank_cons (by decide) text) (k + 1)
    have hdrop : Input.drop1 ⟨',' :: more, k⟩ = ⟨more, k + 1⟩ := rfl
    refine ⟨m, ?_⟩
    rw [readMembers.eq_def]
    simp only [hk, hdrop, hm, Bool.false_eq_true, if_false]
    rfl

theorem memberFrom_of_spelled {key : String} {text colon behind : List Char}
    (hkey : SpelledString key ('"' :: text) colon) (hcolon : Blank colon (':' :: behind))
    (fuel opens n : Nat) :
    ∃ m, memberFrom fuel opens ⟨'"' :: text, n⟩ =
      thenMembers fuel opens key (readValue fuel opens ⟨behind, m⟩) := by
  obtain ⟨k, hk⟩ := readString_of_spelled hkey n
  obtain ⟨l, hl⟩ := skipBlanks_of_blank hcolon (noBlank_cons (by decide) behind) k
  refine ⟨l + ':'.utf8Size, ?_⟩
  rw [memberFrom]
  simp only [hk, hl]
  rfl

/-! Every rule passes at least one letter, but for blanks. -/

theorem Lead.length_le {first : Bool} {cs text : List Char} (h : Lead first cs text) :
    text.length ≤ cs.length := by
  cases first with
  | true => exact Blank.length_le h
  | false =>
    obtain ⟨more, hcomma, hmore⟩ := h
    have hle := hcomma.length_le
    rw [List.length_cons] at hle
    exact Nat.le_trans hmore.length_le (Nat.le_of_succ_le hle)

theorem Quoted.length_lt {cs s rest : List Char} (h : Quoted cs s rest) :
    rest.length < cs.length := by
  induction h with
  | close => exact Nat.lt_succ_self _
  | plain _ _ _ _ ih => exact Nat.lt_succ_of_lt ih
  | escape hc _ ih => exact Nat.lt_succ_of_lt (Nat.lt_trans ih hc.length_lt)

theorem SpelledString.length_lt {s : String} {cs rest : List Char} (h : SpelledString s cs rest) :
    rest.length < cs.length := by
  obtain ⟨inner, rfl, hinner⟩ := h
  exact Nat.lt_succ_of_lt hinner.length_lt

theorem SpelledNumber.length_lt {x : Number} {cs rest : List Char} (h : SpelledNumber x cs rest) :
    rest.length < cs.length := by
  have hdigits (k : Nat) : 0 < (Nat.toDigits 10 k).length :=
    List.length_pos_iff.2 Nat.toDigits_ne_nil
  cases x with
  | natural k =>
    have := hdigits k
    rw [h.1, List.length_append]
    omega
  | negative k =>
    rw [h.1, List.length_cons, List.length_append]
    omega
  | float x =>
    obtain ⟨negative, k, point, more, rfl, hfraction, hexponent, -⟩ := h
    have := hdigits k
    have := hexponent.length_le
    have hle : more.length ≤ point.length := by
      cases hfraction with
      | none => exact Nat.le_refl _
      | some h => exact Nat.le_of_lt (Nat.lt_succ_of_lt h.length_lt)
    simp only [List.length_append]
    omega

mutual

theorem Spelled.length_lt {v : Value} {cs rest : List Char} (h : Spelled v cs rest) :
    rest.length < cs.length := by
  cases v with
  | null =>
    rw [Spelled] at h
    subst h
    simp only [List.length_cons]
    omega
  | bool b =>
    cases b <;>
    · rw [Spelled] at h
      subst h
      simp only [List.length_cons]
      omega
  | number x =>
    rw [Spelled] at h
    exact h.length_lt
  | string s =>
    rw [Spelled] at h
    exact h.length_lt
  | array vs =>
    rw [Spelled] at h
    obtain ⟨inner, rfl, hitems⟩ := h
    exact Nat.lt_succ_of_lt (SpelledItems.length_lt hitems)
  | object ms =>
    rw [Spelled] at h
    obtain ⟨inner, rfl, hmembers⟩ := h
    exact Nat.lt_succ_of_lt (SpelledMembers.length_lt hmembers)

theorem SpelledItems.length_lt {vs : List Value} {first : Bool} {cs rest : List Char}
    (h : SpelledItems vs first cs rest) : rest.length < cs.length := by
  cases vs with
  | nil => exact Blank.length_le h
  | cons v vs =>
    obtain ⟨text, more, hlead, hv, hvs⟩ := h
    exact Nat.lt_of_lt_of_le
      (Nat.lt_trans (SpelledItems.length_lt hvs) (Spelled.length_lt hv)) hlead.length_le

theorem SpelledMembers.length_lt {ms : List (String × Value)} {first : Bool}
    {cs rest : List Char} (h : SpelledMembers ms first cs rest) : rest.length < cs.length := by
  cases ms with
  | nil => exact Blank.length_le h
  | cons m ms =>
    obtain ⟨k, v⟩ := m
    obtain ⟨key, colon, behind, text, more, hlead, hkey, hcolon, hbehind, hv, hms⟩ := h
    have := hlead.length_le
    have := hkey.length_lt
    have := hcolon.length_le
    have := hbehind.length_le
    have := Spelled.length_lt hv
    have := SpelledMembers.length_lt hms
    simp only [List.length_cons] at *
    omega

end

/-- An exact number is read behind its sign, or without one. -/
theorem readNumber_of_spelled {x : Number} {cs rest : List Char} (h : SpelledNumber x cs rest)
    (hexact : (Value.number x).Exact) (hrest : EndsNumber rest) (n : Nat) :
    ∃ c tail m, cs = c :: tail ∧ (c = '-' ∨ c.isDigit = true) ∧
      readUnsigned (c = '-') (if c = '-' then Input.drop1 ⟨cs, n⟩ else ⟨cs, n⟩) =
        .ok (.ok x, ⟨rest, m⟩) := by
  cases x with
  | natural k =>
    obtain ⟨rfl, hfits⟩ := h
    obtain ⟨m, hm⟩ := readUnsigned_toDigits false hfits hrest n
    obtain ⟨c, ds, hcons, hc⟩ := exists_cons_toDigits k
    have hne : c ≠ '-' := by
      rintro rfl
      cases hc
    rw [hcons] at hm ⊢
    exact ⟨c, ds ++ rest, m, rfl, .inr hc, by rw [if_neg hne, decide_eq_false hne, hm]; rfl⟩
  | negative k =>
    obtain ⟨rfl, hfits⟩ := h
    obtain ⟨m, hm⟩ := readUnsigned_toDigits true (fits64_le hfits) hrest (n + 1)
    have hbounds : 0 < k ∧ k ≤ Nat.pow 2 63 := hfits
    refine ⟨'-', _, m, rfl, .inl rfl, hm.trans ?_⟩
    rw [integerValue, if_neg (by decide), if_pos hbounds]
  | float x => exact absurd hexact not_false

/-- What is spelled in front of the rest is read, with enough fuel. -/
def ReadsValue (v : Value) : Prop :=
  ∀ fuel opens cs text rest n, Blank cs text → Spelled v text rest → EndsNumber rest →
    2 * cs.length ≤ fuel → v.nesting < opens →
    ∃ d m, readValue fuel opens ⟨cs, n⟩ = (d, some ⟨rest, m⟩) ∧ d.written? = some v

def ReadsItems (vs : List Value) : Prop :=
  ∀ fuel opens first cs rest n, SpelledItems vs first cs rest → 2 * cs.length < fuel →
    Value.nestingOfItems vs < opens →
    ∃ ds m, readItems fuel opens first ⟨cs, n⟩ = (ds, .ok ⟨rest, m⟩) ∧
      writtenItems? ds = some vs

def ReadsMembers (ms : List (String × Value)) : Prop :=
  ∀ fuel opens first cs rest n, SpelledMembers ms first cs rest → 2 * cs.length < fuel →
    Value.nestingOfMembers ms < opens →
    ∃ ds m, readMembers fuel opens first ⟨cs, n⟩ = (ds, .ok ⟨rest, m⟩) ∧
      writtenMembers? ds = some ms

theorem readsItems_nil : ReadsItems [] := by
  intro fuel opens first cs rest n h hfuel _
  obtain ⟨fuel, rfl⟩ : ∃ f, fuel = f + 1 := ⟨fuel - 1, by omega⟩
  obtain ⟨m, hm⟩ := skipBlanks_of_blank h (noBlank_cons (by decide) rest) n
  refine ⟨[], m + 1, ?_, rfl⟩
  rw [readItems.eq_def]
  simp only [hm]
  rfl

theorem readsItems_cons {v : Value} {vs : List Value} (hv : ReadsValue v) (hvs : ReadsItems vs) :
    ReadsItems (v :: vs) := by
  intro fuel opens first cs rest n ⟨text, more, hlead, hspelled, hmore⟩ hfuel hopens
  obtain ⟨fuel, rfl⟩ : ∃ f, fuel = f + 1 := ⟨fuel - 1, by omega⟩
  obtain ⟨hdepth, hdepths⟩ := Nat.max_lt.1 hopens
  have hle := hlead.length_le
  have hlt := hspelled.length_lt
  obtain ⟨c, tail, htext, hblank, hend⟩ := hspelled.head
  obtain ⟨k, hitem⟩ := readItems_of_lead hlead htext hblank hend fuel opens n
  obtain ⟨d, m, hread, hd⟩ :=
    hv fuel opens text text more k (.none _) hspelled hmore.endsNumber (by omega) hdepth
  obtain ⟨ds, m', hrest, hds⟩ := hvs fuel opens false more rest m hmore (by omega) hdepths
  refine ⟨d :: ds, m', ?_, ?_⟩
  · rw [hitem, hread, thenItems, hrest]
  · rw [writtenItems?, hd, hds]
    rfl

theorem readsMembers_nil : ReadsMembers [] := by
  intro fuel opens first cs rest n h hfuel _
  obtain ⟨fuel, rfl⟩ : ∃ f, fuel = f + 1 := ⟨fuel - 1, by omega⟩
  obtain ⟨m, hm⟩ := skipBlanks_of_blank h (noBlank_cons (by decide) rest) n
  refine ⟨[], m + 1, ?_, rfl⟩
  rw [readMembers.eq_def]
  simp only [hm]
  rfl

theorem readsMembers_cons {k : String} {v : Value} {ms : List (String × Value)}
    (hv : ReadsValue v) (hms : ReadsMembers ms) : ReadsMembers ((k, v) :: ms) := by
  intro fuel opens first cs rest n
    ⟨key, colon, behind, text, more, hlead, hkey, hcolon, hbehind, hspelled, hmore⟩ hfuel hopens
  obtain ⟨fuel, rfl⟩ : ∃ f, fuel = f + 1 := ⟨fuel - 1, by omega⟩
  obtain ⟨hdepth, hdepths⟩ := Nat.max_lt.1 hopens
  have hkeyLt := hkey.length_lt
  have hcolonLe := hcolon.length_le
  have hbehindLe := hbehind.length_le
  have hlt := hspelled.length_lt
  have hle := hlead.length_le
  rw [List.length_cons] at hcolonLe
  obtain ⟨inner, rfl, -⟩ := id hkey
  obtain ⟨i, hmember⟩ := readMembers_of_lead hlead fuel opens n
  obtain ⟨j, hvalue⟩ := memberFrom_of_spelled hkey hcolon fuel opens i
  obtain ⟨d, m, hread, hd⟩ :=
    hv fuel opens behind text more j hbehind hspelled hmore.endsNumber (by omega) hdepth
  obtain ⟨ds, m', hrest, hds⟩ := hms fuel opens false more rest m hmore (by omega) hdepths
  refine ⟨(k, d) :: ds, m', ?_, ?_⟩
  · rw [hmember, hvalue, hread, thenMembers, hrest]
  · rw [writtenMembers?, hd, hds]
    rfl

/-- The head of a value decides how it is read. -/
theorem readsValue_of_head {v : Value} (h : ∀ fuel opens text rest n, Spelled v text rest →
    EndsNumber rest → 2 * text.length ≤ fuel + 1 → v.nesting < opens →
    (∀ cs m, Input.skipBlanks ⟨cs, m⟩ = ⟨text, n⟩ → ∃ d k,
      readValue (fuel + 1) opens ⟨cs, m⟩ = (d, some ⟨rest, k⟩) ∧ d.written? = some v)) :
    ReadsValue v := by
  intro fuel opens cs text rest n hblank hspelled hrest hfuel hopens
  have hle := hblank.length_le
  have hlt := hspelled.length_lt
  obtain ⟨fuel, rfl⟩ : ∃ f, fuel = f + 1 := ⟨fuel - 1, by omega⟩
  obtain ⟨c, tail, htext, hc, -⟩ := hspelled.head
  obtain ⟨m, hm⟩ := skipBlanks_of_blank hblank (htext ▸ noBlank_cons hc tail) n
  exact h fuel opens text rest m hspelled hrest (by omega) hopens cs n hm

theorem readsValue_null : ReadsValue .null := by
  refine readsValue_of_head fun fuel opens text rest n hspelled _ _ _ cs m hm => ?_
  obtain rfl : text = 'n' :: ("ull".toList ++ rest) := hspelled
  rw [readValue.eq_def]
  simp only [hm]
  exact scalar_append "ull".toList rest (n + 1) fun _ => rfl

theorem readsValue_bool (b : Bool) : ReadsValue (.bool b) := by
  refine readsValue_of_head fun fuel opens text rest n hspelled _ _ _ cs m hm => ?_
  cases b with
  | true =>
    obtain rfl : text = 't' :: ("rue".toList ++ rest) := hspelled
    rw [readValue.eq_def]
    simp only [hm]
    exact scalar_append "rue".toList rest (n + 1) fun _ => rfl
  | false =>
    obtain rfl : text = 'f' :: ("alse".toList ++ rest) := hspelled
    rw [readValue.eq_def]
    simp only [hm]
    exact scalar_append "alse".toList rest (n + 1) fun _ => rfl

theorem readsValue_string (s : String) : ReadsValue (.string s) := by
  refine readsValue_of_head fun fuel opens text rest n hspelled _ _ _ cs m hm => ?_
  rw [Spelled] at hspelled
  obtain ⟨k, hk⟩ := readString_of_spelled hspelled n
  obtain ⟨inner, rfl, -⟩ := hspelled
  refine ⟨.string s k, k, ?_, rfl⟩
  rw [readValue.eq_def]
  simp only [hm, hk]

theorem readsValue_number {x : Number} (hexact : (Value.number x).Exact) :
    ReadsValue (.number x) := by
  refine readsValue_of_head fun fuel opens text rest n hspelled hrest _ _ cs m hm => ?_
  rw [Spelled] at hspelled
  obtain ⟨c, tail, k, rfl, hc, hread⟩ := readNumber_of_spelled hspelled hexact hrest n
  refine ⟨.number (.ok x) k, k, ?_, rfl⟩
  rw [readValue.eq_def]
  simp only [hm]
  split
  case h_8 hcons =>
    cases hcons
    rw [if_pos hc]
    simp only [hread]
  case h_1 hcons => cases hcons
  all_goals
    rename_i hcons
    cases hcons
    exact absurd hc (by decide)

theorem readsValue_array {vs : List Value} (hvs : ReadsItems vs) : ReadsValue (.array vs) := by
  refine readsValue_of_head fun fuel opens text rest n hspelled _ hfuel hopens cs m hm => ?_
  rw [Spelled] at hspelled
  obtain ⟨inner, rfl, hinner⟩ := hspelled
  rw [List.length_cons] at hfuel
  rw [Value.nesting] at hopens
  obtain ⟨opens, rfl⟩ : ∃ o, opens = o + 2 := ⟨opens - 2, by omega⟩
  obtain ⟨ds, k, hread, hds⟩ :=
    hvs fuel (opens + 1) true inner rest (n + 1) hinner (by omega) (by omega)
  have hdrop : Input.drop1 ⟨'[' :: inner, n⟩ = ⟨inner, n + 1⟩ := rfl
  refine ⟨.array ds none n, k, ?_, ?_⟩
  · rw [readValue.eq_def]
    simp only [hm, hdrop, hread]
    rfl
  · rw [written?, hds]
    rfl

theorem readsValue_object {ms : List (String × Value)} (hms : ReadsMembers ms) :
    ReadsValue (.object ms) := by
  refine readsValue_of_head fun fuel opens text rest n hspelled _ hfuel hopens cs m hm => ?_
  rw [Spelled] at hspelled
  obtain ⟨inner, rfl, hinner⟩ := hspelled
  rw [List.length_cons] at hfuel
  rw [Value.nesting] at hopens
  obtain ⟨opens, rfl⟩ : ∃ o, opens = o + 2 := ⟨opens - 2, by omega⟩
  obtain ⟨ds, k, hread, hds⟩ :=
    hms fuel (opens + 1) true inner rest (n + 1) hinner (by omega) (by omega)
  have hdrop : Input.drop1 ⟨'\x7b' :: inner, n⟩ = ⟨inner, n + 1⟩ := rfl
  refine ⟨.object ds none n, k, ?_, ?_⟩
  · rw [readValue.eq_def]
    simp only [hm, hdrop, hread]
    rfl
  · rw [written?, hds]
    rfl

mutual

theorem readsValue_of_exact : ∀ {v : Value}, v.Exact → ReadsValue v
  | .null, _ => readsValue_null
  | .bool b, _ => readsValue_bool b
  | .number _, h => readsValue_number h
  | .string s, _ => readsValue_string s
  | .array vs, h => readsValue_array (readsItems_of_exact (show Value.ExactItems vs from h))
  | .object ms, h =>
    readsValue_object (readsMembers_of_exact (show Value.ExactMembers ms from h))

theorem readsItems_of_exact : ∀ {vs : List Value}, Value.ExactItems vs → ReadsItems vs
  | [], _ => readsItems_nil
  | _ :: _, h => readsItems_cons (readsValue_of_exact h.1) (readsItems_of_exact h.2)

theorem readsMembers_of_exact :
    ∀ {ms : List (String × Value)}, Value.ExactMembers ms → ReadsMembers ms
  | [], _ => readsMembers_nil
  | _ :: _, h => readsMembers_cons (readsValue_of_exact h.1) (readsMembers_of_exact h.2)

end

/-- A text that is JSON for a value without floats, and not nested too deeply, is read as it. -/
theorem read_of_denotes {text : String} {v : Value} (h : Denotes text v) (hexact : v.Exact)
    (hnesting : v.nesting < maxDepth) :
    ∃ d, read text = ⟨d, none⟩ ∧ d.written? = some v := by
  obtain ⟨cs, rest, hblank, hspelled, hend⟩ := h
  have hnext : EndsNumber rest := .of_blank hend (by simp [EndsNumber])
  obtain ⟨d, m, hread, hd⟩ := readsValue_of_exact hexact (2 * text.toList.length + 2) maxDepth
    text.toList cs rest 0 hblank hspelled hnext (by omega) hnesting
  obtain ⟨k, hk⟩ := skipBlanks_of_blank hend (by simp [NoBlank]) m
  refine ⟨d, ?_, hd⟩
  rw [read]
  simp only [hread, hk]
  rfl

end ModuleBundler.Json
