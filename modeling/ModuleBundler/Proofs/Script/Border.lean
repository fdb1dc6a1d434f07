import ModuleBundler.Proofs.Script.Front
import ModuleBundler.Proofs.Script.Gap
import ModuleBundler.Proofs.Script.Relocation.Program

/-!
# Where the imports of a script end

Behind the imports, re-exports and export lists in front of an accepted script, the parser is as fresh
as at the start of a text, and what is left of the script begins with a token that is read alike
wherever it stands.
-/

namespace ModuleBundler.Script

/-- A token without fault is read alike at the start of a text and behind other text. -/
theorem heads_of_faultless {rest : List Char} {n : Nat} (hn : 0 < n)
    (h : (⟨rest, n⟩ : Cursor).scan.faults = []) :
    Heads rest (⟨rest, n⟩ : Cursor).scan.token.lexeme := by
  have hmark : ¬ ['#', '!'] <+: rest := by
    rintro ⟨r, rfl⟩
    obtain ⟨k, rfl⟩ := Nat.exists_eq_succ_of_ne_zero (Nat.ne_of_gt hn)
    have hfaults : (⟨'#' :: '!' :: r, k + 1⟩ : Cursor).scan.faults = [k + 2] := rfl
    cases hfaults.symm.trans h
  have hzero : (⟨rest, 0⟩ : Cursor).Inner := .inr hmark
  have hmoved : ∀ m, (⟨rest, m⟩ : Cursor).scan.token.lexeme =
        (⟨rest, 0⟩ : Cursor).scan.token.lexeme ∧
      ((⟨rest, m⟩ : Cursor).scan.faults = [] ↔ (⟨rest, 0⟩ : Cursor).scan.faults = []) := by
    intro m
    have hm : (⟨rest, 0⟩ : Cursor).scan.Moved m (⟨rest, m⟩ : Cursor).scan := by
      have hscan : (⟨rest, 0⟩ : Cursor).scan.Moved m (move m (⟨rest, 0⟩ : Cursor)).scan :=
        Cursor.moved_scan hzero
      have hmove : move m (⟨rest, 0⟩ : Cursor) = ⟨rest, m⟩ := by
        rw [move_cursor]
        exact congrArg _ (Nat.zero_add m)
      rwa [hmove] at hscan
    rw [hm.token, hm.faults]
    exact ⟨rfl, List.map_eq_nil_iff⟩
  intro m
  rw [(hmoved m).1, (hmoved m).2, (hmoved n).1, ← (hmoved n).2]
  exact ⟨rfl, h⟩

/-! ## From one text to another -/

/-- What is read up to blanks behind a mark starts right behind the mark. -/
theorem UpTo.eq_behind {front rest cs : List Char} {mark : Char} (h : UpTo rest cs)
    (hcs : cs <:+ front ++ mark :: rest) (hmark : mark ≠ ' ') : cs = rest := by
  obtain ⟨blanks, rfl⟩ := h
  cases blanks with
  | zero => rfl
  | succ blanks =>
    rw [List.replicate_succ', List.append_assoc] at hcs
    have hblank : ' ' :: rest <:+ front ++ mark :: rest := (List.suffix_append _ _).trans hcs
    have hmarked : mark :: rest <:+ front ++ mark :: rest := List.suffix_append _ _
    have hsame := (List.suffix_of_suffix_length_le hblank hmarked (by simp)).eq_of_length (by simp)
    cases hsame
    exact absurd rfl hmark

/-- Behind generated statements the parser is fresh. -/
theorem ParserState.Faces.fresh {s : ParserState} {front rest : List Char} {mark : Char} {l : Lexeme}
    (h : s.Faces ⟨front ++ mark :: rest, rest⟩ [l]) (hmark : mark ≠ ' ') :
    ∃ n, s.Fresh ⟨rest, n⟩ := by
  obtain ⟨⟨cs, n⟩, hread, hupTo, hsuffix⟩ := h.ahead
  obtain rfl : cs = rest := hupTo.eq_behind hsuffix hmark
  exact ⟨n, { hread with
    lexical := h.lexical
    grammar := h.grammar
    shorthand := h.shorthand
    commas := h.commas
    refuted := h.refuted }⟩

/-- How far into its text a state is that reads from a place on. -/
theorem ParserState.ReadFrom.offset_add {s : ParserState} {text : List Char} {c : Cursor}
    (h : s.ReadFrom c) (hs : (ParserState.init text).Reach s) :
    c.offset + c.rest.length = text.length := by
  have hinit := (Cursor.scan_after ⟨text, 0⟩).origin
  have htotal := (hinit.trans hs.origin).total
  have hplace := c.scan_after.origin.total
  rw [← h.origin] at hplace
  simp only [Nat.zero_add] at htotal
  omega

namespace Parser

variable {s t u : ParserState} {length : Nat} {item : Item} {items : List Item}

/-- Every item takes at least one token. -/
theorem room_itemOf (hrun : itemOf length { limit := length + 2 } s = .ok (item, t))
    (hinside : 0 < s.next.offset) (hshortens : s.scanned.Shortens) (hroom : s.room ≤ length) :
    t.room < s.room := by
  let s' : ParserState :=
    { token := move 0 s.token, origin := move 0 s.origin, next := move 0 s.next,
      previousStop := s.previousStop + 0, lexicalFaults := move 0 s.lexicalFaults,
      grammarFaults := move 0 s.grammarFaults, shorthandValues := move 0 s.shorthandValues,
      trailingCommas := move 0 s.trailingCommas, refuted := move 0 s.refuted }
  have hmoved : s.Moved 0 s' := ⟨rfl, rfl, rfl, rfl, rfl, rfl, rfl, rfl, rfl, hinside, hshortens⟩
  have hagree := agree_statementItem (r := s.room) (below_grammar (d := 0) (2 * length + 16)
    (2 * length + 16)) (by omega) false { limit := length + 2 } (length + 2) s s' hmoved rfl
    (by exact Nat.lt_succ_of_le (Nat.succ_le_succ hroom)) (by omega)
  unfold itemOf at hrun
  rw [hrun] at hagree
  generalize statementItem _ _ _ _ = r at hagree
  cases hagree with
  | ok _ hQ => exact hQ.2

theorem tidy_init (source : List Char) : (ParserState.init source).Tidy source := by
  refine ⟨rfl, rfl, rfl, fun h => ⟨⟨source, 0⟩, Cursor.Before.refl _, ?_, ⟨rfl, rfl, rfl, rfl⟩⟩⟩
  exact List.reverse_eq_nil_iff.1 h

theorem skipHashbang_eq_ok {ctx : Context} {r : Unit × ParserState}
    (h : skipHashbang ctx s = .ok r) : r.2 = s ∨
      s.token.lexeme = .hashbang ∧ r.2.previousStop = s.token.span.stop := by
  have hskip : skipHashbang ctx s =
      if s.token.lexeme == .hashbang then skip ctx s else .ok ((), s) := by
    change (if (s.token.lexeme == .hashbang) = true then skip else pure () : Parser Unit) ctx s = _
    split <;> rfl
  rw [hskip] at h
  split at h
  · rename_i hhashbang
    cases h
    exact .inr ⟨eq_of_beq hhashbang, rfl⟩
  · cases h
    exact .inl rfl

/-- A first item that has nothing but blanks and comments in front of it is read from the start of the
text on, so that no hashbang has been skipped. -/
theorem skipHashbang_fronts {source : List Char} {ctx ctx' : Context} {z v : ParserState} {stop : Nat}
    (hskip : skipHashbang ctx (ParserState.init source) = .ok ((), z))
    (hrun : itemOf length ctx' z = .ok (item, v)) (hv : v.lexicalFaults = [])
    (hfronts : Fronts source 0 (item :: items) stop) : z = ParserState.init source := by
  refine (skipHashbang_eq_ok hskip).resolve_right ?_
  rintro ⟨hhashbang, hskipped⟩
  have hinit := ParserState.ordered_init source
  have hz := (moves_skipHashbang _ _ hinit).run _ _ hskip
  obtain ⟨hreach, hplaced⟩ :=
    (readsItem_statementItem (grammar_sound _) false ctx' z hz.ordered).run item v hrun
  have hclean : (⟨source, 0⟩ : Cursor).scan.faults = [] :=
    List.reverse_eq_nil_iff.1 (hz.lexical (hreach.lexical hv))
  have hread : (ParserState.init source).ReadFrom ⟨source, 0⟩ := ⟨rfl, rfl, rfl, rfl⟩
  have hlong := hread.long hclean (by simp [hhashbang])
  cases hfronts with
  | @front _ _ _ span _ hitem hgap _ =>
    obtain ⟨hstart, hle, hstop⟩ := hplaced.whole hitem
    have hinside := ParserState.here_le (hz.trans hreach)
    have hprevious := hreach.ordered.previous
    have hsplit : stretch source 0 span.start ++ source.drop span.start = source :=
      List.take_append_drop span.start source
    rw [← congrArg (fun text => (⟨text, 0⟩ : Cursor)) hsplit] at hread
    have hbehind := hread.behind hgap
    have hlength : (stretch source 0 span.start).length = span.start := by
      rw [stretch, List.length_take, List.drop_zero]
      omega
    have hfront := hz.ordered.previous
    change z.previousStop = _ at hskipped
    omega

/-- Behind the first item the text is not read from its start again. -/
theorem pos_of_readFrom {source : List Char} {v : ParserState} {stop : Nat}
    (hnext : (ParserState.init source).token.lexeme ≠ .finish)
    (hrun : itemOf source.length { limit := source.length + 2 } (ParserState.init source) =
      .ok (item, v)) (hreach : v.Reach s) (hread : s.ReadFrom ⟨source.drop stop, stop⟩)
    (hclean : (⟨source.drop stop, stop⟩ : Cursor).scan.faults = []) : 0 < stop := by
  by_contra hzero
  obtain rfl : stop = 0 := Nat.eq_zero_of_not_pos hzero
  have hfirst : (ParserState.init source).ReadFrom ⟨source, 0⟩ := ⟨rfl, rfl, rfl, rfl⟩
  have hlong := hfirst.long hclean hnext
  have hinside := Nat.lt_of_lt_of_le hlong (ParserState.ordered_init source).stop
  have hshort := room_itemOf hrun (Nat.zero_lt_of_lt hinside)
    (⟨source, 0⟩ : Cursor).scan_shortens (⟨source, 0⟩ : Cursor).scan_after.origin.length_le
  have hsame : s.room = (ParserState.init source).room := congrArg (·.rest.length) hread.origin
  have hle : s.room ≤ v.room := hreach.origin.length_le
  omega

/-- Behind the imports, re-exports and export lists in front of an accepted script the parser is
fresh, and from there on it reads the rest. -/
theorem parseItems_border {source : List Char} {front rest : List Item} {stop : Nat}
    (h : parseItems source = .ok (front ++ rest)) (hfronts : Fronts source 0 front stop)
    (hfront : front ≠ []) : ∃ s u, s.Fresh ⟨source.drop stop, stop⟩ ∧ 0 < stop ∧
      stop ≤ source.length ∧ Heads (source.drop stop) s.token.lexeme ∧
      Chain (itemOf source.length) { limit := source.length + 2 } s rest u ∧
      rest.length < source.length + 2 ∧ u.token.lexeme = .finish ∧ u.Accepting := by
  obtain ⟨⟨⟩, z, u, hskip, hchain, hlength, hfinish, haccepting, -⟩ := parseItems_eq_ok.1 h
  obtain ⟨s, hbefore, hafter⟩ := hchain.split
  have hinit := ParserState.ordered_init source
  have hreachZ := (moves_skipHashbang _ _ hinit).run _ _ hskip
  have hreachS := hbefore.reach hreachZ.ordered
  have hreachU := hafter.reach hreachS.ordered
  have hclean : s.lexicalFaults = [] := hreachU.lexical haccepting.lexical
  obtain ⟨item, items, rfl⟩ := List.exists_cons_of_ne_nil hfront
  obtain ⟨v, hnext, hrun, hmore⟩ : ∃ v, z.token.lexeme ≠ .finish ∧
      itemOf source.length { limit := source.length + 2 } z = .ok (item, v) ∧
      Chain (itemOf source.length) { limit := source.length + 2 } v items s := by
    cases hbefore with
    | more hnext hrun hmore => exact ⟨_, hnext, hrun, hmore⟩
  have hreachV :=
    ((readsItem_statementItem (grammar_sound _) false _ z hreachZ.ordered).run item v hrun).1
  have hreachVS := hmore.reach hreachV.ordered
  obtain rfl := skipHashbang_fronts hskip hrun (hreachVS.lexical hclean) hfronts
  obtain ⟨htidy, hstop⟩ := hbefore.fronts hinit (tidy_init source) rfl hfronts hclean
  obtain ⟨hread, hfaults, hinside⟩ := htidy.place hclean
  rw [hstop] at hread hfaults hinside
  have hpositive := pos_of_readFrom hnext hrun hreachVS hread hfaults
  have hlexeme : s.token.lexeme =
      (⟨source.drop stop, stop⟩ : Cursor).scan.token.lexeme := congrArg (·.lexeme) hread.token
  have hfresh : s.Fresh ⟨source.drop stop, stop⟩ :=
    { hread with
      lexical := hclean
      grammar := hreachU.grammar haccepting.grammar
      shorthand := htidy.shorthand
      commas := htidy.commas
      refuted := htidy.refuted }
  refine ⟨s, u, hfresh, hpositive, hinside, ?_, hafter, ?_, hfinish, haccepting⟩
  · rw [hlexeme]
    exact heads_of_faultless hpositive hfaults
  · rw [List.length_append] at hlength
    omega

end Parser

end ModuleBundler.Script
