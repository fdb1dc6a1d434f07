import ModuleBundler.Proofs.Json.Canonical
import ModuleBundler.Proofs.Loader.Raw
import ModuleBundler.Proofs.Script.Literal

/-!
# JSON texts as modules

A JSON text becomes a script of one statement, which exports the canonical value of the text. What a
value is written as is an expression as well: each value is read back as a literal of its kind.
Lowering has nothing to do there, and the module depends on nothing.
-/

namespace ModuleBundler

open Json (Value)
open Script (Lexeme Node Span Program SpellsTo loneMarks spells_mark)
open Script.Parser (IsAssignment IsProperty separated)

/-! ## The tokens of a value -/

namespace Json.Value

mutual

/-- The tokens of the compact form. -/
def spell : Value → List Lexeme
  | .null => [.word "null" false]
  | .bool true => [.word "true" false]
  | .bool false => [.word "false" false]
  | .number (.negative _) => [.punctuator "-", .number]
  | .number _ => [.number]
  | .string s => [.string s true]
  | .array vs => .punctuator "[" :: (spellItems vs ++ [.punctuator "]"])
  | .object ms => .punctuator "\x7b" :: (spellMembers ms ++ [.punctuator "\x7d"])

def spellItems : List Value → List Lexeme
  | [] => []
  | [v] => spell v
  | v :: vs => spell v ++ .punctuator "," :: spellItems vs

def spellMembers : List (String × Value) → List Lexeme
  | [] => []
  | [(k, v)] => .string k true :: .punctuator ":" :: spell v
  | (k, v) :: ms =>
    .string k true :: .punctuator ":" :: (spell v ++ .punctuator "," :: spellMembers ms)

end

/-- The tokens of a member. -/
def memberSpell : String × Value → List Lexeme :=
  Script.Parser.keyedSpell Prod.fst fun m => spell m.2

theorem spellItems_eq : ∀ vs : List Value, spellItems vs = separated spell vs
  | [] => rfl
  | [v] => rfl
  | v :: w :: vs => by rw [spellItems, separated, spellItems_eq (w :: vs)]; simp

theorem spellMembers_eq : ∀ ms : List (String × Value), spellMembers ms = separated memberSpell ms
  | [] => rfl
  | [(k, v)] => rfl
  | (k, v) :: m :: ms => by
    rw [spellMembers, separated, spellMembers_eq (m :: ms)]
    · rfl
    · simp

theorem spells_number {n : Number} (h : (number n).Exact) {c : Char} (hc : c ∈ loneMarks)
    {rest place : List Char} {ls : List Lexeme} (hls : SpellsTo place (c :: rest) ls) :
    SpellsTo place (n.write.toList ++ c :: rest) ((number n).spell ++ ls) := by
  have hdigits (k : Nat) : SpellsTo place (Nat.toDigits 10 k ++ c :: rest) (.number :: ls) :=
    (Script.lexes_number k hc rest).spells hls
  cases n with
  | natural k =>
    rw [Number.write, Nat.toString_eq_ofList_toDigits, String.toList_ofList]
    exact hdigits k
  | negative k =>
    obtain ⟨d, ds, hcons, hd⟩ := exists_cons_toDigits k
    have hk := hdigits k
    rw [Number.write, Nat.toString_eq_ofList_toDigits]
    simp only [String.toList_append, String.toList_ofList]
    rw [hcons] at hk ⊢
    exact (Script.lexes_minus hd _).spells hk
  | float x => exact absurd h not_false

variable {place : List Char}

mutual

/-- What a value is written as is read token by token. -/
theorem Exact.spells : ∀ {v : Value}, v.Exact → ∀ {c : Char}, c ∈ loneMarks →
    ∀ {rest : List Char} {ls : List Lexeme}, SpellsTo place (c :: rest) ls →
      SpellsTo place (v.compact.toList ++ c :: rest) (v.spell ++ ls)
  | .null, _, _, hc, _, _, hls =>
    Script.spells_word (by decide +kernel) (Script.endsWord_mark hc _) hls
  | .bool true, _, _, hc, _, _, hls =>
    Script.spells_word (by decide +kernel) (Script.endsWord_mark hc _) hls
  | .bool false, _, _, hc, _, _, hls =>
    Script.spells_word (by decide +kernel) (Script.endsWord_mark hc _) hls
  | .number n, h, _, hc, _, _, hls => by
    rw [compact]
    exact spells_number h hc hls
  | .string s, _, _, _, _, _, hls => by
    rw [compact]
    exact (Script.lexes_quote s _).spells hls
  | .array vs, h, _, _, _, _, hls => by
    have hitems := ExactItems.spells (show ExactItems vs from h)
      (spells_mark (c := ']') (by decide) hls)
    simpa [compact, spell] using spells_mark (c := '[') (by decide) hitems
  | .object ms, h, _, _, _, _, hls => by
    have hmembers := ExactMembers.spells (show ExactMembers ms from h)
      (spells_mark (c := '\x7d') (by decide) hls)
    simpa [toList_compact_object, spell] using spells_mark (c := '\x7b') (by decide) hmembers

theorem ExactItems.spells : ∀ {vs : List Value}, ExactItems vs →
    ∀ {rest : List Char} {ls : List Lexeme}, SpellsTo place (']' :: rest) ls →
      SpellsTo place ((compactItems vs).toList ++ ']' :: rest) (spellItems vs ++ ls)
  | [], _, _, _, hls => hls
  | [v], h, _, _, hls => by
    rw [compactItems, spellItems]
    exact Exact.spells h.1 (by decide) hls
  | v :: w :: vs, h, _, _, hls => by
    have hmore := spells_mark (c := ',') (by decide) (ExactItems.spells h.2 hls)
    simpa [compactItems, spellItems] using Exact.spells h.1 (by decide) hmore

theorem ExactMembers.spells : ∀ {ms : List (String × Value)}, ExactMembers ms →
    ∀ {rest : List Char} {ls : List Lexeme}, SpellsTo place ('\x7d' :: rest) ls →
      SpellsTo place ((compactMembers ms).toList ++ '\x7d' :: rest) (spellMembers ms ++ ls)
  | [], _, _, _, hls => hls
  | [(k, v)], h, _, _, hls => by
    have hv := spells_mark (c := ':') (by decide) (Exact.spells h.1 (by decide) hls)
    simpa [compactMembers, spellMembers] using (Script.lexes_quote k _).spells hv
  | (k, v) :: m :: ms, h, _, _, hls => by
    have hmore := spells_mark (c := ',') (by decide) (ExactMembers.spells h.2 hls)
    have hv := spells_mark (c := ':') (by decide) (Exact.spells h.1 (by decide) hmore)
    simpa [compactMembers, spellMembers] using (Script.lexes_quote k _).spells hv

end

/-- What a value starts with, and what does not occur in it. -/
theorem spell_eq_cons (v : Value) : ∃ l more, v.spell = l :: more ∧
    l ∉ [.punctuator ",", .punctuator "]", .punctuator "\x7d", .punctuator "...", .invalid] := by
  cases v with
  | bool b => cases b <;> exact ⟨_, _, rfl, by simp⟩
  | number n => cases n <;> exact ⟨_, _, rfl, by simp⟩
  | null | string | array | object => exact ⟨_, _, rfl, by simp⟩

theorem spell_ne_nil (v : Value) : v.spell ≠ [] := by
  obtain ⟨l, more, hspell, -⟩ := v.spell_eq_cons
  simp [hspell]

/-- There are no fewer tokens than items, nor than those of an item. -/
theorem length_le_spellItems (vs : List Value) : vs.length ≤ (spellItems vs).length ∧
    ∀ v ∈ vs, v.spell.length ≤ (spellItems vs).length := by
  rw [spellItems_eq]
  exact ⟨Script.Parser.length_le_separated spell_ne_nil vs,
    fun v hv => Script.Parser.length_le_of_mem hv⟩

theorem length_le_spellMembers (ms : List (String × Value)) :
    ms.length ≤ (spellMembers ms).length ∧
      ∀ m ∈ ms, m.2.spell.length ≤ (spellMembers ms).length := by
  rw [spellMembers_eq]
  refine ⟨Script.Parser.length_le_separated (fun m => by simp [memberSpell,
    Script.Parser.keyedSpell]) ms, fun m hm => ?_⟩
  have hle : (memberSpell m).length ≤ (separated memberSpell ms).length :=
    Script.Parser.length_le_of_mem hm
  simp only [memberSpell, Script.Parser.keyedSpell, List.length_cons] at hle ⊢
  omega

theorem memberSpell_tokens {m : String × Value} {l : Lexeme} (h : l ∈ memberSpell m) :
    l = .string m.1 true ∨ l = .punctuator ":" ∨ l ∈ m.2.spell := by
  simpa [memberSpell, Script.Parser.keyedSpell] using h

mutual

/-- Neither the end of a text nor its first line is among the tokens of a value. -/
theorem spell_tokens : ∀ v : Value, ∀ l ∈ v.spell, l ≠ .finish ∧ l ≠ .hashbang
  | .null, _, h | .bool true, _, h | .bool false, _, h | .string _, _, h
  | .number (.natural _), _, h | .number (.float _), _, h => by
    obtain rfl := List.mem_singleton.1 h
    simp
  | .number (.negative _), _, h => by
    obtain rfl | rfl := List.mem_pair.1 h <;> simp
  | .array vs, l, h => by
    rw [spell, spellItems_eq, List.mem_cons, List.mem_append, List.mem_singleton] at h
    obtain rfl | h | rfl := h
    · simp
    · obtain rfl | ⟨v, hv, hl⟩ := Script.Parser.mem_separated h
      · simp
      · exact spell_tokens_items vs v hv l hl
    · simp
  | .object ms, l, h => by
    rw [spell, spellMembers_eq, List.mem_cons, List.mem_append, List.mem_singleton] at h
    obtain rfl | h | rfl := h
    · simp
    · obtain rfl | ⟨m, hm, hl⟩ := Script.Parser.mem_separated h
      · simp
      · obtain rfl | rfl | hl := memberSpell_tokens hl
        · simp
        · simp
        · exact spell_tokens_members ms m hm l hl
    · simp

theorem spell_tokens_items :
    ∀ vs : List Value, ∀ v ∈ vs, ∀ l ∈ spell v, l ≠ .finish ∧ l ≠ .hashbang
  | [] => List.forall_mem_nil _
  | v :: vs => List.forall_mem_cons.2 ⟨spell_tokens v, spell_tokens_items vs⟩

theorem spell_tokens_members :
    ∀ ms : List (String × Value), ∀ m ∈ ms, ∀ l ∈ spell m.2, l ≠ .finish ∧ l ≠ .hashbang
  | [] => List.forall_mem_nil _
  | (_, v) :: ms => List.forall_mem_cons.2 ⟨spell_tokens v, spell_tokens_members ms⟩

end

end Json.Value

/-! ## The syntax of a value -/

namespace Loader

mutual

/-- A literal of the kind of the value. -/
def IsLiteral : Value → Node → Prop
  | .number (.negative _), m => ∃ span inner, m = .mk .unary span [.mk .literal inner []]
  | .null, m | .bool _, m | .number _, m => ∃ span, m = .mk .literal span []
  | .string s, m => ∃ span, m = .mk (.string s) span []
  | .array vs, m => ∃ span parts, m = .mk .array span parts ∧ AreLiterals vs parts
  | .object ms, m => ∃ span parts, m = .mk .object span parts ∧ AreProperties ms parts

def AreLiterals : List Value → List Node → Prop
  | [], parts => parts = []
  | v :: vs, parts => ∃ m more, parts = m :: more ∧ IsLiteral v m ∧ AreLiterals vs more

def AreProperties : List (String × Value) → List Node → Prop
  | [], parts => parts = []
  | (k, v) :: ms, parts =>
    ∃ m more, parts = m :: more ∧ IsProperty k (IsLiteral v) m ∧ AreProperties ms more

end

theorem areLiterals_of_forall₂ {vs : List Value} {parts : List Node}
    (h : List.Forall₂ IsLiteral vs parts) : AreLiterals vs parts := by
  induction h with
  | nil => rfl
  | cons hv _ ih => exact ⟨_, _, rfl, hv, ih⟩

theorem areProperties_of_forall₂ {ms : List (String × Value)} {parts : List Node}
    (h : List.Forall₂ (fun m => IsProperty m.1 (IsLiteral m.2)) ms parts) :
    AreProperties ms parts := by
  induction h with
  | nil => rfl
  | cons hm _ ih => exact ⟨_, _, rfl, hm, ih⟩

/-! ## Reading the value -/

/-- The tokens of the value are read as its literal, where nothing goes on behind them. -/
def ReadsLiteral (v : Value) : Prop :=
  ∀ {place : Script.Place} {n : Nat} {ctx : Script.Context} {s : Script.ParserState} {p : String}
    {ls : List Lexeme},
    2 * v.spell.length ≤ n → v.spell.length < ctx.limit → p ∈ Script.Parser.closers →
    s.Faces place (v.spell ++ .punctuator p :: ls) →
    Script.Parser.Runs (Script.grammar n .assignment) ctx s fun m t =>
      t.Faces place (.punctuator p :: ls) ∧ IsLiteral v m

theorem readsLiteral_plain (v : Value) {l : Lexeme} (hl : l ∈ Script.Parser.plainLiterals)
    (hspell : v.spell = [l]) (hliteral : ∀ span, IsLiteral v (.mk .literal span [])) :
    ReadsLiteral v := by
  intro place n ctx s p ls hn hlimit hp h
  rw [hspell] at hn hlimit h
  obtain ⟨n, rfl⟩ : ∃ k, n = k + 2 := ⟨n - 2, by simp at hn; omega⟩
  apply (Script.Parser.runs_literal (Nat.zero_lt_of_lt hlimit) hl hp h).mono
  rintro _ t ⟨ht, span, rfl⟩
  exact ⟨ht, hliteral span⟩

theorem readsLiteral_negative (k : Nat) : ReadsLiteral (.number (.negative k)) := by
  intro place n ctx s p ls hn hlimit hp h
  obtain ⟨n, rfl⟩ : ∃ k, n = k + 3 := ⟨n - 3, by simp [Value.spell] at hn; omega⟩
  exact Script.Parser.runs_negative (Nat.zero_lt_of_lt hlimit) hp h

theorem readsLiteral_string (text : String) : ReadsLiteral (.string text) := by
  intro place n ctx s p ls hn hlimit hp h
  obtain ⟨n, rfl⟩ : ∃ k, n = k + 2 := ⟨n - 2, by simp [Value.spell] at hn; omega⟩
  exact Script.Parser.runs_text (Nat.zero_lt_of_lt hlimit) hp h

/-- What is read as literals one by one is so between commas. -/
theorem elements_of_readsLiteral {X : Type} {value : X → Value} {xs : List X} {n : Nat}
    {ctx : Script.Context} {close : String} (hclose : close = "]" ∨ close = "\x7d")
    (hlimit : xs.length < ctx.limit)
    (h : ∀ x ∈ xs, ReadsLiteral (value x) ∧ 2 * (value x).spell.length ≤ n ∧
      (value x).spell.length < ctx.limit) :
    Script.Parser.Elements n ctx close (fun x => (value x).spell) (fun x => IsLiteral (value x))
      xs where
  fewer := hlimit
  head x hx := by
    obtain ⟨l, more, hspell, hl⟩ := (value x).spell_eq_cons
    refine ⟨l, more, hspell, ?_⟩
    have hfinish := ((value x).spell_tokens l (by simp [hspell])).1
    simp only [List.mem_cons, List.not_mem_nil, or_false, not_or] at hl ⊢
    obtain ⟨hcomma, hbracket, hbrace, hdots, hinvalid⟩ := hl
    refine ⟨hcomma, ?_, hdots, hfinish, hinvalid⟩
    rcases hclose with rfl | rfl
    · exact hbracket
    · exact hbrace
  runs x hx place t p more hp ht := by
    obtain ⟨hreads, hn, hlength⟩ := h x hx
    have hcloser : p ∈ Script.Parser.closers := by
      rcases hp with rfl | rfl
      · decide
      · rcases hclose with rfl | rfl <;> decide
    exact hreads hn hlength hcloser ht

theorem readsLiteral_array {vs : List Value} (h : ∀ v ∈ vs, ReadsLiteral v) :
    ReadsLiteral (.array vs) := by
  intro place n ctx s p ls hn hlimit hp hs
  obtain ⟨hcount, hlength⟩ := Value.length_le_spellItems vs
  rw [Value.spell] at hn hlimit hs
  simp only [List.length_cons, List.length_append, List.length_nil] at hn hlimit
  obtain ⟨n, rfl⟩ : ∃ k, n = k + 2 := ⟨n - 2, by omega⟩
  have helements : Script.Parser.Elements n ctx "]" Value.spell IsLiteral vs := by
    refine elements_of_readsLiteral (.inl rfl) (by omega) fun v hv => ?_
    have hle := hlength v hv
    exact ⟨h v hv, by omega, by omega⟩
  rw [Value.spellItems_eq] at hs
  apply (Script.Parser.runs_array helements hp (by simpa using hs)).mono
  rintro _ t ⟨ht, span, parts, rfl, hparts⟩
  exact ⟨ht, span, parts, rfl, areLiterals_of_forall₂ hparts⟩

theorem readsLiteral_object {ms : List (String × Value)} (h : ∀ m ∈ ms, ReadsLiteral m.2) :
    ReadsLiteral (.object ms) := by
  intro place n ctx s p ls hn hlimit hp hs
  obtain ⟨hcount, hlength⟩ := Value.length_le_spellMembers ms
  rw [Value.spell] at hn hlimit hs
  simp only [List.length_cons, List.length_append, List.length_nil] at hn hlimit
  obtain ⟨n, rfl⟩ : ∃ k, n = k + 2 := ⟨n - 2, by omega⟩
  have helements : Script.Parser.Elements n ctx "\x7d" (fun m => Value.spell m.2)
      (fun m => IsLiteral m.2) ms := by
    refine elements_of_readsLiteral (.inr rfl) (by omega) fun m hm => ?_
    have hle := hlength m hm
    exact ⟨h m hm, by omega, by omega⟩
  rw [Value.spellMembers_eq, Value.memberSpell] at hs
  apply (Script.Parser.runs_object helements hp (by simpa using hs)).mono
  rintro _ t ⟨ht, span, parts, rfl, hparts⟩
  exact ⟨ht, span, parts, rfl, areProperties_of_forall₂ hparts⟩

mutual

/-- Every value is read as its literal. -/
theorem readsLiteral : ∀ v : Value, ReadsLiteral v
  | .null => readsLiteral_plain .null (by decide) rfl fun span => ⟨span, rfl⟩
  | .bool true => readsLiteral_plain (.bool true) (by decide) rfl fun span => ⟨span, rfl⟩
  | .bool false => readsLiteral_plain (.bool false) (by decide) rfl fun span => ⟨span, rfl⟩
  | .number (.natural k) =>
    readsLiteral_plain (.number (.natural k)) (by decide) rfl fun span => ⟨span, rfl⟩
  | .number (.negative k) => readsLiteral_negative k
  | .number (.float x) =>
    readsLiteral_plain (.number (.float x)) (by decide) rfl fun span => ⟨span, rfl⟩
  | .string text => readsLiteral_string text
  | .array vs => readsLiteral_array (readsLiteral_items vs)
  | .object ms => readsLiteral_object (readsLiteral_members ms)

theorem readsLiteral_items : ∀ vs : List Value, ∀ v ∈ vs, ReadsLiteral v
  | [] => List.forall_mem_nil _
  | v :: vs => List.forall_mem_cons.2 ⟨readsLiteral v, readsLiteral_items vs⟩

theorem readsLiteral_members : ∀ ms : List (String × Value), ∀ m ∈ ms, ReadsLiteral m.2
  | [] => List.forall_mem_nil _
  | (_, v) :: ms => List.forall_mem_cons.2 ⟨readsLiteral v, readsLiteral_members ms⟩

end

/-- Exporting a value without floats is one assignment of its literal. -/
theorem parse_literal {v : Value} (h : v.Exact) : ∃ node,
    Program.parse (exporting v.compact) = .ok ⟨[.statement node]⟩ ∧
      IsAssignment "module" (.bare "exports") (IsLiteral v) node := by
  refine parse_exporting (h.spells (by decide) (spells_mark (by decide) Script.spells_end))
    ⟨v.spell_ne_nil, fun hl => (v.spell_tokens _ hl).1 rfl,
      fun hl => (v.spell_tokens _ hl).2 rfl⟩ ?_
  exact fun place n ctx t l more hn hlimit ht => readsLiteral v hn hlimit (by decide) ht

end Loader

/-! ## Nothing to be lowered -/

namespace Lowering

open Loader (AreLiterals AreProperties IsLiteral)

mutual

/-- No literal asks for a module. -/
theorem callsOf_literal : ∀ {v : Json.Value} {m : Node}, IsLiteral v m → callsOf m = {}
  | .null, _, h | .bool _, _, h | .number (.natural _), _, h | .number (.float _), _, h
  | .string _, _, h => by
    obtain ⟨span, rfl⟩ := h
    rfl
  | .number (.negative _), _, h => by
    obtain ⟨span, inner, rfl⟩ := h
    rfl
  | .array vs, _, h => by
    obtain ⟨span, parts, rfl, hparts⟩ := h
    exact callsOfAll_literals hparts
  | .object ms, _, h => by
    obtain ⟨span, parts, rfl, hparts⟩ := h
    exact callsOfAll_properties hparts

theorem callsOfAll_literals : ∀ {vs : List Json.Value} {parts : List Node}, AreLiterals vs parts →
    callsOfAll parts = {}
  | [], _, h => by
    obtain rfl := h
    rfl
  | v :: vs, _, h => by
    obtain ⟨m, more, rfl, hv, hvs⟩ := h
    rw [callsOfAll, callsOf_literal hv, callsOfAll_literals hvs]
    rfl

theorem callsOfAll_properties : ∀ {ms : List (String × Json.Value)} {parts : List Node},
    AreProperties ms parts → callsOfAll parts = {}
  | [], _, h => by
    obtain rfl := h
    rfl
  | (k, v) :: ms, _, h => by
    obtain ⟨_, more, rfl, hm, hms⟩ := h
    obtain ⟨hv, span, inner⟩ := hm
    have hproperty (key value : Node) : callsOf (.mk .keyed span [key, value]) =
        callsOf key ++ (callsOf value ++ {}) := rfl
    rw [callsOfAll, hproperty, callsOf_literal hv, callsOfAll_properties hms]
    rfl

end

theorem contribution_literal {v : Json.Value} {node : Node}
    (h : IsAssignment "module" (.bare "exports") (IsLiteral v) node) :
    contributionOfProgram ⟨[.statement node]⟩ = {} := by
  obtain ⟨⟨⟨_, _⟩, _, _⟩, hv, span, inner⟩ := h
  have hassignment (target value : Node) : contributionOfProgram ⟨[.statement
      (.mk .expressionStatement span [.mk (.assignment true) inner [target, value]])]⟩ =
      {} ++ ((callsOf target ++ (callsOf value ++ {}) ++ {}) ++ {}) := rfl
  rw [hassignment, callsOf_literal hv]
  rfl

end Lowering

namespace Loader

/-- The script that exports a value. -/
theorem transform_literal {v : Value} (h : v.Exact) (path : String) :
    Transformer.imports.transform (exporting v.compact) path =
      .ok ⟨.empty, exporting v.compact⟩ := by
  obtain ⟨node, hparse, hnode⟩ := parse_literal h
  exact Lowering.transform_nothing hparse (Lowering.contribution_literal hnode) path

theorem run_json {text : String} {v : Value} (h : Json.parse text = .ok v) :
    json.run text = .ok (exporting v.compact) := by
  simp only [json, h]

theorem run_json_error {text : String} {f : Json.FaultAt} (h : Json.parse text = .error f) :
    json.run text = .error (f.message text.toList) := by
  simp only [json, h]

theorem exporting_inj {a b : String} (h : exporting a = exporting b) : a = b := by
  have hcancel (front back : String) (h : front ++ a ++ back = front ++ b ++ back) : a = b := by
    simpa using h
  exact hcancel _ _ h

/-- Only JSON is exported: whatever is no JSON, or is nested too deeply, is an error. Otherwise the
value is exported in its canonical form, as long as it has no floats. This form is JSON for the same
value, is exported as it stands, and is what every text is exported in that denotes the same value,
and no other text. It is read back as one assignment of a literal of the value to `module.exports`.
Lowering returns that script letter by letter and finds no dependencies in it, at every path. -/
theorem json_canonical (text : String) :
    ((¬ ∃ v, Json.Denotes text v) → ∃ message, json.run text = .error message) ∧
    (∀ code, json.run text = .ok code → ∃ v, Json.Denotes text v ∧ v.nesting < Json.maxDepth ∧
      Json.parse text = .ok v.canonical ∧
      code = "module.exports = " ++ v.canonical.compact ++ ";") ∧
    ∀ v, Json.Denotes text v → v.Exact → v.nesting < Json.maxDepth →
      ∃ w code, code = "module.exports = " ++ w.compact ++ ";" ∧ v.Same w ∧
        Json.parse text = .ok w ∧ json.run text = .ok code ∧
        Json.parse w.compact = .ok w ∧ json.run w.compact = .ok code ∧
        (∀ text' v', Json.Denotes text' v' → v'.Exact → v'.nesting < Json.maxDepth →
          (json.run text' = .ok code ↔ v.Same v')) ∧
        (∃ node, Program.parse code = .ok ⟨[.statement node]⟩ ∧
          IsAssignment "module" (.bare "exports") (IsLiteral w) node) ∧
        ∀ path, Transformer.imports.transform code path = .ok ⟨.empty, code⟩ := by
  refine ⟨fun hnone => ?_, fun code hcode => ?_, fun v hdenotes hexact hnesting => ?_⟩
  · cases hparse : Json.parse text with
    | error f => exact ⟨_, run_json_error hparse⟩
    | ok u =>
      obtain ⟨v, hv, -⟩ := Json.denotes_of_parse hparse
      exact absurd ⟨v, hv⟩ hnone
  · cases hparse : Json.parse text with
    | error f =>
      rw [run_json_error hparse] at hcode
      cases hcode
    | ok u =>
      rw [run_json hparse] at hcode
      cases hcode
      obtain ⟨v, hv, hnesting, rfl⟩ := Json.denotes_of_parse hparse
      exact ⟨v, hv, hnesting, rfl, rfl⟩
  · have hparse := Json.parse_of_denotes hdenotes hexact hnesting
    have hcanonical := hexact.canonical
    have hback : Json.parse v.canonical.compact = .ok v.canonical := by
      rw [hcanonical.parse_compact (Nat.lt_of_le_of_lt v.nesting_canonical_le hnesting),
        Value.canonical_canonical]
    refine ⟨v.canonical, exporting v.canonical.compact, rfl, v.same_canonical, hparse,
      run_json hparse, hback, run_json hback, fun text' v' hdenotes' hexact' hnesting' => ?_,
      parse_literal hcanonical, transform_literal hcanonical⟩
    have hparse' := Json.parse_of_denotes hdenotes' hexact' hnesting'
    have hback' : Json.parse v'.canonical.compact = .ok v'.canonical := by
      rw [hexact'.canonical.parse_compact
        (Nat.lt_of_le_of_lt v'.nesting_canonical_le hnesting'), Value.canonical_canonical]
    rw [run_json hparse', Value.same_iff]
    constructor
    · intro hcode
      have hcompact := exporting_inj (Except.ok.inj hcode)
      rw [hcompact, hback] at hback'
      exact Except.ok.inj hback'
    · intro hsame
      rw [hsame]

/-- A key is given twice, and the keys are not in order. -/
def repeatedText : String := "\x7b\"b\":1,\"a\":[true,-2],\"b\":null\x7d"

def repeatedValue : Value :=
  .object [("b", .number (.natural 1)), ("a", .array [.bool true, .number (.negative 2)]),
    ("b", .null)]

/-- The same with blanks and an escape. -/
def escapedText : String := "\x7b \"\\u0062\" :null,\"a\":[true,-2]\x7d\n"

def escapedValue : Value :=
  .object [("b", .null), ("a", .array [.bool true, .number (.negative 2)])]

theorem exact_repeatedValue : repeatedValue.Exact :=
  ⟨(by decide : 1 ≤ Json.maxNatural), ⟨trivial, (by decide : 0 < 2 ∧ 2 ≤ Nat.pow 2 63), trivial⟩,
    trivial, trivial⟩

theorem denotes_escapedText : Json.Denotes escapedText escapedValue := by
  have hzero : Json.IsHexDigit '0' 0 := ⟨by decide, by decide⟩
  have hsix : Json.IsHexDigit '6' 6 := ⟨by decide, by decide⟩
  have htwo : Json.IsHexDigit '2' 2 := ⟨by decide, by decide⟩
  have hescape (rest : List Char) :
      Json.SpelledString "b" ('"' :: '\\' :: 'u' :: '0' :: '0' :: '6' :: '2' :: '"' :: rest) rest :=
    ⟨_, rfl, .escape (.code (.digits hzero hzero hsix htwo _) (by simp [Json.IsSurrogate]))
      (.close _)⟩
  have hlist (rest : List Char) : Json.Spelled (.array [.bool true, .number (.negative 2)])
      ("[true,-2]".toList ++ rest) rest :=
    Value.Exact.spelled_compact (v := .array [.bool true, .number (.negative 2)])
      exact_repeatedValue.2.1 rest
  have htext : escapedText.toList = '\x7b' :: ' ' :: '"' :: '\\' :: 'u' :: '0' :: '0' :: '6' ::
      '2' :: '"' :: ' ' :: ':' :: 'n' :: 'u' :: 'l' :: 'l' :: ',' ::
        ("\"a\"".toList ++ ':' :: ("[true,-2]".toList ++ ['\x7d', '\n'])) := by decide +kernel
  refine ⟨_, ['\n'], .none _, ?_, .more (by decide) (.none _)⟩
  rw [htext]
  exact ⟨_, rfl, _, _, _, _, _, .more (by decide) (.none _), hescape _, .more (by decide) (.none _),
    .none _, rfl, _, _, _, _, _, ⟨_, .none _, .none _⟩, Value.spelledString_quote "a" _, .none _,
    .none _, hlist _, .none _⟩

theorem json_canonical_repeated :
    let code := "module.exports = \x7b\"a\":[true,-2],\"b\":null\x7d;"
    json.run repeatedText = .ok code ∧ json.run escapedText = .ok code ∧
      Transformer.imports.transform code "/a.json" = .ok ⟨.empty, code⟩ := by
  intro code
  have htext : repeatedText = repeatedValue.compact := by decide +kernel
  have hdenotes : Json.Denotes repeatedText repeatedValue :=
    htext ▸ exact_repeatedValue.denotes_compact
  obtain ⟨-, -, hcanonical⟩ := json_canonical repeatedText
  obtain ⟨w, out, hout, -, hparse, hrun, -, -, hsame, -, htransform⟩ :=
    hcanonical repeatedValue hdenotes exact_repeatedValue (by decide)
  have hw : w = repeatedValue.canonical := by
    rw [Json.parse_of_denotes hdenotes exact_repeatedValue (by decide)] at hparse
    exact (Except.ok.inj hparse).symm
  have hvalue : code = "module.exports = " ++ repeatedValue.canonical.compact ++ ";" := by
    decide +kernel
  obtain rfl : out = code := by rw [hout, hvalue, hw]
  have hexact : escapedValue.Exact := ⟨trivial, exact_repeatedValue.2.1, trivial⟩
  refine ⟨hrun, (hsame _ _ denotes_escapedText hexact (by decide)).2 ?_, htransform _⟩
  exact Value.same_iff.2 rfl

end Loader

end ModuleBundler
