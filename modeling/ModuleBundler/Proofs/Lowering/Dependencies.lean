import ModuleBundler.Proofs.Graph.Breadth
import ModuleBundler.Proofs.Lowering.Rewriting
import ModuleBundler.Proofs.OrderedMap

/-!
# The dependencies of a script

Which modules a script asks for is read off its tree: by imports, re-exports, dynamic imports of a
string and calls of `require` with one. These are the dependencies of the lowered script, each once
and in the order of first mention, and the code that lowering writes requires no others.
-/

namespace ModuleBundler

namespace Lowering

open Script (Node Item Program)

/-! ## What a script asks for -/

/-- The parts of a node in which code may stand. The options of a dynamic import of a string are
dropped with it, and neither a name that is called nor a text that it is called with holds code. -/
def operands : Node → List Node
  | .mk .importCall _ (.mk (.string _) _ _ :: _) => []
  | .mk .call _ [.mk (.identifier _) _ _, .mk (.string _) _ _] => []
  | .mk _ _ parts => parts

/-- Somewhere in the code of a node a module is asked for. -/
inductive Asks : Node → Request → Prop
  | dynamicImport (specifier : String) (span s : Script.Span) (parts options : List Node) :
    Asks (.mk .importCall span (.mk (.string specifier) s parts :: options))
      ⟨span.start, specifier⟩
  | require (specifier : String) (span s s' : Script.Span) (parts parts' : List Node) :
    Asks (.mk .call span
      [.mk (.identifier "require") s parts, .mk (.string specifier) s' parts'])
      ⟨span.start, specifier⟩
  | inside {n part : Node} {r : Request} (hpart : part ∈ operands n) (h : Asks part r) : Asks n r

@[simp] theorem Contribution.requests_append (a b : Contribution) :
    (a ++ b).requests = a.requests ++ b.requests := rfl

theorem operands_inner {shape : Script.Shape} {span : Script.Span} {parts : List Node}
    (hi : ∀ value s p r, shape = .importCall → parts = .mk (.string value) s p :: r → False)
    (hc : ∀ name s p value s' p', shape = .call →
      parts = [.mk (.identifier name) s p, .mk (.string value) s' p'] → False) :
    operands (.mk shape span parts) = parts := by
  rw [operands.eq_def]
  split
  case h_1 heq =>
    cases heq
    exact (hi _ _ _ _ rfl rfl).elim
  case h_2 heq =>
    cases heq
    exact (hc _ _ _ _ _ _ rfl rfl).elim
  case h_3 heq =>
    cases heq
    rfl

mutual

/-- The calls of a node are collected where its code asks for a module. -/
theorem mem_requests_callsOf (r : Request) : ∀ n : Node, r ∈ (callsOf n).requests ↔ Asks n r
  | .mk shape span parts => by
    rw [callsOf.eq_def]
    dsimp only
    split
    case h_1 specifier s p options =>
      rw [List.mem_singleton]
      constructor
      · rintro rfl
        exact .dynamicImport specifier span s p options
      · intro h
        cases h with
        | dynamicImport => rfl
        | inside hpart => cases hpart
    case h_2 callee s p specifier s' p' =>
      constructor
      · intro h
        split at h
        case isTrue hcallee =>
          subst hcallee
          rw [List.mem_singleton.mp h]
          exact .require specifier span s s' p p'
        case isFalse => cases h
      · intro h
        cases h with
        | require => exact List.mem_singleton_self _
        | inside hpart => cases hpart
    case h_3 hi hc =>
      rw [mem_requests_callsOfAll r parts]
      constructor
      · rintro ⟨part, hpart, h⟩
        exact .inside ((operands_inner hi hc).symm ▸ hpart) h
      · intro h
        cases h with
        | dynamicImport => exact (hi _ _ _ _ rfl rfl).elim
        | require => exact (hc _ _ _ _ _ _ rfl rfl).elim
        | inside hpart h => exact ⟨_, (operands_inner hi hc) ▸ hpart, h⟩

theorem mem_requests_callsOfAll (r : Request) :
    ∀ l : List Node, r ∈ (callsOfAll l).requests ↔ ∃ n ∈ l, Asks n r
  | [] => by
    rw [callsOfAll]
    simp
  | n :: l => by
    rw [callsOfAll, Contribution.requests_append, List.mem_append, mem_requests_callsOf r n,
      mem_requests_callsOfAll r l]
    simp

end

/-- What an item asks for at the top level. -/
def request? : Item → Option Request
  | .importBindings span _ specifier | .exportAll span _ specifier | .exportFrom span _ specifier =>
    some ⟨span.start, specifier⟩
  | .statement _ | .exportList .. | .exportDeclaration .. | .exportDefault .. => none

theorem requests_contributionOf (used : Nat) (item : Item) :
    (contributionOf used item).requests = (request? item).toList := by
  cases item with
  | exportDeclaration span d =>
    simp only [contributionOf]
    split <;> rfl
  | exportDefault span keyword d =>
    simp only [contributionOf]
    split <;> rfl
  | _ => rfl

/-- Texts that lowering writes and that require nothing. -/
def plainTexts : List String := ["", "\n", ";", "exports.default = ", moduleMarker, interopHelper]

/-- A text that lowering writes. -/
inductive Emission where
  | plain (text : String) (h : text ∈ plainTexts)
  | assignment (a : Assignment)
  | imports (statements : List ImportStatement)
  | reexport (statement : ReexportStatement)
  | dynamicImport (specifier : String)

def Source.requirements : Source → List String
  | .required specifier => [specifier]
  | .held _ => []

def ImportStatement.requirements : ImportStatement → List String
  | .whole _ source | .defaultExport _ source | .fields _ source => source.requirements
  | .evaluate specifier => [specifier]

def ReexportStatement.requirements : ReexportStatement → List String
  | .all specifier | .whole _ specifier | .named _ specifier => [specifier]

namespace Emission

def render : Emission → String
  | .plain text _ => text
  | .assignment a => a.renderLine
  | .imports statements => " ".intercalate (statements.map ImportStatement.render)
  | .reexport statement => statement.render
  | .dynamicImport specifier => Lowering.dynamicImport specifier

/-- The specifiers of the calls of `require` in the text. -/
def requirements : Emission → List String
  | .plain .. | .assignment _ => []
  | .imports statements => statements.flatMap ImportStatement.requirements
  | .reexport statement => statement.requirements
  | .dynamicImport specifier => [specifier]

end Emission

/-- The edits write calls of `require` for requested modules only. -/
def Honest (c : Contribution) : Prop :=
  ∀ e ∈ c.edits, ∃ m : Emission, e.text = m.render ∧
    ∀ s ∈ m.requirements, ∃ offset, ⟨offset, s⟩ ∈ c.requests

theorem Honest.append {a b : Contribution} (ha : Honest a) (hb : Honest b) : Honest (a ++ b) := by
  intro e he
  rw [Contribution.edits_append, List.mem_append] at he
  rcases he with he | he
  · obtain ⟨m, hm, hs⟩ := ha e he
    exact ⟨m, hm, fun s h => (hs s h).imp fun _ hr => List.mem_append_left _ hr⟩
  · obtain ⟨m, hm, hs⟩ := hb e he
    exact ⟨m, hm, fun s h => (hs s h).imp fun _ hr => List.mem_append_right _ hr⟩

theorem honest_empty : Honest {} := fun _ he => by cases he

mutual

theorem honest_callsOf : ∀ n : Node, Honest (callsOf n)
  | .mk shape span parts => by
    rw [callsOf.eq_def]
    dsimp only
    split
    case h_1 specifier s p options =>
      intro e he
      rw [List.mem_singleton.mp he]
      refine ⟨.dynamicImport specifier, rfl, fun t ht => ⟨span.start, ?_⟩⟩
      rw [List.mem_singleton.mp ht]
      exact List.mem_singleton_self _
    case h_2 =>
      split <;> exact fun _ he => by cases he
    case h_3 => exact honest_callsOfAll parts

theorem honest_callsOfAll : ∀ l : List Node, Honest (callsOfAll l)
  | [] => by
    rw [callsOfAll]
    exact honest_empty
  | n :: l => by
    rw [callsOfAll]
    exact (honest_callsOf n).append (honest_callsOfAll l)

end

/-- A stretch of the output: of the source, or written by lowering. -/
inductive Piece where
  | kept (text : List Char)
  | written (emission : Emission)

def Piece.chars : Piece → List Char
  | .kept text => text
  | .written emission => emission.render.toList

/-- A text consists of stretches of the source and of texts that require some of the specifiers. -/
def Composed (source : List Char) (specifiers : List String) (text : List Char) : Prop :=
  ∃ pieces : List Piece, text = pieces.flatMap Piece.chars ∧
    (∀ kept, .kept kept ∈ pieces → kept <:+: source) ∧
    ∀ emission, .written emission ∈ pieces → ∀ s ∈ emission.requirements, s ∈ specifiers

namespace Composed

variable {source : List Char} {specifiers : List String} {a b : List Char}

theorem nil : Composed source specifiers [] :=
  ⟨[], rfl, by simp, by simp⟩

theorem append (ha : Composed source specifiers a) (hb : Composed source specifiers b) :
    Composed source specifiers (a ++ b) := by
  obtain ⟨as, rfl, hka, hwa⟩ := ha
  obtain ⟨bs, rfl, hkb, hwb⟩ := hb
  refine ⟨as ++ bs, List.flatMap_append.symm, fun kept h => ?_, fun emission h => ?_⟩
  · exact (List.mem_append.mp h).elim (hka kept) (hkb kept)
  · exact (List.mem_append.mp h).elim (hwa emission) (hwb emission)

theorem kept (h : a <:+: source) : Composed source specifiers a := by
  refine ⟨[.kept a], by simp [Piece.chars], fun kept hk => ?_, fun emission hw => ?_⟩
  · cases List.mem_singleton.mp hk
    exact h
  · cases List.mem_singleton.mp hw

theorem written (emission : Emission) (h : ∀ s ∈ emission.requirements, s ∈ specifiers) :
    Composed source specifiers emission.render.toList := by
  refine ⟨[.written emission], by simp [Piece.chars], fun kept hk => ?_, fun emission' hw => ?_⟩
  · cases List.mem_singleton.mp hk
  · cases List.mem_singleton.mp hw
    exact h

theorem plain {text : String} (h : text ∈ plainTexts) : Composed source specifiers text.toList :=
  written (.plain text h) fun _ hs => by cases hs

theorem assignments (l : List Assignment) :
    Composed source specifiers (String.join (l.map Assignment.renderLine)).toList := by
  induction l with
  | nil => exact nil
  | cons a l ih =>
    rw [List.map_cons, String.join_cons, String.toList_append]
    exact (written (.assignment a) fun _ hs => by cases hs).append ih

end Composed

end Lowering

end ModuleBundler
