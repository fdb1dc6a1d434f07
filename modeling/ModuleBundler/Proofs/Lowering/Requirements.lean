import ModuleBundler.Proofs.Lowering.Dependencies
import ModuleBundler.Proofs.Lowering.Generated
import ModuleBundler.Proofs.Script.Relocation.Program

/-!
# What code requires

The modules that code asks for by calls of `require` are read off its tree. An import and a re-export
give way to statements that require their module once; the other statements that lowering writes
require nothing. Code requires the same modules wherever it stands.
-/

namespace ModuleBundler.Lowering

open Script
open Script.Parser

/-- Code that requires these modules, in source order, and imports none dynamically. -/
structure Requires (specifiers : List String) (n : Node) : Prop where
  static : n.literalImports = []
  asked : (callsOf n).requests.map Request.specifier = specifiers

/-- Parts of code that require these modules one after the other. -/
structure RequiresAll (specifiers : List String) (l : List Node) : Prop where
  static : Node.literalImportsOfAll l = []
  asked : (callsOfAll l).requests.map Request.specifier = specifiers

theorem callsOf_inner {shape : Shape} {span : Span} {parts : List Node}
    (hi : ∀ value s p r, shape = .importCall → parts = .mk (.string value) s p :: r → False)
    (hc : ∀ name s p value s' p', shape = .call →
      parts = [.mk (.identifier name) s p, .mk (.string value) s' p'] → False) :
    callsOf (.mk shape span parts) = callsOfAll parts := by
  rw [callsOf.eq_def]
  dsimp only
  split
  case h_1 => exact (hi _ _ _ _ rfl rfl).elim
  case h_2 => exact (hc _ _ _ _ _ _ rfl rfl).elim
  case h_3 => rfl

namespace RequiresAll

variable {specifiers specifiers' : List String} {l l' : List Node}

theorem nil : RequiresAll [] [] := by
  constructor
  · rw [Node.literalImportsOfAll]
  · rw [callsOfAll]
    rfl

theorem cons {n : Node} (hn : Requires specifiers n) (h : RequiresAll specifiers' l) :
    RequiresAll (specifiers ++ specifiers') (n :: l) := by
  constructor
  · rw [Node.literalImportsOfAll, hn.static, h.static]
    rfl
  · rw [callsOfAll, Contribution.requests_append, List.map_append, hn.asked, h.asked]

theorem append (h : RequiresAll specifiers l) (h' : RequiresAll specifiers' l') :
    RequiresAll (specifiers ++ specifiers') (l ++ l') := by
  obtain ⟨hstatic, rfl⟩ := h
  induction l with
  | nil =>
    rw [callsOfAll]
    exact h'
  | cons n l ih =>
    rw [Node.literalImportsOfAll, List.append_eq_nil_iff] at hstatic
    rw [callsOfAll, Contribution.requests_append, List.map_append, List.append_assoc]
    exact cons ⟨hstatic.1, rfl⟩ (ih hstatic.2)

theorem flatMap {X : Type} {fits : X → Node → Prop} {xs : List X} (requirements : X → List String)
    (hfits : ∀ x n, fits x n → Requires (requirements x) n) (h : List.Forall₂ fits xs l) :
    RequiresAll (xs.flatMap requirements) l := by
  induction h with
  | nil => exact nil
  | cons hn _ ih => exact cons (hfits _ _ hn) ih

/-- Parts of which none requires anything. -/
theorem silent {X : Type} {fits : X → Node → Prop} {xs : List X}
    (hfits : ∀ x n, fits x n → Requires [] n) (h : List.Forall₂ fits xs l) : RequiresAll [] l := by
  induction h with
  | nil => exact nil
  | cons hn _ ih => exact cons (hfits _ _ hn) ih

theorem static_mem (h : RequiresAll specifiers l) : ∀ n ∈ l, n.literalImports = [] := by
  obtain ⟨hstatic, -⟩ := h
  induction l with
  | nil => simp
  | cons n l ih =>
    rw [Node.literalImportsOfAll, List.append_eq_nil_iff] at hstatic
    exact List.forall_mem_cons.2 ⟨hstatic.1, ih hstatic.2⟩

end RequiresAll

namespace Requires

variable {shape : Shape} {span : Span} {parts : List Node} {specifiers : List String} {n : Node}

theorem inner
    (hi : ∀ value s p r, shape = .importCall → parts = .mk (.string value) s p :: r → False)
    (hc : ∀ name s p value s' p', shape = .call →
      parts = [.mk (.identifier name) s p, .mk (.string value) s' p'] → False)
    (h : RequiresAll specifiers parts) : Requires specifiers (.mk shape span parts) := by
  constructor
  · rw [Node.literalImports_inner hi hc]
    exact h.static
  · rw [callsOf_inner hi hc]
    exact h.asked

/-- What is no call requires what its parts require. -/
theorem plain (hshape : shape ≠ .importCall ∧ shape ≠ .call) (h : RequiresAll specifiers parts) :
    Requires specifiers (.mk shape span parts) :=
  inner (fun _ _ _ _ heq => absurd heq hshape.1) (fun _ _ _ _ _ _ heq => absurd heq hshape.2) h

theorem leaf (shape : Shape) (span : Span) : Requires [] (.mk shape span []) :=
  inner (fun _ _ _ _ _ heq => by cases heq) (fun _ _ _ _ _ _ _ heq => by cases heq) .nil

/-- A single part. -/
theorem one (h : Requires specifiers n) : RequiresAll specifiers [n] := by
  have hall := RequiresAll.cons h .nil
  rwa [List.append_nil] at hall

end Requires

/-! ## Generated syntax -/

section Syntax

variable {n : Node} {name object : String} {key : Key} {specifiers : List String} {X : Type}
  {fits : X → Node → Prop} {xs : List X}

theorem requires_key (h : key.Written n) : Requires [] n := by
  cases h <;> exact .leaf _ _

theorem requires_member (h : IsMember object key n) : Requires [] n := by
  cases h with
  | member hkey => exact .plain (by simp) (.cons (.leaf _ _) (requires_key hkey).one)

theorem requires_assignment {value : Node → Prop} (hvalue : ∀ v, value v → Requires specifiers v)
    (h : IsAssignment object key value n) : Requires specifiers n := by
  cases h with
  | assignment htarget hv =>
    refine .plain (by simp) (Requires.one (.plain (by simp) ?_))
    exact .cons (requires_member htarget) (hvalue _ hv).one

theorem requires_function (hfits : ∀ x m, fits x m → Requires [] m) (h : IsFunction name fits xs n) :
    Requires [] n := by
  cases h with
  | function hbody span inner bound body =>
    have hparameters : Requires [] (.mk .parameters inner [.mk (.binding name) bound []]) :=
      .plain (by simp) (Requires.leaf _ _).one
    exact .plain (by simp) (.cons hparameters (Requires.plain (by simp) (.silent hfits hbody)).one)

theorem requires_application {argument : Node → Prop} (hfits : ∀ x m, fits x m → Requires [] m)
    (hargument : ∀ a, argument a → Requires specifiers a)
    (h : IsApplication name fits xs argument n) : Requires specifiers n := by
  cases h with
  | application hf ha =>
    cases hf with
    | group hf group =>
      refine .plain (by simp) (Requires.one (.inner (by simp) (by simp) ?_))
      exact .cons (.plain (by simp) (requires_function hfits hf).one) (hargument _ ha).one

theorem requires_keyLoop {body : Node → Prop} (hbody : ∀ b, body b → Requires [] b)
    (h : IsKeyLoop name object body n) : Requires [] n := by
  cases h with
  | loop hb span list declarator bound inner =>
    have hlist : Requires [] (.mk .variableList list
        [.mk .declarator declarator [.mk (.binding name) bound []]]) :=
      .plain (by simp) (Requires.one (.plain (by simp) (Requires.leaf _ _).one))
    exact .plain (by simp) (.cons hlist (.cons (.leaf _ _) (hbody _ hb).one))

theorem requires_operated {left : Node} {os : List Link} (hleft : Requires [] left)
    (hos : ∀ o ∈ os, ∀ m, o.fits m → Requires [] m) (h : Operated left os n) : Requires [] n := by
  induction h with
  | nil => exact hleft
  | @cons left right m o os hright span h ih =>
    rw [List.forall_mem_cons] at hos
    have hshape : o.shape ≠ .importCall ∧ o.shape ≠ .call := by
      unfold Link.shape
      split <;> simp
    exact ih (.plain hshape (.cons hleft (hos.1 _ hright).one)) hos.2

theorem requires_source {source : Source} (h : source.Written n) :
    Requires source.requirements n := by
  cases h with
  | required specifier span inner inner' =>
    constructor
    · rw [Node.literalImports]
    · rw [callsOf, if_pos rfl]
      rfl
  | held name span => exact .leaf _ _

theorem requires_constant {target value : Node} (htarget : Requires [] target)
    (hvalue : Requires specifiers value) (span inner : Span) :
    Requires specifiers (constant span inner target value) :=
  .plain (by simp) (Requires.one (.plain (by simp) (.cons htarget hvalue.one)))

theorem requires_field {f : Field} (h : f.Written n) : Requires [] n := by
  cases h with
  | same => exact .plain (by simp) (Requires.leaf _ _).one
  | bare | quoted => exact .plain (by simp) (.cons (.leaf _ _) (Requires.leaf _ _).one)

theorem requires_import {statement : ImportStatement} (h : statement.Written n) :
    Requires statement.requirements n := by
  cases h with
  | whole name hsource span inner bound =>
    exact requires_constant (.leaf _ _) (requires_source hsource) span inner
  | defaultExport name hsource span inner bound call callee =>
    refine requires_constant (.leaf _ _) (.inner (by simp) ?_ ?_) span inner
    · intro _ _ _ _ _ _ _ heq
      cases heq
      cases hsource
    · exact .cons (.leaf _ _) (requires_source hsource).one
  | fields hsource hfields span inner pattern =>
    have htarget := RequiresAll.silent (fun _ _ => requires_field) hfields
    exact requires_constant (.plain (by simp) htarget) (requires_source hsource) span inner
  | evaluate hsource span => exact .plain (by simp) (requires_source hsource).one

theorem requires_differs {value : String} (h : (differs value).fits n) : Requires [] n := by
  obtain ⟨span, rfl⟩ := h
  exact .leaf _ _

theorem requires_test {value other : String} {span : Span}
    (h : Operated (.mk (.identifier name) span []) (testOf name value other) n) : Requires [] n := by
  refine requires_operated (.leaf _ _) ?_ h
  rw [testOf, List.forall_mem_cons, List.forall_mem_singleton]
  refine ⟨fun _ => requires_differs, ?_⟩
  rintro m ⟨inner, hm⟩
  refine requires_operated (.leaf _ _) ?_ hm
  rw [List.forall_mem_singleton]
  exact fun _ => requires_differs

theorem requires_copy (h : IsCopy n) : Requires [] n := by
  cases h with
  | copy span inner htest hbody =>
    have hassignment := requires_assignment (fun _ => requires_member) hbody
    exact .plain (by simp) (.cons (requires_test htest) hassignment.one)

theorem requires_reexport {statement : ReexportStatement} (h : statement.Written n) :
    Requires statement.requirements n := by
  cases h with
  | all h =>
    exact requires_application (fun _ _ => requires_keyLoop fun _ => requires_copy)
      (fun _ => requires_source) h
  | whole h => exact requires_assignment (fun _ => requires_source) h
  | named h =>
    exact requires_application (fun _ _ => requires_assignment fun _ => requires_member)
      (fun _ => requires_source) h

theorem requires_export {a : Assignment} (h : a.Written n) : Requires [] n := by
  refine requires_assignment ?_ h
  rintro _ ⟨span, rfl⟩
  exact .leaf _ _

theorem requires_argument {argument : Argument} (h : argument.Written n) : Requires [] n := by
  cases h with
  | word | text => exact .leaf _ _
  | flag hproperty span =>
    cases hproperty with
    | keyed hv =>
      obtain ⟨span', rfl⟩ := hv
      refine .plain (by simp) (Requires.one (.plain (by simp) ?_))
      exact .cons (.leaf _ _) (Requires.leaf _ _).one

theorem requires_marker (h : IsMarker n) : Requires [] n := by
  cases h with
  | marker hcall span =>
    cases hcall with
    | call hf has call =>
      have harguments := RequiresAll.silent (fun _ _ => requires_argument) has
      refine .plain (by simp) (Requires.one (.inner (by simp) ?_ (.cons (requires_member hf) harguments)))
      intro _ _ _ _ _ _ _ heq
      cases heq
      cases hf

theorem requires_interop (h : IsInterop n) : Requires [] n := by
  cases h with
  | interop hf span inner bound =>
    refine requires_constant (.leaf _ _) (requires_function ?_ hf) span inner
    intro _ m hm
    cases hm with
    | choice inner htest hyes span choice no =>
      have htest : Requires [] _ := requires_operated (.leaf _ _) (by
        intro o ho m hm
        obtain rfl := List.mem_singleton.1 ho
        exact requires_member hm) htest
      refine .plain (by simp) (Requires.one (.plain (by simp) ?_))
      exact .cons htest (.cons (requires_member hyes) (Requires.leaf _ _).one)

end Syntax

/-- The modules that a generated statement requires. -/
def Generated.requirements : Generated → List String
  | .marker | .interop | .exported _ => []
  | .imported statement => statement.requirements
  | .reexported statement => statement.requirements

theorem Generated.Written.requires {g : Generated} {n : Node} (h : g.Written n) :
    Requires g.requirements n := by
  cases g with
  | marker => exact requires_marker h
  | interop => exact requires_interop h
  | imported statement => exact requires_import h
  | reexported statement => exact requires_reexport h
  | exported a => exact requires_export h

/-! ## Code elsewhere -/

section Moved

variable {d : Nat}

theorem move_shape_eq {shape shape' : Shape} (hfunction : ∀ name?, shape' ≠ .functionDefinition name?)
    (hclass : ∀ name?, shape' ≠ .classDefinition name?) (h : move d shape = shape') :
    shape = shape' := by
  cases shape with
  | functionDefinition => exact absurd h.symm (hfunction _)
  | classDefinition => exact absurd h.symm (hclass _)
  | _ => exact h

theorem moved_eq_mk {n : Node} {shape : Shape} {span : Span} {parts : List Node}
    (hfunction : ∀ name?, shape ≠ .functionDefinition name?)
    (hclass : ∀ name?, shape ≠ .classDefinition name?) (h : n.moved d = .mk shape span parts) :
    ∃ span' parts', n = .mk shape span' parts' := by
  obtain ⟨shape', span', parts'⟩ := n
  rw [Node.moved, Node.mk.injEq] at h
  obtain rfl := move_shape_eq hfunction hclass h.1
  exact ⟨span', parts', rfl⟩

/-- Nothing becomes a dynamic import of a string by moving. -/
theorem importCall_moved {shape : Shape} {parts r : List Node} {value : String} {s : Span}
    {p : List Node} (hshape : move d shape = .importCall)
    (hparts : Node.movedAll d parts = .mk (.string value) s p :: r) :
    ∃ value s p r, shape = .importCall ∧ parts = .mk (.string value) s p :: r := by
  obtain rfl := move_shape_eq (by simp) (by simp) hshape
  rw [Node.movedAll_eq_move] at hparts
  obtain ⟨n, parts, rfl, hn, -⟩ := List.map_eq_cons_iff.1 hparts
  obtain ⟨s', p', rfl⟩ := moved_eq_mk (by simp) (by simp) hn
  exact ⟨_, _, _, _, rfl, rfl⟩

/-- Nothing becomes the call of a name with a string by moving. -/
theorem call_moved {shape : Shape} {parts : List Node} {name value : String} {s s' : Span}
    {p p' : List Node} (hshape : move d shape = .call) (hparts : Node.movedAll d parts =
      [.mk (.identifier name) s p, .mk (.string value) s' p']) :
    ∃ name s p value s' p', shape = .call ∧
      parts = [.mk (.identifier name) s p, .mk (.string value) s' p'] := by
  obtain rfl := move_shape_eq (by simp) (by simp) hshape
  rw [Node.movedAll_eq_move] at hparts
  obtain ⟨callee, rest, rfl, hcallee, hrest⟩ := List.map_eq_cons_iff.1 hparts
  obtain ⟨argument, rest, rfl, hargument, hrest⟩ := List.map_eq_cons_iff.1 hrest
  obtain rfl := List.map_eq_nil_iff.1 hrest
  obtain ⟨s, p, rfl⟩ := moved_eq_mk (by simp) (by simp) hcallee
  obtain ⟨s', p', rfl⟩ := moved_eq_mk (by simp) (by simp) hargument
  exact ⟨_, _, _, _, _, _, rfl, rfl⟩

mutual

theorem calls_moved (d : Nat) : ∀ n : Node,
    (n.moved d).literalImports.length = n.literalImports.length ∧
      (callsOf (n.moved d)).requests.map Request.specifier =
        (callsOf n).requests.map Request.specifier
  | .mk shape span parts => by
    by_cases hi : ∃ value s p r, shape = .importCall ∧ parts = .mk (.string value) s p :: r
    · obtain ⟨value, s, p, r, rfl, rfl⟩ := hi
      have hmoved : (Node.mk .importCall span (.mk (.string value) s p :: r)).moved d =
          .mk .importCall (move d span)
            (.mk (.string value) (move d s) (Node.movedAll d p) :: Node.movedAll d r) := by
        rw [Node.moved, Node.movedAll, Node.moved]
        rfl
      rw [hmoved, Node.literalImports, Node.literalImports, callsOf, callsOf]
      exact ⟨rfl, rfl⟩
    by_cases hc : ∃ name s p value s' p', shape = .call ∧
        parts = [.mk (.identifier name) s p, .mk (.string value) s' p']
    · obtain ⟨name, s, p, value, s', p', rfl, rfl⟩ := hc
      have hmoved : (Node.mk .call span
          [.mk (.identifier name) s p, .mk (.string value) s' p']).moved d =
            .mk .call (move d span) [.mk (.identifier name) (move d s) (Node.movedAll d p),
              .mk (.string value) (move d s') (Node.movedAll d p')] := by
        rw [Node.moved, Node.movedAll, Node.movedAll, Node.movedAll, Node.moved, Node.moved]
        rfl
      rw [hmoved, Node.literalImports, Node.literalImports, callsOf, callsOf]
      refine ⟨rfl, ?_⟩
      split <;> rfl
    have hi' : ∀ value s p r, shape = .importCall → parts = .mk (.string value) s p :: r → False :=
      fun value s p r hshape hparts => hi ⟨value, s, p, r, hshape, hparts⟩
    have hc' : ∀ name s p value s' p', shape = .call →
        parts = [.mk (.identifier name) s p, .mk (.string value) s' p'] → False :=
      fun name s p value s' p' hshape hparts => hc ⟨name, s, p, value, s', p', hshape, hparts⟩
    rw [Node.moved, Node.literalImports_inner hi' hc', callsOf_inner hi' hc',
      Node.literalImports_inner (fun _ _ _ _ hs hp => hi (importCall_moved hs hp))
        (fun _ _ _ _ _ _ hs hp => hc (call_moved hs hp)),
      callsOf_inner (fun _ _ _ _ hs hp => hi (importCall_moved hs hp))
        (fun _ _ _ _ _ _ hs hp => hc (call_moved hs hp))]
    exact calls_movedAll d parts

theorem calls_movedAll (d : Nat) : ∀ l : List Node,
    (Node.literalImportsOfAll (Node.movedAll d l)).length = (Node.literalImportsOfAll l).length ∧
      (callsOfAll (Node.movedAll d l)).requests.map Request.specifier =
        (callsOfAll l).requests.map Request.specifier
  | [] => by
    rw [Node.movedAll]
    exact ⟨rfl, rfl⟩
  | n :: l => by
    obtain ⟨himports, hcalls⟩ := calls_moved d n
    obtain ⟨himports', hcalls'⟩ := calls_movedAll d l
    rw [Node.movedAll, Node.literalImportsOfAll, Node.literalImportsOfAll, callsOfAll, callsOfAll]
    simp only [List.length_append, Contribution.requests_append, List.map_append, himports,
      himports', hcalls, hcalls', and_self]

end

theorem requiresAll_move {specifiers : List String} {l : List Node} :
    RequiresAll specifiers (move d l) ↔ RequiresAll specifiers l := by
  obtain ⟨himports, hcalls⟩ := calls_movedAll d l
  rw [Node.movedAll_eq_move] at himports hcalls
  constructor
  · rintro ⟨hstatic, hasked⟩
    rw [hstatic] at himports
    exact ⟨List.length_eq_zero_iff.1 himports.symm, hcalls.symm.trans hasked⟩
  · rintro ⟨hstatic, hasked⟩
    rw [hstatic] at himports
    exact ⟨List.length_eq_zero_iff.1 himports, hcalls.trans hasked⟩

/-- Code requires the same modules elsewhere. -/
theorem RequiresAll.elsewhere {specifiers : List String} {code moved : List Node}
    (h : RequiresAll specifiers code) (hmoved : Elsewhere code moved) :
    RequiresAll specifiers moved := by
  obtain ⟨d, e, l, rfl, rfl⟩ := hmoved
  exact requiresAll_move.2 (requiresAll_move.1 h)

end Moved

end ModuleBundler.Lowering
