import ModuleBundler.Proofs.Lowering.Requirements
import ModuleBundler.Proofs.Lowering.Separation

/-!
# Lowered scripts are finished

Where the imports, re-exports and export lists of a script stand in front of its own code, lowering
the output again changes nothing: the output is accepted, has nothing left to replace, and requires
the modules that the script asked for, in the same order.
-/

namespace ModuleBundler.Lowering

open Script
open Script.Parser

/-! ## What is required -/

theorem flatMap_requirements_importStatements (clause : ImportClause) (specifier temporary : String) :
    (importStatements clause specifier temporary).flatMap ImportStatement.requirements =
      [specifier] := by
  obtain ⟨default?, namespace?, named⟩ := clause
  cases default? <;> cases namespace? <;> cases named <;>
    simp [importStatements, ImportStatement.requirements, Source.requirements]

theorem requirements_imagesOf {item : Item} {span : Span} (hitem : item.whole? = some span)
    (used : Nat) : (imagesOf used item).flatMap Generated.requirements =
      (contributionOf used item).requests.map Request.specifier := by
  cases item with
  | importBindings span clause specifier =>
    rw [imagesOf, List.flatMap_map]
    exact flatMap_requirements_importStatements clause specifier _
  | exportAll span exported? specifier => cases exported? <;> rfl
  | exportFrom | exportList => rfl
  | statement | exportDeclaration | exportDefault => cases hitem

theorem requirements_images {items : List Item}
    (h : ∀ item ∈ items, ∃ span, item.whole? = some span) (used : Nat) :
    (images used items).flatMap Generated.requirements =
      (contributionOfAll used items).requests.map Request.specifier := by
  induction items generalizing used with
  | nil => rfl
  | cons item items ih =>
    obtain ⟨⟨span, hitem⟩, h⟩ := List.forall_mem_cons.1 h
    rw [images_cons, List.flatMap_append, requirements_imagesOf hitem, ih h, contributionOfAll,
      Contribution.requests_append, List.map_append]

theorem requirements_preamble (c : Contribution) :
    (preamble c).flatMap Generated.requirements = [] := by
  rw [List.flatMap_eq_nil_iff]
  intro g hg
  simp only [preamble, List.mem_append, List.mem_map] at hg
  obtain (hg | hg) | ⟨a, -, rfl⟩ := hg
  · split at hg
    · obtain rfl := List.mem_singleton.1 hg
      rfl
    · cases hg
  · split at hg
    · obtain rfl := List.mem_singleton.1 hg
      rfl
    · cases hg
  · rfl

/-! ## The order of mention -/

mutual

theorem offset_callsOf : ∀ n : Node,
    (callsOf n).requests.map Request.offset = n.sites.map Span.start
  | .mk shape span parts => by
    rw [callsOf.eq_def]
    dsimp only
    split
    case h_1 =>
      rw [Node.sites]
      rfl
    case h_2 =>
      rw [Node.sites]
      split <;> rfl
    case h_3 hi hc =>
      rw [Node.sites_inner hi hc]
      exact offset_callsOfAll parts

theorem offset_callsOfAll : ∀ l : List Node,
    (callsOfAll l).requests.map Request.offset = (Node.sitesOfAll l).map Span.start
  | [] => by
    rw [callsOfAll, Node.sitesOfAll]
    rfl
  | n :: l => by
    rw [callsOfAll, Node.sitesOfAll, Contribution.requests_append, List.map_append, List.map_append,
      offset_callsOf n, offset_callsOfAll l]

end

/-- What stands at the top level is asked for where it stands. -/
theorem offset_contributionOfAll (used : Nat) (items : List Item) :
    ((contributionOfAll used items).requests.map Request.offset).Sublist
      ((items.filterMap Item.whole?).map Span.start) := by
  induction items generalizing used with
  | nil => exact .slnil
  | cons item items ih =>
    rw [contributionOfAll, Contribution.requests_append, List.map_append, requests_contributionOf]
    cases item with
    | importBindings | exportAll | exportFrom => exact (ih _).cons_cons _
    | exportList => exact (ih _).cons _
    | statement | exportDeclaration | exportDefault => exact ih _

theorem pairwise_start {lo hi : Nat} {spans : List Span} (h : Fits lo hi spans) :
    (spans.map Span.start).Pairwise (· ≤ ·) := by
  rw [List.pairwise_map]
  refine (Edit.pairwise_of_fits h).imp fun hprecedes => ?_
  obtain hlt | heq := hprecedes
  · exact Nat.le_of_lt hlt
  · exact Nat.le_of_eq heq.1

/-- Sorting leaves requests that are in order as they are. -/
theorem specifiersOf_of_pairwise {requests : List Request}
    (h : (requests.map Request.offset).Pairwise (· ≤ ·)) :
    specifiersOf requests = (requests.map Request.specifier).eraseDups := by
  rw [List.pairwise_map] at h
  rw [specifiersOf, List.mergeSort_of_pairwise (h.imp decide_eq_true)]

namespace Fronted

variable {source : String} {program : Program} {front : List Item} {stop : Nat} {code : List Node}

/-- The requests of the script are in the order of mention. -/
theorem specifiersOf_eq (h : Fronted source.toList program front stop code)
    (hparse : Program.parse source = .ok program) :
    specifiersOf (contributionOfProgram program).requests =
      ((contributionOfProgram program).requests.map Request.specifier).eraseDups := by
  have hsequence := Program.parse_sequence hparse
  rw [h.items] at hsequence
  obtain ⟨mid, hfront, hcode⟩ := hsequence.split
  have hfits := hfront.fits_whole.append hcode.fits_sites hfront.le (Nat.le_refl _) hcode.le
  have hpairs := pairwise_start hfits
  apply specifiersOf_of_pairwise
  rw [h.contributionOfProgram_eq, Contribution.requests_append, List.map_append, offset_callsOfAll]
  rw [List.map_append] at hpairs
  exact hpairs.sublist ((offset_contributionOfAll 0 front).append_right _)

/-- What the output is read as requires the modules that the script asks for. -/
theorem requires_render (h : Fronted source.toList program front stop code)
    {before moved after : List Node}
    (hbefore : List.Forall₂ Generated.Written
      (preamble (contributionOfProgram program) ++ images 0 program.items) before)
    (hmoved : Elsewhere code moved)
    (hafter : List.Forall₂ Assignment.Written (contributionOfProgram program).trailing after) :
    RequiresAll ((contributionOfProgram program).requests.map Request.specifier)
      (before ++ moved ++ after) := by
  have hgenerated := RequiresAll.flatMap Generated.requirements
    (fun _ _ => Generated.Written.requires) hbefore
  have hcode : RequiresAll ((callsOfAll code).requests.map Request.specifier) code :=
    ⟨literalImportsOfAll_eq_nil h.static, rfl⟩
  have hassigned := RequiresAll.silent (fun _ _ => requires_export) hafter
  rw [List.flatMap_append, requirements_preamble, List.nil_append, h.items, images_append_statements,
    requirements_images h.fronts.exists_whole] at hgenerated
  have hall := (hgenerated.append (hcode.elsewhere hmoved)).append hassigned
  rw [List.append_nil, ← List.map_append] at hall
  rwa [h.contributionOfProgram_eq]

end Fronted

/-! ## Lowering again -/

theorem lower_eq {source : String} {program : Program} (h : Program.parse source = .ok program)
    (path : String) : lower source path = .ok
      { dependencies := OrderedMap.ofList <|
          (specifiersOf (contributionOfProgram program).requests).map fun s =>
            (s, Path.join (importerDirectory path) s)
        code := render source.toList (contributionOfProgram program) } := by
  rw [lower, h]
  rfl

/-- A script whose imports, re-exports and export lists stand in front of its own code is lowered to
a script that lowering leaves as it is: code and dependencies are the same. -/
theorem lower_stable {source : String} {program : Program} {front : List Item} {stop : Nat}
    {code : List Node} (h : Program.parse source = .ok program)
    (hfronted : Fronted source.toList program front stop code) (path : String) :
    ∃ out, lower source path = .ok out ∧ lower out.code path = .ok out := by
  obtain ⟨before, moved, after, hagain, hbefore, hmoved, hafter⟩ := hfronted.parse_render h
  have hrequires := hfronted.requires_render hbefore hmoved hafter
  have hstatements : Fronted (render source.toList (contributionOfProgram program)).toList
      ⟨(before ++ moved ++ after).map .statement⟩ [] 0 (before ++ moved ++ after) :=
    ⟨rfl, .none 0, by simp, hrequires.static_mem, .inl (by simp)⟩
  obtain ⟨-, -, hrender⟩ := hstatements.eq_nil_of_front
  have hasked : (contributionOfProgram ⟨(before ++ moved ++ after).map .statement⟩).requests.map
      Request.specifier = (contributionOfProgram program).requests.map Request.specifier := by
    rw [hstatements.contributionOfProgram_eq]
    exact hrequires.asked
  refine ⟨_, lower_eq h path, ?_⟩
  rw [lower_eq hagain path, hrender, hstatements.specifiersOf_eq hagain, hasked,
    ← hfronted.specifiersOf_eq h]

/-- The marker, the helper and both statements in front of the script's own are left as they are. -/
theorem lower_stable_parentheses : ∃ out, lower importingScript "/src/index.js" = .ok out ∧
    lower out.code "/src/index.js" = .ok out := by
  obtain ⟨n, hn, hparse⟩ := parse_importingScript
  exact lower_stable hparse (fronted_importingScript hn) "/src/index.js"

end ModuleBundler.Lowering
