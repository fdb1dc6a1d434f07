import ModuleBundler.Proofs.Lowering.Assignments
import ModuleBundler.Proofs.Lowering.Evaluation
import ModuleBundler.Proofs.Script.Import

/-!
# Imports evaluate their module once

Modules are not cached, so how often a lowered script asks for a module is how often that module
runs. The text that replaces an import or a re-export asks for its module once, and the constants
of an import are the names of its specifiers, with at most one more that holds the module.
-/

namespace ModuleBundler

/-- What a name is bound to, seen from the module. -/
inductive Lowering.Reading where
  | whole
  | interop
  | property (name : String)
  deriving DecidableEq

deriving instance DecidableEq for Script.ImportClause

namespace Script.ImportClause

open Lowering (Reading)

/-- The names that a clause binds: the namespace, the default export and the named exports. -/
def specifiers (c : ImportClause) : List (String × Reading) :=
  c.namespaceName?.toList.map (·, .whole) ++ c.defaultName?.toList.map (·, .interop) ++
    c.named.map fun b => (b.bound, .property b.imported)

/-- The constant that holds the module while it is taken apart. -/
def temporary? (c : ImportClause) (name : String) : Option String :=
  if Lowering.needsTemporary c then some name else none

/-- The constants that a clause turns into. -/
def bindings (c : ImportClause) (temporary : String) : List (String × Reading) :=
  (c.temporary? temporary).toList.map (·, .whole) ++ c.specifiers

end Script.ImportClause

namespace Lowering

open Script

variable {V : Type} {h : Host V}

def Reading.of (h : Host V) (v : V) : Reading → Option V
  | .whole => some v
  | .interop => h.interop v
  | .property name => h.property v name

/-- Binds names to what they are seen from a module as, in order. -/
def bindAll (h : Host V) (v : V) (bs : List (String × Reading)) : Run V Unit :=
  bs.forM fun b => do .declare b.1 (← .ofOption (b.2.of h v))

theorem bindAll_append (v : V) (as bs : List (String × Reading)) :
    bindAll h v (as ++ bs) = bindAll h v as >>= fun _ => bindAll h v bs := by
  induction as with
  | nil => rfl
  | cons a as ih =>
    rw [bindAll, List.cons_append, List.forM, ← bindAll, ih]
    simp only [bindAll, List.forM, bind_assoc]

theorem bindAll_cons (v : V) (b : String × Reading) (bs : List (String × Reading))
    (p : Progress V) : bindAll h v (b :: bs) p =
      match b.2.of h v with
      | some w => bindAll h v bs { p with constants := p.constants ++ [(b.1, w)] }
      | none => (none, p) := by
  rw [bindAll, List.forM]
  simp only [Run.bind_apply, Run.ofOption]
  cases b.2.of h v <;> rfl

/-- Binding names neither asks for a module nor exports anything. -/
theorem bindAll_kept (v : V) (bs : List (String × Reading)) (p : Progress V) :
    (bindAll h v bs p).2.required = p.required ∧ (bindAll h v bs p).2.exports = p.exports := by
  induction bs generalizing p with
  | nil => exact ⟨rfl, rfl⟩
  | cons b bs ih =>
    rw [bindAll_cons]
    split
    · exact ih _
    · exact ⟨rfl, rfl⟩

theorem bindAll_some {v : V} {bs : List (String × Reading)} {values : List V}
    (hvalues : bs.mapM (fun b => b.2.of h v) = some values) (p : Progress V) :
    bindAll h v bs p =
      (some (), { p with constants := p.constants ++ (bs.map Prod.fst).zip values }) := by
  induction bs generalizing p values with
  | nil => simp [bindAll]; rfl
  | cons b bs ih =>
    simp only [List.mapM_cons, Option.bind_eq_bind, Option.bind_eq_some_iff, Option.pure_def,
      Option.some.injEq] at hvalues
    obtain ⟨w, hw, ws, hws, rfl⟩ := hvalues
    simp [bindAll_cons, hw, ih hws]

theorem bindAll_none {v : V} {bs : List (String × Reading)}
    (hvalues : bs.mapM (fun b => b.2.of h v) = none) (p : Progress V) :
    (bindAll h v bs p).1 = none := by
  induction bs generalizing p with
  | nil => cases hvalues
  | cons b bs ih =>
    rw [bindAll_cons]
    split
    · rename_i w hw
      refine ih ?_ _
      cases hbs : bs.mapM fun b => b.2.of h v with
      | none => rfl
      | some values => simp [hw, hbs] at hvalues
    · rfl

/-! ## Statements -/

namespace ImportStatement

def source : ImportStatement → Source
  | .whole _ source | .defaultExport _ source | .fields _ source => source
  | .evaluate specifier => .required specifier

/-- What a statement binds, seen from its source. -/
def readings : ImportStatement → List (String × Reading)
  | .whole name _ => [(name, .whole)]
  | .defaultExport name _ => [(name, .interop)]
  | .fields bindings _ => bindings.map fun b => (b.bound, .property b.imported)
  | .evaluate _ => []

theorem declared_eq (s : ImportStatement) : s.declared = s.readings.map Prod.fst := by
  cases s <;> simp [declared, readings]

theorem forM_bindProperty (v : V) (named : List ImportBinding) : named.forM (bindProperty h v) =
    bindAll h v (named.map fun b => (b.bound, .property b.imported)) := by
  induction named with
  | nil => rfl
  | cons b named ih =>
    rw [List.forM, ih]
    rfl

theorem run_eq (s : ImportStatement) :
    s.run h = s.source.run h >>= fun v => bindAll h v s.readings := by
  cases s with
  | fields bindings source => simp only [run, forM_bindProperty, readings, ImportStatement.source]
  | whole name source => simp [run, ImportStatement.source, bindAll, readings, Reading.of]; rfl
  | defaultExport name source => simp [run, ImportStatement.source, bindAll, readings, Reading.of]
  | evaluate specifier => rfl

end ImportStatement

/-- The constant `name` has the value `v`. -/
def Holds (name : String) (v : V) (p : Progress V) : Prop :=
  p.constants.reverse.lookup name = some v

theorem Holds.declare {name other : String} {v w : V} {p : Progress V} (hp : Holds name v p)
    (hother : name ≠ other) :
    Holds name v { p with constants := p.constants ++ [(other, w)] } := by
  have hne : (name == other) = false := by simpa using hother
  simpa [Holds, List.lookup_cons, hne] using hp

theorem Holds.bindAll {name : String} {v w : V} {bs : List (String × Reading)}
    (hname : name ∉ bs.map Prod.fst) {p : Progress V} (hp : Holds name v p) :
    Holds name v (Lowering.bindAll h w bs p).2 := by
  induction bs generalizing p with
  | nil => exact hp
  | cons b bs ih =>
    rw [List.map_cons, List.mem_cons, not_or] at hname
    rw [bindAll_cons]
    split
    · exact ih hname.2 (hp.declare hname.1)
    · exact hp

/-- Statements that all read the constant that holds the module. -/
theorem forM_held {holder : String} {v : V} {statements : List ImportStatement}
    (hsource : ∀ s ∈ statements, s.source = .held holder)
    (hholder : holder ∉ (statements.flatMap ImportStatement.readings).map Prod.fst)
    {p : Progress V} (hp : Holds holder v p) : statements.forM (ImportStatement.run h) p =
      bindAll h v (statements.flatMap ImportStatement.readings) p := by
  induction statements generalizing p with
  | nil => rfl
  | cons s statements ih =>
    rw [List.flatMap_cons, List.map_append, List.mem_append, not_or] at hholder
    have hrun : s.run h p = bindAll h v s.readings p := by
      have hconstant : Run.constant holder p = (some v, p) := by rw [Run.constant, hp]
      rw [s.run_eq, hsource s List.mem_cons_self]
      exact Run.bind_some hconstant
    have hnext := hp.bindAll (h := h) (w := v) hholder.1
    rw [List.flatMap_cons, bindAll_append, List.forM, Run.bind_apply, Run.bind_apply, hrun]
    rcases hs : bindAll h v s.readings p with ⟨_ | _, q⟩
    · rfl
    · rw [hs] at hnext
      exact ih (fun s' hs' => hsource s' (List.mem_cons_of_mem _ hs')) hholder.2 hnext

/-- The first statement asks for the module, and the others read what it binds. -/
theorem importStatements_eq (c : ImportClause) (specifier temporary : String) : ∃ first rest,
    importStatements c specifier temporary = first :: rest ∧
      first.source = .required specifier ∧
      (∀ s ∈ rest, ∃ holder, first.readings = [(holder, .whole)] ∧ s.source = .held holder) ∧
      (first :: rest).flatMap ImportStatement.readings = c.bindings temporary := by
  obtain ⟨default?, namespace?, named⟩ := c
  cases default? <;> cases namespace? <;> cases named <;> refine ⟨_, _, rfl, rfl, ?_, ?_⟩ <;>
    simp [ImportClause.bindings, ImportClause.temporary?, ImportClause.specifiers, needsTemporary,
      ImportStatement.source, ImportStatement.readings]

theorem declared_importStatements (c : ImportClause) (specifier temporary : String) :
    (importStatements c specifier temporary).flatMap ImportStatement.declared =
      (c.bindings temporary).map Prod.fst := by
  obtain ⟨first, rest, hstatements, -, -, hreadings⟩ :=
    importStatements_eq c specifier temporary
  have hdeclared : ImportStatement.declared = fun s => s.readings.map Prod.fst :=
    funext ImportStatement.declared_eq
  rw [hstatements, ← hreadings, List.map_flatMap, hdeclared]

theorem run_importStatements (c : ImportClause) (specifier : String) {temporary : String}
    (hnames : ((c.bindings temporary).map Prod.fst).Nodup) :
    (importStatements c specifier temporary).forM (ImportStatement.run h) =
      .require h specifier >>= fun v => bindAll h v (c.bindings temporary) := by
  obtain ⟨first, rest, hstatements, hfirst, hrest, hreadings⟩ :=
    importStatements_eq c specifier temporary
  rw [hstatements, ← hreadings, List.forM, first.run_eq, hfirst, bind_assoc]
  rw [← hreadings, List.flatMap_cons, List.map_append] at hnames
  congr 1
  funext v p
  rw [List.flatMap_cons, bindAll_append, Run.bind_apply, Run.bind_apply]
  cases rest with
  | nil => rfl
  | cons s rest =>
    obtain ⟨holder, hholder, -⟩ := hrest s List.mem_cons_self
    have hsource : ∀ s' ∈ s :: rest, s'.source = .held holder := by
      intro s' hs'
      obtain ⟨holder', hholder', hs'⟩ := hrest s' hs'
      rw [hholder] at hholder'
      cases hholder'
      exact hs'
    rw [hholder] at hnames ⊢
    have hp : Holds holder v { p with constants := p.constants ++ [(holder, v)] } := by
      simp [Holds]
    exact forM_held hsource (List.nodup_cons.1 hnames).1 hp

/-! ## Texts -/

/-- Executing the text asks for the module, and for no other, once. -/
def AsksOnce (text specifier : String) : Prop :=
  ∀ {V : Type} (h : Host V) (p : Progress V),
    (execute h text p).2.required = p.required ++ [specifier]

/-- The text has these constants and asks for the module once. With the value of the module it binds
them, unless the module or a property throws. -/
structure BindsOnce (text specifier : String) (bindings : List (String × Reading)) : Prop where
  declares : Declares text (bindings.map Prod.fst)
  once : AsksOnce text specifier
  binds : ∀ {V : Type} (h : Host V) (p : Progress V) (v : V) (values : List V),
    h.require p.required specifier = some v → bindings.mapM (fun b => b.2.of h v) = some values →
    execute h text p = (some (), { required := p.required ++ [specifier],
                                   constants := p.constants ++ (bindings.map Prod.fst).zip values,
                                   exports := p.exports })
  throws : ∀ {V : Type} (h : Host V) (p : Progress V),
    (∀ v, h.require p.required specifier = some v → bindings.mapM (fun b => b.2.of h v) = none) →
    (execute h text p).1 = none

/-- The names that are imported under another name are in quotes, or words. -/
def ReadableClause (c : ImportClause) : Prop :=
  ∀ b ∈ c.named, b.imported ≠ b.bound → ReadableName b.imported

instance (c : ImportClause) : Decidable (ReadableClause c) :=
  inferInstanceAs (Decidable (∀ b ∈ c.named, _))

/-- The text of the clause can be read, and its names hide nothing that it uses. -/
structure Importable (c : ImportClause) (temporary : String) : Prop where
  readable : ReadableClause c
  distinct : ((c.bindings temporary).map Prod.fst).Nodup
  require : "require" ∉ (c.bindings temporary).map Prod.fst
  interop : c.defaultName?.isSome → interopName ∉ (c.bindings temporary).map Prod.fst

theorem readable_importStatements {c : ImportClause} {temporary : String} (hvars : c.BindsVariables)
    (htemporary : IsVariable temporary) (hread : ReadableClause c) (specifier : String) :
    ∀ s ∈ importStatements c specifier temporary, s.Readable := by
  have hfields : ∀ b ∈ c.named, ReadableBinding b := fun b hb =>
    ⟨hvars.named b hb, hread b hb⟩
  obtain ⟨hdefault, hnamespace, -⟩ := hvars
  obtain ⟨default?, namespace?, named⟩ := c
  cases default? <;> cases namespace? <;> cases named <;>
    simp_all [importStatements, ImportStatement.Readable, Source.Readable]

theorem toList_append_toString (text : String) (n : Nat) :
    (text ++ toString n).toList = text.toList ++ Nat.toDigits 10 n := by
  rw [String.toList_append, Nat.toString_eq_ofList_toDigits, String.toList_ofList]

theorem toList_temporaryName (n : Nat) :
    (temporaryName n).toList = "__bindle_import".toList ++ Nat.toDigits 10 n :=
  toList_append_toString _ n

theorem temporaryName_injective : Function.Injective temporaryName := by
  intro m n hmn
  have hdigits : Nat.toDigits 10 m = Nat.toDigits 10 n := by
    have htext := congrArg String.toList hmn
    rw [toList_temporaryName, toList_temporaryName] at htext
    exact List.append_cancel_left htext
  calc
    m = Nat.ofDigitChars 10 (Nat.toDigits 10 m) 0 := Nat.ofDigitChars_ten_toDigits.symm
    _ = Nat.ofDigitChars 10 (Nat.toDigits 10 n) 0 := by rw [hdigits]
    _ = n := Nat.ofDigitChars_ten_toDigits

theorem isIdentifierPart_of_isDigit {c : Char} (hc : c.isDigit = true) :
    isIdentifierPart c = true := by
  have hsmall : c.toNat < 0x80 := by
    simp only [Char.isDigit, Bool.and_eq_true, decide_eq_true_eq] at hc
    have hle := UInt32.le_iff_toNat_le.1 hc.2
    exact Nat.lt_of_le_of_lt hle (by decide)
  simp [isIdentifierPart, Unicode.isIdContinue, hsmall, Char.isAlphanum, hc]

theorem isVariable_temporaryName (n : Nat) : IsVariable (temporaryName n) := by
  have hhead : (temporaryName n).toList.head? = some '_' := by
    rw [toList_temporaryName]
    rfl
  refine ⟨⟨⟨'_', by rw [hhead]; rfl, by decide⟩, fun c hc => ?_⟩, .inl ?_⟩
  · rw [toList_temporaryName, List.mem_append] at hc
    obtain hc | hc := hc
    · have hword : IsWord "__bindle_import" := by decide +kernel
      exact hword.part c hc
    · exact isIdentifierPart_of_isDigit (Nat.isDigit_of_mem_toDigits (by decide) (by decide) hc)
  · have hother : ∀ w ∈ reservedWords, w.toList.head? ≠ some '_' := by decide
    rw [isReserved, ← Bool.not_eq_true, List.contains_iff_mem]
    exact fun hmem => hother _ hmem hhead

theorem usesInterop_iff (c : ImportClause) (specifier temporary : String) :
    (∃ s ∈ importStatements c specifier temporary, s.usesInterop = true) ↔
      c.defaultName?.isSome = true := by
  obtain ⟨default?, namespace?, named⟩ := c
  cases default? <;> cases namespace? <;> cases named <;>
    simp [importStatements, ImportStatement.usesInterop]

/-- The text of an import. -/
def clauseText (c : ImportClause) (specifier : String) (n : Nat) : String :=
  " ".intercalate ((importStatements c specifier (temporaryName n)).map ImportStatement.render)

theorem declares_import {c : ImportClause} (hvars : c.BindsVariables) (hread : ReadableClause c)
    (specifier : String) (n : Nat) :
    Declares (clauseText c specifier n) ((c.bindings (temporaryName n)).map Prod.fst) := by
  rw [← declared_importStatements c specifier]
  exact declares_imports
    (readable_importStatements hvars (isVariable_temporaryName n) hread specifier)

/-- An import asks for its module and then binds names. -/
theorem execute_import {c : ImportClause} (hvars : c.BindsVariables) {n : Nat}
    (himportable : Importable c (temporaryName n)) (specifier : String) (h : Host V) :
    execute h (clauseText c specifier n) =
      .require h specifier >>= fun v => bindAll h v (c.bindings (temporaryName n)) := by
  have hdeclared := declared_importStatements c specifier (temporaryName n)
  have hinterop : ∀ s ∈ importStatements c specifier (temporaryName n), s.usesInterop = true →
      interopName ∉ (importStatements c specifier (temporaryName n)).flatMap
        ImportStatement.declared := by
    intro s hs huses
    rw [hdeclared]
    exact himportable.interop ((usesInterop_iff c _ _).1 ⟨s, hs, huses⟩)
  rw [clauseText, execute_imports
    (readable_importStatements hvars (isVariable_temporaryName n) himportable.readable specifier)
    (hdeclared ▸ himportable.distinct) (hdeclared ▸ himportable.require) hinterop]
  exact run_importStatements c specifier himportable.distinct

theorem bindsOnce_import {c : ImportClause} (hvars : c.BindsVariables) {n : Nat}
    (himportable : Importable c (temporaryName n)) (specifier : String) :
    BindsOnce (clauseText c specifier n) specifier (c.bindings (temporaryName n)) := by
  refine ⟨declares_import hvars himportable.readable specifier n, fun h p => ?_,
    fun h p v values hv hvalues => ?_, fun h p hnone => ?_⟩
  · rw [execute_import hvars himportable, Run.bind_apply, Run.require]
    cases h.require p.required specifier with
    | none => rfl
    | some v => exact (bindAll_kept v _ _).1
  · rw [execute_import hvars himportable, Run.bind_apply, Run.require, hv]
    exact bindAll_some hvalues _
  · rw [execute_import hvars himportable, Run.bind_apply, Run.require]
    cases hv : h.require p.required specifier with
    | none => rfl
    | some v => exact bindAll_none (hnone v hv) _

/-- What follows the call of `require` in a re-export asks for nothing more. -/
theorem ReexportStatement.required_body (h : Host V) (loop : Node) (v : V) (s : ReexportStatement)
    (p : Progress V) : (s.body h loop v p).2.required = p.required := by
  cases s with
  | all specifier =>
    rw [body, Run.other]
    split <;> rfl
  | whole exported specifier => rfl
  | named names specifier =>
    rw [body]
    clear specifier
    induction names generalizing p with
    | nil => rfl
    | cons n names ih =>
      rw [List.forM, Run.bind_apply, Run.bind_apply, Run.ofOption]
      cases h.property v n.2 with
      | none => rfl
      | some w => exact ih _

theorem asksOnce_reexport (s : ReexportStatement) (hread : s.Readable) :
    AsksOnce s.render s.specifier := by
  intro V h p
  obtain ⟨loop, hexecute⟩ := execute_reexport hread
  rw [hexecute h, Run.bind_apply, Run.require]
  cases h.require p.required s.specifier with
  | none => rfl
  | some v => exact ReexportStatement.required_body h loop v s _


/-! ## Scripts -/

/-- Items with how many temporaries those before them take. -/
def numbered (used : Nat) : List Item → List (Nat × Item)
  | [] => []
  | item :: r => (used, item) :: numbered (used + (contributionOf used item).temporaries) r

theorem map_snd_numbered (used : Nat) (items : List Item) :
    (numbered used items).map Prod.snd = items := by
  induction items generalizing used with
  | nil => rfl
  | cons item r ih => rw [numbered, List.map_cons, ih]

theorem mem_of_numbered {used n : Nat} {items : List Item} {item : Item}
    (hitem : (n, item) ∈ numbered used items) : item ∈ items := by
  rw [← map_snd_numbered used items]
  exact List.mem_map_of_mem hitem

/-- The temporary of an item. -/
def temporary? (n : Nat) : Item → Option String
  | .importBindings _ c _ => c.temporary? (temporaryName n)
  | _ => none

def temporaries (program : Program) : List String :=
  (numbered 0 program.items).filterMap fun x => temporary? x.1 x.2

theorem toList_temporary? (n : Nat) (item : Item) : (temporary? n item).toList =
    (List.range' n (contributionOf n item).temporaries).map temporaryName := by
  cases item with
  | importBindings span c specifier =>
    rw [temporary?, ImportClause.temporary?, contributionOf]
    dsimp only
    split <;> rfl
  | exportDeclaration span d =>
    rw [contributionOf]
    dsimp only
    split <;> rfl
  | exportDefault span keyword d =>
    rw [contributionOf]
    dsimp only
    split <;> rfl
  | statement | exportAll | exportFrom | exportList => rfl

/-- Temporaries are numbered without gaps. -/
theorem filterMap_temporary? (used : Nat) (items : List Item) :
    ((numbered used items).filterMap fun x => temporary? x.1 x.2) =
      (List.range' used (contributionOfAll used items).temporaries).map temporaryName := by
  induction items generalizing used with
  | nil => rfl
  | cons item r ih =>
    have hcount : (contributionOfAll used (item :: r)).temporaries =
        (contributionOf used item).temporaries +
          (contributionOfAll (used + (contributionOf used item).temporaries) r).temporaries := rfl
    rw [hcount, ← List.range'_append_1, List.map_append, ← ih, ← toList_temporary?, numbered]
    cases h : temporary? used item <;> simp [h]

theorem nodup_temporaries (program : Program) : (temporaries program).Nodup := by
  rw [temporaries, filterMap_temporary?]
  exact List.Pairwise.map _ (fun _ _ hne => temporaryName_injective.ne hne) List.nodup_range'

theorem exists_numbered (used : Nat) {items : List Item} {item : Item} (hitem : item ∈ items) :
    ∃ n, (n, item) ∈ numbered used items := by
  rw [← map_snd_numbered used items] at hitem
  obtain ⟨⟨n, _⟩, hmem, rfl⟩ := List.mem_map.1 hitem
  exact ⟨n, hmem⟩

/-- What an item contributes to a list is part of what all items contribute to it. -/
theorem subset_contributionOfAll {α : Type} {f : Contribution → List α}
    (hf : ∀ a b, f (a ++ b) = f a ++ f b) {used n : Nat} {items : List Item} {item : Item}
    (hitem : (n, item) ∈ numbered used items) :
    f (contributionOf n item) ⊆ f (contributionOfAll used items) := by
  induction items generalizing used with
  | nil => cases hitem
  | cons first r ih =>
    rw [contributionOfAll, hf]
    obtain hfirst | hitem := List.mem_cons.1 hitem
    · cases hfirst
      exact List.subset_append_left _ _
    · exact List.Subset.trans (ih hitem) (List.subset_append_right _ _)

theorem mem_edits {program : Program} {n : Nat} {item : Item} {edit : Edit}
    (hitem : (n, item) ∈ numbered 0 program.items) (hedit : edit ∈ (contributionOf n item).edits) :
    edit ∈ Edit.sort (contributionOfProgram program).edits := by
  rw [(Edit.sort_perm _).mem_iff, contributionOfProgram, Contribution.edits_append]
  exact List.mem_append_left _ (subset_contributionOfAll Contribution.edits_append hitem hedit)

/-- Something is bound to what the helper gives. -/
def bindsInterop : Item → Bool
  | .importBindings _ c _ => c.specifiers.any (·.2 = .interop)
  | _ => false

theorem usesInterop_contributionOf (used : Nat) (item : Item) :
    (contributionOf used item).usesInterop = bindsInterop item := by
  cases item with
  | importBindings span c specifier =>
    obtain ⟨default?, namespace?, named⟩ := c
    cases default? <;> cases namespace? <;>
      simp [contributionOf, bindsInterop, ImportClause.specifiers]
  | exportDeclaration span d =>
    rw [contributionOf]
    dsimp only
    split <;> rfl
  | exportDefault span keyword d =>
    rw [contributionOf]
    dsimp only
    split <;> rfl
  | statement | exportAll | exportFrom | exportList => rfl

theorem usesInterop_contributionOfAll (used : Nat) (items : List Item) :
    (contributionOfAll used items).usesInterop = items.any bindsInterop := by
  induction items generalizing used with
  | nil => rfl
  | cons item r ih =>
    rw [List.any_cons, ← usesInterop_contributionOf used item, ← ih]
    rfl

theorem usesInterop_contributionOfProgram (program : Program) :
    (contributionOfProgram program).usesInterop = program.items.any bindsInterop := by
  rw [← usesInterop_contributionOfAll 0, contributionOfProgram]
  exact Bool.or_eq_left_iff_imp.2 fun h => by rw [(bare_callsOfAll _).usesInterop] at h; cases h

/-- Imports and re-exports give way to texts that ask for their modules once. What an import names
is bound by its text. -/
structure EvaluatesOnce (program : Program) (edits : List Edit) : Prop where
  imports : ∀ n span c specifier, (n, .importBindings span c specifier) ∈ numbered 0 program.items →
    ∃ text, ⟨span.start, span.stop, text⟩ ∈ edits ∧
      (ReadableClause c → Declares text ((c.bindings (temporaryName n)).map Prod.fst)) ∧
      (Importable c (temporaryName n) → BindsOnce text specifier (c.bindings (temporaryName n)))
  exportAll : ∀ span exported? specifier, .exportAll span exported? specifier ∈ program.items →
    ∃ text, ⟨span.start, span.stop, text⟩ ∈ edits ∧
      ((∀ exported ∈ exported?, ReadableName exported.name) → AsksOnce text specifier)
  exportFrom : ∀ span names specifier, .exportFrom span names specifier ∈ program.items →
    ∃ text, ⟨span.start, span.stop, text⟩ ∈ edits ∧
      ((∀ n ∈ names, ReadableName n.exported.name ∧ ReadableName n.source.name) →
        AsksOnce text specifier)

theorem evaluatesOnce {program : Program} (hvars : ∀ item ∈ program.items, item.ImportsVariables) :
    EvaluatesOnce program (Edit.sort (contributionOfProgram program).edits) := by
  refine ⟨fun n span c specifier hitem => ?_, fun span exported? specifier hitem => ?_,
    fun span names specifier hitem => ?_⟩
  · have hbinds := hvars _ (mem_of_numbered hitem)
    exact ⟨_, mem_edits hitem List.mem_cons_self,
      fun hread => declares_import hbinds hread specifier n,
      fun himportable => bindsOnce_import hbinds himportable specifier⟩
  · obtain ⟨n, hitem⟩ := exists_numbered 0 hitem
    cases exported? with
    | none =>
      have hmem : ⟨span.start, span.stop, (ReexportStatement.all specifier).render⟩ ∈
          (contributionOf n (.exportAll span none specifier)).edits := List.mem_cons_self
      have hasks : AsksOnce (ReexportStatement.all specifier).render specifier :=
        asksOnce_reexport (.all specifier) trivial
      exact ⟨_, mem_edits hitem hmem, fun _ => hasks⟩
    | some exported =>
      have hmem :
          ⟨span.start, span.stop, (ReexportStatement.whole exported.name specifier).render⟩ ∈
          (contributionOf n (.exportAll span (some exported) specifier)).edits :=
        List.mem_cons_self
      have hasks (hread : ReadableName exported.name) :
          AsksOnce (ReexportStatement.whole exported.name specifier).render specifier :=
        asksOnce_reexport (.whole exported.name specifier) hread
      exact ⟨_, mem_edits hitem hmem, fun hread => hasks (hread exported rfl)⟩
  · obtain ⟨n, hitem⟩ := exists_numbered 0 hitem
    let pairs := names.map fun n => (n.exported.name, n.source.name)
    have hmem : ⟨span.start, span.stop, (ReexportStatement.named pairs specifier).render⟩ ∈
        (contributionOf n (.exportFrom span names specifier)).edits := List.mem_cons_self
    have hasks (hread : ∀ n ∈ pairs, ReadableName n.1 ∧ ReadableName n.2) :
        AsksOnce (ReexportStatement.named pairs specifier).render specifier :=
      asksOnce_reexport (.named pairs specifier) hread
    exact ⟨_, mem_edits hitem hmem, fun hread => hasks (List.forall_mem_map.2 hread)⟩

/-- What an import or a re-export of an accepted script turns into asks for its module once, if its
names are words or in quotes. The constants of an import are the names of its specifiers, each with
what it stands for, and at most one temporary; temporaries of a script are distinct. The helper for
default exports is written if some import binds one. -/
theorem lower_imports {source : String} {program : Program}
    (h : Program.parse source = .ok program) (path : String) : ∃ out edits body gap,
      lower source path = .ok out ∧ Splices source.toList program edits body ∧
      out.code = (if (contributionOfProgram program).isModule then moduleMarker else "") ++
        (if program.items.any bindsInterop then interopHelper else "") ++
        String.join ((contributionOfProgram program).hoisted.map Assignment.renderLine) ++
        String.ofList body ++ gap ++
        String.join ((contributionOfProgram program).trailing.map Assignment.renderLine) ∧
      (gap = "" ∨ gap = "\n") ∧
      EvaluatesOnce program edits ∧ (temporaries program).Nodup := by
  obtain ⟨out, body, hout, hsplices, hcode, -⟩ := lower_splices h path
  obtain ⟨gap, hgap, hfooter⟩ := exists_gap (contributionOfProgram program)
    (header (contributionOfProgram program) ++ String.ofList body)
  refine ⟨out, _, body, gap, hout, hsplices, ?_, hgap,
    evaluatesOnce (Program.parse_importsVariables h), nodup_temporaries program⟩
  rw [hcode, hfooter, header, usesInterop_contributionOfProgram, ← String.append_assoc]

/-- A default import with names beside it takes a temporary. -/
theorem lower_imports_mixed : ∃ program out edits body text,
    Program.parse "import a, \x7b b as c, 'd-e' as f \x7d from './x'" = .ok program ∧
      lower "import a, \x7b b as c, 'd-e' as f \x7d from './x'" "/src/index.js" = .ok out ∧
      Splices "import a, \x7b b as c, 'd-e' as f \x7d from './x'".toList program edits body ∧
      ⟨0, 43, text⟩ ∈ edits ∧
      BindsOnce text "./x" [("__bindle_import0", .whole), ("a", .interop), ("c", .property "b"),
        ("f", .property "d-e")] := by
  let fields : Item → Option (Span × ImportClause × String)
    | .importBindings span c specifier => some (span, c, specifier)
    | _ => none
  have hread : (Program.parse "import a, \x7b b as c, 'd-e' as f \x7d from './x'").toOption.map
      (fun p => p.items.map fields) =
        some [some (⟨0, 43⟩, ⟨some "a", none, [⟨"b", "c"⟩, ⟨"d-e", "f"⟩]⟩, "./x")] := by
    decide +kernel
  cases h : Program.parse "import a, \x7b b as c, 'd-e' as f \x7d from './x'" with
  | error line => simp [h, Except.toOption] at hread
  | ok program =>
    obtain ⟨out, edits, body, gap, hout, hsplices, -, -, hevaluates, -⟩ :=
      lower_imports h "/src/index.js"
    simp only [h, Except.toOption, Option.map_some, Option.some.injEq] at hread
    obtain ⟨item, rest, hitems, hitem, -⟩ := List.map_eq_cons_iff.1 hread
    cases item <;> simp only [fields, Option.some.injEq, reduceCtorEq, Prod.mk.injEq] at hitem
    rename_i span c specifier
    obtain ⟨rfl, rfl, rfl⟩ := hitem
    obtain ⟨text, hmem, -, hbinds⟩ := hevaluates.imports 0 _ _ _ (by
      rw [hitems]
      exact List.mem_cons_self)
    refine ⟨program, out, edits, body, text, rfl, hout, hsplices, hmem, hbinds ⟨?_, ?_, ?_, ?_⟩⟩
    · decide +kernel
    · decide +kernel
    · decide +kernel
    · decide +kernel

/-- A name that is written in a pattern without quotes, although it is alphabetic without being an
identifier: the text of the import cannot be read, and asks for nothing. -/
theorem lower_import_unreadable : ∃ out,
    lower "import \x7b 'ⓐ' as b \x7d from './x'" "/src/index.js" = .ok out ∧
      out.code = "const \x7b ⓐ: b \x7d = require(\"./x\");" ∧
      Program.parse out.code = .error 1 ∧ ¬ AsksOnce out.code "./x" := by
  have hread : (Program.parse "import \x7b 'ⓐ' as b \x7d from './x'").toOption.map
      contributionOfProgram =
        some { edits := [⟨0, 30, "const \x7b ⓐ: b \x7d = require(\"./x\");"⟩],
               requests := [⟨0, "./x"⟩] } := by decide +kernel
  have hagain : (Program.parse "const \x7b ⓐ: b \x7d = require(\"./x\");").map (fun _ => ()) =
      .error 1 := by decide +kernel
  cases h : Program.parse "import \x7b 'ⓐ' as b \x7d from './x'" with
  | error line => simp [h, Except.toOption] at hread
  | ok program =>
    simp only [h, Except.toOption, Option.map_some, Option.some.injEq] at hread
    obtain ⟨out, hout, hcode⟩ := lower_ok h "/src/index.js"
    have hc : out.code = "const \x7b ⓐ: b \x7d = require(\"./x\");" := by
      rw [hcode, hread, render, splice, Edit.sort, List.mergeSort_singleton]
      decide +kernel
    have hparse : Program.parse out.code = .error 1 := by
      rw [hc]
      cases hj : Program.parse "const \x7b ⓐ: b \x7d = require(\"./x\");" with
      | ok joined => simp [hj, Except.map] at hagain
      | error line =>
        rw [hj] at hagain
        cases hagain
        rfl
    refine ⟨out, hout, hc, hparse, fun hasks => ?_⟩
    have hnone : statements? out.code = none := by
      rw [statements?, hparse]
      rfl
    have hrequired := hasks (⟨fun _ _ => none, fun _ _ => none, fun _ => false, fun _ _ => none⟩ :
      Host Unit) {}
    rw [execute, hnone] at hrequired
    cases hrequired

end Lowering

end ModuleBundler
