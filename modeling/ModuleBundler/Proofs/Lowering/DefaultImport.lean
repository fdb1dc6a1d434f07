import ModuleBundler.Proofs.Lowering.Imports

/-!
# Spellings of a default import

A default import takes its value through the helper, whatever stands beside it and wherever the
value goes from there. A default export that is asked for by its name is a property of the module
like any other. The two agree on modules that are marked and on values that are their own default.
-/

namespace ModuleBundler.Lowering

open Script

section Helper

variable {V : Type} (h : Host V) (v : V)

/-- The value is marked as a module that was written with `export`. -/
def Host.Marked : Prop :=
  h.truthy v = true ∧ ∃ mark, h.property v "__esModule" = some mark ∧ h.truthy mark = true

variable {h v}

theorem Host.Marked.interop_eq (hmarked : h.Marked v) :
    h.interop v = h.property v "default" := by
  obtain ⟨hv, mark, hmark, htruthy⟩ := hmarked
  simp [Host.interop_eq, hv, hmark, htruthy]

/-- If the mark can be read, a value without one is its own default export. -/
theorem Host.interop_unmarked (hmarked : ¬ h.Marked v)
    (hread : h.truthy v = true → (h.property v "__esModule").isSome) :
    h.interop v = some v := by
  rw [Host.interop_eq]
  by_cases hv : h.truthy v = true
  · obtain ⟨mark, hmark⟩ := Option.isSome_iff_exists.1 (hread hv)
    have hmark' : h.truthy mark = false := by
      rw [← Bool.not_eq_true]
      exact fun htruthy => hmarked ⟨hv, mark, hmark, htruthy⟩
    simp [hv, hmark, hmark']
  · rw [if_neg hv]

/-- Where the helper gives the property `default`. -/
theorem Host.interop_eq_property_iff
    (hread : h.truthy v = true → (h.property v "__esModule").isSome) :
    h.interop v = h.property v "default" ↔ h.Marked v ∨ h.property v "default" = some v := by
  by_cases hmarked : h.Marked v
  · simp [hmarked, hmarked.interop_eq]
  · rw [Host.interop_unmarked hmarked hread]
    simp [hmarked, eq_comm]

end Helper

/-! ## Values of the constants -/

section Values

variable {V : Type} {h : Host V} {v : V} {bs : List (String × Reading)}

theorem exists_values (hread : ∀ b ∈ bs, (b.2.of h v).isSome) :
    ∃ values, bs.mapM (fun b => b.2.of h v) = some values := by
  induction bs with
  | nil => exact ⟨[], rfl⟩
  | cons b bs ih =>
    obtain ⟨values, hvalues⟩ := ih fun b' hb' => hread b' (List.mem_cons_of_mem _ hb')
    obtain ⟨w, hw⟩ := Option.isSome_iff_exists.1 (hread b List.mem_cons_self)
    exact ⟨w :: values, by simp [hw, hvalues]⟩

/-- Distinct names hold what they are bound to. -/
theorem holds_bindAll (hnames : (bs.map Prod.fst).Nodup) {p q : Progress V}
    (hbind : bindAll h v bs p = (some (), q)) :
    ∀ b ∈ bs, ∃ w, b.2.of h v = some w ∧ Holds b.1 w q := by
  induction bs generalizing p with
  | nil => simp
  | cons b bs ih =>
    rw [List.map_cons, List.nodup_cons] at hnames
    rw [bindAll_cons] at hbind
    cases hw : b.2.of h v with
    | none => simp [hw] at hbind
    | some w =>
      simp only [hw] at hbind
      refine List.forall_mem_cons.2 ⟨⟨w, hw, ?_⟩, ih hnames.2 hbind⟩
      have hholds : Holds b.1 w { p with constants := p.constants ++ [(b.1, w)] } := by
        simp [Holds]
      have hkept := hholds.bindAll (h := h) (w := v) hnames.1
      rwa [hbind] at hkept

/-- A text that binds names once gives each of them its value. -/
theorem BindsOnce.holds {text specifier : String} (hbinds : BindsOnce text specifier bs)
    (hnames : (bs.map Prod.fst).Nodup) {p : Progress V}
    (hv : h.require p.required specifier = some v) (hread : ∀ b ∈ bs, (b.2.of h v).isSome) :
    ∃ q, execute h text p = (some (), q) ∧ q.required = p.required ++ [specifier] ∧
      ∀ b ∈ bs, ∃ w, b.2.of h v = some w ∧ Holds b.1 w q := by
  obtain ⟨values, hvalues⟩ := exists_values hread
  have hbind := bindAll_some hvalues { p with required := p.required ++ [specifier] }
  exact ⟨_, hbinds.binds h p v values hv hvalues, rfl, holds_bindAll hnames hbind⟩

end Values

/-! ## Exported values -/

/-- Executing the text exports properties of the module under other names, in order. -/
def ExportsProperties (text specifier : String) (names : List (String × String)) : Prop :=
  ∀ {V : Type} (h : Host V) (p : Progress V) (v : V) (values : List V),
    h.require p.required specifier = some v →
    names.mapM (fun n => h.property v n.2) = some values →
    execute h text p = (some (), { p with
      required := p.required ++ [specifier]
      exports := p.exports ++ (names.map Prod.fst).zip values })

theorem forM_assign {V : Type} {h : Host V} {v : V} {names : List (String × String)}
    {values : List V} (hvalues : names.mapM (fun n => h.property v n.2) = some values)
    (p : Progress V) :
    (names.forM fun n => Run.ofOption (h.property v n.2) >>= .assign n.1) p =
      (some (), { p with exports := p.exports ++ (names.map Prod.fst).zip values }) := by
  induction names generalizing p values with
  | nil =>
    simp at hvalues
    simp [hvalues]
    rfl
  | cons n names ih =>
    simp only [List.mapM_cons, Option.bind_eq_bind, Option.bind_eq_some_iff, Option.pure_def,
      Option.some.injEq] at hvalues
    obtain ⟨w, hw, ws, hws, rfl⟩ := hvalues
    have hassign : (Run.ofOption (h.property v n.2) >>= Run.assign n.1) p =
        (some (), { p with exports := p.exports ++ [(n.1, w)] }) := by
      rw [hw]
      rfl
    rw [List.forM, Run.bind_some hassign, ih hws]
    simp

theorem exportsProperties_named {names : List (String × String)} {specifier : String}
    (hread : ∀ n ∈ names, ReadableName n.1 ∧ ReadableName n.2) :
    ExportsProperties (ReexportStatement.named names specifier).render specifier names := by
  intro V h p v values hv hvalues
  obtain ⟨loop, hexecute⟩ := execute_reexport (s := .named names specifier) hread
  have hrequire : Run.require h specifier p =
      (some v, { p with required := p.required ++ [specifier] }) := by
    rw [Run.require, hv]
  rw [hexecute h]
  refine (Run.bind_some hrequire).trans ?_
  exact forM_assign hvalues _

/-! ## Scripts -/

theorem mem_trailing {program : Program} {span : Span} {names : List ExportSpecifier}
    (hitem : .exportList span names ∈ program.items) {e : ExportSpecifier} (he : e ∈ names) :
    ⟨e.exported.name, e.source.name⟩ ∈ (contributionOfProgram program).trailing := by
  obtain ⟨n, hitem⟩ := exists_numbered 0 hitem
  have hmem : (⟨e.exported.name, e.source.name⟩ : Assignment) ∈
      (contributionOf n (.exportList span names)).trailing := List.mem_map_of_mem he
  have hsubset : (contributionOf n (.exportList span names)).trailing ⊆
      (contributionOfAll 0 program.items).trailing :=
    subset_contributionOfAll (fun _ _ => rfl) hitem
  exact List.mem_append_left _ (hsubset hmem)

/-- What the spellings of a default import give. -/
structure DefaultSpellings (program : Program) (edits : List Edit) : Prop where
  /-- The default binding of an import is what the helper gives, whatever stands beside it; a named
  binding is the property. -/
  imports : ∀ n span c specifier, (n, .importBindings span c specifier) ∈ numbered 0 program.items →
    ∃ text, ⟨span.start, span.stop, text⟩ ∈ edits ∧ (Importable c (temporaryName n) →
      ∀ {V : Type} (h : Host V) (p : Progress V) (v : V),
        h.require p.required specifier = some v →
        (∀ b ∈ c.bindings (temporaryName n), (b.2.of h v).isSome) →
        ∃ q, execute h text p = (some (), q) ∧
          (∀ d, c.defaultName? = some d → ∃ w, h.interop v = some w ∧ Holds d w q) ∧
          ∀ b ∈ c.named, b.imported = "default" →
            ∃ w, h.property v "default" = some w ∧ Holds b.bound w q)
  /-- An import that is exported again keeps its value. -/
  exports : ∀ span names, .exportList span names ∈ program.items → ∀ e ∈ names,
    ∃ a ∈ (contributionOfProgram program).trailing, a.exported = e.exported.name ∧
      a.value = e.source.name ∧ (a.Readable → ∀ {V : Type} (h : Host V) (q : Progress V) (w : V),
        Holds e.source.name w q → execute h a.render q =
          (some (), { q with exports := q.exports ++ [(e.exported.name, w)] }))
  /-- A default export that is exported by its name is the property. -/
  reexports : ∀ span names specifier, .exportFrom span names specifier ∈ program.items →
    ∃ text, ⟨span.start, span.stop, text⟩ ∈ edits ∧
      ((∀ n ∈ names, ReadableName n.exported.name ∧ ReadableName n.source.name) →
        ExportsProperties text specifier (names.map fun n => (n.exported.name, n.source.name)))

theorem defaultSpellings {program : Program}
    (hvars : ∀ item ∈ program.items, item.ImportsVariables) :
    DefaultSpellings program (Edit.sort (contributionOfProgram program).edits) := by
  refine ⟨fun n span c specifier hitem => ?_, fun span names hitem e he => ?_,
    fun span names specifier hitem => ?_⟩
  · obtain ⟨text, hmem, -, hbinds⟩ := (evaluatesOnce hvars).imports n span c specifier hitem
    refine ⟨text, hmem, fun himportable V h p v hv hread => ?_⟩
    obtain ⟨q, hexecute, -, hholds⟩ :=
      (hbinds himportable).holds himportable.distinct hv hread
    refine ⟨q, hexecute, fun d hd => ?_, fun b hb hdefault => ?_⟩
    · refine hholds (d, .interop) ?_
      simp [ImportClause.bindings, ImportClause.specifiers, hd]
    · rw [← hdefault]
      refine hholds (b.bound, .property b.imported) ?_
      exact List.mem_append_right _ (List.mem_append_right _ (List.mem_map_of_mem hb))
  · refine ⟨_, mem_trailing hitem he, rfl, rfl, fun hread V h q w hw => ?_⟩
    rw [execute_export hread]
    have hconstant : Run.constant e.source.name q = (some w, q) := by rw [Run.constant, hw]
    exact Run.bind_some hconstant
  · obtain ⟨n, hitem⟩ := exists_numbered 0 hitem
    let pairs := names.map fun n => (n.exported.name, n.source.name)
    have hmem : ⟨span.start, span.stop, (ReexportStatement.named pairs specifier).render⟩ ∈
        (contributionOf n (.exportFrom span names specifier)).edits := List.mem_cons_self
    exact ⟨_, mem_edits hitem hmem, fun hread =>
      exportsProperties_named (List.forall_mem_map.2 hread)⟩

/-- A default import has the value that the helper gives, alone, beside a namespace or beside names,
and exported again. A default export that is imported or exported by its name is the property. If
the mark of the module can be read, the two agree on a module that is marked and on a value that is
its own default, and nowhere else. -/
theorem lower_defaults {source : String} {program : Program}
    (hparse : Program.parse source = .ok program) (path : String) : ∃ out edits body gap,
      lower source path = .ok out ∧ Splices source.toList program edits body ∧
      out.code = header (contributionOfProgram program) ++ String.ofList body ++ gap ++
        String.join ((contributionOfProgram program).trailing.map Assignment.renderLine) ∧
      DefaultSpellings program edits ∧
      ∀ {V : Type} (h : Host V) (v : V),
        (h.truthy v = true → (h.property v "__esModule").isSome) →
        (h.interop v = h.property v "default" ↔ h.Marked v ∨ h.property v "default" = some v) := by
  obtain ⟨out, body, hout, hsplices, hcode, -⟩ := lower_splices hparse path
  obtain ⟨gap, -, hfooter⟩ := exists_gap (contributionOfProgram program)
    (header (contributionOfProgram program) ++ String.ofList body)
  refine ⟨out, _, body, gap, hout, hsplices, ?_,
    defaultSpellings (Program.parse_importsVariables hparse),
    fun h v => Host.interop_eq_property_iff⟩
  rw [hcode, hfooter, ← String.append_assoc]

/-- A script that binds a default export twice and exports it once more. -/
def spelledScript : String :=
  "import a, \x7b default as b \x7d from './x';\nexport \x7b a as c \x7d"

/-- The import that an item is. -/
def importOf? : Item → Option (Span × ImportClause × String)
  | .importBindings span c specifier => some (span, c, specifier)
  | _ => none

/-- The names that an export list exports, each with the variable that it is of. -/
def listedExports : Item → List (String × String)
  | .exportList _ names => names.map fun n => (n.exported.name, n.source.name)
  | _ => []

theorem lower_defaults_mixed : ∃ program out edits body gap text,
    Program.parse spelledScript = .ok program ∧ lower spelledScript "/src/index.js" = .ok out ∧
      Splices spelledScript.toList program edits body ∧
      out.code = header (contributionOfProgram program) ++ String.ofList body ++ gap ++
        "exports.c = a;\n" ∧
      ⟨0, 38, text⟩ ∈ edits ∧
      ∀ {V : Type} (h : Host V) (v w : V), h.require [] "./x" = some v → h.interop v = some w →
        h.property v "default" = some v → ∃ p q,
          execute h text {} = (some (), p) ∧ Holds "a" w p ∧ Holds "b" v p ∧
          execute h "exports.c = a;" p = (some (), q) ∧ q.exports = p.exports ++ [("c", w)] := by
  have himported : (Program.parse spelledScript).toOption.map (fun p => p.items.map importOf?) =
      some [some (⟨0, 38⟩, ⟨some "a", none, [⟨"default", "b"⟩]⟩, "./x"), none] := by
    decide +kernel
  have hexported : (Program.parse spelledScript).toOption.map
      (fun p => (p.items.map listedExports, (contributionOfProgram p).trailing)) =
        some ([[], [("c", "a")]], [⟨"c", "a"⟩]) := by
    decide +kernel
  cases h : Program.parse spelledScript with
  | error line => simp [h, Except.toOption] at himported
  | ok program =>
    obtain ⟨out, edits, body, gap, hout, hsplices, hcode, hspellings, -⟩ :=
      lower_defaults h "/src/index.js"
    simp only [h, Except.toOption, Option.map_some, Option.some.injEq, Prod.mk.injEq]
      at himported hexported
    obtain ⟨first, rest, hitems, hfirst, hrest⟩ := List.map_eq_cons_iff.1 himported
    obtain ⟨last, rest, rfl, -, -⟩ := List.map_eq_cons_iff.1 hrest
    rw [hitems, List.map_cons, List.map_cons] at hexported
    obtain ⟨hexported, htrailing⟩ := hexported
    obtain ⟨-, hnames, -⟩ : _ ∧ listedExports last = [("c", "a")] ∧ _ := by simpa using hexported
    cases first <;> simp only [importOf?, Option.some.injEq, reduceCtorEq, Prod.mk.injEq] at hfirst
    cases last <;> simp only [listedExports, reduceCtorEq] at hnames
    rename_i span c specifier span' names
    obtain ⟨rfl, rfl, rfl⟩ := hfirst
    obtain ⟨e, rest', rfl, he, -⟩ := List.map_eq_cons_iff.1 hnames
    obtain ⟨text, htext, himport⟩ := hspellings.imports 0 _ _ _ (by
      rw [hitems]
      exact List.mem_cons_self)
    obtain ⟨a, ha, -, -, hexport⟩ := hspellings.exports span' (e :: rest') (by
      rw [hitems]
      exact List.mem_cons_of_mem _ List.mem_cons_self) e List.mem_cons_self
    rw [htrailing, List.mem_singleton] at ha
    subst ha
    obtain ⟨⟨value, _⟩, ⟨name, _⟩⟩ := e
    cases he
    refine ⟨program, out, edits, body, gap, text, rfl, hout, hsplices, ?_, htext,
      fun h v w hv hw hdefault => ?_⟩
    · rw [hcode, htrailing]
      exact congrArg _ (by decide +kernel)
    have himportable : Importable ⟨some "a", none, [⟨"default", "b"⟩]⟩ (temporaryName 0) :=
      ⟨by decide +kernel, by decide +kernel, by decide +kernel, by decide +kernel⟩
    have hreadable : (⟨"c", "a"⟩ : Assignment).Readable :=
      ⟨by decide +kernel, ⟨by decide +kernel, .inl (by decide)⟩⟩
    have hrender : (⟨"c", "a"⟩ : Assignment).render = "exports.c = a;" := by decide +kernel
    obtain ⟨p, hp, hdefaults, hnamed⟩ := himport himportable h {} v hv (by
      simp [ImportClause.bindings, ImportClause.temporary?, needsTemporary,
        ImportClause.specifiers, Reading.of, hw, hdefault])
    obtain ⟨w', hw', ha⟩ := hdefaults "a" rfl
    obtain ⟨v', hv', hb⟩ := hnamed ⟨"default", "b"⟩ List.mem_cons_self rfl
    cases hw.symm.trans hw'
    cases hdefault.symm.trans hv'
    have hc := hexport hreadable h p w ha
    rw [hrender] at hc
    exact ⟨p, _, hp, ha, hb, hc, rfl⟩

/-- A value that is not marked: the default import is the value, and its default export by name is a
property of it. -/
theorem default_spellings_differ : ∃ first second,
    lower "import d from './x'" "/src/index.js" = .ok first ∧
    lower "import \x7b default as d \x7d from './x'" "/src/index.js" = .ok second ∧
    first.code = interopHelper ++ "const d = __bindle_interop(require(\"./x\"));" ∧
    second.code = "const \x7b default: d \x7d = require(\"./x\");" ∧
    ∃ (h : Host Bool) (p q : Progress Bool), h.require [] "./x" = some true ∧
      execute h "const d = __bindle_interop(require(\"./x\"));" {} = (some (), p) ∧
      execute h second.code {} = (some (), q) ∧
      Holds "d" true p ∧ Holds "d" false q := by
  have hread : (Program.parse "import d from './x'").toOption.map contributionOfProgram =
      some { edits := [⟨0, 19, "const d = __bindle_interop(require(\"./x\"));"⟩],
             requests := [⟨0, "./x"⟩], usesInterop := true } := by decide +kernel
  have hread' : (Program.parse "import \x7b default as d \x7d from './x'").toOption.map
      contributionOfProgram =
      some { edits := [⟨0, 34, "const \x7b default: d \x7d = require(\"./x\");"⟩],
             requests := [⟨0, "./x"⟩] } := by decide +kernel
  cases h : Program.parse "import d from './x'" with
  | error line => simp [h, Except.toOption] at hread
  | ok program =>
    cases h' : Program.parse "import \x7b default as d \x7d from './x'" with
    | error line => simp [h', Except.toOption] at hread'
    | ok program' =>
      simp only [h, h', Except.toOption, Option.map_some, Option.some.injEq] at hread hread'
      obtain ⟨first, hfirst, hcode⟩ := lower_ok h "/src/index.js"
      obtain ⟨second, hsecond, hcode'⟩ := lower_ok h' "/src/index.js"
      have hc : first.code =
          interopHelper ++ "const d = __bindle_interop(require(\"./x\"));" := by
        rw [hcode, hread, render, splice, Edit.sort, List.mergeSort_singleton]
        decide +kernel
      have hc' : second.code = "const \x7b default: d \x7d = require(\"./x\");" := by
        rw [hcode', hread', render, splice, Edit.sort, List.mergeSort_singleton]
        decide +kernel
      -- a value that is not marked, and whose default export is another value
      let host : Host Bool := ⟨fun _ _ => some true, fun _ _ => some false, id, fun _ _ => none⟩
      have hvalue (text : String) (v : Bool)
          (hrun : (execute host text {}).1 = some () ∧ Holds "d" v (execute host text {}).2) :
          ∃ p, execute host text {} = (some (), p) ∧ Holds "d" v p :=
        ⟨_, Prod.ext hrun.1 rfl, hrun.2⟩
      obtain ⟨p, hp, hd⟩ := hvalue "const d = __bindle_interop(require(\"./x\"));" true (by
        unfold Holds
        decide +kernel)
      obtain ⟨q, hq, hd'⟩ := hvalue "const \x7b default: d \x7d = require(\"./x\");" false (by
        unfold Holds
        decide +kernel)
      exact ⟨first, second, hfirst, hsecond, hc, hc', host, p, q, rfl, hp, hc' ▸ hq, hd, hd'⟩

end ModuleBundler.Lowering
