import Mathlib.Data.List.Forall2
import Mathlib.Data.List.TakeWhile
import ModuleBundler.Project.Config
import ModuleBundler.Proofs.Loader.Pipeline

/-!
# What a project describes

A project is turned into a configuration unless something is wrong with it, and the first thing that
is wrong is reported. The pipeline of the configuration runs the loaders that the rules name, and
its plugins are the named ones.
-/

namespace ModuleBundler.Project

open Loader (Runs)
open Loader.Pipeline (calls loadersFor)

/-! ## First defects -/

section Reports

variable {ε α β : Type} {x : Except ε α} {defects more : List ε}

/-- What fails, fails with the first of some defects; what has none succeeds. -/
def Reports (x : Except ε α) (defects : List ε) : Prop :=
  ∀ e, x = .error e ↔ defects.head? = some e

namespace Reports

theorem ok (a : α) : Reports (.ok a : Except ε α) [] := by
  intro e
  simp

theorem error (e : ε) (more : List ε) : Reports (.error e : Except ε α) (e :: more) := by
  intro e'
  simp

theorem exists_ok_iff (h : Reports x defects) : (∃ a, x = .ok a) ↔ defects = [] := by
  cases x with
  | ok a =>
    have hnone : ∀ e, defects.head? ≠ some e := fun e he => by simpa using (h e).2 he
    have hnil : defects = [] :=
      List.head?_eq_none_iff.1 (Option.eq_none_iff_forall_not_mem.2 hnone)
    simp [hnil]
  | error e =>
    have hne : defects ≠ [] := by
      rintro rfl
      simpa using (h e).1 rfl
    simp [hne]

/-- The defects of a first step come before those of a second one. -/
theorem bind {f : α → Except ε β} (hx : Reports x defects)
    (hf : ∀ a, x = .ok a → Reports (f a) more) : Reports (x >>= f) (defects ++ more) := by
  cases hresult : x with
  | ok a =>
    rw [hx.exists_ok_iff.1 ⟨a, hresult⟩]
    exact hf a hresult
  | error e =>
    obtain ⟨rest, rfl⟩ := List.head?_eq_some_iff.1 ((hx e).1 hresult)
    exact error e (rest ++ more)

theorem mapM {f : α → Except ε β} {d : α → List ε} (h : ∀ a, Reports (f a) (d a)) (as : List α) :
    Reports (as.mapM f) (as.flatMap d) := by
  induction as with
  | nil => exact ok []
  | cons a as ih =>
    rw [List.mapM_cons, List.flatMap_cons]
    refine (h a).bind fun b _ => ?_
    rw [← List.append_nil (as.flatMap d)]
    exact ih.bind fun bs _ => ok (b :: bs)

end Reports

theorem exists_of_bind_eq_ok {f : α → Except ε β} {b : β} (h : x >>= f = .ok b) :
    ∃ a, x = .ok a ∧ f a = .ok b := by
  cases x with
  | ok a => exact ⟨a, rfl, h⟩
  | error e => cases h

theorem forall₂_of_mapM {f : α → Except ε β} {as : List α} {bs : List β}
    (h : as.mapM f = .ok bs) : List.Forall₂ (fun a b => f a = .ok b) as bs := by
  induction as generalizing bs with
  | nil =>
    cases h
    exact .nil
  | cons a as ih =>
    rw [List.mapM_cons] at h
    cases hfirst : f a with
    | error e =>
      rw [hfirst] at h
      cases h
    | ok b =>
      cases hrest : as.mapM f with
      | error e =>
        rw [hfirst, hrest] at h
        cases h
      | ok rest =>
        rw [hfirst, hrest] at h
        cases h
        exact .cons hfirst (ih hrest)

end Reports

/-! ## What is wrong with a project -/

/-- An entry has to say something. -/
def entryDefects : Option String → List Error
  | some entry =>
    if entry.toList.all Unicode.isBlank then [.missingField "entry" entryHint] else []
  | none => [.missingField "entry" entryHint]

def patternDefects (pattern : String) : List Error :=
  match Regex.Expression.read pattern with
  | .ok _ => []
  | .error fault => [.invalidPattern pattern fault.message]

def loaderDefects (name : String) : List Error :=
  if name ∈ Loader.builtinNames then [] else [.unknownLoader name Loader.builtinNames]

def pluginDefects (name : String) : List Error :=
  if name ∈ Plugin.builtinNames then [] else [.unknownPlugin name Plugin.builtinNames]

def emptyUse (pattern : String) : Error :=
  .invalid ("rule '" ++ pattern ++ "' has an empty \x60use\x60 list")
    ("Name at least one loader: " ++ ", ".intercalate Loader.builtinNames)

def Rule.defects (r : Rule) : List Error :=
  patternDefects r.test ++ (r.use.names.flatMap loaderDefects ++
    if r.use = .chain [] then [emptyUse r.test] else [])

/-- All that is wrong, in the order in which it is looked for. -/
def defects (p : Project) : List Error :=
  entryDefects p.entry? ++ (p.rules.flatMap Rule.defects ++ p.plugins.flatMap pluginDefects)

/-- A project with nothing wrong. -/
structure IsSound (p : Project) : Prop where
  entry : ∃ entry, p.entry? = some entry ∧ ∃ c ∈ entry.toList, Unicode.isBlank c = false
  pattern : ∀ r ∈ p.rules, ∃ e, Regex.Expression.read r.test = .ok e
  loader : ∀ r ∈ p.rules, ∀ name ∈ r.use.names, name ∈ Loader.builtinNames
  use : ∀ r ∈ p.rules, r.use ≠ .chain []
  plugin : ∀ name ∈ p.plugins, name ∈ Plugin.builtinNames

variable {p : Project} {r : Rule} {directory name : String}

theorem entryDefects_eq_nil_iff {stated : Option String} : entryDefects stated = [] ↔
    ∃ entry, stated = some entry ∧ ∃ c ∈ entry.toList, Unicode.isBlank c = false := by
  cases stated with
  | none => simp [entryDefects]
  | some entry => simp [entryDefects]

theorem Rule.defects_eq_nil_iff : r.defects = [] ↔ (∃ e, Regex.Expression.read r.test = .ok e) ∧
    (∀ name ∈ r.use.names, name ∈ Loader.builtinNames) ∧ r.use ≠ .chain [] := by
  have hpattern : patternDefects r.test = [] ↔ ∃ e, Regex.Expression.read r.test = .ok e := by
    rw [patternDefects]
    cases Regex.Expression.read r.test <;> simp
  rw [Rule.defects, List.append_eq_nil_iff, List.append_eq_nil_iff, hpattern,
    List.flatMap_eq_nil_iff]
  simp [loaderDefects]

theorem defects_eq_nil_iff : p.defects = [] ↔ p.IsSound := by
  rw [defects, List.append_eq_nil_iff, List.append_eq_nil_iff, entryDefects_eq_nil_iff,
    List.flatMap_eq_nil_iff, List.flatMap_eq_nil_iff]
  simp only [Rule.defects_eq_nil_iff]
  constructor
  · rintro ⟨hentry, hrules, hplugins⟩
    exact ⟨hentry, fun r hr => (hrules r hr).1, fun r hr => (hrules r hr).2.1,
      fun r hr => (hrules r hr).2.2, fun name hname => by simpa [pluginDefects] using hplugins name hname⟩
  · intro h
    exact ⟨h.entry, fun r hr => ⟨h.pattern r hr, h.loader r hr, h.use r hr⟩,
      fun name hname => if_pos (h.plugin name hname)⟩

/-! ## Looking for defects -/

/-- Nothing is left of a text without the blanks around it if there are only blanks. -/
theorem isEmpty_trim (text : String) :
    (Unicode.trim text).isEmpty = text.toList.all Unicode.isBlank := by
  have hsplit := List.takeWhile_append_dropWhile (p := Unicode.isBlank) (l := text.toList)
  rw [Bool.eq_iff_iff, String.isEmpty_iff, Unicode.trim, Unicode.trimChars]
  simp only [String.ofList_eq_empty_iff, List.reverse_eq_nil_iff, List.dropWhile_eq_nil_iff,
    List.mem_reverse, List.all_eq_true]
  constructor
  · intro hrest c hc
    rw [← hsplit, List.mem_append] at hc
    exact hc.elim List.mem_takeWhile_imp (hrest c)
  · intro hall c hc
    exact hall c ((List.dropWhile_sublist _).subset hc)

theorem entryDefects_eq (p : Project) : entryDefects p.entry? =
    if p.givenEntry?.isSome then [] else [.missingField "entry" entryHint] := by
  unfold givenEntry?
  cases p.entry? with
  | none => rfl
  | some entry =>
    simp only [Option.filter_some, isEmpty_trim, entryDefects]
    by_cases hblank : entry.toList.all Unicode.isBlank = true
    · simp [hblank]
    · simp [hblank]

theorem entry?_of_given {entry : String} (h : p.givenEntry? = some entry) :
    p.entry? = some entry :=
  (Option.filter_eq_some_iff.1 h).1

section Lookup

variable {α : Type} {table : List α} {nameOf : α → String}

/-- Looks an entry of a table up by its name. -/
def lookUp (table : List α) (nameOf : α → String) (name : String) (missing : Error) :
    Except Error α :=
  match table.find? (nameOf · == name) with
  | some a => .ok a
  | none => .error missing

theorem lookUp_eq_ok {missing : Error} {a : α} (h : lookUp table nameOf name missing = .ok a) :
    a ∈ table ∧ nameOf a = name := by
  rw [lookUp] at h
  split at h
  · rename_i hfound
    cases h
    exact ⟨List.mem_of_find?_eq_some hfound, by simpa using List.find?_some hfound⟩
  · cases h

theorem reports_lookUp (table : List α) (nameOf : α → String) (name : String) (missing : Error) :
    Reports (lookUp table nameOf name missing)
      (if name ∈ table.map nameOf then [] else [missing]) := by
  have hknown : name ∈ table.map nameOf ↔ (table.find? (nameOf · == name)).isSome = true := by
    simp
  rw [lookUp]
  cases hfound : table.find? (nameOf · == name) with
  | some a =>
    rw [if_pos (hknown.2 (by rw [hfound]; rfl))]
    exact .ok a
  | none =>
    rw [if_neg fun hmem => by simpa [hfound] using hknown.1 hmem]
    exact .error missing []

/-- Entries that are found one after the other have the names that were looked up. -/
theorem names_of_found {find : String → Except Error α}
    (hfind : ∀ name a, find name = .ok a → a ∈ table ∧ nameOf a = name)
    {names : List String} {found : List α} (h : names.mapM find = .ok found) :
    found.map nameOf = names ∧ ∀ a ∈ found, a ∈ table := by
  have hall := forall₂_of_mapM h
  clear h
  induction hall with
  | nil => simp
  | cons hfirst _ ih =>
    obtain ⟨hmem, hname⟩ := hfind _ _ hfirst
    rw [List.map_cons, ih.1, hname]
    exact ⟨rfl, List.forall_mem_cons.2 ⟨hmem, ih.2⟩⟩

end Lookup

theorem findLoader_eq (name : String) : findLoader name =
    lookUp Loader.builtins Loader.name name (.unknownLoader name Loader.builtinNames) := by
  rw [findLoader, lookUp, Loader.builtin?]
  cases Loader.builtins.find? (·.name == name) <;> rfl

theorem findPlugin_eq (name : String) : findPlugin name =
    lookUp Plugin.builtins Compiler.Plugin.name name
      (.unknownPlugin name Plugin.builtinNames) := by
  rw [findPlugin, lookUp, Plugin.builtin?]
  cases Plugin.builtins.find? (·.name == name) <;> rfl

theorem findLoader_eq_ok {l : Loader} (h : findLoader name = .ok l) :
    l ∈ Loader.builtins ∧ l.name = name :=
  lookUp_eq_ok (findLoader_eq name ▸ h)

theorem findPlugin_eq_ok {plugin : Compiler.Plugin} (h : findPlugin name = .ok plugin) :
    plugin ∈ Plugin.builtins ∧ plugin.name = name :=
  lookUp_eq_ok (findPlugin_eq name ▸ h)

theorem reports_findLoader (name : String) : Reports (findLoader name) (loaderDefects name) :=
  findLoader_eq name ▸ reports_lookUp _ _ _ _

theorem reports_findPlugin (name : String) : Reports (findPlugin name) (pluginDefects name) :=
  findPlugin_eq name ▸ reports_lookUp _ _ _ _

/-- What a rule is turned into once its pattern is read. -/
theorem toRule_of_read {e : Regex.Expression} (h : Regex.Expression.read r.test = .ok e) :
    r.toRule = match r.use with
      | .one name => findLoader name >>= fun l => .ok ⟨.pattern r.test e, .single l⟩
      | .chain names => names.mapM findLoader >>= fun loaders =>
        if loaders = [] then .error (emptyUse r.test)
        else .ok ⟨.pattern r.test e, .chain loaders⟩ := by
  rw [Rule.toRule, h]
  cases r.use with
  | one name => rfl
  | chain names =>
    refine bind_congr fun loaders => ?_
    cases loaders <;> rfl

theorem reports_toRule (r : Rule) : Reports r.toRule r.defects := by
  rw [Rule.defects, patternDefects]
  cases hread : Regex.Expression.read r.test with
  | error fault =>
    rw [Rule.toRule, hread]
    exact .error _ _
  | ok e =>
    rw [toRule_of_read hread, List.nil_append]
    cases r.use with
    | one name =>
      rw [LoaderNames.names, List.flatMap_singleton, if_neg (by simp)]
      exact (reports_findLoader name).bind fun l _ => .ok _
    | chain names =>
      refine (Reports.mapM reports_findLoader names).bind fun loaders hloaders => ?_
      have hlength := (forall₂_of_mapM hloaders).length_eq
      cases loaders with
      | nil =>
        rw [if_pos rfl, List.eq_nil_of_length_eq_zero hlength, if_pos rfl]
        exact .error _ []
      | cons l loaders =>
        have hne : names ≠ [] := by
          rintro rfl
          cases hlength
        rw [if_neg (by simp), if_neg (by simpa using hne)]
        exact .ok _

/-- What a project is turned into once it has an entry. -/
theorem toConfig_of_entry {entry : String} (h : p.givenEntry? = some entry) :
    p.toConfig directory = p.rules.mapM Rule.toRule >>= fun rules =>
      p.plugins.mapM findPlugin >>= fun plugins => .ok {
        entry
        output := p.output
        rules
        extensions := p.extensions
        maxModules? := p.maxModules?
        workingDirectory? := some directory
        plugins } := by
  rw [toConfig, h]
  rfl

theorem reports_toConfig (p : Project) (directory : String) :
    Reports (p.toConfig directory) p.defects := by
  rw [defects, entryDefects_eq]
  cases hgiven : p.givenEntry? with
  | none =>
    rw [toConfig, hgiven]
    exact .error _ _
  | some entry =>
    rw [toConfig_of_entry hgiven, ← List.append_nil (p.plugins.flatMap _)]
    exact (Reports.mapM reports_toRule p.rules).bind fun rules _ =>
      (Reports.mapM reports_findPlugin p.plugins).bind fun plugins _ => .ok _

/-! ## What is described -/

/-- Whether a rule is for a file. -/
def Rule.selects (r : Rule) (path : String) : Bool :=
  match Regex.Expression.read r.test with
  | .ok e => e.matchesIn path
  | .error _ => false

/-- The names of the loaders for a file, in the order in which they are to run. -/
def loaderNamesFor (p : Project) (path : String) : List String :=
  (p.rules.filter fun r => r.selects path).flatMap fun r => r.use.names.reverse

/-- A rule tests for the pattern that is given, and its loaders run from the last name to the
first. -/
theorem describes_of_toRule {rule : Loader.Rule} (h : r.toRule = .ok rule) :
    (∀ path, rule.test.passes path = r.selects path) ∧
      rule.use.loaders.map Loader.name = r.use.names.reverse ∧
        ∀ l ∈ rule.use.loaders, l ∈ Loader.builtins := by
  cases hread : Regex.Expression.read r.test with
  | error fault =>
    rw [Rule.toRule, hread] at h
    cases h
  | ok e =>
    have hselects : ∀ path, r.selects path = e.matchesIn path := fun path => by
      rw [Rule.selects, hread]
    rw [toRule_of_read hread] at h
    cases huse : r.use with
    | one name =>
      rw [huse] at h
      obtain ⟨l, hfound, hrule⟩ := exists_of_bind_eq_ok h
      cases hrule
      obtain ⟨hmem, hname⟩ := findLoader_eq_ok hfound
      exact ⟨fun path => (hselects path).symm, congrArg (fun n => [n]) hname,
        List.forall_mem_singleton.2 hmem⟩
    | chain names =>
      rw [huse] at h
      obtain ⟨loaders, hfound, hrule⟩ := exists_of_bind_eq_ok h
      split at hrule
      · cases hrule
      · cases hrule
        obtain ⟨hnames, hmem⟩ := names_of_found (fun _ _ => findLoader_eq_ok) hfound
        refine ⟨fun path => (hselects path).symm, ?_, fun l hl => hmem l (List.mem_reverse.1 hl)⟩
        rw [Loader.Use.loaders, LoaderNames.names, List.map_reverse, hnames]

theorem loaderNames_of_toRule {rules : List Rule} {pipeline : Loader.Pipeline}
    (h : rules.mapM Rule.toRule = .ok pipeline) (path : String) :
    (pipeline.loadersFor path).map Loader.name =
        ((rules.filter fun r => r.selects path).flatMap fun r => r.use.names.reverse) ∧
      ∀ l ∈ pipeline.loadersFor path, l ∈ Loader.builtins := by
  have hall := forall₂_of_mapM h
  clear h
  induction hall with
  | nil => exact ⟨rfl, by simp [loadersFor]⟩
  | @cons r rule rules pipeline hrule _ ih =>
    obtain ⟨hpasses, hnames, hmem⟩ := describes_of_toRule hrule
    rw [Loader.Pipeline.loadersFor_cons, List.filter_cons, hpasses, List.map_append, ih.1]
    cases r.selects path with
    | true =>
      simp only [if_true, List.flatMap_cons, hnames]
      exact ⟨trivial, List.forall_mem_append.2 ⟨hmem, ih.2⟩⟩
    | false => exact ⟨rfl, by simpa using ih.2⟩

/-- A project becomes a configuration exactly if nothing is wrong with it; else the first defect is
reported, looking at the entry, at the rules from top to bottom, and in each at its pattern, its
loaders from left to right and whether there are any, and then at the plugins. The pipeline of the
configuration sends a text through the loaders that are named by the rules for its file, from top to
bottom and in each from right to left, up to the first that fails. Its plugins are the named ones in
their order. -/
theorem toConfig_described (p : Project) (directory : String) :
    ((∃ c, p.toConfig directory = .ok c) ↔ p.IsSound) ∧
    (∀ e, p.toConfig directory = .error e ↔ p.defects.head? = some e) ∧
    ∀ c, p.toConfig directory = .ok c →
      p.entry? = some c.entry ∧ c.output = p.output ∧ c.extensions = p.extensions ∧
      c.maxModules? = p.maxModules? ∧ c.workingDirectory? = some directory ∧
      (∀ path text, ∃ ls, ls.map Loader.name = p.loaderNamesFor path ∧
        (∀ l ∈ ls, l ∈ Loader.builtins) ∧
        Runs ls text (calls c.rules path text) (c.rules.apply path text)) ∧
      c.plugins.map (·.name) = p.plugins ∧ ∀ plugin ∈ c.plugins, plugin ∈ Plugin.builtins := by
  have hreports := reports_toConfig p directory
  refine ⟨hreports.exists_ok_iff.trans defects_eq_nil_iff, hreports, fun c hc => ?_⟩
  cases hgiven : p.givenEntry? with
  | none =>
    rw [toConfig, hgiven] at hc
    cases hc
  | some entry =>
    rw [toConfig_of_entry hgiven] at hc
    obtain ⟨rules, hrules, hc⟩ := exists_of_bind_eq_ok hc
    obtain ⟨plugins, hplugins, hc⟩ := exists_of_bind_eq_ok hc
    cases hc
    refine ⟨entry?_of_given hgiven, rfl, rfl, rfl, rfl, fun path text => ?_,
      names_of_found (fun _ _ => findPlugin_eq_ok) hplugins⟩
    obtain ⟨hnames, hmem⟩ := loaderNames_of_toRule hrules path
    exact ⟨loadersFor rules path, hnames, hmem, (Loader.Pipeline.runs_calls rules path text).1⟩

/-- Loaders run from right to left. The defects of a rule come before those of the rule below it. -/
example : (Project.loaderNamesFor
      { rules := [⟨"txt$", .chain ["raw", "trim"]⟩, ⟨"css", .one "raw"⟩, ⟨"", .one "uppercase"⟩] }
      "/a.txt" = ["trim", "raw", "uppercase"]) ∧
    Project.defects { rules := [⟨"x", .chain ["raw", "no"]⟩, ⟨"y", .chain []⟩], plugins := ["no"] } =
      [.missingField "entry" entryHint, .unknownLoader "no" ["raw", "json", "uppercase", "trim"],
        emptyUse "y", .unknownPlugin "no" ["manifest", "timing"]] := by
  decide +kernel

end ModuleBundler.Project
