import ModuleBundler.Loader.Rule

/-!
# Pipelines are flat

Which rules the loaders of a pipeline come from does not matter to a text: it passes through one
loader after another, those of a chain in reverse. The first loader that fails decides the result,
and the loaders behind it are not called.
-/

namespace ModuleBundler.Loader

/-! ## Calls of loaders -/

section Through

variable {m : Type → Type} [Monad m]

/-- Sends a text through loaders one after another, where `call` says what calling a loader does. -/
def through (call : Loader → String → m String) (ls : List Loader) (text : String) : m String :=
  ls.foldlM (fun text l => call l text) text

def Use.through (call : Loader → String → m String) : Use → String → m String
  | .single l, text => call l text
  | .chain ls, text => Loader.through call ls.reverse text

def Pipeline.through (call : Loader → String → m String) (rules : Pipeline) (path text : String) :
    m String :=
  (rules.filter fun r => r.test.passes path).foldlM (fun text r => r.use.through call text) text

variable [LawfulMonad m] {call : Loader → String → m String}

theorem through_singleton (l : Loader) (text : String) : through call [l] text = call l text := by
  rw [through, List.foldlM_cons]
  exact bind_pure _

theorem through_append (ls ls' : List Loader) (text : String) :
    through call (ls ++ ls') text = through call ls text >>= through call ls' :=
  List.foldlM_append

theorem Use.through_eq (u : Use) (text : String) :
    u.through call text = Loader.through call u.loaders text := by
  cases u with
  | single l => exact (through_singleton l text).symm
  | chain ls => rfl

/-- Rules one after another are their loaders one after another. -/
theorem foldlM_through (rules : List Rule) (text : String) :
    rules.foldlM (fun text r => r.use.through call text) text =
      through call (rules.flatMap fun r => r.use.loaders) text := by
  induction rules generalizing text with
  | nil => rfl
  | cons r rules ih =>
    rw [List.foldlM_cons, List.flatMap_cons, through_append, r.use.through_eq]
    exact bind_congr ih

theorem Pipeline.through_eq (rules : Pipeline) (path text : String) :
    rules.through call path text = Loader.through call (rules.loadersFor path) text :=
  foldlM_through _ text

end Through

theorem Use.apply_eq_through (u : Use) (text : String) :
    u.apply text = u.through Loader.apply text := by
  cases u <;> rfl

/-- A pipeline calls its loaders plainly. -/
theorem Pipeline.apply_eq_through (rules : Pipeline) (path text : String) :
    rules.apply path text = rules.through Loader.apply path text := by
  unfold Pipeline.apply Pipeline.through
  simp only [Use.apply_eq_through]

theorem Pipeline.apply_eq (rules : Pipeline) (path text : String) :
    rules.apply path text = applyAll (rules.loadersFor path) text := by
  rw [Pipeline.apply_eq_through, Pipeline.through_eq]
  rfl

/-! ## The loaders of a pipeline -/

namespace Pipeline

theorem loadersFor_append (rules rules' : Pipeline) (path : String) :
    loadersFor (rules ++ rules') path = rules.loadersFor path ++ rules'.loadersFor path := by
  rw [loadersFor, List.filter_append, List.flatMap_append]
  rfl

theorem loadersFor_cons (r : Rule) (rules : Pipeline) (path : String) :
    loadersFor (r :: rules) path =
      (if r.test.passes path then r.use.loaders else []) ++ rules.loadersFor path := by
  cases h : r.test.passes path <;> simp [loadersFor, h]

/-- Rules with one loader each, all under one test. -/
def singles (test : Test) (ls : List Loader) : Pipeline := ls.map fun l => ⟨test, .single l⟩

theorem loadersFor_singles (test : Test) (ls : List Loader) (path : String) :
    (singles test ls).loadersFor path = if test.passes path then ls else [] := by
  induction ls with
  | nil => exact (ite_self _).symm
  | cons l ls ih =>
    change loadersFor (⟨test, .single l⟩ :: singles test ls) path = _
    rw [loadersFor_cons, ih]
    split <;> rfl

theorem loadersFor_chain (test : Test) (ls : List Loader) (rules : Pipeline) (path : String) :
    loadersFor (⟨test, .chain ls⟩ :: rules) path =
      (singles test ls.reverse).loadersFor path ++ rules.loadersFor path := by
  rw [loadersFor_cons, loadersFor_singles]
  rfl

/-- Rules whose test the path does not pass do not count. -/
theorem loadersFor_filter {rules : Pipeline} {path : String} {keep : Rule → Bool}
    (h : ∀ r ∈ rules, r.test.passes path = true → keep r = true) :
    loadersFor (rules.filter keep) path = rules.loadersFor path := by
  induction rules with
  | nil => rfl
  | cons r rules ih =>
    have ih := ih fun r' hr' => h r' (List.mem_cons_of_mem _ hr')
    cases hkeep : keep r with
    | true => rw [List.filter_cons_of_pos hkeep, loadersFor_cons, loadersFor_cons, ih]
    | false =>
      have hother : r.test.passes path = false := by
        rw [Bool.eq_false_iff]
        intro hpasses
        rw [h r List.mem_cons_self hpasses] at hkeep
        cases hkeep
      rw [List.filter_cons_of_neg (by simp [hkeep]), loadersFor_cons, hother, ih]
      rfl

theorem apply_append (rules rules' : Pipeline) (path text : String) :
    apply (rules ++ rules') path text = rules.apply path text >>= rules'.apply path := by
  rw [apply_eq, apply_eq, loadersFor_append]
  exact (through_append _ _ text).trans (bind_congr fun t => (rules'.apply_eq path t).symm)

theorem apply_congr {rules rules' : Pipeline} {path : String}
    (h : rules.loadersFor path = rules'.loadersFor path) (text : String) :
    rules.apply path text = rules'.apply path text := by
  rw [apply_eq, apply_eq, h]

end Pipeline

/-! ## Early exit -/

/-- A loader that is called, and the text that it gets. -/
structure Call where
  loader : Loader
  text : String

/-- Loaders run from left to right, up to the first that fails: the calls that are made, and what
comes of them. -/
inductive Runs : List Loader → String → List Call → Except Failure String → Prop where
  | done (text : String) : Runs [] text [] (.ok text)
  | failed {l : Loader} {ls : List Loader} {text reason : String} (h : l.run text = .error reason) :
    Runs (l :: ls) text [⟨l, text⟩] (.error ⟨l.name, reason⟩)
  | passed {l : Loader} {ls : List Loader} {text text' : String} {calls : List Call}
    {result : Except Failure String} (h : l.run text = .ok text')
    (rest : Runs ls text' calls result) :
    Runs (l :: ls) text (⟨l, text⟩ :: calls) result

theorem applyAll_cons_of_ok {l : Loader} {text text' : String} (h : l.run text = .ok text')
    (ls : List Loader) : applyAll (l :: ls) text = applyAll ls text' := by
  rw [applyAll, List.foldlM_cons, apply, h]
  rfl

theorem applyAll_cons_of_error {l : Loader} {text reason : String} (h : l.run text = .error reason)
    (ls : List Loader) : applyAll (l :: ls) text = .error ⟨l.name, reason⟩ := by
  rw [applyAll, List.foldlM_cons, apply, h]
  rfl

/-- Some loader gets a text from those before it and fails on it. -/
structure FailsAt (ls before : List Loader) (l : Loader) (text : String) (f : Failure) : Prop where
  split : ∃ after, ls = before ++ l :: after
  reached : ∃ t, applyAll before text = .ok t ∧ l.run t = .error f.reason
  named : f.loader = l.name

namespace Runs

variable {ls : List Loader} {text : String} {calls : List Call} {result : Except Failure String}

/-- Every loader is called when none fails. -/
theorem map_loader_of_ok (h : Runs ls text calls result) {t : String} (ht : result = .ok t) :
    calls.map Call.loader = ls := by
  induction h with
  | done text => rfl
  | failed h => cases ht
  | passed h _ ih => rw [List.map_cons, ih ht]

/-- The loader that fails is the last one that is called. -/
theorem failsAt (h : Runs ls text calls result) {f : Failure} (hf : result = .error f) :
    ∃ before l, FailsAt ls before l text f ∧ calls.map Call.loader = before ++ [l] := by
  induction h with
  | done text => cases hf
  | @failed l ls text reason h =>
    cases hf
    exact ⟨[], l, ⟨⟨ls, rfl⟩, ⟨text, rfl, h⟩, rfl⟩, rfl⟩
  | @passed l ls text text' calls result h _ ih =>
    obtain ⟨before, l', ⟨⟨after, hls⟩, ⟨t, hbefore, hrun⟩, hnamed⟩, hcalls⟩ := ih hf
    refine ⟨l :: before, l', ⟨⟨after, by rw [hls]; rfl⟩, ⟨t, ?_, hrun⟩, hnamed⟩, ?_⟩
    · rw [applyAll_cons_of_ok h, hbefore]
    · rw [List.map_cons, hcalls]
      rfl

end Runs

theorem FailsAt.applyAll {ls before : List Loader} {l : Loader} {text : String} {f : Failure}
    (h : FailsAt ls before l text f) : applyAll ls text = .error f := by
  obtain ⟨⟨after, rfl⟩, ⟨t, hbefore, hrun⟩, hnamed⟩ := h
  have hsplit : Loader.applyAll (before ++ l :: after) text =
      Loader.applyAll before text >>= Loader.applyAll (l :: after) := through_append _ _ _
  have hlast : Loader.applyAll (l :: after) t = .error f := by
    rw [applyAll_cons_of_error hrun, ← hnamed]
  rw [hsplit, hbefore]
  exact hlast

/-- Calls a loader after noting that it is called. -/
def noted (l : Loader) (text : String) : ExceptT Failure (StateM (List Call)) String := do
  modify (· ++ [⟨l, text⟩])
  liftExcept (l.apply text)

section Noted

variable {l : Loader} {text : String} {k : String → ExceptT Failure (StateM (List Call)) String}

theorem run_noted_of_ok {text' : String} (h : l.run text = .ok text') (seen : List Call) :
    (noted l text >>= k).run.run seen = (k text').run.run (seen ++ [⟨l, text⟩]) := by
  rw [noted, apply, h]
  rfl

theorem run_noted_of_error {reason : String} (h : l.run text = .error reason) (seen : List Call) :
    (noted l text >>= k).run.run seen = (.error ⟨l.name, reason⟩, seen ++ [⟨l, text⟩]) := by
  rw [noted, apply, h]
  rfl

end Noted

/-- Noting the calls shows those of a run from left to right, and changes nothing. -/
theorem through_noted (ls : List Loader) (text : String) (seen : List Call) : ∃ calls,
    Runs ls text calls (applyAll ls text) ∧
      (through noted ls text).run.run seen = (applyAll ls text, seen ++ calls) := by
  induction ls generalizing text seen with
  | nil => exact ⟨[], .done text, by rw [List.append_nil]; rfl⟩
  | cons l ls ih =>
    rw [through, List.foldlM_cons]
    cases h : l.run text with
    | ok text' =>
      obtain ⟨calls, hruns, hcalls⟩ := ih text' (seen ++ [⟨l, text⟩])
      refine ⟨⟨l, text⟩ :: calls, ?_, ?_⟩
      · rw [applyAll_cons_of_ok h]
        exact .passed h hruns
      · rw [run_noted_of_ok h, applyAll_cons_of_ok h, List.append_cons seen _ calls]
        exact hcalls
    | error reason =>
      rw [run_noted_of_error h, applyAll_cons_of_error h]
      exact ⟨[⟨l, text⟩], .failed h, rfl⟩

namespace Pipeline

/-- The calls that a pipeline makes, in order. -/
def calls (rules : Pipeline) (path text : String) : List Call :=
  ((rules.through noted path text).run.run []).2

theorem runs_calls (rules : Pipeline) (path text : String) :
    Runs (rules.loadersFor path) text (rules.calls path text) (rules.apply path text) ∧
      ((rules.through noted path text).run.run []).1 = rules.apply path text := by
  obtain ⟨made, hruns, hmade⟩ := through_noted (rules.loadersFor path) text []
  rw [calls, through_eq, hmade, apply_eq]
  exact ⟨hruns, rfl⟩

/-- A pipeline fails when one of its loaders does, and calls no loader behind that one. -/
theorem apply_eq_error_iff (rules : Pipeline) (path text : String) (f : Failure) :
    rules.apply path text = .error f ↔ ∃ before l,
      FailsAt (rules.loadersFor path) before l text f ∧
        (rules.calls path text).map Call.loader = before ++ [l] := by
  constructor
  · exact (rules.runs_calls path text).1.failsAt
  · rintro ⟨before, l, hfails, -⟩
    rw [apply_eq]
    exact hfails.applyAll

/-- A pipeline sends a text through the loaders of the rules that the path passes, in order and
those of a chain in reverse, up to the first that fails, and this is how it calls them. So a chain
is as good as its loaders in reverse, one rule each, rules for other paths can be left out, and
pipelines that are put together apply one after the other. What fails is named by the first loader
that does, and those behind it are not called; if none fails, all of them are. -/
theorem apply_flat :
    (∀ (rules : Pipeline) (path text : String),
      rules.apply path text = applyAll (rules.loadersFor path) text ∧
      rules.apply path text = rules.through Loader.apply path text ∧
      (∀ {m : Type → Type} [Monad m] [LawfulMonad m] (call : Loader → String → m String),
        rules.through call path text = Loader.through call (rules.loadersFor path) text) ∧
      Runs (rules.loadersFor path) text (rules.calls path text) (rules.apply path text) ∧
      ((rules.through noted path text).run.run []).1 = rules.apply path text ∧
      ∀ t, rules.apply path text = .ok t →
        (rules.calls path text).map Call.loader = rules.loadersFor path) ∧
    (∀ (rules : Pipeline) (path text : String) (f : Failure),
      rules.apply path text = .error f ↔ ∃ before l,
        FailsAt (rules.loadersFor path) before l text f ∧
          (rules.calls path text).map Call.loader = before ++ [l]) ∧
    (∀ (front back : Pipeline) (test : Test) (ls : List Loader) (path text : String),
      apply (front ++ ⟨test, .chain ls⟩ :: back) path text =
        apply (front ++ singles test ls.reverse ++ back) path text) ∧
    (∀ (rules : Pipeline) (path text : String) (keep : Rule → Bool),
      (∀ r ∈ rules, r.test.passes path = true → keep r = true) →
        apply (rules.filter keep) path text = rules.apply path text) ∧
    ∀ (rules rules' : Pipeline) (path text : String),
      apply (rules ++ rules') path text = rules.apply path text >>= rules'.apply path := by
  refine ⟨fun rules path text => ?_, apply_eq_error_iff, fun front back test ls path text => ?_,
    fun rules path text keep hkeep => apply_congr (loadersFor_filter hkeep) text, apply_append⟩
  · obtain ⟨hruns, hnoted⟩ := rules.runs_calls path text
    exact ⟨rules.apply_eq path text, rules.apply_eq_through path text,
      fun call => rules.through_eq path text, hruns, hnoted, fun t => hruns.map_loader_of_ok⟩
  · refine apply_congr ?_ text
    rw [loadersFor_append, loadersFor_append, loadersFor_append, loadersFor_chain,
      List.append_assoc]

/-- A loader that puts its name behind the text. -/
def appending (name : String) : Loader := ⟨name, fun text => .ok (text ++ name)⟩

/-- A rule for other paths, and a chain whose second loader from behind refuses what the last one
made. -/
def refusing : Pipeline :=
  [⟨.extension "css", .single (appending "0")⟩,
   ⟨.extension "txt", .chain [appending "3", ⟨"2", fun text => .error ("no " ++ text)⟩,
      appending "1"]⟩]

theorem apply_flat_refusing :
    refusing.apply "/a.txt" "x" = .error ⟨"2", "no x1"⟩ ∧
      (refusing.calls "/a.txt" "x").map (fun c => (c.loader.name, c.text)) =
        [("1", "x"), ("2", "x1")] ∧
      (refusing.filter fun r => r.test.passes "/a.txt").length = 1 ∧
      apply (refusing.filter fun r => r.test.passes "/a.txt") "/a.txt" "x" =
        .error ⟨"2", "no x1"⟩ := by
  have hfails : refusing.apply "/a.txt" "x" = .error ⟨"2", "no x1"⟩ := by rfl
  obtain ⟨-, -, -, hfilter, -⟩ := apply_flat
  refine ⟨hfails, by rfl, by rfl, ?_⟩
  rw [hfilter refusing "/a.txt" "x" _ fun r _ hpasses => hpasses, hfails]

end Pipeline

end ModuleBundler.Loader
