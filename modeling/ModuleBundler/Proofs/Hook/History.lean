import Mathlib.Data.List.Induction
import ModuleBundler.Compiler.Run
import ModuleBundler.Plugin.Api
import ModuleBundler.Plugin.Builtin
import ModuleBundler.Proofs.Graph.Breadth
import ModuleBundler.Proofs.Hook.Registry

/-!
# What calls make of a registry

A registry is determined by the calls that were made on it. It has the hooks that were declared, each
as what it was first declared, and every listener that was accepted, in the order of the calls. As no
hook that does not wait has a listener that does, to invoke it is to call all of its listeners.
-/

namespace ModuleBundler

namespace Hook

/-- A call that changes a registry. -/
inductive Call where
  | declare (hook : String) (kind : Kind)
  | register (hook name : String) (l : Listener)

/-- A call, and how it ended. -/
abbrev Answered := Call × Except Error Unit

namespace Call

/-- The hook that a call declares. -/
def declared? : Call → Option String
  | declare hook _ => some hook
  | register .. => none

/-- What a call declares a hook as. -/
def kind? (hook : String) : Call → Option Kind
  | declare given kind => if given = hook then some kind else none
  | register .. => none

/-- The call is not a registration under another name. -/
def Under (name : String) : Call → Prop
  | declare .. => True
  | register _ given _ => given = name

end Call

/-- The listener that a call adds to a hook if it was accepted. -/
def accepted? (hook : String) : Answered → Option Tap
  | (.register given name l, .ok _) => if given = hook then some ⟨name, l⟩ else none
  | _ => none

namespace Registry

variable {r : Registry} {call : Call} {hook : String}

/-- The registry that an accepted call makes, or why the call is rejected. -/
def answer (r : Registry) : Call → Except Error Registry
  | .declare hook kind => r.declare hook kind
  | .register hook name l => r.register hook name l

/-- How a call ends, and the registry after it. -/
def ask (r : Registry) (call : Call) : Except Error Unit × Registry :=
  match r.answer call with
  | .ok r' => (.ok (), r')
  | .error e => (.error e, r)

/-- The registry after calls. -/
def afterAll (r : Registry) (calls : List Call) : Registry :=
  calls.foldl (fun r call => (r.ask call).2) r

/-- Calls, and how each of them ended. -/
def transcript (r : Registry) : List Call → List Answered
  | [] => []
  | call :: calls => (call, (r.ask call).1) :: transcript (r.ask call).2 calls

theorem afterAll_cons (calls : List Call) :
    r.afterAll (call :: calls) = (r.ask call).2.afterAll calls := rfl

theorem afterAll_append (calls more : List Call) :
    r.afterAll (calls ++ more) = (r.afterAll calls).afterAll more :=
  List.foldl_append

theorem transcript_append (calls more : List Call) :
    r.transcript (calls ++ more) = r.transcript calls ++ (r.afterAll calls).transcript more := by
  induction calls generalizing r with
  | nil => rfl
  | cons call calls ih => rw [List.cons_append, transcript, transcript, ih, afterAll_cons]; rfl

theorem map_fst_transcript (calls : List Call) : (r.transcript calls).map Prod.fst = calls := by
  induction calls generalizing r with
  | nil => rfl
  | cons call calls ih => rw [transcript, List.map_cons, ih]

/-! ## One call -/

/-- Why a call is rejected. -/
inductive Refuses (r : Registry) : Call → Error → Prop
  | conflict {hook : String} {existing kind : Kind} (h : r.kind? hook = some existing)
    (hne : existing ≠ kind) : Refuses r (.declare hook kind) (.kindConflict hook existing kind)
  | unknown {hook name : String} {l : Listener} (h : r.kind? hook = none) :
    Refuses r (.register hook name l) (.unknown hook)
  | async {hook name : String} {l : Listener} (h : r.kind? hook = some .sync)
    (hl : l.isAsync = true) : Refuses r (.register hook name l) (.asyncListener hook name)

/-- How a call may end, and what it makes of the registry. -/
inductive Answers (r : Registry) : Call → Except Error Unit × Registry → Prop
  | rejected {call : Call} {e : Error} (h : r.Refuses call e) : Answers r call (.error e, r)
  | again {hook : String} {kind : Kind} (h : r.kind? hook = some kind) :
    Answers r (.declare hook kind) (.ok (), r)
  | declared {hook : String} {kind : Kind} (h : r.kind? hook = none) :
    Answers r (.declare hook kind) (.ok (), ⟨r.hooks.insert hook ⟨kind, []⟩⟩)
  | registered {hook name : String} {l : Listener} {d : Declaration}
    (h : r.hooks.get? hook = some d) (hl : d.kind = .sync → l.isAsync = false) :
    Answers r (.register hook name l)
      (.ok (), ⟨r.hooks.insert hook { d with taps := d.taps ++ [⟨name, l⟩] }⟩)

theorem kind?_of_get? {d : Declaration} (h : r.hooks.get? hook = some d) :
    r.kind? hook = some d.kind := by
  rw [kind?, h, Option.map_some]

theorem kind?_eq_none : r.kind? hook = none ↔ hook ∉ r.hooks.keys := by
  rw [kind?, Option.map_eq_none_iff, OrderedMap.get?_eq_none]

theorem answers_ask (r : Registry) (call : Call) : r.Answers call (r.ask call) := by
  cases call with
  | declare hook kind =>
    simp only [ask, answer, declare]
    cases hkind : r.kind? hook with
    | none => exact .declared hkind
    | some existing =>
      by_cases hsame : existing = kind
      · simp only [if_pos hsame]
        exact .again (hsame ▸ hkind)
      · simp only [if_neg hsame]
        exact .rejected (.conflict hkind hsame)
  | register hook name l =>
    simp only [ask, answer, register]
    cases hd : r.hooks.get? hook with
    | none => exact .rejected (.unknown (by rw [kind?, hd, Option.map_none]))
    | some d =>
      by_cases hasync : d.kind = .sync ∧ l.isAsync
      · simp only [if_pos hasync]
        exact .rejected (.async (hasync.1 ▸ kind?_of_get? hd) hasync.2)
      · simp only [if_neg hasync]
        exact .registered hd fun hsync => by simpa [hsync] using hasync

theorem ask_of_refuses {e : Error} (h : r.Refuses call e) : r.ask call = (.error e, r) := by
  cases h with
  | conflict h hne => simp only [ask, answer, declare, h, if_neg hne]
  | unknown h =>
    rw [kind?, Option.map_eq_none_iff] at h
    simp only [ask, answer, register, h]
  | async h hl =>
    rw [kind?, Option.map_eq_some_iff] at h
    obtain ⟨d, hd, hkind⟩ := h
    simp only [ask, answer, register, hd, if_pos (And.intro hkind hl)]

theorem refuses_of_ask {e : Error} (h : (r.ask call).1 = .error e) : r.Refuses call e := by
  have hanswers := answers_ask r call
  generalize r.ask call = result at h hanswers
  cases hanswers with
  | rejected hrefuses => cases h; exact hrefuses
  | again | declared | registered => cases h

theorem ask_again {kind : Kind} (h : r.kind? hook = some kind) :
    r.ask (.declare hook kind) = (.ok (), r) := by
  simp only [ask, answer, declare, h, if_true]

theorem kind?_insert {d : Declaration} {j : String} :
    kind? ⟨r.hooks.insert hook d⟩ j = if j = hook then some d.kind else r.kind? j := by
  rw [kind?, OrderedMap.get?_insert]
  split <;> rfl

theorem taps_insert {d : Declaration} {j : String} :
    taps ⟨r.hooks.insert hook d⟩ j = if j = hook then d.taps else r.taps j := by
  rw [taps, OrderedMap.get?_insert]
  split <;> rfl

theorem taps_of_get? {d : Declaration} (h : r.hooks.get? hook = some d) : r.taps hook = d.taps := by
  rw [taps, h, Option.map_some, Option.getD_some]

/-- A hook is declared at the end, unless it is there. -/
theorem keys_ask_declare {kind : Kind} : (r.ask (.declare hook kind)).2.hooks.keys =
    if hook ∈ r.hooks.keys then r.hooks.keys else r.hooks.keys ++ [hook] := by
  have hmem : ∀ existing, r.kind? hook = some existing → hook ∈ r.hooks.keys := by
    intro existing h
    by_contra hnot
    rw [kind?_eq_none.2 hnot] at h
    cases h
  have hanswers := answers_ask r (.declare hook kind)
  generalize r.ask (.declare hook kind) = result at hanswers
  cases hanswers with
  | rejected h =>
    cases h with
    | conflict h => rw [if_pos (hmem _ h)]
  | again h => rw [if_pos (hmem _ h)]
  | declared h => exact OrderedMap.keys_insert ..

theorem keys_ask_register {name : String} {l : Listener} :
    (r.ask (.register hook name l)).2.hooks.keys = r.hooks.keys := by
  have hanswers := answers_ask r (.register hook name l)
  generalize r.ask (.register hook name l) = result at hanswers
  cases hanswers with
  | rejected => rfl
  | registered hd =>
    refine (OrderedMap.keys_insert ..).trans (if_pos ?_)
    by_contra hnot
    rw [OrderedMap.get?_eq_none.2 hnot] at hd
    cases hd

/-- A hook is what it was, or else what the call declares it as. -/
theorem kind?_ask (j : String) : (r.ask call).2.kind? j = (r.kind? j).or (call.kind? j) := by
  have hanswers := answers_ask r call
  generalize r.ask call = result at hanswers
  cases hanswers with
  | rejected h =>
    cases h with
    | @conflict hook _ _ h _ =>
      by_cases hj : hook = j
      · rw [← hj, h, Option.some_or]
      · simp [Call.kind?, hj]
    | unknown => simp [Call.kind?]
    | async => simp [Call.kind?]
  | @again hook _ h =>
    by_cases hj : hook = j
    · rw [← hj, h, Option.some_or]
    · simp [Call.kind?, hj]
  | @declared hook _ h =>
    rw [kind?_insert]
    by_cases hj : hook = j
    · simp [Call.kind?, ← hj, h]
    · simp [Call.kind?, hj, Ne.symm hj]
  | @registered hook _ _ _ hd =>
    rw [kind?_insert]
    by_cases hj : hook = j
    · simp [Call.kind?, ← hj, kind?_of_get? hd]
    · simp [Call.kind?, Ne.symm hj]

/-- A registration that is accepted adds a listener at the end. -/
theorem taps_ask (j : String) : (r.ask call).2.taps j =
    r.taps j ++ (accepted? j (call, (r.ask call).1)).toList := by
  have hanswers := answers_ask r call
  generalize r.ask call = result at hanswers
  cases hanswers with
  | rejected => cases call <;> simp [accepted?]
  | again => simp [accepted?]
  | @declared hook _ h =>
    rw [taps_insert]
    by_cases hj : j = hook
    · rw [kind?, Option.map_eq_none_iff] at h
      simp [accepted?, hj, taps, h]
    · simp [accepted?, hj]
  | @registered hook _ _ _ hd =>
    rw [taps_insert]
    by_cases hj : hook = j
    · simp [accepted?, ← hj, taps_of_get? hd]
    · simp [accepted?, hj, Ne.symm hj]

theorem made_ask (h : r.Made) : (r.ask call).2.Made := by
  cases hanswer : r.answer call with
  | error e => rw [ask, hanswer]; exact h
  | ok r' =>
    rw [ask, hanswer]
    cases call with
    | declare => exact .declare h hanswer
    | register => exact .register h hanswer

/-! ## Many calls -/

theorem made_afterAll (h : r.Made) (calls : List Call) : (r.afterAll calls).Made := by
  induction calls generalizing r with
  | nil => exact h
  | cons call calls ih => exact ih (made_ask h)

theorem taps_afterAll (calls : List Call) (j : String) :
    (r.afterAll calls).taps j = r.taps j ++ (r.transcript calls).filterMap (accepted? j) := by
  induction calls generalizing r with
  | nil => exact (List.append_nil _).symm
  | cons call calls ih =>
    rw [afterAll_cons, ih, taps_ask, transcript, List.filterMap_cons, List.append_assoc]
    cases accepted? j (call, (r.ask call).1) <;> rfl

/-- A hook stays what it was first declared as. -/
theorem kind?_afterAll (calls : List Call) (j : String) :
    (r.afterAll calls).kind? j = (r.kind? j).or (calls.findSome? (Call.kind? j)) := by
  induction calls generalizing r with
  | nil => exact (Option.or_none ..).symm
  | cons call calls ih =>
    rw [afterAll_cons, ih, kind?_ask, List.findSome?_cons, Option.or_assoc]
    cases call.kind? j <;> simp

theorem kind?_keeps {kind : Kind} (h : r.kind? hook = some kind) (calls : List Call) :
    (r.afterAll calls).kind? hook = some kind := by
  rw [kind?_afterAll, h, Option.some_or]

theorem eraseDups_snoc (names : List String) (name : String) :
    (names ++ [name]).eraseDups =
      if name ∈ names then names.eraseDups else names.eraseDups ++ [name] := by
  rw [List.eraseDups_append]
  split
  · rename_i h
    simp [List.removeAll, h]
  · rename_i h
    simp [List.removeAll, h, List.eraseDups_cons]

/-- The hooks are those that were declared, in the order of their first declaration. -/
theorem keys_afterAll (calls : List Call) : (builtin.afterAll calls).hooks.keys =
    (builtins.map Prod.fst ++ calls.filterMap Call.declared?).eraseDups := by
  induction calls using List.reverseRecOn with
  | nil => decide
  | append_singleton calls call ih =>
    rw [afterAll_append, List.filterMap_append]
    change ((builtin.afterAll calls).ask call).2.hooks.keys = _
    cases call with
    | register hook name l =>
      have hnone : [Call.register hook name l].filterMap Call.declared? = [] := rfl
      rw [keys_ask_register, ih, hnone, List.append_nil]
    | declare hook kind =>
      have hlast : [Call.declare hook kind].filterMap Call.declared? = [hook] := rfl
      rw [keys_ask_declare, ih, hlast, ← List.append_assoc, eraseDups_snoc]
      simp only [List.mem_eraseDups]

/-- The built-in hooks come first. -/
theorem builtins_prefix (calls : List Call) :
    builtins.map Prod.fst <+: (builtin.afterAll calls).hooks.keys := by
  rw [keys_afterAll, List.eraseDups_append]
  exact List.prefix_append (builtins.map Prod.fst) _

/-! ## Hooks that do not wait -/

variable {m : Type → Type} [Monad m]

/-- Calls every one of the listeners in order, up to the first failure. -/
def callEach (run : Task false → Action m Outcome) (hook : String) :
    List (String × Task false) → Action m (Except Error Unit)
  | [] => return .ok ()
  | (name, task) :: rest => do
    match ← run task with
    | .error cause => return .error (.listener hook name cause)
    | .ok _ => callEach run hook rest

theorem exists_tasks {taps : List Tap} (h : ∀ tap ∈ taps, tap.listener.isAsync = false) :
    ∃ tasks : List (String × Task false), taps = tasks.map fun t => ⟨t.1, .sync t.2⟩ := by
  induction taps with
  | nil => exact ⟨[], rfl⟩
  | cons tap taps ih =>
    obtain ⟨htap, htaps⟩ := List.forall_mem_cons.1 h
    obtain ⟨tasks, rfl⟩ := ih htaps
    obtain ⟨name, l⟩ := tap
    cases l with
    | sync task => exact ⟨(name, task) :: tasks, rfl⟩
    | async => cases htap

theorem runTaps_map (run : Task false → Action m Outcome) (hook : String)
    (tasks : List (String × Task false)) :
    runTaps run hook (tasks.map fun t => ⟨t.1, .sync t.2⟩) = callEach run hook tasks := by
  induction tasks with
  | nil => rfl
  | cons t tasks ih =>
    rw [List.map_cons, runTaps, callEach]
    apply bind_congr
    intro outcome
    cases outcome with
    | error cause => rfl
    | ok u => exact ih

theorem invokeSyncOn_all (h : r.Made) (hsync : r.kind? hook = some .sync) :
    ∃ tasks : List (String × Task false), r.taps hook = tasks.map (fun t => ⟨t.1, .sync t.2⟩) ∧
      ∀ (s : Stage m) (nested : String → Action m (Except Error Unit)),
        invokeSyncOn s nested r hook = callEach (runSync s nested) hook tasks := by
  rw [kind?, Option.map_eq_some_iff] at hsync
  obtain ⟨⟨kind, taps⟩, hd, rfl⟩ := hsync
  obtain ⟨tasks, rfl⟩ := exists_tasks (h.isAsync_eq_false hd)
  refine ⟨tasks, taps_of_get? hd, fun s nested => ?_⟩
  rw [invokeSyncOn, hd]
  exact runTaps_map ..

end Registry

end Hook

namespace Plugin

open Compiler (Settings)
open Hook (Answered Call Listener Registry accepted?)

section Acting

variable {name : String} {r : Registry}

/-- The calls that a plugin makes while it acts. -/
def Act.calls (name : String) : Act → Registry → List Call
  | .finish _, _ => []
  | .say _ next, r => next.calls name r
  | .look next, r => (next r).calls name r
  | .declare hook kind next, r =>
    let call := Call.declare hook kind
    call :: (next (r.ask call).1).calls name (r.ask call).2
  | .register hook l next, r =>
    let call := Call.register hook name l
    call :: (next (r.ask call).1).calls name (r.ask call).2

theorem Act.under_calls (a : Act) : ∀ call ∈ a.calls name r, call.Under name := by
  induction a generalizing r with
  | finish => simp [calls]
  | say _ next ih => exact ih
  | look next ih => exact ih r
  | declare hook kind next ih => exact List.forall_mem_cons.2 ⟨trivial, ih _⟩
  | register hook l next ih => exact List.forall_mem_cons.2 ⟨rfl, ih _⟩

/-- A plugin changes the registry by its calls only. -/
theorem Act.perform_registry (a : Act) :
    (a.perform name r).registry = r.afterAll (a.calls name r) := by
  induction a generalizing r with
  | finish => rfl
  | say _ next ih => exact ih
  | look next ih => exact ih r
  | declare hook kind next ih =>
    rw [perform, calls, Registry.afterAll_cons, ← ih]
    simp only [Registry.ask, Registry.answer]
    cases r.declare hook kind <;> rfl
  | register hook l next ih =>
    rw [perform, calls, Registry.afterAll_cons, ← ih]
    simp only [Registry.ask, Registry.answer]
    cases r.register hook name l <;> rfl

/-- Registers listeners up to the first that is rejected. -/
def Act.taps : List (String × Listener) → Act
  | [] => .finish (.ok ())
  | (hook, l) :: taps => .register hook l fun
    | .ok _ => Act.taps taps
    | .error e => .finish (.error e.toCause)

theorem tapAll_eq_perform (taps : List (String × Listener)) :
    tapAll name r taps = (Act.taps taps).perform name r := by
  induction taps generalizing r with
  | nil => rfl
  | cons p taps ih =>
    rw [tapAll, Act.taps, Act.perform]
    cases r.register p.1 name p.2 with
    | ok r' => exact ih
    | error e => rfl

/-- The built-in plugins do nothing but register listeners. -/
theorem exists_acting : ∀ p ∈ builtins, ∃ a : Acting, p = a.plugin := by
  have hplugin : ∀ name registrar (taps : List (String × Listener)),
      (⟨name, registrar, fun _ r => tapAll name r taps⟩ : Compiler.Plugin) =
        Acting.plugin ⟨name, registrar, fun _ => Act.taps taps⟩ := by
    intro name registrar taps
    rw [Acting.plugin]
    congr 1
    funext _ r
    exact tapAll_eq_perform taps
  intro p hp
  rcases List.mem_cons.1 hp with rfl | hp
  · exact ⟨_, hplugin ..⟩
  · rw [List.mem_singleton.1 hp]
    exact ⟨_, hplugin ..⟩

end Acting

/-- What plugins ask for, and how this ends, plugin by plugin. -/
def asked (s : Settings) : Registry → List Acting → List (Acting × List Answered)
  | _, [] => []
  | r, a :: rest =>
    let calls := (a.act s).calls a.name r
    (a, r.transcript calls) :: asked s (r.afterAll calls) rest

/-- All calls of the plugins in order. -/
def callsOf (parts : List (Acting × List Answered)) : List Call :=
  parts.flatMap fun part => part.2.map Prod.fst

variable {s : Settings} {r : Registry} {ps : List Acting}

theorem callsOf_asked_cons (a : Acting) (ps : List Acting) :
    callsOf (asked s r (a :: ps)) = (a.act s).calls a.name r ++
      callsOf (asked s (r.afterAll ((a.act s).calls a.name r)) ps) := by
  rw [asked, callsOf, List.flatMap_cons, Registry.map_fst_transcript]
  rfl

theorem transcript_asked (ps : List Acting) : r.transcript (callsOf (asked s r ps)) =
    (asked s r ps).flatMap Prod.snd := by
  induction ps generalizing r with
  | nil => rfl
  | cons a ps ih =>
    rw [callsOf_asked_cons, Registry.transcript_append, ih, asked, List.flatMap_cons]

theorem applyPlugins_acting {notes said : List String} {r' : Registry}
    (h : Compiler.applyPlugins s notes r (ps.map Acting.plugin) = (said, .ok r')) :
    r' = r.afterAll (callsOf (asked s r ps)) := by
  induction ps generalizing r notes with
  | nil => cases h; rfl
  | cons a ps ih =>
    rw [List.map_cons, Compiler.applyPlugins] at h
    split at h
    · cases h
    · have hregistry : (a.plugin.apply s r).registry = r.afterAll ((a.act s).calls a.name r) :=
        (a.act s).perform_registry
      rw [hregistry] at h
      rw [ih h, callsOf_asked_cons, Registry.afterAll_append]

theorem fst_asked : (asked s r ps).map Prod.fst = ps := by
  induction ps generalizing r with
  | nil => rfl
  | cons a ps ih => rw [asked, List.map_cons, ih]

/-- A plugin's listeners have its name. -/
theorem name_of_asked {part : Acting × List Answered} (h : part ∈ asked s r ps) {hook : String}
    {tap : Hook.Tap} (htap : tap ∈ part.2.filterMap (accepted? hook)) : tap.name = part.1.name := by
  induction ps generalizing r with
  | nil => cases h
  | cons a ps ih =>
    rw [asked] at h
    rcases List.mem_cons.1 h with rfl | h
    · obtain ⟨⟨call, answer⟩, hmem, htap⟩ := List.mem_filterMap.1 htap
      have hcall : call ∈ (a.act s).calls a.name r := by
        rw [← Registry.map_fst_transcript (r := r) ((a.act s).calls a.name r)]
        exact List.mem_map_of_mem hmem
      have hunder := Act.under_calls _ call hcall
      cases call with
      | declare => cases htap
      | register given name l =>
        cases answer with
        | error => cases htap
        | ok =>
          rw [accepted?] at htap
          split at htap
          · cases htap
            exact hunder
          · cases htap
    · exact ih h

theorem ofConfig_acting {notes : List String} {c : Compiler}
    (h : Compiler.ofConfig ⟨s, ps.map Acting.plugin⟩ = (notes, .ok c)) :
    c.registry = Registry.builtin.afterAll (callsOf (asked s .builtin ps)) := by
  unfold Compiler.ofConfig at h
  split at h
  · cases h
  · generalize happly : Compiler.applyPlugins s [] .builtin (ps.map Acting.plugin) = applied at h
    obtain ⟨said, result⟩ := applied
    cases result with
    | error => cases h
    | ok r' =>
      cases h
      exact applyPlugins_acting happly

end Plugin

namespace Hook.Registry

open Plugin (Acting asked callsOf)

/-- What a registry owes to the calls that were made since it had the built-in hooks only. -/
structure Records (calls : List Call) (r : Registry) : Prop where
  names : r.hooks.keys = (builtins.map Prod.fst ++ calls.filterMap Call.declared?).eraseDups
  nodup : r.hooks.keys.Nodup
  first : builtins.map Prod.fst <+: r.hooks.keys
  kind (hook : String) :
    r.kind? hook = (builtin.kind? hook).or (calls.findSome? (Call.kind? hook))
  plain (hook : String) : r.kind? hook = some .sync →
    ∀ tap ∈ r.taps hook, tap.listener.isAsync = false
  taps (hook : String) : r.taps hook = (builtin.transcript calls).filterMap (accepted? hook)

theorem records_afterAll (calls : List Call) : (builtin.afterAll calls).Records calls where
  names := keys_afterAll calls
  nodup := (builtin.afterAll calls).hooks.nodup
  first := builtins_prefix calls
  kind := kind?_afterAll calls
  plain hook hsync := by
    rw [kind?, Option.map_eq_some_iff] at hsync
    obtain ⟨⟨kind, taps⟩, hd, rfl⟩ := hsync
    rw [taps_of_get? hd]
    exact (made_afterAll .builtin calls).isAsync_eq_false hd
  taps hook := by rw [taps_afterAll, taps_builtin, List.nil_append]

/-- A registry is what its calls make of it. Whatever is declared and registered, the hooks are the
built-in ones and then those that were declared, each once, in order and as what it was first
declared; a hook has the listeners that were accepted for it, in order, and none that waits if it
does not wait itself. A call is rejected for the reasons that `Refuses` gives and no others, and then
changes nothing, like a declaration that only repeats what is there. So to invoke a hook that does
not wait is to call all its listeners. What plugins make of the built-in hooks comes about in this
way: the listeners are those of the first plugin, then those of the second, and so on, each under the
name of its plugin. -/
theorem registry_records {m : Type → Type} [Monad m] :
    (∀ calls : List Call,
      let r := builtin.afterAll calls
      r.Records calls ∧
      (∀ hook kind more, r.kind? hook = some kind →
        (builtin.afterAll (calls ++ more)).kind? hook = some kind) ∧
      (∀ call e, (r.ask call).1 = .error e ↔ r.Refuses call e) ∧
      (∀ call e, (r.ask call).1 = .error e → (r.ask call).2 = r) ∧
      (∀ hook kind, r.kind? hook = some kind → r.ask (.declare hook kind) = (.ok (), r)) ∧
      ∀ hook, r.kind? hook = some .sync →
        ∃ tasks : List (String × Task false),
          r.taps hook = tasks.map (fun t => ⟨t.1, .sync t.2⟩) ∧
          ∀ (s : Stage m) (nested : String → Action m (Except Error Unit)),
            invokeSyncOn s nested r hook = callEach (runSync s nested) hook tasks) ∧
    ∀ (s : Compiler.Settings) (ps : List Acting) (notes : List String) (c : Compiler),
      Compiler.ofConfig ⟨s, ps.map Acting.plugin⟩ = (notes, .ok c) →
      let parts := asked s .builtin ps
      c.registry = builtin.afterAll (callsOf parts) ∧ parts.map Prod.fst = ps ∧
      (∀ hook, c.registry.taps hook =
        parts.flatMap fun part => part.2.filterMap (accepted? hook)) ∧
      ∀ part ∈ parts, ∀ hook, ∀ tap ∈ part.2.filterMap (accepted? hook),
        tap.name = part.1.name := by
  refine ⟨fun calls => ⟨records_afterAll calls, fun hook kind more hkind => ?_,
    fun call e => ⟨refuses_of_ask, fun h => by rw [ask_of_refuses h]⟩,
    fun call e h => by rw [ask_of_refuses (refuses_of_ask h)], fun hook kind => ask_again,
    fun hook => invokeSyncOn_all (made_afterAll .builtin calls)⟩,
    fun s ps notes c hc => ?_⟩
  · rw [afterAll_append]
    exact kind?_keeps hkind more
  · have hregistry := Plugin.ofConfig_acting hc
    refine ⟨hregistry, Plugin.fst_asked, fun hook => ?_,
      fun part hpart hook tap htap => Plugin.name_of_asked hpart htap⟩
    rw [hregistry, (records_afterAll _).taps, Plugin.transcript_asked, List.filterMap_flatMap]

/-- Two plugins on a hook that the first declares and that does not wait; the second is refused at
first, and goes on. -/
def team : List Acting :=
  [{ name := "first", act := fun _ =>
      .declare "ready" .sync fun _ => .tap "ready" .succeed fun _ => .finish (.ok ()) },
    { name := "second", act := fun _ =>
      .tapAsync "ready" .succeed fun _ => .declare "ready" .asyncSeries fun _ =>
        .declare "ready" .sync fun _ => .tap "ready" .succeed fun _ => .finish (.ok ()) }]

theorem registry_records_of_team :
    ∃ notes c, Compiler.ofConfig ⟨{ entry := "a" }, team.map Acting.plugin⟩ = (notes, .ok c) ∧
      c.registry.listenerNames "ready" = ["first", "second"] := by
  have hok : (Compiler.ofConfig ⟨{ entry := "a" }, team.map Acting.plugin⟩).2.toBool = true := by
    decide +kernel
  generalize hc : Compiler.ofConfig ⟨{ entry := "a" }, team.map Acting.plugin⟩ = made at hok
  obtain ⟨notes, _ | c⟩ := made
  · cases hok
  · obtain ⟨-, -, htaps, -⟩ := (registry_records (m := Id)).2 _ _ _ _ hc
    refine ⟨notes, c, rfl, ?_⟩
    rw [listenerNames, htaps]
    decide +kernel

end Hook.Registry

end ModuleBundler
