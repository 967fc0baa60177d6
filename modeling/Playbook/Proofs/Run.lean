import Mathlib.Data.List.Nodup
import Playbook.Pattern.Builtin
import Playbook.Proofs.Document.Numbering
import Playbook.Proofs.Hooks
import Playbook.Run

/-!
# Playbook.Proofs.Run

A failing hook truncates a run and changes nothing else.

`Run.drive` is a run as it is laid down: a loop over scenarios around a loop over steps, where
every call of hooks may end both. `Run.walk` makes a list of everything first and cuts it after
the first hook that fails. They are the same, because both follow the `Run.schedule` of the
feature, a list of places that does not depend on steps and hooks: what happens at a place is one
call of hooks, or one step, and whether to go on is decided at every place on its own.

So each property needs a look at a single place, and an induction on the places after it. That
scenarios and steps are bracketed once is said about places too, since a place is come to whether
there are hooks for it or not.
-/

namespace Playbook

variable {E : Engine} {π : Type}

/-! ### Succeeding hooks -/

/-- The hook, made to succeed. -/
def Hook.calmed (h : Hook Unit π) : Hook Unit π := { h with run := .pure fun _ => .ok }

/-- The same steps and hooks, with every hook made to succeed. -/
def Equipment.calmed (r : Equipment E π) : Equipment E π :=
  { r with hooks := ⟨fun timing scope => (r.hooks.hooks timing scope).map Hook.calmed⟩ }

namespace Run

/-! ### Entries -/

namespace Entry

/-- What happens where hooks are made to succeed: the same hook is called with the same
arguments. -/
def calmed : Entry π → Entry π
  | hook timing scope h args => hook timing scope h.calmed args
  | step action input => step action input
  | result scenarioId stepId ending => result scenarioId stepId ending

/-- Whether a hook is called. -/
def isHook : Entry π → Bool
  | hook _ _ _ _ => true
  | step _ _ => false
  | result _ _ _ => false

@[simp] theorem error?_calmed (entry : Entry π) : entry.calmed.error? = none := by
  cases entry <;> rfl

theorem error?_eq_some_iff {entry : Entry π} {e : HookStop} :
    entry.error? = some e ↔ ∃ timing scope h args cause,
      entry = hook timing scope h args ∧ h.Fails args () cause () ∧
        e = ⟨h.name, h.location, timing, scope, cause⟩ := by
  cases entry with
  | hook timing scope h args =>
      have hcall : ∀ cause, (h.call args ()).1 = some cause ↔ h.Fails args () cause () := by
        intro cause
        rw [← Hook.call_eq_some_iff, Prod.ext_iff, and_iff_left rfl]
      simp only [error?, Option.map_eq_some_iff, hcall]
      constructor
      · rintro ⟨cause, hfails, rfl⟩
        exact ⟨timing, scope, h, args, cause, rfl, hfails, rfl⟩
      · rintro ⟨_, _, _, _, cause, hentry, hfails, rfl⟩
        cases hentry
        exact ⟨cause, hfails, rfl⟩
  | step action input => simp [error?]
  | result scenarioId stepId ending => simp [error?]

end Entry

/-- No entry of a step is a hook. -/
theorem isHook_of_mem_stepEntries {r : Equipment E π} {scenarioId : Nat} {step : Step}
    {entry : Entry π} (h : entry ∈ stepEntries r scenarioId step) : entry.isHook = false := by
  rw [stepEntries] at h
  split at h
  · rw [List.mem_singleton.mp h]
    rfl
  · rcases List.mem_cons.mp h with rfl | h
    · rfl
    · rw [List.mem_singleton.mp h]
      rfl

theorem filter_stepEntries (r : Equipment E π) (scenarioId : Nat) (step : Step) :
    (stepEntries r scenarioId step).filter Entry.isHook = [] := by
  simp only [List.filter_eq_nil_iff, Bool.not_eq_true]
  exact fun _ => isHook_of_mem_stepEntries

theorem Entry.error?_of_isHook {entry : Entry π} (h : entry.isHook = false) :
    entry.error? = none := by
  cases entry with
  | hook timing scope hook args => cases h
  | step action input => rfl
  | result scenarioId stepId ending => rfl

theorem Entry.calmed_of_isHook {entry : Entry π} (h : entry.isHook = false) :
    entry.calmed = entry := by
  cases entry with
  | hook timing scope hook args => cases h
  | step action input => rfl
  | result scenarioId stepId ending => rfl

/-! ### Cuts -/

/-- Goes on, unless a hook has stopped the run. -/
def Walk.andThen (w next : Walk π) : Walk π :=
  match w.error with
  | some _ => w
  | none => ⟨w.entries ++ next.entries, next.error⟩

theorem cut_append (entries more : List (Entry π)) :
    cut (entries ++ more) = (cut entries).andThen (cut more) := by
  induction entries with
  | nil => rfl
  | cons entry rest ih =>
      rw [List.cons_append, cut, cut]
      cases entry.error? with
      | some e => rfl
      | none =>
          rw [ih]
          cases herror : (cut rest).error <;> simp [Walk.andThen, herror]

theorem cut_eq_self {entries : List (Entry π)} (h : ∀ entry ∈ entries, entry.error? = none) :
    cut entries = ⟨entries, none⟩ := by
  induction entries with
  | nil => rfl
  | cons entry rest ih =>
      obtain ⟨hentry, hrest⟩ := List.forall_mem_cons.mp h
      rw [cut, hentry, ih hrest]

/-- A walk is a full run up to the first hook that fails in it, or all of it. -/
inductive Truncates (full : List (Entry π)) : Walk π → Prop
  | complete {entries : List (Entry π)} (same : full = entries.map .calmed)
      (ok : ∀ entry ∈ entries, entry.error? = none) : Truncates full ⟨entries, none⟩
  | stopped {before rest : List (Entry π)} {timing : Moment} {scope : Scope} {hook : Hook Unit π}
      {args : Forwarded π} {cause : Text}
      (split : full = before.map .calmed ++ .hook timing scope hook.calmed args :: rest)
      (ok : ∀ entry ∈ before, entry.error? = none) (fails : hook.Fails args () cause ()) :
      Truncates full ⟨before ++ [.hook timing scope hook args],
        some ⟨hook.name, hook.location, timing, scope, cause⟩⟩

theorem truncates_cut (entries : List (Entry π)) :
    Truncates (entries.map .calmed) (cut entries) := by
  induction entries with
  | nil => exact .complete rfl fun _ h => nomatch h
  | cons entry rest ih =>
      rw [cut]
      cases herror : entry.error? with
      | some e =>
          obtain ⟨timing, scope, hook, args, cause, rfl, hfails, rfl⟩ :=
            Entry.error?_eq_some_iff.mp herror
          have hsplit : (Entry.hook timing scope hook args :: rest).map Entry.calmed =
              List.map Entry.calmed [] ++
                .hook timing scope hook.calmed args :: rest.map Entry.calmed := rfl
          exact .stopped hsplit (fun _ h => nomatch h) hfails
      | none =>
          cases hcut : cut rest with
          | mk entries error =>
              rw [hcut] at ih
              cases ih with
              | complete same ok =>
                  exact .complete (congrArg (entry.calmed :: ·) same)
                    (List.forall_mem_cons.mpr ⟨herror, ok⟩)
              | stopped split ok fails =>
                  exact .stopped (congrArg (entry.calmed :: ·) split)
                    (List.forall_mem_cons.mpr ⟨herror, ok⟩) fails

/-! ### The places of a run -/

/-- A place in a run: where the hooks around the run, the feature, a scenario or a step are
called, or where a step is run. -/
inductive Site
  | run (timing : Moment)
  | feature (timing : Moment) (f : Feature)
  | scenario (timing : Moment) (s : Scenario)
  | step (timing : Moment) (s : Scenario) (step : Step)
  | call (s : Scenario) (step : Step)

/-- Some places between the hooks of a scope. -/
def bracketed (site : Moment → Site) (inner : List Site) : List Site :=
  site .before :: (inner ++ [site .after])

/-- The places of a step. -/
def stepSites (s : Scenario) (step : Step) : List Site :=
  bracketed (.step · s step) [.call s step]

/-- The places of a scenario. -/
def scenarioSites (s : Scenario) : List Site :=
  bracketed (.scenario · s) (s.steps.flatMap (stepSites s))

/-- The places that a run of a feature comes to if no hook stops it: every runnable scenario
between its hooks, and every step of it between its own. -/
def schedule (f : Feature) : List Site :=
  bracketed .run (bracketed (.feature · f) (f.runnable.flatMap scenarioSites))

/-- What happens at a place if no hook fails. -/
def entriesAt (r : Equipment E π) : Site → List (Entry π)
  | .run timing => hookEntries r timing .all .nothing
  | .feature timing f => hookEntries r timing .eachFeature (.feature f)
  | .scenario timing s => hookEntries r timing .eachScenario (.scenario s)
  | .step timing _ step => hookEntries r timing .eachStep (.step step)
  | .call s step => stepEntries r s.id step

theorem around_eq {r : Equipment E π} {scope : Scope} {args : Forwarded π} {inner : List Site}
    (site : Moment → Site)
    (h : ∀ timing, entriesAt r (site timing) = hookEntries r timing scope args) :
    around r scope args (inner.flatMap (entriesAt r)) =
      (bracketed site inner).flatMap (entriesAt r) := by
  rw [around, ← h, ← h, bracketed, List.flatMap_cons, List.flatMap_append, List.flatMap_singleton,
    List.append_assoc]

theorem itinerary_eq (r : Equipment E π) (f : Feature) :
    itinerary r f = (schedule f).flatMap (entriesAt r) := by
  have hstep : ∀ (s : Scenario) (step : Step),
      around r .eachStep (.step step) (stepEntries r s.id step) =
        (stepSites s step).flatMap (entriesAt r) := by
    intro s step
    have hcall : stepEntries r s.id step = [Site.call s step].flatMap (entriesAt r) :=
      (List.append_nil _).symm
    rw [hcall]
    exact around_eq (.step · s step) fun _ => rfl
  have hscenario : scenarioEntries r = fun s => (scenarioSites s).flatMap (entriesAt r) := by
    funext s
    simp only [scenarioEntries, hstep]
    rw [← List.flatMap_assoc]
    exact around_eq (.scenario · s) fun _ => rfl
  rw [itinerary, hscenario, ← List.flatMap_assoc, around_eq (.feature · f) fun _ => rfl]
  exact around_eq .run fun _ => rfl

/-! ### A run as nested loops -/

/-- The hooks of a timing and a scope are called. -/
def callHooks (r : Equipment E π) (timing : Moment) (scope : Scope) (args : Forwarded π) : Walk π :=
  let call := r.hooks.call timing scope args ()
  ⟨call.called.map (.hook timing scope · args), call.error⟩

/-- What is done at a place. -/
def visit (r : Equipment E π) : Site → Walk π
  | .run timing => callHooks r timing .all .nothing
  | .feature timing f => callHooks r timing .eachFeature (.feature f)
  | .scenario timing s => callHooks r timing .eachScenario (.scenario s)
  | .step timing _ step => callHooks r timing .eachStep (.step step)
  | .call s step => ⟨stepEntries r s.id step, none⟩

/-- A walk with the places that it came to. -/
structure Tour (π : Type) extends Walk π where
  sites : List Site

namespace Tour

/-- Nothing is done. -/
def stay : Tour π := ⟨⟨[], none⟩, []⟩

/-- Goes on, unless a hook has stopped the run. -/
def andThen (t next : Tour π) : Tour π :=
  match t.error with
  | some _ => t
  | none => ⟨⟨t.entries ++ next.entries, next.error⟩, t.sites ++ next.sites⟩

/-- A loop, which is left when a hook stops the run. -/
def each {α : Type} (body : α → Tour π) : List α → Tour π
  | [] => stay
  | a :: rest => (body a).andThen (each body rest)

end Tour

/-- Comes to a place. -/
def stopAt (r : Equipment E π) (site : Site) : Tour π := ⟨visit r site, [site]⟩

/-- Does something between the hooks of a scope. -/
def bracket (r : Equipment E π) (site : Moment → Site) (inner : Tour π) : Tour π :=
  (stopAt r (site .before)).andThen (inner.andThen (stopAt r (site .after)))

/-- Runs a feature, scenario by scenario and step by step. -/
def drive (r : Equipment E π) (f : Feature) : Tour π :=
  bracket r .run <|
    bracket r (.feature · f) <|
      f.runnable |> Tour.each fun s =>
        bracket r (.scenario · s) <|
          s.steps |> Tour.each fun step =>
            bracket r (.step · s step) (stopAt r (.call s step))

namespace Tour

theorem andThen_stay (t : Tour π) : t.andThen stay = t := by
  obtain ⟨⟨entries, error⟩, sites⟩ := t
  cases error <;> simp [andThen, stay]

theorem andThen_assoc (t u v : Tour π) : (t.andThen u).andThen v = t.andThen (u.andThen v) := by
  obtain ⟨⟨entries, error⟩, sites⟩ := t
  obtain ⟨⟨entries', error'⟩, sites'⟩ := u
  cases error <;> cases error' <;> simp [andThen]

theorem toWalk_andThen (t u : Tour π) : (t.andThen u).toWalk = t.toWalk.andThen u.toWalk := by
  obtain ⟨⟨entries, error⟩, sites⟩ := t
  cases error <;> rfl

theorem each_append {α : Type} (body : α → Tour π) (as bs : List α) :
    each body (as ++ bs) = (each body as).andThen (each body bs) := by
  induction as with
  | nil => rfl
  | cons a rest ih => rw [List.cons_append, each, ih, each, andThen_assoc]

theorem each_singleton {α : Type} (body : α → Tour π) (a : α) : each body [a] = body a :=
  andThen_stay _

/-- A loop in a loop is one loop over everything that the inner one goes through. -/
theorem each_flatMap {α β : Type} (body : β → Tour π) (inner : α → List β) (as : List α) :
    each body (as.flatMap inner) = each (fun a => each body (inner a)) as := by
  induction as with
  | nil => rfl
  | cons a rest ih => rw [List.flatMap_cons, each_append, ih, each]

theorem each_bracketed (r : Equipment E π) (site : Moment → Site) (inner : List Site) :
    each (stopAt r) (bracketed site inner) = bracket r site (each (stopAt r) inner) := by
  rw [bracketed, each, each_append, each_singleton, bracket]

end Tour

/-- The nested loops go through the places of the schedule. -/
theorem drive_eq (r : Equipment E π) (f : Feature) :
    drive r f = Tour.each (stopAt r) (schedule f) := by
  simp only [drive, schedule, scenarioSites, stepSites, Tour.each_bracketed, Tour.each_flatMap,
    Tour.each_singleton]

/-! ### A single place -/

theorem cut_hookEntries (timing : Moment) (scope : Scope) (args : Forwarded π)
    (hooks : List (Hook Unit π)) :
    let call := HookTable.callList timing scope args hooks ()
    cut (hooks.map (.hook timing scope · args)) =
      ⟨call.called.map (.hook timing scope · args), call.error⟩ := by
  induction hooks with
  | nil => rfl
  | cons hook rest ih =>
      rw [List.map_cons, cut, HookTable.callList, Entry.error?]
      cases hook.call args () with
      | mk cause? left =>
          cases cause? with
          | some cause => rfl
          | none =>
              rw [Option.map_none, ih]
              rfl

/-- What is done at a place is what would happen there, up to the first hook that fails. -/
theorem cut_entriesAt (r : Equipment E π) (site : Site) :
    cut (entriesAt r site) = visit r site := by
  cases site with
  | run timing => exact cut_hookEntries _ _ _ _
  | feature timing f => exact cut_hookEntries _ _ _ _
  | scenario timing s => exact cut_hookEntries _ _ _ _
  | step timing s step => exact cut_hookEntries _ _ _ _
  | call s step =>
      exact cut_eq_self fun entry hentry =>
        Entry.error?_of_isHook (isHook_of_mem_stepEntries hentry)

/-- At a place the same would happen if hooks were made to succeed. -/
theorem entriesAt_calmed (r : Equipment E π) (site : Site) :
    entriesAt r.calmed site = (entriesAt r site).map .calmed := by
  have hhooks : ∀ timing scope args, hookEntries r.calmed timing scope args =
      (hookEntries r timing scope args).map .calmed := by
    intro timing scope args
    simp only [hookEntries, Equipment.calmed, List.map_map]
    rfl
  cases site with
  | run timing => exact hhooks _ _ _
  | feature timing f => exact hhooks _ _ _
  | scenario timing s => exact hhooks _ _ _
  | step timing s step => exact hhooks _ _ _
  | call s step =>
      show stepEntries r s.id step = (stepEntries r s.id step).map .calmed
      rw [List.map_congr_left fun entry hentry =>
        Entry.calmed_of_isHook (isHook_of_mem_stepEntries hentry), List.map_id']

/-! ### Runs with other steps -/

/-- Two runs come to the same places, call the same hooks with the same arguments, and end
alike. -/
structure Alike (t u : Tour π) : Prop where
  error : t.error = u.error
  sites : t.sites = u.sites
  hooks : t.entries.filter Entry.isHook = u.entries.filter Entry.isHook

theorem Alike.andThen {t t' u u' : Tour π} (ht : Alike t t') (hu : Alike u u') :
    Alike (t.andThen u) (t'.andThen u') := by
  rw [Tour.andThen, Tour.andThen, ht.error]
  cases t'.error with
  | some e => exact ht
  | none =>
      refine ⟨hu.error, ?_, ?_⟩
      · rw [ht.sites, hu.sites]
      · rw [List.filter_append, List.filter_append, ht.hooks, hu.hooks]

theorem alike_stopAt (r : Equipment E π) (steps : Registry E Unit) (site : Site) :
    Alike (stopAt { r with steps } site) (stopAt r site) := by
  cases site with
  | call s step =>
      refine ⟨rfl, rfl, ?_⟩
      show (stepEntries { r with steps } s.id step).filter Entry.isHook =
        (stepEntries r s.id step).filter Entry.isHook
      rw [filter_stepEntries, filter_stepEntries]
  | _ => exact ⟨rfl, rfl, rfl⟩

/-- **Runs.** However steps are resolved and whatever comes of them, hooks and places stay. -/
theorem alike_each (r : Equipment E π) (steps : Registry E Unit) (sites : List Site) :
    Alike (Tour.each (stopAt { r with steps }) sites) (Tour.each (stopAt r) sites) := by
  induction sites with
  | nil => exact ⟨rfl, rfl, rfl⟩
  | cons site rest ih => exact (alike_stopAt r steps site).andThen ih

/-! ### Runs along a schedule -/

theorem toWalk_each (r : Equipment E π) (sites : List Site) :
    (Tour.each (stopAt r) sites).toWalk = cut (sites.flatMap (entriesAt r)) := by
  induction sites with
  | nil => rfl
  | cons site rest ih =>
      rw [Tour.each, Tour.toWalk_andThen, ih, List.flatMap_cons, cut_append, cut_entriesAt]
      rfl

/-- A run keeps to its schedule: it comes to a beginning of it, or to all of it if it is not
stopped, and nothing happens but what is done at these places. -/
structure Keeps (r : Equipment E π) (plan : List Site) (t : Tour π) : Prop where
  isPrefix : t.sites <+: plan
  whole : t.error = none → t.sites = plan
  entries : t.entries = t.sites.flatMap fun site => (visit r site).entries

/-- **Runs.** Every run along a schedule keeps to it. -/
theorem keeps_each (r : Equipment E π) (sites : List Site) :
    Keeps r sites (Tour.each (stopAt r) sites) := by
  induction sites with
  | nil => exact ⟨List.nil_prefix, fun _ => rfl, rfl⟩
  | cons site rest ih =>
      rw [Tour.each, Tour.andThen]
      cases herror : (stopAt r site).error with
      | some e =>
          exact ⟨⟨rest, rfl⟩, fun hnone => (nomatch herror.symm.trans hnone), by simp [stopAt]⟩
      | none =>
          exact ⟨(List.prefix_cons_inj site).mpr ih.isPrefix,
            fun hnone => congrArg _ (ih.whole hnone),
            congrArg ((visit r site).entries ++ ·) ih.entries⟩

theorem walk_eq_drive (r : Equipment E π) (f : Feature) : walk r f = (drive r f).toWalk := by
  rw [walk, itinerary_eq, drive_eq, toWalk_each]

theorem itinerary_calmed (r : Equipment E π) (f : Feature) :
    itinerary r.calmed f = (itinerary r f).map .calmed := by
  rw [itinerary_eq, itinerary_eq, List.map_flatMap]
  exact List.flatMap_congr fun site _ => entriesAt_calmed r site

/-- Where hooks are made to succeed, everything happens. -/
theorem walk_calmed (r : Equipment E π) (f : Feature) :
    walk r.calmed f = ⟨(itinerary r f).map .calmed, none⟩ := by
  rw [walk, itinerary_calmed]
  apply cut_eq_self
  intro entry hentry
  obtain ⟨original, -, rfl⟩ := List.mem_map.mp hentry
  exact original.error?_calmed

/-! ### Every place once -/

/-- The identifier of the scenario that a place belongs to. -/
def Site.scenarioId? : Site → Option Nat
  | run _ => none
  | feature _ _ => none
  | scenario _ s => some s.id
  | step _ s _ => some s.id
  | call s _ => some s.id

/-- The identifier of the step that a place belongs to. -/
def Site.stepId? : Site → Option Nat
  | run _ => none
  | feature _ _ => none
  | scenario _ _ => none
  | step _ _ own => some own.id
  | call _ own => some own.id

theorem mem_bracketed {site : Site} {around : Moment → Site} {inner : List Site} :
    site ∈ bracketed around inner ↔
      site = around .before ∨ site ∈ inner ∨ site = around .after := by
  simp [bracketed]

theorem nodup_bracketed {site : Moment → Site} {inner : List Site}
    (hne : site .before ≠ site .after) (hinner : ∀ timing, site timing ∉ inner)
    (h : inner.Nodup) : (bracketed site inner).Nodup := by
  rw [bracketed, List.nodup_cons]
  refine ⟨?_, h.append (List.nodup_singleton _) ?_⟩
  · simp [hinner, hne]
  · simp [hinner]

/-- Places with distinct keys for distinct members of a list are each come to once. -/
theorem nodup_flatMap_of_key {α : Type} {sites : α → List Site} {key : Site → Option Nat}
    {id : α → Nat} {as : List α} (hid : (as.map id).Nodup)
    (hkey : ∀ a, ∀ site ∈ sites a, key site = some (id a)) (h : ∀ a ∈ as, (sites a).Nodup) :
    (as.flatMap sites).Nodup := by
  rw [List.nodup_flatMap]
  refine ⟨h, (List.pairwise_map.mp hid).imp fun {a b} hne site ha hb => ?_⟩
  exact hne (Option.some.inj ((hkey a site ha).symm.trans (hkey b site hb)))

theorem scenarioId?_of_mem_stepSites {s : Scenario} {step : Step} {site : Site}
    (h : site ∈ stepSites s step) : site.scenarioId? = some s.id := by
  rw [stepSites, mem_bracketed, List.mem_singleton] at h
  obtain rfl | rfl | rfl := h <;> rfl

theorem stepId?_of_mem_stepSites {s : Scenario} {step : Step} {site : Site}
    (h : site ∈ stepSites s step) : site.stepId? = some step.id := by
  rw [stepSites, mem_bracketed, List.mem_singleton] at h
  obtain rfl | rfl | rfl := h <;> rfl

theorem scenarioId?_of_mem_scenarioSites {s : Scenario} {site : Site}
    (h : site ∈ scenarioSites s) : site.scenarioId? = some s.id := by
  rw [scenarioSites, mem_bracketed] at h
  obtain rfl | h | rfl := h
  · rfl
  · obtain ⟨step, -, hsite⟩ := List.mem_flatMap.mp h
    exact scenarioId?_of_mem_stepSites hsite
  · rfl

theorem nodup_stepSites (s : Scenario) (step : Step) : (stepSites s step).Nodup :=
  nodup_bracketed (by simp) (by simp) (List.nodup_singleton _)

theorem nodup_scenarioSites {s : Scenario} (h : (s.steps.map (·.id)).Nodup) :
    (scenarioSites s).Nodup := by
  refine nodup_bracketed (by simp) (fun timing hmem => ?_) ?_
  · obtain ⟨step, -, hsite⟩ := List.mem_flatMap.mp hmem
    exact nomatch stepId?_of_mem_stepSites hsite
  · exact nodup_flatMap_of_key h (fun step _ => stepId?_of_mem_stepSites)
      fun step _ => nodup_stepSites s step

/-- If runnable scenarios, and the steps of each of them, have distinct identifiers, no place is
come to twice. -/
theorem nodup_schedule {f : Feature} (hids : (f.runnable.map (·.id)).Nodup)
    (hsteps : ∀ s ∈ f.runnable, (s.steps.map (·.id)).Nodup) : (schedule f).Nodup := by
  have hscenarios : (f.runnable.flatMap scenarioSites).Nodup :=
    nodup_flatMap_of_key hids (fun s _ => scenarioId?_of_mem_scenarioSites)
      fun s hs => nodup_scenarioSites (hsteps s hs)
  have hnone : ∀ site ∈ f.runnable.flatMap scenarioSites, site.scenarioId? ≠ none := by
    intro site hsite
    obtain ⟨s, -, hmem⟩ := List.mem_flatMap.mp hsite
    rw [scenarioId?_of_mem_scenarioSites hmem]
    exact Option.some_ne_none _
  refine nodup_bracketed (by simp) (fun timing hmem => ?_)
    (nodup_bracketed (by simp) (fun timing hmem => hnone _ hmem rfl) hscenarios)
  rw [mem_bracketed] at hmem
  obtain h | h | h := hmem
  · cases h
  · exact hnone _ h rfl
  · cases h

/-! ### Truncation -/

/-- **Truncation.** A run of a feature that was read does what its nested loops do. It is the run
in which every hook is made to succeed, up to and including the first hook that fails, or all of
it. However steps are resolved and whatever comes of them, it calls the same hooks at the same
places. It keeps to the schedule, which comes to every place once, and brackets the runnable
scenarios, which are those that are no template, and the steps of each by ascending identifier. -/
theorem drive_truncates {κ : Type} {reader : Reader κ} {text : Text} {f : Feature}
    (h : reader.read text = .ok f) (r : Equipment E π) :
    let tour := drive r f
    let full := drive r.calmed f
    walk r f = tour.toWalk ∧
      full.error = none ∧ Truncates full.entries tour.toWalk ∧
      (∀ steps : Registry E Unit, Alike (drive { r with steps } f) tour) ∧
      Keeps r (schedule f) tour ∧ (schedule f).Nodup ∧
      (f.runnable.map (·.id)).Pairwise (· < ·) ∧
      (∀ s ∈ f.runnable, (s.steps.map (·.id)).Pairwise (· < ·)) ∧
      f.runnable = f.scenarios.filter (·.id ∉ f.templateIds) := by
  intro tour full
  have hrunnable := Feature.runnable_of_read h
  have hids := Feature.runnable_ids_of_read h
  have hsteps : ∀ s ∈ f.runnable, (s.steps.map (·.id)).Pairwise (· < ·) := by
    intro s hs
    rw [hrunnable] at hs
    have hnumbered := Feature.forall_scenarios_of_read (Scenario.kept_stepsNumbered reader.path) h s
      (List.mem_of_mem_filter hs)
    rw [hnumbered]
    exact List.pairwise_lt_range'
  have hfull : full.toWalk = ⟨(itinerary r f).map .calmed, none⟩ := by
    rw [← walk_eq_drive, walk_calmed]
  have hschedule : (schedule f).Nodup :=
    nodup_schedule (hids.imp Nat.ne_of_lt) fun s hs => (hsteps s hs).imp Nat.ne_of_lt
  refine ⟨walk_eq_drive r f, congrArg Walk.error hfull, ?_, fun steps => ?_, ?_, hschedule, hids,
    hsteps, hrunnable⟩
  · rw [hfull, ← walk_eq_drive]
    exact truncates_cut (itinerary r f)
  · show Alike (drive _ f) (drive r f)
    rw [drive_eq, drive_eq]
    exact alike_each r steps (schedule f)
  · show Keeps r (schedule f) (drive r f)
    rw [drive_eq]
    exact keeps_each r (schedule f)

/-- A loop of two repetitions with one step that nothing is registered for. -/
def loopText : Text := "Feature: f\nScenario Loop 2: l\nGiven a".toList

/-- No steps, and hooks before scenarios and steps, of which one refuses the second repetition. -/
def refusing : Equipment .builtin Unit where
  steps := .new .regex
  hooks := HookTable.empty.perform <| .chain .before [
    (.eachStep, ⟨"each".toList, ⟨"h".toList, 1⟩, .pure fun _ => .ok⟩),
    (.eachScenario, ⟨"refuses".toList, ⟨"h".toList, 2⟩, .pure fun args =>
      if args.scenario?.any (·.id == 3) then .failed "no".toList else .ok⟩)]

theorem drive_truncates_refusing :
    ∃ f, (Reader.mk () [] 1 Vocabulary.english).read loopText = .ok f ∧
      (drive refusing f).error =
        some ⟨"refuses".toList, ⟨"h".toList, 2⟩, .before, .eachScenario, "no".toList⟩ ∧
      (drive refusing f).sites.map Site.scenarioId? =
        [none, none, some 2, some 2, some 2, some 2, some 2, some 3] ∧
      (drive refusing.calmed f).error = none ∧
      Truncates (drive refusing.calmed f).entries (drive refusing f).toWalk ∧
      Keeps refusing (schedule f) (drive refusing f) ∧ (schedule f).Nodup := by
  have hrun : ((Reader.mk () [] 1 Vocabulary.english).read loopText).toOption.map (fun f =>
      ((drive refusing f).error, (drive refusing f).sites.map Site.scenarioId?)) =
        some (some ⟨"refuses".toList, ⟨"h".toList, 2⟩, .before, .eachScenario, "no".toList⟩,
          [none, none, some 2, some 2, some 2, some 2, some 2, some 3]) := by
    decide +kernel
  cases h : (Reader.mk () [] 1 Vocabulary.english).read loopText with
  | error e => simp [h, Except.toOption] at hrun
  | ok f =>
      simp only [h, Except.toOption, Option.map_some, Option.some.injEq, Prod.mk.injEq] at hrun
      obtain ⟨-, hfull, htruncates, -, hkeeps, hnodup, -⟩ := drive_truncates h refusing
      exact ⟨f, rfl, hrun.1, hrun.2, hfull, htruncates, hkeeps, hnodup⟩

end Run

end Playbook
