import Mathlib.Data.List.Forall2
import Mathlib.Data.List.Induction
import Playbook.Hooks

/-!
# Playbook.Proofs.Hooks

What a registry of hooks holds and calls, told from what was registered in it. Hooks are
registered one by one or in chains for one timing, and a registry may be copied; the copies then
go their own ways. `HookTable.ofPast` is the registry with a given past, and every registry that
a program can come to is of this form: registering adds to the past, and a copy has the past of
what it was copied from. So FIFO order, the number of hooks and what a call does are each shown
once, for `ofPast`.
-/

namespace Playbook

variable {σ π : Type}

/-! ### How hooks fail -/

/-- How the value that a panic carries is rendered. -/
inductive Payload.Renders : Payload → Text → Prop
  | message (text : Text) : Renders (.message text) text
  /-- A number in decimal, with its sign if it is below zero. -/
  | integer (n : Int) : Renders (.integer n) (toString n).toList
  | other : Renders .other "Any \x7b .. \x7d".toList

theorem Payload.text_integer (n : Int) : (Payload.integer n).text = (toString n).toList := by
  cases n with
  | ofNat n => exact (Nat.toList_repr (n := n)).symm
  | negSucc n =>
      have hsign : (toString (Int.negSucc n)).toList = "-".toList ++ (Nat.repr (n + 1)).toList :=
        String.toList_append
      rw [hsign, Nat.toList_repr]
      rfl

/-- A payload is rendered as its text, and as nothing else. -/
theorem Payload.renders_iff {payload : Payload} {text : Text} :
    payload.Renders text ↔ text = payload.text := by
  constructor
  · intro h
    cases h with
    | message => rfl
    | integer n => exact (text_integer n).symm
    | other => rfl
  · rintro rfl
    cases payload with
    | message text => exact .message text
    | integer n => exact text_integer n ▸ .integer n
    | other => exact .other

/-- A hook fails with the error it reports, or panics and fails with what the panic is rendered
as, and leaves a state. -/
inductive Hook.Fails (h : Hook σ π) (args : Forwarded π) (s : σ) : Text → σ → Prop
  | failed {message : Text} {s' : σ} (run : h.run args s = (.failed message, s')) :
      Fails h args s message s'
  | panicked {payload : Payload} {text : Text} {s' : σ}
      (run : h.run args s = (.panicked payload, s')) (renders : payload.Renders text) :
      Fails h args s text s'

variable {h : Hook σ π} {args : Forwarded π} {s s' : σ} {cause : Text}

theorem Hook.call_eq_none_iff : h.call args s = (none, s') ↔ h.run args s = (.ok, s') := by
  rw [call]
  obtain ⟨outcome, left⟩ := h.run args s
  cases outcome <;> simp [reported?]

theorem Hook.call_eq_some_iff : h.call args s = (some cause, s') ↔ h.Fails args s cause s' := by
  constructor
  · intro hcall
    rw [call] at hcall
    cases hrun : h.run args s with
    | mk outcome left =>
        rw [hrun] at hcall
        cases outcome with
        | ok => cases hcall
        | failed message =>
            cases hcall
            exact .failed hrun
        | panicked payload =>
            cases hcall
            exact .panicked hrun (Payload.renders_iff.mpr rfl)
  · intro hfails
    cases hfails with
    | failed hrun =>
        rw [call, hrun]
        rfl
    | panicked hrun hrenders =>
        rw [call, hrun, Payload.renders_iff.mp hrenders]
        rfl

namespace HookTable

/-! ### Calls -/

variable {timing : Moment} {scope : Scope} {hooks : List (Hook σ π)}

/-- Hooks succeed one after the other, each in the state that the one before has left. -/
inductive Succeed (args : Forwarded π) : σ → List (Hook σ π) → σ → Prop
  | nil (s : σ) : Succeed args s [] s
  | cons {hook : Hook σ π} {rest : List (Hook σ π)} {s s' s'' : σ}
      (ok : hook.run args s = (.ok, s')) (tail : Succeed args s' rest s'') :
      Succeed args s (hook :: rest) s''

/-- What calling hooks comes to: all of them are called and succeed, or those up to the first
that fails are called, and its failure is the error. -/
inductive FailFast (timing : Moment) (scope : Scope) (args : Forwarded π) (s : σ)
    (hooks : List (Hook σ π)) : Call σ π → Prop
  | completed {s' : σ} (ok : Succeed args s hooks s') :
      FailFast timing scope args s hooks ⟨hooks, none, s'⟩
  | stopped {before after : List (Hook σ π)} {hook : Hook σ π} {cause : Text} {s' s'' : σ}
      (split : hooks = before ++ hook :: after) (ok : Succeed args s before s')
      (fails : hook.Fails args s' cause s'') :
      FailFast timing scope args s hooks
        ⟨before ++ [hook], some ⟨hook.name, hook.location, timing, scope, cause⟩, s''⟩

/-- A hook that succeeds leaves the rest to the hooks after it. -/
theorem FailFast.cons {hook : Hook σ π} {rest : List (Hook σ π)} {call : Call σ π}
    (hok : hook.run args s = (.ok, s')) (h : FailFast timing scope args s' rest call) :
    FailFast timing scope args s (hook :: rest) { call with called := hook :: call.called } := by
  cases h with
  | completed ok => exact .completed (.cons hok ok)
  | stopped split ok fails => exact .stopped (congrArg (hook :: ·) split) (.cons hok ok) fails

theorem failFast_callList (timing : Moment) (scope : Scope) (args : Forwarded π)
    (hooks : List (Hook σ π)) (s : σ) :
    FailFast timing scope args s hooks (callList timing scope args hooks s) := by
  induction hooks generalizing s with
  | nil => exact .completed (.nil s)
  | cons hook rest ih =>
      rw [callList]
      cases hcall : hook.call args s with
      | mk cause? s' =>
          cases cause? with
          | none => exact (ih s').cons (Hook.call_eq_none_iff.mp hcall)
          | some cause =>
              exact .stopped (List.nil_append _).symm (.nil s) (Hook.call_eq_some_iff.mp hcall)

/-- A hook is called with the arguments of the call and no others: what it would do with
others does not matter. -/
theorem callList_map {change : Hook σ π → Hook σ π}
    (h : ∀ hook ∈ hooks, (change hook).name = hook.name ∧
      (change hook).location = hook.location ∧ (change hook).run args = hook.run args) (s : σ) :
    callList timing scope args (hooks.map change) s =
      { callList timing scope args hooks s with
        called := (callList timing scope args hooks s).called.map change } := by
  induction hooks generalizing s with
  | nil => rfl
  | cons hook rest ih =>
      obtain ⟨⟨hname, hlocation, hrun⟩, hrest⟩ := List.forall_mem_cons.mp h
      have hcall : (change hook).call args s = hook.call args s := by
        rw [Hook.call, hrun]
        rfl
      rw [List.map_cons, callList, callList, hcall, hname, hlocation]
      cases hook.call args s with
      | mk cause? s' =>
          cases cause? with
          | some cause => rfl
          | none =>
              dsimp only
              rw [ih hrest]
              rfl

/-! ### Registrations -/

/-- A hook with the timing and the scope that it is registered for. -/
structure Registration (σ π : Type) where
  timing : Moment
  scope : Scope
  hook : Hook σ π

/-- What a registry is asked for. -/
inductive Request (σ π : Type)
  /-- Registers one hook. -/
  | register (timing : Moment) (scope : Scope) (hook : Hook σ π)
  /-- Registers hooks for one timing in a chain, each by the function of its scope. -/
  | chain (timing : Moment) (hooks : List (Scope × Hook σ π))

/-- What a request registers, in order. -/
def Request.registrations : Request σ π → List (Registration σ π)
  | register timing scope hook => [⟨timing, scope, hook⟩]
  | chain timing hooks => hooks.map fun (scope, hook) => ⟨timing, scope, hook⟩

/-- Goes on with a hook, by the function of its scope. -/
def goOn (side : HookSide σ π) : Scope × Hook σ π → HookSide σ π
  | (.all, hook) => side.all hook
  | (.eachFeature, hook) => side.eachFeature hook
  | (.eachScenario, hook) => side.eachScenario hook
  | (.eachStep, hook) => side.eachStep hook

def perform (r : HookTable σ π) : Request σ π → HookTable σ π
  | .register timing scope hook => r.register timing scope hook
  | .chain .before hooks => (hooks.foldl goOn r.before).registry
  | .chain .after hooks => (hooks.foldl goOn r.after).registry

/-- The registry in which this was registered, one hook after the other. -/
def ofPast (past : List (Registration σ π)) : HookTable σ π :=
  past.foldl (fun r reg => r.register reg.timing reg.scope reg.hook) empty

/-- The hooks of a past that are for a timing and a scope, in the order of registration. -/
def hooksFor (past : List (Registration σ π)) (timing : Moment) (scope : Scope) : List (Hook σ π) :=
  (past.filter fun reg => reg.timing = timing ∧ reg.scope = scope).map (·.hook)

theorem ofPast_concat (past : List (Registration σ π)) (reg : Registration σ π) :
    ofPast (past ++ [reg]) = (ofPast past).register reg.timing reg.scope reg.hook := by
  rw [ofPast, List.foldl_append]
  rfl

theorem goOn_eq (side : HookSide σ π) (scope : Scope) (hook : Hook σ π) :
    goOn side (scope, hook) = side.add scope hook := by
  cases scope <;> rfl

theorem registry_foldl_goOn (past : List (Registration σ π)) (timing : Moment)
    (hooks : List (Scope × Hook σ π)) :
    (hooks.foldl goOn ⟨timing, ofPast past⟩).registry =
      ofPast (past ++ (Request.chain timing hooks).registrations) := by
  induction hooks generalizing past with
  | nil =>
      rw [Request.registrations, List.map_nil, List.append_nil]
      rfl
  | cons first rest ih =>
      obtain ⟨scope, hook⟩ := first
      have hadd : (⟨timing, ofPast past⟩ : HookSide σ π).add scope hook =
          ⟨timing, ofPast (past ++ [⟨timing, scope, hook⟩])⟩ := by
        rw [ofPast_concat]
        rfl
      rw [List.foldl_cons, goOn_eq, hadd, ih, Request.registrations, Request.registrations,
        List.map_cons, List.append_assoc]
      rfl

/-- A request adds what it registers to the past. -/
theorem perform_ofPast (past : List (Registration σ π)) (request : Request σ π) :
    (ofPast past).perform request = ofPast (past ++ request.registrations) := by
  cases request with
  | register timing scope hook => exact (ofPast_concat past ⟨timing, scope, hook⟩).symm
  | chain timing hooks =>
      cases timing with
      | before => exact registry_foldl_goOn past .before hooks
      | after => exact registry_foldl_goOn past .after hooks

/-- **Runs.** Requests add what they register to the past. -/
theorem foldl_perform_ofPast (past : List (Registration σ π)) (requests : List (Request σ π)) :
    requests.foldl perform (ofPast past) =
      ofPast (past ++ requests.flatMap Request.registrations) := by
  induction requests generalizing past with
  | nil => rw [List.foldl_nil, List.flatMap_nil, List.append_nil]
  | cons request rest ih =>
      rw [List.foldl_cons, perform_ofPast, ih, List.flatMap_cons, List.append_assoc]

/-! ### First in, first out -/

theorem hooks_register (r : HookTable σ π) (reg : Registration σ π) (timing : Moment)
    (scope : Scope) :
    (r.register reg.timing reg.scope reg.hook).hooks timing scope =
      r.hooks timing scope ++ hooksFor [reg] timing scope := by
  by_cases h : reg.timing = timing ∧ reg.scope = scope
  · obtain ⟨rfl, rfl⟩ := h
    simp [register, hooksFor]
  · have h' : ¬(timing = reg.timing ∧ scope = reg.scope) := fun ⟨ht, hs⟩ => h ⟨ht.symm, hs.symm⟩
    simp [register, hooksFor, h, h']

theorem hooks_ofPast (past : List (Registration σ π)) (timing : Moment) (scope : Scope) :
    (ofPast past).hooks timing scope = hooksFor past timing scope := by
  induction past using List.reverseRecOn with
  | nil => rfl
  | append_singleton past reg ih =>
      rw [ofPast_concat, hooks_register, ih, hooksFor, hooksFor, hooksFor, List.filter_append,
        List.map_append]

theorem size_register (r : HookTable σ π) (timing : Moment) (scope : Scope) (hook : Hook σ π) :
    (r.register timing scope hook).size = r.size + 1 := by
  cases timing <;> cases scope <;>
    simp [size, lists, Moment.both, Scope.every, register] <;> omega

theorem size_ofPast (past : List (Registration σ π)) : (ofPast past).size = past.length := by
  induction past using List.reverseRecOn with
  | nil => rfl
  | append_singleton past reg ih =>
      rw [ofPast_concat, size_register, ih, List.length_append, List.length_singleton]

/-! ### Copies -/

/-- What a program does with the registries that it has, which are numbered as they come to be. -/
inductive Use (σ π : Type)
  /-- Copies a registry. -/
  | clone (source : Nat)
  /-- Asks a registry for something. -/
  | ask (target : Nat) (request : Request σ π)

/-- The registries after a use. -/
def use (tables : List (HookTable σ π)) : Use σ π → List (HookTable σ π)
  | .clone source => tables ++ tables[source]?.toList
  | .ask target request => tables.modify target (·.perform request)

/-- The pasts of the registries after a use: a copy has the past of what it was copied from. -/
def pastsAfter (pasts : List (List (Registration σ π))) : Use σ π → List (List (Registration σ π))
  | .clone source => pasts ++ pasts[source]?.toList
  | .ask target request => pasts.modify target (· ++ request.registrations)

theorem use_map_ofPast (pasts : List (List (Registration σ π))) (u : Use σ π) :
    use (pasts.map ofPast) u = (pastsAfter pasts u).map ofPast := by
  cases u with
  | clone source =>
      rw [use, pastsAfter, List.map_append, List.getElem?_map]
      cases pasts[source]? <;> rfl
  | ask target request =>
      apply List.ext_getElem?
      intro i
      rw [use, pastsAfter, List.getElem?_modify, List.getElem?_map, List.getElem?_map,
        List.getElem?_modify]
      by_cases h : target = i
      · cases pasts[i]? <;> simp [h, perform_ofPast]
      · cases pasts[i]? <;> simp [h]

/-- **Runs.** Whatever is done with registries, each of them has the past that was recorded. -/
theorem foldl_use_map_ofPast (pasts : List (List (Registration σ π))) (uses : List (Use σ π)) :
    uses.foldl use (pasts.map ofPast) = (uses.foldl pastsAfter pasts).map ofPast := by
  induction uses generalizing pasts with
  | nil => rfl
  | cons u rest ih => rw [List.foldl_cons, List.foldl_cons, use_map_ofPast, ih]

theorem getElem?_use {tables : List (HookTable σ π)} {u : Use σ π} {i : Nat}
    (hu : ∀ request, u ≠ .ask i request) (hi : i < tables.length) :
    (use tables u)[i]? = tables[i]? := by
  cases u with
  | clone source => exact List.getElem?_append_left hi
  | ask target request =>
      have hne : target ≠ i := fun h => hu request (h ▸ rfl)
      rw [use, List.getElem?_modify]
      cases tables[i]? <;> simp [hne]

theorem length_le_length_use (tables : List (HookTable σ π)) (u : Use σ π) :
    tables.length ≤ (use tables u).length := by
  cases u <;> simp [use]

/-- A registry that is asked for nothing stays as it is, whatever is done with others. -/
theorem getElem?_foldl_use {tables : List (HookTable σ π)} {uses : List (Use σ π)} {i : Nat}
    (huses : ∀ request, Use.ask i request ∉ uses) (hi : i < tables.length) :
    (uses.foldl use tables)[i]? = tables[i]? := by
  induction uses generalizing tables with
  | nil => rfl
  | cons u rest ih =>
      have hu : ∀ request, u ≠ .ask i request :=
        fun request h => huses request (h ▸ List.mem_cons_self)
      have hrest : ∀ request, Use.ask i request ∉ rest :=
        fun request h => huses request (List.mem_cons_of_mem _ h)
      rw [List.foldl_cons, ih hrest (Nat.lt_of_lt_of_le hi (length_le_length_use tables u)),
        getElem?_use hu hi]

/-! ### Registries that uses lead to -/

/-- A registry reflects its past: it holds, for every timing and scope, the hooks that were
registered for them, in order; it counts all of them; and it calls them up to the first that
fails. -/
structure Reflects (r : HookTable σ π) (past : List (Registration σ π)) : Prop where
  hooks : ∀ timing scope, r.hooks timing scope = hooksFor past timing scope
  size : r.size = past.length
  call : ∀ timing scope args s,
    FailFast timing scope args s (hooksFor past timing scope) (r.call timing scope args s)

theorem reflects_ofPast (past : List (Registration σ π)) : (ofPast past).Reflects past where
  hooks := hooks_ofPast past
  size := size_ofPast past
  call timing scope args s := by
    rw [← hooks_ofPast past timing scope]
    exact failFast_callList timing scope args _ s

/-- **First in, first out; fail-fast; isolated.** After any requests a registry reflects what
they registered. Whatever a program does with several registries, beginning with an empty one,
each of them reflects what was registered in it and, before it was copied, in what it is a copy
of; registering in a registry or copying it changes no other. A call gives every hook the
arguments of the call: what a hook would do with others changes nothing. -/
theorem reflects_registrations :
    (∀ requests : List (Request σ π),
      (requests.foldl perform empty).Reflects (requests.flatMap Request.registrations)) ∧
    (∀ uses : List (Use σ π),
      let tables := uses.foldl use [empty]
      List.Forall₂ Reflects tables (uses.foldl pastsAfter [[]]) ∧
      ∀ (i : Nat) (more : List (Use σ π)), i < tables.length →
        (∀ request, Use.ask i request ∉ more) → (more.foldl use tables)[i]? = tables[i]?) ∧
    ∀ (r : HookTable σ π) timing scope args (change : Hook σ π → Hook σ π),
      (∀ hook ∈ r.hooks timing scope, (change hook).name = hook.name ∧
        (change hook).location = hook.location ∧ (change hook).run args = hook.run args) →
      ∀ s, callList timing scope args ((r.hooks timing scope).map change) s =
        { r.call timing scope args s with
          called := (r.call timing scope args s).called.map change } := by
  refine ⟨fun requests => ?_, fun uses => ⟨?_, fun i more hi hmore => ?_⟩, ?_⟩
  · have hpast : requests.foldl perform empty = ofPast (requests.flatMap Request.registrations) :=
      foldl_perform_ofPast [] requests
    rw [hpast]
    exact reflects_ofPast _
  · have htables : uses.foldl use [empty] = (uses.foldl pastsAfter [[]]).map ofPast :=
      foldl_use_map_ofPast [[]] uses
    rw [htables, List.forall₂_map_left_iff, List.forall₂_same]
    exact fun past _ => reflects_ofPast past
  · exact getElem?_foldl_use hmore hi
  · intro r timing scope args change hchange
    exact callList_map hchange

/-- A hook that writes its name into a journal, and succeeds, fails or panics by what it finds
there. -/
def noting (name : String) (outcome : List Text → Outcome) : Hook (List Text) Nat :=
  ⟨name.toList, ⟨"hooks".toList, 1⟩, fun _ journal => (outcome journal, name.toList :: journal)⟩

theorem reflects_registrations_failing_and_panicking :
    let quiet := noting "quiet" fun _ => .ok
    let once := noting "once" fun journal =>
      if "once".toList ∈ journal then .failed "again".toList else .ok
    let loud := noting "loud" fun _ => .panicked (.integer (-70))
    let odd := noting "odd" fun _ => .panicked .other
    let requests : List (Request (List Text) Nat) :=
      [.chain .before [(.all, quiet), (.eachStep, odd), (.all, once)], .register .before .all loud,
        .register .before .all quiet]
    let r := requests.foldl perform empty
    let stop (name cause : String) (scope : Scope) : HookStop :=
      ⟨name.toList, ⟨"hooks".toList, 1⟩, .before, scope, cause.toList⟩
    r.Reflects (requests.flatMap Request.registrations) ∧
    -- The first call comes to the hook that panics, the second to the one that fails.
    r.call .before .all (.payload 5) [] =
      ⟨[quiet, once, loud], some (stop "loud" "-70" .all),
        ["loud".toList, "once".toList, "quiet".toList]⟩ ∧
    r.call .before .all (.payload 5) ["once".toList] =
      ⟨[quiet, once], some (stop "once" "again" .all),
        ["once".toList, "quiet".toList, "once".toList]⟩ ∧
    r.call .before .eachStep .nothing [] =
      ⟨[odd], some (stop "odd" "Any \x7b .. \x7d" .eachStep), ["odd".toList]⟩ := by
  intro quiet once loud odd requests r stop
  exact ⟨reflects_registrations.1 requests, rfl, rfl, rfl⟩

/-- A chain keeps duplicates and the order within every scope, and a copy goes its own way. -/
example :
    let hook (name : Char) : Hook Unit Unit := ⟨[name], ⟨[], 1⟩, .pure fun _ => .ok⟩
    let uses : List (Use Unit Unit) := [.ask 0 (.chain .after [(.all, hook 'a'),
      (.eachStep, hook 'b'), (.all, hook 'a')]), .clone 0,
      .ask 1 (.register .after .all (hook 'c'))]
    (uses.foldl use [empty]).map (fun r => (r.hooks .after .all).map (·.name)) =
      [[['a'], ['a']], [['a'], ['a'], ['c']]] := by
  decide

end HookTable

end Playbook
