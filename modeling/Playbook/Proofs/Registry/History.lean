import Playbook.Proofs.Registry.Calls

/-!
# Playbook.Proofs.Registry.History

What a registry holds, told from the calls that were made on it. A call that succeeds adds its
bindings after all others, and one that fails adds nothing, so the entries are the bindings of
the calls that succeeded, in order. The index is no second truth beside them: it finds what was
bound to a text first, since nothing can be bound to the text again.
-/

namespace Playbook.Registry

variable {E : Engine} {σ : Type}

/-- The bindings that calls register, in order: all of those that a call asks for if it succeeds,
and none if it fails. -/
def accepted (r : Registry E σ) : List (Call σ) → List (StepBinding σ)
  | [] => []
  | call :: rest =>
    match r.perform call with
    | .ok r' => call.bindings ++ r'.accepted rest
    | .error _ => r.accepted rest

variable {r r' : Registry E σ} {call : Call σ} {text : Text} {action : StepAction σ}

/-! ### Entries -/

/-- A call that succeeds adds the bindings it asks for after all others. -/
theorem entries_of_perform (h : r.perform call = .ok r') :
    ∃ added, r'.entries = r.entries ++ added ∧ added.map (·.binding) = call.bindings := by
  obtain ⟨added, hall, rfl⟩ := perform_eq_ok_iff.mp h
  exact ⟨added, append_entries r added, bindings_prepareAll hall⟩

/-- **Runs.** The entries after any calls are those before them and what the calls registered. -/
theorem bindings_afterAll (r : Registry E σ) (calls : List (Call σ)) :
    (r.afterAll calls).entries.map (·.binding) =
      r.entries.map (·.binding) ++ r.accepted calls := by
  induction calls generalizing r with
  | nil => exact (List.append_nil _).symm
  | cons call rest ih =>
      have hrest := ih (r.after call)
      rw [accepted]
      rw [after] at hrest
      cases hcall : r.perform call with
      | error e =>
          rw [hcall] at hrest
          rw [afterAll, List.foldl_cons, after, hcall]
          exact hrest
      | ok r' =>
          rw [hcall] at hrest
          obtain ⟨added, hentries, hadded⟩ := entries_of_perform hcall
          rw [hentries, List.map_append, hadded, List.append_assoc] at hrest
          rw [afterAll, List.foldl_cons, after, hcall]
          exact hrest

/-- A call for one new text that can be made into a pattern is accepted. -/
theorem accepted_of_new {pattern : Pattern E} (hcall : call.bindings = [(text, action)])
    (hnew : r.get? text = none) (hcompile : Pattern.compile E r.mode text = .ok pattern)
    (rest : List (Call σ)) : r.accepted (call :: rest) =
      (text, action) :: (r.add ⟨text, pattern, action⟩).accepted rest := by
  rw [accepted, perform_of_new hcall hnew hcompile, hcall]
  rfl

/-- Only a text that is not empty can be made into a pattern. -/
theorem ne_nil_of_compile {mode : PatternKind} {pattern : Pattern E}
    (h : Pattern.compile E mode text = .ok pattern) : text ≠ [] := by
  rintro rfl
  cases h

/-! ### Lookup -/

theorem Sound.get?_eq_some_iff (h : r.Sound) :
    r.get? text = some action ↔
      ∃ entry ∈ r.entries, entry.text = text ∧ entry.action = action := by
  simp only [get?, Option.map_eq_some_iff, h.entryOf?_eq_some_iff, and_assoc]

/-- Under a text the index finds what was bound to it first. -/
theorem Sound.get?_eq_lookup (h : r.Sound) (text : Text) :
    r.get? text = (r.entries.map (·.binding)).lookup text := by
  rw [get?, h.entryOf?_eq_find?]
  generalize r.entries = entries
  induction entries with
  | nil => rfl
  | cons entry rest ih =>
      by_cases htext : entry.text = text
      · simp [RegistryEntry.binding, htext]
      · have hother : (text == entry.text) = false := beq_false_of_ne (Ne.symm htext)
        simp only [List.map_cons, RegistryEntry.binding, List.lookup_cons, hother]
        rw [List.find?_cons_of_neg (by simpa using htext)]
        exact ih

/-! ### Registries that calls lead to -/

/-- **What a registry holds.** After any calls, whether they succeeded or failed, the entries of a
registry are what the calls registered, in order. Texts are not empty and occur once, every
pattern was made from its text in the mode of the registry, and a text finds the action of its
entry, which is the first that was registered under it. A further call adds its bindings after
all others and changes none of these, or it fails and changes nothing. -/
theorem holds_accepted (mode : PatternKind) (calls : List (Call σ)) :
    let r := (new mode : Registry E σ).afterAll calls
    let past := (new mode : Registry E σ).accepted calls
    r.mode = mode ∧ r.entries.map (·.binding) = past ∧ r.size = past.length ∧
    (∀ entry ∈ r.entries, entry.text ≠ [] ∧
      Pattern.compile E mode entry.text = .ok entry.pattern) ∧
    (r.entries.map (·.text)).Nodup ∧
    (∀ text action, r.get? text = some action ↔
      ∃ entry ∈ r.entries, entry.text = text ∧ entry.action = action) ∧
    (∀ text, r.get? text = past.lookup text) ∧
    ∀ call, match r.perform call with
      | .ok r' => r'.mode = mode ∧
          ∃ added, r'.entries = r.entries ++ added ∧ added.map (·.binding) = call.bindings
      | .error _ => r.after call = r := by
  intro r past
  obtain ⟨hsound, hmode⟩ : r.Sound ∧ r.mode = mode := (sound_new mode).afterAll calls
  have hpast : r.entries.map (·.binding) = past := bindings_afterAll (new mode) calls
  refine ⟨hmode, hpast, ?_, fun entry hentry => ?_, hsound.nodup,
    fun text action => hsound.get?_eq_some_iff, fun text => ?_, fun call => ?_⟩
  · rw [← hpast, List.length_map, size]
  · have hcompiled := hmode ▸ hsound.compiled entry hentry
    exact ⟨ne_nil_of_compile hcompiled, hcompiled⟩
  · rw [← hpast]
    exact hsound.get?_eq_lookup text
  · have hafter := (hsound.after call).2
    rw [after] at hafter ⊢
    cases hcall : r.perform call with
    | error e => rfl
    | ok r' =>
        rw [hcall] at hafter
        exact ⟨hafter.trans hmode, entries_of_perform hcall⟩

end Playbook.Registry
