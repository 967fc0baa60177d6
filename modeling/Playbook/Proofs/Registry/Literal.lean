import Playbook.Proofs.Pattern.Literal
import Playbook.Proofs.Registry.Calls

/-!
# Playbook.Proofs.Registry.Literal

Two ways to an action, of which literal registries make one: to search the sentence of a
step for every pattern, and to look its text up in the index. A literal pattern is found
exactly in the sentence that equals its text, and a text is registered once, so both ways
lead to the same entry.
-/

namespace Playbook.Registry

variable {σ : Type} {r : Registry .builtin σ} {text name : Text}
  {prepared : List (RegistryEntry .builtin σ)}
  {bindings : List (StepBinding σ)} {cause : PatternDefect}

/-! ### Resolution -/

/-- Of entries with different texts at most one has a given text. -/
theorem filter_eq_toList_find? {E : Engine} {entries : List (RegistryEntry E σ)}
    (h : (entries.map (·.text)).Nodup) (text : Text) :
    entries.filter (fun entry => entry.text = text) =
      (entries.find? fun entry => entry.text = text).toList := by
  induction entries with
  | nil => rfl
  | cons entry rest ih =>
      rw [List.map_cons, List.nodup_cons] at h
      by_cases htext : entry.text = text
      · have hrest : rest.filter (fun entry => entry.text = text) = [] := by
          rw [List.filter_eq_nil_iff]
          intro e he hsame
          rw [decide_eq_true_eq, ← htext] at hsame
          exact h.1 (hsame ▸ List.mem_map_of_mem he)
        simp [htext, hrest]
      · simp [htext, ih h.2]

/-- In a literal registry a sentence hits the entry that is registered under it, and
captures nothing. -/
theorem Sound.hits_of_literal (h : r.Sound) (hmode : r.mode = .literal) (sentence : Text) :
    r.hits sentence = (r.entryOf? sentence).toList.map fun entry => ⟨entry, Captures.empty⟩ := by
  have hcaptures : ∀ entry ∈ r.entries, entry.pattern.captures? sentence =
      if sentence = entry.text then some Captures.empty else none := by
    intro entry hentry
    have hcompiled := h.compiled entry hentry
    rw [hmode] at hcompiled
    exact Pattern.captures?_of_compile_literal hcompiled sentence
  rw [h.entryOf?_eq_find?, ← filter_eq_toList_find? h.nodup, hits]
  generalize r.entries = entries at hcaptures
  induction entries with
  | nil => rfl
  | cons entry rest ih =>
      obtain ⟨hentry, hrest⟩ := List.forall_mem_cons.mp hcaptures
      rw [List.filterMap_cons, hentry, List.filter_cons, ih hrest]
      by_cases htext : entry.text = sentence
      · simp [htext]
      · simp [htext, Ne.symm htext]

/-- In a literal registry a step is resolved to the entry that is registered under its
sentence, or else to none. -/
theorem Sound.find_of_literal (h : r.Sound) (hmode : r.mode = .literal) (step : Step) :
    r.find step = match r.entryOf? step.sentence with
      | some entry => .ok ⟨entry, Captures.empty⟩
      | none => .error (.notFound step.sentence step.path step.line) := by
  rw [find, h.hits_of_literal hmode]
  cases r.entryOf? step.sentence <;> rfl

/-! ### Registration -/

/-- A literal registry refuses no text as a pattern but the empty one. -/
theorem prepareAll_of_literal (hmode : r.mode = .literal)
    (h : r.prepareAll prepared bindings = .error (.notAPattern text name cause)) :
    text = [] ∧ cause = .empty := by
  induction bindings generalizing prepared with
  | nil => cases h
  | cons binding rest ih =>
      rw [prepareAll] at h
      cases hentry : r.prepare prepared binding with
      | ok entry =>
          rw [hentry] at h
          exact ih h
      | error e =>
          rw [hentry] at h
          cases h
          have hcompile := compile_of_prepare_eq_error hentry
          rw [hmode, Pattern.compile_literal] at hcompile
          split at hcompile
          · rename_i htext
            cases hcompile
            exact ⟨htext, rfl⟩
          · cases hcompile

theorem perform_of_literal {call : Call σ} (hmode : r.mode = .literal)
    (h : r.perform call = .error (.notAPattern text name cause)) : text = [] ∧ cause = .empty := by
  rw [perform_eq, registerAll] at h
  cases hall : r.prepareAll [] call.bindings with
  | ok entries =>
      rw [hall] at h
      cases h
  | error e =>
      rw [hall] at h
      cases h
      exact prepareAll_of_literal hmode hall

/-- A literal registry takes every text that is neither empty nor registered. -/
theorem register_isOk_iff_of_literal (hmode : r.mode = .literal) (text : Text)
    (action : StepAction σ) :
    (∃ r', r.register text action = .ok r') ↔ text ≠ [] ∧ r.get? text = none := by
  have hprepared : (∃ entry, r.prepare [] (text, action) = .ok entry) ↔
      text ≠ [] ∧ r.get? text = none := by
    simp only [prepare_eq_ok_iff, hmode, Pattern.compile_literal]
    by_cases htext : text = [] <;> simp [htext]
  rw [← hprepared, register, registerAll, prepareAll]
  cases r.prepare [] (text, action) <;> simp [prepareAll, Except.map]

/-! ### Registries that calls lead to -/

/-- **Both ways agree.** After any calls that register steps in literal mode, every step is
resolved by search as the index says: to the entry with the sentence of the step as its text,
with the action that the index finds and without captures, and to nothing if the index finds
nothing. A step is never ambiguous, no call fails because of a pattern except for the empty
one, and every other text can be registered unless it is registered already. -/
theorem find_agrees_with_get? (calls : List (Call σ)) :
    let r := (new .literal : Registry .builtin σ).afterAll calls
    (∀ step : Step,
      (match r.get? step.sentence with
        | some action => ∃ m, r.find step = .ok m ∧ m.entry.text = step.sentence ∧
            m.entry.action = action ∧ m.captures = ⟨[], []⟩
        | none => r.find step = .error (.notFound step.sentence step.path step.line)) ∧
      ∀ patterns, r.find step ≠ .error (.ambiguous step.sentence step.path step.line patterns)) ∧
    (∀ call text name cause, r.perform call = .error (.notAPattern text name cause) →
      text = [] ∧ cause = .empty) ∧
    ∀ text action, (∃ r', r.register text action = .ok r') ↔
      text ≠ [] ∧ r.get? text = none := by
  intro r
  obtain ⟨hsound, hmode⟩ : r.Sound ∧ r.mode = .literal := (sound_new .literal).afterAll calls
  refine ⟨fun step => ?_, fun call text name cause => perform_of_literal hmode,
    register_isOk_iff_of_literal hmode⟩
  rw [hsound.find_of_literal hmode, get?]
  cases hentry : r.entryOf? step.sentence with
  | none => exact ⟨rfl, fun patterns h => by cases h⟩
  | some entry =>
      have htext := (hsound.entryOf?_eq_some_iff.mp hentry).2
      exact ⟨⟨_, rfl, htext, rfl, rfl⟩, fun patterns h => by cases h⟩

end Playbook.Registry
