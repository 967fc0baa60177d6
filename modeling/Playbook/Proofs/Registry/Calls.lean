import Mathlib.Data.List.Nodup
import Playbook.Registry

/-!
# Playbook.Proofs.Registry.Calls

What becomes of a registry. Steps are registered one by one, as the methods of an object or
as the steps a program declares; each is a `Call`, and a call that fails leaves the registry
as it was. `Registry.Sound` is what holds after any sequence of calls: texts occur once,
every entry was made from its own text, and the index finds exactly the entries.

A batch is prepared before any of it is added, so the invariant is carried through the
preparation: the registry with the entries prepared so far would be sound.
-/

namespace Playbook

variable {E : Engine} {σ : Type}

/-- What an entry binds: its text, to its action. -/
def RegistryEntry.binding (entry : RegistryEntry E σ) : StepBinding σ := (entry.text, entry.action)

namespace Registry

/-! ### Calls -/

/-- A call that registers steps. -/
inductive Call (σ : Type)
  /-- Registers one binding. -/
  | register (text : Text) (action : StepAction σ)
  /-- Registers the methods of an object, apart from some. -/
  | object (methods : List (OfferedStep σ)) (ignored : List Text)
  /-- Registers the steps that a program declares. -/
  | declared (steps : List (StepBinding σ))

/-- What a call makes of a registry. -/
def perform (r : Registry E σ) : Call σ → Except StepError (Registry E σ)
  | .register text action => r.register text action
  | .object methods ignored => (r.registerObject methods ignored).map (·.1)
  | .declared steps => (r.registerCollected steps).map (·.1)

/-- The registry after a call; one that fails changes nothing. -/
def after (r : Registry E σ) (call : Call σ) : Registry E σ :=
  match r.perform call with
  | .ok r' => r'
  | .error _ => r

/-- The registry after several calls. -/
def afterAll (r : Registry E σ) (calls : List (Call σ)) : Registry E σ := calls.foldl after r

/-- The bindings that a call asks for. -/
def Call.bindings : Call σ → List (StepBinding σ)
  | register text action => [(text, action)]
  | object methods ignored => bindingsOf methods ignored
  | declared steps => inOrder steps

variable {r r' : Registry E σ} {call : Call σ} {entry : RegistryEntry E σ} {text : Text}
  {action : StepAction σ} {prepared entries : List (RegistryEntry E σ)}
  {bindings : List (StepBinding σ)}

theorem perform_eq (r : Registry E σ) (call : Call σ) :
    r.perform call = (r.registerAll call.bindings).map (·.1) := by
  cases call <;> rfl

/-! ### The invariant -/

/-- Texts occur once, every entry was made from its text, and the index finds exactly the
entries. -/
structure Sound (r : Registry E σ) : Prop where
  nodup : (r.entries.map (·.text)).Nodup
  compiled : ∀ entry ∈ r.entries, Pattern.compile E r.mode entry.text = .ok entry.pattern
  index : ∀ text i, r.index.lookup text = some i ↔
    ∃ entry, r.entries[i]? = some entry ∧ entry.text = text

theorem sound_new (mode : PatternKind) : (new mode : Registry E σ).Sound where
  nodup := List.nodup_nil
  compiled _ h := nomatch h
  index _ _ := by simp [new]

theorem Sound.entryOf?_eq_some_iff (h : r.Sound) :
    r.entryOf? text = some entry ↔ entry ∈ r.entries ∧ entry.text = text := by
  rw [entryOf?, Option.bind_eq_some_iff]
  constructor
  · rintro ⟨i, hi, hentry⟩
    obtain ⟨entry', hentry', htext⟩ := (h.index text i).mp hi
    rw [hentry] at hentry'
    cases hentry'
    exact ⟨List.mem_of_getElem? hentry, htext⟩
  · rintro ⟨hmem, htext⟩
    obtain ⟨i, hi⟩ := List.mem_iff_getElem?.mp hmem
    exact ⟨i, (h.index text i).mpr ⟨entry, hi, htext⟩, hi⟩

theorem Sound.entryOf?_eq_find? (h : r.Sound) (text : Text) :
    r.entryOf? text = r.entries.find? fun entry => entry.text = text := by
  cases hfind : r.entries.find? fun entry => entry.text = text with
  | none =>
      rw [List.find?_eq_none] at hfind
      rw [Option.eq_none_iff_forall_ne_some]
      intro entry hentry
      obtain ⟨hmem, htext⟩ := h.entryOf?_eq_some_iff.mp hentry
      exact hfind entry hmem (decide_eq_true htext)
  | some entry =>
      have htext := List.find?_some hfind
      exact h.entryOf?_eq_some_iff.mpr ⟨List.mem_of_find?_eq_some hfind, of_decide_eq_true htext⟩

/-- A text that finds nothing is that of no entry. -/
theorem Sound.get?_eq_none_iff (h : r.Sound) :
    r.get? text = none ↔ ∀ entry ∈ r.entries, entry.text ≠ text := by
  rw [get?, Option.map_eq_none_iff, Option.eq_none_iff_forall_ne_some]
  constructor
  · exact fun hnone entry hmem htext => hnone entry (h.entryOf?_eq_some_iff.mpr ⟨hmem, htext⟩)
  · intro hnone entry hentry
    obtain ⟨hmem, htext⟩ := h.entryOf?_eq_some_iff.mp hentry
    exact hnone entry hmem htext

/-- An entry with a new text may be added. -/
theorem Sound.add (h : r.Sound) (hnew : ∀ e ∈ r.entries, e.text ≠ entry.text)
    (hcompiled : Pattern.compile E r.mode entry.text = .ok entry.pattern) :
    (r.add entry).Sound where
  nodup := by
    rw [Registry.add, List.map_append, List.map_singleton, List.nodup_append]
    refine ⟨h.nodup, List.nodup_singleton _, fun text htext text' htext' => ?_⟩
    obtain ⟨e, he, rfl⟩ := List.mem_map.mp htext
    rw [List.mem_singleton.mp htext']
    exact hnew e he
  compiled e he := by
    rcases List.mem_append.mp he with he | he
    · exact h.compiled e he
    · rw [List.mem_singleton.mp he]
      exact hcompiled
  index text i := by
    have hsplit : ∀ e, (r.entries ++ [entry])[i]? = some e ↔
        r.entries[i]? = some e ∨ (i = r.entries.length ∧ entry = e) := by
      intro e
      by_cases hi : i < r.entries.length
      · simp [List.getElem?_append_left hi, Nat.ne_of_lt hi]
      · have hnone : r.entries[i]? = none := List.getElem?_eq_none (Nat.le_of_not_lt hi)
        rw [List.getElem?_append_right (Nat.le_of_not_lt hi), hnone, List.getElem?_singleton]
        by_cases heq : i = r.entries.length
        · simp [heq]
        · have hsub : i - r.entries.length ≠ 0 := by omega
          simp [hsub, heq]
    show List.lookup text ((entry.text, r.entries.length) :: r.index) = some i ↔
      ∃ e, (r.entries ++ [entry])[i]? = some e ∧ e.text = text
    simp only [hsplit]
    by_cases htext : text = entry.text
    · -- The new text stands at the new position and nowhere else.
      subst htext
      rw [List.lookup_cons_self, Option.some.injEq]
      constructor
      · exact fun hi => ⟨entry, .inr ⟨hi.symm, rfl⟩, rfl⟩
      · rintro ⟨e, he | ⟨hi, -⟩, htext⟩
        · exact absurd htext (hnew e (List.mem_of_getElem? he))
        · exact hi.symm
    · have hlookup : List.lookup text ((entry.text, r.entries.length) :: r.index) =
          List.lookup text r.index := by
        rw [List.lookup_cons, beq_false_of_ne htext]
      rw [hlookup, h.index text i]
      constructor
      · exact fun ⟨e, he, hte⟩ => ⟨e, .inl he, hte⟩
      · rintro ⟨e, he | ⟨-, rfl⟩, hte⟩
        · exact ⟨e, he, hte⟩
        · exact absurd hte.symm htext

/-! ### Preparation -/

@[simp] theorem append_nil (r : Registry E σ) : r.append [] = r := rfl

theorem append_concat (r : Registry E σ) (entries : List (RegistryEntry E σ))
    (entry : RegistryEntry E σ) : r.append (entries ++ [entry]) = (r.append entries).add entry := by
  rw [append, List.foldl_append]
  rfl

@[simp] theorem append_mode (r : Registry E σ) (entries : List (RegistryEntry E σ)) :
    (r.append entries).mode = r.mode := by
  induction entries generalizing r with
  | nil => rfl
  | cons entry rest ih => exact ih (r.add entry)

@[simp] theorem append_entries (r : Registry E σ) (entries : List (RegistryEntry E σ)) :
    (r.append entries).entries = r.entries ++ entries := by
  induction entries generalizing r with
  | nil => exact (List.append_nil _).symm
  | cons entry rest ih =>
      refine (ih (r.add entry)).trans ?_
      rw [add, List.append_assoc]
      rfl

/-- A binding is prepared if its text is new and can be made into a pattern. -/
theorem prepare_eq_ok_iff : r.prepare prepared (text, action) = .ok entry ↔
    r.get? text = none ∧ (∀ e ∈ prepared, e.text ≠ text) ∧
      ∃ pattern, Pattern.compile E r.mode text = .ok pattern ∧ entry = ⟨text, pattern, action⟩ := by
  have hbefore : ((prepared.find? fun e => e.text == text).map (·.action)) = none ↔
      ∀ e ∈ prepared, e.text ≠ text := by
    simp [List.find?_eq_none]
  unfold prepare
  rw [← hbefore]
  dsimp only
  cases r.get? text with
  | some existing => simp
  | none =>
      cases (prepared.find? fun e => e.text == text).map (·.action) with
      | some existing => simp
      | none => cases Pattern.compile E r.mode text <;> simp [eq_comm]

/-- A binding is refused as a pattern only if its text cannot be made into one. -/
theorem compile_of_prepare_eq_error {binding : StepBinding σ} {name : Text} {cause : PatternDefect}
    (h : r.prepare prepared binding = .error (.notAPattern text name cause)) :
    Pattern.compile E r.mode text = .error cause := by
  obtain ⟨text', action⟩ := binding
  unfold prepare at h
  dsimp only at h
  split at h
  · cases h
  · cases hcompile : Pattern.compile E r.mode text' with
    | ok pattern =>
        rw [hcompile] at h
        cases h
    | error cause' =>
        rw [hcompile] at h
        cases h
        exact hcompile

/-- What is prepared keeps the invariant for the time when it is added. -/
theorem Sound.prepare {binding : StepBinding σ} (h : (r.append prepared).Sound) (hr : r.Sound)
    (hentry : r.prepare prepared binding = .ok entry) : (r.append (prepared ++ [entry])).Sound := by
  obtain ⟨text, action⟩ := binding
  obtain ⟨hnone, hprepared, pattern, hcompile, rfl⟩ := prepare_eq_ok_iff.mp hentry
  rw [append_concat]
  refine h.add (fun e he => ?_) ?_
  · rw [append_entries] at he
    rcases List.mem_append.mp he with he | he
    · exact hr.get?_eq_none_iff.mp hnone e he
    · exact hprepared e he
  · rw [append_mode]
    exact hcompile

/-- What is prepared binds what it was asked to, in order. -/
theorem bindings_prepareAll (h : r.prepareAll prepared bindings = .ok entries) :
    entries.map (·.binding) = prepared.map (·.binding) ++ bindings := by
  induction bindings generalizing prepared with
  | nil =>
      cases h
      rw [List.append_nil]
  | cons binding rest ih =>
      obtain ⟨text, action⟩ := binding
      rw [prepareAll] at h
      cases hentry : r.prepare prepared (text, action) with
      | error e =>
          rw [hentry] at h
          cases h
      | ok entry =>
          rw [hentry] at h
          obtain ⟨-, -, pattern, -, rfl⟩ := prepare_eq_ok_iff.mp hentry
          rw [ih h, List.map_append, List.append_assoc]
          rfl

theorem Sound.prepareAll (h : (r.append prepared).Sound) (hr : r.Sound)
    (hall : r.prepareAll prepared bindings = .ok entries) : (r.append entries).Sound := by
  induction bindings generalizing prepared with
  | nil =>
      cases hall
      exact h
  | cons binding rest ih =>
      rw [Registry.prepareAll] at hall
      cases hentry : r.prepare prepared binding with
      | ok entry =>
          rw [hentry] at hall
          exact ih (h.prepare hr hentry) hall
      | error e =>
          rw [hentry] at hall
          cases hall

/-! ### Runs of calls -/

theorem perform_eq_ok_iff : r.perform call = .ok r' ↔
    ∃ entries, r.prepareAll [] call.bindings = .ok entries ∧ r' = r.append entries := by
  rw [perform_eq, registerAll]
  cases r.prepareAll [] call.bindings <;> simp [Except.map, eq_comm]

/-- A call for one new text that can be made into a pattern adds its entry. -/
theorem perform_of_new {pattern : Pattern E} (hcall : call.bindings = [(text, action)])
    (hnew : r.get? text = none) (hcompile : Pattern.compile E r.mode text = .ok pattern) :
    r.perform call = .ok (r.add ⟨text, pattern, action⟩) := by
  have hentry : r.prepare [] (text, action) = .ok ⟨text, pattern, action⟩ :=
    prepare_eq_ok_iff.mpr ⟨hnew, by simp, pattern, hcompile, rfl⟩
  refine perform_eq_ok_iff.mpr ⟨[⟨text, pattern, action⟩], ?_, rfl⟩
  rw [hcall, prepareAll, hentry]
  rfl

/-- A call leaves a sound registry sound, and its mode as it was. -/
theorem Sound.after (h : r.Sound) (call : Call σ) :
    (r.after call).Sound ∧ (r.after call).mode = r.mode := by
  rw [Registry.after]
  cases hcall : r.perform call with
  | error e => exact ⟨h, rfl⟩
  | ok r' =>
      obtain ⟨entries, hall, rfl⟩ := perform_eq_ok_iff.mp hcall
      have hnil : (r.append []).Sound := h
      exact ⟨hnil.prepareAll h hall, append_mode r entries⟩

/-- **Runs.** After any calls on a sound registry it is sound, and its mode as it was. -/
theorem Sound.afterAll (h : r.Sound) (calls : List (Call σ)) :
    (r.afterAll calls).Sound ∧ (r.afterAll calls).mode = r.mode := by
  induction calls generalizing r with
  | nil => exact ⟨h, rfl⟩
  | cons call rest ih =>
      obtain ⟨hafter, hmode⟩ := h.after call
      obtain ⟨hall, hmode'⟩ := ih hafter
      exact ⟨hall, hmode'.trans hmode⟩

end Registry

end Playbook
