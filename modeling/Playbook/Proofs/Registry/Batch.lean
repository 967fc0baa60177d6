import Playbook.Pattern.Builtin
import Playbook.Proofs.Registry.Calls

/-!
# Playbook.Proofs.Registry.Batch

Registering a batch is registering its bindings one after the other, with the difference
that a batch that fails registers nothing. The registry looks a text of a batch up in its
index and among the entries prepared before it; the registry that had those entries added
already would look it up in its index alone. As long as the index is sound both find the
same, so a binding is prepared in the one as it would be in the other.
-/

namespace Playbook.Registry

variable {E : Engine} {σ : Type}

/-- Registers bindings one after the other, up to the first that fails. -/
def registerEach (r : Registry E σ) : List (StepBinding σ) → Except StepError (Registry E σ)
  | [] => .ok r
  | (text, action) :: rest => (r.register text action).bind (·.registerEach rest)

variable {r : Registry E σ} {text : Text} {prepared entries : List (RegistryEntry E σ)}
  {bindings : List (StepBinding σ)}

/-! ### Lookup in a batch -/

/-- A text is found where it was, or else among the entries that were added. -/
theorem Sound.get?_append (hr : r.Sound) (h : (r.append prepared).Sound) (text : Text) :
    (r.append prepared).get? text =
      (r.get? text).or ((prepared.find? fun entry => entry.text == text).map (·.action)) := by
  have hsame : (fun entry : RegistryEntry E σ => entry.text == text) =
      fun entry => decide (entry.text = text) := by
    funext entry
    exact beq_eq_decide _ _
  rw [get?, get?, h.entryOf?_eq_find?, hr.entryOf?_eq_find?, append_entries, List.find?_append,
    hsame]
  cases r.entries.find? fun entry => decide (entry.text = text) <;> rfl

/-- A binding is prepared after others as it would be once they are added. -/
theorem Sound.prepare_append (hr : r.Sound) (h : (r.append prepared).Sound)
    (binding : StepBinding σ) :
    (r.append prepared).prepare [] binding = r.prepare prepared binding := by
  obtain ⟨text, action⟩ := binding
  rw [Registry.prepare, Registry.prepare, hr.get?_append h, append_mode]
  simp

/-! ### One after the other -/

theorem register_eq (r : Registry E σ) (text : Text) (action : StepAction σ) :
    r.register text action = (r.prepare [] (text, action)).map r.add := by
  rw [register, registerAll, prepareAll]
  cases r.prepare [] (text, action) <;> rfl

/-- What is prepared is added as it would be one after the other. -/
theorem Sound.registerEach_append (hr : r.Sound) (h : (r.append prepared).Sound)
    (bindings : List (StepBinding σ)) :
    (r.append prepared).registerEach bindings =
      (r.prepareAll prepared bindings).map r.append := by
  induction bindings generalizing prepared with
  | nil => rfl
  | cons binding rest ih =>
      rw [registerEach, register_eq, hr.prepare_append h, Registry.prepareAll]
      cases hentry : r.prepare prepared binding with
      | error e => rfl
      | ok entry =>
          have hnext := ih (h.prepare hr hentry)
          rw [append_concat] at hnext
          exact hnext

theorem length_prepareAll (h : r.prepareAll prepared bindings = .ok entries) :
    entries.length = prepared.length + bindings.length := by
  simpa using congrArg List.length (bindings_prepareAll h)

/-- **Batches.** A batch registers what its bindings register one after the other and tells
how many they are, or it fails as the first of them does. -/
theorem Sound.registerAll_eq (h : r.Sound) (bindings : List (StepBinding σ)) :
    r.registerAll bindings = (r.registerEach bindings).map (·, bindings.length) := by
  have hnil : (r.append []).Sound := h
  have heach : r.registerEach bindings = (r.prepareAll [] bindings).map r.append :=
    h.registerEach_append hnil bindings
  rw [heach, registerAll]
  cases hall : r.prepareAll [] bindings with
  | error e => rfl
  | ok entries =>
      have hlength : entries.length = bindings.length := by simpa using length_prepareAll hall
      simp [Except.map, hlength]

/-- A call makes of a sound registry what its bindings make of it one after the other, or
nothing if one of them fails. -/
theorem Sound.after_eq (h : r.Sound) (call : Call σ) :
    match r.registerEach call.bindings with
    | .ok r' => r.registerAll call.bindings = .ok (r', call.bindings.length) ∧ r.after call = r'
    | .error e => r.registerAll call.bindings = .error e ∧ r.after call = r := by
  have hall := h.registerAll_eq call.bindings
  rw [Registry.after, perform_eq, hall]
  cases r.registerEach call.bindings with
  | ok r' => exact ⟨rfl, rfl⟩
  | error e => exact ⟨rfl, rfl⟩

/-! ### What an object offers -/

/-- The bindings that the methods of an object offer, in order. A method is bound to the
first line of its description that is not blank, trimmed, unless it is to be ignored or has no
such line. -/
inductive Offers (ignored : List Text) : List (OfferedStep σ) → List (StepBinding σ) → Prop
  | nil : Offers ignored [] []
  | ignored {m : OfferedStep σ} {rest : List (OfferedStep σ)} {offered : List (StepBinding σ)}
      (name : m.name ∈ ignored) (tail : Offers ignored rest offered) :
      Offers ignored (m :: rest) offered
  | undescribed {m : OfferedStep σ} {rest : List (OfferedStep σ)}
      {offered : List (StepBinding σ)}
      (blank : ∀ line ∈ Text.lines m.description, Text.trim line = [])
      (tail : Offers ignored rest offered) : Offers ignored (m :: rest) offered
  | described {m : OfferedStep σ} {rest : List (OfferedStep σ)} {offered : List (StepBinding σ)}
      {before after : List Text} {line : Text} (name : m.name ∉ ignored)
      (lines : Text.lines m.description = before ++ line :: after)
      (blank : ∀ line ∈ before, Text.trim line = []) (speaks : Text.trim line ≠ [])
      (tail : Offers ignored rest offered) :
      Offers ignored (m :: rest) ((Text.trim line, m.action) :: offered)

theorem pattern?_eq_none_iff {m : OfferedStep σ} :
    m.pattern? = none ↔ ∀ line ∈ Text.lines m.description, Text.trim line = [] := by
  simp [OfferedStep.pattern?]

theorem pattern?_eq_some_iff {m : OfferedStep σ} :
    m.pattern? = some text ↔ ∃ before line after,
      Text.lines m.description = before ++ line :: after ∧
        (∀ line ∈ before, Text.trim line = []) ∧ Text.trim line ≠ [] ∧ text = Text.trim line := by
  rw [OfferedStep.pattern?, List.find?_map, Option.map_eq_some_iff]
  simp only [List.find?_eq_some_iff_append]
  constructor
  · rintro ⟨line, ⟨hline, before, after, hlines, hblank⟩, rfl⟩
    exact ⟨before, line, after, hlines, by simpa using hblank, by simpa using hline, rfl⟩
  · rintro ⟨before, line, after, hlines, hblank, hline, rfl⟩
    exact ⟨line, ⟨by simpa using hline, before, after, hlines, by simpa using hblank⟩, rfl⟩

theorem bindingsOf_cons (m : OfferedStep σ) (rest : List (OfferedStep σ)) (ignored : List Text) :
    bindingsOf (m :: rest) ignored =
      if m.name ∈ ignored then bindingsOf rest ignored
      else match m.pattern? with
        | none => bindingsOf rest ignored
        | some text => (text, m.action) :: bindingsOf rest ignored := by
  by_cases hname : m.name ∈ ignored
  · simp [bindingsOf, hname]
  · cases hp : m.pattern? <;> simp [bindingsOf, hname, hp]

/-- What methods offer is what is registered of them. -/
theorem offers_iff {methods : List (OfferedStep σ)} {ignored : List Text} :
    Offers ignored methods bindings ↔ bindings = bindingsOf methods ignored := by
  constructor
  · intro h
    induction h with
    | nil => rfl
    | ignored name _ ih => rw [ih, bindingsOf_cons, if_pos name]
    | undescribed blank _ ih =>
        rw [ih, bindingsOf_cons, pattern?_eq_none_iff.mpr blank, ite_self]
    | described name lines blank speaks _ ih =>
        have hp := pattern?_eq_some_iff.mpr ⟨_, _, _, lines, blank, speaks, rfl⟩
        rw [ih, bindingsOf_cons, if_neg name, hp]
  · rintro rfl
    induction methods with
    | nil => exact .nil
    | cons m rest ih =>
        rw [bindingsOf_cons]
        by_cases name : m.name ∈ ignored
        · rw [if_pos name]
          exact .ignored name ih
        · rw [if_neg name]
          cases hp : m.pattern? with
          | none => exact .undescribed (pattern?_eq_none_iff.mp hp) ih
          | some text =>
              obtain ⟨_, _, _, lines, blank, speaks, rfl⟩ := pattern?_eq_some_iff.mp hp
              exact .described name lines blank speaks ih

/-! ### Registries that calls lead to -/

/-- **Batches agree with single registrations.** After any calls, registering the methods of an
object makes of the registry what registering the bindings they offer one after the other
makes of it, and tells how many they are. If one of these fails, the whole batch fails in the
same way and leaves the registry as it was. It is the same with the steps that a program
declares, in the order of their places. -/
theorem batch_agrees_with_registerEach (mode : PatternKind) (calls : List (Call σ)) :
    let r := (new mode : Registry E σ).afterAll calls
    (∀ methods ignored offered, Offers ignored methods offered →
      match r.registerEach offered with
      | .ok r' => r.registerObject methods ignored = .ok (r', offered.length) ∧
          r.after (.object methods ignored) = r'
      | .error e => r.registerObject methods ignored = .error e ∧
          r.after (.object methods ignored) = r) ∧
    ∀ steps,
      match r.registerEach (inOrder steps) with
      | .ok r' => r.registerCollected steps = .ok (r', steps.length) ∧
          r.after (.declared steps) = r'
      | .error e => r.registerCollected steps = .error e ∧ r.after (.declared steps) = r := by
  intro r
  have hsound : r.Sound := ((sound_new mode).afterAll calls).1
  constructor
  · intro methods ignored offered hoffers
    rw [offers_iff.mp hoffers]
    exact hsound.after_eq (.object methods ignored)
  · intro steps
    have hlength : steps.length = (inOrder steps).length :=
      (List.length_mergeSort steps).symm
    rw [hlength]
    exact hsound.after_eq (.declared steps)

/-- Methods of which one is ignored, one says nothing and two ask for the same text. -/
def rivalMethods : List (OfferedStep Unit) :=
  let method (name description : String) : OfferedStep Unit :=
    ⟨name.toList, description.toList, ⟨"m".toList, 1⟩, .pure fun _ => .ok⟩
  [method "first" "\n  x.y \nmore", method "other" "z", method "bare" " \n", method "second" "x.y"]

theorem batch_agrees_with_registerEach_rival :
    let action (name : String) : StepAction Unit :=
      ⟨name.toList, ⟨"m".toList, 1⟩, .pure fun _ => .ok⟩
    let r := (new .literal : Registry .builtin Unit).afterAll
      [.register "z".toList (action "z")]
    let offered := [("x.y".toList, action "first"), ("x.y".toList, action "second")]
    let rival : StepError := .alreadyBound "x.y".toList "first".toList "second".toList
    Offers ["other".toList] rivalMethods offered ∧ r.registerEach offered = .error rival ∧
      r.registerObject rivalMethods ["other".toList] = .error rival ∧
      r.after (.object rivalMethods ["other".toList]) = r := by
  intro action r offered rival
  have hoffers : Offers ["other".toList] rivalMethods offered := by
    refine offers_iff.mpr ?_
    rfl
  have herror : (match r.registerEach offered with | .ok _ => none | .error e => some e) =
      some rival := by decide +kernel
  have hagrees := (batch_agrees_with_registerEach (E := .builtin) .literal
    [.register "z".toList (action "z")]).1 _ _ _ hoffers
  cases heach : r.registerEach offered with
  | ok r' => simp [heach] at herror
  | error e =>
      simp only [heach, Option.some.injEq] at herror
      rw [heach, herror] at hagrees
      exact ⟨hoffers, congrArg Except.error herror, hagrees⟩

end Playbook.Registry
