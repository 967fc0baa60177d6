import Mathlib.Data.List.Perm.Basic
import Playbook.Proofs.Pattern.Builtin
import Playbook.Proofs.Registry.History

/-!
# Playbook.Proofs.Registry.Resolution

A step is resolved by all patterns that are found in its sentence, not by the first of them, and
so the order of registration decides nothing but the order in which several patterns are told.
An entry is determined by what it binds and by the mode, so registries that have registered the
same bindings hold the same entries; entries hit a sentence one by one, and the number of hits
is all that tells the three outcomes of a resolution apart.
-/

namespace Playbook

variable {E : Engine} {σ : Type}

/-- Whether a text is a pattern that is found in a sentence. -/
def Pattern.isFound (E : Engine) (mode : PatternKind) (text sentence : Text) : Bool :=
  match compile E mode text with
  | .ok pattern => (pattern.captures? sentence).isSome
  | .error _ => false

theorem Pattern.isFound_eq_isSome {mode : PatternKind} {text : Text} {p : Pattern E}
    (h : compile E mode text = .ok p) (sentence : Text) :
    isFound E mode text sentence = (E.find? p.regex sentence).isSome := by
  rw [isFound, h]
  exact Option.isSome_map

namespace Registry

/-- The texts of bindings that are found in a sentence, in order. -/
def foundIn (E : Engine) (mode : PatternKind) (bindings : List (StepBinding σ))
    (sentence : Text) : List Text :=
  (bindings.map (·.1)).filter fun text => Pattern.isFound E mode text sentence

/-- Two resolutions of a step agree: neither finds a pattern, both find the same entry with the
same captures, or both are ambiguous among the same patterns, in whatever order. -/
inductive Agree (step : Step) :
    Except StepError (Match E σ) → Except StepError (Match E σ) → Prop
  | notFound :
      Agree step (.error (.notFound step.sentence step.path step.line))
        (.error (.notFound step.sentence step.path step.line))
  | resolved (m : Match E σ) : Agree step (.ok m) (.ok m)
  | ambiguous {patterns patterns' : List Text} (perm : patterns.Perm patterns') :
      Agree step (.error (.ambiguous step.sentence step.path step.line patterns))
        (.error (.ambiguous step.sentence step.path step.line patterns'))

variable {r r' : Registry E σ} {step : Step} {mode : PatternKind}

/-! ### Entries -/

/-- The entry that a binding leads to in a mode. -/
def entryFor? (mode : PatternKind) (binding : StepBinding σ) : Option (RegistryEntry E σ) :=
  (Pattern.compile E mode binding.1).toOption.map fun pattern => ⟨binding.1, pattern, binding.2⟩

/-- The entries follow from the bindings. -/
theorem Sound.entries_eq (h : r.Sound) :
    r.entries = (r.entries.map (·.binding)).filterMap (entryFor? r.mode) := by
  have hentry : ∀ entry ∈ r.entries, entryFor? r.mode entry.binding = some entry := by
    intro entry hentry
    simp only [entryFor?, RegistryEntry.binding, h.compiled entry hentry]
    rfl
  generalize r.entries = entries at hentry
  induction entries with
  | nil => rfl
  | cons entry rest ih =>
      obtain ⟨hhead, hrest⟩ := List.forall_mem_cons.mp hentry
      rw [List.map_cons, List.filterMap_cons, hhead, ← ih hrest]

/-- Registries of one mode with the same bindings hold the same entries. -/
theorem Sound.entries_perm (h : r.Sound) (h' : r'.Sound) (hmode : r.mode = r'.mode)
    (hperm : (r.entries.map (·.binding)).Perm (r'.entries.map (·.binding))) :
    r.entries.Perm r'.entries := by
  rw [h.entries_eq, h'.entries_eq, hmode]
  exact hperm.filterMap _

/-! ### Hits -/

/-- The entries that hit a sentence are those with a text that is found in it. -/
theorem Sound.texts_hits (h : r.Sound) (sentence : Text) :
    (r.hits sentence).map (·.entry.text) =
      foundIn E r.mode (r.entries.map (·.binding)) sentence := by
  have hfound : ∀ entry ∈ r.entries,
      Pattern.isFound E r.mode entry.text sentence = (entry.pattern.captures? sentence).isSome := by
    intro entry hentry
    rw [Pattern.isFound, h.compiled entry hentry]
  rw [hits, foundIn, List.map_map]
  generalize r.entries = entries at hfound
  induction entries with
  | nil => rfl
  | cons entry rest ih =>
      obtain ⟨hentry, hrest⟩ := List.forall_mem_cons.mp hfound
      have htext : ((·.1) ∘ RegistryEntry.binding) entry = entry.text := rfl
      rw [List.map_cons, List.filter_cons, htext, hentry, ← ih hrest, List.filterMap_cons]
      cases entry.pattern.captures? sentence <;> rfl

/-- Where every text is found, all of them are told. -/
theorem foundIn_eq_map {bindings : List (StepBinding σ)} {sentence : Text}
    (h : ∀ binding ∈ bindings, Pattern.isFound E mode binding.1 sentence) :
    foundIn E mode bindings sentence = bindings.map (·.1) := by
  rw [foundIn, List.filter_eq_self]
  exact List.forall_mem_map.mpr h

theorem Sound.nodup_foundIn (h : r.Sound) (sentence : Text) :
    (foundIn E r.mode (r.entries.map (·.binding)) sentence).Nodup := by
  have hnodup : ((r.entries.map (·.binding)).map (·.1)).Nodup := by
    rw [List.map_map]
    exact h.nodup
  exact hnodup.filter _

/-! ### Outcomes -/

/-- The three outcomes of a resolution, by the hits. -/
theorem find_cases (r : Registry E σ) (step : Step) :
    (r.hits step.sentence = [] ∧
        r.find step = .error (.notFound step.sentence step.path step.line)) ∨
      (∃ m, r.hits step.sentence = [m] ∧ r.find step = .ok m) ∨
      ∃ m m' rest, r.hits step.sentence = m :: m' :: rest ∧
        r.find step = .error (.ambiguous step.sentence step.path step.line
          ((r.hits step.sentence).map (·.entry.text))) := by
  rw [find]
  cases r.hits step.sentence with
  | nil => exact .inl ⟨rfl, rfl⟩
  | cons m rest =>
      cases rest with
      | nil => exact .inr (.inl ⟨m, rfl, rfl⟩)
      | cons m' rest => exact .inr (.inr ⟨m, m', rest, rfl, rfl⟩)

/-- Registries that are hit by the same entries resolve a step alike. -/
theorem agree_of_perm_hits (h : (r.hits step.sentence).Perm (r'.hits step.sentence)) :
    Agree step (r.find step) (r'.find step) := by
  rcases find_cases r step with ⟨hhits, hfind⟩ | ⟨m, hhits, hfind⟩ | ⟨m₁, m₂, rest, hhits, hfind⟩
  · have hhits' : r'.hits step.sentence = [] := List.nil_perm.mp (hhits ▸ h)
    rw [hfind, find, hhits']
    exact .notFound
  · have hhits' : r'.hits step.sentence = [m] := List.perm_singleton.mp (hhits ▸ h.symm)
    rw [hfind, find, hhits']
    exact .resolved m
  · have hlength := h.length_eq
    rcases find_cases r' step with ⟨hhits', -⟩ | ⟨m', hhits', -⟩ | ⟨m₁', m₂', rest', -, hfind'⟩
    · simp [hhits, hhits'] at hlength
    · simp [hhits, hhits'] at hlength
    · rw [hfind, hfind']
      exact .ambiguous (h.map _)

/-- A step is resolved if exactly one registered text is found in its sentence. -/
theorem Sound.exists_find_eq_ok_iff (h : r.Sound) :
    (∃ m, r.find step = .ok m) ↔
      ∃! text, text ∈ foundIn E r.mode (r.entries.map (·.binding)) step.sentence := by
  have hnodup := h.nodup_foundIn step.sentence
  rw [← h.texts_hits] at hnodup ⊢
  rcases find_cases r step with ⟨hhits, hfind⟩ | ⟨m, hhits, hfind⟩ | ⟨m₁, m₂, rest, hhits, hfind⟩
  · simp [hhits, hfind]
  · simp [hhits, hfind]
  · -- Two hits have different texts, so neither is the only one.
    have hne : m₁.entry.text ≠ m₂.entry.text := by
      intro heq
      simp [hhits, heq] at hnodup
    constructor
    · rintro ⟨m, hm⟩
      rw [hfind] at hm
      cases hm
    · rintro ⟨text, -, honly⟩
      have h₁ : m₁.entry.text = text := honly _ (by simp [hhits])
      have h₂ : m₂.entry.text = text := honly _ (by simp [hhits])
      exact absurd (h₁.trans h₂.symm) hne

/-- A step is ambiguous if several registered texts are found in its sentence, and then all of
these are told. -/
theorem Sound.find_eq_ambiguous_iff (h : r.Sound) {sentence path : Text} {line : Nat}
    {patterns : List Text} :
    r.find step = .error (.ambiguous sentence path line patterns) ↔
      sentence = step.sentence ∧ path = step.path ∧ line = step.line ∧
        patterns = foundIn E r.mode (r.entries.map (·.binding)) step.sentence ∧
        2 ≤ patterns.length := by
  rw [← h.texts_hits]
  rcases find_cases r step with ⟨hhits, hfind⟩ | ⟨m, hhits, hfind⟩ | ⟨m₁, m₂, rest, hhits, hfind⟩
  · constructor
    · intro hambiguous
      rw [hfind] at hambiguous
      cases hambiguous
    · rintro ⟨-, -, -, rfl, hlength⟩
      simp [hhits] at hlength
  · constructor
    · intro hambiguous
      rw [hfind] at hambiguous
      cases hambiguous
    · rintro ⟨-, -, -, rfl, hlength⟩
      simp [hhits] at hlength
  · rw [hfind]
    constructor
    · intro hambiguous
      cases hambiguous
      exact ⟨rfl, rfl, rfl, rfl, by simp [hhits]⟩
    · rintro ⟨rfl, rfl, rfl, rfl, -⟩
      rfl

/-! ### Registries that calls lead to -/

/-- **Order does not matter.** Two registries of one mode that have registered the same bindings,
in whatever order and by whatever calls, resolve every step alike. Each of them resolves a step
if exactly one of its patterns is found in the sentence, and tells a step to be ambiguous if
there are several, with all of these, each once, in the order of registration. -/
theorem find_regardless_of_order {calls calls' : List (Call σ)}
    (h : ((new mode : Registry E σ).accepted calls).Perm
      ((new mode : Registry E σ).accepted calls')) (step : Step) :
    let r : Registry E σ := new mode
    Agree step ((r.afterAll calls).find step) ((r.afterAll calls').find step) ∧
    ∀ cs ∈ [calls, calls'],
      let found := foundIn E mode (r.accepted cs) step.sentence
      ((∃ m, (r.afterAll cs).find step = .ok m) ↔ ∃! text, text ∈ found) ∧
      (∀ sentence path line patterns,
        (r.afterAll cs).find step = .error (.ambiguous sentence path line patterns) ↔
          sentence = step.sentence ∧ path = step.path ∧ line = step.line ∧ patterns = found ∧
            2 ≤ patterns.length) ∧
      found.Nodup := by
  intro r
  have hreached : ∀ cs, (r.afterAll cs).Sound ∧ (r.afterAll cs).mode = mode :=
    fun cs => (sound_new mode).afterAll cs
  have hpast : ∀ cs, (r.afterAll cs).entries.map (·.binding) = r.accepted cs :=
    fun cs => bindings_afterAll r cs
  constructor
  · apply agree_of_perm_hits
    have hmode := (hreached calls).2.trans (hreached calls').2.symm
    rw [← hpast, ← hpast] at h
    exact ((hreached calls).1.entries_perm (hreached calls').1 hmode h).filterMap _
  · intro cs _ found
    obtain ⟨hsound, hmode⟩ := hreached cs
    have hfound : found = foundIn E (r.afterAll cs).mode
        ((r.afterAll cs).entries.map (·.binding)) step.sentence := by
      rw [hmode, hpast]
    rw [hfound]
    exact ⟨hsound.exists_find_eq_ok_iff, fun _ _ _ _ => hsound.find_eq_ambiguous_iff,
      hsound.nodup_foundIn step.sentence⟩

/-- An object of two methods, of which one says nothing. -/
def halfDescribed : List (OfferedStep Unit) :=
  [⟨"quiet".toList, [], ⟨"m".toList, 1⟩, .pure fun _ => .ok⟩,
    ⟨"second".toList, "\n b\nmore".toList, ⟨"m".toList, 2⟩, .pure fun _ => .ok⟩]

theorem find_regardless_of_order_overlapping :
    let r : Registry .builtin Unit := new .regex
    let first : Call Unit :=
      .register "^a+(b?)".toList ⟨"first".toList, ⟨"m".toList, 3⟩, .pure fun _ => .ok⟩
    let calls := [first, .object halfDescribed []]
    let calls' := [.object halfDescribed [], first]
    let step : Step := ⟨1, .givenStep, "aab".toList, "p".toList, 3, []⟩
    (r.accepted calls).Perm (r.accepted calls') ∧
    Agree step ((r.afterAll calls).find step) ((r.afterAll calls').find step) ∧
    (r.afterAll calls).find step =
      .error (.ambiguous "aab".toList "p".toList 3 ["^a+(b?)".toList, "b".toList]) ∧
    (r.afterAll calls').find step =
      .error (.ambiguous "aab".toList "p".toList 3 ["b".toList, "^a+(b?)".toList]) := by
  intro r first calls calls' step
  let e : Pattern.Expr := .cat (.assertion .textStart) (.cat (.times 1 none true (.char 'a'))
    (.group 1 none (.times 0 (some 1) true (.char 'b'))))
  have htokens : Pattern.Token.lex? "^a+(b?)".toList = some [.lineStart, .char 'a',
      .repetition 1 none true, .openCapture none, .char 'b', .repetition 0 (some 1) true,
      .close] := by cbv
  have htokens' : Pattern.Token.lex? "b".toList = some [.char 'b'] := by cbv
  have he : Pattern.Syntax.ofTokens? [.lineStart, .char 'a', .repetition 1 none true,
      .openCapture none, .char 'b', .repetition 0 (some 1) true, .close] = some e := rfl
  have he' : Pattern.Syntax.ofTokens? [.char 'b'] = some (.char 'b') := rfl
  have hcompile := Pattern.compile_of_tokens (by decide) htokens he
  have hcompile' := Pattern.compile_of_tokens (by decide) htokens' he'
  let binding : StepBinding Unit :=
    ("^a+(b?)".toList, ⟨"first".toList, ⟨"m".toList, 3⟩, .pure fun _ => .ok⟩)
  let binding' : StepBinding Unit :=
    ("b".toList, ⟨"second".toList, ⟨"m".toList, 2⟩, .pure fun _ => .ok⟩)
  have hobject : (Call.object halfDescribed []).bindings = [binding'] := rfl
  have hcalls : r.accepted calls = [binding, binding'] := by
    rw [accepted_of_new rfl rfl hcompile, accepted_of_new hobject rfl hcompile']
    rfl
  have hcalls' : r.accepted calls' = [binding', binding] := by
    rw [accepted_of_new hobject rfl hcompile', accepted_of_new rfl rfl hcompile]
    rfl
  have hperm : (r.accepted calls).Perm (r.accepted calls') := by
    rw [hcalls, hcalls']
    exact .swap _ _ _
  -- One `a` is read at the beginning and no `b`, and one `b` at the end.
  have hmatches : e.Matches "aab".toList 0 1 [⟨1, 1, 1⟩] :=
    .cat (.assertion rfl) (.cat (.round (.inl Nat.one_ne_zero) (.char rfl) .stop) (.group .stop))
  have hmatches' : (Pattern.Expr.char 'b').Matches "aab".toList 2 3 [] := .char rfl
  have hfound : Pattern.isFound .builtin .regex "^a+(b?)".toList "aab".toList := by
    rw [Pattern.isFound_eq_isSome hcompile]
    exact Pattern.isSome_find?_of_matches he (by decide) hmatches
  have hfound' : Pattern.isFound .builtin .regex "b".toList "aab".toList := by
    rw [Pattern.isFound_eq_isSome hcompile']
    exact Pattern.isSome_find?_of_matches he' (by decide) hmatches'
  have hboth : foundIn .builtin .regex [binding, binding'] "aab".toList =
      ["^a+(b?)".toList, "b".toList] :=
    foundIn_eq_map (List.forall_mem_cons.mpr ⟨hfound, List.forall_mem_singleton.mpr hfound'⟩)
  have hboth' : foundIn .builtin .regex [binding', binding] "aab".toList =
      ["b".toList, "^a+(b?)".toList] :=
    foundIn_eq_map (List.forall_mem_cons.mpr ⟨hfound', List.forall_mem_singleton.mpr hfound⟩)
  obtain ⟨hagree, heach⟩ := find_regardless_of_order hperm step
  have hambiguous := (heach calls List.mem_cons_self).2.1
  have hambiguous' := (heach calls' (List.mem_cons_of_mem _ List.mem_cons_self)).2.1
  rw [hcalls] at hambiguous
  rw [hcalls'] at hambiguous'
  exact ⟨hperm, hagree, (hambiguous _ _ _ _).mpr ⟨rfl, rfl, rfl, hboth.symm, by decide⟩,
    (hambiguous' _ _ _ _).mpr ⟨rfl, rfl, rfl, hboth'.symm, by decide⟩⟩

end Registry

end Playbook
