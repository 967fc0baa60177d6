import Mathlib.Data.List.Basic
import Playbook.Feature.Json
import Playbook.Proofs.Json
import Playbook.Proofs.Registry.Resolution
import Playbook.Registry.Dump

/-!
# Playbook.Proofs.Diagnostics

The diagnostics lose nothing. A feature is told by its JSON value, and so by its text. The dump
of a registry tells its mode and what it shows of every entry, in order. That is all a resolution
depends on, since patterns are made from their texts: registries with one dump resolve every step
alike with the same engine, though their actions may do different things, and in different
programs.
-/

namespace Playbook

open Function (Injective)

/-! ### Features -/

namespace Json

theorem string_injective : Injective string := fun _ _ => string.inj

theorem array_map_injective {α : Type} {f : α → Json} (hf : Injective f) :
    Injective fun xs : List α => array (xs.map f) :=
  fun _ _ h => hf.list_map (array.inj h)

theorem strings_injective : Injective strings := array_map_injective string_injective

end Json

open Json (array_map_injective strings_injective)

theorem StepKind.name_injective : Injective StepKind.name := by
  have hall : ∀ kind ∈ StepKind.all, ∀ kind' ∈ StepKind.all,
      kind.name = kind'.name → kind = kind' := by decide
  intro kind kind' h
  exact hall kind (StepKind.mem_all kind) kind' (StepKind.mem_all kind') h

theorem Tag.toJson_injective : Injective Tag.toJson := by
  intro tag tag' h
  obtain ⟨name, argument⟩ := tag
  obtain ⟨name', argument'⟩ := tag'
  cases argument <;> cases argument' <;> simp_all [Tag.toJson]

theorem Step.toJson_injective : Injective Step.toJson := by
  intro step step' h
  obtain ⟨id, kind, sentence, path, line, table⟩ := step
  obtain ⟨id', kind', sentence', path', line', table'⟩ := step'
  simp only [Step.toJson, Json.object.injEq, List.cons.injEq, Prod.mk.injEq, true_and, and_true,
    Json.number.injEq, Json.string.injEq] at h
  obtain ⟨rfl, hkind, rfl, rfl, rfl, htable⟩ := h
  cases StepKind.name_injective hkind
  cases array_map_injective strings_injective htable
  rfl

theorem Scenario.members_injective : Injective Scenario.members := by
  intro s s' h
  obtain ⟨id, sentence, path, line, tags, steps⟩ := s
  obtain ⟨id', sentence', path', line', tags', steps'⟩ := s'
  simp only [Scenario.members, List.cons.injEq, Prod.mk.injEq, true_and, and_true,
    Json.number.injEq, Json.string.injEq] at h
  obtain ⟨rfl, rfl, rfl, rfl, htags, hsteps⟩ := h
  cases array_map_injective Tag.toJson_injective htags
  cases array_map_injective Step.toJson_injective hsteps
  rfl

theorem Scenario.toJson_injective : Injective Scenario.toJson :=
  fun _ _ h => members_injective (Json.object.inj h)

theorem Example.toJson_injective : Injective Example.toJson := by
  intro ex ex' h
  obtain ⟨data, line⟩ := ex
  obtain ⟨data', line'⟩ := ex'
  simp only [Example.toJson, Json.object.injEq, List.cons.injEq, Prod.mk.injEq, true_and, and_true,
    Json.number.injEq] at h
  obtain ⟨hdata, rfl⟩ := h
  cases strings_injective hdata
  rfl

/-- The kind of a block is its first member, so blocks of different kinds are different. -/
theorem Block.toJson_injective : Injective Block.toJson := by
  intro b b' h
  cases b with
  | scenario s =>
      cases b' with
      | scenario s' =>
          cases Scenario.members_injective (List.cons.inj (Json.object.inj h)).2
          rfl
      | _ => simp_all [toJson]
  | outline s columns examples generated =>
      cases b' with
      | outline s' columns' examples' generated' =>
          simp only [toJson, Json.object.injEq, List.cons.injEq, Prod.mk.injEq, true_and,
            and_true] at h
          obtain ⟨hs, hcolumns, hexamples, hgenerated⟩ := h
          cases Scenario.toJson_injective hs
          cases strings_injective hcolumns
          cases array_map_injective Example.toJson_injective hexamples
          cases array_map_injective Scenario.toJson_injective hgenerated
          rfl
      | _ => simp_all [toJson]
  | loop s iterations generated =>
      cases b' with
      | loop s' iterations' generated' =>
          simp only [toJson, Json.object.injEq, List.cons.injEq, Prod.mk.injEq, true_and,
            and_true, Json.number.injEq] at h
          obtain ⟨hs, rfl, hgenerated⟩ := h
          cases Scenario.toJson_injective hs
          cases array_map_injective Scenario.toJson_injective hgenerated
          rfl
      | _ => simp_all [toJson]

theorem Feature.toJson_injective : Injective Feature.toJson := by
  intro f f' h
  obtain ⟨id, sentence, description, path, line, tags, blocks⟩ := f
  obtain ⟨id', sentence', description', path', line', tags', blocks'⟩ := f'
  simp only [Feature.toJson, Json.object.injEq, List.cons.injEq, Prod.mk.injEq, true_and, and_true,
    Json.number.injEq, Json.string.injEq] at h
  obtain ⟨rfl, rfl, hdescription, rfl, rfl, htags, hblocks⟩ := h
  cases strings_injective hdescription
  cases array_map_injective Tag.toJson_injective htags
  cases array_map_injective Block.toJson_injective hblocks
  rfl

theorem Feature.jsonText_injective : Injective Feature.jsonText :=
  (Json.pretty_injective 0).comp Feature.toJson_injective

/-! ### Registries -/

/-- What a dump shows of an entry. -/
structure ShownEntry where
  pattern : Text
  name : Text
  file : Text
  line : Nat
  deriving DecidableEq, Repr

namespace ShownEntry

def toJson (entry : ShownEntry) : Json :=
  .object [
    ("pattern".toList, .string entry.pattern),
    ("name".toList, .string entry.name),
    ("file".toList, .string entry.file),
    ("line".toList, .number entry.line)]

theorem toJson_injective : Injective toJson := by
  intro entry entry' h
  obtain ⟨pattern, name, file, line⟩ := entry
  obtain ⟨pattern', name', file', line'⟩ := entry'
  simpa [toJson] using h

end ShownEntry

variable {E : Engine} {σ τ : Type}

def RegistryEntry.shown (entry : RegistryEntry E σ) : ShownEntry :=
  ⟨entry.text, entry.action.name, entry.action.location.file, entry.action.location.line⟩

/-- What a resolution tells of a step, apart from what its action does. -/
def Registry.Match.shown (m : Registry.Match E σ) : ShownEntry × Captures :=
  (m.entry.shown, m.captures)

theorem PatternKind.name_injective : Injective PatternKind.name := by
  have hne : PatternKind.regex.name ≠ PatternKind.literal.name := by decide
  intro mode mode' h
  cases mode with
  | regex =>
      cases mode' with
      | regex => rfl
      | literal => exact absurd h hne
  | literal =>
      cases mode' with
      | regex => exact absurd h.symm hne
      | literal => rfl

namespace Registry

variable {r : Registry E σ} {r' : Registry E τ} {step : Step}

theorem toJson_eq (r : Registry E σ) : r.toJson =
    .object [
      ("mode".toList, .string r.mode.name),
      ("steps".toList, .array ((r.entries.map (·.shown)).map ShownEntry.toJson))] := by
  rw [List.map_map]
  rfl

/-- A dump tells the mode and what is shown of the entries, and nothing else. -/
theorem jsonText_eq_iff : r.jsonText = r'.jsonText ↔
    r.mode = r'.mode ∧ r.entries.map (·.shown) = r'.entries.map (·.shown) := by
  rw [jsonText, jsonText, Json.compact_injective.eq_iff, toJson_eq, toJson_eq]
  constructor
  · intro h
    simp only [Json.object.injEq, List.cons.injEq, Prod.mk.injEq, true_and, and_true,
      Json.string.injEq] at h
    exact ⟨PatternKind.name_injective h.1, array_map_injective ShownEntry.toJson_injective h.2⟩
  · intro ⟨hmode, hentries⟩
    rw [hmode, hentries]

/-- How an entry of which this is shown hits a sentence. -/
def hit? (E : Engine) (mode : PatternKind) (sentence : Text) (entry : ShownEntry) :
    Option (ShownEntry × Captures) :=
  (Pattern.compile E mode entry.pattern).toOption.bind fun pattern =>
    (pattern.captures? sentence).map (entry, ·)

/-- What is shown of the hits follows from what is shown of the entries. -/
theorem Sound.shown_hits (h : r.Sound) (sentence : Text) :
    (r.hits sentence).map (·.shown) =
      (r.entries.map (·.shown)).filterMap (hit? E r.mode sentence) := by
  rw [hits, List.map_filterMap, List.filterMap_map]
  refine List.filterMap_congr fun entry hentry => ?_
  have hcompiled := h.compiled entry hentry
  simp [hit?, RegistryEntry.shown, hcompiled, Match.shown, Except.toOption, Function.comp_def]

/-- What is told of a step that is hit in these ways. -/
def told (step : Step) : List (ShownEntry × Captures) → Except StepError (ShownEntry × Captures)
  | [] => .error (.notFound step.sentence step.path step.line)
  | [hit] => .ok hit
  | hits => .error (.ambiguous step.sentence step.path step.line (hits.map (·.1.pattern)))

/-- What is told of a step follows from what is shown of its hits. -/
theorem shown_find (r : Registry E σ) (step : Step) :
    (r.find step).map (·.shown) = told step ((r.hits step.sentence).map (·.shown)) := by
  rcases find_cases r step with ⟨hhits, hfind⟩ | ⟨m, hhits, hfind⟩ | ⟨m, m', rest, hhits, hfind⟩
  · rw [hfind, hhits]
    rfl
  · rw [hfind, hhits]
    rfl
  · rw [hfind, hhits]
    simp [told, Except.map, Match.shown, RegistryEntry.shown]

/-- **Resolution.** Sound registries with the same dump resolve every step alike. -/
theorem Sound.shown_find_eq (h : r.Sound) (h' : r'.Sound) (hdump : r.jsonText = r'.jsonText)
    (step : Step) : (r.find step).map (·.shown) = (r'.find step).map (·.shown) := by
  obtain ⟨hmode, hentries⟩ := jsonText_eq_iff.mp hdump
  rw [shown_find, shown_find, h.shown_hits, h'.shown_hits, hmode, hentries]

end Registry

/-! ### Both -/

/-- **Diagnostics.** Features with the same text are the same. Registries with the same dump are
of one mode and show the same entries in the same order, and if calls have led to them, they
resolve every step alike: to entries that are shown alike, with the same captures, or to the
same error. -/
theorem diagnostics_lossless :
    (∀ f f' : Feature, f.jsonText = f'.jsonText ↔ f = f') ∧
    (∀ (r : Registry E σ) (r' : Registry E τ), r.jsonText = r'.jsonText ↔
      r.mode = r'.mode ∧ r.entries.map (·.shown) = r'.entries.map (·.shown)) ∧
    ∀ mode mode' calls calls',
      let r := (Registry.new mode : Registry E σ).afterAll calls
      let r' := (Registry.new mode' : Registry E τ).afterAll calls'
      r.jsonText = r'.jsonText →
        ∀ step, (r.find step).map (·.shown) = (r'.find step).map (·.shown) := by
  refine ⟨fun f f' => Feature.jsonText_injective.eq_iff, fun r r' => Registry.jsonText_eq_iff, ?_⟩
  intro mode mode' calls calls' r r' hdump step
  have hsound : r.Sound := ((Registry.sound_new mode).afterAll calls).1
  have hsound' : r'.Sound := ((Registry.sound_new mode').afterAll calls').1
  exact hsound.shown_find_eq hsound' hdump step

/-- A tag without an argument and one with an empty argument are told apart, and registries that
differ in what they do and in how it was registered resolve steps alike. -/
theorem diagnostics_lossless_samples :
    let tagged := fun argument : Option Text =>
      (⟨1, ['f'], [], ['p'], 1, [⟨['t'], argument⟩], []⟩ : Feature)
    let calls := [.object Registry.halfDescribed []]
    let calls' := [.register "b".toList
      ⟨"second".toList, ⟨"m".toList, 2⟩, fun _ n => (.failed [], n + 1)⟩]
    let r := (Registry.new .regex : Registry .builtin Unit).afterAll calls
    let r' := (Registry.new .regex : Registry .builtin Nat).afterAll calls'
    (tagged none).jsonText ≠ (tagged (some [])).jsonText ∧ r.jsonText = r'.jsonText ∧
      ∀ step, (r.find step).map (·.shown) = (r'.find step).map (·.shown) := by
  intro tagged calls calls' r r'
  obtain ⟨hfeatures, -, hregistries⟩ := diagnostics_lossless
  have hdump : r.jsonText = r'.jsonText := by decide +kernel
  exact ⟨fun h => absurd ((hfeatures _ _).mp h) (by decide), hdump,
    hregistries .regex .regex calls calls' hdump⟩

end Playbook
