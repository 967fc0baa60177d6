import Playbook.Proofs.Document.Expansion
import Playbook.Proofs.Placeholder.Tokens

/-!
# Playbook.Proofs.Document.StepKinds

The kind of a step is that of its sentence, also where cells were filled in for placeholders. A
placeholder begins with an angle bracket, and no spelling of a step keyword has one. The spelling
a line begins with is therefore kept, and so is the white space or the end of the line behind it.
Cells can make a longer spelling of what follows, but in an unambiguous vocabulary spellings that
stand at the start of one line are of one kind.
-/

namespace Playbook

/-! ### What substitution leaves alone -/

namespace Placeholder

variable {columns row : Row} {text first : Text}

theorem fill_append (h : '<' ∉ first) (rest : Text) :
    fill columns row (first ++ rest) = first ++ fill columns row rest := by
  induction first with
  | nil => rfl
  | cons c first ih =>
      rw [List.mem_cons, not_or] at h
      rw [List.cons_append, fill_cons (token?_eq_none_of_ne (Ne.symm h.1) _), ih h.2,
        List.cons_append]

/-- Where a word ends, one ends after substitution. -/
theorem endsWord_fill (h : Text.endsWord text = true) :
    Text.endsWord (fill columns row text) = true := by
  cases text with
  | nil =>
      rw [fill, pieces]
      rfl
  | cons c rest =>
      have hc : c ≠ '<' := fun he => by
        rw [he] at h
        cases h
      rw [fill_cons (token?_eq_none_of_ne hc rest)]
      exact h

end Placeholder

/-! ### Spellings -/

namespace Vocabulary

variable {v : Vocabulary}

/-- The words of step keywords cannot hold the beginning of a placeholder. -/
def Unbracketed (v : Vocabulary) : Prop := ∀ entry ∈ v.words, '<' ∉ entry.2

instance (v : Vocabulary) : Decidable v.Unbracketed := inferInstanceAs (Decidable (∀ _ ∈ _, _))

theorem unbracketed_of_mem_builtin : ∀ v ∈ builtin, v.Unbracketed := by decide +kernel

/-- Substitution keeps the kind of a step. -/
theorem Unambiguous.stepKind?_fill (hv : v.Unambiguous) (hbrackets : v.Unbracketed)
    {kind : StepKind} {sentence : Text} (h : v.stepKind? sentence = some kind)
    (columns row : Row) : v.stepKind? (Placeholder.fill columns row sentence) = some kind := by
  obtain ⟨word, hword, hstands⟩ := exists_spelling_of_stepKind? h
  obtain ⟨rest, rfl, hrest⟩ := hasWord_iff.mp hstands
  rw [Placeholder.fill_append (hbrackets _ (mem_words_iff.mpr hword))]
  exact hv.stepKind?_append hword (Placeholder.endsWord_fill hrest)

end Vocabulary

/-! ### Features -/

namespace Feature

open Document

variable {κ : Type} {r : Reader κ} {text : Text} {f : Feature}

/-- The step of a template has the kind that its line was read with. -/
theorem stepKind?_of_template (h : r.read text = .ok f) {b : Block} (hb : b ∈ f.blocks)
    {step : Step} (hstep : step ∈ b.header.steps) :
    r.vocabulary.stepKind? step.sentence = some step.kind := by
  obtain ⟨source, -, hstands, -⟩ := exists_source_of_mem_entries h (step_mem_entries hb hstep)
  generalize hsentence : step.sentence = sentence at hstands
  cases hstands with
  | step hkind => exact hkind

/-- A step that was generated from a template is one of the template's, filled in with some row
for an outline and unchanged for a loop. -/
theorem exists_template_step {b : Block} (h : b.Faithful) {s : Scenario} (hs : s ∈ b.generated)
    {step : Step} (hstep : step ∈ s.steps) :
    ∃ origin ∈ b.header.steps, step.kind = origin.kind ∧
      (step.sentence = origin.sentence ∨
        ∃ columns row, step.sentence = Placeholder.fill columns row origin.sentence) := by
  cases b with
  | scenario header => cases hs
  | outline header columns examples generated =>
      obtain ⟨-, rfl⟩ := h
      obtain ⟨i, hi, rfl⟩ := List.mem_mapIdx.mp hs
      obtain ⟨origin, horigin, rfl⟩ := List.mem_map.mp hstep
      exact ⟨origin, horigin, rfl, .inr ⟨columns, _, rfl⟩⟩
  | loop header n generated =>
      obtain rfl := h
      obtain ⟨i, -, rfl⟩ := List.mem_map.mp hs
      exact ⟨step, hstep, rfl, .inl rfl⟩

/-- **Step kinds.** Every step of a feature that was read with a built-in vocabulary has the kind
that its sentence begins with, in templates and in what is generated from them, whatever the cells
of the examples are. -/
theorem stepKind?_of_read (hv : r.vocabulary ∈ Vocabulary.builtin) (h : r.read text = .ok f) :
    ∀ s ∈ f.scenarios, ∀ step ∈ s.steps,
      r.vocabulary.stepKind? step.sentence = some step.kind := by
  have hunambiguous := Vocabulary.unambiguous_of_mem_builtin _ hv
  have hbrackets := Vocabulary.unbracketed_of_mem_builtin _ hv
  intro s hs step hstep
  obtain ⟨b, hb, hs⟩ := List.mem_flatMap.mp hs
  rcases List.mem_cons.mp hs with rfl | hs
  · exact stepKind?_of_template h hb hstep
  · obtain ⟨origin, horigin, hkind, hsentence⟩ :=
      exists_template_step (faithful_of_read h b hb) hs hstep
    have htemplate := stepKind?_of_template h hb horigin
    rw [hkind]
    rcases hsentence with hsentence | ⟨columns, row, hsentence⟩
    · rwa [hsentence]
    · rw [hsentence]
      exact hunambiguous.stepKind?_fill hbrackets htemplate columns row

/-- An outline with a cell that makes a longer spelling of the one before it and an empty cell,
and a loop with the same placeholder. -/
def filledText : Text :=
  ("Fonctionnalité: f\nPlan du scénario: p\nÉtant donné <a>\nEt <a>\nExemples:\n|a|\n" ++
    "|que Mais|\n||\nScénario Boucle 1: b\nQuand <a>").toList

theorem stepKind?_of_read_filled :
    let r : Reader Unit := ⟨(), ['p'], 1, Vocabulary.french⟩
    r.vocabulary ∈ Vocabulary.builtin ∧ ∃ f, r.read filledText = .ok f ∧
      f.runnable.map (·.steps.map (·.sentence)) =
        [["Étant donné que Mais".toList, "Et que Mais".toList],
          ["Étant donné ".toList, "Et ".toList], ["Quand <a>".toList]] ∧
      ∀ s ∈ f.scenarios, ∀ step ∈ s.steps,
        r.vocabulary.stepKind? step.sentence = some step.kind := by
  intro r
  have hv : r.vocabulary ∈ Vocabulary.builtin := by simp [r, Vocabulary.builtin]
  have hsentences : (r.read filledText).toOption.map
      (·.runnable.map (·.steps.map (·.sentence))) =
        some [["Étant donné que Mais".toList, "Et que Mais".toList],
          ["Étant donné ".toList, "Et ".toList], ["Quand <a>".toList]] := by
    decide +kernel
  cases h : r.read filledText with
  | error e => simp [h, Except.toOption] at hsentences
  | ok f =>
      simp only [h, Except.toOption, Option.map_some, Option.some.injEq] at hsentences
      exact ⟨hv, f, rfl, hsentences, stepKind?_of_read hv h⟩

end Feature

end Playbook
