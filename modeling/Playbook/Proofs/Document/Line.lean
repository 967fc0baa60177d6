import Playbook.Document.Line
import Playbook.Proofs.Tag
import Playbook.Proofs.Vocabulary

/-!
# Playbook.Proofs.Document.Line

What a line says, as a relation: `Line.Reads` has one constructor for each meaning, with
the test that finds it and the tests before it that must have failed. `read_eq_iff` ties
it to `Line.read`.
-/

namespace Playbook.Document

open Text (trim)

/-- Whether a trimmed text says anything: it is neither empty nor a comment. -/
def Speaks (text : Text) : Prop := text ≠ [] ∧ text.head? ≠ some '#'

instance (text : Text) : Decidable (Speaks text) := inferInstanceAs (Decidable (_ ∧ _))

/-- The first of some lines that says anything. -/
def firstSpeaking (lines : List Text) : Option Text := lines.find? fun line => Speaks (trim line)

namespace Line

variable {v : Vocabulary} {line text : Text}

/-- A trimmed text that says something, and neither is a tag nor the feature header. -/
structure Untitled (v : Vocabulary) (text : Text) : Prop where
  speaks : Speaks text
  noTag : Tag.ofLine? text = none
  noFeature : Vocabulary.header? text v.feature = none

/-- A trimmed text that moreover begins with no scenario keyword. -/
structure Plain (v : Vocabulary) (text : Text) : Prop extends Untitled v text where
  noHeader : header? v text = none
  noKeyword : namesScenario v text = false

/-- What a trimmed text says. -/
inductive Reads (v : Vocabulary) (text : Text) : Line → Prop
  | blank (h : text = []) : Reads v text .blank
  | comment (h : text.head? = some '#') : Reads v text .comment
  | tag {label : Tag} (speaks : Speaks text) (h : Tag.ofLine? text = some label) :
      Reads v text (.tag label)
  | feature {sentence : Text} (speaks : Speaks text) (noTag : Tag.ofLine? text = none)
      (h : Vocabulary.header? text v.feature = some sentence) : Reads v text (.feature sentence)
  | scenario {kind : HeaderKind} {sentence : Text} (untitled : Untitled v text)
      (h : header? v text = some (kind, sentence)) : Reads v text (.scenario kind sentence)
  | badHeader (untitled : Untitled v text) (noHeader : header? v text = none)
      (h : namesScenario v text = true) : Reads v text .badHeader
  | examples {sentence : Text} (plain : Plain v text)
      (h : Vocabulary.header? text v.examples = some sentence) : Reads v text .examples
  | row (plain : Plain v text) (noExamples : Vocabulary.header? text v.examples = none)
      (h : text.head? = some Row.bar) : Reads v text (.row (Row.ofLine text))
  | step {kind : StepKind} (plain : Plain v text)
      (noExamples : Vocabulary.header? text v.examples = none)
      (noRow : text.head? ≠ some Row.bar) (h : v.stepKind? text = some kind) :
      Reads v text (.step kind text)
  | prose (plain : Plain v text) (noExamples : Vocabulary.header? text v.examples = none)
      (noRow : text.head? ≠ some Row.bar) (h : v.stepKind? text = none) :
      Reads v text (.prose text)

theorem reads_readBody (plain : Plain v text) : Reads v text (readBody v text) := by
  unfold readBody
  cases he : Vocabulary.header? text v.examples with
  | some sentence => exact .examples plain he
  | none =>
      by_cases hr : text.head? = some Row.bar
      · simpa [hr] using Reads.row plain he hr
      · cases hs : v.stepKind? text with
        | some kind => simpa [hr] using Reads.step plain he hr hs
        | none => simpa [hr] using Reads.prose plain he hr hs

theorem reads_readText (speaks : Speaks text) : Reads v text (readText v text) := by
  unfold readText
  cases ht : Tag.ofLine? text with
  | some label => exact .tag speaks ht
  | none =>
      cases hf : Vocabulary.header? text v.feature with
      | some sentence => exact .feature speaks ht hf
      | none =>
          have untitled : Untitled v text := ⟨speaks, ht, hf⟩
          cases hh : header? v text with
          | some found => exact .scenario untitled hh
          | none =>
              by_cases hn : namesScenario v text = true
              · simpa [hn] using Reads.badHeader untitled hh hn
              · rw [Bool.not_eq_true] at hn
                simpa [hn] using reads_readBody ⟨untitled, hh, hn⟩

theorem reads_read (v : Vocabulary) (line : Text) : Reads v (trim line) (read v line) := by
  unfold read
  split
  · rename_i h
    exact .blank h
  · rename_i c rest h
    by_cases hc : c = '#'
    · rw [if_pos hc]
      exact .comment (by rw [h, hc]; rfl)
    · rw [if_neg hc, ← h]
      exact reads_readText ⟨by simp [h], by simpa [h] using hc⟩

theorem read_eq_readText (h : Speaks (trim line)) : read v line = readText v (trim line) := by
  unfold read
  split
  · exact absurd ‹_› h.1
  · rename_i c rest ht
    have hc : c ≠ '#' := fun hc => h.2 (by rw [ht, hc]; rfl)
    rw [if_neg hc, ht]

theorem Plain.read_eq (h : Plain v (trim line)) : read v line = readBody v (trim line) := by
  rw [read_eq_readText h.speaks, readText, h.noTag, h.noFeature, h.noHeader]
  exact if_neg (Bool.eq_false_iff.mp h.noKeyword)

/-- Reading gives what the trimmed line says. -/
theorem read_of_reads {l : Line} (h : Reads v (trim line) l) : read v line = l := by
  cases h with
  | blank h => rw [read, h]
  | comment h =>
      obtain ⟨rest, ht⟩ := List.head?_eq_some_iff.mp h
      rw [read, ht]
      exact if_pos rfl
  | tag speaks h => rw [read_eq_readText speaks, readText, h]
  | feature speaks noTag h => rw [read_eq_readText speaks, readText, noTag, h]
  | scenario untitled h =>
      rw [read_eq_readText untitled.speaks, readText, untitled.noTag, untitled.noFeature, h]
  | badHeader untitled noHeader h =>
      rw [read_eq_readText untitled.speaks, readText, untitled.noTag, untitled.noFeature, noHeader]
      exact if_pos h
  | examples plain h =>
      rw [plain.read_eq, readBody, h]
      rfl
  | row plain noExamples h =>
      rw [plain.read_eq, readBody, noExamples, Option.isSome_none, if_neg Bool.false_ne_true,
        if_pos h]
  | step plain noExamples noRow h =>
      rw [plain.read_eq, readBody, noExamples, Option.isSome_none, if_neg Bool.false_ne_true,
        if_neg noRow, h]
  | prose plain noExamples noRow h =>
      rw [plain.read_eq, readBody, noExamples, Option.isSome_none, if_neg Bool.false_ne_true,
        if_neg noRow, h]

/-- What a line says is what its trimmed text says. -/
theorem read_eq_iff {l : Line} : read v line = l ↔ Reads v (trim line) l :=
  ⟨fun h => h ▸ reads_read v line, read_of_reads⟩

theorem read_of_trimmed {l : Line} (ht : Text.Trimmed text) (h : Reads v text l) :
    read v text = l := by
  rw [read_eq_iff, ht.eq]
  exact h

/-! ### Lines that say nothing -/

/-- Whether the line is blank or a comment. -/
def isSilent : Line → Bool
  | blank | comment => true
  | _ => false

/-- Whether the line can begin a block: it is a tag or the header of a block. -/
def opensBlock : Line → Bool
  | tag _ | scenario _ _ => true
  | _ => false

/-- The lines that are read as blank or as a comment are those that say nothing. -/
theorem isSilent_read (v : Vocabulary) (line : Text) :
    (read v line).isSilent = !decide (Speaks (trim line)) := by
  have hreads := reads_read v line
  generalize read v line = l at hreads
  cases hreads with
  | blank h => simp [isSilent, Speaks, h]
  | comment h => simp [isSilent, Speaks, h]
  | tag speaks _ => simp [isSilent, speaks]
  | feature speaks _ _ => simp [isSilent, speaks]
  | scenario untitled _ => simp [isSilent, untitled.speaks]
  | badHeader untitled _ _ => simp [isSilent, untitled.speaks]
  | examples plain _ => simp [isSilent, plain.speaks]
  | row plain _ _ => simp [isSilent, plain.speaks]
  | step plain _ _ _ => simp [isSilent, plain.speaks]
  | prose plain _ _ _ => simp [isSilent, plain.speaks]

/-- The first line that says anything is found among the lines as they are read. -/
theorem find?_map_read (v : Vocabulary) (lines : List Text) :
    (lines.map (read v)).find? (!·.isSilent) = (firstSpeaking lines).map (read v) := by
  rw [List.find?_map, firstSpeaking]
  congr 2
  funext line
  simp [isSilent_read]

/-! ### Lines that are plain -/

/-- A line that names no kind of scenario is no header of a block. -/
theorem header?_eq_none_of_namesScenario (h : namesScenario v line = false)
    (ht : Text.Trimmed line) : header? v line = none := by
  simp only [namesScenario, List.any_cons, List.any_nil, Bool.or_false, Bool.or_eq_false_iff] at h
  obtain ⟨houtline, hloop, hscenario⟩ := h
  have hnone : ∀ {keyword : Text}, Vocabulary.hasKeyword line keyword = false →
      Vocabulary.header? line keyword = none := by
    intro keyword hk
    by_contra hne
    obtain ⟨sentence, hs⟩ := Option.ne_none_iff_exists'.mp hne
    rw [Vocabulary.hasKeyword_of_header? hs] at hk
    cases hk
  have hnoLoop : v.loopHeader? line = none := by
    by_contra hne
    obtain ⟨⟨sentence, n⟩, hs⟩ := Option.ne_none_iff_exists'.mp hne
    have hword := Vocabulary.hasKeyword_of_hasWord (Vocabulary.hasWord_of_loopHeader? hs)
    rw [ht.eq, hloop] at hword
    cases hword
  simp [header?, hnone houtline, hnone hscenario, hnoLoop]

/-- A line that begins with no keyword is plain. -/
theorem plain_of_not_prefix (ht : Text.Trimmed text) (speaks : Speaks text)
    (noTag : text.head? ≠ some '@')
    (h : ∀ keyword ∈ [v.feature, v.scenario, v.outline, v.loop], ¬ keyword <+: text) :
    Plain v text := by
  have hnames : namesScenario v text = false := by
    simp only [namesScenario, List.any_cons, List.any_nil, Bool.or_false, Bool.or_eq_false_iff]
    exact ⟨Vocabulary.hasKeyword_eq_false_of_not_prefix (h _ (by simp)),
      Vocabulary.hasKeyword_eq_false_of_not_prefix (h _ (by simp)),
      Vocabulary.hasKeyword_eq_false_of_not_prefix (h _ (by simp))⟩
  exact {
    speaks
    noTag := Tag.ofLine?_eq_none ht noTag
    noFeature := Vocabulary.header?_eq_none_of_not_prefix (h _ (by simp))
    noHeader := header?_eq_none_of_namesScenario hnames ht
    noKeyword := hnames }

end Line

end Playbook.Document
