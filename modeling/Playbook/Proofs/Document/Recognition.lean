import Playbook.Proofs.Document.Listing
import Playbook.Proofs.Document.Refusing
import Playbook.Proofs.Document.Script.Lines

/-!
# Playbook.Proofs.Document.Recognition

What a line is, from its text alone and without regard to the other tests: the first words of
it decide, whatever else it might be taken for. In an unambiguous vocabulary this is what the
line is read as, so the order in which the tests are tried does not show.
-/

namespace Playbook.Document

open Text (trim Trimmed)
open Vocabulary (Apart)

variable {v : Vocabulary} {line : Text}

/-! ### Recognisers -/

/-- The line holds a tag. -/
def IsTag (line : Text) : Prop := ∃ label, Tag.ofLine? line = some label

/-- The line is a comment. -/
def IsComment (line : Text) : Prop := (trim line).head? = some '#'

/-- The line is a row of a table or of examples. -/
def IsRow (line : Text) : Prop := (trim line).head? = some Row.bar

/-- The line is a feature header. -/
def IsFeature (v : Vocabulary) (line : Text) : Prop := ∃ sentence, Heads line v.feature sentence

/-- The line is the header of a block: of a scenario, an outline or a loop. -/
def IsHeader (v : Vocabulary) (line : Text) : Prop :=
  ∃ kind sentence, HeadsBlock v line sentence kind

/-- The line is the header of an outline. -/
def IsOutline (v : Vocabulary) (line : Text) : Prop := ∃ sentence, Heads line v.outline sentence

/-- The line is the marker above the examples of an outline. -/
def IsExamples (v : Vocabulary) (line : Text) : Prop := ∃ rest, Heads line v.examples rest

/-- The line begins with the words of a step. -/
def IsStep (v : Vocabulary) (line : Text) : Prop := ∃ kind, v.stepKind? (trim line) = some kind

/-- The line begins with a scenario keyword as a whole word: white space, a colon or nothing
follows. -/
def NamesScenario (v : Vocabulary) (line : Text) : Prop :=
  ∃ keyword ∈ [v.outline, v.loop, v.scenario], ∃ rest, trim line = keyword ++ rest ∧
    (rest.head? = some ':' ∨ Text.endsWord rest = true)

/-! ### Words a line begins with -/

/-- A line that begins with a word of the vocabulary says something and is no tag. -/
theorem speaks_of_opener (hv : v.Unambiguous) {word rest : Text} (hw : word ∈ v.openers)
    (h : trim line = word ++ rest) : Speaks (trim line) ∧ Tag.ofLine? (trim line) = none := by
  have hspeaks := Script.speaks_append hv hw rest
  rw [← h] at hspeaks
  exact ⟨hspeaks.1, Tag.ofLine?_eq_none (Text.trimmed_trim line) hspeaks.2⟩

/-- A line that begins with a word apart from the feature keyword is moreover no feature
header. -/
theorem untitled_of_opener (hv : v.Unambiguous) {word rest : Text} (hw : word ∈ v.openers)
    (hf : Apart v.feature word) (h : trim line = word ++ rest) :
    Line.Untitled v (trim line) := by
  have htrimmed : Trimmed (word ++ rest) := h ▸ Text.trimmed_trim line
  rw [h]
  exact Script.untitled_append hv hw hf htrimmed

/-- A line that begins with a word apart from all keywords of headers is plain. -/
theorem plain_of_opener (hv : v.Unambiguous) {word rest : Text} (hw : word ∈ v.openers)
    (ha : ∀ keyword ∈ [v.feature, v.scenario, v.outline, v.loop], Apart keyword word)
    (h : trim line = word ++ rest) : Line.Plain v (trim line) := by
  have htrimmed : Trimmed (word ++ rest) := h ▸ Text.trimmed_trim line
  rw [h]
  exact Script.plain_append hv hw ha htrimmed

/-- The header of a block begins with a word that tells it from the feature header. -/
theorem HeadsBlock.exists_opener (hv : v.Unambiguous) {kind : HeaderKind} {sentence : Text}
    (h : HeadsBlock v line sentence kind) :
    ∃ word ∈ v.openers, Apart v.feature word ∧ ∃ rest, trim line = word ++ rest := by
  cases kind with
  | plain =>
      obtain ⟨gap, rest, htrim, -, -⟩ := h
      obtain ⟨hw, hf⟩ := hv.of_blockKeyword (show v.scenario ∈ _ by simp)
      exact ⟨v.scenario, hw, hf, gap ++ ':' :: rest, by rw [htrim, List.append_assoc]⟩
  | outline =>
      obtain ⟨gap, rest, htrim, -, -⟩ := h
      obtain ⟨hw, hf⟩ := hv.of_blockKeyword (show v.outline ∈ _ by simp)
      exact ⟨v.outline, hw, hf, gap ++ ':' :: rest, by rw [htrim, List.append_assoc]⟩
  | loop n =>
      obtain ⟨gap, digits, after, rest, htrim, -⟩ := h
      obtain ⟨hw, hf⟩ := hv.of_blockKeyword (show v.loop ∈ _ by simp)
      exact ⟨v.loop, hw, hf, gap ++ digits ++ after ++ ':' :: rest, by simp [htrim]⟩

/-- What is the header of a block is read as one. -/
theorem exists_header?_of_headsBlock {kind : HeaderKind} {sentence : Text}
    (h : HeadsBlock v line sentence kind) : ∃ found, Line.header? v (trim line) = some found := by
  rw [← Option.ne_none_iff_exists']
  intro hnone
  simp only [Line.header?, Option.or_eq_none_iff, Option.map_eq_none_iff] at hnone
  obtain ⟨houtline, hloop, hscenario⟩ := hnone
  cases kind with
  | plain => exact Option.some_ne_none _ ((heads_iff.mp h).symm.trans hscenario)
  | outline => exact Option.some_ne_none _ ((heads_iff.mp h).symm.trans houtline)
  | loop n => exact Option.some_ne_none _ ((headsLoop_iff.mp h).symm.trans hloop)

/-! ### What lines are read as -/

theorem speaks_iff (v : Vocabulary) : Speaks (trim line) ↔ (Line.read v line).isSilent = false := by
  simp [Line.isSilent_read]

theorem isComment_iff (v : Vocabulary) : IsComment line ↔ Line.read v line = .comment := by
  rw [Line.read_eq_iff]
  refine ⟨.comment, fun h => ?_⟩
  cases h with
  | comment h => exact h

theorem isTag_iff (v : Vocabulary) : IsTag line ↔ ∃ label, Line.read v line = .tag label := by
  simp only [Line.read_eq_iff]
  constructor
  · rintro ⟨label, h⟩
    have hhead := Tag.head?_of_ofLine? h
    have hspeaks : Speaks (trim line) := ⟨fun hnil => by simp [hnil] at hhead, by simp [hhead]⟩
    exact ⟨label, .tag hspeaks (Tag.ofLine?_trim line ▸ h)⟩
  · rintro ⟨label, h⟩
    cases h with
    | tag _ h => exact ⟨label, Tag.ofLine?_trim line ▸ h⟩

theorem isFeature_iff (hv : v.Unambiguous) :
    IsFeature v line ↔ ∃ sentence, Line.read v line = .feature sentence := by
  simp only [Line.read_eq_iff, IsFeature, heads_iff]
  constructor
  · rintro ⟨sentence, h⟩
    have hw : v.feature ∈ v.openers := by simp [Vocabulary.openers, Vocabulary.keywords]
    obtain ⟨gap, rest, htrim, -, -⟩ := Vocabulary.header?_eq_some_iff.mp h
    obtain ⟨hspeaks, hnoTag⟩ := speaks_of_opener hv hw (htrim.trans (List.append_assoc ..))
    exact ⟨sentence, .feature hspeaks hnoTag h⟩
  · rintro ⟨sentence, h⟩
    cases h with
    | feature _ _ h => exact ⟨sentence, h⟩

/-- A feature header says something and is no tag. -/
theorem IsFeature.speaks (hv : v.Unambiguous) (h : IsFeature v line) :
    Speaks (trim line) ∧ ¬ IsTag line := by
  obtain ⟨sentence, hread⟩ := (isFeature_iff hv).mp h
  rw [speaks_iff v, isTag_iff v, hread]
  exact ⟨rfl, by simp⟩

theorem isHeader_iff (hv : v.Unambiguous) :
    IsHeader v line ↔ ∃ kind sentence, Line.read v line = .scenario kind sentence := by
  simp only [Line.read_eq_iff]
  constructor
  · rintro ⟨kind, sentence, h⟩
    obtain ⟨word, hw, hf, rest, htrim⟩ := h.exists_opener hv
    obtain ⟨⟨kind', sentence'⟩, hfound⟩ := exists_header?_of_headsBlock h
    exact ⟨kind', sentence', .scenario (untitled_of_opener hv hw hf htrim) hfound⟩
  · rintro ⟨kind, sentence, h⟩
    cases h with
    | scenario _ h => exact ⟨kind, sentence, headsBlock_of_header? h⟩

theorem isOutline_iff (hv : v.Unambiguous) :
    IsOutline v line ↔ ∃ sentence, Line.read v line = .scenario .outline sentence := by
  simp only [Line.read_eq_iff]
  constructor
  · rintro ⟨sentence, h⟩
    have hblock : HeadsBlock v line sentence .outline := h
    obtain ⟨word, hw, hf, rest, htrim⟩ := hblock.exists_opener hv
    refine ⟨sentence, .scenario (untitled_of_opener hv hw hf htrim) ?_⟩
    rw [Line.header?, heads_iff.mp h]
    rfl
  · rintro ⟨sentence, h⟩
    cases h with
    | scenario _ h => exact ⟨sentence, headsBlock_of_header? h⟩

theorem isExamples_iff (hv : v.Unambiguous) :
    IsExamples v line ↔ Line.read v line = .examples := by
  simp only [Line.read_eq_iff, IsExamples, heads_iff]
  constructor
  · rintro ⟨sentence, h⟩
    obtain ⟨hw, hapart⟩ := hv.of_examples
    obtain ⟨gap, rest, htrim, -, -⟩ := Vocabulary.header?_eq_some_iff.mp h
    exact .examples (plain_of_opener hv hw hapart (htrim.trans (List.append_assoc ..))) h
  · intro h
    cases h with
    | examples _ h => exact ⟨_, h⟩

/-- A row is read as its cells. -/
theorem isRow_of_read {cells : Row} (h : Line.read v line = .row cells) :
    IsRow line ∧ cells = Row.ofLine line := by
  rw [Line.read_eq_iff] at h
  cases h with
  | row _ _ h => exact ⟨h, Row.ofLine_trim line⟩

theorem isRow_iff (hv : v.Unambiguous) :
    IsRow line ↔ Line.read v line = .row (Row.ofLine line) := by
  rw [Line.read_eq_iff, ← Row.ofLine_trim line]
  constructor
  · intro h
    have hapart : ∀ keyword ∈ v.keywords, ¬ keyword <+: trim line := by
      rintro keyword hk ⟨rest, hrest⟩
      refine Script.head?_append_ne hv (List.mem_append_left _ hk) rest Row.bar (by decide) ?_
      rw [hrest]
      exact h
    have hplain : Line.Plain v (trim line) := by
      refine Line.plain_of_not_prefix (Text.trimmed_trim line) ⟨?_, ?_⟩ ?_ fun keyword hk => ?_
      · intro hnil
        rw [IsRow, hnil] at h
        cases h
      · rw [h]
        decide
      · rw [h]
        decide
      · exact hapart keyword (by
          simp only [List.mem_cons, List.not_mem_nil, or_false] at hk
          rcases hk with rfl | rfl | rfl | rfl <;> simp [Vocabulary.keywords])
    have hexamples : Vocabulary.header? (trim line) v.examples = none :=
      Vocabulary.header?_eq_none_of_not_prefix (hapart _ (by simp [Vocabulary.keywords]))
    exact .row hplain hexamples h
  · rw [← Line.read_eq_iff]
    exact fun h => (isRow_of_read h).1

/-- A step is read as the whole line. -/
theorem isStep_of_read {kind : StepKind} {sentence : Text}
    (h : Line.read v line = .step kind sentence) : IsStep v line ∧ sentence = trim line := by
  rw [Line.read_eq_iff] at h
  cases h with
  | step _ _ _ h => exact ⟨⟨kind, h⟩, rfl⟩

theorem isStep_iff (hv : v.Unambiguous) :
    IsStep v line ↔ ∃ kind, Line.read v line = .step kind (trim line) := by
  simp only [Line.read_eq_iff]
  constructor
  · rintro ⟨kind, h⟩
    obtain ⟨word, hword, hstands⟩ := Vocabulary.exists_spelling_of_stepKind? h
    obtain ⟨rest, htrim, -⟩ := Vocabulary.hasWord_iff.mp hstands
    obtain ⟨hw, hapart⟩ := hv.of_spelling hword
    refine ⟨kind, .step (plain_of_opener hv hw (fun keyword hk => hapart keyword ?_) htrim) ?_ ?_ h⟩
    · simp only [List.mem_cons, List.not_mem_nil, or_false] at hk
      rcases hk with rfl | rfl | rfl | rfl <;> simp [Vocabulary.keywords]
    · rw [htrim]
      exact Vocabulary.header?_eq_none_of_not_prefix
        ((hapart v.examples (by simp [Vocabulary.keywords])).not_prefix_append rest)
    · rw [htrim]
      exact Script.head?_append_ne hv hw rest Row.bar (by decide)
  · rintro ⟨kind, h⟩
    exact (isStep_of_read (Line.read_eq_iff.mpr h)).1

/-- A line that is neither silent nor a tag nor the feature header says something else. -/
theorem speaks_of_isBelow (hv : v.Unambiguous) (h : (Line.read v line).isBelow) :
    Speaks (trim line) ∧ ¬ IsTag line ∧ ¬ IsFeature v line := by
  rw [speaks_iff v, isTag_iff v, isFeature_iff hv]
  cases hread : Line.read v line with
  | blank | comment | tag label | feature sentence =>
      rw [hread] at h
      cases h
  | _ => exact ⟨rfl, by simp, by simp⟩

/-- A scenario keyword that opens no header. -/
theorem namesScenario_of_read (hv : v.Unambiguous) (h : Line.read v line = .badHeader) :
    NamesScenario v line ∧ ¬ IsFeature v line ∧ ¬ IsHeader v line ∧ ¬ IsExamples v line := by
  refine ⟨?_, by simp [isFeature_iff hv, h], by simp [isHeader_iff hv, h],
    by simp [isExamples_iff hv, h]⟩
  rw [Line.read_eq_iff] at h
  cases h with
  | badHeader _ _ h =>
      obtain ⟨keyword, hmem, hk⟩ := List.any_eq_true.mp h
      exact ⟨keyword, hmem, Vocabulary.hasKeyword_iff.mp hk⟩

/-- Free text is plain and nothing that stands below a header. -/
theorem plain_of_read (hv : v.Unambiguous) {text : Text} (h : Line.read v line = .prose text) :
    Line.Plain v (trim line) ∧ ¬ IsExamples v line ∧ ¬ IsRow line ∧ ¬ IsStep v line ∧
      text = trim line := by
  have hkinds : ¬ IsExamples v line ∧ ¬ IsRow line ∧ ¬ IsStep v line := by
    rw [isExamples_iff hv, isRow_iff hv, isStep_iff hv]
    simp [h]
  rw [Line.read_eq_iff] at h
  cases h with
  | prose plain _ _ _ => exact ⟨plain, hkinds.1, hkinds.2.1, hkinds.2.2, rfl⟩

end Playbook.Document
