import Playbook.Proofs.Document.History
import Playbook.Proofs.Document.Insertion

/-!
# Playbook.Proofs.Document.StrayText

What an error about stray text shows of the line it is blamed on. Free text is shown as it
stands there. The same defect is found at the second examples marker of an outline, and then
the keyword is all that is shown of the line, whatever stands behind it.

That the marker is the second one is a fact about the lines above: a draft stands among examples
only if a marker with no header below it is among the lines it has taken.
-/

namespace Playbook

open Text (trim)

namespace Document

variable {v : Vocabulary} {path word : Text} {d d' : Draft} {past : List Text} {line : Text}
  {defect : Defect} {e : Fault}

namespace Draft

/-! ### Among examples -/

/-- A header leaves the examples, and only a marker enters them. -/
theorem InExamples.of_takes {line : Line} (ht : Takes path word d line d') (h : d'.InExamples) :
    line = .examples ∨
      ((∀ kind sentence, line ≠ .scenario kind sentence) ∧ d.InExamples) := by
  obtain ⟨b', hb', hhas⟩ := h
  cases ht with
  | blank =>
      obtain ⟨b, hb, rfl⟩ := Option.map_eq_some_iff.mp hb'
      exact .inr ⟨by simp, b, hb, hhas⟩
  | comment => exact .inr ⟨by simp, b', hb', hhas⟩
  | tag label =>
      obtain ⟨b, hb, rfl⟩ := Option.map_eq_some_iff.mp hb'
      exact .inr ⟨by simp, b, hb, hhas⟩
  | feature sentence _ => exact .inr ⟨by simp, b', hb', hhas⟩
  | header kind sentence _ _ =>
      cases hb'
      cases kind <;> cases hhas
  | examples _ _ _ => exact .inl rfl
  | tableRow cells _ hb _ =>
      cases hb'
      rw [OpenBlock.hasExamples_congr (OpenBlock.pushRow_kind _ cells)] at hhas
      exact .inr ⟨by simp, _, hb, hhas⟩
  | columns cells _ hb hk | exampleRow cells _ hb hk _ =>
      exact .inr ⟨by simp, _, hb, OpenBlock.hasExamples_eq_true_iff.mpr ⟨_, hk⟩⟩
  | step kind sentence _ hb hbefore =>
      cases hb'
      exact .inr ⟨by simp, _, hb, hhas⟩
  | describedStep kind sentence _ _ _ _ => exact .inr ⟨by simp, b', hb', hhas⟩
  | prose text _ _ _ => exact .inr ⟨by simp, b', hb', hhas⟩

theorem endsInExamples_of_takes (ht : Takes path word d (Line.read v line) d')
    (h : d.InExamples → EndsInExamples v past) (hin : d'.InExamples) :
    EndsInExamples v (past ++ [line]) :=
  since_concat.mpr ((InExamples.of_takes ht hin).imp_right (And.imp_right h))

/-- A draft stands among examples only below a marker with no header in between. -/
theorem endsInExamples_of_takeAll {lines : List Text} (h : d.InExamples → EndsInExamples v past)
    (hall : d.takeAll path word (lines.map (Line.read v)) = .ok d') (hin : d'.InExamples) :
    EndsInExamples v (past ++ lines) := by
  induction lines generalizing d past with
  | nil =>
      cases hall
      rw [List.append_nil]
      exact h hin
  | cons line rest ih =>
      obtain ⟨next, ht, hrest⟩ := takeAll_cons_eq_ok_iff.mp hall
      rw [List.append_cons]
      exact ih (endsInExamples_of_takes ht h) hrest

/-- The draft stands among examples exactly where the lines above do. -/
theorem inExamples_iff_endsInExamples
    (hall : start.takeAll path word (past.map (Line.read v)) = .ok d) :
    d.InExamples ↔ EndsInExamples v past := by
  have hstart : start.InExamples → EndsInExamples v [] := fun ⟨_, hb, _⟩ => nomatch hb
  exact ⟨endsInExamples_of_takeAll hstart hall, fun h => inExamples_of_endsInExamples h hall⟩

/-! ### Stray text -/

/-- Text is stray as free text, or as the second examples marker of an outline. -/
theorem Refuses.strayText_cases {line : Line} {n : Nat} {shown : Text}
    (h : Refuses word d line ⟨n, .strayText shown⟩) :
    n = d.line + 1 ∧ (line = .prose shown ∨ (line = .examples ∧ d.InExamples ∧ shown = word)) := by
  generalize he : (⟨n, .strayText shown⟩ : Fault) = e at h
  cases h with
  | secondExamples _ hb hk =>
      cases he
      exact ⟨rfl, .inr ⟨rfl, ⟨_, hb, OpenBlock.hasExamples_eq_true_iff.mpr ⟨_, hk⟩⟩, rfl⟩⟩
  | strayText text _ _ _ =>
      cases he
      exact ⟨rfl, .inl rfl⟩
  | _ => cases he

end Draft

end Document

open Document

namespace Reader

variable {κ : Type} {r : Reader κ} {text path shown : Text} {n : Nat}

/-- **Stray text.** The text in an error about stray text is that of the line which the error is
blamed on, trimmed, if the line is free text. Otherwise the line is an examples marker and not
the first one of its outline, and the text is the keyword that it begins with. -/
theorem strayText_of_read (h : r.read text = .error (.malformed path ⟨n, .strayText shown⟩)) :
    path = r.path ∧ ∃ before line after,
      Text.lines (Text.withoutMark text) = before ++ line :: after ∧ n = before.length + 1 ∧
      ((Line.read r.vocabulary line = .prose shown ∧ shown = trim line) ∨
        (IsExamples r.vocabulary line ∧ EndsInExamples r.vocabulary before ∧
          shown = r.vocabulary.examples ∧ shown ≠ trim line)) := by
  obtain ⟨fault, he, hcases⟩ := read_eq_error_iff.mp h
  cases he
  refine ⟨rfl, ?_⟩
  rcases hcases with ⟨above, read, below, d, hsplit, hall, hrefuses⟩ | ⟨d, -, hend⟩
  · obtain ⟨before, rest, hlines, rfl, hrest⟩ := List.map_eq_append_iff.mp hsplit
    obtain ⟨line, after, rfl, rfl, rfl⟩ := List.map_eq_cons_iff.mp hrest
    obtain ⟨rfl, hread⟩ := hrefuses.strayText_cases
    have hcount : d.line = before.length := by
      rw [Draft.line_eq_of_takeAll hall, List.length_map]
      exact Nat.zero_add _
    refine ⟨before, line, after, hlines, congrArg (· + 1) hcount, ?_⟩
    rcases hread with hread | ⟨hread, hin, rfl⟩
    · have hsays := Line.read_eq_iff.mp hread
      cases hsays with
      | prose _ _ _ _ => exact .inl ⟨hread, rfl⟩
    · have hsays := Line.read_eq_iff.mp hread
      cases hsays with
      | examples _ hheader =>
          have hmarker : IsExamples r.vocabulary line := ⟨_, heads_iff.mpr hheader⟩
          refine .inr ⟨hmarker, (Draft.inExamples_iff_endsInExamples hall).mp hin, rfl, ?_⟩
          -- The colon belongs to the line, but not to the keyword.
          obtain ⟨_, gap, rest, htrim, -, -⟩ := hmarker
          intro hshown
          simpa using congrArg List.length (hshown.trans htrim)
  · rcases Draft.toFeature_eq_error_iff.mp hend with ⟨-, hf⟩ | ⟨-, _, _, -, hf⟩ | ⟨-, _, -, -, hf⟩
    all_goals cases hf

/-- Free text below a header, in a file with a byte order mark. -/
theorem strayText_of_read_prose :
    let r : Reader Unit := ⟨(), ['p'], 1, Vocabulary.french⟩
    let text := "\uFEFFFonctionnalité: f\nScénario: s\n \tsans mot \r\n".toList
    r.read text = .error (.malformed ['p'] ⟨3, .strayText "sans mot".toList⟩) ∧
      ∃ before line after, Text.lines (Text.withoutMark text) = before ++ line :: after ∧
        before.length = 2 ∧ trim line = "sans mot".toList := by
  intro r text
  have hread : r.read text = .error (.malformed ['p'] ⟨3, .strayText "sans mot".toList⟩) := by
    decide +kernel
  obtain ⟨-, before, line, after, hlines, hn, hshown⟩ := strayText_of_read hread
  rcases hshown with ⟨-, htrim⟩ | ⟨-, -, hkeyword, -⟩
  · exact ⟨hread, before, line, after, hlines, (Nat.succ.inj hn).symm, htrim.symm⟩
  · exact absurd hkeyword (by decide)

/-- The second marker of an outline, of which the error shows neither the colon nor the rest. -/
theorem strayText_of_marker :
    let r : Reader Unit := ⟨(), ['p'], 1, Vocabulary.english⟩
    let text :=
      "Feature: f\nScenario Outline: o\nGiven <a>\nExamples:\n|a|\n|1|\n Examples: more".toList
    r.read text = .error (.malformed ['p'] ⟨7, .strayText "Examples".toList⟩) ∧
      ((Text.lines text)[6]?.map trim) = some "Examples: more".toList := by
  exact ⟨by decide +kernel, by decide +kernel⟩

end Reader

end Playbook
