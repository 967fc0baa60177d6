import Playbook.Proofs.Document.Coherence
import Playbook.Proofs.Document.Refusing

/-!
# Playbook.Proofs.Document.Missing

Files without a feature header. All other faults are found on a line that is taken or in the
block that is closed; that the header is missing can only be said when the file has ended,
and `Draft.finish_eq_missing_iff` says when it is.
-/

namespace Playbook.Document.Draft

variable {path word : Text} {d d' : Draft} {line : Line}

/-- That there is no feature cannot be said before the end. -/
theorem Refuses.defect_ne {e : Fault} (h : Refuses word d line e) :
    e.defect ≠ .missingFeature := by
  cases h <;> simp [fault]

theorem takeAll_defect_ne {lines : List Line} {e : Fault}
    (h : d.takeAll path word lines = .error e) : e.defect ≠ .missingFeature := by
  obtain ⟨before, line, after, d', -, -, hrefuses⟩ := takeAll_eq_error_iff.mp h
  exact hrefuses.defect_ne

/-- The feature is missing if all lines can be taken and none is its header. -/
theorem finish_eq_missing_iff {id n : Nat} {lines : List Line} :
    d.finish path word id lines = .error ⟨n, .missingFeature⟩ ↔
      ∃ d', d.takeAll path word lines = .ok d' ∧ d'.heading = none ∧ n = max d'.line 1 := by
  unfold finish
  cases hall : d.takeAll path word lines with
  | error e =>
      have hne := takeAll_defect_ne hall
      constructor
      · intro h
        cases h
        exact absurd rfl hne
      · rintro ⟨d', h, -⟩
        cases h
  | ok d' =>
      simp only [Except.bind, Except.ok.injEq, exists_eq_left', toFeature_eq_error_iff]
      constructor
      · rintro (⟨hh, he⟩ | ⟨-, first, rest, -, he⟩ | ⟨-, b, -, -, he⟩) <;> cases he
        exact ⟨hh, rfl⟩
      · rintro ⟨hh, rfl⟩
        exact .inl ⟨hh, rfl⟩

/-- Below a feature header no feature is missing. -/
theorem finish_ne_missing {id : Nat} {lines : List Line} (h : d.heading ≠ none) (n : Nat) :
    d.finish path word id lines ≠ .error ⟨n, .missingFeature⟩ := by
  intro hmissing
  obtain ⟨d', hall, hnone, -⟩ := finish_eq_missing_iff.mp hmissing
  exact heading_ne_none_of_takeAll h hall hnone

end Playbook.Document.Draft
