import Playbook.Proofs.Document.Taking

/-!
# Playbook.Proofs.Document.Coherence

Which states a draft can be in. Blocks exist only below a feature header, free text is
taken for the description only as long as nothing came after it, and rows of examples
follow the row that names the columns. All of it comes from the order in which lines are
taken and is kept by every line.
-/

namespace Playbook.Document.Draft

variable {path word : Text} {d d' : Draft} {line : Line}

/-- The parts of a draft fit together. -/
structure Coherent (d : Draft) : Prop where
  /-- Blocks stand below a feature header. -/
  headed : d.heading = none → d.blocks = [] ∧ d.current = none
  /-- While the description goes on nothing else has begun. -/
  describing : ∀ h, d.heading = some h → h.isOpen →
    d.blocks = [] ∧ d.current = none ∧ d.waiting = []
  /-- As long as the columns have no names there are no rows of examples. -/
  unnamed : ∀ b rows, d.current = some b → b.kind = .outline (some ⟨none, rows⟩) → rows = []

theorem coherent_start : Coherent start where
  headed _ := ⟨rfl, rfl⟩
  describing _ h := nomatch h
  unnamed _ _ h := nomatch h

theorem Coherent.heading_ne_none (h : d.Coherent) {b : OpenBlock} (hb : d.current = some b) :
    d.heading ≠ none := fun hnone => by
  rw [(h.headed hnone).2] at hb
  cases hb

/-- Below a block the description has ended. -/
theorem Coherent.withCurrent (h : d.Coherent) {b b' : OpenBlock} (hb : d.current = some b)
    (hkind : ∀ rows, b'.kind = .outline (some ⟨none, rows⟩) → rows = []) :
    (d.counted.withCurrent b').Coherent where
  headed hnone := absurd hnone (h.heading_ne_none hb)
  describing heading hh ho := by
    rw [(h.describing heading hh ho).2.1] at hb
    cases hb
  unnamed _ rows hb' hk := hkind rows (Option.some.inj hb' ▸ hk)

/-- Adding to the description keeps it open and everything else away. -/
theorem Coherent.describe (h : d.Coherent) {heading : Heading} {text : Text}
    (hh : d.heading = some heading) (ho : heading.isOpen) :
    (d.counted.describe heading text).Coherent where
  headed hnone := nomatch hnone
  describing _ _ _ := h.describing heading hh ho
  unnamed := h.unnamed

theorem Coherent.unnamed_endTable (h : d.Coherent) {b : OpenBlock} {rows : List Example}
    (hb : d.endTable.current = some b) (hk : b.kind = .outline (some ⟨none, rows⟩)) :
    rows = [] := by
  obtain ⟨b', hb', rfl⟩ := Option.map_eq_some_iff.mp hb
  exact h.unnamed b' rows hb' hk

theorem Coherent.counted (h : d.Coherent) : d.counted.Coherent :=
  ⟨h.headed, h.describing, h.unnamed⟩

theorem Coherent.endTable (h : d.Coherent) : d.endTable.Coherent where
  headed hnone := by
    obtain ⟨hb, hc⟩ := h.headed hnone
    exact ⟨hb, by simp [Draft.endTable, hc]⟩
  describing heading hh ho := by
    obtain ⟨hb, hc, hw⟩ := h.describing heading hh ho
    exact ⟨hb, by simp [Draft.endTable, hc], hw⟩
  unnamed _ _ := h.unnamed_endTable

theorem openKind_ne_outline_some (kind : HeaderKind) (examples : Examples) :
    openKind kind ≠ .outline (some examples) := by
  cases kind <;> simp [openKind]

theorem endDescription_heading_eq_none_iff :
    d.endDescription.heading = none ↔ d.heading = none := by
  simp [endDescription]

theorem endDescription_heading_ne_none (h : d.heading ≠ none) :
    d.endDescription.heading ≠ none :=
  mt endDescription_heading_eq_none_iff.mp h

@[simp] theorem endDescription_endDescription (d : Draft) :
    d.endDescription.endDescription = d.endDescription := by
  simp [endDescription, Function.comp_def]

theorem isOpen_endDescription {heading : Heading} (h : d.endDescription.heading = some heading) :
    heading.isOpen = false := by
  obtain ⟨heading', -, rfl⟩ := Option.map_eq_some_iff.mp h
  rfl

/-- Every line keeps the parts together. -/
theorem Coherent.takes (h : d.Coherent) (ht : Takes path word d line d') : d'.Coherent := by
  cases ht with
  | blank => exact h.counted.endTable
  | comment => exact h.counted
  | tag tag =>
      refine ⟨fun hnone => ?_, fun heading hh ho => ?_, fun b rows => h.unnamed_endTable⟩
      · obtain ⟨hb, hc⟩ := h.headed (endDescription_heading_eq_none_iff.mp hnone)
        exact ⟨hb, by simp [takeTag, Draft.endTable, hc]⟩
      · rw [isOpen_endDescription hh] at ho
        cases ho
  | feature sentence hnone =>
      -- There was no header before, so there are no blocks and no rows either.
      obtain ⟨hb, hc⟩ := h.headed hnone
      exact ⟨fun h => (by cases h), fun _ _ _ => ⟨hb, hc, rfl⟩, h.unnamed⟩
  | header kind sentence hne hclose =>
      -- The header ends the description, and a fresh outline has not begun its examples.
      obtain ⟨-, hheading, -, -⟩ := closeBlock_keeps hclose
      refine ⟨fun hnone => ?_, fun heading hh ho => ?_, fun b rows hb hk => ?_⟩
      · exact absurd (hheading ▸ endDescription_heading_eq_none_iff.mp hnone) hne
      · rw [isOpen_endDescription hh] at ho
        cases ho
      · cases hb
        exact absurd hk (openKind_ne_outline_some kind _)
  | examples _ hb _ => exact h.withCurrent hb fun rows hk => by cases hk; rfl
  | tableRow cells _ hb _ =>
      refine h.withCurrent hb fun rows hk => h.unnamed _ rows hb ?_
      rwa [OpenBlock.pushRow_kind] at hk
  | columns cells _ hb _ => exact h.withCurrent hb fun rows hk => by cases hk
  | exampleRow cells _ hb _ _ => exact h.withCurrent hb fun rows hk => by cases hk
  | step kind sentence _ hb _ => exact h.withCurrent hb fun rows hk => h.unnamed _ rows hb hk
  | describedStep kind sentence _ hh ho _ => exact h.describe hh ho
  | prose text _ hh ho => exact h.describe hh ho

/-- Every line counts. -/
theorem Takes.line_eq (h : Takes path word d line d') : d'.line = d.line + 1 := by
  cases h with
  | header kind sentence _ hclose => exact (closeBlock_keeps hclose).1
  | _ => rfl

/-- All lines count. -/
theorem line_eq_of_takeAll {lines : List Line} (h : d.takeAll path word lines = .ok d') :
    d'.line = d.line + lines.length := by
  induction lines generalizing d with
  | nil => cases h; rfl
  | cons line rest ih =>
      obtain ⟨next, ht, hrest⟩ := takeAll_cons_eq_ok_iff.mp h
      rw [ih hrest, ht.line_eq, List.length_cons]
      omega

/-- A feature header stays. -/
theorem Takes.heading_ne_none (h : Takes path word d line d') (hh : d.heading ≠ none) :
    d'.heading ≠ none := by
  cases h with
  | tag tag => exact endDescription_heading_ne_none (d := d.counted.endTable) hh
  | feature sentence hnone => exact absurd hnone hh
  | header kind sentence _ hclose =>
      have hkept := (closeBlock_keeps hclose).2.1
      exact endDescription_heading_ne_none (hkept ▸ hh)
  | describedStep kind sentence _ _ _ _ => exact Option.some_ne_none _
  | prose text _ _ _ => exact Option.some_ne_none _
  | _ => exact hh

theorem heading_ne_none_of_takeAll {lines : List Line} (hh : d.heading ≠ none)
    (h : d.takeAll path word lines = .ok d') : d'.heading ≠ none :=
  takeAll_induction (motive := fun d => d.heading ≠ none)
    (fun _ _ _ hd ht => ht.heading_ne_none hd) hh h

end Playbook.Document.Draft
