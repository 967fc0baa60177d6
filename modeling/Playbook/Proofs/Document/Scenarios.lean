import Playbook.Proofs.Document.Taking

/-!
# Playbook.Proofs.Document.Scenarios

The scenarios a draft holds, the header of its open block included, and how each line
changes them: a header adds one, closing a block adds what is generated from it, steps and
table rows change the last one. `Scenario.Kept` packages the induction for a property of
single scenarios, and `Feature.forall_scenarios_of_read` is its result.
-/

namespace Playbook

namespace Document

/-! ### Open blocks -/

namespace OpenBlock

variable {b : OpenBlock} {block : Block} {firstId : Nat}

theorem close?_header (h : b.close? firstId = some block) : block.header = b.scenario := by
  rcases close?_eq_some_iff.mp h with ⟨-, rfl⟩ | ⟨n, -, rfl⟩ | ⟨columns, rows, -, rfl⟩ <;> rfl

/-- A table row goes to the last step. -/
theorem pushRow_of_steps {before : List Step} {step : Step} (cells : Row)
    (h : b.scenario.steps = before ++ [step]) :
    b.pushRow cells = { b with scenario := { b.scenario with
      steps := before ++ [{ step with table := step.table ++ [cells] }] } } := by
  simp [pushRow, h]

/-- While a table may go on there is a last step. -/
theorem exists_last_step (h : b.target = .step) :
    ∃ before step, b.scenario.steps = before ++ [step] := by
  obtain ⟨-, -, hne⟩ := target_eq_step_iff.mp h
  exact ⟨_, _, (List.dropLast_concat_getLast hne).symm⟩

end OpenBlock

/-! ### The scenarios of a draft -/

namespace Draft

variable {path word : Text} {d d' : Draft} {line : Line}

/-- The scenarios that exist so far, the header of the open block included. -/
def scenarios (d : Draft) : List Scenario :=
  d.blocks.flatMap Block.scenarios ++ (d.current.map (·.scenario)).toList

theorem scenarios_congr (hblocks : d'.blocks = d.blocks)
    (hcurrent : d'.current.map (·.scenario) = d.current.map (·.scenario)) :
    d'.scenarios = d.scenarios := by
  rw [scenarios, scenarios, hblocks, hcurrent]

theorem scenarios_endTable (d : Draft) : d.endTable.scenarios = d.scenarios :=
  scenarios_congr rfl (endTable_scenario d)

theorem scenarios_takeTag (d : Draft) (tag : Tag) : (d.takeTag tag).scenarios = d.scenarios :=
  scenarios_congr rfl (endTable_scenario d)

theorem scenarios_eq_of_current {b : OpenBlock} (h : d.current = some b) :
    d.scenarios = d.blocks.flatMap Block.scenarios ++ [b.scenario] := by
  simp [scenarios, h]

theorem scenarios_withCurrent (d : Draft) (b : OpenBlock) :
    (d.counted.withCurrent b).scenarios = d.blocks.flatMap Block.scenarios ++ [b.scenario] :=
  rfl

theorem scenarios_withClosed {b : OpenBlock} {block : Block} (hb : d.current = some b)
    (hc : b.close? d.nextId = some block) :
    (d.withClosed block).scenarios = d.scenarios ++ block.generated := by
  rw [scenarios_eq_of_current hb, ← OpenBlock.close?_header hc]
  simp [scenarios, Block.scenarios]

theorem scenarios_openBlock (path : Text) (kind : HeaderKind) (sentence : Text)
    (h : d.current = none) : (d.openBlock path kind sentence).scenarios =
      d.scenarios ++ [⟨d.nextId, sentence, path, d.line, d.waitingTags, []⟩] := by
  simp [scenarios, h]

/-- The scenarios of a feature that was read are those of its last draft, whose open block
was closed. -/
theorem scenarios_of_read {κ : Type} {r : Reader κ} {text : Text} {f : Feature}
    (h : r.read text = .ok f) :
    ∃ d closed : Draft, start.takeAll r.path r.vocabulary.examples (r.lines text) = .ok d ∧
      d.closeBlock = .ok closed ∧ f.blocks = closed.blocks ∧ f.scenarios = closed.scenarios := by
  obtain ⟨d, hall, hf⟩ := read_eq_ok_iff.mp h
  obtain ⟨heading, closed, -, -, hclose, rfl⟩ := toFeature_eq_ok_iff.mp hf
  obtain ⟨-, -, -, hcurrent⟩ := closeBlock_keeps hclose
  refine ⟨d, closed, hall, hclose, rfl, ?_⟩
  simp [Feature.scenarios, scenarios, hcurrent]

end Draft

end Document

/-! ### Properties of single scenarios -/

/-- A property of scenarios that holds of a fresh one and is kept by everything a reading
does with a scenario. -/
structure Scenario.Kept (path : Text) (motive : Scenario → Prop) : Prop where
  fresh : ∀ id sentence line tags, motive ⟨id, sentence, path, line, tags, []⟩
  step : ∀ s kind sentence line, motive s →
    motive { s with steps := s.steps ++ [⟨s.steps.length + 1, kind, sentence, path, line, []⟩] }
  row : ∀ s before step cells, s.steps = before ++ [step] → motive s →
    motive { s with steps := before ++ [{ step with table := step.table ++ [cells] }] }
  outlined : ∀ s columns rows firstId, motive s →
    ∀ g ∈ Expansion.ofOutline s columns rows firstId, motive g
  looped : ∀ s n firstId, motive s → ∀ g ∈ Expansion.ofLoop s n firstId, motive g

namespace Document.Draft

variable {path word : Text} {d d' : Draft} {line : Line} {motive : Scenario → Prop}

theorem forall_withCurrent {b b' : OpenBlock} (h : ∀ s ∈ d.scenarios, motive s)
    (hb : d.current = some b) (hmotive : motive b.scenario → motive b'.scenario) :
    ∀ s ∈ (d.counted.withCurrent b').scenarios, motive s := by
  rw [scenarios_eq_of_current hb] at h
  rw [scenarios_withCurrent]
  intro s hs
  rcases List.mem_append.mp hs with hs | hs
  · exact h s (List.mem_append_left _ hs)
  · rw [List.mem_singleton.mp hs]
    exact hmotive (h _ (by simp))

theorem forall_closeBlock (hkept : Scenario.Kept path motive) (h : ∀ s ∈ d.scenarios, motive s)
    (hclose : d.closeBlock = .ok d') : ∀ s ∈ d'.scenarios, motive s := by
  rcases closeBlock_eq_ok_iff.mp hclose with ⟨-, rfl⟩ | ⟨b, block, hb, hc, rfl⟩
  · exact h
  have hscenario : motive b.scenario := by
    rw [scenarios_eq_of_current hb] at h
    exact h _ (by simp)
  rw [scenarios_withClosed hb hc]
  intro s hs
  rcases List.mem_append.mp hs with hs | hs
  · exact h s hs
  · rcases OpenBlock.close?_eq_some_iff.mp hc with
      ⟨-, rfl⟩ | ⟨n, -, rfl⟩ | ⟨columns, rows, -, rfl⟩
    · exact absurd hs List.not_mem_nil
    · exact hkept.looped _ _ _ hscenario s hs
    · exact hkept.outlined _ _ _ _ hscenario s hs

/-- Every line keeps the property for all scenarios. -/
theorem forall_takes (hkept : Scenario.Kept path motive) (h : ∀ s ∈ d.scenarios, motive s)
    (ht : Takes path word d line d') : ∀ s ∈ d'.scenarios, motive s := by
  cases ht with
  | blank => rwa [scenarios_endTable]
  | comment => exact h
  | tag tag => rwa [scenarios_takeTag]
  | feature sentence _ => exact h
  | header kind sentence _ hclose =>
      have hclosed := forall_closeBlock hkept (d := d.counted) h hclose
      obtain ⟨-, -, -, hcurrent⟩ := closeBlock_keeps hclose
      rw [scenarios_openBlock path kind sentence hcurrent]
      intro s hs
      rcases List.mem_append.mp hs with hs | hs
      · exact hclosed s hs
      · rw [List.mem_singleton.mp hs]
        exact hkept.fresh _ _ _ _
  | examples _ hb _ => exact forall_withCurrent h hb id
  | tableRow cells _ hb htarget =>
      -- Only here is something changed that was read before: the last step.
      obtain ⟨before, step, hsteps⟩ := OpenBlock.exists_last_step htarget
      refine forall_withCurrent h hb fun hs => ?_
      rw [OpenBlock.pushRow_of_steps cells hsteps]
      exact hkept.row _ _ _ cells hsteps hs
  | columns cells _ hb _ => exact forall_withCurrent h hb id
  | exampleRow cells _ hb _ _ => exact forall_withCurrent h hb id
  | step kind sentence _ hb _ => exact forall_withCurrent h hb (hkept.step _ kind sentence _)
  | describedStep kind sentence _ _ _ _ => exact h
  | prose text _ _ _ => exact h

end Document.Draft

/-- What a reading keeps for single scenarios holds of every scenario of the feature. -/
theorem Feature.forall_scenarios_of_read {κ : Type} {r : Reader κ} {text : Text} {f : Feature}
    {motive : Scenario → Prop} (hkept : Scenario.Kept r.path motive) (h : r.read text = .ok f) :
    ∀ s ∈ f.scenarios, motive s := by
  obtain ⟨d, closed, hall, hclose, -, hs⟩ := Document.Draft.scenarios_of_read h
  have hstart : ∀ s ∈ Document.Draft.start.scenarios, motive s := fun s hs => by cases hs
  have hd : ∀ s ∈ d.scenarios, motive s :=
    Document.Draft.takeAll_induction (motive := fun d => ∀ s ∈ d.scenarios, motive s)
      (fun _ _ _ => Document.Draft.forall_takes hkept) hstart hall
  rw [hs]
  exact Document.Draft.forall_closeBlock hkept hd hclose

end Playbook
