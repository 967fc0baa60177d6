import Playbook.Proofs.Document.Scenarios

/-!
# Playbook.Proofs.Document.Numbering

Identifiers are given out at two moments: to a header when it is read, and to the
scenarios generated from it only when the next header or the end of the file closes its
block. They are contiguous all the same, because a block is always closed before the
next header takes an identifier.

The invariant is `Draft.Numbered`: the scenarios that exist so far, the open header
included, carry `1, 2, …` in document order, and the next identifier is the one after
them.
-/

namespace Playbook

/-! ### Templates -/

/-- How many scenarios a block asks for beside its header: one for each row of examples
or each repetition. -/
def Block.copies : Block → Nat
  | .scenario _ => 0
  | .outline _ _ examples _ => examples.length
  | .loop _ n _ => n

/-- The identifier of the template, for an outline or a loop. -/
def Block.templateId? : Block → Option Nat
  | .scenario _ => none
  | .outline header _ _ _ => some header.id
  | .loop header _ _ => some header.id

/-- The identifiers of the templates of a feature, which do not run. -/
def Feature.templateIds (f : Feature) : List Nat := f.blocks.filterMap Block.templateId?

/-- The steps of the scenario are numbered from one. -/
def Scenario.StepsNumbered (s : Scenario) : Prop :=
  s.steps.map (·.id) = List.range' 1 s.steps.length

namespace Block

theorem templateId?_eq_header {b : Block} {id : Nat} (h : b.templateId? = some id) :
    b.header.id = id := by
  cases b <;> simp_all [templateId?, header]

/-- Where identifiers are told apart, what runs are the scenarios that are no template. -/
theorem runnable_eq_filter (blocks : List Block) (templates : List Nat)
    (hids : ((blocks.flatMap scenarios).map (·.id)).Nodup)
    (htemplates : ∀ s ∈ blocks.flatMap scenarios,
      s.id ∈ templates ↔ s.id ∈ blocks.filterMap templateId?) :
    blocks.flatMap runnable = (blocks.flatMap scenarios).filter (·.id ∉ templates) := by
  induction blocks with
  | nil => rfl
  | cons b rest ih =>
      rw [List.flatMap_cons, List.map_append, List.nodup_append] at hids
      obtain ⟨hb, hrest, hdisjoint⟩ := hids
      have hmem : ∀ s ∈ rest.flatMap scenarios, ∀ s' ∈ b.scenarios, s.id ≠ s'.id :=
        fun s hs s' hs' he => hdisjoint s'.id (List.mem_map_of_mem hs') s.id
          (List.mem_map_of_mem hs) he.symm
      have hlater : ∀ s ∈ b.scenarios, s.id ∉ rest.filterMap templateId? := by
        intro s hs hin
        obtain ⟨b', hb', hid⟩ := List.mem_filterMap.mp hin
        refine hmem b'.header (List.mem_flatMap.mpr ⟨b', hb', ?_⟩) s hs ?_
        · exact List.mem_cons_self
        · exact templateId?_eq_header hid
      have htail : ∀ s ∈ rest.flatMap scenarios,
          s.id ∈ templates ↔ s.id ∈ rest.filterMap templateId? := by
        intro s hs
        rw [htemplates s (by simp [List.flatMap_cons, hs]), List.filterMap_cons]
        cases ht : b.templateId? with
        | none => simp
        | some id =>
            have hne : s.id ≠ id := templateId?_eq_header ht ▸
              hmem s hs b.header List.mem_cons_self
            simp [hne]
      have hhead : ∀ s ∈ b.scenarios, s.id ∈ templates ↔ b.templateId? = some s.id := by
        intro s hs
        rw [htemplates s (by simp [List.flatMap_cons, hs]), List.filterMap_cons]
        cases ht : b.templateId? <;> simp [hlater s hs, eq_comm]
      rw [List.flatMap_cons, List.flatMap_cons, List.filter_append, ← ih hrest htail]
      congr 1
      -- The header stays out exactly if it is a template; what is generated stays in.
      have hgenerated : ∀ s ∈ b.generated, b.templateId? ≠ some s.id := by
        intro s hs ht
        have hne : b.header.id ∉ b.generated.map (·.id) := (List.nodup_cons.mp hb).1
        rw [templateId?_eq_header ht] at hne
        exact hne (List.mem_map_of_mem hs)
      have hkeep : b.generated.filter (·.id ∉ templates) = b.generated :=
        List.filter_eq_self.mpr fun s hs => by
          simpa [hhead s (List.mem_cons_of_mem _ hs)] using hgenerated s hs
      have hheader := hhead b.header List.mem_cons_self
      rw [scenarios, List.filter_cons, hkeep]
      cases b <;> simp_all [templateId?, header, runnable, generated]

end Block

/-! ### Expansion -/

namespace Expansion

theorem numbered_ids (steps : List Step) :
    (numbered steps).map (·.id) = List.range' 1 (numbered steps).length := by
  apply List.ext_getElem <;> simp [numbered, Nat.add_comm]

theorem ofOutline_ids (template : Scenario) (columns : Row) (examples : List Example)
    (firstId : Nat) :
    (ofOutline template columns examples firstId).map (·.id) =
      List.range' firstId examples.length := by
  apply List.ext_getElem <;> simp [ofOutline, ofRow]

theorem ofLoop_ids (template : Scenario) (n firstId : Nat) :
    (ofLoop template n firstId).map (·.id) = List.range' firstId n := by
  apply List.ext_getElem <;> simp [ofLoop, ofIteration]

end Expansion

/-- Reading numbers the steps of every scenario. -/
theorem Scenario.kept_stepsNumbered (path : Text) : Scenario.Kept path Scenario.StepsNumbered where
  fresh _ _ _ _ := rfl
  step s kind sentence line h := by
    rw [StepsNumbered] at h
    rw [StepsNumbered, List.map_append, List.length_append, h, List.length_singleton,
      List.range'_1_concat, Nat.add_comm 1]
    rfl
  row s before step cells hsteps h := by
    simpa [StepsNumbered, hsteps] using h
  outlined s columns rows firstId _ g hg := by
    obtain ⟨row, hrow, rfl⟩ := List.mem_mapIdx.mp hg
    exact Expansion.numbered_ids _
  looped s n firstId _ g hg := by
    obtain ⟨iteration, -, rfl⟩ := List.mem_map.mp hg
    exact Expansion.numbered_ids _

namespace Document

/-! ### Closing a block -/

namespace OpenBlock

variable {b : OpenBlock} {block : Block} {firstId : Nat}

/-- What a block generates takes the identifiers from the first one on. -/
theorem close?_ids (h : b.close? firstId = some block) :
    block.generated.map (·.id) = List.range' firstId block.generated.length := by
  rcases close?_eq_some_iff.mp h with ⟨-, rfl⟩ | ⟨n, -, rfl⟩ | ⟨columns, rows, -, rfl⟩
  · rfl
  · simpa [Block.generated] using Expansion.ofLoop_ids b.scenario n firstId
  · simpa [Block.generated] using Expansion.ofOutline_ids b.scenario columns rows firstId

theorem close?_copies (h : b.close? firstId = some block) :
    block.generated.length = block.copies := by
  rcases close?_eq_some_iff.mp h with ⟨-, rfl⟩ | ⟨n, -, rfl⟩ | ⟨columns, rows, -, rfl⟩ <;>
    simp [Block.generated, Block.copies]

theorem pushRow_id (cells : Row) : (b.pushRow cells).scenario.id = b.scenario.id := by
  unfold pushRow
  split <;> rfl

end OpenBlock

/-! ### The invariant -/

namespace Draft

variable {path word : Text} {d d' : Draft} {line : Line}

/-- The scenarios so far carry the identifiers from one up to the next one, and the closed
blocks have all their scenarios. -/
structure Numbered (d : Draft) : Prop where
  ids : d.scenarios.map (·.id) = List.range' 1 d.scenarios.length
  next : d.nextId = d.scenarios.length + 1
  copies : ∀ b ∈ d.blocks, b.generated.length = b.copies

theorem numbered_start : Numbered start where
  ids := rfl
  next := rfl
  copies _ hb := nomatch hb

/-- The invariant looks only at the blocks, the open scenario and the next identifier. -/
theorem Numbered.congr (h : d.Numbered) (hblocks : d'.blocks = d.blocks)
    (hcurrent : d'.current.map (·.scenario) = d.current.map (·.scenario))
    (hnext : d'.nextId = d.nextId) : d'.Numbered := by
  have hs := scenarios_congr hblocks hcurrent
  exact ⟨hs ▸ h.ids, by rw [hnext, hs, h.next], hblocks ▸ h.copies⟩

/-- The open scenario may be replaced by one with the same identifier. -/
theorem Numbered.withCurrent {b b' : OpenBlock} (h : d.Numbered) (hb : d.current = some b)
    (hid : b'.scenario.id = b.scenario.id) : (d.counted.withCurrent b').Numbered := by
  obtain ⟨hids, hnext, hcopies⟩ := h
  rw [scenarios_eq_of_current hb] at hids hnext
  refine ⟨?_, ?_, hcopies⟩
  · simpa [scenarios_withCurrent, hid] using hids
  · rw [withCurrent_nextId, counted_nextId, hnext, scenarios_withCurrent, List.length_append,
      List.length_append]
    rfl

/-- The open block took the identifier before the next one. -/
theorem Numbered.nextId_eq {b : OpenBlock} (h : d.Numbered) (hb : d.current = some b) :
    d.nextId = b.scenario.id + 1 := by
  obtain ⟨hids, hnext, -⟩ := h
  rw [scenarios_eq_of_current hb] at hids hnext
  rw [List.map_append, List.map_singleton, List.length_append, List.length_singleton,
    List.range'_1_concat, List.append_singleton_inj] at hids
  rw [hnext, hids.2, List.length_append, List.length_singleton, Nat.add_comm 1]

/-- Closing the open block gives the next identifiers to what it generates. -/
theorem Numbered.closeBlock (h : d.Numbered) (hclose : d.closeBlock = .ok d') : d'.Numbered := by
  rcases closeBlock_eq_ok_iff.mp hclose with ⟨-, rfl⟩ | ⟨b, block, hb, hc, rfl⟩
  · exact h
  have hs := scenarios_withClosed hb hc
  obtain ⟨hids, hnext, hcopies⟩ := h
  refine ⟨?_, ?_, ?_⟩
  · rw [hs, List.map_append, hids, OpenBlock.close?_ids hc, hnext, List.length_append,
      Nat.add_comm d.scenarios.length 1]
    exact List.range'_append_1
  · rw [hs, withClosed_nextId, hnext, List.length_append]
    omega
  · intro b' hb'
    rcases List.mem_append.mp hb' with hb' | hb'
    · exact hcopies b' hb'
    · rw [List.mem_singleton.mp hb']
      exact OpenBlock.close?_copies hc

/-- A fresh block takes the next identifier. -/
theorem Numbered.openBlock {kind : HeaderKind} {sentence : Text} (h : d.Numbered)
    (hnone : d.current = none) : (d.openBlock path kind sentence).Numbered := by
  have hs := scenarios_openBlock path kind sentence hnone
  obtain ⟨hids, hnext, hcopies⟩ := h
  refine ⟨?_, ?_, hcopies⟩
  · rw [hs, List.map_append, hids, List.length_append, List.length_singleton,
      List.range'_1_concat, Nat.add_comm 1, ← hnext]
    rfl
  · rw [hs, openBlock_nextId, hnext, List.length_append]
    rfl

/-- Every line keeps the numbering. -/
theorem Numbered.takes (h : d.Numbered) (ht : Takes path word d line d') : d'.Numbered := by
  cases ht with
  | blank => exact h.congr rfl (endTable_scenario d.counted) rfl
  | comment => exact h.congr rfl rfl rfl
  | tag tag => exact h.congr rfl (endTable_scenario d.counted) rfl
  | feature sentence _ => exact h.congr rfl rfl rfl
  | header kind sentence _ hclose =>
      have hcounted : d.counted.Numbered := h.congr rfl rfl rfl
      -- What the last block generates is numbered before the header takes its identifier.
      obtain ⟨-, -, -, hcurrent⟩ := closeBlock_keeps hclose
      exact (hcounted.closeBlock hclose).openBlock hcurrent
  | examples _ hb _ => exact h.withCurrent hb rfl
  | tableRow cells _ hb _ => exact h.withCurrent hb (OpenBlock.pushRow_id cells)
  | columns cells _ hb _ => exact h.withCurrent hb rfl
  | exampleRow cells _ hb _ _ => exact h.withCurrent hb rfl
  | step kind sentence _ hb _ => exact h.withCurrent hb rfl
  | describedStep kind sentence _ _ _ _ => exact h.congr rfl rfl rfl
  | prose text _ _ _ => exact h.congr rfl rfl rfl

end Draft

end Document

/-! ### Features -/

namespace Feature

open Document

variable {κ : Type} {r : Reader κ} {text : Text} {f : Feature}

/-- The blocks of a feature that was read are those of a numbered draft, which holds no
other scenarios. -/
theorem numbered_of_read (h : r.read text = .ok f) :
    ∃ d : Draft, d.Numbered ∧ f.blocks = d.blocks ∧ f.scenarios = d.scenarios := by
  obtain ⟨d, closed, hall, hclose, hblocks, hs⟩ := Draft.scenarios_of_read h
  have hd : d.Numbered :=
    Draft.takeAll_induction (fun _ _ _ => Draft.Numbered.takes) Draft.numbered_start hall
  exact ⟨closed, hd.closeBlock hclose, hblocks, hs⟩

/-- Identifiers are contiguous in document order. -/
theorem scenarios_ids_of_read (h : r.read text = .ok f) :
    f.scenarios.map (·.id) = List.range' 1 f.idCount := by
  obtain ⟨d, hd, -, hs⟩ := numbered_of_read h
  rw [← length_scenarios, hs]
  exact hd.ids

/-- What runs are the scenarios that are no template. -/
theorem runnable_of_read (h : r.read text = .ok f) :
    f.runnable = f.scenarios.filter (·.id ∉ f.templateIds) := by
  have hnodup : (f.scenarios.map (·.id)).Nodup := scenarios_ids_of_read h ▸ List.nodup_range'
  exact Block.runnable_eq_filter f.blocks f.templateIds hnodup fun _ _ => Iff.rfl

theorem runnable_ids_of_read (h : r.read text = .ok f) :
    (f.runnable.map (·.id)).Pairwise (· < ·) := by
  have hsorted : (f.scenarios.map (·.id)).Pairwise (· < ·) :=
    scenarios_ids_of_read h ▸ List.pairwise_lt_range'
  rw [runnable_of_read h]
  exact hsorted.sublist (List.filter_sublist.map _)

/-- **Numbering.** In a feature that was read, headers and what is generated from them
carry the identifiers from one to the number of scenarios in document order. A block
generates as many scenarios as it has rows of examples or repetitions, steps are numbered
from one within every scenario, and what runs are, by ascending identifier, the scenarios
that are no template. -/
theorem numbering_of_read (h : r.read text = .ok f) :
    f.blocks.flatMap (fun b => b.header.id :: b.generated.map (·.id)) =
        List.range' 1 f.idCount ∧
      (∀ b ∈ f.blocks, b.generated.length = b.copies) ∧
      (∀ s ∈ f.scenarios, s.steps.map (·.id) = List.range' 1 s.steps.length) ∧
      (f.runnable.map (·.id)).Pairwise (· < ·) ∧
      f.runnable = f.scenarios.filter (·.id ∉ f.templateIds) := by
  have hids := scenarios_ids_of_read h
  have hnodup : (f.scenarios.map (·.id)).Nodup := hids ▸ List.nodup_range'
  have hrunnable : f.runnable = f.scenarios.filter (·.id ∉ f.templateIds) :=
    Block.runnable_eq_filter f.blocks f.templateIds hnodup fun _ _ => Iff.rfl
  obtain ⟨d, hd, hblocks, -⟩ := numbered_of_read h
  have hsteps := forall_scenarios_of_read (Scenario.kept_stepsNumbered r.path) h
  refine ⟨?_, hblocks ▸ hd.copies, hsteps, ?_, hrunnable⟩
  · rw [← hids, scenarios, List.map_flatMap]
    rfl
  · have hsorted : (f.scenarios.map (·.id)).Pairwise (· < ·) := hids ▸ List.pairwise_lt_range'
    rw [hrunnable]
    exact hsorted.sublist (List.filter_sublist.map _)

/-- A feature with an outline of two rows, a plain scenario, a loop of two repetitions and a
loop that never runs. -/
def mixedText : Text :=
  ("Feature: f\nScenario Outline: o\nGiven <a>\nExamples:\n|a|\n|1|\n|2|\n" ++
    "Scenario: s\nWhen x\nThen y\nScenario Loop 2: l\nWhen x\nScenario Loop 0: never").toList

theorem numbering_of_read_mixed :
    ∃ f, (Reader.mk () [] 1 Vocabulary.english).read mixedText = .ok f ∧
      f.templateIds = [1, 5, 8] ∧ f.runnable.map (·.id) = [2, 3, 4, 6, 7] ∧
      f.blocks.flatMap (fun b => b.header.id :: b.generated.map (·.id)) =
        List.range' 1 f.idCount ∧
      (∀ b ∈ f.blocks, b.generated.length = b.copies) ∧
      (∀ s ∈ f.scenarios, s.steps.map (·.id) = List.range' 1 s.steps.length) ∧
      (f.runnable.map (·.id)).Pairwise (· < ·) ∧
      f.runnable = f.scenarios.filter (·.id ∉ f.templateIds) := by
  have hids : ((Reader.mk () [] 1 Vocabulary.english).read mixedText).toOption.map
      (fun f => (f.templateIds, f.runnable.map (·.id))) = some ([1, 5, 8], [2, 3, 4, 6, 7]) := by
    decide +kernel
  cases h : (Reader.mk () [] 1 Vocabulary.english).read mixedText with
  | error e => simp [h, Except.toOption] at hids
  | ok f =>
      simp only [h, Except.toOption, Option.map_some, Option.some.injEq, Prod.mk.injEq] at hids
      exact ⟨f, rfl, hids.1, hids.2, numbering_of_read h⟩

end Feature

end Playbook
