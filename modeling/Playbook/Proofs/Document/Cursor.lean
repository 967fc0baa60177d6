import Playbook.Proofs.Document.Expansion
import Playbook.Proofs.Document.Refusing

/-!
# Playbook.Proofs.Document.Cursor

The states that a draft can be in, in full. Where a table row goes is read off the open block
whenever one comes; one might as well carry a cursor along that every line moves. `Cursor.after`
is that cursor. It looks at the lines alone, and `Draft.cursor_eq_after` says that it always
points to where the open block would put a row.

`Draft.Fits` collects what holds of the draft and the cursor together. From it follows which
defects cannot be found: no row is refused because its step is missing or because the examples it
is meant for belong to no outline, and no free text because there is no feature header.
-/

namespace Playbook.Document

/-! ### The cursor -/

/-- Where table rows go in an open block. -/
inductive Cursor
  /-- Nowhere, until a step or an examples marker comes. -/
  | steps
  /-- To the table of the last step. -/
  | stepTable
  | examples
  deriving DecidableEq, Repr

namespace Cursor

/-- The cursor when a table of a step has come to its end. -/
def ended : Cursor → Cursor
  | .stepTable => .steps
  | cursor => cursor

/-- The cursor below one more line; there is none before the first header of a block. -/
def move : Option Cursor → Line → Option Cursor
  | _, .scenario _ _ => some .steps
  | cursor, .step _ _ => cursor.map fun _ => .stepTable
  | cursor, .examples => cursor.map fun _ => .examples
  | cursor, .blank | cursor, .tag _ => cursor.map ended
  | cursor, _ => cursor

/-- The cursor below some lines. -/
def after (lines : List Line) : Option Cursor := lines.foldl move none

end Cursor

variable {path word : Text} {b : OpenBlock} {d d' : Draft} {line : Line} {lines : List Line}

/-- The cursor for what an open block does with rows. -/
def OpenBlock.cursor (b : OpenBlock) : Cursor :=
  match b.target with
  | .nothing => .steps
  | .step => .stepTable
  | .examples _ => .examples

namespace OpenBlock

theorem cursor_eq_examples_iff :
    b.cursor = .examples ↔ ∃ examples, b.kind = .outline (some examples) := by
  simp only [← target_eq_examples_iff, cursor]
  cases b.target <;> simp

theorem cursor_eq_stepTable_iff : b.cursor = .stepTable ↔ b.target = .step := by
  unfold cursor
  cases b.target <;> simp

theorem cursor_eq_steps_iff : b.cursor = .steps ↔ b.target = .nothing := by
  unfold cursor
  cases b.target <;> simp

/-- When its table ends a step takes no more rows. -/
theorem cursor_endTable (b : OpenBlock) :
    ({ b with tableOpen := false } : OpenBlock).cursor = b.cursor.ended := by
  obtain ⟨kind, scenario, tableOpen⟩ := b
  rcases kind with _ | ⟨_ | examples⟩ | n <;> cases tableOpen <;>
    cases hs : scenario.steps.isEmpty <;> simp [cursor, target, hs, Cursor.ended]

theorem cursor_pushStep (kind : StepKind) (sentence path : Text) (n : Nat)
    (h : b.hasExamples = false) : (b.pushStep kind sentence path n).cursor = .stepTable := by
  rw [cursor_eq_stepTable_iff, target_eq_step_iff]
  exact ⟨h, rfl, by simp [pushStep]⟩

/-- A table that has a row may have another one. -/
theorem target_pushRow (cells : Row) (h : b.target = .step) :
    (b.pushRow cells).target = .step := by
  obtain ⟨before, step, hsteps⟩ := exists_last_step h
  obtain ⟨hbefore, hopen, -⟩ := target_eq_step_iff.mp h
  rw [pushRow_of_steps cells hsteps, target_eq_step_iff]
  exact ⟨hbefore, hopen, by simp⟩

end OpenBlock

namespace Draft

/-- The cursor for what the open block does with rows, if there is one. -/
def cursor (d : Draft) : Option Cursor := d.current.map OpenBlock.cursor

theorem cursor_eq_of_current (h : d.current = some b) : d.cursor = some b.cursor := by
  rw [cursor, h, Option.map_some]

theorem cursor_endTable (d : Draft) : d.endTable.cursor = d.cursor.map Cursor.ended := by
  rw [endTable, cursor, cursor, Option.map_map, Option.map_map]
  exact congrArg (d.current.map ·) (funext OpenBlock.cursor_endTable)

theorem cursor_takeTag (d : Draft) (label : Tag) :
    (d.takeTag label).cursor = d.cursor.map Cursor.ended :=
  cursor_endTable d

/-- Every line moves the cursor to where the open block then puts rows. -/
theorem Takes.cursor_eq (h : Takes path word d line d') :
    d'.cursor = Cursor.move d.cursor line := by
  cases h with
  | blank => exact cursor_endTable d.counted
  | comment | feature _ _ | prose _ _ _ _ => rfl
  | tag label => exact cursor_takeTag d.counted label
  | header kind sentence _ _ =>
      -- A fresh block has no step, and a fresh outline has no examples.
      cases kind <;> rfl
  | examples _ hb _ =>
      rw [cursor_eq_of_current hb]
      rfl
  | tableRow cells _ hb htarget =>
      rw [cursor_eq_of_current hb, OpenBlock.cursor_eq_stepTable_iff.mpr htarget]
      exact congrArg some (OpenBlock.cursor_eq_stepTable_iff.mpr
        (OpenBlock.target_pushRow cells htarget))
  | columns cells _ hb hk | exampleRow cells _ hb hk _ =>
      rw [cursor_eq_of_current hb, OpenBlock.cursor_eq_examples_iff.mpr ⟨_, hk⟩]
      rfl
  | step kind sentence _ hb hbefore =>
      rw [cursor_eq_of_current hb]
      exact congrArg some (OpenBlock.cursor_pushStep kind sentence path _ hbefore)
  | describedStep kind sentence _ _ _ hinside =>
      -- Steps of the description come before the first block.
      have hnone : d.current = none := by
        rw [inDescription, Bool.and_eq_true, Option.isNone_iff_eq_none] at hinside
        exact hinside.1
      simp [cursor, hnone, Cursor.move]

theorem cursor_eq_foldl (h : d.takeAll path word lines = .ok d') :
    d'.cursor = lines.foldl Cursor.move d.cursor := by
  induction lines generalizing d with
  | nil =>
      cases h
      rfl
  | cons line rest ih =>
      obtain ⟨next, ht, hrest⟩ := takeAll_cons_eq_ok_iff.mp h
      rw [ih hrest, ht.cursor_eq, List.foldl_cons]

/-- The cursor that the lines have moved points to where the open block puts rows. -/
theorem cursor_eq_after (h : start.takeAll path word lines = .ok d) :
    d.cursor = Cursor.after lines :=
  cursor_eq_foldl h

/-! ### Tables -/

/-- A table is open below a step only. -/
def TablesBelowSteps (d : Draft) : Prop :=
  ∀ b, d.current = some b → b.tableOpen → b.scenario.steps ≠ []

theorem TablesBelowSteps.endTable (d : Draft) : d.endTable.TablesBelowSteps := by
  intro b hb hopen
  obtain ⟨b', -, rfl⟩ := Option.map_eq_some_iff.mp hb
  cases hopen

theorem TablesBelowSteps.takes (h : d.TablesBelowSteps) (ht : Takes path word d line d') :
    d'.TablesBelowSteps := by
  cases ht with
  | blank | tag _ => exact TablesBelowSteps.endTable d.counted
  | comment | feature _ _ | describedStep _ _ _ _ _ _ | prose _ _ _ _ => exact h
  | header _ _ _ _ =>
      intro b hb hopen
      cases hb
      cases hopen
  | examples _ hb _ | columns _ _ hb _ | exampleRow _ _ hb _ _ =>
      have hbefore := h _ hb
      intro b hb' hopen
      cases hb'
      exact hbefore hopen
  | tableRow cells _ hb htarget =>
      intro b hb' _
      cases hb'
      exact (OpenBlock.target_eq_step_iff.mp (OpenBlock.target_pushRow cells htarget)).2.2
  | step _ _ _ _ _ =>
      intro b hb' _
      cases hb'
      simp [OpenBlock.pushStep]

theorem tablesBelowSteps_of_takeAll (h : start.takeAll path word lines = .ok d) :
    d.TablesBelowSteps := by
  have hstart : start.TablesBelowSteps := fun _ hb => nomatch hb
  exact takeAll_induction (fun _ _ _ => TablesBelowSteps.takes) hstart h

/-! ### States -/

/-- The parts of a draft and the cursor fit together. -/
structure Fits (d : Draft) (cursor : Option Cursor) : Prop where
  /-- Blocks, open or closed, stand below a feature header. -/
  headed : d.current ≠ none ∨ d.blocks ≠ [] → d.heading ≠ none
  /-- While the description goes on there are neither blocks nor tags. -/
  describing : ∀ h, d.heading = some h → h.isOpen →
    d.current = none ∧ d.blocks = [] ∧ d.waiting = []
  /-- There is a cursor in an open block only. -/
  inside : cursor.isSome ↔ d.current.isSome
  /-- The cursor is among examples exactly in an outline whose marker was read. -/
  examples : cursor = some .examples ↔
    ∃ b examples, d.current = some b ∧ b.kind = .outline (some examples)
  /-- A table of a step, open or in front of the cursor, belongs to a step that is there. -/
  tables : ∀ b, d.current = some b → cursor = some .stepTable ∨ b.tableOpen →
    b.scenario.steps ≠ []
  /-- The rows of the open outline are as wide as the row that names the columns. -/
  widths : ∀ b columns rows, d.current = some b → b.kind = .outline (some ⟨columns, rows⟩) →
    ∀ row ∈ rows, columns.map List.length = some row.data.length
  /-- So are those of every closed one. -/
  closedWidths : ∀ header columns rows generated,
    Block.outline header columns rows generated ∈ d.blocks →
      ∀ row ∈ rows, row.data.length = columns.length
  /-- The next identifier comes after those of the closed blocks and of the open one. -/
  nextId : d.nextId =
    1 + (d.blocks.map Block.idCount).foldr (· + ·) 0 + if d.current.isSome then 1 else 0

theorem Numbered.nextId_eq_sum (h : d.Numbered) : d.nextId =
    1 + (d.blocks.map Block.idCount).foldr (· + ·) 0 + if d.current.isSome then 1 else 0 := by
  have hblocks : (d.blocks.flatMap Block.scenarios).length =
      (d.blocks.map Block.idCount).foldr (· + ·) 0 := by
    simp only [List.length_flatMap, Block.length_scenarios]
    rfl
  rw [h.next, scenarios, List.length_append, hblocks]
  cases d.current <;> simp <;> omega

/-- **Every state.** After lines that could be taken the parts of the draft fit together, with the
cursor that the lines have moved. -/
theorem fits_of_takeAll (h : start.takeAll path word lines = .ok d) :
    d.Fits (Cursor.after lines) := by
  obtain ⟨hcoherent, hnumbered, -, hfaithful⟩ := faithful_of_takeAll h
  have htables := tablesBelowSteps_of_takeAll h
  rw [← cursor_eq_after h]
  refine ⟨fun hblock hnone => ?_, fun heading hh hopen => ?_, ?_, ?_, fun b hb hopen => ?_,
    fun b columns rows hb hk row hrow => ?_, fun header columns rows generated hmem => ?_,
    hnumbered.nextId_eq_sum⟩
  · obtain ⟨hblocks, hcurrent⟩ := hcoherent.headed hnone
    rcases hblock with hne | hne
    · exact hne hcurrent
    · exact hne hblocks
  · obtain ⟨hblocks, hcurrent, hwaiting⟩ := hcoherent.describing heading hh hopen
    exact ⟨hcurrent, hblocks, hwaiting⟩
  · simp [cursor]
  · simp [cursor, Option.map_eq_some_iff, OpenBlock.cursor_eq_examples_iff]
  · rcases hopen with hcursor | hopen
    · rw [cursor_eq_of_current hb, Option.some.injEq, OpenBlock.cursor_eq_stepTable_iff] at hcursor
      exact (OpenBlock.target_eq_step_iff.mp hcursor).2.2
    · exact htables b hb hopen
  · cases columns with
    | none =>
        rw [hcoherent.unnamed b rows hb hk] at hrow
        cases hrow
    | some columns => exact congrArg some (hfaithful.widths b columns rows hb hk row hrow).symm
  · exact (hfaithful.closed _ hmem).1

/-- A row is refused as stray where the cursor sends rows nowhere. -/
theorem cursor_of_strayRow {cells : Row} {n : Nat}
    (h : d.place path word (.row cells) = .error ⟨n, .strayRow⟩) :
    d.cursor = none ∨ d.cursor = some .steps := by
  rw [place_eq_error_iff] at h
  generalize he : (⟨n, .strayRow⟩ : Fault) = e at h
  cases h with
  | strayRow _ _ hnothing =>
      cases hb : d.current with
      | none => exact .inl (by rw [cursor, hb, Option.map_none])
      | some b =>
          refine .inr ?_
          rw [cursor_eq_of_current hb, OpenBlock.cursor_eq_steps_iff.mpr (hnothing b hb)]
  | _ => cases he

/-- Text is refused as stray below a feature header only. -/
theorem heading_ne_none_of_strayText {text : Text} {n : Nat}
    (h : d.place path word line = .error ⟨n, .strayText text⟩) : d.heading ≠ none := by
  rw [place_eq_error_iff] at h
  generalize he : (⟨n, .strayText text⟩ : Fault) = e at h
  cases h with
  | secondExamples hready _ _ => exact hready.1
  | strayText _ hready _ _ => exact hready.1
  | _ => cases he

/-- **States.** Whatever the vocabulary and the lines of a text, as long as they can be taken the
parts of the draft fit together. A row that comes next is refused as stray only where the cursor
sends it nowhere, so never for want of a step or of an outline, and text is refused as stray only
below a feature header. -/
theorem reached_states_fit (v : Vocabulary) (path : Text) (lines : List Text)
    (h : start.takeAll path v.examples (lines.map (Line.read v)) = .ok d) :
    d.Fits (Cursor.after (lines.map (Line.read v))) ∧
      (∀ cells n, d.place path v.examples (.row cells) = .error ⟨n, .strayRow⟩ →
        Cursor.after (lines.map (Line.read v)) = none ∨
          Cursor.after (lines.map (Line.read v)) = some .steps) ∧
      ∀ line n text, d.place path v.examples line = .error ⟨n, .strayText text⟩ →
        d.heading ≠ none := by
  refine ⟨fits_of_takeAll h, fun cells n hrefused => ?_, fun line n text hrefused => ?_⟩
  · rw [← cursor_eq_after h]
    exact cursor_of_strayRow hrefused
  · exact heading_ne_none_of_strayText hrefused

/-- A draft among the examples of an outline, below a closed loop of two repetitions. -/
theorem reached_states_fit_examples :
    let v := Vocabulary.english
    let lines := ["@t", "Feature: f", "prose", "Given prose", "Scenario Loop 2: l", "When x",
      "Scenario Outline: o", "When <a>", "|z|", "Examples:", "|a|", "", "|1|"].map String.toList
    ∃ d, start.takeAll [] v.examples (lines.map (Line.read v)) = .ok d ∧
      d.nextId = 5 ∧ Cursor.after (lines.map (Line.read v)) = some .examples ∧
      d.Fits (Cursor.after (lines.map (Line.read v))) := by
  intro v lines
  have hnext : (start.takeAll [] v.examples (lines.map (Line.read v))).toOption.map (·.nextId) =
      some 5 := by decide +kernel
  have hcursor : Cursor.after (lines.map (Line.read v)) = some .examples := by decide +kernel
  cases hall : start.takeAll [] v.examples (lines.map (Line.read v)) with
  | error e => simp [hall, Except.toOption] at hnext
  | ok d =>
      simp only [hall, Except.toOption, Option.map_some, Option.some.injEq] at hnext
      obtain ⟨hfits, -, -⟩ := reached_states_fit v [] lines hall
      exact ⟨d, rfl, hnext, hcursor, hfits⟩

end Draft

end Playbook.Document
