import Mathlib.Tactic.Simps.Basic
import Playbook.Document

/-!
# Playbook.Proofs.Document.Taking

What a draft can do with a line, said once: `Draft.Takes` has one constructor for each
way in which a line is taken, with what it asks of the draft and the draft it leads to.
`place_eq_ok_iff` ties it to `Draft.place`; every fact about a reading is then a case
analysis on `Takes` and an induction over the lines.

Closing a block and finishing the file are inverted in the same manner, so that no proof
about readings has to open the functions themselves.
-/

namespace Playbook.Document

namespace Line

/-- Whether the line is one that stands below a header: it says something and is neither a
tag nor a header. -/
def isBody : Line → Bool
  | examples | row _ | step _ _ | prose _ => true
  | _ => false

/-- The lines below headers are told apart later than all others. -/
@[elab_as_elim]
theorem casesBody {motive : Line → Prop} (line : Line) (blank : motive .blank)
    (comment : motive .comment) (tag : ∀ label, motive (.tag label))
    (feature : ∀ sentence, motive (.feature sentence))
    (scenario : ∀ kind sentence, motive (.scenario kind sentence))
    (badHeader : motive .badHeader) (body : ∀ line, line.isBody → motive line) : motive line := by
  cases line with
  | blank => exact blank
  | comment => exact comment
  | tag label => exact tag label
  | feature sentence => exact feature sentence
  | scenario kind sentence => exact scenario kind sentence
  | badHeader => exact badHeader
  | _ => exact body _ rfl

end Line

namespace OpenBlock

variable {b : OpenBlock} {block : Block} {firstId : Nat}

/-- The block with other examples. -/
def withExamples (b : OpenBlock) (examples : Examples) : OpenBlock :=
  { b with kind := .outline (some examples) }

@[simp] theorem withExamples_scenario (b : OpenBlock) (examples : Examples) :
    (b.withExamples examples).scenario = b.scenario := rfl

@[simp] theorem withExamples_kind (b : OpenBlock) (examples : Examples) :
    (b.withExamples examples).kind = .outline (some examples) := rfl

@[simp] theorem pushRow_kind (b : OpenBlock) (cells : Row) :
    (b.pushRow cells).kind = b.kind := by
  unfold pushRow
  split <;> rfl

/-- An open block closes to a plain scenario, to an expanded loop or to an expanded
outline whose columns are known. -/
theorem close?_eq_some_iff : b.close? firstId = some block ↔
    (b.kind = .plain ∧ block = .scenario b.scenario) ∨
    (∃ n, b.kind = .loop n ∧
      block = .loop b.scenario n (Expansion.ofLoop b.scenario n firstId)) ∨
    ∃ columns rows, b.kind = .outline (some ⟨some columns, rows⟩) ∧
      block = .outline b.scenario columns rows
        (Expansion.ofOutline b.scenario columns rows firstId) := by
  obtain ⟨kind, scenario, tableOpen⟩ := b
  rcases kind with _ | ⟨_ | ⟨_ | columns, rows⟩⟩ | n <;>
    simp only [close?, expand?, Expansion.loop, Expansion.outline] <;> grind

theorem hasExamples_eq_true_iff :
    b.hasExamples = true ↔ ∃ examples, b.kind = .outline (some examples) := by
  obtain ⟨kind, scenario, tableOpen⟩ := b
  rcases kind with _ | ⟨_ | examples⟩ | n <;> simp [hasExamples]

/-- Rows go to the step table before the examples, while there is a step whose table is
open. -/
theorem target_eq_step_iff : b.target = .step ↔
    b.hasExamples = false ∧ b.tableOpen ∧ b.scenario.steps ≠ [] := by
  obtain ⟨kind, scenario, tableOpen⟩ := b
  rcases kind with _ | ⟨_ | examples⟩ | n <;> simp [target, hasExamples]

/-- Rows go to the examples exactly when the block is an outline that has begun them. -/
theorem target_eq_examples_iff {examples : Examples} :
    b.target = .examples examples ↔ b.kind = .outline (some examples) := by
  obtain ⟨kind, scenario, tableOpen⟩ := b
  rcases kind with _ | ⟨_ | examples⟩ | n <;> simp [target] <;> split <;> simp

end OpenBlock

namespace Draft

variable {path word : Text} {d d' : Draft} {line : Line}

/-! ### The state after a line -/

/-- The draft that has counted one more line. -/
@[simps] def counted (d : Draft) : Draft := { d with line := d.line + 1 }

/-- The draft with another open block. -/
@[simps] def withCurrent (d : Draft) (b : OpenBlock) : Draft := { d with current := some b }

/-- The draft with a line added to the description below a heading. -/
@[simps] def describe (d : Draft) (h : Heading) (text : Text) : Draft :=
  { d with heading := some { h with description := h.description ++ [text] } }

/-- The draft with a feature header. -/
@[simps] def withFeature (d : Draft) (sentence : Text) : Draft :=
  { d with waiting := [], heading := some ⟨sentence, d.line, d.waitingTags, [], true⟩ }

/-- The draft with a fresh block, which takes the waiting tags and the next identifier. -/
@[simps] def openBlock (d : Draft) (path : Text) (kind : HeaderKind) (sentence : Text) : Draft :=
  { d.endDescription with
    waiting := []
    nextId := d.nextId + 1
    current := some {
      kind := openKind kind
      scenario := ⟨d.nextId, sentence, path, d.line, d.waitingTags, []⟩
      tableOpen := false } }

@[simp] theorem withClosed_line (d : Draft) (block : Block) :
    (d.withClosed block).line = d.line := rfl
@[simp] theorem withClosed_waiting (d : Draft) (block : Block) :
    (d.withClosed block).waiting = d.waiting := rfl
@[simp] theorem withClosed_heading (d : Draft) (block : Block) :
    (d.withClosed block).heading = d.heading := rfl
@[simp] theorem withClosed_blocks (d : Draft) (block : Block) :
    (d.withClosed block).blocks = d.blocks ++ [block] := rfl
@[simp] theorem withClosed_current (d : Draft) (block : Block) :
    (d.withClosed block).current = none := rfl
@[simp] theorem withClosed_nextId (d : Draft) (block : Block) :
    (d.withClosed block).nextId = d.nextId + block.generated.length := rfl
@[simp] theorem endTable_line (d : Draft) : d.endTable.line = d.line := rfl
@[simp] theorem endTable_waiting (d : Draft) : d.endTable.waiting = d.waiting := rfl
@[simp] theorem endTable_heading (d : Draft) : d.endTable.heading = d.heading := rfl
@[simp] theorem endTable_blocks (d : Draft) : d.endTable.blocks = d.blocks := rfl
@[simp] theorem endTable_nextId (d : Draft) : d.endTable.nextId = d.nextId := rfl
@[simp] theorem endDescription_line (d : Draft) : d.endDescription.line = d.line := rfl
@[simp] theorem endDescription_waiting (d : Draft) : d.endDescription.waiting = d.waiting := rfl
@[simp] theorem endDescription_blocks (d : Draft) : d.endDescription.blocks = d.blocks := rfl
@[simp] theorem endDescription_current (d : Draft) : d.endDescription.current = d.current := rfl

/-- Ending a table leaves the open scenario as it is. -/
@[simp] theorem endTable_scenario (d : Draft) :
    d.endTable.current.map (·.scenario) = d.current.map (·.scenario) := by
  simp [endTable, Function.comp_def]

/-- Whether a line may come that is no header: below the feature header and without
waiting tags. -/
def Ready (d : Draft) : Prop := d.heading ≠ none ∧ d.waiting = []

/-- The ways in which a draft takes a line. -/
inductive Takes (path word : Text) (d : Draft) : Line → Draft → Prop
  | blank : Takes path word d .blank d.counted.endTable
  | comment : Takes path word d .comment d.counted
  | tag (tag : Tag) : Takes path word d (.tag tag) (d.counted.takeTag tag)
  | feature (sentence : Text) (heading : d.heading = none) :
      Takes path word d (.feature sentence) (d.counted.withFeature sentence)
  | header (kind : HeaderKind) (sentence : Text) {closed : Draft} (heading : d.heading ≠ none)
      (close : d.counted.closeBlock = .ok closed) :
      Takes path word d (.scenario kind sentence) (closed.openBlock path kind sentence)
  | examples {b : OpenBlock} (ready : d.Ready) (current : d.current = some b)
      (kind : b.kind = .outline none) :
      Takes path word d .examples (d.counted.withCurrent (b.withExamples ⟨none, []⟩))
  | tableRow (cells : Row) {b : OpenBlock} (ready : d.Ready) (current : d.current = some b)
      (target : b.target = .step) :
      Takes path word d (.row cells) (d.counted.withCurrent (b.pushRow cells))
  | columns (cells : Row) {b : OpenBlock} {rows : List Example} (ready : d.Ready)
      (current : d.current = some b) (kind : b.kind = .outline (some ⟨none, rows⟩)) :
      Takes path word d (.row cells)
        (d.counted.withCurrent (b.withExamples ⟨some cells, rows⟩))
  | exampleRow (cells : Row) {b : OpenBlock} {columns : Row} {rows : List Example}
      (ready : d.Ready) (current : d.current = some b)
      (kind : b.kind = .outline (some ⟨some columns, rows⟩))
      (width : columns.length = cells.length) :
      Takes path word d (.row cells)
        (d.counted.withCurrent (b.withExamples ⟨some columns, rows ++ [⟨cells, d.line + 1⟩]⟩))
  | step (kind : StepKind) (sentence : Text) {b : OpenBlock} (ready : d.Ready)
      (current : d.current = some b) (before : b.hasExamples = false) :
      Takes path word d (.step kind sentence)
        (d.counted.withCurrent (b.pushStep kind sentence path (d.line + 1)))
  | describedStep (kind : StepKind) (sentence : Text) {h : Heading} (ready : d.Ready)
      (heading : d.heading = some h) (isOpen : h.isOpen) (inside : d.inDescription) :
      Takes path word d (.step kind sentence) (d.counted.describe h sentence)
  | prose (text : Text) {h : Heading} (ready : d.Ready) (heading : d.heading = some h)
      (isOpen : h.isOpen) :
      Takes path word d (.prose text) (d.counted.describe h text)

/-! ### What the parts of a step can do -/

theorem takeFeature_eq_ok_iff {sentence : Text} :
    d.takeFeature sentence = .ok d' ↔ d.heading = none ∧ d' = d.withFeature sentence := by
  unfold takeFeature withFeature
  cases h : d.heading <;> simp [eq_comm]

theorem takeHeader_eq_ok_iff {kind : HeaderKind} {sentence : Text} :
    d.takeHeader path kind sentence = .ok d' ↔
      ∃ closed, d.closeBlock = .ok closed ∧ d' = closed.openBlock path kind sentence := by
  unfold takeHeader openBlock
  cases h : d.closeBlock <;> simp [eq_comm]

theorem takeExamples_eq_ok_iff : d.takeExamples word = .ok d' ↔
    ∃ b, d.current = some b ∧ b.kind = .outline none ∧
      d' = d.withCurrent (b.withExamples ⟨none, []⟩) := by
  unfold takeExamples withCurrent OpenBlock.withExamples
  cases hc : d.current with
  | none => simp
  | some b =>
      obtain ⟨kind, scenario, tableOpen⟩ := b
      rcases kind with _ | ⟨_ | examples⟩ | n <;> simp [eq_comm]

theorem takeRow_eq_ok_iff {cells : Row} : d.takeRow cells = .ok d' ↔
    ∃ b, d.current = some b ∧
      ((b.target = .step ∧ d' = d.withCurrent (b.pushRow cells)) ∨
       (∃ rows, b.kind = .outline (some ⟨none, rows⟩) ∧
          d' = d.withCurrent (b.withExamples ⟨some cells, rows⟩)) ∨
        ∃ columns rows, b.kind = .outline (some ⟨some columns, rows⟩) ∧
          columns.length = cells.length ∧
          d' = d.withCurrent (b.withExamples ⟨some columns, rows ++ [⟨cells, d.line⟩]⟩)) := by
  unfold takeRow withCurrent OpenBlock.withExamples
  cases hc : d.current with
  | none => simp
  | some b =>
      have hother : (∀ examples, b.target ≠ .examples examples) →
          ∀ examples, b.kind ≠ .outline (some examples) := by
        intro hne examples hk
        exact hne examples (OpenBlock.target_eq_examples_iff.mpr hk)
      cases ht : b.target with
      | nothing =>
          have hk := hother (by simp [ht])
          simp [ht, hk]
      | step =>
          have hk := hother (by simp [ht])
          simp [ht, hk, eq_comm]
      | examples examples =>
          have hk := OpenBlock.target_eq_examples_iff.mp ht
          obtain ⟨_ | columns, rows⟩ := examples
          · simp [ht, hk, Examples.push, eq_comm]
          · simp only [ht, Examples.push]
            grind

theorem takeStep_eq_ok_iff {kind : StepKind} {sentence : Text} :
    d.takeStep path kind sentence = .ok d' ↔
      ∃ b, d.current = some b ∧ b.hasExamples = false ∧
        d' = d.withCurrent (b.pushStep kind sentence path d.line) := by
  unfold takeStep withCurrent
  cases hc : d.current with
  | none => simp
  | some b => cases hb : b.hasExamples <;> simp [hb, @eq_comm _ d']

theorem takeProse_eq_ok_iff {text : Text} : d.takeProse text = .ok d' ↔
    ∃ h, d.heading = some h ∧ h.isOpen ∧ d' = d.describe h text := by
  unfold takeProse describe
  cases hh : d.heading with
  | none => simp
  | some h => cases ho : h.isOpen <;> simp [ho, @eq_comm _ d']

theorem inDescription_eq_false_of_current {b : OpenBlock} (h : d.current = some b) :
    d.inDescription = false := by
  simp [inDescription, h]

theorem place_blank : d.place path word .blank = .ok d.counted.endTable := rfl

theorem place_comment : d.place path word .comment = .ok d.counted := rfl

theorem place_tag (tag : Tag) :
    d.place path word (.tag tag) = .ok (d.counted.takeTag tag) := rfl

theorem place_feature (sentence : Text) :
    d.place path word (.feature sentence) = d.counted.takeFeature sentence := rfl

/-- There is one feature header at the most. -/
theorem place_feature_eq_error (h : d.heading ≠ none) (sentence : Text) :
    d.place path word (.feature sentence) = .error (d.counted.fault .secondFeature) :=
  if_pos (Option.isSome_iff_ne_none.mpr h)

theorem place_scenario (kind : HeaderKind) (sentence : Text) :
    d.place path word (.scenario kind sentence) =
      if d.heading.isNone then .error (d.counted.fault .beforeFeature)
      else d.counted.takeHeader path kind sentence := rfl

theorem place_badHeader : d.place path word .badHeader =
    if d.heading.isNone then .error (d.counted.fault .beforeFeature)
    else .error (d.counted.fault .badHeader) := rfl

/-- The feature header has to stand above a body line, and no tags may wait for a header. -/
theorem place_of_isBody (hbody : line.isBody) : d.place path word line =
    if d.heading.isNone then .error (d.counted.fault .beforeFeature)
    else if !d.waiting.isEmpty then .error (d.counted.fault .strayTags)
    else placeBody path word d.counted line := by
  cases line with
  | examples | row _ | step _ _ | prose _ => rfl
  | _ => cases hbody

theorem place_of_ready (h : d.Ready) (hbody : line.isBody) :
    d.place path word line = placeBody path word d.counted line := by
  have hheading : ¬ d.heading.isNone := by simpa using h.1
  rw [place_of_isBody hbody, if_neg hheading, h.2]
  rfl

/-- Body lines are taken below the feature header and without waiting tags only. -/
theorem place_eq_placeBody (hbody : line.isBody) :
    d.place path word line = .ok d' ↔
      d.Ready ∧ placeBody path word d.counted line = .ok d' := by
  rw [place_of_isBody hbody, Ready]
  cases d.heading <;> cases d.waiting <;> simp

/-! ### One line -/

/-- A line is taken in one of the ways of `Takes`, and in each of them it is. -/
theorem place_eq_ok_iff : d.place path word line = .ok d' ↔ Takes path word d line d' := by
  constructor
  -- The line selects a branch of `place`, whose equation gives what `Takes` asks for.
  · intro h
    cases line with
    | blank => cases h; exact .blank
    | comment => cases h; exact .comment
    | tag tag => cases h; exact .tag tag
    | feature sentence =>
        obtain ⟨hh, rfl⟩ := takeFeature_eq_ok_iff.mp h
        exact .feature sentence hh
    | scenario kind sentence =>
        cases hh : d.heading with
        | none => simp [place, hh] at h
        | some heading =>
            have hne : d.heading ≠ none := by simp [hh]
            simp only [place, Option.isNone_iff_eq_none, if_neg hne] at h
            obtain ⟨closed, hc, rfl⟩ := takeHeader_eq_ok_iff.mp h
            exact .header kind sentence hne hc
    | badHeader => simp only [place] at h; split at h <;> cases h
    | examples =>
        obtain ⟨hr, h⟩ := (place_eq_placeBody rfl).mp h
        obtain ⟨b, hb, hk, rfl⟩ := takeExamples_eq_ok_iff.mp h
        exact .examples hr hb hk
    | row cells =>
        obtain ⟨hr, h⟩ := (place_eq_placeBody rfl).mp h
        obtain ⟨b, hb, ⟨ht, rfl⟩ | ⟨rows, hk, rfl⟩ | ⟨columns, rows, hk, hw, rfl⟩⟩ :=
          takeRow_eq_ok_iff.mp h
        · exact .tableRow cells hr hb ht
        · exact .columns cells hr hb hk
        · exact .exampleRow cells hr hb hk hw
    | step kind sentence =>
        obtain ⟨hr, h⟩ := (place_eq_placeBody rfl).mp h
        simp only [placeBody] at h
        -- Above the first block a step belongs to the description.
        split at h
        · rename_i hin
          obtain ⟨heading, hh, ho, rfl⟩ := takeProse_eq_ok_iff.mp h
          exact .describedStep kind sentence hr hh ho hin
        · obtain ⟨b, hb, he, rfl⟩ := takeStep_eq_ok_iff.mp h
          exact .step kind sentence hr hb he
    | prose text =>
        obtain ⟨hr, h⟩ := (place_eq_placeBody rfl).mp h
        obtain ⟨heading, hh, ho, rfl⟩ := takeProse_eq_ok_iff.mp h
        exact .prose text hr hh ho
  · intro h
    cases h with
    | blank => rfl
    | comment => rfl
    | tag tag => rfl
    | feature sentence hh => exact takeFeature_eq_ok_iff.mpr ⟨hh, rfl⟩
    | header kind sentence hh hc =>
        simp only [place, Option.isNone_iff_eq_none, if_neg hh]
        exact takeHeader_eq_ok_iff.mpr ⟨_, hc, rfl⟩
    | examples hr hb hk =>
        exact (place_eq_placeBody rfl).mpr
          ⟨hr, takeExamples_eq_ok_iff.mpr ⟨_, hb, hk, rfl⟩⟩
    | tableRow cells hr hb ht =>
        exact (place_eq_placeBody rfl).mpr
          ⟨hr, takeRow_eq_ok_iff.mpr ⟨_, hb, .inl ⟨ht, rfl⟩⟩⟩
    | columns cells hr hb hk =>
        exact (place_eq_placeBody rfl).mpr
          ⟨hr, takeRow_eq_ok_iff.mpr ⟨_, hb, .inr (.inl ⟨_, hk, rfl⟩)⟩⟩
    | exampleRow cells hr hb hk hw =>
        exact (place_eq_placeBody rfl).mpr
          ⟨hr, takeRow_eq_ok_iff.mpr ⟨_, hb, .inr (.inr ⟨_, _, hk, hw, rfl⟩)⟩⟩
    | step kind sentence hr hb he =>
        refine (place_eq_placeBody rfl).mpr ⟨hr, ?_⟩
        have hin : d.counted.inDescription = false := inDescription_eq_false_of_current hb
        simp only [placeBody, hin, Bool.false_eq_true, if_false]
        exact takeStep_eq_ok_iff.mpr ⟨_, hb, he, rfl⟩
    | describedStep kind sentence hr hh ho hin =>
        refine (place_eq_placeBody rfl).mpr ⟨hr, ?_⟩
        have hin : d.counted.inDescription = true := hin
        simp only [placeBody, hin, if_true]
        exact takeProse_eq_ok_iff.mpr ⟨_, hh, ho, rfl⟩
    | prose text hr hh ho =>
        exact (place_eq_placeBody rfl).mpr ⟨hr, takeProse_eq_ok_iff.mpr ⟨_, hh, ho, rfl⟩⟩

/-! ### Closing a block and the end of the file -/

/-- Closing a block changes nothing if none is open, and else moves the block to those
that are closed and the next identifier past what it generates. -/
theorem closeBlock_eq_ok_iff : d.closeBlock = .ok d' ↔
    (d.current = none ∧ d' = d) ∨
    ∃ b block, d.current = some b ∧ b.close? d.nextId = some block ∧
      d' = d.withClosed block := by
  unfold closeBlock
  cases hc : d.current with
  | none => simp [eq_comm]
  | some b => cases hb : b.close? d.nextId <;> simp [hb, eq_comm]

theorem closeBlock_of_none (h : d.current = none) : d.closeBlock = .ok d := by
  rw [closeBlock, h]

/-- Counting a line and closing a block do not depend on each other. -/
theorem closeBlock_counted_eq (d : Draft) : d.counted.closeBlock = d.closeBlock.map counted := by
  unfold closeBlock
  rw [counted_current, counted_nextId]
  cases d.current with
  | none => rfl
  | some b => cases hb : b.close? d.nextId <;> simp only [hb] <;> rfl

theorem closeBlock_counted {closed : Draft} (h : d.closeBlock = .ok closed) :
    d.counted.closeBlock = .ok closed.counted := by
  rw [closeBlock_counted_eq, h]
  rfl

/-- Closing a block leaves the heading and the waiting tags as they are. -/
theorem closeBlock_keeps (h : d.closeBlock = .ok d') :
    d'.line = d.line ∧ d'.heading = d.heading ∧ d'.waiting = d.waiting ∧ d'.current = none := by
  rcases closeBlock_eq_ok_iff.mp h with ⟨hnone, rfl⟩ | ⟨b, block, -, -, rfl⟩
  · exact ⟨rfl, rfl, rfl, hnone⟩
  · exact ⟨rfl, rfl, rfl, rfl⟩

/-- Without an open block there is no table to end. -/
theorem endTable_eq_self (h : d.current = none) : d.endTable = d := by
  rw [endTable, h, Option.map_none, ← h]

/-- Whether the table of the last step is still open does not matter when a block closes. -/
theorem closeBlock_endTable (d : Draft) : d.endTable.closeBlock = d.closeBlock := by
  cases hc : d.current with
  | none => rw [endTable_eq_self hc]
  | some b =>
      unfold closeBlock endTable
      rw [hc]
      rfl

/-- A file ends well below a feature header, without waiting tags and with a block that
can be closed. -/
theorem toFeature_eq_ok_iff {id : Nat} {f : Feature} : d.toFeature path id = .ok f ↔
    ∃ h closed, d.heading = some h ∧ d.waiting = [] ∧ d.closeBlock = .ok closed ∧
      f = ⟨id, h.sentence, h.description, path, h.line, h.tags, closed.blocks⟩ := by
  unfold toFeature
  cases hh : d.heading with
  | none => simp
  | some h =>
      cases hw : d.waiting with
      | cons first rest => simp
      | nil => cases hc : d.closeBlock <;> simp [eq_comm]

/-! ### All lines -/

@[simp] theorem takeAll_nil (d : Draft) : d.takeAll path word [] = .ok d := rfl

/-- The first line is taken, then the others. -/
theorem takeAll_cons_eq_ok_iff {lines : List Line} :
    d.takeAll path word (line :: lines) = .ok d' ↔
      ∃ next, Takes path word d line next ∧ next.takeAll path word lines = .ok d' := by
  simp only [takeAll, List.foldlM_cons, ← place_eq_ok_iff]
  cases d.place path word line <;> simp [bind, Except.bind]

/-- A line that can be taken leaves the others. -/
theorem takeAll_cons {next : Draft} {lines : List Line} (h : Takes path word d line next) :
    d.takeAll path word (line :: lines) = next.takeAll path word lines := by
  rw [takeAll, List.foldlM_cons, place_eq_ok_iff.mpr h]
  rfl

/-- Lines that can be taken leave the others. -/
theorem takeAll_append {next : Draft} {first second : List Line}
    (h : d.takeAll path word first = .ok next) :
    d.takeAll path word (first ++ second) = next.takeAll path word second := by
  rw [takeAll] at h
  rw [takeAll, List.foldlM_append, h]
  rfl

theorem takeAll_append_eq_ok_iff {first second : List Line} :
    d.takeAll path word (first ++ second) = .ok d' ↔
      ∃ next, d.takeAll path word first = .ok next ∧ next.takeAll path word second = .ok d' := by
  simp only [takeAll, List.foldlM_append]
  cases first.foldlM (place path word) d <;> simp [bind, Except.bind]

/-- The first line is taken or at fault, and then the others are. -/
theorem takeAll_cons_eq (lines : List Line) :
    d.takeAll path word (line :: lines) =
      (d.place path word line).bind (·.takeAll path word lines) := by
  rw [takeAll, List.foldlM_cons]
  rfl

/-- The feature a draft becomes when it takes the lines and the file ends. -/
def finish (path word : Text) (id : Nat) (d : Draft) (lines : List Line) :
    Except Fault Feature :=
  (d.takeAll path word lines).bind (·.toFeature path id)

theorem finish_cons {id : Nat} (lines : List Line) :
    d.finish path word id (line :: lines) =
      (d.place path word line).bind (·.finish path word id lines) := by
  rw [finish, takeAll_cons_eq]
  cases d.place path word line <;> rfl

theorem finish_append {id : Nat} (first second : List Line) :
    d.finish path word id (first ++ second) =
      (d.takeAll path word first).bind (·.finish path word id second) := by
  rw [finish, takeAll, List.foldlM_append]
  cases hfirst : d.takeAll path word first <;> rw [takeAll] at hfirst <;> rw [hfirst] <;> rfl

/-- What every way of taking a line keeps holds after any number of lines. -/
theorem takeAll_induction {motive : Draft → Prop} {lines : List Line}
    (step : ∀ d line d', motive d → Takes path word d line d' → motive d')
    (start : motive d) (h : d.takeAll path word lines = .ok d') : motive d' := by
  induction lines generalizing d with
  | nil => cases h; exact start
  | cons line rest ih =>
      obtain ⟨next, ht, hrest⟩ := takeAll_cons_eq_ok_iff.mp h
      exact ih (step d line next start ht) hrest

end Draft

/-! ### Readings -/

/-- The feature that lines describe is what the first draft becomes with them. -/
theorem ofLines_eq_finish (path word : Text) (id : Nat) (lines : List Line) :
    ofLines path word id lines = Draft.start.finish path word id lines := by
  unfold ofLines Draft.finish
  cases Draft.start.takeAll path word lines <;> rfl

/-- Reading a text blames its faults on the path. -/
theorem read_eq_mapError {κ : Type} (r : Reader κ) (text : Text) :
    r.read text = (Draft.start.finish r.path r.vocabulary.examples r.featureId
      (r.lines text)).mapError (.malformed r.path) := by
  rw [Reader.read, ofLines_eq_finish]
  cases Draft.start.finish r.path r.vocabulary.examples r.featureId (r.lines text) <;> rfl

theorem finish_of_read {κ : Type} {r : Reader κ} {text : Text} {f : Feature}
    (h : r.read text = .ok f) :
    Draft.start.finish r.path r.vocabulary.examples r.featureId (r.lines text) = .ok f := by
  rw [read_eq_mapError] at h
  cases hfinish : Draft.start.finish r.path r.vocabulary.examples r.featureId (r.lines text) with
  | error e => rw [hfinish] at h; cases h
  | ok f' => rw [hfinish] at h; cases h; rfl

/-- A text is read as a feature if its lines can be taken and the file ends well. -/
theorem read_eq_ok_iff {κ : Type} {r : Reader κ} {text : Text} {f : Feature} :
    r.read text = .ok f ↔
      ∃ d, Draft.start.takeAll r.path r.vocabulary.examples (r.lines text) = .ok d ∧
        d.toFeature r.path r.featureId = .ok f := by
  unfold Reader.read ofLines
  cases Draft.start.takeAll r.path r.vocabulary.examples (r.lines text) with
  | error e => simp
  | ok d => cases hf : d.toFeature r.path r.featureId <;> simp [hf]

end Playbook.Document
