import Playbook.Proofs.Document.Missing

/-!
# Playbook.Proofs.Document.Relocation

The same lines at another place. A `Relocation` says on which line a line is found and how
far identifiers move up; features, faults and drafts are moved by it. A draft that is moved
takes the moved lines as the draft itself takes them: no decision of a reading looks at a
line number or an identifier.

The lines a draft has counted are not moved like the lines it has stored. They differ by
`drift`, and from the counted line on a relocation has to agree with it.
-/

namespace Playbook

/-! ### Features -/

/-- Where the parts of a feature are found elsewhere. -/
structure Relocation where
  /-- The line on which a line is found. -/
  line : Nat → Nat
  /-- How far the identifiers of scenarios move up. -/
  ids : Nat

def Step.relocate (m : Relocation) (s : Step) : Step := { s with line := m.line s.line }

def Scenario.relocate (m : Relocation) (s : Scenario) : Scenario :=
  { s with id := s.id + m.ids, line := m.line s.line, steps := s.steps.map (·.relocate m) }

def Example.relocate (m : Relocation) (ex : Example) : Example :=
  { ex with line := m.line ex.line }

def Block.relocate (m : Relocation) : Block → Block
  | scenario header => scenario (header.relocate m)
  | outline header columns examples generated =>
    outline (header.relocate m) columns (examples.map (·.relocate m)) (generated.map (·.relocate m))
  | loop header n generated => loop (header.relocate m) n (generated.map (·.relocate m))

def Feature.relocate (m : Relocation) (f : Feature) : Feature :=
  { f with line := m.line f.line, blocks := f.blocks.map (·.relocate m) }

namespace Document

def Fault.relocate (m : Relocation) (e : Fault) : Fault := { e with line := m.line e.line }

end Document

/-- Only a fault in the structure of a file knows a line. -/
def ReadError.relocate (m : Relocation) : ReadError → ReadError
  | malformed path fault => malformed path (fault.relocate m)
  | e => e

/-- An outcome whose value is moved in its own way and whose fault is found elsewhere. -/
def Relocation.outcome (m : Relocation) {α : Type} (move : α → α) :
    Except Document.Fault α → Except Document.Fault α
  | .ok a => .ok (move a)
  | .error e => .error (e.relocate m)

section

variable {m : Relocation} {α : Type} {move : α → α}

@[simp] theorem Relocation.outcome_ok (a : α) : m.outcome move (.ok a) = .ok (move a) := rfl

@[simp] theorem Relocation.outcome_error (e : Document.Fault) :
    m.outcome move (.error e : Except _ α) = .error (e.relocate m) := rfl

/-- What goes on from a moved value is moved if it goes on from the value so. -/
theorem Relocation.outcome_bind {β : Type} {next : β → β} {x : Except Document.Fault α}
    {f g : α → Except Document.Fault β}
    (h : ∀ a, x = .ok a → g (move a) = m.outcome next (f a)) :
    (m.outcome move x).bind g = m.outcome next (x.bind f) := by
  cases x with
  | ok a => exact h a rfl
  | error e => rfl

end

/-! ### Expansion -/

namespace Expansion

variable {m : Relocation} {template : Scenario}

theorem numbered_relocate (steps : List Step) :
    numbered (steps.map (·.relocate m)) = (numbered steps).map (·.relocate m) := by
  apply List.ext_getElem <;> simp [numbered, Step.relocate]

/-- What a moved outline generates is what the outline generates, moved. -/
theorem ofOutline_relocate (columns : Row) (examples : List Example) (firstId : Nat) :
    ofOutline (template.relocate m) columns (examples.map (·.relocate m)) (firstId + m.ids) =
      (ofOutline template columns examples firstId).map (·.relocate m) := by
  have hsteps : ∀ ex : Example,
      numbered ((template.steps.map (·.relocate m)).map fun step =>
          { step with sentence := Placeholder.fill columns ex.data step.sentence }) =
        (numbered (template.steps.map fun step =>
          { step with sentence := Placeholder.fill columns ex.data step.sentence })).map
          (·.relocate m) := by
    intro ex
    rw [← numbered_relocate, List.map_map, List.map_map]
    rfl
  apply List.ext_getElem
  · simp
  · intro i _ _
    simp only [ofOutline, ofRow, List.getElem_mapIdx, List.getElem_map, Scenario.relocate,
      Example.relocate, hsteps, Nat.add_right_comm firstId]

/-- What a moved loop generates is what the loop generates, moved. -/
theorem ofLoop_relocate (n firstId : Nat) :
    ofLoop (template.relocate m) n (firstId + m.ids) =
      (ofLoop template n firstId).map (·.relocate m) := by
  simp only [ofLoop, ofIteration, List.map_map, Function.comp_def, Scenario.relocate,
    numbered_relocate, Nat.add_right_comm firstId]

end Expansion

namespace Document

/-! ### Open blocks -/

def WaitingTag.relocate (m : Relocation) (t : WaitingTag) : WaitingTag :=
  { t with line := m.line t.line }

def Heading.relocate (m : Relocation) (h : Heading) : Heading := { h with line := m.line h.line }

def Examples.relocate (m : Relocation) (examples : Examples) : Examples :=
  { examples with rows := examples.rows.map (·.relocate m) }

def OpenKind.relocate (m : Relocation) : OpenKind → OpenKind
  | plain => plain
  | outline examples => outline (examples.map (·.relocate m))
  | loop n => loop n

def OpenBlock.relocate (m : Relocation) (b : OpenBlock) : OpenBlock :=
  { b with kind := b.kind.relocate m, scenario := b.scenario.relocate m }

namespace OpenBlock

variable {m : Relocation} {b : OpenBlock}

@[simp] theorem hasExamples_relocate (m : Relocation) (b : OpenBlock) :
    (b.relocate m).hasExamples = b.hasExamples := by
  obtain ⟨kind, scenario, tableOpen⟩ := b
  rcases kind with _ | ⟨_ | examples⟩ | n <;> rfl

/-- A moved block takes its rows where the block does. -/
theorem target_relocate (m : Relocation) (b : OpenBlock) :
    (b.relocate m).target =
      match b.target with
      | .nothing => .nothing
      | .step => .step
      | .examples examples => .examples (examples.relocate m) := by
  obtain ⟨kind, scenario, tableOpen⟩ := b
  rcases kind with _ | ⟨_ | examples⟩ | n <;>
    simp only [target, relocate, OpenKind.relocate, Option.map_none, Option.map_some,
      Scenario.relocate, List.isEmpty_map] <;>
    split <;> rfl

/-- A moved block closes to what the block closes to, moved. -/
theorem close?_relocate (firstId : Nat) :
    (b.relocate m).close? (firstId + m.ids) = (b.close? firstId).map (·.relocate m) := by
  obtain ⟨kind, scenario, tableOpen⟩ := b
  rcases kind with _ | ⟨_ | ⟨_ | columns, rows⟩⟩ | n <;>
    simp [close?, expand?, Expansion.loop, Expansion.outline, relocate, OpenKind.relocate,
      Examples.relocate, Block.relocate, Expansion.ofLoop_relocate,
      Expansion.ofOutline_relocate]

theorem pushStep_relocate {line line' : Nat} (h : m.line line = line') (kind : StepKind)
    (sentence path : Text) :
    (b.relocate m).pushStep kind sentence path line' =
      (b.pushStep kind sentence path line).relocate m := by
  simp [pushStep, relocate, Scenario.relocate, Step.relocate, h]

theorem pushRow_relocate (cells : Row) :
    (b.relocate m).pushRow cells = (b.pushRow cells).relocate m := by
  simp only [pushRow, relocate, Scenario.relocate, List.getLast?_map]
  cases b.scenario.steps.getLast? <;> simp [Step.relocate]

end OpenBlock

/-- Whether a row of examples fits does not depend on its line. -/
theorem Examples.push_relocate {m : Relocation} {line line' : Nat} (h : m.line line = line')
    (examples : Examples) (cells : Row) :
    (examples.relocate m).push cells line' = (examples.push cells line).map (·.relocate m) := by
  obtain ⟨_ | columns, rows⟩ := examples
  · rfl
  · simp only [push, relocate]
    split <;> simp [Except.map, Example.relocate, h]

/-! ### Drafts -/

namespace Draft

variable {path word : Text} {m : Relocation} {drift : Nat} {d : Draft} {line : Line}

/-- The draft as it is when `drift` more lines have been counted, and all that is stored in
it has moved. -/
@[simps] def relocate (m : Relocation) (drift : Nat) (d : Draft) : Draft where
  line := d.line + drift
  waiting := d.waiting.map (·.relocate m)
  heading := d.heading.map (·.relocate m)
  blocks := d.blocks.map (·.relocate m)
  current := d.current.map (·.relocate m)
  nextId := d.nextId + m.ids

theorem counted_relocate (m : Relocation) (drift : Nat) (d : Draft) :
    (d.relocate m drift).counted = d.counted.relocate m drift := by
  simp [counted, relocate, Nat.add_right_comm]

@[simp] theorem waitingTags_relocate (m : Relocation) (drift : Nat) (d : Draft) :
    (d.relocate m drift).waitingTags = d.waitingTags := by
  simp [waitingTags, WaitingTag.relocate]

theorem endTable_relocate (m : Relocation) (drift : Nat) (d : Draft) :
    (d.relocate m drift).endTable = d.endTable.relocate m drift := by
  simp [endTable, relocate, Function.comp_def, OpenBlock.relocate]

theorem endDescription_relocate (m : Relocation) (drift : Nat) (d : Draft) :
    (d.relocate m drift).endDescription = d.endDescription.relocate m drift := by
  simp [endDescription, relocate, Function.comp_def, Heading.relocate]

/-- A moved draft closes its block as the draft does, and gives out as many identifiers. -/
theorem closeBlock_relocate (m : Relocation) (drift : Nat) (d : Draft) :
    (d.relocate m drift).closeBlock = m.outcome (·.relocate m drift) d.closeBlock := by
  unfold closeBlock
  rw [relocate_current, relocate_nextId]
  cases hc : d.current with
  | none => rfl
  | some b =>
      simp only [Option.map_some, OpenBlock.close?_relocate]
      cases hb : b.close? d.nextId with
      | none => rfl
      | some block =>
          have hlength : (block.relocate m).generated.length = block.generated.length := by
            cases block <;> simp [Block.relocate, Block.generated]
          simp [relocate, withClosed, hlength, Nat.add_right_comm]

/-! ### Taking a line elsewhere

Here the line has been counted already, and the relocation agrees with the drift on it. -/

section

variable (h : m.line d.line = d.line + drift)

include h

theorem fault_relocate (defect : Defect) :
    (d.relocate m drift).fault defect = (d.fault defect).relocate m := by
  simp [fault, Fault.relocate, h]

theorem takeTag_relocate (tag : Tag) :
    (d.relocate m drift).takeTag tag = (d.takeTag tag).relocate m drift := by
  simp only [takeTag, endTable_relocate, endDescription_relocate]
  simp [relocate, WaitingTag.relocate, h]

theorem takeFeature_relocate (sentence : Text) :
    (d.relocate m drift).takeFeature sentence =
      m.outcome (·.relocate m drift) (d.takeFeature sentence) := by
  unfold takeFeature
  rw [relocate_heading, Option.isSome_map]
  split
  · rw [fault_relocate h, Relocation.outcome_error]
  · simp only [waitingTags_relocate, Relocation.outcome_ok]
    simp [relocate, Heading.relocate, h]

theorem takeHeader_relocate (path : Text) (kind : HeaderKind) (sentence : Text) :
    (d.relocate m drift).takeHeader path kind sentence =
      m.outcome (·.relocate m drift) (d.takeHeader path kind sentence) := by
  unfold takeHeader
  rw [closeBlock_relocate]
  cases hclose : d.closeBlock with
  | error e => rfl
  | ok closed =>
      have hline : m.line closed.line = closed.line + drift := by
        rw [(closeBlock_keeps hclose).1, h]
      have hkind : (openKind kind).relocate m = openKind kind := by cases kind <;> rfl
      simp only [Relocation.outcome_ok, waitingTags_relocate, endDescription_relocate]
      simp [relocate, OpenBlock.relocate, hkind, Scenario.relocate, hline, Nat.add_right_comm]

theorem takeExamples_relocate (word : Text) :
    (d.relocate m drift).takeExamples word =
      m.outcome (·.relocate m drift) (d.takeExamples word) := by
  unfold takeExamples
  rw [relocate_current]
  cases d.current with
  | none => simp [fault_relocate h]
  | some b =>
      obtain ⟨kind, scenario, tableOpen⟩ := b
      rcases kind with _ | ⟨_ | examples⟩ | n <;>
        simp [OpenBlock.relocate, OpenKind.relocate, fault_relocate h]
      simp [relocate, OpenBlock.relocate, OpenKind.relocate, Examples.relocate]

theorem takeRow_relocate (cells : Row) :
    (d.relocate m drift).takeRow cells = m.outcome (·.relocate m drift) (d.takeRow cells) := by
  unfold takeRow
  rw [relocate_current]
  cases d.current with
  | none => simp [fault_relocate h]
  | some b =>
      simp only [Option.map_some, OpenBlock.target_relocate]
      cases b.target with
      | nothing => simp [fault_relocate h]
      | step =>
          simp only [OpenBlock.pushRow_relocate]
          rfl
      | examples examples =>
          simp only [relocate_line, Examples.push_relocate h]
          cases examples.push cells d.line with
          | ok examples => rfl
          | error defect => exact congrArg Except.error (fault_relocate h defect)

theorem takeStep_relocate (path : Text) (kind : StepKind) (sentence : Text) :
    (d.relocate m drift).takeStep path kind sentence =
      m.outcome (·.relocate m drift) (d.takeStep path kind sentence) := by
  unfold takeStep
  rw [relocate_current]
  cases d.current with
  | none => simp [fault_relocate h]
  | some b =>
      simp only [Option.map_some, OpenBlock.hasExamples_relocate, relocate_line,
        OpenBlock.pushStep_relocate h]
      split
      · rw [fault_relocate h, Relocation.outcome_error]
      · rfl

theorem takeProse_relocate (text : Text) :
    (d.relocate m drift).takeProse text = m.outcome (·.relocate m drift) (d.takeProse text) := by
  unfold takeProse
  rw [relocate_heading]
  cases d.heading with
  | none => simp [fault_relocate h]
  | some heading =>
      have hopen : (heading.relocate m).isOpen = heading.isOpen := rfl
      simp only [Option.map_some, hopen]
      split
      · rfl
      · rw [fault_relocate h, Relocation.outcome_error]

theorem placeBody_relocate (line : Line) :
    placeBody path word (d.relocate m drift) line =
      m.outcome (·.relocate m drift) (placeBody path word d line) := by
  have hinside : (d.relocate m drift).inDescription = d.inDescription := by
    simp [inDescription, Option.any_map, Heading.relocate]
  cases line with
  | examples => exact takeExamples_relocate h word
  | row cells => exact takeRow_relocate h cells
  | step kind sentence =>
      simp only [placeBody, hinside]
      split
      · exact takeProse_relocate h sentence
      · exact takeStep_relocate h path kind sentence
  | prose text => exact takeProse_relocate h text
  | _ => rfl

end

/-! ### Lines elsewhere -/

/-- A moved draft takes a line as the draft does, where the relocation agrees with the drift
on that line. -/
theorem place_relocate (h : m.line (d.line + 1) = d.line + 1 + drift) (line : Line) :
    (d.relocate m drift).place path word line =
      m.outcome (·.relocate m drift) (d.place path word line) := by
  have hcounted : m.line d.counted.line = d.counted.line + drift := h
  have hheading : (d.relocate m drift).heading.isNone = d.heading.isNone := by simp
  have hwaiting : (d.relocate m drift).waiting.isEmpty = d.waiting.isEmpty := by simp
  cases line using Line.casesBody with
  | blank => rw [place_blank, counted_relocate, endTable_relocate]; rfl
  | comment => rw [place_comment, counted_relocate]; rfl
  | tag label => rw [place_tag, counted_relocate, takeTag_relocate hcounted]; rfl
  | feature sentence => rw [place_feature, counted_relocate, takeFeature_relocate hcounted]; rfl
  | scenario kind sentence =>
      rw [place_scenario, place_scenario, hheading, counted_relocate]
      split
      · rw [fault_relocate hcounted, Relocation.outcome_error]
      · exact takeHeader_relocate hcounted path kind sentence
  | badHeader =>
      rw [place_badHeader, place_badHeader, hheading, counted_relocate]
      split <;> rw [fault_relocate hcounted, Relocation.outcome_error]
  | body line hbody =>
      rw [place_of_isBody hbody, place_of_isBody hbody, hheading, hwaiting, counted_relocate]
      split
      · rw [fault_relocate hcounted, Relocation.outcome_error]
      · split
        · rw [fault_relocate hcounted, Relocation.outcome_error]
        · exact placeBody_relocate hcounted line

/-- **Lines elsewhere.** A moved draft takes lines as the draft does, where the relocation
agrees with the drift on all of them. -/
theorem takeAll_relocate {lines : List Line}
    (h : ∀ n, d.line < n → n ≤ d.line + lines.length → m.line n = n + drift) :
    (d.relocate m drift).takeAll path word lines =
      m.outcome (·.relocate m drift) (d.takeAll path word lines) := by
  induction lines generalizing d with
  | nil => rfl
  | cons line rest ih =>
      rw [List.length_cons] at h
      have hline : m.line (d.line + 1) = d.line + 1 + drift := h _ (by omega) (by omega)
      rw [takeAll_cons_eq, takeAll_cons_eq, place_relocate hline]
      refine Relocation.outcome_bind fun next hnext => ih fun n hlt hle => ?_
      have hcount : next.line = d.line + 1 := (place_eq_ok_iff.mp hnext).line_eq
      exact h n (by omega) (by omega)

/-- The end of a file is the same elsewhere, unless there is nothing to end. -/
theorem toFeature_relocate {id : Nat} (h : d.heading ≠ none) :
    (d.relocate m drift).toFeature path id = m.outcome (·.relocate m) (d.toFeature path id) := by
  obtain ⟨heading, hh⟩ := Option.ne_none_iff_exists'.mp h
  unfold toFeature
  rw [closeBlock_relocate, relocate_heading, relocate_waiting, hh]
  cases d.waiting with
  | cons first rest => rfl
  | nil => cases d.closeBlock <;> rfl

/-- **Files elsewhere.** A moved draft becomes the moved feature or meets the moved fault,
unless the feature is missing. -/
theorem finish_relocate {id : Nat} {lines : List Line}
    (h : ∀ n, d.line < n → n ≤ d.line + lines.length → m.line n = n + drift)
    (hfound : ∀ n, d.finish path word id lines ≠ .error ⟨n, .missingFeature⟩) :
    (d.relocate m drift).finish path word id lines =
      m.outcome (·.relocate m) (d.finish path word id lines) := by
  rw [finish, takeAll_relocate h]
  refine Relocation.outcome_bind fun d' hall => toFeature_relocate fun hnone => ?_
  exact hfound _ (finish_eq_missing_iff.mpr ⟨d', hall, hnone, rfl⟩)

/-- Where a feature is missing, it is missing elsewhere as well. -/
theorem finish_relocate_missing {id n : Nat} {lines : List Line}
    (h : ∀ n, d.line < n → n ≤ d.line + lines.length → m.line n = n + drift)
    (hmissing : d.finish path word id lines = .error ⟨n, .missingFeature⟩) :
    n = max (d.line + lines.length) 1 ∧ (d.relocate m drift).finish path word id lines =
      .error ⟨max (d.line + lines.length + drift) 1, .missingFeature⟩ := by
  obtain ⟨d', hall, hnone, rfl⟩ := finish_eq_missing_iff.mp hmissing
  have hline := line_eq_of_takeAll hall
  refine ⟨by rw [hline], finish_eq_missing_iff.mpr ⟨d'.relocate m drift, ?_, ?_, ?_⟩⟩
  · rw [takeAll_relocate h, hall, Relocation.outcome_ok]
  · rw [relocate_heading, hnone, Option.map_none]
  · rw [relocate_line, hline]

end Draft

end Document

end Playbook
