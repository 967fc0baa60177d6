import Playbook.Proofs.Document.Expansion
import Playbook.Proofs.Document.Passage
import Playbook.Proofs.Placeholder.Tokens

/-!
# Playbook.Proofs.Document.Warnings

What is warned about while a file is read. Warnings come from outlines alone, where a token in a
step names no column: such a token is kept as it is, once for every row of examples. Rows are as
wide as the columns, so which tokens these are does not depend on the cells.

Without a warning nothing is left out. A token that hides that of a column has an opening angle
bracket in its inside and names no column itself, so it would have been warned about.
-/

namespace Playbook

open Placeholder (IsColumnName Scan tokens replaceAll)

/-! ### Blocks -/

namespace Block

/-- The warnings that a block gives rise to: row by row and step by step, one for each token of
the step whose inside is not the name of a column. -/
def warnings : Block → List Event
  | .outline template columns examples _ =>
    examples.flatMap fun _ => template.steps.flatMap fun step =>
      Placeholder.warnings columns step.sentence
  | _ => []

end Block

namespace Expansion

/-- For each row the tokens are reported first and the generated scenario, which is no warning,
after them. -/
theorem filter_rowEvents {template : Scenario} {columns : Row} {ex : Example}
    (hwidth : ex.data.length = columns.length) (firstId row : Nat) :
    (rowEvents template columns firstId row ex).filter (fun event => event.level = .warn) =
      template.steps.flatMap fun step => Placeholder.warnings columns step.sentence := by
  have hsteps : ∀ step : Step, (Placeholder.events columns ex.data step.sentence).filter
      (fun event => event.level = .warn) = Placeholder.warnings columns step.sentence := by
    intro step
    rw [Placeholder.events_eq_warnings hwidth, List.filter_eq_self]
    intro event hevent
    obtain ⟨name, -, rfl⟩ := List.mem_map.mp hevent
    rfl
  rw [rowEvents, List.filter_append, List.filter_flatMap]
  simp only [hsteps]
  exact List.append_nil _

end Expansion

/-- The warnings among what a block reports. -/
theorem Block.filter_reports {b : Block} (h : b.Faithful) :
    b.reports.filter (fun event => event.level = .warn) = b.warnings := by
  cases b with
  | scenario header => rfl
  | loop header n generated => rfl
  | outline template columns examples generated =>
      obtain ⟨hwidths, -⟩ := h
      have hrows : ∀ entry ∈ examples.zipIdx,
          (Expansion.rowEvents template columns (template.id + 1) entry.2 entry.1).filter
              (fun event => event.level = .warn) =
            template.steps.flatMap fun step => Placeholder.warnings columns step.sentence := by
        intro entry hentry
        have hmem : entry.1 ∈ examples :=
          List.mem_of_getElem? (List.mem_zipIdx_iff_getElem?.mp hentry)
        exact Expansion.filter_rowEvents (hwidths _ hmem) _ entry.2
      show (examples.mapIdx _).flatten.filter _ = _
      rw [List.filter_flatten, List.mapIdx_eq_zipIdx_map, List.map_map, Block.warnings]
      calc _ = (examples.zipIdx.map fun _ => template.steps.flatMap fun step =>
              Placeholder.warnings columns step.sentence).flatten :=
            congrArg List.flatten (List.map_congr_left hrows)
        _ = _ := by
            rw [List.map_const', List.length_zipIdx, ← List.map_const', ← List.flatMap_def]

/-! ### Features -/

namespace Feature

open Document

variable {κ : Type} {r : Reader κ} {text : Text} {f : Feature}

/-- The names of columns stand in the cells of a row, so they are trimmed. -/
theorem trimmed_of_mem_columns (h : r.read text = .ok f) {template : Scenario} {columns : Row}
    {examples : List Example} {generated : List Scenario}
    (hb : .outline template columns examples generated ∈ f.blocks) :
    ∀ name ∈ columns, Text.Trimmed name := by
  have hentry : ⟨none, .row columns⟩ ∈ f.entries := by
    refine List.mem_append_right _ (List.mem_flatMap.mpr ⟨_, hb, ?_⟩)
    exact List.mem_append_right _ (List.mem_cons_of_mem _ List.mem_cons_self)
  obtain ⟨source, -, hstands, -⟩ := exists_source_of_mem_entries h hentry
  have hcells : columns = Row.ofLine source.1 := by
    generalize hitem : Item.row columns = item at hstands
    cases hstands with
    | row _ =>
        cases hitem
        rfl
    | _ => cases hitem
  rw [hcells]
  intro name hname
  obtain ⟨cell, -, rfl⟩ := List.mem_map.mp hname
  exact Text.trimmed_trim cell

/-- **Warnings.** The warnings of a reading are, outline by outline, row by row and step by step,
one for each token of the step whose inside is not the name of a column; the tokens are those
that a scan from left to right finds. In an outline whose columns have names that are not empty
and hold no angle brackets, a generated step that nothing is warned about is the step of the
template with the cell of the row in the place of every token of a column. -/
theorem warnings_of_read (h : r.read text = .ok f) :
    (r.events text).filter (fun event => event.level = .warn) = f.blocks.flatMap Block.warnings ∧
    (∀ b ∈ f.blocks, ∀ step ∈ b.header.steps, ∀ names,
      Scan step.sentence names ↔ tokens step.sentence = names) ∧
    ∀ template columns examples generated,
      .outline template columns examples generated ∈ f.blocks →
      (∀ name ∈ columns, name ≠ [] ∧ '<' ∉ name ∧ '>' ∉ name) →
        List.Forall₂ (fun ex s => List.Forall₂ (fun step filled =>
          Placeholder.events columns ex.data step.sentence = [] →
            filled.sentence = replaceAll columns ex.data step.sentence) template.steps s.steps)
          examples generated := by
  have hfaithful := faithful_of_read h
  refine ⟨?_, fun _ _ _ _ _ => Placeholder.scan_iff, ?_⟩
  · have hblocks : (f.blocks.flatMap Block.reports).filter (fun event => event.level = .warn) =
        f.blocks.flatMap Block.warnings := by
      rw [List.filter_flatMap]
      exact List.flatMap_congr fun b hb => Block.filter_reports (hfaithful b hb)
    rw [Reader.events_of_read h, List.cons_append,
      List.filter_cons_of_neg (by simp [Reader.startEvent]), List.filter_append, hblocks]
    exact List.append_nil _
  · intro template columns examples generated hb hnames
    obtain ⟨hwidths, hgenerated⟩ := hfaithful _ hb
    have hcolumns : ∀ name ∈ columns, IsColumnName name := by
      intro name hname
      obtain ⟨hne, hopening, hclosing⟩ := hnames name hname
      have hstart := (Text.trimmed_iff.mp (trimmed_of_mem_columns h hb name hname)).1
      exact ⟨⟨hne, hstart, hclosing⟩, hopening⟩
    rw [hgenerated, List.forall₂_iff_get]
    refine ⟨by simp, fun i hi _ => ?_⟩
    simp only [List.get_eq_getElem, List.getElem_mapIdx, List.forall₂_map_right_iff,
      List.forall₂_same]
    intro step _ hsilent
    have hwidth := hwidths _ (List.getElem_mem hi)
    rw [Placeholder.events_eq_warnings hwidth] at hsilent
    exact Placeholder.fill_eq_replaceAll_of_warnings hcolumns hsilent _

/-- A plain scenario and a loop with tokens, and an outline of two rows. Of its steps the first
has a column and two other tokens, the second a column alone. -/
def tokensText : Text :=
  ("Feature: f\nScenario: s\nGiven <x>\nScenario Outline: o\nGiven <a> and <x><a b>\n" ++
    "Then <b> < 3\nExamples:\n|a|b|\n|1|<x>|\n|2||\nScenario Loop 2: l\nThen <y>").toList

theorem warnings_of_read_tokens :
    let r : Reader Unit := ⟨(), ['p'], 1, Vocabulary.english⟩
    ∃ f, r.read tokensText = .ok f ∧
      (r.events tokensText).filter (fun event => event.level = .warn) =
        ["x", "a b", "x", "a b"].map (fun name => Placeholder.missingEvent name.toList) ∧
      ∃ template columns examples generated,
        .outline template columns examples generated ∈ f.blocks ∧
        (∀ name ∈ columns, name ≠ [] ∧ '<' ∉ name ∧ '>' ∉ name) ∧
        examples.map (·.data) = [["1".toList, "<x>".toList], ["2".toList, []]] ∧
        List.Forall₂ (fun ex s => List.Forall₂ (fun step filled =>
          Placeholder.events columns ex.data step.sentence = [] →
            filled.sentence = replaceAll columns ex.data step.sentence) template.steps s.steps)
          examples generated := by
  intro r
  have hwarnings : (r.read tokensText).toOption.map (·.blocks.flatMap Block.warnings) =
      some (["x", "a b", "x", "a b"].map fun name => Placeholder.missingEvent name.toList) := by
    decide +kernel
  have houtline : (r.read tokensText).toOption.bind (fun f => f.blocks[1]?.bind fun
      | .outline _ columns examples _ => some (columns, examples.map (·.data))
      | _ => none) =
        some ([['a'], ['b']], [["1".toList, "<x>".toList], ["2".toList, []]]) := by
    decide +kernel
  cases h : r.read tokensText with
  | error e => simp [h, Except.toOption] at hwarnings
  | ok f =>
      simp only [h, Except.toOption, Option.map_some, Option.some.injEq, Option.bind_some]
        at hwarnings houtline
      obtain ⟨hevents, -, hfilled⟩ := warnings_of_read h
      obtain ⟨b, hb, hdata⟩ := Option.bind_eq_some_iff.mp houtline
      cases b with
      | outline template columns examples generated =>
          obtain ⟨rfl, hrows⟩ := Prod.mk.inj (Option.some.inj hdata)
          have hmem := List.mem_of_getElem? hb
          have hnames : ∀ name ∈ [['a'], ['b']], name ≠ [] ∧ '<' ∉ name ∧ '>' ∉ name := by decide
          exact ⟨f, rfl, hevents.trans hwarnings, template, _, examples, generated, hmem, hnames,
            hrows, hfilled _ _ _ _ hmem hnames⟩
      | _ => cases hdata

end Feature

end Playbook
