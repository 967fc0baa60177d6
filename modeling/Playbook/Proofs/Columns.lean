import Mathlib.Data.List.Forall2
import Mathlib.Data.List.InsertIdx
import Playbook.Expansion
import Playbook.Proofs.Keys
import Playbook.Proofs.Placeholder.Tokens

/-!
# Playbook.Proofs.Columns

The columns of a table of examples may stand in any order, and a column that no step asks for may
be left out or put in anywhere. A row enters the expansion of an outline only through what the
names of the tokens stand for (`outline_congr`), and a name that one column has stands for its cell
wherever that column is: columns paired with their cells are looked up alike in every order.
-/

namespace Playbook

open Placeholder (cell? tokens)

variable {columns row : Row} {name cell : Text} {positions : List Nat}

/-! ### Rearranged rows -/

/-- The cells that stand at some positions, in the order of the positions. -/
def Row.arranged (positions : List Nat) (row : Row) : Row := positions.map fun i => row.getD i []

namespace Placeholder

/-- Rearranging the columns and their row alike rearranges the pairs. -/
theorem zip_arranged (hwidth : row.length = columns.length)
    (hpositions : positions.Perm (List.range columns.length)) :
    ((columns.arranged positions).zip (row.arranged positions)).Perm (columns.zip row) := by
  have hall : (List.range columns.length).map (fun i => (columns.getD i [], row.getD i [])) =
      columns.zip row := by
    refine List.ext_getElem (by simp [hwidth]) fun i hi _ => ?_
    have hcolumn : i < columns.length := by simpa using hi
    simp [hcolumn, hwidth ▸ hcolumn]
  rw [Row.arranged, Row.arranged, List.zip_map', ← hall]
  exact hpositions.map _

/-- Inserting a column and a cell at the same position adds one pair. -/
theorem zip_insertIdx (hwidth : row.length = columns.length) {i : Nat} (hi : i ≤ columns.length)
    (name cell : Text) :
    ((columns.insertIdx i name).zip (row.insertIdx i cell)).Perm
      ((name, cell) :: columns.zip row) := by
  induction i generalizing columns row with
  | zero => simp
  | succ i ih =>
      cases columns with
      | nil => simp at hi
      | cons column columns =>
          cases row with
          | nil => simp at hwidth
          | cons first row =>
              have hrest := ih (Nat.succ.inj hwidth) (Nat.le_of_succ_le_succ hi)
              rw [List.insertIdx_succ_cons, List.insertIdx_succ_cons, List.zip_cons_cons,
                List.zip_cons_cons]
              exact (hrest.cons _).trans (List.Perm.swap _ _ _)

/-- A name stands for the same cell however the columns are arranged. -/
theorem cell?_arranged (hnodup : columns.Nodup) (hwidth : row.length = columns.length)
    (hpositions : positions.Perm (List.range columns.length)) (name : Text) :
    cell? (columns.arranged positions) (row.arranged positions) name = cell? columns row name := by
  refine lookup_perm ?_ (zip_arranged hwidth hpositions) name
  rwa [List.map_fst_zip (Nat.le_of_eq hwidth.symm)]

/-- A name stands for the same cell beside a column that has a new name. -/
theorem cell?_insertIdx (hnodup : columns.Nodup) (hwidth : row.length = columns.length) {i : Nat}
    (hi : i ≤ columns.length) {new : Text} (hnew : new ∉ columns) (cell : Text)
    (hname : name ≠ new) :
    cell? (columns.insertIdx i new) (row.insertIdx i cell) name = cell? columns row name := by
  have hkeys : (((new, cell) :: columns.zip row).map (·.1)).Nodup := by
    rw [List.map_cons, List.map_fst_zip (Nat.le_of_eq hwidth.symm)]
    exact List.nodup_cons.mpr ⟨hnew, hnodup⟩
  rw [cell?, lookup_perm hkeys (zip_insertIdx hwidth hi new cell), List.lookup_cons,
    beq_false_of_ne hname]
  rfl

end Placeholder

/-! ### Expansion -/

namespace Expansion

variable {template : Scenario} {columns' : Row} {examples examples' : List Example}

/-- Two rows of examples, each below its own columns, stand on the same line and have the same
cells for all tokens of a template. -/
def Alike (template : Scenario) (columns columns' : Row) (ex ex' : Example) : Prop :=
  ex'.line = ex.line ∧ ∀ step ∈ template.steps, ∀ name ∈ tokens step.sentence,
    cell? columns' ex'.data name = cell? columns ex.data name

theorem Alike.ofRow_eq {ex ex' : Example} (h : Alike template columns columns' ex ex')
    (firstId i : Nat) :
    ofRow template columns' firstId i ex' = ofRow template columns firstId i ex := by
  have hsteps : (template.steps.map fun step =>
        { step with sentence := Placeholder.fill columns' ex'.data step.sentence }) =
      template.steps.map fun step =>
        { step with sentence := Placeholder.fill columns ex.data step.sentence } := by
    refine List.map_congr_left fun step hstep => ?_
    rw [Placeholder.fill_congr (h.2 step hstep)]
  rw [ofRow, ofRow, hsteps, h.1]

theorem Alike.rowEvents_eq {ex ex' : Example} (h : Alike template columns columns' ex ex')
    (firstId i : Nat) :
    rowEvents template columns' firstId i ex' = rowEvents template columns firstId i ex := by
  rw [rowEvents, rowEvents]
  congr 1
  exact List.flatMap_congr fun step hstep => Placeholder.events_congr (h.2 step hstep)

/-- Tables whose rows are alike expand alike. -/
theorem outline_congr (h : List.Forall₂ (Alike template columns columns') examples examples')
    (firstId : Nat) :
    outline template columns' examples' firstId = outline template columns examples firstId := by
  have hlength := h.length_eq
  have halike := (List.forall₂_iff_get.mp h).2
  have hgenerated : ofOutline template columns' examples' firstId =
      ofOutline template columns examples firstId := by
    refine List.ext_getElem (by simp [hlength]) fun i hi' hi => ?_
    simp only [ofOutline, List.getElem_mapIdx]
    exact (halike i (by simpa using hi) (by simpa using hi')).ofRow_eq firstId i
  have hreported : (examples'.mapIdx fun row ex => rowEvents template columns' firstId row ex) =
      examples.mapIdx fun row ex => rowEvents template columns firstId row ex := by
    refine List.ext_getElem (by simp [hlength]) fun i hi' hi => ?_
    simp only [List.getElem_mapIdx]
    exact (halike i (by simpa using hi) (by simpa using hi')).rowEvents_eq firstId i
  rw [outline, outline, hgenerated, hreported]

/-- **Columns.** The scenarios of an outline and what is reported while they are generated stay
the same when its columns are permuted, the header and all rows alike, and when a column of a new
name that is the inside of no token is inserted, whatever its cells are. -/
theorem expand_of_rearranged (hnodup : columns.Nodup)
    (hwidth : ∀ ex ∈ examples, ex.data.length = columns.length) (firstId : Nat) :
    (∀ positions : List Nat, positions.Perm (List.range columns.length) →
      outline template (columns.arranged positions)
          (examples.map fun ex => { ex with data := ex.data.arranged positions }) firstId =
        outline template columns examples firstId) ∧
    ∀ (i : Nat) (name : Text) (cells : Nat → Text), i ≤ columns.length → name ∉ columns →
      (∀ step ∈ template.steps, name ∉ tokens step.sentence) →
        outline template (columns.insertIdx i name)
            (examples.mapIdx fun k ex => { ex with data := ex.data.insertIdx i (cells k) })
            firstId =
          outline template columns examples firstId := by
  constructor
  · intro positions hpositions
    refine outline_congr ?_ firstId
    rw [List.forall₂_map_right_iff, List.forall₂_same]
    intro ex hex
    exact ⟨rfl, fun _ _ name _ => Placeholder.cell?_arranged hnodup (hwidth ex hex) hpositions name⟩
  · intro i new cells hi hnew hunused
    refine outline_congr ?_ firstId
    rw [List.forall₂_iff_get]
    refine ⟨by simp, fun k hk _ => ?_⟩
    simp only [List.get_eq_getElem, List.getElem_mapIdx]
    refine ⟨rfl, fun step hstep name hname => ?_⟩
    have hne : name ≠ new := fun he => hunused step hstep (he ▸ hname)
    exact Placeholder.cell?_insertIdx hnodup (hwidth _ (List.getElem_mem hk)) hi hnew _ hne

/-- A template whose step asks for two columns and for one that is not there. -/
def pairTemplate : Scenario where
  id := 4
  sentence := "o".toList
  path := ['p']
  line := 2
  tags := []
  steps := [⟨1, .givenStep, "Given <a>, <b>, <x>".toList, ['p'], 3, []⟩]

/-- The two columns are exchanged, and a third one is put between them. -/
theorem expand_of_rearranged_pair :
    let columns : Row := [['a'], ['b']]
    let examples : List Example := [⟨[['1'], ['2']], 6⟩, ⟨[['3'], []], 7⟩]
    columns.Nodup ∧ (∀ ex ∈ examples, ex.data.length = columns.length) ∧
      [1, 0].Perm (List.range columns.length) ∧
      outline pairTemplate [['b'], ['a']] [⟨[['2'], ['1']], 6⟩, ⟨[[], ['3']], 7⟩] 5 =
        outline pairTemplate columns examples 5 ∧
      (['c'] ∉ columns ∧ ∀ step ∈ pairTemplate.steps, ['c'] ∉ tokens step.sentence) ∧
      outline pairTemplate [['a'], ['c'], ['b']]
          [⟨[['1'], ['0'], ['2']], 6⟩, ⟨[['3'], ['1'], []], 7⟩] 5 =
        outline pairTemplate columns examples 5 ∧
      (outline pairTemplate columns examples 5).scenarios.map (·.steps.map (·.sentence)) =
        [["Given 1, 2, <x>".toList], ["Given 3, , <x>".toList]] := by
  intro columns examples
  have hnodup : columns.Nodup := by decide
  have hwidth : ∀ ex ∈ examples, ex.data.length = columns.length := by decide
  have hpositions : [1, 0].Perm (List.range columns.length) := by decide
  have hnew : ['c'] ∉ columns := by decide
  have hunused : ∀ step ∈ pairTemplate.steps, ['c'] ∉ tokens step.sentence := by decide +kernel
  obtain ⟨hpermuted, hinserted⟩ := expand_of_rearranged hnodup hwidth 5
  exact ⟨hnodup, hwidth, hpositions, hpermuted [1, 0] hpositions, ⟨hnew, hunused⟩,
    hinserted 1 ['c'] Text.decimal (by decide) hnew hunused, by decide +kernel⟩

end Expansion

end Playbook
