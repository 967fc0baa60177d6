import Mathlib.Data.List.Forall2
import Playbook.Proofs.Text
import Playbook.Row

/-!
# Playbook.Proofs.Row

Reading a row of a table, and reading back cells that were written between bars. A row is written
with a bar before each cell, white space around the cells and around it all, and maybe a closing
bar. Trimming takes away the white space behind the last cell, so whether a row without a closing
bar is read back is a matter of what its last cell ends with: an empty one leaves the bar before
it to be taken for the closing one.
-/

namespace Playbook.Row

open Text (isBlank trim Trimmed AllBlank)

variable {cells : Row} {pieces : List Text} {cell piece line left right : Text}

/-! ### Reading -/

theorem ofLine_trim (line : Text) : ofLine (trim line) = ofLine line := by
  unfold ofLine
  rw [Text.trim_trim]

/-- White space around a row does not matter. -/
theorem ofLine_margins (hleft : AllBlank left) (hright : AllBlank right) (line : Text) :
    ofLine (left ++ line ++ right) = ofLine line := by
  unfold ofLine
  rw [Text.trim_append_of_allBlank hleft hright]

/-- A row is split at the bars within it. -/
theorem ofLine_bar {rest inner : Text} (ht : Trimmed (bar :: rest))
    (hrest : withoutClosing rest = inner) :
    ofLine (bar :: rest) = (inner.splitOn bar).map trim := by
  rw [ofLine, ht.eq, withoutOpening, if_pos rfl, hrest]

/-- At most one bar is taken off the end. -/
theorem exists_withoutClosing (rest : Text) :
    ∃ closing, rest = withoutClosing rest ++ closing ∧ (closing = [] ∨ closing = [bar]) := by
  unfold withoutClosing
  split
  · rename_i hlast
    obtain ⟨inner, rfl⟩ := List.getLast?_eq_some_iff.mp hlast
    exact ⟨[bar], by rw [List.dropLast_concat], .inr rfl⟩
  · exact ⟨[], (List.append_nil rest).symm, .inl rfl⟩

theorem ofLine_ne_nil (line : Text) : ofLine line ≠ [] := by
  rw [ofLine, ne_eq, List.map_eq_nil_iff]
  exact List.splitOn_ne_nil bar _

/-- What is read off a line is trimmed and holds no bar. -/
theorem trimmed_of_mem_ofLine (h : cell ∈ ofLine line) : Trimmed cell ∧ bar ∉ cell := by
  obtain ⟨piece, hpiece, rfl⟩ := List.mem_map.mp h
  obtain ⟨before, after, hsplit, -, -⟩ := Text.exists_append_trim piece
  refine ⟨Text.trimmed_trim piece, fun hmem => Text.not_mem_of_mem_splitOn _ piece hpiece ?_⟩
  rw [hsplit]
  exact List.mem_append_left _ (List.mem_append_right _ hmem)

/-! ### Writing -/

/-- The pieces, with a bar before each. -/
def barred (pieces : List Text) : Text := pieces.flatMap (bar :: ·)

theorem barred_concat (pieces : List Text) (piece : Text) :
    barred (pieces ++ [piece]) = barred pieces ++ bar :: piece := by
  simp [barred]

theorem barred_eq_intercalate (hne : pieces ≠ []) :
    barred pieces = bar :: [bar].intercalate pieces := by
  induction pieces with
  | nil => exact absurd rfl hne
  | cons piece rest ih =>
      rw [barred, List.flatMap_cons, List.cons_append, List.cons_inj_right]
      cases rest with
      | nil => exact (List.append_nil piece).trans List.intercalate_singleton.symm
      | cons next rest =>
          rw [List.intercalate_cons_cons, List.append_assoc, List.singleton_append]
          exact congrArg (piece ++ ·) (ih (List.cons_ne_nil next rest))

/-- The piece is the cell with white space around it. -/
def Pads (cell piece : Text) : Prop :=
  ∃ before after, AllBlank before ∧ AllBlank after ∧ piece = before ++ cell ++ after

theorem Pads.bar_not_mem (h : Pads cell piece) (hbar : bar ∉ cell) : bar ∉ piece := by
  obtain ⟨before, after, hbefore, hafter, rfl⟩ := h
  have hblank : ∀ {text : Text}, AllBlank text → bar ∉ text := fun htext hmem =>
    absurd (htext bar hmem) (by decide)
  simp [hblank hbefore, hbar, hblank hafter]

theorem Pads.trim_eq (h : Pads cell piece) (ht : Trimmed cell) : trim piece = cell := by
  obtain ⟨before, after, hbefore, hafter, rfl⟩ := h
  rw [Text.trim_append_of_allBlank hbefore hafter, ht.eq]

theorem pads_trim (piece : Text) : Pads (trim piece) piece := by
  obtain ⟨before, after, hsplit, hbefore, hafter⟩ := Text.exists_append_trim piece
  exact ⟨before, after, hbefore, hafter, hsplit⟩

/-! ### Reading what was written -/

/-- Pieces between bars are read as the cells of the row, each trimmed. -/
theorem ofLine_closed (hne : pieces ≠ []) (hbar : ∀ piece ∈ pieces, bar ∉ piece) :
    ofLine (barred pieces ++ [bar]) = pieces.map trim := by
  rw [barred_eq_intercalate hne, List.cons_append]
  have ht : Trimmed (bar :: ([bar].intercalate pieces ++ [bar])) := by
    refine Text.trimmed_iff.mpr ⟨fun c hc => ?_, fun c hc => ?_⟩
    · cases hc
      decide
    · rw [← List.cons_append, List.getLast?_concat] at hc
      cases hc
      decide
  have hrest : withoutClosing ([bar].intercalate pieces ++ [bar]) = [bar].intercalate pieces := by
    simp [withoutClosing]
  rw [ofLine_bar ht hrest, List.splitOn_intercalate bar hbar hne]

/-- Without a closing bar they are read so, too, if the last one ends with something that cannot
be taken for white space or a closing bar. -/
theorem ofLine_open (hne : pieces ≠ []) (hbar : ∀ piece ∈ pieces, bar ∉ piece)
    (hlast : ∀ c, (barred pieces).getLast? = some c → isBlank c = false ∧ c ≠ bar) :
    ofLine (barred pieces) = pieces.map trim := by
  rw [barred_eq_intercalate hne] at hlast ⊢
  have ht : Trimmed (bar :: [bar].intercalate pieces) := by
    refine Text.trimmed_iff.mpr ⟨fun c hc => ?_, fun c hc => (hlast c hc).1⟩
    cases hc
    decide
  have hrest : withoutClosing ([bar].intercalate pieces) = [bar].intercalate pieces := by
    refine if_neg fun hclosing => (hlast bar ?_).2 rfl
    rw [List.getLast?_cons, hclosing, Option.getD_some]
  rw [ofLine_bar ht hrest, List.splitOn_intercalate bar hbar hne]

/-- The last piece of a row without a closing bar is read if there is more to it than white
space. -/
theorem ofLine_open_concat (hbar : ∀ p ∈ pieces ++ [piece], bar ∉ p) (hpiece : trim piece ≠ []) :
    ofLine (barred (pieces ++ [piece])) = (pieces ++ [piece]).map trim := by
  obtain ⟨before, after, hsplit, hbefore, hafter⟩ := Text.exists_append_trim piece
  obtain ⟨hpieces, hlast⟩ := List.forall_mem_append.mp hbar
  have hstart : bar ∉ before ++ trim piece := fun hmem =>
    hlast piece List.mem_cons_self (hsplit ▸ List.mem_append_left _ hmem)
  -- The white space behind the last piece belongs to the margin.
  have hline : barred (pieces ++ [piece]) =
      [] ++ barred (pieces ++ [before ++ trim piece]) ++ after := by
    rw [barred_concat, barred_concat, List.nil_append, List.append_assoc, List.cons_append,
      ← hsplit]
  have hends : ∀ c, (barred (pieces ++ [before ++ trim piece])).getLast? = some c →
      isBlank c = false ∧ c ≠ bar := by
    intro c hc
    rw [barred_concat, List.append_cons, ← List.append_assoc,
      List.getLast?_append_of_ne_nil _ hpiece] at hc
    refine ⟨(Text.trimmed_iff.mp (Text.trimmed_trim piece)).2 c hc, fun he => hstart ?_⟩
    exact List.mem_append_right _ (he ▸ List.mem_of_getLast? hc)
  have htrim : trim (before ++ trim piece) = trim piece := by
    have hmargins := Text.trim_append_of_allBlank hbefore Text.allBlank_nil (trim piece)
    rwa [List.append_nil, Text.trim_trim] at hmargins
  rw [hline, ofLine_margins Text.allBlank_nil hafter, ofLine_open (by simp) ?_ hends,
    List.map_append, List.map_append, List.map_singleton, List.map_singleton, htrim]
  exact List.forall_mem_append.mpr ⟨hpieces, List.forall_mem_singleton.mpr hstart⟩

/-- If there is not, the bar before it closes the row. -/
theorem ofLine_open_blank (hbar : ∀ p ∈ pieces, bar ∉ p) (hpiece : trim piece = []) :
    ofLine (barred (pieces ++ [piece])) = if pieces = [] then [[]] else pieces.map trim := by
  obtain ⟨before, after, hsplit, hbefore, hafter⟩ := Text.exists_append_trim piece
  have hblank : AllBlank piece := by
    rw [hsplit, hpiece, List.append_nil]
    exact List.forall_mem_append.mpr ⟨hbefore, hafter⟩
  have hline : barred (pieces ++ [piece]) = [] ++ (barred pieces ++ [bar]) ++ piece := by
    rw [barred_concat, List.nil_append, List.append_assoc, List.singleton_append]
  rw [hline, ofLine_margins Text.allBlank_nil hblank]
  split
  · rename_i hnil
    rw [hnil]
    decide
  · rename_i hne
    exact ofLine_closed hne hbar

/-- A line that begins with a bar is made of the cells that are read off it. -/
theorem exists_barred (h : (trim line).head? = some bar) :
    ∃ pieces closing left right, line = left ++ (barred pieces ++ closing) ++ right ∧
      List.Forall₂ Pads (ofLine line) pieces ∧ (closing = [] ∨ closing = [bar]) ∧
      AllBlank left ∧ AllBlank right := by
  obtain ⟨rest, hrest⟩ := List.head?_eq_some_iff.mp h
  obtain ⟨closing, hclosing, hone⟩ := exists_withoutClosing rest
  obtain ⟨left, right, hsplit, hleft, hright⟩ := Text.exists_append_trim line
  have hread : ofLine line = ((withoutClosing rest).splitOn bar).map trim := by
    rw [← ofLine_trim, hrest]
    exact ofLine_bar (hrest ▸ Text.trimmed_trim line) rfl
  refine ⟨(withoutClosing rest).splitOn bar, closing, left, right, ?_, ?_, hone, hleft, hright⟩
  · rw [barred_eq_intercalate (List.splitOn_ne_nil bar _), List.intercalate_splitOn,
      List.cons_append, ← hclosing, ← hrest, ← hsplit]
  · rw [hread, List.forall₂_map_left_iff, List.forall₂_same]
    exact fun piece _ => pads_trim piece

/-! ### Both directions -/

theorem map_trim_of_pads (h : List.Forall₂ Pads cells pieces) (ht : ∀ cell ∈ cells, Trimmed cell) :
    pieces.map trim = cells := by
  induction h with
  | nil => rfl
  | cons hpads _ ih =>
      obtain ⟨hcell, hcells⟩ := List.forall_mem_cons.mp ht
      rw [List.map_cons, hpads.trim_eq hcell, ih hcells]

theorem bar_not_mem_of_pads (h : List.Forall₂ Pads cells pieces)
    (hbar : ∀ cell ∈ cells, bar ∉ cell) : ∀ piece ∈ pieces, bar ∉ piece := by
  induction h with
  | nil => exact fun _ hmem => absurd hmem List.not_mem_nil
  | cons hpads _ ih =>
      obtain ⟨hcell, hcells⟩ := List.forall_mem_cons.mp hbar
      exact List.forall_mem_cons.mpr ⟨hpads.bar_not_mem hcell, ih hcells⟩

/-- **Rows.** Trimmed cells without bars are read back from a row that they were written to, with
whatever white space around each of them and around the row. If the closing bar is left out they
are read back exactly if the last one is not empty, or is the only one. What is read off a line is
never empty, and its cells are trimmed and hold no bar; and a line that begins with a bar is a row
of the cells that are read off it. -/
theorem cells_between_bars :
    (∀ (cells : Row) (pieces : List Text) (left right : Text), cells ≠ [] →
      (∀ cell ∈ cells, Trimmed cell ∧ bar ∉ cell) → List.Forall₂ Pads cells pieces →
      AllBlank left → AllBlank right →
      ofLine (left ++ (barred pieces ++ [bar]) ++ right) = cells ∧
        (ofLine (left ++ barred pieces ++ right) = cells ↔
          cells.getLast? ≠ some [] ∨ cells = [[]])) ∧
    ∀ line, ofLine line ≠ [] ∧ (∀ cell ∈ ofLine line, Trimmed cell ∧ bar ∉ cell) ∧
      ((trim line).head? = some bar →
        ∃ pieces closing left right, line = left ++ (barred pieces ++ closing) ++ right ∧
          List.Forall₂ Pads (ofLine line) pieces ∧ (closing = [] ∨ closing = [bar]) ∧
          AllBlank left ∧ AllBlank right) := by
  refine ⟨?_, fun line => ⟨ofLine_ne_nil line, fun cell => trimmed_of_mem_ofLine, exists_barred⟩⟩
  intro cells pieces left right hne hcells hpads hleft hright
  have htrim := map_trim_of_pads hpads fun cell hcell => (hcells cell hcell).1
  have hbar := bar_not_mem_of_pads hpads fun cell hcell => (hcells cell hcell).2
  have hpieces : pieces ≠ [] := fun hnil => by
    rw [hnil] at htrim
    exact hne htrim.symm
  rw [ofLine_margins hleft hright, ofLine_margins hleft hright]
  refine ⟨(ofLine_closed hpieces hbar).trans htrim, ?_⟩
  obtain ⟨init, last, rfl⟩ := (List.eq_nil_or_concat' pieces).resolve_left hpieces
  subst htrim
  rw [List.map_append, List.map_singleton, List.getLast?_concat]
  by_cases hlast : trim last = []
  · rw [ofLine_open_blank (List.forall_mem_append.mp hbar).1 hlast, hlast]
    split
    · rename_i hnil
      simp [hnil]
    · rename_i hinit
      simp [hinit]
  · rw [ofLine_open_concat hbar hlast]
    simp [hlast]

/-- An empty first cell, an ideographic space around the row, and a last cell that needs no
closing bar. -/
theorem cells_between_bars_spaced :
    let cells : Row := ["".toList, "a b".toList]
    let pieces := ["\t".toList, " a b\u00a0".toList]
    let line := "\u3000|\t| a b\u00a0|\r".toList
    cells ≠ [] ∧ (∀ cell ∈ cells, Trimmed cell ∧ bar ∉ cell) ∧ List.Forall₂ Pads cells pieces ∧
      line = "\u3000".toList ++ (barred pieces ++ [bar]) ++ "\r".toList ∧ ofLine line = cells ∧
      ofLine ("\u3000".toList ++ barred pieces ++ "\r".toList) = cells := by
  intro cells pieces line
  have hcells : ∀ cell ∈ cells, Trimmed cell ∧ bar ∉ cell := by decide
  have hpads : List.Forall₂ Pads cells pieces :=
    .cons ⟨"\t".toList, [], by decide, by decide, by decide⟩
      (.cons ⟨" ".toList, "\u00a0".toList, by decide, by decide, by decide⟩ .nil)
  obtain ⟨hwritten, -⟩ := cells_between_bars
  obtain ⟨hclosed, hopen⟩ := hwritten cells pieces "\u3000".toList "\r".toList (by decide) hcells
    hpads (by decide) (by decide)
  exact ⟨by decide, hcells, hpads, by decide, hclosed, hopen.mpr (.inl (by decide))⟩

end Playbook.Row
