import Playbook.Proofs.Document.Line
import Playbook.Proofs.Document.Relocation

/-!
# Playbook.Proofs.Document.Insertion

Lines that say nothing only shift the numbers of the lines below them. A comment may stand
anywhere. A blank line ends the table of a step, and so it may stand where no row would go
to that table: among examples, and where the next line that says anything is no row.

A longer text is read like the text up to the new line. From there on its draft is the other
one with one more line counted, which is a relocation, apart from the table that a blank
line has ended. `Draft.finish_endTable` says that this does not show.
-/

namespace Playbook.Document

open Text (trim)

/-! ### Where lines may be inserted -/

/-- The last header of a block in the lines is followed by an examples marker. -/
def EndsInExamples (v : Vocabulary) (lines : List Text) : Prop :=
  ∃ first marker last, lines = first ++ marker :: last ∧ Line.read v marker = .examples ∧
    ∀ line ∈ last, ∀ kind sentence, Line.read v line ≠ .scenario kind sentence

/-- A line that means nothing between the lines before it and those after it. -/
inductive Unheard (v : Vocabulary) (before : List Text) (line : Text) (after : List Text) : Prop
  | comment (h : (trim line).head? = some '#')
  | blank (h : trim line = [])
      (next : ∀ next ∈ firstSpeaking after, (trim next).head? ≠ some Row.bar)
  | amongExamples (h : trim line = []) (examples : EndsInExamples v before)

/-- Where lines are found once a line has been inserted after the first `p`. -/
def insertionAfter (p : Nat) : Relocation where
  line n := if n ≤ p then n else n + 1
  ids := 0

namespace Draft

variable {path word : Text} {id : Nat} {d d' : Draft} {lines : List Line} {line : Line}

/-! ### Among examples -/

/-- The open block is an outline that has begun its examples. -/
def InExamples (d : Draft) : Prop := ∃ b, d.current = some b ∧ b.hasExamples = true

/-- Only a header leaves the examples of an outline. -/
theorem InExamples.takes (h : d.InExamples) (hd : d.Coherent) (ht : Takes path word d line d')
    (hline : ∀ kind sentence, line ≠ .scenario kind sentence) : d'.InExamples := by
  obtain ⟨b, hb, hhas⟩ := h
  have hsame : ∀ {b' : OpenBlock}, d.current = some b' → b'.hasExamples = true := fun hb' => by
    rw [hb] at hb'
    cases hb'
    exact hhas
  cases ht with
  | blank => exact ⟨_, congrArg (Option.map _) hb, hhas⟩
  | comment => exact ⟨b, hb, hhas⟩
  | tag label => exact ⟨_, congrArg (Option.map _) hb, hhas⟩
  | feature sentence hnone => exact absurd hnone (hd.heading_ne_none hb)
  | header kind sentence _ _ => exact absurd rfl (hline kind sentence)
  | examples _ _ _ => exact ⟨_, rfl, rfl⟩
  | tableRow cells _ hb' htarget =>
      have hnone := (OpenBlock.target_eq_step_iff.mp htarget).1
      exact absurd (hsame hb') (Bool.eq_false_iff.mp hnone)
  | columns cells _ _ _ => exact ⟨_, rfl, rfl⟩
  | exampleRow cells _ _ _ _ => exact ⟨_, rfl, rfl⟩
  | step kind sentence _ hb' hnone => exact absurd (hsame hb') (Bool.eq_false_iff.mp hnone)
  | describedStep kind sentence _ _ _ _ => exact ⟨b, hb, hhas⟩
  | prose text _ _ _ => exact ⟨b, hb, hhas⟩

/-- Lines without a header do not leave the examples of an outline. -/
theorem InExamples.takeAll (h : d.InExamples) (hd : d.Coherent)
    (hlines : ∀ line ∈ lines, ∀ kind sentence, line ≠ .scenario kind sentence)
    (hall : d.takeAll path word lines = .ok d') : d'.InExamples := by
  induction lines generalizing d with
  | nil => cases hall; exact h
  | cons line rest ih =>
      obtain ⟨next, ht, hrest⟩ := takeAll_cons_eq_ok_iff.mp hall
      obtain ⟨hline, hlines⟩ := List.forall_mem_cons.mp hlines
      exact ih (h.takes hd ht hline) (hd.takes ht) hlines hrest

/-- Where a marker has no header below it, the draft stands among examples. -/
theorem inExamples_of_endsInExamples {v : Vocabulary} {before : List Text}
    (h : EndsInExamples v before)
    (hall : start.takeAll path word (before.map (Line.read v)) = .ok d) : d.InExamples := by
  obtain ⟨first, marker, last, rfl, hmarker, hlast⟩ := h
  rw [List.map_append, List.map_cons, hmarker] at hall
  obtain ⟨above, habove, hall⟩ := takeAll_append_eq_ok_iff.mp hall
  obtain ⟨below, hbelow, hall⟩ := takeAll_cons_eq_ok_iff.mp hall
  have hcoherent : above.Coherent :=
    takeAll_induction (fun _ _ _ => Coherent.takes) coherent_start habove
  have hin : below.InExamples := by
    cases hbelow with
    | examples _ _ _ => exact ⟨_, rfl, rfl⟩
  exact hin.takeAll (hcoherent.takes hbelow) (List.forall_mem_map.mpr hlast) hall

/-! ### Ending a table early -/

@[simp] theorem endTable_endTable (d : Draft) : d.endTable.endTable = d.endTable := by
  simp [endTable, Function.comp_def]

theorem toFeature_endTable (d : Draft) : d.endTable.toFeature path id = d.toFeature path id := by
  rw [toFeature, toFeature, closeBlock_endTable]
  rfl

theorem takeHeader_endTable (kind : HeaderKind) (sentence : Text) :
    d.endTable.takeHeader path kind sentence = d.takeHeader path kind sentence := by
  rw [takeHeader, takeHeader, closeBlock_endTable]

theorem takeExamples_endTable (word : Text) :
    d.endTable.takeExamples word = (d.takeExamples word).map endTable := by
  cases hc : d.current with
  | none => simp [takeExamples, endTable, hc, fault, Except.map]
  | some b =>
      obtain ⟨kind, scenario, tableOpen⟩ := b
      rcases kind with _ | ⟨_ | examples⟩ | n <;>
        simp [takeExamples, endTable, hc, fault, Except.map]

/-- Rows of examples are taken whether a table is open or not. -/
theorem takeRow_endTable (h : d.InExamples) (cells : Row) :
    d.endTable.takeRow cells = (d.takeRow cells).map endTable := by
  obtain ⟨⟨kind, scenario, tableOpen⟩, hb, hhas⟩ := h
  rcases kind with _ | ⟨_ | examples⟩ | n <;> cases hhas
  simp only [takeRow, endTable, hb, Option.map_some, OpenBlock.target]
  cases examples.push cells d.line <;> simp [fault, Except.map, endTable]

/-- A step opens its own table. -/
theorem takeStep_endTable (kind : StepKind) (sentence : Text) :
    d.endTable.takeStep path kind sentence = d.takeStep path kind sentence := by
  cases hc : d.current with
  | none => rw [endTable_eq_self hc]
  | some b =>
      have hcurrent : d.endTable.current = some { b with tableOpen := false } := by
        simp [endTable, hc]
      rw [takeStep, takeStep, hcurrent, hc]
      rfl

theorem takeProse_eq_error {b : OpenBlock} (hd : d.Coherent) (hb : d.current = some b)
    (text : Text) : d.takeProse text = .error (d.fault (.strayText text)) := by
  refine takeProse_eq_error_iff.mpr ⟨fun heading hh => ?_, rfl⟩
  rw [Bool.eq_false_iff]
  intro ho
  rw [(hd.describing heading hh ho).2.1] at hb
  cases hb

/-- Below a block, a line that is no row is taken as if the table were open, or leads among
the examples; there, rows are as well. -/
theorem place_endTable {b : OpenBlock} (hd : d.Coherent) (hb : d.current = some b)
    (hbody : line.isBody) (h : d.InExamples ∨ ∀ cells, line ≠ .row cells) :
    d.endTable.place path word line = d.place path word line ∨
      (d.endTable.place path word line = (d.place path word line).map endTable ∧
        ∀ next, d.place path word line = .ok next → next.InExamples) := by
  have hcounted : d.endTable.counted = d.counted.endTable := rfl
  have hinside : d.counted.endTable.inDescription = false ∧ d.counted.inDescription = false :=
    ⟨by simp [inDescription, endTable, hb], inDescription_eq_false_of_current hb⟩
  by_cases hr : d.Ready
  swap
  · -- Both are refused for what stands above the line.
    refine .inl ?_
    rw [place_of_isBody hbody, place_of_isBody hbody, endTable_heading, endTable_waiting]
    rw [Ready, not_and_or, not_not] at hr
    rcases hr with hh | hw
    · simp [hh, fault]
    · simp [hw, fault]
  rw [place_of_ready (d := d.endTable) hr hbody, place_of_ready hr hbody, hcounted]
  cases line with
  | examples =>
      refine .inr ⟨takeExamples_endTable word, fun next hnext => ?_⟩
      obtain ⟨_, _, _, rfl⟩ := takeExamples_eq_ok_iff.mp hnext
      exact ⟨_, rfl, rfl⟩
  | row cells =>
      have hin : d.InExamples := h.resolve_right fun hne => hne cells rfl
      refine .inr ⟨takeRow_endTable (d := d.counted) hin cells, fun next hnext => ?_⟩
      have hplace : d.place path word (.row cells) = .ok next := by
        rwa [place_of_ready hr hbody]
      exact hin.takes hd (place_eq_ok_iff.mp hplace) (by simp)
  | step kind sentence =>
      simp only [placeBody, hinside.1, hinside.2, Bool.false_eq_true, if_false]
      exact .inl (takeStep_endTable kind sentence)
  | prose text =>
      -- The description has ended, whether the table has or not.
      have hcurrent : d.counted.endTable.current = some { b with tableOpen := false } :=
        congrArg (Option.map _) hb
      exact .inl ((takeProse_eq_error hd.counted.endTable hcurrent text).trans
        (takeProse_eq_error hd.counted hb text).symm)
  | _ => cases hbody

/-- **Ending a table early.** That the table of the last step has ended does not show among
examples, nor where the next line that says anything is no row. -/
theorem finish_endTable (hd : d.Coherent)
    (h : d.InExamples ∨ ∀ cells, lines.find? (!·.isSilent) ≠ some (.row cells)) :
    d.endTable.finish path word id lines = d.finish path word id lines := by
  induction lines generalizing d with
  | nil => exact toFeature_endTable d
  | cons line rest ih =>
      cases hb : d.current with
      | none => rw [endTable_eq_self hb]
      | some b =>
          rw [finish_cons, finish_cons]
          cases line using Line.casesBody with
          | blank =>
              rw [place_blank, place_blank, ← endTable_endTable d.counted]
              rfl
          | comment => exact ih hd.counted h
          | tag label =>
              rw [place_tag, place_tag, takeTag, takeTag, ← endTable_endTable d.counted]
              rfl
          | feature sentence =>
              have hheading := hd.heading_ne_none hb
              rw [place_feature_eq_error (d := d.endTable) hheading,
                place_feature_eq_error hheading]
              rfl
          | scenario kind sentence =>
              have hcounted : d.endTable.counted = d.counted.endTable := rfl
              rw [place_scenario, place_scenario, hcounted, takeHeader_endTable]
              rfl
          | badHeader => rfl
          | body line hbody =>
              have hline : d.InExamples ∨ ∀ cells, line ≠ .row cells := by
                refine h.imp_right fun hnext cells he => hnext cells ?_
                rw [he, List.find?_cons_of_pos rfl]
              rcases place_endTable hd hb hbody hline with hsame | ⟨hended, hin⟩
              · rw [hsame]
              · rw [hended]
                cases hplace : d.place path word line with
                | error e => rfl
                | ok next =>
                    have hcoherent := hd.takes (place_eq_ok_iff.mp hplace)
                    exact ih hcoherent (.inl (hin next hplace))

/-! ### A line more -/

/-- What stands above an inserted line is found where it was. -/
theorem takeAll_above (path word : Text) {p : Nat} {lines : List Line} (hp : lines.length ≤ p) :
    (insertionAfter p).outcome (·.relocate (insertionAfter p) 0)
        (start.takeAll path word lines) =
      start.takeAll path word lines := by
  have hmoved : (start.relocate (insertionAfter p) 0).takeAll path word lines =
      (insertionAfter p).outcome (·.relocate (insertionAfter p) 0)
        (start.takeAll path word lines) := by
    refine takeAll_relocate fun n _ hn => if_pos ?_
    have hstart : start.line = 0 := rfl
    omega
  exact hmoved.symm

/-- The draft that has taken a silent line is the one that has not, elsewhere, apart from the
table that a blank line ends. -/
theorem finish_insert {before after : List Line} {line : Line} (hline : line.isSilent)
    (hall : start.takeAll path word before = .ok d)
    (h : line = .blank → d.InExamples ∨
      ∀ cells, after.find? (!·.isSilent) ≠ some (.row cells)) :
    start.finish path word id (before ++ line :: after) =
      (d.relocate (insertionAfter before.length) 1).finish path word id after := by
  have hcoherent : d.Coherent :=
    takeAll_induction (fun _ _ _ => Coherent.takes) coherent_start hall
  have habove := takeAll_above path word (le_refl before.length)
  rw [hall, Relocation.outcome_ok, Except.ok.injEq] at habove
  have hnext : d.relocate (insertionAfter before.length) 1 = d.counted := by
    conv_rhs => rw [← habove]
    rfl
  rw [finish_append, hall, hnext]
  cases line with
  | comment => exact finish_cons after
  | blank =>
      refine (finish_cons after).trans ?_
      exact finish_endTable hcoherent.counted (h rfl)
  | _ => cases hline

section

variable {before after : List Line} (hline : line.isSilent)
  (h : line = .blank → (∀ d, start.takeAll path word before = .ok d → d.InExamples) ∨
    ∀ cells, after.find? (!·.isSilent) ≠ some (.row cells))

include hline h

/-- A silent line moves a feature or a fault like all that stands below it. -/
theorem finish_insert_found
    (hfound : ∀ n, start.finish path word id (before ++ after) ≠ .error ⟨n, .missingFeature⟩) :
    start.finish path word id (before ++ line :: after) =
      (insertionAfter before.length).outcome (·.relocate (insertionAfter before.length))
        (start.finish path word id (before ++ after)) := by
  cases hall : start.takeAll path word before with
  | error e =>
      have habove := takeAll_above path word (le_refl before.length)
      rw [hall, Relocation.outcome_error, Except.error.injEq] at habove
      rw [finish_append, finish_append, hall, Except.bind, Except.bind, Relocation.outcome_error,
        habove]
  | ok d =>
      rw [finish_append before after, hall] at hfound ⊢
      rw [finish_insert hline hall fun hb => (h hb).imp_left fun hin => hin d hall]
      refine finish_relocate (fun n hn _ => ?_) hfound
      have hcount : d.line = before.length := (line_eq_of_takeAll hall).trans (Nat.zero_add _)
      exact if_neg (by omega)

/-- A silent line moves the end of a file without a feature. -/
theorem finish_insert_missing {n : Nat}
    (hmissing : start.finish path word id (before ++ after) = .error ⟨n, .missingFeature⟩) :
    n = max 1 (before ++ after).length ∧ start.finish path word id (before ++ line :: after) =
      .error ⟨max 1 (before ++ line :: after).length, .missingFeature⟩ := by
  cases hall : start.takeAll path word before with
  | error e =>
      rw [finish_append, hall] at hmissing
      cases hmissing
      exact absurd rfl (takeAll_defect_ne hall)
  | ok d =>
      rw [finish_append, hall] at hmissing
      have hcount : d.line = before.length := (line_eq_of_takeAll hall).trans (Nat.zero_add _)
      have hbelow : ∀ n, d.line < n → n ≤ d.line + after.length →
          (insertionAfter before.length).line n = n + 1 := fun n hn _ => if_neg (by omega)
      obtain ⟨hn, hlonger⟩ := finish_relocate_missing hbelow hmissing
      rw [finish_insert hline hall fun hb => (h hb).imp_left fun hin => hin d hall, hlonger, hn]
      simp only [hcount, List.length_append, List.length_cons, Nat.max_comm 1, Nat.add_assoc,
        and_self]

end

end Draft

/-! ### What an inserted line is read as -/

namespace Unheard

variable {v : Vocabulary} {before after : List Text} {line : Text}

theorem trim_eq_nil_or (h : Unheard v before line after) :
    trim line = [] ∨ (trim line).head? = some '#' := by
  cases h with
  | comment h => exact .inr h
  | blank h _ => exact .inl h
  | amongExamples h _ => exact .inl h

theorem isSilent (h : Unheard v before line after) : (Line.read v line).isSilent := by
  rw [Line.isSilent_read, Bool.not_eq_true', decide_eq_false_iff_not]
  exact fun speaks => h.trim_eq_nil_or.elim speaks.1 speaks.2

/-- A blank line stands among examples or above something that is no row. -/
theorem of_blank (h : Unheard v before line after) (hblank : Line.read v line = .blank)
    (path word : Text) :
    (∀ d, Draft.start.takeAll path word (before.map (Line.read v)) = .ok d → d.InExamples) ∨
      ∀ cells, (after.map (Line.read v)).find? (!·.isSilent) ≠ some (.row cells) := by
  cases h with
  | comment h =>
      rw [Line.read_of_reads (.comment h)] at hblank
      cases hblank
  | blank _ next =>
      refine .inr fun cells hrow => ?_
      rw [Line.find?_map_read, Option.map_eq_some_iff] at hrow
      obtain ⟨found, hfound, hread⟩ := hrow
      have hreads := Line.read_eq_iff.mp hread
      cases hreads with
      | row _ _ hbar => exact next found hfound hbar
  | amongExamples _ examples =>
      exact .inl fun d hall => Draft.inExamples_of_endsInExamples examples hall

/-- A text that begins with a byte order mark does not begin with the line. -/
theorem head?_ne_mark (h : Unheard v before line after) :
    line.head? ≠ some Text.byteOrderMark := by
  intro hmark
  have htrim := Text.head?_trim hmark (by decide)
  rcases h.trim_eq_nil_or with h | h
  · rw [h] at htrim
    cases htrim
  · rw [h] at htrim
    cases htrim

end Unheard

end Playbook.Document

/-! ### Texts -/

namespace Playbook.Reader

open Document

variable {κ : Type} {r : Reader κ} {text longer : Text} {before after : List Text} {line : Text}

/-- **Insertion.** A line that means nothing where it stands can be inserted into a text: the
feature that is read, or the fault that is found, is the same up to the numbers of the lines
below. Only the fault that there is no feature stays with the last line. -/
theorem read_inserted (hmark : text.head? ≠ some Text.byteOrderMark)
    (htext : Text.lines text = before ++ after)
    (hlonger : Text.lines longer = before ++ line :: after)
    (h : Unheard r.vocabulary before line after) :
    match r.read text with
    | .ok f => r.read longer = .ok (f.relocate (insertionAfter before.length))
    | .error (.malformed path ⟨n, .missingFeature⟩) =>
      n = max 1 (Text.lines text).length ∧
        r.read longer = .error (.malformed path ⟨max 1 (Text.lines longer).length, .missingFeature⟩)
    | .error e => r.read longer = .error (e.relocate (insertionAfter before.length)) := by
  have hmark' : longer.head? ≠ some Text.byteOrderMark := by
    intro hlong
    have hfirst := (Text.head?_lines (by decide) longer).mpr hlong
    rw [hlonger] at hfirst
    cases before with
    | nil => exact h.head?_ne_mark hfirst
    | cons first rest =>
        refine hmark ((Text.head?_lines (by decide) text).mp ?_)
        rw [htext]
        exact hfirst
  have hlines : r.lines text = before.map (Line.read r.vocabulary) ++
      after.map (Line.read r.vocabulary) := by
    rw [lines, Text.withoutMark_eq_self hmark, htext, List.map_append]
  have hlines' : r.lines longer = before.map (Line.read r.vocabulary) ++
      Line.read r.vocabulary line :: after.map (Line.read r.vocabulary) := by
    rw [lines, Text.withoutMark_eq_self hmark', hlonger, List.map_append, List.map_cons]
  have hblank := fun hb => h.of_blank hb r.path r.vocabulary.examples
  rw [read_eq_mapError, read_eq_mapError, hlines, hlines', htext, hlonger]
  cases hshort : Draft.start.finish r.path r.vocabulary.examples r.featureId
      (before.map (Line.read r.vocabulary) ++ after.map (Line.read r.vocabulary)) with
  | ok f =>
      rw [Draft.finish_insert_found h.isSilent hblank (by simp [hshort]), hshort, List.length_map]
      rfl
  | error e =>
      obtain ⟨n, defect⟩ := e
      by_cases hdefect : defect = .missingFeature
      · rw [hdefect] at hshort ⊢
        obtain ⟨hn, hlong⟩ := Draft.finish_insert_missing h.isSilent hblank hshort
        simp only [List.length_append, List.length_cons, List.length_map] at hn hlong ⊢
        rw [hlong]
        exact ⟨hn, rfl⟩
      · have hfound : ∀ n, Draft.start.finish r.path r.vocabulary.examples r.featureId
            (before.map (Line.read r.vocabulary) ++ after.map (Line.read r.vocabulary)) ≠
              .error ⟨n, .missingFeature⟩ := by simp [hshort, hdefect]
        rw [Draft.finish_insert_found h.isSilent hblank hfound, hshort, List.length_map]
        -- Every other defect is treated alike.
        cases defect with
        | missingFeature => exact absurd rfl hdefect
        | _ => rfl

/-- The lines of an outline down to the row that names the columns of its examples. -/
def outlineLines : List Text :=
  ["Feature: f", "Scenario Outline: o", "Given <a>", "Examples:", "|a|"].map String.toList

/-- A row of examples and another scenario. -/
def laterLines : List Text := ["|1|", "@u", "Scenario: s", "Then y"].map String.toList

theorem read_inserted_amongExamples :
    let r : Reader Unit := ⟨(), ['p'], 1, Vocabulary.english⟩
    let text := Text.ofLines (outlineLines ++ laterLines)
    let longer := Text.ofLines (outlineLines ++ [' '] :: laterLines)
    text.head? ≠ some Text.byteOrderMark ∧ Text.lines text = outlineLines ++ laterLines ∧
      Text.lines longer = outlineLines ++ [' '] :: laterLines ∧
      Unheard r.vocabulary outlineLines [' '] laterLines ∧
      ∃ f, r.read text = .ok f ∧ f.scenarios.map (·.line) = [2, 6, 8] ∧
        (f.relocate (insertionAfter 5)).scenarios.map (·.line) = [2, 7, 9] ∧
        r.read longer = .ok (f.relocate (insertionAfter 5)) := by
  intro r text longer
  have hmark : text.head? ≠ some Text.byteOrderMark := by decide +kernel
  have htext : Text.lines text = outlineLines ++ laterLines := by decide +kernel
  have hlonger : Text.lines longer = outlineLines ++ [' '] :: laterLines := by decide +kernel
  have hunheard : Unheard r.vocabulary outlineLines [' '] laterLines := by
    have hrow : Line.read r.vocabulary "|a|".toList = .row [['a']] := by decide +kernel
    refine .amongExamples (by decide) ⟨outlineLines.take 3, "Examples:".toList, ["|a|".toList],
      rfl, by decide +kernel, List.forall_mem_singleton.mpr fun kind sentence => ?_⟩
    rw [hrow]
    exact Line.noConfusion
  have hread : (r.read text).toOption.map (fun f => (f.scenarios.map (·.line),
      (f.relocate (insertionAfter 5)).scenarios.map (·.line))) =
        some ([2, 6, 8], [2, 7, 9]) := by decide +kernel
  have hinserted := read_inserted hmark htext hlonger hunheard
  cases hf : r.read text with
  | error e => simp [hf, Except.toOption] at hread
  | ok f =>
      simp only [hf, Except.toOption, Option.map_some, Option.some.injEq, Prod.mk.injEq] at hread
      rw [hf] at hinserted
      exact ⟨hmark, htext, hlonger, hunheard, f, rfl, hread.1, hread.2, hinserted⟩

end Playbook.Reader
