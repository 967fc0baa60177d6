import Playbook.Proofs.Document.Line
import Playbook.Proofs.Document.Numbering
import Playbook.Proofs.Document.Relocation

/-!
# Playbook.Proofs.Document.Continuation

Blocks do not depend on what stands above them. A text that was read may go on with any
lines whose first one that says anything is a tag or the header of a block: what they add,
or the fault in them, is what they give below a feature header alone, elsewhere.

Three facts make this up. The block that is still open may be closed at once, although the
file closes it only at the next header (`Draft.finish_closeBlock`). Once the description has
ended, neither it nor the blocks above are looked at again (`Draft.finish_below`). What is
left of the draft of the longer file is the draft that has only taken a feature header,
moved down by the lines above and up by their identifiers.
-/

namespace Playbook

open Document

/-- The feature with another header and with blocks above its own. -/
def Feature.below (h : Heading) (above : List Block) (f : Feature) : Feature :=
  { f with
    sentence := h.sentence
    description := h.description
    line := h.line
    tags := h.tags
    blocks := above ++ f.blocks }

namespace Document.Draft

variable {path word : Text} {id : Nat} {d d' closed : Draft} {lines : List Line} {line : Line}

/-! ### What stands above -/

/-- The description below the feature header has ended. -/
def Described (d : Draft) : Prop := ∃ h, d.heading = some h ∧ h.isOpen = false

theorem Described.heading_ne_none (h : d.Described) : d.heading ≠ none := by
  obtain ⟨heading, hh, -⟩ := h
  simp [hh]

theorem described_endDescription (h : d.heading ≠ none) : d.endDescription.Described := by
  obtain ⟨heading, hh⟩ := Option.ne_none_iff_exists'.mp h
  exact ⟨_, congrArg (Option.map _) hh, rfl⟩

/-- A description that has ended does not begin again. -/
theorem Described.takes (h : d.Described) (ht : Takes path word d line d') : d'.Described := by
  have hsame : ∀ {heading : Heading}, d.heading = some heading → ¬ heading.isOpen := fun hh => by
    obtain ⟨heading', hh', hclosed⟩ := h
    rw [hh'] at hh
    cases hh
    simp [hclosed]
  cases ht with
  | tag label => exact described_endDescription (d := d.counted.endTable) h.heading_ne_none
  | feature sentence hnone => exact absurd hnone h.heading_ne_none
  | header kind sentence hne hclose =>
      have hkept := (closeBlock_keeps hclose).2.1
      exact described_endDescription (by rw [hkept]; exact hne)
  | describedStep kind sentence _ hh ho _ => exact absurd ho (hsame hh)
  | prose text _ hh ho => exact absurd ho (hsame hh)
  | _ => exact h

/-- The draft with another feature header and with blocks above its own. -/
@[simps] def below (h : Heading) (above : List Block) (d : Draft) : Draft :=
  { d with heading := some h, blocks := above ++ d.blocks }

variable {h : Heading} {above : List Block}

theorem endDescription_below (hh : h.isOpen = false) :
    (d.below h above).endDescription = d.endDescription.below h above := by
  obtain ⟨sentence, line, tags, description, isOpen⟩ := h
  cases hh
  rfl

theorem closeBlock_below : (d.below h above).closeBlock = d.closeBlock.map (·.below h above) := by
  unfold closeBlock
  rw [below_current, below_nextId]
  cases d.current with
  | none => rfl
  | some b =>
      cases hb : b.close? d.nextId with
      | none => simp [hb, Except.map]
      | some block => simp [hb, Except.map, below, withClosed, List.append_assoc]

theorem takeHeader_below (hh : h.isOpen = false) (kind : HeaderKind) (sentence : Text) :
    (d.below h above).takeHeader path kind sentence =
      (d.takeHeader path kind sentence).map (·.below h above) := by
  unfold takeHeader
  rw [closeBlock_below]
  cases d.closeBlock with
  | error e => rfl
  | ok closed =>
      simp only [Except.map, endDescription_below hh]
      rfl

theorem placeBody_below (hd : d.Described) (hh : h.isOpen = false) (line : Line) :
    placeBody path word (d.below h above) line =
      (placeBody path word d line).map (·.below h above) := by
  obtain ⟨heading, hheading, hclosed⟩ := hd
  have hprose : ∀ text, (d.below h above).takeProse text =
      (d.takeProse text).map (·.below h above) := by
    intro text
    simp [takeProse, hheading, hclosed, hh, fault, Except.map]
  have hinside : (d.below h above).inDescription = false ∧ d.inDescription = false := by
    simp [inDescription, hheading, hclosed, hh]
  cases line with
  | examples =>
      simp only [placeBody, takeExamples, below_current]
      cases d.current with
      | none => rfl
      | some b =>
          obtain ⟨kind, scenario, tableOpen⟩ := b
          rcases kind with _ | ⟨_ | examples⟩ | n <;> rfl
  | row cells =>
      simp only [placeBody, takeRow, below_current, below_line]
      cases d.current with
      | none => rfl
      | some b =>
          dsimp only
          cases b.target with
          | nothing => rfl
          | step => rfl
          | examples examples =>
              dsimp only
              cases examples.push cells d.line <;> rfl
  | step kind sentence =>
      simp only [placeBody, hinside.1, hinside.2, Bool.false_eq_true, if_false, takeStep,
        below_current]
      cases d.current with
      | none => rfl
      | some b =>
          dsimp only
          split <;> rfl
  | prose text => exact hprose text
  | _ => rfl

/-- Below a description that has ended, a line does not see what stands above. -/
theorem place_below (hd : d.Described) (hh : h.isOpen = false) (line : Line) :
    (d.below h above).place path word line =
      (d.place path word line).map (·.below h above) := by
  have hheading : ¬ d.heading.isNone := by simpa using hd.heading_ne_none
  have hcounted : (d.below h above).counted = d.counted.below h above := rfl
  cases line using Line.casesBody with
  | blank => rfl
  | comment => rfl
  | tag label =>
      rw [place_tag, place_tag, hcounted, takeTag, takeTag]
      have htable : (d.counted.below h above).endTable = d.counted.endTable.below h above := rfl
      rw [htable, endDescription_below hh]
      rfl
  | feature sentence =>
      rw [place_feature_eq_error (Option.some_ne_none h),
        place_feature_eq_error hd.heading_ne_none]
      rfl
  | scenario kind sentence =>
      rw [place_scenario, place_scenario, if_neg hheading, hcounted, takeHeader_below hh]
      rfl
  | badHeader =>
      rw [place_badHeader, place_badHeader, if_neg hheading]
      rfl
  | body line hbody =>
      rw [place_of_isBody hbody, place_of_isBody hbody, if_neg hheading, hcounted]
      by_cases hw : d.waiting.isEmpty
      · simp only [below_heading, below_waiting, hw, Option.isNone_some, Bool.not_true,
          Bool.false_eq_true, if_false]
        exact placeBody_below (d := d.counted) hd hh line
      · simp [hw, fault, Except.map]

/-- **What stands above.** Once the description has ended, neither it nor the blocks above
are looked at again. -/
theorem finish_below (hd : d.Described) (hh : h.isOpen = false) :
    (d.below h above).finish path word id lines =
      (d.finish path word id lines).map (·.below h above) := by
  induction lines generalizing d with
  | nil =>
      show (d.below h above).toFeature path id = (d.toFeature path id).map _
      obtain ⟨heading, hheading, -⟩ := hd
      unfold toFeature
      rw [closeBlock_below, below_heading, below_waiting, hheading]
      cases d.waiting with
      | cons first rest => rfl
      | nil => cases d.closeBlock <;> rfl
  | cons line rest ih =>
      rw [finish_cons, finish_cons, place_below hd hh]
      cases hplace : d.place path word line with
      | error e => rfl
      | ok next => exact ih (hd.takes (place_eq_ok_iff.mp hplace))

/-! ### Closing the open block early -/

theorem closeBlock_takeTag (h : d.closeBlock = .ok closed) (tag : Tag) :
    (d.takeTag tag).closeBlock = .ok (closed.takeTag tag) := by
  rcases closeBlock_eq_ok_iff.mp h with ⟨hnone, rfl⟩ | ⟨b, block, hb, hc, rfl⟩
  · exact closeBlock_of_none (congrArg (Option.map _) hnone)
  · exact closeBlock_eq_ok_iff.mpr
      (.inr ⟨{ b with tableOpen := false }, block, congrArg (Option.map _) hb, hc, rfl⟩)

theorem takeTag_endDescription (d : Draft) (tag : Tag) :
    d.endDescription.takeTag tag = (d.takeTag tag).endDescription := by
  simp [takeTag, endDescription, endTable, Function.comp_def]

theorem openBlock_endDescription (d : Draft) (path : Text) (kind : HeaderKind) (sentence : Text) :
    d.endDescription.openBlock path kind sentence = d.openBlock path kind sentence := by
  rw [openBlock, endDescription_endDescription]
  rfl

/-- There is nothing left to close. -/
theorem closeBlock_closed (hclose : d.closeBlock = .ok closed) :
    closed.endDescription.closeBlock = .ok closed.endDescription :=
  closeBlock_of_none (closeBlock_keeps hclose).2.2.2

/-- The end of a file closes the open block. -/
theorem toFeature_closeBlock (hd : d.heading ≠ none) (hclose : d.closeBlock = .ok closed) :
    d.toFeature path id = closed.endDescription.toFeature path id := by
  obtain ⟨-, hheading, hwaiting, -⟩ := closeBlock_keeps hclose
  obtain ⟨heading, hh⟩ := Option.ne_none_iff_exists'.mp hd
  have hended : closed.endDescription.heading = some { heading with isOpen := false } := by
    simp [endDescription, hheading, hh]
  unfold toFeature
  rw [hclose, closeBlock_closed hclose, hended, hh, endDescription_waiting, hwaiting]
  cases d.waiting <;> rfl

/-- The header of a block closes the open one. -/
theorem takeHeader_closeBlock (hclose : d.closeBlock = .ok closed) (kind : HeaderKind)
    (sentence : Text) :
    d.takeHeader path kind sentence = closed.endDescription.takeHeader path kind sentence := by
  have hopened := openBlock_endDescription closed path kind sentence
  simp only [takeHeader, hclose, closeBlock_closed hclose]
  exact congrArg Except.ok hopened.symm

/-- **Closing early.** Below a feature header the open block may be closed and the
description ended at once, if tags or headers of blocks come before anything else. -/
theorem finish_closeBlock (hd : d.heading ≠ none) (hclose : d.closeBlock = .ok closed)
    (hopens : d.waiting ≠ [] ∨ ∀ line ∈ lines.find? (!·.isSilent), line.opensBlock) :
    d.finish path word id lines = closed.endDescription.finish path word id lines := by
  induction lines generalizing d closed with
  | nil => exact toFeature_closeBlock hd hclose
  | cons line rest ih =>
      obtain ⟨hline, hheading, hwaiting, hcurrent⟩ := closeBlock_keeps hclose
      have hsame : closed.endDescription.heading ≠ none :=
        endDescription_heading_ne_none (hheading ▸ hd)
      have hfault : ∀ defect, closed.endDescription.counted.fault defect =
          d.counted.fault defect := fun defect => by simp [fault, hline]
      have hcounted : closed.endDescription.counted = closed.counted.endDescription := rfl
      rw [finish_cons, finish_cons]
      cases line using Line.casesBody with
      | blank =>
          have hended : closed.counted.endDescription.endTable = closed.counted.endDescription :=
            endTable_eq_self hcurrent
          rw [place_blank, place_blank, hcounted, hended]
          refine ih hd ?_ hopens
          rw [closeBlock_endTable]
          exact closeBlock_counted hclose
      | comment => exact ih (d := d.counted) hd (closeBlock_counted hclose) hopens
      | tag label =>
          rw [place_tag, place_tag, hcounted, takeTag_endDescription]
          refine ih ?_ (closeBlock_takeTag (closeBlock_counted hclose) label) (.inl ?_)
          · exact endDescription_heading_ne_none (d := d.counted.endTable) hd
          · exact List.append_ne_nil_of_right_ne_nil _ (List.cons_ne_nil _ _)
      | feature sentence =>
          rw [place_feature_eq_error hd, place_feature_eq_error hsame, hfault]
      | scenario kind sentence =>
          rw [place_scenario, place_scenario, hcounted,
            takeHeader_closeBlock (closeBlock_counted hclose)]
          simp [hd, hsame]
      | badHeader =>
          rw [place_badHeader, place_badHeader, hfault, hfault]
          simp [hd, hsame]
      | body line hbody =>
          have hw : d.waiting ≠ [] := hopens.resolve_right fun hnext => by
            have hopen : line.opensBlock := hnext line (by cases line <;> cases hbody <;> rfl)
            cases line <;> cases hbody <;> cases hopen
          rw [place_of_isBody hbody, place_of_isBody hbody, hfault, hfault,
            endDescription_waiting, hwaiting]
          simp [hd, hsame, hw]

/-! ### Below a feature header alone -/

/-- The draft that has taken a feature header and nothing else, with an empty description. -/
def titled (sentence : Text) : Draft := (start.counted.withFeature sentence).endDescription

/-- A file may begin with the feature header, if tags or headers of blocks come next. -/
theorem finish_titled {sentence : Text}
    (hopens : ∀ line ∈ lines.find? (!·.isSilent), line.opensBlock) :
    start.finish path word id (.feature sentence :: lines) =
      (titled sentence).finish path word id lines := by
  have htitle : start.place path word (.feature sentence) =
      .ok (start.counted.withFeature sentence) :=
    place_eq_ok_iff.mpr (.feature sentence rfl)
  rw [finish_cons, htitle]
  exact finish_closeBlock (Option.some_ne_none _) (closeBlock_of_none rfl) (.inr hopens)

end Document.Draft

/-- Where the lines below a feature header alone are found when `lines` lines, with `ids`
scenarios among them, stand in the place of the header. -/
def continuationOf (lines ids : Nat) : Relocation where
  line n := n + (lines - 1)
  ids := ids

namespace Document.Draft

variable {path word : Text} {id ids : Nat} {d : Draft} {lines : List Line} {h : Heading}

/-- A draft without an open block is the one that has only taken a feature header, elsewhere
and below other blocks. -/
theorem endDescription_eq_below (sentence : Text) (hd : d.heading = some h)
    (hwaiting : d.waiting = []) (hcurrent : d.current = none) (hline : d.line ≠ 0)
    (hnext : d.nextId = ids + 1) :
    d.endDescription = ((titled sentence).relocate (continuationOf d.line ids) (d.line - 1)).below
      { h with isOpen := false } d.blocks := by
  obtain ⟨line, waiting, heading, blocks, current, nextId⟩ := d
  cases hd
  cases hwaiting
  cases hcurrent
  have hcount : 1 + (line - 1) = line := Nat.add_sub_cancel' (Nat.one_le_iff_ne_zero.mpr hline)
  have hids : 1 + ids = nextId := (Nat.add_comm 1 ids).trans hnext.symm
  simp [endDescription, titled, start, below, relocate, counted, continuationOf, hcount, hids]

/-- A feature header stands on some line. -/
theorem line_ne_zero_of_takeAll (hall : start.takeAll path word lines = .ok d)
    (hd : d.heading ≠ none) : d.line ≠ 0 := by
  rw [line_eq_of_takeAll hall]
  cases lines with
  | nil =>
      cases hall
      exact absurd rfl hd
  | cons line rest => exact Nat.succ_ne_zero _

theorem feature_of_finish {f : Feature} (h : d.finish path word id lines = .ok f) :
    f.id = id ∧ f.path = path := by
  unfold finish at h
  cases hall : d.takeAll path word lines with
  | error e =>
      rw [hall] at h
      cases h
  | ok d' =>
      rw [hall] at h
      obtain ⟨_, _, _, _, _, rfl⟩ := toFeature_eq_ok_iff.mp h
      exact ⟨rfl, rfl⟩

/-- What follows a draft without an open block is what follows a feature header alone. -/
theorem finish_eq_titled (sentence : Text) (hd : d.heading = some h) (hwaiting : d.waiting = [])
    (hcurrent : d.current = none) (hline : d.line ≠ 0) (hnext : d.nextId = ids + 1) :
    d.endDescription.finish path word id lines =
      ((continuationOf d.line ids).outcome (·.relocate (continuationOf d.line ids))
        ((titled sentence).finish path word id lines)).map
          (·.below { h with isOpen := false } d.blocks) := by
  have hmoved : ((titled sentence).relocate (continuationOf d.line ids) (d.line - 1)).finish
        path word id lines =
      (continuationOf d.line ids).outcome (·.relocate (continuationOf d.line ids))
        ((titled sentence).finish path word id lines) :=
    finish_relocate (fun _ _ _ => rfl) (finish_ne_missing (Option.some_ne_none _))
  rw [endDescription_eq_below sentence hd hwaiting hcurrent hline hnext,
    finish_below ⟨_, rfl, rfl⟩ rfl, hmoved]

end Document.Draft

/-! ### Texts -/

namespace Reader

open Document

variable {κ : Type} {r : Reader κ} {text title single whole sentence : Text} {rest : List Text}
  {f : Feature}

/-- The last draft of a feature that was read, once its open block is closed. -/
theorem exists_closed_of_read (h : r.read text = .ok f) :
    ∃ (d closed : Draft) (heading : Heading),
      Draft.start.takeAll r.path r.vocabulary.examples (r.lines text) = .ok d ∧
      d.closeBlock = .ok closed ∧ closed.heading = some heading ∧ closed.waiting = [] ∧
      closed.line = (Text.lines (Text.withoutMark text)).length ∧
      closed.nextId = f.idCount + 1 ∧
      f = ⟨r.featureId, heading.sentence, heading.description, r.path, heading.line, heading.tags,
        closed.blocks⟩ := by
  obtain ⟨d, hall, hf⟩ := read_eq_ok_iff.mp h
  obtain ⟨heading, closed, hheading, hwaiting, hclose, rfl⟩ := Draft.toFeature_eq_ok_iff.mp hf
  obtain ⟨hline, hkept, hkept', hcurrent⟩ := Draft.closeBlock_keeps hclose
  have hnumbered : closed.Numbered :=
    (Draft.takeAll_induction (fun _ _ _ => Draft.Numbered.takes) Draft.numbered_start
      hall).closeBlock hclose
  have hcount : d.line = (Text.lines (Text.withoutMark text)).length := by
    rw [Draft.line_eq_of_takeAll hall, lines, List.length_map]
    exact Nat.zero_add _
  refine ⟨d, closed, heading, hall, hclose, hkept.trans hheading, hkept'.trans hwaiting,
    hline.trans hcount, ?_, rfl⟩
  rw [hnumbered.next, ← Feature.length_scenarios]
  simp [Draft.scenarios, Feature.scenarios, hcurrent]

/-- **Continuation.** Blocks do not depend on what stands above them. A text that was read can
go on with any lines that begin with a tag or the header of a block, and what these add, or
the fault in them, is what they give below a feature header alone, further down. -/
theorem read_continued (hread : r.read text = .ok f)
    (htitle : Line.read r.vocabulary title = .feature sentence)
    (hopens : ∀ line ∈ firstSpeaking rest, (Line.read r.vocabulary line).opensBlock)
    (hsingle : Text.lines (Text.withoutMark single) = title :: rest)
    (hwhole : Text.lines (Text.withoutMark whole) =
      Text.lines (Text.withoutMark text) ++ rest) :
    let m := continuationOf (Text.lines (Text.withoutMark text)).length f.idCount
    r.read whole =
      match r.read single with
      | .ok g => .ok { f with blocks := f.blocks ++ g.blocks.map (·.relocate m) }
      | .error e => .error (e.relocate m) := by
  intro m
  obtain ⟨d, closed, heading, hall, hclose, hheading, hwaiting, hline, hnext, hf⟩ :=
    exists_closed_of_read hread
  have hopens : ∀ line ∈ (rest.map (Line.read r.vocabulary)).find? (!·.isSilent),
      line.opensBlock := by
    rw [Line.find?_map_read]
    intro line hfound
    obtain ⟨first, hfirst, rfl⟩ := Option.map_eq_some_iff.mp hfound
    exact hopens first hfirst
  have hd : d.heading ≠ none := by
    rw [← (Draft.closeBlock_keeps hclose).2.1, hheading]
    exact Option.some_ne_none _
  have hne : closed.line ≠ 0 := by
    rw [(Draft.closeBlock_keeps hclose).1]
    exact Draft.line_ne_zero_of_takeAll hall hd
  have habove : r.lines whole = r.lines text ++ rest.map (Line.read r.vocabulary) := by
    rw [lines, lines, hwhole, List.map_append]
  have halone : r.lines single = .feature sentence :: rest.map (Line.read r.vocabulary) := by
    rw [lines, hsingle, List.map_cons, htitle]
  have hafter : Draft.start.finish r.path r.vocabulary.examples r.featureId (r.lines whole) =
      (m.outcome (·.relocate m) (Draft.start.finish r.path r.vocabulary.examples r.featureId
        (r.lines single))).map (·.below { heading with isOpen := false } closed.blocks) := by
    rw [habove, halone, Draft.finish_append, hall, Draft.finish_titled hopens]
    refine (Draft.finish_closeBlock hd hclose (.inr hopens)).trans ?_
    rw [Draft.finish_eq_titled sentence hheading hwaiting (Draft.closeBlock_keeps hclose).2.2.2 hne
      hnext, hline]
  rw [read_eq_mapError, read_eq_mapError, hafter]
  cases hresult : Draft.start.finish r.path r.vocabulary.examples r.featureId (r.lines single) with
  | error e => rfl
  | ok g =>
      obtain ⟨hid, hpath⟩ := Draft.feature_of_finish hresult
      simp only [Relocation.outcome_ok, Except.map, Except.mapError, Feature.below,
        Feature.relocate, hid, hpath, hf]

/-- A feature that ends among the examples of an outline. -/
def openText : Text :=
  "@f\nFeature: f\nfree text\nScenario Outline: o\nGiven <a>\nExamples:\n|a|\n|1|".toList

/-- A loop, with a tag and lines that say nothing above it. -/
def repeatedLines : List Text :=
  ["".toList, "# remark".toList, "@u".toList, "Scenario Loop 2: l".toList, "Then y".toList]

theorem read_continued_repeated :
    let r : Reader Unit := ⟨(), ['p'], 1, Vocabulary.english⟩
    let single := Text.ofLines ("Feature: t".toList :: repeatedLines)
    let whole := openText ++ '\n' :: Text.ofLines repeatedLines
    ∃ f g, r.read openText = .ok f ∧ r.read single = .ok g ∧
      f.idCount = 2 ∧ g.scenarios.map (fun s => (s.id, s.line)) = [(1, 5), (2, 5), (3, 5)] ∧
      Line.read r.vocabulary "Feature: t".toList = .feature "t".toList ∧
      (∀ line ∈ firstSpeaking repeatedLines, (Line.read r.vocabulary line).opensBlock) ∧
      Text.lines (Text.withoutMark single) = "Feature: t".toList :: repeatedLines ∧
      Text.lines (Text.withoutMark whole) =
        Text.lines (Text.withoutMark openText) ++ repeatedLines ∧
      r.read whole =
        .ok { f with blocks := f.blocks ++ g.blocks.map (·.relocate (continuationOf 8 2)) } := by
  intro r single whole
  have habove : (r.read openText).toOption.map (·.idCount) = some 2 := by decide +kernel
  have halone : (r.read single).toOption.map (fun g => g.scenarios.map fun s => (s.id, s.line)) =
      some [(1, 5), (2, 5), (3, 5)] := by decide +kernel
  have htitle : Line.read r.vocabulary "Feature: t".toList = .feature "t".toList := by
    decide +kernel
  have hopens : ∀ line ∈ firstSpeaking repeatedLines,
      (Line.read r.vocabulary line).opensBlock := by decide +kernel
  have hsingle : Text.lines (Text.withoutMark single) = "Feature: t".toList :: repeatedLines := by
    decide +kernel
  have hwhole : Text.lines (Text.withoutMark whole) =
      Text.lines (Text.withoutMark openText) ++ repeatedLines := by decide +kernel
  have hlength : (Text.lines (Text.withoutMark openText)).length = 8 := by decide +kernel
  cases hf : r.read openText with
  | error e => simp [hf, Except.toOption] at habove
  | ok f =>
      cases hg : r.read single with
      | error e => simp [hg, Except.toOption] at halone
      | ok g =>
          simp only [hf, hg, Except.toOption, Option.map_some, Option.some.injEq] at habove halone
          have hcontinued := read_continued hf htitle hopens hsingle hwhole
          simp only [hg, hlength, habove] at hcontinued
          exact ⟨f, g, rfl, rfl, habove, halone, htitle, hopens, hsingle, hwhole, hcontinued⟩

end Reader

end Playbook
