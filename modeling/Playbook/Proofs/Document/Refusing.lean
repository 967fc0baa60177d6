import Playbook.Proofs.Document.Taking

/-!
# Playbook.Proofs.Document.Refusing

What a draft does not take, said once: `Draft.Refuses` is the counterpart of `Draft.Takes`, with
one constructor for each way in which a line is at fault, what it asks of the draft and the fault
it leads to. `place_eq_error_iff` ties it to `Draft.place`, so no proof about faults has to open
the functions themselves.

A reading that fails does so on the first line that is refused or at the end of the file;
`read_eq_error_iff` splits the lines there.
-/

namespace Playbook.Document

namespace Line

/-- Whether the line may stand below the feature header only. -/
def isBelow : Line → Bool
  | scenario _ _ | badHeader => true
  | line => line.isBody

theorem isBelow_of_isBody {line : Line} (h : line.isBody) : line.isBelow := by
  cases line with
  | examples | row _ | step _ _ | prose _ => rfl
  | _ => cases h

end Line

namespace OpenBlock

variable {b : OpenBlock} {firstId : Nat}

/-- Only outlines whose columns have no names cannot be closed. -/
theorem close?_eq_none_iff : b.close? firstId = none ↔
    b.kind = .outline none ∨ ∃ rows, b.kind = .outline (some ⟨none, rows⟩) := by
  obtain ⟨kind, scenario, tableOpen⟩ := b
  rcases kind with _ | ⟨_ | ⟨_ | columns, rows⟩⟩ | n <;> simp [close?, expand?]

end OpenBlock

namespace Draft

variable {path word : Text} {d d' : Draft} {line : Line} {e : Fault}

/-- The ways in which a draft refuses a line. -/
inductive Refuses (word : Text) (d : Draft) : Line → Fault → Prop
  | secondFeature (sentence : Text) (heading : d.heading ≠ none) :
      Refuses word d (.feature sentence) (d.counted.fault .secondFeature)
  | beforeFeature {line : Line} (below : line.isBelow) (heading : d.heading = none) :
      Refuses word d line (d.counted.fault .beforeFeature)
  | badHeader (heading : d.heading ≠ none) :
      Refuses word d .badHeader (d.counted.fault .badHeader)
  /-- The header is in order, but it ends an outline that is not. -/
  | missingExamples (kind : HeaderKind) (sentence : Text) {b : OpenBlock}
      (heading : d.heading ≠ none) (current : d.current = some b)
      (close : b.close? d.nextId = none) :
      Refuses word d (.scenario kind sentence) ⟨b.scenario.line, .missingExamples⟩
  | strayTags {line : Line} (body : line.isBody) (heading : d.heading ≠ none)
      (waiting : d.waiting ≠ []) :
      Refuses word d line (d.counted.fault .strayTags)
  | strayExamples (ready : d.Ready)
      (current : ∀ b, d.current = some b → ∀ examples, b.kind ≠ .outline examples) :
      Refuses word d .examples (d.counted.fault .strayExamples)
  | secondExamples {b : OpenBlock} {examples : Examples} (ready : d.Ready)
      (current : d.current = some b) (kind : b.kind = .outline (some examples)) :
      Refuses word d .examples (d.counted.fault (.strayText word))
  | strayRow (cells : Row) (ready : d.Ready)
      (current : ∀ b, d.current = some b → b.target = .nothing) :
      Refuses word d (.row cells) (d.counted.fault .strayRow)
  | unevenRow (cells : Row) {b : OpenBlock} {columns : Row} {rows : List Example}
      (ready : d.Ready) (current : d.current = some b)
      (kind : b.kind = .outline (some ⟨some columns, rows⟩))
      (width : columns.length ≠ cells.length) :
      Refuses word d (.row cells) (d.counted.fault (.unevenRow columns.length cells.length))
  | strayStep (kind : StepKind) (sentence : Text) (ready : d.Ready) (current : d.current = none)
      (outside : d.inDescription = false) :
      Refuses word d (.step kind sentence) (d.counted.fault .strayStep)
  | lateStep (kind : StepKind) (sentence : Text) {b : OpenBlock} (ready : d.Ready)
      (current : d.current = some b) (after : b.hasExamples = true) :
      Refuses word d (.step kind sentence) (d.counted.fault .lateStep)
  | strayText (text : Text) {h : Heading} (ready : d.Ready) (heading : d.heading = some h)
      (closed : h.isOpen = false) :
      Refuses word d (.prose text) (d.counted.fault (.strayText text))

/-! ### What the parts of a step refuse -/

theorem closeBlock_eq_error_iff : d.closeBlock = .error e ↔
    ∃ b, d.current = some b ∧ b.close? d.nextId = none ∧
      e = ⟨b.scenario.line, .missingExamples⟩ := by
  unfold closeBlock
  cases hc : d.current with
  | none => simp
  | some b => cases hb : b.close? d.nextId <;> simp [hb, eq_comm]

theorem takeFeature_eq_error_iff {sentence : Text} : d.takeFeature sentence = .error e ↔
    d.heading ≠ none ∧ e = d.fault .secondFeature := by
  unfold takeFeature
  cases d.heading <;> simp [eq_comm]

theorem takeHeader_eq_error_iff {kind : HeaderKind} {sentence : Text} :
    d.takeHeader path kind sentence = .error e ↔ d.closeBlock = .error e := by
  unfold takeHeader
  cases d.closeBlock <;> simp

theorem takeExamples_eq_error_iff : d.takeExamples word = .error e ↔
    ((∀ b, d.current = some b → ∀ examples, b.kind ≠ .outline examples) ∧
      e = d.fault .strayExamples) ∨
    ∃ b examples, d.current = some b ∧ b.kind = .outline (some examples) ∧
      e = d.fault (.strayText word) := by
  unfold takeExamples
  cases hc : d.current with
  | none => simp [eq_comm]
  | some b =>
      obtain ⟨kind, scenario, tableOpen⟩ := b
      rcases kind with _ | ⟨_ | examples⟩ | n <;> simp [eq_comm]

theorem push_eq_error_iff {examples : Examples} {cells : Row} {n : Nat} {defect : Defect} :
    examples.push cells n = .error defect ↔
      ∃ columns, examples.columns = some columns ∧ columns.length ≠ cells.length ∧
        defect = .unevenRow columns.length cells.length := by
  unfold Examples.push
  cases examples.columns with
  | none => simp
  | some columns => by_cases hw : columns.length = cells.length <;> simp [hw, @eq_comm _ defect]

theorem takeRow_eq_error_iff {cells : Row} : d.takeRow cells = .error e ↔
    ((∀ b, d.current = some b → b.target = .nothing) ∧ e = d.fault .strayRow) ∨
    ∃ b columns rows, d.current = some b ∧ b.kind = .outline (some ⟨some columns, rows⟩) ∧
      columns.length ≠ cells.length ∧
      e = d.fault (.unevenRow columns.length cells.length) := by
  unfold takeRow
  cases hc : d.current with
  | none => simp [eq_comm]
  | some b =>
      cases ht : b.target with
      | nothing =>
          have hk : ∀ examples, b.kind ≠ .outline (some examples) := fun examples hk => by
            rw [OpenBlock.target_eq_examples_iff.mpr hk] at ht
            cases ht
          simp [ht, hk, eq_comm]
      | step =>
          have hk := (OpenBlock.target_eq_step_iff.mp ht).1
          have hk' : ∀ examples, b.kind ≠ .outline (some examples) := fun examples h => by
            rw [OpenBlock.hasExamples_eq_true_iff.mpr ⟨examples, h⟩] at hk
            cases hk
          simp [ht, hk']
      | examples examples =>
          have hk := OpenBlock.target_eq_examples_iff.mp ht
          cases hpush : examples.push cells d.line with
          | ok examples' =>
              refine iff_of_false (by simp [ht, hpush]) ?_
              rintro (⟨hnothing, -⟩ | ⟨b', columns, rows, hb', hk', hw, -⟩)
              · have hnothing := hnothing b rfl
                rw [ht] at hnothing
                cases hnothing
              · cases hb'
                cases hk.symm.trans hk'
                rw [push_eq_error_iff.mpr ⟨columns, rfl, hw, rfl⟩] at hpush
                cases hpush
          | error defect =>
              obtain ⟨columns, hcolumns, hwidth, rfl⟩ := push_eq_error_iff.mp hpush
              obtain ⟨_, rows⟩ := examples
              cases hcolumns
              simp [ht, hk, hpush, hwidth, fault, @eq_comm _ e]

theorem takeStep_eq_error_iff {kind : StepKind} {sentence : Text} :
    d.takeStep path kind sentence = .error e ↔
      (d.current = none ∧ e = d.fault .strayStep) ∨
      ∃ b, d.current = some b ∧ b.hasExamples = true ∧ e = d.fault .lateStep := by
  unfold takeStep
  cases hc : d.current with
  | none => simp [@eq_comm _ e]
  | some b => cases hb : b.hasExamples <;> simp [hb, @eq_comm _ e]

theorem takeProse_eq_error_iff {text : Text} : d.takeProse text = .error e ↔
    (∀ h, d.heading = some h → h.isOpen = false) ∧ e = d.fault (.strayText text) := by
  unfold takeProse
  cases hh : d.heading with
  | none => simp [@eq_comm _ e]
  | some h => cases ho : h.isOpen <;> simp [ho, @eq_comm _ e]

/-- A description that has begun takes steps. -/
theorem isOpen_of_inDescription {h : Heading} (hin : d.inDescription = true)
    (hh : d.heading = some h) : h.isOpen = true := by
  simp only [inDescription, hh, Option.any_some, Bool.and_eq_true] at hin
  exact hin.2.1

/-! ### One line -/

/-- Body lines are refused above the feature header, below tags, or for what they are. -/
theorem place_eq_error_of_isBody (hbody : line.isBody) : d.place path word line = .error e ↔
    (d.heading = none ∧ e = d.counted.fault .beforeFeature) ∨
    (d.heading ≠ none ∧ d.waiting ≠ [] ∧ e = d.counted.fault .strayTags) ∨
    (d.Ready ∧ placeBody path word d.counted line = .error e) := by
  rw [place_of_isBody hbody, Ready]
  cases d.heading <;> cases d.waiting <;> simp [eq_comm]

theorem refuses_of_placeBody (hr : d.Ready) (hbody : line.isBody)
    (h : placeBody path word d.counted line = .error e) : Refuses word d line e := by
  have hcurrent : d.counted.current = d.current := rfl
  have hheading : d.counted.heading = d.heading := rfl
  cases line with
  | examples =>
      rcases takeExamples_eq_error_iff.mp h with ⟨hc, rfl⟩ | ⟨b, examples, hb, hk, rfl⟩
      · exact .strayExamples hr hc
      · exact .secondExamples hr hb hk
  | row cells =>
      rcases takeRow_eq_error_iff.mp h with ⟨hc, rfl⟩ | ⟨b, columns, rows, hb, hk, hw, rfl⟩
      · exact .strayRow cells hr hc
      · exact .unevenRow cells hr hb hk hw
  | step kind sentence =>
      simp only [placeBody] at h
      split at h
      -- A description that is open refuses nothing.
      · obtain ⟨hclosed, -⟩ := takeProse_eq_error_iff.mp h
        obtain ⟨heading, hh⟩ := Option.ne_none_iff_exists'.mp hr.1
        have hopen := isOpen_of_inDescription ‹_› (hheading ▸ hh)
        rw [hclosed heading hh] at hopen
        cases hopen
      · rename_i hin
        rcases takeStep_eq_error_iff.mp h with ⟨hc, rfl⟩ | ⟨b, hb, ha, rfl⟩
        · exact .strayStep kind sentence hr hc (Bool.not_eq_true _ ▸ hin)
        · exact .lateStep kind sentence hr hb ha
  | prose text =>
      obtain ⟨hclosed, rfl⟩ := takeProse_eq_error_iff.mp h
      obtain ⟨heading, hh⟩ := Option.ne_none_iff_exists'.mp hr.1
      exact .strayText text hr hh (hclosed heading hh)
  | _ => cases hbody

/-- A line is refused in one of the ways of `Refuses`, and in each of them it is. -/
theorem place_eq_error_iff : d.place path word line = .error e ↔ Refuses word d line e := by
  constructor
  · intro h
    cases line using Line.casesBody with
    | blank => cases h
    | comment => cases h
    | tag label => cases h
    | feature sentence =>
        obtain ⟨hh, rfl⟩ := takeFeature_eq_error_iff.mp h
        exact .secondFeature sentence hh
    | scenario kind sentence =>
        rw [place_scenario] at h
        by_cases hh : d.heading = none
        · rw [if_pos (by simp [hh])] at h
          cases h
          exact .beforeFeature rfl hh
        · rw [if_neg (by simp [hh])] at h
          obtain ⟨b, hb, hclose, rfl⟩ :=
            closeBlock_eq_error_iff.mp (takeHeader_eq_error_iff.mp h)
          exact .missingExamples kind sentence hh hb hclose
    | badHeader =>
        rw [place_badHeader] at h
        by_cases hh : d.heading = none
        · rw [if_pos (by simp [hh])] at h
          cases h
          exact .beforeFeature rfl hh
        · rw [if_neg (by simp [hh])] at h
          cases h
          exact .badHeader hh
    | body line hbody =>
        rcases (place_eq_error_of_isBody hbody).mp h with ⟨hh, rfl⟩ | ⟨hh, hw, rfl⟩ | ⟨hr, h⟩
        · exact .beforeFeature (Line.isBelow_of_isBody hbody) hh
        · exact .strayTags hbody hh hw
        · exact refuses_of_placeBody hr hbody h
  · intro h
    cases h with
    | secondFeature sentence hh => exact place_feature_eq_error hh sentence
    | beforeFeature hbelow hh =>
        cases line using Line.casesBody with
        | scenario kind sentence => rw [place_scenario, if_pos (by simp [hh])]
        | badHeader => rw [place_badHeader, if_pos (by simp [hh])]
        | body line hbody => exact (place_eq_error_of_isBody hbody).mpr (.inl ⟨hh, rfl⟩)
        | _ => cases hbelow
    | badHeader hh => rw [place_badHeader, if_neg (by simp [hh])]
    | missingExamples kind sentence hh hb hclose =>
        rw [place_scenario, if_neg (by simp [hh])]
        exact takeHeader_eq_error_iff.mpr (closeBlock_eq_error_iff.mpr ⟨_, hb, hclose, rfl⟩)
    | strayTags hbody hh hw =>
        exact (place_eq_error_of_isBody hbody).mpr (.inr (.inl ⟨hh, hw, rfl⟩))
    | strayExamples hr hc =>
        rw [place_of_ready hr rfl]
        exact takeExamples_eq_error_iff.mpr (.inl ⟨hc, rfl⟩)
    | secondExamples hr hb hk =>
        rw [place_of_ready hr rfl]
        exact takeExamples_eq_error_iff.mpr (.inr ⟨_, _, hb, hk, rfl⟩)
    | strayRow cells hr hc =>
        rw [place_of_ready hr rfl]
        exact takeRow_eq_error_iff.mpr (.inl ⟨hc, rfl⟩)
    | unevenRow cells hr hb hk hw =>
        rw [place_of_ready hr rfl]
        exact takeRow_eq_error_iff.mpr (.inr ⟨_, _, _, hb, hk, hw, rfl⟩)
    | strayStep kind sentence hr hc hout =>
        have hin : d.counted.inDescription = false := hout
        rw [place_of_ready hr rfl, placeBody, if_neg (Bool.eq_false_iff.mp hin)]
        exact takeStep_eq_error_iff.mpr (.inl ⟨hc, rfl⟩)
    | lateStep kind sentence hr hb ha =>
        have hin : d.counted.inDescription = false := inDescription_eq_false_of_current hb
        rw [place_of_ready hr rfl, placeBody, if_neg (Bool.eq_false_iff.mp hin)]
        exact takeStep_eq_error_iff.mpr (.inr ⟨_, hb, ha, rfl⟩)
    | strayText text hr hh hclosed =>
        rw [place_of_ready hr rfl]
        refine takeProse_eq_error_iff.mpr ⟨fun h' hh' => ?_, rfl⟩
        cases hh.symm.trans hh'
        exact hclosed

/-! ### All lines and the end of the file -/

/-- Lines are refused at the first one that is. -/
theorem takeAll_eq_error_iff {lines : List Line} : d.takeAll path word lines = .error e ↔
    ∃ before line after d', lines = before ++ line :: after ∧
      d.takeAll path word before = .ok d' ∧ Refuses word d' line e := by
  induction lines generalizing d with
  | nil => simp
  | cons line rest ih =>
      rw [takeAll_cons_eq]
      cases hplace : d.place path word line with
      | error e' =>
          have hrefuses := place_eq_error_iff.mp hplace
          constructor
          · rintro h
            cases h
            exact ⟨[], line, rest, d, rfl, rfl, hrefuses⟩
          · rintro ⟨before, line', after, d', hsplit, hbefore, h⟩
            cases before with
            | nil =>
                cases hsplit
                cases hbefore
                rw [place_eq_error_iff.mpr h] at hplace
                cases hplace
                rfl
            | cons first before =>
                cases hsplit
                rw [takeAll_cons_eq, hplace] at hbefore
                cases hbefore
      | ok next =>
          have htakes := place_eq_ok_iff.mp hplace
          refine ih.trans ⟨?_, ?_⟩
          · rintro ⟨before, line', after, d', rfl, hbefore, h⟩
            exact ⟨line :: before, line', after, d', rfl, (takeAll_cons htakes).trans hbefore, h⟩
          · rintro ⟨before, line', after, d', hsplit, hbefore, h⟩
            cases before with
            | nil =>
                cases hsplit
                cases hbefore
                rw [place_eq_error_iff.mpr h] at hplace
                cases hplace
            | cons first before =>
                cases hsplit
                exact ⟨before, line', after, d', rfl, (takeAll_cons htakes).symm.trans hbefore, h⟩

/-- A file ends badly without a feature header, with tags that wait, or with an outline that
cannot be closed. -/
theorem toFeature_eq_error_iff {id : Nat} : d.toFeature path id = .error e ↔
    (d.heading = none ∧ e = ⟨max d.line 1, .missingFeature⟩) ∨
    (d.heading ≠ none ∧ ∃ first rest, d.waiting = first :: rest ∧
      e = ⟨first.line, .strayTags⟩) ∨
    (d.Ready ∧ ∃ b, d.current = some b ∧ b.close? d.nextId = none ∧
      e = ⟨b.scenario.line, .missingExamples⟩) := by
  unfold toFeature Ready
  rw [← closeBlock_eq_error_iff]
  cases hh : d.heading with
  | none => simp [eq_comm]
  | some h =>
      cases hw : d.waiting with
      | cons first rest => simp [eq_comm]
      | nil => cases d.closeBlock <;> simp

end Draft

/-- A text cannot be read if a line of it is refused or the file ends badly. -/
theorem read_eq_error_iff {κ : Type} {r : Reader κ} {text : Text} {e : ReadError} :
    r.read text = .error e ↔ ∃ fault, e = .malformed r.path fault ∧
      ((∃ before line after d, r.lines text = before ++ line :: after ∧
          Draft.start.takeAll r.path r.vocabulary.examples before = .ok d ∧
          d.Refuses r.vocabulary.examples line fault) ∨
        ∃ d, Draft.start.takeAll r.path r.vocabulary.examples (r.lines text) = .ok d ∧
          d.toFeature r.path r.featureId = .error fault) := by
  simp only [← Draft.takeAll_eq_error_iff]
  unfold Reader.read ofLines
  cases Draft.start.takeAll r.path r.vocabulary.examples (r.lines text) with
  | error fault => simp [eq_comm]
  | ok d => cases hf : d.toFeature r.path r.featureId <;> simp [hf, eq_comm]

end Playbook.Document
