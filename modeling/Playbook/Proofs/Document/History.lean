import Playbook.Proofs.Document.Coherence
import Playbook.Proofs.Document.Recognition
import Playbook.Proofs.Document.Scenarios

/-!
# Playbook.Proofs.Document.History

What a draft remembers of the lines it has taken. The state of a draft says nothing about a file
by itself; `Draft.History` reads it back as a statement about the text of the lines above: how
many there are, which of them is the feature header, where the tags that wait have begun, which
header of a block is the closest and what stands below it.

Each part of the history is a structure of its own with a lemma for one line; `History.takeAll`
puts them together for all lines.
-/

namespace Playbook.Document

open Text (trim)

/-! ### Lines above -/

section

variable {p q : Text → Prop} {lines above below : List Text} {line l : Text}

theorem forall_mem_concat : (∀ l ∈ lines ++ [line], p l) ↔ (∀ l ∈ lines, p l) ∧ p line := by
  rw [List.forall_mem_append, List.forall_mem_singleton]

/-- Of some lines with one more at the end, any is that one or one of the others. -/
theorem concat_eq_append_cons (h : lines ++ [line] = above ++ l :: below) :
    (below = [] ∧ l = line) ∨ ∃ init, below = init ++ [line] ∧ lines = above ++ l :: init := by
  rcases List.eq_nil_or_concat below with rfl | ⟨init, last, rfl⟩
  · obtain ⟨-, hline⟩ := List.append_inj' h rfl
    cases hline
    exact .inl ⟨rfl, rfl⟩
  · have hsplit : lines ++ [line] = (above ++ l :: init) ++ [last] := by simpa using h
    obtain ⟨hlines, hline⟩ := List.append_inj' hsplit rfl
    cases hline
    exact .inr ⟨init, List.concat_eq_append .., hlines⟩

/-- A line of the first kind stands among the lines, with lines of the second kind only below
it. -/
def Since (p q : Text → Prop) (lines : List Text) : Prop :=
  ∃ above line below, lines = above ++ line :: below ∧ p line ∧ ∀ l ∈ below, q l

theorem not_since_nil : ¬ Since p q [] := by
  rintro ⟨above, line, below, h, -⟩
  simp at h

/-- The last line decides, or lets those above decide. -/
theorem since_concat : Since p q (lines ++ [line]) ↔ p line ∨ (q line ∧ Since p q lines) := by
  constructor
  · rintro ⟨above, l, below, h, hp, hq⟩
    rcases concat_eq_append_cons h with ⟨-, rfl⟩ | ⟨init, rfl, rfl⟩
    · exact .inl hp
    · obtain ⟨hinit, hline⟩ := forall_mem_concat.mp hq
      exact .inr ⟨hline, above, l, init, rfl, hp, hinit⟩
  · rintro (hp | ⟨hq, above, l, below, rfl, hp, hall⟩)
    · exact ⟨lines, line, [], rfl, hp, by simp⟩
    · exact ⟨above, l, below ++ [line], by simp, hp, forall_mem_concat.mpr ⟨hall, hq⟩⟩

end

/-- None of the lines says anything. -/
def Silent (lines : List Text) : Prop := ∀ line ∈ lines, ¬ Speaks (trim line)

/-- The lines that say anything are tags. -/
def OnlyTags (lines : List Text) : Prop := ∀ line ∈ lines, Speaks (trim line) → IsTag line

/-- The last of the lines that says anything is a tag. -/
def Tagged (lines : List Text) : Prop :=
  Since IsTag (fun line => Speaks (trim line) → IsTag line) lines

/-- A step stands among the lines, with nothing but comments and rows below it. -/
def TableOpen (v : Vocabulary) (lines : List Text) : Prop :=
  Since (IsStep v) (fun line => IsComment line ∨ IsRow line) lines

/-- An examples marker is followed by a row. -/
def Exemplified (v : Vocabulary) (lines : List Text) : Prop :=
  ∃ above marker below, lines = above ++ marker :: below ∧ IsExamples v marker ∧
    ∃ row ∈ below, IsRow row

/-- The first row below the first examples marker holds these cells. -/
def Named (v : Vocabulary) (lines : List Text) (columns : Row) : Prop :=
  ∃ above marker between row below, lines = above ++ marker :: (between ++ row :: below) ∧
    (∀ line ∈ above, ¬ IsExamples v line) ∧ IsExamples v marker ∧
    (∀ line ∈ between, ¬ IsRow line) ∧ IsRow row ∧ columns = Row.ofLine row

section

variable {v : Vocabulary} {lines : List Text} {line : Text} {columns : Row}

theorem exemplified_of_concat (h : Exemplified v (lines ++ [line])) :
    Exemplified v lines ∨ (IsRow line ∧ ∃ marker ∈ lines, IsExamples v marker) := by
  obtain ⟨above, marker, below, hsplit, hmarker, row, hrow, hbar⟩ := h
  rcases concat_eq_append_cons hsplit with ⟨rfl, -⟩ | ⟨init, rfl, rfl⟩
  · cases hrow
  · rw [List.mem_append, List.mem_singleton] at hrow
    rcases hrow with hrow | rfl
    · exact .inl ⟨above, marker, init, rfl, hmarker, row, hrow, hbar⟩
    · exact .inr ⟨hbar, marker, by simp, hmarker⟩

theorem Named.concat (h : Named v lines columns) (line : Text) :
    Named v (lines ++ [line]) columns := by
  obtain ⟨above, marker, between, row, below, rfl, h⟩ := h
  exact ⟨above, marker, between, row, below ++ [line], by simp, h⟩

/-- The first row below the marker names the columns. -/
theorem named_concat (hmarker : ∃ marker ∈ lines, IsExamples v marker)
    (hnone : ¬ Exemplified v lines) (hrow : IsRow line) :
    Named v (lines ++ [line]) (Row.ofLine line) := by
  classical
  obtain ⟨m, hm, hexamples⟩ := hmarker
  have hsome : (lines.find? fun l => decide (IsExamples v l)).isSome :=
    List.find?_isSome.mpr ⟨m, hm, decide_eq_true hexamples⟩
  obtain ⟨marker, hfind⟩ := Option.isSome_iff_exists.mp hsome
  obtain ⟨hmarker, above, between, rfl, habove⟩ := List.find?_eq_some_iff_append.mp hfind
  refine ⟨above, marker, between, line, [], by simp, ?_, of_decide_eq_true hmarker, ?_, hrow, rfl⟩
  · simpa using habove
  · intro l hl hbar
    exact hnone ⟨above, marker, between, rfl, of_decide_eq_true hmarker, l, hl, hbar⟩

end

namespace OpenBlock

variable {v : Vocabulary} {b b' : OpenBlock} {header line : Text} {below : List Text}

/-- What an open block remembers of its header and the lines below it. -/
structure Recalls (v : Vocabulary) (b : OpenBlock) (header : Text) (below : List Text) : Prop where
  isHeader : IsHeader v header
  isOutline : IsOutline v header ↔ ∃ examples, b.kind = .outline examples
  noHeader : ∀ line ∈ below, ¬ IsHeader v line
  marked : b.hasExamples = true ↔ ∃ marker ∈ below, IsExamples v marker
  named : ∀ columns rows, b.kind = .outline (some ⟨some columns, rows⟩) → Named v below columns
  unnamed : (∀ columns rows, b.kind ≠ .outline (some ⟨some columns, rows⟩)) →
    ¬ Exemplified v below
  table : TableOpen v below → b.hasExamples = false → b.target = .step

theorem hasExamples_congr (h : b'.kind = b.kind) : b'.hasExamples = b.hasExamples := by
  rw [hasExamples, hasExamples, h]

/-- A line that leaves the kind of the block as it is. Rows do so above the examples only. -/
theorem Recalls.concat (h : b.Recalls v header below) (hkind : b'.kind = b.kind)
    (hheader : ¬ IsHeader v line) (hexamples : ¬ IsExamples v line)
    (hrow : IsRow line → b.hasExamples = false)
    (htable : TableOpen v (below ++ [line]) → b.hasExamples = false → b'.target = .step) :
    b'.Recalls v header (below ++ [line]) where
  isHeader := h.isHeader
  isOutline := hkind ▸ h.isOutline
  noHeader := forall_mem_concat.mpr ⟨h.noHeader, hheader⟩
  marked := by
    rw [hasExamples_congr hkind, h.marked]
    simp [or_and_right, exists_or, hexamples]
  named columns rows hk := (h.named columns rows (hkind ▸ hk)).concat line
  unnamed hnone hexemplified := by
    rcases exemplified_of_concat hexemplified with habove | ⟨hbar, hmarker⟩
    · exact h.unnamed (hkind ▸ hnone) habove
    · rw [← h.marked, hrow hbar] at hmarker
      cases hmarker
  table hopen hnone := htable hopen (hasExamples_congr hkind ▸ hnone)

/-- A blank line or a tag, below which a table does not go on. -/
theorem Recalls.ended (h : b.Recalls v header below) (hv : v.Unambiguous)
    (hline : Line.read v line = .blank ∨ ∃ label, Line.read v line = .tag label) :
    ({ b with tableOpen := false } : OpenBlock).Recalls v header (below ++ [line]) := by
  have hkinds : ¬ IsHeader v line ∧ ¬ IsExamples v line ∧ ¬ IsRow line ∧ ¬ IsComment line ∧
      ¬ IsStep v line := by
    rw [isHeader_iff hv, isExamples_iff hv, isRow_iff hv, isComment_iff v, isStep_iff hv]
    rcases hline with hread | ⟨label, hread⟩ <;> simp [hread]
  obtain ⟨hheader, hexamples, hrow, hcomment, hstep⟩ := hkinds
  refine h.concat rfl hheader hexamples (fun hbar => absurd hbar hrow) fun hopen => ?_
  rcases since_concat.mp hopen with hs | ⟨hother, -⟩
  · exact absurd hs hstep
  · exact absurd hother (by simp [hcomment, hrow])

/-- A comment leaves a table open that was. -/
theorem Recalls.comment (h : b.Recalls v header below) (hv : v.Unambiguous)
    (hread : Line.read v line = .comment) : b.Recalls v header (below ++ [line]) := by
  refine h.concat rfl (by simp [isHeader_iff hv, hread]) (by simp [isExamples_iff hv, hread])
    (by simp [isRow_iff hv, hread]) fun hopen => ?_
  rcases since_concat.mp hopen with hs | ⟨-, habove⟩
  · exact absurd hs (by simp [isStep_iff hv, hread])
  · exact h.table habove

/-- A step opens its table. -/
theorem Recalls.step (h : b.Recalls v header below) (hv : v.Unambiguous) {kind : StepKind}
    {sentence : Text} (hread : Line.read v line = .step kind sentence)
    (hnone : b.hasExamples = false) (path : Text) (n : Nat) :
    (b.pushStep kind sentence path n).Recalls v header (below ++ [line]) := by
  refine h.concat rfl (by simp [isHeader_iff hv, hread]) (by simp [isExamples_iff hv, hread])
    (fun _ => hnone) fun _ _ => ?_
  exact target_eq_step_iff.mpr ⟨hnone, rfl, by simp [pushStep]⟩

/-- A row goes on with a table that is open. -/
theorem Recalls.tableRow (h : b.Recalls v header below) (hv : v.Unambiguous) {cells : Row}
    (hread : Line.read v line = .row cells) (htarget : b.target = .step) :
    (b.pushRow cells).Recalls v header (below ++ [line]) := by
  obtain ⟨before, step, hsteps⟩ := exists_last_step htarget
  obtain ⟨hnone, hopen, -⟩ := target_eq_step_iff.mp htarget
  refine h.concat (pushRow_kind b cells) (by simp [isHeader_iff hv, hread])
    (by simp [isExamples_iff hv, hread]) (fun _ => hnone) fun _ _ => ?_
  rw [target_eq_step_iff, hasExamples_congr (pushRow_kind b cells), pushRow_of_steps cells hsteps]
  exact ⟨hnone, hopen, by simp⟩

/-- The header itself. -/
theorem recalls_header {kind : HeaderKind} {sentence : Text} (hv : v.Unambiguous)
    (hread : Line.read v header = .scenario kind sentence) (hk : b.kind = Draft.openKind kind) :
    b.Recalls v header [] where
  isHeader := (isHeader_iff hv).mpr ⟨kind, sentence, hread⟩
  isOutline := by
    rw [isOutline_iff hv, hread, hk]
    cases kind <;> simp [Draft.openKind]
  noHeader _ h := nomatch h
  marked := by
    rw [hasExamples, hk]
    cases kind <;> simp [Draft.openKind]
  named columns rows h := absurd (hk ▸ h) (Draft.openKind_ne_outline_some kind _)
  unnamed _ h := by
    obtain ⟨above, marker, below, hsplit, -⟩ := h
    simp at hsplit
  table h := absurd h not_since_nil

/-- The marker above the examples. -/
theorem Recalls.marker (h : b.Recalls v header below) (hv : v.Unambiguous)
    (hread : Line.read v line = .examples) (hk : b.kind = .outline none) :
    (b.withExamples ⟨none, []⟩).Recalls v header (below ++ [line]) where
  isHeader := h.isHeader
  isOutline := h.isOutline.trans (iff_of_true ⟨_, hk⟩ ⟨_, rfl⟩)
  noHeader := by
    rw [forall_mem_concat, isHeader_iff hv, hread]
    exact ⟨h.noHeader, by simp⟩
  marked := iff_of_true rfl ⟨line, by simp, (isExamples_iff hv).mpr hread⟩
  named columns rows hk := by cases hk
  unnamed _ hexemplified := by
    rcases exemplified_of_concat hexemplified with habove | ⟨hbar, -⟩
    · exact h.unnamed (by simp [hk]) habove
    · rw [isRow_iff hv, hread] at hbar
      cases hbar
  table _ hnone := by cases hnone

/-- A row of examples. The first one names the columns. -/
theorem Recalls.exampleRow (h : b.Recalls v header below) (hv : v.Unambiguous) {cells : Row}
    (hread : Line.read v line = .row cells) {examples : Examples}
    (hk : b.kind = .outline (some examples)) (rows : List Example) :
    (b.withExamples ⟨some (examples.columns.getD cells), rows⟩).Recalls v header
      (below ++ [line]) := by
  obtain ⟨hrow, rfl⟩ := isRow_of_read hread
  have hmarked : ∃ marker ∈ below, IsExamples v marker :=
    h.marked.mp (hasExamples_eq_true_iff.mpr ⟨examples, hk⟩)
  exact {
    isHeader := h.isHeader
    isOutline := h.isOutline.trans (iff_of_true ⟨_, hk⟩ ⟨_, rfl⟩)
    noHeader := by
      rw [forall_mem_concat, isHeader_iff hv, hread]
      exact ⟨h.noHeader, by simp⟩
    marked := by
      obtain ⟨marker, hmem, hmarker⟩ := hmarked
      exact iff_of_true rfl ⟨marker, List.mem_append_left _ hmem, hmarker⟩
    named := by
      intro columns' rows' hk'
      cases hk'
      obtain ⟨_ | names, rows⟩ := examples
      · exact named_concat hmarked (h.unnamed (by simp [hk])) hrow
      · exact (h.named names rows hk).concat line
    unnamed := fun hnone => absurd rfl (hnone _ rows)
    table := fun _ hnone => by cases hnone }

end OpenBlock

namespace Draft

variable {v : Vocabulary} {path word : Text} {d d' : Draft} {past : List Text} {line : Text}
  {line' : Line}

/-! ### The feature header -/

/-- What a draft remembers of the feature header: above it stand only tags, and while the
description is open and empty nothing stands below it. -/
structure Titled (v : Vocabulary) (past : List Text) (d : Draft) : Prop where
  above : d.heading = none → OnlyTags past
  below : ∀ h, d.heading = some h → ∃ above header below, past = above ++ header :: below ∧
    OnlyTags above ∧ IsFeature v header ∧ (∀ l ∈ below, ¬ IsFeature v l) ∧
    (h.isOpen → h.description = [] → Silent below)

theorem titled_start : Titled v [] start where
  above _ _ h := nomatch h
  below _ h := nomatch h

/-- A line below the feature header that is none. If it says anything, the description is not
open and empty any more. -/
theorem Titled.concat (h : d.Titled v past) (hfeature : ¬ IsFeature v line)
    (hnone : d'.heading = none → d.heading = none ∧ (Speaks (trim line) → IsTag line))
    (hsome : ∀ heading', d'.heading = some heading' → ∃ heading, d.heading = some heading ∧
      (heading'.isOpen → heading'.description = [] →
        ¬ Speaks (trim line) ∧ heading.isOpen ∧ heading.description = [])) :
    d'.Titled v (past ++ [line]) where
  above hd' := by
    obtain ⟨hd, htag⟩ := hnone hd'
    exact forall_mem_concat.mpr ⟨h.above hd, htag⟩
  below heading' hd' := by
    obtain ⟨heading, hd, hempty⟩ := hsome heading' hd'
    obtain ⟨above, header, below, rfl, habove, hheader, hbelow, hsilent⟩ := h.below heading hd
    refine ⟨above, header, below ++ [line], by simp, habove, hheader,
      forall_mem_concat.mpr ⟨hbelow, hfeature⟩, fun hopen hnil => ?_⟩
    obtain ⟨hline, hopen, hnil⟩ := hempty hopen hnil
    exact forall_mem_concat.mpr ⟨hsilent hopen hnil, hline⟩

theorem Titled.silent (h : d.Titled v past) (hfeature : ¬ IsFeature v line)
    (hline : ¬ Speaks (trim line)) (hheading : d'.heading = d.heading) :
    d'.Titled v (past ++ [line]) := by
  refine h.concat hfeature (fun hnone => ⟨hheading ▸ hnone, fun hs => absurd hs hline⟩) ?_
  exact fun heading hsome => ⟨heading, hheading ▸ hsome, fun hopen hnil => ⟨hline, hopen, hnil⟩⟩

/-- A line that ends the description. -/
theorem Titled.closed (h : d.Titled v past) (hfeature : ¬ IsFeature v line)
    (hheading : d'.heading = d.endDescription.heading) (hline : d.heading ≠ none ∨ IsTag line) :
    d'.Titled v (past ++ [line]) := by
  refine h.concat hfeature (fun hnone => ?_) fun heading' hsome => ?_
  · have hnone : d.heading = none := endDescription_heading_eq_none_iff.mp (hheading ▸ hnone)
    exact ⟨hnone, fun _ => hline.resolve_left (absurd hnone)⟩
  · rw [hheading] at hsome
    obtain ⟨heading, hh, -⟩ := Option.map_eq_some_iff.mp hsome
    refine ⟨heading, hh, fun hopen => ?_⟩
    rw [isOpen_endDescription hsome] at hopen
    cases hopen

/-- A line of a block, whose description has ended. -/
theorem Titled.inBlock (h : d.Titled v past) (hd : d.Coherent) (hfeature : ¬ IsFeature v line)
    {b : OpenBlock} (hb : d.current = some b) (b' : OpenBlock) :
    (d.counted.withCurrent b').Titled v (past ++ [line]) := by
  refine h.concat hfeature (fun hnone => absurd hnone (hd.heading_ne_none hb)) ?_
  refine fun heading hh => ⟨heading, hh, fun hopen => ?_⟩
  rw [(hd.describing heading hh hopen).2.1] at hb
  cases hb

theorem Titled.describe (h : d.Titled v past) (hfeature : ¬ IsFeature v line) {heading : Heading}
    (hh : d.heading = some heading) (text : Text) :
    (d.counted.describe heading text).Titled v (past ++ [line]) := by
  refine h.concat hfeature (fun hnone => nomatch hnone) fun heading' hsome => ?_
  cases hsome
  exact ⟨heading, hh, fun _ hnil => absurd hnil (List.append_ne_nil_of_right_ne_nil _ (by simp))⟩

theorem Titled.takes (hv : v.Unambiguous) (hd : d.Coherent) (h : d.Titled v past)
    (ht : Takes path word d (Line.read v line) d') : d'.Titled v (past ++ [line]) := by
  have hother : (∀ sentence, Line.read v line ≠ .feature sentence) → ¬ IsFeature v line :=
    fun hne hf => (isFeature_iff hv).mp hf |>.elim hne
  generalize hread : Line.read v line = l at ht hother
  cases ht with
  | blank => exact h.silent (hother (by simp)) (by simp [speaks_iff v, hread, Line.isSilent]) rfl
  | comment => exact h.silent (hother (by simp)) (by simp [speaks_iff v, hread, Line.isSilent]) rfl
  | tag label =>
      exact h.closed (hother (by simp)) rfl (.inr ((isTag_iff v).mpr ⟨label, hread⟩))
  | feature sentence hnone =>
      have hfeature : IsFeature v line := (isFeature_iff hv).mpr ⟨sentence, hread⟩
      refine ⟨fun hnone => absurd hnone (Option.some_ne_none _), fun heading hh => ?_⟩
      exact ⟨past, line, [], rfl, h.above hnone, hfeature, by simp, fun _ _ => by simp [Silent]⟩
  | header kind sentence hne hclose =>
      refine h.closed (hother (by simp)) ?_ (.inl hne)
      exact congrArg (Option.map _) (closeBlock_keeps hclose).2.1
  | describedStep kind sentence _ hh _ _ => exact h.describe (hother (by simp)) hh _
  | prose text _ hh _ => exact h.describe (hother (by simp)) hh _
  -- The other lines stand in a block.
  | _ => exact h.inBlock hd (hother (by simp)) ‹_› _

/-- A description that no tag and no block has ended is open. -/
def Describing (d : Draft) : Prop :=
  ∀ h, d.heading = some h → d.waiting = [] → d.current = none → h.isOpen

theorem describing_start : start.Describing := fun _ h => nomatch h

theorem Describing.takes (h : d.Describing) (ht : Takes path word d line' d') :
    d'.Describing := by
  cases ht with
  | blank => exact fun heading hh hw hc => h heading hh hw (Option.map_eq_none_iff.mp hc)
  | comment => exact h
  | tag label =>
      exact fun heading _ hw _ => absurd hw (List.append_ne_nil_of_right_ne_nil _ (by simp))
  | feature sentence _ => exact fun heading hh _ _ => by cases hh; rfl
  | describedStep kind sentence _ _ ho _ => exact fun heading hh _ _ => by cases hh; exact ho
  | prose text _ _ ho => exact fun heading hh _ _ => by cases hh; exact ho
  | _ => exact fun _ _ _ hc => nomatch hc

/-! ### Tags that wait -/

/-- What a draft remembers of the tags that wait: with the first of them begins the run of tags
that the lines end in. -/
structure Awaits (past : List Text) (d : Draft) : Prop where
  untagged : d.waiting = [] → ¬ Tagged past
  tagged : ∀ first rest, d.waiting = first :: rest → ∃ above tag below,
    past = above ++ tag :: below ∧ first.line = above.length + 1 ∧ ¬ Tagged above ∧ IsTag tag ∧
      OnlyTags below

theorem awaits_start : start.Awaits [] where
  untagged _ := not_since_nil
  tagged _ _ h := nomatch h

theorem Awaits.silent (h : d.Awaits past) (hline : ¬ Speaks (trim line)) (htag : ¬ IsTag line)
    (hwaiting : d'.waiting = d.waiting) : d'.Awaits (past ++ [line]) where
  untagged hnil htagged := by
    rcases since_concat.mp htagged with ht | ⟨-, hpast⟩
    · exact htag ht
    · exact h.untagged (hwaiting ▸ hnil) hpast
  tagged first rest hw := by
    obtain ⟨above, tag, below, rfl, hfirst, habove, ht, hbelow⟩ :=
      h.tagged first rest (hwaiting ▸ hw)
    exact ⟨above, tag, below ++ [line], by simp, hfirst, habove, ht,
      forall_mem_concat.mpr ⟨hbelow, fun hs => absurd hs hline⟩⟩

theorem Awaits.tag (h : d.Awaits past) (hline : d.line = past.length) (htag : IsTag line)
    (label : Tag) : (d.counted.takeTag label).Awaits (past ++ [line]) where
  untagged hnil := absurd hnil (List.append_ne_nil_of_right_ne_nil _ (by simp))
  tagged first rest hw := by
    have hwaiting : d.waiting ++ [⟨label, d.line + 1⟩] = first :: rest := hw
    cases hd : d.waiting with
    | nil =>
        rw [hd] at hwaiting
        cases hwaiting
        exact ⟨past, line, [], rfl, by simp [hline], h.untagged hd, htag, fun _ hl => nomatch hl⟩
    | cons _ _ =>
        rw [hd] at hwaiting
        cases hwaiting
        obtain ⟨above, tag, below, rfl, hfirst, habove, ht, hbelow⟩ := h.tagged _ _ hd
        exact ⟨above, tag, below ++ [line], by simp, hfirst, habove, ht,
          forall_mem_concat.mpr ⟨hbelow, fun _ => htag⟩⟩

/-- A line that says something and is no tag leaves none waiting. -/
theorem Awaits.cleared (hline : Speaks (trim line)) (htag : ¬ IsTag line)
    (hwaiting : d'.waiting = []) : d'.Awaits (past ++ [line]) where
  untagged _ htagged := by
    rcases since_concat.mp htagged with ht | ⟨ht, -⟩
    · exact htag ht
    · exact htag (ht hline)
  tagged first rest hw := by
    rw [hwaiting] at hw
    cases hw

theorem Awaits.takes (h : d.Awaits past) (hline : d.line = past.length)
    (ht : Takes path word d (Line.read v line) d') : d'.Awaits (past ++ [line]) := by
  have htag : IsTag line ↔ ∃ label, Line.read v line = .tag label := isTag_iff v
  have hspeaks : Speaks (trim line) ↔ (Line.read v line).isSilent = false := speaks_iff v
  generalize hread : Line.read v line = l at ht htag hspeaks
  cases ht with
  | blank => exact h.silent (by simp [hspeaks, Line.isSilent]) (by simp [htag]) rfl
  | comment => exact h.silent (by simp [hspeaks, Line.isSilent]) (by simp [htag]) rfl
  | tag label => exact h.tag hline (htag.mpr ⟨label, rfl⟩) label
  | feature sentence _ => exact .cleared (hspeaks.mpr rfl) (by simp [htag]) rfl
  | header kind sentence _ _ => exact .cleared (hspeaks.mpr rfl) (by simp [htag]) rfl
  -- Body lines are taken without waiting tags only.
  | _ => exact .cleared (hspeaks.mpr rfl) (by simp [htag]) (‹d.Ready›).2

/-! ### The open block -/

/-- What a draft remembers of the closest header of a block. -/
structure Placed (v : Vocabulary) (past : List Text) (d : Draft) : Prop where
  above : d.current = none → ∀ line ∈ past, ¬ IsHeader v line
  below : ∀ b, d.current = some b → ∃ above header below, past = above ++ header :: below ∧
    b.scenario.line = above.length + 1 ∧ b.Recalls v header below

theorem placed_start : Placed v [] start where
  above _ _ h := nomatch h
  below _ h := nomatch h

theorem Placed.concat (h : d.Placed v past) (hheader : ¬ IsHeader v line)
    (hnone : d'.current = none → d.current = none)
    (hsome : ∀ b', d'.current = some b' → ∃ b, d.current = some b ∧
      b'.scenario.line = b.scenario.line ∧
      ∀ header below, b.Recalls v header below → b'.Recalls v header (below ++ [line])) :
    d'.Placed v (past ++ [line]) where
  above hd' := by
    exact forall_mem_concat.mpr ⟨h.above (hnone hd'), hheader⟩
  below b' hb' := by
    obtain ⟨b, hb, hline, hrecalls⟩ := hsome b' hb'
    obtain ⟨above, header, below, rfl, hfound, hb⟩ := h.below b hb
    exact ⟨above, header, below ++ [line], by simp, hline.trans hfound, hrecalls header below hb⟩

/-- A line below which a table cannot go on. -/
theorem Placed.ended (hv : v.Unambiguous) (h : d.Placed v past)
    (hline : Line.read v line = .blank ∨ ∃ label, Line.read v line = .tag label)
    (hcurrent : d'.current = d.endTable.current) : d'.Placed v (past ++ [line]) := by
  have hheader : ¬ IsHeader v line := by
    rw [isHeader_iff hv]
    rcases hline with hread | ⟨label, hread⟩ <;> simp [hread]
  refine h.concat hheader (fun hnone => ?_) fun b' hb' => ?_
  · exact Option.map_eq_none_iff.mp (hcurrent ▸ hnone)
  · rw [hcurrent] at hb'
    obtain ⟨b, hb, rfl⟩ := Option.map_eq_some_iff.mp hb'
    exact ⟨b, hb, rfl, fun header below hr => hr.ended hv hline⟩

theorem Placed.inBlock (h : d.Placed v past) (hheader : ¬ IsHeader v line) {b b' : OpenBlock}
    (hb : d.current = some b) (hline : b'.scenario.line = b.scenario.line)
    (hrecalls : ∀ header below, b.Recalls v header below → b'.Recalls v header (below ++ [line])) :
    (d.counted.withCurrent b').Placed v (past ++ [line]) := by
  refine h.concat hheader (fun hnone => nomatch hnone) fun b'' hb'' => ?_
  cases hb''
  exact ⟨b, hb, hline, hrecalls⟩

/-- Above the first block nothing is remembered of it. -/
theorem Placed.outside (h : d.Placed v past) (hheader : ¬ IsHeader v line)
    (hnone : d.current = none) (hcurrent : d'.current = d.current) :
    d'.Placed v (past ++ [line]) := by
  refine h.concat hheader (fun _ => hnone) fun b' hb' => ?_
  rw [hcurrent, hnone] at hb'
  cases hb'

theorem Placed.takes (hv : v.Unambiguous) (hd : d.Coherent) (hline : d.line = past.length)
    (h : d.Placed v past) (ht : Takes path word d (Line.read v line) d') :
    d'.Placed v (past ++ [line]) := by
  have hother : (∀ kind sentence, Line.read v line ≠ .scenario kind sentence) →
      ¬ IsHeader v line := by
    rw [isHeader_iff hv]
    rintro hne ⟨kind, sentence, hread⟩
    exact hne kind sentence hread
  generalize hread : Line.read v line = l at ht hother
  cases ht with
  | blank => exact Placed.ended hv h (.inl hread) rfl
  | comment =>
      refine h.concat (hother (by simp)) id fun b hb => ⟨b, hb, rfl, fun header below hr => ?_⟩
      exact hr.comment hv hread
  | tag label => exact Placed.ended hv h (.inr ⟨label, hread⟩) rfl
  | feature sentence hnone => exact h.outside (hother (by simp)) (hd.headed hnone).2 rfl
  | header kind sentence _ hclose =>
      refine ⟨fun hnone => (by cases hnone), fun b hb => ?_⟩
      cases hb
      refine ⟨past, line, [], rfl, ?_, OpenBlock.recalls_header hv hread rfl⟩
      exact (closeBlock_keeps hclose).1.trans (congrArg (· + 1) hline)
  | examples _ hb hk =>
      exact h.inBlock (hother (by simp)) hb rfl fun header below hr => hr.marker hv hread hk
  | tableRow cells _ hb htarget =>
      obtain ⟨before, step, hsteps⟩ := OpenBlock.exists_last_step htarget
      have hkept : (OpenBlock.pushRow _ cells).scenario.line = _ :=
        congrArg (·.scenario.line) (OpenBlock.pushRow_of_steps cells hsteps)
      exact h.inBlock (hother (by simp)) hb hkept fun header below hr =>
        hr.tableRow hv hread htarget
  | columns cells _ hb hk =>
      exact h.inBlock (hother (by simp)) hb rfl fun header below hr => hr.exampleRow hv hread hk _
  | exampleRow cells _ hb hk _ =>
      exact h.inBlock (hother (by simp)) hb rfl fun header below hr => hr.exampleRow hv hread hk _
  | step kind sentence _ hb hbefore =>
      exact h.inBlock (hother (by simp)) hb rfl fun header below hr =>
        hr.step hv hread hbefore path _
  | describedStep kind sentence _ hh ho _ =>
      exact h.outside (hother (by simp)) (hd.describing _ hh ho).2.1 rfl
  | prose text _ hh ho => exact h.outside (hother (by simp)) (hd.describing _ hh ho).2.1 rfl

/-! ### All lines -/

/-- What a draft remembers of the lines it has taken. -/
structure History (v : Vocabulary) (past : List Text) (d : Draft) : Prop where
  coherent : d.Coherent
  describing : d.Describing
  line : d.line = past.length
  titled : d.Titled v past
  awaits : d.Awaits past
  placed : d.Placed v past

theorem history_start : start.History v [] :=
  ⟨coherent_start, describing_start, rfl, titled_start, awaits_start, placed_start⟩

/-- **One line.** -/
theorem History.takes (hv : v.Unambiguous) (h : d.History v past)
    (ht : Takes path word d (Line.read v line) d') : d'.History v (past ++ [line]) where
  coherent := h.coherent.takes ht
  describing := h.describing.takes ht
  line := by rw [ht.line_eq, h.line, List.length_append, List.length_singleton]
  titled := h.titled.takes hv h.coherent ht
  awaits := h.awaits.takes h.line ht
  placed := h.placed.takes hv h.coherent h.line ht

/-- **All lines.** The state of a draft tells what stands in the lines above. -/
theorem History.takeAll (hv : v.Unambiguous) {lines : List Text} (h : d.History v past)
    (hall : d.takeAll path word (lines.map (Line.read v)) = .ok d') :
    d'.History v (past ++ lines) := by
  induction lines generalizing d past with
  | nil =>
      cases hall
      rwa [List.append_nil]
  | cons line rest ih =>
      obtain ⟨next, ht, hrest⟩ := takeAll_cons_eq_ok_iff.mp hall
      rw [List.append_cons]
      exact ih (h.takes hv ht) hrest

end Draft

end Playbook.Document
