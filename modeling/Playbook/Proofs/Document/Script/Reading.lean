import Playbook.Proofs.Document.Coherence
import Playbook.Proofs.Document.Scenarios
import Playbook.Proofs.Document.Script.Lines

/-!
# Playbook.Proofs.Document.Script.Reading

Reading a script gives back the feature its author means. Inside a block the states of the
draft are known exactly (`Draft.inBlock`); between blocks all that matters is `Standing`:
how many lines were taken, and which blocks and which next identifier there are once the
open block is closed. Each block of the script leads from one such state to the next.
-/

namespace Playbook

open Document

/-- The block with other steps. -/
def Document.OpenBlock.withSteps (b : OpenBlock) (steps : List Step) : OpenBlock :=
  { b with scenario := { b.scenario with steps := steps } }

theorem Script.placeRows_cons (line : Nat) (cells : Row) (rest : List Row) :
    placeRows line (cells :: rest) = ⟨cells, line⟩ :: placeRows (line + 1) rest := by
  simp [placeRows, Nat.add_assoc, Nat.add_comm 1]

namespace Document.Draft

variable {path word : Text} {d d' : Draft}

/-! ### Tags -/

/-- The drafts differ at most in their lines, in the tags that wait and in whether the
description and a table may go on. -/
structure Alike (d d' : Draft) : Prop where
  heading : d'.endDescription.heading = d.endDescription.heading
  current : d'.endTable.current = d.endTable.current
  blocks : d'.blocks = d.blocks
  nextId : d'.nextId = d.nextId

theorem Alike.refl (d : Draft) : Alike d d := ⟨rfl, rfl, rfl, rfl⟩

theorem alike_takeTag (d : Draft) (tag : Tag) : Alike d (d.counted.takeTag tag) where
  heading := by simp [takeTag, endDescription, Function.comp_def, endTable]
  current := by simp [takeTag, endDescription, Function.comp_def, endTable]
  blocks := rfl
  nextId := rfl

theorem Alike.trans {d'' : Draft} (h : Alike d d') (h' : Alike d' d'') : Alike d d'' where
  heading := h'.heading.trans h.heading
  current := h'.current.trans h.current
  blocks := h'.blocks.trans h.blocks
  nextId := h'.nextId.trans h.nextId

/-- Whether the description and a table may go on does not matter to the end of a block. -/
theorem Alike.closeBlock {closed : Draft} (h : Alike d d') (hc : d.closeBlock = .ok closed) :
    ∃ closed', d'.closeBlock = .ok closed' ∧ closed'.blocks = closed.blocks ∧
      closed'.nextId = closed.nextId := by
  have hcurrent := h.current
  rcases closeBlock_eq_ok_iff.mp hc with ⟨hnone, rfl⟩ | ⟨b, block, hb, hclose, rfl⟩
  · have hnone' : d'.current = none := by simpa [endTable, hnone] using hcurrent
    exact ⟨d', closeBlock_eq_ok_iff.mpr (.inl ⟨hnone', rfl⟩), h.blocks, h.nextId⟩
  · obtain ⟨b', hb', hsame⟩ : ∃ b', d'.current = some b' ∧
        { b' with tableOpen := false } = { b with tableOpen := false } := by
      simpa [endTable, hb, Option.map_eq_some_iff] using hcurrent
    have hclose' : b'.close? d'.nextId = some block := by
      obtain ⟨kind, scenario, isOpen⟩ := b
      obtain ⟨kind', scenario', isOpen'⟩ := b'
      cases hsame
      rw [h.nextId]
      exact hclose
    exact ⟨d'.withClosed block, closeBlock_eq_ok_iff.mpr (.inr ⟨b', block, hb', hclose', rfl⟩),
      by simp [h.blocks], by simp [h.nextId]⟩

/-- Tags wait for a header and change nothing else that matters. -/
theorem takeAll_tags (path word : Text) (d : Draft) (labels : List Tag) :
    ∃ d', d.takeAll path word (labels.map .tag) = .ok d' ∧ Alike d d' ∧
      d'.line = d.line + labels.length ∧ d'.waitingTags = d.waitingTags ++ labels := by
  induction labels generalizing d with
  | nil => exact ⟨d, rfl, .refl d, rfl, (List.append_nil _).symm⟩
  | cons label rest ih =>
      obtain ⟨d', hall, halike, hline, hwaiting⟩ := ih (d.counted.takeTag label)
      refine ⟨d', takeAll_cons_eq_ok_iff.mpr ⟨_, .tag label, hall⟩,
        (alike_takeTag d label).trans halike, ?_, ?_⟩
      · rw [hline]
        simp only [takeTag, endDescription_line, endTable_line, counted_line, List.length_cons]
        omega
      · rw [hwaiting]
        simp [takeTag, waitingTags]

/-! ### Inside a block -/

/-- The draft inside of a block, below a heading whose description has ended. -/
def inBlock (h : Heading) (blocks : List Block) (nextId line : Nat) (b : OpenBlock) : Draft where
  line := line
  waiting := []
  heading := some h
  blocks := blocks
  current := some b
  nextId := nextId

variable {h : Heading} {blocks : List Block} {nextId line : Nat} {b : OpenBlock}

theorem ready_inBlock : (inBlock h blocks nextId line b).Ready := ⟨nofun, rfl⟩

theorem inBlock_withCurrent (b' : OpenBlock) :
    (inBlock h blocks nextId line b).counted.withCurrent b' =
      inBlock h blocks nextId (line + 1) b' := rfl

/-- Rows below a step make its table. -/
theorem takeAll_tableRows (rows : List Row) {before : List Step} {s : Step}
    (hbefore : b.hasExamples = false) (hopen : b.tableOpen)
    (hsteps : b.scenario.steps = before ++ [s]) :
    (inBlock h blocks nextId line b).takeAll path word (rows.map .row) =
      .ok (inBlock h blocks nextId (line + rows.length)
        (b.withSteps (before ++ [{ s with table := s.table ++ rows }]))) := by
  induction rows generalizing b s line with
  | nil =>
      rw [List.append_nil, ← hsteps]
      rfl
  | cons cells rest ih =>
      have htarget : b.target = .step :=
        OpenBlock.target_eq_step_iff.mpr ⟨hbefore, hopen, by simp [hsteps]⟩
      have hpush := OpenBlock.pushRow_of_steps cells hsteps
      have hbefore' : (b.pushRow cells).hasExamples = false := by rw [hpush]; exact hbefore
      have hopen' : (b.pushRow cells).tableOpen := by rw [hpush]; exact hopen
      rw [List.map_cons, takeAll_cons (.tableRow cells ready_inBlock rfl htarget),
        inBlock_withCurrent, ih hbefore' hopen' (by rw [hpush]), hpush]
      simp only [OpenBlock.withSteps, List.append_assoc, List.singleton_append, List.length_cons]
      rw [Nat.add_assoc line, Nat.add_comm 1]

/-- The lines of a step add it to the block, with its table. -/
theorem takeAll_step (s : Script.Step) (hbefore : b.hasExamples = false) :
    (inBlock h blocks nextId line b).takeAll path word s.lines =
      .ok (inBlock h blocks nextId (line + s.height)
        { b.withSteps (b.scenario.steps ++ [⟨b.scenario.steps.length + 1, s.kind, s.sentence, path,
            line + 1, s.table⟩]) with tableOpen := true }) := by
  have hpush : (b.pushStep s.kind s.sentence path (line + 1)).scenario.steps =
      b.scenario.steps ++ [⟨b.scenario.steps.length + 1, s.kind, s.sentence, path, line + 1, []⟩] :=
    rfl
  have hopen : (b.pushStep s.kind s.sentence path (line + 1)).tableOpen := rfl
  have hbefore' : (b.pushStep s.kind s.sentence path (line + 1)).hasExamples = false := hbefore
  rw [Script.Step.lines, takeAll_cons (.step s.kind s.sentence ready_inBlock rfl hbefore),
    inBlock_withCurrent]
  refine (takeAll_tableRows s.table hbefore' hopen hpush).trans ?_
  rw [List.nil_append, Nat.add_assoc line]
  rfl

theorem takeAll_steps (steps : List Script.Step) (hbefore : b.hasExamples = false) :
    (inBlock h blocks nextId line b).takeAll path word (steps.flatMap Script.Step.lines) =
      .ok (inBlock h blocks nextId (line + (steps.map Script.Step.height).sum)
        { b.withSteps (b.scenario.steps ++
            Script.placeSteps path (b.scenario.steps.length + 1) (line + 1) steps) with
          tableOpen := b.tableOpen || !steps.isEmpty }) := by
  induction steps generalizing b line with
  | nil => simp [Script.placeSteps, OpenBlock.withSteps]
  | cons s rest ih =>
      rw [List.flatMap_cons, takeAll_append (takeAll_step s hbefore)]
      refine (ih ?_).trans ?_
      · exact hbefore
      simp only [OpenBlock.withSteps, List.map_cons, List.sum_cons, Script.placeSteps,
        List.length_append, List.length_singleton, List.append_assoc, List.singleton_append,
        List.isEmpty_cons, Bool.not_false, Bool.or_true, Bool.true_or]
      rw [Nat.add_assoc line, Nat.add_right_comm line 1]

/-- Rows below the columns of an outline are its examples. -/
theorem takeAll_exampleRows (rows : List Row) {columns : Row} {examples : List Example}
    (hkind : b.kind = .outline (some ⟨some columns, examples⟩))
    (hwidth : ∀ cells ∈ rows, columns.length = cells.length) :
    (inBlock h blocks nextId line b).takeAll path word (rows.map .row) =
      .ok (inBlock h blocks nextId (line + rows.length) (b.withExamples
        ⟨some columns, examples ++ Script.placeRows (line + 1) rows⟩)) := by
  induction rows generalizing b line examples with
  | nil =>
      obtain ⟨kind, scenario, isOpen⟩ := b
      subst hkind
      simp [Script.placeRows, OpenBlock.withExamples]
  | cons cells rest ih =>
      obtain ⟨hcells, hrest⟩ := List.forall_mem_cons.mp hwidth
      rw [List.map_cons, takeAll_cons (.exampleRow cells ready_inBlock rfl hkind hcells),
        inBlock_withCurrent, ih rfl hrest, Script.placeRows_cons]
      simp only [OpenBlock.withExamples, List.append_assoc, List.singleton_append,
        List.length_cons]
      rw [Nat.add_assoc line, Nat.add_comm 1]
      rfl

/-- What is open at the end of a block, the first row of its examples on `line`. -/
def closingKind (line : Nat) : Script.Body → OpenKind
  | .plain => .plain
  | .loop n => .loop n
  | .outline columns rows => .outline (some ⟨some columns, Script.placeRows line rows⟩)

/-- The examples of a block, if it is an outline. -/
theorem takeAll_body {body : Script.Body} (hbody : body.WellFormed)
    (hkind : b.kind = openKind body.headerKind) :
    (inBlock h blocks nextId line b).takeAll path word body.lines =
      .ok (inBlock h blocks nextId (line + body.height)
        { b with kind := closingKind (line + 3) body }) := by
  obtain ⟨kind, scenario, isOpen⟩ := b
  subst hkind
  cases body with
  | plain => rfl
  | loop n => rfl
  | outline columns rows =>
      rw [Script.Body.lines, takeAll_cons (.examples ready_inBlock rfl rfl), inBlock_withCurrent,
        takeAll_cons (.columns columns ready_inBlock rfl rfl), inBlock_withCurrent,
        takeAll_exampleRows rows rfl fun cells hcells => (hbody.2 cells hcells).2,
        Script.Body.height, ← Nat.add_assoc]
      rfl

/-! ### Between blocks -/

/-- The draft has taken `line` lines, all of its tags belong to something, and once the
open block is closed there are the given blocks and the given next identifier. -/
structure Standing (h : Heading) (blocks : List Block) (nextId line : Nat) (d : Draft) :
    Prop where
  line : d.line = line
  waiting : d.waiting = []
  heading : d.endDescription.heading = some h
  close : ∃ closed, d.closeBlock = .ok closed ∧ closed.blocks = blocks ∧ closed.nextId = nextId

/-- The tags and the header of a block open it. -/
theorem Standing.takeAll_header (hd : Standing h blocks nextId line d) (labels : List Tag)
    (kind : HeaderKind) (sentence : Text) (rest : List Line) :
    d.takeAll path word (labels.map .tag ++ .scenario kind sentence :: rest) =
      (inBlock h blocks (nextId + 1) (line + labels.length + 1) {
        kind := openKind kind
        scenario := ⟨nextId, sentence, path, line + labels.length + 1, labels, []⟩
        tableOpen := false }).takeAll path word rest := by
  obtain ⟨hline, hwaiting, hheading, closed, hclose, hblocks, hnext⟩ := hd
  obtain ⟨tagged, htags, halike, htagged, hlabels⟩ := takeAll_tags path word d labels
  have hcounted : Alike d tagged.counted :=
    ⟨halike.heading, halike.current, halike.blocks, halike.nextId⟩
  -- The header closes the block before it, although the tags came in between.
  obtain ⟨closed', hclose', hblocks', hnext'⟩ := hcounted.closeBlock hclose
  obtain ⟨hline', hheading', hwaiting', -⟩ := closeBlock_keeps hclose'
  have hsame : closed'.endDescription.heading = some h := by
    rw [endDescription, hheading', ← hheading, ← halike.heading]
    rfl
  have hne : tagged.heading ≠ none := by
    intro hnone
    rw [endDescription, hheading', counted_heading, hnone] at hsame
    cases hsame
  have hlabels' : closed'.waitingTags = labels := by
    rw [waitingTags, hwaiting', counted_waiting, ← waitingTags, hlabels, waitingTags, hwaiting]
    rfl
  rw [takeAll_append htags, takeAll_cons (.header kind sentence hne hclose')]
  simp only [openBlock, inBlock, hsame, hlabels', hline', counted_line, htagged, hline, hblocks',
    hblocks, hnext', hnext, endDescription_blocks, endDescription_line]

/-- What is open at the end of a block closes to the block that is meant. -/
theorem close?_closingKind (path : Text) (line id : Nat) (b : Script.Block) (isOpen : Bool) :
    OpenBlock.close? ⟨closingKind (line + b.templateHeight + 2) b.body,
      b.placeHeader path line id, isOpen⟩ (id + 1) = some (b.place path line id) := by
  obtain ⟨tags, body, sentence, steps⟩ := b
  cases body <;> rfl

theorem length_generated_place (path : Text) (line id : Nat) (b : Script.Block) :
    (b.place path line id).generated.length = b.body.copies := by
  obtain ⟨tags, body, sentence, steps⟩ := b
  cases body <;> simp [Script.Block.place, Block.generated, Script.Body.copies, Script.placeRows]

/-- **One block.** The lines of a block add the block that is meant. -/
theorem Standing.takeAll_block (hd : Standing h blocks nextId line d) (path word : Text)
    {b : Script.Block} (hbody : b.body.WellFormed) :
    ∃ d', d.takeAll path word b.lines = .ok d' ∧
      Standing h (blocks ++ [b.place path (line + 1) nextId]) (nextId + b.idCount)
        (line + b.height) d' := by
  have hbefore : ∀ scenario isOpen,
      OpenBlock.hasExamples ⟨openKind b.body.headerKind, scenario, isOpen⟩ = false := by
    intro scenario isOpen
    cases b.body <;> rfl
  have hheight : line + b.tags.length + 1 + (b.steps.map Script.Step.height).sum =
      line + b.templateHeight := by
    rw [Script.Block.templateHeight]
    omega
  have hfirst : line + b.templateHeight + 3 = line + 1 + b.templateHeight + 2 := by omega
  have hheader : line + b.tags.length + 1 = line + 1 + b.tags.length := by omega
  have hopen : h.isOpen = false := isOpen_endDescription hd.heading
  -- At its end the block is still open; `Standing` sees it as it will be closed.
  refine ⟨inBlock h blocks (nextId + 1) (line + b.height) ⟨closingKind
    (line + 1 + b.templateHeight + 2) b.body, b.placeHeader path (line + 1) nextId,
    false || !b.steps.isEmpty⟩, ?_, ?_⟩
  · rw [Script.Block.lines, hd.takeAll_header, takeAll_append (takeAll_steps b.steps (hbefore _ _)),
      takeAll_body hbody rfl, hheight, hfirst, hheader, Nat.add_assoc line]
    rfl
  · refine ⟨rfl, rfl, ?_, ?_⟩
    · obtain ⟨sentence, headerLine, tags, description, isOpen⟩ := h
      subst hopen
      rfl
    · refine ⟨_, closeBlock_eq_ok_iff.mpr (.inr ⟨_, _, rfl,
        close?_closingKind path (line + 1) nextId b _, rfl⟩), rfl, ?_⟩
      rw [withClosed_nextId, length_generated_place, Script.Block.idCount, inBlock, Nat.add_assoc]

/-- The lines of all blocks add the blocks that are meant. -/
theorem Standing.takeAll_blocks (hd : Standing h blocks nextId line d) (path word : Text)
    {bs : List Script.Block} (hbs : ∀ b ∈ bs, b.body.WellFormed) :
    ∃ d' nextId' line', d.takeAll path word (bs.flatMap Script.Block.lines) = .ok d' ∧
      Standing h (blocks ++ Script.placeBlocks path (line + 1) nextId bs) nextId' line' d' := by
  induction bs generalizing d blocks nextId line with
  | nil =>
      rw [Script.placeBlocks, List.append_nil]
      exact ⟨d, nextId, line, rfl, hd⟩
  | cons b rest ih =>
      obtain ⟨hb, hrest⟩ := List.forall_mem_cons.mp hbs
      obtain ⟨next, htake, hnext⟩ := hd.takeAll_block path word hb
      obtain ⟨d', nextId', line', hall, hd'⟩ := ih hnext hrest
      refine ⟨d', nextId', line', ?_, ?_⟩
      · rw [List.flatMap_cons, takeAll_append htake, hall]
      · rw [Nat.add_right_comm, List.append_assoc] at hd'
        exact hd'

/-! ### Above the blocks -/

/-- The draft below the feature header, before the first block. -/
def describing (h : Heading) (line : Nat) : Draft where
  line := line
  waiting := []
  heading := some h
  blocks := []
  current := none
  nextId := 1

theorem standing_describing (h : Heading) (line : Nat) :
    Standing { h with isOpen := false } [] 1 line (describing h line) where
  line := rfl
  waiting := rfl
  heading := rfl
  close := ⟨describing h line, rfl, rfl, rfl⟩

/-- The lines of the description, of which the first one may not look like a step. -/
theorem takeAll_description {v : Vocabulary} {description : List Text} (hopen : h.isOpen)
    (hfirst : h.description = [] → ∀ text ∈ description.head?, v.stepKind? text = none) :
    (describing h line).takeAll path word (description.map (Script.described v)) =
      .ok (describing { h with description := h.description ++ description }
        (line + description.length)) := by
  induction description generalizing h line with
  | nil =>
      rw [List.append_nil]
      rfl
  | cons text rest ih =>
      -- From the second line on a step is free text, since the description has begun.
      have hready : (describing h line).Ready := ⟨nofun, rfl⟩
      have htake : Takes path word (describing h line) (Script.described v text)
          ((describing h line).counted.describe h text) := by
        unfold Script.described
        cases hk : v.stepKind? text with
        | none => exact .prose text hready rfl hopen
        | some kind =>
            have hbegun : h.description ≠ [] := fun hnil => by
              rw [hfirst hnil text rfl] at hk
              cases hk
            exact .describedStep kind text hready rfl hopen
              (by simp [inDescription, describing, hopen, hbegun])
      have hnext : (describing h line).counted.describe h text =
          describing { h with description := h.description ++ [text] } (line + 1) := rfl
      rw [List.map_cons, takeAll_cons htake, hnext]
      refine (ih ?_ ?_).trans ?_
      · exact hopen
      · exact fun hnil => absurd hnil (List.append_ne_nil_of_right_ne_nil _ (List.cons_ne_nil _ _))
      simp only [List.append_assoc, List.singleton_append, List.length_cons]
      rw [Nat.add_assoc line, Nat.add_comm 1]

end Document.Draft

/-! ### Scripts -/

namespace Script

open Document.Draft

variable {v : Vocabulary} {s : Script} {path word : Text}

/-- A script does not begin with a byte order mark. -/
theorem withoutMark_text (hv : v.Unambiguous) (s : Script) :
    Text.withoutMark (s.text v) = s.text v := by
  refine Text.withoutMark_eq_self ?_
  obtain ⟨tags, sentence, description, blocks⟩ := s
  cases tags with
  | cons label rest =>
      simp only [text, layout, Text.ofLines, List.map_cons, List.cons_append, List.flatMap_cons,
        Tag.render_eq, List.head?_cons]
      decide
  | nil =>
      have hw : v.feature ∈ v.openers := by simp [Vocabulary.openers, Vocabulary.keywords]
      simp only [text, layout, Text.ofLines, headed, List.map_nil, List.nil_append,
        List.flatMap_cons, List.append_assoc]
      exact head?_append_ne hv hw _ _ (by decide)

/-- The lines of a script can be taken, and they make the feature that is meant. -/
theorem takeAll_lines (h : s.WellFormed v) (path word : Text) (id : Nat) :
    ∃ d, start.takeAll path word (s.lines v) = .ok d ∧
      d.toFeature path id = .ok (s.toFeature path id) := by
  obtain ⟨tagged, htags, halike, hline, hlabels⟩ := takeAll_tags path word start s.tags
  have hnone : tagged.heading = none := endDescription_heading_eq_none_iff.mp halike.heading
  have hcurrent : tagged.current = none := by simpa [endTable, start] using halike.current
  let h₀ : Heading := ⟨s.sentence, s.tags.length + 1, s.tags, [], true⟩
  have hfeature : tagged.counted.withFeature s.sentence = describing h₀ (s.tags.length + 1) := by
    have hlabels' : tagged.counted.waitingTags = s.tags := hlabels
    have hline' : tagged.line = s.tags.length := by simpa [start] using hline
    rw [withFeature, describing, hlabels', counted_line, hline', counted_blocks, halike.blocks,
      counted_current, hcurrent, counted_nextId, halike.nextId]
    rfl
  have hdescription : (describing h₀ (s.tags.length + 1)).takeAll path word
      (s.description.map (described v)) = .ok (describing
        { h₀ with description := s.description } (s.tags.length + 1 + s.description.length)) :=
    takeAll_description rfl fun _ => h.first
  obtain ⟨d, nextId, line, hblocks, hd⟩ := (standing_describing
    { h₀ with description := s.description }
    (s.tags.length + 1 + s.description.length)).takeAll_blocks path word
      fun b hb => (h.blocks b hb).body
  obtain ⟨-, hwaiting, hheading, closed, hclose, hclosed, -⟩ := hd
  obtain ⟨heading, hheading', hsame⟩ := Option.map_eq_some_iff.mp hheading
  refine ⟨d, ?_, toFeature_eq_ok_iff.mpr ⟨heading, closed, hheading', hwaiting, hclose, ?_⟩⟩
  · rw [lines, takeAll_append htags, takeAll_cons (.feature s.sentence hnone), hfeature,
      takeAll_append hdescription, hblocks]
  · rw [hclosed]
    obtain ⟨sentence, headerLine, labels, description, isOpen⟩ := heading
    cases hsame
    rfl

/-- **Reading undoes writing.** In a built-in vocabulary the text of every well-formed script
whose identifiers can be counted is read, and what is read is the feature that is meant. -/
theorem read_text {κ : Type} {r : Reader κ} {s : Script} (hv : r.vocabulary ∈ Vocabulary.builtin)
    (h : s.WellFormed r.vocabulary) (hn : s.idCount ≤ Text.maxCount) :
    r.read (s.text r.vocabulary) = .ok (s.toFeature r.path r.featureId) := by
  have hv' := Vocabulary.unambiguous_of_mem_builtin _ hv
  obtain ⟨d, hall, hf⟩ := takeAll_lines h r.path r.vocabulary.examples r.featureId
  refine read_eq_ok_iff.mpr ⟨d, ?_, hf⟩
  have hlines : Text.lines (s.text r.vocabulary) = s.layout r.vocabulary :=
    Text.lines_ofLines (newline_not_mem_layout hv' h)
  rw [Reader.lines, withoutMark_text hv', hlines, read_layout hv' h hn]
  exact hall

/-- A script in German with tags, a description that goes on with the words of a step, a
table, an outline, a loop and an outline without rows. -/
def german : Script where
  tags := [⟨"issue".toList, some "4 2".toList⟩, ⟨"slow".toList, none⟩]
  sentence := "Rechnen".toList
  description := ["frei".toList, "Wenn es regnet".toList]
  blocks := [
    ⟨[⟨"t".toList, none⟩], .outline ["a".toList, "b".toList] [["1".toList, []], [[], "2".toList]],
      "Summe".toList, [⟨.givenStep, "Gegeben seien".toList, some "<a>: <b>".toList, []⟩]⟩,
    ⟨[], .plain, [], [⟨.whenStep, "Wenn".toList, none, [["x".toList], ["y".toList, "# z".toList]]⟩,
      ⟨.butStep, "Aber".toList, some "@k".toList, []⟩]⟩,
    ⟨[], .loop 3, "mal: drei".toList, []⟩,
    ⟨[], .outline [[]] [], "leer".toList, []⟩]

theorem read_text_german :
    Vocabulary.german ∈ Vocabulary.builtin ∧ german.WellFormed Vocabulary.german ∧
      german.idCount ≤ Text.maxCount ∧
      (Reader.mk () ['p'] 7 Vocabulary.german).read (german.text Vocabulary.german) =
        .ok (german.toFeature ['p'] 7) := by
  have hv : Vocabulary.german ∈ Vocabulary.builtin := by simp [Vocabulary.builtin]
  have h : german.WellFormed Vocabulary.german := by decide +kernel
  have hn : german.idCount ≤ Text.maxCount := by decide +kernel
  exact ⟨hv, h, hn, read_text (r := ⟨(), ['p'], 7, Vocabulary.german⟩) hv h hn⟩

end Script

end Playbook
