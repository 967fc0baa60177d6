import Playbook.Proofs.Document.Listing
import Playbook.Proofs.Document.Numbering

/-!
# Playbook.Proofs.Document.Expansion

What is generated from a template is the template, apart from what tells the copies apart.
A block is expanded long after its header was read, when rows, steps and other blocks have
come in between; `Draft.Faithful` says what has to be known until then. That the copies
take the identifiers after the template comes from `Draft.Numbered`, and that they number
their steps as the template does from `Scenario.StepsNumbered`.
-/

namespace Playbook

/-! ### Copies -/

/-- What the block generated are copies of its template. A row of an outline has as many
cells as there are columns; its copy stands on its line, and its cells are filled in for the
placeholders of every step. -/
def Block.Faithful : Block → Prop
  | .scenario _ => True
  | .outline template columns examples generated =>
    (∀ ex ∈ examples, ex.data.length = columns.length) ∧
      generated = examples.mapIdx fun i ex =>
        { template with
          id := template.id + 1 + i
          sentence := template.sentence ++ " - row ".toList ++ Text.decimal i
          line := ex.line
          steps := template.steps.map fun step =>
            { step with sentence := Placeholder.fill columns ex.data step.sentence } }
  | .loop template n generated =>
    generated = (List.range n).map fun i =>
      { template with
        id := template.id + 1 + i
        sentence := template.sentence ++ " - iteration ".toList ++ Text.decimal i }

namespace Expansion

/-- Steps that are numbered already are not numbered anew. -/
theorem numbered_eq_self {steps : List Step}
    (h : steps.map (·.id) = List.range' 1 steps.length) : numbered steps = steps := by
  apply List.ext_getElem
  · simp [numbered]
  · intro i _ hi
    have hid : (steps.map (·.id))[i]? = some (i + 1) := by
      rw [h, List.getElem?_range' hi, Nat.one_mul, Nat.add_comm]
    rw [List.getElem?_map, List.getElem?_eq_getElem hi, Option.map_some,
      Option.some.injEq] at hid
    simp [numbered, ← hid]

variable {template : Scenario} (h : template.StepsNumbered)

include h

theorem ofRow_eq (columns : Row) (firstId i : Nat) (ex : Example) :
    ofRow template columns firstId i ex =
      { template with
        id := firstId + i
        sentence := template.sentence ++ " - row ".toList ++ Text.decimal i
        line := ex.line
        steps := template.steps.map fun step =>
          { step with sentence := Placeholder.fill columns ex.data step.sentence } } := by
  have hsteps : ∀ fill : Step → Text, numbered (template.steps.map fun step =>
      { step with sentence := fill step }) = template.steps.map fun step =>
      { step with sentence := fill step } := by
    intro fill
    apply numbered_eq_self
    rw [List.map_map, List.length_map, ← h]
    rfl
  rw [ofRow, hsteps]

theorem ofIteration_eq (firstId i : Nat) :
    ofIteration template firstId i =
      { template with
        id := firstId + i
        sentence := template.sentence ++ " - iteration ".toList ++ Text.decimal i } := by
  rw [ofIteration, numbered_eq_self h]

end Expansion

/-! ### The invariant -/

namespace Document

/-- A block closes to copies of its template, if the rows of its examples are as wide as the
columns. -/
theorem OpenBlock.close?_faithful {b : OpenBlock} {block : Block}
    (hwidths : ∀ columns rows, b.kind = .outline (some ⟨some columns, rows⟩) →
      ∀ ex ∈ rows, ex.data.length = columns.length)
    (hsteps : b.scenario.StepsNumbered) (h : b.close? (b.scenario.id + 1) = some block) :
    block.Faithful := by
  rcases close?_eq_some_iff.mp h with ⟨-, rfl⟩ | ⟨n, -, rfl⟩ | ⟨columns, rows, hkind, rfl⟩
  · trivial
  · simp only [Block.Faithful, Expansion.ofLoop, Expansion.ofIteration_eq hsteps]
  · simp only [Block.Faithful, Expansion.ofOutline, Expansion.ofRow_eq hsteps, and_true]
    exact hwidths columns rows hkind

namespace Draft

variable {path word : Text} {d d' : Draft} {line : Line}

/-- Closed blocks hold copies of their templates, and the rows of the open one are as wide as
its columns. -/
structure Faithful (d : Draft) : Prop where
  closed : ∀ b ∈ d.blocks, b.Faithful
  widths : ∀ b columns rows, d.current = some b → b.kind = .outline (some ⟨some columns, rows⟩) →
    ∀ ex ∈ rows, ex.data.length = columns.length

theorem faithful_start : Faithful start where
  closed _ hb := nomatch hb
  widths _ _ _ hb := nomatch hb

theorem Faithful.endTable (h : d.Faithful) : d.endTable.Faithful where
  closed := h.closed
  widths b columns rows hb hk := by
    obtain ⟨b', hb', rfl⟩ := Option.map_eq_some_iff.mp hb
    exact h.widths b' columns rows hb' hk

/-- The open block may be replaced by one whose examples have even rows. -/
theorem Faithful.withCurrent (h : d.Faithful) {b : OpenBlock}
    (hb : ∀ columns rows, b.kind = .outline (some ⟨some columns, rows⟩) →
      ∀ ex ∈ rows, ex.data.length = columns.length) : (d.counted.withCurrent b).Faithful where
  closed := h.closed
  widths _ columns rows hb' hk := hb columns rows (Option.some.inj hb' ▸ hk)

theorem Faithful.closeBlock (h : d.Faithful) (hn : d.Numbered)
    (hs : ∀ s ∈ d.scenarios, s.StepsNumbered) (hclose : d.closeBlock = .ok d') : d'.Faithful := by
  rcases closeBlock_eq_ok_iff.mp hclose with ⟨-, rfl⟩ | ⟨b, block, hb, hc, rfl⟩
  · exact h
  rw [scenarios_eq_of_current hb] at hs
  rw [hn.nextId_eq hb] at hc
  have hblock : block.Faithful :=
    OpenBlock.close?_faithful (fun columns rows => h.widths b columns rows hb) (hs _ (by simp)) hc
  exact ⟨List.forall_mem_append.mpr ⟨h.closed, List.forall_mem_singleton.mpr hblock⟩,
    fun _ _ _ hnone => nomatch hnone⟩

/-- Every line keeps the copies and the rows. -/
theorem Faithful.takes (h : d.Faithful) (hd : d.Coherent) (hn : d.Numbered)
    (hs : ∀ s ∈ d.scenarios, s.StepsNumbered) (ht : Takes path word d line d') : d'.Faithful := by
  have hcounted : d.counted.Faithful := ⟨h.closed, h.widths⟩
  cases ht with
  | blank => exact hcounted.endTable
  | comment => exact hcounted
  | tag label => exact ⟨h.closed, hcounted.endTable.widths⟩
  | feature sentence _ => exact ⟨h.closed, h.widths⟩
  | header kind sentence _ hclose =>
      have hclosed := hcounted.closeBlock (hn.congr rfl rfl rfl) hs hclose
      refine ⟨hclosed.closed, fun b columns rows hb hk => ?_⟩
      cases hb
      exact absurd hk (openKind_ne_outline_some kind _)
  | examples _ _ _ => exact h.withCurrent fun columns rows hk => by cases hk
  | tableRow cells _ hb _ =>
      refine h.withCurrent fun columns rows hk => h.widths _ columns rows hb ?_
      rwa [OpenBlock.pushRow_kind] at hk
  | columns cells _ hb hk =>
      -- There are no rows that could be too wide for the columns.
      have hrows := hd.unnamed _ _ hb hk
      refine h.withCurrent fun columns rows hk => ?_
      cases hk
      simp [hrows]
  | exampleRow cells _ hb hk hwidth =>
      refine h.withCurrent fun columns rows hk' => ?_
      cases hk'
      exact List.forall_mem_append.mpr
        ⟨h.widths _ _ _ hb hk, List.forall_mem_singleton.mpr hwidth.symm⟩
  | step kind sentence _ hb _ =>
      exact h.withCurrent fun columns rows hk => h.widths _ columns rows hb hk
  | describedStep kind sentence _ _ _ _ => exact ⟨h.closed, h.widths⟩
  | prose text _ _ _ => exact ⟨h.closed, h.widths⟩

/-- All invariants hold of a draft that was reached, each with the help of those before it. -/
theorem faithful_of_takeAll {lines : List Line} (h : start.takeAll path word lines = .ok d) :
    d.Coherent ∧ d.Numbered ∧ (∀ s ∈ d.scenarios, s.StepsNumbered) ∧ d.Faithful := by
  refine takeAll_induction
    (motive := fun d => d.Coherent ∧ d.Numbered ∧ (∀ s ∈ d.scenarios, s.StepsNumbered) ∧
      d.Faithful) ?_ ?_ h
  · intro d line d' hd ht
    obtain ⟨hc, hn, hs, hf⟩ := hd
    exact ⟨hc.takes ht, hn.takes ht,
      forall_takes (Scenario.kept_stepsNumbered path) hs ht, hf.takes hc hn hs ht⟩
  · exact ⟨coherent_start, numbered_start, fun s hs => (by cases hs), faithful_start⟩

end Draft

end Document

/-! ### Features -/

namespace Feature

open Document

variable {κ : Type} {r : Reader κ} {text : Text} {f : Feature}

theorem faithful_of_read (h : r.read text = .ok f) : ∀ b ∈ f.blocks, b.Faithful := by
  obtain ⟨d, closed, hall, hclose, hblocks, -⟩ := Draft.scenarios_of_read h
  obtain ⟨-, hn, hs, hd⟩ := Draft.faithful_of_takeAll hall
  rw [hblocks]
  exact (hd.closeBlock hn hs hclose).closed

/-- What is listed in a feature that was read stands on a line. -/
theorem exists_source_of_mem_entries (h : r.read text = .ok f) {entry : Entry}
    (hentry : entry ∈ f.entries) :
    ∃ source ∈ speakingLines text, entry.IsFrom r.vocabulary source := by
  obtain ⟨d, hall, hf⟩ := read_eq_ok_iff.mp h
  obtain ⟨new, hnew, hfrom⟩ := entries_takeAll Draft.coherent_start _ hall
  rw [entries_toFeature hf, hnew] at hentry
  obtain ⟨i, hi, rfl⟩ := List.mem_iff_getElem.mp hentry
  obtain ⟨hlength, hpairs⟩ := List.forall₂_iff_get.mp hfrom
  exact ⟨_, List.getElem_mem (hlength ▸ hi), hpairs i hi (hlength ▸ hi)⟩

/-- The step of a template is listed as it was read. -/
theorem step_mem_entries {b : Block} (hb : b ∈ f.blocks) {step : Step}
    (hstep : step ∈ b.header.steps) :
    ⟨some step.line, .step step.kind step.sentence⟩ ∈ f.entries := by
  have hheader : ∀ kind, ⟨some step.line, .step step.kind step.sentence⟩ ∈
      b.header.entries kind := by
    intro kind
    refine List.mem_append_right _ (List.mem_cons_of_mem _ ?_)
    exact List.mem_flatMap.mpr ⟨step, hstep, List.mem_cons_self⟩
  have hblock : ⟨some step.line, .step step.kind step.sentence⟩ ∈ b.entries := by
    cases b with
    | scenario header => exact hheader .plain
    | outline header columns examples generated => exact List.mem_append_left _ (hheader .outline)
    | loop header n generated => exact hheader (.loop n)
  exact List.mem_append_right _ (List.mem_flatMap.mpr ⟨b, hb, hblock⟩)

/-- **Expansion.** What is generated from the templates of a feature that was read are copies
of the templates, with the cells filled in for an outline. The templates themselves keep the
steps as they are written. -/
theorem expansion_of_read (h : r.read text = .ok f) :
    (∀ b ∈ f.blocks, b.Faithful) ∧
      ∀ b ∈ f.blocks, ∀ step ∈ b.header.steps, ∃ i line,
        step.line = i + 1 ∧ (Text.lines (Text.withoutMark text))[i]? = some line ∧
          step.sentence = Text.trim line ∧
          r.vocabulary.stepKind? (Text.trim line) = some step.kind := by
  refine ⟨faithful_of_read h, fun b hb step hstep => ?_⟩
  obtain ⟨⟨line, n⟩, hsource, hstands, hline⟩ :=
    exists_source_of_mem_entries h (step_mem_entries hb hstep)
  obtain ⟨hn, hget⟩ :=
    List.mem_zipIdx_iff_le_and_getElem?_sub.mp (List.mem_filter.mp hsource).1
  refine ⟨n - 1, line, ?_, hget, ?_⟩
  · rw [hline _ rfl, Nat.sub_add_cancel hn]
  · generalize hsentence : step.sentence = sentence at hstands
    cases hstands with
    | step hkind => exact ⟨rfl, hkind⟩

/-- A tagged outline with a table, whose cells hold placeholders again, and a loop. -/
def copiesText : Text :=
  ("Feature: f\n@t\nScenario Outline: o\nGiven <a> and <b>\n|<a>|\nExamples:\n|a|b|\n" ++
    "|<b>|2|\n|3|4|\nScenario Loop 2: l\nThen <a>").toList

theorem expansion_of_read_copies :
    ∃ f, (Reader.mk () ['p'] 1 Vocabulary.english).read copiesText = .ok f ∧
      f.runnable.map (fun s => (s.id, s.line, s.steps.map (·.sentence))) =
        [(2, 8, ["Given <b> and 2".toList]), (3, 9, ["Given 3 and 4".toList]),
          (5, 10, ["Then <a>".toList]), (6, 10, ["Then <a>".toList])] ∧
      (∀ b ∈ f.blocks, b.Faithful) ∧
      ∀ b ∈ f.blocks, ∀ step ∈ b.header.steps, ∃ i line,
        step.line = i + 1 ∧ (Text.lines (Text.withoutMark copiesText))[i]? = some line ∧
          step.sentence = Text.trim line ∧
          Vocabulary.english.stepKind? (Text.trim line) = some step.kind := by
  have hrunnable : ((Reader.mk () ['p'] 1 Vocabulary.english).read copiesText).toOption.map
      (fun f => f.runnable.map fun s => (s.id, s.line, s.steps.map (·.sentence))) =
        some [(2, 8, ["Given <b> and 2".toList]), (3, 9, ["Given 3 and 4".toList]),
          (5, 10, ["Then <a>".toList]), (6, 10, ["Then <a>".toList])] := by
    decide +kernel
  cases h : (Reader.mk () ['p'] 1 Vocabulary.english).read copiesText with
  | error e => simp [h, Except.toOption] at hrunnable
  | ok f =>
      simp only [h, Except.toOption, Option.map_some, Option.some.injEq] at hrunnable
      exact ⟨f, rfl, hrunnable, expansion_of_read h⟩

end Feature

end Playbook
