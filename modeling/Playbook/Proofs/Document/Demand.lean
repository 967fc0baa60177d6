import Playbook.Proofs.Document.Passage

/-!
# Playbook.Proofs.Document.Demand

How many identifiers the lines of a file ask for, and how far reading the file advances the
counter that gives them out. A header asks for one identifier, a loop for one more for each
repetition, and each row of examples below the columns for another one. The identifiers are given
out later than they are asked for, when a block is closed, so the account is kept for the
identifiers that are given out already together with those that the open block has promised.

The counter itself is not checked. What keeps it within the numbers that identifiers may reach is
that every scenario has to be kept somewhere: a program runs out of room before it runs out of
identifiers. Then it stops, and no error is given.
-/

namespace Playbook

open Text (maxCount)

namespace Document

/-! ### What lines ask for -/

/-- How far the examples of a block have come. -/
inductive Stage
  /-- No examples marker stands above. -/
  | unmarked
  /-- The marker stands above, and no row below it. -/
  | marked
  /-- The row that names the columns stands above. -/
  | named
  deriving DecidableEq, Repr

/-- The stage below a line. -/
def Line.stageBelow : Line → Stage → Stage
  | scenario _ _, _ => .unmarked
  | examples, _ => .marked
  | row _, .marked => .named
  | _, stage => stage

/-- How many identifiers a line asks for. -/
def Line.asks : Line → Stage → Nat
  | scenario (.loop n) _, _ => 1 + n
  | scenario _ _, _ => 1
  | row _, .named => 1
  | _, _ => 0

/-- How many identifiers lines ask for from some stage on. -/
def demandFrom : Stage → List Line → Nat
  | _, [] => 0
  | stage, line :: rest => line.asks stage + demandFrom (line.stageBelow stage) rest

/-- How many identifiers the lines of a file ask for. -/
def demand (lines : List Line) : Nat := demandFrom .unmarked lines

@[simp] theorem demandFrom_nil (stage : Stage) : demandFrom stage [] = 0 := rfl

theorem demandFrom_cons (stage : Stage) (line : Line) (rest : List Line) :
    demandFrom stage (line :: rest) =
      line.asks stage + demandFrom (line.stageBelow stage) rest := rfl

/-! ### What a draft has promised -/

namespace OpenKind

/-- How far the examples of an open block have come. -/
def stage : OpenKind → Stage
  | outline (some ⟨none, _⟩) => .marked
  | outline (some ⟨some _, _⟩) => .named
  | _ => .unmarked

/-- How many scenarios an open block will generate, as far as it has come. -/
def pending : OpenKind → Nat
  | loop n => n
  | outline (some examples) => examples.rows.length
  | _ => 0

end OpenKind

theorem OpenBlock.stage_of_hasExamples {b : OpenBlock} (h : b.hasExamples = false) :
    b.kind.stage = .unmarked := by
  obtain ⟨kind, scenario, tableOpen⟩ := b
  rcases kind with _ | ⟨_ | examples⟩ | n <;> simp_all [hasExamples, OpenKind.stage]

/-- A block generates what it has promised. -/
theorem OpenBlock.length_generated_of_close? {b : OpenBlock} {block : Block} {firstId : Nat}
    (h : b.close? firstId = some block) : block.generated.length = b.kind.pending := by
  rcases close?_eq_some_iff.mp h with ⟨hk, rfl⟩ | ⟨n, hk, rfl⟩ | ⟨columns, rows, hk, rfl⟩ <;>
    simp [hk, Block.generated, OpenKind.pending]

namespace Draft

variable {path word : Text} {d d' : Draft} {line : Line}

/-- How far the examples of the open block have come. -/
def stage (d : Draft) : Stage := (d.current.map (·.kind.stage)).getD .unmarked

/-- How many identifiers are given out or promised by the open block. -/
def promised (d : Draft) : Nat :=
  d.scenarios.length + (d.current.map (·.kind.pending)).getD 0

theorem stage_eq_of_current {b : OpenBlock} (h : d.current = some b) :
    d.stage = b.kind.stage := by
  simp [stage, h]

theorem promised_eq_of_current {b : OpenBlock} (h : d.current = some b) :
    d.promised = (d.blocks.flatMap Block.scenarios).length + 1 + b.kind.pending := by
  simp [promised, scenarios_eq_of_current h, h]

/-- The next identifier follows those that are given out. -/
theorem Numbered.nextId_le (h : d.Numbered) : d.nextId ≤ d.promised + 1 := by
  rw [h.next, promised]
  omega

/-- Both look only at the blocks, the open scenario and the kind of the open block. -/
theorem account_congr (hblocks : d'.blocks = d.blocks)
    (hcurrent : d'.current.map (fun b => (b.scenario, b.kind)) =
      d.current.map (fun b => (b.scenario, b.kind))) :
    d'.promised = d.promised ∧ d'.stage = d.stage := by
  have hpart : ∀ {β : Type} (g : Scenario × OpenKind → β),
      d'.current.map (fun b => g (b.scenario, b.kind)) =
        d.current.map (fun b => g (b.scenario, b.kind)) := by
    intro β g
    have hg := congrArg (Option.map g) hcurrent
    rwa [Option.map_map, Option.map_map] at hg
  have hscenarios := scenarios_congr hblocks (hpart (·.1))
  refine ⟨?_, ?_⟩
  · rw [promised, promised, hscenarios, hpart (·.2.pending)]
  · rw [stage, stage, hpart (·.2.stage)]

theorem account_withCurrent {b b' : OpenBlock} (hb : d.current = some b) (n : Nat)
    (hpending : b'.kind.pending = b.kind.pending + n) :
    (d.counted.withCurrent b').promised = d.promised + n := by
  rw [promised_eq_of_current hb, promised_eq_of_current (withCurrent_current _ b'), hpending]
  simp only [withCurrent_blocks, counted_blocks]
  omega

/-- Closing a block keeps its promise. -/
theorem promised_closeBlock (h : d.closeBlock = .ok d') : d'.promised = d.promised := by
  rcases closeBlock_eq_ok_iff.mp h with ⟨-, rfl⟩ | ⟨b, block, hb, hc, rfl⟩
  · rfl
  · rw [promised, promised, scenarios_withClosed hb hc, List.length_append,
      OpenBlock.length_generated_of_close? hc, withClosed_current, hb]
    rfl

theorem promised_openBlock (path : Text) (kind : HeaderKind) (sentence : Text)
    (h : d.current = none) : (d.openBlock path kind sentence).promised =
      d.promised + (Line.scenario kind sentence).asks d.stage := by
  have hasks : (Line.scenario kind sentence).asks d.stage = 1 + (openKind kind).pending := by
    cases kind <;> rfl
  rw [promised, promised, scenarios_openBlock path kind sentence h, List.length_append, hasks,
    openBlock_current, h]
  simp only [List.length_singleton, Option.map_some, Option.getD_some, Option.map_none,
    Option.getD_none]
  omega

/-- **One line.** A line adds to what is promised the identifiers it asks for. -/
theorem Takes.account (h : Takes path word d line d') :
    d'.promised = d.promised + line.asks d.stage ∧ d'.stage = line.stageBelow d.stage := by
  have hended : ∀ d : Draft, d.endTable.current.map (fun b => (b.scenario, b.kind)) =
      d.current.map (fun b => (b.scenario, b.kind)) := fun d => by
    simp [endTable, Function.comp_def]
  cases h with
  | blank => exact account_congr rfl (hended d.counted)
  | comment => exact account_congr rfl rfl
  | tag label => exact account_congr rfl (hended d.counted)
  | feature sentence _ => exact account_congr rfl rfl
  | header kind sentence _ hclose =>
      obtain ⟨-, -, -, hcurrent⟩ := closeBlock_keeps hclose
      have hcounted : d.counted.promised = d.promised := rfl
      refine ⟨?_, ?_⟩
      · rw [promised_openBlock path kind sentence hcurrent, promised_closeBlock hclose, hcounted]
        cases kind <;> rfl
      · cases kind <;> rfl
  | examples _ hb hk =>
      rw [stage_eq_of_current hb, hk]
      refine ⟨account_withCurrent hb 0 ?_, rfl⟩
      rw [hk]
      rfl
  | tableRow cells _ hb htarget =>
      -- The table of a step stands above the examples.
      have hstage := OpenBlock.stage_of_hasExamples (OpenBlock.target_eq_step_iff.mp htarget).1
      rw [stage_eq_of_current hb, stage_eq_of_current (withCurrent_current _ _),
        OpenBlock.pushRow_kind, hstage]
      exact ⟨account_withCurrent hb 0 (by rw [OpenBlock.pushRow_kind, Nat.add_zero]), rfl⟩
  | columns cells _ hb hk =>
      rw [stage_eq_of_current hb, hk]
      refine ⟨account_withCurrent hb 0 ?_, rfl⟩
      rw [hk]
      rfl
  | exampleRow cells _ hb hk _ =>
      rw [stage_eq_of_current hb, hk]
      refine ⟨account_withCurrent hb 1 ?_, rfl⟩
      rw [hk]
      exact List.length_append
  | step kind sentence _ hb _ =>
      rw [stage_eq_of_current hb, stage_eq_of_current (withCurrent_current _ _)]
      exact ⟨account_withCurrent hb 0 rfl, rfl⟩
  | describedStep kind sentence _ _ _ _ => exact account_congr rfl rfl
  | prose text _ _ _ => exact account_congr rfl rfl

/-! ### Where the counter goes -/

variable {id : Nat} {log : Array Event} {lines : List Line} {f : Feature}

/-- The feature has as many identifiers as were given out when the last block was closed. -/
theorem idCount_of_toFeature (hn : d.Numbered) (h : d.toFeature path id = .ok f) :
    f.idCount = d.promised ∧ d.nextId + d.gives none = f.idCount + 1 := by
  obtain ⟨hclose, hnext⟩ := before_none_of_ok h
  generalize (d.before none).1 = closed at hclose hnext
  obtain ⟨heading, _, -, -, hclose', rfl⟩ := toFeature_eq_ok_iff.mp h
  cases Except.ok.inj (hclose.symm.trans hclose')
  obtain ⟨-, -, -, hcurrent⟩ := closeBlock_keeps hclose
  have hclosed : closed.Numbered := hn.closeBlock hclose
  have hcount : closed.scenarios.length =
      (closed.blocks.flatMap Block.scenarios).length := by simp [scenarios, hcurrent]
  have hidCount : closed.promised = closed.scenarios.length := by simp [promised, hcurrent]
  rw [← Feature.length_scenarios, Feature.scenarios, ← hcount, ← promised_closeBlock hclose,
    hidCount, ← hnext, hclosed.next]
  exact ⟨rfl, rfl⟩

/-- The counter of a passage goes no further than what is promised and what the lines ask for. -/
theorem nextId_pass_le_demandFrom (hn : d.Numbered) :
    (d.pass none path word id log lines).nextId ≤ d.promised + demandFrom d.stage lines + 1 := by
  induction lines generalizing d log with
  | nil =>
      rw [pass_nil, if_pos (hasRoom_none d _)]
      cases hf : d.toFeature path id with
      | ok f =>
          obtain ⟨hcount, hnext⟩ := idCount_of_toFeature hn hf
          exact Nat.le_of_eq (by rw [hnext, hcount, demandFrom_nil, Nat.add_zero])
      | error e => exact hn.nextId_le
  | cons line rest ih =>
      rw [pass_cons, if_pos (hasRoom_none d _), demandFrom_cons, ← Nat.add_assoc]
      cases hplace : d.place path word line with
      | ok next =>
          have htakes := place_eq_ok_iff.mp hplace
          obtain ⟨hpromised, hstage⟩ := htakes.account
          rw [← hpromised, ← hstage]
          exact ih (hn.takes htakes)
      | error e => exact Nat.le_trans hn.nextId_le (by omega)

/-- After a passage to a feature the counter stands right after what the lines asked for, which is
what the feature has. -/
theorem idCount_of_finish (hn : d.Numbered) (h : d.finish path word id lines = .ok f) :
    f.idCount = d.promised + demandFrom d.stage lines ∧
      (d.pass none path word id log lines).nextId = f.idCount + 1 := by
  induction lines generalizing d log with
  | nil =>
      have hf : d.toFeature path id = .ok f := h
      rw [pass_nil, if_pos (hasRoom_none d _), hf]
      exact idCount_of_toFeature hn hf
  | cons line rest ih =>
      rw [finish_cons] at h
      rw [pass_cons, if_pos (hasRoom_none d _), demandFrom_cons, ← Nat.add_assoc]
      cases hplace : d.place path word line with
      | error e => rw [hplace] at h; cases h
      | ok next =>
          have htakes := place_eq_ok_iff.mp hplace
          obtain ⟨hpromised, hstage⟩ := htakes.account
          rw [hplace] at h
          rw [← hpromised, ← hstage]
          exact ih (hn.takes htakes) h

end Draft

end Document

/-! ### Readings -/

namespace Reader

open Document

variable {κ : Type} {r : Reader κ} {text : Text} {f : Feature}

/-- The counter goes no further than what the lines of a file ask for. -/
theorem nextId_passage_le (r : Reader κ) (text : Text) :
    (r.passage none text).nextId ≤ demand (r.lines text) + 1 := by
  have hle : (r.passage none text).nextId ≤ Draft.start.promised +
      demandFrom Draft.start.stage (r.lines text) + 1 :=
    Draft.nextId_pass_le_demandFrom Draft.numbered_start
  have hstart : Draft.start.promised + demandFrom Draft.start.stage (r.lines text) =
      demand (r.lines text) := Nat.zero_add _
  rwa [hstart] at hle

/-- A feature that was read has as many identifiers as the lines ask for, and the counter stands
right after them. -/
theorem idCount_of_read (h : r.read text = .ok f) :
    f.idCount = demand (r.lines text) ∧ (r.passage none text).nextId = f.idCount + 1 := by
  obtain ⟨hcount, hnext⟩ : f.idCount = Draft.start.promised +
      demandFrom Draft.start.stage (r.lines text) ∧
      (r.passage none text).nextId = f.idCount + 1 :=
    Draft.idCount_of_finish Draft.numbered_start (finish_of_read h)
  have hstart : Draft.start.promised + demandFrom Draft.start.stage (r.lines text) =
      demand (r.lines text) := Nat.zero_add _
  exact ⟨hcount.trans hstart, hnext⟩

/-- The identifiers of a feature that was read are no larger than their number. -/
theorem id_le_of_read (h : r.read text = .ok f) : ∀ s ∈ f.scenarios, s.id ≤ f.idCount := by
  intro s hs
  have hmem : s.id ∈ List.range' 1 f.idCount :=
    Feature.scenarios_ids_of_read h ▸ List.mem_map_of_mem hs
  rw [List.mem_range'_1] at hmem
  omega

/-- A bound on the room changes how a text is read only where it stops the program, and that is
where the counter would leave the room. -/
theorem ending_reading (r : Reader κ) (text : Text) (room : Nat) :
    (r.reading (some room) text).ending =
      if (r.passage none text).nextId ≤ room + 1 then .ofExcept (r.read text) else .stopped := by
  by_cases h : (r.passage none text).nextId ≤ room + 1
  · rw [if_pos h, ← ending_reading_none, reading, reading, passage, Draft.pass_of_nextId_le h]
    rfl
  · have hstopped : (r.passage (some room) text).ending = .stopped :=
      Draft.stopped_of_lt_nextId (Nat.not_le.mp h)
    rw [if_neg h, reading, hstopped]
    rfl

/-- A text is accepted if it means a feature and there is room for the identifiers of that. -/
theorem ending_reading_eq_done_iff {room : Nat} : (r.reading (some room) text).ending = .done f ↔
    r.read text = .ok f ∧ f.idCount ≤ room := by
  rw [ending_reading]
  by_cases h : (r.passage none text).nextId ≤ room + 1
  · rw [if_pos h, Ending.ofExcept_eq_done_iff]
    refine ⟨fun hread => ⟨hread, ?_⟩, fun hread => hread.1⟩
    rw [(idCount_of_read hread).2] at h
    exact Nat.le_of_succ_le_succ h
  · rw [if_neg h]
    refine ⟨nofun, fun ⟨hread, hle⟩ => absurd ?_ h⟩
    rw [(idCount_of_read hread).2]
    exact Nat.succ_le_succ hle

/-- A text that means a feature with more identifiers than there is room for stops the program. -/
theorem ending_reading_of_lt_idCount {room : Nat} (hread : r.read text = .ok f)
    (hlt : room < f.idCount) : (r.reading (some room) text).ending = .stopped := by
  have hleaves : ¬ (r.passage none text).nextId ≤ room + 1 := by
    rw [(idCount_of_read hread).2]
    omega
  rw [ending_reading, if_neg hleaves]

/-- What stops the program asks for more identifiers than there is room for. -/
theorem lt_demand_of_ending_reading {room : Nat}
    (hstopped : (r.reading (some room) text).ending = .stopped) :
    room < demand (r.lines text) := by
  rw [ending_reading] at hstopped
  split at hstopped
  · cases hread : r.read text <;> rw [hread] at hstopped <;> cases hstopped
  · rename_i hleaves
    have hle := nextId_passage_le r text
    omega

/-- **Bounded room.** A program that can keep fewer scenarios than there are identifiers never
advances the counter beyond the numbers that identifiers may reach. It accepts exactly the files
that mean a feature for whose identifiers there is room; those are as many as the lines ask for,
and the counter stands right after them. What it refuses is at fault in any room: a file that is
not, and whose feature has more identifiers than there is room for, is not refused but stops the
program. Nothing stops it that does not ask for more identifiers than there is room for. -/
theorem reading_within (r : Reader κ) (text : Text) {room : Nat} (hroom : room < maxCount) :
    (r.passage (some room) text).nextId ≤ maxCount ∧
    (∀ f, (r.reading (some room) text).ending = .done f ↔
      r.read text = .ok f ∧ f.idCount ≤ room) ∧
    (∀ f, (r.reading (some room) text).ending = .done f →
      f.idCount = demand (r.lines text) ∧
      (r.passage (some room) text).nextId = f.idCount + 1 ∧
      ∀ s ∈ f.scenarios, s.id ≤ f.idCount) ∧
    (∀ e, (r.reading (some room) text).ending = .refused e → r.read text = .error e) ∧
    (∀ f, r.read text = .ok f → room < f.idCount →
      (r.reading (some room) text).ending = .stopped) ∧
    ((r.reading (some room) text).ending = .stopped → room < demand (r.lines text)) := by
  refine ⟨?_, fun f => ending_reading_eq_done_iff, ?_, ?_,
    fun f => ending_reading_of_lt_idCount, lt_demand_of_ending_reading⟩
  · exact Nat.le_trans (Draft.nextId_pass_le (Nat.succ_le_succ (Nat.zero_le room))) hroom
  · intro f hf
    obtain ⟨hread, hle⟩ := ending_reading_eq_done_iff.mp hf
    obtain ⟨hcount, hnext⟩ := idCount_of_read hread
    have hsame : r.passage (some room) text = r.passage none text :=
      Draft.pass_of_nextId_le (Nat.le_trans (Nat.le_of_eq hnext) (Nat.succ_le_succ hle))
    exact ⟨hcount, hsame ▸ hnext, id_le_of_read hread⟩
  · intro e he
    rw [ending_reading] at he
    split at he
    · exact Ending.ofExcept_eq_refused_iff.mp he
    · cases he

/-- A loop of two, whose header asks for an identifier as well. -/
def twiceText : Text := "Feature: f\nScenario Loop 2: l".toList

theorem reading_within_twice :
    let r : Reader Unit := ⟨(), [], 1, Vocabulary.english⟩
    2 < maxCount ∧ 3 < maxCount ∧ ∃ f, r.read twiceText = .ok f ∧ f.idCount = 3 ∧
      (r.reading (some 3) twiceText).ending = .done f ∧
      (r.passage (some 3) twiceText).nextId = 4 ∧
      (r.reading (some 2) twiceText).ending = .stopped := by
  intro r
  have htwo : 2 < maxCount := by decide
  have hthree : 3 < maxCount := by decide
  have hcount : (r.read twiceText).toOption.map Feature.idCount = some 3 := by decide +kernel
  cases hread : r.read twiceText with
  | error e => simp [hread, Except.toOption] at hcount
  | ok f =>
      simp only [hread, Except.toOption, Option.map_some, Option.some.injEq] at hcount
      obtain ⟨-, hdone, haccepted, -, -, -⟩ := reading_within r twiceText hthree
      obtain ⟨-, -, -, -, hstopped, -⟩ := reading_within r twiceText htwo
      have hending := (hdone f).mpr ⟨hread, Nat.le_of_eq hcount⟩
      obtain ⟨-, hnext, -⟩ := haccepted f hending
      exact ⟨htwo, hthree, f, rfl, hcount, hending, by rw [hnext, hcount],
        hstopped f hread (by omega)⟩

/-- A loop of as many repetitions as a count may be. -/
def endlessText : Text := "Feature: f\nScenario Loop 18446744073709551615: l".toList

/-- The lines ask for more identifiers than there are, and nothing is wrong with them. In a
program that has half of all addresses for scenarios they lead to no error. -/
theorem endless_stops :
    let r : Reader Unit := ⟨(), [], 1, Vocabulary.english⟩
    demand (r.lines endlessText) = maxCount + 1 ∧ (∃ f, r.read endlessText = .ok f) ∧
      (r.reading (some (maxCount / 2)) endlessText).ending = .stopped := by
  intro r
  have hlines : r.lines endlessText = [.feature ['f'], .scenario (.loop maxCount) ['l']] := by
    decide +kernel
  have hread : ∀ n, r.lines endlessText = [.feature ['f'], .scenario (.loop n) ['l']] →
      ∃ f, r.read endlessText = .ok f := by
    intro n hn
    rw [read, hn]
    exact ⟨_, rfl⟩
  have hdemand : demand (r.lines endlessText) = maxCount + 1 := by
    rw [hlines]
    exact Nat.add_comm 1 maxCount
  obtain ⟨f, hf⟩ := hread maxCount hlines
  obtain ⟨hcount, -⟩ := idCount_of_read hf
  have hlt : maxCount / 2 < f.idCount := by omega
  exact ⟨hdemand, ⟨f, hf⟩, ending_reading_of_lt_idCount hf hlt⟩

end Reader

end Playbook
