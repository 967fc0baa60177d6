import Playbook.Proofs.Document.Numbering
import Playbook.Proofs.Document.Refusing

/-!
# Playbook.Proofs.Document.Passage

The passage through a file against what the file means.

* A line finds the block that it closes closed already. `pass_nil` and `pass_cons` say what that
  comes to: the line is taken as if nothing had been closed before, the counter moves on by what
  the line gives out, and a line at fault gives out nothing. All other facts about passages are
  inductions over the lines with these two equations.
* Without a bound on the room a passage ends as the file is read (`ending_pass_none`).
* With a bound it is the same passage as long as the counter stays within the room, and it is
  stopped otherwise (`pass_of_nextId_le`, `stopped_of_lt_nextId`).
* The log of a file that is read as a feature is what its blocks report (`events_of_read`).
-/

namespace Playbook

namespace Ending

variable {ε α : Type}

/-- How something ends that is not stopped. -/
def ofExcept : Except ε α → Ending ε α
  | .ok value => done value
  | .error e => refused e

theorem ofExcept_eq_done_iff {result : Except ε α} {value : α} :
    ofExcept result = done value ↔ result = .ok value := by
  cases result <;> simp [ofExcept]

theorem ofExcept_eq_refused_iff {result : Except ε α} {e : ε} :
    ofExcept result = refused e ↔ result = .error e := by
  cases result <;> simp [ofExcept]

end Ending

/-- What is reported when a block is expanded. -/
def Block.reports : Block → List Event
  | .scenario _ => []
  | .outline template columns examples _ =>
    (Expansion.outline template columns examples (template.id + 1)).events
  | .loop template n _ => (Expansion.loop template n (template.id + 1)).events

namespace Document

namespace OpenBlock

variable {b : OpenBlock} {firstId : Nat}

/-- A block is due to generate what it does generate when it is closed. -/
theorem due?_eq (b : OpenBlock) (firstId : Nat) :
    b.due? = (b.close? firstId).map (·.generated.length) := by
  obtain ⟨kind, scenario, tableOpen⟩ := b
  rcases kind with _ | ⟨_ | ⟨_ | columns, rows⟩⟩ | n <;>
    simp [due?, close?, expand?, Expansion.loop, Expansion.outline, Block.generated]

/-- What an expansion reports can be told from the block that it gives. -/
theorem reports_of_expand? {block : Block} {events : List Event}
    (h : b.expand? (b.scenario.id + 1) = some (block, events)) : block.reports = events := by
  obtain ⟨kind, scenario, tableOpen⟩ := b
  rcases kind with _ | ⟨_ | ⟨_ | columns, rows⟩⟩ | n <;> cases h <;> rfl

end OpenBlock

namespace Draft

variable {path word : Text} {id : Nat} {d d' : Draft} {line : Line} {room : Option Nat}

/-! ### Before a line -/

theorem closes_some_eq_true_iff : d.closes (some line) = true ↔
    d.heading ≠ none ∧ ∃ kind sentence, line = .scenario kind sentence := by
  cases line <;> simp [closes, Option.isSome_iff_ne_none]

theorem closes_none_eq_true_iff : d.closes none = true ↔ d.heading ≠ none ∧ d.waiting = [] := by
  simp [closes, Option.isSome_iff_ne_none]

theorem before_of_not_closes {next : Option Line} (h : ¬ d.closes next) :
    d.before next = (d, []) :=
  if_neg h

theorem gives_of_not_closes {next : Option Line} (h : ¬ d.closes next) : d.gives next = 0 :=
  if_neg h

/-- A block that can be closed is expanded and gives out the identifiers that are due. -/
theorem expanded_of_closeBlock {closed : Draft} (h : d.closeBlock = .ok closed) :
    d.expanded.1 = closed ∧ ∃ n, d.due? = some n ∧ closed.nextId = d.nextId + n := by
  rcases closeBlock_eq_ok_iff.mp h with ⟨hnone, rfl⟩ | ⟨b, block, hb, hc, rfl⟩
  · simp [expanded, due?, hnone]
  · have hdue : d.due? = some block.generated.length := by
      simp [due?, hb, b.due?_eq d.nextId, hc]
    obtain ⟨⟨_, events⟩, hexpand, rfl⟩ := Option.map_eq_some_iff.mp hc
    refine ⟨?_, _, hdue, rfl⟩
    simp [expanded, hb, hexpand]

/-- A block that cannot be closed is not expanded either. -/
theorem expanded_of_closeBlock_error {e : Fault} (h : d.closeBlock = .error e) :
    d.expanded = (d, []) ∧ d.due? = none := by
  obtain ⟨b, hb, hc, -⟩ := closeBlock_eq_error_iff.mp h
  have hexpand : b.expand? d.nextId = none := Option.map_eq_none_iff.mp hc
  refine ⟨?_, ?_⟩
  · simp [expanded, hb, hexpand]
  · simp [due?, hb, b.due?_eq d.nextId, hc]

/-- Before such a block is closed nothing is given out and nothing is expanded. -/
theorem before_of_closeBlock_error {e : Fault} {next : Option Line} (h : d.closeBlock = .error e) :
    d.gives next = 0 ∧ d.before next = (d, []) := by
  obtain ⟨hexpanded, hdue⟩ := expanded_of_closeBlock_error h
  by_cases hcloses : d.closes next
  · rw [gives, before, if_pos hcloses, if_pos hcloses, hdue]
    exact ⟨rfl, hexpanded⟩
  · exact ⟨gives_of_not_closes hcloses, before_of_not_closes hcloses⟩

/-- Closing a block twice is closing it once. -/
theorem closeBlock_expanded (d : Draft) : d.expanded.1.closeBlock = d.closeBlock := by
  cases h : d.closeBlock with
  | ok closed =>
      rw [(expanded_of_closeBlock h).1]
      exact closeBlock_of_none (closeBlock_keeps h).2.2.2
  | error e => rw [(expanded_of_closeBlock_error h).1, h]

theorem expanded_keeps (d : Draft) : d.expanded.1.line = d.line ∧
    d.expanded.1.heading = d.heading ∧ d.expanded.1.waiting = d.waiting := by
  unfold expanded
  split <;> exact ⟨rfl, rfl, rfl⟩

/-- It does not matter to a line that the block it closes is closed already. -/
theorem place_before (d : Draft) (line : Line) :
    (d.before (some line)).1.place path word line = d.place path word line := by
  by_cases hcloses : d.closes (some line)
  · obtain ⟨hheading, kind, sentence, rfl⟩ := closes_some_eq_true_iff.mp hcloses
    have hsome : ¬ d.heading.isNone := by simpa using hheading
    rw [before, if_pos hcloses, place_scenario, place_scenario, (expanded_keeps d).2.1,
      if_neg hsome, if_neg hsome, takeHeader, takeHeader, closeBlock_counted_eq,
      closeBlock_counted_eq, closeBlock_expanded]
  · rw [before_of_not_closes hcloses]

theorem toFeature_before (d : Draft) :
    (d.before none).1.toFeature path id = d.toFeature path id := by
  by_cases hcloses : d.closes none
  · rw [before, if_pos hcloses]
    obtain ⟨hline, hheading, hwaiting⟩ := expanded_keeps d
    rw [toFeature, toFeature, hline, hheading, hwaiting, closeBlock_expanded]
  · rw [before_of_not_closes hcloses]

/-! ### What is given out -/

/-- A line that is taken moves the counter on by what it gives out. -/
theorem Takes.nextId_eq (h : Takes path word d line d') :
    d'.nextId = d.nextId + d.gives (some line) := by
  cases h with
  | header kind sentence hheading hclose =>
      rw [closeBlock_counted_eq] at hclose
      cases hc : d.closeBlock with
      | error e => rw [hc] at hclose; cases hclose
      | ok closed =>
          rw [hc] at hclose
          cases hclose
          obtain ⟨-, n, hdue, hnext⟩ := expanded_of_closeBlock hc
          rw [gives, if_pos (closes_some_eq_true_iff.mpr ⟨hheading, _, _, rfl⟩), hdue,
            openBlock_nextId, counted_nextId, hnext]
          rfl
  | _ => rfl

/-- A line at fault gives out nothing, and nothing is expanded before it. -/
theorem before_of_error {e : Fault} (h : d.place path word line = .error e) :
    d.gives (some line) = 0 ∧ d.before (some line) = (d, []) := by
  by_cases hcloses : d.closes (some line)
  · obtain ⟨hheading, kind, sentence, rfl⟩ := closes_some_eq_true_iff.mp hcloses
    rw [place_scenario, if_neg (by simpa using hheading), takeHeader_eq_error_iff,
      closeBlock_counted_eq] at h
    cases hc : d.closeBlock with
    | ok closed => rw [hc] at h; cases h
    | error e => exact before_of_closeBlock_error hc
  · exact ⟨gives_of_not_closes hcloses, before_of_not_closes hcloses⟩

/-- At the end of a file the open block is closed, and the counter moves on by what it
generates. -/
theorem before_none_of_ok {f : Feature} (h : d.toFeature path id = .ok f) :
    d.closeBlock = .ok (d.before none).1 ∧ (d.before none).1.nextId = d.nextId + d.gives none := by
  obtain ⟨heading, closed, hheading, hwaiting, hclose, -⟩ := toFeature_eq_ok_iff.mp h
  have hcloses : d.closes none := closes_none_eq_true_iff.mpr ⟨by simp [hheading], hwaiting⟩
  obtain ⟨hexpanded, n, hdue, hnext⟩ := expanded_of_closeBlock hclose
  rw [before, gives, if_pos hcloses, if_pos hcloses, hexpanded, hdue, hnext]
  exact ⟨hclose, rfl⟩

theorem before_none_of_error {e : Fault} (h : d.toFeature path id = .error e) :
    d.gives none = 0 ∧ d.before none = (d, []) := by
  by_cases hcloses : d.closes none
  · obtain ⟨hheading, hwaiting⟩ := closes_none_eq_true_iff.mp hcloses
    cases hc : d.closeBlock with
    | ok closed =>
        obtain ⟨heading, hheading⟩ := Option.ne_none_iff_exists'.mp hheading
        rw [toFeature_eq_ok_iff.mpr ⟨heading, closed, hheading, hwaiting, hc, rfl⟩] at h
        cases h
    | error e => exact before_of_closeBlock_error hc
  · exact ⟨gives_of_not_closes hcloses, before_of_not_closes hcloses⟩

/-! ### One line of a passage -/

/-- **The end of the file.** -/
theorem pass_nil (room : Option Nat) (path word : Text) (id : Nat) (d : Draft)
    (log : Array Event) :
    d.pass room path word id log [] =
      if d.hasRoom room none then
        match d.toFeature path id with
        | .ok f => ⟨.done f, d.nextId + d.gives none, log ++ (d.before none).2⟩
        | .error e => ⟨.refused e, d.nextId, log⟩
      else ⟨.stopped, d.nextId, log⟩ := by
  rw [pass]
  simp only [toFeature_before]
  cases hf : d.toFeature path id with
  | ok f => simp only [(before_none_of_ok hf).2]
  | error e => simp only [(before_none_of_error hf).2, Array.appendList_nil]

/-- **One line.** -/
theorem pass_cons (room : Option Nat) (path word : Text) (id : Nat) (d : Draft)
    (log : Array Event) (line : Line) (rest : List Line) :
    d.pass room path word id log (line :: rest) =
      if d.hasRoom room (some line) then
        match d.place path word line with
        | .ok next => next.pass room path word id (log ++ (d.before (some line)).2) rest
        | .error e => ⟨.refused e, d.nextId, log⟩
      else ⟨.stopped, d.nextId, log⟩ := by
  rw [pass]
  simp only [place_before]
  cases hplace : d.place path word line with
  | ok next => rfl
  | error e => simp only [(before_of_error hplace).2, Array.appendList_nil]

/-! ### Whole passages -/

variable {log : Array Event} {lines : List Line}

/-- There is always room where it is not bounded. -/
theorem hasRoom_none (d : Draft) (next : Option Line) : d.hasRoom none next := rfl

theorem hasRoom_some_iff {room : Nat} {next : Option Line} :
    d.hasRoom (some room) next ↔ d.nextId + d.gives next ≤ room + 1 := by
  simp [hasRoom]

/-- Without a bound on the room a passage ends as the file is read. -/
theorem ending_pass_none (path word : Text) (id : Nat) (d : Draft) (log : Array Event)
    (lines : List Line) :
    (d.pass none path word id log lines).ending = .ofExcept (d.finish path word id lines) := by
  induction lines generalizing d log with
  | nil =>
      rw [pass_nil, if_pos (hasRoom_none d _)]
      show _ = Ending.ofExcept (d.toFeature path id)
      cases d.toFeature path id <;> rfl
  | cons line rest ih =>
      rw [pass_cons, if_pos (hasRoom_none d _), finish_cons]
      cases d.place path word line with
      | ok next => exact ih next _
      | error e => rfl

/-- The counter does not go back. -/
theorem nextId_le_pass (path word : Text) (id : Nat) (d : Draft) (log : Array Event)
    (lines : List Line) : d.nextId ≤ (d.pass none path word id log lines).nextId := by
  induction lines generalizing d log with
  | nil =>
      rw [pass_nil, if_pos (hasRoom_none d _)]
      cases d.toFeature path id with
      | ok f => exact Nat.le_add_right _ _
      | error e => exact Nat.le_refl _
  | cons line rest ih =>
      rw [pass_cons, if_pos (hasRoom_none d _)]
      cases hplace : d.place path word line with
      | error e => exact Nat.le_refl _
      | ok next =>
          have hnext : next.nextId = d.nextId + d.gives (some line) :=
            (place_eq_ok_iff.mp hplace).nextId_eq
          exact Nat.le_trans (hnext ▸ Nat.le_add_right _ _) (ih next _)

/-- The last line of a passage gives out no more than the passage does in the end. -/
theorem gives_none_le (path word : Text) (id : Nat) (d : Draft) (log : Array Event) :
    d.nextId + d.gives none ≤ (d.pass none path word id log []).nextId := by
  rw [pass_nil, if_pos (hasRoom_none d _)]
  cases hf : d.toFeature path id with
  | ok f => exact Nat.le_refl _
  | error e => rw [(before_none_of_error hf).1]; exact Nat.le_refl _

/-- Each line gives out no more than the passage does in the end. -/
theorem gives_some_le (path word : Text) (id : Nat) (d : Draft) (log : Array Event)
    (line : Line) (rest : List Line) : d.nextId + d.gives (some line) ≤
      (d.pass none path word id log (line :: rest)).nextId := by
  rw [pass_cons, if_pos (hasRoom_none d _)]
  cases hplace : d.place path word line with
  | ok next => exact (place_eq_ok_iff.mp hplace).nextId_eq ▸ nextId_le_pass _ _ _ next _ _
  | error e => rw [(before_of_error hplace).1]; exact Nat.le_refl _

/-- As long as the counter stays within the room, the passage is the one without a bound. -/
theorem pass_of_nextId_le {room : Nat}
    (h : (d.pass none path word id log lines).nextId ≤ room + 1) :
    d.pass (some room) path word id log lines = d.pass none path word id log lines := by
  induction lines generalizing d log with
  | nil =>
      have hroom : d.hasRoom (some room) none :=
        hasRoom_some_iff.mpr (Nat.le_trans (gives_none_le path word id d log) h)
      rw [pass_nil, pass_nil, if_pos hroom, if_pos (hasRoom_none d _)]
  | cons line rest ih =>
      have hroom : d.hasRoom (some room) (some line) :=
        hasRoom_some_iff.mpr (Nat.le_trans (gives_some_le path word id d log line rest) h)
      rw [pass_cons, if_pos (hasRoom_none d _)] at h
      rw [pass_cons, pass_cons, if_pos hroom, if_pos (hasRoom_none d _)]
      cases hplace : d.place path word line with
      | error e => rfl
      | ok next =>
          rw [hplace] at h
          exact ih h

/-- If the counter would leave the room, the passage is stopped. -/
theorem stopped_of_lt_nextId {room : Nat}
    (h : room + 1 < (d.pass none path word id log lines).nextId) :
    (d.pass (some room) path word id log lines).ending = .stopped := by
  induction lines generalizing d log with
  | nil =>
      rw [pass_nil, if_pos (hasRoom_none d _)] at h
      rw [pass_nil]
      by_cases hroom : d.hasRoom (some room) none
      -- There is room for what the end of the file gives out, so the counter does not leave it.
      · have hle := hasRoom_some_iff.mp hroom
        cases hf : d.toFeature path id <;> rw [hf] at h
        · exact absurd h (Nat.not_lt.mpr (Nat.le_trans (Nat.le_add_right _ _) hle))
        · exact absurd h (Nat.not_lt.mpr hle)
      · rw [if_neg hroom]
  | cons line rest ih =>
      rw [pass_cons, if_pos (hasRoom_none d _)] at h
      rw [pass_cons]
      by_cases hroom : d.hasRoom (some room) (some line)
      · have hle := hasRoom_some_iff.mp hroom
        rw [if_pos hroom]
        cases hplace : d.place path word line with
        | ok next =>
            rw [hplace] at h
            exact ih h
        | error e =>
            rw [hplace] at h
            exact absurd h (Nat.not_lt.mpr (Nat.le_trans (Nat.le_add_right _ _) hle))
      · rw [if_neg hroom]

/-- The counter of a passage never leaves the room. -/
theorem nextId_pass_le {room : Nat} (h : d.nextId ≤ room + 1) :
    (d.pass (some room) path word id log lines).nextId ≤ room + 1 := by
  induction lines generalizing d log with
  | nil =>
      rw [pass_nil]
      by_cases hroom : d.hasRoom (some room) none
      · rw [if_pos hroom]
        cases d.toFeature path id with
        | ok f => exact hasRoom_some_iff.mp hroom
        | error e => exact h
      · rw [if_neg hroom]
        exact h
  | cons line rest ih =>
      rw [pass_cons]
      by_cases hroom : d.hasRoom (some room) (some line)
      · rw [if_pos hroom]
        cases hplace : d.place path word line with
        | ok next =>
            have hnext : next.nextId = d.nextId + d.gives (some line) :=
              (place_eq_ok_iff.mp hplace).nextId_eq
            exact ih (hnext ▸ hasRoom_some_iff.mp hroom)
        | error e => exact h
      · rw [if_neg hroom]
        exact h

/-! ### The log -/

/-- Closing a block reports what the block that is closed has to report. -/
theorem reports_of_closeBlock (hn : d.Numbered) (h : d.closeBlock = .ok d') :
    d'.blocks.flatMap Block.reports = d.blocks.flatMap Block.reports ++ d.expanded.2 := by
  rcases closeBlock_eq_ok_iff.mp h with ⟨hnone, rfl⟩ | ⟨b, block, hb, hc, rfl⟩
  · simp [expanded, hnone]
  · obtain ⟨⟨_, events⟩, hexpand, rfl⟩ := Option.map_eq_some_iff.mp hc
    have hreports := OpenBlock.reports_of_expand? (hn.nextId_eq hb ▸ hexpand)
    simp [expanded, hb, hexpand, ← hreports]

/-- A line that is taken reports what the block that it closes has to report. -/
theorem Takes.reports (h : Takes path word d line d') (hn : d.Numbered) :
    d'.blocks.flatMap Block.reports =
      d.blocks.flatMap Block.reports ++ (d.before (some line)).2 := by
  cases h with
  | header kind sentence hheading hclose =>
      rw [closeBlock_counted_eq] at hclose
      cases hc : d.closeBlock with
      | error e => rw [hc] at hclose; cases hclose
      | ok closed =>
          rw [hc] at hclose
          cases hclose
          rw [before, if_pos (closes_some_eq_true_iff.mpr ⟨hheading, _, _, rfl⟩)]
          show closed.blocks.flatMap Block.reports = _
          exact reports_of_closeBlock hn hc
  | _ => exact (List.append_nil _).symm

theorem reports_of_toFeature {f : Feature} (hn : d.Numbered) (h : d.toFeature path id = .ok f) :
    f.blocks.flatMap Block.reports = d.blocks.flatMap Block.reports ++ (d.before none).2 := by
  obtain ⟨heading, closed, hheading, hwaiting, hclose, rfl⟩ := toFeature_eq_ok_iff.mp h
  rw [before, if_pos (closes_none_eq_true_iff.mpr ⟨by simp [hheading], hwaiting⟩)]
  exact reports_of_closeBlock hn hclose

/-- The log of a passage to a feature is what the blocks of the feature report. -/
theorem log_pass {f : Feature} (hn : d.Numbered)
    (hlog : log.toList = d.blocks.flatMap Block.reports)
    (h : d.finish path word id lines = .ok f) :
    (d.pass none path word id log lines).log.toList = f.blocks.flatMap Block.reports := by
  induction lines generalizing d log with
  | nil =>
      have hf : d.toFeature path id = .ok f := h
      rw [pass_nil, if_pos (hasRoom_none d _), hf, reports_of_toFeature hn hf, ← hlog]
      exact Array.toList_appendList
  | cons line rest ih =>
      rw [finish_cons] at h
      rw [pass_cons, if_pos (hasRoom_none d _)]
      cases hplace : d.place path word line with
      | error e => rw [hplace] at h; cases h
      | ok next =>
          have htakes := place_eq_ok_iff.mp hplace
          rw [hplace] at h
          refine ih (hn.takes htakes) ?_ h
          rw [Array.toList_appendList, hlog, htakes.reports hn]

end Draft

end Document

/-! ### Readings -/

namespace Reader

open Document

variable {κ : Type} {r : Reader κ} {text : Text} {f : Feature}

/-- Without a bound on the room a reading ends as the text is read. -/
theorem ending_reading_none (r : Reader κ) (text : Text) :
    (r.reading none text).ending = .ofExcept (r.read text) := by
  show (r.passage none text).ending.mapError _ = _
  rw [passage, Draft.ending_pass_none, read_eq_mapError]
  cases Draft.start.finish r.path r.vocabulary.examples r.featureId (r.lines text) <;> rfl

/-- While a text is read as a feature, what is reported is the start, what the blocks report in
document order, and the end. -/
theorem events_of_read (h : r.read text = .ok f) :
    r.events text = r.startEvent :: f.blocks.flatMap Block.reports ++ [r.doneEvent f] := by
  have hfinish := finish_of_read h
  have hending : (r.passage none text).ending = .done f := by
    rw [passage, Draft.ending_pass_none, hfinish]
    rfl
  have hlog : (r.passage none text).log.toList = f.blocks.flatMap Block.reports :=
    Draft.log_pass Draft.numbered_start rfl hfinish
  rw [events, reading]
  simp only [hending, hlog]

end Reader

end Playbook
