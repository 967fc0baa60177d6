import Mathlib.Data.List.Forall2
import Playbook.Proofs.Document.Coherence
import Playbook.Proofs.Document.Line
import Playbook.Proofs.Document.Scenarios
import Playbook.Proofs.Row
import Playbook.Proofs.Tag

/-!
# Playbook.Proofs.Document.Listing

No line of a file is lost, doubled, moved or given to something else. `Feature.entries`
lists a feature in document order, each entry with the line number that is stored beside
it; `Item.StandsOn` says, from the text of a line alone, which item the line holds. The
entries of a feature that was read are, one for one and in order, the lines of its text
that say something.

The invariant lists the draft in the same order: heading, closed blocks, open block,
waiting tags. Every line adds its entry at the very end of this list. That it does not
matter that tags are kept apart from the header they belong to, or that the description
is kept apart from the blocks, is what `Draft.Coherent` is for.
-/

namespace Playbook

open Text (trim AllBlank)

namespace Document

/-! ### Items -/

/-- What one line of a feature file holds. -/
inductive Item
  | tag (tag : Tag)
  | feature (sentence : Text)
  /-- A line of the description. -/
  | prose (text : Text)
  /-- The header of a block. -/
  | header (kind : HeaderKind) (sentence : Text)
  | step (kind : StepKind) (sentence : Text)
  /-- The marker above the examples of an outline. -/
  | examples
  /-- A row of a table or of examples. -/
  | row (cells : Row)
  deriving DecidableEq, Repr

/-- An item of a feature, with the line number that is stored beside it, if there is one. -/
structure Entry where
  line : Option Nat
  item : Item
  deriving DecidableEq, Repr

/-- The line is a keyword, white space, a colon and a sentence. -/
def Heads (line keyword sentence : Text) : Prop :=
  ∃ gap rest, trim line = keyword ++ gap ++ ':' :: rest ∧ AllBlank gap ∧ sentence = trim rest

/-- The line is the loop keyword, white space, a count in digits, maybe white space, a
colon and a sentence. -/
def HeadsLoop (v : Vocabulary) (line sentence : Text) (n : Nat) : Prop :=
  ∃ gap digits after rest, trim line = v.loop ++ gap ++ digits ++ after ++ ':' :: rest ∧
    gap ≠ [] ∧ AllBlank gap ∧ AllBlank after ∧ Text.count? digits = some n ∧ sentence = trim rest

/-- The line is the header of a block. -/
def HeadsBlock (v : Vocabulary) (line sentence : Text) : HeaderKind → Prop
  | .plain => Heads line v.scenario sentence
  | .outline => Heads line v.outline sentence
  | .loop n => HeadsLoop v line sentence n

/-- Which item a line holds. Text after the examples marker and after a tag does not
count; a line of the description is anything that is no tag, no header and no row. -/
inductive Item.StandsOn (v : Vocabulary) (line : Text) : Item → Prop
  | tag {label : Tag} (h : Tag.ofLine? line = some label) : StandsOn v line (.tag label)
  | feature {sentence : Text} (h : Heads line v.feature sentence) :
      StandsOn v line (.feature sentence)
  | prose (noTag : Tag.ofLine? line = none)
      (noHeader : ∀ keyword ∈ [v.feature, v.scenario, v.outline, v.examples], ∀ sentence,
        ¬ Heads line keyword sentence)
      (noLoop : ∀ sentence n, ¬ HeadsLoop v line sentence n)
      (noRow : (trim line).head? ≠ some Row.bar) : StandsOn v line (.prose (trim line))
  | header {kind : HeaderKind} {sentence : Text} (h : HeadsBlock v line sentence kind) :
      StandsOn v line (.header kind sentence)
  | step {kind : StepKind} (h : v.stepKind? (trim line) = some kind) :
      StandsOn v line (.step kind (trim line))
  | examples {rest : Text} (h : Heads line v.examples rest) : StandsOn v line .examples
  | row (h : (trim line).head? = some Row.bar) : StandsOn v line (.row (Row.ofLine line))

/-- The lines of a text that say something, with their numbers from one. -/
def speakingLines (text : Text) : List (Text × Nat) :=
  ((Text.lines (Text.withoutMark text)).zipIdx 1).filter fun p => Speaks (trim p.1)

/-- The entry holds what its line says, and a number stored beside it is the number of
that line. -/
def Entry.IsFrom (v : Vocabulary) (entry : Entry) (source : Text × Nat) : Prop :=
  entry.item.StandsOn v source.1 ∧ ∀ n ∈ entry.line, n = source.2

end Document

open Document

/-! ### Listing a feature -/

/-- Tags, in order. -/
def Tag.entries (tags : List Tag) : List Entry := tags.map fun tag => ⟨none, .tag tag⟩

/-- A step and the rows of its table. -/
def Step.entries (s : Step) : List Entry :=
  ⟨some s.line, .step s.kind s.sentence⟩ :: s.table.map fun cells => ⟨none, .row cells⟩

/-- The tags of a scenario, its header and its steps. -/
def Scenario.entries (kind : HeaderKind) (s : Scenario) : List Entry :=
  Tag.entries s.tags ++ ⟨some s.line, .header kind s.sentence⟩ :: s.steps.flatMap Step.entries

/-- The marker above the examples, the row of columns and the rows after it. -/
def Example.entries (columns : Row) (examples : List Example) : List Entry :=
  ⟨none, .examples⟩ :: ⟨none, .row columns⟩ ::
    examples.map fun ex => ⟨some ex.line, .row ex.data⟩

/-- A block as it is written: its template, and for an outline the examples. What is
generated from the template stands on no line. -/
def Block.entries : Block → List Entry
  | .scenario header => header.entries .plain
  | .outline header columns examples _ =>
    header.entries .outline ++ Example.entries columns examples
  | .loop header n _ => header.entries (.loop n)

/-- A feature in document order. -/
def Feature.entries (f : Feature) : List Entry :=
  Tag.entries f.tags ++ ⟨some f.line, .feature f.sentence⟩ ::
    (f.description.map fun text => ⟨none, .prose text⟩) ++ f.blocks.flatMap Block.entries

/-! ### Listing a draft -/

namespace Document

/-- The examples of an open outline. -/
def Examples.entries (examples : Examples) : List Entry :=
  ⟨none, .examples⟩ :: (examples.columns.toList.map fun columns => ⟨none, .row columns⟩) ++
    examples.rows.map fun ex => ⟨some ex.line, .row ex.data⟩

/-- The kind of header an open block began with. -/
def OpenKind.headerKind : OpenKind → HeaderKind
  | .plain => .plain
  | .outline _ => .outline
  | .loop n => .loop n

/-- The examples of an open block, if it is an outline that has begun them. -/
def OpenKind.entries : OpenKind → List Entry
  | .outline (some examples) => examples.entries
  | _ => []

/-- An open block. -/
def OpenBlock.entries (b : OpenBlock) : List Entry :=
  b.scenario.entries b.kind.headerKind ++ b.kind.entries

/-- The feature header and the description. -/
def Heading.entries (h : Heading) : List Entry :=
  Tag.entries h.tags ++ ⟨some h.line, .feature h.sentence⟩ ::
    h.description.map fun text => ⟨none, .prose text⟩

namespace Draft

/-- A draft in document order. -/
def entries (d : Draft) : List Entry :=
  d.heading.toList.flatMap Heading.entries ++ d.blocks.flatMap Block.entries ++
    d.current.toList.flatMap OpenBlock.entries ++ Tag.entries d.waitingTags

end Draft

/-- The entry that a line adds, if it adds one; `n` is its number. -/
inductive Enters (n : Nat) : Line → Option Entry → Prop
  | blank : Enters n .blank none
  | comment : Enters n .comment none
  | tag (tag : Tag) : Enters n (.tag tag) (some ⟨none, .tag tag⟩)
  | feature (sentence : Text) : Enters n (.feature sentence) (some ⟨some n, .feature sentence⟩)
  | scenario (kind : HeaderKind) (sentence : Text) :
      Enters n (.scenario kind sentence) (some ⟨some n, .header kind sentence⟩)
  | examples : Enters n .examples (some ⟨none, .examples⟩)
  | row (cells : Row) : Enters n (.row cells) (some ⟨none, .row cells⟩)
  | exampleRow (cells : Row) : Enters n (.row cells) (some ⟨some n, .row cells⟩)
  | step (kind : StepKind) (sentence : Text) :
      Enters n (.step kind sentence) (some ⟨some n, .step kind sentence⟩)
  | describedStep (kind : StepKind) (sentence : Text) :
      Enters n (.step kind sentence) (some ⟨none, .prose sentence⟩)
  | prose (text : Text) : Enters n (.prose text) (some ⟨none, .prose text⟩)

/-! ### One line -/

namespace OpenBlock

variable {b : OpenBlock} {block : Block} {firstId : Nat}

theorem kind_entries_of_hasExamples (h : b.hasExamples = false) : b.kind.entries = [] := by
  obtain ⟨kind, scenario, tableOpen⟩ := b
  rcases kind with _ | ⟨_ | examples⟩ | n <;> simp_all [hasExamples, OpenKind.entries]

/-- Closing a block does not change how it is listed. -/
theorem close?_entries (h : b.close? firstId = some block) : block.entries = b.entries := by
  rcases close?_eq_some_iff.mp h with
    ⟨hk, rfl⟩ | ⟨n, hk, rfl⟩ | ⟨columns, rows, hk, rfl⟩ <;>
    simp [entries, hk, Block.entries, OpenKind.headerKind, OpenKind.entries, Examples.entries,
      Example.entries]

theorem entries_pushRow (cells : Row) (h : b.target = .step) :
    (b.pushRow cells).entries = b.entries ++ [⟨none, .row cells⟩] := by
  obtain ⟨before, step, hsteps⟩ := exists_last_step h
  have hnone := kind_entries_of_hasExamples (target_eq_step_iff.mp h).1
  simp [pushRow_of_steps cells hsteps, entries, hnone, Scenario.entries, hsteps, Step.entries]

theorem entries_pushStep (kind : StepKind) (sentence path : Text) (line : Nat)
    (h : b.hasExamples = false) :
    (b.pushStep kind sentence path line).entries =
      b.entries ++ [⟨some line, .step kind sentence⟩] := by
  have hnone := kind_entries_of_hasExamples h
  simp [entries, hnone, Scenario.entries, pushStep, Step.entries]

end OpenBlock

namespace Draft

variable {path word : Text} {d d' : Draft} {line : Line}

theorem entries_withCurrent {b b' : OpenBlock} {new : List Entry} (hr : d.Ready)
    (hb : d.current = some b) (h : b'.entries = b.entries ++ new) :
    (d.counted.withCurrent b').entries = d.entries ++ new := by
  simp [entries, hb, h, waitingTags, hr.2, Tag.entries]

theorem entries_describe {heading : Heading} (hd : d.Coherent) (hh : d.heading = some heading)
    (ho : heading.isOpen) (text : Text) :
    (d.counted.describe heading text).entries = d.entries ++ [⟨none, .prose text⟩] := by
  obtain ⟨hblocks, hcurrent, hwaiting⟩ := hd.describing heading hh ho
  simp [entries, hh, hblocks, hcurrent, waitingTags, hwaiting, Tag.entries, Heading.entries]

theorem entries_closeBlock (h : d.closeBlock = .ok d') : d'.entries = d.entries := by
  rcases closeBlock_eq_ok_iff.mp h with ⟨-, rfl⟩ | ⟨b, block, hb, hc, rfl⟩
  · rfl
  · simp [entries, hb, OpenBlock.close?_entries hc, waitingTags]

/-- Whether the description is still open does not show in the list. -/
theorem heading_entries_endDescription (d : Draft) :
    d.endDescription.heading.toList.flatMap Heading.entries =
      d.heading.toList.flatMap Heading.entries := by
  cases hh : d.heading <;> simp [endDescription, hh, Heading.entries]

/-- Whether a table is still open does not show in the list. -/
theorem current_entries_endTable (d : Draft) :
    d.endTable.current.toList.flatMap OpenBlock.entries =
      d.current.toList.flatMap OpenBlock.entries := by
  cases hc : d.current <;> simp [endTable, hc, OpenBlock.entries]

theorem entries_openBlock (path : Text) (kind : HeaderKind) (sentence : Text)
    (h : d.current = none) :
    (d.openBlock path kind sentence).entries =
      d.entries ++ [⟨some d.line, .header kind sentence⟩] := by
  have hkind : (openKind kind).headerKind = kind ∧ (openKind kind).entries = [] := by
    cases kind <;> exact ⟨rfl, rfl⟩
  simp only [entries, openBlock_heading, heading_entries_endDescription]
  simp [h, OpenBlock.entries, hkind.1, hkind.2, Scenario.entries, waitingTags, Tag.entries]

theorem entries_endTable (d : Draft) : d.endTable.entries = d.entries := by
  simp only [entries, current_entries_endTable]
  rfl

theorem entries_takeTag (d : Draft) (tag : Tag) :
    (d.takeTag tag).entries = d.entries ++ [⟨none, .tag tag⟩] := by
  have hheading : (d.takeTag tag).heading = d.endDescription.heading := rfl
  have hcurrent : (d.takeTag tag).current = d.endTable.current := rfl
  have hwaiting : (d.takeTag tag).waitingTags = d.waitingTags ++ [tag] := by
    simp [takeTag, waitingTags]
  simp only [entries, hheading, hcurrent, hwaiting, heading_entries_endDescription,
    current_entries_endTable]
  simp [takeTag, Tag.entries]

/-- **One line.** A line adds its entry at the end of the list. -/
theorem entries_takes (hd : d.Coherent) (ht : Takes path word d line d') :
    ∃ entry, Enters (d.line + 1) line entry ∧ d'.entries = d.entries ++ entry.toList := by
  cases ht with
  | blank =>
      exact ⟨none, .blank, (entries_endTable d.counted).trans (List.append_nil d.entries).symm⟩
  | comment => exact ⟨none, .comment, (List.append_nil d.entries).symm⟩
  | tag tag => exact ⟨_, .tag tag, entries_takeTag d.counted tag⟩
  | feature sentence hnone =>
      -- Nothing but tags came before, and these move in front of the header.
      obtain ⟨hblocks, hcurrent⟩ := hd.headed hnone
      refine ⟨_, .feature sentence, ?_⟩
      simp [entries, hnone, hblocks, hcurrent, Heading.entries, Tag.entries, waitingTags]
  | header kind sentence _ hclose =>
      refine ⟨_, .scenario kind sentence, ?_⟩
      obtain ⟨hline, -, -, hcurrent⟩ := closeBlock_keeps hclose
      rw [entries_openBlock path kind sentence hcurrent, entries_closeBlock hclose, hline]
      rfl
  | examples hr hb hk =>
      refine ⟨_, .examples, entries_withCurrent hr hb ?_⟩
      simp [OpenBlock.entries, hk, OpenKind.headerKind, OpenKind.entries, Examples.entries]
  | tableRow cells hr hb htarget =>
      exact ⟨_, .row cells, entries_withCurrent hr hb (OpenBlock.entries_pushRow cells htarget)⟩
  | columns cells hr hb hk =>
      -- The columns are listed before the rows, of which there are none yet.
      refine ⟨_, .row cells, entries_withCurrent hr hb ?_⟩
      simp [OpenBlock.entries, hk, OpenKind.headerKind, OpenKind.entries, Examples.entries,
        hd.unnamed _ _ hb hk]
  | exampleRow cells hr hb hk _ =>
      refine ⟨_, .exampleRow cells, entries_withCurrent hr hb ?_⟩
      simp [OpenBlock.entries, hk, OpenKind.headerKind, OpenKind.entries, Examples.entries]
  | step kind sentence hr hb hbefore =>
      exact ⟨_, .step kind sentence, entries_withCurrent hr hb
        (OpenBlock.entries_pushStep kind sentence path _ hbefore)⟩
  | describedStep kind sentence _ hh ho _ =>
      exact ⟨_, .describedStep kind sentence, entries_describe hd hh ho sentence⟩
  | prose text _ hh ho => exact ⟨_, .prose text, entries_describe hd hh ho text⟩

end Draft

/-! ### What lines hold -/

variable {v : Vocabulary} {line : Text} {n : Nat} {entry : Option Entry}

theorem heads_iff {keyword sentence : Text} :
    Heads line keyword sentence ↔ Vocabulary.header? (trim line) keyword = some sentence :=
  Vocabulary.header?_eq_some_iff.symm

theorem headsLoop_iff {sentence : Text} :
    HeadsLoop v line sentence n ↔ v.loopHeader? (trim line) = some (sentence, n) := by
  rw [Vocabulary.loopHeader?_trim]
  exact Vocabulary.loopHeader?_eq_some_iff.symm

theorem headsBlock_of_header? {kind : HeaderKind} {sentence : Text}
    (h : Line.header? v (trim line) = some (kind, sentence)) :
    HeadsBlock v line sentence kind := by
  simp only [Line.header?, Option.or_eq_some_iff, Option.map_eq_some_iff] at h
  rcases h with ⟨s, hs, he⟩ | ⟨-, ⟨⟨s, n⟩, hs, he⟩ | ⟨-, s, hs, he⟩⟩ <;> cases he
  · exact heads_iff.mpr hs
  · exact headsLoop_iff.mpr hs
  · exact heads_iff.mpr hs

/-- A line without a header of its own may stand in the description. -/
theorem standsOn_prose (plain : Line.Plain v (trim line))
    (noExamples : Vocabulary.header? (trim line) v.examples = none)
    (noRow : (trim line).head? ≠ some Row.bar) : Item.StandsOn v line (.prose (trim line)) := by
  have hnone := plain.noHeader
  simp only [Line.header?, Option.or_eq_none_iff, Option.map_eq_none_iff] at hnone
  obtain ⟨houtline, hloop, hscenario⟩ := hnone
  refine .prose ?_ ?_ ?_ noRow
  · rw [← Tag.ofLine?_trim]
    exact plain.noTag
  · intro keyword hk sentence hh
    rw [heads_iff] at hh
    simp only [List.mem_cons, List.not_mem_nil, or_false] at hk
    rcases hk with rfl | rfl | rfl | rfl
    · exact Option.some_ne_none _ (hh.symm.trans plain.noFeature)
    · exact Option.some_ne_none _ (hh.symm.trans hscenario)
    · exact Option.some_ne_none _ (hh.symm.trans houtline)
    · exact Option.some_ne_none _ (hh.symm.trans noExamples)
  · intro sentence n hh
    rw [headsLoop_iff] at hh
    exact Option.some_ne_none _ (hh.symm.trans hloop)

/-- A line that adds no entry says nothing. -/
theorem not_speaks_of_enters (h : Enters n (Line.read v line) none) : ¬ Speaks (trim line) := by
  have hreads := Line.reads_read v line
  cases hl : Line.read v line <;> rw [hl] at h hreads <;> cases h
  · cases hreads with
    | blank hnil => exact fun hs => hs.1 hnil
  · cases hreads with
    | comment hhead => exact fun hs => hs.2 hhead

/-- A line that adds an entry says what the entry holds. -/
theorem isFrom_of_enters {e : Entry} (h : Enters n (Line.read v line) (some e)) :
    Speaks (trim line) ∧ e.IsFrom v (line, n) := by
  have hreads := Line.reads_read v line
  have hown : ∀ m ∈ some n, m = n := fun m hm => (Option.mem_some.mp hm).symm
  have hnone : ∀ m ∈ (none : Option Nat), m = n := fun m hm => by cases hm
  cases hl : Line.read v line <;> rw [hl] at h hreads <;> cases h
  case tag label =>
    cases hreads with
    | tag speaks ht => exact ⟨speaks, .tag (Tag.ofLine?_trim line ▸ ht), hnone⟩
  case feature sentence =>
    cases hreads with
    | feature speaks _ hh => exact ⟨speaks, .feature (heads_iff.mpr hh), hown⟩
  case scenario kind sentence =>
    cases hreads with
    | scenario untitled hh => exact ⟨untitled.speaks, .header (headsBlock_of_header? hh), hown⟩
  case examples =>
    cases hreads with
    | examples plain hh => exact ⟨plain.speaks, .examples (heads_iff.mpr hh), hnone⟩
  case row.row cells =>
    cases hreads with
    | row plain _ hbar => exact ⟨plain.speaks, Row.ofLine_trim line ▸ .row hbar, hnone⟩
  case row.exampleRow cells =>
    cases hreads with
    | row plain _ hbar => exact ⟨plain.speaks, Row.ofLine_trim line ▸ .row hbar, hown⟩
  case step.step kind sentence =>
    cases hreads with
    | step plain _ _ hk => exact ⟨plain.speaks, .step hk, hown⟩
  case step.describedStep kind sentence =>
    cases hreads with
    | step plain hx hr _ => exact ⟨plain.speaks, standsOn_prose plain hx hr, hnone⟩
  case prose text =>
    cases hreads with
    | prose plain hx hr _ => exact ⟨plain.speaks, standsOn_prose plain hx hr, hnone⟩

/-! ### All lines -/

/-- **All lines.** The entries that lines add to a draft are, one for one and in order, the
lines that say something. -/
theorem entries_takeAll {path word : Text} {d d' : Draft} (hd : d.Coherent) (lines : List Text)
    (h : d.takeAll path word (lines.map (Line.read v)) = .ok d') :
    ∃ new, d'.entries = d.entries ++ new ∧
      List.Forall₂ (Entry.IsFrom v) new
        ((lines.zipIdx (d.line + 1)).filter fun p => Speaks (trim p.1)) := by
  induction lines generalizing d with
  | nil =>
      cases h
      exact ⟨[], (List.append_nil _).symm, .nil⟩
  | cons line rest ih =>
      obtain ⟨next, ht, hrest⟩ := Draft.takeAll_cons_eq_ok_iff.mp h
      obtain ⟨entry, henters, hentry⟩ := Draft.entries_takes hd ht
      obtain ⟨new, hnew, hall⟩ := ih (hd.takes ht) hrest
      rw [ht.line_eq] at hall
      rw [List.zipIdx_cons, List.filter_cons]
      cases entry with
      | none =>
          refine ⟨new, by rw [hnew, hentry]; simp, ?_⟩
          rwa [if_neg (by simpa using not_speaks_of_enters henters)]
      | some e =>
          obtain ⟨hspeaks, hfrom⟩ := isFrom_of_enters henters
          refine ⟨e :: new, by rw [hnew, hentry]; simp, ?_⟩
          rw [if_pos (by simpa using hspeaks)]
          exact .cons hfrom hall

/-- A draft that ends well is listed as the feature it becomes. -/
theorem entries_toFeature {path : Text} {id : Nat} {d : Draft} {f : Feature}
    (h : d.toFeature path id = .ok f) : f.entries = d.entries := by
  obtain ⟨heading, closed, hh, hw, hclose, rfl⟩ := Draft.toFeature_eq_ok_iff.mp h
  obtain ⟨-, hheading, hwaiting, hcurrent⟩ := Draft.closeBlock_keeps hclose
  rw [← Draft.entries_closeBlock hclose]
  simp [Draft.entries, hheading, hh, hcurrent, Draft.waitingTags, hwaiting, hw, Tag.entries,
    Feature.entries, Heading.entries]

end Document

/-! ### Paths -/

/-- The scenario and its steps carry the path. -/
def Scenario.StoredAt (path : Text) (s : Scenario) : Prop :=
  s.path = path ∧ ∀ step ∈ s.steps, step.path = path

namespace Expansion

theorem path_of_mem_numbered {path : Text} {steps : List Step}
    (h : ∀ step ∈ steps, step.path = path) : ∀ step ∈ numbered steps, step.path = path := by
  intro step hstep
  obtain ⟨i, hi, rfl⟩ := List.mem_mapIdx.mp hstep
  exact h steps[i] (List.getElem_mem hi)

end Expansion

/-- Reading stores the path of the file with every scenario and every step. -/
theorem Scenario.kept_storedAt (path : Text) : Scenario.Kept path (Scenario.StoredAt path) where
  fresh _ _ _ _ := ⟨rfl, fun _ h => nomatch h⟩
  step s kind sentence line h := by
    refine ⟨h.1, fun step hstep => ?_⟩
    rcases List.mem_append.mp hstep with hstep | hstep
    · exact h.2 step hstep
    · rw [List.mem_singleton.mp hstep]
  row s before step cells hsteps h := by
    refine ⟨h.1, fun step' hstep => ?_⟩
    rcases List.mem_append.mp hstep with hstep | hstep
    · exact h.2 step' (by simp [hsteps, hstep])
    · rw [List.mem_singleton.mp hstep]
      exact h.2 step (by simp [hsteps])
  outlined s columns rows firstId h g hg := by
    obtain ⟨row, hrow, rfl⟩ := List.mem_mapIdx.mp hg
    refine ⟨h.1, Expansion.path_of_mem_numbered fun step hstep => ?_⟩
    obtain ⟨step', hstep', rfl⟩ := List.mem_map.mp hstep
    exact h.2 step' hstep'
  looped s n firstId h g hg := by
    obtain ⟨iteration, -, rfl⟩ := List.mem_map.mp hg
    exact ⟨h.1, Expansion.path_of_mem_numbered h.2⟩

/-! ### Features -/

namespace Feature

variable {κ : Type} {r : Reader κ} {text : Text} {f : Feature}

/-- **Nothing is lost, doubled, moved or misattributed.** The entries of a feature that was
read are, one for one and in order, the lines of its text that are neither blank nor a
comment; each entry holds what its line says, each line number that is stored is the
number of that very line, and everything carries the path of the file. -/
theorem entries_of_read (h : r.read text = .ok f) :
    List.Forall₂ (Entry.IsFrom r.vocabulary) f.entries (speakingLines text) ∧
      f.path = r.path ∧
      ∀ s ∈ f.scenarios, s.path = r.path ∧ ∀ step ∈ s.steps, step.path = r.path := by
  refine ⟨?_, ?_, forall_scenarios_of_read (Scenario.kept_storedAt r.path) h⟩
  · obtain ⟨d, hall, hf⟩ := read_eq_ok_iff.mp h
    obtain ⟨new, hnew, hfrom⟩ := entries_takeAll Draft.coherent_start _ hall
    rw [entries_toFeature hf, hnew]
    exact hfrom
  · obtain ⟨d, -, hf⟩ := read_eq_ok_iff.mp h
    obtain ⟨heading, closed, -, -, -, rfl⟩ := Draft.toFeature_eq_ok_iff.mp hf
    rfl

/-- A feature with a tag, a description that goes on with the words of a step, a step with a
table, and an outline below a tag of its own, with comments and blank lines in between. -/
def annotatedText : Text :=
  ("\uFEFF@slow(1) rest\n\n  Feature: f\n# remark\nfree text\nGiven up\nScenario: s\n" ++
    "\tGiven a\n# remark\n| x | y |\n@t\nScenario Outline :o\nWhen <c>\n\nExamples: rest\n" ++
    "|c|\n\n|1|").toList

theorem entries_of_read_annotated :
    ∃ f, (Reader.mk () ['p'] 1 Vocabulary.english).read annotatedText = .ok f ∧
      f.entries.map (·.line) = [none, some 3, none, none, some 7, some 8, none, none, some 12,
        some 13, none, none, some 18] ∧
      List.Forall₂ (Entry.IsFrom Vocabulary.english) f.entries (speakingLines annotatedText) ∧
      f.path = ['p'] ∧
      ∀ s ∈ f.scenarios, s.path = ['p'] ∧ ∀ step ∈ s.steps, step.path = ['p'] := by
  have hlines : ((Reader.mk () ['p'] 1 Vocabulary.english).read annotatedText).toOption.map
      (fun f => f.entries.map (·.line)) = some [none, some 3, none, none, some 7, some 8, none,
        none, some 12, some 13, none, none, some 18] := by
    decide +kernel
  cases h : (Reader.mk () ['p'] 1 Vocabulary.english).read annotatedText with
  | error e => simp [h, Except.toOption] at hlines
  | ok f =>
      simp only [h, Except.toOption, Option.map_some, Option.some.injEq] at hlines
      exact ⟨f, rfl, hlines, entries_of_read h⟩

end Feature

end Playbook
