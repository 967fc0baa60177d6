import Mathlib.Algebra.Order.BigOperators.Group.List
import Mathlib.Algebra.Order.Group.Nat
import Playbook.Proofs.Document.Line
import Playbook.Proofs.Document.Script.Layout
import Playbook.Proofs.Row

/-!
# Playbook.Proofs.Document.Script.Lines

Every line of a script is read as what it was written for. The tests for the meaning of a
line are tried in a fixed order, so for each kind of line the earlier tests have to fail;
they do because the words of the vocabulary are apart from each other and from the marks,
which is what `Vocabulary.Unambiguous` says.
-/

namespace Playbook.Script

open Document (Line HeaderKind Speaks)
open Text (trim Trimmed)
open Vocabulary (Apart)

variable {v : Vocabulary} {opening sentence rest word : Text}

/-! ### What the lines are meant as -/

/-- The kind of header that introduces a block. -/
def Body.headerKind : Body → HeaderKind
  | plain => .plain
  | loop n => .loop n
  | outline _ _ => .outline

/-- What a line of the description is read as, before it is known to be one. -/
def described (v : Vocabulary) (text : Text) : Line :=
  match v.stepKind? text with
  | some kind => .step kind text
  | none => .prose text

/-- What the lines of a step are meant as. -/
def Step.lines (s : Step) : List Line := .step s.kind s.sentence :: s.table.map .row

/-- What the lines of the examples are meant as. -/
def Body.lines : Body → List Line
  | outline columns rows => .examples :: .row columns :: rows.map .row
  | _ => []

/-- What the lines of a block are meant as. -/
def Block.lines (b : Block) : List Line :=
  b.tags.map .tag ++ .scenario b.body.headerKind b.sentence ::
    (b.steps.flatMap Step.lines ++ b.body.lines)

/-- What the lines of a script are meant as. -/
def lines (v : Vocabulary) (s : Script) : List Line :=
  s.tags.map .tag ++ .feature s.sentence ::
    (s.description.map (described v) ++ s.blocks.flatMap Block.lines)

/-! ### Beginnings -/

theorem headed_eq_append (opening sentence : Text) :
    headed opening sentence = opening ++ [':', ' '] ++ sentence := by
  simp [headed]

/-- The line of a header, trimmed, is the opening, a colon and the sentence. -/
theorem exists_trim_headed (hne : opening ≠ []) (ho : Trimmed opening) (hs : Trimmed sentence) :
    ∃ rest, trim (headed opening sentence) = opening ++ ':' :: rest ∧ trim rest = sentence := by
  have hcolon : Trimmed [':'] := by decide
  have hspace : Text.AllBlank [' '] := by decide
  by_cases hnil : sentence = []
  · have htrimmed : Trimmed (opening ++ [] ++ [':']) :=
      ho.append hcolon hne (List.cons_ne_nil _ _) []
    refine ⟨[], ?_, hnil ▸ Text.trim_nil⟩
    calc trim (headed opening sentence)
        = trim ([] ++ (opening ++ [] ++ [':']) ++ [' ']) := by simp [headed, hnil]
      _ = opening ++ [] ++ [':'] := by
        rw [Text.trim_append_of_allBlank Text.allBlank_nil hspace, htrimmed.eq]
      _ = opening ++ ':' :: [] := by simp
  · refine ⟨' ' :: sentence, ?_, ?_⟩
    · rw [headed_eq_append, (ho.append hs hne hnil [':', ' ']).eq]
      simp
    · have htrim := Text.trim_append_of_allBlank hspace Text.allBlank_nil sentence
      rw [List.append_nil] at htrim
      exact htrim.trans hs.eq

/-- What begins with a word of the vocabulary does not begin with a mark. -/
theorem head?_append_ne (hv : v.Unambiguous) (hw : word ∈ v.openers) (rest : Text) :
    ∀ mark ∈ Vocabulary.marks, (word ++ rest).head? ≠ some mark := by
  obtain ⟨hne, -, -, hmarks⟩ := hv.openers word hw
  rwa [List.head?_append_of_ne_nil _ hne]

theorem speaks_append (hv : v.Unambiguous) (hw : word ∈ v.openers) (rest : Text) :
    Speaks (word ++ rest) ∧ (word ++ rest).head? ≠ some '@' := by
  obtain ⟨hne, -, -, -⟩ := hv.openers word hw
  have hmarks := head?_append_ne hv hw rest
  exact ⟨⟨List.append_ne_nil_of_left_ne_nil hne _, hmarks _ (by decide)⟩, hmarks _ (by decide)⟩

/-- What begins with a word that is apart from the feature keyword is neither a tag nor the
feature header. -/
theorem untitled_append (hv : v.Unambiguous) (hw : word ∈ v.openers) (hf : Apart v.feature word)
    (ht : Trimmed (word ++ rest)) : Line.Untitled v (word ++ rest) where
  speaks := (speaks_append hv hw _).1
  noTag := Tag.ofLine?_eq_none ht (speaks_append hv hw _).2
  noFeature := Vocabulary.header?_eq_none_of_not_prefix (hf.not_prefix_append rest)

/-- What begins with a word that is apart from all keywords of headers is plain. -/
theorem plain_append (hv : v.Unambiguous) (hw : word ∈ v.openers)
    (h : ∀ keyword ∈ [v.feature, v.scenario, v.outline, v.loop], Apart keyword word)
    (ht : Trimmed (word ++ rest)) : Line.Plain v (word ++ rest) :=
  Line.plain_of_not_prefix ht (speaks_append hv hw _).1 (speaks_append hv hw _).2
    fun keyword hk => (h keyword hk).not_prefix_append rest

/-! ### Lines -/

/-- A tag is read as itself. -/
theorem read_render {label : Tag} (h : label.Writable) : Line.read v label.render = .tag label := by
  have hhead : label.render.head? = some '@' := by rw [Tag.render_eq]; rfl
  have hspeaks : Speaks label.render := by
    refine ⟨fun hnil => ?_, by simp [hhead]⟩
    rw [hnil] at hhead
    cases hhead
  exact Line.read_of_trimmed (Tag.trimmed_render h.1) (.tag hspeaks (Tag.ofLine?_render h.1))

/-- The header of the feature. -/
theorem read_feature (hv : v.Unambiguous) (hs : sentence.OnLine) :
    Line.read v (headed v.feature sentence) = .feature sentence := by
  have hw : v.feature ∈ v.openers := by simp [Vocabulary.openers, Vocabulary.keywords]
  obtain ⟨hne, ho, -, -⟩ := hv.openers _ hw
  obtain ⟨rest, htrim, rfl⟩ := exists_trim_headed hne ho hs.1
  have htrimmed : Trimmed (v.feature ++ ':' :: rest) := htrim ▸ Text.trimmed_trim _
  obtain ⟨hspeaks, hat⟩ : Speaks (v.feature ++ ':' :: rest) ∧
      (v.feature ++ ':' :: rest).head? ≠ some '@' := speaks_append hv hw _
  rw [Line.read_eq_iff, htrim]
  exact .feature hspeaks (Tag.ofLine?_eq_none htrimmed hat)
    (Vocabulary.header?_append_colon v.feature rest)

/-- The words that introduce a block are told apart from the feature keyword, and the kind
of the block is told from them. -/
theorem header?_opening (hv : v.Unambiguous) {body : Body} (hn : body.copies ≤ Text.maxCount)
    (ht : Trimmed (body.opening v ++ ':' :: rest)) :
    Line.header? v (body.opening v ++ ':' :: rest) = some (body.headerKind, trim rest) := by
  cases body with
  | plain =>
      have hsplit : v.scenario ++ ':' :: rest = v.scenario ++ [':'] ++ rest := by simp
      have houtline : Vocabulary.header? (v.scenario ++ ':' :: rest) v.outline = none := by
        rw [hsplit]
        exact Vocabulary.header?_eq_none_of_not_prefix (hv.scenario.1.not_prefix_append rest)
      have hloop : v.loopHeader? (v.scenario ++ ':' :: rest) = none := by
        by_contra hne
        obtain ⟨⟨sentence, n⟩, hl⟩ := Option.ne_none_iff_exists'.mp hne
        obtain ⟨after, hafter, -⟩ :=
          Vocabulary.hasWord_iff.mp (Vocabulary.hasWord_of_loopHeader? hl)
        rw [show trim (v.scenario ++ ':' :: rest) = _ from ht.eq, Body.opening, hsplit] at hafter
        exact hv.scenario.2.not_prefix_append rest ⟨after, hafter.symm⟩
      simp [Line.header?, Body.opening, Body.headerKind, houtline, hloop,
        Vocabulary.header?_append_colon]
  | loop n =>
      have hsplit : (Body.loop n).opening v ++ ':' :: rest =
          v.loop ++ (' ' :: Text.decimal n ++ ':' :: rest) := by
        simp [Body.opening]
      have houtline : Vocabulary.header? ((Body.loop n).opening v ++ ':' :: rest) v.outline =
          none := by
        rw [hsplit]
        exact Vocabulary.header?_eq_none_of_not_prefix (hv.outline_loop.not_prefix_append _)
      have hloop : v.loopHeader? ((Body.loop n).opening v ++ ':' :: rest) =
          some (trim rest, n) := by
        refine Vocabulary.loopHeader?_eq_some_iff.mpr ⟨[' '], Text.decimal n, [], rest, ?_, ?_, ?_,
          ?_, Text.count?_decimal hn, rfl⟩
        · rw [ht.eq, hsplit]
          simp
        · exact List.cons_ne_nil _ _
        · decide
        · decide
      simp [Line.header?, Body.headerKind, houtline, hloop]
  | outline columns rows =>
      simp [Line.header?, Body.opening, Body.headerKind, Vocabulary.header?_append_colon]

/-- The header of a block. -/
theorem read_header (hv : v.Unambiguous) {body : Body} (hn : body.copies ≤ Text.maxCount)
    (hs : sentence.OnLine) :
    Line.read v (headed (body.opening v) sentence) = .scenario body.headerKind sentence := by
  -- The count of a loop belongs to the opening but not to the word the line begins with.
  obtain ⟨word, count, hopening, hw, hf, htrimmed⟩ : ∃ word count, body.opening v = word ++ count ∧
      word ∈ v.openers ∧ Apart v.feature word ∧ Trimmed (body.opening v) := by
    cases body with
    | plain =>
        obtain ⟨hw, hf⟩ := hv.of_blockKeyword (show v.scenario ∈ _ by simp)
        exact ⟨v.scenario, [], by simp [Body.opening], hw, hf, (hv.openers _ hw).2.1⟩
    | loop n =>
        obtain ⟨hw, hf⟩ := hv.of_blockKeyword (show v.loop ∈ _ by simp)
        refine ⟨v.loop, ' ' :: Text.decimal n, rfl, hw, hf, ?_⟩
        have hdigits : Trimmed (Text.decimal n) := Text.trimmed_of_digits fun c hc =>
          Nat.isDigit_of_mem_toDigits (by decide) (by decide) hc
        obtain ⟨hne, ht, -, -⟩ := hv.openers _ hw
        have happend := ht.append hdigits hne Nat.toDigits_ne_nil [' ']
        simpa [Body.opening] using happend
    | outline columns rows =>
        obtain ⟨hw, hf⟩ := hv.of_blockKeyword (show v.outline ∈ _ by simp)
        exact ⟨v.outline, [], by simp [Body.opening], hw, hf, (hv.openers _ hw).2.1⟩
  have hne : body.opening v ≠ [] := by
    rw [hopening]
    exact List.append_ne_nil_of_left_ne_nil (hv.openers word hw).1 count
  obtain ⟨rest, htrim, rfl⟩ := exists_trim_headed hne htrimmed hs.1
  have ht : Trimmed (body.opening v ++ ':' :: rest) := htrim ▸ Text.trimmed_trim _
  rw [Line.read_eq_iff, htrim]
  refine .scenario ?_ (header?_opening hv hn ht)
  rw [hopening, List.append_assoc] at ht ⊢
  exact untitled_append hv hw hf ht

/-- The marker above the examples. -/
theorem read_marker (hv : v.Unambiguous) : Line.read v (v.examples ++ [':']) = .examples := by
  obtain ⟨hw, hapart⟩ := hv.of_examples
  obtain ⟨hne, ho, -, -⟩ := hv.openers _ hw
  have ht : Trimmed (v.examples ++ [':']) := by
    have happend := ho.append (show Trimmed [':'] by decide) hne (List.cons_ne_nil _ _) []
    simpa using happend
  exact Line.read_of_trimmed ht
    (.examples (plain_append hv hw hapart ht) (Vocabulary.header?_append_colon v.examples []))

/-- The cells of a row are found between its bars. -/
theorem ofLine_layout {cells : Row} (h : cells.Writable) : Row.ofLine cells.layout = cells := by
  obtain ⟨hne, hcells⟩ := h
  have hpieces : (cells.map fun cell => ' ' :: cell ++ [' ']) ≠ [] := by simpa using hne
  have hpads : List.Forall₂ Row.Pads cells (cells.map fun cell => ' ' :: cell ++ [' ']) := by
    rw [List.forall₂_map_right_iff, List.forall₂_same]
    exact fun cell _ => ⟨[' '], [' '], by decide, by decide, rfl⟩
  have hbar := Row.bar_not_mem_of_pads hpads fun cell hcell => (hcells cell hcell).2
  have htrim := Row.map_trim_of_pads hpads fun cell hcell => (hcells cell hcell).1.1
  rw [Row.layout, ← Row.barred_eq_intercalate hpieces, Row.ofLine_closed hpieces hbar, htrim]

/-- A row. -/
theorem read_row (hv : v.Unambiguous) {cells : Row} (h : cells.Writable) :
    Line.read v cells.layout = .row cells := by
  have hhead : cells.layout.head? = some Row.bar := rfl
  have ht : Trimmed cells.layout := by
    refine Text.trimmed_iff.mpr ⟨fun c hc => ?_, fun c hc => ?_⟩
    · cases hc
      decide
    · rw [Row.layout, List.getLast?_append, List.getLast?_singleton, Option.some_or] at hc
      cases hc
      decide
  have hnot : ∀ word ∈ v.openers, ¬ word <+: cells.layout := by
    intro word hw hprefix
    obtain ⟨rest, hrest⟩ := hprefix
    rw [← hrest] at hhead
    exact head?_append_ne hv hw rest Row.bar (by decide) hhead
  have hkeyword : ∀ word ∈ v.keywords, ¬ word <+: cells.layout :=
    fun word hw => hnot word (List.mem_append_left _ hw)
  have plain : Line.Plain v cells.layout := by
    refine Line.plain_of_not_prefix ht ⟨List.cons_ne_nil _ _, ?_⟩ ?_ fun keyword hk => ?_
    · rw [hhead]
      decide
    · rw [hhead]
      decide
    · refine hkeyword keyword ?_
      simp only [Vocabulary.keywords, List.mem_cons, List.not_mem_nil, or_false] at hk ⊢
      tauto
  have hnoExamples : Vocabulary.header? cells.layout v.examples = none :=
    Vocabulary.header?_eq_none_of_not_prefix (hkeyword _ (by simp [Vocabulary.keywords]))
  have hreads := Line.Reads.row plain hnoExamples hhead
  rw [ofLine_layout h] at hreads
  exact Line.read_of_trimmed ht hreads

/-- What follows the spelling on the line of a step. -/
theorem Step.WellFormed.exists_sentence {s : Step} (hs : s.WellFormed v) (hv : v.Unambiguous) :
    ∃ rest, s.sentence = s.word ++ rest ∧ Text.endsWord rest = true ∧
      Trimmed (s.word ++ rest) := by
  obtain ⟨hne, ht, -, -⟩ := hv.openers _ (hv.of_spelling hs.word).1
  cases hr : s.rest with
  | none => exact ⟨[], by simp [Step.sentence, hr], rfl, by rwa [List.append_nil]⟩
  | some rest =>
      obtain ⟨hrest, hline⟩ := hs.rest rest hr
      refine ⟨' ' :: rest, by simp [Step.sentence, hr], ?_, ?_⟩
      · rw [Text.endsWord_cons]
        decide
      · have happend := ht.append hline.1 hne hrest [' ']
        rwa [List.append_assoc] at happend

/-- A step. -/
theorem read_step (hv : v.Unambiguous) {s : Step} (hs : s.WellFormed v) :
    Line.read v s.sentence = .step s.kind s.sentence := by
  obtain ⟨hw, hapart⟩ := hv.of_spelling hs.word
  obtain ⟨rest, hsentence, hrest, ht⟩ := hs.exists_sentence hv
  have hkind := hv.stepKind?_append hs.word hrest
  rw [hsentence]
  refine Line.read_of_trimmed ht (.step ?_ ?_ ?_ hkind)
  · refine plain_append hv hw (fun keyword hk => hapart keyword ?_) ht
    simp only [Vocabulary.keywords, List.mem_cons, List.not_mem_nil, or_false] at hk ⊢
    tauto
  · have hexamples := hapart v.examples (by simp [Vocabulary.keywords])
    exact Vocabulary.header?_eq_none_of_not_prefix (hexamples.not_prefix_append rest)
  · exact head?_append_ne hv hw rest Row.bar (by decide)

/-- A line of the description is read as free text, or as a step if it begins like one. -/
theorem read_described {text : Text} (h : Describes v text) :
    Line.read v text = described v text := by
  have plain : Line.Plain v text := {
    speaks := ⟨h.ne_nil, h.noComment⟩
    noTag := h.noTag
    noFeature := h.noFeature
    noHeader := Line.header?_eq_none_of_namesScenario h.noKeyword h.onLine.1
    noKeyword := h.noKeyword }
  refine Line.read_of_trimmed h.onLine.1 ?_
  unfold described
  cases hk : v.stepKind? text with
  | some kind => exact .step plain h.noExamples h.noRow hk
  | none => exact .prose plain h.noExamples h.noRow hk

/-! ### Line breaks -/

theorem newline_not_mem_render {label : Tag} (h : label.Writable) : '\n' ∉ label.render := by
  have hname : '\n' ∉ label.name := fun hmem => by
    have hchar := h.1.name _ hmem
    revert hchar
    decide
  have hargument : '\n' ∉ Tag.argumentText label.argument := by
    cases ha : label.argument with
    | none => simp [Tag.argumentText]
    | some a => simp [Tag.argumentText, h.2 a ha]
  rw [Tag.render_eq]
  simp [hname, hargument]

theorem newline_not_mem_row {cells : Row} (h : cells.Writable) : '\n' ∉ cells.layout := by
  have hbar : '\n' ≠ Row.bar := by decide
  have hpieces : ∀ piece ∈ cells.map fun cell => ' ' :: cell ++ [' '], '\n' ∉ piece := by
    intro piece hpiece
    obtain ⟨cell, hcell, rfl⟩ := List.mem_map.mp hpiece
    simp [(h.2 cell hcell).1.2]
  have hcells := Text.not_mem_intercalate hbar hpieces
  rw [Row.layout, List.mem_append, List.mem_cons]
  simp only [hbar, hcells, List.mem_singleton, or_self, not_false_eq_true]

theorem newline_not_mem_opening (hv : v.Unambiguous) (body : Body) : '\n' ∉ body.opening v := by
  have hword : ∀ word ∈ v.keywords, '\n' ∉ word := fun word hw =>
    (hv.openers word (List.mem_append_left _ hw)).2.2.1
  cases body with
  | plain => exact hword v.scenario (by simp [Vocabulary.keywords])
  | loop n =>
      have hloop : '\n' ∉ v.loop := hword _ (by simp [Vocabulary.keywords])
      have hdigits : '\n' ∉ Text.decimal n := fun hmem => by
        have hdigit := Nat.isDigit_of_mem_toDigits (by decide) (by decide) hmem
        exact Text.newline_ne_of_not_isBlank (Text.not_isBlank_of_isDigit hdigit) rfl
      simp [Body.opening, hloop, hdigits]
  | outline columns rows => exact hword v.outline (by simp [Vocabulary.keywords])

theorem newline_not_mem_headed (ho : '\n' ∉ opening) (hs : sentence.OnLine) :
    '\n' ∉ headed opening sentence := by
  simp [headed, ho, hs.2]

theorem newline_not_mem_step (hv : v.Unambiguous) {s : Step} (h : s.WellFormed v) :
    ∀ line ∈ s.layout, '\n' ∉ line := by
  have hword : '\n' ∉ s.word := (hv.openers _ (hv.of_spelling h.word).1).2.2.1
  rw [Step.layout, List.forall_mem_cons, List.forall_mem_map]
  refine ⟨?_, fun cells hcells => newline_not_mem_row (h.table cells hcells)⟩
  cases hr : s.rest with
  | none => simpa [Step.sentence, hr] using hword
  | some rest => simp [Step.sentence, hr, hword, (h.rest rest hr).2.2]

theorem newline_not_mem_body (hv : v.Unambiguous) {body : Body} (h : body.WellFormed) :
    ∀ line ∈ body.layout v, '\n' ∉ line := by
  cases body with
  | plain => exact fun line hl => absurd hl List.not_mem_nil
  | loop n => exact fun line hl => absurd hl List.not_mem_nil
  | outline columns rows =>
      have hword : '\n' ∉ v.examples :=
        (hv.openers _ (by simp [Vocabulary.openers, Vocabulary.keywords])).2.2.1
      rw [Body.layout, List.forall_mem_cons, List.forall_mem_map, List.forall_mem_cons]
      exact ⟨by simp [hword], newline_not_mem_row h.1,
        fun cells hcells => newline_not_mem_row (h.2 cells hcells).1⟩

theorem newline_not_mem_block (hv : v.Unambiguous) {b : Block} (h : b.WellFormed v) :
    ∀ line ∈ b.layout v, '\n' ∉ line := by
  rw [Block.layout, List.forall_mem_append, List.forall_mem_map, List.forall_mem_cons,
    List.forall_mem_append]
  refine ⟨fun label hl => newline_not_mem_render (h.tags label hl),
    newline_not_mem_headed (newline_not_mem_opening hv b.body) h.sentence, fun line hl => ?_,
    newline_not_mem_body hv h.body⟩
  obtain ⟨s, hs, hline⟩ := List.mem_flatMap.mp hl
  exact newline_not_mem_step hv (h.steps s hs) line hline

/-- No line of a script is broken. -/
theorem newline_not_mem_layout (hv : v.Unambiguous) {s : Script} (h : s.WellFormed v) :
    ∀ line ∈ s.layout v, '\n' ∉ line := by
  have hword : '\n' ∉ v.feature :=
    (hv.openers _ (by simp [Vocabulary.openers, Vocabulary.keywords])).2.2.1
  rw [layout, List.forall_mem_append, List.forall_mem_map, List.forall_mem_cons,
    List.forall_mem_append]
  refine ⟨fun label hl => newline_not_mem_render (h.tags label hl),
    newline_not_mem_headed hword h.sentence, fun line hl => (h.description line hl).onLine.2,
    fun line hl => ?_⟩
  obtain ⟨b, hb, hline⟩ := List.mem_flatMap.mp hl
  exact newline_not_mem_block hv (h.blocks b hb) line hline

/-! ### All lines -/

theorem read_rows (hv : v.Unambiguous) {rows : List Row} (h : ∀ cells ∈ rows, cells.Writable) :
    (rows.map Row.layout).map (Line.read v) = rows.map .row := by
  rw [List.map_map]
  exact List.map_congr_left fun cells hcells => read_row hv (h cells hcells)

theorem read_tags {labels : List Tag} (h : ∀ label ∈ labels, label.Writable) :
    (labels.map Tag.render).map (Line.read v) = labels.map .tag := by
  rw [List.map_map]
  exact List.map_congr_left fun label hlabel => read_render (h label hlabel)

theorem Step.read_layout (hv : v.Unambiguous) {s : Step} (hs : s.WellFormed v) :
    s.layout.map (Line.read v) = s.lines := by
  rw [Step.layout, List.map_cons, read_step hv hs, read_rows hv hs.table, Step.lines]

theorem Body.read_layout (hv : v.Unambiguous) {body : Body} (h : body.WellFormed) :
    (body.layout v).map (Line.read v) = body.lines := by
  cases body with
  | plain => rfl
  | loop n => rfl
  | outline columns rows =>
      have hrows : ∀ cells ∈ columns :: rows, cells.Writable :=
        List.forall_mem_cons.mpr ⟨h.1, fun cells hcells => (h.2 cells hcells).1⟩
      rw [Body.layout, List.map_cons, read_marker hv, read_rows hv hrows]
      rfl

theorem Block.read_layout (hv : v.Unambiguous) {b : Block} (h : b.WellFormed v)
    (hn : b.body.copies ≤ Text.maxCount) : (b.layout v).map (Line.read v) = b.lines := by
  have hsteps : (b.steps.flatMap Step.layout).map (Line.read v) = b.steps.flatMap Step.lines := by
    rw [List.map_flatMap]
    exact List.flatMap_congr fun s hs => Step.read_layout hv (h.steps s hs)
  rw [Block.layout, List.map_append, List.map_cons, List.map_append, read_tags h.tags,
    read_header hv hn h.sentence, hsteps, Body.read_layout hv h.body, Block.lines]

/-- **Lines.** Every line of a script is read as what it was written for. -/
theorem read_layout (hv : v.Unambiguous) {s : Script} (h : s.WellFormed v)
    (hn : s.idCount ≤ Text.maxCount) : (s.layout v).map (Line.read v) = s.lines v := by
  have hcopies : ∀ b ∈ s.blocks, b.body.copies ≤ Text.maxCount := by
    intro b hb
    have hle : b.idCount ≤ s.idCount := List.le_sum_of_mem (List.mem_map_of_mem hb)
    have hone : b.body.copies ≤ b.idCount := Nat.le_add_left _ _
    omega
  have hdescription : s.description.map (Line.read v) = s.description.map (described v) :=
    List.map_congr_left fun text htext => read_described (h.description text htext)
  have hblocks : (s.blocks.flatMap (Block.layout v)).map (Line.read v) =
      s.blocks.flatMap Block.lines := by
    rw [List.map_flatMap]
    exact List.flatMap_congr fun b hb => Block.read_layout hv (h.blocks b hb) (hcopies b hb)
  rw [layout, List.map_append, List.map_cons, List.map_append, read_tags h.tags,
    read_feature hv h.sentence, hdescription, hblocks, lines]

end Playbook.Script
