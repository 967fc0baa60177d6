import Playbook.Proofs.Document.History
import Playbook.Proofs.Document.Refusing

/-!
# Playbook.Proofs.Document.Blame

An error points at what is wrong. `Shows` says, for every defect, what can be seen of it in the
text of the file at the line that is blamed: in that line, in the lines above and in those below.
The errors of a reading are blamed on lines that show them.

Most defects are blamed on the line that is refused. An outline without examples is blamed on its
header, which stands anywhere above the line or the end of the file where it comes to light, and
tags at the end of a file on the first of them; that a file holds no feature is shown by all of
its lines.
-/

namespace Playbook

open Text (trim)

namespace Document

variable {v : Vocabulary} {path word : Text} {d d' : Draft} {before after past : List Text}
  {line : Text} {e : Fault}

/-! ### What can be seen -/

/-- What stands above a line: no header of a block, or the closest one and the lines below it. -/
inductive Under (v : Vocabulary) : List Text → Option Text → List Text → Prop
  | top {lines : List Text} (above : ∀ line ∈ lines, ¬ IsHeader v line) : Under v lines none lines
  | header (above : List Text) {header : Text} {below : List Text} (isHeader : IsHeader v header)
      (closest : ∀ line ∈ below, ¬ IsHeader v line) :
      Under v (above ++ header :: below) (some header) below

/-- The line shows the defect between the lines `before` and `after` of the same file. -/
inductive Shows (v : Vocabulary) (before : List Text) (line : Text) (after : List Text) :
    Defect → Prop
  /-- It is the second feature header. -/
  | secondFeature {above between : List Text} {header : Text} (isFeature : IsFeature v line)
      (split : before = above ++ header :: between) (first : IsFeature v header)
      (only : ∀ l ∈ above ++ between, ¬ IsFeature v l) : Shows v before line after .secondFeature
  /-- It is the first line that says anything but tags, and not the feature header. -/
  | beforeFeature (speaks : Speaks (trim line)) (noTag : ¬ IsTag line)
      (noFeature : ¬ IsFeature v line) (above : OnlyTags before) :
      Shows v before line after .beforeFeature
  /-- It begins with a scenario keyword and is no header. -/
  | badHeader (names : NamesScenario v line) (noFeature : ¬ IsFeature v line)
      (noHeader : ¬ IsHeader v line) (noExamples : ¬ IsExamples v line) :
      Shows v before line after .badHeader
  /-- It is an examples marker that stands under no header, or not under that of an outline. -/
  | strayExamples {header : Option Text} {below : List Text} (isExamples : IsExamples v line)
      (under : Under v before header below) (noOutline : ∀ text ∈ header, ¬ IsOutline v text) :
      Shows v before line after .strayExamples
  /-- It is the header of an outline, and no marker with a row below it comes before the next
  header or the end of the file. -/
  | missingExamples {below rest : List Text} (isOutline : IsOutline v line)
      (split : after = below ++ rest) (own : ∀ l ∈ below, ¬ IsHeader v l)
      (next : ∀ header ∈ rest.head?, IsHeader v header) (missing : ¬ Exemplified v below) :
      Shows v before line after .missingExamples
  /-- It is a row of examples, not as wide as the row that names the columns. -/
  | unevenRow {header : Text} {below : List Text} {columns : Row} (isRow : IsRow line)
      (under : Under v before (some header) below) (outline : IsOutline v header)
      (named : Named v below columns) (width : columns.length ≠ (Row.ofLine line).length) :
      Shows v before line after (.unevenRow columns.length (Row.ofLine line).length)
  /-- It is a row that stands under no header, or neither below examples nor in the table of a
  step. -/
  | strayRow {header : Option Text} {below : List Text} (isRow : IsRow line)
      (under : Under v before header below)
      (homeless : header ≠ none → (∀ l ∈ below, ¬ IsExamples v l) ∧ ¬ TableOpen v below) :
      Shows v before line after .strayRow
  /-- It is a step that stands under no header, right below the feature header. -/
  | strayStep {above between : List Text} {header : Text} (isStep : IsStep v line)
      (under : Under v before none before) (split : before = above ++ header :: between)
      (isFeature : IsFeature v header) (silent : Silent between) :
      Shows v before line after .strayStep
  /-- It is a step below the examples of its outline. -/
  | lateStep {header marker : Text} {below : List Text} (isStep : IsStep v line)
      (under : Under v before (some header) below) (outline : IsOutline v header)
      (mem : marker ∈ below) (examples : IsExamples v marker) : Shows v before line after .lateStep
  /-- It is free text that stands under a header. -/
  | strayText {header : Text} {below : List Text} (plain : Line.Plain v (trim line))
      (noExamples : ¬ IsExamples v line) (noRow : ¬ IsRow line) (noStep : ¬ IsStep v line)
      (under : Under v before (some header) below) :
      Shows v before line after (.strayText (trim line))
  /-- It is the second examples marker of an outline. -/
  | secondExamples {header marker : Text} {below : List Text} (isExamples : IsExamples v line)
      (under : Under v before (some header) below) (outline : IsOutline v header)
      (mem : marker ∈ below) (examples : IsExamples v marker) :
      Shows v before line after (.strayText v.examples)
  /-- It is no header, and a tag is the last thing said above it. -/
  | strayTags (speaks : Speaks (trim line)) (noTag : ¬ IsTag line)
      (noFeature : ¬ IsFeature v line) (noHeader : ¬ IsHeader v line) (tagged : Tagged before) :
      Shows v before line after .strayTags
  /-- It is the first of the tags that a file with a feature header ends in. -/
  | lastTags (isTag : IsTag line) (first : ¬ Tagged before) (last : OnlyTags after)
      (feature : ∃ header ∈ before, IsFeature v header) : Shows v before line after .strayTags

/-- The lines of a file show the fault where it is blamed. -/
inductive Blames (v : Vocabulary) (lines : List Text) : Fault → Prop
  | on {before : List Text} {line : Text} {after : List Text} {defect : Defect}
      (split : lines = before ++ line :: after) (shows : Shows v before line after defect) :
      Blames v lines ⟨before.length + 1, defect⟩
  /-- There is no feature in the whole file. -/
  | missingFeature (onlyTags : OnlyTags lines) :
      Blames v lines ⟨max 1 lines.length, .missingFeature⟩

theorem Blames.line_le {lines : List Text} (h : Blames v lines e) :
    1 ≤ e.line ∧ e.line ≤ max 1 lines.length := by
  cases h with
  | on split _ =>
      subst split
      simp only [List.length_append, List.length_cons]
      omega
  | missingFeature _ => exact ⟨Nat.le_max_left _ _, Nat.le_refl _⟩

/-! ### What the history shows -/

namespace Draft

theorem History.exists_under (h : d.History v past) {b : OpenBlock} (hb : d.current = some b) :
    ∃ header below, Under v past (some header) below ∧ b.Recalls v header below := by
  obtain ⟨above, header, below, rfl, -, hr⟩ := h.placed.below b hb
  exact ⟨header, below, .header above hr.isHeader hr.noHeader, hr⟩

theorem History.under_none (h : d.History v past) (hc : d.current = none) :
    Under v past none past :=
  .top (h.placed.above hc)

theorem History.exists_feature (h : d.History v past) (hh : d.heading ≠ none) :
    ∃ header ∈ past, IsFeature v header := by
  obtain ⟨heading, hh⟩ := Option.ne_none_iff_exists'.mp hh
  obtain ⟨above, header, below, rfl, -, hheader, -⟩ := h.titled.below heading hh
  exact ⟨header, by simp, hheader⟩

/-- An outline that cannot be closed is blamed on its header, whether the next header or the end
of the file comes below. -/
theorem History.blames_outline (h : d.History v past) {b : OpenBlock} (hb : d.current = some b)
    (hclose : b.close? d.nextId = none) {rest : List Text}
    (hrest : ∀ header ∈ rest.head?, IsHeader v header) :
    Blames v (past ++ rest) ⟨b.scenario.line, .missingExamples⟩ := by
  obtain ⟨above, header, below, rfl, hline, hr⟩ := h.placed.below b hb
  have hkind := OpenBlock.close?_eq_none_iff.mp hclose
  have houtline : IsOutline v header := hr.isOutline.mpr (by
    rcases hkind with hk | ⟨rows, hk⟩ <;> exact ⟨_, hk⟩)
  have hmissing : ¬ Exemplified v below := hr.unnamed fun columns rows hk' => by
    rcases hkind with hk | ⟨rows, hk⟩ <;> cases hk.symm.trans hk'
  have hshows : Shows v above header (below ++ rest) .missingExamples :=
    .missingExamples houtline rfl hr.noHeader hrest hmissing
  rw [hline]
  exact .on (by simp) hshows

/-- Tags that wait at the end of a file are blamed on the first of them. -/
theorem History.blames_tags (hv : v.Unambiguous) (h : d.History v past) (hh : d.heading ≠ none)
    {first : WaitingTag} {rest : List WaitingTag} (hw : d.waiting = first :: rest) :
    Blames v past ⟨first.line, .strayTags⟩ := by
  obtain ⟨header, hmem, hheader⟩ := h.exists_feature hh
  obtain ⟨hspeaks, hnoTag⟩ := hheader.speaks hv
  obtain ⟨above, tag, below, rfl, hline, habove, htag, hbelow⟩ := h.awaits.tagged first rest hw
  -- The feature header is none of the tags, so it stands above them.
  have hfeature : header ∈ above := by
    rw [List.mem_append, List.mem_cons] at hmem
    rcases hmem with hmem | rfl | hmem
    · exact hmem
    · exact absurd htag hnoTag
    · exact absurd (hbelow header hmem hspeaks) hnoTag
  rw [hline]
  exact .on rfl (.lastTags htag habove hbelow ⟨header, hfeature, hheader⟩)

/-! ### What a refused line shows

One lemma for each way in which a line is refused at its own place. -/

variable {b : OpenBlock}

theorem History.shows_secondFeature (hv : v.Unambiguous) (h : d.History v before)
    (hheading : d.heading ≠ none) (hfeature : IsFeature v line) :
    Shows v before line after .secondFeature := by
  obtain ⟨heading, hheading⟩ := Option.ne_none_iff_exists'.mp hheading
  obtain ⟨above, header, below, hsplit, habove, hheader, hbelow, -⟩ :=
    h.titled.below heading hheading
  refine .secondFeature hfeature hsplit hheader (List.forall_mem_append.mpr ⟨?_, hbelow⟩)
  intro l hl hf
  obtain ⟨hspeaks, hnoTag⟩ := hf.speaks hv
  exact hnoTag (habove l hl hspeaks)

theorem History.shows_beforeFeature (hv : v.Unambiguous) (h : d.History v before)
    (hbelow : (Line.read v line).isBelow) (hnone : d.heading = none) :
    Shows v before line after .beforeFeature := by
  obtain ⟨hspeaks, hnoTag, hnoFeature⟩ := speaks_of_isBelow hv hbelow
  exact .beforeFeature hspeaks hnoTag hnoFeature (h.titled.above hnone)

theorem shows_badHeader (hv : v.Unambiguous) (hread : Line.read v line = .badHeader) :
    Shows v before line after .badHeader := by
  obtain ⟨hnames, hnoFeature, hnoHeader, hnoExamples⟩ := namesScenario_of_read hv hread
  exact .badHeader hnames hnoFeature hnoHeader hnoExamples

theorem History.shows_strayTags (hv : v.Unambiguous) (h : d.History v before)
    (hbody : (Line.read v line).isBody) (hwaiting : d.waiting ≠ []) :
    Shows v before line after .strayTags := by
  obtain ⟨hspeaks, hnoTag, hnoFeature⟩ := speaks_of_isBelow hv (Line.isBelow_of_isBody hbody)
  have hnoHeader : ¬ IsHeader v line := by
    rw [isHeader_iff hv]
    rintro ⟨kind, sentence, hread⟩
    rw [hread] at hbody
    cases hbody
  obtain ⟨first, rest, hwaiting⟩ := List.exists_cons_of_ne_nil hwaiting
  obtain ⟨above, tag, below, hsplit, -, -, htag, hbelow⟩ := h.awaits.tagged first rest hwaiting
  exact .strayTags hspeaks hnoTag hnoFeature hnoHeader ⟨above, tag, below, hsplit, htag, hbelow⟩

theorem History.shows_strayExamples (h : d.History v before) (hexamples : IsExamples v line)
    (hc : ∀ b, d.current = some b → ∀ examples, b.kind ≠ .outline examples) :
    Shows v before line after .strayExamples := by
  cases hcurrent : d.current with
  | none => exact .strayExamples hexamples (h.under_none hcurrent) (by simp)
  | some b =>
      obtain ⟨header, below, hunder, hr⟩ := h.exists_under hcurrent
      refine .strayExamples hexamples hunder fun text htext houtline => ?_
      cases htext
      obtain ⟨examples, hk⟩ := hr.isOutline.mp houtline
      exact hc b hcurrent examples hk

/-- Below the marker of its examples, a block is an outline. -/
theorem History.exists_marker (h : d.History v before) (hb : d.current = some b)
    (hexamples : b.hasExamples = true) : ∃ header below marker,
      Under v before (some header) below ∧ IsOutline v header ∧ marker ∈ below ∧
        IsExamples v marker := by
  obtain ⟨header, below, hunder, hr⟩ := h.exists_under hb
  obtain ⟨examples, hk⟩ := OpenBlock.hasExamples_eq_true_iff.mp hexamples
  obtain ⟨marker, hmem, hmarker⟩ := hr.marked.mp hexamples
  exact ⟨header, below, marker, hunder, hr.isOutline.mpr ⟨_, hk⟩, hmem, hmarker⟩

theorem History.shows_secondExamples (h : d.History v before) (hexamples : IsExamples v line)
    (hb : d.current = some b) (hmarked : b.hasExamples = true) :
    Shows v before line after (.strayText v.examples) := by
  obtain ⟨header, below, marker, hunder, houtline, hmem, hmarker⟩ := h.exists_marker hb hmarked
  exact .secondExamples hexamples hunder houtline hmem hmarker

theorem History.shows_lateStep (h : d.History v before) (hstep : IsStep v line)
    (hb : d.current = some b) (hmarked : b.hasExamples = true) :
    Shows v before line after .lateStep := by
  obtain ⟨header, below, marker, hunder, houtline, hmem, hmarker⟩ := h.exists_marker hb hmarked
  exact .lateStep hstep hunder houtline hmem hmarker

theorem History.shows_strayRow (h : d.History v before) (hrow : IsRow line)
    (hc : ∀ b, d.current = some b → b.target = .nothing) :
    Shows v before line after .strayRow := by
  cases hcurrent : d.current with
  | none => exact .strayRow hrow (h.under_none hcurrent) (absurd rfl)
  | some b =>
      obtain ⟨header, below, hunder, hr⟩ := h.exists_under hcurrent
      have hnothing := hc b hcurrent
      have hnone : b.hasExamples = false := by
        rw [← Bool.not_eq_true, OpenBlock.hasExamples_eq_true_iff]
        rintro ⟨examples, hk⟩
        rw [OpenBlock.target_eq_examples_iff.mpr hk] at hnothing
        cases hnothing
      refine .strayRow hrow hunder fun _ => ⟨fun l hl hmarker => ?_, fun hopen => ?_⟩
      · rw [hr.marked.mpr ⟨l, hl, hmarker⟩] at hnone
        cases hnone
      · rw [hr.table hopen hnone] at hnothing
        cases hnothing

theorem History.shows_unevenRow (h : d.History v before) (hrow : IsRow line)
    (hb : d.current = some b) {columns : Row} {rows : List Example}
    (hk : b.kind = .outline (some ⟨some columns, rows⟩))
    (hwidth : columns.length ≠ (Row.ofLine line).length) :
    Shows v before line after (.unevenRow columns.length (Row.ofLine line).length) := by
  obtain ⟨header, below, hunder, hr⟩ := h.exists_under hb
  exact .unevenRow hrow hunder (hr.isOutline.mpr ⟨_, hk⟩) (hr.named _ _ hk) hwidth

theorem History.shows_strayStep (h : d.History v before) (hstep : IsStep v line)
    (hready : d.Ready) (hcurrent : d.current = none) (hout : d.inDescription = false) :
    Shows v before line after .strayStep := by
  obtain ⟨heading, hheading⟩ := Option.ne_none_iff_exists'.mp hready.1
  have hopen := h.describing heading hheading hready.2 hcurrent
  have hempty : heading.description = [] := by
    simpa [inDescription, hcurrent, hheading, hopen] using hout
  obtain ⟨above, header, below, hsplit, -, hheader, -, hsilent⟩ :=
    h.titled.below heading hheading
  exact .strayStep hstep (h.under_none hcurrent) hsplit hheader (hsilent hopen hempty)

theorem History.shows_strayText (hv : v.Unambiguous) (h : d.History v before) {text : Text}
    (hread : Line.read v line = .prose text) (hready : d.Ready) {heading : Heading}
    (hheading : d.heading = some heading) (hclosed : heading.isOpen = false) :
    Shows v before line after (.strayText text) := by
  obtain ⟨hplain, hnoExamples, hnoRow, hnoStep, rfl⟩ := plain_of_read hv hread
  -- Without tags only a header can have ended the description.
  cases hcurrent : d.current with
  | none =>
      have hopen := h.describing _ hheading hready.2 hcurrent
      rw [hclosed] at hopen
      cases hopen
  | some b =>
      obtain ⟨header, below, hunder, -⟩ := h.exists_under hcurrent
      exact .strayText hplain hnoExamples hnoRow hnoStep hunder

/-- A line that is refused is blamed for what it shows. -/
theorem History.blames_line (h : d.History v before) {defect : Defect}
    (hshows : Shows v before line after defect) :
    Blames v (before ++ line :: after) (d.counted.fault defect) := by
  have hline : d.counted.fault defect = ⟨before.length + 1, defect⟩ := by simp [fault, h.line]
  rw [hline]
  exact .on rfl hshows

/-- **One line.** A line that is refused shows why, or the header of the outline that it ends
does. -/
theorem History.blames_refused (hv : v.Unambiguous) (h : d.History v before)
    (hr : d.Refuses v.examples (Line.read v line) e) (after : List Text) :
    Blames v (before ++ line :: after) e := by
  generalize hread : Line.read v line = l at hr
  cases hr with
  | secondFeature sentence hheading =>
      have hfeature : IsFeature v line := (isFeature_iff hv).mpr ⟨sentence, hread⟩
      exact h.blames_line (h.shows_secondFeature hv hheading hfeature)
  | beforeFeature hbelow hnone =>
      exact h.blames_line (h.shows_beforeFeature hv (hread ▸ hbelow) hnone)
  | badHeader _ => exact h.blames_line (shows_badHeader hv hread)
  | missingExamples kind sentence _ hb hclose =>
      refine h.blames_outline hb hclose fun header hheader => ?_
      cases hheader
      exact (isHeader_iff hv).mpr ⟨kind, sentence, hread⟩
  | strayTags hbody _ hwaiting =>
      exact h.blames_line (h.shows_strayTags hv (hread ▸ hbody) hwaiting)
  | strayExamples _ hc =>
      exact h.blames_line (h.shows_strayExamples ((isExamples_iff hv).mpr hread) hc)
  | secondExamples _ hb hk =>
      have hmarked := OpenBlock.hasExamples_eq_true_iff.mpr ⟨_, hk⟩
      exact h.blames_line (h.shows_secondExamples ((isExamples_iff hv).mpr hread) hb hmarked)
  | strayRow cells _ hc => exact h.blames_line (h.shows_strayRow (isRow_of_read hread).1 hc)
  | unevenRow cells _ hb hk hwidth =>
      obtain ⟨hrow, rfl⟩ := isRow_of_read hread
      exact h.blames_line (h.shows_unevenRow hrow hb hk hwidth)
  | strayStep kind sentence hready hcurrent hout =>
      exact h.blames_line (h.shows_strayStep (isStep_of_read hread).1 hready hcurrent hout)
  | lateStep kind sentence _ hb hmarked =>
      exact h.blames_line (h.shows_lateStep (isStep_of_read hread).1 hb hmarked)
  | strayText text hready hheading hclosed =>
      exact h.blames_line (h.shows_strayText hv hread hready hheading hclosed)

/-- **The end of the file.** -/
theorem History.blames_toFeature (hv : v.Unambiguous) (h : d.History v past) {id : Nat}
    (hf : d.toFeature path id = .error e) : Blames v past e := by
  rcases toFeature_eq_error_iff.mp hf with
    ⟨hnone, rfl⟩ | ⟨hh, first, rest, hw, rfl⟩ | ⟨-, b, hb, hclose, rfl⟩
  · rw [h.line, Nat.max_comm]
    exact .missingFeature (h.titled.above hnone)
  · exact h.blames_tags hv hh hw
  · have hend : ∀ header ∈ ([] : List Text).head?, IsHeader v header := by simp
    simpa using h.blames_outline hb hclose hend

end Draft

/-- The first line that is refused, or the end of the file, is to blame. -/
theorem blames_of_read {κ : Type} {r : Reader κ} {text : Text} {err : ReadError}
    (hv : r.vocabulary.Unambiguous) (h : r.read text = .error err) :
    ∃ fault, err = .malformed r.path fault ∧
      Blames r.vocabulary (Text.lines (Text.withoutMark text)) fault := by
  obtain ⟨fault, rfl, hcases⟩ := read_eq_error_iff.mp h
  refine ⟨fault, rfl, ?_⟩
  rcases hcases with ⟨above, line', below, d, hsplit, hall, hr⟩ | ⟨d, hall, hf⟩
  · obtain ⟨before, rest, hlines, rfl, hrest⟩ := List.map_eq_append_iff.mp hsplit
    obtain ⟨line, after, rfl, rfl, rfl⟩ := List.map_eq_cons_iff.mp hrest
    have hhistory := Draft.history_start.takeAll hv hall
    rw [hlines]
    exact hhistory.blames_refused hv hr after
  · exact (Draft.history_start.takeAll hv hall).blames_toFeature hv hf

end Document

open Document

namespace Reader

variable {κ : Type} {r : Reader κ} {text : Text} {e : ReadError}

/-- **Errors are blamed on lines that show them.** With a built-in vocabulary, whatever makes a
text no feature is a fault of a line of it, counted from one, or of its first line if there is
none, and the fault can be seen there, from the text of that line and of those around it. -/
theorem error_is_shown (hv : r.vocabulary ∈ Vocabulary.builtin) (h : r.read text = .error e) :
    ∃ fault, e = .malformed r.path fault ∧
      (1 ≤ fault.line ∧ fault.line ≤ max 1 (Text.lines (Text.withoutMark text)).length) ∧
      Blames r.vocabulary (Text.lines (Text.withoutMark text)) fault := by
  have hunambiguous := Vocabulary.unambiguous_of_mem_builtin r.vocabulary hv
  obtain ⟨fault, he, hblames⟩ := blames_of_read hunambiguous h
  exact ⟨fault, he, hblames.line_le, hblames⟩

/-- An outline with an examples marker but no row below it, which comes to light at the header
six lines further down. -/
def rowlessText : Text :=
  ("\uFEFF@t\nFunktionalität: f\n Szenario Auslagerung : o\nWenn <a>\n|x|\nBeispiele:\n# r\n" ++
    "@u\nSzenario: s\nWenn b").toList

theorem error_is_shown_rowless :
    let r : Reader Unit := ⟨(), ['p'], 1, Vocabulary.german⟩
    r.vocabulary ∈ Vocabulary.builtin ∧
      r.read rowlessText = .error (.malformed ['p'] ⟨3, .missingExamples⟩) ∧
      Blames Vocabulary.german (Text.lines (Text.withoutMark rowlessText))
        ⟨3, .missingExamples⟩ := by
  intro r
  have hv : r.vocabulary ∈ Vocabulary.builtin := by simp [r, Vocabulary.builtin]
  have hread : r.read rowlessText = .error (.malformed ['p'] ⟨3, .missingExamples⟩) := by
    decide +kernel
  obtain ⟨fault, he, -, hblames⟩ := error_is_shown hv hread
  cases he
  exact ⟨hv, hread, hblames⟩

end Reader

end Playbook
