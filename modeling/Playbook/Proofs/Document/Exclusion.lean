import Playbook.Proofs.Document.Recognition

/-!
# Playbook.Proofs.Document.Exclusion

The tests that tell what a line is exclude each other. `Line.Test` lists them, each without
regard to the others, and `readInOrder` tries them in any order that is wanted. In a vocabulary
whose words can be told apart a test applies exactly if the line is read as what it finds, so at
most one does and the order does not matter.

Most pairs are told apart by the first word of the line. The header of a plain scenario is not:
the keywords of outlines and loops may go on from its keyword, and white space may stand before
a colon. What settles it is that neither of them, closed by a colon, is such a header itself.
-/

namespace Playbook

open Text (trim Trimmed)

/-! ### Keywords that share a beginning -/

namespace Vocabulary

variable {v : Vocabulary} {begins word : Text}

/-- What a header begins with is one itself if a colon closes it, unless the keyword goes on
behind it. -/
theorem exists_header?_closed {rest sentence : Text} (hlong : ¬ begins <+: word)
    (h : header? (begins ++ rest) word = some sentence) :
    ∃ closed, header? (begins ++ [':']) word = some closed := by
  obtain ⟨gap, tail, heq, hgap, -⟩ := header?_eq_some_iff.mp h
  -- It ends in the white space before the colon or goes on behind that.
  rcases List.prefix_or_prefix_of_prefix ⟨rest, heq⟩ (List.prefix_append (word ++ gap) _) with
    hshort | ⟨after, hafter⟩
  · rcases List.prefix_or_prefix_of_prefix hshort (List.prefix_append word gap) with
      hword | ⟨blanks, rfl⟩
    · exact absurd hword hlong
    · have hblanks : blanks <+: gap := (List.prefix_append_right_inj word).mp hshort
      exact ⟨_, header?_eq_some_iff.mpr
        ⟨blanks, [], rfl, fun c hc => hgap c (hblanks.subset hc), rfl⟩⟩
  · have hcolon : ∃ tail, after ++ [':'] = ':' :: tail := by
      cases after with
      | nil => exact ⟨[], rfl⟩
      | cons c after =>
          rw [← hafter, List.append_assoc, List.append_cancel_left_eq, List.cons_append] at heq
          obtain ⟨rfl, -⟩ := List.cons.inj heq
          exact ⟨after ++ [':'], rfl⟩
    obtain ⟨tail, htail⟩ := hcolon
    refine ⟨_, header?_eq_some_iff.mpr ⟨gap, tail, ?_, hgap, rfl⟩⟩
    rw [← hafter, List.append_assoc, htail]

/-- No header of an outline or of a loop is one of a plain scenario. -/
def HeadersApart (v : Vocabulary) : Prop :=
  ∀ keyword ∈ [v.outline, v.loop],
    ¬ keyword <+: v.scenario ∧ header? (keyword ++ [':']) v.scenario = none

instance (v : Vocabulary) : Decidable v.HeadersApart := inferInstanceAs (Decidable (∀ _ ∈ _, _))

theorem headersApart_of_mem_builtin : ∀ v ∈ builtin, v.HeadersApart := by decide +kernel

theorem HeadersApart.header?_eq_none (h : v.HeadersApart) {keyword : Text}
    (hk : keyword ∈ [v.outline, v.loop]) (rest : Text) :
    header? (keyword ++ rest) v.scenario = none := by
  obtain ⟨hlong, hclosed⟩ := h keyword hk
  refine Option.eq_none_iff_forall_ne_some.mpr fun sentence hs => ?_
  obtain ⟨closed, hsome⟩ := exists_header?_closed hlong hs
  rw [hclosed] at hsome
  cases hsome

end Vocabulary

namespace Document.Line

open Vocabulary

/-! ### Tests -/

/-- The tests that tell what a line is. -/
inductive Test
  | comment
  | tag
  | feature
  | outline
  | loop
  | plain
  /-- A scenario keyword stands at the start, but the line is no header of a block. -/
  | badHeader
  | examples
  | row
  | step
  deriving DecidableEq, Repr

namespace Test

/-- Every test, in the order in which a line is read. -/
def all : List Test :=
  [comment, tag, feature, outline, loop, plain, badHeader, examples, row, step]

theorem mem_all (t : Test) : t ∈ all := by cases t <;> decide

/-- What a test by itself takes a trimmed text for, if it applies. -/
def line? (v : Vocabulary) (text : Text) : Test → Option Line
  | comment => if text.head? = some '#' then some .comment else none
  | tag => (Tag.ofLine? text).map .tag
  | feature => (Vocabulary.header? text v.feature).map .feature
  | outline => (Vocabulary.header? text v.outline).map (.scenario .outline)
  | loop => (v.loopHeader? text).map fun (sentence, n) => .scenario (.loop n) sentence
  | plain => (Vocabulary.header? text v.scenario).map (.scenario .plain)
  | badHeader =>
    if namesScenario v text = true ∧ header? v text = none then some .badHeader else none
  | examples => (Vocabulary.header? text v.examples).map fun _ => .examples
  | row => if text.head? = some Row.bar then some (.row (Row.ofLine text)) else none
  | step => (v.stepKind? text).map fun kind => .step kind text

/-- Whether a test applies to a trimmed text. -/
def Applies (v : Vocabulary) (text : Text) (t : Test) : Prop := (t.line? v text).isSome = true

instance (v : Vocabulary) (text : Text) (t : Test) : Decidable (t.Applies v text) :=
  inferInstanceAs (Decidable (_ = true))

end Test

/-- The test that finds what a line is read as; none finds blank lines and free text. -/
def test? : Line → Option Test
  | blank | prose _ => none
  | comment => some .comment
  | tag _ => some .tag
  | feature _ => some .feature
  | scenario .outline _ => some .outline
  | scenario (.loop _) _ => some .loop
  | scenario .plain _ => some .plain
  | badHeader => some .badHeader
  | examples => some .examples
  | row _ => some .row
  | step _ _ => some .step

/-- What a trimmed text says if the tests are tried in the given order. -/
def readInOrder (v : Vocabulary) (order : List Test) (text : Text) : Line :=
  (order.findSome? (·.line? v text)).getD (.prose text)

/-! ### Headers of blocks -/

variable {v : Vocabulary} {line text : Text} {t : Test}

/-- The header of a block is found as what it is, whichever header is looked for first. -/
theorem header?_of_headsBlock (hv : v.Unambiguous) (hapart : v.HeadersApart) {kind : HeaderKind}
    {sentence : Text} (h : HeadsBlock v line sentence kind) :
    header? v (trim line) = some (kind, sentence) := by
  cases kind with
  | outline =>
      have houtline := heads_iff.mp h
      rw [header?, houtline]
      rfl
  | loop n =>
      have hloop := headsLoop_iff.mp h
      obtain ⟨rest, hline, -⟩ := hasWord_iff.mp (hasWord_of_loopHeader? hloop)
      rw [Text.trim_trim] at hline
      have houtline : Vocabulary.header? (trim line) v.outline = none := by
        rw [hline]
        exact header?_eq_none_of_not_prefix (hv.outline_loop.not_prefix_append rest)
      rw [header?, houtline, hloop]
      rfl
  | plain =>
      have hplain := heads_iff.mp h
      have hother : ∀ keyword ∈ [v.outline, v.loop], ¬ keyword <+: trim line := by
        intro keyword hk hbegins
        obtain ⟨rest, hrest⟩ := hbegins
        rw [← hrest, hapart.header?_eq_none hk] at hplain
        cases hplain
      have houtline : Vocabulary.header? (trim line) v.outline = none :=
        header?_eq_none_of_not_prefix (hother v.outline (by simp))
      have hloop : v.loopHeader? (trim line) = none := by
        rw [loopHeader?_trim]
        exact loopHeader?_eq_none_of_not_prefix (hother v.loop (by simp))
      rw [header?, houtline, hloop, hplain]
      rfl

/-- The header of a block is read as what it is. -/
theorem read_of_headsBlock (hv : v.Unambiguous) (hapart : v.HeadersApart) {kind : HeaderKind}
    {sentence : Text} (h : HeadsBlock v line sentence kind) :
    read v line = .scenario kind sentence := by
  obtain ⟨word, hw, hfeature, rest, htrim⟩ := h.exists_opener hv
  exact read_eq_iff.mpr
    (.scenario (untitled_of_opener hv hw hfeature htrim) (header?_of_headsBlock hv hapart h))

/-- A line that names a scenario keyword and is no header of a block is read as that. -/
theorem read_of_namesScenario (hv : v.Unambiguous) (hnames : namesScenario v (trim line) = true)
    (h : header? v (trim line) = none) : read v line = .badHeader := by
  obtain ⟨keyword, hk, hstands⟩ := List.any_eq_true.mp hnames
  obtain ⟨rest, htrim, -⟩ := hasKeyword_iff.mp hstands
  have hblock : keyword ∈ [v.scenario, v.outline, v.loop] := by
    simpa [or_comm, or_left_comm] using hk
  obtain ⟨hopener, hfeature⟩ := hv.of_blockKeyword hblock
  have huntitled := untitled_of_opener hv hopener hfeature htrim
  exact read_eq_iff.mpr (.badHeader huntitled h hnames)

/-! ### What a test finds -/

/-- What a line is read as is what its test finds. -/
theorem line?_of_test?_read (h : (read v line).test? = some t) :
    t.line? v (trim line) = some (read v line) := by
  have hreads := reads_read v line
  generalize read v line = l at h hreads
  cases hreads with
  | blank | prose => cases h
  | comment hhead =>
      cases h
      exact if_pos hhead
  | tag _ hlabel =>
      cases h
      rw [Test.line?, hlabel]
      rfl
  | feature _ _ hs =>
      cases h
      rw [Test.line?, hs]
      rfl
  | @scenario kind sentence _ hheader =>
      have hblock := headsBlock_of_header? hheader
      cases kind with
      | plain =>
          cases h
          rw [Test.line?, heads_iff.mp hblock]
          rfl
      | outline =>
          cases h
          rw [Test.line?, heads_iff.mp hblock]
          rfl
      | loop n =>
          cases h
          rw [Test.line?, headsLoop_iff.mp hblock]
          rfl
  | badHeader _ hnone hnames =>
      cases h
      exact if_pos ⟨hnames, hnone⟩
  | examples _ hs =>
      cases h
      rw [Test.line?, hs]
      rfl
  | row _ _ hhead =>
      cases h
      exact if_pos hhead
  | step _ _ _ hkind =>
      cases h
      rw [Test.line?, hkind]
      rfl

/-- A test that applies is that of what the line is read as, whatever the other tests say. -/
theorem test?_read_of_applies (hv : v.Unambiguous) (hapart : v.HeadersApart)
    (h : t.Applies v (trim line)) : (read v line).test? = some t := by
  obtain ⟨l, h⟩ := Option.isSome_iff_exists.mp h
  cases t with
  | comment =>
      obtain ⟨hhead, -⟩ := Option.ite_none_right_eq_some.mp h
      rw [(isComment_iff v).mp hhead]
      rfl
  | tag =>
      obtain ⟨label, hlabel, -⟩ := Option.map_eq_some_iff.mp h
      obtain ⟨label, hread⟩ := (isTag_iff v).mp ⟨label, Tag.ofLine?_trim line ▸ hlabel⟩
      rw [hread]
      rfl
  | feature =>
      obtain ⟨sentence, hs, -⟩ := Option.map_eq_some_iff.mp h
      obtain ⟨sentence, hread⟩ := (isFeature_iff hv).mp ⟨sentence, heads_iff.mpr hs⟩
      rw [hread]
      rfl
  | outline =>
      obtain ⟨sentence, hs, -⟩ := Option.map_eq_some_iff.mp h
      have hblock : HeadsBlock v line sentence .outline := heads_iff.mpr hs
      rw [read_of_headsBlock hv hapart hblock]
      rfl
  | loop =>
      obtain ⟨⟨sentence, n⟩, hs, -⟩ := Option.map_eq_some_iff.mp h
      have hblock : HeadsBlock v line sentence (.loop n) := headsLoop_iff.mpr hs
      rw [read_of_headsBlock hv hapart hblock]
      rfl
  | plain =>
      obtain ⟨sentence, hs, -⟩ := Option.map_eq_some_iff.mp h
      have hblock : HeadsBlock v line sentence .plain := heads_iff.mpr hs
      rw [read_of_headsBlock hv hapart hblock]
      rfl
  | badHeader =>
      obtain ⟨⟨hnames, hnone⟩, -⟩ := Option.ite_none_right_eq_some.mp h
      rw [read_of_namesScenario hv hnames hnone]
      rfl
  | examples =>
      obtain ⟨rest, hs, -⟩ := Option.map_eq_some_iff.mp h
      rw [(isExamples_iff hv).mp ⟨rest, heads_iff.mpr hs⟩]
      rfl
  | row =>
      obtain ⟨hhead, -⟩ := Option.ite_none_right_eq_some.mp h
      rw [(isRow_iff hv).mp hhead]
      rfl
  | step =>
      obtain ⟨kind, hkind, -⟩ := Option.map_eq_some_iff.mp h
      obtain ⟨kind, hread⟩ := (isStep_iff hv).mp ⟨kind, hkind⟩
      rw [hread]
      rfl

/-- If every test is tried, in whatever order, a line is taken for what it is read as. -/
theorem readInOrder_eq_read (hv : v.Unambiguous) (hapart : v.HeadersApart)
    (hne : trim line ≠ []) {order : List Test} (horder : ∀ t, t ∈ order) :
    readInOrder v order (trim line) = read v line := by
  unfold readInOrder
  cases hfound : order.findSome? (·.line? v (trim line)) with
  | some l =>
      obtain ⟨t, -, happly⟩ := List.exists_of_findSome?_eq_some hfound
      have htest := test?_read_of_applies hv hapart (Option.isSome_of_eq_some happly)
      rw [line?_of_test?_read htest] at happly
      exact (Option.some.inj happly).symm
  | none =>
      rw [List.findSome?_eq_none_iff] at hfound
      have hnone : (read v line).test? = none := by
        by_contra hsome
        obtain ⟨t, htest⟩ := Option.ne_none_iff_exists'.mp hsome
        have happly := line?_of_test?_read htest
        rw [hfound t (horder t)] at happly
        cases happly
      have hreads := reads_read v line
      generalize read v line = l at hnone hreads
      cases hreads with
      | blank h => exact absurd h hne
      | prose => rfl
      | @scenario kind => cases kind <;> cases hnone
      | _ => cases hnone

/-- **Exclusion.** In the built-in vocabularies at most one test applies to a trimmed line that is
not empty, the spellings of steps that stand at its start are of one kind, and what it is taken
for does not depend on the order in which the tests are tried. -/
theorem tests_exclude_each_other (hv : v ∈ builtin) (ht : Trimmed text) (hne : text ≠ []) :
    (∀ t t' : Test, t.Applies v text → t'.Applies v text → t = t') ∧
    (∀ kind, ∀ word ∈ v.spellings kind, hasWord text word = true →
      ∀ kind', ∀ word' ∈ v.spellings kind', hasWord text word' = true → kind = kind') ∧
    ∀ order : List Test, order.Perm Test.all → readInOrder v order text = read v text := by
  have hunambiguous := unambiguous_of_mem_builtin v hv
  have hapart := headersApart_of_mem_builtin v hv
  have htest : ∀ t : Test, t.Applies v text → (read v text).test? = some t := by
    intro t h
    rw [← ht.eq] at h
    exact test?_read_of_applies hunambiguous hapart h
  refine ⟨fun t t' h h' => ?_, fun kind word hword h kind' word' hword' h' => ?_,
    fun order hperm => ?_⟩
  · exact Option.some.inj ((htest t h).symm.trans (htest t' h'))
  · exact hunambiguous.kind_eq hword hword' h h'
  · have hmem : ∀ t, t ∈ order := fun t => hperm.mem_iff.mpr t.mem_all
    have hread : readInOrder v order (trim text) = read v text :=
      readInOrder_eq_read hunambiguous hapart (by rwa [ht.eq]) hmem
    rwa [ht.eq] at hread

/-- The header of a loop begins like that of a plain scenario, also if the tests are tried from
the last to the first. -/
theorem tests_exclude_each_other_boucle :
    let text := "Scénario Boucle 3 : tours".toList
    french ∈ builtin ∧ Trimmed text ∧ text ≠ [] ∧ Test.all.reverse.Perm Test.all ∧
      (∀ t : Test, t.Applies french text → t = .loop) ∧
      readInOrder french Test.all.reverse text = .scenario (.loop 3) "tours".toList := by
  intro text
  have hv : french ∈ builtin := by simp [builtin]
  have ht : Trimmed text := by decide +kernel
  have hne : text ≠ [] := by decide +kernel
  have hperm := List.reverse_perm Test.all
  have hloop : Test.loop.Applies french text := by decide +kernel
  obtain ⟨hunique, -, horder⟩ := tests_exclude_each_other hv ht hne
  refine ⟨hv, ht, hne, hperm, fun t h => hunique t .loop h hloop, ?_⟩
  rw [horder _ hperm]
  decide +kernel

end Document.Line

end Playbook
