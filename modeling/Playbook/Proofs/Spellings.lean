import Mathlib.Algebra.GroupWithZero.Nat
import Mathlib.Algebra.Order.BigOperators.Group.List
import Mathlib.Algebra.Order.Group.Nat
import Playbook.Proofs.Vocabulary

/-!
# Playbook.Proofs.Spellings

Which spelling gives a line its kind of step, in any vocabulary at all: spellings may begin with
one another, consist of several words and belong to several kinds.

Words that stand at the start of one line begin with one another, so the longest of them is one
text, whatever the unit of length. `Vocabulary.Decides` says which text that is and mentions no
search; what the search adds is that the last kind that owns it wins. As nothing else about the
spellings is asked, neither their order nor how often they are listed matters.
-/

namespace Playbook

/-- The position of a kind in the canonical order. -/
def StepKind.rank (kind : StepKind) : Nat := StepKind.all.idxOf kind

theorem StepKind.rank_injective : Function.Injective StepKind.rank := fun a _ h =>
  (List.idxOf_inj (StepKind.mem_all a)).mp h

/-- The length of a text in UTF-8. -/
def Text.byteCount (text : Text) : Nat := (text.map Char.utf8Size).sum

theorem Text.byteCount_le_of_prefix {first text : Text} (h : first <+: text) :
    first.byteCount ≤ text.byteCount :=
  (h.map Char.utf8Size).sublist.sum_le_sum fun _ _ => Nat.zero_le _

namespace Vocabulary

open Text (endsWord)

variable {v : Vocabulary} {line word other : Text} {kind : StepKind}

/-! ### Words at the start of a line -/

/-- The line begins with the word, and white space or nothing follows it. -/
def Begins (line word : Text) : Prop := ∃ rest, line = word ++ rest ∧ endsWord rest = true

theorem hasWord_iff_begins : hasWord line word = true ↔ Begins line word := hasWord_iff

/-- Of two words at the start of a line the shorter one begins the longer one. -/
theorem Begins.prefix_of_length_le (h : Begins line word) (hother : Begins line other)
    (hle : other.length ≤ word.length) : other <+: word := by
  obtain ⟨rest, hline, -⟩ := h
  obtain ⟨rest', hline', -⟩ := hother
  exact List.prefix_of_prefix_length_le ⟨rest', hline'.symm⟩ ⟨rest, hline.symm⟩ hle

/-- The word stands at the start of the line, and no spelling that does is longer, neither in
characters nor in bytes. -/
structure Decides (v : Vocabulary) (line word : Text) : Prop where
  begins : Begins line word
  longest : ∀ kind, ∀ other ∈ v.spellings kind, Begins line other →
    other.length ≤ word.length ∧ other.byteCount ≤ word.byteCount

/-- It is enough to count characters. -/
theorem decides_of_length_le (h : Begins line word)
    (hle : ∀ kind, ∀ other ∈ v.spellings kind, Begins line other → other.length ≤ word.length) :
    v.Decides line word := by
  refine ⟨h, fun kind other hmem hother => ⟨hle kind other hmem hother, ?_⟩⟩
  exact Text.byteCount_le_of_prefix (h.prefix_of_length_le hother (hle kind other hmem hother))

/-- One spelling at most decides a line. -/
theorem Decides.eq {kind' : StepKind} (h : v.Decides line word) (hword : word ∈ v.spellings kind)
    (hdecides : v.Decides line other) (hother : other ∈ v.spellings kind') : other = word := by
  have hle := (h.longest kind' other hother hdecides.begins).1
  have hge := (hdecides.longest kind word hword h.begins).1
  exact (h.begins.prefix_of_length_le hdecides.begins hle).eq_of_length_le hge

/-! ### The search -/

/-- The words of earlier kinds come first. -/
theorem words_pairwise (v : Vocabulary) : v.words.Pairwise fun e e' => e.1.rank ≤ e'.1.rank := by
  have hkinds : StepKind.all.Pairwise fun a b => a.rank ≤ b.rank := by decide
  refine List.pairwise_flatMap.mpr ⟨fun kind _ => ?_, hkinds.imp fun hle e he e' he' => ?_⟩
  · exact List.pairwise_map.mpr (List.pairwise_of_forall fun _ _ => Nat.le_refl _)
  · obtain ⟨_, -, rfl⟩ := List.mem_map.mp he
    obtain ⟨_, -, rfl⟩ := List.mem_map.mp he'
    exact hle

/-- The kind of a step owns the spelling that decides the line, and no later kind does. -/
theorem exists_decides_of_stepKind? (h : v.stepKind? line = some kind) :
    ∃ word ∈ v.spellings kind, v.Decides line word ∧
      ∀ later : StepKind, kind.rank < later.rank → word ∉ v.spellings later := by
  obtain ⟨⟨kind, word⟩, htop, rfl⟩ := Option.map_eq_some_iff.mp h
  have hlongest := lastLongest_of_longest htop
  have hmem : ∀ {owner other}, (owner, other) ∈ v.words.filter (fun e => hasWord line e.2) ↔
      other ∈ v.spellings owner ∧ Begins line other := by
    intro owner other
    rw [List.mem_filter, mem_words_iff, hasWord_iff_begins]
  obtain ⟨hword, hbegins⟩ := hmem.mp hlongest.mem
  refine ⟨word, hword, decides_of_length_le hbegins fun owner other hother hb => ?_, ?_⟩
  · exact hlongest.length_le _ (hmem.mpr ⟨hother, hb⟩)
  · -- Under a later kind the word would stand behind itself, where all words are shorter.
    intro later hlater howned
    have hordered := v.words_pairwise.filter fun e => hasWord line e.2
    have hin := hmem.mpr ⟨howned, hbegins⟩
    obtain ⟨before, after, hsplit, -, hafter⟩ := hlongest
    rw [hsplit] at hin hordered
    rcases List.mem_append.mp hin with hin | hin
    · have hle := (List.pairwise_append.mp hordered).2.2 _ hin _ List.mem_cons_self
      exact absurd hlater (Nat.not_lt.mpr hle)
    · rcases List.mem_cons.mp hin with heq | hin
      · rw [(Prod.mk.inj heq).1] at hlater
        exact Nat.lt_irrefl _ hlater
      · exact Nat.lt_irrefl _ (hafter (later, word) hin)

/-- A step has a kind exactly if the kind is the last one to own the spelling that decides. -/
theorem stepKind?_eq_some_iff : v.stepKind? line = some kind ↔
    ∃ word ∈ v.spellings kind, v.Decides line word ∧
      ∀ later : StepKind, kind.rank < later.rank → word ∉ v.spellings later := by
  refine ⟨exists_decides_of_stepKind?, fun h => ?_⟩
  obtain ⟨word, hword, hdecides, hlast⟩ := h
  cases hk : v.stepKind? line with
  | none =>
      have hnot := stepKind?_eq_none_iff.mp hk kind word hword
      rw [hasWord_iff_begins.mpr hdecides.begins] at hnot
      cases hnot
  | some found =>
      obtain ⟨other, hother, hdecides', hlast'⟩ := exists_decides_of_stepKind? hk
      obtain rfl := hdecides.eq hword hdecides' hother
      have hle : found.rank ≤ kind.rank := Nat.not_lt.mp fun hlt => hlast found hlt hother
      have hge : kind.rank ≤ found.rank := Nat.not_lt.mp fun hlt => hlast' kind hlt hword
      rw [StepKind.rank_injective (Nat.le_antisymm hle hge)]

/-- **Step keywords.** In every vocabulary a line is no step exactly if no spelling stands at its
start with white space or nothing behind it. Else its kind is that of the longest such spelling,
the last of its kinds in canonical order if there are several. The order in which the spellings
of a kind are listed does not matter. -/
theorem longest_spelling_decides (v : Vocabulary) (line : Text) :
    (v.stepKind? line = none ↔ ∀ kind, ∀ word ∈ v.spellings kind, ¬ Begins line word) ∧
    (∀ kind, v.stepKind? line = some kind ↔
      ∃ word ∈ v.spellings kind, v.Decides line word ∧
        ∀ later : StepKind, kind.rank < later.rank → word ∉ v.spellings later) ∧
    ∀ w : Vocabulary, (∀ kind word, word ∈ w.spellings kind ↔ word ∈ v.spellings kind) →
      w.stepKind? line = v.stepKind? line := by
  refine ⟨?_, fun kind => stepKind?_eq_some_iff, fun w hw => Option.ext fun kind => ?_⟩
  · simp only [stepKind?_eq_none_iff, ← hasWord_iff_begins, Bool.not_eq_true]
  · have hdecides : ∀ word, w.Decides line word ↔ v.Decides line word := fun word =>
      ⟨fun h => ⟨h.begins, fun kind other hmem => h.longest kind other ((hw kind other).mpr hmem)⟩,
        fun h => ⟨h.begins, fun kind other hmem => h.longest kind other ((hw kind other).mp hmem)⟩⟩
    simp only [stepKind?_eq_some_iff, hw, hdecides]

/-- A spelling that two kinds own, below a longer one that does not fit and above a shorter one
that does. -/
theorem longest_spelling_decides_shared :
    let spellings : StepKind → List Text
      | .givenStep => ["Et".toList, "Et donc".toList]
      | .whenStep => ["Et donc que".toList, "Et donc".toList]
      | .thenStep => ["Et".toList]
      | _ => []
    let v : Vocabulary := { french with spellings }
    let w : Vocabulary := { v with spellings := fun kind => (spellings kind).reverse }
    let line := "Et donc quand".toList
    (∀ kind word, word ∈ w.spellings kind ↔ word ∈ v.spellings kind) ∧
      v.Decides line "Et donc".toList ∧ v.stepKind? line = some .whenStep ∧
      w.stepKind? line = v.stepKind? line := by
  intro spellings v w line
  have hsame : ∀ kind word, word ∈ w.spellings kind ↔ word ∈ v.spellings kind := fun _ _ =>
    List.mem_reverse
  have hdecides : v.Decides line "Et donc".toList := by
    refine decides_of_length_le ⟨" quand".toList, by decide, by decide⟩ fun kind other hmem hb => ?_
    rw [← hasWord_iff_begins] at hb
    revert other
    cases kind <;> decide
  have hlast : ∀ later : StepKind, StepKind.whenStep.rank < later.rank →
      "Et donc".toList ∉ v.spellings later := by
    intro later
    cases later <;> decide
  obtain ⟨-, hkind, horder⟩ := longest_spelling_decides v line
  exact ⟨hsame, hdecides, (hkind .whenStep).mpr ⟨_, by decide, hdecides, hlast⟩, horder w hsame⟩

end Vocabulary

end Playbook
