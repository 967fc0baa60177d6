import Mathlib.Data.List.Induction
import Playbook.Proofs.Text
import Playbook.Vocabulary

/-!
# Playbook.Proofs.Vocabulary

The recognisers of a vocabulary as statements about the shape of a line: what text a
header, a loop header or a step line is made of. Every lemma is an equivalence, so it
serves those who have a recognised line in hand and those who have written one.
-/

namespace Playbook.Vocabulary

open Text

variable {v : Vocabulary} {line keyword word sentence : Text} {n : Nat}

/-! ### Headers -/

/-- A header is a keyword, white space, a colon and the sentence. -/
theorem header?_eq_some_iff : header? line keyword = some sentence ↔
    ∃ gap rest, line = keyword ++ gap ++ ':' :: rest ∧ AllBlank gap ∧ sentence = trim rest := by
  unfold header?
  constructor
  · intro h
    cases hp : keyword.isPrefixOf? line with
    | none => simp [hp] at h
    | some after =>
        rw [hp, Option.map_some] at h
        have hline := List.isPrefixOf?_eq_some_iff_append_eq.mp hp
        have hafter : after = after.takeWhile isBlank ++ trimStart after :=
          List.takeWhile_append_dropWhile.symm
        split at h
        · rename_i rest hs
          cases h
          rw [Option.some.injEq] at hs
          refine ⟨after.takeWhile isBlank, rest, ?_, fun c hc => List.mem_takeWhile_imp hc, rfl⟩
          rw [List.append_assoc, ← hs, ← hafter, hline]
        · cases h
  · rintro ⟨gap, rest, rfl, hgap, rfl⟩
    have hp : keyword.isPrefixOf? (keyword ++ gap ++ ':' :: rest) = some (gap ++ ':' :: rest) :=
      List.isPrefixOf?_eq_some_iff_append_eq.mpr (List.append_assoc ..).symm
    have hs : trimStart (gap ++ ':' :: rest) = ':' :: rest := by
      rw [trimStart_append_of_allBlank hgap]
      rfl
    rw [hp, Option.map_some, hs]
    rfl

/-- A colon directly behind the keyword makes a header. -/
theorem header?_append_colon (keyword rest : Text) :
    header? (keyword ++ ':' :: rest) keyword = some (trim rest) :=
  header?_eq_some_iff.mpr ⟨[], rest, by rw [List.append_nil], allBlank_nil, rfl⟩

/-- A line of another beginning is no header. -/
theorem header?_eq_none_of_not_prefix (h : ¬ keyword <+: line) : header? line keyword = none := by
  by_contra hne
  obtain ⟨sentence, hs⟩ := Option.ne_none_iff_exists'.mp hne
  obtain ⟨gap, rest, rfl, -, -⟩ := header?_eq_some_iff.mp hs
  exact h ⟨gap ++ ':' :: rest, (List.append_assoc ..).symm⟩

theorem colon_ne_of_isBlank {c : Char} (h : isBlank c) : c ≠ ':' := fun he => by
  rw [he] at h
  cases h

theorem colon_ne_of_isDigit {c : Char} (h : c.isDigit) : c ≠ ':' := fun he => by
  rw [he] at h
  cases h

/-- A loop header is the loop keyword, white space, a count, maybe white space, a colon
and the sentence. -/
theorem loopHeader?_eq_some_iff : v.loopHeader? line = some (sentence, n) ↔
    ∃ gap digits after rest, trim line = v.loop ++ gap ++ digits ++ after ++ ':' :: rest ∧
      gap ≠ [] ∧ AllBlank gap ∧ AllBlank after ∧ count? digits = some n ∧
      sentence = trim rest := by
  unfold loopHeader?
  constructor
  · intro h
    split at h
    · rename_i c rest hp
      have hline := List.isPrefixOf?_eq_some_iff_append_eq.mp hp
      split at h
      · rename_i hc
        split at h
        · rename_i colon sentence' hd
          obtain ⟨count, hcount, he⟩ := Option.map_eq_some_iff.mp h
          cases he
          have hcolon : colon = ':' := by
            have hnot := List.head?_dropWhile_not (· ≠ ':') rest
            rw [hd] at hnot
            simpa using hnot
          subst hcolon
          obtain ⟨before, after, hsplit, hbefore, hafter⟩ :=
            exists_append_trim (rest.takeWhile (· ≠ ':'))
          refine ⟨c :: before, _, after, sentence', ?_, List.cons_ne_nil _ _,
            List.forall_mem_cons.mpr ⟨hc, hbefore⟩, hafter, hcount, rfl⟩
          calc trim line = v.loop ++ c :: (rest.takeWhile (· ≠ ':') ++ ':' :: sentence') := by
                rw [← hline, ← hd, List.takeWhile_append_dropWhile]
            _ = _ := by
                nth_rewrite 1 [hsplit]
                simp only [List.append_assoc, List.cons_append]
        · cases h
      · cases h
    · cases h
  · rintro ⟨gap, digits, after, rest, hline, hne, hgap, hafter, hcount, rfl⟩
    obtain ⟨c, before, rfl⟩ := List.exists_cons_of_ne_nil hne
    obtain ⟨hc, hbefore⟩ := List.forall_mem_cons.mp hgap
    have hdigits := (count?_eq_some_iff.mp hcount).2.1
    -- Neither white space nor a digit is a colon, so the count ends at the right one.
    have hcount' : ∀ x ∈ before ++ digits ++ after, decide (x ≠ ':') = true := by
      simp only [List.forall_mem_append]
      exact ⟨⟨fun x hx => decide_eq_true (colon_ne_of_isBlank (hbefore x hx)),
        fun x hx => decide_eq_true (colon_ne_of_isDigit (hdigits x hx))⟩,
        fun x hx => decide_eq_true (colon_ne_of_isBlank (hafter x hx))⟩
    have hstop : ∀ x, (':' :: rest).head? = some x → decide (x ≠ ':') = false := by
      intro x hx
      cases hx
      rfl
    have hp : v.loop.isPrefixOf? (trim line) =
        some (c :: (before ++ digits ++ after ++ ':' :: rest)) :=
      List.isPrefixOf?_eq_some_iff_append_eq.mpr (by simp [hline])
    have htrim : trim (before ++ digits ++ after) = digits := by
      rw [trim_append_of_allBlank hbefore hafter]
      exact trimmed_of_digits hdigits
    simp only [hp, hc, if_true, dropWhile_append hcount' hstop, takeWhile_append hcount' hstop,
      htrim, hcount, Option.map_some]

theorem loopHeader?_trim (v : Vocabulary) (line : Text) :
    v.loopHeader? (trim line) = v.loopHeader? line := by
  unfold loopHeader?
  rw [trim_trim]

/-! ### Words -/

/-- A word stands at the start of a line if white space or nothing follows it there. -/
theorem hasWord_iff : hasWord line word = true ↔
    ∃ rest, line = word ++ rest ∧ endsWord rest = true := by
  unfold hasWord
  constructor
  · intro h
    cases hp : word.isPrefixOf? line with
    | none => simp [hp] at h
    | some rest =>
        rw [hp] at h
        exact ⟨rest, (List.isPrefixOf?_eq_some_iff_append_eq.mp hp).symm, h⟩
  · rintro ⟨rest, rfl, hrest⟩
    rw [List.isPrefixOf?_eq_some_iff_append_eq.mpr rfl]
    exact hrest

/-- A line that is a loop header begins with the loop keyword as a whole word. -/
theorem hasWord_of_loopHeader? (h : v.loopHeader? line = some (sentence, n)) :
    hasWord (trim line) v.loop = true := by
  obtain ⟨gap, digits, after, rest, hline, hne, hgap, -, -, -⟩ := loopHeader?_eq_some_iff.mp h
  obtain ⟨c, gap, rfl⟩ := List.exists_cons_of_ne_nil hne
  refine hasWord_iff.mpr ⟨c :: gap ++ digits ++ after ++ ':' :: rest, ?_, hgap c List.mem_cons_self⟩
  simp only [hline, List.append_assoc]

/-- A line of another beginning is no loop header. -/
theorem loopHeader?_eq_none_of_not_prefix (h : ¬ v.loop <+: trim line) :
    v.loopHeader? line = none := by
  by_contra hne
  obtain ⟨⟨sentence, n⟩, hs⟩ := Option.ne_none_iff_exists'.mp hne
  obtain ⟨rest, hline, -⟩ := hasWord_iff.mp (hasWord_of_loopHeader? hs)
  exact h ⟨rest, hline.symm⟩

/-- A keyword stands at the start of a line as a whole word if a colon, white space or
nothing follows it there. -/
theorem hasKeyword_iff : hasKeyword line keyword = true ↔
    ∃ rest, line = keyword ++ rest ∧ (rest.head? = some ':' ∨ endsWord rest = true) := by
  unfold hasKeyword
  constructor
  · intro h
    cases hp : keyword.isPrefixOf? line with
    | none => simp [hp] at h
    | some rest =>
        refine ⟨rest, (List.isPrefixOf?_eq_some_iff_append_eq.mp hp).symm, ?_⟩
        rw [hp] at h
        cases rest with
        | nil => exact .inr rfl
        | cons c rest =>
            by_cases hc : c = ':'
            · exact .inl (by rw [hc]; rfl)
            · exact .inr (by simpa [hc] using h)
  · rintro ⟨rest, rfl, hrest⟩
    rw [List.isPrefixOf?_eq_some_iff_append_eq.mpr rfl]
    cases rest with
    | nil => rfl
    | cons c rest =>
        by_cases hc : c = ':'
        · simp [hc]
        · have hblank : isBlank c = true := by simpa [hc] using hrest
          simp [hc, hblank]

/-- A line that is a header for a keyword begins with it as a whole word. -/
theorem hasKeyword_of_header? (h : header? line keyword = some sentence) :
    hasKeyword line keyword = true := by
  obtain ⟨gap, rest, rfl, hgap, -⟩ := header?_eq_some_iff.mp h
  refine hasKeyword_iff.mpr ⟨gap ++ ':' :: rest, List.append_assoc .., ?_⟩
  cases gap with
  | nil => exact .inl rfl
  | cons c gap => exact .inr (hgap c List.mem_cons_self)

/-- A line of another beginning does not name the keyword. -/
theorem hasKeyword_eq_false_of_not_prefix (h : ¬ keyword <+: line) :
    hasKeyword line keyword = false := by
  by_contra hne
  rw [Bool.not_eq_false] at hne
  obtain ⟨rest, rfl, -⟩ := hasKeyword_iff.mp hne
  exact h (List.prefix_append _ _)

theorem hasKeyword_of_hasWord (h : hasWord line word = true) : hasKeyword line word = true := by
  obtain ⟨rest, hline, hrest⟩ := hasWord_iff.mp h
  exact hasKeyword_iff.mpr ⟨rest, hline, .inr hrest⟩

/-- Of two words at the start of a line one stands at the start of the other. -/
theorem hasWord_or_hasWord {a b : Text} (ha : hasWord line a = true) (hb : hasWord line b = true) :
    hasWord b a = true ∨ hasWord a b = true := by
  have hshorter : ∀ {a b r s : Text}, a ++ r = b ++ s → endsWord r = true → a <+: b →
      hasWord b a = true := by
    rintro a b r s heq hr ⟨t, rfl⟩
    rw [List.append_assoc, List.append_cancel_left_eq] at heq
    refine hasWord_iff.mpr ⟨t, rfl, ?_⟩
    cases t with
    | nil => rfl
    | cons c t => rwa [heq] at hr
  obtain ⟨r, hra, hr⟩ := hasWord_iff.mp ha
  obtain ⟨s, hsb, hs⟩ := hasWord_iff.mp hb
  have heq : a ++ r = b ++ s := hra.symm.trans hsb
  rcases List.prefix_or_prefix_of_prefix ⟨r, heq⟩ (List.prefix_append b s) with hab | hba
  · exact .inl (hshorter heq hr hab)
  · exact .inr (hshorter heq.symm hs hba)

/-! ### Step keywords -/

theorem mem_words_iff {kind : StepKind} : (kind, word) ∈ v.words ↔ word ∈ v.spellings kind := by
  simp [words, StepKind.mem_all]

theorem longest_concat (entries : List (StepKind × Text)) (entry : StepKind × Text) :
    longest (entries ++ [entry]) = longer (longest entries) entry :=
  List.foldl_concat ..

/-- Some entries have a longest one. -/
theorem longest_eq_none_iff {entries : List (StepKind × Text)} :
    longest entries = none ↔ entries = [] := by
  rcases List.eq_nil_or_concat' entries with rfl | ⟨init, entry, rfl⟩
  · exact iff_of_true rfl rfl
  · refine iff_of_false ?_ (List.append_ne_nil_of_right_ne_nil _ (List.cons_ne_nil _ _))
    rw [longest_concat]
    unfold longer
    split
    · split <;> exact Option.some_ne_none _
    · exact Option.some_ne_none _

/-- The entry is the last of the longest ones: none before it is longer, and none behind it is
as long. -/
def LastLongest (entries : List (StepKind × Text)) (top : StepKind × Text) : Prop :=
  ∃ before after, entries = before ++ top :: after ∧
    (∀ e ∈ before, e.2.length ≤ top.2.length) ∧ ∀ e ∈ after, e.2.length < top.2.length

section LastLongest

variable {entries : List (StepKind × Text)} {top : StepKind × Text}

theorem LastLongest.mem (h : LastLongest entries top) : top ∈ entries := by
  obtain ⟨before, after, rfl, -, -⟩ := h
  exact List.mem_append_cons_self

theorem LastLongest.length_le (h : LastLongest entries top) :
    ∀ e ∈ entries, e.2.length ≤ top.2.length := by
  obtain ⟨before, after, rfl, hbefore, hafter⟩ := h
  refine List.forall_mem_append.mpr ⟨hbefore, List.forall_mem_cons.mpr ⟨Nat.le_refl _, ?_⟩⟩
  exact fun e he => Nat.le_of_lt (hafter e he)

/-- The search keeps the last of the longest entries. -/
theorem lastLongest_of_longest (h : longest entries = some top) : LastLongest entries top := by
  induction entries using List.reverseRecOn generalizing top with
  | nil => cases h
  | append_singleton init entry ih =>
      rw [longest_concat] at h
      cases hbest : longest init with
      | none =>
          rw [hbest] at h
          cases h
          rw [longest_eq_none_iff.mp hbest]
          exact ⟨[], [], rfl, by simp, by simp⟩
      | some best =>
          have hinit := ih hbest
          rw [hbest, longer] at h
          split at h
          · rename_i hle
            cases h
            exact ⟨init, [], rfl, fun e he => (hinit.length_le e he).trans hle, by simp⟩
          · rename_i hlt
            cases h
            obtain ⟨before, after, rfl, hbefore, hafter⟩ := hinit
            refine ⟨before, after ++ [entry], by simp, hbefore, ?_⟩
            exact List.forall_mem_append.mpr
              ⟨hafter, List.forall_mem_singleton.mpr (Nat.lt_of_not_le hlt)⟩

end LastLongest

/-- A line is a step exactly if some spelling stands at its start as a word. -/
theorem stepKind?_eq_none_iff : v.stepKind? line = none ↔
    ∀ kind, ∀ word ∈ v.spellings kind, hasWord line word = false := by
  simp only [stepKind?, Option.map_eq_none_iff, longest_eq_none_iff, List.filter_eq_nil_iff,
    Prod.forall, mem_words_iff, Bool.not_eq_true]

/-- The kind of a step owns a spelling that stands at the start of the line. -/
theorem exists_spelling_of_stepKind? {kind : StepKind} (h : v.stepKind? line = some kind) :
    ∃ word ∈ v.spellings kind, hasWord line word = true := by
  obtain ⟨⟨kind', word⟩, htop, rfl⟩ := Option.map_eq_some_iff.mp h
  obtain ⟨hmem, hword⟩ := List.mem_filter.mp (lastLongest_of_longest htop).mem
  exact ⟨word, mem_words_iff.mp hmem, hword⟩

/-! ### Words that are told apart -/

/-- Neither of two texts begins with the other. -/
def Apart (a b : Text) : Prop := ¬ a <+: b ∧ ¬ b <+: a

instance (a b : Text) : Decidable (Apart a b) := inferInstanceAs (Decidable (_ ∧ _))

theorem Apart.symm {a b : Text} (h : Apart a b) : Apart b a := ⟨h.2, h.1⟩

/-- A line that begins with one of two words that are apart does not begin with the other. -/
theorem Apart.not_prefix_append {a b : Text} (h : Apart a b) (rest : Text) :
    ¬ a <+: b ++ rest := by
  intro ha
  rcases List.prefix_or_prefix_of_prefix ha (List.prefix_append b rest) with hab | hba
  · exact h.1 hab
  · exact h.2 hba

/-- The keywords of headers and of the examples marker. -/
def keywords (v : Vocabulary) : List Text := [v.feature, v.scenario, v.outline, v.loop, v.examples]

/-- Every word of the vocabulary that a line may begin with. -/
def openers (v : Vocabulary) : List Text := v.keywords ++ v.words.map (·.2)

/-- The characters that have a meaning of their own at the start of a line or a file. -/
def marks : List Char := ['#', '@', '|', byteOrderMark]

/-- The words of a vocabulary can be told apart at the start of a line. -/
structure Unambiguous (v : Vocabulary) : Prop where
  /-- A word fits on a line and does not begin with a mark. -/
  openers : ∀ w ∈ v.openers, w ≠ [] ∧ Trimmed w ∧ '\n' ∉ w ∧ ∀ mark ∈ marks, w.head? ≠ some mark
  feature : ∀ w ∈ [v.scenario, v.outline, v.loop, v.examples], Apart v.feature w
  examples : ∀ w ∈ [v.scenario, v.outline, v.loop], Apart v.examples w
  spellings : ∀ w ∈ v.words.map (·.2), ∀ keyword ∈ v.keywords, Apart keyword w
  outline_loop : Apart v.outline v.loop
  /-- The header of a plain scenario is neither that of an outline nor that of a loop. -/
  scenario : Apart v.outline (v.scenario ++ [':']) ∧ Apart v.loop (v.scenario ++ [':'])
  /-- Spellings of different kinds are different words. -/
  kinds : ∀ e ∈ v.words, ∀ e' ∈ v.words, hasWord e.2 e'.2 = true → e.1 = e'.1

instance (v : Vocabulary) : Decidable v.Unambiguous :=
  decidable_of_iff
    ((∀ w ∈ v.openers, w ≠ [] ∧ Trimmed w ∧ '\n' ∉ w ∧ ∀ mark ∈ marks, w.head? ≠ some mark) ∧
      (∀ w ∈ [v.scenario, v.outline, v.loop, v.examples], Apart v.feature w) ∧
      (∀ w ∈ [v.scenario, v.outline, v.loop], Apart v.examples w) ∧
      (∀ w ∈ v.words.map (·.2), ∀ keyword ∈ v.keywords, Apart keyword w) ∧
      Apart v.outline v.loop ∧
      (Apart v.outline (v.scenario ++ [':']) ∧ Apart v.loop (v.scenario ++ [':'])) ∧
      ∀ e ∈ v.words, ∀ e' ∈ v.words, hasWord e.2 e'.2 = true → e.1 = e'.1)
    ⟨fun ⟨ho, hf, he, hs, hl, hp, hk⟩ => ⟨ho, hf, he, hs, hl, hp, hk⟩,
      fun ⟨ho, hf, he, hs, hl, hp, hk⟩ => ⟨ho, hf, he, hs, hl, hp, hk⟩⟩

theorem Unambiguous.of_spelling (hv : v.Unambiguous) {kind : StepKind}
    (h : word ∈ v.spellings kind) :
    word ∈ v.openers ∧ ∀ keyword ∈ v.keywords, Apart keyword word := by
  have hmem : word ∈ v.words.map (·.2) := List.mem_map_of_mem (mem_words_iff.mpr h)
  exact ⟨List.mem_append_right _ hmem, hv.spellings word hmem⟩

/-- The keywords of blocks begin lines and are apart from that of the feature. -/
theorem Unambiguous.of_blockKeyword (hv : v.Unambiguous)
    (h : word ∈ [v.scenario, v.outline, v.loop]) : word ∈ v.openers ∧ Apart v.feature word := by
  simp only [List.mem_cons, List.not_mem_nil, or_false] at h
  refine ⟨List.mem_append_left _ ?_, hv.feature word ?_⟩
  all_goals rcases h with rfl | rfl | rfl <;> simp [keywords]

/-- The marker above examples begins a line and is apart from the keywords of all headers. -/
theorem Unambiguous.of_examples (hv : v.Unambiguous) : v.examples ∈ v.openers ∧
    ∀ keyword ∈ [v.feature, v.scenario, v.outline, v.loop], Apart keyword v.examples := by
  refine ⟨by simp [Vocabulary.openers, keywords], List.forall_mem_cons.mpr ⟨?_, ?_⟩⟩
  · exact hv.feature v.examples (by simp)
  · exact fun keyword hk => (hv.examples keyword hk).symm

/-- Spellings that stand at the start of one line are of one kind. -/
theorem Unambiguous.kind_eq (hv : v.Unambiguous) {kind kind' : StepKind} {word' : Text}
    (hmem : word ∈ v.spellings kind) (hmem' : word' ∈ v.spellings kind')
    (h : hasWord line word = true) (h' : hasWord line word' = true) : kind = kind' := by
  rw [← mem_words_iff] at hmem hmem'
  rcases hasWord_or_hasWord h h' with hword | hword
  · exact (hv.kinds _ hmem' _ hmem hword).symm
  · exact hv.kinds _ hmem _ hmem' hword

/-- A line that begins with a spelling as a whole word is a step of its kind. -/
theorem Unambiguous.stepKind?_append (hv : v.Unambiguous) {kind : StepKind} {rest : Text}
    (h : word ∈ v.spellings kind) (hrest : endsWord rest = true) :
    v.stepKind? (word ++ rest) = some kind := by
  have hword : hasWord (word ++ rest) word = true := hasWord_iff.mpr ⟨rest, rfl, hrest⟩
  cases hk : v.stepKind? (word ++ rest) with
  | none =>
      rw [stepKind?_eq_none_iff.mp hk kind word h] at hword
      cases hword
  | some kind' =>
      obtain ⟨word', h', hword'⟩ := exists_spelling_of_stepKind? hk
      exact congrArg some (hv.kind_eq h' h hword' hword)

/-- The built-in vocabularies are unambiguous. -/
theorem unambiguous_of_mem_builtin : ∀ v ∈ builtin, v.Unambiguous := by decide +kernel

end Playbook.Vocabulary
