import Mathlib.Data.List.DropRight
import Mathlib.Data.List.TakeWhile
import Playbook.Text.Basic

/-!
# Playbook.Proofs.Text

Trimming and the split into lines, as equations on lists. A text is its trimmed middle
between two pieces of white space, and it is trimmed exactly if neither end is blank;
with these two facts no later proof opens `Text.trim`.
-/

namespace Playbook.Text

/-! ### Cutting -/

section Cutting

variable {p : Char → Bool} {first rest : Text}

/-- A text is cut before the first character that does not belong to its beginning. -/
theorem takeWhile_append (h : ∀ c ∈ first, p c) (hstop : ∀ c, rest.head? = some c → p c = false) :
    (first ++ rest).takeWhile p = first := by
  rw [List.takeWhile_append_of_pos h]
  cases rest with
  | nil => exact List.append_nil first
  | cons c rest => rw [List.takeWhile_cons_of_neg (by simp [hstop c rfl]), List.append_nil]

theorem dropWhile_append (h : ∀ c ∈ first, p c) (hstop : ∀ c, rest.head? = some c → p c = false) :
    (first ++ rest).dropWhile p = rest := by
  rw [List.dropWhile_append_of_pos h]
  cases rest with
  | nil => rfl
  | cons c rest => exact List.dropWhile_cons_of_neg (by simp [hstop c rfl])

end Cutting

/-! ### Trimming -/

/-- The text has no white space at either end. -/
def Trimmed (text : Text) : Prop := trim text = text

instance (text : Text) : Decidable (Trimmed text) := inferInstanceAs (Decidable (_ = _))

theorem Trimmed.eq {text : Text} (h : Trimmed text) : trim text = text := h

/-- What is said of all characters of a text is decided along the text, and not over all
characters there are. -/
instance (p : Char → Prop) [DecidablePred p] (text : Text) : Decidable (∀ c ∈ text, p c) :=
  List.decidableBAll p text

/-- The text is nothing but white space. -/
abbrev AllBlank (text : Text) : Prop := ∀ c ∈ text, isBlank c

theorem allBlank_nil : AllBlank [] := fun _ hc => absurd hc List.not_mem_nil

theorem trimEnd_eq_rdropWhile (text : Text) : trimEnd text = text.rdropWhile isBlank := rfl

theorem trimStart_append_of_allBlank {before : Text} (h : AllBlank before) (text : Text) :
    trimStart (before ++ text) = trimStart text :=
  List.dropWhile_append_of_pos h

theorem trimEnd_append_of_allBlank {after : Text} (h : AllBlank after) (text : Text) :
    trimEnd (text ++ after) = trimEnd text := by
  have hreverse : AllBlank after.reverse := fun c hc => h c (List.mem_reverse.mp hc)
  rw [trimEnd, List.reverse_append, List.dropWhile_append_of_pos hreverse, trimEnd]

/-- A text is its trimmed middle between two pieces of white space. -/
theorem exists_append_trim (text : Text) :
    ∃ before after, text = before ++ trim text ++ after ∧ AllBlank before ∧ AllBlank after := by
  refine ⟨text.takeWhile isBlank, (trimStart text).rtakeWhile isBlank, ?_,
    fun c hc => List.mem_takeWhile_imp hc, fun c hc => List.mem_rtakeWhile_imp hc⟩
  calc text = text.takeWhile isBlank ++ trimStart text := List.takeWhile_append_dropWhile.symm
    _ = _ := by
      rw [List.append_assoc, trim, trimEnd_eq_rdropWhile, List.rdropWhile_append_rtakeWhile]

/-- What a trimmed text begins with is not blank. -/
theorem not_isBlank_of_head?_trim {text : Text} {c : Char} (h : (trim text).head? = some c) :
    isBlank c = false := by
  obtain ⟨after, hafter⟩ : trim text <+: trimStart text :=
    List.rdropWhile_prefix isBlank (trimStart text)
  have hstart : (trimStart text).head? = some c := by
    rw [← hafter, List.head?_append, h]
    rfl
  have hnot := List.head?_dropWhile_not isBlank text
  rw [show text.dropWhile isBlank = trimStart text from rfl, hstart] at hnot
  simpa using hnot

/-- What a trimmed text ends with is not blank. -/
theorem not_isBlank_of_getLast?_trim {text : Text} {c : Char}
    (h : (trim text).getLast? = some c) : isBlank c = false := by
  have hnot := List.head?_dropWhile_not isBlank (trimStart text).reverse
  rw [trim, trimEnd, List.getLast?_reverse] at h
  rw [h] at hnot
  simpa using hnot

/-- A text is trimmed exactly if neither of its ends is blank. -/
theorem trimmed_iff {text : Text} : Trimmed text ↔
    (∀ c, text.head? = some c → isBlank c = false) ∧
      ∀ c, text.getLast? = some c → isBlank c = false := by
  constructor
  · intro h
    rw [Trimmed] at h
    exact ⟨fun c hc => not_isBlank_of_head?_trim (h.symm ▸ hc),
      fun c hc => not_isBlank_of_getLast?_trim (h.symm ▸ hc)⟩
  · rintro ⟨hhead, hlast⟩
    have hstart : trimStart text = text := by
      cases text with
      | nil => rfl
      | cons c rest => simp [trimStart, hhead c rfl]
    rw [Trimmed, trim, hstart, trimEnd_eq_rdropWhile, List.rdropWhile_eq_self_iff]
    intro hne
    simp [hlast _ (List.getLast?_eq_some_getLast hne)]

/-- A text that begins with something that is not blank begins so when it is trimmed. -/
theorem head?_trim {text : Text} {c : Char} (h : text.head? = some c) (hc : isBlank c = false) :
    (trim text).head? = some c := by
  obtain ⟨before, after, htext, hbefore, hafter⟩ := exists_append_trim text
  have hnot : ∀ {blank : Text}, AllBlank blank → blank.head? ≠ some c := fun hblank hhead => by
    rw [hblank c (List.mem_of_mem_head? hhead)] at hc
    cases hc
  cases before with
  | cons b before =>
      rw [htext] at h
      have hhead : (b :: before).head? = some c := h
      exact absurd hhead (hnot hbefore)
  | nil =>
      rw [htext, List.nil_append, List.head?_append] at h
      cases hhead : (trim text).head? with
      | some a => rwa [hhead] at h
      | none =>
          rw [hhead] at h
          exact absurd h (hnot hafter)

@[simp] theorem trimmed_trim (text : Text) : Trimmed (trim text) :=
  trimmed_iff.mpr ⟨fun _ => not_isBlank_of_head?_trim, fun _ => not_isBlank_of_getLast?_trim⟩

@[simp] theorem trim_trim (text : Text) : trim (trim text) = trim text := trimmed_trim text

theorem trim_append_of_allBlank {before after : Text} (hbefore : AllBlank before)
    (hafter : AllBlank after) (text : Text) : trim (before ++ text ++ after) = trim text := by
  rw [trim, List.append_assoc, trimStart_append_of_allBlank hbefore]
  by_cases ht : AllBlank text
  · have hall : AllBlank (text ++ after) := fun c hc =>
      (List.mem_append.mp hc).elim (ht c) (hafter c)
    have hnil : ∀ {t : Text}, AllBlank t → trimStart t = [] := List.dropWhile_eq_nil_iff.mpr
    rw [hnil hall, trim, hnil ht]
  · have hsplit : trimStart (text ++ after) = trimStart text ++ after := by
      have hne : (text.dropWhile isBlank).isEmpty = false := by
        rw [List.isEmpty_eq_false_iff]
        exact fun h => ht (List.dropWhile_eq_nil_iff.mp h)
      rw [trimStart, List.dropWhile_append, hne]
      rfl
    rw [hsplit, trimEnd_append_of_allBlank hafter, trim]

/-- A text that begins and ends with something that is not blank is trimmed. -/
theorem Trimmed.append {first second : Text} (hfirst : Trimmed first) (hsecond : Trimmed second)
    (hne₁ : first ≠ []) (hne₂ : second ≠ []) (middle : Text) :
    Trimmed (first ++ middle ++ second) := by
  refine trimmed_iff.mpr ⟨fun c hc => ?_, fun c hc => ?_⟩
  · obtain ⟨a, first', rfl⟩ := List.exists_cons_of_ne_nil hne₁
    exact (trimmed_iff.mp hfirst).1 c hc
  · rw [List.getLast?_append_of_ne_nil _ hne₂] at hc
    exact (trimmed_iff.mp hsecond).2 c hc

/-! ### Numerals -/

theorem not_isBlank_of_isDigit {c : Char} (h : c.isDigit) : isBlank c = false := by
  rw [Char.isDigit_iff_toNat] at h
  have hzero : '0'.toNat = 48 := rfl
  have hnine : '9'.toNat = 57 := rfl
  simp only [isBlank, Bool.or_eq_false_iff, Bool.and_eq_false_iff, decide_eq_false_iff_not,
    beq_eq_false_iff_ne]
  omega

/-- A count is written in digits and is not larger than a count may be. -/
theorem count?_eq_some_iff {text : Text} {n : Nat} : count? text = some n ↔
    text ≠ [] ∧ (∀ c ∈ text, c.isDigit) ∧ n = Nat.ofDigitChars 10 text 0 ∧ n ≤ maxCount := by
  unfold count?
  by_cases hne : text = []
  · simp [hne]
  by_cases hdigits : ∀ c ∈ text, c.isDigit
  · have hall : text.all Char.isDigit = true := List.all_eq_true.mpr hdigits
    simp only [List.isEmpty_iff, hne, hall, Bool.or_eq_true, Bool.not_true, Bool.false_eq_true,
      or_self, if_false, Option.ite_none_right_eq_some, Option.some.injEq, ne_eq,
      not_false_eq_true, true_and]
    exact ⟨fun ⟨hle, he⟩ => ⟨hdigits, he.symm, he ▸ hle⟩,
      fun ⟨_, he, hle⟩ => ⟨he ▸ hle, he.symm⟩⟩
  · have hall : text.all Char.isDigit = false := by simpa using hdigits
    simp [hall, hdigits]

theorem isDigit_of_mem_decimal {n : Nat} {c : Char} (h : c ∈ decimal n) : c.isDigit :=
  Nat.isDigit_of_mem_toDigits (by decide) (by decide) h

/-- A numeral that is small enough is read as the number it was written for. -/
theorem count?_decimal {n : Nat} (h : n ≤ maxCount) : count? (decimal n) = some n :=
  count?_eq_some_iff.mpr ⟨Nat.toDigits_ne_nil, fun _ => isDigit_of_mem_decimal,
    Nat.ofDigitChars_ten_toDigits.symm, h⟩

theorem decimal_injective : Function.Injective decimal := by
  intro m n h
  have hvalue := congrArg (Nat.ofDigitChars 10 · 0) h
  simpa [decimal, Nat.ofDigitChars_ten_toDigits] using hvalue

theorem trimmed_of_digits {text : Text} (h : ∀ c ∈ text, c.isDigit) : Trimmed text :=
  trimmed_iff.mpr ⟨fun c hc => not_isBlank_of_isDigit (h c (List.mem_of_mem_head? hc)),
    fun c hc => not_isBlank_of_isDigit (h c (List.mem_of_mem_getLast? hc))⟩

/-! ### Lines -/

theorem newline_ne_of_not_isBlank {c : Char} (h : isBlank c = false) : '\n' ≠ c := fun he => by
  rw [← he] at h
  cases h

theorem withoutMark_eq_self {text : Text} (h : text.head? ≠ some byteOrderMark) :
    withoutMark text = text := by
  cases text with
  | nil => rfl
  | cons c rest =>
      have hc : c ≠ byteOrderMark := fun he => h (congrArg some he)
      rw [withoutMark, if_neg hc]

/-- A newline separates the pieces above it from the lines below it. -/
theorem lines_append_newline (above below : Text) :
    lines (above ++ '\n' :: below) = above.splitOn '\n' ++ lines below := by
  have hne := List.splitOn_ne_nil '\n' below
  rw [lines, lines, List.splitOn_append_cons_self, List.getLast?_append_of_ne_nil _ hne,
    List.dropLast_append_of_ne_nil hne]
  split <;> rfl

/-- A line that a newline closes. -/
theorem lines_line_newline {line : Text} (h : '\n' ∉ line) (below : Text) :
    lines (line ++ '\n' :: below) = line :: lines below := by
  rw [lines_append_newline, List.splitOn_eq_singleton h]
  rfl

/-- A line that nothing closes is one if it is not empty. -/
theorem lines_eq_singleton {line : Text} (h : '\n' ∉ line) (hne : line ≠ []) :
    lines line = [line] := by
  simp [lines, List.splitOn_eq_singleton h, hne]

/-- Lines are cut where a line begins. -/
theorem lines_append {above : Text} (h : above = [] ∨ above.getLast? = some '\n')
    (below : Text) : lines (above ++ below) = lines above ++ lines below := by
  rcases h with rfl | h
  · rfl
  · obtain ⟨first, rfl⟩ := List.getLast?_eq_some_iff.mp h
    rw [List.append_assoc, List.singleton_append, lines_append_newline, lines_append_newline]
    exact congrArg (· ++ lines below) (List.append_nil _).symm

/-- A text is a line without newlines, or such a line, a newline and another text. -/
theorem lineInduction {motive : Text → Prop} (last : ∀ line, '\n' ∉ line → motive line)
    (newline : ∀ line below, '\n' ∉ line → motive below → motive (line ++ '\n' :: below))
    (text : Text) : motive text := by
  induction hn : text.length using Nat.strong_induction_on generalizing text with
  | _ n ih =>
      by_cases hmem : '\n' ∈ text
      · obtain ⟨line, below, rfl, hline⟩ := List.eq_append_cons_of_mem hmem
        refine newline line below hline (ih below.length ?_ below rfl)
        rw [← hn, List.length_append, List.length_cons]
        omega
      · exact last text hmem

/-- The first line begins with what the text begins with, unless that is a newline. -/
theorem head?_lines {c : Char} (hc : c ≠ '\n') (text : Text) :
    (lines text).head?.bind List.head? = some c ↔ text.head? = some c := by
  -- An empty piece at the end is the first one only if it is the only one.
  have hpieces : ∀ pieces : List Text,
      (if pieces.getLast? = some [] then pieces.dropLast else pieces).head?.bind List.head? =
        pieces.head?.bind List.head? := by
    intro pieces
    match pieces with
    | [] => rfl
    | [piece] => cases piece <;> simp
    | piece :: next :: rest => split <;> rfl
  rw [lines, hpieces]
  cases text with
  | nil => simp
  | cons a text =>
      obtain ⟨piece, rest, hsplit⟩ := List.exists_cons_of_ne_nil (List.splitOn_ne_nil '\n' text)
      rw [List.splitOn_cons_eq_if_modifyHead, hsplit]
      by_cases ha : a = '\n'
      · simp [ha, Ne.symm hc]
      · simp [ha]

/-- A separator is in none of the pieces that it separates. -/
theorem not_mem_of_mem_splitOn {separator : Char} (text : Text) :
    ∀ piece ∈ text.splitOn separator, separator ∉ piece := by
  induction text with
  | nil =>
      rw [List.splitOn_nil]
      exact List.forall_mem_singleton.mpr List.not_mem_nil
  | cons c text ih =>
      obtain ⟨first, others, hsplit⟩ :=
        List.exists_cons_of_ne_nil (List.splitOn_ne_nil separator text)
      rw [hsplit] at ih
      rw [List.splitOn_cons_eq_if_modifyHead, hsplit]
      split
      · exact List.forall_mem_cons.mpr ⟨List.not_mem_nil, ih⟩
      · rename_i hc
        obtain ⟨hfirst, hothers⟩ := List.forall_mem_cons.mp ih
        refine List.forall_mem_cons.mpr ⟨fun hmem => ?_, hothers⟩
        rcases List.mem_cons.mp hmem with rfl | hmem
        · exact hc (beq_self_eq_true _)
        · exact hfirst hmem

/-- A character that is in no piece and is no separator is not in what they make. -/
theorem not_mem_intercalate {c separator : Char} {pieces : List Text} (hne : c ≠ separator)
    (h : ∀ piece ∈ pieces, c ∉ piece) : c ∉ [separator].intercalate pieces := by
  induction pieces with
  | nil => exact List.not_mem_nil
  | cons piece rest ih =>
      obtain ⟨hpiece, hrest⟩ := List.forall_mem_cons.mp h
      cases rest with
      | nil => rwa [List.intercalate_singleton]
      | cons next rest =>
          rw [List.intercalate_cons_cons]
          simp [hne, hpiece, ih hrest]

/-- Texts as the lines of one text, each closed by a newline. -/
def ofLines (lines : List Text) : Text := lines.flatMap fun line => line ++ ['\n']

/-- Lines without newlines are read back from the text they make. -/
theorem lines_ofLines {ls : List Text} (h : ∀ line ∈ ls, '\n' ∉ line) :
    lines (ofLines ls) = ls := by
  induction ls with
  | nil => rfl
  | cons line rest ih =>
      obtain ⟨hline, hrest⟩ := List.forall_mem_cons.mp h
      rw [ofLines, List.flatMap_cons, List.append_assoc, List.singleton_append,
        lines_line_newline hline]
      exact congrArg (line :: ·) (ih hrest)

end Playbook.Text
