import Playbook.Proofs.Document.Exclusion

/-!
# Playbook.Proofs.Document.LoopHeaders

Which lines are headers of loops, and what becomes of those that only begin like one.
`Reader.loopHeader_or_refused` gives the shape of a loop header down to its digits. With a
built-in vocabulary every other line that begins with the loop keyword is an error where it stands
below the feature header, whether its count is missing, no count, or larger than a count may be.

For the second half the tests that come before must fail: the keyword of loops may begin with that
of plain scenarios, so it is needed that no line begins a loop and a plain header at once
(`HeadersApart`).
-/

namespace Playbook

open Text (trim AllBlank maxCount)

namespace Vocabulary

variable {v : Vocabulary} {line sentence : Text} {n : Nat}

/-- A loop header is the loop keyword, white space, digits, maybe white space, the first colon
behind the keyword and the sentence; the number that the digits denote is not too large. -/
theorem loopHeader?_eq_some_iff_digits : v.loopHeader? line = some (sentence, n) ↔
    ∃ gap digits after rest, trim line = v.loop ++ (gap ++ digits ++ after) ++ ':' :: rest ∧
      ':' ∉ gap ++ digits ++ after ∧ gap ≠ [] ∧ AllBlank gap ∧ AllBlank after ∧
      digits ≠ [] ∧ (∀ c ∈ digits, c.isDigit) ∧ n = Nat.ofDigitChars 10 digits 0 ∧
      n ≤ maxCount ∧ sentence = trim rest := by
  rw [loopHeader?_eq_some_iff]
  constructor
  · intro h
    obtain ⟨gap, digits, after, rest, hline, hne, hgap, hafter, hcount, hs⟩ := h
    obtain ⟨hdigitsNe, hdigits, hvalue, hle⟩ := Text.count?_eq_some_iff.mp hcount
    have hcolon : ':' ∉ gap ++ digits ++ after := by
      intro hmem
      simp only [List.mem_append] at hmem
      rcases hmem with (hmem | hmem) | hmem
      · exact colon_ne_of_isBlank (hgap _ hmem) rfl
      · exact colon_ne_of_isDigit (hdigits _ hmem) rfl
      · exact colon_ne_of_isBlank (hafter _ hmem) rfl
    exact ⟨gap, digits, after, rest, by simp [hline], hcolon, hne, hgap, hafter, hdigitsNe,
      hdigits, hvalue, hle, hs⟩
  · intro h
    obtain ⟨gap, digits, after, rest, hline, -, hne, hgap, hafter, hdigitsNe, hdigits, hvalue,
      hle, hs⟩ := h
    exact ⟨gap, digits, after, rest, by simp [hline], hne, hgap, hafter,
      Text.count?_eq_some_iff.mpr ⟨hdigitsNe, hdigits, hvalue, hle⟩, hs⟩

end Vocabulary

namespace Document

open Vocabulary

variable {v : Vocabulary} {path word line : Text} {d : Draft} {before after : List Text}

/-- A line that begins with the loop keyword and is no loop header is no header at all. -/
theorem Line.read_eq_badHeader (hv : v.Unambiguous) (hapart : v.HeadersApart)
    (hkeyword : hasKeyword (trim line) v.loop = true) (hnone : v.loopHeader? line = none) :
    Line.read v line = .badHeader := by
  obtain ⟨rest, hline, -⟩ := hasKeyword_iff.mp hkeyword
  have houtline : Vocabulary.header? (trim line) v.outline = none := by
    rw [hline]
    exact header?_eq_none_of_not_prefix (hv.outline_loop.not_prefix_append rest)
  have hplain : Vocabulary.header? (trim line) v.scenario = none := by
    rw [hline]
    exact hapart.header?_eq_none (by simp) rest
  have hloop : v.loopHeader? (trim line) = none := by rw [loopHeader?_trim, hnone]
  have hheader : Line.header? v (trim line) = none := by
    rw [Line.header?, houtline, hloop, hplain]
    rfl
  have hnames : Line.namesScenario v (trim line) = true :=
    List.any_eq_true.mpr ⟨v.loop, by simp, hkeyword⟩
  exact Line.read_of_namesScenario hv hnames hheader

namespace Draft

/-- Below a line that is the feature header there is one. -/
theorem heading_ne_none_of_mem (hv : v.Unambiguous)
    (hall : start.takeAll path word (before.map (Line.read v)) = .ok d)
    (hfeature : ∃ header ∈ before, IsFeature v header) : d.heading ≠ none := by
  obtain ⟨header, hmem, hheader⟩ := hfeature
  obtain ⟨above, below, rfl⟩ := List.append_of_mem hmem
  obtain ⟨sentence, hread⟩ := (isFeature_iff hv).mp hheader
  rw [List.map_append, List.map_cons, hread, takeAll_append_eq_ok_iff] at hall
  obtain ⟨reached, -, hbelow⟩ := hall
  obtain ⟨titled, htakes, hrest⟩ := takeAll_cons_eq_ok_iff.mp hbelow
  refine heading_ne_none_of_takeAll ?_ hrest
  cases htakes with
  | feature _ _ => exact Option.some_ne_none _

end Draft

end Document

open Document

namespace Reader

variable {κ : Type} {r : Reader κ} {line text : Text} {before after : List Text} {d : Draft}

/-- A bad header below the feature header is blamed if everything above it can be taken. -/
theorem read_of_badHeader (hlines : Text.lines (Text.withoutMark text) = before ++ line :: after)
    (hall : Draft.start.takeAll r.path r.vocabulary.examples
      (before.map (Line.read r.vocabulary)) = .ok d)
    (hheading : d.heading ≠ none) (hread : Line.read r.vocabulary line = .badHeader) :
    r.read text = .error (.malformed r.path ⟨before.length + 1, .badHeader⟩) := by
  have hcount : d.line = before.length := by
    rw [Draft.line_eq_of_takeAll hall, List.length_map]
    exact Nat.zero_add _
  have hrefuses : d.Refuses r.vocabulary.examples .badHeader ⟨before.length + 1, .badHeader⟩ := by
    rw [← hcount]
    exact .badHeader hheading
  refine read_eq_error_iff.mpr ⟨_, rfl, .inl ⟨_, _, after.map (Line.read r.vocabulary), d, ?_,
    hall, hrefuses⟩⟩
  rw [lines, hlines, List.map_append, List.map_cons, hread]

/-- **Loop headers.** A line is a loop header exactly if it is made of the loop keyword, white
space, a count in digits, maybe white space, a colon and the sentence. With a built-in vocabulary
every other line that begins with the loop keyword as a whole word is a bad header: if the lines
above it can be taken and the feature header is among them, the reading fails at this line. -/
theorem loopHeader_or_refused (v : Vocabulary) (line : Text) :
    (∀ sentence n, v.loopHeader? line = some (sentence, n) ↔
      ∃ gap digits after rest, trim line = v.loop ++ (gap ++ digits ++ after) ++ ':' :: rest ∧
        ':' ∉ gap ++ digits ++ after ∧ gap ≠ [] ∧ AllBlank gap ∧ AllBlank after ∧
        digits ≠ [] ∧ (∀ c ∈ digits, c.isDigit) ∧ n = Nat.ofDigitChars 10 digits 0 ∧
        n ≤ maxCount ∧ sentence = trim rest) ∧
    (v ∈ Vocabulary.builtin → v.loopHeader? line = none →
      (∃ rest, trim line = v.loop ++ rest ∧
        (rest.head? = some ':' ∨ Text.endsWord rest = true)) →
      Line.read v line = .badHeader ∧
        ∀ (r : Reader κ) (text : Text) (before after : List Text) (d : Draft),
          r.vocabulary = v → Text.lines (Text.withoutMark text) = before ++ line :: after →
          Draft.start.takeAll r.path v.examples (before.map (Line.read v)) = .ok d →
          (∃ header ∈ before, IsFeature v header) →
          r.read text = .error (.malformed r.path ⟨before.length + 1, .badHeader⟩)) := by
  refine ⟨fun sentence n => Vocabulary.loopHeader?_eq_some_iff_digits, ?_⟩
  intro hv hnone hkeyword
  have hunambiguous := Vocabulary.unambiguous_of_mem_builtin v hv
  have hread := Line.read_eq_badHeader hunambiguous (Vocabulary.headersApart_of_mem_builtin v hv)
    (Vocabulary.hasKeyword_iff.mpr hkeyword) hnone
  refine ⟨hread, ?_⟩
  intro r text before after d hr hlines hall hfeature
  subst hr
  exact read_of_badHeader hlines hall (Draft.heading_ne_none_of_mem hunambiguous hall hfeature)
    hread

/-- A count with leading zeros is as large as it may be, and one more makes no header; the tag
above it does not matter. -/
theorem loopHeader_or_refused_limit :
    let v := Vocabulary.english
    let line := "Scenario Loop 18446744073709551616: more".toList
    let r : Reader Unit := ⟨(), ['p'], 1, v⟩
    v.loopHeader? "  Scenario Loop\t018446744073709551615 : a:b".toList =
        some ("a:b".toList, maxCount) ∧
      v ∈ Vocabulary.builtin ∧ v.loopHeader? line = none ∧
      Line.read v line = .badHeader ∧
      r.read ("Feature: f\n@t\n".toList ++ line ++ "\nScenario: s".toList) =
        .error (.malformed ['p'] ⟨3, .badHeader⟩) := by
  intro v line r
  have hv : v ∈ Vocabulary.builtin := by simp [v, Vocabulary.builtin]
  have hnone : v.loopHeader? line = none := by decide +kernel
  have hword : ∃ rest, trim line = v.loop ++ rest ∧
      (rest.head? = some ':' ∨ Text.endsWord rest = true) :=
    ⟨" 18446744073709551616: more".toList, by decide +kernel, .inr (by decide)⟩
  obtain ⟨hlimit, -⟩ := loopHeader_or_refused (κ := Unit) v
    "  Scenario Loop\t018446744073709551615 : a:b".toList
  obtain ⟨-, hrefused⟩ := loopHeader_or_refused (κ := Unit) v line
  obtain ⟨hread, hrefused⟩ := hrefused hv hnone hword
  have hsome := (hlimit "a:b".toList maxCount).mpr ⟨['\t'], "018446744073709551615".toList, [' '],
    " a:b".toList, by decide +kernel, by decide, by decide, by decide, by decide, by decide,
    by decide, by decide +kernel, Nat.le_refl _, by decide +kernel⟩
  have hlines : Text.lines (Text.withoutMark
      ("Feature: f\n@t\n".toList ++ line ++ "\nScenario: s".toList)) =
      ["Feature: f".toList, "@t".toList] ++ line :: ["Scenario: s".toList] := by decide +kernel
  have hfeature : ∃ header ∈ ["Feature: f".toList, "@t".toList], IsFeature v header :=
    ⟨_, List.mem_cons_self, "f".toList, [], " f".toList, by decide +kernel, by decide,
      by decide +kernel⟩
  have htaken : (Draft.start.takeAll r.path v.examples
      (["Feature: f".toList, "@t".toList].map (Line.read v))).toBool = true := by decide +kernel
  cases hall : Draft.start.takeAll r.path v.examples
      (["Feature: f".toList, "@t".toList].map (Line.read v)) with
  | error e =>
      rw [hall] at htaken
      cases htaken
  | ok d => exact ⟨hsome, hv, hnone, hread, hrefused r _ _ _ d rfl hlines hall hfeature⟩

end Reader

end Playbook
