import Playbook.Proofs.Text
import Playbook.Tag

/-!
# Playbook.Proofs.Tag

Reading a tag, and reading back a tag that was written. `Tag.Opens` is the grammar of tags: it
says which tag a text begins with, and mentions no reader. A tag can be written if its name is a
name and its argument ends where it is read to end; these are exactly the tags that occur.
-/

namespace Playbook.Tag

open Text (isBlank trim Trimmed)

variable {line : Text} {label : Tag}

/-- The tag can be written: its name is one, and its argument can be told from the
parenthesis that ends it. -/
structure WellFormed (label : Tag) : Prop where
  name_ne_nil : label.name ≠ []
  name : ∀ c ∈ label.name, isNameChar c
  argument : ∀ a ∈ label.argument, ')' ∉ a

instance (label : Tag) : Decidable label.WellFormed :=
  decidable_of_iff (label.name ≠ [] ∧ (∀ c ∈ label.name, isNameChar c) ∧
      ∀ a ∈ label.argument, ')' ∉ a)
    ⟨fun ⟨hne, hn, ha⟩ => ⟨hne, hn, ha⟩, fun ⟨hne, hn, ha⟩ => ⟨hne, hn, ha⟩⟩

theorem ofLine?_trim (line : Text) : ofLine? (trim line) = ofLine? line := by
  unfold ofLine?
  rw [Text.trim_trim]

theorem head?_of_ofLine? (h : ofLine? line = some label) : (trim line).head? = some '@' := by
  unfold ofLine? at h
  split at h
  · rename_i rest hline
    rw [hline]
    rfl
  · cases h

/-- A line of another beginning holds no tag. -/
theorem ofLine?_eq_none (ht : Trimmed line) (h : line.head? ≠ some '@') : ofLine? line = none := by
  by_contra hne
  obtain ⟨label, hl⟩ := Option.ne_none_iff_exists'.mp hne
  have hhead := head?_of_ofLine? hl
  rw [ht.eq] at hhead
  exact h hhead

/-! ### The grammar -/

theorem isNameChar_iff {c : Char} : isNameChar c = true ↔ isBlank c = false ∧ c ≠ '(' := by
  simp [isNameChar]

/-- An argument stands between an opening parenthesis at the start and the first closing
one. -/
theorem argument?_eq_some_iff {rest a : Text} :
    argument? rest = some a ↔ ∃ after, rest = '(' :: a ++ ')' :: after ∧ ')' ∉ a := by
  have hcut : ∀ {a : Text} (after : Text), ')' ∉ a →
      (a ++ ')' :: after).takeWhile (fun c => decide (c ≠ ')')) = a := by
    intro a after hnot
    refine Text.takeWhile_append (fun c hc => ?_) (fun c hc => ?_)
    · exact decide_eq_true fun he => hnot (he ▸ hc)
    · cases hc
      rfl
  constructor
  · intro h
    unfold argument? at h
    split at h
    · rename_i rest
      obtain ⟨hmem, ha⟩ := Option.ite_none_right_eq_some.mp h
      obtain ⟨before, after, rfl, hnot⟩ := List.eq_append_cons_of_mem hmem
      rw [hcut after hnot, Option.some.injEq] at ha
      subst ha
      exact ⟨after, rfl, hnot⟩
    · cases h
  · intro h
    obtain ⟨after, rfl, hnot⟩ := h
    have hmem : ')' ∈ a ++ ')' :: after := by simp
    rw [List.cons_append, argument?, if_pos hmem, hcut after hnot]

/-- A tag is read off a line exactly if the line is an at sign, the name, and a rest that the
name cannot go on with and that begins with the argument. -/
theorem ofLine?_eq_some_iff : ofLine? line = some label ↔
    ∃ rest, trim line = '@' :: (label.name ++ rest) ∧ label.name ≠ [] ∧
      (∀ c ∈ label.name, isNameChar c) ∧ (∀ c, rest.head? = some c → isNameChar c = false) ∧
      label.argument = argument? rest := by
  constructor
  · intro h
    unfold ofLine? at h
    split at h
    · rename_i rest hline
      split at h
      · cases h
      · rename_i name hne
        cases h
        refine ⟨rest.dropWhile isNameChar, ?_, hne, fun c hc => List.mem_takeWhile_imp hc, ?_, rfl⟩
        · rw [hline, List.takeWhile_append_dropWhile]
        · intro c hc
          have hnot := List.head?_dropWhile_not isNameChar rest
          rw [hc] at hnot
          simpa using hnot
    · cases h
  · intro h
    obtain ⟨name, argument⟩ := label
    obtain ⟨rest, hline, hne, hname, hstop, hargument⟩ := h
    dsimp only at hline hne hname hargument
    subst hargument
    unfold ofLine?
    rw [hline]
    simp only [Text.takeWhile_append hname hstop, Text.dropWhile_append hname hstop]

/-- A tag that was read can be written. -/
theorem wellFormed_of_ofLine? (h : ofLine? line = some label) : label.WellFormed := by
  obtain ⟨rest, -, hne, hname, -, hargument⟩ := ofLine?_eq_some_iff.mp h
  refine ⟨hne, hname, fun a ha => ?_⟩
  obtain ⟨after, -, hnot⟩ := argument?_eq_some_iff.mp (hargument.symm.trans ha)
  exact hnot

/-! ### Written tags -/

/-- An argument as it is written behind the name. -/
def argumentText : Option Text → Text
  | some a => '(' :: a ++ [')']
  | none => []

/-- An argument is read back from what is written for it. -/
theorem argument?_argumentText {argument : Option Text}
    (h : ∀ a ∈ argument, ')' ∉ a) : argument? (argumentText argument) = argument := by
  cases argument with
  | none => rfl
  | some a => exact argument?_eq_some_iff.mpr ⟨[], rfl, h a rfl⟩

theorem render_eq (label : Tag) :
    label.render = '@' :: (label.name ++ argumentText label.argument) := by
  unfold render argumentText
  cases label.argument <;> simp

theorem trimmed_render (h : label.WellFormed) : Trimmed label.render := by
  rw [Text.trimmed_iff]
  refine ⟨fun c hc => ?_, fun c hc => ?_⟩
  · rw [render_eq] at hc
    cases hc
    decide
  · unfold render at hc
    cases ha : label.argument with
    | some a =>
        simp only [ha, List.getLast?_append, List.getLast?_singleton, Option.some_or] at hc
        cases hc
        decide
    | none =>
        rw [ha] at hc
        have hlast : label.name.getLast? = some c := by
          rwa [List.getLast?_cons_of_ne_nil h.name_ne_nil] at hc
        exact (isNameChar_iff.mp (h.name c (List.mem_of_getLast? hlast))).1

/-- A tag that is written is read as itself. -/
theorem ofLine?_render (h : label.WellFormed) : ofLine? label.render = some label := by
  have hstop : ∀ c, (argumentText label.argument).head? = some c → isNameChar c = false := by
    intro c hc
    cases ha : label.argument with
    | none => simp [ha, argumentText] at hc
    | some a =>
        rw [ha] at hc
        cases hc
        decide
  have hline : trim label.render = '@' :: (label.name ++ argumentText label.argument) := by
    rw [trimmed_render h, render_eq]
  exact ofLine?_eq_some_iff.mpr ⟨_, hline, h.name_ne_nil, h.name, hstop,
    (argument?_argumentText h.argument).symm⟩

/-! ### Both directions -/

/-- A text begins with a tag: behind an at sign stands a name that could not be longer, made of
characters that are neither white space nor an opening parenthesis, and the tag has an argument
exactly if the name is followed at once by one in parentheses. -/
def Opens (label : Tag) (text : Text) : Prop :=
  ∃ rest, text = '@' :: (label.name ++ rest) ∧ label.name ≠ [] ∧
    (∀ c ∈ label.name, isBlank c = false ∧ c ≠ '(') ∧
    (∀ c, rest.head? = some c → isBlank c = true ∨ c = '(') ∧
    ∀ a, label.argument = some a ↔ ∃ after, rest = '(' :: a ++ ')' :: after ∧ ')' ∉ a

theorem ofLine?_eq_some_iff_opens : ofLine? line = some label ↔ label.Opens (trim line) := by
  have hboundary : ∀ {c : Char}, isNameChar c = false ↔ isBlank c = true ∨ c = '(' := by
    intro c
    rw [← Bool.not_eq_true, isNameChar_iff, not_and_or, Bool.not_eq_false, not_ne_iff]
  have hargument : ∀ rest, label.argument = argument? rest ↔
      ∀ a, label.argument = some a ↔ ∃ after, rest = '(' :: a ++ ')' :: after ∧ ')' ∉ a := by
    intro rest
    simp only [← argument?_eq_some_iff]
    exact Option.ext_iff
  simp only [ofLine?_eq_some_iff, isNameChar_iff, hboundary, hargument, Opens]

/-- A line holds a tag if a character that can begin a name follows an at sign. -/
theorem exists_ofLine?_iff : (∃ label, ofLine? line = some label) ↔
    ∃ c rest, trim line = '@' :: c :: rest ∧ isBlank c = false ∧ c ≠ '(' := by
  constructor
  · intro h
    obtain ⟨⟨name, argument⟩, h⟩ := h
    obtain ⟨rest, hline, hne, hname, -, -⟩ := ofLine?_eq_some_iff.mp h
    obtain ⟨c, name, rfl⟩ := List.exists_cons_of_ne_nil hne
    exact ⟨c, name ++ rest, hline, isNameChar_iff.mp (hname c List.mem_cons_self)⟩
  · intro h
    obtain ⟨c, rest, hline, hc⟩ := h
    have hname : (c :: rest).takeWhile isNameChar = c :: rest.takeWhile isNameChar :=
      List.takeWhile_cons_of_pos (isNameChar_iff.mpr hc)
    unfold ofLine?
    rw [hline]
    simp only [hname]
    exact ⟨_, rfl⟩

/-- **Tags.** A tag is read off a line exactly as `Opens` says, and one is found whenever the line
begins with an at sign and a character of a name. What was read can be written, and the tags that
can be written are those that are read back from how they are written. -/
theorem read_as_written (line : Text) :
    (∀ label, ofLine? line = some label ↔ label.Opens (trim line)) ∧
    ((∃ label, ofLine? line = some label) ↔
      ∃ c rest, trim line = '@' :: c :: rest ∧ isBlank c = false ∧ c ≠ '(') ∧
    (∀ label, ofLine? line = some label →
      label.WellFormed ∧ ofLine? label.render = some label) ∧
    ∀ label : Tag, label.WellFormed ↔ ofLine? label.render = some label := by
  refine ⟨fun label => ofLine?_eq_some_iff_opens, exists_ofLine?_iff, fun label h => ?_,
    fun label => ⟨ofLine?_render, wellFormed_of_ofLine?⟩⟩
  have hlabel := wellFormed_of_ofLine? h
  exact ⟨hlabel, ofLine?_render hlabel⟩

/-- A closing parenthesis within a name, and an argument that ends at the first one. -/
theorem read_as_written_parentheses :
    let line := "\t@a)b(x(y) z)\u3000".toList
    let label : Tag := ⟨"a)b".toList, some "x(y".toList⟩
    ofLine? line = some label ∧ label.Opens (trim line) ∧ label.WellFormed ∧
      ofLine? label.render = some label := by
  intro line label
  have hread : ofLine? line = some label := by decide +kernel
  obtain ⟨hopens, -, hwritten, -⟩ := read_as_written line
  obtain ⟨hlabel, hback⟩ := hwritten label hread
  exact ⟨hread, (hopens label).mp hread, hlabel, hback⟩

end Playbook.Tag
