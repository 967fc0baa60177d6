import Playbook.Placeholder

/-!
# Playbook.Proofs.Placeholder

What substitution does to the tokens of columns. `replaceAll` says what it should do: wherever
the token of a column stands, the cell is put in its place. `fill` cuts the text into pieces
first, and a token may begin at any opening angle bracket, so one that stands by itself takes
everything up to the next closing one for its inside, the token of a column included. Such a
token *hides* that of the column. The two agree on exactly the texts in which none is hidden.

Both are compared along the pieces of the text: a column's token stands at a piece of its own,
or at the end of one that hides it.
-/

namespace Playbook.Placeholder

/-! ### Names and tokens -/

/-- What may stand between the angle brackets of a token: something that does not begin with
white space and has no closing angle bracket. -/
structure IsInside (name : Text) : Prop where
  ne_nil : name ≠ []
  start : ∀ c ∈ name.head?, Text.isBlank c = false
  noClosing : '>' ∉ name

/-- A name that the tokens of a column can be written with. -/
structure IsColumnName (name : Text) : Prop extends IsInside name where
  noOpening : '<' ∉ name

instance (name : Text) : Decidable (IsColumnName name) :=
  decidable_of_iff (name ≠ [] ∧ name.head?.any Text.isBlank = false ∧ '>' ∉ name ∧ '<' ∉ name)
    ⟨fun ⟨hne, hstart, hclosing, hopening⟩ =>
        ⟨⟨hne, (Option.any_eq_false ..).mp hstart, hclosing⟩, hopening⟩,
      fun h => ⟨h.ne_nil, (Option.any_eq_false ..).mpr h.start, h.noClosing, h.noOpening⟩⟩

/-- The column whose token a text begins with, and the cell of it. -/
def column? (columns row : Row) (text : Text) : Option (Text × Text) :=
  (columns.zip row).find? fun entry => (written entry.1).isPrefixOf text

/-- The text with the token of every column replaced by the cell of that column, wherever it
stands. All else is kept, and the cells are not looked at again. -/
def replaceAll (columns row : Row) (text : Text) : Text :=
  match text with
  | [] => []
  | c :: rest =>
    match column? columns row (c :: rest) with
    | some (name, cell) => cell ++ replaceAll columns row (rest.drop (name.length + 1))
    | none => c :: replaceAll columns row rest
termination_by text.length
decreasing_by all_goals simp only [List.length_drop, List.length_cons]; omega

/-- A token in the text has the token of a column for its end. -/
def Hides (columns : Row) (text : Text) : Prop :=
  ∃ before outer name after, text = before ++ written (outer ++ '<' :: name) ++ after ∧
    IsInside (outer ++ '<' :: name) ∧ name ∈ columns

variable {columns row : Row} {text rest after name inside : Text} {c : Char}

/-! ### Cutting at tokens -/

theorem upToClose?_append (h : '>' ∉ inside) (rest : Text) :
    upToClose? (inside ++ '>' :: rest) = some (inside, rest) := by
  induction inside with
  | nil => rfl
  | cons c inside ih =>
      rw [List.mem_cons, not_or] at h
      rw [List.cons_append, upToClose?, if_neg (Ne.symm h.1), ih h.2]
      rfl

/-- Texts that are equal are cut alike at the first closing angle bracket. -/
theorem eq_and_eq_of_append_close {first first' rest' : Text} (h : '>' ∉ first)
    (h' : '>' ∉ first') (heq : first ++ '>' :: rest = first' ++ '>' :: rest') :
    first = first' ∧ rest = rest' := by
  have hcut := upToClose?_append h rest
  rw [heq, upToClose?_append h'] at hcut
  cases hcut
  exact ⟨rfl, rfl⟩

theorem not_mem_of_upToClose? (h : upToClose? text = some (inside, rest)) : '>' ∉ inside := by
  induction text generalizing inside with
  | nil => cases h
  | cons c text ih =>
      rw [upToClose?] at h
      split at h
      · cases h
        exact List.not_mem_nil
      · rename_i hc
        obtain ⟨⟨tail, after⟩, htail, heq⟩ := Option.map_eq_some_iff.mp h
        cases heq
        rw [List.mem_cons, not_or]
        exact ⟨Ne.symm hc, ih htail⟩

/-- A text begins with a token if an inside stands between angle brackets. -/
theorem token?_eq_some_iff :
    token? text = some (name, rest) ↔ IsInside name ∧ text = written name ++ rest := by
  constructor
  · intro h
    refine ⟨?_, eq_written_append_of_token? h⟩
    unfold token? at h
    split at h
    · rename_i c tail
      split at h
      · cases h
      · rename_i hc
        obtain ⟨⟨inside, after⟩, hinside, heq⟩ := Option.map_eq_some_iff.mp h
        cases heq
        simp only [Bool.or_eq_true, decide_eq_true_eq, not_or, Bool.not_eq_true] at hc
        refine ⟨List.cons_ne_nil _ _, fun a ha => ?_, ?_⟩
        · cases ha
          exact hc.2
        · rw [List.mem_cons, not_or]
          exact ⟨Ne.symm hc.1, not_mem_of_upToClose? hinside⟩
    · cases h
  · intro ⟨h, htext⟩
    obtain ⟨c, inside, rfl⟩ := List.exists_cons_of_ne_nil h.ne_nil
    have hclosing := h.noClosing
    rw [List.mem_cons, not_or] at hclosing
    have hc : (c = '>' || Text.isBlank c) = false := by
      simp [Ne.symm hclosing.1, h.start c rfl]
    have hsplit : text = '<' :: c :: (inside ++ '>' :: rest) := by simp [htext, written]
    rw [hsplit, token?, hc, upToClose?_append hclosing.2]
    rfl

theorem token?_written (h : IsInside name) (rest : Text) :
    token? (written name ++ rest) = some (name, rest) :=
  token?_eq_some_iff.mpr ⟨h, rfl⟩

/-- Texts that begin with tokens begin with the same one only if the insides are the same. -/
theorem written_prefix_iff (hname : '>' ∉ name) (hinside : '>' ∉ inside) (rest : Text) :
    written name <+: written inside ++ rest ↔ name = inside := by
  constructor
  · intro ⟨after, hafter⟩
    have hsplit : name ++ '>' :: after = inside ++ '>' :: rest := by
      simpa [written] using hafter
    exact (eq_and_eq_of_append_close hname hinside hsplit).1
  · rintro rfl
    exact List.prefix_append _ _

/-! ### Pieces -/

theorem pieces_written (h : IsInside name) (rest : Text) :
    pieces (written name ++ rest) = .token name :: pieces rest := by
  have htoken := token?_written h rest
  have hsplit : written name ++ rest = '<' :: (name ++ '>' :: rest) := by simp [written]
  rw [hsplit] at htoken ⊢
  rw [pieces]
  split
  · rename_i found after hfound
    rw [htoken] at hfound
    cases hfound
    rfl
  · rename_i hnone
    rw [htoken] at hnone
    cases hnone

theorem pieces_cons (h : token? (c :: rest) = none) :
    pieces (c :: rest) = .char c :: pieces rest := by
  rw [pieces]
  split
  · rename_i found after hfound
    rw [h] at hfound
    cases hfound
  · rfl

/-- A text is empty, begins with a token, or begins with a character that begins none. -/
theorem pieceInduction {motive : Text → Prop} (nil : motive [])
    (token : ∀ name after, IsInside name → motive after → motive (written name ++ after))
    (char : ∀ c rest, token? (c :: rest) = none → motive rest → motive (c :: rest))
    (text : Text) : motive text := by
  induction text using pieces.induct with
  | case1 => exact nil
  | case2 c rest name after h ih =>
      obtain ⟨hinside, htext⟩ := token?_eq_some_iff.mp h
      rw [htext]
      exact token name after hinside ih
  | case3 c rest h ih => exact char c rest h ih

theorem fill_written (h : IsInside name) (rest : Text) :
    fill columns row (written name ++ rest) =
      (cell? columns row name).getD (written name) ++ fill columns row rest := by
  rw [fill, pieces_written h, List.flatMap_cons]
  rfl

theorem fill_cons (h : token? (c :: rest) = none) :
    fill columns row (c :: rest) = c :: fill columns row rest := by
  rw [fill, pieces_cons h, List.flatMap_cons]
  rfl

/-! ### Cells -/

theorem cell?_eq_none (h : name ∉ columns) (row : Row) : cell? columns row name = none := by
  rw [cell?, List.lookup_eq_none_iff]
  intro entry hentry
  have hmem : entry.1 ∈ columns := (List.of_mem_zip hentry).1
  have hne : name ≠ entry.1 := fun he => h (he ▸ hmem)
  simpa using hne

/-- The cells of a row that is empty throughout. -/
theorem cell?_replicate (h : name ∈ columns) :
    cell? columns (List.replicate columns.length []) name = some [] := by
  induction columns with
  | nil => cases h
  | cons column columns ih =>
      rw [cell?, List.length_cons, List.replicate_succ, List.zip_cons_cons, List.lookup_cons]
      split
      · rfl
      · rename_i hne
        exact ih ((List.mem_cons.mp h).resolve_left (by simpa using hne))

/-! ### Replacing every token -/

section

variable (hcolumns : ∀ name ∈ columns, IsColumnName name)

include hcolumns

/-- Which column's token a text begins with is told by the inside of the token it begins with. -/
theorem column?_written (h : '>' ∉ inside) (rest : Text) :
    column? columns row (written inside ++ rest) = (cell? columns row inside).map (inside, ·) := by
  have hentries : ∀ entry ∈ columns.zip row, '>' ∉ entry.1 := fun entry hentry =>
    (hcolumns entry.1 (List.of_mem_zip hentry).1).noClosing
  rw [column?, cell?]
  generalize columns.zip row = entries at hentries
  induction entries with
  | nil => rfl
  | cons entry entries ih =>
      obtain ⟨name, cell⟩ := entry
      obtain ⟨hentry, hrest⟩ := List.forall_mem_cons.mp hentries
      have hprefix : (written name).isPrefixOf (written inside ++ rest) = (inside == name) := by
        rw [Bool.eq_iff_iff, List.isPrefixOf_iff_prefix, written_prefix_iff hentry h, beq_iff_eq,
          eq_comm]
      rw [List.find?_cons, List.lookup_cons, hprefix]
      cases hname : inside == name with
      | true => simp [beq_iff_eq.mp hname]
      | false => exact ih hrest

theorem column?_eq_none (h : token? (c :: rest) = none) (row : Row) :
    column? columns row (c :: rest) = none := by
  rw [column?, List.find?_eq_none]
  intro entry hentry hprefix
  have hname := hcolumns entry.1 (List.of_mem_zip hentry).1
  obtain ⟨after, hafter⟩ := List.isPrefixOf_iff_prefix.mp hprefix
  rw [← hafter, token?_written hname.toIsInside] at h
  cases h

theorem replaceAll_cons (h : token? (c :: rest) = none) (row : Row) :
    replaceAll columns row (c :: rest) = c :: replaceAll columns row rest := by
  rw [replaceAll, column?_eq_none hcolumns h row]

/-- The token of a column is replaced. -/
theorem replaceAll_written {cell : Text} (h : '>' ∉ inside)
    (hcell : cell? columns row inside = some cell) (rest : Text) :
    replaceAll columns row (written inside ++ rest) = cell ++ replaceAll columns row rest := by
  have hcolumn : column? columns row (written inside ++ rest) = _ :=
    column?_written hcolumns h rest
  have hsplit : written inside ++ rest = '<' :: (inside ++ '>' :: rest) := by simp [written]
  rw [hsplit] at hcolumn ⊢
  rw [replaceAll, hcolumn, hcell]
  simp

/-- What is in front of a closing angle bracket is kept if no opening one in it begins the token
of a column. -/
theorem replaceAll_append {part : Text} (hpart : '>' ∉ part) (hinside : '>' ∉ inside)
    (h : ∀ tail, '<' :: tail <:+ part → cell? columns row (tail ++ inside) = none) (rest : Text) :
    replaceAll columns row (part ++ (inside ++ '>' :: rest)) =
      part ++ replaceAll columns row (inside ++ '>' :: rest) := by
  induction part with
  | nil => rfl
  | cons c part ih =>
      rw [List.mem_cons, not_or] at hpart
      have hrest := ih hpart.2 fun tail htail => h tail (htail.trans (List.suffix_cons c part))
      have hnone : column? columns row (c :: (part ++ (inside ++ '>' :: rest))) = none := by
        by_cases hc : c = '<'
        · have hsplit : c :: (part ++ (inside ++ '>' :: rest)) =
              written (part ++ inside) ++ rest := by simp [hc, written]
          have hclosing : '>' ∉ part ++ inside := by simp [hpart.2, hinside]
          rw [hsplit, column?_written hcolumns hclosing, h part (hc ▸ List.suffix_refl _),
            Option.map_none]
        · refine column?_eq_none hcolumns (Option.eq_none_iff_forall_ne_some.mpr ?_) row
          intro token htoken
          have hopening := eq_written_append_of_token? htoken
          exact hc (List.cons.inj hopening).1
      rw [List.cons_append, replaceAll, hnone, hrest, List.cons_append]

/-- Behind a token that hides the one of a column, that one is replaced. -/
theorem replaceAll_hidden {outer cell : Text} (h : IsInside (outer ++ '<' :: name))
    (hcell : cell? columns row name = some cell) (rest : Text) :
    replaceAll columns row (written (outer ++ '<' :: name) ++ rest) =
      '<' :: outer ++ cell ++ replaceAll columns row rest := by
  have hclosing := h.noClosing
  simp only [List.mem_append, List.mem_cons, not_or] at hclosing
  have hsplit : written (outer ++ '<' :: name) ++ rest =
      ('<' :: outer) ++ (('<' :: name) ++ '>' :: rest) := by simp [written]
  have hcolumn : ('<' :: name) ++ '>' :: rest = written name ++ rest := by simp [written]
  rw [hsplit, replaceAll_append hcolumns (by simp [hclosing]) (by simp [hclosing]), hcolumn,
    replaceAll_written hcolumns hclosing.2.2 hcell, List.append_assoc]
  intro tail _
  exact cell?_eq_none (fun hmem => (hcolumns _ hmem).noOpening (by simp)) row

/-- A token that has no cell and hides none of a column is kept. -/
theorem replaceAll_other (h : IsInside name) (hname : cell? columns row name = none)
    (hhides : ∀ outer inner, name = outer ++ '<' :: inner → inner ∉ columns) (rest : Text) :
    replaceAll columns row (written name ++ rest) =
      written name ++ replaceAll columns row rest := by
  have hsplit : written name ++ rest = ('<' :: name) ++ ([] ++ '>' :: rest) := by simp [written]
  have hclosing : token? ('>' :: rest) = none := rfl
  rw [hsplit, replaceAll_append hcolumns (by simp [h.noClosing]) (by simp), List.nil_append,
    replaceAll_cons hcolumns hclosing]
  · simp [written]
  · intro tail hsuffix
    obtain ⟨front, hfront⟩ := hsuffix
    rw [List.append_nil]
    cases front with
    | nil =>
        cases hfront
        exact hname
    | cons a front =>
        exact cell?_eq_none (hhides front tail (List.cons.inj hfront).2.symm) row

end

/-! ### Hidden tokens -/

/-- A token hides one in its inside, or the text behind it does. -/
theorem hides_written (h : IsInside name) (after : Text) :
    Hides columns (written name ++ after) ↔
      (∃ outer inner, name = outer ++ '<' :: inner ∧ inner ∈ columns) ∨ Hides columns after := by
  constructor
  · intro ⟨before, outer, inner, rest, hsplit, hinside, hmem⟩
    by_cases hbefore : '>' ∈ before
    · -- The first closing angle bracket is that of the token.
      obtain ⟨first, second, rfl, hfirst⟩ := List.eq_append_cons_of_mem hbefore
      have hcut : ('<' :: name) ++ '>' :: after =
          first ++ '>' :: (second ++ written (outer ++ '<' :: inner) ++ rest) := by
        simpa [written] using hsplit
      have hname : '>' ∉ '<' :: name := by simp [h.noClosing]
      obtain ⟨-, hafter⟩ := eq_and_eq_of_append_close hname hfirst hcut
      exact .inr ⟨second, outer, inner, rest, hafter, hinside, hmem⟩
    · have hcut : ('<' :: name) ++ '>' :: after =
          (before ++ '<' :: (outer ++ '<' :: inner)) ++ '>' :: rest := by
        simpa [written] using hsplit
      have hname : '>' ∉ '<' :: name := by simp [h.noClosing]
      have hother : '>' ∉ before ++ '<' :: (outer ++ '<' :: inner) := by
        simpa [hbefore] using hinside.noClosing
      obtain ⟨hwhole, -⟩ := eq_and_eq_of_append_close hname hother hcut
      cases before with
      | nil => exact .inl ⟨outer, inner, (List.cons.inj hwhole).2, hmem⟩
      | cons a before =>
          exact .inl ⟨before ++ '<' :: outer, inner, by simpa using (List.cons.inj hwhole).2, hmem⟩
  · rintro (⟨outer, inner, rfl, hmem⟩ | ⟨before, outer, inner, rest, rfl, hinside, hmem⟩)
    · exact ⟨[], outer, inner, after, rfl, h, hmem⟩
    · exact ⟨written name ++ before, outer, inner, rest, by simp, hinside, hmem⟩

theorem hides_cons (h : token? (c :: rest) = none) :
    Hides columns (c :: rest) ↔ Hides columns rest := by
  constructor
  · intro ⟨before, outer, inner, after, hsplit, hinside, hmem⟩
    cases before with
    | nil =>
        have htoken := token?_written hinside after
        rw [← List.nil_append (written _), ← hsplit, h] at htoken
        cases htoken
    | cons a before =>
        exact ⟨before, outer, inner, after, (List.cons.inj hsplit).2, hinside, hmem⟩
  · rintro ⟨before, outer, inner, after, rfl, hinside, hmem⟩
    exact ⟨c :: before, outer, inner, after, rfl, hinside, hmem⟩

/-! ### Substitution -/

section

variable (hcolumns : ∀ name ∈ columns, IsColumnName name)

include hcolumns

/-- Where no token is hidden, the tokens of all columns are replaced. -/
theorem fill_eq_replaceAll (h : ¬ Hides columns text) (row : Row) :
    fill columns row text = replaceAll columns row text := by
  induction text using pieceInduction with
  | nil => simp [fill, pieces, replaceAll]
  | token name after hname ih =>
      rw [hides_written hname, not_or] at h
      rw [fill_written hname, ih h.2]
      cases hcell : cell? columns row name with
      | some cell => rw [replaceAll_written hcolumns hname.noClosing hcell, Option.getD_some]
      | none =>
          have hhides : ∀ outer inner, name = outer ++ '<' :: inner → inner ∉ columns :=
            fun outer inner hsplit hmem => h.1 ⟨outer, inner, hsplit, hmem⟩
          rw [replaceAll_other hcolumns hname hcell hhides, Option.getD_none]
  | char c rest hnone ih =>
      rw [hides_cons hnone] at h
      rw [fill_cons hnone, replaceAll_cons hcolumns hnone, ih h]

/-- With empty cells, a text gets shorter if hidden tokens are replaced as well. -/
theorem length_replaceAll (text : Text) :
    let row := List.replicate columns.length []
    (replaceAll columns row text).length ≤ (fill columns row text).length ∧
      (Hides columns text →
        (replaceAll columns row text).length < (fill columns row text).length) := by
  intro row
  induction text using pieceInduction with
  | nil =>
      refine ⟨by simp [replaceAll], fun hhides => ?_⟩
      obtain ⟨before, outer, name, after, hsplit, -⟩ := hhides
      simp [written] at hsplit
  | token name after hname ih =>
      rw [hides_written hname, fill_written hname]
      by_cases hmem : name ∈ columns
      · have hcell : cell? columns row name = some [] := cell?_replicate hmem
        have hwhole : ¬ ∃ outer inner, name = outer ++ '<' :: inner ∧ inner ∈ columns := by
          intro hinner
          obtain ⟨outer, inner, hsplit, -⟩ := hinner
          exact (hcolumns name hmem).noOpening (by simp [hsplit])
        rw [replaceAll_written hcolumns hname.noClosing hcell, hcell]
        exact ⟨ih.1, fun hhides => ih.2 (hhides.resolve_left hwhole)⟩
      have hcell : cell? columns row name = none := cell?_eq_none hmem row
      rw [hcell, Option.getD_none]
      by_cases hhides : ∃ outer inner, name = outer ++ '<' :: inner ∧ inner ∈ columns
      · obtain ⟨outer, inner, rfl, hinner⟩ := hhides
        have hempty : cell? columns row inner = some [] := cell?_replicate hinner
        have hlt : (replaceAll columns row (written (outer ++ '<' :: inner) ++ after)).length <
            (written (outer ++ '<' :: inner) ++ fill columns row after).length := by
          have hrest := ih.1
          rw [replaceAll_hidden hcolumns hname hempty]
          simp only [written, List.append_nil, List.length_append, List.length_cons,
            List.length_nil]
          omega
        exact ⟨Nat.le_of_lt hlt, fun _ => hlt⟩
      · have hother := replaceAll_other hcolumns hname hcell
          (fun outer inner hsplit hinner => hhides ⟨outer, inner, hsplit, hinner⟩) after
        rw [hother, List.length_append, List.length_append]
        exact ⟨Nat.add_le_add_left ih.1 _, fun h =>
          Nat.add_lt_add_left (ih.2 (h.resolve_left hhides)) _⟩
  | char c rest hnone ih =>
      rw [hides_cons hnone, fill_cons hnone, replaceAll_cons hcolumns hnone, List.length_cons,
        List.length_cons]
      exact ⟨Nat.succ_le_succ ih.1, fun h => Nat.succ_lt_succ (ih.2 h)⟩

end

/-- **Substitution.** The cells of a row are put in the place of all tokens of their columns,
whatever the row, for exactly the texts in which no token of a column is hidden. An opening angle
bracket in front of such a token does no harm where white space follows it or a closing one comes
in between. -/
theorem fill_replaces_all_iff (hcolumns : ∀ name ∈ columns, IsColumnName name) (text : Text) :
    (∀ row : Row, row.length = columns.length →
      fill columns row text = replaceAll columns row text) ↔ ¬ Hides columns text := by
  constructor
  · intro h hhides
    have hlt := (length_replaceAll hcolumns text).2 hhides
    rw [h _ List.length_replicate] at hlt
    exact Nat.lt_irrefl _ hlt
  · intro h row _
    exact fill_eq_replaceAll hcolumns h row

/-- The bracket of a comparison stands by itself, and the column's token behind it is replaced. -/
theorem fill_replaces_all_iff_apart :
    let columns : Row := [['a']]
    let text := "< <a>".toList
    (∀ name ∈ columns, IsColumnName name) ∧ ¬ Hides columns text ∧
      (∀ row : Row, row.length = columns.length →
        fill columns row text = replaceAll columns row text) ∧
      replaceAll columns [['7']] text = "< 7".toList := by
  intro columns text
  have hname : IsColumnName ['a'] := by decide
  have hcolumns : ∀ name ∈ columns, IsColumnName name := List.forall_mem_singleton.mpr hname
  have hapart : ¬ Hides columns text := by
    have hsplit : text = '<' :: ' ' :: (written ['a'] ++ []) := rfl
    rw [hsplit, hides_cons rfl, hides_cons rfl, hides_written hname.toIsInside]
    simp [Hides, written, List.cons_eq_append_iff]
  exact ⟨hcolumns, hapart, (fill_replaces_all_iff hcolumns text).mpr hapart, by decide +kernel⟩

/-- The bracket of a comparison begins a token that hides the one of the column, which is kept. -/
theorem fill_hidden :
    let columns : Row := [['c']]
    let row : Row := [['1']]
    let text := "if a <b then <c>".toList
    (∀ name ∈ columns, IsColumnName name) ∧ columns.Nodup ∧ row.length = columns.length ∧
      fill columns row text = text ∧ replaceAll columns row text = "if a <b then 1".toList := by
  intro columns row text
  have hname : IsColumnName ['c'] := by decide
  exact ⟨List.forall_mem_singleton.mpr hname, by decide, rfl, by decide +kernel,
    by decide +kernel⟩

end Playbook.Placeholder
