import Playbook.Proofs.Placeholder

/-!
# Playbook.Proofs.Placeholder.Tokens

The tokens of a text by themselves. `Scan` says which tokens a text has without regard to
substitution: a text is scanned from left to right, a token is taken where one stands, and the
scan goes on behind it. `tokens` reads them off the pieces of the text, and `scan_iff` says that
these are the same.

A row of cells enters a text only through what the names of its tokens stand for. Substitution and
its warnings are therefore the same for tables in which these names stand for the same cells.
-/

namespace Playbook.Placeholder

variable {columns row columns' row' : Row} {text rest after name : Text} {names : List Text}
  {c : Char}

/-! ### Tokens -/

/-- The inside of a piece that is a token. -/
def Piece.name? : Piece → Option Text
  | .char _ => none
  | .token name => some name

/-- The insides of the tokens of a text, from left to right. -/
def tokens (text : Text) : List Text := (pieces text).filterMap Piece.name?

/-- Which tokens a text has when it is scanned from left to right. Tokens do not overlap: behind
one the scan goes on after its closing angle bracket. -/
inductive Scan : Text → List Text → Prop
  | done : Scan [] []
  /-- A token stands here. -/
  | token {name after : Text} {names : List Text} (inside : IsInside name)
      (scan : Scan after names) : Scan (written name ++ after) (name :: names)
  /-- No token stands here, and a character is passed over. -/
  | pass {c : Char} {rest : Text} {names : List Text}
      (noToken : ∀ name after, IsInside name → c :: rest ≠ written name ++ after)
      (scan : Scan rest names) : Scan (c :: rest) names

theorem token?_eq_none_iff :
    token? text = none ↔ ∀ name after, IsInside name → text ≠ written name ++ after := by
  constructor
  · intro h name after hinside htext
    rw [htext, token?_written hinside] at h
    cases h
  · intro h
    refine Option.eq_none_iff_forall_ne_some.mpr fun found htoken => ?_
    obtain ⟨hinside, htext⟩ := token?_eq_some_iff.mp htoken
    exact h found.1 found.2 hinside htext

/-- Only an opening angle bracket begins a token. -/
theorem token?_eq_none_of_ne (h : c ≠ '<') (rest : Text) : token? (c :: rest) = none :=
  token?_eq_none_iff.mpr fun _ _ _ htext => h (List.cons.inj htext).1

@[simp] theorem tokens_nil : tokens [] = [] := by
  rw [tokens, pieces]
  rfl

theorem tokens_written (h : IsInside name) (rest : Text) :
    tokens (written name ++ rest) = name :: tokens rest := by
  rw [tokens, pieces_written h]
  rfl

theorem tokens_cons (h : token? (c :: rest) = none) : tokens (c :: rest) = tokens rest := by
  rw [tokens, pieces_cons h]
  rfl

theorem scan_tokens (text : Text) : Scan text (tokens text) := by
  induction text using pieceInduction with
  | nil =>
      rw [tokens_nil]
      exact .done
  | token name after hname ih =>
      rw [tokens_written hname]
      exact .token hname ih
  | char c rest hnone ih =>
      rw [tokens_cons hnone]
      exact .pass (token?_eq_none_iff.mp hnone) ih

/-- The tokens that a scan finds are those of the pieces. -/
theorem scan_iff : Scan text names ↔ tokens text = names := by
  constructor
  · intro h
    induction h with
    | done => exact tokens_nil
    | token hname _ ih => rw [tokens_written hname, ih]
    | pass hnone _ ih => rw [tokens_cons (token?_eq_none_iff.mpr hnone), ih]
  · intro h
    rw [← h]
    exact scan_tokens text

/-! ### What the names of the tokens stand for -/

theorem fill_congr (h : ∀ name ∈ tokens text, cell? columns' row' name = cell? columns row name) :
    fill columns' row' text = fill columns row text := by
  induction text using pieceInduction with
  | nil => rw [fill, fill, pieces]; rfl
  | token name after hname ih =>
      rw [tokens_written hname, List.forall_mem_cons] at h
      rw [fill_written hname, fill_written hname, h.1, ih h.2]
  | char c rest hnone ih =>
      rw [tokens_cons hnone] at h
      rw [fill_cons hnone, fill_cons hnone, ih h]

/-- The names that are missing are those of the tokens that stand for no cell. -/
theorem missing_eq_filter (columns row : Row) (text : Text) :
    missing columns row text =
      (tokens text).filter fun name => (cell? columns row name).isNone := by
  rw [missing, tokens, List.filter_filterMap]
  refine congrArg (List.filterMap · _) (funext fun piece => ?_)
  cases piece with
  | char c => rfl
  | token name =>
      rw [Piece.name?, Piece.missing?, Option.filter_some]
      cases cell? columns row name <;> rfl

theorem events_congr (h : ∀ name ∈ tokens text, cell? columns' row' name = cell? columns row name) :
    events columns' row' text = events columns row text := by
  rw [events, events, missing_eq_filter, missing_eq_filter]
  refine congrArg _ (List.filter_congr fun name hname => ?_)
  rw [h name hname]

/-! ### Warnings -/

/-- In a row that is as wide as the columns, exactly the names of columns stand for a cell. -/
theorem cell?_isSome_iff (hwidth : row.length = columns.length) :
    (cell? columns row name).isSome ↔ name ∈ columns := by
  have hlookup : ∀ entries : List (Text × Text),
      (entries.lookup name).isSome ↔ name ∈ entries.map (·.1) := by
    intro entries
    induction entries with
    | nil => simp
    | cons entry entries ih =>
        rw [List.lookup_cons, List.map_cons, List.mem_cons, ← ih]
        cases hname : name == entry.1 with
        | true => simp [eq_of_beq hname]
        | false => simp [ne_of_beq_false hname]
  rw [cell?, hlookup, List.map_fst_zip (Nat.le_of_eq hwidth.symm)]

/-- What is warned about in a text: every token whose inside is not the name of a column. -/
def warnings (columns : Row) (text : Text) : List Event :=
  ((tokens text).filter fun name => name ∉ columns).map missingEvent

/-- What is reported does not depend on the cells of the row. -/
theorem events_eq_warnings (hwidth : row.length = columns.length) (text : Text) :
    events columns row text = warnings columns text := by
  rw [events, missing_eq_filter, warnings]
  refine congrArg _ (List.filter_congr fun name _ => ?_)
  rw [← Option.not_isSome, Bool.eq_iff_iff, Bool.not_eq_true', ← Bool.not_eq_true,
    cell?_isSome_iff hwidth, decide_eq_true_iff]

theorem warnings_eq_nil_iff :
    warnings columns text = [] ↔ ∀ name ∈ tokens text, name ∈ columns := by
  simp [warnings]

/-- Tokens hide something only behind an opening angle bracket in their inside. -/
theorem not_hides_of_tokens (h : ∀ name ∈ tokens text, '<' ∉ name) : ¬ Hides columns text := by
  induction text using pieceInduction with
  | nil =>
      intro hhides
      obtain ⟨before, outer, name, after, hsplit, -⟩ := hhides
      simp [written] at hsplit
  | token name after hname ih =>
      rw [tokens_written hname, List.forall_mem_cons] at h
      rw [hides_written hname, not_or]
      refine ⟨fun hinner => ?_, ih h.2⟩
      obtain ⟨outer, inner, hsplit, -⟩ := hinner
      exact h.1 (by simp [hsplit])
  | char c rest hnone ih =>
      rw [tokens_cons hnone] at h
      rw [hides_cons hnone]
      exact ih h

/-- Where nothing is warned about, the tokens of all columns are replaced. -/
theorem fill_eq_replaceAll_of_warnings (hcolumns : ∀ name ∈ columns, IsColumnName name)
    (h : warnings columns text = []) (row : Row) :
    fill columns row text = replaceAll columns row text := by
  have hnames := warnings_eq_nil_iff.mp h
  exact fill_eq_replaceAll hcolumns
    (not_hides_of_tokens fun name hname => (hcolumns name (hnames name hname)).noOpening) row

end Playbook.Placeholder
