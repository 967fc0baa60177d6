import Mathlib.Data.List.Forall2
import Playbook.Proofs.Pattern.Groups
import Playbook.Proofs.Pattern.Matching

/-!
# Playbook.Proofs.Pattern.Literal

Patterns that are meant literally. The text of such a pattern is escaped, anchored on both
sides, cut into tokens, read as an expression, made into a machine and searched for like
any other pattern; the outcome is that it is found in a sentence exactly if the two are
equal, and that it captures nothing. `Expr.exactly` is the expression on the way.
-/

namespace Playbook.Pattern

variable {text rest : Text} {c : Char}

/-! ### Tokens -/

namespace Token

/-- A character without a meaning of its own stands for itself. -/
theorem next?_of_not_meta (h : c ∉ Escape.metaChars) (rest : Text) :
    next? c rest = some (.char c, rest) := by
  unfold next?
  split <;> first | rfl | exact absurd (by decide) h

/-- An escaped character stands for itself. -/
theorem next?_backslash (h : c ∈ Escape.metaChars) (rest : Text) :
    next? '\\' (c :: rest) = some (.char c, rest) := by
  have hescapable : Escape.isEscapable c = true := by
    rw [Escape.isEscapable, decide_eq_true h, Bool.true_or]
  have hread : Escape.read? (c :: rest) = some (.char c, rest) := by
    unfold Escape.read?
    exact if_pos hescapable
  rw [next?, hread]
  rfl

theorem lex?_cons {token : Token} {after : Text} (h : next? c rest = some (token, after))
    (hle : after.length ≤ rest.length) :
    lex? (c :: rest) = (lex? after).map (token :: ·) := by
  rw [lex?]
  simp only [h, hle, dite_true]

/-- One token after the other. -/
theorem lex?_cons_eq_some {token : Token} {after : Text} {tokens : List Token}
    (h : next? c rest = some (token, after)) (hle : after.length ≤ rest.length)
    (hafter : lex? after = some tokens) : lex? (c :: rest) = some (token :: tokens) := by
  rw [lex?_cons h hle, hafter]
  rfl

theorem lex?_nil : lex? [] = some [] := by
  rw [lex?]

/-- An escaped text is cut into its characters. -/
theorem lex?_escape (text rest : Text) :
    lex? (Escape.escape text ++ rest) = (lex? rest).map (text.map .char ++ ·) := by
  induction text with
  | nil => simp [Escape.escape]
  | cons c text ih =>
      have hcons : Escape.escape (c :: text) ++ rest =
          (if c ∈ Escape.metaChars then ['\\', c] else [c]) ++ (Escape.escape text ++ rest) := by
        rw [Escape.escape, List.flatMap_cons, List.append_assoc]
        rfl
      have hmap : ((lex? rest).map (text.map Token.char ++ ·)).map (Token.char c :: ·) =
          (lex? rest).map ((c :: text).map Token.char ++ ·) := by
        cases lex? rest <;> rfl
      rw [hcons]
      by_cases h : c ∈ Escape.metaChars
      · rw [if_pos h, List.cons_append, List.cons_append, List.nil_append,
          lex?_cons (next?_backslash h _) (Nat.le_succ _), ih, hmap]
      · rw [if_neg h, List.cons_append, List.nil_append,
          lex?_cons (next?_of_not_meta h _) (Nat.le_refl _), ih, hmap]

/-- The tokens of a literal pattern. -/
theorem lex?_literal (text : Text) :
    lex? (source .builtin text .literal) = some (.lineStart :: text.map .char ++ [.lineEnd]) := by
  have hstart : next? '^' (Escape.escape text ++ ['$']) =
      some (.lineStart, Escape.escape text ++ ['$']) := rfl
  have hcut : next? '$' [] = some (.lineEnd, []) := rfl
  have hend : lex? ['$'] = some [.lineEnd] := by
    rw [lex?_cons hcut (Nat.le_refl _), lex?]
    rfl
  have hescape : source .builtin text .literal = '^' :: Escape.escape text ++ ['$'] := rfl
  rw [hescape, List.cons_append, lex?_cons hstart (Nat.le_refl _), lex?_escape, hend]
  rfl

end Token

/-! ### Expressions -/

/-- The expression that matches one text as a whole and nothing else. -/
def Expr.exactly (text : Text) : Expr :=
  sequence (assertion .textStart :: text.map char ++ [assertion .textEnd])

theorem Expr.forall_mem_exactly {motive : Expr → Prop} (text : Text)
    (hassertion : ∀ a, motive (.assertion a)) (hchar : ∀ c, motive (.char c)) :
    ∀ e ∈ Expr.assertion .textStart :: text.map Expr.char ++ [Expr.assertion .textEnd],
      motive e := by
  intro e he
  simp only [List.cons_append, List.mem_cons, List.mem_append, List.mem_map,
    List.not_mem_nil, or_false] at he
  rcases he with rfl | ⟨c, -, rfl⟩ | rfl
  · exact hassertion _
  · exact hchar c
  · exact hassertion _

namespace Syntax

/-- A part without inner structure. -/
def Part.leaf (e : Expr) : Part := ⟨e, 0, false⟩

/-- Where no flag is switched the token adds an expression without inner structure. -/
def Adds (token : Token) (e : Expr) : Prop := ∀ p : Progress, p.flags = Flags.none →
  p.take? token = some { p with parts := Part.leaf e :: p.parts }

theorem adds_lineStart : Adds .lineStart (.assertion .textStart) := by
  rintro ⟨flags, groups, names, branches, parts, stack⟩ rfl
  rfl

theorem adds_lineEnd : Adds .lineEnd (.assertion .textEnd) := by
  rintro ⟨flags, groups, names, branches, parts, stack⟩ rfl
  rfl

theorem adds_char (c : Char) : Adds (.char c) (.char c) := by
  rintro ⟨flags, groups, names, branches, parts, stack⟩ rfl
  rfl

/-- Tokens that add expressions make a sequence of them. -/
theorem foldlM_take? {tokens : List Token} {es : List Expr} (h : List.Forall₂ Adds tokens es)
    (p : Progress) (hflags : p.flags = Flags.none) :
    tokens.foldlM Progress.take? p =
      some { p with parts := (es.map Part.leaf).reverse ++ p.parts } := by
  induction h generalizing p with
  | nil => rfl
  | @cons token e tokens es hadds _ ih =>
      rw [List.foldlM_cons, hadds p hflags]
      refine (ih _ ?_).trans ?_
      · exact hflags
      · simp

theorem height_leaves (es : List Expr) : heightOver (es.map Part.leaf) ≤ 1 := by
  have hzero : ((es.map Part.leaf).map (·.height)).foldl max 0 = 0 := by
    rw [List.map_map]
    induction es with
    | nil => rfl
    | cons e es ih => exact ih
  rw [heightOver, hzero]
  split <;> decide

theorem isModest_sequence {es : List Expr} (h : ∀ e ∈ es, e.isModest) :
    (Expr.sequence es).isModest := by
  induction es with
  | nil => rfl
  | cons e es ih =>
      obtain ⟨he, hes⟩ := List.forall_mem_cons.mp h
      cases es with
      | nil => exact he
      | cons e' es => simp [Expr.sequence, Expr.isModest, he, ih hes]

/-- Tokens that add expressions denote the sequence of them. -/
theorem ofTokens?_eq {tokens : List Token} {es : List Expr} (h : List.Forall₂ Adds tokens es)
    (hmodest : ∀ e ∈ es, e.isModest) : ofTokens? tokens = some (Expr.sequence es) := by
  let whole : Progress := ⟨Flags.none, 0, [], [], (es.map Part.leaf).reverse, []⟩
  have hfold : tokens.foldlM Progress.take? Progress.start = some whole := by
    refine (foldlM_take? h Progress.start rfl).trans ?_
    simp [whole, Progress.start]
  have hexprs : (es.map Part.leaf).map (·.expr) = es := by
    rw [List.map_map]
    exact List.map_id es
  have hexpr : whole.inside.expr = Expr.sequence es := by
    simp [whole, Progress.inside, choice, sequence, Expr.choice, hexprs]
  -- A choice between one branch and a sequence of leaves adds one level at the most.
  have hheight : whole.inside.height ≤ maxHeight := by
    have hsame : whole.inside.height = heightOver (es.map Part.leaf) := by
      simp [whole, Progress.inside, choice, sequence, heightOver]
    rw [hsame]
    exact (height_leaves es).trans (by decide)
  have hstack : whole.stack = [] := rfl
  unfold ofTokens?
  rw [hfold]
  simp [hstack, hheight, hexpr, isModest_sequence hmodest]

end Syntax

/-- A literal pattern is read as the expression that matches its text. -/
theorem Expr.ofText?_literal (text : Text) :
    Expr.ofText? (source .builtin text .literal) = some (Expr.exactly text) := by
  have hadds : List.Forall₂ Syntax.Adds (.lineStart :: text.map .char ++ [.lineEnd])
      (Expr.assertion .textStart :: text.map Expr.char ++ [Expr.assertion .textEnd]) := by
    refine .cons Syntax.adds_lineStart (List.rel_append ?_ (.cons Syntax.adds_lineEnd .nil))
    rw [List.forall₂_map_left_iff, List.forall₂_map_right_iff, List.forall₂_same]
    exact fun c _ => Syntax.adds_char c
  rw [Expr.ofText?, Token.lex?_literal]
  exact Syntax.ofTokens?_eq hadds (Expr.forall_mem_exactly text (fun _ => rfl) fun _ => rfl)

/-! ### Matches -/

namespace Expr

variable {sentence : Text} {i : Nat} {e : Expr} {es : List Expr}

theorem sequence_cons (e : Expr) (h : es ≠ []) : sequence (e :: es) = cat e (sequence es) := by
  cases es with
  | nil => exact absurd rfl h
  | cons e' es => rfl

/-- Characters and an end match exactly where they are the rest of the sentence. -/
theorem matches_rest_iff :
    (∃ j passes, (sequence (text.map char ++ [assertion .textEnd])).Matches sentence i j passes) ↔
      sentence.drop i = text := by
  induction text generalizing i with
  | nil =>
      simp only [List.map_nil, List.nil_append, sequence, matches_assertion_iff, Assertion.holds,
        Option.isNone_iff_eq_none, List.getElem?_eq_none_iff, List.drop_eq_nil_iff]
      constructor
      · intro h
        obtain ⟨j, passes, hend, -⟩ := h
        exact hend
      · exact fun hend => ⟨i, [], hend, rfl, rfl⟩
  | cons c text ih =>
      rw [List.map_cons, List.cons_append, sequence_cons _ (by simp)]
      simp only [matches_cat_iff, matches_char_iff, Option.any_eq_true, beq_iff_eq]
      constructor
      · intro h
        obtain ⟨j, _, _, _, second, ⟨⟨c', hread, rfl⟩, rfl, rfl⟩, hrest, -⟩ := h
        obtain ⟨hi, rfl⟩ := List.getElem?_eq_some_iff.mp hread
        rw [List.drop_eq_getElem_cons hi, ih.mp ⟨j, second, hrest⟩]
      · intro h
        have hread : sentence[i]? = some c := by
          rw [← List.head?_drop, h]
          rfl
        have hdrop : sentence.drop (i + 1) = text := by
          rw [← List.tail_drop, h]
          rfl
        obtain ⟨j, second, hrest⟩ := ih.mpr hdrop
        exact ⟨j, second, i + 1, [], second, ⟨⟨c, hread, rfl⟩, rfl, rfl⟩, hrest,
          (List.append_nil _).symm⟩

/-- The expression for a text matches in a sentence exactly if the two are equal. -/
theorem exists_matches_exactly_iff :
    (∃ i j passes, i ≤ sentence.length ∧ (exactly text).Matches sentence i j passes) ↔
      sentence = text := by
  rw [exactly, List.cons_append, sequence_cons _ (by simp)]
  simp only [matches_cat_iff, matches_assertion_iff]
  constructor
  · intro h
    obtain ⟨i, j, _, hi, _, _, second, ⟨hstart, hsame, -⟩, hrest, -⟩ := h
    rw [hsame, (Place.nth_before_isNone hi).mp hstart] at hrest
    exact matches_rest_iff.mp ⟨j, second, hrest⟩
  · intro h
    obtain ⟨j, second, hrest⟩ := matches_rest_iff (i := 0).mpr h
    exact ⟨0, j, second, Nat.zero_le _, 0, [], second, ⟨rfl, rfl, rfl⟩, hrest,
      (List.append_nil _).symm⟩

theorem groups_exactly (text : Text) : (exactly text).groups = [] := by
  rw [exactly, groups_sequence, List.flatMap_eq_nil_iff]
  exact forall_mem_exactly text (fun _ => rfl) fun _ => rfl

end Expr

/-- A literal is found exactly in the text that equals it. -/
theorem search_exactly_isSome_iff (text sentence : Text) :
    ((Program.ofWhole (Expr.exactly text)).search sentence).isSome ↔ sentence = text := by
  rw [Program.search_ofWhole_isSome_iff, Expr.exists_matches_exactly_iff]
  rw [Expr.groups, Expr.groups_exactly]
  exact List.nodup_singleton _

/-! ### Patterns -/

/-- Every text but the empty one is a literal pattern. -/
theorem compile_literal (text : Text) : compile .builtin .literal text =
    if text = [] then .error .empty else .ok ⟨Program.ofWhole (Expr.exactly text)⟩ := by
  have hnew : Engine.builtin.new (source .builtin text .literal) =
      .ok (Program.ofWhole (Expr.exactly text)) :=
    Program.ofText_eq_ok_iff.mpr ⟨_, Expr.ofText?_literal text, rfl⟩
  rw [compile, hnew]
  cases text <;> rfl

/-- **Literal patterns.** The pattern of a text that is meant literally is found exactly in
the sentence that equals the text, and it captures nothing. -/
theorem captures?_of_compile_literal {text : Text} {p : Pattern .builtin}
    (h : compile .builtin .literal text = .ok p) (sentence : Text) :
    p.captures? sentence = if sentence = text then some Captures.empty else none := by
  rw [compile_literal] at h
  split at h
  · cases h
  · cases h
    have hsearch := search_exactly_isSome_iff text sentence
    have hnames : (Program.ofWhole (Expr.exactly text)).names = [none] := by
      rw [Program.names, Program.ofWhole, Program.ofExpr, Expr.groups, Expr.groups_exactly]
      rfl
    split
    · rename_i heq
      obtain ⟨marks, hmarks⟩ := Option.isSome_iff_exists.mp (hsearch.mpr heq)
      simp [captures?, extract, Engine.builtin, hmarks, Program.groupsOf, hnames, Captures.empty]
    · rename_i hne
      have hnone := Option.not_isSome_iff_eq_none.mp (mt hsearch.mp hne)
      simp [captures?, Engine.builtin, hnone]

end Playbook.Pattern
