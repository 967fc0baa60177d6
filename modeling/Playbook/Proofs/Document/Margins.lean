import Mathlib.Logic.Relation
import Playbook.Document
import Playbook.Proofs.Document.Line

/-!
# Playbook.Proofs.Document.Margins

The layout of a file does not matter: white space at the ends of its lines, the kind of its line
breaks, a newline at its end and a byte order mark at its beginning. What a file means is a
function of its lines as they are when they are trimmed (`Text.contents`), with the empty ones
in their places, so it is enough that a change of layout leaves these as they are.
-/

namespace Playbook

namespace Text

/-! ### Changes of layout -/

/-- The lines of a text, without the mark at its beginning and each trimmed. -/
def contents (text : Text) : List Text := (lines (withoutMark text)).map trim

/-- The text does not begin with a byte order mark. -/
def Unmarked (text : Text) : Prop := text.head? ≠ some byteOrderMark

instance (text : Text) : Decidable (Unmarked text) := inferInstanceAs (Decidable (_ ≠ _))

/-- A line may begin behind the text: there is none, or it ends with a newline. -/
def StartsLine (above : Text) : Prop := above = [] ∨ above.getLast? = some '\n'

/-- A line ends in front of the text: there is none, or it begins with a newline, maybe behind a
carriage return. -/
inductive EndsLine : Text → Prop
  | nothing : EndsLine []
  | newline (rest : Text) : EndsLine ('\n' :: rest)
  | carriageReturn (rest : Text) : EndsLine ('\r' :: '\n' :: rest)

/-- The text with a carriage return before every newline. -/
def withReturns (text : Text) : Text :=
  text.flatMap fun c => if c = '\n' then ['\r', '\n'] else [c]

/-- A change of the layout of a text. -/
inductive Relaid : Text → Text → Prop
  /-- White space is added to the beginning and the end of a line, which is not blank or ends
  with a newline. -/
  | margins {above line left right below : Text} (starts : StartsLine above)
      (ends : EndsLine below) (single : '\n' ∉ left ++ line ++ right) (leftBlank : AllBlank left)
      (rightBlank : AllBlank right) (lasting : ¬ AllBlank line ∨ below ≠ [])
      (unmarked : Unmarked (above ++ line ++ below))
      (unmarked' : Unmarked (above ++ (left ++ line ++ right) ++ below)) :
      Relaid (above ++ line ++ below) (above ++ (left ++ line ++ right) ++ below)
  /-- Every newline is replaced by a carriage return and a newline. -/
  | returns {text : Text} (unmarked : Unmarked text) : Relaid text (withReturns text)
  /-- A newline is added after the last line, which is not blank. -/
  | lastNewline {above line : Text} (starts : StartsLine above) (single : '\n' ∉ line)
      (speaks : ¬ AllBlank line) (unmarked : Unmarked (above ++ line)) :
      Relaid (above ++ line) (above ++ line ++ ['\n'])
  /-- A byte order mark is put in front. -/
  | mark {text : Text} (unmarked : Unmarked text) : Relaid text (byteOrderMark :: text)

/-! ### What lines hold -/

variable {text text' above line left right below : Text}

theorem contents_of_unmarked (h : Unmarked text) : contents text = (lines text).map trim := by
  rw [contents, withoutMark_eq_self h]

/-- A carriage return before the newline goes with the white space of its line. -/
theorem map_trim_lines_return (h : '\n' ∉ line) (below : Text) :
    (lines (line ++ '\r' :: '\n' :: below)).map trim = trim line :: (lines below).map trim := by
  have hreturn : '\n' ∉ line ++ ['\r'] := by simpa using h
  have htrim : trim (line ++ ['\r']) = trim line :=
    trim_append_of_allBlank allBlank_nil (by decide) line
  rw [← List.singleton_append, ← List.append_assoc, lines_line_newline hreturn, List.map_cons,
    htrim]

/-- A line stands between those above and those below as it is when it is trimmed. -/
theorem exists_map_trim_lines (hstarts : StartsLine above) (hends : EndsLine below) :
    ∃ before after, ∀ line, '\n' ∉ line → (line ≠ [] ∨ below ≠ []) →
      (lines (above ++ line ++ below)).map trim = before ++ trim line :: after := by
  have hsplit : ∀ line, lines (above ++ line ++ below) = lines above ++ lines (line ++ below) :=
    fun line => by rw [List.append_assoc, lines_append hstarts]
  cases hends with
  | nothing =>
      refine ⟨(lines above).map trim, [], fun line hline hlasting => ?_⟩
      have hne : line ≠ [] := hlasting.resolve_right fun h => h rfl
      rw [hsplit, List.append_nil, lines_eq_singleton hline hne, List.map_append]
      rfl
  | newline rest =>
      refine ⟨(lines above).map trim, (lines rest).map trim, fun line hline _ => ?_⟩
      rw [hsplit, lines_line_newline hline, List.map_append]
      rfl
  | carriageReturn rest =>
      refine ⟨(lines above).map trim, (lines rest).map trim, fun line hline _ => ?_⟩
      rw [hsplit, List.map_append, map_trim_lines_return hline]

theorem withReturns_append (first second : Text) :
    withReturns (first ++ second) = withReturns first ++ withReturns second :=
  List.flatMap_append

theorem withReturns_eq_self (h : '\n' ∉ line) : withReturns line = line := by
  induction line with
  | nil => rfl
  | cons c rest ih =>
      rw [List.mem_cons, not_or] at h
      rw [withReturns, List.flatMap_cons, if_neg (Ne.symm h.1)]
      exact congrArg (c :: ·) (ih h.2)

theorem map_trim_lines_withReturns (text : Text) :
    (lines (withReturns text)).map trim = (lines text).map trim := by
  induction text using lineInduction with
  | last line hline => rw [withReturns_eq_self hline]
  | newline line below hline ih =>
      have hsplit : withReturns (line ++ '\n' :: below) =
          line ++ '\r' :: '\n' :: withReturns below := by
        rw [withReturns_append, withReturns_eq_self hline]
        rfl
      rw [hsplit, map_trim_lines_return hline, lines_line_newline hline, List.map_cons, ih]

theorem unmarked_withReturns (h : Unmarked text) : Unmarked (withReturns text) := by
  cases text with
  | nil => exact h
  | cons c rest =>
      rw [withReturns, List.flatMap_cons]
      by_cases hc : c = '\n'
      · rw [if_pos hc]
        exact fun hmark => absurd (Option.some.inj hmark) (by decide)
      · rw [if_neg hc]
        exact h

/-- **One change.** A change of layout leaves the lines as they are when they are trimmed. -/
theorem Relaid.contents_eq (h : Relaid text text') : contents text' = contents text := by
  cases h with
  | @margins above line left right below starts ends single leftBlank rightBlank lasting
      unmarked unmarked' =>
      obtain ⟨before, after, hlines⟩ := exists_map_trim_lines starts ends
      have hline : '\n' ∉ line := fun hmem =>
        single (List.mem_append_left _ (List.mem_append_right _ hmem))
      have hne : line ≠ [] ∨ below ≠ [] :=
        lasting.imp_left fun hspeaks hnil => hspeaks (hnil ▸ allBlank_nil)
      have hne' : left ++ line ++ right ≠ [] ∨ below ≠ [] :=
        hne.imp_left fun hne => by simp [hne]
      rw [contents_of_unmarked unmarked, contents_of_unmarked unmarked', hlines _ single hne',
        hlines _ hline hne, trim_append_of_allBlank leftBlank rightBlank]
  | returns unmarked =>
      rw [contents_of_unmarked unmarked, contents_of_unmarked (unmarked_withReturns unmarked),
        map_trim_lines_withReturns]
  | @lastNewline above line starts single speaks unmarked =>
      have hne : line ≠ [] := fun hnil => speaks (hnil ▸ allBlank_nil)
      have unmarked' : Unmarked (above ++ line ++ ['\n']) := by
        rw [Unmarked, List.head?_append_of_ne_nil _ (List.append_ne_nil_of_right_ne_nil _ hne)]
        exact unmarked
      rw [contents_of_unmarked unmarked, contents_of_unmarked unmarked', List.append_assoc,
        lines_append starts, lines_append starts, lines_line_newline single,
        lines_eq_singleton single hne]
      rfl
  | mark unmarked =>
      rw [contents_of_unmarked unmarked, contents, withoutMark, if_pos rfl]

end Text

open Document Text

namespace Reader

variable {κ : Type} {text text' : Text}

/-- Reading looks at lines as they are when they are trimmed. -/
theorem lines_eq_map_contents (r : Reader κ) (text : Text) :
    r.lines text = (contents text).map (Line.read r.vocabulary) := by
  rw [lines, contents, List.map_map]
  refine List.map_congr_left fun line _ => ?_
  rw [Function.comp, Line.read, Line.read, trim_trim]

/-- **Layout.** Texts that any number of changes of layout lead from one to the other, made or
undone, are read as the same feature or refused with the same error. -/
theorem read_of_relaid (h : Relation.EqvGen Relaid text text') (r : Reader κ) :
    r.read text' = r.read text := by
  have hcontents : contents text' = contents text := by
    induction h with
    | rel text text' change => exact change.contents_eq
    | refl text => rfl
    | symm text text' _ ih => exact ih.symm
    | trans text middle text' _ _ first second => exact second.trans first
  rw [read, read, lines_eq_map_contents, lines_eq_map_contents, hcontents]

/-- A file with an indented header, an empty line and no newline at its end. -/
def indentedText : Text := "@t\n  Feature: f\n\nScenario: s\nGiven a".toList

/-- The same file without the indent, but with white space on the empty line, a newline at its
end, carriage returns and a byte order mark. -/
def relaidText : Text := "\uFEFF@t\r\nFeature: f\r\n\t\r\nScenario: s\r\nGiven a\r\n".toList

theorem read_of_relaid_indented :
    let r : Reader Unit := ⟨(), ['p'], 1, Vocabulary.english⟩
    Relation.EqvGen Relaid indentedText relaidText ∧ r.read relaidText = r.read indentedText ∧
      (r.read relaidText).toOption.map (fun f => (f.sentence, f.scenarios.map (·.line))) =
        some (['f'], [4]) := by
  intro r
  let tight : Text := "@t\nFeature: f\n\nScenario: s\nGiven a".toList
  let loose : Text := "@t\nFeature: f\n\t\nScenario: s\nGiven a".toList
  have hindent : Relaid tight indentedText := by
    have hmargins := @Relaid.margins "@t\n".toList "Feature: f".toList [' ', ' '] []
      "\n\nScenario: s\nGiven a".toList (.inr rfl) (.newline _) (by decide) (by decide)
      (by decide) (.inr (by decide)) (by decide) (by decide)
    have htight : "@t\n".toList ++ "Feature: f".toList ++ "\n\nScenario: s\nGiven a".toList =
        tight := by decide +kernel
    rwa [htight] at hmargins
  have hblank : Relaid tight loose := by
    have hmargins := @Relaid.margins "@t\nFeature: f\n".toList [] [] ['\t']
      "\nScenario: s\nGiven a".toList (.inr rfl) (.newline _) (by decide) (by decide) (by decide)
      (.inr (by decide)) (by decide) (by decide)
    have htight : "@t\nFeature: f\n".toList ++ [] ++ "\nScenario: s\nGiven a".toList = tight := by
      decide +kernel
    rwa [htight] at hmargins
  have hlast : Relaid loose (loose ++ ['\n']) :=
    @Relaid.lastNewline "@t\nFeature: f\n\t\nScenario: s\n".toList "Given a".toList (.inr rfl)
      (by decide) (by decide) (by decide)
  have hreturns : Relaid (loose ++ ['\n']) (withReturns (loose ++ ['\n'])) := .returns (by decide)
  have hmark : Relaid (withReturns (loose ++ ['\n'])) relaidText := by
    have hrelaid : byteOrderMark :: withReturns (loose ++ ['\n']) = relaidText := by
      decide +kernel
    exact hrelaid ▸ .mark (by decide)
  have hmargins : Relation.EqvGen Relaid indentedText loose :=
    .trans _ tight _ (.symm _ _ (.rel _ _ hindent)) (.rel _ _ hblank)
  have hends : Relation.EqvGen Relaid loose relaidText :=
    .trans _ _ _ (.rel _ _ hlast) (.trans _ _ _ (.rel _ _ hreturns) (.rel _ _ hmark))
  have h : Relation.EqvGen Relaid indentedText relaidText := .trans _ _ _ hmargins hends
  exact ⟨h, read_of_relaid h r, by decide +kernel⟩

end Reader

end Playbook
