import Playbook.Proofs.Pattern.Builtin
import Playbook.Proofs.Pattern.Literal

/-!
# Playbook.Proofs.Captures

Captures against the pattern they come from, with any engine that does what is documented. The
positional captures are read off the groups of a match and the named ones off the names of the
expression. `Captures.Aligned` says that both are about the same groups in the same order, and
`captures?_of_compile` that every pattern captures in this way from every sentence.

The groups of a pattern are those that the engine has for it. Where the engine has fewer than
the text opens, there are captures missing as well: a group at the end of a pattern that is
repeated no times at all has none (`captures?_struck_last`).
-/

namespace Playbook

/-! ### Alignment -/

/-- What a group adds to the named captures, from its name and what it has taken. -/
def Captures.stored? : Option Text × Option Text → Option (Text × Text)
  | (name, took) => name.bind fun name => took.map (name, ·)

/-- The captures are aligned with the groups of a pattern, which have these names and have taken
this in a match. -/
structure Captures.Aligned (groups took : List (Option Text)) (c : Captures) : Prop where
  /-- There is one entry for every group. -/
  length : c.positional.length = groups.length
  /-- It is what the group has taken, or empty if the group took no part. -/
  positional : c.positional = took.map (·.getD [])
  /-- The groups with a name that took part, in order. -/
  named : c.named = (groups.zip took).filterMap stored?
  /-- Each name once. -/
  nodup : (c.named.map (·.1)).Nodup
  /-- What is stored under a name is the positional entry of the group with the name, and nothing
  is stored under other names. -/
  get?_eq_some_iff : ∀ name value, c.get? name = some value ↔ ∃ i : Nat,
    groups[i]? = some (some name) ∧ took[i]? = some (some value) ∧ c.positional[i]? = some value

namespace Pattern

variable {E : Engine} {mode : PatternKind} {p : Pattern E} {text sentence name value : Text}
  {found : E.Found} {groups took : List (Option Text)} {whole : Option Text}

/-! ### Groups behind the first -/

/-- A name is never that of the whole expression, so what is found under it belongs to one of the
groups behind. -/
theorem named?_eq_some_iff (hE : E.Lawful) (h : E.new text = .ok p.regex)
    (hfound : E.find? p.regex sentence = some found) (hnames : E.names p.regex = none :: groups)
    (htook : E.groups found = whole :: took) :
    E.named? found name = some value ↔
      ∃ i : Nat, groups[i]? = some (some name) ∧ took[i]? = some (some value) := by
  rw [hE.named?_eq_some_iff h hfound, hnames, htook]
  constructor
  · intro hplace
    obtain ⟨i, hname, hvalue⟩ := hplace
    cases i with
    | zero => cases hname
    | succ i => exact ⟨i, hname, hvalue⟩
  · intro hplace
    obtain ⟨i, hname, hvalue⟩ := hplace
    exact ⟨i + 1, hname, hvalue⟩

/-- Looked up by name, a group has what it has by its place. -/
theorem named?_of_mem_zip (hnodup : (groups.filterMap id).Nodup) {named? : Text → Option Text}
    (hnamed : ∀ name value, named? name = some value ↔
      ∃ i : Nat, groups[i]? = some (some name) ∧ took[i]? = some (some value))
    {entry : Option Text} (hmem : (some name, entry) ∈ groups.zip took) : named? name = entry := by
  obtain ⟨i, hi⟩ := List.getElem?_of_mem hmem
  rw [List.getElem?_zip_eq_some] at hi
  refine Option.ext fun value => ?_
  rw [hnamed]
  constructor
  · intro hplace
    obtain ⟨j, hname, hvalue⟩ := hplace
    obtain rfl : i = j := eq_of_getElem?_name hnodup hi.1 hname
    exact Option.some.inj (hi.2.symm.trans hvalue)
  · rintro rfl
    exact ⟨i, hi⟩

/-! ### Captures of a match -/

/-- The named captures of a match are those of its groups, in order. -/
theorem named_eq_filterMap_zip (hlength : took.length = groups.length)
    (hnodup : (groups.filterMap id).Nodup) {named? : Text → Option Text}
    (hnamed : ∀ name value, named? name = some value ↔
      ∃ i : Nat, groups[i]? = some (some name) ∧ took[i]? = some (some value)) :
    (groups.filterMap id).filterMap (fun name => (named? name).map (name, ·)) =
      (groups.zip took).filterMap Captures.stored? := by
  have hgroups : groups = (groups.zip took).map (·.1) :=
    (List.map_fst_zip (Nat.le_of_eq hlength.symm)).symm
  rw [List.filterMap_filterMap]
  conv_lhs => rw [hgroups, List.filterMap_map]
  refine List.filterMap_congr fun pair hmem => ?_
  obtain ⟨name, entry⟩ := pair
  cases name with
  | none => rfl
  | some name =>
      have hentry := named?_of_mem_zip hnodup hnamed hmem
      simp [Captures.stored?, hentry]

/-- What is kept of names is a part of them. -/
theorem nodup_map_fst_filterMap {names : List Text} (h : names.Nodup)
    (named? : Text → Option Text) :
    ((names.filterMap fun name => (named? name).map (name, ·)).map (·.1)).Nodup := by
  have hkept : (names.filterMap fun name => (named? name).map (name, ·)).map (·.1) =
      names.filter fun name => (named? name).isSome := by
    rw [List.map_filterMap, ← List.filterMap_eq_filter]
    refine List.filterMap_congr fun name _ => ?_
    cases hname : named? name <;> simp [Option.guard, hname]
  rw [hkept]
  exact h.filter _

/-- What is captured from a match is aligned with the groups of the pattern. -/
theorem aligned_extract (hE : E.Lawful) (h : E.new text = .ok p.regex)
    (hfound : E.find? p.regex sentence = some found) (hnames : E.names p.regex = none :: groups)
    (htook : E.groups found = whole :: took) : (p.extract found).Aligned groups took := by
  have hlength : took.length = groups.length := by
    have hall := hE.length_groups h hfound
    rw [htook, hnames] at hall
    exact Nat.succ.inj hall
  have hnodup : (groups.filterMap id).Nodup := by
    have hall := hE.nodup_names h
    rw [hnames] at hall
    exact hall
  have hnamed : ∀ name value, E.named? found name = some value ↔
      ∃ i : Nat, groups[i]? = some (some name) ∧ took[i]? = some (some value) :=
    fun _ _ => named?_eq_some_iff hE h hfound hnames htook
  have hpositional : (p.extract found).positional = took.map (·.getD []) := by
    rw [extract, htook]
    rfl
  have hstored : (p.extract found).named =
      (groups.filterMap id).filterMap fun name => (E.named? found name).map (name, ·) := by
    rw [extract, hnames]
    rfl
  have hkeys : ((p.extract found).named.map (·.1)).Nodup := by
    rw [hstored]
    exact nodup_map_fst_filterMap hnodup _
  refine ⟨?_, hpositional, ?_, hkeys, fun name value => ?_⟩
  · rw [hpositional, List.length_map, hlength]
  · rw [hstored]
    exact named_eq_filterMap_zip hlength hnodup hnamed
  · rw [Captures.get?, lookup_eq_some_iff_mem hkeys, hstored, List.mem_filterMap]
    constructor
    · intro hentry
      obtain ⟨name', -, hname⟩ := hentry
      obtain ⟨value', hvalue, heq⟩ := Option.map_eq_some_iff.mp hname
      cases heq
      obtain ⟨i, hi, hti⟩ := (hnamed name value).mp hvalue
      refine ⟨i, hi, hti, ?_⟩
      rw [hpositional, List.getElem?_map, hti]
      rfl
    · intro hplace
      obtain ⟨i, hi, hti, -⟩ := hplace
      refine ⟨name, List.mem_filterMap.mpr ⟨_, List.mem_of_getElem? hi, rfl⟩, ?_⟩
      rw [(hnamed name value).mpr ⟨i, hi, hti⟩]
      rfl

/-! ### Captures of patterns -/

/-- **Captures.** With an engine that does what is documented, a pattern that compiles has groups,
in the order of their opening parentheses, and it captures something from a sentence exactly if
the engine finds it there. The captures are then aligned with the groups and with what each of
them has taken. -/
theorem captures?_of_compile (hE : E.Lawful) (h : compile E mode text = .ok p) :
    ∃ groups, E.names p.regex = none :: groups ∧ ∀ sentence,
      match E.find? p.regex sentence with
      | none => p.captures? sentence = none
      | some found => ∃ whole took c, E.groups found = whole :: took ∧
          p.captures? sentence = some c ∧ c.Aligned groups took := by
  have hnew := new_of_compile h
  obtain ⟨groups, hnames⟩ := hE.names_eq_cons hnew
  refine ⟨groups, hnames, fun sentence => ?_⟩
  cases hfound : E.find? p.regex sentence with
  | none => exact Option.map_eq_none_iff.mpr hfound
  | some found =>
      have hlength := hE.length_groups hnew hfound
      rw [hnames] at hlength
      cases htook : E.groups found with
      | nil =>
          rw [htook] at hlength
          cases hlength
      | cons whole took =>
          exact ⟨whole, took, p.extract found, htook, congrArg (Option.map p.extract) hfound,
            aligned_extract hE hnew hfound hnames htook⟩

theorem captures?_of_compile_alternatives :
    let text := "(?P<_>b)|(a)".toList
    let c : Captures := ⟨["b".toList, []], [("_".toList, "b".toList)]⟩
    Engine.builtin.Lawful ∧ ∃ p : Pattern .builtin, compile .builtin .regex text = .ok p ∧
      Engine.builtin.names p.regex = [none, some "_".toList, none] ∧
      p.captures? "b".toList = some c ∧
      c.Aligned [some "_".toList, none] [some "b".toList, none] := by
  intro text c
  let named : Expr := .alt (.group 1 (some "_".toList) (.char 'b')) (.group 2 none (.char 'a'))
  have hname : Token.next? '(' "?P<_>b)|(a)".toList =
      some (.openCapture (some "_".toList), "b)|(a)".toList) := by decide
  have htail : Token.lex? "b)|(a)".toList = some [.char 'b', .close, .bar, .openCapture none,
      .char 'a', .close] := by cbv
  have htokens : Token.lex? text = some [.openCapture (some "_".toList), .char 'b', .close, .bar,
      .openCapture none, .char 'a', .close] := by
    refine (Token.lex?_cons hname (by decide)).trans ?_
    rw [htail]
    rfl
  have hp : compile .builtin .regex text = .ok ⟨Program.ofWhole named⟩ :=
    compile_of_tokens (by decide) htokens rfl
  have hprogram : Program.ofWhole named = ⟨#[.mark 0, .fork 2 6, .mark 2, .char 'b', .mark 3,
      .jump 9, .mark 4, .char 'a', .mark 5, .mark 1, .accept], [some "_".toList, none]⟩ := rfl
  have hsearch : (Program.ofWhole named).search "b".toList =
      some [(1, 1), (3, 1), (2, 0), (0, 0)] := by
    rw [hprogram]
    cbv
  have hfound := find?_of_search hsearch
  have hcaptures : (⟨Program.ofWhole named⟩ : Pattern .builtin).captures? "b".toList = some c := by
    rw [captures?, hfound]
    rfl
  obtain ⟨groups, hgroups, hall⟩ := captures?_of_compile Engine.lawful_builtin hp
  have hb := hall "b".toList
  rw [hfound] at hb
  obtain ⟨whole, took, c', htook, hc, haligned⟩ := hb
  cases hgroups
  cases htook
  cases Option.some.inj (hc.symm.trans hcaptures)
  exact ⟨Engine.lawful_builtin, _, hp, rfl, hcaptures, haligned⟩

/-- **A pattern whose last group is repeated no times at all.** The text of the pattern opens two
groups, and what is captured from a sentence is one text. -/
theorem captures?_struck_last :
    ∃ tokens p, Token.lex? "(b)(a){0}".toList = some tokens ∧
      (tokens.filterMap Token.captureName?).length = 2 ∧
      compile .builtin .regex "(b)(a){0}".toList = .ok p ∧
      p.captures? "b".toList = some ⟨["b".toList], []⟩ := by
  let e : Expr := .cat (.group 1 none (.char 'b')) .empty
  have htokens : Token.lex? "(b)(a){0}".toList = some [.openCapture none, .char 'b', .close,
      .openCapture none, .char 'a', .close, .repetition 0 (some 0) true] :=
    Token.lex?_cons_eq_some rfl (by decide) <| Token.lex?_cons_eq_some rfl (by decide) <|
    Token.lex?_cons_eq_some rfl (by decide) <| Token.lex?_cons_eq_some rfl (by decide) <|
    Token.lex?_cons_eq_some rfl (by decide) <| Token.lex?_cons_eq_some rfl (by decide) <|
    Token.lex?_cons_eq_some rfl (by decide) Token.lex?_nil
  have hprogram : Program.ofWhole e =
      ⟨#[.mark 0, .mark 2, .char 'b', .mark 3, .mark 1, .accept], [none]⟩ := rfl
  have hsearch : (Program.ofWhole e).search "b".toList =
      some [(1, 1), (3, 1), (2, 0), (0, 0)] := by
    rw [hprogram]
    cbv
  refine ⟨_, ⟨Program.ofWhole e⟩, htokens, rfl, compile_of_tokens (by decide) htokens rfl, ?_⟩
  rw [captures?, find?_of_search hsearch]
  rfl

end Pattern

end Playbook
