import Playbook.Proofs.Pattern.Groups
import Playbook.Proofs.Pattern.Matching

/-!
# Playbook.Proofs.Pattern.Builtin

The engine of our own is lawful, and more can be said about it, since its expressions and its
matches are there to be looked at. What it finds is a match of the expression, and what it says
about a group is the latest pass of the group in that match. The groups that it has are those
that the tokens of the pattern open, in order, up to the last that is not struck. So it has all
of them unless the last groups of the pattern are repeated no times at all.
-/

namespace Playbook

open Pattern (CaptureGroup taken?)
open Pattern.Syntax (numbered)

variable {text name value : Text} {groups : List CaptureGroup}

/-! ### Groups with a name -/

/-- A group with a name is found by its name. -/
theorem find?_name_bind_eq_some_iff {found : List (Option Text × Option Text)}
    (h : ((found.map (·.1)).filterMap id).Nodup) :
    (found.find? fun group => group.1 == some name).bind (·.2) = some value ↔
      ∃ i : Nat, found[i]? = some (some name, some value) := by
  rw [Option.bind_eq_some_iff]
  constructor
  · intro hfound
    obtain ⟨group, hgroup, hvalue⟩ := hfound
    obtain ⟨i, hi⟩ := List.getElem?_of_mem (List.mem_of_find?_eq_some hgroup)
    have hname : group.1 = some name := by simpa using List.find?_some hgroup
    exact ⟨i, hi.trans (congrArg some (Prod.ext hname hvalue))⟩
  · intro hentry
    obtain ⟨i, hi⟩ := hentry
    cases hgroup : found.find? fun group => group.1 == some name with
    | none =>
        have hother := List.find?_eq_none.mp hgroup _ (List.mem_of_getElem? hi)
        exact absurd (beq_self_eq_true _) hother
    | some group =>
        -- The name stands at one place, so what was found is the entry.
        obtain ⟨j, hj⟩ := List.getElem?_of_mem (List.mem_of_find?_eq_some hgroup)
        have hname : group.1 = some name := by simpa using List.find?_some hgroup
        have hnameI : (found.map (·.1))[i]? = some (some name) := by
          rw [List.getElem?_map, hi]
          rfl
        have hnameJ : (found.map (·.1))[j]? = some (some name) := by
          rw [List.getElem?_map, hj, Option.map_some, hname]
        obtain rfl : i = j := eq_of_getElem?_name h hnameI hnameJ
        rw [hi] at hj
        cases hj
        exact ⟨_, rfl, rfl⟩

/-! ### Groups of a pattern -/

namespace Pattern

/-- What a machine knows of groups keeps their names apart. -/
theorem nodup_known (h : (groups.filterMap (·.name)).Nodup) :
    (((groups.rdropWhile (·.struck)).map CaptureGroup.known).filterMap id).Nodup := by
  have hknown : ∀ groups : List CaptureGroup, (groups.map CaptureGroup.known).filterMap id =
      (groups.filter fun group => !group.struck).filterMap (·.name) := by
    intro groups
    rw [List.filterMap_map, List.filterMap_filter]
    refine List.filterMap_congr fun group _ => ?_
    obtain ⟨name, struck⟩ := group
    cases struck <;> rfl
  rw [hknown]
  exact h.sublist ((List.filter_sublist.trans
    (List.rdropWhile_prefix _ groups).sublist).filterMap _)

/-- All groups have an entry unless the last of them is struck. -/
theorem length_rdropWhile_eq_iff (groups : List CaptureGroup) :
    (groups.rdropWhile (·.struck)).length = groups.length ↔
      ∀ group ∈ groups.getLast?, group.struck = false := by
  have hsame : (groups.rdropWhile (·.struck)).length = groups.length ↔
      groups.rdropWhile (·.struck) = groups :=
    ⟨(List.rdropWhile_prefix _ groups).eq_of_length, congrArg _⟩
  rw [hsame, List.rdropWhile_eq_self_iff]
  constructor
  · intro h group hgroup
    obtain ⟨hne, rfl⟩ := List.mem_getLast?_eq_getLast hgroup
    exact Bool.eq_false_iff.mpr (h hne)
  · intro h hne
    rw [h _ (List.getLast?_eq_some_getLast hne)]
    exact nofun

namespace Program

/-- The whole pattern is no group that the text of the pattern opens. -/
theorem groupNames_cons_zero (groups : List (Nat × Option Text)) :
    groupNames ((0, none) :: groups) = groupNames groups := by
  rw [groupNames, groupNames]
  refine List.map_congr_left fun i _ => ?_
  have hother : (i + 1 == 0) = false := rfl
  rw [List.lookup_cons, hother]

theorem names_ofWhole {e : Expr} (h : e.groups = numbered 0 groups) :
    (ofWhole e).names = none :: (groups.rdropWhile (·.struck)).map CaptureGroup.known := by
  rw [names, ofWhole, ofExpr, Expr.groups, groupNames_cons_zero, h, Syntax.groupNames_numbered]

/-- The groups of the text have numbers from one on, so the whole pattern has its own. -/
theorem nodup_groups_whole {e : Expr} (h : e.groups = numbered 0 groups) :
    ((Expr.group 0 none e).groups.map (·.1)).Nodup := by
  rw [Expr.groups, h, List.map_cons, List.nodup_cons]
  refine ⟨fun hzero => ?_, Syntax.nodup_numbered 0 groups⟩
  obtain ⟨⟨number, name⟩, hnumber, rfl⟩ := List.mem_map.mp hzero
  exact Nat.lt_irrefl 0 (Syntax.mem_numbered_iff.mp hnumber).1

theorem nodup_names_of_ofText {p : Program} (h : ofText text = .ok p) :
    (p.names.filterMap id).Nodup := by
  obtain ⟨e, he, rfl⟩ := ofText_eq_ok_iff.mp h
  obtain ⟨tokens, -, he⟩ := Option.bind_eq_some_iff.mp he
  obtain ⟨groups, -, hgroups, hnames⟩ := Syntax.groups_of_ofTokens? he
  rw [names_ofWhole hgroups]
  exact nodup_known hnames

theorem map_fst_groupsOf (p : Program) (marks : Marks) (text : Text) :
    (p.groupsOf marks text).map (·.1) = p.names := by
  refine List.ext_getElem (by simp [groupsOf]) fun i _ _ => ?_
  simp [groupsOf]

/-- What is said about a group is its latest pass. -/
theorem map_snd_groupsOf {p : Program} {marks : Marks} {passes : List Pass}
    (h : Reflects marks passes) (text : Text) :
    (p.groupsOf marks text).map (·.2) = (List.range p.names.length).map (taken? passes text) := by
  refine List.ext_getElem (by simp [groupsOf]) fun i _ _ => ?_
  simp [groupsOf, h.groupText?]

end Program

end Pattern

/-! ### Laws -/

open Pattern in
/-- **Laws.** The engine does what is documented of engines. -/
theorem Engine.lawful_builtin : Engine.builtin.Lawful where
  names_eq_cons _ := ⟨_, rfl⟩
  nodup_names h := Program.nodup_names_of_ofText h
  length_groups _ hfound := by
    obtain ⟨marks, -, rfl⟩ := Option.map_eq_some_iff.mp hfound
    simp [Engine.builtin, Program.groupsOf]
  named?_eq_some_iff {text p sentence found name value} h hfound := by
    obtain ⟨marks, -, rfl⟩ := Option.map_eq_some_iff.mp hfound
    have hnames := Program.map_fst_groupsOf p marks sentence
    have hnodup := Program.nodup_names_of_ofText h
    rw [← hnames] at hnodup
    have hplace : ∀ i : Nat, (p.groupsOf marks sentence)[i]? = some (some name, some value) ↔
        p.names[i]? = some (some name) ∧
          ((p.groupsOf marks sentence).map (·.2))[i]? = some (some value) := by
      intro i
      rw [← hnames, List.getElem?_map, List.getElem?_map]
      cases (p.groupsOf marks sentence)[i]? <;> simp [Prod.ext_iff]
    exact (find?_name_bind_eq_some_iff hnodup).trans (exists_congr hplace)

/-! ### Whole patterns -/

namespace Pattern

/-- A pattern is an expression that the engine has made of its source. -/
theorem new_of_compile {E : Engine} {mode : PatternKind} {p : Pattern E}
    (h : compile E mode text = .ok p) : E.new (source E text mode) = .ok p.regex := by
  unfold compile at h
  split at h
  · cases h
  · cases hnew : E.new (source E text mode) with
    | ok regex =>
        rw [hnew] at h
        cases h
        rfl
    | error reason =>
        rw [hnew] at h
        cases h

/-- A pattern that can be read compiles to the machine for its expression. -/
theorem compile_of_tokens {tokens : List Token} {e : Expr} (hne : text ≠ [])
    (htokens : Token.lex? text = some tokens) (he : Syntax.ofTokens? tokens = some e) :
    compile .builtin .regex text = .ok ⟨Program.ofWhole e⟩ := by
  have hread : Expr.ofText? text = some e := by
    rw [Expr.ofText?, htokens]
    exact he
  have hnew : Engine.builtin.new text = .ok (Program.ofWhole e) :=
    Program.ofText_eq_ok_iff.mpr ⟨e, hread, rfl⟩
  have htext : ¬ text.isEmpty := by simpa using hne
  rw [compile, if_neg htext]
  simp only [source, hnew]

/-- A match of the expression is found. -/
theorem isSome_find?_of_matches {tokens : List Token} {e : Expr} {sentence : Text} {i j : Nat}
    {passes : List Pass} (he : Syntax.ofTokens? tokens = some e) (hi : i ≤ sentence.length)
    (hmatches : e.Matches sentence i j passes) :
    (Engine.builtin.find? (Program.ofWhole e) sentence).isSome := by
  obtain ⟨groups, -, hgroups, -⟩ := Syntax.groups_of_ofTokens? he
  have hnodup := Program.nodup_groups_whole hgroups
  have hsearch := (Program.search_ofWhole_isSome_iff sentence e hnodup).mpr
    ⟨i, j, passes, hi, hmatches⟩
  exact Option.isSome_map.trans hsearch

/-- What a search has noted says what is found. -/
theorem find?_of_search {p : Program} {sentence : Text} {marks : Marks}
    (h : p.search sentence = some marks) :
    Engine.builtin.find? p sentence = some (p.groupsOf marks sentence) :=
  congrArg (Option.map fun marks => p.groupsOf marks sentence) h

/-- **The groups and matches of the engine.** The groups of a pattern that compiles are those of
its tokens, in the order of their opening parentheses. The engine has them up to the last that is
not struck, so it has all of them unless the last is struck. It finds something in a sentence
exactly if the expression of the pattern matches somewhere in it, and then says of every group
what it has taken in such a match. -/
theorem groups_of_compile {p : Pattern .builtin} (h : compile .builtin .regex text = .ok p) :
    ∃ tokens e groups, Token.lex? text = some tokens ∧ Syntax.ofTokens? tokens = some e ∧
      Syntax.Pieces tokens groups ∧ tokens.filterMap Token.captureName? = groups.map (·.name) ∧
      (∀ group ∈ groups, group.struck → ∃ greedy, .repetition 0 (some 0) greedy ∈ tokens) ∧
      Engine.builtin.names p.regex =
        none :: (groups.rdropWhile (·.struck)).map CaptureGroup.known ∧
      ((Engine.builtin.names p.regex).length = groups.length + 1 ↔
        ∀ group ∈ groups.getLast?, group.struck = false) ∧
      ∀ sentence,
        match Engine.builtin.find? p.regex sentence with
        | none => ∀ i j passes, i ≤ sentence.length → ¬ e.Matches sentence i j passes
        | some found => ∃ i j passes, i ≤ sentence.length ∧ e.Matches sentence i j passes ∧
          Engine.builtin.groups found = (List.range (Engine.builtin.names p.regex).length).map
            (taken? (⟨0, i, j⟩ :: passes) sentence) := by
  obtain ⟨regex⟩ := p
  obtain ⟨e, he, rfl⟩ := Program.ofText_eq_ok_iff.mp (new_of_compile h)
  obtain ⟨tokens, htokens, he⟩ := Option.bind_eq_some_iff.mp he
  obtain ⟨groups, hpieces, hgroups, -⟩ := Syntax.groups_of_ofTokens? he
  have hnames : Engine.builtin.names (Program.ofWhole e) = _ := Program.names_ofWhole hgroups
  refine ⟨tokens, e, groups, htokens, he, hpieces, hpieces.names, hpieces.exists_never, hnames, ?_,
    fun sentence => ?_⟩
  · rw [hnames, List.length_cons, List.length_map, Nat.add_right_cancel_iff]
    exact length_rdropWhile_eq_iff groups
  · have hsearch := Program.search_ofWhole sentence e (Program.nodup_groups_whole hgroups)
    have hfind : Engine.builtin.find? (Program.ofWhole e) sentence =
        ((Program.ofWhole e).search sentence).map fun marks =>
          (Program.ofWhole e).groupsOf marks sentence := rfl
    rw [hfind]
    cases hmarks : (Program.ofWhole e).search sentence with
    | none =>
        rw [hmarks] at hsearch
        exact hsearch
    | some marks =>
        rw [hmarks] at hsearch
        obtain ⟨i, j, passes, hi, hmatches, hreflects⟩ := hsearch
        exact ⟨i, j, passes, hi, hmatches, Program.map_snd_groupsOf hreflects sentence⟩

end Pattern

end Playbook
