import Mathlib.Data.List.DropRight
import Playbook.Pattern.Program
import Playbook.Pattern.Syntax
import Playbook.Proofs.Keys

/-!
# Playbook.Proofs.Pattern.Groups

Which groups a pattern has. `Pieces` is the grammar of patterns as a judgement on tokens, with the
groups that keep a match in the order of their opening parentheses; it knows neither flags, nor
expressions, nor a stack. A group is struck if it, or something around it, is repeated no times
at all.

`groups_of_ofTokens?` says that the expression of a pattern has the groups of the grammar, each
under its place in the order of opening parentheses, apart from those that are struck. It rests
on an invariant of the reader (`Accounts`): each open group has taken a row of pieces, and its
parts, the latest of which may still be repeated, have the groups of these pieces.

A machine knows its groups up to the highest number that occurs in the expression. So the groups
that are struck at the end of a pattern are missing there, which is what `groupNames_numbered`
says.
-/

namespace Playbook.Pattern

variable {token : Token} {tokens read : List Token} {n : Nat}

/-! ### The grammar of patterns -/

/-- A group of a pattern that keeps its match. -/
structure CaptureGroup where
  name : Option Text
  /-- Whether it stands in something that is repeated no times at all. -/
  struck : Bool
  deriving DecidableEq, Repr

/-- The group, struck. -/
def CaptureGroup.strike (group : CaptureGroup) : CaptureGroup := { group with struck := true }

/-- What a machine knows of the group: its name, unless it is struck. -/
def CaptureGroup.known (group : CaptureGroup) : Option Text :=
  if group.struck then none else group.name

namespace Token

/-- The name of the group that the token opens, if that keeps its match. -/
def captureName? : Token → Option (Option Text)
  | openCapture name => some name
  | _ => none

/-- Whether the token belongs neither to a group nor to a repetition. -/
def isLeaf : Token → Bool
  | openCapture _ => false
  | openPlain _ => false
  | close => false
  | repetition _ _ _ => false
  | _ => true

end Token

namespace Syntax

variable {groups : List CaptureGroup}

/-- What becomes of the groups of something that is repeated. -/
def repeatGroups (min : Nat) (max : Option Nat) (groups : List CaptureGroup) :
    List CaptureGroup :=
  if min = 0 ∧ max = some 0 then groups.map .strike else groups

mutual

/-- The tokens are one piece of a pattern, which has these groups. -/
inductive Piece : List Token → List CaptureGroup → Prop
  | leaf {token : Token} (h : token.isLeaf) : Piece [token] []
  | plain {tokens : List Token} {groups : List CaptureGroup} (changes : FlagChanges)
      (inside : Pieces tokens groups) : Piece (.openPlain changes :: tokens ++ [.close]) groups
  | capture {tokens : List Token} {groups : List CaptureGroup} (name : Option Text)
      (inside : Pieces tokens groups) :
      Piece (.openCapture name :: tokens ++ [.close]) (⟨name, false⟩ :: groups)
  | repeated {tokens : List Token} {groups : List CaptureGroup} (min : Nat) (max : Option Nat)
      (greedy : Bool) (piece : Piece tokens groups) :
      Piece (tokens ++ [.repetition min max greedy]) (repeatGroups min max groups)

/-- The tokens are pieces of a pattern in a row, which have these groups. A bar between branches
is a piece of its own. -/
inductive Pieces : List Token → List CaptureGroup → Prop
  | nothing : Pieces [] []
  | onward {tokens tokens' : List Token} {groups groups' : List CaptureGroup}
      (before : Pieces tokens groups) (piece : Piece tokens' groups') :
      Pieces (tokens ++ tokens') (groups ++ groups')

end

theorem Token.captureName?_of_isLeaf (h : token.isLeaf) : token.captureName? = none := by
  cases token with
  | openCapture name => cases h
  | _ => rfl

@[simp] theorem length_repeatGroups (min : Nat) (max : Option Nat) (groups : List CaptureGroup) :
    (repeatGroups min max groups).length = groups.length := by
  unfold repeatGroups
  split
  · exact List.length_map _
  · rfl

@[simp] theorem map_name_repeatGroups (min : Nat) (max : Option Nat)
    (groups : List CaptureGroup) :
    (repeatGroups min max groups).map (·.name) = groups.map (·.name) := by
  unfold repeatGroups
  split
  · rw [List.map_map]
    rfl
  · rfl

mutual

theorem Piece.names {tokens : List Token} {groups : List CaptureGroup} :
    Piece tokens groups → tokens.filterMap Token.captureName? = groups.map (·.name)
  | .leaf h => by simp [Token.captureName?_of_isLeaf h]
  | .plain changes inside => by simp [inside.names, List.filterMap_cons, Token.captureName?]
  | .capture name inside => by simp [inside.names, Token.captureName?]
  | .repeated min max greedy piece => by simp [piece.names, Token.captureName?]

/-- The groups are those that the tokens open, in this order. -/
theorem Pieces.names {tokens : List Token} {groups : List CaptureGroup} :
    Pieces tokens groups → tokens.filterMap Token.captureName? = groups.map (·.name)
  | .nothing => rfl
  | .onward before piece => by simp [before.names, piece.names]

end

mutual

theorem Piece.exists_never {tokens : List Token} {groups : List CaptureGroup} :
    Piece tokens groups → ∀ group ∈ groups, group.struck →
      ∃ greedy, Token.repetition 0 (some 0) greedy ∈ tokens
  | .leaf _ => nofun
  | .plain changes inside => fun group hgroup hstruck => by
      obtain ⟨greedy, hmem⟩ := inside.exists_never group hgroup hstruck
      exact ⟨greedy, List.mem_cons_of_mem _ (List.mem_append_left _ hmem)⟩
  | .capture name inside => fun group hgroup hstruck => by
      rcases List.mem_cons.mp hgroup with rfl | hgroup
      · cases hstruck
      · obtain ⟨greedy, hmem⟩ := inside.exists_never group hgroup hstruck
        exact ⟨greedy, List.mem_cons_of_mem _ (List.mem_append_left _ hmem)⟩
  | .repeated min max greedy piece => fun group hgroup hstruck => by
      unfold repeatGroups at hgroup
      split at hgroup
      · rename_i hnever
        obtain ⟨rfl, rfl⟩ := hnever
        exact ⟨greedy, List.mem_append_right _ List.mem_cons_self⟩
      · obtain ⟨greedy', hmem⟩ := piece.exists_never group hgroup hstruck
        exact ⟨greedy', List.mem_append_left _ hmem⟩

/-- Only where something is repeated no times at all a group is struck. -/
theorem Pieces.exists_never {tokens : List Token} {groups : List CaptureGroup} :
    Pieces tokens groups → ∀ group ∈ groups, group.struck →
      ∃ greedy, Token.repetition 0 (some 0) greedy ∈ tokens
  | .nothing => nofun
  | .onward before piece => fun group hgroup hstruck => by
      rcases List.mem_append.mp hgroup with hgroup | hgroup
      · obtain ⟨greedy, hmem⟩ := before.exists_never group hgroup hstruck
        exact ⟨greedy, List.mem_append_left _ hmem⟩
      · obtain ⟨greedy, hmem⟩ := piece.exists_never group hgroup hstruck
        exact ⟨greedy, List.mem_append_right _ hmem⟩

end

/-! ### Numbers -/

/-- The numbers and names of the groups that are not struck, when there are `n` groups before. -/
def numbered (n : Nat) (groups : List CaptureGroup) : List (Nat × Option Text) :=
  (groups.zipIdx (n + 1)).filterMap fun (group, number) =>
    if group.struck then none else some (number, group.name)

theorem numbered_cons (n : Nat) (group : CaptureGroup) (groups : List CaptureGroup) :
    numbered n (group :: groups) =
      if group.struck then numbered (n + 1) groups
      else (n + 1, group.name) :: numbered (n + 1) groups := by
  obtain ⟨name, struck⟩ := group
  rw [numbered, List.zipIdx_cons, List.filterMap_cons]
  cases struck <;> rfl

theorem numbered_append (n : Nat) (groups groups' : List CaptureGroup) :
    numbered n (groups ++ groups') = numbered n groups ++ numbered (n + groups.length) groups' := by
  rw [numbered, List.zipIdx_append, List.filterMap_append, Nat.add_right_comm]
  rfl

theorem numbered_repeatGroups (n min : Nat) (max : Option Nat) (groups : List CaptureGroup) :
    numbered n (repeatGroups min max groups) =
      if min = 0 ∧ max = some 0 then [] else numbered n groups := by
  unfold repeatGroups
  split
  · rw [numbered, List.zipIdx_map, List.filterMap_map]
    exact List.filterMap_eq_nil_iff.mpr fun _ _ => rfl
  · rfl

/-- The numbers are the places in the order of the groups. -/
theorem mem_numbered_iff {number : Nat} {name : Option Text} :
    (number, name) ∈ numbered n groups ↔
      n < number ∧ groups[number - (n + 1)]? = some ⟨name, false⟩ := by
  rw [numbered, List.mem_filterMap]
  constructor
  · intro h
    obtain ⟨⟨⟨first, struck⟩, i⟩, hmem, h⟩ := h
    rw [List.mk_mem_zipIdx_iff_le_and_getElem?_sub] at hmem
    cases struck <;> cases h
    exact hmem
  · intro h
    exact ⟨(⟨name, false⟩, number), List.mk_mem_zipIdx_iff_le_and_getElem?_sub.mpr h, rfl⟩

theorem nodup_numbered (n : Nat) (groups : List CaptureGroup) :
    ((numbered n groups).map (·.1)).Nodup := by
  induction groups generalizing n with
  | nil => exact .nil
  | cons group groups ih =>
      have hnew : n + 1 ∉ (numbered (n + 1) groups).map (·.1) := by
        intro hmem
        obtain ⟨⟨number, name⟩, hnumber, rfl⟩ := List.mem_map.mp hmem
        exact absurd (mem_numbered_iff.mp hnumber).1 (Nat.lt_irrefl _)
      rw [numbered_cons]
      split
      · exact ih (n + 1)
      · exact List.nodup_cons.mpr ⟨hnew, ih (n + 1)⟩

theorem lookup_numbered {i : Nat} {group : CaptureGroup} (h : groups[i]? = some group) :
    ((numbered 0 groups).lookup (i + 1)).join = group.known := by
  obtain ⟨name, struck⟩ := group
  have hfound : ∀ found, (numbered 0 groups).lookup (i + 1) = some found ↔
      found = name ∧ struck = false := by
    intro found
    rw [lookup_eq_some_iff_mem (nodup_numbered 0 groups), mem_numbered_iff]
    simp [h, eq_comm]
  cases struck with
  | false =>
      rw [(hfound name).mpr ⟨rfl, rfl⟩]
      rfl
  | true =>
      have hnone : (numbered 0 groups).lookup (i + 1) = none := by
        refine Option.eq_none_iff_forall_ne_some.mpr fun found hsome => ?_
        cases ((hfound found).mp hsome).2
      rw [hnone]
      rfl

end Syntax

/-! ### Groups of expressions -/

namespace Expr

theorem groups_sequence (es : List Expr) : (sequence es).groups = es.flatMap groups := by
  induction es with
  | nil => rfl
  | cons e es ih =>
      cases es with
      | nil => simp [sequence]
      | cons e' es => simp [sequence, groups, ih]

theorem groups_choice (es : List Expr) : (choice es).groups = es.flatMap groups := by
  induction es with
  | nil => rfl
  | cons e es ih =>
      cases es with
      | nil => simp [choice]
      | cons e' es => simp [choice, groups, ih]

/-- A repetition has the groups of what it repeats, unless that is repeated no times at all. -/
theorem groups_repeated (min : Nat) (max : Option Nat) (greedy : Bool) (e : Expr) :
    (repeated min max greedy e).groups = if min = 0 ∧ max = some 0 then [] else e.groups := by
  -- What can only match the empty text has its bounds cut down to one, and that makes neither
  -- of them zero.
  have hnever : (if e.onlyEmpty then Nat.min min 1 else min) = 0 ∧
      (if e.onlyEmpty then some ((max.map (Nat.min · 1)).getD 1) else max) = some 0 ↔
        min = 0 ∧ max = some 0 := by
    cases e.onlyEmpty with
    | false => rfl
    | true => cases max <;> simp
  have hbounds : ∀ (min' : Nat) (max' : Option Nat),
      (if min' = 0 ∧ max' = some 0 then empty
        else if min' = 1 ∧ max' = some 1 then e else times min' max' greedy e).groups =
        if min' = 0 ∧ max' = some 0 then [] else e.groups := by
    intro min' max'
    split
    · rfl
    · split <;> rfl
  exact (hbounds _ _).trans (if_congr hnever rfl rfl)

end Expr

namespace Syntax

variable {groups : List CaptureGroup}

/-! ### What the reader has taken -/

/-- The groups of parts, the latest of which comes first. -/
def groupsOfParts (parts : List Part) : List (Nat × Option Text) :=
  parts.reverse.flatMap (·.expr.groups)

theorem groupsOfParts_cons (part : Part) (parts : List Part) :
    groupsOfParts (part :: parts) = groupsOfParts parts ++ part.expr.groups := by
  simp [groupsOfParts]

theorem groups_sequence_reverse (parts : List Part) :
    (sequence parts.reverse).expr.groups = groupsOfParts parts := by
  rw [sequence, Expr.groups_sequence, List.flatMap_map]
  rfl

theorem groups_inside (p : Progress) :
    p.inside.expr.groups = groupsOfParts p.branches ++ groupsOfParts p.parts := by
  rw [Progress.inside, choice, Expr.groups_choice, List.flatMap_map, List.reverse_cons,
    List.flatMap_append, List.flatMap_singleton, groups_sequence_reverse]
  rfl

/-- What has been read of an open group that has `n` groups before it: its branches and the parts
of the latest branch have the groups of the tokens. -/
inductive Level (n : Nat) : List Token → List CaptureGroup → List Part → List Part → Prop
  | start : Level n [] [] [] []
  | part {tokens tokens' : List Token} {groups groups' : List CaptureGroup}
      {branches parts : List Part} {part : Part} (before : Level n tokens groups branches parts)
      (piece : Piece tokens' groups')
      (h : part.expr.groups = numbered (n + groups.length) groups') :
      Level n (tokens ++ tokens') (groups ++ groups') branches (part :: parts)
  | bar {tokens : List Token} {groups : List CaptureGroup} {branches parts : List Part}
      (before : Level n tokens groups branches parts) :
      Level n (tokens ++ [.bar]) groups (sequence parts.reverse :: branches) []

theorem Level.pieces {branches parts : List Part} (h : Level n tokens groups branches parts) :
    Pieces tokens groups := by
  induction h with
  | start => exact .nothing
  | part _ piece _ ih => exact .onward ih piece
  | bar _ ih =>
      have hbar : Piece [.bar] [] := .leaf rfl
      have hpieces := Pieces.onward ih hbar
      rwa [List.append_nil] at hpieces

theorem Level.groups_eq {branches parts : List Part} (h : Level n tokens groups branches parts) :
    groupsOfParts branches ++ groupsOfParts parts = numbered n groups := by
  induction h with
  | start => rfl
  | part _ _ hpart ih =>
      rw [groupsOfParts_cons, ← List.append_assoc, ih, hpart, ← numbered_append]
  | bar _ ih =>
      rw [groupsOfParts_cons, groups_sequence_reverse, ih]
      exact List.append_nil _

/-- The groups that are open, the innermost first, with the tokens up to the opening of the
innermost one, which has `n` groups before its inside. -/
inductive Opening : List Opened → List Token → Nat → Prop
  | outermost : Opening [] [] 0
  | plain {stack : List Opened} {before tokens : List Token} {groups : List CaptureGroup}
      {branches parts : List Part} {n : Nat} (flags : Flags) (changes : FlagChanges)
      (outer : Opening stack before n) (level : Level n tokens groups branches parts) :
      Opening (⟨none, flags, branches, parts⟩ :: stack)
        (before ++ tokens ++ [.openPlain changes]) (n + groups.length)
  | capture {stack : List Opened} {before tokens : List Token} {groups : List CaptureGroup}
      {branches parts : List Part} {n : Nat} (flags : Flags) (name : Option Text)
      (outer : Opening stack before n) (level : Level n tokens groups branches parts) :
      Opening (⟨some (n + groups.length + 1, name), flags, branches, parts⟩ :: stack)
        (before ++ tokens ++ [.openCapture name]) (n + groups.length + 1)

/-- The reader has taken these tokens and has kept all their groups. -/
def Accounts (read : List Token) (p : Progress) : Prop :=
  ∃ before tokens n groups, read = before ++ tokens ∧ Opening p.stack before n ∧
    Level n tokens groups p.branches p.parts ∧ p.groups = n + groups.length

variable {p p' : Progress}

theorem accounts_start : Accounts [] .start :=
  ⟨[], [], 0, [], rfl, .outermost, .start, rfl⟩

/-- A token of its own adds a part without groups. -/
theorem take?_leaf (h : token.isLeaf) (hbar : token ≠ .bar) (hp : p.take? token = some p') :
    ∃ part flags, part.expr.groups = [] ∧
      p' = { p with flags := flags, parts := part :: p.parts } := by
  have hchar : ∀ c, (p.charExpr c).groups = [] := by
    intro c
    unfold Progress.charExpr
    split
    · dsimp only
      split <;> rfl
    · rfl
  cases token with
  | char c =>
      cases hp
      exact ⟨_, _, hchar c, rfl⟩
  | openCapture name => cases h
  | openPlain changes => cases h
  | close => cases h
  | bar => exact absurd rfl hbar
  | repetition min max greedy => cases h
  | _ =>
      cases hp
      exact ⟨_, _, rfl, rfl⟩

theorem Accounts.leaf (h : Accounts read p) (hleaf : token.isLeaf)
    (hp : p.take? token = some p') : Accounts (read ++ [token]) p' := by
  obtain ⟨before, tokens, n, groups, rfl, hopening, hlevel, hgroups⟩ := h
  by_cases hbar : token = .bar
  · subst hbar
    cases hp
    exact ⟨before, tokens ++ [.bar], n, groups, List.append_assoc _ _ _, hopening, .bar hlevel,
      hgroups⟩
  · obtain ⟨part, flags, hpart, rfl⟩ := take?_leaf hleaf hbar hp
    have hpart' : part.expr.groups = numbered (n + groups.length) [] := hpart
    have hlevel' := Level.part hlevel (.leaf hleaf) hpart'
    rw [List.append_nil] at hlevel'
    exact ⟨before, tokens ++ [token], n, groups, List.append_assoc _ _ _, hopening, hlevel',
      hgroups⟩

theorem Accounts.openPlain (h : Accounts read p) (changes : FlagChanges) (flags : Flags) :
    Accounts (read ++ [.openPlain changes]) (p.openGroup none flags) := by
  obtain ⟨before, tokens, n, groups, rfl, hopening, hlevel, hgroups⟩ := h
  exact ⟨_, [], _, [], (List.append_nil _).symm, .plain p.flags changes hopening hlevel, .start,
    hgroups⟩

theorem openCapture?_eq_some {name : Option Text} (h : p.openCapture? name = some p') :
    ∃ names, p' = { p with groups := p.groups + 1, names := names }.openGroup
      (some (p.groups + 1, name)) p.flags := by
  unfold Progress.openCapture? at h
  cases name with
  | none =>
      cases h
      exact ⟨_, rfl⟩
  | some name =>
      dsimp only at h
      split at h
      · cases h
      · cases h
        exact ⟨_, rfl⟩

theorem Accounts.openCapture {name : Option Text} (h : Accounts read p)
    (hp : p.openCapture? name = some p') : Accounts (read ++ [.openCapture name]) p' := by
  obtain ⟨names, rfl⟩ := openCapture?_eq_some hp
  obtain ⟨before, tokens, n, groups, rfl, hopening, hlevel, hgroups⟩ := h
  rw [hgroups]
  exact ⟨_, [], _, [], (List.append_nil _).symm, .capture p.flags name hopening hlevel, .start,
    rfl⟩

/-- A group that is closed is a piece of the group around it. -/
theorem Accounts.close (h : Accounts read p) (hp : p.close? = some p') :
    Accounts (read ++ [.close]) p' := by
  obtain ⟨before, tokens, n, groups, rfl, hopening, hlevel, hgroups⟩ := h
  obtain ⟨flags, count, names, branches, parts, stack⟩ := p
  have hinside : (Progress.inside ⟨flags, count, names, branches, parts, stack⟩).expr.groups =
      numbered n groups := (groups_inside _).trans hlevel.groups_eq
  -- What was read since the opening parenthesis becomes the inside of a piece one level up.
  cases hopening with
  | outermost => cases hp
  | @plain stack before tokens' groups' branches' parts' n flags' changes outer level =>
      cases hp
      refine ⟨before, _, _, _, ?_, outer, .part level (.plain changes hlevel.pieces) hinside, ?_⟩
      · simp
      · rw [hgroups, List.length_append, Nat.add_assoc]
  | @capture stack before tokens' groups' branches' parts' n flags' name outer level =>
      cases hp
      refine ⟨before, _, _, _, ?_, outer, .part level (.capture name hlevel.pieces) ?_, ?_⟩
      · simp
      · rw [Expr.groups, hinside, numbered_cons]
        rfl
      · rw [hgroups, List.length_append, List.length_cons]
        omega

/-- What is repeated is the latest piece. -/
theorem Accounts.repeat {min : Nat} {max : Option Nat} {greedy : Bool} (h : Accounts read p)
    (hp : p.repeat? min max greedy = some p') :
    Accounts (read ++ [.repetition min max greedy]) p' := by
  obtain ⟨before, tokens, n, groups, rfl, hopening, hlevel, hgroups⟩ := h
  obtain ⟨flags, count, names, branches, parts, stack⟩ := p
  -- At the beginning of a branch there is nothing to repeat.
  cases hlevel with
  | start => cases hp
  | bar _ => cases hp
  | @part tokens tokens' groups groups' _ parts part level piece hpart =>
      unfold Progress.repeat? at hp
      dsimp only at hp
      split at hp
      · cases hp
      · cases hp
        refine ⟨before, _, n, _, ?_, hopening, .part level (.repeated min max greedy piece) ?_, ?_⟩
        · simp
        · rw [Expr.groups_repeated, numbered_repeatGroups, hpart]
        · rw [hgroups, List.length_append, List.length_append, length_repeatGroups]

/-- A step of the reader. -/
theorem Accounts.take (h : Accounts read p) (hp : p.take? token = some p') :
    Accounts (read ++ [token]) p' := by
  cases token with
  | openCapture name => exact h.openCapture hp
  | openPlain changes =>
      cases hp
      exact h.openPlain changes _
  | close => exact h.close hp
  | repetition min max greedy => exact h.repeat hp
  | _ => exact h.leaf rfl hp

theorem Accounts.takeAll (h : Accounts read p) (hp : tokens.foldlM Progress.take? p = some p') :
    Accounts (read ++ tokens) p' := by
  induction tokens generalizing read p with
  | nil =>
      cases hp
      rwa [List.append_nil]
  | cons token tokens ih =>
      obtain ⟨next, hnext, hrest⟩ := Option.bind_eq_some_iff.mp hp
      rw [List.append_cons]
      exact ih (h.take hnext) hrest

/-! ### Names -/

/-- A step of the reader notes the name that the token gives to a group, and refuses one that was
given before. -/
theorem names_of_take? (hp : p.take? token = some p') :
    p'.names = (token.captureName?.join.toList) ++ p.names ∧ (p.names.Nodup → p'.names.Nodup) := by
  cases token with
  | openCapture name =>
      rw [Progress.take?] at hp
      unfold Progress.openCapture? at hp
      cases name with
      | none =>
          cases hp
          exact ⟨rfl, id⟩
      | some name =>
          dsimp only at hp
          split at hp
          · cases hp
          · rename_i hnew
            cases hp
            exact ⟨rfl, List.nodup_cons.mpr ∘ And.intro hnew⟩
  | close =>
      rw [Progress.take?] at hp
      unfold Progress.close? at hp
      split at hp <;> cases hp
      exact ⟨rfl, id⟩
  | repetition min max greedy =>
      rw [Progress.take?] at hp
      unfold Progress.repeat? at hp
      split at hp
      · cases hp
      · split at hp <;> cases hp
        exact ⟨rfl, id⟩
  | _ =>
      cases hp
      exact ⟨rfl, id⟩

theorem names_of_takeAll (hp : tokens.foldlM Progress.take? p = some p') :
    p'.names = ((tokens.filterMap Token.captureName?).filterMap id).reverse ++ p.names ∧
      (p.names.Nodup → p'.names.Nodup) := by
  induction tokens generalizing p with
  | nil =>
      cases hp
      exact ⟨rfl, id⟩
  | cons token tokens ih =>
      obtain ⟨next, hnext, hrest⟩ := Option.bind_eq_some_iff.mp hp
      obtain ⟨hnames, hnodup⟩ := names_of_take? hnext
      obtain ⟨hnames', hnodup'⟩ := ih hrest
      refine ⟨?_, hnodup' ∘ hnodup⟩
      rw [hnames', hnames, List.filterMap_cons]
      rcases token.captureName? with _ | _ | name <;> simp

/-! ### Whole patterns -/

/-- **The groups of a pattern.** Tokens that denote an expression are pieces in a row. The
expression has their groups, each under its place in the order of opening parentheses, apart from
those that are struck; and no two groups have one name. -/
theorem groups_of_ofTokens? {e : Expr} (h : ofTokens? tokens = some e) :
    ∃ groups, Pieces tokens groups ∧ e.groups = numbered 0 groups ∧
      (groups.filterMap (·.name)).Nodup := by
  obtain ⟨p, hp, he⟩ := Option.bind_eq_some_iff.mp h
  obtain ⟨before, inside, n, groups, htokens, hopening, hlevel, -⟩ := accounts_start.takeAll hp
  obtain ⟨hnames, hnodup⟩ := names_of_takeAll hp
  dsimp only at he
  split at he
  · rename_i hend
    cases he
    rw [Bool.and_eq_true, Bool.and_eq_true, List.isEmpty_iff] at hend
    rw [hend.1.1] at hopening
    -- No group is open at the end, so all tokens belong to the outermost level.
    cases hopening
    refine ⟨groups, ?_, ?_, ?_⟩
    · rw [List.nil_append, List.nil_append] at htokens
      rw [htokens]
      exact hlevel.pieces
    · rw [groups_inside, hlevel.groups_eq]
    · rw [List.nil_append, List.nil_append] at htokens
      have hall := hnodup .nil
      rw [hnames, htokens, hlevel.pieces.names, Progress.start, List.append_nil,
        List.nodup_reverse, List.filterMap_map] at hall
      exact hall
  · cases he

theorem foldl_max_numbered (groups : List CaptureGroup) (group : CaptureGroup)
    (h : group.struck = false) :
    ((numbered 0 (groups ++ [group])).map (·.1)).foldl max 0 = groups.length + 1 := by
  have hlast : numbered 0 (groups ++ [group]) =
      numbered 0 groups ++ [(groups.length + 1, group.name)] := by
    rw [numbered_append, Nat.zero_add, numbered_cons, h]
    rfl
  have hbound : ((numbered 0 groups).map (·.1)).foldl max 0 ≤ groups.length := by
    refine List.foldlRecOn (motive := (· ≤ groups.length)) _ max (Nat.zero_le _)
      fun highest hle number hmem => ?_
    obtain ⟨⟨number, name⟩, hnumber, rfl⟩ := List.mem_map.mp hmem
    obtain ⟨hpos, hgroup⟩ := mem_numbered_iff.mp hnumber
    have hlt := (List.getElem?_eq_some_iff.mp hgroup).1
    exact max_le hle (by dsimp only; omega)
  rw [hlast, List.map_append, List.foldl_append]
  exact max_eq_right (Nat.le_succ_of_le hbound)

/-- **Known groups.** The machine for the groups of a pattern knows them up to the last that is
not struck. -/
theorem groupNames_numbered (groups : List CaptureGroup) :
    Program.groupNames (numbered 0 groups) =
      (groups.rdropWhile (·.struck)).map CaptureGroup.known := by
  induction groups using List.reverseRecOn with
  | nil => rfl
  | append_singleton groups group ih =>
      cases h : group.struck with
      | true =>
          have hnone : numbered (0 + groups.length) [group] = [] := by
            rw [numbered_cons, h]
            rfl
          rw [List.rdropWhile_concat_pos _ _ _ h, numbered_append, hnone, List.append_nil, ih]
      | false =>
          rw [List.rdropWhile_concat_neg _ _ _ (by simp [h]), Program.groupNames,
            foldl_max_numbered groups group h]
          refine List.ext_getElem (by simp) fun i _ hi => ?_
          rw [List.length_map] at hi
          have hgroup : (groups ++ [group])[i]? = some (groups ++ [group])[i] :=
            List.getElem?_eq_getElem hi
          rw [List.getElem_map, List.getElem_range, lookup_numbered hgroup, List.getElem_map]

end Syntax

end Playbook.Pattern
