import Playbook.Pattern.Builtin
import Playbook.Proofs.Pattern.Code

/-!
# Playbook.Proofs.Pattern.Matching

What an expression matches, and that its machine matches just that. `Expr.Matches` says what it
is to match a part of a text, together with the passes of groups on the way; it knows neither
instructions nor marks.

Code that stands in a program implements a relation between places (`Implements`) if a thread
that comes to accept from its start passes its end, with the relation in between and the passes
noted in the marks, and if a thread can go from its start to its end wherever the relation
holds. There is one lemma for every way to make code of code, and `implements_emit` puts them
together along the expression. A thread that accepts takes a finite number of steps, and the
loops are by induction on that number.
-/

namespace Playbook.Pattern

/-! ### Matches -/

/-- A group has matched the text between two places. -/
structure Pass where
  group : Nat
  first : Nat
  last : Nat
  deriving DecidableEq, Repr

/-- The text that was matched. -/
def Pass.textIn (pass : Pass) (text : Text) : Text :=
  (text.drop pass.first).take (pass.last - pass.first)

/-- What a group has matched in the end: the text of its latest pass, which comes first. -/
def taken? (passes : List Pass) (text : Text) (group : Nat) : Option Text :=
  (passes.find? (·.group == group)).map (·.textIn text)

/-- The expression matches the text from one place to another, with these passes of its groups,
of which the latest comes first. -/
inductive Expr.Matches (text : Text) : Expr → Nat → Nat → List Pass → Prop
  | empty {i : Nat} : Matches text .empty i i []
  | char {c : Char} {i : Nat} (h : text[i]? = some c) : Matches text (.char c) i (i + 1) []
  | set {s : CharSet} {c : Char} {i : Nat} (h : text[i]? = some c) (hc : s.contains c) :
      Matches text (.set s) i (i + 1) []
  | assertion {a : Assertion} {i : Nat} (h : a.holds (text.take i).getLast? text[i]?) :
      Matches text (.assertion a) i i []
  | cat {a b : Expr} {i j k : Nat} {passes passes' : List Pass}
      (first : Matches text a i j passes) (second : Matches text b j k passes') :
      Matches text (.cat a b) i k (passes' ++ passes)
  | left {a b : Expr} {i j : Nat} {passes : List Pass} (h : Matches text a i j passes) :
      Matches text (.alt a b) i j passes
  | right {a b : Expr} {i j : Nat} {passes : List Pass} (h : Matches text b i j passes) :
      Matches text (.alt a b) i j passes
  /-- No more rounds are due. -/
  | stop {max : Option Nat} {greedy : Bool} {e : Expr} {i : Nat} :
      Matches text (.times 0 max greedy e) i i []
  /-- A round that is due or allowed, with the others after it. -/
  | round {min : Nat} {max : Option Nat} {greedy : Bool} {e : Expr} {i j k : Nat}
      {passes passes' : List Pass} (hmore : min ≠ 0 ∨ max ≠ some 0)
      (first : Matches text e i j passes)
      (rest : Matches text (.times (min - 1) (max.map (· - 1)) greedy e) j k passes') :
      Matches text (.times min max greedy e) i k (passes' ++ passes)
  | group {index : Nat} {name : Option Text} {e : Expr} {i j : Nat} {passes : List Pass}
      (inside : Matches text e i j passes) :
      Matches text (.group index name e) i j (⟨index, i, j⟩ :: passes)

variable {text : Text} {e a b : Expr} {i j k : Nat} {passes passes' : List Pass}

/-- Only groups of the expression have passes. -/
theorem Expr.Matches.groups (h : e.Matches text i j passes) :
    ∀ pass ∈ passes, pass.group ∈ e.groups.map (·.1) := by
  induction h with
  | cat _ _ iha ihb =>
      rw [Expr.groups, List.map_append]
      intro pass hpass
      rcases List.mem_append.mp hpass with hpass | hpass
      · exact List.mem_append_right _ (ihb pass hpass)
      · exact List.mem_append_left _ (iha pass hpass)
  | left _ ih =>
      rw [Expr.groups, List.map_append]
      exact fun pass hpass => List.mem_append_left _ (ih pass hpass)
  | right _ ih =>
      rw [Expr.groups, List.map_append]
      exact fun pass hpass => List.mem_append_right _ (ih pass hpass)
  | round _ _ _ ihfirst ihrest =>
      intro pass hpass
      rcases List.mem_append.mp hpass with hpass | hpass
      · exact ihrest pass hpass
      · exact ihfirst pass hpass
  | group _ ih =>
      rw [Expr.groups, List.map_cons]
      exact List.forall_mem_cons.mpr
        ⟨List.mem_cons_self, fun pass hpass => List.mem_cons_of_mem _ (ih pass hpass)⟩
  | _ => exact nofun

/-! ### Passes in the marks -/

/-- The marks hold the two ends of the latest pass of every group. -/
def Reflects (marks : Marks) (passes : List Pass) : Prop :=
  ∀ group, marks.lookup (2 * group) = (passes.find? (·.group == group)).map (·.first) ∧
    marks.lookup (2 * group + 1) = (passes.find? (·.group == group)).map (·.last)

variable {marks marks' noted : Marks}

theorem reflects_nil : Reflects [] [] := fun _ => ⟨rfl, rfl⟩

theorem Reflects.append (h : Reflects marks passes) (h' : Reflects marks' passes') :
    Reflects (marks ++ marks') (passes ++ passes') := by
  intro group
  rw [List.lookup_append, List.lookup_append, List.find?_append, (h group).1, (h group).2,
    (h' group).1, (h' group).2]
  -- The marks and passes in front are the later ones, and where they have none the others count.
  constructor <;> cases passes.find? (·.group == group) <;> rfl

/-- A group is closed around passes of other groups. -/
theorem Reflects.group {index : Nat} (h : Reflects marks passes)
    (hnew : ∀ pass ∈ passes, pass.group ≠ index) (i j : Nat) :
    Reflects ((2 * index + 1, j) :: marks ++ [(2 * index, i)]) (⟨index, i, j⟩ :: passes) := by
  intro group
  rw [List.find?_cons, List.cons_append, List.lookup_cons, List.lookup_cons, List.lookup_append,
    List.lookup_append, (h group).1, (h group).2]
  -- The slots of a group are an even number and the next one, so those of two groups never meet.
  by_cases hgroup : index = group
  · subst hgroup
    have hnone : passes.find? (·.group == index) = none :=
      List.find?_eq_none.mpr fun pass hpass => by simpa using hnew pass hpass
    have hodd : (2 * index == 2 * index + 1) = false := beq_false_of_ne (by omega)
    simp [hnone, hodd]
  · have hopen : (2 * group == 2 * index + 1) = false := beq_false_of_ne (by omega)
    have hclose : (2 * group + 1 == 2 * index + 1) = false := beq_false_of_ne (by omega)
    have hopen' : (2 * group == 2 * index) = false := beq_false_of_ne (by omega)
    have hclose' : (2 * group + 1 == 2 * index) = false := beq_false_of_ne (by omega)
    simp [beq_false_of_ne hgroup, hopen, hclose, hopen', hclose', List.lookup_cons]

theorem Reflects.groupText? (h : Reflects marks passes) (text : Text) (group : Nat) :
    Program.groupText? marks text group = taken? passes text group := by
  rw [Program.groupText?, (h group).1, (h group).2, taken?]
  cases passes.find? (·.group == group) <;> rfl

/-! ### What an expression matches, by its parts -/

namespace Expr

variable {min : Nat} {max : Option Nat} {greedy : Bool}

theorem matches_empty_iff : Expr.empty.Matches text i j passes ↔ j = i ∧ passes = [] := by
  constructor
  · intro h
    cases h
    exact ⟨rfl, rfl⟩
  · intro h
    obtain ⟨rfl, rfl⟩ := h
    exact .empty

theorem matches_char_iff {c : Char} : (Expr.char c).Matches text i j passes ↔
    text[i]?.any (· == c) ∧ j = i + 1 ∧ passes = [] := by
  rw [Option.any_eq_true]
  constructor
  · intro h
    cases h with
    | char hread => exact ⟨⟨c, hread, beq_self_eq_true c⟩, rfl, rfl⟩
  · intro h
    obtain ⟨⟨c', hread, hc⟩, rfl, rfl⟩ := h
    cases eq_of_beq hc
    exact .char hread

theorem matches_set_iff {s : CharSet} : (Expr.set s).Matches text i j passes ↔
    text[i]?.any s.contains ∧ j = i + 1 ∧ passes = [] := by
  rw [Option.any_eq_true]
  constructor
  · intro h
    cases h with
    | set hread hc => exact ⟨⟨_, hread, hc⟩, rfl, rfl⟩
  · intro h
    obtain ⟨⟨c, hread, hc⟩, rfl, rfl⟩ := h
    exact .set hread hc

theorem matches_assertion_iff {a : Assertion} : (Expr.assertion a).Matches text i j passes ↔
    a.holds (text.take i).getLast? text[i]? ∧ j = i ∧ passes = [] := by
  constructor
  · intro h
    cases h with
    | assertion hholds => exact ⟨hholds, rfl, rfl⟩
  · intro h
    obtain ⟨hholds, rfl, rfl⟩ := h
    exact .assertion hholds

theorem matches_cat_iff : (Expr.cat a b).Matches text i k passes ↔ ∃ j first second,
    a.Matches text i j first ∧ b.Matches text j k second ∧ passes = second ++ first := by
  constructor
  · intro h
    cases h with
    | cat hfirst hsecond => exact ⟨_, _, _, hfirst, hsecond, rfl⟩
  · intro h
    obtain ⟨j, first, second, hfirst, hsecond, rfl⟩ := h
    exact .cat hfirst hsecond

theorem matches_alt_iff : (Expr.alt a b).Matches text i j passes ↔
    a.Matches text i j passes ∨ b.Matches text i j passes := by
  constructor
  · intro h
    cases h with
    | left hleft => exact .inl hleft
    | right hright => exact .inr hright
  · intro h
    rcases h with hleft | hright
    · exact .left hleft
    · exact .right hright

/-- A repetition stops if no round is due, or it begins with a round. -/
theorem matches_times_iff : (Expr.times min max greedy e).Matches text i k passes ↔
    (min = 0 ∧ k = i ∧ passes = []) ∨ ((min ≠ 0 ∨ max ≠ some 0) ∧ ∃ j first rest,
      e.Matches text i j first ∧
      (Expr.times (min - 1) (max.map (· - 1)) greedy e).Matches text j k rest ∧
      passes = rest ++ first) := by
  constructor
  · intro h
    cases h with
    | stop => exact .inl ⟨rfl, rfl, rfl⟩
    | round hmore hfirst hrest => exact .inr ⟨hmore, _, _, _, hfirst, hrest, rfl⟩
  · intro h
    rcases h with ⟨rfl, rfl, rfl⟩ | ⟨hmore, j, first, rest, hfirst, hrest, rfl⟩
    · exact .stop
    · exact .round hmore hfirst hrest

theorem matches_group_iff {index : Nat} {name : Option Text} :
    (Expr.group index name e).Matches text i j passes ↔
      ∃ inside, e.Matches text i j inside ∧ passes = ⟨index, i, j⟩ :: inside := by
  constructor
  · intro h
    cases h with
    | group hinside => exact ⟨_, hinside, rfl⟩
  · intro h
    obtain ⟨inside, hinside, rfl⟩ := h
    exact .group hinside

/-- Induction on the rounds of a repetition that has no bounds. -/
theorem Matches.rounds_induction {motive : Nat → Nat → Prop}
    (h : (Expr.times 0 none greedy e).Matches text i k passes) (stop : ∀ i, motive i i)
    (round : ∀ i j k passes, e.Matches text i j passes → motive j k → motive i k) :
    motive i k := by
  generalize htimes : Expr.times 0 none greedy e = repetition at h
  induction h with
  | stop => exact stop _
  | round _ hfirst _ _ ih =>
      cases htimes
      exact round _ _ _ _ hfirst (ih rfl)
  | _ => cases htimes

end Expr

/-! ### Code in a program -/

namespace Program

open Place (nth)

variable {p : Program} {n base start middle stop : Nat} {code : List Instr} {instr : Instr}
  {place : Place} {t : Thread} {threads : List Thread} {final : Marks}

/-- The code stands in the program at an address. -/
def Stands (p : Program) (base : Nat) (code : List Instr) : Prop :=
  ∀ k instr, code[k]? = some instr → p.code[base + k]? = some instr

@[simp] theorem stands_nil : p.Stands base [] := nofun

@[simp] theorem stands_cons :
    p.Stands base (instr :: code) ↔ p.code[base]? = some instr ∧ p.Stands (base + 1) code := by
  constructor
  · intro h
    refine ⟨h 0 instr rfl, fun k instr' hinstr => ?_⟩
    rw [Nat.add_assoc, Nat.add_comm 1]
    exact h (k + 1) instr' hinstr
  · intro h k instr' hinstr
    obtain ⟨hfirst, hrest⟩ := h
    cases k with
    | zero =>
        cases hinstr
        exact hfirst
    | succ k =>
        have hk := hrest k instr' hinstr
        rwa [Nat.add_assoc, Nat.add_comm 1] at hk

@[simp] theorem stands_append {code' : List Instr} :
    p.Stands base (code ++ code') ↔ p.Stands base code ∧ p.Stands (base + code.length) code' := by
  induction code generalizing base with
  | nil => simp
  | cons instr code ih =>
      rw [List.cons_append, stands_cons, stands_cons, ih, List.length_cons, and_assoc,
        Nat.add_assoc, Nat.add_comm 1]

/-! ### Steps -/

/-- A thread that goes on comes to accept through one of the threads it goes on as. -/
theorem Finds.step (run : p.Finds n t final) (h : p.step t = .goesOn threads) :
    ∃ m, n = m + 1 ∧ ∃ t' ∈ threads, p.Finds m t' final := by
  cases run with
  | here h' => cases h.symm.trans h'
  | onward h' ht run =>
      cases h.symm.trans h'
      exact ⟨_, rfl, _, ht, run⟩

theorem Finds.marks_eq (run : p.Finds n t final) (h : p.step t = .found marks) : final = marks := by
  cases run with
  | here h' =>
      cases h.symm.trans h'
      rfl
  | onward h' _ _ => cases h.symm.trans h'

theorem accepts_of_step {t' : Thread} (h : p.step t = .goesOn threads) (ht : t' ∈ threads)
    (run : p.Accepts t'.address t'.place) : p.Accepts t.address t.place := by
  refine .onward ?_ run
  rw [← (next_of_step_goesOn h).2]
  exact List.mem_map_of_mem (f := Thread.position) ht

theorem step_fork {preferred other : Nat} (h : p.code[start]? = some (.fork preferred other))
    (place : Place) (marks : Marks) : p.step ⟨start, place, marks⟩ =
      .goesOn [⟨preferred, place, marks⟩, ⟨other, place, marks⟩] := by
  rw [Program.step, h]

theorem step_branch {greedy : Bool} {inside outside : Nat}
    (h : p.code[start]? = some (.branch greedy inside outside)) (place : Place) (marks : Marks) :
    ∃ threads, p.step ⟨start, place, marks⟩ = .goesOn threads ∧
      ∀ t, t ∈ threads ↔ t = ⟨inside, place, marks⟩ ∨ t = ⟨outside, place, marks⟩ := by
  cases greedy with
  | true => exact ⟨_, step_fork h place marks, fun t => List.mem_pair⟩
  | false => exact ⟨_, step_fork h place marks, fun t => List.mem_pair.trans or_comm⟩

theorem step_mark {slot : Nat} (h : p.code[start]? = some (.mark slot)) (text : Text) (i : Nat)
    (marks : Marks) : p.step ⟨start, nth text i, marks⟩ =
      .goesOn [⟨start + 1, nth text i, (slot, i) :: marks⟩] := by
  rw [Program.step, h]
  rfl

/-! ### Code that implements a relation -/

/-- From one address of the program to another the text is matched as a relation says, from a place
to a place with some passes of groups: a thread that comes to accept from the first address does
so by way of the second, in no more steps, with the passes noted in its marks; and a thread at
the first address can go where the relation leads. -/
structure Implements (p : Program) (text : Text) (start stop : Nat)
    (R : Nat → Nat → List Pass → Prop) : Prop where
  sound : ∀ {n i marks final}, p.Finds n ⟨start, nth text i, marks⟩ final →
    ∃ m ≤ n, ∃ j passes noted, R i j passes ∧ Reflects noted passes ∧
      p.Finds m ⟨stop, nth text j, noted ++ marks⟩ final
  complete : ∀ {i j passes}, R i j passes → p.Accepts stop (nth text j) →
    p.Accepts start (nth text i)

variable {R S : Nat → Nat → List Pass → Prop}

theorem Implements.congr (h : p.Implements text start stop R)
    (hiff : ∀ i j passes, S i j passes ↔ R i j passes) : p.Implements text start stop S where
  sound run := by
    obtain ⟨m, hm, j, passes, noted, hR, hrest⟩ := h.sound run
    exact ⟨m, hm, j, passes, noted, (hiff _ _ _).mpr hR, hrest⟩
  complete hS := h.complete ((hiff _ _ _).mp hS)

theorem implements_nothing (p : Program) (text : Text) (start : Nat) :
    p.Implements text start start fun i j passes => j = i ∧ passes = [] where
  sound run := ⟨_, Nat.le_refl _, _, _, _, ⟨rfl, rfl⟩, reflects_nil, run⟩
  complete := by
    intro i j passes h run
    obtain ⟨rfl, rfl⟩ := h
    exact run

theorem Implements.seq (h : p.Implements text start middle R)
    (h' : p.Implements text middle stop S) :
    p.Implements text start stop fun i k passes =>
      ∃ j first second, R i j first ∧ S j k second ∧ passes = second ++ first where
  sound run := by
    obtain ⟨m, hm, j, first, noted, hR, hnoted, run⟩ := h.sound run
    obtain ⟨m', hm', k, second, noted', hS, hnoted', run⟩ := h'.sound run
    refine ⟨m', hm'.trans hm, k, second ++ first, noted' ++ noted, ⟨j, first, second, hR, hS, rfl⟩,
      hnoted'.append hnoted, ?_⟩
    rwa [List.append_assoc]
  complete := by
    intro i k passes hboth run
    obtain ⟨j, first, second, hR, hS, rfl⟩ := hboth
    exact h.complete hR (h'.complete hS run)

/-- An instruction that lets a thread pass, maybe to another place of the text. -/
theorem implements_pass (ok : Nat → Bool) (go : Nat → Nat)
    (h : ∀ i marks, p.step ⟨start, nth text i, marks⟩ =
      .goesOn (if ok i then [⟨stop, nth text (go i), marks⟩] else [])) :
    p.Implements text start stop fun i j passes => ok i ∧ j = go i ∧ passes = [] where
  sound := by
    intro n i marks final run
    obtain ⟨m, rfl, t, ht, run⟩ := run.step (h i marks)
    split at ht
    · rename_i hok
      cases List.mem_singleton.mp ht
      exact ⟨m, Nat.le_succ m, _, _, _, ⟨hok, rfl, rfl⟩, reflects_nil, run⟩
    · cases ht
  complete := by
    intro i j passes hpass run
    obtain ⟨hok, rfl, rfl⟩ := hpass
    have hstep := h i []
    rw [if_pos hok] at hstep
    exact accepts_of_step hstep List.mem_cons_self run

theorem implements_char {c : Char} (h : p.code[start]? = some (.char c)) :
    p.Implements text start (start + 1) ((Expr.char c).Matches text) := by
  refine (implements_pass (fun i => text[i]?.any (· == c)) (· + 1)
    fun i marks => ?_).congr fun _ _ _ => Expr.matches_char_iff
  rw [Program.step, h]
  dsimp only
  rw [Place.read?_nth]
  split <;> rfl

theorem implements_set {s : CharSet} (h : p.code[start]? = some (.set s)) :
    p.Implements text start (start + 1) ((Expr.set s).Matches text) := by
  refine (implements_pass (fun i => text[i]?.any s.contains) (· + 1)
    fun i marks => ?_).congr fun _ _ _ => Expr.matches_set_iff
  rw [Program.step, h]
  dsimp only
  rw [Place.read?_nth]
  split <;> rfl

theorem implements_check {a : Assertion} (h : p.code[start]? = some (.check a)) :
    p.Implements text start (start + 1) ((Expr.assertion a).Matches text) := by
  refine (implements_pass (fun i => a.holds (text.take i).getLast? text[i]?) id
    fun i marks => ?_).congr fun _ _ _ => Expr.matches_assertion_iff
  have hnext : (nth text i).rest.head? = text[i]? := List.head?_drop
  rw [Program.step, h]
  simp only [hnext]
  rfl

theorem implements_jump (h : p.code[start]? = some (.jump stop)) :
    p.Implements text start stop fun i j passes => j = i ∧ passes = [] := by
  refine (implements_pass (fun _ => true) id fun i marks => ?_).congr
    fun _ _ _ => by simp
  rw [Program.step, h]
  rfl

/-- Behind a branch the thread goes either way. -/
theorem Implements.branch {greedy : Bool} {inside outside : Nat}
    (hcode : p.code[start]? = some (.branch greedy inside outside))
    (hin : p.Implements text inside stop R) (hout : p.Implements text outside stop S) :
    p.Implements text start stop fun i j passes => R i j passes ∨ S i j passes where
  sound := by
    intro n i marks final run
    obtain ⟨threads, hstep, hthreads⟩ := step_branch hcode (nth text i) marks
    obtain ⟨m, rfl, t, ht, run⟩ := run.step hstep
    rcases (hthreads t).mp ht with rfl | rfl
    · obtain ⟨m', hm', j, passes, noted, hR, hrest⟩ := hin.sound run
      exact ⟨m', Nat.le_succ_of_le hm', j, passes, noted, .inl hR, hrest⟩
    · obtain ⟨m', hm', j, passes, noted, hS, hrest⟩ := hout.sound run
      exact ⟨m', Nat.le_succ_of_le hm', j, passes, noted, .inr hS, hrest⟩
  complete := by
    intro i j passes h run
    obtain ⟨threads, hstep, hthreads⟩ := step_branch hcode (nth text i) []
    rcases h with hR | hS
    · exact accepts_of_step hstep ((hthreads _).mpr (.inl rfl)) (hin.complete hR run)
    · exact accepts_of_step hstep ((hthreads _).mpr (.inr rfl)) (hout.complete hS run)

/-- Marks around some code note a pass of a group that has none in it. -/
theorem Implements.group {index : Nat} (h : p.Implements text (start + 1) stop R)
    (hnew : ∀ i j passes, R i j passes → ∀ pass ∈ passes, pass.group ≠ index)
    (hopen : p.code[start]? = some (.mark (2 * index)))
    (hclose : p.code[stop]? = some (.mark (2 * index + 1))) :
    p.Implements text start (stop + 1) fun i j passes =>
      ∃ inside, R i j inside ∧ passes = ⟨index, i, j⟩ :: inside where
  sound := by
    intro n i marks final run
    obtain ⟨n, rfl, t, ht, run⟩ := run.step (step_mark hopen text i marks)
    cases List.mem_singleton.mp ht
    obtain ⟨m, hm, j, inside, noted, hR, hnoted, run⟩ := h.sound run
    obtain ⟨m, rfl, t, ht, run⟩ := run.step (step_mark hclose text j _)
    cases List.mem_singleton.mp ht
    refine ⟨m, by omega, j, _, _, ⟨inside, hR, rfl⟩, hnoted.group (hnew i j inside hR) i j, ?_⟩
    rwa [List.append_assoc]
  complete := by
    intro i j passes hgroup run
    obtain ⟨inside, hR, rfl⟩ := hgroup
    refine accepts_of_step (step_mark hopen text i []) List.mem_cons_self (h.complete hR ?_)
    exact accepts_of_step (step_mark hclose text j []) List.mem_cons_self run

/-! ### Repetitions -/

/-- A branch that some code leads back to. -/
theorem Implements.loop {greedy : Bool} {head inside outside : Nat}
    (hcode : p.code[head]? = some (.branch greedy inside outside))
    (hbody : p.Implements text inside head (e.Matches text)) :
    p.Implements text head outside ((Expr.times 0 none greedy e).Matches text) where
  sound := by
    intro n
    induction n using Nat.strongRecOn with
    | ind n ih =>
      intro i marks final run
      obtain ⟨threads, hstep, hthreads⟩ := step_branch hcode (nth text i) marks
      obtain ⟨n, rfl, t, ht, run⟩ := run.step hstep
      rcases (hthreads t).mp ht with rfl | rfl
      · -- Back at the branch fewer steps are left.
        obtain ⟨m, hm, j, first, noted, hfirst, hnoted, run⟩ := hbody.sound run
        obtain ⟨m', hm', k, rest, noted', hrest, hnoted', run⟩ :=
          ih m (Nat.lt_succ_of_le hm) run
        refine ⟨m', by omega, k, rest ++ first, noted' ++ noted, .round (.inr nofun) hfirst hrest,
          hnoted'.append hnoted, ?_⟩
        rwa [List.append_assoc]
      · exact ⟨n, Nat.le_succ n, i, [], [], .stop, reflects_nil, run⟩
  complete := by
    intro i j passes h run
    -- From the last round back to the first, the thread can go on from the branch.
    refine h.rounds_induction (motive := fun i j => p.Accepts outside (nth text j) →
      p.Accepts head (nth text i)) (fun i run => ?_) (fun i j k passes hfirst ih run => ?_) run
    · obtain ⟨threads, hstep, hthreads⟩ := step_branch hcode (nth text i) []
      exact accepts_of_step hstep ((hthreads _).mpr (.inr rfl)) run
    · obtain ⟨threads, hstep, hthreads⟩ := step_branch hcode (nth text i) []
      exact accepts_of_step hstep ((hthreads _).mpr (.inl rfl)) (hbody.complete hfirst (ih run))

section Repetitions

/-- Code that implements an expression wherever it stands. -/
def Realizes (p : Program) (text : Text) (code : Emitter) (e : Expr) : Prop :=
  ∀ base, p.Stands base (code base) →
    p.Implements text base (base + (code base).length) (e.Matches text)

variable {code : Emitter} {greedy : Bool} {min exit : Nat} {max : Option Nat}

/-- Copies do rounds that are due. -/
theorem Realizes.copies (h : p.Realizes text code e) (hcode : p.Stands base (copies code n base))
    (hrest : p.Implements text (base + (copies code n base).length) stop
      ((Expr.times min (max.map (· - n)) greedy e).Matches text)) :
    p.Implements text base stop ((Expr.times (n + min) max greedy e).Matches text) := by
  induction n generalizing base max with
  | zero =>
      rw [Nat.zero_add]
      cases max <;> exact hrest
  | succ n ih =>
      rw [Program.copies, stands_append] at hcode
      rw [Program.copies, List.length_append, ← Nat.add_assoc] at hrest
      have hmax : (max.map (· - 1)).map (· - n) = max.map (· - (n + 1)) := by
        cases max with
        | none => rfl
        | some max => simp [Nat.sub_sub, Nat.add_comm]
      rw [← hmax] at hrest
      have hmin : n + 1 + min - 1 = n + min := by omega
      refine ((h base hcode.1).seq (ih hcode.2 hrest)).congr fun i k passes => ?_
      rw [Expr.matches_times_iff, hmin]
      simp

/-- Branches do the rounds that are allowed. -/
theorem Realizes.upTo (h : p.Realizes text code e)
    (hcode : p.Stands base (upTo code greedy exit n base))
    (hexit : exit = base + (upTo code greedy exit n base).length) :
    p.Implements text base exit ((Expr.times 0 (some n) greedy e).Matches text) := by
  induction n generalizing base with
  | zero =>
      obtain rfl : exit = base := hexit
      refine (implements_nothing p text exit).congr fun i k passes => ?_
      rw [Expr.matches_times_iff]
      simp
  | succ n ih =>
      rw [Program.upTo, List.cons_append, stands_cons, stands_append] at hcode
      rw [Program.upTo, List.cons_append, List.length_cons, List.length_append] at hexit
      obtain ⟨hbranch, hbody, hnext⟩ := hcode
      refine (((h _ hbody).seq (ih hnext (by omega))).branch hbranch
        (implements_nothing p text exit)).congr fun i k passes => ?_
      rw [Expr.matches_times_iff, or_comm]
      simp

theorem Realizes.onceOrMore (h : p.Realizes text code e) (greedy : Bool) :
    p.Realizes text (onceOrMore code greedy) (.times 1 none greedy e) := by
  intro base hcode
  simp only [Program.onceOrMore, stands_append, stands_cons] at hcode
  obtain ⟨hbody, hbranch, -⟩ := hcode
  have hloop := Implements.loop hbranch (h base hbody)
  rw [Program.onceOrMore, List.length_append, ← Nat.add_assoc]
  refine ((h base hbody).seq hloop).congr fun i k passes => ?_
  rw [Expr.matches_times_iff]
  simp

theorem Realizes.anyNumber (h : p.Realizes text code e) (greedy : Bool) :
    p.Realizes text (anyNumber code greedy) (.times 0 none greedy e) := by
  intro base hcode
  simp only [Program.anyNumber, stands_append, stands_cons, List.cons_append] at hcode
  obtain ⟨hbranch, hbody, hjump, -⟩ := hcode
  have hround : p.Implements text (base + 1) base (e.Matches text) := by
    refine ((h (base + 1) hbody).seq (implements_jump hjump)).congr fun i k passes => ?_
    simp
  have hloop := Implements.loop hbranch hround
  simpa [Program.anyNumber, Nat.add_assoc] using hloop

/-- What is repeated once or more, or not at all, is repeated any number of times. -/
theorem Realizes.optional (h : p.Realizes text code (.times 1 none greedy e)) :
    p.Realizes text (optional code greedy) (.times 0 none greedy e) := by
  intro base hcode
  simp only [Program.optional, stands_cons] at hcode
  obtain ⟨hbranch, hbody⟩ := hcode
  have hexit : base + (Program.optional code greedy base).length =
      base + 1 + (code (base + 1)).length := by
    rw [Program.optional, List.length_cons]
    omega
  rw [hexit]
  refine ((h _ hbody).branch hbranch (implements_nothing p text _)).congr fun i k passes => ?_
  rw [Expr.matches_times_iff, Expr.matches_times_iff, or_comm]
  simp

theorem Realizes.times (h : p.Realizes text code e) (hrigid : Rigid code) (nullable : Bool)
    (min : Nat) (max : Option Nat) (greedy : Bool) :
    p.Realizes text (times code nullable min max greedy) (.times min max greedy e) := by
  intro base hcode
  cases max with
  | none =>
      cases min with
      | zero =>
          cases nullable with
          | false => exact h.anyNumber greedy base hcode
          | true => exact (h.onceOrMore greedy).optional base hcode
      | succ min =>
          dsimp only [Program.times] at hcode ⊢
          rw [stands_append] at hcode
          rw [List.length_append, ← Nat.add_assoc]
          exact h.copies hcode.1 (h.onceOrMore greedy _ hcode.2)
  | some max =>
      dsimp only [Program.times] at hcode ⊢
      rw [stands_append] at hcode
      -- The branches all leave for the address behind the last of them, which the code computes
      -- from the length of one round.
      have hlength := hrigid.length_upTo greedy
        (base + (Program.copies code min base).length + (max - min) * ((code base).length + 1))
        (max - min) (base + (Program.copies code min base).length) base
      rw [List.length_append, ← Nat.add_assoc, hlength]
      have hrounds := h.upTo hcode.2 (by rw [hlength])
      exact (h.copies hcode.1 hrounds :
        p.Implements text base _ ((Expr.times (min + 0) (some max) greedy e).Matches text))

end Repetitions

/-! ### Machines for expressions -/

/-- The code of an expression implements it. No group may stand in a group of the same number, since
its marks would be taken for those of the outer one. -/
theorem realizes_emit (p : Program) (text : Text) (e : Expr)
    (hgroups : (e.groups.map (·.1)).Nodup) : p.Realizes text (emit e) e := by
  induction e with
  | empty => exact fun base _ =>
      (implements_nothing p text base).congr fun _ _ _ => Expr.matches_empty_iff
  | char c => exact fun base hcode => implements_char (stands_cons.mp hcode).1
  | set s => exact fun base hcode => implements_set (stands_cons.mp hcode).1
  | assertion a => exact fun base hcode => implements_check (stands_cons.mp hcode).1
  | cat a b iha ihb =>
      rw [Expr.groups, List.map_append, List.nodup_append] at hgroups
      intro base hcode
      rw [emit, stands_append] at hcode
      rw [emit, List.length_append, ← Nat.add_assoc]
      exact ((iha hgroups.1 _ hcode.1).seq (ihb hgroups.2.1 _ hcode.2)).congr
        fun _ _ _ => Expr.matches_cat_iff
  | alt a b iha ihb =>
      rw [Expr.groups, List.map_append, List.nodup_append] at hgroups
      intro base hcode
      rw [emit, List.cons_append, stands_cons, stands_append, stands_cons] at hcode
      obtain ⟨hfork, hfirst, hjump, hsecond⟩ := hcode
      have hsecondAt : base + 1 + (emit a (base + 1)).length + 1 =
          base + (emit a (base + 1)).length + 2 := by omega
      have hend : base + (emit (.alt a b) base).length = base + (emit a (base + 1)).length + 2 +
          (emit b (base + (emit a (base + 1)).length + 2)).length := by
        rw [emit, List.cons_append, List.length_cons, List.length_append, List.length_cons]
        omega
      rw [hsecondAt] at hsecond
      rw [hend]
      -- The first alternative ends with a jump over the second.
      have hbranch : p.code[base]? = some (.branch true (base + 1)
          (base + (emit a (base + 1)).length + 2)) := hfork
      have hleft := ((iha hgroups.1 _ hfirst).seq (implements_jump hjump)).congr
        (S := a.Matches text) fun _ _ _ => by simp
      exact (hleft.branch hbranch (ihb hgroups.2.1 _ hsecond)).congr
        fun _ _ _ => Expr.matches_alt_iff
  | times min max greedy e ih =>
      intro base hcode
      rw [emit] at hcode ⊢
      exact (ih hgroups).times (rigid_emit e) _ _ _ _ base hcode
  | group index name e ih =>
      rw [Expr.groups, List.map_cons, List.nodup_cons] at hgroups
      intro base hcode
      rw [emit, List.cons_append, stands_cons, stands_append, stands_cons] at hcode
      obtain ⟨hopen, hinside, hclose, -⟩ := hcode
      -- No mark of this group is set inside it.
      have hnew : ∀ i j passes, e.Matches text i j passes →
          ∀ pass ∈ passes, pass.group ≠ index := by
        intro i j passes h pass hpass heq
        exact hgroups.1 (heq ▸ h.groups pass hpass)
      have hend : base + (emit (.group index name e) base).length =
          base + 1 + (emit e (base + 1)).length + 1 := by
        rw [emit, List.cons_append, List.length_cons, List.length_append, List.length_singleton]
        omega
      rw [hend]
      exact ((ih hgroups.2 _ hinside).group hnew hopen hclose).congr
        fun _ _ _ => Expr.matches_group_iff

theorem stands_ofExpr (e : Expr) : (ofExpr e).Stands 0 (emit e 0 ++ [.accept]) := by
  intro k instr hinstr
  rw [Nat.zero_add, ofExpr, List.getElem?_toArray]
  exact hinstr

/-- **Search.** The machine for an expression finds something in a text exactly if the expression
matches from some place of the text to another, and what it finds are the marks of such a
match. -/
theorem search_ofExpr (text : Text) (e : Expr) (hgroups : (e.groups.map (·.1)).Nodup) :
    match (ofExpr e).search text with
    | none => ∀ i j passes, i ≤ text.length → ¬ e.Matches text i j passes
    | some marks => ∃ i j passes, i ≤ text.length ∧ e.Matches text i j passes ∧
      Reflects marks passes := by
  have hcode := stands_ofExpr e
  rw [stands_append, stands_cons] at hcode
  obtain ⟨hemit, haccept, -⟩ := hcode
  have himplements := realizes_emit (ofExpr e) text e hgroups 0 hemit
  cases hsearch : (ofExpr e).search text with
  | none =>
      intro i j passes hi h
      have run : (ofExpr e).Accepts 0 (nth text i) := himplements.complete h (.here haccept)
      have hfound := (search_isSome_iff (contained_ofExpr e)).mpr ⟨i, hi, run⟩
      rw [hsearch] at hfound
      cases hfound
  | some marks =>
      obtain ⟨i, hi, n, run⟩ := exists_finds_of_search hsearch
      obtain ⟨m, -, j, passes, noted, hmatches, hnoted, run⟩ := himplements.sound run
      have hstep : (ofExpr e).step ⟨0 + (emit e 0).length, nth text j, noted ++ []⟩ =
          .found (noted ++ []) := by
        rw [Program.step, haccept]
      rw [List.append_nil] at hstep run
      rw [run.marks_eq hstep]
      exact ⟨i, j, passes, hi, hmatches, hnoted⟩

theorem ofText_eq_ok_iff {p : Program} :
    ofText text = .ok p ↔ ∃ e, Expr.ofText? text = some e ∧ p = ofWhole e := by
  rw [ofText]
  cases Expr.ofText? text <;> simp [eq_comm]

/-- The machine for a whole pattern notes where its expression has matched as well. -/
theorem search_ofWhole (text : Text) (e : Expr)
    (hgroups : ((Expr.group 0 none e).groups.map (·.1)).Nodup) :
    match (ofWhole e).search text with
    | none => ∀ i j passes, i ≤ text.length → ¬ e.Matches text i j passes
    | some marks => ∃ i j passes, i ≤ text.length ∧ e.Matches text i j passes ∧
      Reflects marks (⟨0, i, j⟩ :: passes) := by
  have hfound := search_ofExpr text (.group 0 none e) hgroups
  rw [ofWhole]
  cases hsearch : (ofExpr (.group 0 none e)).search text with
  | none =>
      rw [hsearch] at hfound
      exact fun i j passes hi h => hfound i j _ hi (.group h)
  | some marks =>
      rw [hsearch] at hfound
      obtain ⟨i, j, passes, hi, hmatches, hmarks⟩ := hfound
      obtain ⟨inside, hinside, rfl⟩ := Expr.matches_group_iff.mp hmatches
      exact ⟨i, j, inside, hi, hinside, hmarks⟩

theorem search_ofWhole_isSome_iff (text : Text) (e : Expr)
    (hgroups : ((Expr.group 0 none e).groups.map (·.1)).Nodup) :
    ((ofWhole e).search text).isSome ↔
      ∃ i j passes, i ≤ text.length ∧ e.Matches text i j passes := by
  have hfound := search_ofWhole text e hgroups
  cases hsearch : (ofWhole e).search text with
  | none =>
      rw [hsearch] at hfound
      constructor
      · exact nofun
      · intro h
        obtain ⟨i, j, passes, hi, hmatches⟩ := h
        exact absurd hmatches (hfound i j passes hi)
  | some marks =>
      rw [hsearch] at hfound
      obtain ⟨i, j, passes, hi, hmatches, -⟩ := hfound
      exact ⟨fun _ => ⟨i, j, passes, hi, hmatches⟩, fun _ => rfl⟩

end Program

end Playbook.Pattern
