import Mathlib.Data.Finset.Prod
import Playbook.Pattern.Search

/-!
# Playbook.Proofs.Pattern.Search

What a search finds. `Program.Accepts` says that a thread at an address and a place can
come to an end with success; it knows neither a stack, nor a set of explored pairs, nor a
bound on the number of steps. A search succeeds exactly if a thread at the beginning of the
program and at some place of the text accepts.

That nothing is missed rests on an invariant of the exploration (`Covered`): wherever a
thread may go from an explored pair, that pair was explored too or still waits on the stack.
When the stack is empty the explored pairs are closed, so none of them accepts.
-/

namespace Playbook.Pattern

/-! ### Places -/

namespace Place

variable {text : Text} {place : Place}

/-- The place of a text with a number. -/
def nth (text : Text) (i : Nat) : Place := ⟨i, (text.take i).getLast?, text.drop i⟩

theorem allFrom_eq (before rest : Text) :
    allFrom before.length before.getLast? rest =
      (List.range (rest.length + 1)).map fun i => nth (before ++ rest) (before.length + i) := by
  induction rest generalizing before with
  | nil => simp [allFrom, nth]
  | cons c rest ih =>
      have hnext := ih (before ++ [c])
      rw [List.length_append, List.getLast?_concat, List.length_singleton] at hnext
      have hplaces : ∀ i, nth (before ++ [c] ++ rest) (before.length + 1 + i) =
          nth (before ++ c :: rest) (before.length + (i + 1)) := by
        intro i
        rw [List.append_assoc, List.singleton_append, Nat.add_assoc, Nat.add_comm 1]
      have hfirst : nth (before ++ c :: rest) (before.length + 0) =
          ⟨before.length, before.getLast?, c :: rest⟩ := by
        simp [nth]
      rw [allFrom, hnext, List.length_cons, List.range_succ_eq_map (n := rest.length + 1),
        List.map_cons, List.map_map, hfirst]
      simp only [hplaces, Function.comp_def, Nat.succ_eq_add_one]

theorem all_eq (text : Text) : all text = (List.range (text.length + 1)).map (nth text) := by
  have hall := allFrom_eq [] text
  simp only [List.length_nil, List.getLast?_nil, List.nil_append, Nat.zero_add] at hall
  exact hall

/-- The places of a text are those with a number up to its length. -/
theorem mem_all_iff : place ∈ all text ↔ ∃ i ≤ text.length, place = nth text i := by
  rw [all_eq, List.mem_map]
  simp only [List.mem_range, Nat.lt_succ_iff, eq_comm]

theorem length_all (text : Text) : (all text).length = text.length + 1 := by
  rw [all_eq, List.length_map, List.length_range]

/-- Only the first place has no character before it. -/
theorem nth_before_isNone {i : Nat} (h : i ≤ text.length) :
    (nth text i).before.isNone ↔ i = 0 := by
  rw [nth, Option.isNone_iff_eq_none, List.getLast?_eq_none_iff, List.take_eq_nil_iff]
  constructor
  · rintro (hi | rfl)
    · exact hi
    · exact Nat.le_zero.mp h
  · exact .inl

/-- Reading a character leads to the next place of the text. -/
theorem read?_nth (text : Text) (i : Nat) (wanted : Char → Bool) :
    (nth text i).read? wanted = if text[i]?.any wanted then some (nth text (i + 1)) else none := by
  unfold read? nth
  by_cases hi : i < text.length
  · have hnext : text.take (i + 1) = text.take i ++ [text[i]] := List.take_succ_eq_append_getElem hi
    rw [List.drop_eq_getElem_cons hi, List.getElem?_eq_getElem hi, hnext, List.getLast?_concat]
    rfl
  · rw [List.drop_eq_nil_of_le (Nat.le_of_not_lt hi), List.getElem?_eq_none (Nat.le_of_not_lt hi)]
    rfl

end Place

/-! ### Where threads go -/

/-- The addresses an instruction may go to apart from the next one. -/
def Instr.targets : Instr → List Nat
  | fork preferred other => [preferred, other]
  | jump target => [target]
  | _ => []

/-- Where a thread is. -/
def Thread.position (t : Thread) : Nat × Place := (t.address, t.place)

namespace Program

open Place (nth)

variable {p : Program} {t : Thread} {threads stack : List Thread} {address i n : Nat}
  {place : Place} {marks : Marks} {text : Text} {seen : Std.HashSet (Nat × Nat)}

/-- No instruction leads out of the program. -/
def Contained (p : Program) : Prop := ∀ instr ∈ p.code, ∀ a ∈ instr.targets, a ≤ p.code.size

/-- Where a thread may go from an address and a place; what it has noted plays no part. -/
def next (p : Program) (address : Nat) (place : Place) : List (Nat × Place) :=
  match p.code[address]? with
  | none => []
  | some .accept => []
  | some (.char c) => (place.read? (· == c)).toList.map fun place => (address + 1, place)
  | some (.set s) => (place.read? s.contains).toList.map fun place => (address + 1, place)
  | some (.check a) => if a.holds place.before place.rest.head? then [(address + 1, place)] else []
  | some (.fork preferred other) => [(preferred, place), (other, place)]
  | some (.jump target) => [(target, place)]
  | some (.mark _) => [(address + 1, place)]

/-- A thread at an address and a place can come to accept. -/
inductive Accepts (p : Program) : Nat → Place → Prop
  | here {address : Nat} {place : Place} (h : p.code[address]? = some .accept) :
      Accepts p address place
  | onward {address address' : Nat} {place place' : Place}
      (h : (address', place') ∈ p.next address place) (run : Accepts p address' place') :
      Accepts p address place

/-- A thread finds a match where the program accepts. -/
theorem code_of_step_found (h : p.step t = .found marks) :
    p.code[t.address]? = some .accept := by
  unfold step at h
  split at h <;> first | assumption | cases h

/-- A thread that goes on does so as `next` says. -/
theorem next_of_step_goesOn (h : p.step t = .goesOn threads) :
    p.code[t.address]? ≠ some .accept ∧
      threads.map Thread.position = p.next t.address t.place := by
  unfold step at h
  unfold next
  cases hcode : p.code[t.address]? with
  | none =>
      rw [hcode] at h
      cases h
      exact ⟨nofun, rfl⟩
  | some instr =>
      rw [hcode] at h
      cases instr with
      | accept => cases h
      | check a =>
          cases h
          refine ⟨nofun, ?_⟩
          dsimp only
          split <;> rfl
      | _ =>
          cases h
          refine ⟨nofun, ?_⟩
          simp [Thread.position, Function.comp_def]

/-- Threads stay in the program and in the text. -/
theorem next_stays (hp : p.Contained) {address' : Nat} {place' : Place} (hi : i ≤ text.length)
    (h : (address', place') ∈ p.next address (nth text i)) :
    address' ≤ p.code.size ∧ ∃ j ≤ text.length, place' = nth text j := by
  unfold next at h
  cases hcode : p.code[address]? with
  | none => simp [hcode] at h
  | some instr =>
      rw [hcode] at h
      obtain ⟨hlt, hinstr⟩ := Array.getElem?_eq_some_iff.mp hcode
      have htargets : ∀ a ∈ instr.targets, a ≤ p.code.size :=
        hp instr (hinstr ▸ Array.getElem_mem hlt)
      have hread : ∀ wanted, (address', place') ∈
          ((nth text i).read? wanted).toList.map (fun place => (address + 1, place)) →
          address' ≤ p.code.size ∧ ∃ j ≤ text.length, place' = nth text j := by
        intro wanted hmem
        rw [Place.read?_nth] at hmem
        split at hmem
        · rename_i hread
          obtain ⟨c, hc, -⟩ := (Option.any_eq_true _ _).mp hread
          cases List.mem_singleton.mp hmem
          exact ⟨hlt, i + 1, (List.getElem?_eq_some_iff.mp hc).1, rfl⟩
        · cases hmem
      cases instr with
      | char c => exact hread _ h
      | set s => exact hread _ h
      | check a =>
          dsimp only at h
          split at h
          · cases List.mem_singleton.mp h
            exact ⟨hlt, i, hi, rfl⟩
          · cases h
      | fork preferred other =>
          rcases List.mem_pair.mp h with heq | heq <;> cases heq
          · exact ⟨htargets _ (by simp [Instr.targets]), i, hi, rfl⟩
          · exact ⟨htargets _ (by simp [Instr.targets]), i, hi, rfl⟩
      | jump target =>
          cases List.mem_singleton.mp h
          exact ⟨htargets _ (by simp [Instr.targets]), i, hi, rfl⟩
      | mark slot =>
          cases List.mem_singleton.mp h
          exact ⟨hlt, i, hi, rfl⟩
      | accept => cases h

/-! ### What is found is there -/

/-- A thread comes to accept with these marks, after a number of steps. -/
inductive Finds (p : Program) : Nat → Thread → Marks → Prop
  | here {t : Thread} {marks : Marks} (h : p.step t = .found marks) : Finds p 0 t marks
  | onward {n : Nat} {t t' : Thread} {threads : List Thread} {marks : Marks}
      (h : p.step t = .goesOn threads) (ht : t' ∈ threads) (run : Finds p n t' marks) :
      Finds p (n + 1) t marks

/-- An exploration that succeeds had a thread that comes to accept with these marks. -/
theorem exists_finds_of_explore (h : p.explore n seen stack = some marks) :
    ∃ t ∈ stack, ∃ k, p.Finds k t marks := by
  fun_induction explore p n seen stack with
  | case1 => cases h
  | case2 => cases h
  -- The pair of the thread was explored before.
  | case3 n seen t stack hseen ih =>
      obtain ⟨t', ht', run⟩ := ih h
      exact ⟨t', List.mem_cons_of_mem _ ht', run⟩
  -- The thread is at the end.
  | case4 n seen t stack hseen marks' hstep =>
      cases h
      exact ⟨t, List.mem_cons_self, 0, .here hstep⟩
  -- The thread goes on.
  | case5 n seen t stack hseen threads hstep ih =>
      obtain ⟨t', ht', k, run⟩ := ih h
      rcases List.mem_append.mp ht' with ht' | ht'
      · exact ⟨t, List.mem_cons_self, k + 1, .onward hstep ht' run⟩
      · exact ⟨t', List.mem_cons_of_mem _ ht', k, run⟩

theorem Finds.accepts (run : p.Finds n t marks) : p.Accepts t.address t.place := by
  induction run with
  | here h => exact .here (code_of_step_found h)
  | @onward n t t' threads marks h ht run ih =>
      have hnext : t'.position ∈ p.next t.address t.place := by
        rw [← (next_of_step_goesOn h).2]
        exact List.mem_map_of_mem ht
      exact .onward hnext ih

/-- What a search finds is found by a thread that starts at some place of the text. -/
theorem exists_finds_of_search (h : p.search text = some marks) :
    ∃ i ≤ text.length, ∃ k, p.Finds k ⟨0, nth text i, []⟩ marks := by
  obtain ⟨t, ht, k, run⟩ := exists_finds_of_explore h
  obtain ⟨place, hplace, rfl⟩ := List.mem_map.mp ht
  obtain ⟨i, hi, rfl⟩ := Place.mem_all_iff.mp hplace
  exact ⟨i, hi, k, run⟩

/-! ### Nothing is missed -/

/-- Wherever a thread may go from an explored pair was explored too or is still pending, and
no explored pair accepts at once. -/
def Covered (p : Program) (text : Text) (seen : Std.HashSet (Nat × Nat))
    (pending : List (Nat × Place)) : Prop :=
  ∀ address i, seen.contains (address, i) → i ≤ text.length ∧ p.code[address]? ≠ some .accept ∧
    ∀ address' place', (address', place') ∈ p.next address (nth text i) →
      seen.contains (address', place'.index) ∨ (address', place') ∈ pending

/-- What is explored when nothing is pending does not accept. -/
theorem Covered.not_accepts (hp : p.Contained) (h : p.Covered text seen [])
    (run : p.Accepts address place) (hplace : place = nth text i) :
    seen.contains (address, i) = false := by
  induction run generalizing i with
  | here hcode =>
      rw [← Bool.not_eq_true]
      exact fun hseen => (h _ _ hseen).2.1 hcode
  | @onward address address' place place' hnext run ih =>
      rw [← Bool.not_eq_true]
      intro hseen
      subst hplace
      obtain ⟨hi, -, hclosed⟩ := h _ _ hseen
      obtain ⟨-, j, -, rfl⟩ := next_stays hp hi hnext
      have hseen' := (hclosed _ _ hnext).resolve_right List.not_mem_nil
      rw [show (nth text j).index = j from rfl, ih rfl] at hseen'
      cases hseen'

/-- The pairs of an address and a place that are still unexplored. -/
def unseen (p : Program) (text : Text) (seen : Std.HashSet (Nat × Nat)) : Finset (Nat × Nat) :=
  (Finset.range (p.code.size + 1) ×ˢ Finset.range (text.length + 1)).filter
    fun pair => seen.contains pair = false

/-- To explore a pair takes it from those that are unexplored. -/
theorem card_unseen_insert (ha : address ≤ p.code.size) (hi : i ≤ text.length)
    (hseen : seen.contains (address, i) = false) :
    (p.unseen text (seen.insert (address, i))).card + 1 = (p.unseen text seen).card := by
  have hmem : (address, i) ∈ p.unseen text seen := by
    simp only [unseen, Finset.mem_filter, Finset.mem_product, Finset.mem_range]
    exact ⟨⟨Nat.lt_succ_of_le ha, Nat.lt_succ_of_le hi⟩, hseen⟩
  have herase : p.unseen text (seen.insert (address, i)) =
      (p.unseen text seen).erase (address, i) := by
    ext pair
    simp only [unseen, Finset.mem_filter, Finset.mem_erase, Std.HashSet.contains_insert,
      Bool.or_eq_false_iff, beq_eq_false_iff_ne, ne_eq]
    tauto
  rw [herase, Finset.card_erase_add_one hmem]

/-- A thread goes on as two threads at the most. -/
theorem length_next_le : (p.next address place).length ≤ 2 := by
  have hread : ∀ wanted, ((place.read? wanted).toList.map fun place => (address + 1, place)).length
      ≤ 2 := by
    intro wanted
    cases place.read? wanted <;> simp
  unfold next
  cases p.code[address]? with
  | none => simp
  | some instr =>
      cases instr with
      | char c => exact hread _
      | set s => exact hread _
      | check a =>
          dsimp only
          split <;> simp
      | _ => simp

/-- The threads on the stack are in the program and in the text. -/
def Inside (p : Program) (text : Text) (stack : List Thread) : Prop :=
  ∀ t ∈ stack, t.address ≤ p.code.size ∧ ∃ i ≤ text.length, t.place = nth text i

/-- A pair that was explored already need not be pending. -/
theorem Covered.of_seen {pending : List (Nat × Place)}
    (h : p.Covered text seen ((address, place) :: pending))
    (hseen : seen.contains (address, place.index)) : p.Covered text seen pending := by
  intro address' i hseen'
  obtain ⟨hi, hcode, hnext⟩ := h address' i hseen'
  refine ⟨hi, hcode, fun a b hmem => ?_⟩
  rcases hnext a b hmem with hin | hpending
  · exact .inl hin
  · rcases List.mem_cons.mp hpending with heq | hpending
    · cases heq
      exact .inl hseen
    · exact .inr hpending

/-- A pair is explored when everything it leads to is pending. -/
theorem Covered.insert {pending : List (Nat × Place)}
    (h : p.Covered text seen ((address, nth text i) :: pending)) (hi : i ≤ text.length)
    (hcode : p.code[address]? ≠ some .accept) :
    p.Covered text (seen.insert (address, i)) (p.next address (nth text i) ++ pending) := by
  intro address' j hseen
  rw [Std.HashSet.contains_insert, Bool.or_eq_true, beq_iff_eq] at hseen
  rcases hseen with heq | hseen
  · cases heq
    exact ⟨hi, hcode, fun a b hmem => .inr (List.mem_append_left _ hmem)⟩
  · obtain ⟨hj, hcode', hnext⟩ := h address' j hseen
    refine ⟨hj, hcode', fun a b hmem => ?_⟩
    rw [Std.HashSet.contains_insert, Bool.or_eq_true, beq_iff_eq]
    rcases hnext a b hmem with hin | hpending
    · exact .inl (.inr hin)
    · rcases List.mem_cons.mp hpending with heq | hpending
      · cases heq
        exact .inl (.inl rfl)
      · exact .inr (List.mem_append_right _ hpending)

/-- An exploration with enough steps that fails has no thread that accepts. -/
theorem not_accepts_of_explore (hp : p.Contained) (hstack : p.Inside text stack)
    (hcovered : p.Covered text seen (stack.map Thread.position))
    (hn : 2 * (p.unseen text seen).card + stack.length < n)
    (h : p.explore n seen stack = none) :
    (∀ address i, seen.contains (address, i) → ¬ p.Accepts address (nth text i)) ∧
      ∀ t ∈ stack, ¬ p.Accepts t.address t.place := by
  fun_induction explore p n seen stack with
  | case1 => omega
  | case2 =>
      refine ⟨fun address i hseen run => ?_, fun t ht => absurd ht List.not_mem_nil⟩
      rw [hcovered.not_accepts hp run rfl] at hseen
      cases hseen
  -- The pair of the thread was explored before, and what is explored does not accept.
  | case3 n seen t stack hseen ih =>
      obtain ⟨⟨-, i, -, hplace⟩, hrest⟩ := List.forall_mem_cons.mp hstack
      have hn' : 2 * (p.unseen text seen).card + stack.length < n := by
        rw [List.length_cons] at hn
        omega
      obtain ⟨hnone, hstack'⟩ := ih hrest (hcovered.of_seen hseen) hn' h
      refine ⟨hnone, List.forall_mem_cons.mpr ⟨?_, hstack'⟩⟩
      rw [hplace] at hseen ⊢
      exact hnone _ _ hseen
  | case4 n seen t stack hseen marks' hstep => cases h
  | case5 n seen t stack hseen threads hstep ih =>
      obtain ⟨⟨ha, i, hi, hplace⟩, hrest⟩ := List.forall_mem_cons.mp hstack
      obtain ⟨address, place, noted⟩ := t
      dsimp only at ha hplace
      subst hplace
      obtain ⟨hcode, hnext⟩ := next_of_step_goesOn hstep
      rw [Bool.not_eq_true] at hseen
      -- The threads that `t` goes on as are in the program and in the text, as `t` is.
      have hinside : p.Inside text (threads ++ stack) := by
        intro t' ht'
        rcases List.mem_append.mp ht' with ht' | ht'
        · have hmem : t'.position ∈ p.next address (nth text i) := by
            rw [← hnext]
            exact List.mem_map_of_mem ht'
          exact next_stays hp hi hmem
        · exact hrest t' ht'
      have hcovered' : p.Covered text (seen.insert (address, i))
          ((threads ++ stack).map Thread.position) := by
        rw [List.map_append, hnext]
        exact hcovered.insert hi hcode
      -- One pair fewer is unexplored, which pays for two threads.
      have hn' : 2 * (p.unseen text (seen.insert (address, i))).card + (threads ++ stack).length
          < n := by
        have hcard := card_unseen_insert ha hi hseen
        have htwo : threads.length ≤ 2 := by
          rw [← List.length_map Thread.position, hnext]
          exact length_next_le
        rw [List.length_cons] at hn
        rw [List.length_append]
        omega
      obtain ⟨hnone, hstack'⟩ := ih hinside hcovered' hn' h
      refine ⟨fun a j hseen' => hnone a j ?_, List.forall_mem_cons.mpr ⟨?_, fun t ht =>
        hstack' t (List.mem_append_right _ ht)⟩⟩
      · rw [Std.HashSet.contains_insert, hseen', Bool.or_true]
      · exact hnone address i Std.HashSet.contains_insert_self

/-! ### Searches -/

/-- **Search.** A search succeeds exactly if a thread that starts at the beginning of the
program and at some place of the text accepts. -/
theorem search_isSome_iff (hp : p.Contained) :
    (p.search text).isSome ↔ ∃ i ≤ text.length, p.Accepts 0 (nth text i) := by
  constructor
  · intro h
    obtain ⟨marks, hmarks⟩ := Option.isSome_iff_exists.mp h
    obtain ⟨i, hi, k, run⟩ := exists_finds_of_search hmarks
    exact ⟨i, hi, run.accepts⟩
  · rintro ⟨i, hi, run⟩
    by_contra hnone
    rw [Option.not_isSome_iff_eq_none] at hnone
    have hinside : p.Inside text ((Place.all text).map fun place => ⟨0, place, []⟩) := by
      intro t ht
      obtain ⟨place, hplace, rfl⟩ := List.mem_map.mp ht
      exact ⟨Nat.zero_le _, Place.mem_all_iff.mp hplace⟩
    have hcovered : p.Covered text ∅
        (((Place.all text).map fun place => ⟨0, place, []⟩).map Thread.position) := by
      intro address j hseen
      simp at hseen
    have hn : 2 * (p.unseen text ∅).card +
        ((Place.all text).map fun place => (⟨0, place, []⟩ : Thread)).length <
          p.stepBound text.length := by
      have hcard : (p.unseen text ∅).card ≤ (p.code.size + 1) * (text.length + 1) := by
        refine (Finset.card_filter_le _ _).trans ?_
        simp
      rw [List.length_map, Place.length_all, stepBound]
      have hbound : (2 * p.code.size + 4) * (text.length + 1) =
          2 * ((p.code.size + 1) * (text.length + 1)) + 2 * (text.length + 1) := by
        rw [← Nat.mul_assoc, ← Nat.add_mul]
        rfl
      omega
    obtain ⟨-, hstack⟩ := not_accepts_of_explore hp hinside hcovered hn hnone
    refine hstack ⟨0, nth text i, []⟩ (List.mem_map.mpr ⟨nth text i, ?_, rfl⟩) run
    exact Place.mem_all_iff.mpr ⟨i, hi, rfl⟩

end Program

end Playbook.Pattern
