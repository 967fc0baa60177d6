import Mathlib.Data.List.Forall2
import Playbook.Proofs.Document.Numbering

/-!
# Playbook.Proofs.Document.Selection

Looking scenarios up by their identifiers. A feature searches its blocks one after the other
for the scenario that carries an identifier. Reading numbers the scenarios in document order,
so the search finds what stands at that position, and it finds something exactly for the
identifiers from one to the number of scenarios. Selection asks for one scenario after the
other and stops at the first identifier out of this range.
-/

namespace Playbook

/-! ### Searching scenarios in order -/

/-- Among scenarios numbered from `first` on, the one with an identifier is found by its
position. -/
theorem Scenario.find?_of_consecutive {ss : List Scenario} {first : Nat}
    (h : ss.map (·.id) = List.range' first ss.length) (id : Nat) :
    ss.find? (·.id == id) = if first ≤ id then ss[id - first]? else none := by
  induction ss generalizing first with
  | nil => simp
  | cons s rest ih =>
      rw [List.map_cons, List.length_cons, List.range'_succ, List.cons.injEq] at h
      obtain ⟨hs, hrest⟩ := h
      by_cases hid : id = first
      · rw [List.find?_cons_of_pos (by simp [hs, hid]), if_pos (by omega), hid, Nat.sub_self]
        rfl
      · have hne : (s.id == id) = false := by
          rw [hs]
          exact beq_false_of_ne (Ne.symm hid)
        rw [List.find?_cons, hne, ih hrest]
        dsimp only
        by_cases hlt : first ≤ id
        · have hsub : id - first = id - (first + 1) + 1 := by omega
          rw [if_pos (by omega), if_pos hlt, hsub, List.getElem?_cons_succ]
        · rw [if_neg (by omega), if_neg hlt]

namespace Feature

variable {κ : Type} {r : Reader κ} {text : Text} {f : Feature}

/-- Searching the blocks one after the other searches all scenarios in document order. -/
theorem scenario?_eq_find? (f : Feature) (id : Nat) :
    f.scenario? id = f.scenarios.find? (·.id == id) := by
  rw [scenario?, scenarios, List.find?_flatMap]
  rfl

/-- The identifiers that a feature has scenarios for. -/
def HasId (f : Feature) (id : Nat) : Prop := 1 ≤ id ∧ id ≤ f.idCount

/-- In a feature that was read, an identifier is a position in document order. -/
theorem scenario?_of_read (h : r.read text = .ok f) (id : Nat) :
    f.scenario? id = if 1 ≤ id then f.scenarios[id - 1]? else none := by
  have hids := scenarios_ids_of_read h
  rw [← length_scenarios] at hids
  rw [scenario?_eq_find?, Scenario.find?_of_consecutive hids]

theorem scenario?_isSome_iff_of_read (h : r.read text = .ok f) (id : Nat) :
    (f.scenario? id).isSome ↔ f.HasId id := by
  rw [scenario?_of_read h, HasId, ← length_scenarios]
  by_cases hid : 1 ≤ id
  · rw [if_pos hid, isSome_getElem?]
    omega
  · simp [hid]

theorem id_of_scenario?_eq_some {id : Nat} {s : Scenario} (h : f.scenario? id = some s) :
    s.id = id := by
  rw [scenario?_eq_find?] at h
  exact eq_of_beq (List.find?_some (p := fun s : Scenario => s.id == id) h)

/-! ### Selecting several scenarios -/

@[simp] theorem select_nil (f : Feature) : f.select [] = .ok [] := rfl

theorem select_cons_of_some {id : Nat} {s : Scenario} (h : f.scenario? id = some s)
    (ids : List Nat) : f.select (id :: ids) = (f.select ids).map (s :: ·) := by
  simp only [select, List.mapM_cons, h, pure, Except.pure, bind, Except.bind, Except.map]

theorem select_cons_of_none {id : Nat} (h : f.scenario? id = none) (ids : List Nat) :
    f.select (id :: ids) = .error (.scenarioNotFound id f.idCount) := by
  simp only [select, List.mapM_cons, h]
  rfl

/-- Identifiers that are all found select what is found, in their order. -/
theorem exists_select_eq_ok {ids : List Nat} (h : ∀ id ∈ ids, (f.scenario? id).isSome) :
    ∃ ss, f.select ids = .ok ss ∧ List.Forall₂ (fun id s => f.scenario? id = some s) ids ss := by
  induction ids with
  | nil => exact ⟨[], rfl, .nil⟩
  | cons id rest ih =>
      obtain ⟨hid, hrest⟩ := List.forall_mem_cons.mp h
      obtain ⟨s, hs⟩ := Option.isSome_iff_exists.mp hid
      obtain ⟨ss, hselect, hall⟩ := ih hrest
      refine ⟨s :: ss, ?_, .cons hs hall⟩
      rw [select_cons_of_some hs, hselect]
      rfl

/-- The first identifier that is not found is reported, whatever comes after it. -/
theorem select_append_of_none {before : List Nat} (hbefore : ∀ id ∈ before, (f.scenario? id).isSome)
    {id : Nat} (hid : f.scenario? id = none) (after : List Nat) :
    f.select (before ++ id :: after) = .error (.scenarioNotFound id f.idCount) := by
  induction before with
  | nil => exact select_cons_of_none hid after
  | cons first rest ih =>
      obtain ⟨hfirst, hrest⟩ := List.forall_mem_cons.mp hbefore
      obtain ⟨s, hs⟩ := Option.isSome_iff_exists.mp hfirst
      rw [List.cons_append, select_cons_of_some hs, ih hrest]
      rfl

/-- **Selection.** In a feature that was read, exactly the identifiers from one to the number of
scenarios are found, and each of them finds the scenario at that position when every block lists
its header before what is generated from it; the scenario carries the identifier. Identifiers
that are all in this range select their scenarios in the order asked for. Otherwise the first
one out of range is reported together with the number of scenarios. -/
theorem selection_of_read (h : r.read text = .ok f) :
    (∀ id, (f.scenario? id).isSome ↔ 1 ≤ id ∧ id ≤ f.idCount) ∧
    (∀ id s, f.scenario? id = some s →
      (f.blocks.flatMap fun b => b.header :: b.generated)[id - 1]? = some s ∧ s.id = id) ∧
    (∀ ids : List Nat, (∀ id ∈ ids, 1 ≤ id ∧ id ≤ f.idCount) →
      ∃ ss, f.select ids = .ok ss ∧ List.Forall₂ (fun id s => s.id = id ∧
        (f.blocks.flatMap fun b => b.header :: b.generated)[id - 1]? = some s) ids ss) ∧
    ∀ (before : List Nat) (id : Nat) (after : List Nat),
      (∀ id ∈ before, 1 ≤ id ∧ id ≤ f.idCount) → ¬ (1 ≤ id ∧ id ≤ f.idCount) →
        f.select (before ++ id :: after) = .error (.scenarioNotFound id f.idCount) := by
  have hrange : ∀ id, (f.scenario? id).isSome ↔ f.HasId id := scenario?_isSome_iff_of_read h
  have hplace : ∀ id s, f.scenario? id = some s → f.scenarios[id - 1]? = some s := by
    intro id s hs
    have hid : 1 ≤ id := ((hrange id).mp (Option.isSome_of_mem hs)).1
    rwa [scenario?_of_read h, if_pos hid] at hs
  refine ⟨hrange, fun id s hs => ⟨hplace id s hs, id_of_scenario?_eq_some hs⟩, ?_, ?_⟩
  · intro ids hids
    obtain ⟨ss, hselect, hall⟩ := exists_select_eq_ok fun id hid => (hrange id).mpr (hids id hid)
    refine ⟨ss, hselect, hall.imp fun id s hs => ?_⟩
    exact ⟨id_of_scenario?_eq_some hs, hplace id s hs⟩
  · intro before id after hbefore hid
    refine select_append_of_none (fun i hi => (hrange i).mpr (hbefore i hi)) ?_ after
    rw [← Option.not_isSome_iff_eq_none, hrange]
    exact hid

/-- The feature has identifiers up to eight, among them those of a template and of a loop that
never runs. -/
theorem selection_of_read_mixed :
    ∃ f, (Reader.mk () [] 1 Vocabulary.english).read mixedText = .ok f ∧ f.idCount = 8 ∧
      (∃ ss, f.select [8, 3, 1, 3] = .ok ss ∧ ss.map (·.id) = [8, 3, 1, 3]) ∧
      f.select [8, 9, 0] = .error (.scenarioNotFound 9 8) := by
  have hcount : ((Reader.mk () [] 1 Vocabulary.english).read mixedText).toOption.map
      (·.idCount) = some 8 := by decide +kernel
  cases h : (Reader.mk () [] 1 Vocabulary.english).read mixedText with
  | error e => simp [h, Except.toOption] at hcount
  | ok f =>
      simp only [h, Except.toOption, Option.map_some, Option.some.injEq] at hcount
      obtain ⟨-, -, hselect, hrefused⟩ := selection_of_read h
      rw [hcount] at hselect hrefused
      refine ⟨f, rfl, hcount, ?_, hrefused [8] 9 [0] (by decide) (by decide)⟩
      obtain ⟨ss, hss, hall⟩ := hselect [8, 3, 1, 3] (by decide)
      have hids : List.Forall₂ (fun id id' => id = id') [8, 3, 1, 3] (ss.map (·.id)) :=
        List.forall₂_map_right_iff.mpr (hall.imp fun id s hs => hs.1.symm)
      exact ⟨ss, hss, (List.forall₂_eq_eq_eq ▸ hids).symm⟩

end Feature

end Playbook
