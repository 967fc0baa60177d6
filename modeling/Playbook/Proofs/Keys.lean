import Mathlib.Data.List.Nodup
import Mathlib.Data.List.Perm.Basic

/-!
# Playbook.Proofs.Keys

Lists of entries under keys. Where no key occurs twice, looking a key up is the same as asking
whether an entry is there, so the order of the entries does not matter. Entries may also do
without a name; then a name tells the place of its entry.
-/

namespace Playbook

variable {α β : Type} [BEq α] [LawfulBEq α] {entries entries' : List (α × β)} {key : α} {value : β}

/-- With distinct keys an entry is found exactly if it is there. -/
theorem lookup_eq_some_iff_mem (h : (entries.map (·.1)).Nodup) :
    entries.lookup key = some value ↔ (key, value) ∈ entries := by
  induction entries with
  | nil => simp
  | cons entry entries ih =>
      obtain ⟨first, entryValue⟩ := entry
      rw [List.map_cons, List.nodup_cons] at h
      rw [List.lookup_cons, List.mem_cons, Prod.mk.injEq]
      by_cases hkey : key = first
      · subst hkey
        have hrest : (key, value) ∉ entries := fun hmem => h.1 (List.mem_map.mpr ⟨_, hmem, rfl⟩)
        simp [hrest, eq_comm]
      · simp [beq_false_of_ne hkey, hkey, ih h.2]

/-- The order of entries with distinct keys does not matter for what is found. -/
theorem lookup_perm (h : (entries.map (·.1)).Nodup) (hperm : entries'.Perm entries) (key : α) :
    entries'.lookup key = entries.lookup key := by
  have h' : (entries'.map (·.1)).Nodup := (hperm.map _).nodup_iff.mpr h
  refine Option.ext fun value => ?_
  rw [lookup_eq_some_iff_mem h', lookup_eq_some_iff_mem h, hperm.mem_iff]

/-- Where no name occurs twice, a name stands at one place. -/
theorem eq_of_getElem?_name {α : Type} {names : List (Option α)}
    (h : (names.filterMap id).Nodup) {i j : Nat} {name : α} (hi : names[i]? = some (some name))
    (hj : names[j]? = some (some name)) : i = j := by
  have hpairs := List.pairwise_iff_getElem.mp (List.pairwise_filterMap.mp h)
  obtain ⟨hi, hnameI⟩ := List.getElem?_eq_some_iff.mp hi
  obtain ⟨hj, hnameJ⟩ := List.getElem?_eq_some_iff.mp hj
  rcases Nat.lt_trichotomy i j with hlt | heq | hlt
  · exact absurd rfl (hpairs i j hi hj hlt name hnameI name hnameJ)
  · exact heq
  · exact absurd rfl (hpairs j i hj hi hlt name hnameJ name hnameI)

end Playbook
