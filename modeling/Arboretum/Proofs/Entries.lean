import Arboretum.Entries
import Mathlib.Data.List.Induction
import Mathlib.Data.List.Nodup

/-!
Entries by their keys. No key has two entries in what pairs make, and every key of the pairs has
one; where the keys of the pairs are distinct already, the pairs are left as they are. Then what is
found under a key is what was entered under it, and what is erased is found no longer.
-/

namespace Arboretum

set_option autoImplicit false

namespace Entries

variable {κ ν : Type} [DecidableEq κ]

theorem find_erase (key other : κ) (entries : Entries κ ν) :
    (entries.erase key).find? other = if key = other then none else entries.find? other := by
  induction entries with
  | nil => simp [erase, find?]
  | cons head rest induction =>
      unfold erase at induction ⊢
      by_cases erased : head.1 = key
      · rw [List.filter_cons_of_neg (by simp [erased]), induction, find?, erased]
        split <;> rfl
      · rw [List.filter_cons_of_pos (by simp [erased]), find?, find?, induction]
        by_cases here : head.1 = other
        · rw [if_pos here, if_pos here, if_neg (fun same => erased (here.trans same.symm))]
        · rw [if_neg here, if_neg here]

theorem mem_keys_put (key other : κ) (value : ν) (entries : Entries κ ν) :
    other ∈ (entries.put key value).map Prod.fst ↔ other = key ∨ other ∈ entries.map Prod.fst := by
  induction entries with
  | nil => simp [put]
  | cons entry entries induction =>
      by_cases same : entry.1 = key
      · simp [put, same]
      · simp only [put, same, if_false, List.map_cons, List.mem_cons, induction]
        exact or_left_comm

theorem nodup_keys_put (key : κ) (value : ν) (entries : Entries κ ν)
    (distinct : (entries.map Prod.fst).Nodup) : ((entries.put key value).map Prod.fst).Nodup := by
  induction entries with
  | nil => simp [put]
  | cons entry entries induction =>
      obtain ⟨fresh, distinctRest⟩ := List.nodup_cons.mp distinct
      by_cases same : entry.1 = key
      · subst key
        simpa [put] using distinct
      · have stillFresh : entry.1 ∉ (put key value entries).map Prod.fst := by
          rw [mem_keys_put]
          exact not_or.mpr ⟨same, fresh⟩
        simp only [put, same, if_false, List.map_cons]
        exact List.nodup_cons.mpr ⟨stillFresh, induction distinctRest⟩

theorem put_fresh {key : κ} {value : ν} {entries : Entries κ ν}
    (fresh : key ∉ entries.map Prod.fst) : entries.put key value = entries ++ [(key, value)] := by
  induction entries with
  | nil => rfl
  | cons entry entries induction =>
      rw [List.map_cons, List.mem_cons, not_or] at fresh
      rw [put, if_neg (Ne.symm fresh.1), induction fresh.2, List.cons_append]

theorem of_pairs_append_singleton (pairs : List (κ × ν)) (pair : κ × ν) :
    ofPairs (pairs ++ [pair]) = (ofPairs pairs).put pair.1 pair.2 := by
  simp [ofPairs]

theorem keys_of_pairs (pairs : List (κ × ν)) :
    ((ofPairs pairs).map Prod.fst).Nodup ∧
      ∀ key, key ∈ (ofPairs pairs).map Prod.fst ↔ key ∈ pairs.map Prod.fst := by
  induction pairs using List.reverseRecOn with
  | nil => simp [ofPairs]
  | append_singleton pairs pair induction =>
      obtain ⟨distinct, keys⟩ := induction
      rw [of_pairs_append_singleton]
      refine ⟨nodup_keys_put _ _ _ distinct, ?_⟩
      intro key
      rw [mem_keys_put, keys]
      simp [or_comm]

/-- Where no key comes twice, the pairs are the entries. -/
theorem of_pairs_of_distinct {pairs : List (κ × ν)} (distinct : (pairs.map Prod.fst).Nodup) :
    ofPairs pairs = pairs := by
  induction pairs using List.reverseRecOn with
  | nil => rfl
  | append_singleton pairs pair induction =>
      rw [List.map_append, List.nodup_append] at distinct
      obtain ⟨earlier, _, apart⟩ := distinct
      have fresh : pair.1 ∉ pairs.map Prod.fst := by
        intro member
        exact apart pair.1 member pair.1 (List.mem_singleton_self _) rfl
      rw [of_pairs_append_singleton, induction earlier]
      exact put_fresh fresh

/-- Where every key has one entry, the entry of a key is what is found under it. -/
theorem find_of_mem {entries : Entries κ ν} (distinct : (entries.map Prod.fst).Nodup) {key : κ}
    {value : ν} (member : (key, value) ∈ entries) : entries.find? key = some value := by
  induction entries with
  | nil => cases member
  | cons entry entries induction =>
      obtain ⟨fresh, distinctRest⟩ := List.nodup_cons.mp distinct
      rcases List.mem_cons.mp member with rfl | later
      · simp [find?]
      · have other : entry.1 ≠ key := by
          intro same
          exact fresh (same ▸ List.mem_map_of_mem later)
        simp only [find?, other, if_false]
        exact induction distinctRest later

theorem mem_of_find {entries : Entries κ ν} {key : κ} {value : ν}
    (found : entries.find? key = some value) : (key, value) ∈ entries := by
  induction entries with
  | nil => cases found
  | cons entry entries induction =>
      by_cases same : entry.1 = key
      · simp only [find?, same, if_true, Option.some.injEq] at found
        rw [← same, ← found]
        exact List.mem_cons_self ..
      · simp only [find?, same, if_false] at found
        exact List.mem_cons_of_mem _ (induction found)

theorem find_isSome_of_mem {entries : Entries κ ν} {key : κ} {value : ν}
    (member : (key, value) ∈ entries) : (entries.find? key).isSome := by
  induction entries with
  | nil => cases member
  | cons entry entries induction =>
      by_cases same : entry.1 = key
      · simp [find?, same]
      · rcases List.mem_cons.mp member with rfl | later
        · exact absurd rfl same
        · simp only [find?, same, if_false]
          exact induction later

end Entries

end Arboretum
