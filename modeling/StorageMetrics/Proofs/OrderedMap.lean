import StorageMetrics.OrderedMap
import Mathlib.Data.List.Nodup

/-
  Ordered maps as finite maps. Under distinct keys looking a key up and finding its entry in the
  list are one thing (`get?_eq_some_iff_mem`); `insert` and `erase` keep the keys distinct, and
  they change no entry but the one of their key.
-/

namespace StorageMetrics.OrderedMap

variable {κ υ : Type} [DecidableEq κ]

/-! ## Look-up and keys -/

theorem find_eq_none_iff (k : κ) (xs : List (κ × υ)) : find k xs = none ↔ k ∉ xs.map (·.1) := by
  induction xs with
  | nil => simp [find]
  | cons x xs ih =>
    by_cases hx : x.1 = k
    · simp [find, hx]
    · simp only [find, if_neg hx, ih, List.map_cons, List.mem_cons, not_or]
      exact ⟨fun h => ⟨Ne.symm hx, h⟩, fun h => h.2⟩

theorem mem_of_find {k : κ} {v : υ} {xs : List (κ × υ)} (h : find k xs = some v) : (k, v) ∈ xs := by
  induction xs with
  | nil => simp [find] at h
  | cons x xs ih =>
    by_cases hx : x.1 = k
    · rw [find, if_pos hx] at h
      rw [← hx, ← Option.some.inj h]
      exact List.mem_cons_self
    · rw [find, if_neg hx] at h
      exact List.mem_cons_of_mem _ (ih h)

theorem find_of_mem {k : κ} {v : υ} {xs : List (κ × υ)} (nodup : (xs.map (·.1)).Nodup)
    (h : (k, v) ∈ xs) : find k xs = some v := by
  induction xs with
  | nil => simp at h
  | cons x xs ih =>
    rw [List.map_cons, List.nodup_cons] at nodup
    rcases List.mem_cons.mp h with rfl | h
    · simp [find]
    · have other : x.1 ≠ k := fun e => nodup.1 (e ▸ List.mem_map_of_mem (f := (·.1)) h)
      rw [find, if_neg other]
      exact ih nodup.2 h

variable {m : OrderedMap κ υ} {k : κ} {v : υ}

theorem get?_eq_none_iff : m.get? k = none ↔ k ∉ m.keys := find_eq_none_iff k m.entries

theorem mem_keys_iff : k ∈ m.keys ↔ ∃ v, m.get? k = some v := by
  rw [← Option.isSome_iff_exists, ← Option.ne_none_iff_isSome, ne_eq, get?_eq_none_iff, not_not]

theorem mem_keys_of_get? (h : m.get? k = some v) : k ∈ m.keys := mem_keys_iff.mpr ⟨v, h⟩

theorem mem_of_get? (h : m.get? k = some v) : (k, v) ∈ m.entries := mem_of_find h

theorem get?_eq_some_iff_mem (nodup : m.keys.Nodup) : m.get? k = some v ↔ (k, v) ∈ m.entries :=
  ⟨mem_of_find, find_of_mem nodup⟩

theorem contains_iff : m.contains k = true ↔ k ∈ m.keys := by
  rw [contains, Option.isSome_iff_exists, mem_keys_iff]

/-! ## Insertion -/

theorem entries_insert_of_not_mem (h : k ∉ m.keys) :
    (m.insert k v).entries = m.entries ++ [(k, v)] := by
  rw [entries_insert]
  exact put_of_not_mem k v m.entries h

theorem keys_insert_of_not_mem (h : k ∉ m.keys) : (m.insert k v).keys = m.keys ++ [k] := by
  simp [keys, entries_insert_of_not_mem h]

theorem keys_insert_of_mem (h : k ∈ m.keys) : (m.insert k v).keys = m.keys := by
  rw [keys, entries_insert]
  exact keys_put_of_mem k v m.entries h

theorem mem_keys_insert {k' : κ} : k' ∈ (m.insert k v).keys ↔ k' = k ∨ k' ∈ m.keys := by
  by_cases h : k ∈ m.keys
  · rw [keys_insert_of_mem h]
    exact ⟨Or.inr, fun h' => h'.elim (fun e => e ▸ h) id⟩
  · rw [keys_insert_of_not_mem h, List.mem_append, List.mem_singleton, or_comm]

theorem nodup_keys_insert (nodup : m.keys.Nodup) : (m.insert k v).keys.Nodup := by
  by_cases h : k ∈ m.keys
  · rwa [keys_insert_of_mem h]
  · rw [keys_insert_of_not_mem h]
    exact List.nodup_append.mpr
      ⟨nodup, List.nodup_singleton k, fun a ha b hb e => h (List.mem_singleton.mp hb ▸ e ▸ ha)⟩

/-! ## Erasure -/

theorem drop_of_nodup {xs : List (κ × υ)} (nodup : (xs.map (·.1)).Nodup) :
    drop k xs = xs.filter (·.1 ≠ k) := by
  induction xs with
  | nil => rfl
  | cons x xs ih =>
    rw [List.map_cons, List.nodup_cons] at nodup
    by_cases hx : x.1 = k
    · -- the key stands here and nowhere behind, so `drop` gives the rest as it is
      have gone : k ∉ xs.map (·.1) := hx ▸ nodup.1
      have absent : find k xs = none := (find_eq_none_iff k xs).mpr gone
      have kept : xs.filter (·.1 ≠ k) = xs := by
        refine List.filter_eq_self.mpr fun y hy => decide_eq_true ?_
        exact fun e => gone (e ▸ List.mem_map_of_mem (f := (·.1)) hy)
      rw [drop, if_pos hx, absent, List.filter_cons_of_neg (by simp [hx]), kept]
      rfl
    · rw [drop, if_neg hx, ih nodup.2, List.filter_cons_of_pos (by simp [hx])]

theorem entries_erase (nodup : m.keys.Nodup) : (m.erase k).entries = m.entries.filter (·.1 ≠ k) :=
  drop_of_nodup nodup

theorem erase_of_not_mem (h : k ∉ m.keys) : m.erase k = m := by
  have same : drop k m.entries = m.entries := by
    rcases m with ⟨xs⟩
    induction xs with
    | nil => rfl
    | cons x xs ih =>
      simp only [keys, List.map_cons, List.mem_cons, not_or] at h
      rw [drop, if_neg (Ne.symm h.1), ih h.2]
  rw [erase, same]

theorem keys_erase (nodup : m.keys.Nodup) : (m.erase k).keys = m.keys.filter (· ≠ k) := by
  rw [keys, entries_erase nodup, keys, List.filter_map]
  rfl

theorem nodup_keys_erase (nodup : m.keys.Nodup) : (m.erase k).keys.Nodup := by
  rw [keys_erase nodup]
  exact nodup.filter _

end StorageMetrics.OrderedMap
