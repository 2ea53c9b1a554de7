import OpGraph.Dictionary
import Mathlib.Data.List.Sort

/-!
# Lookups in dictionaries

A dictionary is determined by its lookups, so each operation is described by what a lookup finds
after it. These are the lemmas through which the graph, its inference and the topological sort speak
of their tables.
-/

namespace OpGraph

namespace Dictionary

variable {κ α β : Type}

section Keys

variable [LT κ]

/-- Keys ascend strictly. This is the order in which entries are kept. -/
theorem pairwise_keys (d : Dictionary κ α) : d.keys.Pairwise (· < ·) :=
  List.pairwise_map.2 d.ascending

theorem length_keys (d : Dictionary κ α) : d.keys.length = d.size := by simp [keys, size]

theorem keys_map (f : α → β) (d : Dictionary κ α) : (d.map f).keys = d.keys := by
  simp [keys, map]

@[simp] theorem get?_map [DecidableEq κ] (f : α → β) (d : Dictionary κ α) (k : κ) :
    (d.map f).get? k = (d.get? k).map f := by
  obtain ⟨es, hes⟩ := d
  change find? k (es.map fun e => (e.1, f e.2)) = (find? k es).map f
  clear hes
  induction es with
  | nil => rfl
  | cons head rest ih =>
    by_cases hk : k = head.1
    · simp [find?, hk]
    · simp only [List.map_cons, find?, hk, if_false]
      exact ih

end Keys

section Membership

variable [LE κ] [LT κ] [Std.LawfulOrderLT κ]

theorem nodup_keys (d : Dictionary κ α) : d.keys.Nodup := by
  refine (pairwise_keys d).imp ?_
  rintro a b hlt rfl
  exact Std.lt_irrefl hlt

variable [DecidableEq κ]

/-- A lookup in an ascending list finds exactly its entries. -/
theorem find?_eq_some_iff {k : κ} {v : α} {es : List (κ × α)}
    (hes : es.Pairwise (fun a b => a.1 < b.1)) : find? k es = some v ↔ (k, v) ∈ es := by
  induction es with
  | nil => simp [find?]
  | cons head rest ih =>
    obtain ⟨k', v'⟩ := head
    obtain ⟨hhead, hrest⟩ := List.pairwise_cons.1 hes
    by_cases hk : k = k'
    · subst hk
      have hnot : (k, v) ∉ rest := by
        intro hmem
        have hlt : k < k := hhead _ hmem
        exact Std.lt_irrefl hlt
      simp [find?, hnot, eq_comm]
    · simp [find?, hk, ih hrest]

/-- The entries are the keys with what is found under them. -/
theorem mem_entries_iff {d : Dictionary κ α} {k : κ} {v : α} :
    (k, v) ∈ d.entries ↔ d.get? k = some v :=
  (find?_eq_some_iff d.ascending).symm

theorem mem_keys_iff {d : Dictionary κ α} {k : κ} : k ∈ d.keys ↔ ∃ v, d.get? k = some v := by
  simp [keys, ← mem_entries_iff]

/-- To look up all keys in their order is to list the values. -/
theorem filterMap_get?_keys (d : Dictionary κ α) : d.keys.filterMap d.get? = d.values := by
  have hentry : ∀ e ∈ d.entries, d.get? e.1 = some e.2 := fun e he => mem_entries_iff.1 he
  rw [keys, List.filterMap_map, values, ← List.filterMap_eq_map]
  exact List.filterMap_congr hentry

theorem mem_values_iff {d : Dictionary κ α} {v : α} : v ∈ d.values ↔ ∃ k, d.get? k = some v := by
  simp [values, ← mem_entries_iff]

/-- The entries under the listed keys. -/
def restrictTo (d : Dictionary κ α) (ks : List κ) : Dictionary κ α :=
  ⟨d.entries.filter fun e => e.1 ∈ ks, d.ascending.filter _⟩

/-- Among some of the keys a lookup finds what it found before, and under the others nothing. -/
theorem get?_restrictTo (d : Dictionary κ α) (ks : List κ) (k : κ) :
    (d.restrictTo ks).get? k = if k ∈ ks then d.get? k else none := by
  ext v
  rw [← mem_entries_iff, restrictTo, List.mem_filter, decide_eq_true_eq, mem_entries_iff]
  split
  next hk => exact and_iff_left hk
  next hk => simp [hk]

end Membership

section Replacement

variable [LE κ] [LT κ] [Std.IsLinearOrder κ] [Std.LawfulOrderLT κ] [DecidableLT κ] [DecidableEq κ]

/-- Replacing a value by one that a function does not tell from it makes no difference behind the
function. -/
theorem map_set_of_get? {f : α → β} {d : Dictionary κ α} {k : κ} {v w : α}
    (hv : d.get? k = some v) (hf : f w = f v) : (d.set k w).map f = d.map f := by
  refine ext_get? fun k' => ?_
  rw [get?_map, get?_map, get?_set]
  by_cases hk : k' = k
  · subst hk
    simp [hv, hf]
  · rw [if_neg hk]

theorem keys_set_of_get? {d : Dictionary κ α} {k : κ} {v : α} (hv : d.get? k = some v) (w : α) :
    (d.set k w).keys = d.keys := by
  have hmap : (d.set k w).map (fun _ => ()) = d.map (fun _ => ()) := map_set_of_get? hv rfl
  rw [← keys_map (fun _ : α => ()), hmap, keys_map]

/-- A dictionary with one value under all of some keys has it under these keys only, however often
they are listed. -/
theorem get?_ofList_const (ks : List κ) (v : α) (k : κ) :
    (ofList (ks.map fun k => (k, v))).get? k = if k ∈ ks then some v else none := by
  -- the fold starts from any dictionary, whose entries stay where no listed key hides them
  have hfold : ∀ d : Dictionary κ α,
      ((ks.map fun k => (k, v)).foldl (fun d e => d.set e.1 e.2) d).get? k =
        if k ∈ ks then some v else d.get? k := by
    induction ks with
    | nil => simp
    | cons k₀ rest ih =>
      intro d
      rw [List.map_cons, List.foldl_cons, ih, get?_set]
      by_cases hk : k = k₀ <;> simp [hk]
  exact hfold empty

/-- In the dictionary of a list without repeated keys exactly the listed entries are found. -/
theorem get?_ofList_eq_some_iff {es : List (κ × α)} (hkeys : (es.map Prod.fst).Nodup) {k : κ}
    {v : α} : (ofList es).get? k = some v ↔ (k, v) ∈ es := by
  -- the fold starts from any dictionary, whose entries stay where no listed key hides them
  have hfold : ∀ d : Dictionary κ α, (es.foldl (fun d e => d.set e.1 e.2) d).get? k = some v ↔
      (k, v) ∈ es ∨ k ∉ es.map Prod.fst ∧ d.get? k = some v := by
    induction es with
    | nil => simp
    | cons e es ih =>
      obtain ⟨k₀, v₀⟩ := e
      rw [List.map_cons, List.nodup_cons] at hkeys
      intro d
      rw [List.foldl_cons, ih hkeys.2, get?_set]
      by_cases hk : k = k₀
      · subst hk
        have hnot : (k, v) ∉ es := fun hmem => hkeys.1 (List.mem_map.2 ⟨_, hmem, rfl⟩)
        simp [hnot, hkeys.1, eq_comm]
      · simp [hk]
  rw [ofList, hfold]
  simp

end Replacement

end Dictionary

end OpGraph
