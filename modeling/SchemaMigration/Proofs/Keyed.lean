import Mathlib.Tactic.Common
import SchemaMigration.Scenario.World

/-!
# Keyed lists

The rows, sessions, locks, drivers and pending operations are lists of keys with values. What each
change of such a list does to the value under a key.
-/

namespace SchemaMigration

section

variable {α β : Type} [BEq α] [LawfulBEq α]

theorem lookup_cons_ite [DecidableEq α] (l : List (α × β)) (k k' : α) (v : β) :
    ((k, v) :: l).lookup k' = if k' = k then some v else l.lookup k' := by
  rw [List.lookup_cons]
  by_cases h : k' = k
  · simp [h]
  · rw [beq_eq_false_iff_ne.2 h, if_neg h]

theorem mem_of_lookup_eq_some {l : List (α × β)} {k : α} {v : β} (h : l.lookup k = some v) :
    (k, v) ∈ l := by
  obtain ⟨l₁, l₂, rfl, -⟩ := List.lookup_eq_some_iff.1 h
  simp

theorem lookup_eq_some_of_mem [DecidableEq α] {l : List (α × β)} (hl : (l.map (·.1)).Nodup)
    {k : α} {v : β} (h : (k, v) ∈ l) : l.lookup k = some v := by
  induction l with
  | nil => simp at h
  | cons e l ih =>
    obtain ⟨k', v'⟩ := e
    rw [lookup_cons_ite]
    simp only [List.map_cons, List.nodup_cons, List.mem_map, not_exists, not_and] at hl
    rcases List.mem_cons.1 h with he | hm
    · cases he
      simp
    · have hne : k ≠ k' := by
        rintro rfl
        exact hl.1 _ hm rfl
      rw [if_neg hne, ih hl.2 hm]

theorem lookup_eq_some_iff_mem [DecidableEq α] {l : List (α × β)} (hl : (l.map (·.1)).Nodup) {k : α}
    {v : β} : l.lookup k = some v ↔ (k, v) ∈ l :=
  ⟨mem_of_lookup_eq_some, lookup_eq_some_of_mem hl⟩

theorem lookup_perm [DecidableEq α] {l l' : List (α × β)} (h : l.Perm l')
    (hl : (l.map (·.1)).Nodup) (k : α) : l.lookup k = l'.lookup k := by
  have hl' : (l'.map (·.1)).Nodup := (h.map _).nodup_iff.1 hl
  apply Option.ext
  intro v
  rw [lookup_eq_some_iff_mem hl, lookup_eq_some_iff_mem hl', h.mem_iff]

theorem lookup_ne_none_of_mem {l : List (α × β)} {k : α} (h : k ∈ l.map (·.1)) :
    l.lookup k ≠ none := by
  intro hn
  obtain ⟨e, he, rfl⟩ := List.mem_map.1 h
  have := List.lookup_eq_none_iff.1 hn e he
  simp at this

theorem lookup_eq_none_of_not_mem {l : List (α × β)} {k : α} (h : k ∉ l.map (·.1)) :
    l.lookup k = none := by
  by_contra hne
  obtain ⟨v, hv⟩ := Option.ne_none_iff_exists'.1 hne
  exact h (List.mem_map.2 ⟨_, mem_of_lookup_eq_some hv, rfl⟩)

theorem lookup_filter_key [DecidableEq α] (l : List (α × β)) (p : α → Bool) (k : α) :
    (l.filter fun e => p e.1).lookup k = if p k then l.lookup k else none := by
  induction l with
  | nil => simp
  | cons e l ih =>
    obtain ⟨k', v⟩ := e
    rw [List.filter_cons, lookup_cons_ite]
    by_cases hk : k = k'
    · subst hk
      cases hp : p k
      · simpa [hp] using ih
      · simp
    · cases hp : p k'
      · simpa [hp, hk] using ih
      · simpa [hp, hk, lookup_cons_ite] using ih

theorem lookup_filter_value [DecidableEq α] {l : List (α × β)} (hl : (l.map (·.1)).Nodup)
    (p : β → Bool) (k : α) :
    (l.filter fun e => p e.2).lookup k = (l.lookup k).filter p := by
  induction l with
  | nil => rfl
  | cons e l ih =>
    obtain ⟨k', v⟩ := e
    simp only [List.map_cons, List.nodup_cons] at hl
    rw [List.filter_cons, lookup_cons_ite]
    by_cases hk : k = k'
    · subst hk
      have hnone : l.lookup k = none := lookup_eq_none_of_not_mem hl.1
      cases hp : p v
      · rw [if_neg (by simp), ih hl.2, hnone]
        simp [Option.filter, hp]
      · simp [Option.filter, hp]
    · cases hp : p v
      · simpa [hp, hk] using ih hl.2
      · simpa [hp, hk, lookup_cons_ite] using ih hl.2

theorem lookup_map_key [DecidableEq α] (l : List (α × β)) (k k' : α) (f : β → β) :
    (l.map fun e => if e.1 = k then (e.1, f e.2) else e).lookup k' =
      if k' = k then (l.lookup k').map f else l.lookup k' := by
  induction l with
  | nil => simp
  | cons e l ih =>
    obtain ⟨i, v⟩ := e
    rw [List.map_cons, lookup_cons_ite]
    by_cases hi : i = k
    · rw [if_pos hi, lookup_cons_ite, ih]
      by_cases hk : k' = i
      · simp [hk, hi]
      · simp [hk]
    · rw [if_neg hi, lookup_cons_ite, ih]
      by_cases hk : k' = i
      · simp [hk, hi]
      · simp [hk]

omit [BEq α] [LawfulBEq α] in
theorem map_fst_map_key [DecidableEq α] (l : List (α × β)) (k : α) (f : β → β) :
    (l.map fun e => if e.1 = k then (e.1, f e.2) else e).map (·.1) = l.map (·.1) := by
  rw [List.map_map]
  apply List.map_congr_left
  intro e _
  by_cases h : e.1 = k
  · simp [h]
  · simp [h]

theorem lookup_append_singleton [DecidableEq α] {l : List (α × β)} {k : α} (h : l.lookup k = none)
    (k' : α) (v : β) : (l ++ [(k, v)]).lookup k' = if k' = k then some v else l.lookup k' := by
  rw [List.lookup_append, lookup_cons_ite]
  by_cases hk : k' = k
  · subst hk
    simp [h]
  · simp [hk]

/-! ## Putting and dropping -/

@[simp]
theorem lookup_putKey [DecidableEq α] (l : List (α × β)) (k k' : α) (v : β) :
    (putKey l k v).lookup k' = if k' = k then some v else l.lookup k' := by
  induction l with
  | nil => rw [putKey, lookup_cons_ite]
  | cons e l ih =>
    obtain ⟨i, u⟩ := e
    rw [putKey]
    by_cases hi : i = k
    · rw [if_pos hi, lookup_cons_ite, lookup_cons_ite, hi]
      by_cases hk : k' = k
      · simp [hk]
      · simp [hk]
    · rw [if_neg hi, lookup_cons_ite, lookup_cons_ite, ih]
      by_cases hk : k' = i
      · simp [hk, hi]
      · simp [hk]

@[simp]
theorem lookup_dropKey [DecidableEq α] (l : List (α × β)) (k k' : α) :
    (dropKey l k).lookup k' = if k' = k then none else l.lookup k' := by
  have h := lookup_filter_key l (fun i => decide (i ≠ k)) k'
  rw [dropKey, h]
  by_cases hk : k' = k
  · simp [hk]
  · simp [hk]

omit [BEq α] [LawfulBEq α] in
theorem mem_map_fst_putKey [DecidableEq α] (l : List (α × β)) (k k' : α) (v : β) :
    k' ∈ (putKey l k v).map (·.1) ↔ k' = k ∨ k' ∈ l.map (·.1) := by
  induction l with
  | nil => simp [putKey]
  | cons e l ih =>
    obtain ⟨i, u⟩ := e
    rw [putKey]
    by_cases hi : i = k
    · simp [hi]
    · simp only [if_neg hi, List.map_cons, List.mem_cons, ih]
      tauto

omit [BEq α] [LawfulBEq α] in
theorem nodup_map_fst_putKey [DecidableEq α] {l : List (α × β)} (hl : (l.map (·.1)).Nodup) (k : α)
    (v : β) :
    ((putKey l k v).map (·.1)).Nodup := by
  induction l with
  | nil => simp [putKey]
  | cons e l ih =>
    obtain ⟨i, u⟩ := e
    simp only [List.map_cons, List.nodup_cons] at hl
    rw [putKey]
    by_cases hi : i = k
    · subst hi
      simpa using hl
    · rw [if_neg hi, List.map_cons, List.nodup_cons, mem_map_fst_putKey]
      refine ⟨?_, ih hl.2⟩
      rintro (h | h)
      · exact hi h
      · exact hl.1 h

end

/-! ## Tracking rows -/

namespace TrackingRows

theorem put_eq_putKey (rows : TrackingRows) (name : MigrationName) (row : TrackingRow) :
    rows.put name row = putKey rows name row := by
  induction rows with
  | nil => rfl
  | cons e rows ih => rw [put, putKey, ih]

@[simp]
theorem lookup_write (rows : TrackingRows) (w : RowWrite) (name : MigrationName) :
    (rows.write w).lookup name =
      if name = w.name then some ⟨w.done, w.error, rows.writesOf w.name + 1⟩
      else rows.lookup name := by
  rw [write, put_eq_putKey, lookup_putKey]

theorem nodup_write {rows : TrackingRows} (h : (rows.map (·.1)).Nodup) (w : RowWrite) :
    ((rows.write w).map (·.1)).Nodup := by
  rw [write, put_eq_putKey]
  exact nodup_map_fst_putKey h _ _

@[simp]
theorem writeAll_singleton (rows : TrackingRows) (w : RowWrite) :
    rows.writeAll [w] = rows.write w := rfl

theorem writeAll_append (rows : TrackingRows) (ws ws' : List RowWrite) :
    rows.writeAll (ws ++ ws') = (rows.writeAll ws).writeAll ws' := List.foldl_append

end TrackingRows

end SchemaMigration
