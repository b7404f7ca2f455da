import VoxelTemplate.Dict

/-! The answers of a dictionary are its entries. Of entries put in one after the other the last of a
key stays, so the entries of a dictionary, in any order, give it back. -/
namespace VoxelTemplate.Dict

variable {α : Type}

theorem lookup_eq_some_iff {entries : List (Text × α)}
    (h : entries.Pairwise fun a b => a.1 < b.1) {key : Text} {value : α} :
    entries.lookup key = some value ↔ (key, value) ∈ entries := by
  induction entries with
  | nil => simp
  | cons head rest ih =>
    obtain ⟨k, v⟩ := head
    obtain ⟨hk, hrest⟩ := List.pairwise_cons.1 h
    rw [List.lookup_cons]
    by_cases he : key = k
    · subst he
      have hn : (key, value) ∉ rest := fun hm => List.lt_irrefl key (hk _ hm)
      simp [hn, eq_comm]
    · simp [beq_false_of_ne he, he, ih hrest]

theorem find?_eq_some_iff {dict : Dict α} {key : Text} {value : α} :
    dict.find? key = some value ↔ (key, value) ∈ dict.entries :=
  lookup_eq_some_iff dict.ascending

theorem keys_nodup (dict : Dict α) : (dict.entries.map Prod.fst).Nodup := by
  rw [List.Nodup, List.pairwise_map]
  refine dict.ascending.imp ?_
  rintro ⟨a, _⟩ ⟨b, _⟩ h rfl
  exact List.lt_irrefl a h

/-- The last of the entries of a key. -/
def IsLast (entries : List (Text × α)) (key : Text) (value : α) : Prop :=
  ∃ before after, entries = before ++ (key, value) :: after ∧ key ∉ after.map Prod.fst

theorem isLast_iff_lookup_reverse {entries : List (Text × α)} {key : Text} {value : α} :
    IsLast entries key value ↔ entries.reverse.lookup key = some value := by
  rw [List.lookup_eq_some_iff]
  constructor
  · rintro ⟨before, after, rfl, last⟩
    refine ⟨after.reverse, before.reverse, by simp, ?_⟩
    intro e he
    have : key ≠ e.1 := fun h => last (h ▸ List.mem_map_of_mem (List.mem_reverse.1 he))
    simpa using this
  · rintro ⟨after, before, he, last⟩
    refine ⟨before.reverse, after.reverse, ?_, ?_⟩
    · rw [← List.reverse_reverse entries, he]
      simp
    · intro h
      obtain ⟨e, hm, rfl⟩ := List.mem_map.1 h
      simpa using last e (List.mem_reverse.1 hm)

/-- With different keys every entry is the last of its key. -/
theorem isLast_iff_mem {entries : List (Text × α)} (h : (entries.map Prod.fst).Nodup) {key : Text}
    {value : α} : IsLast entries key value ↔ (key, value) ∈ entries := by
  constructor
  · rintro ⟨before, after, rfl, -⟩
    simp
  · intro hm
    obtain ⟨before, after, rfl⟩ := List.append_of_mem hm
    refine ⟨before, after, rfl, ?_⟩
    rw [List.map_append, List.map_cons, List.nodup_append] at h
    exact (List.nodup_cons.1 h.2.1).1

/-- Entries put into a dictionary stand over what it answered before. -/
theorem find?_foldl_insert (entries : List (Text × α)) (dict : Dict α) (key : Text) :
    (entries.foldl (fun dict entry => dict.insert entry.1 entry.2) dict).find? key =
      (entries.reverse.lookup key).or (dict.find? key) := by
  induction entries generalizing dict with
  | nil => rfl
  | cons entry rest ih =>
    obtain ⟨k, v⟩ := entry
    rw [List.foldl_cons, ih, find?_insert, List.reverse_cons, List.lookup_append, Option.or_assoc]
    by_cases h : key = k
    · simp [h]
    · have other : (key == k) = false := beq_false_of_ne h
      simp [h, other, List.lookup_cons]

/-- Of the entries put in, the last of a key is its answer. -/
theorem find?_ofList {entries : List (Text × α)} {key : Text} {value : α} :
    (ofList entries).find? key = some value ↔ IsLast entries key value := by
  rw [ofList, find?_foldl_insert, find?_empty, Option.or_none, isLast_iff_lookup_reverse]

theorem ofList_of_perm {entries : List (Text × α)} {dict : Dict α}
    (h : entries.Perm dict.entries) : ofList entries = dict := by
  have nodup : (entries.map Prod.fst).Nodup := (h.map Prod.fst).nodup_iff.2 dict.keys_nodup
  apply eq_of_find?
  intro key
  apply Option.ext
  intro value
  rw [find?_ofList, isLast_iff_mem nodup, h.mem_iff, ← find?_eq_some_iff]

end VoxelTemplate.Dict
