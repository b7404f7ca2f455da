import VoxelTemplate.Text.Basic
/-! Dictionaries from texts to values. The entries stand in the order of their keys, so two
dictionaries with the same answers are equal. -/
namespace VoxelTemplate

/-- Entries in strictly ascending order of the keys, character by character by code point. -/
structure Dict (α : Type) where
  entries : List (Text × α)
  ascending : entries.Pairwise fun a b => a.1 < b.1

namespace Dict
variable {α : Type}

def empty : Dict α := ⟨[], .nil⟩

instance : Inhabited (Dict α) := ⟨empty⟩

def find? (dict : Dict α) (key : Text) : Option α := dict.entries.lookup key

def has (dict : Dict α) (key : Text) : Bool := (dict.find? key).isSome

def keys (dict : Dict α) : List Text := dict.entries.map Prod.fst

/-- Puts an entry at its place, over an entry with the same key. -/
def place (key : Text) (value : α) : List (Text × α) → List (Text × α)
  | [] => [(key, value)]
  | (k, v) :: rest =>
    if key < k then (key, value) :: (k, v) :: rest
    else if k < key then (k, v) :: place key value rest
    else (key, value) :: rest

theorem eq_of_not_lt {a b : Text} (h : ¬ a < b) (h' : ¬ b < a) : a = b :=
  List.le_antisymm (List.not_lt.1 h') (List.not_lt.1 h)

theorem mem_place {key : Text} {value : α} {entries : List (Text × α)} {e : Text × α}
    (h : e ∈ place key value entries) : e = (key, value) ∨ e ∈ entries := by
  induction entries with
  | nil => simpa [place] using h
  | cons head rest ih =>
    obtain ⟨k, v⟩ := head
    simp only [place] at h
    split at h
    · simpa using h
    · split at h
      · rcases List.mem_cons.1 h with rfl | h
        · simp
        · rcases ih h with h | h <;> simp [h]
      · rcases List.mem_cons.1 h with rfl | h <;> simp [*]

theorem place_ascending {key : Text} {value : α} {entries : List (Text × α)}
    (h : entries.Pairwise fun a b => a.1 < b.1) :
    (place key value entries).Pairwise fun a b => a.1 < b.1 := by
  induction entries with
  | nil => simp [place]
  | cons head rest ih =>
    obtain ⟨k, v⟩ := head
    obtain ⟨hk, hrest⟩ := List.pairwise_cons.1 h
    simp only [place]
    split
    · next hlt =>
      refine List.pairwise_cons.2 ⟨fun e he => ?_, h⟩
      rcases List.mem_cons.1 he with rfl | he
      · exact hlt
      · exact List.lt_trans hlt (hk e he)
    · split
      · next hgt =>
        refine List.pairwise_cons.2 ⟨fun e he => ?_, ih hrest⟩
        rcases mem_place he with rfl | he
        · exact hgt
        · exact hk e he
      · next hge hle =>
        have : key = k := eq_of_not_lt hge hle
        subst this
        exact List.pairwise_cons.2 ⟨hk, hrest⟩

/-- The dictionary with `value` under `key`, whatever was there before. -/
def insert (dict : Dict α) (key : Text) (value : α) : Dict α :=
  ⟨place key value dict.entries, place_ascending dict.ascending⟩

/-- Entries put in one after the other; of two with one key the later stays. -/
def ofList (entries : List (Text × α)) : Dict α :=
  entries.foldl (fun dict entry => dict.insert entry.1 entry.2) empty

theorem lookup_place (key other : Text) (value : α) (entries : List (Text × α)) :
    (place key value entries).lookup other =
      if other = key then some value else entries.lookup other := by
  induction entries with
  | nil => simp only [place, List.lookup_cons, List.lookup_nil]; split <;> simp_all
  | cons head rest ih =>
    obtain ⟨k, v⟩ := head
    simp only [place]
    split
    · simp only [List.lookup_cons]; split <;> simp_all
    · split
      · next hgt =>
        simp only [List.lookup_cons, ih]
        by_cases ho : other = key
        · subst ho
          have : other ≠ k := fun he => List.lt_irrefl k (he ▸ hgt)
          simp [beq_false_of_ne this]
        · simp [ho]
      · next hge hle =>
        have : key = k := eq_of_not_lt hge hle
        subst this
        simp only [List.lookup_cons]; split <;> simp_all

theorem find?_insert (dict : Dict α) (key other : Text) (value : α) :
    (dict.insert key value).find? other = if other = key then some value else dict.find? other :=
  lookup_place ..

@[simp] theorem find?_empty (key : Text) : (empty : Dict α).find? key = none := rfl

@[ext] theorem ext {a b : Dict α} (h : a.entries = b.entries) : a = b := by
  cases a; cases b; simp_all

theorem lookup_eq_none {key : Text} {entries : List (Text × α)} (h : ∀ e ∈ entries, key < e.1) :
    entries.lookup key = none := by
  induction entries with
  | nil => rfl
  | cons head rest ih =>
    obtain ⟨k, v⟩ := head
    have hlt : key < k := h (k, v) List.mem_cons_self
    have hne : key ≠ k := fun he => List.lt_irrefl k (he ▸ hlt)
    rw [List.lookup_cons, beq_false_of_ne hne]
    exact ih fun e he => h e (List.mem_cons_of_mem _ he)

theorem entries_eq_of_lookup {a b : List (Text × α)} (ha : a.Pairwise fun x y => x.1 < y.1)
    (hb : b.Pairwise fun x y => x.1 < y.1) (h : ∀ key, a.lookup key = b.lookup key) : a = b := by
  induction a generalizing b with
  | nil =>
    cases b with
    | nil => rfl
    | cons head rest =>
      obtain ⟨k, v⟩ := head
      simpa [List.lookup_cons] using h k
  | cons head rest ih =>
    obtain ⟨k, v⟩ := head
    cases b with
    | nil => simpa [List.lookup_cons] using h k
    | cons other others =>
      obtain ⟨k', v'⟩ := other
      obtain ⟨hk, hrest⟩ := List.pairwise_cons.1 ha
      obtain ⟨hk', hothers⟩ := List.pairwise_cons.1 hb
      have hle : ¬ k < k' := fun hlt => by
        have hnone : ((k', v') :: others).lookup k = none := lookup_eq_none fun e he => by
          rcases List.mem_cons.1 he with rfl | he
          · exact hlt
          · exact List.lt_trans hlt (hk' e he)
        simpa [List.lookup_cons, hnone] using h k
      have hge : ¬ k' < k := fun hlt => by
        have hnone : ((k, v) :: rest).lookup k' = none := lookup_eq_none fun e he => by
          rcases List.mem_cons.1 he with rfl | he
          · exact hlt
          · exact List.lt_trans hlt (hk e he)
        simpa [List.lookup_cons, hnone] using h k'
      obtain rfl := eq_of_not_lt hle hge
      obtain rfl : v = v' := by simpa [List.lookup_cons] using h k
      rw [ih hrest hothers fun key => ?_]
      by_cases hkey : key = k
      · subst hkey
        rw [lookup_eq_none hk, lookup_eq_none hk']
      · simpa [List.lookup_cons, beq_false_of_ne hkey] using h key

/-- A dictionary is what it answers. -/
theorem eq_of_find? {a b : Dict α} (h : ∀ key, a.find? key = b.find? key) : a = b :=
  ext (entries_eq_of_lookup a.ascending b.ascending h)

instance [DecidableEq α] : DecidableEq (Dict α) := fun a b =>
  if h : a.entries = b.entries then isTrue (ext h) else isFalse fun he => h (he ▸ rfl)

end Dict
end VoxelTemplate
