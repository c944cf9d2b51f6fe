/-!
# Rosters

Identifiers in the order in which they arrived, each with a value and each at most once.

* `lookup_put_self`, `lookup_put_other` — writing one identifier changes no other;
* `keys_put` — an identifier that is already there keeps its place;
* `lookup_filter` — dropping entries keeps the values of the rest;
* `lookup_remove_self`, `lookup_remove_other` — removing one identifier changes no other.
-/

namespace Admission

/-- Identifiers with a value each. -/
structure Roster (α : Type) where
  entries : List (String × α)
  distinct : (entries.map Prod.fst).Nodup

namespace Roster

variable {α : Type}

/-- Nobody. -/
def empty : Roster α :=
  ⟨[], by simp⟩

/-- The identifiers, in the order of their arrival. -/
def keys (r : Roster α) : List String :=
  r.entries.map Prod.fst

/-- How many identifiers there are. -/
def size (r : Roster α) : Nat :=
  r.entries.length

/-- The value of the first entry for an identifier. -/
def lookupIn (id : String) : List (String × α) → Option α
  | [] => none
  | e :: rest => if e.1 = id then some e.2 else lookupIn id rest

/-- The value of an identifier. -/
def lookup (r : Roster α) (id : String) : Option α :=
  lookupIn id r.entries

/-- The entries with the value of one identifier written, in its old place if it has one. -/
def upsert (id : String) (a : α) : List (String × α) → List (String × α)
  | [] => [(id, a)]
  | e :: rest => if e.1 = id then (id, a) :: rest else e :: upsert id a rest

/-- An identifier that is present keeps its place, a new one goes last. -/
theorem map_fst_upsert (id : String) (a : α) (es : List (String × α)) :
    (upsert id a es).map Prod.fst =
      if id ∈ es.map Prod.fst then es.map Prod.fst else es.map Prod.fst ++ [id] := by
  induction es with
  | nil => simp [upsert]
  | cons e rest ih =>
    by_cases h : e.1 = id
    · simp [upsert, h]
    · have h' : ¬ id = e.1 := fun k => h k.symm
      by_cases hm : id ∈ rest.map Prod.fst
      · simp [upsert, h, ih, hm]
      · simp [upsert, h, h', ih, hm]

/-- Writing one identifier keeps the identifiers distinct. -/
theorem nodup_upsert (id : String) (a : α) {es : List (String × α)}
    (h : (es.map Prod.fst).Nodup) : ((upsert id a es).map Prod.fst).Nodup := by
  rw [map_fst_upsert]
  by_cases hm : id ∈ es.map Prod.fst
  · simpa [hm] using h
  · rw [if_neg hm]
    refine List.nodup_append.2 ⟨h, by simp, ?_⟩
    intro x hx y hy hxy
    simp only [List.mem_singleton] at hy
    subst hy
    subst hxy
    exact hm hx

/-- The roster with the value of one identifier written. -/
def put (r : Roster α) (id : String) (a : α) : Roster α :=
  ⟨upsert id a r.entries, nodup_upsert id a r.distinct⟩

/-- The entries whose value passes a test. -/
def filter (r : Roster α) (keep : α → Bool) : Roster α :=
  ⟨r.entries.filter fun e => keep e.2,
    List.Nodup.sublist (List.Sublist.map _ List.filter_sublist) r.distinct⟩

/-- The entries of all identifiers but one. -/
def remove (r : Roster α) (id : String) : Roster α :=
  ⟨r.entries.filter fun e => e.1 ≠ id,
    List.Nodup.sublist (List.Sublist.map _ List.filter_sublist) r.distinct⟩

/-! ## What the operations do to a lookup -/

@[simp] theorem lookup_empty (id : String) : (empty : Roster α).lookup id = none := rfl

theorem lookupIn_upsert_self (id : String) (a : α) (es : List (String × α)) :
    lookupIn id (upsert id a es) = some a := by
  induction es with
  | nil => simp [upsert, lookupIn]
  | cons e rest ih =>
    by_cases h : e.1 = id
    · simp [upsert, lookupIn, h]
    · simp [upsert, lookupIn, h, ih]

theorem lookupIn_upsert_other {id other : String} (h : other ≠ id) (a : α)
    (es : List (String × α)) : lookupIn other (upsert id a es) = lookupIn other es := by
  induction es with
  | nil => simp [upsert, lookupIn, Ne.symm h]
  | cons e rest ih =>
    by_cases he : e.1 = id
    · simp [upsert, lookupIn, he, Ne.symm h]
    · by_cases ho : e.1 = other
      · simp [upsert, lookupIn, ho, h]
      · simp [upsert, lookupIn, he, ho, ih]

/-- What was written is read back. -/
@[simp] theorem lookup_put_self (r : Roster α) (id : String) (a : α) :
    (r.put id a).lookup id = some a :=
  lookupIn_upsert_self id a r.entries

/-- Writing one identifier changes no other. -/
theorem lookup_put_other (r : Roster α) {id other : String} (h : other ≠ id) (a : α) :
    (r.put id a).lookup other = r.lookup other :=
  lookupIn_upsert_other h a r.entries

theorem keys_put (r : Roster α) (id : String) (a : α) :
    (r.put id a).keys = if id ∈ r.keys then r.keys else r.keys ++ [id] :=
  map_fst_upsert id a r.entries

theorem lookupIn_eq_none (id : String) (es : List (String × α)) :
    lookupIn id es = none ↔ id ∉ es.map Prod.fst := by
  induction es with
  | nil => simp [lookupIn]
  | cons e rest ih =>
    by_cases h : e.1 = id
    · simp [lookupIn, h]
    · have h' : ¬ id = e.1 := fun k => h k.symm
      simpa [lookupIn, h, h'] using ih

/-- An identifier has no value exactly when it is not among the keys. -/
theorem lookup_eq_none (r : Roster α) (id : String) : r.lookup id = none ↔ id ∉ r.keys :=
  lookupIn_eq_none id r.entries

theorem lookupIn_filter (keep : α → Bool) (id : String) (es : List (String × α))
    (h : (es.map Prod.fst).Nodup) :
    lookupIn id (es.filter fun e => keep e.2) = (lookupIn id es).filter keep := by
  induction es with
  | nil => simp [lookupIn]
  | cons e rest ih =>
    simp only [List.map_cons, List.nodup_cons] at h
    by_cases hk : keep e.2
    · by_cases he : e.1 = id
      · simp [lookupIn, hk, he, Option.filter]
      · simp [lookupIn, hk, he, ih h.2]
    · by_cases he : e.1 = id
      · have hnot : id ∉ rest.map Prod.fst := he ▸ h.1
        have hnone := (lookupIn_eq_none id rest).2 hnot
        simp [lookupIn, hk, he, ih h.2, hnone, Option.filter]
      · simp [lookupIn, hk, he, ih h.2]

/-- Dropping entries keeps the values of the rest. -/
theorem lookup_filter (r : Roster α) (keep : α → Bool) (id : String) :
    (r.filter keep).lookup id = (r.lookup id).filter keep :=
  lookupIn_filter keep id r.entries r.distinct

/-- The value in an entry is the value of its identifier. -/
theorem lookup_of_mem (r : Roster α) {e : String × α} (he : e ∈ r.entries) :
    r.lookup e.1 = some e.2 := by
  obtain ⟨entries, distinct⟩ := r
  unfold lookup
  induction entries with
  | nil => cases he
  | cons head rest ih =>
    simp only [List.map_cons, List.nodup_cons] at distinct
    rcases List.mem_cons.1 he with rfl | hrest
    · simp [lookupIn]
    · have hne : head.1 ≠ e.1 := fun h => distinct.1 (h ▸ List.mem_map_of_mem hrest)
      simpa [lookupIn, hne] using ih distinct.2 hrest

/-- Whoever is removed has no value. -/
@[simp] theorem lookup_remove_self (r : Roster α) (id : String) :
    (r.remove id).lookup id = none := by
  rw [lookup_eq_none]
  intro hkey
  obtain ⟨e, he, rfl⟩ := List.mem_map.1 hkey
  simpa using (List.mem_filter.1 he).2

/-- Removing one identifier changes no other. -/
theorem lookup_remove_other (r : Roster α) {id other : String} (h : other ≠ id) :
    (r.remove id).lookup other = r.lookup other := by
  obtain ⟨entries, distinct⟩ := r
  unfold lookup remove
  induction entries with
  | nil => rfl
  | cons e rest ih =>
    have hrest := ih (List.nodup_cons.1 distinct).2
    by_cases he : e.1 = id
    · simpa [lookupIn, he, Ne.symm h] using hrest
    · by_cases ho : e.1 = other
      · simp [lookupIn, ho, h]
      · simpa [lookupIn, he, ho] using hrest

/-! ## What the operations do to the size -/

theorem size_eq_length_keys (r : Roster α) : r.size = r.keys.length :=
  (List.length_map _).symm

/-- Writing adds an identifier unless it is there. -/
theorem size_put (r : Roster α) (id : String) (a : α) :
    (r.put id a).size = if id ∈ r.keys then r.size else r.size + 1 := by
  rw [size_eq_length_keys, keys_put]
  split
  · exact r.size_eq_length_keys.symm
  · rw [List.length_append, ← size_eq_length_keys, List.length_singleton]

theorem size_filter_le (r : Roster α) (keep : α → Bool) : (r.filter keep).size ≤ r.size :=
  List.length_filter_le _ _

theorem size_remove_le (r : Roster α) (id : String) : (r.remove id).size ≤ r.size :=
  List.length_filter_le _ _

end Roster
end Admission
