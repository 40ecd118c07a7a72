namespace Fleetwire

structure Assoc (Key Value : Type) where
  entries : List (Key × Value) := []
  distinct : (entries.map Prod.fst).Nodup := by simp
deriving Repr

namespace Assoc

variable {Key Value : Type} [DecidableEq Key]

instance [DecidableEq Value] : DecidableEq (Assoc Key Value) := fun a b =>
  decidable_of_iff (a.entries = b.entries) (by cases a; cases b; simp)

abbrev empty : Assoc Key Value := {}

def get? (map : Assoc Key Value) (key : Key) : Option Value :=
  (map.entries.find? fun e => e.1 = key).map Prod.snd

def contains (map : Assoc Key Value) (key : Key) : Bool := (map.get? key).isSome

def erase (map : Assoc Key Value) (key : Key) : Assoc Key Value where
  entries := map.entries.filter fun e => e.1 ≠ key
  distinct := map.distinct.sublist (List.filter_sublist.map _)

def insert (map : Assoc Key Value) (key : Key) (value : Value) : Assoc Key Value where
  entries := (map.erase key).entries ++ [(key, value)]
  distinct := by
    rw [List.map_append, List.nodup_append]
    refine ⟨(map.erase key).distinct, by simp, fun k hk l hl => ?_⟩
    obtain ⟨e, he, rfl⟩ := List.mem_map.1 hk
    have hne : e.1 ≠ key := by simpa using (List.mem_filter.1 he).2
    simpa [List.mem_singleton.1 hl] using hne

def size (map : Assoc Key Value) : Nat := map.entries.length

def keys (map : Assoc Key Value) : List Key := map.entries.map Prod.fst

def values (map : Assoc Key Value) : List Value := map.entries.map Prod.snd

@[simp] theorem get?_empty (key : Key) : (empty : Assoc Key Value).get? key = none := rfl

theorem get?_erase (map : Assoc Key Value) (key other : Key) :
    (map.erase key).get? other = if other = key then none else map.get? other := by
  obtain ⟨entries, distinct⟩ := map
  simp only [get?, erase]
  clear distinct
  induction entries with
  | nil => simp
  | cons e rest ih =>
    by_cases hk : e.1 = key
    · rw [List.filter_cons_of_neg (by simp [hk]), ih]
      by_cases ho : other = key
      · simp [ho]
      · have : ¬ e.1 = other := fun h => ho (h ▸ hk)
        simp [ho, List.find?_cons_of_neg, this]
    · rw [List.filter_cons_of_pos (by simp [hk])]
      by_cases he : e.1 = other
      · have : ¬ other = key := fun h => hk (he.trans h)
        simp [he, this]
      · rw [List.find?_cons_of_neg (by simp [he]), List.find?_cons_of_neg (by simp [he]), ih]

theorem get?_insert (map : Assoc Key Value) (key other : Key) (value : Value) :
    (map.insert key value).get? other = if other = key then some value else map.get? other := by
  have h := get?_erase map key other
  simp only [get?] at h
  simp only [get?, insert, List.find?_append, Option.map_or, h]
  by_cases ho : other = key
  · simp [ho]
  · have : ¬ key = other := fun h => ho h.symm
    simp [ho, this]

theorem get?_of_mem {map : Assoc Key Value} {key : Key} {value : Value}
    (h : (key, value) ∈ map.entries) : map.get? key = some value := by
  obtain ⟨entries, distinct⟩ := map
  simp only [get?] at h ⊢
  induction entries with
  | nil => cases h
  | cons e rest ih =>
    obtain ⟨fresh, distinct⟩ := List.nodup_cons.1 distinct
    rcases List.mem_cons.1 h with rfl | member
    · rw [List.find?_cons_of_pos (by simp)]
      rfl
    · have other : ¬ e.1 = key := fun same => fresh (same ▸ List.mem_map_of_mem member)
      rw [List.find?_cons_of_neg (by simpa using other)]
      exact ih distinct member

theorem mem_keys {map : Assoc Key Value} {key : Key} :
    key ∈ map.keys ↔ ∃ value, map.get? key = some value := by
  constructor
  · intro member
    obtain ⟨⟨_, value⟩, entry, rfl⟩ := List.mem_map.1 member
    exact ⟨value, get?_of_mem entry⟩
  · rintro ⟨value, found⟩
    obtain ⟨entry, here, rfl⟩ := Option.map_eq_some_iff.1 found
    have same : entry.1 = key := by simpa using List.find?_some here
    exact same ▸ List.mem_map_of_mem (List.mem_of_find?_eq_some here)

theorem mem_values {map : Assoc Key Value} {value : Value} :
    value ∈ map.values ↔ ∃ key, map.get? key = some value := by
  constructor
  · intro member
    obtain ⟨⟨key, _⟩, entry, rfl⟩ := List.mem_map.1 member
    exact ⟨key, get?_of_mem entry⟩
  · rintro ⟨key, found⟩
    obtain ⟨entry, here, rfl⟩ := Option.map_eq_some_iff.1 found
    exact List.mem_map_of_mem (List.mem_of_find?_eq_some here)

end Assoc

end Fleetwire
