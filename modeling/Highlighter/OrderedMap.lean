import Highlighter.StrictOrder

/-!
# Ordered finite maps

A finite map is kept as the list of its entries with strictly ascending keys, so that equal maps
are equal values whatever order the entries were added in.
-/

namespace Highlighter

universe u v

/-- A finite map, held as its entries with strictly ascending keys. -/
structure OrderedMap (κ : Type u) (α : Type v) [LT κ] where
  /-- The entries, from the least key to the greatest. -/
  toList : List (κ × α)
  /-- Each key is less than every later one. -/
  ascending : toList.Pairwise (·.1 < ·.1)
deriving DecidableEq

namespace OrderedMap

variable {κ : Type u} {α : Type v} [LT κ] [DecidableLT κ]

/-- Puts an entry at its place in an ascending list, instead of the one that has the same key. -/
def insertEntry (key : κ) (value : α) : List (κ × α) → List (κ × α)
  | [] => [(key, value)]
  | (other, held) :: rest =>
    if key < other then (key, value) :: (other, held) :: rest
    else if other < key then (other, held) :: insertEntry key value rest
    else (key, value) :: rest

theorem key_mem_insertEntry {key : κ} {value : α} {entry : κ × α} {entries : List (κ × α)}
    (h : entry ∈ insertEntry key value entries) : entry = (key, value) ∨ entry ∈ entries := by
  induction entries with
  | nil => simpa [insertEntry] using h
  | cons head rest ih =>
      simp only [insertEntry] at h
      split at h
      · simpa using h
      · split at h
        · rcases List.mem_cons.mp h with rfl | later
          · simp
          · rcases ih later with new | held <;> simp_all
        · rcases List.mem_cons.mp h with rfl | later
          · simp
          · exact Or.inr (List.mem_cons_of_mem _ later)

/-- The value of a key, if the map has an entry for it. -/
def find? [DecidableEq κ] (map : OrderedMap κ α) (key : κ) : Option α :=
  map.toList.lookup key

variable [StrictOrder κ]

theorem pairwise_insertEntry (key : κ) (value : α) {entries : List (κ × α)}
    (ascending : entries.Pairwise (·.1 < ·.1)) :
    (insertEntry key value entries).Pairwise (·.1 < ·.1) := by
  induction entries with
  | nil => simp [insertEntry]
  | cons head rest ih =>
      have ⟨below, restAscending⟩ := List.pairwise_cons.mp ascending
      simp only [insertEntry]
      split
      · next less =>
          refine List.pairwise_cons.mpr ⟨?_, ascending⟩
          intro entry held
          rcases List.mem_cons.mp held with rfl | later
          · exact less
          · exact StrictOrder.trans less (below entry later)
      · next notLess =>
          split
          · next greater =>
              refine List.pairwise_cons.mpr ⟨?_, ih restAscending⟩
              intro entry held
              rcases key_mem_insertEntry held with rfl | later
              · exact greater
              · exact below entry later
          · next notGreater =>
              have equal : key = head.1 := StrictOrder.eq_of_not_lt notLess notGreater
              refine List.pairwise_cons.mpr ⟨?_, restAscending⟩
              intro entry held
              simpa [equal] using below entry held

/-- The map without entries. -/
def empty : OrderedMap κ α := ⟨[], List.Pairwise.nil⟩

/-- Sets the value of a key. -/
def insert (map : OrderedMap κ α) (key : κ) (value : α) : OrderedMap κ α :=
  ⟨insertEntry key value map.toList, pairwise_insertEntry key value map.ascending⟩

/-- Collects entries into a map; the last entry for a key counts. -/
def ofList (entries : List (κ × α)) : OrderedMap κ α :=
  entries.foldl (fun map entry => map.insert entry.1 entry.2) empty

/-! ### Collecting entries -/

theorem insertEntry_eq_append {key : κ} {value : α} {entries : List (κ × α)}
    (above : ∀ entry ∈ entries, entry.1 < key) :
    insertEntry key value entries = entries ++ [(key, value)] := by
  induction entries with
  | nil => rfl
  | cons head rest ih =>
      rcases List.forall_mem_cons.mp above with ⟨less, others⟩
      have notLess : ¬key < head.1 :=
        fun greater => StrictOrder.irrefl key (StrictOrder.trans greater less)
      simp only [insertEntry, if_neg notLess, if_pos less, ih others, List.cons_append]

theorem toList_ofList {entries : List (κ × α)} (ascending : entries.Pairwise (·.1 < ·.1)) :
    (ofList entries).toList = entries := by
  suffices general : ∀ map : OrderedMap κ α, (map.toList ++ entries).Pairwise (·.1 < ·.1) →
      (entries.foldl (fun map entry => map.insert entry.1 entry.2) map).toList =
        map.toList ++ entries from general empty ascending
  clear ascending
  induction entries with
  | nil => simp
  | cons entry entries ih =>
      intro map ascending
      have above : ∀ held ∈ map.toList, held.1 < entry.1 := fun held member =>
        (List.pairwise_append.mp ascending).2.2 held member entry List.mem_cons_self
      have inserted : (map.insert entry.1 entry.2).toList = map.toList ++ [entry] :=
        insertEntry_eq_append above
      rw [List.foldl_cons, ih, inserted, List.append_assoc, List.singleton_append]
      rw [inserted, List.append_assoc, List.singleton_append]
      exact ascending

/-- The entries of a map make up the map. -/
theorem ofList_toList (map : OrderedMap κ α) : ofList map.toList = map := by
  have same := toList_ofList map.ascending
  generalize ofList map.toList = collected at same
  rcases map with ⟨entries, ascending⟩
  rcases collected with ⟨collectedEntries, collectedAscending⟩
  exact (mk.injEq _ _ _ _).mpr same

end OrderedMap

/-! ### Looking up what was set -/

theorem lookup_cons_eq_ite {κ : Type u} {α : Type v} [DecidableEq κ] (key : κ) (entry : κ × α)
    (rest : List (κ × α)) :
    (entry :: rest).lookup key = if key = entry.1 then some entry.2 else rest.lookup key := by
  rcases entry with ⟨name, held⟩
  by_cases equal : key = name
  · simp [equal]
  · have distinct : (key == name) = false := beq_false_of_ne equal
    simp [List.lookup_cons, equal, distinct]

namespace OrderedMap

variable {κ : Type u} {α : Type v} [LT κ] [DecidableEq κ]

@[simp]
theorem find?_empty (key : κ) : (empty : OrderedMap κ α).find? key = none := rfl

variable [DecidableLT κ] [StrictOrder κ]

theorem lookup_insertEntry (key other : κ) (value : α) (entries : List (κ × α)) :
    (insertEntry key value entries).lookup other =
      if other = key then some value else entries.lookup other := by
  induction entries with
  | nil => simp [insertEntry, lookup_cons_eq_ite]
  | cons head rest ih =>
      simp only [insertEntry]
      split
      · simp only [lookup_cons_eq_ite]
      · next notLess =>
          split
          · next greater =>
              have different : head.1 ≠ key := fun same => StrictOrder.irrefl key (same ▸ greater)
              simp only [lookup_cons_eq_ite, ih]
              grind
          · next notGreater =>
              have same : key = head.1 := StrictOrder.eq_of_not_lt notLess notGreater
              simp only [lookup_cons_eq_ite, same]
              grind

@[simp]
theorem find?_insert (map : OrderedMap κ α) (key other : κ) (value : α) :
    (map.insert key value).find? other = if other = key then some value else map.find? other :=
  lookup_insertEntry key other value map.toList

end OrderedMap

end Highlighter
