/-!
# Named entries in insertion order

Association lists keyed by text that keep the order in which names first came in. Storing a value
under a name that is there replaces the value at its old place.
-/

namespace DataAccess

/-- Values under names, in the order in which the names came in. -/
abbrev Entries (α : Type _) := List (String × α)

namespace Entries

variable {α β : Type _}

/-- The value under the name, if there is one. -/
def find? (name : String) : Entries α → Option α
  | [] => none
  | (key, value) :: rest => if key = name then some value else find? name rest

/-- Stores a value under the name: at its old place if the name is there, else at the end. -/
def insert (name : String) (value : α) : Entries α → Entries α
  | [] => [(name, value)]
  | (key, old) :: rest =>
    if key = name then (key, value) :: rest else (key, old) :: insert name value rest

/-- Adds one member to the group of the name, which starts at the end if it is new. -/
def addTo (name : String) (member : β) : Entries (List β) → Entries (List β)
  | [] => [(name, [member])]
  | (key, members) :: rest =>
    if key = name then (key, members ++ [member]) :: rest
    else (key, members) :: addTo name member rest

/-- The entries of a list of pairs stored one after another. -/
def ofList (pairs : List (String × α)) : Entries α :=
  pairs.foldl (fun entries pair => insert pair.1 pair.2 entries) []

/-- The entries with pairs stored one after another. -/
def storeAll (pairs : List (String × α)) (entries : Entries α) : Entries α :=
  pairs.foldl (fun entries pair => insert pair.1 pair.2 entries) entries

/-- The value of the last pair with the name, if there is one. -/
def last? (name : String) : List (String × α) → Option α
  | [] => none
  | (key, value) :: rest =>
    (last? name rest).or (if key = name then some value else none)

/-- The entries without a name. -/
def erase (name : String) (entries : Entries α) : Entries α :=
  entries.filter fun entry => entry.1 ≠ name

/-- The names, in order. -/
def names (entries : Entries α) : List String :=
  entries.map Prod.fst

@[simp] theorem find?_nil (name : String) : find? name ([] : Entries α) = none := rfl

theorem find?_insert_self (name : String) (value : α) (entries : Entries α) :
    find? name (insert name value entries) = some value := by
  induction entries with
  | nil => simp [insert, find?]
  | cons entry rest ih =>
    obtain ⟨key, old⟩ := entry
    by_cases same : key = name <;> simp [insert, find?, same, ih]

theorem find?_insert_of_ne {name other : String} (differ : other ≠ name) (value : α)
    (entries : Entries α) : find? other (insert name value entries) = find? other entries := by
  induction entries with
  | nil => simp [insert, find?, differ.symm]
  | cons entry rest ih =>
    obtain ⟨key, old⟩ := entry
    by_cases same : key = name
    · subst same
      simp [insert, find?, differ.symm]
    · simp only [insert, same, if_false, find?]
      split <;> simp [ih]

/-- Storing under a name that is there keeps the names, and a new name goes to the end. -/
theorem names_insert (name : String) (value : α) (entries : Entries α) :
    names (insert name value entries) =
      if name ∈ names entries then names entries else names entries ++ [name] := by
  induction entries with
  | nil => simp [insert, names]
  | cons entry rest ih =>
    obtain ⟨key, old⟩ := entry
    by_cases same : key = name
    · subst same
      simp [insert, names]
    · have differ : name ≠ key := Ne.symm same
      simp only [names] at ih
      simp only [insert, same, if_false, names, List.map_cons, List.mem_cons, differ, false_or, ih]
      split <;> simp_all

theorem find?_eq_none_iff {name : String} {entries : Entries α} :
    find? name entries = none ↔ name ∉ names entries := by
  induction entries with
  | nil => simp [names]
  | cons entry rest ih =>
    obtain ⟨key, value⟩ := entry
    by_cases same : key = name
    · subst same
      simp [find?, names]
    · have differ : name ≠ key := Ne.symm same
      simp only [names] at ih
      simp [find?, names, same, differ, ih]

/-- Where no name comes twice, every entry is found under its name. -/
theorem find?_of_mem {name : String} {value : α} {entries : Entries α}
    (distinct : (names entries).Nodup) (member : (name, value) ∈ entries) :
    find? name entries = some value := by
  induction entries with
  | nil => cases member
  | cons entry rest ih =>
    obtain ⟨key, old⟩ := entry
    obtain ⟨fresh, distinct⟩ := List.nodup_cons.mp distinct
    rcases List.mem_cons.mp member with same | later
    · cases same
      simp [find?]
    · have named : name ∈ names rest := List.mem_map.mpr ⟨(name, value), later, rfl⟩
      have differ : key ≠ name := by
        rintro rfl
        exact fresh named
      rw [find?, if_neg differ]
      exact ih distinct later

/-- Pairs stored one after another answer with the last of a name before what was there. -/
theorem find?_storeAll (name : String) (pairs : List (String × α)) (entries : Entries α) :
    find? name (storeAll pairs entries) = (last? name pairs).or (find? name entries) := by
  induction pairs generalizing entries with
  | nil => rfl
  | cons pair rest ih =>
    obtain ⟨key, value⟩ := pair
    have step : storeAll ((key, value) :: rest) entries =
        storeAll rest (insert key value entries) := rfl
    rw [step, ih, last?, Option.or_assoc]
    by_cases same : key = name
    · subst same
      rw [find?_insert_self, if_pos rfl, Option.some_or]
    · rw [find?_insert_of_ne (Ne.symm same), if_neg same, Option.none_or]

theorem last?_eq_none_iff {name : String} {pairs : List (String × α)} :
    last? name pairs = none ↔ name ∉ pairs.map Prod.fst := by
  induction pairs with
  | nil => simp [last?]
  | cons pair rest ih =>
    obtain ⟨key, value⟩ := pair
    rw [last?, Option.or_eq_none_iff, ih]
    simp [and_comm, eq_comm]

/-- Where no name comes twice, the last pair with a name is the only one. -/
theorem last?_of_mem {name : String} {value : α} {pairs : List (String × α)}
    (distinct : (pairs.map Prod.fst).Nodup) (member : (name, value) ∈ pairs) :
    last? name pairs = some value := by
  induction pairs with
  | nil => cases member
  | cons pair rest ih =>
    obtain ⟨key, old⟩ := pair
    obtain ⟨fresh, distinct⟩ := List.nodup_cons.mp distinct
    rcases List.mem_cons.mp member with same | later
    · cases same
      rw [last?, last?_eq_none_iff.mpr fresh, if_pos rfl, Option.none_or]
    · rw [last?, ih distinct later, Option.some_or]

theorem mem_of_last? {name : String} {value : α} {pairs : List (String × α)}
    (last : last? name pairs = some value) : (name, value) ∈ pairs := by
  induction pairs with
  | nil => cases last
  | cons pair rest ih =>
    obtain ⟨key, old⟩ := pair
    rw [last?, Option.or_eq_some_iff] at last
    rcases last with later | ⟨-, first⟩
    · exact List.mem_cons_of_mem _ (ih later)
    · by_cases same : key = name
      · rw [if_pos same] at first
        cases first
        exact same ▸ List.mem_cons_self
      · rw [if_neg same] at first
        cases first

theorem find?_ofList (name : String) (pairs : List (String × α)) :
    find? name (ofList pairs) = last? name pairs := by
  have stored : ofList pairs = storeAll pairs [] := rfl
  rw [stored, find?_storeAll, find?_nil, Option.or_none]

section Zip

variable {γ : Type _} {name : γ → String} {items : List γ} {values : List α}

theorem map_fst_zip_map (lengths : values.length = items.length) :
    ((items.map name).zip values).map Prod.fst = items.map name := by
  refine List.map_fst_zip ?_
  rw [List.length_map]
  exact Nat.le_of_eq lengths.symm

theorem mem_zip_map {item : γ} {value : α} (paired : (item, value) ∈ items.zip values) :
    (name item, value) ∈ (items.map name).zip values := by
  rw [List.zip_map_left]
  exact List.mem_map.mpr ⟨(item, value), paired, rfl⟩

/-- Values paired with the distinct names of items are found under the names of their items. -/
theorem find?_zip_of_mem {item : γ} {value : α} (distinct : (items.map name).Nodup)
    (lengths : values.length = items.length) (paired : (item, value) ∈ items.zip values) :
    find? (name item) ((items.map name).zip values) = some value := by
  rw [← map_fst_zip_map lengths] at distinct
  exact find?_of_mem distinct (mem_zip_map paired)

theorem last?_zip_of_mem {item : γ} {value : α} (distinct : (items.map name).Nodup)
    (lengths : values.length = items.length) (paired : (item, value) ∈ items.zip values) :
    last? (name item) ((items.map name).zip values) = some value := by
  rw [← map_fst_zip_map lengths] at distinct
  exact last?_of_mem distinct (mem_zip_map paired)

end Zip

end Entries

end DataAccess
