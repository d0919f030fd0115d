import DataAccess.Proofs.Entries.Groups
import Mathlib.Data.List.Induction

/-!
# Stored and erased entries

Pairs that are stored one after another leave one entry for every name, at the place of the first
pair with the name and with the value of the last (`isLatest_ofList`); pairs with distinct names
stand behind each other as they came (`ofList_of_nodup`). Erasing a name leaves what is found under
other names alone, and it can be done before pairs are stored or afterwards (`erase_storeAll`).
-/

namespace DataAccess.Entries

variable {α : Type _}

theorem insert_of_notMem {name : String} {entries : Entries α} (fresh : name ∉ names entries)
    (value : α) : insert name value entries = entries ++ [(name, value)] := by
  induction entries with
  | nil => rfl
  | cons entry rest ih =>
      obtain ⟨key, old⟩ := entry
      have differ : key ≠ name := by
        rintro rfl
        exact fresh List.mem_cons_self
      have later : name ∉ names rest := fun taken => fresh (List.mem_cons_of_mem key taken)
      rw [insert, if_neg differ, ih later, List.cons_append]

theorem storeAll_of_nodup {pairs : List (String × α)} {entries : Entries α}
    (distinct : (names (entries ++ pairs)).Nodup) : storeAll pairs entries = entries ++ pairs := by
  induction pairs generalizing entries with
  | nil => rw [List.append_nil]; rfl
  | cons pair rest ih =>
      obtain ⟨name, value⟩ := pair
      have split : entries ++ (name, value) :: rest = (entries ++ [(name, value)]) ++ rest := by
        rw [List.append_assoc, List.singleton_append]
      have fresh : name ∉ names entries := by
        intro taken
        rw [names, List.map_append] at distinct
        exact (List.nodup_append.mp distinct).2.2 name taken name List.mem_cons_self rfl
      rw [split] at distinct ⊢
      rw [← insert_of_notMem fresh value] at distinct ⊢
      exact ih distinct

/-- Pairs with distinct names are stored as they are. -/
theorem ofList_of_nodup {pairs : List (String × α)} (distinct : (pairs.map Prod.fst).Nodup) :
    ofList pairs = pairs :=
  @storeAll_of_nodup _ pairs [] distinct

/-- The last pair with a name among pairs whose values were converted. -/
theorem last?_map {β : Type _} (convert : α → β) (name : String) (pairs : List (String × α)) :
    last? name (pairs.map fun pair => (pair.1, convert pair.2)) =
      (last? name pairs).map convert := by
  induction pairs with
  | nil => rfl
  | cons pair rest ih =>
      obtain ⟨key, value⟩ := pair
      rw [List.map_cons, last?, last?, ih, Option.map_or]
      by_cases same : key = name
      · rw [if_pos same, if_pos same, Option.map_some]
      · rw [if_neg same, if_neg same, Option.map_none]

/-- A name that is there keeps its place. -/
theorem insert_append_cons {name : String} {front : Entries α} (before : name ∉ names front)
    (value old : α) (back : Entries α) :
    insert name value (front ++ (name, old) :: back) = front ++ (name, value) :: back := by
  induction front with
  | nil => rw [List.nil_append, insert, if_pos rfl, List.nil_append]
  | cons entry rest ih =>
      obtain ⟨key, other⟩ := entry
      have differ : key ≠ name := by
        rintro rfl
        exact before List.mem_cons_self
      have later : name ∉ names rest := fun taken => before (List.mem_cons_of_mem key taken)
      rw [List.cons_append, insert, if_neg differ, ih later, List.cons_append]

/-- Pairs with distinct names are stored at the places that their names have. -/
theorem storeAll_append {pairs : List (String × α)} {front : Entries α} (old : α)
    (back : Entries α) (distinct : (names (front ++ pairs)).Nodup) :
    storeAll pairs (front ++ (pairs.map (fun pair => (pair.1, old)) ++ back)) =
      front ++ (pairs ++ back) := by
  induction pairs generalizing front with
  | nil => rfl
  | cons pair rest ih =>
      obtain ⟨name, value⟩ := pair
      have before : name ∉ names front := by
        intro taken
        rw [names, List.map_append] at distinct
        exact (List.nodup_append.mp distinct).2.2 name taken name List.mem_cons_self rfl
      have step : storeAll ((name, value) :: rest)
            (front ++ (name, old) :: (rest.map (fun pair => (pair.1, old)) ++ back)) =
          storeAll rest
            (insert name value
              (front ++ (name, old) :: (rest.map (fun pair => (pair.1, old)) ++ back))) := rfl
      have split (later : Entries α) : front ++ (name, value) :: later =
          (front ++ [(name, value)]) ++ later := by
        rw [List.append_assoc, List.singleton_append]
      rw [List.map_cons, List.cons_append, step, insert_append_cons before, split, ih,
        List.append_assoc, List.singleton_append, List.cons_append]
      rwa [← split]

/-- The entries that pairs leave: every name once, in the order in which the names first came in,
with the value that came in last. -/
structure IsLatest (pairs : List (String × α)) (entries : Entries α) : Prop where
  nodup : (names entries).Nodup
  names_eq : names entries = (pairs.map Prod.fst).eraseDups
  find?_eq : ∀ name, find? name entries = last? name pairs

/-- An entry is one of the pairs that came in. -/
theorem IsLatest.mem {pairs : List (String × α)} {entries : Entries α}
    (latest : IsLatest pairs entries) {entry : String × α} (member : entry ∈ entries) :
    entry ∈ pairs := by
  have found := find?_of_mem latest.nodup member
  rw [latest.find?_eq] at found
  exact mem_of_last? found

theorem nodup_names_insert {name : String} {value : α} {entries : Entries α}
    (distinct : (names entries).Nodup) : (names (insert name value entries)).Nodup := by
  rw [names_insert]
  exact nodup_withName name distinct

theorem nodup_names_storeAll (pairs : List (String × α)) {entries : Entries α}
    (distinct : (names entries).Nodup) : (names (storeAll pairs entries)).Nodup := by
  induction pairs generalizing entries with
  | nil => exact distinct
  | cons pair rest ih => exact ih (nodup_names_insert distinct)

theorem eraseDups_concat (front : List String) (last : String) :
    (front ++ [last]).eraseDups =
      if last ∈ front.eraseDups then front.eraseDups else front.eraseDups ++ [last] := by
  rw [List.eraseDups_append, List.cons_removeAll]
  simp only [List.mem_eraseDups]
  by_cases old : last ∈ front <;> simp [old, List.eraseDups_cons]

/-- The names of stored pairs, each at the place where it came in first. -/
theorem names_ofList (pairs : List (String × α)) :
    names (ofList pairs) = (pairs.map Prod.fst).eraseDups := by
  induction pairs using List.reverseRecOn with
  | nil => rfl
  | append_singleton front pair ih =>
      have step : ofList (front ++ [pair]) = insert pair.1 pair.2 (ofList front) :=
        List.foldl_concat ..
      rw [step, names_insert, ih, List.map_append, List.map_singleton, eraseDups_concat]

/-- **Stored pairs leave the last value of every name at the place of the first.** -/
theorem isLatest_ofList (pairs : List (String × α)) : IsLatest pairs (ofList pairs) where
  nodup := nodup_names_storeAll pairs List.nodup_nil
  names_eq := names_ofList pairs
  find?_eq name := find?_ofList name pairs

theorem erase_cons_self (name : String) (value : α) (entries : Entries α) :
    erase name ((name, value) :: entries) = erase name entries := by
  simp [erase]

theorem erase_cons_of_ne {name other : String} (differ : other ≠ name) (value : α)
    (entries : Entries α) :
    erase name ((other, value) :: entries) = (other, value) :: erase name entries := by
  simp [erase, differ]

theorem erase_of_notMem {name : String} {entries : Entries α} (absent : name ∉ names entries) :
    erase name entries = entries := by
  refine List.filter_eq_self.mpr fun entry member => decide_eq_true ?_
  rintro rfl
  exact absent (List.mem_map_of_mem member)

theorem erase_erase (name : String) (entries : Entries α) :
    erase name (erase name entries) = erase name entries := by
  simp only [erase, List.filter_filter, Bool.and_self]

theorem find?_erase_of_ne {name other : String} (differ : other ≠ name) (entries : Entries α) :
    find? other (erase name entries) = find? other entries := by
  induction entries with
  | nil => rfl
  | cons entry rest ih =>
      obtain ⟨key, value⟩ := entry
      by_cases same : key = name
      · subst same
        rw [erase_cons_self, ih, find?, if_neg differ.symm]
      · rw [erase_cons_of_ne same, find?, find?, ih]

theorem erase_insert_self (name : String) (value : α) (entries : Entries α) :
    erase name (insert name value entries) = erase name entries := by
  induction entries with
  | nil => simp [insert, erase]
  | cons entry rest ih =>
      obtain ⟨key, old⟩ := entry
      by_cases same : key = name
      · subst same
        rw [insert, if_pos rfl, erase_cons_self, erase_cons_self]
      · rw [insert, if_neg same, erase_cons_of_ne same, erase_cons_of_ne same, ih]

theorem erase_insert_of_ne {name other : String} (differ : other ≠ name) (value : α)
    (entries : Entries α) :
    erase name (insert other value entries) = insert other value (erase name entries) := by
  induction entries with
  | nil => exact erase_cons_of_ne differ value []
  | cons entry rest ih =>
      obtain ⟨key, old⟩ := entry
      by_cases here : key = other
      · subst here
        rw [insert, if_pos rfl, erase_cons_of_ne differ, erase_cons_of_ne differ, insert,
          if_pos rfl]
      · by_cases erased : key = name
        · subst erased
          rw [insert, if_neg here, erase_cons_self, erase_cons_self, ih]
        · rw [insert, if_neg here, erase_cons_of_ne erased, erase_cons_of_ne erased, insert,
            if_neg here, ih]

/-- A name can be erased from what is stored and from what was there, or from the result. -/
theorem erase_storeAll (name : String) (pairs : List (String × α)) (entries : Entries α) :
    erase name (storeAll pairs entries) = storeAll (erase name pairs) (erase name entries) := by
  induction pairs generalizing entries with
  | nil => rfl
  | cons pair rest ih =>
      obtain ⟨key, value⟩ := pair
      have step : storeAll ((key, value) :: rest) entries =
          storeAll rest (insert key value entries) := rfl
      rw [step, ih]
      by_cases same : key = name
      · subst same
        rw [erase_insert_self, erase_cons_self]
      · rw [erase_insert_of_ne same, erase_cons_of_ne same]
        rfl

end DataAccess.Entries
