import DataAccess.Entries
import Mathlib.Data.List.Nodup

/-!
# Groups of named members

Members that come in one after another, each with the name of its group. Gathering them gives one
group for every name that came in, with its members in order (`mem_gather_iff`), and the groups
stand in the order in which their names first came in (`names_gather`).
-/

namespace DataAccess.Entries

variable {α β : Type _}

theorem mem_of_find? {name : String} {value : α} {entries : Entries α}
    (found : find? name entries = some value) : (name, value) ∈ entries := by
  induction entries with
  | nil => cases found
  | cons entry rest ih =>
      obtain ⟨key, old⟩ := entry
      rw [find?] at found
      by_cases same : key = name
      · subst same
        rw [if_pos rfl] at found
        cases found
        exact List.mem_cons_self
      · rw [if_neg same] at found
        exact List.mem_cons_of_mem _ (ih found)

theorem mem_insert {name : String} {value : α} {entries : Entries α} {entry : String × α}
    (found : entry ∈ insert name value entries) : entry ∈ entries ∨ entry = (name, value) := by
  induction entries with
  | nil => exact Or.inr (List.mem_singleton.mp found)
  | cons first rest ih =>
      obtain ⟨key, old⟩ := first
      rw [insert] at found
      by_cases same : key = name
      · subst same
        rw [if_pos rfl] at found
        rcases List.mem_cons.mp found with new | later
        · exact Or.inr new
        · exact Or.inl (List.mem_cons_of_mem _ later)
      · rw [if_neg same] at found
        rcases List.mem_cons.mp found with old | later
        · exact Or.inl (old ▸ List.mem_cons_self)
        · exact (ih later).imp (List.mem_cons_of_mem _) id

/-- Distinct names stay distinct when a name that is new goes to the end. -/
theorem nodup_withName (name : String) {taken : List String} (distinct : taken.Nodup) :
    (if name ∈ taken then taken else taken ++ [name]).Nodup := by
  split
  · exact distinct
  · rename_i new
    exact List.nodup_append.mpr ⟨distinct, List.nodup_singleton name, by
      rintro old member other single rfl
      exact new (List.mem_singleton.mp single ▸ member)⟩

/-- Where items have distinct keys, at most one has a given key. -/
theorem filter_of_distinct {κ : Type _} {key : α → κ} {items : List α}
    (distinct : (items.map key).Nodup) {keeps : α → Bool} {value : κ}
    (only : ∀ item, keeps item = true → key item = value) :
    items.filter keeps = [] ∨ ∃ item ∈ items, items.filter keeps = [item] := by
  cases found : items.filter keeps with
  | nil => exact Or.inl rfl
  | cons first others =>
      have kept (item : α) (member : item ∈ first :: others) : item ∈ items ∧ key item = value := by
        obtain ⟨listed, keep⟩ := List.mem_filter.mp (found ▸ member)
        exact ⟨listed, only item keep⟩
      cases others with
      | nil => exact Or.inr ⟨first, (kept first List.mem_cons_self).1, rfl⟩
      | cons second others =>
          have firstKey := (kept first List.mem_cons_self).2
          have secondKey := (kept second (List.mem_cons_of_mem _ List.mem_cons_self)).2
          have within : ((items.filter keeps).map key).Nodup :=
            distinct.sublist (List.filter_sublist.map key)
          rw [found, List.map_cons, List.map_cons, firstKey, secondKey] at within
          exact absurd List.mem_cons_self (List.nodup_cons.mp within).1

section AddTo

variable {name : String} (member : β) (entries : Entries (List β))

theorem names_addTo :
    names (addTo name member entries) =
      if name ∈ names entries then names entries else names entries ++ [name] := by
  induction entries with
  | nil => simp [addTo, names]
  | cons entry rest ih =>
      obtain ⟨key, members⟩ := entry
      by_cases same : key = name
      · simp [addTo, names, same]
      · have differ : name ≠ key := Ne.symm same
        have step : names (addTo name member ((key, members) :: rest)) =
            key :: names (addTo name member rest) := by
          rw [addTo, if_neg same]
          rfl
        have held : name ∈ names ((key, members) :: rest) ↔ name ∈ names rest := by
          simp [names, differ]
        rw [step, ih]
        by_cases old : name ∈ names rest
        · rw [if_pos old, if_pos (held.mpr old)]
          rfl
        · rw [if_neg old, if_neg (mt held.mp old)]
          rfl

theorem find?_addTo_self :
    find? name (addTo name member entries) =
      some ((find? name entries).getD [] ++ [member]) := by
  induction entries with
  | nil => simp [addTo, find?]
  | cons entry rest ih =>
      obtain ⟨key, members⟩ := entry
      by_cases same : key = name <;> simp [addTo, find?, same, ih]

theorem find?_addTo_of_ne {other : String} (differ : other ≠ name) :
    find? other (addTo name member entries) = find? other entries := by
  induction entries with
  | nil => simp [addTo, find?, differ.symm]
  | cons entry rest ih =>
      obtain ⟨key, members⟩ := entry
      by_cases same : key = name
      · subst same
        simp [addTo, find?, differ.symm]
      · simp only [addTo, same, if_false, find?]
        split <;> simp [ih]

end AddTo

/-- Where it depends on the item whether its parts are kept, the parts of the kept items are
kept. -/
theorem filter_flatMap_parts {γ : Type _} {parts : α → List γ} {keeps : α → Bool}
    {fits : γ → Bool} (items : List α)
    (agree : ∀ item, ∀ part ∈ parts item, fits part = keeps item) :
    (items.flatMap parts).filter fits = (items.filter keeps).flatMap parts := by
  induction items with
  | nil => rfl
  | cons item items ih =>
      rw [List.flatMap_cons, List.filter_append, ih, List.filter_cons,
        List.filter_congr (agree item)]
      by_cases kept : keeps item = true
      · rw [if_pos kept, List.flatMap_cons, kept, List.filter_true]
      · rw [if_neg kept, (Bool.not_eq_true _).mp kept, List.filter_false, List.nil_append]

/-- The members that came in under a name, in order. -/
def membersOf (name : String) (pairs : List (String × β)) : List β :=
  (pairs.filter fun pair => pair.1 = name).map Prod.snd

/-- Adds members to the groups of their names, one after another. -/
def gather (pairs : List (String × β)) (entries : Entries (List β)) : Entries (List β) :=
  pairs.foldl (fun entries pair => addTo pair.1 pair.2 entries) entries

theorem mem_membersOf {name : String} {pairs : List (String × β)} {member : β} :
    member ∈ membersOf name pairs ↔ (name, member) ∈ pairs := by
  simp [membersOf]

theorem membersOf_cons (name : String) (pair : String × β) (pairs : List (String × β)) :
    membersOf name (pair :: pairs) =
      (if pair.1 = name then [pair.2] else []) ++ membersOf name pairs := by
  by_cases same : pair.1 = name <;> simp [membersOf, same]

section NamedParts

variable {γ : Type _} (name : α → String) (parts : α → List β) (items : List α)

/-- The parts of items, each under the name of its item. -/
def namedParts : List (String × β) :=
  items.flatMap fun item => (parts item).map fun part => (name item, part)

theorem map_namedParts (row : String × β → γ) :
    (namedParts name parts items).map row =
      items.flatMap fun item => (parts item).map fun part => row (name item, part) := by
  rw [namedParts, List.map_flatMap]
  refine List.flatMap_congr fun item _ => ?_
  rw [List.map_map]
  rfl

theorem map_snd_namedParts : (namedParts name parts items).map Prod.snd = items.flatMap parts := by
  rw [map_namedParts]
  exact List.flatMap_congr fun item _ => List.map_id (parts item)

/-- Parts that are read one by one stay under the names of their items. -/
theorem filterMap_namedParts (read : β → Option γ) :
    (namedParts name parts items).filterMap (fun entry =>
        (read entry.2).map fun value => (entry.1, value)) =
      namedParts name (fun item => (parts item).filterMap read) items := by
  rw [namedParts, namedParts, List.filterMap_flatMap]
  refine List.flatMap_congr fun item _ => ?_
  rw [List.filterMap_map, List.map_filterMap]
  rfl

/-- The members under a name are the parts of the items with that name. -/
theorem membersOf_namedParts (text : String) :
    membersOf text (namedParts name parts items) =
      (items.filter fun item => name item = text).flatMap parts := by
  have kept : (namedParts name parts items).filter (fun pair => pair.1 = text) =
      namedParts name parts (items.filter fun item => name item = text) := by
    refine filter_flatMap_parts items fun item pair member => ?_
    obtain ⟨part, -, rfl⟩ := List.mem_map.mp member
    rfl
  rw [membersOf, kept, map_snd_namedParts]

end NamedParts

/-- Gathering adds the members of a name to its group. -/
theorem getD_find?_gather (name : String) (pairs : List (String × β))
    (entries : Entries (List β)) :
    (find? name (gather pairs entries)).getD [] =
      (find? name entries).getD [] ++ membersOf name pairs := by
  induction pairs generalizing entries with
  | nil => simp [gather, membersOf]
  | cons pair rest ih =>
      have step : gather (pair :: rest) entries = gather rest (addTo pair.1 pair.2 entries) := rfl
      rw [step, ih, membersOf_cons]
      by_cases same : pair.1 = name
      · subst same
        rw [find?_addTo_self, Option.getD_some, if_pos rfl, List.append_assoc]
      · rw [find?_addTo_of_ne _ _ (Ne.symm same), if_neg same, List.nil_append]

theorem nodup_names_addTo {name : String} {member : β} {entries : Entries (List β)}
    (distinct : (names entries).Nodup) : (names (addTo name member entries)).Nodup := by
  rw [names_addTo]
  exact nodup_withName name distinct

theorem nodup_names_gather (pairs : List (String × β)) {entries : Entries (List β)}
    (distinct : (names entries).Nodup) : (names (gather pairs entries)).Nodup := by
  induction pairs generalizing entries with
  | nil => exact distinct
  | cons pair rest ih => exact ih (nodup_names_addTo distinct)

/-- New groups stand behind the old ones, in the order of the names that came in. -/
theorem names_gather (pairs : List (String × β)) (entries : Entries (List β)) :
    ∃ more, names (gather pairs entries) = names entries ++ more ∧
      more.Sublist (pairs.map Prod.fst) := by
  induction pairs generalizing entries with
  | nil => exact ⟨[], (List.append_nil _).symm, List.Sublist.refl _⟩
  | cons pair rest ih =>
      obtain ⟨more, grown, within⟩ := ih (addTo pair.1 pair.2 entries)
      rw [names_addTo] at grown
      by_cases old : pair.1 ∈ names entries
      · rw [if_pos old] at grown
        exact ⟨more, grown, within.cons _⟩
      · rw [if_neg old, List.append_assoc] at grown
        exact ⟨pair.1 :: more, grown, within.cons_cons _⟩

/-- No group that is gathered is empty. -/
theorem find?_gather_ne_nil (pairs : List (String × β)) {entries : Entries (List β)}
    (filled : ∀ name, find? name entries ≠ some []) (name : String) :
    find? name (gather pairs entries) ≠ some [] := by
  induction pairs generalizing entries with
  | nil => exact filled name
  | cons pair rest ih =>
      refine ih fun other => ?_
      by_cases same : other = pair.1
      · subst same
        simp [find?_addTo_self]
      · rw [find?_addTo_of_ne _ _ same]
        exact filled other

/-- **Groups are what came in under their names.** -/
theorem mem_gather_iff {name : String} {members : List β} {pairs : List (String × β)} :
    (name, members) ∈ gather pairs [] ↔ members ≠ [] ∧ members = membersOf name pairs := by
  have start : (names ([] : Entries (List β))).Nodup := List.nodup_nil
  have gathered := getD_find?_gather name pairs []
  rw [find?_nil, Option.getD_none, List.nil_append] at gathered
  constructor
  · intro group
    have found := find?_of_mem (nodup_names_gather pairs start) group
    have empty (other : String) : find? other ([] : Entries (List β)) ≠ some [] := nofun
    have filled := find?_gather_ne_nil pairs empty name
    rw [found, Option.getD_some] at gathered
    exact ⟨fun none => filled (none ▸ found), gathered⟩
  · rintro ⟨filled, rfl⟩
    refine mem_of_find? ?_
    cases found : find? name (gather pairs []) with
    | none =>
        rw [found, Option.getD_none] at gathered
        exact absurd gathered.symm filled
    | some members =>
        rw [found, Option.getD_some] at gathered
        rw [gathered]

end DataAccess.Entries
