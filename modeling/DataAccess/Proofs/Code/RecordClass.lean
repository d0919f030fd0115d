import DataAccess.Code.RecordClass
import Mathlib.Data.List.Forall2
import Mathlib.Data.List.Nodup

/-!
# Members that were pushed

A class is put together by pushing members one after another. What stays are the members whose
names are new in their scopes (`members_pushAll`). No name is ever taken twice in one scope
(`nodup_keys_pushAll`), every pushed member is there or lost its name to another one
(`key_mem_pushAll`), and nothing else is there (`mem_pushAll`).
-/

namespace DataAccess.Code

section Related

variable {α β γ : Type _} {related : α → β → Prop} {items : List α} {others : List β}

/-- Related lists have the same views where related items have. -/
theorem map_eq_of_forall₂ (each : List.Forall₂ related items others) {view : α → γ}
    {otherView : β → γ} (same : ∀ {left right}, related left right → view left = otherView right) :
    items.map view = others.map otherView := by
  induction each with
  | nil => rfl
  | cons alike _ ih => rw [List.map_cons, List.map_cons, same alike, ih]

/-- Each item has its partner. -/
theorem exists_of_mem_left (each : List.Forall₂ related items others) {left : α}
    (member : left ∈ items) : ∃ right ∈ others, related left right := by
  induction each with
  | nil => cases member
  | @cons first second _ _ alike _ ih =>
      rcases List.mem_cons.mp member with rfl | later
      · exact ⟨second, List.mem_cons_self, alike⟩
      · obtain ⟨right, found, related⟩ := ih later
        exact ⟨right, List.mem_cons_of_mem _ found, related⟩

/-- A list is split where its partner is. -/
theorem exists_append_of_forall₂ {front back : List α} {left : α}
    (each : List.Forall₂ related (front ++ left :: back) others) :
    ∃ first right rest, others = first ++ right :: rest ∧
      List.Forall₂ related front first ∧ related left right := by
  induction front generalizing others with
  | nil =>
      obtain ⟨right, rest, alike, -, rfl⟩ := List.forall₂_cons_left_iff.mp each
      exact ⟨[], right, rest, rfl, .nil, alike⟩
  | cons item front ih =>
      obtain ⟨other, later, alike, behind, rfl⟩ := List.forall₂_cons_left_iff.mp each
      obtain ⟨first, right, rest, rfl, before, here⟩ := ih behind
      exact ⟨other :: first, right, rest, rfl, .cons alike before, here⟩

end Related

/-- Where a member is found, and under which name. -/
def Member.key (member : Member) : Scope × String :=
  (member.scope, member.name)

namespace RecordClass

/-- The places and names that are taken, in order. -/
def keys (recordClass : RecordClass) : List (Scope × String) :=
  recordClass.members.map Member.key

/-- A member is accepted unless its name is taken in its scope. -/
theorem accepts_iff {recordClass : RecordClass} {member : Member} :
    recordClass.accepts member = true ↔ member.key ∉ recordClass.keys := by
  simp only [accepts, hasMember, keys, Member.key, Bool.not_eq_true', List.any_eq_false,
    Bool.and_eq_true, decide_eq_true_eq, beq_iff_eq, List.mem_map, Prod.mk.injEq, not_exists]
  exact forall_congr' fun other => not_and.symm

/-- A member whose name is taken changes nothing. -/
theorem push_of_taken {recordClass : RecordClass} {member : Member}
    (taken : member.key ∈ recordClass.keys) : recordClass.push member = recordClass := by
  refine push_of_not_accepts ?_
  rw [← Bool.not_eq_true, accepts_iff]
  exact not_not_intro taken

/-- Members do not change the name of the class. -/
theorem name_push (recordClass : RecordClass) (member : Member) :
    (recordClass.push member).name = recordClass.name := by
  rw [push]
  split <;> rfl

/-- Pushing keeps what is there and adds at most the pushed member. -/
theorem members_push (recordClass : RecordClass) (member : Member) :
    (recordClass.push member).members = recordClass.members ∨
      (recordClass.push member).members = recordClass.members ++ [member] ∧
        member.key ∉ recordClass.keys := by
  cases free : recordClass.accepts member with
  | false => exact Or.inl (by rw [push_of_not_accepts free])
  | true => exact Or.inr ⟨push_of_accepts free, accepts_iff.mp free⟩

/-- What a class has behind a push, it had before, or it was pushed. -/
theorem mem_push {recordClass : RecordClass} {member other : Member}
    (found : other ∈ (recordClass.push member).members) :
    other ∈ recordClass.members ∨ other = member := by
  rcases members_push recordClass member with same | ⟨grown, -⟩
  · exact Or.inl (same ▸ found)
  · rw [grown] at found
    rcases List.mem_append.mp found with old | new
    · exact Or.inl old
    · exact Or.inr (List.mem_singleton.mp new)

/-- Names stay distinct. -/
theorem nodup_keys_push {recordClass : RecordClass} (distinct : recordClass.keys.Nodup)
    (member : Member) : (recordClass.push member).keys.Nodup := by
  rcases members_push recordClass member with same | ⟨grown, free⟩
  · rw [keys, same]
    exact distinct
  · rw [keys, grown, List.map_append, List.map_singleton]
    exact List.nodup_append.mpr ⟨distinct, List.nodup_singleton _, by
      rintro taken old pushed new rfl
      exact free (List.mem_singleton.mp new ▸ old)⟩

/-- No name is given up. -/
theorem keys_subset_push (recordClass : RecordClass) (member : Member) :
    recordClass.keys ⊆ (recordClass.push member).keys := by
  rcases members_push recordClass member with same | ⟨grown, -⟩
  · rw [keys, keys, same]
    exact List.Subset.refl _
  · rw [keys, keys, grown, List.map_append]
    exact List.subset_append_left _ _

/-- The name of a pushed member is taken afterwards, by it or by an earlier one. -/
theorem key_mem_push (recordClass : RecordClass) (member : Member) :
    member.key ∈ (recordClass.push member).keys := by
  by_cases taken : member.key ∈ recordClass.keys
  · exact keys_subset_push recordClass member taken
  · rw [keys, push_of_accepts (accepts_iff.mpr taken), List.map_append]
    exact List.mem_append_right _ (List.mem_singleton_self _)

/-- Pushing members does not change the name of the class. -/
theorem name_pushAll (recordClass : RecordClass) (members : List Member) :
    (recordClass.pushAll members).name = recordClass.name := by
  induction members generalizing recordClass with
  | nil => rfl
  | cons member rest ih => exact (ih (recordClass.push member)).trans (name_push _ _)

/-- What a class has behind pushes, it had before, or it was pushed. -/
theorem mem_pushAll {recordClass : RecordClass} {members : List Member} {other : Member}
    (found : other ∈ (recordClass.pushAll members).members) :
    other ∈ recordClass.members ∨ other ∈ members := by
  induction members generalizing recordClass with
  | nil => exact Or.inl found
  | cons member rest ih =>
      rcases ih found with old | pushed
      · rcases mem_push old with older | rfl
        · exact Or.inl older
        · exact Or.inr List.mem_cons_self
      · exact Or.inr (List.mem_cons_of_mem _ pushed)

/-- **No name is taken twice in one scope.** -/
theorem nodup_keys_pushAll {recordClass : RecordClass} (distinct : recordClass.keys.Nodup)
    (members : List Member) : (recordClass.pushAll members).keys.Nodup := by
  induction members generalizing recordClass with
  | nil => exact distinct
  | cons member rest ih => exact ih (nodup_keys_push distinct member)

/-- Pushing members gives up no name. -/
theorem keys_subset_pushAll (recordClass : RecordClass) (members : List Member) :
    recordClass.keys ⊆ (recordClass.pushAll members).keys := by
  induction members generalizing recordClass with
  | nil => exact List.Subset.refl _
  | cons member rest ih =>
      exact List.Subset.trans (keys_subset_push recordClass member) (ih (recordClass.push member))

/-- The name of a pushed member is taken in its scope, by itself or by another member. -/
theorem key_mem_pushAll (recordClass : RecordClass) {members : List Member} {member : Member}
    (pushed : member ∈ members) : member.key ∈ (recordClass.pushAll members).keys := by
  induction members generalizing recordClass with
  | nil => cases pushed
  | cons first rest ih =>
      rcases List.mem_cons.mp pushed with rfl | later
      · exact keys_subset_pushAll _ rest (key_mem_push recordClass member)
      · exact ih (recordClass.push first) later

/-- Pushing members removes none. -/
theorem members_subset_pushAll (recordClass : RecordClass) (members : List Member) :
    recordClass.members ⊆ (recordClass.pushAll members).members := by
  induction members generalizing recordClass with
  | nil => exact List.Subset.refl _
  | cons member rest ih =>
      have now : recordClass.members ⊆ (recordClass.push member).members := by
        rcases members_push recordClass member with same | ⟨grown, -⟩
        · rw [same]
          exact List.Subset.refl _
        · rw [grown]
          exact List.subset_append_left _ _
      exact List.Subset.trans now (ih (recordClass.push member))

/-- The first member with its place and name stays. -/
theorem mem_pushAll_of_first {recordClass : RecordClass} {front back : List Member}
    {member : Member} (bare : recordClass.members = [])
    (first : ∀ other ∈ front, other.key ≠ member.key) :
    member ∈ (recordClass.pushAll (front ++ member :: back)).members := by
  have split : recordClass.pushAll (front ++ member :: back) =
      ((recordClass.pushAll front).push member).pushAll back := by
    rw [pushAll, List.foldl_append, List.foldl_cons]
    rfl
  have free : member.key ∉ (recordClass.pushAll front).keys := by
    intro taken
    obtain ⟨other, found, same⟩ := List.mem_map.mp taken
    rcases mem_pushAll found with before | pushed
    · rw [bare] at before
      cases before
    · exact first other pushed same
  rw [split]
  refine members_subset_pushAll _ back ?_
  rw [push_of_accepts (accepts_iff.mpr free)]
  exact List.mem_append_right _ (List.mem_singleton_self member)

/-- Pushing goes through the members as the removal of duplicates does, with what is there as the
members that were kept so far. -/
theorem members_pushAll_of_kept {recordClass : RecordClass} {kept : List Member}
    (holds : recordClass.members = kept.reverse) (members : List Member) :
    (recordClass.pushAll members).members =
      List.eraseDupsBy.loop (fun member earlier => member.key = earlier.key) members kept := by
  induction members generalizing recordClass kept with
  | nil => exact holds
  | cons member rest ih =>
      have step : recordClass.pushAll (member :: rest) =
          (recordClass.push member).pushAll rest := rfl
      have taken : kept.any (fun earlier => decide (member.key = earlier.key)) = true ↔
          member.key ∈ recordClass.keys := by
        rw [keys, holds, List.any_eq_true]
        simp [eq_comm]
      rw [step, List.eraseDupsBy.loop]
      by_cases old : member.key ∈ recordClass.keys
      · rw [taken.mpr old, push_of_taken old]
        exact ih holds
      · rw [Bool.not_eq_true _ |>.mp (mt taken.mp old)]
        refine ih ?_
        rw [push_of_accepts (accepts_iff.mpr old), holds, List.reverse_cons]

/-- **Of the pushed members the ones stay whose place and name no earlier one has.** -/
theorem members_pushAll {recordClass : RecordClass} (bare : recordClass.members = [])
    (members : List Member) :
    (recordClass.pushAll members).members =
      members.eraseDupsBy fun member earlier => member.key = earlier.key :=
  members_pushAll_of_kept bare members

/-- Members whose places and names are all new stay in order. -/
theorem members_pushAll_of_nodup {recordClass : RecordClass} {members : List Member}
    (distinct : (recordClass.keys ++ members.map Member.key).Nodup) :
    (recordClass.pushAll members).members = recordClass.members ++ members := by
  induction members generalizing recordClass with
  | nil => exact (List.append_nil _).symm
  | cons member rest ih =>
      have step : recordClass.pushAll (member :: rest) =
          (recordClass.push member).pushAll rest := rfl
      have free : member.key ∉ recordClass.keys := fun taken =>
        (List.nodup_append.mp distinct).2.2 _ taken _ List.mem_cons_self rfl
      have grown := push_of_accepts (accepts_iff.mpr free)
      have keys : (recordClass.push member).keys = recordClass.keys ++ [member.key] := by
        rw [RecordClass.keys, grown, List.map_append]
        rfl
      rw [step, ih, grown, List.append_assoc, List.singleton_append]
      rwa [keys, List.append_assoc, List.singleton_append]

/-- Members can be left out by place and name before they are pushed or afterwards. -/
theorem filter_pushAll {keep : Scope × String → Bool} {recordClass kept : RecordClass}
    (start : kept.members = recordClass.members.filter fun member => keep member.key)
    (members : List Member) :
    (kept.pushAll (members.filter fun member => keep member.key)).members =
      (recordClass.pushAll members).members.filter fun member => keep member.key := by
  induction members generalizing recordClass kept with
  | nil => exact start
  | cons member rest ih =>
      have step : recordClass.pushAll (member :: rest) =
          (recordClass.push member).pushAll rest := rfl
      cases keeps : keep member.key with
      | false =>
          have same : kept.members =
              (recordClass.push member).members.filter fun member => keep member.key := by
            rcases members_push recordClass member with old | ⟨grown, -⟩
            · rw [old, start]
            · rw [grown, List.filter_append, ← start, List.filter_cons, keeps,
                if_neg Bool.false_ne_true, List.filter_nil, List.append_nil]
          rw [List.filter_cons, keeps, if_neg Bool.false_ne_true, step]
          exact ih same
      | true =>
          have taken : member.key ∈ kept.keys ↔ member.key ∈ recordClass.keys := by
            rw [keys, keys, start, List.mem_map, List.mem_map]
            refine exists_congr fun other => and_congr_left fun same => ?_
            rw [List.mem_filter, same, keeps, and_iff_left rfl]
          have same : (kept.push member).members =
              (recordClass.push member).members.filter fun member => keep member.key := by
            by_cases old : member.key ∈ recordClass.keys
            · rw [push_of_taken (taken.mpr old), push_of_taken old, start]
            · rw [push_of_accepts (accepts_iff.mpr (mt taken.mp old)),
                push_of_accepts (accepts_iff.mpr old), List.filter_append, ← start,
                List.filter_cons, keeps, if_pos rfl, List.filter_nil]
          rw [List.filter_cons, keeps, if_pos rfl, step]
          exact ih same

/-- Where pushed members are related one by one and have the same places and names, the ones that
stay are related one by one. -/
theorem forall₂_pushAll {related : Member → Member → Prop}
    (sameKey : ∀ {left right : Member}, related left right → left.key = right.key)
    {first second : RecordClass} (start : List.Forall₂ related first.members second.members)
    {members others : List Member} (each : List.Forall₂ related members others) :
    List.Forall₂ related (first.pushAll members).members (second.pushAll others).members := by
  induction each generalizing first second with
  | nil => exact start
  | @cons left right _ _ alike _ ih =>
      refine ih ?_
      have keys : first.keys = second.keys := map_eq_of_forall₂ start sameKey
      by_cases taken : left.key ∈ first.keys
      · have takenToo : right.key ∈ second.keys := sameKey alike ▸ keys ▸ taken
        rw [push_of_taken taken, push_of_taken takenToo]
        exact start
      · have freeToo : right.key ∉ second.keys := sameKey alike ▸ keys ▸ taken
        rw [push_of_accepts (accepts_iff.mpr taken), push_of_accepts (accepts_iff.mpr freeToo)]
        exact List.rel_append start (.cons alike .nil)

/-- The members at a place under a name. -/
def under (recordClass : RecordClass) (scope : Scope) (name : String) : List Member :=
  recordClass.members.filter fun member => member.key = (scope, name)

/-- Where no name is taken twice in one scope, a member is the only one under its name. -/
theorem under_of_mem {recordClass : RecordClass} (distinct : recordClass.keys.Nodup)
    {member : Member} (found : member ∈ recordClass.members) {scope : Scope} {name : String}
    (key : member.key = (scope, name)) : recordClass.under scope name = [member] := by
  obtain ⟨front, back, split⟩ := List.append_of_mem found
  rw [keys, split, List.map_append, List.map_cons, List.nodup_append] at distinct
  obtain ⟨-, behind, apart⟩ := distinct
  have notInFront : ∀ other ∈ front, ¬ decide (other.key = (scope, name)) = true := by
    intro other inFront same
    exact apart other.key (List.mem_map_of_mem inFront) member.key List.mem_cons_self
      ((of_decide_eq_true same).trans key.symm)
  have notBehind : ∀ other ∈ back, ¬ decide (other.key = (scope, name)) = true := by
    intro other inBack same
    refine (List.nodup_cons.mp behind).1 ?_
    rw [key, ← of_decide_eq_true same]
    exact List.mem_map_of_mem inBack
  rw [under, split, List.filter_append, List.filter_eq_nil_iff.mpr notInFront, List.nil_append,
    List.filter_cons, if_pos (decide_eq_true key), List.filter_eq_nil_iff.mpr notBehind]

/-- A name that no member has finds none. -/
theorem under_eq_nil {recordClass : RecordClass} {scope : Scope} {name : String}
    (absent : ∀ member ∈ recordClass.members, member.key ≠ (scope, name)) :
    recordClass.under scope name = [] := by
  refine List.filter_eq_nil_iff.mpr fun member inClass => ?_
  simpa using absent member inClass

/-- The methods of a class are those among its members. -/
theorem mem_methods {recordClass : RecordClass} {method : Method} :
    method ∈ recordClass.methods ↔ Member.method method ∈ recordClass.members := by
  rw [methods, List.mem_filterMap]
  constructor
  · rintro ⟨member, found, asMethod⟩
    cases member with
    | property item => cases asMethod
    | method item =>
        cases asMethod
        exact found
  · intro found
    exact ⟨.method method, found, rfl⟩

/-- A method that is found under a name is there and has the name. -/
theorem mem_of_method? {recordClass : RecordClass} {name : String} {method : Method}
    (found : recordClass.method? name = some method) :
    method ∈ recordClass.methods ∧ method.name = name :=
  ⟨List.mem_of_find?_eq_some found, by simpa using List.find?_some found⟩

/-- Where no other method has its name, a method is found under its name. -/
theorem method?_of_mem {recordClass : RecordClass} {method : Method}
    (member : method ∈ recordClass.methods)
    (sole : ∀ other ∈ recordClass.methods, other.name = method.name → other = method) :
    recordClass.method? method.name = some method := by
  cases found : recordClass.method? method.name with
  | none => exact absurd (beq_self_eq_true method.name) (List.find?_eq_none.mp found method member)
  | some other =>
      obtain ⟨there, same⟩ := mem_of_method? found
      rw [sole other there same]

/-- Imports change neither the members nor the name of a class. -/
theorem addImports_eq (recordClass : RecordClass) (symbols : List String) :
    (symbols.foldl addImport recordClass).members = recordClass.members ∧
      (symbols.foldl addImport recordClass).name = recordClass.name := by
  induction symbols generalizing recordClass with
  | nil => exact ⟨rfl, rfl⟩
  | cons symbol rest ih =>
      obtain ⟨members, name⟩ := ih (recordClass.addImport symbol)
      rw [List.foldl_cons, members, name, addImport]
      split <;> exact ⟨rfl, rfl⟩

/-- Pushing changes nothing but the members. -/
theorem pushAll_eq (recordClass : RecordClass) (members : List Member) :
    recordClass.pushAll members =
      { recordClass with members := (recordClass.pushAll members).members } := by
  induction members generalizing recordClass with
  | nil => rfl
  | cons member rest ih =>
      have step : recordClass.push member =
          { recordClass with members := (recordClass.push member).members } := by
        rw [push]
        split <;> rfl
      have whole := ih (recordClass.push member)
      rw [step] at whole
      have later : recordClass.pushAll (member :: rest) =
          (recordClass.push member).pushAll rest := rfl
      rw [later, step]
      exact whole

/-- Imports are added to what is there, and nothing else changes. -/
theorem addImports_subset (recordClass : RecordClass) (symbols : List String) :
    ∃ imports, symbols.foldl addImport recordClass = { recordClass with imports } ∧
      imports ⊆ recordClass.imports ++ symbols := by
  induction symbols generalizing recordClass with
  | nil => exact ⟨_, rfl, List.subset_append_left _ _⟩
  | cons symbol rest ih =>
      obtain ⟨imports, added, inside⟩ := ih (recordClass.addImport symbol)
      have one : ∃ imports, recordClass.addImport symbol = { recordClass with imports } ∧
          imports ⊆ recordClass.imports ++ [symbol] := by
        rw [addImport]
        split
        · exact ⟨_, rfl, List.subset_append_left _ _⟩
        · exact ⟨_, rfl, List.Subset.refl _⟩
      obtain ⟨first, same, firstInside⟩ := one
      rw [same] at added inside
      refine ⟨imports, by rw [List.foldl_cons, same]; exact added, fun other member => ?_⟩
      rcases List.mem_append.mp (inside member) with before | later
      · rcases List.mem_append.mp (firstInside before) with old | new
        · exact List.mem_append_left _ old
        · exact List.mem_append_right _ (List.mem_singleton.mp new ▸ List.mem_cons_self)
      · exact List.mem_append_right _ (List.mem_cons_of_mem _ later)

/-- Imports that are all new stay in order. -/
theorem addImports_of_nodup {recordClass : RecordClass} {symbols : List String}
    (distinct : (recordClass.imports ++ symbols).Nodup) :
    (symbols.foldl addImport recordClass).imports = recordClass.imports ++ symbols := by
  induction symbols generalizing recordClass with
  | nil => exact (List.append_nil _).symm
  | cons symbol rest ih =>
      have free : symbol ∉ recordClass.imports := fun taken =>
        (List.nodup_append.mp distinct).2.2 _ taken _ List.mem_cons_self rfl
      have grown : (recordClass.addImport symbol).imports = recordClass.imports ++ [symbol] := by
        rw [addImport, if_neg (mt List.contains_iff_mem.mp free)]
      rw [List.foldl_cons, ih, grown, List.append_assoc, List.singleton_append]
      rwa [grown, List.append_assoc, List.singleton_append]

end RecordClass

end DataAccess.Code
