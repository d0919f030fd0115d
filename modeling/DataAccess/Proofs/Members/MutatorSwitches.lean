import DataAccess.Proofs.Members.Lifecycle

/-!
# Switches of mutators

A member whose name is taken is left out of a class, so leaving one member out could let another
one in. The switches of a class never do that: the parts that they leave out are the only ones that
offer a member under the names of these parts (`Switch.part_eq_iff`). Leaving out parts by a switch
therefore is the same as leaving out members of the whole class by their names
(`Deployment.filter_members`), and what a class is without the mutators does not depend on its
switches (`Deployment.members_switched`).
-/

namespace DataAccess.Members

open Code Schema

/-- A switch of a class, for one of the methods that change the table. -/
inductive Switch where
  | add
  | update
  | delete
  deriving DecidableEq

namespace Switch

def all : List Switch :=
  [add, update, delete]

def name : Switch → String
  | add => "add"
  | update => "update"
  | delete => "delete"

/-- The part that a switch leaves out. -/
def part : Switch → Part
  | add => .add
  | update => .update
  | delete => .delete

def isOn (mutators : Mutators) : Switch → Bool
  | add => mutators.add
  | update => mutators.update
  | delete => mutators.delete

/-- The switches with one of them off. -/
def off (mutators : Mutators) : Switch → Mutators
  | add => { mutators with add := false }
  | update => { mutators with update := false }
  | delete => { mutators with delete := false }

/-- Whether a member is the method of objects that has the name of a switch. -/
def names (switch : Switch) : Member → Bool
  | .property _ => false
  | .method method => decide (method.kind = .ofObject) && method.name == switch.name

/-- The method that a switch is for. -/
def method (plan : Plan) : Switch → Method
  | add => plan.addMutator
  | update => plan.updateMutator
  | delete => plan.deleteMutator

/-- Whether a table has the method of a switch: a row is found again by its primary key only. -/
def isFor (table : Table) : Switch → Bool
  | add => true
  | update | delete => !table.primaryColumns.isEmpty

variable {plan : Plan} {switch : Switch} {part : Part} {member : Member}

theorem fixedName?_part (switch : Switch) : switch.part.fixedName? = some switch.name := by
  cases switch <;> rfl

theorem key_method (plan : Plan) (switch : Switch) :
    (Member.method (switch.method plan)).key = (.ofObject, switch.name) := by
  cases switch <;> rfl

theorem names_method (plan : Plan) (switch : Switch) :
    switch.names (.method (switch.method plan)) = true := by
  cases switch <;> rfl

theorem members_part (plan : Plan) (switch : Switch) :
    switch.part.members plan =
      if switch.isFor plan.table then [.method (switch.method plan)] else [] := by
  cases switch with
  | add => rfl
  | update =>
      by_cases keyless : plan.table.primaryColumns.isEmpty = true
      · simp [part, Part.members, Plan.updateMutators, isFor, keyless]
      · simp [part, Part.members, Plan.updateMutators, isFor, keyless, method]
  | delete =>
      by_cases keyless : plan.table.primaryColumns.isEmpty = true
      · simp [part, Part.members, Plan.deleteMutators, isFor, keyless]
      · simp [part, Part.members, Plan.deleteMutators, isFor, keyless, method]

/-- The part of a switch makes nothing but the method of the switch. -/
theorem eq_method (found : member ∈ switch.part.members plan) :
    member = .method (switch.method plan) := by
  rw [members_part] at found
  split at found
  · exact List.mem_singleton.mp found
  · cases found

/-- **No other part competes for the name of a switch**, whatever the columns and keys of the table
are called. -/
theorem part_eq_iff (switch : Switch) (found : member ∈ part.members plan) :
    part = switch.part ↔ member.key = (.ofObject, switch.name) := by
  constructor
  · rintro rfl
    rw [eq_method found]
    exact key_method plan switch
  · intro same
    obtain ⟨-, named⟩ := Prod.mk.inj same
    rcases Plan.property_or_generates found with ⟨item, rfl, free⟩ | ⟨method, rfl, -⟩
    · have taken : switch.name ∈ objectMethodNames := by cases switch <;> decide
      have same : item.name = switch.name := named
      exact absurd (same ▸ taken) free
    · have same : method.name = switch.name := named
      exact Plan.part_of_name found (same ▸ fixedName?_part switch)

theorem names_eq (switch : Switch) (found : member ∈ part.members plan) :
    switch.names member = decide (part = switch.part) := by
  rw [Bool.eq_iff_iff, decide_eq_true_eq]
  constructor
  · intro named
    cases member with
    | property item => cases named
    | method method =>
        have same : method.name = switch.name := beq_iff_eq.mp (Bool.and_eq_true_iff.mp named).2
        exact Plan.part_of_name found (same ▸ fixedName?_part switch)
  · rintro rfl
    rw [eq_method found]
    exact names_method plan switch

end Switch

/-- A choice among members that takes all members of a part or none of them, and that their keys
decide. -/
structure Plan.Sorts (plan : Plan) (chosen : Member → Bool) (keep : Scope × String → Bool)
    (kept : Part → Bool) : Prop where
  chosen_eq {part : Part} {member : Member} :
    member ∈ part.members plan → chosen member = kept part
  keep_eq {part : Part} {member : Member} :
    member ∈ part.members plan → keep member.key = kept part

namespace Plan.Sorts

variable {plan : Plan} {chosen : Member → Bool} {keep : Scope × String → Bool} {kept : Part → Bool}

theorem filter_flatMap (sorts : plan.Sorts chosen keep kept) (parts : List Part) :
    (parts.flatMap (Part.members plan)).filter (fun member => keep member.key) =
      (parts.filter kept).flatMap (Part.members plan) := by
  induction parts with
  | nil => rfl
  | cons part rest ih =>
      rw [List.flatMap_cons, List.filter_append, ih, List.filter_cons]
      cases stays : kept part with
      | false =>
          have none : (part.members plan).filter (fun member => keep member.key) = [] := by
            refine List.filter_eq_nil_iff.mpr fun member found => ?_
            rw [sorts.keep_eq found, stays]
            exact Bool.false_ne_true
          rw [none, List.nil_append, if_neg Bool.false_ne_true]
      | true =>
          have whole : (part.members plan).filter (fun member => keep member.key) =
              part.members plan := by
            refine List.filter_eq_self.mpr fun member found => ?_
            rw [sorts.keep_eq found, stays]
          rw [whole, if_pos rfl, List.flatMap_cons]

/-- The members that a switch names, and the ones that it does not name. -/
theorem named (plan : Plan) (switch : Switch) :
    plan.Sorts switch.names (fun key => decide (key = (.ofObject, switch.name)))
      (fun part => decide (part = switch.part)) where
  chosen_eq found := switch.names_eq found
  keep_eq found := decide_eq_decide.mpr (switch.part_eq_iff found).symm

theorem not (sorts : plan.Sorts chosen keep kept) :
    plan.Sorts (fun member => !chosen member) (fun key => !keep key) (fun part => !kept part) where
  chosen_eq found := congrArg Bool.not (sorts.chosen_eq found)
  keep_eq found := congrArg Bool.not (sorts.keep_eq found)

theorem all {ι : Type} {chosen : ι → Member → Bool} {keep : ι → Scope × String → Bool}
    {kept : ι → Part → Bool} (items : List ι)
    (sorts : ∀ item, plan.Sorts (chosen item) (keep item) (kept item)) :
    plan.Sorts (fun member => items.all (chosen · member)) (fun key => items.all (keep · key))
      (fun part => items.all (kept · part)) where
  chosen_eq found := congrArg items.all (funext fun item => (sorts item).chosen_eq found)
  keep_eq found := congrArg items.all (funext fun item => (sorts item).keep_eq found)

end Plan.Sorts

namespace Deployment

/-- The same class with other switches. -/
def withMutators (site : Deployment) (mutators : Mutators) : Deployment :=
  { site with target := { site.target with mutators } }

/-- The members of a class that is put together from the parts. -/
def assembledFrom (site : Deployment) (parts : List Part) : List Member :=
  (site.bare.pushAll (parts.flatMap (Part.members site.plan))).members

variable {site : Deployment}

theorem members_withMutators (site : Deployment) (mutators : Mutators) :
    (site.withMutators mutators).recordClass.members =
      site.assembledFrom (Part.order.filter (Part.enabled mutators)) :=
  members_recordClass

/-- Leaving out members of the class is leaving out parts before it is put together. -/
theorem filter_members {chosen : Member → Bool} {keep : Scope × String → Bool} {kept : Part → Bool}
    (sorts : site.plan.Sorts chosen keep kept) (mutators : Mutators) :
    (site.withMutators mutators).recordClass.members.filter chosen =
      site.assembledFrom (Part.order.filter fun part => kept part && part.enabled mutators) := by
  have byKey : (site.withMutators mutators).recordClass.members.filter chosen =
      (site.withMutators mutators).recordClass.members.filter fun member => keep member.key := by
    refine List.filter_congr fun member found => ?_
    obtain ⟨part, offered⟩ := mem_part_of_mem found
    exact (sorts.chosen_eq offered).trans (sorts.keep_eq offered).symm
  have start : site.bare.members = site.bare.members.filter fun member => keep member.key := rfl
  rw [byKey, members_withMutators, assembledFrom, ← RecordClass.filter_pushAll start,
    sorts.filter_flatMap, List.filter_filter, assembledFrom]

/-- **The switches of mutators are independent.** What a class is without the methods that the
switches name does not depend on the switches. Turning one of them off takes its method out of the
class and nothing else, and the method is there if the switch is on and the table has it. -/
theorem members_switched (site : Deployment) :
    (∀ first second : Mutators,
      (site.withMutators first).recordClass.members.filter
          (fun member => Switch.all.all fun switch => !switch.names member) =
        (site.withMutators second).recordClass.members.filter
          (fun member => Switch.all.all fun switch => !switch.names member)) ∧
      ∀ (mutators : Mutators) (switch : Switch),
        (site.withMutators (switch.off mutators)).recordClass.members =
            (site.withMutators mutators).recordClass.members.filter
              (fun member => !switch.names member) ∧
          (site.withMutators mutators).recordClass.members.filter switch.names =
            if switch.isOn mutators && switch.isFor site.table then
              [.method (switch.method site.plan)]
            else [] := by
  have unnamed := Plan.Sorts.all Switch.all fun switch => (Plan.Sorts.named site.plan switch).not
  refine ⟨fun first second => ?_, fun mutators switch => ⟨?_, ?_⟩⟩
  · -- The parts that stay are left in by all switches.
    have always (mutators : Mutators) (part : Part) :
        ((Switch.all.all fun switch => !decide (part = switch.part)) && part.enabled mutators) =
          Switch.all.all fun switch => !decide (part = switch.part) := by
      cases part <;> rfl
    rw [filter_members unnamed, filter_members unnamed]
    simp only [always]
  · have turnedOff (part : Part) :
        (!decide (part = switch.part) && part.enabled mutators) =
          part.enabled (switch.off mutators) := by
      cases switch <;> cases part <;> rfl
    rw [filter_members (Plan.Sorts.named site.plan switch).not, members_withMutators]
    simp only [turnedOff]
  · have onlyPart : (Part.order.filter fun part =>
        decide (part = switch.part) && part.enabled mutators) =
          if switch.isOn mutators then [switch.part] else [] := by
      obtain ⟨add, update, delete⟩ := mutators
      cases switch with
      | add => cases add <;> rfl
      | update => cases update <;> rfl
      | delete => cases delete <;> rfl
    rw [filter_members (Plan.Sorts.named site.plan switch), onlyPart, assembledFrom]
    cases switch.isOn mutators with
    | false => rfl
    | true =>
        rw [if_pos rfl, List.flatMap_singleton, Switch.members_part, Bool.true_and]
        change (site.bare.pushAll (if switch.isFor site.table then _ else [])).members = _
        cases switch.isFor site.table <;> rfl

end Deployment

end DataAccess.Members
