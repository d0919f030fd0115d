import DataAccess.Proofs.Code.RecordClass

/-!
# Classes without comments

Comments play no part in how a class is put together: members can lose theirs before they are pushed
or afterwards (`RecordClass.undocumented_pushAll`).
-/

namespace DataAccess.Code

/-- The member without its comment. -/
def Member.undocumented : Member → Member
  | property item => property { item with doc := none }
  | method item => method { item with doc := none }

theorem Member.key_undocumented (member : Member) : member.undocumented.key = member.key := by
  cases member <;> rfl

namespace RecordClass

/-- The class without the comments of its members. -/
def undocumented (recordClass : RecordClass) : RecordClass :=
  { recordClass with members := recordClass.members.map Member.undocumented }

variable (recordClass : RecordClass)

theorem keys_undocumented : recordClass.undocumented.keys = recordClass.keys := by
  rw [keys, keys, undocumented, List.map_map]
  exact List.map_congr_left fun member _ => member.key_undocumented

theorem undocumented_push (member : Member) :
    (recordClass.push member).undocumented = recordClass.undocumented.push member.undocumented := by
  by_cases taken : member.key ∈ recordClass.keys
  · have takenToo : member.undocumented.key ∈ recordClass.undocumented.keys := by
      rwa [keys_undocumented, Member.key_undocumented]
    rw [push_of_taken taken, push_of_taken takenToo]
  · have freeToo : member.undocumented.key ∉ recordClass.undocumented.keys := by
      rwa [keys_undocumented, Member.key_undocumented]
    rw [push, push, if_pos (accepts_iff.mpr taken), if_pos (accepts_iff.mpr freeToo)]
    simp [undocumented]

theorem undocumented_pushAll (members : List Member) :
    (recordClass.pushAll members).undocumented =
      recordClass.undocumented.pushAll (members.map Member.undocumented) := by
  induction members generalizing recordClass with
  | nil => rfl
  | cons member rest ih =>
      have step := ih (recordClass.push member)
      rw [undocumented_push] at step
      exact step

theorem undocumented_addImport (symbol : String) :
    (recordClass.addImport symbol).undocumented = recordClass.undocumented.addImport symbol := by
  have same : recordClass.undocumented.imports = recordClass.imports := rfl
  rw [addImport, addImport, same]
  split <;> rfl

theorem undocumented_addImports (symbols : List String) :
    (symbols.foldl addImport recordClass).undocumented =
      symbols.foldl addImport recordClass.undocumented := by
  induction symbols generalizing recordClass with
  | nil => rfl
  | cons symbol rest ih =>
      rw [List.foldl_cons, List.foldl_cons, ih, undocumented_addImport]

end RecordClass

end DataAccess.Code
