import DataAccess.Proofs.Members.Hydration
import DataAccess.Proofs.Members.ParameterNames
import DataAccess.Proofs.Naming.LegalIdentifiers

/-!
# Legal names in generated code

The names that a class takes from the catalog are legal in code exactly where the names of the
catalog become legal identifiers (`Deployment.isLegal_names`). Moving a name aside changes nothing
in this. The names of key accessors are legal always, for they start with a letter.
-/

namespace DataAccess.Members

open Naming Schema

/-- A name is as legal moved aside as where it was. -/
theorem isLegal_moved_iff {taken : String → Bool} (words : AreWords taken) (name : String) :
    IsLegal (moved taken name).toList ↔ IsLegal name.toList := by
  cases isTaken : taken name with
  | false => rw [moved_of_free isTaken]
  | true =>
      obtain ⟨last, -, ends⟩ := words name isTaken
      obtain ⟨c, rest, chars⟩ : ∃ c rest, name.toList = c :: rest :=
        List.exists_cons_of_ne_nil fun none => by simp [none] at ends
      rw [moved_of_taken isTaken, String.toList_append, chars]
      constructor
      · exact fun legal => ⟨List.cons_ne_nil _ _,
          fun d member => legal.chars d (List.mem_append_left _ member), legal.start⟩
      · exact fun legal => ⟨List.cons_ne_nil _ _,
          isIdentifier_append legal.chars
            (isIdentifier_cons isIdentifierChar_underscore nofun), legal.start⟩

namespace Plan

variable (plan : Plan)

theorem isLegal_propertyName_iff (column : Column) :
    IsLegal (plan.propertyName column).toList ↔
      BecomesLegal plan.naming.properties column.name :=
  (isLegal_moved_iff plan.areWords_isTaken _).trans (isLegal_identifier_iff _ _)

theorem isLegal_keyParamName_iff (column : Column) :
    IsLegal (plan.keyParamName column).toList ↔
      BecomesLegal plan.naming.properties column.name :=
  (isLegal_moved_iff areWords_fetcherNames _).trans (plan.isLegal_propertyName_iff column)

theorem isLegal_keyFetcherName (columns : List Column) :
    IsLegal (plan.keyFetcherName columns).toList := by
  obtain ⟨rest, start⟩ := keyMethodName_startsWithG plan.naming (columns.map plan.propertyName)
  have chars : IsIdentifier (plan.keyFetcherName columns).toList := isIdentifier_identifier _ _
  rw [keyFetcherName] at chars ⊢
  rcases start with start | start <;>
  · rw [start] at chars ⊢
    exact ⟨List.cons_ne_nil _ _, chars, by rintro _ ⟨⟩; decide⟩

end Plan

namespace Deployment

/-- **The names of a class are legal exactly where the names of the catalog become legal.** -/
theorem isLegal_names (site : Deployment) :
    (∀ style name,
      (name ≠ "" → identifier style name ≠ "") ∧ IsIdentifier (identifier style name).toList ∧
        (IsLegal (identifier style name).toList ↔ BecomesLegal style name)) ∧
    (site.target.namespaceName = none →
      (IsLegal (site.assembler.namespaceName site.table site.target).toList ↔
        BecomesLegal site.assembler.naming.namespaces site.table.schema)) ∧
    (site.target.className = none →
      (IsLegal site.recordClass.name.toList ↔
        BecomesLegal site.assembler.naming.classes site.table.name)) ∧
    (∀ column ∈ site.table.columns,
      (IsLegal (site.plan.propertyName column).toList ↔
        BecomesLegal site.assembler.naming.properties column.name) ∧
      (IsLegal (site.plan.keyParamName column).toList ↔
        BecomesLegal site.assembler.naming.properties column.name)) ∧
    ∀ columns ∈ site.table.keyGroups, IsLegal (site.plan.keyFetcherName columns).toList := by
  refine ⟨fun style name => ?_, fun derived => ?_, fun derived => ?_, fun column _ => ?_,
    fun columns _ => site.plan.isLegal_keyFetcherName columns⟩
  · exact ⟨identifier_ne_empty style, isIdentifier_identifier style name,
      isLegal_identifier_iff style name⟩
  · rw [Assembler.namespaceName, derived]
    exact isLegal_identifier_iff _ _
  · have name : site.plan.className = site.assembler.naming.className site.table.name := by
      rw [plan, Assembler.plan, Assembler.className, derived]
      rfl
    rw [name_recordClass, name]
    exact isLegal_identifier_iff _ _
  · exact ⟨site.plan.isLegal_propertyName_iff column, site.plan.isLegal_keyParamName_iff column⟩

theorem isLegal_names_visits :
    let naming : Convention := { classes := some .upperCamel, properties := some .lowerCamel }
    let site : Deployment := { visits with assembler := { naming } }
    site.target.className = none ∧ IsLegal site.recordClass.name.toList ∧
      ∀ column ∈ site.table.columns, IsLegal (site.plan.propertyName column).toList := by
  intro naming site
  obtain ⟨-, -, className, columns, -⟩ := isLegal_names site
  refine ⟨rfl, (className rfl).mpr (by decide), fun column member => ?_⟩
  have becomes : ∀ column ∈ site.table.columns, BecomesLegal naming.properties column.name := by
    decide
  exact (columns column member).1.mpr (becomes column member)

end Deployment

end DataAccess.Members
