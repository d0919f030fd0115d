import DataAccess.Proofs.TypeScript.PrintedNames
import Mathlib.Data.List.Infix

/-!
# Spelling of types

A type is told from its spelling, integers and floats aside, which share one (`typeName_eq_iff`).
The end of a spelling shows how the type is made: only types that can be null end in ` | null`, only
lists end in `[]`, and no type ends in `)`, so that a list with parentheses is a list of items that
can be null.
-/

namespace DataAccess.TypeScript

open Code

/-- The type with integers in place of floats. -/
def withoutFloats : Ty → Ty
  | .float => .int
  | .nullable inner => .nullable (withoutFloats inner)
  | .list item => .list (withoutFloats item)
  | other => other

theorem isNullable_withoutFloats (type : Ty) :
    (withoutFloats type).isNullable = type.isNullable := by
  cases type <;> rfl

/-- The words that types other than classes are spelled as. -/
def typeWords : List String :=
  ["number", "boolean", "Date", "string", "Row", "Connection", "unknown"]

/-- Whether a class name is a word of its own: written with the characters of identifiers, and none
of the words for other types. -/
def IsOwnWord (name : String) : Prop :=
  name.toList.all isIdentifierPart = true ∧ name ∉ typeWords

instance (name : String) : Decidable (IsOwnWord name) :=
  inferInstanceAs (Decidable (_ ∧ _))

/-- Whether every class that a type names has a word of its own. -/
def HasOwnWords (type : Ty) : Prop :=
  ∀ name ∈ typeNames type, IsOwnWord name

instance (type : Ty) : Decidable (HasOwnWords type) :=
  inferInstanceAs (Decidable (∀ name ∈ typeNames type, IsOwnWord name))

def nullEnding : List Char := " | null".toList

def listEnding : List Char := "[]".toList

/-- The spelling of the items of a list. -/
def itemName (item : Ty) : String :=
  if item.isNullable then "(" ++ typeName item ++ ")" else typeName item

theorem typeName_nullable (inner : Ty) :
    typeName (.nullable inner) = typeName inner ++ " | null" := by
  rw [typeName, typeLexemes, textOf_append]
  rfl

theorem typeName_list (item : Ty) : typeName (.list item) = itemName item ++ "[]" := by
  rw [typeName, typeLexemes, textOf_append, itemName]
  congr 1
  split
  · simp [parenthesized, textOf, textOf_append, Lexeme.text, Symbol.text, typeName,
      String.append_assoc]
  · rfl

theorem typeName_object (className : String) : typeName (.object className) = className :=
  String.append_empty

/-- Integers and floats are spelled alike wherever they stand. -/
theorem typeName_withoutFloats (type : Ty) : typeName (withoutFloats type) = typeName type := by
  induction type with
  | nullable inner ih => rw [withoutFloats, typeName_nullable, typeName_nullable, ih]
  | list item ih =>
      rw [withoutFloats, typeName_list, typeName_list, itemName, itemName, ih,
        isNullable_withoutFloats]
  | _ => rfl

/-- Whether a type is made of no other type. -/
def isAtomic : Ty → Bool
  | .nullable _ | .list _ => false
  | _ => true

variable {type other : Ty}

theorem suffix_append (front ending : String) : ending.toList <:+ (front ++ ending).toList :=
  ⟨front.toList, String.toList_append.symm⟩

theorem nullEnding_suffix (inner : Ty) : nullEnding <:+ (typeName (.nullable inner)).toList :=
  typeName_nullable inner ▸ suffix_append (typeName inner) " | null"

theorem listEnding_suffix (item : Ty) : listEnding <:+ (typeName (.list item)).toList :=
  typeName_list item ▸ suffix_append (itemName item) "[]"

/-- All atomic types but one are spelled as words. -/
theorem isWord_of_isAtomic (atomic : isAtomic type = true) (own : HasOwnWords type) :
    type = .map ∨ (typeName type).toList.all isIdentifierPart = true := by
  cases type with
  | nullable inner => cases atomic
  | list item => cases atomic
  | map => exact Or.inl rfl
  | object className =>
      rw [typeName_object]
      exact Or.inr (own className (List.mem_singleton_self _)).1
  | _ => exact Or.inr (by decide)

/-- The spelling of an atomic type does not end in symbols, `>` aside. -/
theorem not_suffix_of_isAtomic (atomic : isAtomic type = true) (own : HasOwnWords type)
    {ending : List Char} (marks : ending.all isIdentifierPart = false)
    (noMap : ¬ ending <:+ (typeName .map).toList) : ¬ ending <:+ (typeName type).toList := by
  intro suffix
  rcases isWord_of_isAtomic atomic own with rfl | word
  · exact noMap suffix
  · have inside : ending.all isIdentifierPart = true :=
      List.all_eq_true.mpr fun c member => List.all_eq_true.mp word c (suffix.subset member)
    exact Bool.false_ne_true (marks.symm.trans inside)

/-- Two endings of one text, of which one ends in the other. -/
def Overlap (front back : List Char) : Prop :=
  front <:+ back ∨ back <:+ front

instance (front back : List Char) : Decidable (Overlap front back) :=
  inferInstanceAs (Decidable (_ ∨ _))

/-- A spelling that ends in symbols, `>` aside, ends in those of a type that can be null or in those
of a list. -/
theorem eq_of_suffix {ending : List Char} (own : HasOwnWords type)
    (marks : ending.all isIdentifierPart = false) (noMap : ¬ ending <:+ (typeName .map).toList)
    (suffix : ending <:+ (typeName type).toList) :
    (∃ inner, type = .nullable inner ∧ Overlap ending nullEnding) ∨
      ∃ item, type = .list item ∧ Overlap ending listEnding := by
  cases type with
  | nullable inner =>
      exact Or.inl ⟨inner, rfl, List.suffix_or_suffix_of_suffix suffix (nullEnding_suffix inner)⟩
  | list item =>
      exact Or.inr ⟨item, rfl, List.suffix_or_suffix_of_suffix suffix (listEnding_suffix item)⟩
  | _ => exact absurd suffix (not_suffix_of_isAtomic rfl own marks noMap)

/-- **Only a type that can be null is spelled with ` | null` at its end.** -/
theorem nullEnding_suffix_iff (own : HasOwnWords type) :
    nullEnding <:+ (typeName type).toList ↔ ∃ inner, type = .nullable inner := by
  constructor
  · intro suffix
    rcases eq_of_suffix own (by decide) (by decide) suffix with ⟨inner, same, -⟩ | ⟨_, -, overlap⟩
    · exact ⟨inner, same⟩
    · exact absurd overlap (by decide)
  · rintro ⟨inner, rfl⟩
    exact nullEnding_suffix inner

/-- **Only a list is spelled with brackets at its end.** -/
theorem listEnding_suffix_iff (own : HasOwnWords type) :
    listEnding <:+ (typeName type).toList ↔ ∃ item, type = .list item := by
  constructor
  · intro suffix
    rcases eq_of_suffix own (by decide) (by decide) suffix with ⟨_, -, overlap⟩ | ⟨item, same, -⟩
    · exact absurd overlap (by decide)
    · exact ⟨item, same⟩
  · rintro ⟨item, rfl⟩
    exact listEnding_suffix item

/-- No type is spelled with a parenthesis at its end. -/
theorem not_closeParen_suffix (own : HasOwnWords type) :
    ¬ ")".toList <:+ (typeName type).toList := by
  intro suffix
  rcases eq_of_suffix own (by decide) (by decide) suffix with ⟨_, -, overlap⟩ | ⟨_, -, overlap⟩
  · exact absurd overlap (by decide)
  · exact absurd overlap (by decide)

/-- The items of a list are known by their spelling, since no other items have parentheses than
those that can be null. -/
theorem typeName_eq_of_itemName (own : HasOwnWords type) (ownOther : HasOwnWords other)
    (same : itemName type = itemName other) : typeName type = typeName other := by
  rw [itemName, itemName] at same
  split at same <;> split at same
  · rwa [String.append_left_inj, String.append_right_inj] at same
  · exact absurd (same ▸ suffix_append _ ")") (not_closeParen_suffix ownOther)
  · exact absurd (same ▸ suffix_append _ ")") (not_closeParen_suffix own)
  · exact same

/-- The atomic type of a spelling. -/
def atomOf : String → Ty
  | "number" => .int
  | "boolean" => .bool
  | "Date" => .dateTime
  | "string" => .text
  | "Row" => .row
  | "Record<string, unknown>" => .map
  | "Connection" => .connection
  | "unknown" => .unknown
  | className => .object className

theorem atomOf_object {className : String} (own : IsOwnWord className) :
    atomOf className = .object className := by
  obtain ⟨parts, noWord⟩ := own
  rw [atomOf]
  all_goals
    rintro rfl
    first | exact noWord (by decide) | exact absurd parts (by decide)

theorem atomOf_typeName (atomic : isAtomic type = true) (own : HasOwnWords type) :
    atomOf (typeName type) = withoutFloats type := by
  cases type with
  | nullable inner => cases atomic
  | list item => cases atomic
  | object className =>
      rw [typeName_object]
      exact atomOf_object (own className (List.mem_singleton_self _))
  | _ => rfl

theorem isAtomic_of_typeName (own : HasOwnWords type) (atomic : isAtomic type = true)
    (same : typeName type = typeName other) : isAtomic other = true := by
  cases other with
  | nullable inner =>
      obtain ⟨_, rfl⟩ := (nullEnding_suffix_iff own).mp (same ▸ nullEnding_suffix inner)
      cases atomic
  | list item =>
      obtain ⟨_, rfl⟩ := (listEnding_suffix_iff own).mp (same ▸ listEnding_suffix item)
      cases atomic
  | _ => rfl

/-- Types with one spelling differ in nothing but integers and floats. -/
theorem withoutFloats_eq_of_typeName (own : HasOwnWords type) (ownOther : HasOwnWords other)
    (same : typeName type = typeName other) : withoutFloats type = withoutFloats other := by
  induction type generalizing other with
  | nullable inner ih =>
      obtain ⟨bare, rfl⟩ := (nullEnding_suffix_iff ownOther).mp (same ▸ nullEnding_suffix inner)
      have ownBare : HasOwnWords bare := ownOther
      rw [typeName_nullable, typeName_nullable, String.append_left_inj] at same
      rw [withoutFloats, withoutFloats, ih own ownBare same]
  | list item ih =>
      obtain ⟨part, rfl⟩ := (listEnding_suffix_iff ownOther).mp (same ▸ listEnding_suffix item)
      have ownPart : HasOwnWords part := ownOther
      rw [typeName_list, typeName_list, String.append_left_inj] at same
      rw [withoutFloats, withoutFloats, ih own ownPart (typeName_eq_of_itemName own ownPart same)]
  | _ =>
      rw [← atomOf_typeName rfl own, same,
        atomOf_typeName (isAtomic_of_typeName own rfl same) ownOther]

/-- **Spellings of types are unambiguous.** Two types whose classes have words of their own are
spelled alike just when they are the same up to integers and floats. A list is never spelled like a
type that can be null, whatever is inside them. -/
theorem typeName_eq_iff (own : HasOwnWords type) (ownOther : HasOwnWords other) :
    (typeName type = typeName other ↔ withoutFloats type = withoutFloats other) ∧
      ∀ item inner, typeName (.list item) ≠ typeName (.nullable inner) := by
  refine ⟨⟨withoutFloats_eq_of_typeName own ownOther, fun same => ?_⟩, fun item inner same => ?_⟩
  · rw [← typeName_withoutFloats type, same, typeName_withoutFloats]
  · have suffix : nullEnding <:+ (typeName (.list item)).toList := same ▸ nullEnding_suffix inner
    have overlap : Overlap nullEnding listEnding :=
      List.suffix_or_suffix_of_suffix suffix (listEnding_suffix item)
    exact absurd overlap (by decide)

/-- A list of visits or nulls, and a list of visits or null. -/
theorem typeName_eq_iff_visits :
    HasOwnWords (.list (.nullable (.object "Visit"))) ∧
      HasOwnWords (.nullable (.list (.object "Visit"))) ∧
      (typeName (.list (.nullable (.object "Visit"))) =
          typeName (.nullable (.list (.object "Visit"))) ↔
        withoutFloats (.list (.nullable (.object "Visit"))) =
          withoutFloats (.nullable (.list (.object "Visit")))) ∧
      ∀ item inner, typeName (.list item) ≠ typeName (.nullable inner) :=
  have own : HasOwnWords (.list (.nullable (.object "Visit"))) := by decide
  have ownOther : HasOwnWords (.nullable (.list (.object "Visit"))) := by decide
  ⟨own, ownOther, typeName_eq_iff own ownOther⟩

end DataAccess.TypeScript
