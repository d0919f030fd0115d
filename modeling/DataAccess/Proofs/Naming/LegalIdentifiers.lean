import DataAccess.Proofs.Naming.AccessorNames
import DataAccess.Proofs.Naming.WordEnds
import DataAccess.Proofs.Text.Trimming

/-!
# Legal names

An identifier of the catalog's names is legal in code if it is not empty, holds ASCII letters,
digits and underscores only, and does not start with a digit. A name is cleaned so that this holds,
but every style drops the underscores in front of the first letter or digit (`head?_applyChars`),
also the one that cleaning puts in front of a digit. So a name becomes a legal one in a style
exactly if its first letter or digit is a letter (`isLegal_identifier_iff`).
-/

namespace DataAccess.Naming

open Text

/-- The text can stand as a name in code, unless it is a word of the language. -/
structure IsLegal (text : List Char) : Prop where
  filled : text ≠ []
  chars : IsIdentifier text
  start : ∀ c ∈ text.head?, c.isDigit = false

/-- Whether the first letter or digit of a name is a digit. -/
def leadsWithDigit (name : List Char) : Bool :=
  (name.find? Char.isAlphanum).any Char.isDigit

variable {text : List Char} {c : Char}

theorem isSeparator_eq (char : isIdentifierChar c = true) : isSeparator c = !c.isAlphanum := by
  rw [isSeparator, isAlphanumeric_of_ascii (toNat_lt_of_isIdentifierChar char)]

theorem isNumeric_eq (char : isIdentifierChar c = true) : isNumeric c = c.isDigit :=
  isNumeric_of_ascii (toNat_lt_of_isIdentifierChar char)

theorem isDigit_toLower : isIdentifierChar c = true → c.toLower.isDigit = c.isDigit :=
  @forall_isIdentifierChar (fun c => c.toLower.isDigit = c.isDigit) (by decide) c

theorem isDigit_toUpper : isIdentifierChar c = true → c.toUpper.isDigit = c.isDigit :=
  @forall_isIdentifierChar (fun c => c.toUpper.isDigit = c.isDigit) (by decide) c

theorem head?_snakeFrom (recase : Char → Char) (whole : List Char) (offset : Nat)
    (chars : IsIdentifier text) :
    (snakeFrom recase whole offset true text).head? =
      (text.find? Char.isAlphanum).map recase := by
  induction text generalizing offset with
  | nil => rfl
  | cons c rest ih =>
      obtain ⟨char, others⟩ := List.forall_mem_cons.mp chars
      rw [snakeFrom, isSeparator_eq char, List.find?_cons]
      cases c.isAlphanum with
      | true => rfl
      | false => exact ih _ others

theorem head?_camelFrom {state : CamelState} (fresh : state.started = false)
    (chars : IsIdentifier text) (first : text.find? Char.isAlphanum = some c) :
    ∃ d ∈ [c, c.toLower, c.toUpper], (camelFrom state text).head? = some d := by
  induction text with
  | nil => cases first
  | cons d rest ih =>
      obtain ⟨char, others⟩ := List.forall_mem_cons.mp chars
      rw [List.find?_cons] at first
      rw [camelFrom, isSeparator_eq char]
      cases word : d.isAlphanum with
      | false =>
          rw [word] at first
          simp only [Bool.not_false, ↓reduceIte, fresh, Bool.false_eq_true]
          exact ih others first
      | true =>
          rw [word] at first
          obtain rfl : d = c := Option.some.inj first
          simp only [Bool.not_true, Bool.false_eq_true, ↓reduceIte]
          split
          · exact ⟨d, by simp, rfl⟩
          split
          · exact ⟨d.toUpper, by simp, rfl⟩
          · exact ⟨d.toLower, by simp, rfl⟩

theorem find?_dropLastSeparators (chars : IsIdentifier text) :
    (dropLastSeparators text).find? Char.isAlphanum = text.find? Char.isAlphanum := by
  obtain ⟨dropped, whole, separators⟩ := exists_append_dropLastWhile isSeparator text
  have none : dropped.find? Char.isAlphanum = none := by
    refine List.find?_eq_none.mpr fun c member => ?_
    have separates := separators c member
    rw [isSeparator_eq (chars c (whole ▸ List.mem_append_right _ member))] at separates
    rwa [Bool.not_eq_true', ← Bool.not_eq_true] at separates
  conv_rhs => rw [whole, List.find?_append, none, Option.or_none]
  rfl

theorem head?_of_forall₂ {related : Char → Char → Prop} {texts others : List Char}
    (each : List.Forall₂ related texts others) (first : others.head? = some c) :
    ∃ d, related d c ∧ texts.head? = some d := by
  cases each with
  | nil => cases first
  | cons same rest =>
      obtain rfl := Option.some.inj first
      exact ⟨_, same, rfl⟩

/-- A conversion starts with the first letter or digit of the text, perhaps in another case. -/
theorem head?_applyChars (style : CaseStyle) (chars : IsIdentifier text)
    (first : text.find? Char.isAlphanum = some c) :
    ∃ d ∈ [c, c.toLower, c.toUpper, c.toLower.toUpper],
      (style.applyChars text).head? = some d := by
  have trimmed : IsIdentifier (dropLastSeparators text) :=
    isIdentifier_dropLastWhile isSeparator chars
  rw [← find?_dropLastSeparators chars] at first
  have snake (recase : Char → Char) : (snake recase text).head? = some (recase c) := by
    rw [Naming.snake, head?_snakeFrom recase text 0 trimmed, first, Option.map_some]
  have camel (capital : Bool) : ∃ d ∈ [c, c.toLower, c.toUpper],
      (camel capital text).head? = some d :=
    @head?_camelFrom _ _ { capital } rfl trimmed first
  cases style with
  | lowerSnake => exact ⟨c.toLower, by simp, snake Char.toLower⟩
  | screamingSnake => exact ⟨c.toUpper, by simp, snake Char.toUpper⟩
  | capitalizedSnake =>
      have lowered : IsIdentifier (Naming.snake Char.toLower text) :=
        isIdentifier_applyChars .lowerSnake chars
      obtain ⟨d, rfl | rfl, starts⟩ :=
        head?_of_forall₂ (isCapitalOf_capitalized lowered) (snake Char.toLower)
      · exact ⟨c.toLower, by simp, starts⟩
      · exact ⟨c.toLower.toUpper, by simp, starts⟩
  | lowerCamel =>
      obtain ⟨d, among, starts⟩ := camel false
      exact ⟨d, List.mem_append_left [c.toLower.toUpper] among, starts⟩
  | upperCamel =>
      obtain ⟨d, among, starts⟩ := camel true
      exact ⟨d, List.mem_append_left [c.toLower.toUpper] among, starts⟩

/-- A conversion that leaves nothing of a text had no digit to lead with. -/
theorem leadsWithDigit_of_applyChars_eq_nil (style : CaseStyle) (chars : IsIdentifier text)
    (nothing : style.applyChars text = []) : leadsWithDigit text = false := by
  rw [leadsWithDigit, Option.any_eq_false]
  intro c first
  obtain ⟨d, -, starts⟩ := head?_applyChars style chars first
  rw [nothing] at starts
  cases starts

/-- A conversion that leaves something starts with a digit where the text leads with one. -/
theorem head?_applyChars_isDigit (style : CaseStyle) (chars : IsIdentifier text)
    (filled : style.applyChars text ≠ []) :
    ∃ d, (style.applyChars text).head? = some d ∧ d.isDigit = leadsWithDigit text := by
  cases first : text.find? Char.isAlphanum with
  | none =>
      refine absurd (applyChars_of_dropLastSeparators_eq_nil style ?_) filled
      refine dropLastWhile_of_all fun c member => ?_
      rw [isSeparator_eq (chars c member), Bool.not_eq_true', ← Bool.not_eq_true]
      exact List.find?_eq_none.mp first c member
  | some c =>
      obtain ⟨d, among, starts⟩ := head?_applyChars style chars first
      have char : isIdentifierChar c = true := chars c (List.mem_of_find?_eq_some first)
      have same : ∀ d ∈ [c, c.toLower, c.toUpper, c.toLower.toUpper], d.isDigit = c.isDigit := by
        simp only [List.forall_mem_cons, List.not_mem_nil, false_implies, implies_true, and_true]
        exact ⟨trivial, isDigit_toLower char, isDigit_toUpper char,
          (isDigit_toUpper (isIdentifierChar_toLower char)).trans (isDigit_toLower char)⟩
      exact ⟨d, starts, by rw [leadsWithDigit, first, same d among, Option.any_some]⟩

theorem find?_replaced (name : List Char) :
    (name.map fun c => if isIdentifierChar c then c else '_').find? Char.isAlphanum =
      name.find? Char.isAlphanum := by
  induction name with
  | nil => rfl
  | cons c rest ih =>
      have same : (if isIdentifierChar c then c else '_').isAlphanum = c.isAlphanum := by
        cases kept : isIdentifierChar c with
        | true => rfl
        | false => exact (Bool.or_eq_false_iff.mp kept).1.symm
      rw [List.map_cons, List.find?_cons, List.find?_cons, same, ih]
      cases word : c.isAlphanum with
      | false => rfl
      | true => rw [show isIdentifierChar c = true from Bool.or_eq_true_iff.mpr (Or.inl word)]; rfl

theorem leadsWithDigit_sanitizeChars (name : List Char) :
    leadsWithDigit (sanitizeChars name) = leadsWithDigit name := by
  rw [leadsWithDigit, leadsWithDigit, ← find?_replaced name, sanitizeChars]
  cases name.map fun c => if isIdentifierChar c then c else '_' with
  | nil => rfl
  | cons c rest =>
      simp only
      split
      · rfl
      · rfl

/-- Cleaning makes a legal name of everything but the empty text. -/
theorem isLegal_sanitize {name : String} (filled : name ≠ "") : IsLegal (sanitize name).toList := by
  refine ⟨?_, isIdentifier_sanitize name, ?_⟩ <;>
    rw [sanitize, String.toList_ofList, sanitizeChars] <;>
    cases replaced : name.toList.map fun c => if isIdentifierChar c then c else '_' with
    | nil => ?_
    | cons c rest => ?_
  · exact absurd (String.toList_eq_nil_iff.mp (List.map_eq_nil_iff.mp replaced)) filled
  · simp only
    split <;> exact List.cons_ne_nil _ _
  · rintro _ ⟨⟩
  · simp only
    split
    · rintro _ ⟨⟩
      decide
    next letter =>
      rintro _ ⟨⟩
      exact (Bool.not_eq_true _).mp letter

/-- Whether a name of the catalog becomes a legal one in code. -/
def BecomesLegal (style : Option CaseStyle) (name : String) : Prop :=
  name ≠ "" ∧ (style.isSome = true → leadsWithDigit name.toList = false)

instance (style : Option CaseStyle) (name : String) : Decidable (BecomesLegal style name) :=
  inferInstanceAs (Decidable (_ ∧ _))

theorem identifier_ne_empty (style : Option CaseStyle) {name : String} (filled : name ≠ "") :
    identifier style name ≠ "" := by
  have plain : sanitize name ≠ "" := fun nothing =>
    (isLegal_sanitize filled).filled (String.toList_eq_nil_iff.mpr nothing)
  cases style with
  | none => exact plain
  | some style =>
      rcases identifier_some style name with ⟨-, same⟩ | ⟨something, same⟩
      · rwa [same]
      · exact fun nothing => something (same ▸ String.toList_eq_nil_iff.mpr nothing)

/-- **A name becomes a legal identifier** unless it is empty, or leads with a digit and is written
in a style. -/
theorem isLegal_identifier_iff (style : Option CaseStyle) (name : String) :
    IsLegal (identifier style name).toList ↔ BecomesLegal style name := by
  by_cases filled : name = ""
  · subst filled
    have nothing : (identifier style "").toList = [] := by
      cases style with
      | none => rfl
      | some style => cases style <;> rfl
    exact ⟨fun legal => absurd nothing legal.filled, fun both => absurd rfl both.1⟩
  cases style with
  | none => exact ⟨fun _ => ⟨filled, nofun⟩, fun _ => isLegal_sanitize filled⟩
  | some style =>
      have chars := isIdentifier_sanitize name
      have leads : leadsWithDigit (sanitize name).toList = leadsWithDigit name.toList := by
        rw [sanitize, String.toList_ofList, leadsWithDigit_sanitizeChars]
      have becomes : BecomesLegal (some style) name ↔
          leadsWithDigit (sanitize name).toList = false := by
        rw [leads]
        exact ⟨fun both => both.2 rfl, fun letter => ⟨filled, fun _ => letter⟩⟩
      rw [becomes]
      rcases identifier_some style name with ⟨nothing, same⟩ | ⟨something, same⟩
      · rw [same]
        exact ⟨fun _ => leadsWithDigit_of_applyChars_eq_nil style chars nothing,
          fun _ => isLegal_sanitize filled⟩
      · obtain ⟨d, starts, digit⟩ := head?_applyChars_isDigit style chars something
        rw [same, ← digit]
        refine ⟨fun legal => legal.start d starts, fun letter => ?_⟩
        refine ⟨something, isIdentifier_applyChars style chars, fun c first => ?_⟩
        rw [starts] at first
        exact Option.some.inj first ▸ letter

/-- Styles bring a digit to the front that cleaning had moved behind an underscore. -/
theorem identifier_models :
    identifier none "3d_models" = "_3d_models" ∧
      identifier (some .upperCamel) "3d_models" = "3DModels" ∧
      ¬ IsLegal (identifier (some .upperCamel) "3d_models").toList := by
  refine ⟨by decide, by decide, ?_⟩
  rw [isLegal_identifier_iff]
  decide

end DataAccess.Naming
