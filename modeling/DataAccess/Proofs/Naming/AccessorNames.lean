import DataAccess.Naming.Convention

/-!
# Names of key accessors

Whatever the properties of a key are called and whichever style methods are written in, the name of
the accessor over the key starts with the letter `g` in one of its cases
(`keyMethodName_startsWithG`). No other generated method has such a name.
-/

namespace DataAccess.Naming

open Text

/-- The text starts with the letter `g` in one of its cases. -/
def StartsWithG (text : List Char) : Prop :=
  ∃ rest, text = 'g' :: rest ∨ text = 'G' :: rest

theorem startsWithG_cons {c : Char} (letter : c = 'g' ∨ c = 'G') (rest : List Char) :
    StartsWithG (c :: rest) := by
  rcases letter with rfl | rfl
  · exact ⟨rest, Or.inl rfl⟩
  · exact ⟨rest, Or.inr rfl⟩

theorem isSeparator_g : isSeparator 'g' = false := by
  rw [isSeparator, isAlphanumeric_of_ascii (by decide)]
  decide

theorem isNumeric_g : isNumeric 'g' = false := by
  rw [isNumeric_of_ascii (by decide)]
  decide

/-- A character outside the class is kept, and so is everything in front of it. -/
theorem dropLastWhile_cons {inClass : Char → Bool} {c : Char} (other : inClass c = false)
    (rest : List Char) : dropLastWhile inClass (c :: rest) = c :: dropLastWhile inClass rest := by
  rw [dropLastWhile]
  cases dropLastWhile inClass rest with
  | nil => simp [other]
  | cons d kept => rfl

theorem snake_g (recase : Char → Char) (rest : List Char) :
    ∃ later, snake recase ('g' :: rest) = recase 'g' :: later := by
  rw [snake, dropLastSeparators, dropLastWhile_cons isSeparator_g, snakeFrom]
  simp [isSeparator_g]

theorem camel_g (capital : Bool) (rest : List Char) :
    ∃ later, camel capital ('g' :: rest) = (if capital then 'G' else 'g') :: later := by
  have plain : isLowerCase ' ' = false := by
    rw [isLowerCase_of_ascii (by decide)]
    decide
  rw [camel, dropLastSeparators, dropLastWhile_cons isSeparator_g, camelFrom]
  cases capital with
  | true => simp [isSeparator_g, isNumeric_g, CamelState.capitalizes]
  | false => simp [isSeparator_g, isNumeric_g, CamelState.capitalizes, plain]

theorem splitAt_cons_of_ne {separator c : Char} (differ : c ≠ separator) (rest : List Char) :
    ∃ part parts, splitAt separator (c :: rest) = (c :: part) :: parts := by
  rw [splitAt, if_neg differ]
  cases splitAt separator rest with
  | nil => exact ⟨[], [], rfl⟩
  | cons part parts => exact ⟨part, parts, rfl⟩

theorem joinParts_cons_cons (c : Char) (part : List Char) (parts : List (List Char)) :
    CaseStyle.joinParts ((c :: part) :: parts) = c :: CaseStyle.joinParts (part :: parts) := by
  cases parts <;> rfl

/-- Every style leaves an initial `g` in front, in one of its cases. -/
theorem startsWithG_applyChars (style : CaseStyle) (rest : List Char) :
    StartsWithG (style.applyChars ('g' :: rest)) := by
  cases style with
  | lowerSnake =>
      obtain ⟨later, same⟩ := snake_g Char.toLower rest
      rw [CaseStyle.applyChars, same]
      exact startsWithG_cons (by decide) later
  | screamingSnake =>
      obtain ⟨later, same⟩ := snake_g Char.toUpper rest
      rw [CaseStyle.applyChars, same]
      exact startsWithG_cons (by decide) later
  | capitalizedSnake =>
      obtain ⟨later, same⟩ := snake_g Char.toLower rest
      have letter : Char.toLower 'g' = 'g' := by decide
      have differ : 'g' ≠ '_' := by decide
      obtain ⟨part, parts, split⟩ := splitAt_cons_of_ne differ later
      have capital : CaseStyle.capitalize ('g' :: part) = 'G' :: part := by
        rw [CaseStyle.capitalize, upperChar_of_ascii (by decide)]
        rfl
      rw [CaseStyle.applyChars, same, letter, split, List.map_cons, capital, joinParts_cons_cons]
      exact startsWithG_cons (by decide) _
  | lowerCamel =>
      obtain ⟨later, same⟩ := camel_g false rest
      rw [CaseStyle.applyChars, same]
      exact startsWithG_cons (by decide) later
  | upperCamel =>
      obtain ⟨later, same⟩ := camel_g true rest
      rw [CaseStyle.applyChars, same]
      exact startsWithG_cons (by decide) later

theorem sanitizeChars_g (rest : List Char) :
    ∃ later, sanitizeChars ('g' :: rest) = 'g' :: later := by
  have letter : isIdentifierChar 'g' = true := by decide
  have noDigit : ('g' : Char).isDigit = false := by decide
  refine ⟨rest.map fun c => if isIdentifierChar c then c else '_', ?_⟩
  simp only [sanitizeChars, List.map_cons, letter, ↓reduceIte, noDigit, Bool.false_eq_true]

theorem startsWithG_identifier (style : Option CaseStyle) {name : String} {rest : List Char}
    (start : name.toList = 'g' :: rest) : StartsWithG (identifier style name).toList := by
  obtain ⟨later, clean⟩ := sanitizeChars_g rest
  have plain : (sanitize name).toList = 'g' :: later := by
    rw [sanitize, start, clean, String.toList_ofList]
  cases style with
  | none =>
      simp only [identifier, plain]
      exact startsWithG_cons (Or.inl rfl) later
  | some style =>
      have converted : StartsWithG (style.apply (sanitize name)).toList := by
        rw [CaseStyle.apply, plain, String.toList_ofList]
        exact startsWithG_applyChars style later
      simp only [identifier]
      split
      · rw [plain]
        exact startsWithG_cons (Or.inl rfl) later
      · exact converted

/-- The name of an accessor over a key starts with the letter `g`. -/
theorem keyMethodName_startsWithG (convention : Convention) (properties : List String) :
    StartsWithG (convention.keyMethodName properties).toList := by
  have words : ∃ rest, ("get by " ++ joinWith " and " properties).toList = 'g' :: rest := by
    rw [String.toList_append]
    exact ⟨_, rfl⟩
  obtain ⟨rest, words⟩ := words
  obtain ⟨later, joined⟩ := camel_g false rest
  have start : (CaseStyle.lowerCamel.apply ("get by " ++ joinWith " and " properties)).toList =
      'g' :: later := by
    rw [CaseStyle.apply, words, String.toList_ofList]
    exact joined
  exact startsWithG_identifier convention.methods start

end DataAccess.Naming
