import DataAccess.Proofs.Naming.Identifiers
import Mathlib.Data.List.Forall2

/-!
# Ends of identifiers

Every style drops what separates words at the end of a name. So an identifier that is written in a
style ends with a letter or a digit, unless it is made of underscores only and the style leaves
nothing of it (`endsPlain_identifier`).
-/

namespace DataAccess.Naming

open Text

/-- The text does not end with an underscore. -/
def EndsPlain (text : List Char) : Prop :=
  text.getLast? ≠ some '_'

instance (text : List Char) : Decidable (EndsPlain text) :=
  inferInstanceAs (Decidable (_ ≠ _))

/-- A longer front leaves the last character alone. -/
theorem getLast?_cons_of_some {text : List Char} {last : Char} (ends : text.getLast? = some last)
    (c : Char) : (c :: text).getLast? = some last := by
  rw [List.getLast?_cons, ends, Option.getD_some]

/-- The underscore separates words. -/
theorem isSeparator_underscore : isSeparator '_' = true := by
  rw [isSeparator, isAlphanumeric_of_ascii (by decide)]
  decide

/-- The underscore is the one character of identifiers that separates words. -/
theorem eq_underscore_of_isSeparator {c : Char} (char : isIdentifierChar c = true)
    (separates : isSeparator c = true) : c = '_' := by
  rw [isSeparator, isAlphanumeric_of_ascii (toNat_lt_of_isIdentifierChar char),
    Bool.not_eq_true'] at separates
  rw [isIdentifierChar, separates, Bool.false_or] at char
  exact beq_iff_eq.mp char

/-- A character of a word is no underscore. -/
theorem ne_underscore_of_not_isSeparator {c : Char} (word : isSeparator c = false) : c ≠ '_' := by
  rintro rfl
  rw [isSeparator_underscore] at word
  cases word

/-- Among the characters of identifiers only the underscore separates words. -/
theorem isSeparator_eq_beq {c : Char} (char : isIdentifierChar c = true) :
    isSeparator c = (c == '_') := by
  by_cases underscore : c = '_'
  · rw [underscore, isSeparator_underscore]
    rfl
  · rw [beq_eq_false_iff_ne.mpr underscore]
    by_contra separates
    exact underscore (eq_underscore_of_isSeparator char ((Bool.not_eq_false _).mp separates))

/-- Lower case makes no underscores. -/
theorem toLower_ne_underscore {c : Char} :
    isIdentifierChar c = true → c ≠ '_' → c.toLower ≠ '_' :=
  @forall_isIdentifierChar (fun c => c ≠ '_' → c.toLower ≠ '_') (by decide) c

/-- Upper case makes no underscores. -/
theorem toUpper_ne_underscore {c : Char} :
    isIdentifierChar c = true → c ≠ '_' → c.toUpper ≠ '_' :=
  @forall_isIdentifierChar (fun c => c ≠ '_' → c.toUpper ≠ '_') (by decide) c

section DropLast

variable {inClass : Char → Bool} {text : List Char}

/-- What is left does not end in what was dropped. -/
theorem of_getLast?_dropLastWhile {c : Char}
    (last : (dropLastWhile inClass text).getLast? = some c) : inClass c = false := by
  induction text with
  | nil => cases last
  | cons d rest ih =>
      rw [dropLastWhile] at last
      cases kept : dropLastWhile inClass rest with
      | nil =>
          rw [kept] at last
          by_cases dropped : inClass d = true
          · simp [dropped] at last
          · obtain rfl : d = c := by simpa [dropped] using last
            exact (Bool.not_eq_true _).mp dropped
      | cons e others =>
          rw [kept] at last ih
          rw [List.getLast?_cons_cons] at last
          exact ih last

/-- Where nothing is left, everything was to be dropped. -/
theorem of_dropLastWhile_eq_nil (nothing : dropLastWhile inClass text = []) :
    ∀ c ∈ text, inClass c = true := by
  induction text with
  | nil => nofun
  | cons d rest ih =>
      rw [dropLastWhile] at nothing
      cases kept : dropLastWhile inClass rest with
      | nil =>
          rw [kept] at nothing
          by_cases dropped : inClass d = true
          · exact List.forall_mem_cons.mpr ⟨dropped, ih kept⟩
          · simp [dropped] at nothing
      | cons e others =>
          rw [kept] at nothing
          cases nothing

end DropLast

section Words

variable {text : List Char} {c : Char}

/-- Snake case ends in the last character of the last word. -/
theorem getLast?_snakeFrom (recase : Char → Char) (whole : List Char) (offset : Nat) (fresh : Bool)
    (last : text.getLast? = some c) (word : isSeparator c = false) :
    (snakeFrom recase whole offset fresh text).getLast? = some (recase c) := by
  induction text generalizing offset fresh with
  | nil => cases last
  | cons d rest ih =>
      cases rest with
      | nil =>
          obtain rfl : d = c := Option.some.inj last
          simp only [snakeFrom, word, Bool.false_eq_true, ↓reduceIte]
          split <;> rfl
      | cons e others =>
          rw [List.getLast?_cons_cons] at last
          have later := fun fresh => ih (offset + d.utf8Size) fresh last
          rw [snakeFrom]
          split
          · split
            · exact later true
            · exact getLast?_cons_of_some (later true) _
          · split
            · exact getLast?_cons_of_some (getLast?_cons_of_some (later false) _) _
            · exact getLast?_cons_of_some (later false) _

/-- Camel case ends in the last character of the last word, in one of its cases. -/
theorem getLast?_camelFrom (state : CamelState) (last : text.getLast? = some c)
    (word : isSeparator c = false) :
    ∃ d ∈ [c, c.toLower, c.toUpper], (camelFrom state text).getLast? = some d := by
  induction text generalizing state with
  | nil => cases last
  | cons d rest ih =>
      cases rest with
      | nil =>
          obtain rfl : d = c := Option.some.inj last
          simp only [camelFrom, word, Bool.false_eq_true, ↓reduceIte]
          split
          · exact ⟨d, by simp, rfl⟩
          split
          · exact ⟨d.toUpper, by simp, rfl⟩
          · exact ⟨d.toLower, by simp, rfl⟩
      | cons e others =>
          rw [List.getLast?_cons_cons] at last
          have grow (state : CamelState) (first : Char) :
              ∃ d ∈ [c, c.toLower, c.toUpper],
                (first :: camelFrom state (e :: others)).getLast? = some d := by
            obtain ⟨d, among, ends⟩ := ih state last
            exact ⟨d, among, getLast?_cons_of_some ends first⟩
          rw [camelFrom]
          split
          · exact ih _ last
          split
          · exact grow _ _
          split
          · exact grow _ _
          · exact grow _ _

end Words

/-- The parts between underscores make up the text. -/
theorem joinParts_splitAt (text : List Char) : CaseStyle.joinParts (splitAt '_' text) = text := by
  induction text with
  | nil => rfl
  | cons c rest ih =>
      cases parts : splitAt '_' rest with
      | nil => exact absurd parts (splitAt_ne_nil '_' rest)
      | cons part others =>
          rw [parts] at ih
          by_cases separates : c = '_'
          · rw [splitAt, if_pos separates, parts, CaseStyle.joinParts, ih, separates,
              List.nil_append]
          · rw [splitAt, if_neg separates, parts]
            cases others with
            | nil => rw [← ih]; rfl
            | cons next others => rw [← ih]; rfl

/-- A character as it stands in a capitalized text: itself, or its upper-case form. -/
def IsCapitalOf (written c : Char) : Prop :=
  written = c ∨ written = c.toUpper

/-- Parts that are related one by one are related as a whole. -/
theorem forall₂_joinParts {related : Char → Char → Prop} (separator : related '_' '_')
    {parts others : List (List Char)} (each : List.Forall₂ (List.Forall₂ related) parts others) :
    List.Forall₂ related (CaseStyle.joinParts parts) (CaseStyle.joinParts others) := by
  induction each with
  | nil => exact .nil
  | cons first rest ih =>
      cases rest with
      | nil => exact first
      | cons next rest => exact List.rel_append first (.cons separator ih)

/-- A capitalized word is the word but for its first character. -/
theorem isCapitalOf_capitalize {word : List Char} (chars : IsIdentifier word) :
    List.Forall₂ IsCapitalOf (CaseStyle.capitalize word) word := by
  cases word with
  | nil => exact .nil
  | cons c rest =>
      have ascii := toNat_lt_of_isIdentifierChar (List.forall_mem_cons.mp chars).1
      rw [CaseStyle.capitalize, upperChar_of_ascii ascii]
      exact .cons (Or.inr rfl) (List.forall₂_same.mpr fun _ _ => Or.inl rfl)

/-- Capitalizing the words of an identifier changes nothing but the case of letters. -/
theorem isCapitalOf_capitalized {text : List Char} (chars : IsIdentifier text) :
    List.Forall₂ IsCapitalOf
      (CaseStyle.joinParts ((splitAt '_' text).map CaseStyle.capitalize)) text := by
  have each : List.Forall₂ (List.Forall₂ IsCapitalOf)
      ((splitAt '_' text).map CaseStyle.capitalize) (splitAt '_' text) := by
    rw [List.forall₂_map_left_iff]
    exact List.forall₂_same.mpr fun word member =>
      isCapitalOf_capitalize (isIdentifier_of_mem_splitAt chars member)
  have joined := forall₂_joinParts (Or.inl rfl) each
  rwa [joinParts_splitAt] at joined

/-- Related texts end in related characters. -/
theorem getLast?_of_forall₂ {related : Char → Char → Prop} {texts others : List Char}
    (each : List.Forall₂ related texts others) {c : Char} (last : others.getLast? = some c) :
    ∃ d, related d c ∧ texts.getLast? = some d := by
  induction each with
  | nil => cases last
  | cons first rest ih =>
      cases rest with
      | nil =>
          obtain rfl := Option.some.inj last
          exact ⟨_, first, rfl⟩
      | cons next rest =>
          rw [List.getLast?_cons_cons] at last ⊢
          exact ih last

/-- A conversion ends with the last letter or digit of the text, perhaps in another case. -/
theorem getLast?_applyChars (style : CaseStyle) {text : List Char} (chars : IsIdentifier text)
    {c : Char} (last : (dropLastSeparators text).getLast? = some c) :
    ∃ d ∈ [c, c.toLower, c.toUpper, c.toLower.toUpper],
      (style.applyChars text).getLast? = some d := by
  have word : isSeparator c = false := of_getLast?_dropLastWhile last
  have snake (recase : Char → Char) :
      (snake recase text).getLast? = some (recase c) :=
    getLast?_snakeFrom recase text 0 true last word
  have camel (capital : Bool) : ∃ d ∈ [c, c.toLower, c.toUpper],
      (camel capital text).getLast? = some d :=
    getLast?_camelFrom { capital } last word
  cases style with
  | lowerSnake => exact ⟨c.toLower, by simp, snake Char.toLower⟩
  | screamingSnake => exact ⟨c.toUpper, by simp, snake Char.toUpper⟩
  | capitalizedSnake =>
      have lowered : IsIdentifier (Naming.snake Char.toLower text) :=
        isIdentifier_applyChars .lowerSnake chars
      obtain ⟨d, capital, ends⟩ :=
        getLast?_of_forall₂ (isCapitalOf_capitalized lowered) (snake Char.toLower)
      rcases capital with rfl | rfl
      · exact ⟨c.toLower, by simp, ends⟩
      · exact ⟨c.toLower.toUpper, by simp, ends⟩
  | lowerCamel =>
      obtain ⟨d, among, ends⟩ := camel false
      exact ⟨d, List.mem_append_left [c.toLower.toUpper] among, ends⟩
  | upperCamel =>
      obtain ⟨d, among, ends⟩ := camel true
      exact ⟨d, List.mem_append_left [c.toLower.toUpper] among, ends⟩

/-- A text of separators is converted to nothing. -/
theorem applyChars_of_dropLastSeparators_eq_nil (style : CaseStyle) {text : List Char}
    (nothing : dropLastSeparators text = []) : style.applyChars text = [] := by
  cases style <;> simp only [CaseStyle.applyChars, snake, camel, nothing] <;> rfl

/-- No style writes an underscore at the end. -/
theorem endsPlain_applyChars (style : CaseStyle) {text : List Char} (chars : IsIdentifier text) :
    EndsPlain (style.applyChars text) := by
  cases last : (dropLastSeparators text).getLast? with
  | none =>
      rw [applyChars_of_dropLastSeparators_eq_nil style (List.getLast?_eq_none_iff.mp last)]
      nofun
  | some c =>
      obtain ⟨d, among, ends⟩ := getLast?_applyChars style chars last
      have plain : c ≠ '_' := ne_underscore_of_not_isSeparator (of_getLast?_dropLastWhile last)
      have char : isIdentifierChar c = true :=
        isIdentifier_dropLastWhile isSeparator chars c (List.mem_of_getLast? last)
      have lower := toLower_ne_underscore char plain
      have all : ∀ d ∈ [c, c.toLower, c.toUpper, c.toLower.toUpper], d ≠ '_' := by
        simp only [List.forall_mem_cons, List.not_mem_nil, false_implies, implies_true, and_true]
        exact ⟨plain, lower, toUpper_ne_underscore char plain,
          toUpper_ne_underscore (isIdentifierChar_toLower char) lower⟩
      intro underscore
      rw [ends] at underscore
      exact all d among (Option.some.inj underscore)

/-- A style only leaves nothing of texts that are nothing but separators. -/
theorem isSeparator_of_applyChars_eq_nil (style : CaseStyle) {text : List Char}
    (chars : IsIdentifier text) (nothing : style.applyChars text = []) :
    ∀ c ∈ text, isSeparator c = true := by
  cases last : (dropLastSeparators text).getLast? with
  | none => exact of_dropLastWhile_eq_nil (List.getLast?_eq_none_iff.mp last)
  | some c =>
      obtain ⟨d, -, ends⟩ := getLast?_applyChars style chars last
      rw [nothing] at ends
      cases ends

/-- **An identifier in a style does not end with an underscore**, unless there is nothing else in
it. -/
theorem endsPlain_identifier (style : CaseStyle) (name : String) :
    EndsPlain (identifier (some style) name).toList ∨
      ∀ c ∈ (identifier (some style) name).toList, c = '_' := by
  have chars := isIdentifier_sanitize name
  rcases identifier_some style name with ⟨nothing, same⟩ | ⟨-, same⟩ <;> rw [same]
  · have separators := isSeparator_of_applyChars_eq_nil style chars nothing
    exact Or.inr fun c member => eq_underscore_of_isSeparator (chars c member) (separators c member)
  · exact Or.inl (endsPlain_applyChars style chars)

end DataAccess.Naming
