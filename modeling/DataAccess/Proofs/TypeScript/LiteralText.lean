import DataAccess.Proofs.TypeScript.Placement

/-!
# String literals in printed code

A text is printed as a string literal that is read as the text, and reading takes nothing of what
comes behind the literal (`denotes_stringLiteral`). The literals in the code of an expression are
the strings of the expression, in order (`literalsOf_exprLexemes`), and each of them is read back at
its place in the text.
-/

namespace DataAccess.TypeScript

open Code

/-- What the string literal at the start of a text stands for, and what comes after the literal. -/
def readString : List Char → Option (String × List Char)
  | '"' :: text => (readLiteral text).map fun (value, rest) => (String.ofList value, rest)
  | _ => none

/-- Whether a text is read as a string literal for the value, whatever comes after it. -/
def Denotes (text value : String) : Prop :=
  ∀ rest, readString (text.toList ++ rest) = some (value, rest)

/-- A literal has one meaning. -/
theorem Denotes.unique {text value other : String} (left : Denotes text value)
    (right : Denotes text other) : value = other := by
  have same := (left []).symm.trans (right [])
  exact congrArg Prod.fst (Option.some.inj same)

/-- A literal is read as its text, and nothing behind it is taken. -/
theorem denotes_stringLiteral (text : String) : Denotes (stringLiteral text) text := by
  intro rest
  rw [stringLiteral, String.toList_ofList, literalChars, List.cons_append, List.append_assoc,
    List.singleton_append, readString, readLiteral_append]
  exact congrArg (fun value => some (value, rest)) String.ofList_toList

/-- Different texts have different literals. -/
theorem stringLiteral_injective : Function.Injective stringLiteral := by
  intro text other same
  have denotes := denotes_stringLiteral text
  rw [same] at denotes
  exact denotes.unique (denotes_stringLiteral other)

/-- A plain key is no string literal. -/
theorem stringLiteral_ne_of_isPlainKey {key : String} (plain : isPlainKey key = true)
    (text : String) : stringLiteral text ≠ key := by
  rintro rfl
  obtain ⟨c, first, start⟩ := head?_text_word plain
  rw [stringLiteral, String.toList_ofList, literalChars] at first
  cases first
  cases start

/-- A key is printed as it is, or else as a literal. -/
theorem text_keyLexeme (key : String) :
    (keyLexeme key).text = if isPlainKey key then key else stringLiteral key := by
  rw [keyLexeme]
  split <;> rfl

/-- Different keys are printed differently. -/
theorem text_keyLexeme_injective : Function.Injective fun key => (keyLexeme key).text := by
  intro key other same
  simp only [text_keyLexeme] at same
  split at same
  · next plain =>
      split at same
      · exact same
      · exact absurd same.symm (stringLiteral_ne_of_isPlainKey plain other)
  · split at same
    · next plain => exact absurd same (stringLiteral_ne_of_isPlainKey plain key)
    · exact stringLiteral_injective same

/-- The strings that a key is printed with. -/
def keyStrings (key : String) : List String :=
  if isPlainKey key then [] else [key]

mutual

/-- The texts, row keys and keys of object literals that are no identifiers, in the order in which
an expression is printed. -/
def exprStrings : Expr → List String
  | .text value => [value]
  | .index target key => exprStrings target ++ [key]
  | .map entries => entriesStrings entries
  | .list items => allStrings items
  | .field target _ => exprStrings target
  | .greater left right | .equal left right => exprStrings left ++ exprStrings right
  | .ternary condition whenTrue whenFalse =>
    exprStrings condition ++ exprStrings whenTrue ++ exprStrings whenFalse
  | .isNull value | .isEmpty value | .first value | .cast value _ | .await value
  | .parseTimestamp value | .formatTimestamp value _ => exprStrings value
  | .call target _ args => exprStrings target ++ allStrings args
  | .selfCall _ args | .new _ args => allStrings args
  | .mapRows source _ _ body => exprStrings source ++ exprStrings body
  | .var _ | .this | .int _ | .bool _ | .null => []

/-- The strings in expressions. -/
def allStrings : List Expr → List String
  | [] => []
  | expr :: rest => exprStrings expr ++ allStrings rest

/-- The strings in an entry: its key, if that is a literal, and those of its value. -/
def entryStrings : String × Expr → List String
  | (key, value) => keyStrings key ++ exprStrings value

/-- The strings in entries. -/
def entriesStrings : List (String × Expr) → List String
  | [] => []
  | entry :: rest => entryStrings entry ++ entriesStrings rest

end

theorem allStrings_eq (items : List Expr) : allStrings items = items.flatMap exprStrings := by
  induction items with
  | nil => rfl
  | cons item items ih => rw [allStrings, ih, List.flatMap_cons]

theorem entriesStrings_eq (entries : List (String × Expr)) :
    entriesStrings entries = entries.flatMap entryStrings := by
  induction entries with
  | nil => rfl
  | cons entry entries ih => rw [entriesStrings, ih, List.flatMap_cons]

/-- The text of a lexeme that is a literal. -/
def Lexeme.literal? : Lexeme → Option String
  | .literal text => some text
  | _ => none

/-- What the string literals among lexemes stand for. -/
def literalsOf (lexemes : List Lexeme) : List String :=
  lexemes.filterMap Lexeme.literal?

section Literals

variable {lexemes : List Lexeme} {text : String}

@[simp]
theorem literalsOf_nil : literalsOf [] = [] := rfl

/-- Lexemes after each other have the literals of both. -/
@[simp]
theorem literalsOf_append {front back : List Lexeme} :
    literalsOf (front ++ back) = literalsOf front ++ literalsOf back :=
  List.filterMap_append

@[simp]
theorem literalsOf_word : literalsOf (.word text :: lexemes) = literalsOf lexemes := rfl

@[simp]
theorem literalsOf_number {value : Int64} :
    literalsOf (.number value :: lexemes) = literalsOf lexemes := rfl

@[simp]
theorem literalsOf_literal : literalsOf (.literal text :: lexemes) = text :: literalsOf lexemes :=
  rfl

@[simp]
theorem literalsOf_mark {mark : Symbol} :
    literalsOf (.symbol mark :: lexemes) = literalsOf lexemes := rfl

@[simp]
theorem literalsOf_space : literalsOf (.space :: lexemes) = literalsOf lexemes := rfl

/-- A key is a literal unless it is a plain identifier. -/
@[simp]
theorem literalsOf_key :
    literalsOf (keyLexeme text :: lexemes) = keyStrings text ++ literalsOf lexemes := by
  rw [keyLexeme, keyStrings]
  split <;> rfl

/-- Parentheses are no literals. -/
@[simp]
theorem literalsOf_parenthesized : literalsOf (parenthesized lexemes) = literalsOf lexemes := by
  simp [parenthesized]

/-- An operand has the same literals with parentheses and without. -/
@[simp]
theorem literalsOf_enclosed {least actual : Strength} :
    literalsOf (enclosed least actual lexemes) = literalsOf lexemes := by
  rw [enclosed]
  split
  · exact literalsOf_parenthesized
  · rfl

/-- Commas are no literals. -/
@[simp]
theorem literalsOf_commaSeparated {groups : List (List Lexeme)} :
    literalsOf (commaSeparated groups) = groups.flatMap literalsOf := by
  induction groups with
  | nil => rfl
  | cons first rest ih =>
      cases rest with
      | nil => simp [commaSeparated]
      | cons next rest => simp [commaSeparated, ih]

/-- Types have no literals. -/
@[simp]
theorem literalsOf_typeLexemes (type : Ty) : literalsOf (typeLexemes type) = [] := by
  induction type with
  | nullable inner ih => simp [typeLexemes, ih]
  | list item ih =>
      rw [typeLexemes, literalsOf_append]
      split <;> simp [ih]
  | _ => rfl

/-- A cast has the literals of its value. -/
@[simp]
theorem literalsOf_castLexemes (type : Ty) :
    literalsOf (castLexemes type lexemes) = literalsOf lexemes := by
  cases type with
  | nullable inner => cases inner <;> simp [castLexemes]
  | _ => simp [castLexemes]

end Literals

section Expressions

variable {className : String}

/-- The literals of items are their strings. -/
theorem flatMap_allLexemes {items : List Expr}
    (ih : ∀ item ∈ items, literalsOf (exprLexemes className item) = exprStrings item) :
    (allLexemes className items).flatMap literalsOf = allStrings items := by
  rw [allLexemes_eq, allStrings_eq, List.flatMap_map]
  exact List.flatMap_congr ih

/-- The literals of entries are their strings. -/
theorem flatMap_entriesLexemes {entries : List (String × Expr)}
    (ih : ∀ value ∈ entries.map Prod.snd,
      literalsOf (exprLexemes className value) = exprStrings value) :
    (entriesLexemes className entries).flatMap literalsOf = entriesStrings entries := by
  rw [entriesLexemes_eq, entriesStrings_eq, List.flatMap_map]
  refine List.flatMap_congr fun (key, value) member => ?_
  simp [entryLexemes, entryStrings, ih value (List.mem_map_of_mem member)]

/-- **The string literals in the code of an expression are its strings, in order.** -/
theorem literalsOf_exprLexemes (expr : Expr) :
    literalsOf (exprLexemes className expr) = exprStrings expr := by
  induction expr using Expr.ofChildren with
  | step expr ih =>
      cases expr with
      | list items =>
          have ofItems : _ = allStrings items := flatMap_allLexemes ih
          simp [exprLexemes, exprStrings, ofItems]
      | map entries =>
          rw [exprStrings, ← flatMap_entriesLexemes ih]
          cases entries with
          | nil => rfl
          | cons entry entries => simp [exprLexemes, entriesLexemes]
      | call target method args =>
          obtain ⟨ofTarget, ofArgs⟩ := List.forall_mem_cons.mp ih
          simp [exprLexemes, exprStrings, ofTarget, flatMap_allLexemes ofArgs]
      | selfCall method args | new created args =>
          have ofArgs : _ = allStrings args := flatMap_allLexemes ih
          simp [exprLexemes, exprStrings, ofArgs]
      | formatTimestamp value form =>
          cases form <;> simp_all [exprLexemes, exprStrings, Expr.children]
      | _ => simp_all [exprLexemes, comparison, exprStrings, Expr.children]

/-- A string literal in the code of an expression is read back at its place in the text. -/
theorem readString_exprText {expr : Expr} {front back : List Lexeme} {text : String}
    (placed : exprLexemes className expr = front ++ .literal text :: back) :
    readString ((exprText className expr).toList.drop (textOf front).length) =
      some (text, (textOf back).toList) := by
  rw [exprText, placed, textOf_append, String.toList_append, String.length, List.drop_left, textOf,
    String.toList_append]
  exact denotes_stringLiteral text (textOf back).toList

end Expressions

/-- **String literals are exact.** A literal is read as its text and ends where the text does,
whatever comes after it, so different texts have different literals. A key is printed as it is or
as a literal, and different keys differently. In the code of an expression the literals are the
strings of the expression, in order, and each is read as its string at its place in the text. -/
theorem literals_exact :
    (∀ text rest, readString ((stringLiteral text).toList ++ rest) = some (text, rest)) ∧
      Function.Injective stringLiteral ∧
      (∀ key, if isPlainKey key then (keyLexeme key).text = key
        else Denotes (keyLexeme key).text key) ∧
      Function.Injective (fun key => (keyLexeme key).text) ∧
      ∀ className expr,
        literalsOf (exprLexemes className expr) = exprStrings expr ∧
          ∀ front text back, exprLexemes className expr = front ++ .literal text :: back →
            readString ((exprText className expr).toList.drop (textOf front).length) =
              some (text, (textOf back).toList) := by
  refine ⟨denotes_stringLiteral, stringLiteral_injective, fun key => ?_, text_keyLexeme_injective,
    fun className expr => ⟨literalsOf_exprLexemes expr, fun _ _ _ => readString_exprText⟩⟩
  rw [text_keyLexeme]
  split
  · rfl
  · exact denotes_stringLiteral key

/-- The key of a row with a quote in it and a backslash at its end. -/
theorem literals_exact_rowKey :
    exprLexemes "Visits" (.index (.var "row") "no \"\\") =
        [.word "row", .symbol .openBracket] ++ .literal "no \"\\" :: [.symbol .closeBracket] ∧
      readString ((exprText "Visits" (.index (.var "row") "no \"\\")).toList.drop
          (textOf [.word "row", .symbol .openBracket]).length) =
        some ("no \"\\", (textOf [.symbol .closeBracket]).toList) :=
  ⟨by decide, (literals_exact.2.2.2.2 "Visits" _).2 _ _ _ (by decide)⟩

end DataAccess.TypeScript
