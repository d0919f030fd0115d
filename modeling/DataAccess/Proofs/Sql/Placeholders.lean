import DataAccess.Sql.Statement

/-!
# Placeholders in texts

Reading a text from left to right, one finds quoted names and, outside of them, question marks: the
placeholders of bound values. In the text of a statement one reads the names and placeholders that
its pieces stand for (`Spells.read`), also where names contain question marks and quotes, because
no two names stand side by side. So each placeholder can be told by the name in front of it or by
its place in a list.
-/

namespace DataAccess.Sql

/-- What is read in a text: a quoted name, or a placeholder. -/
inductive Lexeme where
  | name (text : String)
  | mark
  deriving DecidableEq

/-- Where reading stands: outside of names, inside of one, or behind a quote that closes a name
unless another quote follows. -/
inductive Reading where
  | outside
  | inside (name : List Char)
  | closing (name : List Char)

/-- What is read in the characters. -/
def lexemes (quote : Char) : Reading → List Char → List Lexeme
  | .outside, [] => []
  | .outside, c :: rest =>
    if c = quote then lexemes quote (.inside []) rest
    else if c = '?' then .mark :: lexemes quote .outside rest
    else lexemes quote .outside rest
  | .inside _, [] => []
  | .inside name, c :: rest =>
    if c = quote then lexemes quote (.closing name) rest
    else lexemes quote (.inside (name ++ [c])) rest
  | .closing name, [] => [.name (String.ofList name)]
  | .closing name, c :: rest =>
    if c = quote then lexemes quote (.inside (name ++ [quote])) rest
    else if c = '?' then .name (String.ofList name) :: .mark :: lexemes quote .outside rest
    else .name (String.ofList name) :: lexemes quote .outside rest

/-- The names and placeholders in a text whose names are quoted. -/
def Dialect.read (dialect : Dialect) (text : String) : List Lexeme :=
  lexemes dialect.quote .outside text.toList

/-- Whether a text has neither a quote nor a question mark. -/
def isPlain (quote : Char) (text : List Char) : Bool :=
  text.all fun c => c != quote && c != '?'

section Reading

variable {quote : Char} {rest : List Char}

/-- A name ends at its closing quote if no other quote follows. -/
theorem lexemes_closing (ends : rest.head? ≠ some quote) (name : List Char) :
    lexemes quote (.closing name) rest =
      .name (String.ofList name) :: lexemes quote .outside rest := by
  cases rest with
  | nil => rfl
  | cons c rest =>
      have other : c ≠ quote := by
        intro same
        exact ends (congrArg some same)
      rw [lexemes, lexemes, if_neg other, if_neg other]
      split
      · rfl
      · rfl

/-- A name with doubled quotes is read up to the quote behind it. -/
theorem lexemes_doubleQuotes (name seen : List Char) :
    lexemes quote (.inside seen) (doubleQuotes quote name ++ quote :: rest) =
      lexemes quote (.closing (seen ++ name)) rest := by
  induction name generalizing seen with
  | nil => rw [doubleQuotes, List.nil_append, lexemes, if_pos rfl, List.append_nil]
  | cons c name ih =>
      have split : seen ++ c :: name = seen ++ [c] ++ name := by
        rw [List.append_assoc, List.singleton_append]
      rw [doubleQuotes, split]
      by_cases isQuote : c = quote
      · -- The first of the two quotes closes the name, and the second opens it again.
        subst isQuote
        rw [if_pos rfl, List.cons_append, List.cons_append, lexemes, if_pos rfl, lexemes,
          if_pos rfl]
        exact ih (seen ++ [c])
      · rw [if_neg isQuote, List.cons_append, lexemes, if_neg isQuote]
        exact ih (seen ++ [c])

/-- **A quoted name is read as the name.** -/
theorem lexemes_quoteIdentifier (dialect : Dialect) (name : String)
    (ends : rest.head? ≠ some dialect.quote) :
    lexemes dialect.quote .outside ((dialect.quoteIdentifier name).toList ++ rest) =
      .name name :: lexemes dialect.quote .outside rest := by
  rw [Dialect.quoteIdentifier, String.toList_ofList, List.cons_append, lexemes, if_pos rfl,
    List.append_assoc, List.singleton_append, lexemes_doubleQuotes, lexemes_closing ends,
    List.nil_append, String.ofList_toList]

/-- A plain text outside of names has no lexemes. -/
theorem lexemes_plain {text : List Char} (plain : isPlain quote text = true) :
    lexemes quote .outside (text ++ rest) = lexemes quote .outside rest := by
  induction text with
  | nil => rfl
  | cons c text ih =>
      obtain ⟨first, later⟩ := Bool.and_eq_true_iff.mp plain
      obtain ⟨notQuote, notMark⟩ := Bool.and_eq_true_iff.mp first
      rw [List.cons_append, lexemes, if_neg (bne_iff_ne.mp notQuote),
        if_neg (bne_iff_ne.mp notMark)]
      exact ih later

end Reading

namespace Token

/-- Whether a piece is a word or a sign. The only function that statements call is one. -/
def isWord : Token → Bool
  | placeholder => false
  | ident _ => false
  | qualified _ _ => false
  | functionName name => name == "count"
  | _ => true

theorem text_count (style : Style) : (functionName "count").text style = "COUNT" := by
  have upper : Text.upper "count" = "COUNT" := by decide
  exact upper

/-- The words of statements are plain in every dialect. -/
theorem plain_text (style : Style) {token : Token} (word : token.isWord = true) :
    isPlain style.dialect.quote (token.text style).toList = true := by
  obtain ⟨dialect, quoted⟩ := style
  cases token with
  | placeholder => cases word
  | ident name => cases word
  | qualified schema name => cases word
  | functionName name =>
      obtain rfl : name = "count" := eq_of_beq word
      rw [text_count]
      cases dialect <;> decide +revert
  | _ => cases dialect <;> decide +revert

/-- No word of a statement is empty. -/
theorem text_ne_empty (style : Style) {token : Token} (word : token.isWord = true) :
    token.text style ≠ "" := by
  obtain ⟨dialect, quoted⟩ := style
  cases token with
  | placeholder => cases word
  | ident name => cases word
  | qualified schema name => cases word
  | functionName name =>
      obtain rfl : name = "count" := eq_of_beq word
      rw [text_count]
      decide
  | _ => cases dialect <;> decide +revert

end Token

/-- Whether pieces do not start with a name. -/
def startsPlain : List Token → Bool
  | .ident _ :: _ => false
  | .qualified _ _ :: _ => false
  | _ => true

/-- Pieces that stand for names and placeholders. Behind a name stands no name, because the two
could not be told from one. -/
inductive StandFor : List Token → List Lexeme → Prop where
  | nil : StandFor [] []
  | word {token : Token} {rest : List Token} {found : List Lexeme} (isWord : token.isWord = true)
      (stand : StandFor rest found) : StandFor (token :: rest) found
  | mark {rest : List Token} {found : List Lexeme} (stand : StandFor rest found) :
      StandFor (.placeholder :: rest) (.mark :: found)
  | name (name : String) {rest : List Token} {found : List Lexeme}
      (apart : startsPlain rest = true) (stand : StandFor rest found) :
      StandFor (.ident name :: rest) (.name name :: found)
  | table (name : String) {rest : List Token} {found : List Lexeme}
      (apart : startsPlain rest = true) (stand : StandFor rest found) :
      StandFor (.qualified none name :: rest) (.name name :: found)

section StandFor

variable {first second : List Token} {found more : List Lexeme}

/-- Tokens that start plain do so in front of others. -/
theorem startsPlain_append (plain : startsPlain first = true) (apart : startsPlain second = true) :
    startsPlain (first ++ second) = true := by
  cases first with
  | nil => exact apart
  | cons token rest =>
      cases token with
      | ident name => cases plain
      | qualified schema name => cases plain
      | _ => rfl

/-- Pieces can be put together where a name does not meet a name. -/
theorem StandFor.append (stand : StandFor first found) (next : StandFor second more)
    (apart : startsPlain second = true) : StandFor (first ++ second) (found ++ more) := by
  induction stand with
  | nil => exact next
  | word isWord _ ih => exact .word isWord ih
  | mark _ ih => exact .mark ih
  | name name plain _ ih => exact .name name (startsPlain_append plain apart) ih
  | table name plain _ ih => exact .table name (startsPlain_append plain apart) ih

/-- Words in front of tokens add no lexemes. -/
theorem StandFor.words (words : List Token) (areWords : words.all Token.isWord = true)
    (stand : StandFor second more) : StandFor (words ++ second) more := by
  induction words with
  | nil => exact stand
  | cons word rest ih =>
      obtain ⟨isWord, later⟩ := Bool.and_eq_true_iff.mp areWords
      exact .word isWord (ih later)

end StandFor

/-- What a text is read as: its pieces stand for it. -/
inductive Spells (style : Style) : String → List Lexeme → Prop where
  | pieces {tokens : List Token} {found : List Lexeme} (stand : StandFor tokens found) :
      Spells style (textOf style tokens) found

section Spells

variable {style : Style}

/-- Tokens that start plain do not begin with a quote. -/
theorem head?_textOf {tokens : List Token} {found : List Lexeme} (stand : StandFor tokens found)
    (apart : startsPlain tokens = true) :
    (textOf style tokens).toList.head? ≠ some style.dialect.quote := by
  cases stand with
  | nil => nofun
  | @word token rest found isWord _ =>
      have present : (token.text style).toList ≠ [] := by
        rw [Ne, String.toList_eq_nil_iff]
        exact token.text_ne_empty style isWord
      obtain ⟨c, others, spelled⟩ := List.exists_cons_of_ne_nil present
      have plain := token.plain_text style isWord
      rw [spelled] at plain
      obtain ⟨first, -⟩ := Bool.and_eq_true_iff.mp plain
      obtain ⟨notQuote, -⟩ := Bool.and_eq_true_iff.mp first
      rw [textOf, String.toList_append, spelled, List.cons_append, List.head?_cons]
      intro same
      exact bne_iff_ne.mp notQuote (Option.some.inj same)
  | mark _ =>
      have notQuote : '?' ≠ style.dialect.quote := by
        cases style.dialect <;> decide
      rw [textOf, Token.text, Dialect.placeholder, String.toList_append]
      intro same
      exact notQuote (Option.some.inj same)
  | name _ _ _ => cases apart
  | table _ _ _ => cases apart

/-- **A text is read as what its pieces stand for.** -/
theorem Spells.read {text : String} {found : List Lexeme} (spells : Spells style text found)
    (quoted : style.quoteIdentifiers = true) : style.dialect.read text = found := by
  have identifier (name : String) : style.identifier name = style.dialect.quoteIdentifier name := by
    rw [Style.identifier, quoted, if_pos rfl]
  obtain @⟨tokens, found, stand⟩ := spells
  rw [Dialect.read]
  induction stand with
  | nil => rfl
  | @word token rest found isWord _ ih =>
      rw [textOf, String.toList_append, lexemes_plain (token.plain_text style isWord), ih]
  | mark _ ih =>
      have notQuote : '?' ≠ style.dialect.quote := by
        cases style.dialect <;> decide
      have sign : "?".toList = ['?'] := by decide
      rw [textOf, Token.text, Dialect.placeholder, String.toList_append, sign,
        List.singleton_append, lexemes, if_neg notQuote, if_pos rfl, ih]
  -- What stands behind a name starts with no quote, so the name ends where its quote closes it.
  | name _ apart stand ih =>
      rw [textOf, Token.text, identifier, String.toList_append,
        lexemes_quoteIdentifier _ _ (head?_textOf stand apart), ih]
  | table _ apart stand ih =>
      rw [textOf, Token.text, identifier, String.toList_append,
        lexemes_quoteIdentifier _ _ (head?_textOf stand apart), ih]

end Spells

example : Dialect.mysql.read "SET \x60why?\x60\x60\x60 = ?" = [.name "why?\x60", .mark] := by decide

/-- The text of a clause, put behind a text, is one more placeholder. -/
theorem Spells.clause {style : Style} {text : String} {found : List Lexeme}
    (spells : Spells style text found) (clause : PageClause) :
    Spells style (text ++ clause.text style) (found ++ [.mark]) := by
  obtain @⟨tokens, found, stand⟩ := spells
  rw [PageClause.text, ← textOf_append]
  cases clause with
  | limit => exact .pieces (stand.append (.words [.space, .limit, .space] rfl (.mark .nil)) rfl)
  | offset => exact .pieces (stand.append (.words [.space, .offset, .space] rfl (.mark .nil)) rfl)

end DataAccess.Sql
