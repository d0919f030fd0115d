import DataAccess.Proofs.Text.Splitting
import DataAccess.TypeScript.Expression
import Mathlib.Data.List.Basic

/-!
# Scanning printed code

A scanner for the part of the language that is printed. It takes the longest token that the text
begins with, and where that token is none of its own, such as `?.` or `>=`, it refuses the text. The
text of lexemes is scanned as the tokens of the lexemes, if no two neighbours run together
(`scan_textOf`).
-/

namespace DataAccess.TypeScript

/-- A piece of code as the language tells them apart. -/
inductive Token where
  /-- A name or a keyword. -/
  | word (text : String)
  | number (value : Nat)
  /-- A string literal that stands for the text. -/
  | literal (text : String)
  | symbol (mark : Symbol)
  | minus
  deriving DecidableEq

/-- What an escape in a string literal stands for. -/
def escaped? : Char → Option Char
  | '"' => some '"'
  | '\\' => some '\\'
  | 'n' => some '\n'
  | 'r' => some '\r'
  | 't' => some '\t'
  | _ => none

/-- What a string literal stands for, and what comes after its closing quote. -/
def readLiteral : List Char → Option (List Char × List Char)
  | [] => none
  | '"' :: rest => some ([], rest)
  | '\\' :: c :: rest => do
    let char ← escaped? c
    (readLiteral rest).map fun (value, rest) => (char :: value, rest)
  | c :: rest =>
    if c = '\\' ∨ c = '\n' ∨ c = '\r' then none
    else (readLiteral rest).map fun (value, rest) => (c :: value, rest)

/-- The symbols of one character. -/
def symbol? : Char → Option Symbol
  | '.' => some .dot
  | ',' => some .comma
  | ':' => some .colon
  | '?' => some .question
  | '|' => some .bar
  | '<' => some .less
  | '>' => some .greater
  | '(' => some .openParen
  | ')' => some .closeParen
  | '[' => some .openBracket
  | ']' => some .closeBracket
  | '\x7b' => some .openBrace
  | '\x7d' => some .closeBrace
  | _ => none

/-- Whether the language has another token that begins with the symbol and the character. -/
def Symbol.mergesWith : Symbol → Char → Bool
  | .dot, c => c == '.' || c.isDigit
  | .question, c => c == '.' || c == '?'
  | .bar, c => c == '|' || c == '='
  | .less, c => c == '<' || c == '='
  | .greater, c => c == '>' || c == '='
  | .looselyEqual, c => c == '='
  | _, _ => false

/-- Reads a symbol, the longest one that the text begins with. -/
def scanSymbol : List Char → Option (Token × List Char)
  | '=' :: '=' :: '=' :: rest => some (.symbol .equal, rest)
  | '=' :: '=' :: rest => some (.symbol .looselyEqual, rest)
  | '=' :: '>' :: rest => some (.symbol .arrow, rest)
  | '-' :: rest =>
    if rest.head?.any fun c => c == '-' || c == '=' then none else some (.minus, rest)
  | c :: rest => do
    let mark ← symbol? c
    if rest.head?.any mark.mergesWith then none else some (.symbol mark, rest)
  | [] => none

/-- A decimal integer without a sign. It has no zeros in front, no fraction and no unit. -/
def scanNumber (text : List Char) : Option (Token × List Char) :=
  let digits := text.takeWhile Char.isDigit
  let rest := text.dropWhile Char.isDigit
  let value := Nat.ofDigitChars 10 digits 0
  if Nat.toDigits 10 value ≠ digits then none
  else if rest.head?.any fun c => c == '.' || isIdentifierPart c then none
  else some (.number value, rest)

/-- The first token of a text, and what comes after it. -/
def scanOne (text : List Char) : Option (Token × List Char) :=
  match text with
  | [] => none
  | c :: rest =>
    if isIdentifierStart c then
      some (.word (String.ofList (text.takeWhile isIdentifierPart)),
        text.dropWhile isIdentifierPart)
    else if c.isDigit then scanNumber text
    else if c = '"' then
      (readLiteral rest).map fun (value, rest) => (.literal (String.ofList value), rest)
    else scanSymbol text

/-- Goes on after a reading with what it left. No reading that succeeds leaves as much as it was
given; that it does not is checked here, since it is why reading ends. -/
def andThen {α β γ : Type} (items : List γ) (reading : Option (α × List γ))
    (next : α → (rest : List γ) → rest.length < items.length → Option β) : Option β :=
  match reading with
  | some (value, rest) =>
    if shorter : rest.length < items.length then next value rest shorter else none
  | none => none

/-- The tokens of a text. -/
def scan (text : List Char) : Option (List Token) :=
  match text with
  | [] => some []
  | ' ' :: rest => scan rest
  | text => andThen text (scanOne text) fun token rest _ => (scan rest).map (token :: ·)
termination_by text.length

/-- The tokens of an integer; a sign is a token of its own. -/
def integerTokens (value : Int) : List Token :=
  if value < 0 then [.minus, .number value.natAbs] else [.number value.natAbs]

/-- The tokens that a lexeme is read as. Spaces are none, and a negative number is two. -/
def Lexeme.tokens : Lexeme → List Token
  | .word text => [.word text]
  | .number value => integerTokens value.toInt
  | .literal text => [.literal text]
  | .symbol mark => [.symbol mark]
  | .space => []

/-- The tokens of lexemes, one after another. -/
def tokensOf (lexemes : List Lexeme) : List Token :=
  lexemes.flatMap Lexeme.tokens

@[simp]
theorem tokensOf_nil : tokensOf [] = [] := rfl

@[simp]
theorem tokensOf_cons (lexeme : Lexeme) (rest : List Lexeme) :
    tokensOf (lexeme :: rest) = lexeme.tokens ++ tokensOf rest := List.flatMap_cons

/-- Lexemes after each other have the tokens of both. -/
@[simp]
theorem tokensOf_append (left right : List Lexeme) :
    tokensOf (left ++ right) = tokensOf left ++ tokensOf right := List.flatMap_append

/-- Parentheses around lexemes stand around their tokens. -/
theorem tokensOf_parenthesized (lexemes : List Lexeme) (rest : List Token) :
    tokensOf (parenthesized lexemes) ++ rest =
      .symbol .openParen :: (tokensOf lexemes ++ .symbol .closeParen :: rest) := by
  simp [parenthesized, Lexeme.tokens]

/-- The words of lexemes are identifiers. -/
def Lexeme.IsPlain : Lexeme → Prop
  | .word text => isPlainKey text = true
  | _ => True

/-- Whether a lexeme ends before the character that comes next. -/
def Lexeme.EndsAt : Lexeme → Option Char → Prop
  | .word _, next => ∀ c ∈ next, isIdentifierPart c = false
  | .number _, next => ∀ c ∈ next, c ≠ '.' ∧ isIdentifierPart c = false
  | .symbol mark, next => ∀ c ∈ next, mark.mergesWith c = false
  | _, _ => True

/-- What begins an identifier may also go on with it. -/
theorem isIdentifierPart_of_isStart {c : Char} (start : isIdentifierStart c = true) :
    isIdentifierPart c = true := by
  simp only [isIdentifierStart, isIdentifierPart, Char.isAlphanum, Bool.or_eq_true] at start ⊢
  tauto

/-- Digits may go on with an identifier. -/
theorem isIdentifierPart_of_isDigit {c : Char} (digit : c.isDigit = true) :
    isIdentifierPart c = true := by
  simp only [isIdentifierPart, Char.isAlphanum, digit, Bool.or_true, Bool.true_or]

/-- Digits begin no identifier. -/
theorem isIdentifierStart_of_isDigit {c : Char} (digit : c.isDigit = true) :
    isIdentifierStart c = false := by
  have low : c ≠ '_' ∧ c ≠ '$' := by
    constructor <;> (rintro rfl; exact Bool.false_ne_true digit)
  have below (letter : Char) (above : '9'.toNat < letter.toNat) : ¬ c.val ≥ letter.val := by
    have nine := (Char.isDigit_iff_toNat.mp digit).2
    exact fun least => absurd (UInt32.le_iff_toNat_le.mp least)
      (Nat.not_le_of_lt (Nat.lt_of_le_of_lt nine above))
  have upper : c.isUpper = false :=
    decide_eq_false fun between => below 'A' (by decide) between.1
  have lower : c.isLower = false :=
    Bool.and_eq_false_iff.mpr (Or.inl (decide_eq_false (below 'a' (by decide))))
  have alpha : c.isAlpha = false := Bool.or_eq_false_iff.mpr ⟨upper, lower⟩
  rw [isIdentifierStart, alpha, beq_eq_false_iff_ne.mpr low.1, beq_eq_false_iff_ne.mpr low.2]
  rfl

/-- A word is read up to where it ends. -/
theorem scanOne_word {name : String} (plain : isPlainKey name = true) {rest : List Char}
    (ends : ∀ c ∈ rest.head?, isIdentifierPart c = false) :
    scanOne (name.toList ++ rest) = some (.word name, rest) := by
  rw [isPlainKey] at plain
  cases chars : name.toList with
  | nil =>
      rw [chars] at plain
      cases plain
  | cons c tail =>
      rw [chars, Bool.and_eq_true, List.all_eq_true] at plain
      obtain ⟨start, parts⟩ := plain
      have all : ∀ d ∈ c :: tail, isIdentifierPart d = true := by
        intro d member
        rcases List.mem_cons.mp member with rfl | member
        · exact isIdentifierPart_of_isStart start
        · exact parts d member
      obtain ⟨taken, dropped⟩ := Text.takeWhile_append all ends
      rw [List.cons_append] at taken dropped ⊢
      simp only [scanOne, start, ↓reduceIte, taken, dropped, ← chars, String.ofList_toList]

/-- A number is read up to where it ends. -/
theorem scanOne_number (value : Nat) {rest : List Char}
    (ends : ∀ c ∈ rest.head?, c ≠ '.' ∧ isIdentifierPart c = false) :
    scanOne (Nat.toDigits 10 value ++ rest) = some (.number value, rest) := by
  have all : ∀ c ∈ Nat.toDigits 10 value, c.isDigit = true := fun c member =>
    Nat.isDigit_of_mem_toDigits (by decide) (by decide) member
  have after : ∀ c ∈ rest.head?, c.isDigit = false := by
    intro c next
    by_contra digit
    rw [Bool.not_eq_false] at digit
    exact Bool.false_ne_true ((ends c next).2.symm.trans (isIdentifierPart_of_isDigit digit))
  obtain ⟨taken, dropped⟩ := Text.takeWhile_append all after
  have stops : (rest.head?.any fun c => c == '.' || isIdentifierPart c) = false := by
    rw [Option.any_eq_false]
    intro c next
    simp [ends c next]
  have scanned : scanNumber (Nat.toDigits 10 value ++ rest) = some (.number value, rest) := by
    simp only [scanNumber, taken, dropped, Nat.ofDigitChars_ten_toDigits, stops]
    simp
  cases digits : Nat.toDigits 10 value with
  | nil => exact absurd digits Nat.toDigits_ne_nil
  | cons c tail =>
      have digit := all c (digits ▸ List.mem_cons_self)
      rw [digits] at scanned
      rw [List.cons_append] at scanned ⊢
      rw [scanOne, isIdentifierStart_of_isDigit digit, if_neg Bool.false_ne_true, digit, if_pos rfl,
        scanned]

/-- An escape stands for its character. -/
theorem readLiteral_escape {char c : Char} (escapes : escaped? c = some char) (text : List Char) :
    readLiteral ('\\' :: c :: text) =
      (readLiteral text).map fun (value, rest) => (char :: value, rest) := by
  simp only [readLiteral, escapes, bind, Option.bind]

/-- A character is read as itself from how it stands in a literal. -/
theorem readLiteral_literalChar (c : Char) (text : List Char) :
    readLiteral (literalChar c ++ text) =
      (readLiteral text).map fun (value, rest) => (c :: value, rest) := by
  rw [literalChar]
  split
  · next isQuote =>
      subst isQuote
      exact readLiteral_escape rfl text
  split
  · next isBackslash =>
      subst isBackslash
      exact readLiteral_escape rfl text
  split
  · next isNewline =>
      subst isNewline
      exact readLiteral_escape rfl text
  split
  · next isReturn =>
      subst isReturn
      exact readLiteral_escape rfl text
  split
  · next isTab =>
      subst isTab
      exact readLiteral_escape rfl text
  · next noQuote noBackslash noNewline noReturn noTab =>
      rw [List.singleton_append, readLiteral, if_neg (by tauto)]
      · exact noQuote
      · rintro d rest rfl
        exact absurd rfl noBackslash

/-- A literal is read up to its closing quote, whatever comes after it. -/
theorem readLiteral_append (value rest : List Char) :
    readLiteral (value.flatMap literalChar ++ '"' :: rest) = some (value, rest) := by
  induction value with
  | nil => rfl
  | cons c value ih =>
      rw [List.flatMap_cons, List.append_assoc, readLiteral_literalChar, ih]
      rfl

/-- A string literal is read as its text. -/
theorem scanOne_literal (text : String) (rest : List Char) :
    scanOne ((stringLiteral text).toList ++ rest) = some (.literal text, rest) := by
  have quote : isIdentifierStart '"' = false ∧ '"'.isDigit = false := by decide
  rw [stringLiteral, literalChars, String.toList_ofList, List.cons_append, List.append_assoc,
    List.singleton_append, scanOne, quote.1, quote.2, if_neg Bool.false_ne_true,
    if_neg Bool.false_ne_true, if_pos rfl, readLiteral_append]
  exact congrArg (fun value => some (Token.literal value, rest)) String.ofList_toList

/-- A symbol is read where the next character does not make a longer one. -/
theorem scanOne_symbol (mark : Symbol) {rest : List Char}
    (ends : ∀ c ∈ rest.head?, mark.mergesWith c = false) :
    scanOne (mark.text.toList ++ rest) = some (.symbol mark, rest) := by
  have stops := (Option.any_eq_false _ _).mpr ends
  have scanned : scanSymbol (mark.text.toList ++ rest) = some (.symbol mark, rest) := by
    cases mark with
    | looselyEqual =>
        cases rest with
        | nil => rfl
        | cons c rest =>
            have other : c ≠ '=' := by simpa [Symbol.mergesWith] using ends c rfl
            simp [Symbol.text, scanSymbol, other]
    | equal => rfl
    | arrow => rfl
    | _ => simp [Symbol.text, scanSymbol, symbol?, stops]
  cases mark <;> exact scanned

/-- A minus is read where the next character does not make a longer symbol. -/
theorem scanOne_minus {rest : List Char} (ends : ∀ c ∈ rest.head?, c ≠ '-' ∧ c ≠ '=') :
    scanOne ('-' :: rest) = some (.minus, rest) := by
  have stops : (rest.head?.any fun c => c == '-' || c == '=') = false := by
    rw [Option.any_eq_false]
    intro c next
    simp [ends c next]
  have scanned : scanSymbol ('-' :: rest) = some (.minus, rest) := by
    rw [scanSymbol, stops, if_neg Bool.false_ne_true]
  exact scanned

/-- A reader goes on with what the one before it has left. -/
theorem andThen_some {α β γ : Type} {items rest : List γ} (shorter : rest.length < items.length)
    {value : α} {next : α → (rest : List γ) → rest.length < items.length → Option β} :
    andThen items (some (value, rest)) next = next value rest shorter :=
  dif_pos shorter

/-- What stands behind an item is shorter than the whole. -/
theorem length_lt_append_cons {γ : Type} (front : List γ) (item : γ) (rest : List γ) :
    rest.length < (front ++ item :: rest).length := by
  rw [List.length_append, List.length_cons]
  omega

/-- The first token is followed by the others, and no token begins with a space. -/
theorem scan_of_scanOne {front rest : List Char} {token : Token} (filled : front ≠ [])
    (first : scanOne (front ++ rest) = some (token, rest)) :
    scan (front ++ rest) = (scan rest).map (token :: ·) := by
  have shorter : rest.length < (front ++ rest).length := by
    have some := List.length_pos_of_ne_nil filled
    rw [List.length_append]
    omega
  rw [scan, first, andThen_some shorter]
  · intro none
    rw [none] at first
    cases first
  · intro more blank
    rw [blank] at first
    cases first

/-- A number is written in its decimal digits. -/
theorem toList_ofNat (n : Nat) : (toString (Int.ofNat n)).toList = Nat.toDigits 10 n := by
  change (toString n).toList = _
  simp only [Nat.toString_eq_repr, Nat.toList_repr]

/-- A negative number is written with a minus and decimal digits. -/
theorem toList_negSucc (n : Nat) :
    (toString (Int.negSucc n)).toList = '-' :: Nat.toDigits 10 (n + 1) := by
  rw [← toList_ofNat]
  exact String.toList_append

/-- An integer is read as its sign and its digits. -/
theorem scan_integer (value : Int) {rest : List Char}
    (ends : ∀ c ∈ rest.head?, c ≠ '.' ∧ isIdentifierPart c = false) :
    scan ((toString value).toList ++ rest) = (scan rest).map (integerTokens value ++ ·) := by
  cases value with
  | ofNat n =>
      rw [toList_ofNat, scan_of_scanOne Nat.toDigits_ne_nil (scanOne_number n ends), integerTokens,
        if_neg (by simp)]
      rfl
  | negSucc n =>
      have sign : scanOne ('-' :: (Nat.toDigits 10 (n + 1) ++ rest)) =
          some (.minus, Nat.toDigits 10 (n + 1) ++ rest) := by
        refine scanOne_minus fun c next => ?_
        rw [List.head?_append_of_ne_nil _ Nat.toDigits_ne_nil] at next
        have digit : c.isDigit = true :=
          Nat.isDigit_of_mem_toDigits (by decide) (by decide) (List.mem_of_mem_head? next)
        constructor <;> (rintro rfl; cases digit)
      have behind : scan ('-' :: (Nat.toDigits 10 (n + 1) ++ rest)) =
          (scan (Nat.toDigits 10 (n + 1) ++ rest)).map (Token.minus :: ·) :=
        @scan_of_scanOne ['-'] _ _ (List.cons_ne_nil _ _) sign
      rw [toList_negSucc, integerTokens, if_pos (Int.negSucc_lt_zero n), List.cons_append, behind,
        scan_of_scanOne Nat.toDigits_ne_nil (scanOne_number _ ends), Option.map_map]
      rfl

/-- A word begins like an identifier. -/
theorem head?_text_word {name : String} (plain : isPlainKey name = true) :
    ∃ c, name.toList.head? = some c ∧ isIdentifierStart c = true := by
  rw [isPlainKey] at plain
  cases chars : name.toList with
  | nil =>
      rw [chars] at plain
      cases plain
  | cons c tail =>
      rw [chars, Bool.and_eq_true] at plain
      exact ⟨c, rfl, plain.1⟩

/-- No lexeme is empty. -/
theorem head?_text {lexeme : Lexeme} (plain : lexeme.IsPlain) :
    ∃ c, lexeme.text.toList.head? = some c := by
  cases lexeme with
  | word name =>
      obtain ⟨c, first, -⟩ := head?_text_word plain
      exact ⟨c, first⟩
  | number value =>
      have filled : (toString value.toInt).toList ≠ [] := by
        cases value.toInt with
        | ofNat n =>
            rw [toList_ofNat]
            exact Nat.toDigits_ne_nil
        | negSucc n =>
            rw [toList_negSucc]
            exact List.cons_ne_nil _ _
      exact ⟨_, List.head?_eq_some_head filled⟩
  | literal text => exact ⟨'"', by rw [Lexeme.text, stringLiteral, String.toList_ofList]; rfl⟩
  | symbol mark => cases mark <;> exact ⟨_, rfl⟩
  | space => exact ⟨_, rfl⟩

/-- A lexeme is read as its tokens where it ends, and reading goes on behind it. -/
theorem scan_lexeme {lexeme : Lexeme} (plain : lexeme.IsPlain) {rest : List Char}
    (ends : lexeme.EndsAt rest.head?) :
    scan (lexeme.text.toList ++ rest) = (scan rest).map (lexeme.tokens ++ ·) := by
  have filled : lexeme.text.toList ≠ [] := by
    obtain ⟨c, first⟩ := head?_text plain
    intro none
    rw [none] at first
    cases first
  cases lexeme with
  | word name => exact scan_of_scanOne filled (scanOne_word plain ends)
  | number value => exact scan_integer value.toInt ends
  | literal text => exact scan_of_scanOne filled (scanOne_literal text rest)
  | symbol mark => exact scan_of_scanOne filled (scanOne_symbol mark ends)
  | space =>
      have skipped : scan (' ' :: rest) = scan rest := by rw [scan]
      exact skipped.trans Option.map_id'.symm

/-- Whether two neighbours stay apart. -/
def Lexeme.Joins : Lexeme → Lexeme → Prop
  | .word _, .word _ | .word _, .number _ => False
  | .number _, .word _ | .number _, .number _ | .number _, .symbol .dot => False
  | .symbol .dot, next | .symbol .less, next => ∃ name, next = .word name
  | .symbol .question, next | .symbol .bar, next | .symbol .looselyEqual, next => next = .space
  | .symbol .greater, next =>
    next = .space ∨ next = .symbol .openBracket ∨ next = .symbol .closeParen
  | _, _ => True

/-- No symbol goes on with a letter. -/
theorem mergesWith_of_isStart {c : Char} (start : isIdentifierStart c = true) (mark : Symbol) :
    mark.mergesWith c = false := by
  have noDigit : c.isDigit = false := by
    by_contra digit
    rw [Bool.not_eq_false] at digit
    exact Bool.false_ne_true ((isIdentifierStart_of_isDigit digit).symm.trans start)
  have other : c ≠ '.' ∧ c ≠ '?' ∧ c ≠ '|' ∧ c ≠ '<' ∧ c ≠ '>' ∧ c ≠ '=' := by
    refine ⟨?_, ?_, ?_, ?_, ?_, ?_⟩ <;> (rintro rfl; cases start)
  cases mark <;> simp [Symbol.mergesWith, noDigit, other]

/-- A lexeme ends in front of one that it may stand next to. -/
theorem endsAt_of_joins {left right : Lexeme} (joins : left.Joins right) (plain : right.IsPlain) :
    left.EndsAt right.text.toList.head? := by
  cases left with
  | literal text => trivial
  | space => trivial
  | word name =>
      intro c next
      cases right with
      | word other => cases joins
      | number value => cases joins
      | literal text =>
          rw [Lexeme.text, stringLiteral, String.toList_ofList] at next
          cases next
          rfl
      | symbol mark => cases mark <;> (cases next; rfl)
      | space => cases next; rfl
  | number value =>
      intro c next
      cases right with
      | word other => cases joins
      | number value => cases joins
      | literal text =>
          rw [Lexeme.text, stringLiteral, String.toList_ofList] at next
          cases next
          decide
      | symbol mark =>
          cases mark with
          | dot => cases joins
          | _ => cases next; decide
      | space => cases next; decide
  | symbol mark =>
      intro c next
      have inWord (name : String) (same : right = .word name) : isIdentifierStart c = true := by
        subst same
        obtain ⟨d, first, start⟩ := head?_text_word plain
        rw [Lexeme.text, first] at next
        cases next
        exact start
      cases mark with
      | dot =>
          obtain ⟨name, same⟩ := joins
          exact mergesWith_of_isStart (inWord name same) .dot
      | less =>
          obtain ⟨name, same⟩ := joins
          exact mergesWith_of_isStart (inWord name same) .less
      | question => subst joins; cases next; rfl
      | bar => subst joins; cases next; rfl
      | looselyEqual => subst joins; cases next; rfl
      | greater => rcases joins with rfl | rfl | rfl <;> (cases next; rfl)
      | _ => rfl

/-- **Printed code is scanned as its lexemes.** -/
theorem scan_textOf {lexemes : List Lexeme} (plain : ∀ lexeme ∈ lexemes, lexeme.IsPlain)
    (joins : lexemes.IsChain Lexeme.Joins) :
    scan (textOf lexemes).toList = some (tokensOf lexemes) := by
  induction lexemes with
  | nil => rw [textOf, String.toList_empty, scan]; rfl
  | cons lexeme rest ih =>
      obtain ⟨first, others⟩ := List.forall_mem_cons.mp plain
      have ends : lexeme.EndsAt (textOf rest).toList.head? := by
        cases rest with
        | nil => cases lexeme <;> first | trivial | (rintro c ⟨⟩)
        | cons next rest =>
            obtain ⟨c, head⟩ := head?_text (others next List.mem_cons_self)
            have together := (List.isChain_cons_cons.mp joins).1
            rw [textOf, String.toList_append, List.head?_append, head, Option.some_or, ← head]
            exact endsAt_of_joins together (others next List.mem_cons_self)
      rw [textOf, String.toList_append, scan_lexeme first ends, ih others joins.of_cons]
      rfl

end DataAccess.TypeScript
