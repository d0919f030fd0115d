import DataAccess.Proofs.Text.Splitting
import DataAccess.Text.Blank
import DataAccess.TypeScript.Lexeme
import Mathlib.Data.List.Chain
import Mathlib.Data.List.Infix
import Mathlib.Data.List.TakeWhile

/-!
# Comments in code

What is left of a file when its comments are removed (`uncommented`), and the lines of code in that
(`codeLines`). Text without quotes and slashes, and string literals, are left as they are
(`Leaves`). A comment is removed as a whole if nothing in it ends it: no `*/` in a comment block,
and no line terminator in a line comment.
-/

namespace DataAccess.TypeScript

/-- What a character of a file belongs to. -/
inductive Region where
  | code
  | lineComment
  | blockComment
  /-- A string literal, or a template literal with all that is in it. -/
  | literal (quote : Char)
  deriving DecidableEq

/-- The quotes that literals begin and end with. -/
def isQuote (c : Char) : Bool :=
  c == '"' || c == '\x27' || c == '\x60'

/-- The characters that end a line, and with it a comment on the line. -/
def isLineTerminator (c : Char) : Bool :=
  c == '\n' || c == '\r' || c == '\u2028' || c == '\u2029'

/-- Whether a character ends a literal: the quote that it began with does, and the end of a line
does, except in a template. -/
def endsLiteral (quote c : Char) : Bool :=
  c == quote || quote != '\x60' && (c == '\n' || c == '\r')

/-- The characters of a file that are not part of a comment. The line terminator after a line
comment is not part of it. -/
def uncommented : Region → List Char → List Char
  | _, [] => []
  | .code, '/' :: '/' :: rest => uncommented .lineComment rest
  | .code, '/' :: '*' :: rest => uncommented .blockComment rest
  | .code, c :: rest => c :: uncommented (if isQuote c then .literal c else .code) rest
  | .lineComment, c :: rest =>
    if isLineTerminator c then c :: uncommented .code rest else uncommented .lineComment rest
  | .blockComment, '*' :: '/' :: rest => uncommented .code rest
  | .blockComment, _ :: rest => uncommented .blockComment rest
  | .literal quote, '\\' :: c :: rest => '\\' :: c :: uncommented (.literal quote) rest
  | .literal quote, c :: rest =>
    c :: uncommented (if endsLiteral quote c then .code else .literal quote) rest

/-- Two slashes begin a comment on the line. -/
theorem uncommented_slashes (rest : List Char) :
    uncommented .code ('/' :: '/' :: rest) = uncommented .lineComment rest := by
  rw [uncommented]

/-- The lines of a text that are not blank, without the white space in front. -/
def linesOf (text : List Char) : List (List Char) :=
  ((Text.splitAt '\n' text).map Text.dropBlanks).filter fun line => !line.isEmpty

/-- The lines of code of a file: its comments are removed, then its blank lines and the white space
in front of lines. -/
def codeLines (text : List Char) : List (List Char) :=
  linesOf (uncommented .code text)

/-- A line break separates lines. -/
theorem linesOf_append (front back : List Char) :
    linesOf (front ++ '\n' :: back) = linesOf front ++ linesOf back := by
  rw [linesOf, Text.splitAt_append, List.map_append, List.filter_append]
  rfl

/-- White space makes no line. -/
theorem linesOf_blank {text : List Char} (blank : ∀ c ∈ text, Text.isBlank c = true) :
    linesOf text = [] := by
  refine List.filter_eq_nil_iff.mpr fun line member => ?_
  obtain ⟨part, inText, rfl⟩ := List.mem_map.mp member
  have none : Text.dropBlanks part = [] :=
    List.dropWhile_eq_nil_iff.mpr fun c inside => blank c (Text.mem_of_mem_splitAt inText inside)
  rw [none]
  exact Bool.false_ne_true

/-- Without its comments, all that is left of the first text is the second, and what comes after it
is code. -/
def Leaves (text left : List Char) : Prop :=
  ∀ rest, uncommented .code (text ++ rest) = left ++ uncommented .code rest

/-- Texts after each other leave what both leave. -/
theorem Leaves.append {first second left right : List Char} (before : Leaves first left)
    (after : Leaves second right) : Leaves (first ++ second) (left ++ right) := by
  intro rest
  rw [List.append_assoc, before, after, List.append_assoc]

/-- A text without comments, after which comes code. -/
def IsCode (text : String) : Prop :=
  Leaves text.toList text.toList

/-- Code after code is code. -/
theorem IsCode.append {first second : String} (before : IsCode first) (after : IsCode second) :
    IsCode (first ++ second) := by
  rw [IsCode, String.toList_append]
  exact Leaves.append before after

/-- Code with code between is code. -/
theorem isCode_joinWith {separator : String} (between : IsCode separator) {texts : List String}
    (each : ∀ text ∈ texts, IsCode text) : IsCode (Text.joinWith separator texts) := by
  induction texts with
  | nil => exact fun _ => rfl
  | cons first rest ih =>
      obtain ⟨now, later⟩ := List.forall_mem_cons.mp each
      cases rest with
      | nil => exact now
      | cons next rest => exact (now.append between).append (ih later)

/-- The characters that neither begin a comment nor a literal. -/
def isOrdinary (c : Char) : Bool :=
  !(isQuote c || c == '/')

/-- A class of characters without quotes and slashes is ordinary. -/
theorem isOrdinary_of_class {inClass : Char → Bool}
    (apart : ['"', '\x27', '\x60', '/'].any inClass = false) {c : Char}
    (member : inClass c = true) : isOrdinary c = true := by
  by_contra other
  simp only [isOrdinary, isQuote, Bool.not_eq_true, Bool.not_eq_false', Bool.or_eq_true,
    beq_iff_eq, or_assoc] at other
  have found : c ∈ ['"', '\x27', '\x60', '/'] := by
    simpa only [List.mem_cons, List.not_mem_nil, or_false] using other
  exact List.any_eq_false.mp apart c found member

/-- Ordinary characters stay as they are. -/
theorem leaves_ordinary {text : List Char} (ordinary : ∀ c ∈ text, isOrdinary c = true) :
    Leaves text text := by
  intro rest
  induction text with
  | nil => rfl
  | cons c text ih =>
      obtain ⟨here, later⟩ := List.forall_mem_cons.mp ordinary
      have noQuote : isQuote c = false := by
        simp only [isOrdinary, Bool.not_or, Bool.and_eq_true, Bool.not_eq_true'] at here
        exact here.1
      have noSlash : c ≠ '/' := by
        rintro rfl
        exact Bool.false_ne_true here
      rw [List.cons_append, uncommented, noQuote, if_neg Bool.false_ne_true, ih later,
        List.cons_append]
      · rintro _ rfl
        exact absurd rfl noSlash
      · rintro _ rfl
        exact absurd rfl noSlash

/-- A text in which no comment and no literal begins. -/
def IsOrdinary (text : String) : Prop :=
  text.toList.all isOrdinary = true

instance (text : String) : Decidable (IsOrdinary text) :=
  inferInstanceAs (Decidable (text.toList.all isOrdinary = true))

theorem isOrdinary_iff {text : String} :
    IsOrdinary text ↔ ∀ c ∈ text.toList, isOrdinary c = true :=
  List.all_eq_true

/-- Ordinary texts stay ordinary after each other. -/
theorem IsOrdinary.append {first second : String} (before : IsOrdinary first)
    (after : IsOrdinary second) : IsOrdinary (first ++ second) := by
  rw [isOrdinary_iff] at before after ⊢
  rw [String.toList_append]
  exact List.forall_mem_append.mpr ⟨before, after⟩

/-- An ordinary text is code. -/
theorem IsOrdinary.isCode {text : String} (ordinary : IsOrdinary text) : IsCode text :=
  leaves_ordinary (isOrdinary_iff.mp ordinary)

/-- A literal goes on behind each of its characters. -/
theorem uncommented_literalChar (c : Char) (rest : List Char) :
    uncommented (.literal '"') (literalChar c ++ rest) =
      literalChar c ++ uncommented (.literal '"') rest := by
  rw [literalChar]
  split
  · rfl
  split
  · rfl
  split
  · rfl
  split
  · rfl
  split
  · rfl
  · next noQuote noBackslash noNewline noReturn _ =>
      have goesOn : endsLiteral '"' c = false := by
        simp [endsLiteral, noQuote, noNewline, noReturn]
      rw [List.singleton_append, uncommented, goesOn, if_neg Bool.false_ne_true]
      · rfl
      · rintro _ _ rfl
        exact absurd rfl noBackslash

/-- **A printed literal is left as it is**, whatever it stands for. -/
theorem isCode_stringLiteral (text : String) : IsCode (stringLiteral text) := by
  have inside (chars rest : List Char) :
      uncommented (.literal '"') (chars.flatMap literalChar ++ '"' :: rest) =
        chars.flatMap literalChar ++ '"' :: uncommented .code rest := by
    induction chars with
    | nil => rfl
    | cons c chars ih =>
        rw [List.flatMap_cons, List.append_assoc, uncommented_literalChar, ih, List.append_assoc]
  intro rest
  rw [stringLiteral, String.toList_ofList, literalChars, List.cons_append, List.append_assoc,
    List.singleton_append, uncommented]
  · refine congrArg ('"' :: ·) ((inside text.toList rest).trans ?_)
    exact (List.append_assoc _ ['"'] _).symm
  · nofun
  · nofun

/-- A text that ends a comment block which it stands in. -/
def ClosesBlock (text : String) : Prop :=
  ['*', '/'] <:+: text.toList

instance (text : String) : Decidable (ClosesBlock text) :=
  inferInstanceAs (Decidable (_ <:+: _))

/-- No `*` has a `/` behind it. -/
theorem not_closesBlock_iff {text : String} :
    ¬ ClosesBlock text ↔ text.toList.IsChain fun c d => ¬ (c = '*' ∧ d = '/') := by
  rw [List.isChain_iff_forall_rel_of_append_cons_cons]
  constructor
  · rintro quiet _ _ front back split ⟨rfl, rfl⟩
    exact quiet ⟨front, back, by rw [split, List.append_assoc]; rfl⟩
  · rintro apart ⟨front, back, split⟩
    refine @apart '*' '/' front back ?_ ⟨rfl, rfl⟩
    rw [← split, List.append_assoc]
    rfl

/-- Texts that end no block by themselves do not end one together, unless one half of `*/` is in
each. -/
theorem not_closesBlock_append {front back : String} (first : ¬ ClosesBlock front)
    (second : ¬ ClosesBlock back)
    (apart : '*' ∉ front.toList.getLast? ∨ '/' ∉ back.toList.head?) :
    ¬ ClosesBlock (front ++ back) := by
  rw [not_closesBlock_iff] at first second ⊢
  rw [String.toList_append]
  refine List.isChain_append.mpr ⟨first, second, ?_⟩
  rintro _ last _ next ⟨rfl, rfl⟩
  rcases apart with noStar | noSlash
  · exact noStar last
  · exact noSlash next

/-- An ordinary text closes no comment block. -/
theorem IsOrdinary.not_closesBlock {text : String} (ordinary : IsOrdinary text) :
    ¬ ClosesBlock text := by
  intro closes
  have slash := isOrdinary_iff.mp ordinary '/' (closes.subset (by decide))
  exact Bool.false_ne_true slash

/-- A comment block goes on over a text that is part of it. -/
def StaysInBlock (text : List Char) : Prop :=
  ∀ rest, uncommented .blockComment (text ++ rest) = uncommented .blockComment rest

/-- A comment goes on through texts that each go on with it. -/
theorem StaysInBlock.append {first second : List Char} (before : StaysInBlock first)
    (after : StaysInBlock second) : StaysInBlock (first ++ second) := by
  intro rest
  rw [List.append_assoc, before, after]

/-- A comment goes on through a text that does not close it if the last character cannot close it
with the next. -/
theorem staysInBlock_concat {text : List Char} (inside : ¬ ['*', '/'] <:+: text) {last : Char}
    (noSlash : last ≠ '/') (noStar : last ≠ '*') : StaysInBlock (text ++ [last]) := by
  intro rest
  induction text with
  | nil =>
      rw [List.nil_append, List.singleton_append, uncommented]
      intro _ isStar
      exact absurd isStar noStar
  | cons c text ih =>
      rw [List.cons_append, List.cons_append, uncommented,
        ih fun later => inside (later.trans (List.suffix_cons c text).isInfix)]
      intro _ isStar next
      subst isStar
      cases text with
      | nil => exact noSlash (List.cons.inj next).1
      | cons d text =>
          obtain rfl : d = '/' := (List.cons.inj next).1
          exact inside (List.prefix_append ['*', '/'] text).isInfix

/-- **A comment block is removed as a whole** if nothing in it ends it. -/
theorem uncommented_block {text : List Char} (stays : StaysInBlock text) (rest : List Char) :
    uncommented .code ('/' :: '*' :: (text ++ '*' :: '/' :: rest)) = uncommented .code rest := by
  rw [uncommented, stays, uncommented]

/-- A text in which no line ends. -/
def IsOneLine (text : String) : Prop :=
  text.toList.any isLineTerminator = false

instance (text : String) : Decidable (IsOneLine text) :=
  inferInstanceAs (Decidable (text.toList.any isLineTerminator = false))

/-- Texts on one line stay there after each other. -/
theorem IsOneLine.append {first second : String} (before : IsOneLine first)
    (after : IsOneLine second) : IsOneLine (first ++ second) := by
  rw [IsOneLine, String.toList_append, List.any_append, before, after]
  rfl

/-- **A line comment is removed as a whole** if no line ends in it. -/
theorem uncommented_lineComment {text : String} (oneLine : IsOneLine text) (rest : List Char) :
    uncommented .code ('/' :: '/' :: (text.toList ++ '\n' :: rest)) =
      '\n' :: uncommented .code rest := by
  rw [uncommented_slashes]
  rw [IsOneLine] at oneLine
  revert oneLine
  induction text.toList with
  | nil => exact fun _ => rfl
  | cons c text ih =>
      intro oneLine
      rw [List.any_cons, Bool.or_eq_false_iff] at oneLine
      obtain ⟨here, later⟩ := oneLine
      rw [List.cons_append, uncommented, here, if_neg Bool.false_ne_true, ih later]

end DataAccess.TypeScript
