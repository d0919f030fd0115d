import DataAccess.Proofs.Text.Splitting
import DataAccess.Settings.Basic

/-!
# The grammar of references

A text with references is a row of pieces: stretches without a dollar sign, references in braces and
without, and dollar signs that start none. Each piece is found again in a row of them, if nothing
behind it reads as its continuation (`segments_charsOf`). So a text stands for what its pieces stand
for, one after another, unless a variable is not set; and every text is such a row, but for a brace
that may be missing at its end (`expand_pieces`).
-/

namespace DataAccess.Settings

/-- A piece of a text with references, as it is written. -/
inductive Piece where
  | literal (text : List Char)
  /-- A name in braces behind a dollar sign. -/
  | braced (name : List Char)
  /-- A name behind a dollar sign. -/
  | bare (name : List Char)
  /-- A dollar sign that starts no reference. -/
  | dollar
  deriving DecidableEq

/-- A reference whose closing brace is missing. -/
def openReference (name : List Char) : List Char :=
  '$' :: '\x7b' :: name

/-- The characters of a piece. -/
def Piece.chars : Piece → List Char
  | literal text => text
  | braced name => openReference name ++ ['\x7d']
  | bare name => '$' :: name
  | dollar => ['$']

/-- The characters of pieces, one after another. -/
def charsOf (pieces : List Piece) : List Char :=
  pieces.flatMap Piece.chars

/-- The first piece comes first. -/
theorem charsOf_cons (piece : Piece) (pieces : List Piece) :
    charsOf (piece :: pieces) = piece.chars ++ charsOf pieces :=
  List.flatMap_cons

/-- The text of pieces. -/
def textOf (pieces : List Piece) : String :=
  String.ofList (charsOf pieces)

/-- Whether a piece ends where it seems to, in front of the text. Only characters end a name, so a
literal without any does not. -/
def Piece.Fits (rest : List Char) : Piece → Prop
  | literal text => '$' ∉ text
  | braced name => '\x7d' ∉ name
  | bare name =>
    name ≠ [] ∧ (∀ c ∈ name, isNameChar c = true) ∧ ∀ c ∈ rest.head?, isNameChar c = false
  | dollar => ∀ c ∈ rest.head?, c ≠ '\x7b' ∧ isNameChar c = false

instance (piece : Piece) (rest : List Char) : Decidable (piece.Fits rest) :=
  -- The characters in question are looked at one by one, not all characters there are.
  have (name : List Char) : Decidable (∀ c ∈ name, isNameChar c = true) :=
    List.decidableBAll _ name
  have : Decidable (∀ c ∈ rest.head?, isNameChar c = false) :=
    Option.decidableForallMem rest.head?
  have behindDollar : Decidable (∀ c ∈ rest.head?, c ≠ '\x7b' ∧ isNameChar c = false) :=
    Option.decidableForallMem rest.head?
  match piece with
  | .literal text => inferInstanceAs (Decidable ('$' ∉ text))
  | .braced name => inferInstanceAs (Decidable ('\x7d' ∉ name))
  | .bare name =>
    inferInstanceAs (Decidable
      (name ≠ [] ∧ (∀ c ∈ name, isNameChar c = true) ∧ ∀ c ∈ rest.head?, isNameChar c = false))
  | .dollar => behindDollar

/-- Whether each of the pieces fits in front of the pieces behind it and the text behind them. -/
def FitBefore (rest : List Char) : List Piece → Prop
  | [] => True
  | piece :: pieces => piece.Fits (charsOf pieces ++ rest) ∧ FitBefore rest pieces

instance FitBefore.decidable (rest : List Char) :
    (pieces : List Piece) → Decidable (FitBefore rest pieces)
  | [] => isTrue trivial
  | piece :: pieces =>
    have := FitBefore.decidable rest pieces
    inferInstanceAs (Decidable (piece.Fits (charsOf pieces ++ rest) ∧ FitBefore rest pieces))

/-- The name of the variable that a piece refers to. -/
def Piece.name? : Piece → Option String
  | braced name | bare name => some (String.ofList name)
  | literal _ | dollar => none

/-- What a piece stands for: a literal for itself, a reference for the value of its variable as it
is, a dollar sign for itself. -/
def Piece.value (environment : Environment) : Piece → List Char
  | literal text => text
  | braced name | bare name => (environment (String.ofList name)).elim [] String.toList
  | dollar => ['$']

/-- The first of the variables that is not set. -/
def firstUnset? (environment : Environment) (pieces : List Piece) : Option String :=
  (pieces.filterMap Piece.name?).find? fun name => (environment name).isNone

/-- What the pieces stand for, or the first of their variables that is not set. -/
def resultOf (environment : Environment) (pieces : List Piece) : Except String (List Char) :=
  match firstUnset? environment pieces with
  | some name => .error name
  | none => .ok (pieces.flatMap (Piece.value environment))

/-- The pieces of single characters and names that a piece is read as. -/
def Piece.segments : Piece → List Segment
  | literal text => text.map .literal
  | braced name | bare name => [.reference name]
  | dollar => [.dollar]

/-- A name in braces is read up to its closing brace, or to the end of the text without one. -/
theorem splitsAtBrace {name : List Char} (closed : '\x7d' ∉ name) {rest : List Char}
    (ends : ∀ c ∈ rest.head?, c = '\x7d') :
    (name ++ rest).takeWhile (fun c => decide (c ≠ '\x7d')) = name ∧
      (name ++ rest).dropWhile (fun c => decide (c ≠ '\x7d')) = rest := by
  apply Text.takeWhile_append
  · intro c member
    refine decide_eq_true fun same => ?_
    subst same
    exact closed member
  · intro c first
    exact decide_eq_false fun other => other (ends c first)

/-- A text that does not begin with a character is none that does. -/
theorem ne_cons_of_head? {rest : List Char} {c : Char} (ends : ∀ d ∈ rest.head?, d ≠ c)
    (more : List Char) (same : rest = c :: more) : False := by
  subst same
  exact ends c rfl rfl

/-- Text without dollars is cut into its characters. -/
theorem segments_literal {text : List Char} (plain : '$' ∉ text) (rest : List Char) :
    segments (text ++ rest) = text.map .literal ++ segments rest := by
  induction text with
  | nil => rfl
  | cons c text ih =>
      have other : c ≠ '$' := fun same => plain (same ▸ List.mem_cons_self)
      have later : '$' ∉ text := fun member => plain (List.mem_cons_of_mem _ member)
      rw [List.cons_append, segments.eq_4 c _ (fun _ same => absurd same other) other, ih later]
      rfl

/-- A reference that is never closed is taken up to the end of the text. -/
theorem segments_openReference {name : List Char} (closed : '\x7d' ∉ name) :
    segments (openReference name) = [.reference name] := by
  have absent : ∀ c ∈ ([] : List Char).head?, c = '\x7d' := by
    intro c first
    cases first
  obtain ⟨run, left⟩ := splitsAtBrace closed absent
  rw [List.append_nil] at run left
  rw [openReference, segments.eq_2, run, left, List.drop_nil, segments.eq_1]

/-- A reference between braces is cut out with its name. -/
theorem segments_braced {name : List Char} (closed : '\x7d' ∉ name) (rest : List Char) :
    segments (openReference name ++ '\x7d' :: rest) = .reference name :: segments rest := by
  have brace : ∀ c ∈ ('\x7d' :: rest).head?, c = '\x7d' := by
    intro c first
    cases first
    rfl
  obtain ⟨run, left⟩ := splitsAtBrace closed brace
  rw [openReference, List.cons_append, List.cons_append, segments.eq_2, run, left]
  rfl

/-- **One piece.** A piece is found again in front of a text that does not continue it. -/
theorem segments_piece {piece : Piece} {rest : List Char} (fits : piece.Fits rest) :
    segments (piece.chars ++ rest) = piece.segments ++ segments rest := by
  cases piece with
  | literal text => exact segments_literal fits rest
  | braced name =>
      rw [Piece.chars, List.append_assoc]
      exact segments_braced fits rest
  | bare name =>
      obtain ⟨named, all, ends⟩ := fits
      obtain ⟨run, left⟩ := Text.takeWhile_append all ends
      have brace : ∀ d ∈ (name ++ rest).head?, d ≠ '\x7b' := by
        intro d first same
        subst same
        cases name with
        | nil => exact named rfl
        | cons c name =>
            cases first
            exact absurd (all _ List.mem_cons_self) (by decide)
      rw [Piece.chars, List.cons_append, segments.eq_3 _ (ne_cons_of_head? brace), run, left,
        if_neg (by simpa using named)]
      rfl
  | dollar =>
      have brace : ∀ d ∈ rest.head?, d ≠ '\x7b' := fun d first => (fits d first).1
      have noName : ([] ++ rest).takeWhile isNameChar = [] :=
        (Text.takeWhile_append (fun c member => absurd member List.not_mem_nil)
          fun d first => (fits d first).2).1
      rw [List.nil_append] at noName
      rw [Piece.chars, List.cons_append, List.nil_append,
        segments.eq_3 _ (ne_cons_of_head? brace), noName]
      rfl

/-- Each of the pieces is found again. -/
theorem segments_charsOf {pieces : List Piece} {rest : List Char} (fit : FitBefore rest pieces) :
    segments (charsOf pieces ++ rest) = pieces.flatMap Piece.segments ++ segments rest := by
  induction pieces with
  | nil => rfl
  | cons piece pieces ih =>
      obtain ⟨fits, later⟩ := fit
      rw [charsOf_cons, List.append_assoc, segments_piece fits, ih later, List.flatMap_cons,
        List.append_assoc]

section Values

variable (environment : Environment)

/-- Segments after each other have the values of both, or the first failure. -/
theorem valueOf_append (first second : List Segment) :
    valueOf environment (first ++ second) = (do
      let front ← valueOf environment first
      let back ← valueOf environment second
      .ok (front ++ back)) := by
  induction first with
  | nil =>
      rw [List.nil_append]
      cases valueOf environment second <;> rfl
  | cons segment first ih =>
      rw [List.cons_append, valueOf, valueOf, ih]
      cases segment.value environment with
      | error name => rfl
      | ok value =>
          cases valueOf environment first with
          | error name => rfl
          | ok front =>
              cases valueOf environment second with
              | error name => rfl
              | ok back => exact congrArg Except.ok (List.append_assoc value front back).symm

/-- Characters stand for themselves. -/
theorem valueOf_literals (text : List Char) :
    valueOf environment (text.map .literal) = .ok text := by
  induction text with
  | nil => rfl
  | cons c text ih =>
      rw [List.map_cons, valueOf, ih]
      rfl

/-- A piece stands for its value, unless its variable is not set. -/
theorem valueOf_piece (piece : Piece) :
    valueOf environment piece.segments = resultOf environment [piece] := by
  cases piece with
  | literal text =>
      rw [Piece.segments, valueOf_literals]
      exact congrArg Except.ok (List.append_nil text).symm
  | dollar => rfl
  | braced name | bare name =>
      cases set : environment (String.ofList name) with
      | none =>
          simp only [Piece.segments, valueOf, Segment.value, set, resultOf, firstUnset?,
            Piece.name?, List.filterMap_cons, List.filterMap_nil, List.find?_cons,
            Option.isNone_none]
          rfl
      | some value =>
          simp only [Piece.segments, valueOf, Segment.value, set, resultOf, firstUnset?,
            Piece.name?, Piece.value, List.filterMap_cons, List.filterMap_nil, List.find?_cons,
            List.find?_nil, Option.isNone_some, List.flatMap_cons, List.flatMap_nil,
            Option.elim_some]
          rfl

/-- Pieces after each other have the values of both, or the first failure. -/
theorem resultOf_cons (piece : Piece) (pieces : List Piece) :
    resultOf environment (piece :: pieces) = (do
      let front ← resultOf environment [piece]
      let back ← resultOf environment pieces
      .ok (front ++ back)) := by
  have unset : firstUnset? environment (piece :: pieces) =
      (firstUnset? environment [piece]).or (firstUnset? environment pieces) := by
    unfold firstUnset?
    rw [← List.find?_append, ← List.filterMap_append]
    rfl
  have values : ([piece].flatMap (Piece.value environment)) = piece.value environment :=
    List.append_nil _
  unfold resultOf
  rw [unset, values, List.flatMap_cons]
  cases firstUnset? environment [piece] with
  | some name => rfl
  | none => cases firstUnset? environment pieces <;> rfl

/-- What is found for the pieces stands for what they stand for. -/
theorem valueOf_segments (pieces : List Piece) :
    valueOf environment (pieces.flatMap Piece.segments) = resultOf environment pieces := by
  induction pieces with
  | nil => rfl
  | cons piece pieces ih =>
      rw [List.flatMap_cons, valueOf_append, valueOf_piece, ih]
      exact (resultOf_cons environment piece pieces).symm

end Values

/-- Only the first character behind a piece decides whether it fits there. -/
theorem Piece.Fits.congr {piece : Piece} {rest other : List Char}
    (same : rest.head? = other.head?) (fits : piece.Fits rest) : piece.Fits other := by
  unfold Piece.Fits at fits ⊢
  rw [← same]
  exact fits

/-- Whether pieces fit in front of a text depends on its first character only. -/
theorem FitBefore.congr {pieces : List Piece} {rest other : List Char}
    (same : rest.head? = other.head?) (fit : FitBefore rest pieces) : FitBefore other pieces := by
  induction pieces with
  | nil => trivial
  | cons piece pieces ih =>
      refine ⟨fit.1.congr ?_, ih fit.2⟩
      rw [List.head?_append, List.head?_append, same]

theorem charsOf_singleton (piece : Piece) : charsOf [piece] = piece.chars :=
  List.append_nil _

/-- Pieces after each other have the characters of both. -/
theorem charsOf_append (front back : List Piece) :
    charsOf (front ++ back) = charsOf front ++ charsOf back :=
  List.flatMap_append

/-- Pieces fit in front of a text if the first ones fit in front of the others. -/
theorem fitBefore_append {front back : List Piece} {rest : List Char}
    (fit : FitBefore (charsOf back ++ rest) front) (behind : FitBefore rest back) :
    FitBefore rest (front ++ back) := by
  induction front with
  | nil => exact behind
  | cons piece front ih =>
      have fits := fit.1
      rw [← List.append_assoc, ← charsOf_append] at fits
      exact ⟨fits, ih fit.2⟩

/-- Whether a text is a row of pieces, perhaps with a reference behind them whose closing brace is
missing. -/
def IsRow (text : List Char) : Prop :=
  ∃ pieces : List Piece, ∃ tail : List Char, text = charsOf pieces ++ tail ∧
    FitBefore tail pieces ∧ (tail = [] ∨ ∃ name, '\x7d' ∉ name ∧ tail = openReference name)

/-- A row of pieces may be continued to the left by a piece that fits. -/
theorem IsRow.cons {piece : Piece} {rest : List Char} (row : IsRow rest)
    (fits : piece.Fits rest) : IsRow (piece.chars ++ rest) := by
  obtain ⟨pieces, tail, rfl, fit, ends⟩ := row
  exact ⟨piece :: pieces, tail, by rw [charsOf_cons, List.append_assoc], ⟨fits, fit⟩, ends⟩

/-- Every text is a row of pieces. -/
theorem isRow (text : List Char) : IsRow text := by
  -- The pieces are cut where the program cuts, so the induction is along its recursion.
  induction text using segments.induct with
  | case1 => exact ⟨[], [], rfl, trivial, Or.inl rfl⟩
  | case2 rest ih =>
      by_cases closed : '\x7d' ∈ rest
      · obtain ⟨name, after, rfl, free⟩ := List.eq_append_cons_of_mem closed
        have brace : ∀ c ∈ ('\x7d' :: after).head?, c = '\x7d' := by
          intro c first
          cases first
          rfl
        rw [(splitsAtBrace free brace).2] at ih
        have fits : (Piece.braced name).Fits after := free
        have row := ih.cons fits
        rw [Piece.chars, List.append_assoc] at row
        exact row
      · exact ⟨[], openReference rest, rfl, trivial, Or.inr ⟨rest, closed, rfl⟩⟩
  | case3 rest noBrace noName ih =>
      have fits : Piece.dollar.Fits rest := by
        intro c first
        cases rest with
        | nil => cases first
        | cons d rest =>
            cases first
            refine ⟨fun same => noBrace rest (by rw [same]), ?_⟩
            cases named : isNameChar c with
            | false => rfl
            | true =>
                rw [List.takeWhile_cons_of_pos named] at noName
                cases noName
      exact ih.cons fits
  | case4 rest noBrace named ih =>
      have fits : (Piece.bare (rest.takeWhile isNameChar)).Fits (rest.dropWhile isNameChar) :=
        ⟨by simpa using named, List.all_eq_true.mp List.all_takeWhile, Text.head?_dropWhile⟩
      have row := ih.cons fits
      rw [Piece.chars, List.cons_append, List.takeWhile_append_dropWhile] at row
      exact row
  | case5 c rest noReference other ih =>
      have fits : (Piece.literal [c]).Fits rest := by
        intro member
        exact other (List.mem_singleton.mp member).symm
      exact ih.cons fits

/-- Pieces that fit in front of a reference that is never closed also fit in front of the closed
one. -/
theorem FitBefore.closed {pieces : List Piece} {name : List Char}
    (fit : FitBefore (openReference name) pieces) :
    FitBefore (openReference name ++ ['\x7d']) pieces := by
  have same : (openReference name).head? = (openReference name ++ ['\x7d']).head? := rfl
  exact fit.congr same

/-- A closing brace behind an open reference makes no difference. -/
theorem segments_closed {pieces : List Piece} {name : List Char}
    (fit : FitBefore (openReference name) pieces) (closed : '\x7d' ∉ name) :
    segments (charsOf pieces ++ openReference name ++ ['\x7d']) =
      segments (charsOf pieces ++ openReference name) := by
  rw [List.append_assoc, segments_charsOf fit.closed, segments_charsOf fit,
    segments_braced closed, segments_openReference closed, segments.eq_1]

/-- The text of pieces that fit stands for what they stand for. -/
theorem expand_textOf (environment : Environment) {pieces : List Piece}
    (fit : FitBefore [] pieces) :
    expand environment (textOf pieces) = (resultOf environment pieces).map String.ofList := by
  have found := segments_charsOf fit
  rw [List.append_nil, segments.eq_1, List.append_nil] at found
  rw [expand, textOf, String.toList_ofList, found, valueOf_segments]

/-- **Expansion follows its grammar.** Where pieces fit behind each other, their text stands for
what they stand for, unless a variable is not set, and the first such one is the failure, also of
the address of the server. Every text is a row of such pieces, but for a closing brace that may be
missing at its end and that makes no difference. -/
theorem expand_pieces (environment : Environment) :
    (∀ pieces : List Piece, FitBefore [] pieces →
      expand environment (textOf pieces) = (resultOf environment pieces).map String.ofList ∧
      ∀ settings : Settings, settings.connection.url = some (textOf pieces) →
        settings.resolvedUrl environment =
          ((resultOf environment pieces).map fun value => some (String.ofList value)).mapError
            .missingVariable) ∧
    ∀ text : String, ∃ pieces : List Piece, FitBefore [] pieces ∧
      (text = textOf pieces ∨
        (∃ front name, pieces = front ++ [.braced name]) ∧ text ++ "\x7d" = textOf pieces ∧
          expand environment text = expand environment (text ++ "\x7d")) := by
  constructor
  · intro pieces fit
    have expanded := expand_textOf environment fit
    refine ⟨expanded, ?_⟩
    intro settings given
    rw [Settings.resolvedUrl, given]
    simp only [expanded]
    cases resultOf environment pieces <;> rfl
  · intro text
    obtain ⟨pieces, tail, split, fit, rfl | ⟨name, closed, rfl⟩⟩ := isRow text.toList
    · rw [List.append_nil] at split
      have written : text = textOf pieces := by
        rw [textOf, ← split, String.ofList_toList]
      exact ⟨pieces, fit, Or.inl written⟩
    · have fitClosed : FitBefore [] (pieces ++ [.braced name]) := by
        refine fitBefore_append ?_ ⟨closed, trivial⟩
        rw [charsOf_singleton, List.append_nil]
        exact fit.closed
      have chars : text.toList ++ ['\x7d'] = charsOf (pieces ++ [.braced name]) := by
        rw [split, charsOf_append, charsOf_singleton, List.append_assoc]
        rfl
      have written : text ++ "\x7d" = textOf (pieces ++ [.braced name]) := by
        rw [textOf, ← chars, String.ofList_append, String.ofList_toList]
      refine ⟨pieces ++ [.braced name], fitClosed, Or.inr ⟨⟨pieces, name, rfl⟩, written, ?_⟩⟩
      have same := segments_closed fit closed
      rw [← split] at same
      rw [expand, expand, String.toList_append, ← same]
      rfl

/-- An address with a reference of each kind side by side, and a dollar sign at its end. -/
def serverAddress : List Piece :=
  [ .literal "mysql://".toList, .bare "USER".toList, .literal ":".toList,
    .braced "PASSWORD".toList, .bare "HOST".toList, .literal ":3306/".toList, .dollar ]

/-- Variables of a server. The password has a dollar of its own. -/
def serverEnvironment : Environment := fun name =>
  if name = "USER" then some "app"
  else if name = "PASSWORD" then some "$HOST@"
  else if name = "HOST" then some "db"
  else none

theorem expand_pieces_serverAddress :
    FitBefore [] serverAddress ∧
      expand serverEnvironment "mysql://$USER:$\x7bPASSWORD\x7d$HOST:3306/$" =
        .ok "mysql://app:$HOST@db:3306/$" := by
  have fit : FitBefore [] serverAddress := by decide
  exact ⟨fit, ((expand_pieces serverEnvironment).1 serverAddress fit).1⟩

end DataAccess.Settings
