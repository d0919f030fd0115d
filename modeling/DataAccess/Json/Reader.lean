import DataAccess.Json.Lexer

/-!
# Reading JSON

A machine over tokens whose stack holds the arrays and objects that are open, so that documents may
be nested to any depth. Together with the machine for tokens it reads a text from left to right,
and it accepts exactly the documents of the standard: nothing after the document, no comma before a
closing bracket, no bare words.
-/

namespace DataAccess.Json

/-- A container that is open. Items and entries are kept with the last one first. -/
inductive Frame where
  | array (items : List Json)
  /-- An object, with the key whose value is being read. -/
  | object (entries : List (Option String × Json)) (key : Option String)

/-- What may come next. -/
inductive Expected where
  | value
  /-- The first item of an array, or its end. -/
  | itemOrEnd
  /-- A comma or the end of the innermost container. -/
  | commaOrEnd
  /-- The first key of an object, or its end. -/
  | keyOrEnd
  | key
  | colon
  /-- Nothing: the document is complete. -/
  | nothing

/-- Where the machine stands. -/
structure ReadState where
  stack : List Frame := []
  expected : Expected := .value
  /-- The document, once it is complete. -/
  document : Json := .null

namespace ReadState

/-- The reader behind a complete value. -/
def complete (value : Json) : List Frame → ReadState
  | [] => { stack := [], expected := .nothing, document := value }
  | .array items :: outer => { stack := .array (value :: items) :: outer, expected := .commaOrEnd }
  | .object entries key :: outer =>
    { stack := .object ((key, value) :: entries) none :: outer, expected := .commaOrEnd }

/-- The reader behind a token that begins a value. -/
def startValue (stack : List Frame) : Token → Option ReadState
  | .scalar value => some (complete value stack)
  | .openBracket => some { stack := .array [] :: stack, expected := .itemOrEnd }
  | .openBrace => some { stack := .object [] none :: stack, expected := .keyOrEnd }
  | _ => none

/-- Takes a token where the innermost container may end. -/
def closeContainer : List Frame → Token → Option ReadState
  | .array items :: outer, .closeBracket => some (complete (.array items.reverse) outer)
  | .object entries _ :: outer, .closeBrace => some (complete (.object entries.reverse) outer)
  | _, _ => none

/-- The reader behind the key of an entry. -/
def startEntry : List Frame → Token → Option ReadState
  | .object entries _ :: outer, .scalar (.string key) =>
    some { stack := .object entries key :: outer, expected := .colon }
  | _, _ => none

/-- The reader behind one more token, unless the token cannot stand there. -/
def step (state : ReadState) (token : Token) : Option ReadState :=
  match state.expected, token with
  | .value, token => startValue state.stack token
  | .itemOrEnd, .closeBracket => closeContainer state.stack .closeBracket
  | .itemOrEnd, token => startValue state.stack token
  | .commaOrEnd, .comma =>
    match state.stack with
    | .array _ :: _ => some { state with expected := .value }
    | .object _ _ :: _ => some { state with expected := .key }
    | [] => none
  | .commaOrEnd, token => closeContainer state.stack token
  | .keyOrEnd, .closeBrace => closeContainer state.stack .closeBrace
  | .keyOrEnd, token => startEntry state.stack token
  | .key, token => startEntry state.stack token
  | .colon, .colon => some { state with expected := .value }
  | .colon, _ => none
  | .nothing, _ => none

/-- The reader behind tokens. -/
def steps : ReadState → List Token → Option ReadState
  | state, [] => some state
  | state, token :: rest => (state.step token).bind fun next => steps next rest

/-- The document, if it is complete. -/
def document? (state : ReadState) : Option Json :=
  match state.expected with
  | .nothing => some state.document
  | _ => none

end ReadState

/-- Reads the rest of a text from where the two machines stand. -/
def readFrom : LexState → ReadState → List Char → Option Json
  | lexing, reading, [] =>
    (lexing.pending?.bind reading.steps).bind ReadState.document?
  | lexing, reading, c :: rest =>
    match lexing.step c with
    | none => none
    | some (lexing, tokens) =>
      match reading.steps tokens with
      | none => none
      | some reading => readFrom lexing reading rest

/-- The document of a text, if the text is one. -/
def read? (text : String) : Option Json :=
  readFrom .idle {} text.toList

end DataAccess.Json
