/-!
# Names of parameters and variables

The words that cannot name a parameter or a variable, and what stands for them.
-/

namespace DataAccess.TypeScript

/-- The words that cannot name a parameter or a variable in strict code. -/
def reservedWords : List String :=
  [ "arguments", "await", "break", "case", "catch", "class", "const", "continue", "debugger",
    "default", "delete", "do", "else", "enum", "eval", "export", "extends", "false", "finally",
    "for", "function", "if", "implements", "import", "in", "instanceof", "interface", "let",
    "new", "null", "package", "private", "protected", "public", "return", "static", "super",
    "switch", "this", "throw", "true", "try", "typeof", "var", "void", "while", "with", "yield" ]

/-- The name of a parameter or variable, with an underscore after a reserved word. -/
def binding (name : String) : String :=
  if reservedWords.contains name then name ++ "_" else name

/-- The characters that a plain identifier starts with. -/
def isIdentifierStart (c : Char) : Bool :=
  c.isAlpha || c == '_' || c == '$'

/-- The characters that a plain identifier goes on with. -/
def isIdentifierPart (c : Char) : Bool :=
  c.isAlphanum || c == '_' || c == '$'

/-- Whether a key may stand without quotes. -/
def isPlainKey (key : String) : Bool :=
  match key.toList with
  | [] => false
  | c :: rest => isIdentifierStart c && rest.all isIdentifierPart

end DataAccess.TypeScript
