import DataAccess.Naming.CaseStyle

/-!
# Naming conventions

How names of the catalog become identifiers of generated code: every character that an identifier
cannot hold is replaced, and the result is written in the style configured for its kind.
-/

namespace DataAccess.Naming

/-- Characters of identifiers: ASCII letters, digits and the underscore. -/
def isIdentifierChar (c : Char) : Bool :=
  c.isAlphanum || c == '_'

/-- The name with every other character replaced by an underscore, and one more in front of a digit
at the start. -/
def sanitizeChars (name : List Char) : List Char :=
  let replaced := name.map fun c => if isIdentifierChar c then c else '_'
  match replaced with
  | [] => []
  | c :: rest => if c.isDigit then '_' :: c :: rest else c :: rest

/-- The name as an identifier without a change of case. -/
def sanitize (name : String) : String :=
  String.ofList (sanitizeChars name.toList)

/-- The name as an identifier in the style. Where the style leaves nothing, the identifier stays
as it was. -/
def identifier (style : Option CaseStyle) (name : String) : String :=
  let plain := sanitize name
  match style with
  | none => plain
  | some style =>
    let converted := style.apply plain
    if converted.isEmpty then plain else converted

/-- The style of each kind of identifier; a kind without one is only sanitized. -/
structure Convention where
  namespaces : Option CaseStyle := none
  classes : Option CaseStyle := none
  methods : Option CaseStyle := none
  properties : Option CaseStyle := none
  deriving DecidableEq

namespace Convention

/-- The name of the namespace of a schema. -/
def namespaceName (convention : Convention) (schema : String) : String :=
  identifier convention.namespaces schema

/-- The name of the class of a table. -/
def className (convention : Convention) (table : String) : String :=
  identifier convention.classes table

/-- The name of the property of a column, if nothing has it yet. -/
def propertyName (convention : Convention) (column : String) : String :=
  identifier convention.properties column

/-- The name of a method. -/
def methodName (convention : Convention) (name : String) : String :=
  identifier convention.methods name

/-- The name of the accessor over a key, from the property names of its columns: `getByA`,
`getByAAndB` and so on, in the style of methods. -/
def keyMethodName (convention : Convention) (properties : List String) : String :=
  convention.methodName
    (CaseStyle.lowerCamel.apply ("get by " ++ Text.joinWith " and " properties))

end Convention

theorem sanitizeChars_of_identifier {name : List Char} (chars : name.all isIdentifierChar = true)
    (start : ∀ c ∈ name.head?, c.isDigit = false) : sanitizeChars name = name := by
  have kept : name.map (fun c => if isIdentifierChar c then c else '_') = name.map id :=
    List.map_congr_left fun c member => by simp [List.all_eq_true.mp chars c member]
  rw [List.map_id] at kept
  unfold sanitizeChars
  rw [kept]
  cases name with
  | nil => rfl
  | cons c rest => simp [start c (by simp)]

end DataAccess.Naming
