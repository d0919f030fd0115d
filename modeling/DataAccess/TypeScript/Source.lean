import DataAccess.Code.RecordClass
import DataAccess.Layout.Outline
import DataAccess.TypeScript.Expression

/-!
# Source files

The outline of the file that holds a generated class: a header, the import of the runtime symbols,
and the class, in a namespace where it has one. Two properties without comments stand on
neighbouring lines; all other members have a blank line between them.
-/

namespace DataAccess.TypeScript

open Code Layout

/-- How source files are written. -/
structure Printing where
  /-- The module that the runtime symbols come from. -/
  runtimeModule : String := "./connection"
  indent : Indent := .default
  deriving DecidableEq

/-- The line that opens a block. -/
def opening (head : String) : String :=
  head ++ " \x7b"

/-- The type of a result, which asynchronous methods promise. -/
def promised (isAsync : Bool) (type : String) : String :=
  if isAsync then "Promise<" ++ type ++ ">" else type

/-- A tag of a comment block with a type between braces. -/
def docTag (tag type : String) : String :=
  "@" ++ tag ++ " \x7b" ++ type ++ "\x7d"

/-- The lines inside the comment block of a member. -/
def docContents (isAsync : Bool) (doc : Doc) : List String :=
  let description := match doc.description with
    | some text => [text, ""]
    | none => []
  let params := doc.params.map fun (name, type) =>
    docTag "param" (typeName type) ++ " " ++ binding name
  let returns := match doc.returns with
    | some type => [docTag "returns" (promised isAsync (typeName type))]
    | none => []
  description ++ params ++ returns

/-- The comment of a member: one line where there is only a description. -/
def docOutline (isAsync : Bool) (doc : Option Doc) : List Outline :=
  match doc with
  | none => []
  | some doc =>
    if doc.params.isEmpty && doc.returns.isNone then
      match doc.description with
      | some text => [.line ("/** " ++ text ++ " */")]
      | none => []
    else Outline.ofLines (docLines (docContents isAsync doc))

/-- The line that declares a property. -/
def propertyLine (property : Property) : String :=
  if property.isPrivate then "private " ++ property.name ++ ": " ++ typeName property.type ++ ";"
  else property.name ++ "!: " ++ typeName property.type ++ ";"

/-- A parameter with its type and its default. -/
def paramText (className : String) (param : Parameter) : String :=
  let declared := binding param.name ++ ": " ++ typeName param.type
  match param.default with
  | some default => declared ++ " = " ++ exprText className default
  | none => declared

/-- The type of what a method gives, as its head states it; a constructor states nothing. -/
def returnsText (method : Method) : String :=
  if method.kind = .constructor then ""
  else
    ": " ++ promised method.isAsync (match method.returns with
      | some type => typeName type
      | none => "void")

/-- The head of a method, up to the brace. -/
def methodHead (className : String) (method : Method) : String :=
  (if method.isPrivate then "private " else "") ++
    (if method.kind = .static then "static " else "") ++
    (if method.isAsync then "async " else "") ++
    method.name ++ "(" ++ Text.joinWith ", " (method.params.map (paramText className)) ++ ")" ++
    returnsText method

/-- One entry of an object literal on a line of its own. -/
def entryLine (className : String) (entry : String × Expr) : String :=
  textOf (entryLexemes className entry) ++ ","

/-- A statement that ends in a value. An object literal with entries is spread over lines. -/
def valueOutline (className lead : String) : Expr → Outline
  | .map (entry :: entries) =>
    .block (lead ++ "\x7b") (Outline.ofLines ((entry :: entries).map (entryLine className)))
      "\x7d;"
  | value => .line (lead ++ exprText className value ++ ";")

/-- What stands in front of the value of a declaration. -/
def declarationLead (name : String) (mutable : Bool) (type : Option Ty) : String :=
  let annotation := match type with
    | some type => ": " ++ typeName type
    | none => ""
  (if mutable then "let " else "const ") ++ binding name ++ annotation ++ " = "

mutual

/-- The lines of a statement. -/
def stmtOutline (className : String) : Stmt → Outline
  | .declare name mutable type value =>
    valueOutline className (declarationLead name mutable type) value
  | .assign target value => valueOutline className (exprText className target ++ " = ") value
  | .append name text => .line (binding name ++ " += " ++ stringLiteral text ++ ";")
  | .push list value =>
    .line (binding list ++ ".push(" ++ exprText className value ++ ");")
  | .when condition body =>
    .block (opening ("if (" ++ exprText className condition ++ ")"))
      (bodyOutline className body) "\x7d"
  | .result value => valueOutline className "return " value
  | .run value => .line (exprText className value ++ ";")

/-- The lines of statements. -/
def bodyOutline (className : String) : List Stmt → List Outline
  | [] => []
  | statement :: rest => stmtOutline className statement :: bodyOutline className rest

end

/-- The comment and the lines of a member. -/
def memberOutline (className : String) : Member → List Outline
  | .property property => docOutline false property.doc ++ [.line (propertyLine property)]
  | .method method =>
    docOutline method.isAsync method.doc ++
      [ .block (opening (methodHead className method)) (bodyOutline className method.body)
          "\x7d" ]

/-- Whether two neighbours stand on neighbouring lines. -/
def isCompact : Member → Member → Bool
  | .property first, .property second => first.doc.isNone && second.doc.isNone
  | _, _ => false

/-- The outlines of members, with blank lines between them. -/
def membersOutline (className : String) : List Member → List Outline
  | [] => []
  | [only] => memberOutline className only
  | first :: next :: rest =>
    memberOutline className first ++ (if isCompact first next then [] else [.blank]) ++
      membersOutline className (next :: rest)

/-- The lines of a class. -/
def classOutline (recordClass : RecordClass) : Outline :=
  .block (opening ("export class " ++ recordClass.name))
    (membersOutline recordClass.name recordClass.members) "\x7d"

/-- The first line of a file, which says where it comes from. -/
def header (recordClass : RecordClass) : String :=
  lineComment ("Generated by dalgen from " ++ recordClass.sourceTable ++ ". Do not edit.")

/-- The import of the runtime symbols; nothing where a class needs none. -/
def importOutline (runtimeModule : String) (imports : List String) : List Outline :=
  if imports.isEmpty then []
  else
    [ .line ("import \x7b " ++ Text.joinWith ", " imports ++ " \x7d from " ++
        stringLiteral runtimeModule ++ ";"),
      .blank ]

/-- The lines of a file. -/
def fileOutline (runtimeModule : String) (recordClass : RecordClass) : List Outline :=
  let body := classOutline recordClass
  let inNamespace :=
    if recordClass.namespaceName.isEmpty then body
    else .block (opening ("export namespace " ++ recordClass.namespaceName)) [body] "\x7d"
  [.line (header recordClass), .blank] ++ importOutline runtimeModule recordClass.imports ++
    [inNamespace]

/-- The text of the file of a class. -/
def source (printing : Printing) (recordClass : RecordClass) : String :=
  Outline.text printing.indent (fileOutline printing.runtimeModule recordClass)

/-- The name of the file of a class. -/
def fileName (recordClass : RecordClass) : String :=
  recordClass.name ++ ".ts"

end DataAccess.TypeScript
