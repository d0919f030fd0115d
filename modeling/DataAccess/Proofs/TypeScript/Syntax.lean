import DataAccess.TypeScript.Expression

/-!
# Syntax trees of TypeScript

The types and expressions that printed code is about, as a reader of the language sees them:
operators and calls, no spaces and no parentheses. Each expression of generated code stands for one
of them (`nodeOf`).
-/

namespace DataAccess.TypeScript

open Code

/-- A type. -/
inductive TypeNode where
  | named (name : String) (arguments : List TypeNode)
  | null
  | array (item : TypeNode)
  | union (left right : TypeNode)

/-- An expression. -/
inductive Node where
  | identifier (name : String)
  | this
  | text (value : String)
  | number (value : Nat)
  | boolean (value : Bool)
  | null
  | array (items : List Node)
  | object (entries : List (String × Node))
  | member (target : Node) (name : String)
  | element (target key : Node)
  | call (callee : Node) (arguments : List Node)
  | new (className : String) (arguments : List Node)
  | await (value : Node)
  | negate (value : Node)
  | binary (operator : Symbol) (left right : Node)
  | conditional (condition whenTrue whenFalse : Node)
  | asType (value : Node) (type : TypeNode)
  | arrow (param : String) (paramType resultType : TypeNode) (body : Node)

def typeNodeOf : Ty → TypeNode
  | .int | .float => .named "number" []
  | .bool => .named "boolean" []
  | .dateTime => .named "Date" []
  | .text => .named "string" []
  | .nullable inner => .union (typeNodeOf inner) .null
  | .list item => .array (typeNodeOf item)
  | .object className => .named className []
  | .row => .named "Row" []
  | .map => .named "Record" [.named "string" [], .named "unknown" []]
  | .connection => .named "Connection" []
  | .unknown => .named "unknown" []

/-- An integer; the language has no negative literals. -/
def integerNode (value : Int) : Node :=
  if value < 0 then .negate (.number value.natAbs) else .number value.natAbs

/-- A value read as a value of a type, null aside. -/
def castNode (type : Ty) (value : Node) : Node :=
  let target := match type with
    | .nullable inner => inner
    | other => other
  match target with
  | .int | .float => .call (.identifier "Number") [value]
  | .bool => .call (.identifier "Boolean") [value]
  | .text => .call (.identifier "String") [value]
  | other => .asType value (typeNodeOf other)

mutual

/-- What an expression in the class of the name stands for. -/
def nodeOf (className : String) : Expr → Node
  | .var name => .identifier (binding name)
  | .this => .this
  | .field target name => .member (nodeOf className target) name
  | .index target key => .element (nodeOf className target) (.text key)
  | .text value => .text value
  | .int value => integerNode value.toInt
  | .bool value => .boolean value
  | .null => .null
  | .list items => .array (nodesOf className items)
  | .map entries => .object (entryNodesOf className entries)
  | .greater left right => .binary .greater (nodeOf className left) (nodeOf className right)
  | .equal left right => .binary .equal (nodeOf className left) (nodeOf className right)
  | .ternary condition whenTrue whenFalse =>
    .conditional (nodeOf className condition) (nodeOf className whenTrue)
      (nodeOf className whenFalse)
  | .isNull value => .binary .looselyEqual (nodeOf className value) .null
  | .isEmpty value => .binary .equal (.member (nodeOf className value) "length") (.number 0)
  | .first value => .element (nodeOf className value) (.number 0)
  | .cast value type => castNode type (nodeOf className value)
  | .await value => .await (nodeOf className value)
  | .call target method args =>
    .call (.member (nodeOf className target) method) (nodesOf className args)
  | .selfCall method args =>
    .call (.member (.identifier className) method) (nodesOf className args)
  | .new created args => .new created (nodesOf className args)
  | .mapRows source param itemType body =>
    .call (.member (nodeOf className source) "map")
      [.arrow (binding param) (.named "Row" []) (typeNodeOf itemType) (nodeOf className body)]
  | .parseTimestamp value => .call (.identifier "parseTimestamp") [nodeOf className value]
  | .formatTimestamp value .sql => .call (.identifier "formatTimestamp") [nodeOf className value]
  | .formatTimestamp value .iso => .call (.member (nodeOf className value) "toISOString") []

def nodesOf (className : String) : List Expr → List Node
  | [] => []
  | expr :: rest => nodeOf className expr :: nodesOf className rest

def entryNodeOf (className : String) : String × Expr → String × Node
  | (key, value) => (key, nodeOf className value)

def entryNodesOf (className : String) : List (String × Expr) → List (String × Node)
  | [] => []
  | entry :: rest => entryNodeOf className entry :: entryNodesOf className rest

end

end DataAccess.TypeScript
