import DataAccess.Code.Expr

/-!
# Generated classes

A class that gives access to the records of one table: properties and methods, in order. Static
members and members of objects are named independently of each other, and a name that is taken
stays with the member that took it first.
-/

namespace DataAccess.Code

/-- A comment on a member. -/
structure Doc where
  description : Option String := none
  params : List (String × Ty) := []
  returns : Option Ty := none

/-- Whether a comment says nothing. -/
def Doc.isEmpty (doc : Doc) : Bool :=
  doc.description.isNone && doc.params.isEmpty && doc.returns.isNone

/-- A property of the objects of a class. -/
structure Property where
  name : String
  isPrivate : Bool := false
  type : Ty
  doc : Option Doc := none

/-- What a method is called on. -/
inductive MethodKind where
  | static
  | ofObject
  | constructor
  deriving DecidableEq

/-- A parameter, with the value that stands in for a missing argument. -/
structure Parameter where
  name : String
  type : Ty
  default : Option Expr := none

/-- A method, with all that is printed of it. -/
structure Method where
  name : String
  kind : MethodKind
  isPrivate : Bool := false
  /-- Whether the body waits for a connection. -/
  isAsync : Bool := false
  params : List Parameter := []
  returns : Option Ty := none
  doc : Option Doc := none
  body : List Stmt := []

/-- What constructors are called. -/
def constructorName : String := "constructor"

/-- A member of a class. -/
inductive Member where
  | property (item : Property)
  | method (item : Method)

/-- Where a member is found: on the class or on its objects. -/
inductive Scope where
  | static
  | ofObject
  deriving DecidableEq

namespace Member

/-- The name of a member. -/
def name : Member → String
  | property item => item.name
  | method item => item.name

/-- The scope of a member: only static methods are found on the class. -/
def scope : Member → Scope
  | property _ => .ofObject
  | method item => if item.kind = .static then .static else .ofObject

/-- The property that a member is. -/
def property? : Member → Option Property
  | property item => some item
  | method _ => none

/-- The method that a member is. -/
def method? : Member → Option Method
  | method item => some item
  | property _ => none

end Member

/-- A generated class. -/
structure RecordClass where
  /-- The namespace around the class; empty where there is none. -/
  namespaceName : String
  name : String
  /-- The table that the class gives access to, with its schema. -/
  sourceTable : String
  /-- The runtime symbols that the class refers to. -/
  imports : List String := []
  members : List Member := []

namespace RecordClass

/-- Whether a class has a member of the name in a scope. -/
def hasMember (recordClass : RecordClass) (scope : Scope) (name : String) : Bool :=
  recordClass.members.any fun member => member.scope = scope && member.name == name

/-- Whether the name of a member is free in its scope. -/
def accepts (recordClass : RecordClass) (member : Member) : Bool :=
  !recordClass.hasMember member.scope member.name

/-- The class with one more member, unless its name is taken. -/
def push (recordClass : RecordClass) (member : Member) : RecordClass :=
  if recordClass.accepts member then
    { recordClass with members := recordClass.members ++ [member] }
  else recordClass

/-- The class with more members, each unless its name is taken. -/
def pushAll (recordClass : RecordClass) (members : List Member) : RecordClass :=
  members.foldl push recordClass

/-- The class with one more import, unless it is there. -/
def addImport (recordClass : RecordClass) (symbol : String) : RecordClass :=
  if recordClass.imports.contains symbol then recordClass
  else { recordClass with imports := recordClass.imports ++ [symbol] }

/-- The properties of a class, in order. -/
def properties (recordClass : RecordClass) : List Property :=
  recordClass.members.filterMap Member.property?

/-- The methods of a class, in order. -/
def methods (recordClass : RecordClass) : List Method :=
  recordClass.members.filterMap Member.method?

/-- The property of the name. -/
def property? (recordClass : RecordClass) (name : String) : Option Property :=
  recordClass.properties.find? (·.name == name)

/-- The first method with the name, in whichever scope. -/
def method? (recordClass : RecordClass) (name : String) : Option Method :=
  recordClass.methods.find? (·.name == name)

/-- The constructor of a class. -/
def constructor? (recordClass : RecordClass) : Option Method :=
  recordClass.methods.find? (·.kind = .constructor)

/-- The names of the members, in order. -/
def memberNames (recordClass : RecordClass) : List String :=
  recordClass.members.map Member.name

/-- A member that is accepted comes last. -/
theorem push_of_accepts {recordClass : RecordClass} {member : Member}
    (free : recordClass.accepts member = true) :
    (recordClass.push member).members = recordClass.members ++ [member] := by
  simp [push, free]

/-- A member that is not accepted is left out. -/
theorem push_of_not_accepts {recordClass : RecordClass} {member : Member}
    (taken : recordClass.accepts member = false) : recordClass.push member = recordClass := by
  simp [push, taken]

end RecordClass

end DataAccess.Code
