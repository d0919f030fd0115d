import DataAccess.Members.Fetchers
import DataAccess.Members.Mutators
import DataAccess.Members.Records

/-!
# Assembly of classes

The parts of a class in the order in which they are put together. A member whose name is taken in
its scope by then is left out, so that of an index and a foreign key over the same columns only the
first gives a fetcher.
-/

namespace DataAccess.Members

open Code Schema

/-- A part of a class. -/
inductive Part where
  | properties
  | constructor
  | all
  | count
  | primaryKey
  | uniqueKeys
  | nonUniqueKeys
  | foreignKeys
  | add
  | delete
  | update
  | fromRecord
  | serialize
  deriving DecidableEq

namespace Part

/-- All parts, in order. -/
def order : List Part :=
  [ properties, constructor, all, count, primaryKey, uniqueKeys, nonUniqueKeys, foreignKeys, add,
    delete, update, fromRecord, serialize ]

/-- What a part is called. -/
def name : Part → String
  | properties => "properties"
  | constructor => "constructor"
  | all => "all"
  | count => "count"
  | primaryKey => "primary key"
  | uniqueKeys => "unique keys"
  | nonUniqueKeys => "non-unique keys"
  | foreignKeys => "foreign keys"
  | add => "add"
  | delete => "delete"
  | update => "update"
  | fromRecord => "from record"
  | serialize => "serialize"

/-- The part of a name. -/
def ofName? (text : String) : Option Part :=
  order.find? (·.name == text)

/-- The members that a part makes. -/
def members (plan : Plan) : Part → List Member
  | properties => plan.columnProperties.map .property
  | constructor => plan.connectionMembers
  | all => [.method plan.allFetcher]
  | count => plan.countFetchers.map .method
  | primaryKey => plan.primaryKeyFetchers.map .method
  | uniqueKeys => plan.uniqueKeyFetchers.map .method
  | nonUniqueKeys => plan.nonUniqueKeyFetchers.map .method
  | foreignKeys => plan.foreignKeyFetchers.map .method
  | add => plan.addMutators.map .method
  | delete => plan.deleteMutators.map .method
  | update => plan.updateMutators.map .method
  | fromRecord => [.method plan.fromRecord]
  | serialize => [.method plan.serialize]

/-- Whether the switches of a class leave a part in. -/
def enabled (mutators : Mutators) : Part → Bool
  | add => mutators.add
  | update => mutators.update
  | delete => mutators.delete
  | _ => true

/-- Each part has its place in the order. -/
theorem mem_order (part : Part) : part ∈ order := by
  cases part <;> decide

end Part

/-- The members of all enabled parts, in order. -/
def Plan.offered (plan : Plan) (mutators : Mutators) : List Member :=
  (Part.order.filter (Part.enabled mutators)).flatMap (Part.members plan)

/-- A symbol that the runtime module provides. -/
inductive RuntimeSymbol where
  | connection
  | row
  | parseTimestamp
  | formatTimestamp
  deriving DecidableEq

namespace RuntimeSymbol

/-- All symbols, in the order of an import. -/
def all : List RuntimeSymbol :=
  [connection, row, parseTimestamp, formatTimestamp]

/-- The name that a symbol is imported under. -/
def name : RuntimeSymbol → String
  | connection => "Connection"
  | row => "Row"
  | parseTimestamp => "parseTimestamp"
  | formatTimestamp => "formatTimestamp"

end RuntimeSymbol

/-- The types that a member states for its property or parameters. -/
def memberTypes : Member → List Ty
  | .property property => [property.type]
  | .method method => method.params.map (·.type)

/-- Whether a type is mentioned by a property or a parameter. -/
def anyMentions (other : Ty) (recordClass : RecordClass) : Bool :=
  (recordClass.members.flatMap memberTypes).any (Ty.mentions other)

/-- Whether an expression in a method body is of the kind. -/
def anyInBodies (isOfKind : Expr → Bool) (recordClass : RecordClass) : Bool :=
  recordClass.methods.any fun method => (Stmt.partsOfAll method.body).any isOfKind

/-- Whether an expression makes a list of rows. -/
def isMapRows : Expr → Bool
  | .mapRows _ _ _ _ => true
  | _ => false

/-- Whether an expression reads a moment. -/
def isParseTimestamp : Expr → Bool
  | .parseTimestamp _ => true
  | _ => false

/-- Whether an expression writes a moment for statements. -/
def isFormatForSql : Expr → Bool
  | .formatTimestamp _ .sql => true
  | _ => false

/-- Whether a symbol is found in the places that are searched for it. -/
def RuntimeSymbol.isUsed (recordClass : RecordClass) : RuntimeSymbol → Bool
  | connection => anyMentions .connection recordClass
  | row => anyMentions .row recordClass || anyInBodies isMapRows recordClass
  | parseTimestamp => anyInBodies isParseTimestamp recordClass
  | formatTimestamp => anyInBodies isFormatForSql recordClass

/-- The names of the runtime symbols that a class refers to. -/
def runtimeImports (recordClass : RecordClass) : List String :=
  (RuntimeSymbol.all.filter (RuntimeSymbol.isUsed recordClass)).map RuntimeSymbol.name

/-- What classes of a run are assembled with. -/
structure Assembler where
  options : Options := {}
  naming : Naming.Convention := {}
  deriving DecidableEq

namespace Assembler

/-- The name of the class: the chosen one, or the converted name of the table. -/
def className (assembler : Assembler) (table : Table) (target : ClassTarget) : String :=
  target.className.getD (assembler.naming.className table.name)

/-- The name of the namespace: the chosen one, or the converted name of the schema. -/
def namespaceName (assembler : Assembler) (table : Table) (target : ClassTarget) : String :=
  target.namespaceName.getD (assembler.naming.namespaceName table.schema)

/-- What the members of the class of a table are made from. -/
def plan (assembler : Assembler) (table : Table) (target : ClassTarget) : Plan :=
  { table
    className := assembler.className table target
    options := assembler.options
    naming := assembler.naming }

/-- The class of a table before its imports are known. -/
def withMembers (assembler : Assembler) (table : Table) (target : ClassTarget) : RecordClass :=
  let start : RecordClass :=
    { namespaceName := assembler.namespaceName table target
      name := assembler.className table target
      sourceTable := table.qualifiedName
      members := [] }
  start.pushAll ((assembler.plan table target).offered target.mutators)

/-- The class of a table, with its imports. -/
def assemble (assembler : Assembler) (table : Table) (target : ClassTarget) : RecordClass :=
  let recordClass := assembler.withMembers table target
  (runtimeImports recordClass).foldl RecordClass.addImport recordClass

end Assembler

end DataAccess.Members
