import DataAccess.Proofs.Code.Subexpressions
import DataAccess.Proofs.Members.Assembled
import DataAccess.Proofs.TypeScript.PrintedSymbols

/-!
# Imports of assembled classes

The imports of a class are collected from fewer places than the printer writes symbols to: from the
types of properties and parameters, and from bodies. For assembled classes that is enough
(`Deployment.imports_emitted`). Every class takes connections and rows in parameters, so the types
of results, variables and casts cannot add anything, and no default of a parameter has a symbol.
Moments in time are read in one method only, the one that makes objects from rows, and every class
has it.
-/

namespace DataAccess.Members

open Code Schema TypeScript

theorem mem_memberSymbols_of_type {symbol : RuntimeSymbol} {member : Member} {type : Ty}
    (printed : type ∈ printedTypes member) (found : symbol ∈ typeSymbols type) :
    symbol ∈ memberSymbols member :=
  List.mem_append_left _ (List.mem_flatMap.mpr ⟨type, printed, found⟩)

theorem mem_memberSymbols_of_expr {symbol : RuntimeSymbol} {member : Member} {expr : Expr}
    (printed : expr ∈ printedExprs member) (found : symbol ∈ ownSymbols expr) :
    symbol ∈ memberSymbols member :=
  List.mem_append_right _ (List.mem_flatMap.mpr ⟨expr, printed, found⟩)

section Scan

variable {recordClass : RecordClass}

/-- The types that are searched are among the printed ones. -/
theorem memberTypes_subset (member : Member) : memberTypes member ⊆ printedTypes member := by
  cases member with
  | property property => exact List.Subset.refl _
  | method method =>
      exact List.Subset.trans (List.subset_append_left _ _) (List.subset_append_left _ _)

/-- A symbol is in the code if the type that it stands for is mentioned. -/
theorem mem_classSymbols_of_mentions {symbol : RuntimeSymbol} {named : Ty}
    (stands : symbol ∈ typeSymbols named) (mentions : anyMentions named recordClass = true) :
    symbol ∈ classSymbols recordClass := by
  obtain ⟨type, stated, within⟩ := List.any_eq_true.mp mentions
  obtain ⟨member, found, inMember⟩ := List.mem_flatMap.mp stated
  exact List.mem_flatMap.mpr ⟨member, found,
    mem_memberSymbols_of_type (memberTypes_subset member inMember)
      (mem_typeSymbols_of_mentions stands within)⟩

/-- A symbol is in the code if an expression that it stands for is in a body. -/
theorem mem_classSymbols_of_inBodies {symbol : RuntimeSymbol} {isOfKind : Expr → Bool}
    (stands : ∀ expr, isOfKind expr = true → symbol ∈ ownSymbols expr)
    (inBodies : anyInBodies isOfKind recordClass = true) : symbol ∈ classSymbols recordClass := by
  obtain ⟨method, found, inBody⟩ := List.any_eq_true.mp inBodies
  obtain ⟨expr, inside, kind⟩ := List.any_eq_true.mp inBody
  exact List.mem_flatMap.mpr ⟨.method method, RecordClass.mem_methods.mp found,
    mem_memberSymbols_of_expr (List.mem_append_right _ inside) (stands expr kind)⟩

/-- No symbol is imported that the code does not have. -/
theorem mem_classSymbols_of_isUsed {symbol : RuntimeSymbol}
    (used : symbol.isUsed recordClass = true) : symbol ∈ classSymbols recordClass := by
  cases symbol with
  | connection => exact mem_classSymbols_of_mentions (List.mem_singleton_self _) used
  | row =>
      rcases Bool.or_eq_true_iff.mp used with mentions | inBodies
      · exact mem_classSymbols_of_mentions (List.mem_singleton_self _) mentions
      · refine mem_classSymbols_of_inBodies (fun expr kind => ?_) inBodies
        cases expr with
        | mapRows source param itemType body => exact List.mem_cons_self
        | _ => cases kind
  | parseTimestamp =>
      refine mem_classSymbols_of_inBodies (fun expr kind => ?_) used
      cases expr with
      | parseTimestamp value => exact List.mem_singleton_self _
      | _ => cases kind
  | formatTimestamp =>
      refine mem_classSymbols_of_inBodies (fun expr kind => ?_) used
      cases expr with
      | formatTimestamp value form =>
          cases form with
          | sql => exact List.mem_singleton_self _
          | iso => cases kind
      | _ => cases kind

/-- The imports depend on the members only. -/
theorem runtimeImports_congr {other : RecordClass} (same : recordClass.members = other.members) :
    runtimeImports recordClass = runtimeImports other := by
  have used : RuntimeSymbol.isUsed recordClass = RuntimeSymbol.isUsed other := by
    funext symbol
    cases symbol <;>
      simp only [RuntimeSymbol.isUsed, anyMentions, anyInBodies, RecordClass.methods, same]
  rw [runtimeImports, used, runtimeImports]

/-- The imports are in a fixed order. -/
theorem runtimeImports_sublist (recordClass : RecordClass) :
    (runtimeImports recordClass).Sublist
      ["Connection", "Row", "parseTimestamp", "formatTimestamp"] :=
  List.filter_sublist.map RuntimeSymbol.name

/-- A symbol is imported if and only if it is found in use. -/
theorem mem_runtimeImports (symbol : RuntimeSymbol) :
    symbol.name ∈ runtimeImports recordClass ↔ symbol.isUsed recordClass = true := by
  have listed : symbol ∈ RuntimeSymbol.all := by cases symbol <;> decide
  constructor
  · intro member
    obtain ⟨other, found, same⟩ := List.mem_map.mp member
    obtain rfl := (name_eq_iff symbol).mp same
    exact (List.mem_filter.mp found).2
  · intro used
    exact List.mem_map_of_mem (List.mem_filter.mpr ⟨listed, used⟩)

/-- The type of a parameter is mentioned. -/
theorem anyMentions_of_param {method : Method} (found : method ∈ recordClass.methods)
    {param : Parameter} (declared : param ∈ method.params) :
    anyMentions param.type recordClass = true := by
  refine List.any_eq_true.mpr ⟨param.type, ?_, Ty.mentions_self param.type⟩
  exact List.mem_flatMap.mpr
    ⟨.method method, RecordClass.mem_methods.mp found, List.mem_map_of_mem declared⟩

/-- An expression in a body is found. -/
theorem anyInBodies_of_expr {isOfKind : Expr → Bool} {method : Method}
    (found : method ∈ recordClass.methods) {expr : Expr}
    (inside : expr ∈ Stmt.partsOfAll method.body) (kind : isOfKind expr = true) :
    anyInBodies isOfKind recordClass = true :=
  List.any_eq_true.mpr ⟨method, found, List.any_eq_true.mpr ⟨expr, inside, kind⟩⟩

end Scan

/-- A symbol that is printed with an expression is a type, or a function that the expression
calls. -/
theorem isOfKind_of_mem {symbol : RuntimeSymbol} {expr : Expr}
    (printed : symbol ∈ ownSymbols expr) :
    (symbol = .connection ∨ symbol = .row) ∨
      symbol = .parseTimestamp ∧ isParseTimestamp expr = true ∨
      symbol = .formatTimestamp ∧ isFormatForSql expr = true := by
  cases expr with
  | cast value type => exact Or.inl (eq_of_mem_typeSymbols printed)
  | mapRows source param itemType body =>
      rcases List.mem_cons.mp printed with same | inType
      · exact Or.inl (Or.inr same)
      · exact Or.inl (eq_of_mem_typeSymbols inType)
  | parseTimestamp value => exact Or.inr (Or.inl ⟨List.mem_singleton.mp printed, rfl⟩)
  | formatTimestamp value form =>
      cases form with
      | sql => exact Or.inr (Or.inr ⟨List.mem_singleton.mp printed, rfl⟩)
      | iso => cases printed
  | _ => cases printed

/-- Whether some of the expressions reads a moment in time. -/
def anyParses (exprs : List Expr) : Bool :=
  exprs.any isParseTimestamp

/-- Writing a value reads no moment beyond those in the value. -/
theorem anyParses_written (form : TimestampForm) (column : Column) {value : Expr}
    (none : anyParses value.parts = false) :
    anyParses (writtenValue form column value).parts = false := by
  rw [writtenValue, nullGuarded]
  split
  · split <;> simpa [anyParses, Expr.parts, isParseTimestamp] using none
  · exact none

/-- The value of a column is read as a moment if the column holds moments. -/
theorem anyParses_hydrated (column : Column) :
    anyParses (hydratedValue column).parts = column.isTemporal := by
  rw [hydratedValue, nullGuarded]
  cases column.isTemporal <;> split <;> simp [anyParses, Expr.parts, isParseTimestamp]

/-- No argument of a list reads a moment if none does for its column. -/
theorem anyParses_args {columns : List Column} {value : Column → Expr}
    (each : ∀ column, anyParses (value column).parts = false) :
    anyParses (Expr.partsOfAll (columns.map value)) = false := by
  induction columns with
  | nil => rfl
  | cons column rest ih =>
      rw [List.map_cons, Expr.partsOfAll, anyParses, List.any_append]
      exact Bool.or_eq_false_iff.mpr ⟨each column, ih⟩

namespace Plan

variable {plan : Plan}

theorem anyParses_keyArgs (plan : Plan) (columns : List Column) :
    anyParses (Expr.partsOfAll (plan.keyArgs columns)) = false :=
  anyParses_args fun column => anyParses_written .sql column rfl

theorem anyParses_propertyArgs (plan : Plan) (columns : List Column) :
    anyParses (Expr.partsOfAll (plan.propertyArgs columns)) = false :=
  anyParses_args fun column => anyParses_written .sql column rfl

/-- The body of a fetcher of one record reads no moment beyond its arguments. -/
theorem anyParses_fetchOneBody {args : List Expr} (none : anyParses (Expr.partsOfAll args) = false)
    (sql : String) : anyParses (Stmt.partsOfAll (plan.fetchOneBody sql args)) = false := by
  rw [anyParses] at none ⊢
  cases bound : plan.isBound <;>
    simp [fetchOneBody, queryRows, hydrated, bound, Stmt.partsOfAll, Stmt.parts, Expr.parts,
      Expr.partsOfAll, isParseTimestamp, none]

/-- The body of a fetcher of a page reads no moment beyond its arguments. -/
theorem anyParses_fetchPageBody {args : List Expr} (none : anyParses (Expr.partsOfAll args) = false)
    (sql : String) : anyParses (Stmt.partsOfAll (plan.fetchPageBody sql args)) = false := by
  rw [anyParses] at none ⊢
  cases bound : plan.isBound <;>
    simp [fetchPageBody, pageStep, queryRows, hydrated, bound, Stmt.partsOfAll, Stmt.parts,
      Expr.parts, Expr.partsOfAll, isParseTimestamp, none]

/-- The body of a mutator reads no moment beyond its arguments. -/
theorem anyParses_mutator {args : List Expr} (none : anyParses (Expr.partsOfAll args) = false)
    (name description : String) (statement : Sql.Statement) :
    anyParses (Stmt.partsOfAll (plan.mutator name description statement args).body) = false := by
  rw [anyParses] at none ⊢
  cases bound : plan.isBound <;>
    simp [mutator, ownConnection, bound, Stmt.partsOfAll, Stmt.parts, Expr.parts,
      Expr.partsOfAll, isParseTimestamp, none]

/-- The assignments of columns read a moment if one of the columns holds moments. -/
theorem anyParses_fromRecordBody (plan : Plan) :
    anyParses (Stmt.partsOfAll plan.fromRecordBody) = plan.table.columns.any (·.isTemporal) := by
  have assigned (columns : List Column) : anyParses (Stmt.partsOfAll
      ((columns.map fun column => Stmt.assign (.field (.var "instance") (plan.propertyName column))
        (hydratedValue column)) ++ [.result (.var "instance")])) = columns.any (·.isTemporal) := by
    induction columns with
    | nil => rfl
    | cons column rest ih =>
        have here := anyParses_hydrated column
        rw [anyParses] at ih here
        simp [anyParses, Stmt.partsOfAll, Stmt.parts, Expr.parts, isParseTimestamp, ih, here]
  have created : anyParses (Stmt.parts (.declare "instance" false none
      (.new plan.className (if plan.isBound then [.var connectionName] else [])))) = false := by
    cases plan.isBound <;> rfl
  rw [fromRecordBody, List.cons_append, Stmt.partsOfAll, anyParses, List.any_append]
  exact (congrArg₂ (· || ·) created (assigned plan.table.columns)).trans (Bool.false_or _)

/-- Serializing reads no moment. -/
theorem anyParses_serialize (plan : Plan) :
    anyParses (Stmt.partsOfAll plan.serialize.body) = false := by
  have each (column : Column) : anyParses (plan.serializedValue column).parts = false :=
    anyParses_written .iso column rfl
  have entries : anyParses (Expr.partsOfEntries (plan.table.columns.map fun column =>
      (plan.serializedKey column, plan.serializedValue column))) = false := by
    have values : (plan.table.columns.map fun column =>
        (plan.serializedKey column, plan.serializedValue column)).map Prod.snd =
          plan.table.columns.map plan.serializedValue := by
      rw [List.map_map, Function.comp_def]
    rw [Expr.partsOfEntries_eq, values, ← Expr.partsOfAll_eq]
    exact anyParses_args each
  rw [anyParses] at entries ⊢
  simp [serialize, Stmt.partsOfAll, Stmt.parts, Expr.parts, isParseTimestamp, entries]

/-- Moments in time are read where a column holds them, and in no other generated method than the
one that makes objects from rows. -/
theorem Generates.anyTemporal {method : Method} (generated : plan.Generates method)
    (parses : anyParses (Stmt.partsOfAll method.body) = true) :
    plan.table.columns.any (·.isTemporal) = true := by
  have never {present : Bool} (none : present = false) (some : present = true) : False :=
    Bool.false_ne_true (none.symm.trans some)
  cases generated with
  | constructor bound => cases parses
  | all => exact (never (anyParses_fetchPageBody (plan.anyParses_keyArgs _) _) parses).elim
  | count => cases parses
  | key description columns =>
      exact (never (anyParses_fetchOneBody (plan.anyParses_keyArgs _) _) parses).elim
  | keyPage description columns =>
      exact (never (anyParses_fetchPageBody (plan.anyParses_keyArgs _) _) parses).elim
  | add =>
      exact (never (anyParses_mutator (plan.anyParses_propertyArgs _) _ _ _) parses).elim
  | delete =>
      exact (never (anyParses_mutator (plan.anyParses_propertyArgs _) _ _ _) parses).elim
  | update =>
      refine (never (anyParses_mutator ?_ _ _ _) parses).elim
      rw [propertyArgs, propertyArgs, ← List.map_append]
      exact plan.anyParses_propertyArgs _
  | fromRecord => rwa [Plan.fromRecord, anyParses_fromRecordBody] at parses
  | serialize => exact (never plan.anyParses_serialize parses).elim

/-- The parameters of keys have no defaults. -/
theorem default_keyParams {columns : List Column} {param : Parameter}
    (declared : param ∈ plan.keyParams columns) : param.default = none := by
  obtain ⟨column, -, rfl⟩ := List.mem_map.mp declared
  rfl

/-- The parameters of mutators have no defaults. -/
theorem default_mutatorParams {param : Parameter} (declared : param ∈ plan.mutatorParams) :
    param.default = none := by
  rw [mutatorParams] at declared
  split at declared
  · cases declared
  · obtain rfl := List.mem_singleton.mp declared
    rfl

/-- The parameters for making an object from a row have no defaults. -/
theorem default_fromRecordParams {param : Parameter} (declared : param ∈ plan.fromRecordParams) :
    param.default = none := by
  rw [fromRecordParams] at declared
  split at declared
  · rcases List.mem_cons.mp declared with rfl | declared
    · rfl
    · obtain rfl := List.mem_singleton.mp declared
      rfl
  · obtain rfl := List.mem_singleton.mp declared
    rfl

/-- Only pages have defaults, and these are numbers. -/
theorem Generates.default_eq {method : Method} (generated : plan.Generates method)
    {param : Parameter} (declared : param ∈ method.params) {default : Expr}
    (given : param.default = some default) : ∃ n, default = .int n := by
  have absent (none : param.default = none) : ∃ n, default = .int n := by
    rw [none] at given
    cases given
  have page {defaultCount : Int64} {columns : List Column}
      (declared : param ∈ connectionParam :: plan.keyParams columns ++ pageParams defaultCount) :
      ∃ n, default = .int n := by
    rcases List.mem_append.mp declared with front | inPage
    · rcases List.mem_cons.mp front with rfl | inKeys
      · cases given
      · exact absent (default_keyParams inKeys)
    · rcases List.mem_cons.mp inPage with rfl | skip
      · exact ⟨defaultCount, (Option.some.inj given).symm⟩
      · obtain rfl := List.mem_singleton.mp skip
        exact ⟨0, (Option.some.inj given).symm⟩
  cases generated with
  | constructor bound | count =>
      obtain rfl := List.mem_singleton.mp declared
      cases given
  | all | keyPage => exact page declared
  | key description columns =>
      rcases List.mem_cons.mp declared with rfl | inKeys
      · cases given
      · exact absent (default_keyParams inKeys)
  | add | delete | update => exact absent (default_mutatorParams declared)
  | fromRecord => exact absent (default_fromRecordParams declared)
  | serialize => cases declared

end Plan

namespace Deployment

variable {site : Deployment}

/-- The imports of an assembled class are collected from the class itself. -/
theorem imports_recordClass (site : Deployment) :
    site.recordClass.imports = runtimeImports site.recordClass := by
  let start := site.assembler.withMembers site.table site.target
  have members : site.recordClass.members = start.members := (RecordClass.addImports_eq _ _).1
  have bare : start.imports = [] := by
    change (RecordClass.pushAll _ _).imports = []
    rw [RecordClass.pushAll_eq]
  have distinct : (start.imports ++ runtimeImports start).Nodup := by
    rw [bare, List.nil_append]
    exact (runtimeImports_sublist start).nodup (by decide)
  have collected : site.recordClass.imports = start.imports ++ runtimeImports start :=
    RecordClass.addImports_of_nodup distinct
  rw [collected, bare, List.nil_append, runtimeImports_congr members]

/-- Every class uses connections, in the fetcher of all records. -/
theorem isUsed_connection (site : Deployment) :
    RuntimeSymbol.connection.isUsed site.recordClass = true := by
  have all : site.plan.allFetcher ∈ site.recordClass.methods :=
    mem_methods_of_offered .all rfl (List.mem_singleton_self _) (by simp [Plan.namedMethods])
  have declared : connectionParam ∈ site.plan.allFetcher.params := List.mem_cons_self
  exact anyMentions_of_param all declared

/-- Every class uses rows, where objects are made from them. -/
theorem isUsed_row (site : Deployment) : RuntimeSymbol.row.isUsed site.recordClass = true := by
  have declared : (⟨"record", .row, none⟩ : Parameter) ∈ site.plan.fromRecord.params := by
    rw [Plan.fromRecord, Plan.fromRecordParams]
    cases site.plan.isBound <;> simp
  exact Bool.or_eq_true_iff.mpr (Or.inl (anyMentions_of_param fromRecord_mem declared))

/-- No symbol is missing from the imports. -/
theorem isUsed_of_mem {symbol : RuntimeSymbol} (printed : symbol ∈ classSymbols site.recordClass) :
    symbol.isUsed site.recordClass = true := by
  obtain ⟨member, found, inMember⟩ := List.mem_flatMap.mp printed
  rcases List.mem_append.mp inMember with inTypes | inExprs
  · obtain ⟨type, -, inType⟩ := List.mem_flatMap.mp inTypes
    rcases eq_of_mem_typeSymbols inType with rfl | rfl
    · exact isUsed_connection site
    · exact isUsed_row site
  · obtain ⟨expr, inside, own⟩ := List.mem_flatMap.mp inExprs
    cases member with
    | property item => cases inside
    | method method =>
        have method_mem := RecordClass.mem_methods.mpr found
        rcases List.mem_append.mp inside with inDefault | inBody
        · obtain ⟨param, declared, inParam⟩ := List.mem_flatMap.mp inDefault
          obtain ⟨default, given, inDefault⟩ := List.mem_flatMap.mp inParam
          obtain ⟨n, rfl⟩ := (generates_of_mem method_mem).default_eq declared
            (Option.mem_toList.mp given)
          obtain rfl := List.mem_singleton.mp inDefault
          cases own
        · rcases isOfKind_of_mem own with (rfl | rfl) | ⟨rfl, parses⟩ | ⟨rfl, formats⟩
          · exact isUsed_connection site
          · exact isUsed_row site
          · exact anyInBodies_of_expr method_mem inBody parses
          · exact anyInBodies_of_expr method_mem inBody formats

/-- The function that reads moments is used if a column holds moments. -/
theorem isUsed_parseTimestamp_iff (site : Deployment) :
    RuntimeSymbol.parseTimestamp.isUsed site.recordClass = true ↔
      ∃ column ∈ site.table.columns, column.isTemporal = true := by
  rw [← List.any_eq_true]
  constructor
  · intro used
    obtain ⟨method, found, parses⟩ := List.any_eq_true.mp used
    exact (generates_of_mem found).anyTemporal parses
  · intro temporal
    refine List.any_eq_true.mpr ⟨site.plan.fromRecord, fromRecord_mem, ?_⟩
    exact (Plan.anyParses_fromRecordBody site.plan).trans temporal

/-- **The imports of a class are the runtime symbols in its code**, each once and in a fixed order.
The one that reads moments in time is among them if and only if a column holds moments. -/
theorem imports_emitted (site : Deployment) :
    site.recordClass.imports.Sublist ["Connection", "Row", "parseTimestamp", "formatTimestamp"] ∧
      (∀ symbol : RuntimeSymbol,
        symbol.name ∈ site.recordClass.imports ↔ symbol ∈ classSymbols site.recordClass) ∧
      ("parseTimestamp" ∈ site.recordClass.imports ↔
        ∃ column ∈ site.table.columns, column.isTemporal = true) := by
  rw [imports_recordClass]
  refine ⟨runtimeImports_sublist _, fun symbol => ?_, ?_⟩
  · rw [mem_runtimeImports]
    exact ⟨mem_classSymbols_of_isUsed, isUsed_of_mem⟩
  · exact (mem_runtimeImports .parseTimestamp).trans (isUsed_parseTimestamp_iff site)

end Deployment

end DataAccess.Members
