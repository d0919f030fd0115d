import DataAccess.Proofs.Code.Subexpressions
import DataAccess.Proofs.Members.DistinctProperties
import DataAccess.Proofs.Members.Renaming

/-!
# Names of parameters

The parameters of a generated method are printed with names that none of its variables has, and the
parameters for key columns with distinct names are distinct exactly where the names that are moved
aside find room among the others (`Deployment.printedParams_apart`). What is moved are the words
that methods of objects, fetchers and the language use. Without a style for properties, the
parameters for columns `count` and `count_` meet (`Deployment.params_meet_stock`).
-/

namespace DataAccess.Code

mutual

/-- The variables that a statement declares. -/
def Stmt.declared : Stmt → List String
  | .declare name _ _ _ => [name]
  | .when _ body => Stmt.declaredIn body
  | .assign _ _ | .append _ _ | .push _ _ | .result _ | .run _ => []

/-- The variables that statements declare. -/
def Stmt.declaredIn : List Stmt → List String
  | [] => []
  | statement :: rest => statement.declared ++ Stmt.declaredIn rest

end

/-- The variable that an expression binds to each row in turn. -/
def Expr.rowVariable? : Expr → Option String
  | .mapRows _ param _ _ => some param
  | _ => none

namespace Method

/-- The variables of the body of a method. -/
def locals (method : Method) : List String :=
  Stmt.declaredIn method.body ++ (Stmt.partsOfAll method.body).filterMap Expr.rowVariable?

/-- The names that variables are printed with. -/
def printedLocals (method : Method) : List String :=
  method.locals.map TypeScript.binding

/-- The names that parameters are printed with. -/
def printedParams (method : Method) : List String :=
  method.params.map fun param => TypeScript.binding param.name

end Method

end DataAccess.Code

namespace DataAccess.Members

open Code Naming Schema Evaluation TypeScript

/-- The words that parameters for key columns are moved away from. -/
def movedWords : List String :=
  objectMethodNames ++ fetcherNames ++ reservedWords

/-- The names that make way are words without underscores at the end. -/
theorem areWords_movedWords : AreWords movedWords.contains :=
  areWords_contains (by decide +kernel)

/-- Some of the names that make way are words as well. -/
theorem areWords_of_subset {words : List String} (among : words ⊆ movedWords) :
    AreWords words.contains :=
  fun name taken => areWords_movedWords name
    (List.contains_iff_mem.mpr (among (List.contains_iff_mem.mp taken)))

/-- What fetchers have anyway are words. -/
theorem areWords_fetcherNames : AreWords fetcherNames.contains := by
  refine areWords_of_subset (List.Subset.trans ?_ (List.subset_append_left _ reservedWords))
  exact List.subset_append_right objectMethodNames _

namespace Plan

variable {plan : Plan} {columns : List Column}

/-- A method that takes values for the columns as its key. -/
def IsOver (plan : Plan) (columns : List Column) (method : Method) : Prop :=
  ∃ description, method = plan.keyFetcher description columns ∨
    method = plan.keyPageFetcher description columns

/-- A parameter for a key column goes through three renamings, which amount to one. -/
theorem binding_keyParamName (plan : Plan) (column : Column) :
    binding (plan.keyParamName column) =
      moved movedWords.contains (plan.naming.propertyName column.name) := by
  have reserved : AreWords reservedWords.contains :=
    areWords_of_subset (List.subset_append_right _ _)
  have words : (fun name => (plan.isTaken name || fetcherNames.contains name) ||
      reservedWords.contains name) = movedWords.contains := by
    funext name
    have link : (plan.isBound && name == connectionName || fetcherNames.contains name) =
        fetcherNames.contains name := by
      by_cases same : name = connectionName
      · subst same
        rw [show fetcherNames.contains connectionName = true from rfl, Bool.or_true]
      · rw [beq_eq_false_iff_ne.mpr same, Bool.and_false, Bool.false_or]
    rw [isTaken, Bool.or_assoc (objectMethodNames.contains name), link, movedWords,
      List.contains_append, List.contains_append]
  have steps : binding (plan.keyParamName column) = moved reservedWords.contains
      (moved fetcherNames.contains (moved plan.isTaken (plan.naming.propertyName column.name))) :=
    rfl
  rw [steps, areWords_fetcherNames.moved_moved, reserved.moved_moved, words]

/-- The printed parameters of a key are its plain names, moved out of the way. -/
theorem map_binding_keyParams (plan : Plan) (columns : List Column) :
    (plan.keyParams columns).map (fun param => binding param.name) =
      (plan.plainNames columns).map (moved movedWords.contains) := by
  rw [keyParams, plainNames, List.map_map, List.map_map]
  exact List.map_congr_left fun column _ => plan.binding_keyParamName column

/-- No parameter for a key column is printed as one of the words. -/
theorem notMem_of_mem_keyParams {name : String}
    (printed : name ∈ (plan.plainNames columns).map (moved movedWords.contains)) :
    name ∉ movedWords := by
  obtain ⟨plain, -, rfl⟩ := List.mem_map.mp printed
  intro word
  have free := areWords_movedWords.free_moved plain
  rw [List.contains_iff_mem.mpr word] at free
  cases free

/-- Words around parameters for key columns do not meet them. -/
theorem nodup_around {front names back : List String} (words : (front ++ back).Nodup)
    (among : front ++ back ⊆ movedWords) (clear : ∀ name ∈ names, name ∉ movedWords) :
    (front ++ (names ++ back)).Nodup ↔ names.Nodup := by
  obtain ⟨frontNodup, backNodup, apart⟩ := List.nodup_append.mp words
  obtain ⟨frontAmong, backAmong⟩ := List.append_subset.mp among
  refine ⟨fun whole => (List.nodup_append.mp (List.nodup_append.mp whole).2.1).1, fun own => ?_⟩
  have behind : (names ++ back).Nodup := by
    refine List.nodup_append.mpr ⟨own, backNodup, ?_⟩
    rintro name inNames word inBack rfl
    exact clear name inNames (backAmong inBack)
  refine List.nodup_append.mpr ⟨frontNodup, behind, ?_⟩
  rintro word inFront name inRest rfl
  rcases List.mem_append.mp inRest with inNames | inBack
  · exact clear word inNames (frontAmong inFront)
  · exact apart word inFront word inBack rfl

/-- Writing a value goes through no rows. -/
theorem rowVariables_writtenValue (form : TimestampForm) (column : Column) {value : Expr}
    (none : value.parts.filterMap Expr.rowVariable? = []) :
    (writtenValue form column value).parts.filterMap Expr.rowVariable? = [] := by
  rw [writtenValue, nullGuarded]
  split
  · split <;>
      simp only [Expr.parts, List.cons_append, List.filterMap_cons, List.filterMap_append,
        List.filterMap_nil, Expr.rowVariable?, none, List.append_nil]
  · exact none

/-- Values for columns go through no rows. -/
theorem rowVariables_map {value : Column → Expr} (columns : List Column)
    (none : ∀ column, (value column).parts.filterMap Expr.rowVariable? = []) :
    (Expr.partsOfAll (columns.map value)).filterMap Expr.rowVariable? = [] := by
  rw [Expr.partsOfAll_eq, List.flatMap_map, List.filterMap_flatMap, List.flatMap_eq_nil_iff]
  exact fun column _ => none column

/-- What is bound for columns has no variables of its own. -/
theorem rowVariables_keyArgs (plan : Plan) (columns : List Column) :
    (Expr.partsOfAll (plan.keyArgs columns)).filterMap Expr.rowVariable? = [] :=
  rowVariables_map columns fun column => rowVariables_writtenValue .sql column rfl

/-- The arguments for properties go through no rows. -/
theorem rowVariables_propertyArgs (plan : Plan) (columns : List Column) :
    (Expr.partsOfAll (plan.propertyArgs columns)).filterMap Expr.rowVariable? = [] :=
  rowVariables_map columns fun column => rowVariables_writtenValue .sql column rfl

/-- The variables of a fetcher of one record. -/
theorem locals_keyFetcher (plan : Plan) (description : String) (columns : List Column) :
    (plan.keyFetcher description columns).locals = ["sql", "rows"] := by
  have args := plan.rowVariables_keyArgs columns
  cases bound : plan.isBound <;>
    simp only [Method.locals, keyFetcher, fetcher, fetchOneBody, queryRows, hydrated, bound,
      Bool.false_eq_true, ↓reduceIte, Stmt.declaredIn, Stmt.declared, Stmt.partsOfAll, Stmt.parts,
      Expr.parts, Expr.partsOfAll, Expr.rowVariable?, List.filterMap_append, List.filterMap_cons,
      List.filterMap_nil, args, List.append_nil, List.nil_append, List.cons_append]

/-- The variables of a fetcher of pages. -/
theorem locals_pageFetcher (plan : Plan) (name description : String) (defaultCount : Int64)
    (columns : List Column) :
    (plan.pageFetcher name description defaultCount columns).locals =
      ["sql", "params", "rows", "record"] := by
  have args := plan.rowVariables_keyArgs columns
  cases bound : plan.isBound <;>
    simp only [Method.locals, pageFetcher, fetcher, fetchPageBody, pageStep, queryRows, hydrated,
      bound, Bool.false_eq_true, ↓reduceIte, Stmt.declaredIn, Stmt.declared, Stmt.partsOfAll,
      Stmt.parts, Expr.parts, Expr.partsOfAll, Expr.rowVariable?, List.filterMap_append,
      List.filterMap_cons, List.filterMap_nil, args, List.append_nil, List.nil_append,
      List.cons_append]

/-- The variables of a mutator. -/
theorem locals_mutator (plan : Plan) (name description : String) (statement : Sql.Statement)
    {args : List Expr} (none : (Expr.partsOfAll args).filterMap Expr.rowVariable? = []) :
    (plan.mutator name description statement args).locals = ["sql", "affected"] := by
  cases bound : plan.isBound <;>
    simp only [Method.locals, mutator, ownConnection, bound, Bool.false_eq_true, ↓reduceIte,
      Stmt.declaredIn, Stmt.declared, Stmt.partsOfAll, Stmt.parts, Expr.parts, Expr.partsOfAll,
      Expr.rowVariable?, List.filterMap_append, List.filterMap_cons, List.filterMap_nil, none,
      List.append_nil, List.nil_append, List.cons_append]

/-- The variable of the method that makes objects from rows. -/
theorem locals_fromRecord (plan : Plan) : plan.fromRecord.locals = ["instance"] := by
  have value (column : Column) :
      (hydratedValue column).parts.filterMap Expr.rowVariable? = [] := by
    rw [hydratedValue, nullGuarded]
    split <;> split <;> rfl
  have assigned (columns : List Column) (back : List Stmt) :
      let body := (columns.map fun column => Stmt.assign
        (.field (.var "instance") (plan.propertyName column)) (hydratedValue column)) ++ back
      Stmt.declaredIn body = Stmt.declaredIn back ∧
        (Stmt.partsOfAll body).filterMap Expr.rowVariable? =
          (Stmt.partsOfAll back).filterMap Expr.rowVariable? := by
    induction columns with
    | nil => exact ⟨rfl, rfl⟩
    | cons column rest ih =>
        refine ⟨ih.1, ?_⟩
        simp only [List.map_cons, List.cons_append, Stmt.partsOfAll, Stmt.parts, Expr.parts,
          List.filterMap_cons, List.filterMap_append, Expr.rowVariable?, value, List.nil_append,
          ih.2]
  obtain ⟨declared, inRows⟩ := assigned plan.table.columns [.result (.var "instance")]
  cases bound : plan.isBound <;>
    simp only [Method.locals, fromRecord, fromRecordBody, bound, Bool.false_eq_true, ↓reduceIte,
      List.cons_append, Stmt.declaredIn, declared, Stmt.declared, Stmt.partsOfAll, Stmt.parts,
      inRows, Expr.parts, Expr.partsOfAll, List.filterMap_cons,
      List.filterMap_nil, Expr.rowVariable?, List.append_nil, List.nil_append]

/-- The names that a fetcher by key columns is printed with. -/
theorem IsOver.printed {method : Method} (isOver : plan.IsOver columns method) :
    ∃ back ⊆ ["count", "skip"], ([connectionName] ++ back).Nodup ∧
      method.printedParams = [connectionName] ++
        ((plan.plainNames columns).map (moved movedWords.contains) ++ back) ∧
      method.printedLocals ⊆ ["sql", "params", "rows", "record"] := by
  have link : binding connectionName = connectionName := by decide
  have keys := plan.map_binding_keyParams columns
  obtain ⟨description, rfl | rfl⟩ := isOver
  · refine ⟨[], List.nil_subset _, by decide, ?_, ?_⟩
    · rw [Method.printedParams, keyFetcher, fetcher, List.map_cons, keys, List.append_nil]
      exact congrArg (· :: _) link
    · rw [Method.printedLocals, locals_keyFetcher]
      decide
  · refine ⟨["count", "skip"], List.Subset.refl _, by decide, ?_, ?_⟩
    · rw [Method.printedParams, keyPageFetcher, pageFetcher, fetcher, List.cons_append,
        List.map_cons, List.map_append, keys]
      exact congrArg (· :: _) link
    · rw [Method.printedLocals, keyPageFetcher, locals_pageFetcher]
      decide

/-- Parameters are apart if their list and the list of variables are. -/
theorem nodup_and_apart {method : Method} (params locals : List String)
    (printed : method.printedParams = params) (declared : method.locals = locals)
    (clear : params.Nodup ∧ ∀ name ∈ params, name ∉ locals.map binding) :
    method.printedParams.Nodup ∧ ∀ name ∈ method.printedParams, name ∉ method.printedLocals := by
  rw [Method.printedLocals, printed, declared]
  exact clear

/-- The methods without key columns use no name twice. -/
theorem printed_of_named {method : Method} (named : method ∈ plan.namedMethods) :
    method.printedParams.Nodup ∧ ∀ name ∈ method.printedParams, name ∉ method.printedLocals := by
  have mutated (name description : String) (statement : Sql.Statement) {args : List Expr}
      (none : (Expr.partsOfAll args).filterMap Expr.rowVariable? = []) :
      let method := plan.mutator name description statement args
      method.printedParams.Nodup ∧
        ∀ name ∈ method.printedParams, name ∉ method.printedLocals := by
    refine nodup_and_apart (if plan.isBound then [] else ["connection"]) ["sql", "affected"] ?_
      (plan.locals_mutator name description statement none) ?_
    · rw [Method.printedParams, mutator, mutatorParams]
      cases plan.isBound <;> rfl
    · cases plan.isBound <;> decide
  simp only [namedMethods, List.mem_cons, List.not_mem_nil, or_false] at named
  rcases named with rfl | rfl | rfl | rfl | rfl | rfl | rfl | rfl
  · exact nodup_and_apart ["connection"] [] rfl rfl (by decide)
  · exact nodup_and_apart ["connection", "count", "skip"] ["sql", "params", "rows", "record"] rfl
      (plan.locals_pageFetcher _ _ _ []) (by decide)
  · exact nodup_and_apart ["connection"] ["sql", "rows"] rfl rfl (by decide)
  · exact mutated _ _ _ (plan.rowVariables_propertyArgs _)
  · exact mutated _ _ _ (plan.rowVariables_propertyArgs _)
  · refine mutated _ _ _ ?_
    rw [propertyArgs, propertyArgs, ← List.map_append]
    exact plan.rowVariables_propertyArgs _
  · refine nodup_and_apart (if plan.isBound then ["connection", "record"] else ["record"])
      ["instance"] ?_ plan.locals_fromRecord ?_
    · rw [Method.printedParams, fromRecord, fromRecordParams]
      cases plan.isBound <;> rfl
    · cases plan.isBound <;> decide
  · exact ⟨List.nodup_nil, fun _ printed => absurd printed List.not_mem_nil⟩

end Plan

namespace Deployment

variable {site : Deployment}

/-- A method of a class takes the columns of a key, or its name is fixed. -/
theorem isOver_or_named {method : Method} (found : method ∈ site.recordClass.methods) :
    (∃ columns ∈ site.table.keyGroups, site.plan.IsOver columns method) ∨
      method ∈ site.plan.namedMethods := by
  obtain ⟨part, offered⟩ := mem_part_of_mem (RecordClass.mem_methods.mp found)
  have alike : site.Alike site (.method method) (.method method) :=
    List.forall₂_same.mp (forall₂_alike site site.assembler.naming part) _ offered
  generalize same : Member.method method = member at alike
  cases alike with
  | property => cases same
  | key description group =>
      exact Or.inl ⟨_, group, description, Or.inl (Member.method.inj same)⟩
  | keyPage description group =>
      exact Or.inl ⟨_, group, description, Or.inr (Member.method.inj same)⟩
  | _ => exact Or.inr (Member.method.inj same ▸ by simp [Plan.namedMethods])

/-- **Parameters are printed apart from variables, and from each other where moved names find
room.** -/
theorem printedParams_apart (site : Deployment) {method : Method}
    (found : method ∈ site.recordClass.methods) :
    (∀ name ∈ method.printedParams, name ∉ method.printedLocals) ∧
    ((∀ columns ∈ site.table.keyGroups, ¬ site.plan.IsOver columns method) →
      method.printedParams.Nodup) ∧
    ∀ columns, site.plan.IsOver columns method → (site.plan.plainNames columns).Nodup →
      (method.printedParams.Nodup ↔
        LeavesRoom movedWords.contains (site.plan.plainNames columns)) ∧
      ∀ style, site.assembler.naming.properties = some style → method.printedParams.Nodup := by
  refine ⟨?_, fun none => ?_, fun columns isOver distinct => ?_⟩
  · rcases isOver_or_named found with ⟨columns, -, isOver⟩ | named
    · obtain ⟨back, page, -, params, locals⟩ := isOver.printed
      intro name printed isLocal
      have among := locals isLocal
      have fixed : ∀ word ∈ [connectionName] ++ ["count", "skip"],
          word ∉ ["sql", "params", "rows", "record"] := by decide
      have words : ["sql", "params", "rows", "record"] ⊆ movedWords := by decide
      rw [params, List.mem_append, List.mem_append] at printed
      rcases printed with link | key | counted
      · exact fixed name (List.mem_append_left _ link) among
      · exact Plan.notMem_of_mem_keyParams key (words among)
      · exact fixed name (List.mem_append_right _ (page counted)) among
    · exact (Plan.printed_of_named named).2
  · rcases isOver_or_named found with ⟨columns, group, isOver⟩ | named
    · exact absurd isOver (none columns group)
    · exact (Plan.printed_of_named named).1
  · obtain ⟨back, page, words, params, -⟩ := isOver.printed
    have among : [connectionName] ++ back ⊆ movedWords :=
      List.append_subset.mpr ⟨by decide, List.Subset.trans page (by decide)⟩
    have apart : method.printedParams.Nodup ↔
        LeavesRoom movedWords.contains (site.plan.plainNames columns) := by
      rw [params, Plan.nodup_around words among fun _ => Plan.notMem_of_mem_keyParams]
      exact nodup_map_moved_iff areWords_movedWords distinct
    exact ⟨apart, fun style styled =>
      apart.mpr (site.plan.leavesRoom_plainNames areWords_movedWords styled _)⟩

theorem printedParams_apart_visits :
    let method := visits.plan.keyPageFetcher "Fetch records matching index \x60recent\x60."
      (visits.table.columnsOf [2, 1])
    method ∈ visits.recordClass.methods ∧
      (∀ name ∈ method.printedParams, name ∉ method.printedLocals) ∧
      method.printedParams.Nodup := by
  intro method
  have found : method ∈ visits.recordClass.methods := by
    refine RecordClass.mem_methods.mpr (List.mem_of_getElem? (i := 8) ?_)
    rw [members_eq]
    rfl
  have distinct : (visits.plan.plainNames (visits.table.columnsOf [2, 1])).Nodup := by decide
  obtain ⟨fromLocals, -, overKey⟩ := printedParams_apart visits found
  exact ⟨found, fromLocals,
    (overKey _ ⟨_, Or.inr rfl⟩ distinct).1.mpr (by decide)⟩

/-- Stock whose key is a number of items and a number that is called like its parameter. -/
def stockTable : Table :=
  { schema := "shop"
    name := "stock"
    columns :=
      [ { name := "count", nativeType := "int", extendedType := "int", nullable := false,
          comment := "", isPrimary := false },
        { name := "count_", nativeType := "int", extendedType := "int", nullable := false,
          comment := "", isPrimary := false } ]
    uniqueKeys := [("level", [0, 1])]
    loaded := true }

/-- The class of stock. -/
def stock : Deployment :=
  { assembler := {}, table := stockTable, target := {} }

/-- Two columns of a key can have one parameter between them, and then the fetcher looks for the
second argument in both columns. -/
theorem params_meet_stock :
    Catalog.Loaded stock.table ∧ stock.table.columnsOf [0, 1] ∈ stock.table.keyGroups ∧
      (stock.plan.plainNames (stock.table.columnsOf [0, 1])).Nodup ∧
      ∃ method ∈ stock.recordClass.methods,
        stock.plan.IsOver (stock.table.columnsOf [0, 1]) method ∧
        method.printedParams = ["connection", "count_", "count_"] ∧
        ¬ method.printedParams.Nodup ∧
        ∀ log, stock.scene.callStatic method.name [.connection, .int 1, .int 2] log =
          .ok .null
            (log ++
              [{ kind := .query
                 sql := "SELECT \x60count\x60, \x60count_\x60 FROM \x60stock\x60 " ++
                   "WHERE \x60count\x60 = ? AND \x60count_\x60 = ?"
                 params := [.int 2, .int 2] }]) := by
  have built : stockTable =
      (Table.ofColumns "shop" "stock" stockTable.columns).withUniqueKey "level"
        ["count", "count_"] := by rfl
  have loaded : Catalog.Loaded stock.table := by
    rw [show stock.table = stockTable from rfl, built]
    exact .withUniqueKey "level" ["count", "count_"] (.ofColumns _ _ _)
  let method := stock.plan.keyFetcher "Fetch the record matching unique key \x60level\x60."
    (stock.table.columnsOf [0, 1])
  have found : method ∈ stock.recordClass.methods := by
    refine RecordClass.mem_methods.mpr (List.mem_of_getElem? (i := 3) ?_)
    rw [members_eq]
    rfl
  have params : method.printedParams = ["connection", "count_", "count_"] := by decide
  refine ⟨loaded, by decide, by decide, method, found, ⟨_, Or.inl rfl⟩, params, ?_, fun log => ?_⟩
  · rw [params]
    decide
  · have enough : [Value.int 1, .int 2].length = (stock.table.columnsOf [0, 1]).length := by rfl
    exact (congrFun (callStatic_keyFetcher found .connection enough []) log).trans (by rfl)

end Deployment

end DataAccess.Members
