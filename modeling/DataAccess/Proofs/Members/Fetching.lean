import DataAccess.Proofs.Evaluation.Exchange
import DataAccess.Proofs.Members.Hydration

/-!
# Fetchers as exchanges

A fetcher binds its key arguments column by column, sends one selection, and makes objects of the
rows that come back. Fetchers of pages let the statement and its bound values grow by a clause and a
number at a time; `Draft` is what they hold in between. Each kind of fetcher has one equation here
that says which request it prepares and which result it finds.
-/

namespace DataAccess.Members

open Code Schema Evaluation

namespace Plan

variable {plan : Plan} {around : Surroundings} {columns : List Column} {keys : List Value}
  {link : Value} {this : Option Value} {frame : Frame}

/-- The value of the parameter of a key column. Columns may share a parameter, and then the last
argument for it counts. -/
def keyValue (plan : Plan) (columns : List Column) (keys : List Value) (column : Column) : Value :=
  (Entries.last? (plan.keyParamName column) ((columns.map plan.keyParamName).zip keys)).getD .null

def boundKeys (plan : Plan) (columns : List Column) (keys : List Value) :
    Except EvalError (List Value) :=
  columns.mapM fun column => boundAs column (plan.keyValue columns keys column)

theorem keyValue_of_mem (distinct : (columns.map plan.keyParamName).Nodup)
    (enough : keys.length = columns.length) {column : Column} {key : Value}
    (paired : (column, key) ∈ columns.zip keys) : plan.keyValue columns keys column = key := by
  rw [keyValue, Entries.last?_zip_of_mem distinct enough paired, Option.getD_some]

/-- The variables of a fetcher: the connection and the values of its key parameters. -/
structure KeysIn (plan : Plan) (columns : List Column) (keys : List Value) (link : Value)
    (this : Option Value) (frame : Frame) : Prop where
  receives : frame.this = this
  connected : lookup frame connectionName = pure link
  held : ∀ column ∈ columns,
    lookup frame (plan.keyParamName column) = pure (plan.keyValue columns keys column)

/-- The variables that fetchers set themselves leave the connection and the keys alone. -/
theorem KeysIn.set (bound : plan.KeysIn columns keys link this frame) {name : String}
    (own : name ∈ fetcherNames) (differ : name ≠ connectionName) (value : Value) :
    plan.KeysIn columns keys link this (frame.set name value) where
  receives := bound.receives
  connected := by
    rw [lookup_set_of_ne differ.symm]
    exact bound.connected
  held := by
    intro column member
    have clear : plan.keyParamName column ≠ name := by
      rintro rfl
      exact keyParamName_notMem plan column own
    rw [lookup_set_of_ne clear]
    exact bound.held column member

/-- The connection and the key arguments are bound to their parameters. -/
theorem bindParams_keys (plan : Plan) (around : Surroundings) (name : String)
    (this : Option Value) (link : Value)
    {columns : List Column} {keys : List Value} (enough : keys.length = columns.length)
    (rest : List Value) :
    ∃ frame, bindParams around name (connectionParam :: plan.keyParams columns)
        (link :: (keys ++ rest)) { this } = pure frame ∧
      plan.KeysIn columns keys link this frame := by
  have names : (plan.keyParams columns).map (·.name) = columns.map plan.keyParamName := by
    rw [keyParams, List.map_map]
    rfl
  have pairs : (columns.map plan.keyParamName).zip (keys ++ rest) =
      (columns.map plan.keyParamName).zip keys := by
    have lengths : (columns.map plan.keyParamName).length = keys.length := by
      rw [List.length_map, enough]
    have split : (columns.map plan.keyParamName ++ []).zip (keys ++ rest) =
        (columns.map plan.keyParamName).zip keys ++ [].zip rest := List.zip_append lengths
    rwa [List.append_nil, List.zip_nil_left, List.append_nil] at split
  have fits : (plan.keyParams columns).length ≤ (keys ++ rest).length := by
    rw [keyParams, List.length_map, List.length_append, enough]
    exact Nat.le_add_right _ _
  let linked := Frame.set { this } connectionName link
  refine ⟨linked.setAll ((columns.map plan.keyParamName).zip keys), ?_, rfl, ?_, ?_⟩
  · rw [bindParams, bindParams_of_length _ _ fits, names, pairs]
    rfl
  · have free : connectionName ∉ columns.map plan.keyParamName := by
      intro member
      obtain ⟨column, -, same⟩ := List.mem_map.mp member
      exact keyParamName_notMem plan column (same ▸ List.mem_cons_self)
    rw [← Entries.map_fst_zip_map enough] at free
    rw [lookup_setAll_of_notMem free, lookup_set_self]
  · intro column member
    have named : plan.keyParamName column ∈
        ((columns.map plan.keyParamName).zip keys).map Prod.fst := by
      rw [Entries.map_fst_zip_map enough]
      exact List.mem_map_of_mem member
    cases last : Entries.last? (plan.keyParamName column)
        ((columns.map plan.keyParamName).zip keys) with
    | none => exact absurd named (Entries.last?_eq_none_iff.mp last)
    | some value => rw [lookup_setAll_of_last? last, keyValue, last, Option.getD_some]

/-- The parameters of a fetcher over key columns that need arguments. -/
def requiredNames (plan : Plan) (columns : List Column) : List String :=
  connectionName :: columns.map plan.keyParamName

/-- Arguments of a fetcher are the connection, keys and a rest, or there are too few. -/
theorem keys_or_missing (plan : Plan) (columns : List Column) (args : List Value) :
    (∃ link keys rest, args = link :: (keys ++ rest) ∧ keys.length = columns.length) ∨
      args.length < (plan.requiredNames columns).length := by
  rw [requiredNames, List.length_cons, List.length_map]
  by_cases missing : args.length < columns.length + 1
  · exact Or.inr missing
  · refine Or.inl ?_
    cases args with
    | nil => exact absurd (Nat.succ_pos columns.length) missing
    | cons link others =>
        have enough : columns.length ≤ others.length :=
          Nat.le_of_succ_le_succ (Nat.le_of_not_lt missing)
        refine ⟨link, others.take columns.length, others.drop columns.length, ?_,
          List.length_take_of_le enough⟩
        rw [List.take_append_drop]

/-- Without an argument for every key column, a fetcher does not start. -/
theorem invoke_missing (plan : Plan) (around : Surroundings) (method : Method)
    (this : Option Value) {columns : List Column} {args : List Value} (back : List Parameter)
    (static : method.kind = .static)
    (params : method.params = connectionParam :: plan.keyParams columns ++ back)
    (missing : args.length < (plan.requiredNames columns).length) :
    invoke around method this args =
      throw (.missingArgument method.name (plan.requiredNames columns)[args.length]) := by
  have required : ∀ param ∈ connectionParam :: plan.keyParams columns, param.default = none := by
    intro param member
    rcases List.mem_cons.mp member with rfl | key
    · rfl
    · obtain ⟨column, -, rfl⟩ := List.mem_map.mp key
      rfl
  have names : plan.requiredNames columns =
      (connectionParam :: plan.keyParams columns).map (·.name) := by
    rw [requiredNames, keyParams, List.map_cons, List.map_map]
    rfl
  have fewer : args.length < (connectionParam :: plan.keyParams columns).length := by
    rw [names, List.length_map] at missing
    exact missing
  rw [invoke_eq (Or.inl static), params, bindParams_append,
    bindParams_of_missing around method.name required fewer, throw_bind, throw_bind]
  simp only [names, List.getElem_map]

theorem evalAll_keyArgs (bound : plan.KeysIn columns keys link this frame) :
    evalAll around frame (plan.keyArgs columns) = settled (plan.boundKeys columns keys) := by
  refine evalAll_map fun column member => ?_
  have held : evalExpr around frame (.var (plan.keyParamName column)) =
      settled (.ok (plan.keyValue columns keys column)) := by
    rw [evalExpr, bound.held column member, settled_ok]
  rw [boundValue, evalExpr_writtenValue held, ok_bind]
  rfl

theorem evalExpr_keyArgs (bound : plan.KeysIn columns keys link this frame) :
    evalExpr around frame (.list (plan.keyArgs columns)) =
      settled (Value.list <$> plan.boundKeys columns keys) := by
  simp only [evalExpr, evalAll_keyArgs bound, map_eq_pure_bind, settled_bind, settled_pure]

/-- Sending the statement and working on the rows is an exchange. -/
theorem runBody_queryRows {params : Expr} {sql : String} {given : Except EvalError (List Value)}
    {rest : List Stmt} {result : Except EvalError (Value × Option Value)}
    (connected : lookup frame connectionName = pure link)
    (text : lookup frame "sql" = pure (.text sql))
    (bound : evalExpr around frame params = settled (Value.list <$> given))
    (finds : runBody around (frame.set "rows" (.list (around.rows.map Value.ofRow))) rest =
      settled result) :
    runBody around frame (queryRows params :: rest) =
      exchange (do
          let values ← given
          takesRequest .query link
          pure { kind := .query, sql, params := values })
        result := by
  have held : evalExpr around frame (.var connectionName) = settled (.ok link) := by
    rw [evalExpr, connected, settled_ok]
  rw [queryRows, runBody_declare]
  refine (congrArg (· >>= _) (evalExpr_request .query held text bound)).trans ?_
  exact exchange_pure_bind finds

end Plan

/-- A statement that is still growing, with the values bound in it so far. -/
structure Draft where
  sql : String
  params : List Value

/-- The draft with a page clause where its number is positive. -/
def Draft.paged (style : Sql.Style) (clause : Sql.PageClause) (value : Value) (draft : Draft) :
    Except EvalError Draft := do
  if ← isPositive value then
    pure { sql := draft.sql ++ clause.text style, params := draft.params ++ [value] }
  else pure draft

/-- The variables of a fetcher hold a draft, and all others are as they were. -/
structure Drafted (before : Frame) (draft : Draft) (frame : Frame) : Prop where
  receives : frame.this = before.this
  sql : lookup frame "sql" = pure (.text draft.sql)
  params : lookup frame "params" = pure (.list draft.params)
  others : ∀ name, name ≠ "sql" → name ≠ "params" → lookup frame name = lookup before name

section Pages

variable {around : Surroundings} {before frame : Frame} {draft : Draft}

theorem drafted_set (frame : Frame) (sql : String) (params : List Value) :
    Drafted frame { sql, params }
      ((frame.set "sql" (.text sql)).set "params" (.list params)) where
  receives := rfl
  sql := (lookup_set_of_ne (by decide) _ _).trans (lookup_set_self frame "sql" _)
  params := lookup_set_self _ "params" _
  others := by
    intro name notSql notParams
    rw [lookup_set_of_ne notParams, lookup_set_of_ne notSql]

theorem Drafted.trans {middle : Frame} {later : Draft} (first : Drafted before draft middle)
    (second : Drafted middle later frame) : Drafted before later frame where
  receives := second.receives.trans first.receives
  sql := second.sql
  params := second.params
  others := fun name notSql notParams =>
    (second.others name notSql notParams).trans (first.others name notSql notParams)

/-- **One page step**: the rest of the body runs on the draft with the clause, if the number is
positive. -/
theorem runBody_pageStep {style : Sql.Style} {clause : Sql.PageClause} {name : String}
    {value : Value} {rest : List Stmt} {next : Draft → Eval (Value × Option Value)}
    (drafted : Drafted before draft frame) (notSql : name ≠ "sql") (notParams : name ≠ "params")
    (given : lookup before name = pure value)
    (goesOn : ∀ frame draft, Drafted before draft frame → runBody around frame rest = next draft) :
    runBody around frame (pageStep style name clause :: rest) =
      settled (draft.paged style clause value) >>= next := by
  have held : lookup frame name = pure value := (drafted.others name notSql notParams).trans given
  rw [pageStep, runBody_when, Draft.paged]
  simp only [evalExpr, held, pure_bind, isGreater_zero, map_eq_pure_bind, settled_bind,
    settled_pure, bind_assoc]
  refine bind_congr fun positive => ?_
  cases positive with
  | false =>
      rw [Value.holds, if_neg Bool.false_ne_true, if_neg Bool.false_ne_true, settled_pure,
        pure_bind]
      exact goesOn frame draft drafted
  | true =>
      have heldAfter : lookup (frame.set "sql" (.text (draft.sql ++ clause.text style))) name =
          pure value := (lookup_set_of_ne notSql frame _).trans held
      have paramsAfter : lookup (frame.set "sql" (.text (draft.sql ++ clause.text style)))
          "params" = pure (.list draft.params) :=
        (lookup_set_of_ne (by decide) frame _).trans drafted.params
      rw [Value.holds, if_pos rfl, if_pos rfl, settled_pure, pure_bind, List.cons_append,
        List.cons_append, List.nil_append, runBody_append, drafted.sql, pure_bind, extended,
        pure_bind, runBody_push, evalExpr, heldAfter, pure_bind, paramsAfter, pure_bind, withItem,
        pure_bind]
      exact goesOn _ _ (drafted.trans (drafted_set frame _ _))

end Pages

namespace Plan

/-- The numbers of a page that were given, or else their defaults. -/
def pageCount (defaultCount : Int64) (page : List Value) : Value :=
  page.head?.getD (.int defaultCount)

def pageSkip (page : List Value) : Value :=
  (page.drop 1).head?.getD (.int 0)

/-- The request that a fetcher of a page prepares. -/
def pageRequest (plan : Plan) (columns : List Column) (link : Value) (keys : List Value)
    (count skip : Value) : Except EvalError Request := do
  let params ← plan.boundKeys columns keys
  let limited ← Draft.paged plan.options.sqlStyle .limit count
    { sql := plan.sql (plan.selection (keyConditions columns)), params }
  let draft ← limited.paged plan.options.sqlStyle .offset skip
  takesRequest .query link
  pure { kind := .query, sql := draft.sql, params := draft.params }

/-- The request that a fetcher of one record prepares. -/
def keyRequest (plan : Plan) (columns : List Column) (link : Value) (keys : List Value) :
    Except EvalError Request := do
  let params ← plan.boundKeys columns keys
  takesRequest .query link
  pure { kind := .query, sql := plan.sql (plan.selection (keyConditions columns)), params }

/-- The request that counts the records. -/
def countRequest (plan : Plan) (link : Value) : Except EvalError Request := do
  takesRequest .query link
  pure { kind := .query, sql := plan.sql plan.countStatement, params := [] }

variable {plan : Plan} {columns : List Column} {keys : List Value} {link : Value}

theorem bindParams_page (plan : Plan) (around : Surroundings) (name : String)
    (this : Option Value) (link : Value)
    {columns : List Column} {keys : List Value} (enough : keys.length = columns.length)
    (defaultCount : Int64) (page : List Value) :
    ∃ frame, bindParams around name
        (connectionParam :: plan.keyParams columns ++ pageParams defaultCount)
        (link :: (keys ++ page)) { this } = pure frame ∧
      plan.KeysIn columns keys link this frame ∧
        lookup frame "count" = pure (pageCount defaultCount page) ∧
          lookup frame "skip" = pure (pageSkip page) := by
  obtain ⟨before, binds, bound⟩ := bindParams_keys plan around name this link enough page
  have keysEnd : (link :: (keys ++ page)).drop
      (connectionParam :: plan.keyParams columns).length = page := by
    rw [List.length_cons, keyParams, List.length_map, ← enough, List.drop_succ_cons,
      List.drop_left]
  have pageBinds : bindParams around name (pageParams defaultCount) page before =
      pure ((before.set "count" (pageCount defaultCount page)).set "skip" (pageSkip page)) := by
    match page with
    | [] => rfl
    | [count] => rfl
    | count :: skip :: rest => rfl
  refine ⟨(before.set "count" (pageCount defaultCount page)).set "skip" (pageSkip page),
    ?_, ?_, ?_, lookup_set_self _ "skip" _⟩
  · rw [bindParams_append, binds, pure_bind, keysEnd, pageBinds]
  · exact (bound.set (by decide) (by decide) _).set (by decide) (by decide) _
  · rw [lookup_set_of_ne (by decide), lookup_set_self]

end Plan

namespace Deployment

/-- The objects of the rows that a query is answered with, in order. -/
def objects (site : Deployment) (link : Value) : Except EvalError (List Value) :=
  site.rows.mapM fun row => site.objectOf link (Value.ofRow row)

variable {site : Deployment} {columns : List Column} {keys : List Value} {this : Option Value}

theorem runBody_mapRows (depth : Nat) {frame : Frame} {link : Value}
    (connected : lookup frame connectionName = pure link)
    (rows : lookup frame "rows" = pure (.list (site.rows.map Value.ofRow))) :
    runBody (site.scene.surroundings (depth + 2)) frame
        [ .result
            (.mapRows (.var "rows") "record" site.plan.classType
              (site.plan.hydrated (.var "record"))) ] =
      settled (do
        let objects ← site.objects link
        pure (.list objects, frame.this)) := by
  have row (item : Value) :
      evalExpr (site.scene.surroundings (depth + 2)) (frame.set "record" item)
        (site.plan.hydrated (.var "record")) = settled (site.objectOf link item) := by
    refine evalExpr_hydrated ?_ ?_
    · rw [lookup_set_of_ne (by decide)]
      exact connected
    · rw [evalExpr, lookup_set_self]
  simp only [runBody_result, evalExpr, rows, pure_bind, itemsOf, row, mapM_settled, bind_assoc,
    List.mapM_map, objects, settled_bind, settled_pure]
  rfl

/-- The last statements of a fetcher of a page send whatever the page steps made of the draft. -/
theorem runBody_sendPage {depth : Nat} {before frame : Frame} {draft : Draft} {link : Value}
    (drafted : Drafted before draft frame)
    (bound : site.plan.KeysIn columns keys link this before) :
    runBody (site.scene.surroundings (depth + 2)) frame
        [ queryRows (.var "params"),
          .result
            (.mapRows (.var "rows") "record" site.plan.classType
              (site.plan.hydrated (.var "record"))) ] =
      exchange (do
          takesRequest .query link
          pure { kind := .query, sql := draft.sql, params := draft.params })
        (do
          let objects ← site.objects link
          pure (.list objects, this)) := by
  have connected : lookup frame connectionName = pure link :=
    (drafted.others _ (by decide) (by decide)).trans bound.connected
  have params : evalExpr (site.scene.surroundings (depth + 2)) frame (.var "params") =
      settled (Value.list <$> (.ok draft.params)) := by
    rw [evalExpr, drafted.params]
    rfl
  let answered := frame.set "rows"
    (.list ((site.scene.surroundings (depth + 2)).rows.map Value.ofRow))
  have connectedAfter : lookup answered connectionName = pure link :=
    (lookup_set_of_ne (by decide) frame _).trans connected
  have rows : lookup answered "rows" = pure (.list (site.rows.map Value.ofRow)) := by
    rw [lookup_set_self, Scene.rows_surroundings]
    rfl
  have receives : answered.this = this := drafted.receives.trans bound.receives
  have finds := runBody_mapRows depth connectedAfter rows
  rw [receives] at finds
  rw [Plan.runBody_queryRows connected drafted.sql params finds, ok_bind]

/-- **A fetcher of a page sends its selection once and makes an object of every row.** -/
theorem invoke_pageFetcher (site : Deployment) (depth : Nat) (name description : String)
    (defaultCount : Int64) (this : Option Value) (link : Value)
    (enough : keys.length = columns.length) (page : List Value) :
    invoke (site.scene.surroundings (depth + 2))
        (site.plan.pageFetcher name description defaultCount columns) this
        (link :: (keys ++ page)) =
      exchange
        (site.plan.pageRequest columns link keys (Plan.pageCount defaultCount page)
          (Plan.pageSkip page))
        (do
          let objects ← site.objects link
          pure (.list objects, this)) := by
  obtain ⟨frame, binds, bound, count, skip⟩ := Plan.bindParams_page site.plan
    (site.scene.surroundings (depth + 2)) name this link enough defaultCount page
  let base := site.plan.sql (site.plan.selection (keyConditions columns))
  have boundAfter : site.plan.KeysIn columns keys link this (frame.set "sql" (.text base)) :=
    bound.set (by decide) (by decide) _
  rw [invoke_eq (Or.inl rfl)]
  refine (congrArg (· >>= _) binds).trans ?_
  rw [pure_bind, Plan.pageFetcher, Plan.fetcher, Plan.fetchPageBody, runBody_declare, evalExpr,
    pure_bind, runBody_declare, Plan.evalExpr_keyArgs boundAfter, Plan.pageRequest,
    ← settled_bind_exchange]
  simp only [map_eq_pure_bind, settled_bind, settled_pure, bind_assoc, pure_bind]
  refine bind_congr fun params => ?_
  rw [← settled_bind_exchange]
  refine runBody_pageStep (drafted_set frame base params) (by decide) (by decide) count
    fun limitedFrame limited ready => ?_
  rw [← settled_bind_exchange]
  refine runBody_pageStep ready (by decide) (by decide) skip fun pagedFrame paged done => ?_
  exact runBody_sendPage done bound

/-- The object of the first row that a query is answered with; null without rows. -/
def firstObject (site : Deployment) (link : Value) : Except EvalError Value :=
  match site.rows with
  | [] => .ok .null
  | row :: _ => site.objectOf link (Value.ofRow row)

/-- The number in the first row that a query is answered with; zero without rows. -/
def firstCount (site : Deployment) : Except EvalError Value :=
  match site.rows with
  | [] => .ok (.int 0)
  | row :: _ => do cast (← cellIn "count" (Value.ofRow row)) .int

/-- Calling a method on the class gives the result of its exchange. -/
theorem callStatic_of_exchange {method : Method} {args : List Value}
    {prepared : Except EvalError Request} {result : Except EvalError (Value × Option Value)}
    (member : method ∈ site.recordClass.methods)
    (sends : invoke (site.scene.surroundings Scene.callLimit) method none args =
      exchange prepared result) :
    site.scene.callStatic method.name args = exchange prepared (Prod.fst <$> result) := by
  rw [callStatic_of_mem member, sends]
  exact exchange_bind_pure prepared result Prod.fst

/-- **A fetcher of one record sends its selection once and makes an object of the first row.** -/
theorem invoke_keyFetcher (site : Deployment) (depth : Nat) (description : String)
    (this : Option Value) (link : Value) (enough : keys.length = columns.length)
    (rest : List Value) :
    invoke (site.scene.surroundings (depth + 2)) (site.plan.keyFetcher description columns) this
        (link :: (keys ++ rest)) =
      exchange (site.plan.keyRequest columns link keys)
        (do
          let object ← site.firstObject link
          pure (object, this)) := by
  obtain ⟨frame, binds, bound⟩ := Plan.bindParams_keys site.plan
    (site.scene.surroundings (depth + 2)) (site.plan.keyFetcherName columns) this link enough rest
  let base := site.plan.sql (site.plan.selection (keyConditions columns))
  let ready := frame.set "sql" (.text base)
  have boundAfter : site.plan.KeysIn columns keys link this ready :=
    bound.set (by decide) (by decide) _
  let answered := ready.set "rows"
    (.list ((site.scene.surroundings (depth + 2)).rows.map Value.ofRow))
  have rows : lookup answered "rows" = pure (.list (site.rows.map Value.ofRow)) := by
    rw [lookup_set_self, Scene.rows_surroundings]
    rfl
  have connected : lookup answered connectionName = pure link :=
    (lookup_set_of_ne (by decide) _ _).trans boundAfter.connected
  have receives : answered.this = this := bound.receives
  have finds : runBody (site.scene.surroundings (depth + 2)) answered
      [ .result
          (.ternary (.isEmpty (.var "rows")) .null
            (site.plan.hydrated (.first (.var "rows")))) ] =
        settled (do
          let object ← site.firstObject link
          pure (object, this)) := by
    rw [runBody_result, receives]
    simp only [evalExpr, rows, pure_bind, itemsOf]
    cases served : site.rows with
    | nil =>
        simp only [firstObject, served]
        rfl
    | cons row later =>
        have first : evalExpr (site.scene.surroundings (depth + 2)) answered
            (.first (.var "rows")) = pure (Value.ofRow row) := by
          simp only [evalExpr, rows, pure_bind, itemsOf, served]
          rfl
        simp only [List.map_cons, List.isEmpty_cons, Value.holds, Bool.false_eq_true, ↓reduceIte,
          evalExpr_hydrated connected first, firstObject, served, settled_bind, settled_pure]
  rw [invoke_eq (Or.inl rfl)]
  refine (congrArg (· >>= _) binds).trans ?_
  rw [pure_bind, Plan.keyFetcher, Plan.fetcher, Plan.fetchOneBody, runBody_declare, evalExpr,
    pure_bind, Plan.runBody_queryRows boundAfter.connected (lookup_set_self frame "sql" _)
      (Plan.evalExpr_keyArgs boundAfter) finds, Plan.keyRequest]

theorem callStatic_keyFetcher {description : String}
    (member : site.plan.keyFetcher description columns ∈ site.recordClass.methods)
    (link : Value) (enough : keys.length = columns.length) (rest : List Value) :
    site.scene.callStatic (site.plan.keyFetcherName columns) (link :: (keys ++ rest)) =
      exchange (site.plan.keyRequest columns link keys) (site.firstObject link) := by
  have sends := invoke_keyFetcher site 998 description none link enough rest
  refine (callStatic_of_exchange member sends).trans ?_
  cases site.firstObject link <;> rfl

/-- **The method that counts the records sends one statement and reads one number.** -/
theorem invoke_countFetcher (site : Deployment) (depth : Nat) (this : Option Value)
    (link : Value) (rest : List Value) :
    invoke (site.scene.surroundings depth) site.plan.countFetcher this (link :: rest) =
      exchange (site.plan.countRequest link)
        (do
          let number ← site.firstCount
          pure (number, this)) := by
  let frame : Frame := Frame.set { this } connectionName link
  have binds : bindParams (site.scene.surroundings depth) "count" [connectionParam]
      (link :: rest) { this } = pure frame := rfl
  let ready := frame.set "sql" (.text (site.plan.sql site.plan.countStatement))
  have connected : lookup ready connectionName = pure link :=
    (lookup_set_of_ne (by decide) _ _).trans (lookup_set_self { this } connectionName link)
  have params : evalExpr (site.scene.surroundings depth) ready (.list []) =
      settled (Value.list <$> (.ok [])) := by
    rw [evalExpr, evalAll, pure_bind]
    rfl
  let answered := ready.set "rows"
    (.list ((site.scene.surroundings depth).rows.map Value.ofRow))
  have rows : lookup answered "rows" = pure (.list (site.rows.map Value.ofRow)) := by
    rw [lookup_set_self, Scene.rows_surroundings]
    rfl
  have receives : answered.this = this := rfl
  have finds : runBody (site.scene.surroundings depth) answered
      [ .result
          (.ternary (.isEmpty (.var "rows")) (.int 0)
            (.cast (.index (.first (.var "rows")) "count") .int)) ] =
        settled (do
          let number ← site.firstCount
          pure (number, this)) := by
    rw [runBody_result, receives]
    simp only [evalExpr, rows, pure_bind, itemsOf]
    cases served : site.rows with
    | nil =>
        simp only [firstCount, served]
        rfl
    | cons row later =>
        simp only [List.map_cons, List.isEmpty_cons, Value.holds, Bool.false_eq_true, ↓reduceIte,
          List.head?_cons, Option.getD_some, cellOf_eq, firstCount, served, settled_bind,
          settled_pure]
  rw [invoke_eq (Or.inl rfl)]
  refine (congrArg (· >>= _) binds).trans ?_
  rw [pure_bind, Plan.countFetcher, Plan.fetcher, Plan.countBody, runBody_declare, evalExpr,
    pure_bind, Plan.runBody_queryRows connected (lookup_set_self frame "sql" _) params finds,
    Plan.countRequest, ok_bind]

theorem callStatic_countFetcher (member : site.plan.countFetcher ∈ site.recordClass.methods)
    (link : Value) (rest : List Value) :
    site.scene.callStatic "count" (link :: rest) =
      exchange (site.plan.countRequest link) site.firstCount := by
  have sends := invoke_countFetcher site Scene.callLimit none link rest
  refine (callStatic_of_exchange member sends).trans ?_
  cases site.firstCount <;> rfl

end Deployment

end DataAccess.Members
