import DataAccess.Proofs.Catalog.ComparedRuns
import DataAccess.Proofs.Catalog.RepeatedLoading

/-!
# Labels in another case and cells in another order

Servers disagree on the case of the labels of catalog columns, and nothing fixes the order of cells.
Rows whose labels differ in more than case are decoded by label alone, so two connections whose
answers agree up to the case of labels and the order of cells lead to the same tables and the same
failures (`introspection_relabelled`).
-/

namespace DataAccess.Text

theorem eqIgnoringCase_iff {left right : String} :
    eqIgnoringCase left right = true ↔ lowerAscii left = lowerAscii right := by
  rw [eqIgnoringCase, beq_iff_eq, lowerAscii, lowerAscii, String.ofList_inj]

end DataAccess.Text

namespace DataAccess.Database.Row

open Text

/-- The cells of a row under their labels in lower case. -/
def lowered (row : Row) : List (String × Cell) :=
  row.cells.map fun cell => (lowerAscii cell.1, cell.2)

/-- The rows have the same cells, perhaps in another order and under labels in another case; the
labels differ in more than case. -/
structure Relabels (row other : Row) : Prop where
  distinct : Catalog.Distinct (row.cells.map Prod.fst)
  sameCells : row.lowered.Perm other.lowered

theorem map_fst_lowered (row : Row) :
    row.lowered.map Prod.fst = (row.cells.map Prod.fst).map lowerAscii := by
  rw [lowered, List.map_map, List.map_map]
  rfl

theorem distinct_iff (labels : List String) :
    Catalog.Distinct labels ↔ (labels.map lowerAscii).Nodup := by
  rw [Catalog.Distinct, List.Nodup, List.pairwise_map]
  refine List.Pairwise.iff fun left right => ?_
  rw [← Bool.not_eq_true, eqIgnoringCase_iff]

variable {row other : Row}

/-- Where labels are distinct, a name finds the one cell with its label. -/
theorem find?_eq_some_iff (distinct : (row.lowered.map Prod.fst).Nodup) {name : String}
    {cell : Cell} : row.find? name = some cell ↔ (lowerAscii name, cell) ∈ row.lowered := by
  obtain ⟨cells⟩ := row
  constructor
  · intro found
    obtain ⟨⟨label, held⟩, first, rfl⟩ := Option.map_eq_some_iff.mp found
    have same : lowerAscii label = lowerAscii name := by
      simpa [eqIgnoringCase_iff] using List.find?_some first
    exact List.mem_map.mpr ⟨(label, held), List.mem_of_find?_eq_some first, Prod.ext same rfl⟩
  · intro member
    obtain ⟨⟨label, held⟩, inRow, same⟩ := List.mem_map.mp member
    obtain ⟨labels, rfl⟩ := Prod.mk.inj same
    cases first : cells.find? fun cell => eqIgnoringCase cell.1 name with
    | none =>
        have absent := List.find?_eq_none.mp first (label, held) inRow
        exact absurd (eqIgnoringCase_iff.mpr labels) absent
    | some entry =>
        have named : lowerAscii entry.1 = lowerAscii name := by
          simpa [eqIgnoringCase_iff] using List.find?_some first
        have inLowered : (lowerAscii name, entry.2) ∈ lowered ⟨cells⟩ :=
          List.mem_map.mpr ⟨entry, List.mem_of_find?_eq_some first, Prod.ext named rfl⟩
        have entries : (lowerAscii name, entry.2) = (lowerAscii name, held) :=
          List.inj_on_of_nodup_map distinct inLowered member rfl
        rw [find?, first, Option.map_some, (Prod.mk.inj entries).2]

/-- **A name finds the same cell, whatever the order of the cells and the case of the labels.** -/
theorem Relabels.find?_eq (relabels : row.Relabels other) : row.SameCells other := by
  intro name
  have distinct : (row.lowered.map Prod.fst).Nodup := by
    rw [map_fst_lowered]
    exact (distinct_iff _).mp relabels.distinct
  have distinctToo : (other.lowered.map Prod.fst).Nodup :=
    (relabels.sameCells.map Prod.fst).nodup_iff.mp distinct
  refine Option.ext fun cell => ?_
  rw [find?_eq_some_iff distinct, find?_eq_some_iff distinctToo]
  exact relabels.sameCells.mem_iff

end DataAccess.Database.Row

namespace DataAccess.Catalog

open Database Schema

section Ends

variable {ε σ τ α β : Type}

/-- Two runs end with related values or with the same failure, in linked states. -/
inductive EndAlike (linked : σ → τ → Prop) (related : α → β → Prop) :
    EStateM.Result ε σ α → EStateM.Result ε τ β → Prop where
  | ok {value : α} {other : β} {after : σ} {otherAfter : τ} (same : related value other)
      (still : linked after otherAfter) :
      EndAlike linked related (.ok value after) (.ok other otherAfter)
  | error (failure : ε) {after : σ} {otherAfter : τ} (still : linked after otherAfter) :
      EndAlike linked related (.error failure after) (.error failure otherAfter)

/-- Steps that end alike in all linked states. -/
def alongside (linked : σ → τ → Prop) : Comparison σ τ where
  holds related step other :=
    ∀ ⦃before state⦄, linked before state → EndAlike linked related (step before) (other state)
  value alike _ _ start := .ok alike start
  failure related failure _ _ start := .error failure start
  sequence {_ _ _ _ _ _ step other next otherNext} now later before state start := by
    simp only [bind, EStateM.bind]
    have first := now start
    revert first
    generalize step before = here
    generalize other state = there
    rintro (⟨same, still⟩ | ⟨failure, still⟩)
    · exact later _ _ same still
    · exact .error failure still

/-- One table, and linked states of two connections. -/
def WithTable (linked : σ → τ → Prop) (left : Table × σ) (right : Table × τ) : Prop :=
  left.1 = right.1 ∧ linked left.2 right.2

theorem alongside_loadPart {linked : σ → τ → Prop} {load : Table → Introspect σ α}
    {otherLoad : Table → Introspect τ α} (store : Table → α → Table)
    (loads : ∀ table, (alongside linked).holds Eq (load table) (otherLoad table)) :
    (alongside (WithTable linked)).holds Eq (loadPart load store) (loadPart otherLoad store) := by
  rintro ⟨table, before⟩ ⟨_, state⟩ ⟨rfl, start⟩
  have part := loads table start
  simp only [loadPart]
  revert part
  generalize load table before = here
  generalize otherLoad table state = there
  rintro (⟨rfl, still⟩ | ⟨failure, still⟩)
  · exact .ok rfl ⟨rfl, still⟩
  · exact .error failure ⟨rfl, still⟩

end Ends

section Introspection

variable {σ τ : Type} {first : Connection σ} {second : Connection τ} {linked : σ → τ → Prop}

/-- In linked states every catalog query fails alike on both connections, or is answered with rows
that are relabelled one by one. -/
def AnswerAlike (linked : σ → τ → Prop) (first : Connection σ) (second : Connection τ) : Prop :=
  ∀ (query : CatalogQuery) (values : List Cell) ⦃before state⦄, linked before state →
    EndAlike linked (List.Forall₂ Row.Relabels) (first.query query.sql values before)
      (second.query query.sql values state)

theorem AnswerAlike.asks (alike : AnswerAlike linked first second) :
    Asks (alongside linked) first second := by
  intro context query values before state start
  have answers := alike query values start
  simp only [ask, inContext]
  revert answers
  generalize first.query query.sql values before = here
  generalize second.query query.sql values state = there
  rintro (⟨each, still⟩ | ⟨failure, still⟩)
  · exact .ok (each.imp fun _ _ relabels => relabels.find?_eq) still
  · exact .error (context failure) still

theorem Asks.populate (asks : Asks (alongside linked) first second) :
    (alongside (WithTable linked)).holds Eq (populate first) (populate second) := by
  rintro ⟨table, before⟩ ⟨_, state⟩ ⟨rfl, start⟩
  let both := alongside (WithTable linked)
  have parts : both.holds Eq (loadParts first) (loadParts second) := by
    refine both.bind (alongside_loadPart _ asks.columns) fun _ => ?_
    refine both.bind (alongside_loadPart _ asks.primaryKey) fun _ => ?_
    refine both.bind (alongside_loadPart _ asks.uniqueKeys) fun _ => ?_
    refine both.bind (alongside_loadPart _ fun table => asks.indexGroups table false) fun _ => ?_
    refine both.bind (alongside_loadPart _ asks.foreignKeys) fun _ => ?_
    rintro ⟨table, before⟩ ⟨_, state⟩ ⟨rfl, start⟩
    exact .ok rfl ⟨rfl, start⟩
  cases loaded : table.loaded with
  | true =>
      rw [populate_of_loaded loaded, populate_of_loaded loaded]
      exact .ok rfl ⟨rfl, start⟩
  | false =>
      rw [populate_of_bare loaded, populate_of_bare loaded]
      exact parts ⟨rfl, start⟩

theorem Asks.populated (asks : Asks (alongside linked) first second) (table : Table) :
    (alongside linked).holds Eq (populated first table) (populated second table) := by
  intro before state start
  have loads := asks.populate (⟨rfl, start⟩ : WithTable linked (table, before) (table, state))
  simp only [Catalog.populated]
  revert loads
  generalize Catalog.populate first (table, before) = here
  generalize Catalog.populate second (table, state) = there
  rintro (⟨-, table, still⟩ | ⟨failure, -, still⟩)
  · exact .ok table still
  · exact .error failure still

theorem Asks.populateAll (asks : Asks (alongside linked) first second) (tables : List Table) :
    (alongside linked).holds Eq (populateAll first tables) (populateAll second tables) := by
  induction tables with
  | nil => exact (alongside linked).value rfl
  | cons table rest ih =>
      refine (alongside linked).bind (asks.populated table) fun _ => ?_
      exact (alongside linked).bind ih fun _ => (alongside linked).value rfl

/-- **Introspection depends on neither the case of labels nor the order of cells.** -/
theorem introspection_relabelled (alike : AnswerAlike linked first second) {before : σ} {state : τ}
    (start : linked before state) :
    (∀ schema, EndAlike linked Eq (listTables first schema before)
        (listTables second schema state)) ∧
      (∀ schema table column, EndAlike linked Eq (getColumn first schema table column before)
        (getColumn second schema table column state)) ∧
      (∀ table, EndAlike (WithTable linked) Eq (populate first (table, before))
        (populate second (table, state))) ∧
      ∀ schema, EndAlike linked Eq (capture first schema before) (capture second schema state) := by
  have asks := alike.asks
  refine ⟨fun schema => asks.tables schema start,
    fun schema table column => asks.column schema table column start,
    fun table => asks.populate ⟨rfl, start⟩, fun schema => ?_⟩
  have captures : (alongside linked).holds Eq (capture first schema) (capture second schema) :=
    (alongside linked).bind (asks.tables schema) fun tables =>
      (alongside linked).bind (asks.populateAll tables) fun _ => (alongside linked).value rfl
  exact captures start

end Introspection

/-- The cells of a row in reverse, under labels in upper case. -/
def shouted (row : Row) : Row :=
  ⟨row.cells.reverse.map fun (label, cell) => (Text.upperAscii label, cell)⟩

/-- Two columns, and a foreign key two of whose labels are missing. -/
def labelledOrders : CatalogQuery → Except ConnectionError (List Row)
  | .columns => .ok
      [ SnapshotServer.columnRow { name := "id", dataType := "int" },
        SnapshotServer.columnRow { name := "coupon_id", dataType := "int", nullable := true } ]
  | .foreignKeys => .ok
      [ { cells :=
            [ (Label.constraintName, .text "fk_coupon"), (Label.columnName, .text "coupon_id"),
              (Label.referencedColumnName, .int 3) ] } ]
  | _ => .ok []

theorem relabels_shouted (query : CatalogQuery) (rows : List Row)
    (answered : labelledOrders query = .ok rows) :
    List.Forall₂ Row.Relabels rows (rows.map shouted) := by
  cases query <;> cases answered
  case columns =>
    exact .cons ⟨by decide, by decide +kernel⟩ (.cons ⟨by decide, by decide +kernel⟩ .nil)
  case foreignKeys => exact .cons ⟨by decide, by decide +kernel⟩ .nil
  all_goals exact .nil

theorem introspection_relabelled_orders :
    let first := answering labelledOrders
    let second := answering fun query => List.map shouted <$> labelledOrders query
    let orders : Table := { schema := "shop", name := "orders" }
    AnswerAlike (fun _ _ => True) first second ∧
      EndAlike (WithTable fun _ _ => True) Eq (populate first (orders, ()))
        (populate second (orders, ())) := by
  intro first second orders
  have alike : AnswerAlike (fun _ _ => True) first second := by
    intro query values before state start
    simp only [first, second, answering, CatalogQuery.identify?_sql]
    cases answered : labelledOrders query with
    | error failure => exact .error failure trivial
    | ok rows => exact .ok (relabels_shouted query rows answered) trivial
  have populates : ∀ table, EndAlike (WithTable fun _ _ => True) Eq (populate first (table, ()))
      (populate second (table, ())) := (introspection_relabelled alike trivial).2.2.1
  exact ⟨alike, populates orders⟩

end DataAccess.Catalog
