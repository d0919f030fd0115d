import DataAccess.Proofs.Sql.Placeholders
import DataAccess.Proofs.Text.UniqueReading

/-!
# Statements can be read in one way

Where names are quoted, a statement can be told from its text (`text_eq_iff`), whatever schemas,
tables, columns and labels are called. A quote inside a name is written twice and no name is
followed by a quote, so every name ends where its last quote stands. What stands between names is
one of a few fixed texts that differ wherever a statement can go on in several ways.
-/

namespace DataAccess.Sql

open Text

section DoubleQuotes

variable {quote : Char} {rest more : List Char}

/-- A quote in a name is written twice. -/
theorem doubleQuotes_quote (name : List Char) :
    doubleQuotes quote (quote :: name) = quote :: quote :: doubleQuotes quote name := by
  rw [doubleQuotes, if_pos rfl]

/-- Any other character stays as it is. -/
theorem doubleQuotes_of_ne {c : Char} (other : c ≠ quote) (name : List Char) :
    doubleQuotes quote (c :: name) = c :: doubleQuotes quote name := by
  rw [doubleQuotes, if_neg other]

/-- The quote that ends a name is not the first of two quotes, and it is no other character. -/
theorem closing_ne_doubled (ends : rest.head? ≠ some quote) (c : Char) (name : List Char) :
    quote :: rest ≠ doubleQuotes quote (c :: name) ++ quote :: more := by
  intro same
  by_cases isQuote : c = quote
  · subst isQuote
    rw [doubleQuotes_quote, List.cons_append, List.cons_append] at same
    obtain ⟨-, behind⟩ := List.cons.inj same
    exact ends (congrArg List.head? behind)
  · rw [doubleQuotes_of_ne isQuote, List.cons_append] at same
    exact isQuote (List.cons.inj same).1.symm

/-- A name with doubled quotes ends at the first single quote, so the name and what comes after its
closing quote can be told apart. -/
theorem doubleQuotes_cancel {first second : List Char} (here : rest.head? ≠ some quote)
    (there : more.head? ≠ some quote)
    (same : doubleQuotes quote first ++ quote :: rest =
      doubleQuotes quote second ++ quote :: more) : first = second ∧ rest = more := by
  induction first generalizing second with
  | nil =>
      cases second with
      | nil => exact ⟨rfl, (List.cons.inj same).2⟩
      | cons d second => exact absurd same (closing_ne_doubled here d second)
  | cons c first ih =>
      cases second with
      | nil => exact absurd same.symm (closing_ne_doubled there c first)
      | cons d second =>
          by_cases isQuote : c = quote
          · subst isQuote
            by_cases doubled : d = c
            · subst doubled
              rw [doubleQuotes_quote, doubleQuotes_quote] at same
              obtain ⟨rfl, rests⟩ := ih (List.cons.inj (List.cons.inj same).2).2
              exact ⟨rfl, rests⟩
            · rw [doubleQuotes_quote, doubleQuotes_of_ne doubled] at same
              exact absurd (List.cons.inj same).1.symm doubled
          · by_cases doubled : d = quote
            · subst doubled
              rw [doubleQuotes_quote, doubleQuotes_of_ne isQuote] at same
              exact absurd (List.cons.inj same).1 isQuote
            · rw [doubleQuotes_of_ne isQuote, doubleQuotes_of_ne doubled] at same
              obtain ⟨rfl, later⟩ := List.cons.inj same
              obtain ⟨rfl, rests⟩ := ih later
              exact ⟨rfl, rests⟩

end DoubleQuotes

variable (dialect : Dialect)

/-- The characters of a quoted name. -/
def nameChars (name : String) : List Char :=
  (dialect.quoteIdentifier name).toList

theorem nameChars_eq (name : String) :
    nameChars dialect name =
      dialect.quote :: (doubleQuotes dialect.quote name.toList ++ [dialect.quote]) := by
  rw [nameChars, Dialect.quoteIdentifier, String.toList_ofList]

/-- What stands behind names in statements. -/
def behindNames : List String :=
  [" ", ",", ")", "."]

/-- What may stand behind a name does not begin with a quote. -/
theorem head?_ne_quote {rest : List Char} (ends : Ends behindNames rest) :
    rest.head? ≠ some dialect.quote := by
  intro quoted
  obtain ⟨others, rfl⟩ : ∃ others, rest = dialect.quote :: others := by
    cases rest with
    | nil => cases quoted
    | cons c others => exact ⟨others, by rw [Option.some.inj quoted]⟩
  have differs : Differs (String.singleton dialect.quote) behindNames := by
    cases dialect <;> decide
  refine ends.not_prefix differs ?_
  rw [String.toList_singleton]
  exact List.prefix_append [dialect.quote] others

/-- A quoted name can be told apart from what stands behind it. -/
theorem tellsApart_name : TellsApart (nameChars dialect) (Ends behindNames) := by
  intro first second rest more here there same
  simp only [nameChars_eq, List.cons_append, List.append_assoc, List.cons.injEq, true_and] at same
  obtain ⟨names, rests⟩ :=
    doubleQuotes_cancel (head?_ne_quote dialect here) (head?_ne_quote dialect there) same
  exact ⟨String.toList_inj.mp names, rests⟩

/-- What starts with a name is not what stands behind one. -/
theorem nameChars_append_ne {texts : List String} {more : List Char}
    (within : ∀ text ∈ texts, ∃ start ∈ behindNames, start.toList <+: text.toList)
    (ends : Ends texts more) (name : String) (rest : List Char) :
    nameChars dialect name ++ rest ≠ more := by
  rintro rfl
  refine head?_ne_quote dialect (ends.imp within) ?_
  rw [nameChars_eq]
  rfl

/-- The characters of pieces of a statement whose names are quoted. -/
def written (tokens : List Token) : List Char :=
  (textOf { dialect } tokens).toList

/-- Tokens are written one after another. -/
theorem written_append (left right : List Token) :
    written dialect (left ++ right) = written dialect left ++ written dialect right := by
  rw [written, textOf_append, String.toList_append]
  rfl

theorem written_cons (token : Token) (rest : List Token) :
    written dialect (token :: rest) =
      (token.text { dialect }).toList ++ written dialect rest := by
  rw [written, textOf, String.toList_append]
  rfl

/-- A list with commas is written as its items with a comma and a space between them. -/
theorem written_commaSeparated {α : Type} (pieces : α → List Token) (items : List α) :
    written dialect (commaSeparated (items.map pieces)) =
      separated ", " (fun item => written dialect (pieces item)) items := by
  cases items with
  | nil => rfl
  | cons item items =>
      rw [separated]
      induction items generalizing item with
      | nil =>
          rw [trailing, List.append_nil]
          rfl
      | cons next items ih =>
          have comma : written dialect [.comma, .space] = ", ".toList := rfl
          have split : commaSeparated ((item :: next :: items).map pieces) =
              pieces item ++ ([.comma, .space] ++
                commaSeparated ((next :: items).map pieces)) := rfl
          rw [split, written_append, written_append, ih, comma, trailing]

/-- Conditions are written with `AND` between them. -/
theorem written_conjunction (conditions : List Condition) :
    written dialect (conjunction conditions) =
      separated " AND " (fun condition => written dialect condition.tokens) conditions := by
  cases conditions with
  | nil => rfl
  | cons condition conditions =>
      rw [separated]
      induction conditions generalizing condition with
      | nil =>
          rw [trailing, List.append_nil]
          rfl
      | cons next conditions ih =>
          have between : written dialect [.space, .and, .space] = " AND ".toList := rfl
          rw [conjunction, written_append, written_append, ih, between, trailing,
            List.append_assoc]

/-- All of the texts go on as something behind names does. -/
def FollowNames (texts : List String) : Prop :=
  ∀ text ∈ texts, ∃ start ∈ behindNames, start.toList <+: text.toList

instance (texts : List String) : Decidable (FollowNames texts) :=
  inferInstanceAs (Decidable (∀ text ∈ texts, ∃ start ∈ behindNames, _))

/-- Names are told apart in front of any texts that may follow a name. -/
theorem tellsApart_nameBefore {texts : List String} (follow : FollowNames texts) :
    TellsApart (nameChars dialect) (Ends texts) :=
  (tellsApart_name dialect).imp fun _ ends => ends.imp follow

theorem written_ident (name : String) : written dialect [.ident name] = nameChars dialect name := by
  rw [written_cons]
  exact List.append_nil _

/-- Lists of columns are told apart if what follows is no comma. -/
theorem tellsApart_columns {texts : List String} (follow : FollowNames texts)
    (differs : Differs ", " texts) :
    TellsApart
      (fun columns : List String =>
        written dialect (commaSeparated (columns.map fun column => [.ident column])))
      (Ends texts) := by
  have followToo : FollowNames (", " :: texts) := List.forall_mem_cons.mpr ⟨by decide, follow⟩
  have names := (tellsApart_nameBefore dialect followToo).separated differs
    fun name rest more ends => nameChars_append_ne dialect follow ends name rest
  refine names.congr fun columns => ?_
  simp only [written_commaSeparated, written_ident]

/-- An assignment is a quoted column with its placeholder. -/
theorem written_assignment (column : String) :
    written dialect (assignmentTokens column) = nameChars dialect column ++ " = ?".toList := by
  have sign : written dialect [.space, .eq, .space, .placeholder] = " = ?".toList := rfl
  rw [assignmentTokens, written_cons, sign]
  rfl

/-- The assignments of an update tell its columns. -/
theorem tellsApart_assignments :
    TellsApart
      (fun columns : List String => written dialect (commaSeparated (columns.map assignmentTokens)))
      (Ends [" WHERE "]) := by
  have assignment : TellsApart (fun column => nameChars dialect column ++ " = ?".toList)
      (Ends [", ", " WHERE "]) :=
    (tellsApart_name dialect).ended _ fun rest _ =>
      (ends_append (List.mem_singleton_self " = ?") rest).imp (by decide)
  have listed := assignment.separated (by decide) fun column rest more ends => by
    rw [List.append_assoc]
    exact nameChars_append_ne dialect (by decide) ends column _
  refine listed.congr fun columns => ?_
  simp only [written_commaSeparated, written_assignment]

/-- The reference to a table tells its schema and its name. -/
theorem tellsApart_table :
    TellsApart (fun table : TableRef => written dialect [table.token]) (Ends [" "]) := by
  let view (table : TableRef) : String × Option String :=
    table.schema.elim (table.name, none) fun schema => (schema, some table.name)
  have determined (first second : TableRef) (same : view first = view second) :
      first = second := by
    obtain ⟨_ | schema, name⟩ := first <;> obtain ⟨_ | other, otherName⟩ := second <;>
      simp_all [view]
  have behind := (tellsApart_nameBefore dialect (by decide : FollowNames [" "])).optional
    (by decide : Differs "." [" "])
  have parts := (tellsApart_nameBefore dialect (by decide : FollowNames [".", " "])).append behind
    fun name rest ends => ends_optional name (nameChars dialect) ends
  refine (parts.comap determined).congr fun table => ?_
  obtain ⟨_ | schema, name⟩ := table
  · simp [view, written, textOf, Token.text, TableRef.token, nameChars, Style.identifier]
  · simp [view, written, textOf, Token.text, TableRef.token, nameChars, Style.identifier]

/-- What stands behind the items of a selection. -/
def behindItems : List String :=
  [", ", " FROM "]

/-- A label is written as `AS` and its name, and no label as nothing. -/
theorem written_label (label : Option String) :
    written dialect (labelTokens label) =
      label.elim [] fun name => " AS ".toList ++ nameChars dialect name := by
  cases label with
  | none => rfl
  | some name =>
      have lead : written dialect [.space, .as, .space] = " AS ".toList := rfl
      have split : labelTokens (some name) =
          ([.space, .as, .space] : List Token) ++ [Token.ident name] := rfl
      rw [split, written_append, lead, written_ident]
      rfl

/-- A label, or that there is none, can be read off what is selected. -/
theorem tellsApart_label :
    TellsApart (fun label => written dialect (labelTokens label)) (Ends behindItems) :=
  ((tellsApart_nameBefore dialect (by decide)).optional (by decide)).congr (written_label dialect)

/-- An item may be followed by its label, or by what follows an item. -/
theorem ends_label (label : Option String) {rest : List Char} (ends : Ends behindItems rest) :
    Ends (" AS " :: behindItems) (written dialect (labelTokens label) ++ rest) := by
  rw [written_label]
  exact ends_optional label (nameChars dialect) ends

theorem written_column (name : String) (label : Option String) :
    written dialect (SelectItem.column name label).tokens =
      nameChars dialect name ++ written dialect (labelTokens label) := by
  rw [SelectItem.tokens, written_cons]
  rfl

theorem written_countDistinct (columns : List String) (label : Option String) :
    written dialect (SelectItem.countDistinct columns label).tokens =
      "COUNT(DISTINCT ".toList ++
        (written dialect (commaSeparated (columns.map fun column => [.ident column])) ++
          (")".toList ++ written dialect (labelTokens label))) := by
  have lead : written dialect [.functionName "count", .leftParen, .distinct, .space] =
      "COUNT(DISTINCT ".toList := by
    rw [written, textOf, Token.text_count]
    rfl
  have close : written dialect (.rightParen :: labelTokens label) =
      ")".toList ++ written dialect (labelTokens label) := written_cons dialect _ _
  rw [SelectItem.tokens, written_append, written_append, lead, close, List.append_assoc]

/-- The first character of an item tells whether it is a column. -/
theorem count_ne_nameChars (name : String) (rest more : List Char) :
    "COUNT(DISTINCT ".toList ++ rest ≠ nameChars dialect name ++ more := by
  intro same
  rw [nameChars_eq, List.cons_append] at same
  have heads : 'C' = dialect.quote := (List.cons.inj same).1
  revert heads
  cases dialect <;> decide

/-- An item that is selected can be told apart from what follows it. -/
theorem tellsApart_item :
    TellsApart (fun item : SelectItem => written dialect item.tokens) (Ends behindItems) := by
  have label := tellsApart_label dialect
  have columns := ((tellsApart_nameBefore dialect (by decide : FollowNames
      (" AS " :: behindItems))).append label) fun label rest => ends_label dialect label
  have behindColumns (label : Option String) (rest : List Char) :
      Ends [")"] ((")".toList ++ written dialect (labelTokens label)) ++ rest) := by
    rw [List.append_assoc]
    exact ends_append (List.mem_singleton_self ")") _
  have counts := ((tellsApart_columns dialect (by decide : FollowNames [")"]) (by decide)).append
    (label.lead ")".toList) fun label rest _ => behindColumns label rest).lead
      "COUNT(DISTINCT ".toList
  intro first second rest more here there same
  cases first with
  | column name label =>
      cases second with
      | column other otherLabel =>
          simp only [written_column] at same
          obtain ⟨parts, rests⟩ :=
            @columns (name, label) (other, otherLabel) _ _ here there same
          cases parts
          exact ⟨rfl, rests⟩
      | countDistinct others otherLabel =>
          simp only [written_column, written_countDistinct, List.append_assoc] at same
          exact absurd same.symm (count_ne_nameChars dialect name _ _)
  | countDistinct names label =>
      cases second with
      | column other otherLabel =>
          simp only [written_column, written_countDistinct, List.append_assoc] at same
          exact absurd same (count_ne_nameChars dialect other _ _)
      | countDistinct others otherLabel =>
          simp only [written_countDistinct] at same
          obtain ⟨parts, rests⟩ :=
            @counts (names, label) (others, otherLabel) _ _ here there same
          cases parts
          exact ⟨rfl, rests⟩

/-- The star of a selection without items is not the start of an item. -/
theorem written_item_ne_star (item : SelectItem) (rest more : List Char) :
    written dialect item.tokens ++ rest ≠ "*".toList ++ more := by
  intro same
  cases item with
  | column name label =>
      rw [written_column, nameChars_eq] at same
      have heads : dialect.quote = '*' := (List.cons.inj same).1
      revert heads
      cases dialect <;> decide
  | countDistinct columns label =>
      rw [written_countDistinct] at same
      have heads : 'C' = '*' := (List.cons.inj same).1
      revert heads
      decide

/-- The pieces of the items of a selection. -/
def itemsTokens (items : List SelectItem) : List Token :=
  if items.isEmpty then [.star] else commaSeparated (items.map SelectItem.tokens)

/-- No items stand for all columns. -/
theorem written_noItems : written dialect (itemsTokens []) = "*".toList := by
  have star : itemsTokens [] = [.star] := rfl
  rw [star, written_cons]
  exact List.append_nil _

/-- Items are written with commas between them. -/
theorem written_items (item : SelectItem) (items : List SelectItem) :
    written dialect (itemsTokens (item :: items)) =
      written dialect item.tokens ++
        trailing ", " (fun item => written dialect item.tokens) items := by
  have split : itemsTokens (item :: items) =
      commaSeparated ((item :: items).map SelectItem.tokens) := rfl
  rw [split, written_commaSeparated, separated]

/-- The items of a selection end where `FROM` begins. -/
theorem tellsApart_items :
    TellsApart (fun items => written dialect (itemsTokens items)) (Ends [" FROM "]) := by
  have item := tellsApart_item dialect
  have listed := item.trailing (by decide : Differs ", " [" FROM "])
  intro first second rest more here there same
  cases first with
  | nil =>
      cases second with
      | nil => exact ⟨rfl, List.append_cancel_left same⟩
      | cons other others =>
          simp only [written_noItems, written_items, List.append_assoc] at same
          exact absurd same.symm (written_item_ne_star dialect other _ rest)
  | cons one items =>
      cases second with
      | nil =>
          simp only [written_noItems, written_items, List.append_assoc] at same
          exact absurd same (written_item_ne_star dialect one _ more)
      | cons other others =>
          simp only [written_items, List.append_assoc] at same
          obtain ⟨rfl, later⟩ :=
            item (ends_trailing items here) (ends_trailing others there) same
          obtain ⟨rfl, rests⟩ := listed here there later
          exact ⟨rfl, rests⟩

/-- What a condition says about its column. -/
inductive Test where
  | equals
  | equalsNullSafe
  | isPresent
  deriving DecidableEq

/-- How a test is written behind its column. -/
def Test.text : Test → String
  | equals => " = ?"
  | equalsNullSafe => " " ++ dialect.nullSafeEq ++ " ?"
  | isPresent => " IS NOT NULL"

/-- A condition as its column and what it says about it. -/
def Condition.view : Condition → String × Test
  | eq column => (column, .equals)
  | nullSafeEq column => (column, .equalsNullSafe)
  | notNull column => (column, .isPresent)

/-- A condition is its column with its test. -/
theorem Condition.view_injective {first second : Condition} (same : first.view = second.view) :
    first = second := by
  cases first <;> cases second <;> simp_all [view]

/-- A condition is written as its column and then its test. -/
theorem written_condition (condition : Condition) :
    written dialect condition.tokens =
      nameChars dialect condition.view.1 ++ (condition.view.2.text dialect).toList := by
  cases condition with
  | eq column => exact written_assignment dialect column
  | nullSafeEq column =>
      have sign : written dialect [.space, .nullSafeEq, .space, .placeholder] =
          (Test.equalsNullSafe.text dialect).toList := by
        cases dialect <;> rfl
      rw [Condition.tokens, written_cons, sign]
      rfl
  | notNull column =>
      have sign : written dialect [.space, .isNotNull] = " IS NOT NULL".toList := rfl
      rw [Condition.tokens, written_cons, sign]
      rfl

/-- A condition can be told apart from whatever follows it. -/
theorem tellsApart_condition {texts : List String} :
    TellsApart (fun condition : Condition => written dialect condition.tokens) (Ends texts) := by
  -- In one dialect null-safe equality and presence both start with `IS NOT`, and differ behind it.
  have differ (first second : Test)
      (starts : (first.text dialect).toList <+: (second.text dialect).toList) :
      first = second := by
    revert starts
    cases dialect <;> cases first <;> cases second <;> decide
  have behindColumn (test : Test) (rest : List Char) :
      Ends behindNames ((test.text dialect).toList ++ rest) := by
    refine (ends_append (List.mem_singleton_self _) rest).imp ?_
    cases dialect <;> cases test <;> decide
  have parts := (tellsApart_name dialect).append (tellsApart_texts differ (Ends texts))
    fun test rest _ => behindColumn test rest
  exact (parts.comap fun _ _ same => Condition.view_injective same).congr
    (written_condition dialect)

/-- No condition begins like what follows the conditions. -/
theorem condition_append_ne {more : List Char} (ends : Ends [" ORDER BY "] more)
    (condition : Condition) (rest : List Char) :
    written dialect condition.tokens ++ rest ≠ more := by
  rw [written_condition, List.append_assoc]
  exact nameChars_append_ne dialect (by decide) ends _ _

/-- Conditions are written behind `WHERE`; without conditions nothing is written. -/
theorem written_where (conditions : List Condition) :
    written dialect (whereTokens conditions) =
      (filled? conditions).elim [] fun conditions => " WHERE ".toList ++
        separated " AND " (fun condition => written dialect condition.tokens) conditions := by
  cases conditions with
  | nil => rfl
  | cons condition conditions =>
      have lead : written dialect [.space, .where, .space] = " WHERE ".toList := rfl
      have split : whereTokens (condition :: conditions) =
          [.space, .where, .space] ++ conjunction (condition :: conditions) := rfl
      rw [split, written_append, lead, written_conjunction]
      rfl

/-- The conditions of a statement end where the order begins, or with the statement. -/
theorem tellsApart_where :
    TellsApart (fun conditions => written dialect (whereTokens conditions))
      (Ends [" ORDER BY "]) := by
  have listed := (tellsApart_condition dialect).separated
    (by decide : Differs " AND " [" ORDER BY "])
    fun condition rest more ends => condition_append_ne dialect ends condition rest
  exact (listed.filled (by decide)).congr (written_where dialect)

/-- The conditions of a statement begin with `WHERE` unless there are none. -/
theorem ends_where (conditions : List Condition) {texts : List String} {rest : List Char}
    (ends : Ends texts rest) :
    Ends (" WHERE " :: texts) (written dialect (whereTokens conditions) ++ rest) := by
  rw [written_where]
  exact ends_optional _ _ ends

/-- The columns of an order are written behind `ORDER BY`; without columns nothing is written. -/
theorem written_order (columns : List String) :
    written dialect (orderTokens columns) =
      (filled? columns).elim [] fun columns => " ORDER BY ".toList ++
        written dialect (commaSeparated (columns.map fun column => [.ident column])) := by
  cases columns with
  | nil => rfl
  | cons column columns =>
      have lead : written dialect [.space, .orderBy, .space] = " ORDER BY ".toList := rfl
      have split : orderTokens (column :: columns) = ([.space, .orderBy, .space] : List Token) ++
          commaSeparated ((column :: columns).map fun column => [Token.ident column]) := rfl
      rw [split, written_append, lead]
      rfl

/-- The order of a selection is told by the rest of its text. -/
theorem tellsApart_order :
    TellsApart (fun columns => written dialect (orderTokens columns)) (Ends []) :=
  ((tellsApart_columns dialect (by decide) (by decide)).filled (by decide)).congr
    (written_order dialect)

/-- The order of a selection begins with `ORDER BY` unless there is none. -/
theorem ends_order (columns : List String) {rest : List Char} (ends : Ends [] rest) :
    Ends [" ORDER BY "] (written dialect (orderTokens columns) ++ rest) := by
  rw [written_order]
  exact ends_optional _ _ ends

/-- The parts of a selection, in the order in which they are written. -/
theorem written_select (statement : Select) :
    written dialect statement.tokens =
      "SELECT ".toList ++ (written dialect (itemsTokens statement.items) ++
        (" FROM ".toList ++ (written dialect [statement.table.token] ++
          (written dialect (whereTokens statement.conditions) ++
            written dialect (orderTokens statement.orderBy))))) := by
  have lead : written dialect [.select, .space] = "SELECT ".toList := rfl
  have source : written dialect [.space, .from, .space, statement.table.token] =
      " FROM ".toList ++ written dialect [statement.table.token] := by
    have words : written dialect [.space, .from, .space] = " FROM ".toList := rfl
    rw [← words, ← written_append]
    rfl
  have split : statement.tokens = [.select, .space] ++ itemsTokens statement.items ++
      [.space, .from, .space, statement.table.token] ++ whereTokens statement.conditions ++
      orderTokens statement.orderBy := rfl
  simp only [split, written_append, lead, source, List.append_assoc]

/-- Selections with the same text are the same. -/
theorem select_eq {first second : Select}
    (same : written dialect first.tokens = written dialect second.tokens) : first = second := by
  obtain ⟨table, items, conditions, orderBy⟩ := first
  obtain ⟨otherTable, otherItems, otherConditions, otherOrderBy⟩ := second
  have clauses := (tellsApart_where dialect).append (tellsApart_order dialect)
    fun columns rest => ends_order dialect columns
  have source := ((tellsApart_table dialect).append clauses fun clauses rest ends => by
    rw [List.append_assoc]
    exact (ends_where dialect clauses.1 (ends_order dialect clauses.2 ends)).imp (by decide)).lead
      " FROM ".toList
  have parts := ((tellsApart_items dialect).append source fun parts rest _ => by
    rw [List.append_assoc]
    exact ends_append (List.mem_singleton_self " FROM ") _).lead "SELECT ".toList
  rw [written_select, written_select] at same
  have views : (items, table, conditions, orderBy) =
      (otherItems, otherTable, otherConditions, otherOrderBy) := parts.injective same
  cases views
  rfl

/-- The parts of an insertion. Its placeholders do not matter, as there is one for each column. -/
theorem written_insert (statement : Insert) :
    ∃ marks : List Char, written dialect statement.tokens =
      "INSERT INTO ".toList ++ (written dialect [statement.table.token] ++
        (" (".toList ++ (written dialect
          (commaSeparated (statement.columns.map fun column => [.ident column])) ++
            (") VALUES (".toList ++ marks)))) := by
  have lead : written dialect [.insert, .space, .into, .space] = "INSERT INTO ".toList := rfl
  have opening : written dialect [.space, .leftParen] = " (".toList := rfl
  have middle : written dialect [.rightParen, .space, .values, .space, .leftParen] =
      ") VALUES (".toList := rfl
  have split : statement.tokens =
      ([.insert, .space, .into, .space] : List Token) ++ [statement.table.token] ++
      ([.space, .leftParen] : List Token) ++
      commaSeparated (statement.columns.map fun column => [Token.ident column]) ++
      ([.rightParen, .space, .values, .space, .leftParen] : List Token) ++
      commaSeparated (statement.columns.map fun _ => [Token.placeholder]) ++
      [Token.rightParen] := rfl
  refine ⟨written dialect (commaSeparated (statement.columns.map fun _ => [.placeholder])) ++
    written dialect [.rightParen], ?_⟩
  simp only [split, written_append, lead, opening, middle, List.append_assoc]

/-- What stands behind the columns of an insertion is determined by their number. -/
theorem insert_eq {first second : Insert}
    (same : written dialect first.tokens = written dialect second.tokens) : first = second := by
  obtain ⟨table, columns⟩ := first
  obtain ⟨otherTable, otherColumns⟩ := second
  obtain ⟨marks, firstWritten⟩ := written_insert dialect ⟨table, columns⟩
  obtain ⟨otherMarks, secondWritten⟩ := written_insert dialect ⟨otherTable, otherColumns⟩
  have listed := (tellsApart_columns dialect (by decide : FollowNames [") VALUES ("])
    (by decide)).lead " (".toList
  have parts := ((tellsApart_table dialect).append listed fun columns rest _ => by
    rw [List.append_assoc]
    exact (ends_append (List.mem_singleton_self " (") _).imp (by decide)).lead
      "INSERT INTO ".toList
  have behind (marks : List Char) : Ends [") VALUES ("] (") VALUES (".toList ++ marks) :=
    ends_append (List.mem_singleton_self _) marks
  rw [firstWritten, secondWritten] at same
  have views := (@parts (table, columns) (otherTable, otherColumns) _ _ (behind marks)
    (behind otherMarks) (by simpa only [List.append_assoc] using same)).1
  cases views
  rfl

/-- The parts of an update, in the order in which they are written. -/
theorem written_update (statement : Update) :
    written dialect statement.tokens =
      "UPDATE ".toList ++ (written dialect [statement.table.token] ++
        (" SET ".toList ++ (written dialect
          (commaSeparated (statement.columns.map assignmentTokens)) ++
            written dialect (whereTokens statement.conditions)))) := by
  have lead : written dialect [.update, .space] = "UPDATE ".toList := rfl
  have middle : written dialect [.space, .set, .space] = " SET ".toList := rfl
  have split : statement.tokens = ([.update, .space] : List Token) ++ [statement.table.token] ++
      ([.space, .set, .space] : List Token) ++
      commaSeparated (statement.columns.map assignmentTokens) ++
      whereTokens statement.conditions := rfl
  simp only [split, written_append, lead, middle, List.append_assoc]

/-- The parts of a deletion, in the order in which they are written. -/
theorem written_delete (statement : Delete) :
    written dialect statement.tokens =
      "DELETE FROM ".toList ++ (written dialect [statement.table.token] ++
        written dialect (whereTokens statement.conditions)) := by
  have lead : written dialect [.delete, .space, .from, .space] = "DELETE FROM ".toList := rfl
  have split : statement.tokens =
      ([.delete, .space, .from, .space] : List Token) ++ [statement.table.token] ++
      whereTokens statement.conditions := rfl
  simp only [split, written_append, lead, List.append_assoc]

/-- Updates with the same text are the same. -/
theorem update_eq {first second : Update}
    (same : written dialect first.tokens = written dialect second.tokens) : first = second := by
  obtain ⟨table, columns, conditions⟩ := first
  obtain ⟨otherTable, otherColumns, otherConditions⟩ := second
  have conditioned := (tellsApart_where dialect).imp fun rest (ends : Ends [] rest) =>
    ends.imp (by decide)
  have assigned := ((tellsApart_assignments dialect).append conditioned
    fun conditions rest => ends_where dialect conditions).lead " SET ".toList
  have parts := ((tellsApart_table dialect).append assigned fun assigned rest _ => by
    rw [List.append_assoc]
    exact (ends_append (List.mem_singleton_self " SET ") _).imp (by decide)).lead
      "UPDATE ".toList
  rw [written_update, written_update] at same
  have views : (table, columns, conditions) = (otherTable, otherColumns, otherConditions) :=
    parts.injective same
  cases views
  rfl

/-- Deletions with the same text are the same. -/
theorem delete_eq {first second : Delete}
    (same : written dialect first.tokens = written dialect second.tokens) : first = second := by
  obtain ⟨table, conditions⟩ := first
  obtain ⟨otherTable, otherConditions⟩ := second
  have conditioned := (tellsApart_where dialect).imp fun rest (ends : Ends [] rest) =>
    ends.imp (by decide)
  have parts := ((tellsApart_table dialect).append conditioned fun conditions rest ends =>
    (ends_where dialect conditions ends).imp (by decide)).lead "DELETE FROM ".toList
  rw [written_delete, written_delete] at same
  have views : (table, conditions) = (otherTable, otherConditions) := parts.injective same
  cases views
  rfl

/-- The first character of the statements of a kind. -/
def Statement.initial : Statement → Char
  | select _ => 'S'
  | insert _ => 'I'
  | update _ => 'U'
  | delete _ => 'D'

/-- The first letter of a statement tells its kind. -/
theorem head?_written (statement : Statement) :
    (written dialect statement.tokens).head? = some statement.initial := by
  cases statement with
  | select statement =>
      rw [Statement.tokens, written_select]
      rfl
  | insert statement =>
      obtain ⟨marks, whole⟩ := written_insert dialect statement
      rw [Statement.tokens, whole]
      rfl
  | update statement =>
      rw [Statement.tokens, written_update]
      rfl
  | delete statement =>
      rw [Statement.tokens, written_delete]
      rfl

/-- Statements with the same text are of the same kind. -/
theorem initial_eq {first second : Statement}
    (same : written dialect first.tokens = written dialect second.tokens) :
    first.initial = second.initial := by
  refine Option.some.inj ?_
  rw [← head?_written dialect first, ← head?_written dialect second, same]

/-- **Quoted statements can be read in one way.** Two statements have the same text only if they
are the same statement. -/
theorem text_eq_iff (first second : Statement) :
    first.text { dialect, quoteIdentifiers := true } =
        second.text { dialect, quoteIdentifiers := true } ↔
      first = second := by
  constructor
  · intro texts
    have same : written dialect first.tokens = written dialect second.tokens :=
      congrArg String.toList texts
    have initials := initial_eq dialect same
    rcases first with first | first | first | first <;>
      rcases second with second | second | second | second
    case select.select => exact congrArg Statement.select (@select_eq dialect first second same)
    case insert.insert => exact congrArg Statement.insert (@insert_eq dialect first second same)
    case update.update => exact congrArg Statement.update (@update_eq dialect first second same)
    case delete.delete => exact congrArg Statement.delete (@delete_eq dialect first second same)
    all_goals simp [Statement.initial] at initials
  · rintro rfl
    rfl

end DataAccess.Sql
