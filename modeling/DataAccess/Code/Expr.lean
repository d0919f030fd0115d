import DataAccess.Code.Ty

/-!
# Expressions and statements of generated code

The expressions and statements that method bodies are made of: just enough for the life of a
record. A statement is walked in the order in which its parts are evaluated or written.
-/

namespace DataAccess.Code

/-- How a moment in time is turned into text. -/
inductive TimestampForm where
  /-- As bound into SQL statements, to the second. -/
  | sql
  /-- As serialized, to the millisecond. -/
  | iso
  deriving DecidableEq

/-- An expression. -/
inductive Expr where
  | var (name : String)
  | this
  | field (target : Expr) (name : String)
  /-- The cell of a column in a result row. -/
  | index (target : Expr) (key : String)
  | text (value : String)
  | int (value : Int64)
  | bool (value : Bool)
  | null
  | list (items : List Expr)
  | map (entries : List (String × Expr))
  | greater (left right : Expr)
  | equal (left right : Expr)
  | ternary (condition whenTrue whenFalse : Expr)
  | isNull (value : Expr)
  | isEmpty (value : Expr)
  | first (value : Expr)
  /-- A cell read as a value of a type. -/
  | cast (value : Expr) (type : Ty)
  | await (value : Expr)
  | call (target : Expr) (method : String) (args : List Expr)
  /-- A call of a static method of the class itself. -/
  | selfCall (method : String) (args : List Expr)
  | new (className : String) (args : List Expr)
  /-- The list of what `body` gives for each row of a list. -/
  | mapRows (source : Expr) (param : String) (itemType : Ty) (body : Expr)
  | parseTimestamp (value : Expr)
  | formatTimestamp (value : Expr) (form : TimestampForm)

/-- A statement. -/
inductive Stmt where
  /-- A new variable. -/
  | declare (name : String) (mutable : Bool) (type : Option Ty) (value : Expr)
  | assign (target value : Expr)
  /-- Adds a text to the end of the text in a variable. -/
  | append (name text : String)
  /-- Adds a value to the end of the list in a variable. -/
  | push (list : String) (value : Expr)
  /-- Runs the body where the condition holds. -/
  | when (condition : Expr) (body : List Stmt)
  /-- Ends the method with a value. -/
  | result (value : Expr)
  /-- Evaluates an expression and drops its value. -/
  | run (value : Expr)

mutual

/-- The expression and every expression inside it, each before its parts. -/
def Expr.parts : Expr → List Expr
  | .field target name => .field target name :: target.parts
  | .index target key => .index target key :: target.parts
  | .list items => .list items :: Expr.partsOfAll items
  | .map entries => .map entries :: Expr.partsOfEntries entries
  | .greater left right => .greater left right :: (left.parts ++ right.parts)
  | .equal left right => .equal left right :: (left.parts ++ right.parts)
  | .ternary condition whenTrue whenFalse =>
    .ternary condition whenTrue whenFalse ::
      (condition.parts ++ whenTrue.parts ++ whenFalse.parts)
  | .isNull value => .isNull value :: value.parts
  | .isEmpty value => .isEmpty value :: value.parts
  | .first value => .first value :: value.parts
  | .cast value type => .cast value type :: value.parts
  | .await value => .await value :: value.parts
  | .call target method args =>
    .call target method args :: (target.parts ++ Expr.partsOfAll args)
  | .selfCall method args => .selfCall method args :: Expr.partsOfAll args
  | .new className args => .new className args :: Expr.partsOfAll args
  | .mapRows source param itemType body =>
    .mapRows source param itemType body :: (source.parts ++ body.parts)
  | .parseTimestamp value => .parseTimestamp value :: value.parts
  | .formatTimestamp value form => .formatTimestamp value form :: value.parts
  | .var name => [.var name]
  | .this => [.this]
  | .text value => [.text value]
  | .int value => [.int value]
  | .bool value => [.bool value]
  | .null => [.null]

/-- The parts of expressions. -/
def Expr.partsOfAll : List Expr → List Expr
  | [] => []
  | expr :: rest => expr.parts ++ Expr.partsOfAll rest

/-- The parts of the value of an entry. -/
def Expr.partsOfEntry : String × Expr → List Expr
  | (_, value) => value.parts

/-- The parts of the values of entries. -/
def Expr.partsOfEntries : List (String × Expr) → List Expr
  | [] => []
  | entry :: rest => Expr.partsOfEntry entry ++ Expr.partsOfEntries rest

end

mutual

/-- The expressions in a statement with all of their parts. -/
def Stmt.parts : Stmt → List Expr
  | .declare _ _ _ value => value.parts
  | .assign target value => target.parts ++ value.parts
  | .append _ _ => []
  | .push _ value => value.parts
  | .when condition body => condition.parts ++ Stmt.partsOfAll body
  | .result value => value.parts
  | .run value => value.parts

/-- The expressions in statements with all of their parts. -/
def Stmt.partsOfAll : List Stmt → List Expr
  | [] => []
  | statement :: rest => statement.parts ++ Stmt.partsOfAll rest

end

theorem Expr.mem_parts_self (expr : Expr) : expr ∈ expr.parts := by
  cases expr <;> simp [Expr.parts]

end DataAccess.Code
