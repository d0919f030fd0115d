import DataAccess.Members.Assembly

/-!
# Runtime symbols in printed code

The symbols of the runtime module that the code of a class refers to, place by place as the printer
writes them (`classSymbols`). Comments are no code.
-/

namespace DataAccess.TypeScript

open Code Members

/-- The symbols that a type is printed with. -/
def typeSymbols : Ty → List RuntimeSymbol
  | .nullable inner => typeSymbols inner
  | .list item => typeSymbols item
  | .row => [.row]
  | .connection => [.connection]
  | _ => []

/-- The symbols that an expression itself is printed with. A cast to a type without symbols may be
printed as a conversion, which has none either. -/
def ownSymbols : Expr → List RuntimeSymbol
  | .cast _ type => typeSymbols type
  | .mapRows _ _ itemType _ => .row :: typeSymbols itemType
  | .parseTimestamp _ => [.parseTimestamp]
  | .formatTimestamp _ .sql => [.formatTimestamp]
  | _ => []

mutual

/-- The types that variables are declared with in a statement. -/
def annotations : Stmt → List Ty
  | .declare _ _ type _ => type.toList
  | .when _ body => annotationsOfAll body
  | _ => []

def annotationsOfAll : List Stmt → List Ty
  | [] => []
  | statement :: rest => annotations statement ++ annotationsOfAll rest

end

/-- The types that are printed in the code of a member. A constructor is printed without the type
of a result. -/
def printedTypes : Member → List Ty
  | .property property => [property.type]
  | .method method =>
    method.params.map (·.type) ++
      (if method.kind = .constructor then [] else method.returns.toList) ++
      annotationsOfAll method.body

/-- The expressions that are printed in the code of a member, at any depth. -/
def printedExprs : Member → List Expr
  | .property _ => []
  | .method method =>
    (method.params.flatMap fun param => param.default.toList.flatMap Expr.parts) ++
      Stmt.partsOfAll method.body

/-- The symbols in the code of a member. -/
def memberSymbols (member : Member) : List RuntimeSymbol :=
  (printedTypes member).flatMap typeSymbols ++ (printedExprs member).flatMap ownSymbols

/-- The symbols in the code of a class. -/
def classSymbols (recordClass : RecordClass) : List RuntimeSymbol :=
  recordClass.members.flatMap memberSymbols

variable {symbol : RuntimeSymbol}

theorem eq_of_mem_typeSymbols {type : Ty} (printed : symbol ∈ typeSymbols type) :
    symbol = .connection ∨ symbol = .row := by
  induction type with
  | nullable inner ih => exact ih printed
  | list item ih => exact ih printed
  | row => exact Or.inr (List.mem_singleton.mp printed)
  | connection => exact Or.inl (List.mem_singleton.mp printed)
  | _ => cases printed

theorem mem_typeSymbols_of_mentions {named type : Ty} (stands : symbol ∈ typeSymbols named)
    (mentions : Ty.mentions named type = true) : symbol ∈ typeSymbols type := by
  induction type with
  | nullable inner ih =>
      rcases Bool.or_eq_true_iff.mp mentions with same | inside
      · exact beq_iff_eq.mp same ▸ stands
      · exact ih inside
  | list item ih =>
      rcases Bool.or_eq_true_iff.mp mentions with same | inside
      · exact beq_iff_eq.mp same ▸ stands
      · exact ih inside
  | _ => exact beq_iff_eq.mp mentions ▸ stands

theorem name_eq_iff (other : RuntimeSymbol) : symbol.name = other.name ↔ symbol = other := by
  cases symbol <;> cases other <;> decide

end DataAccess.TypeScript
