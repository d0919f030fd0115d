import DataAccess.Proofs.Layout.Brackets
import DataAccess.TypeScript.Source

/-!
# Blocks of source files

The blocks of a source file are its namespace, its class, the methods, the branches inside them and
the object literals that are spread over lines (`fileBlocks`). The lines of a file are the same for
every unit of indentation, and each stands as deep as there are blocks open around it
(`source_isLaidOut`).
-/

namespace DataAccess.TypeScript

open Code Layout

/-- A block of a source file. -/
inductive Block where
  | inNamespace (name : String)
  | ofClass (name : String)
  | ofMethod (method : Method)
  /-- What is done where a condition holds. -/
  | branch (condition : Expr)
  /-- The entries of an object literal, behind what leads to it. -/
  | literal (lead : String)

/-- The lines around a block. -/
def Block.ends (className : String) : Block → BlockEnds
  | inNamespace name => ⟨opening ("export namespace " ++ name), "\x7d"⟩
  | ofClass name => ⟨opening ("export class " ++ name), "\x7d"⟩
  | ofMethod method => ⟨opening (methodHead className method), "\x7d"⟩
  | branch condition => ⟨opening ("if (" ++ exprText className condition ++ ")"), "\x7d"⟩
  | literal lead => ⟨lead ++ "\x7b", "\x7d;"⟩

/-- Only an object literal with entries is spread over lines. -/
def literalBlocks (lead : String) : Expr → List Block
  | .map (_ :: _) => [.literal lead]
  | _ => []

mutual

/-- The blocks of a statement, in the order in which they are opened. -/
def stmtBlocks (className : String) : Stmt → List Block
  | .declare name mutable type value => literalBlocks (declarationLead name mutable type) value
  | .assign target value => literalBlocks (exprText className target ++ " = ") value
  | .when condition body => .branch condition :: bodyBlocks className body
  | .result value => literalBlocks "return " value
  | .append _ _ | .push _ _ | .run _ => []

def bodyBlocks (className : String) : List Stmt → List Block
  | [] => []
  | statement :: rest => stmtBlocks className statement ++ bodyBlocks className rest

end

def memberBlocks (className : String) : Member → List Block
  | .property _ => []
  | .method method => .ofMethod method :: bodyBlocks className method.body

def classBlocks (recordClass : RecordClass) : List Block :=
  .ofClass recordClass.name :: recordClass.members.flatMap (memberBlocks recordClass.name)

/-- The blocks of the file of a class, in the order in which they are opened. -/
def fileBlocks (recordClass : RecordClass) : List Block :=
  if recordClass.namespaceName.isEmpty then classBlocks recordClass
  else .inNamespace recordClass.namespaceName :: classBlocks recordClass

theorem opening_ne_empty (head : String) : opening head ≠ "" :=
  append_ne_empty (by decide) head

section Statements

variable (className : String)

theorem hasBlocks_value (lead : String) (value : Expr) :
    HasBlocks [valueOutline className lead value]
      ((literalBlocks lead value).map (Block.ends className)) := by
  have plain : HasBlocks [.line (lead ++ exprText className value ++ ";")] [] :=
    HasBlocks.oneLine (append_ne_empty (by decide) _)
  cases value with
  | map entries =>
      cases entries with
      | nil => exact plain
      | cons entry entries =>
          refine .oneBlock (append_ne_empty (by decide) _) (.ofLines ?_) (by decide)
          intro content member
          obtain ⟨other, -, rfl⟩ := List.mem_map.mp member
          exact append_ne_empty (by decide) _
  | _ => exact plain

mutual

theorem hasBlocks_stmt : ∀ statement : Stmt,
    HasBlocks [stmtOutline className statement]
      ((stmtBlocks className statement).map (Block.ends className))
  | .declare name mutable type value => hasBlocks_value className _ value
  | .assign target value => hasBlocks_value className _ value
  | .append name text => .oneLine (append_ne_empty (by decide) _)
  | .push list value => .oneLine (append_ne_empty (by decide) _)
  | .when condition body =>
      HasBlocks.oneBlock (opening_ne_empty _) (hasBlocks_body body) (by decide)
  | .result value => hasBlocks_value className _ value
  | .run value => .oneLine (append_ne_empty (by decide) _)

theorem hasBlocks_body : ∀ body : List Stmt,
    HasBlocks (bodyOutline className body)
      ((bodyBlocks className body).map (Block.ends className))
  | [] => .nil
  | statement :: rest => by
      rw [bodyBlocks, List.map_append]
      exact (hasBlocks_stmt statement).append (hasBlocks_body rest)

end

theorem hasBlocks_doc (isAsync : Bool) (doc : Option Doc) :
    HasBlocks (docOutline isAsync doc) [] := by
  cases doc with
  | none => exact .nil
  | some doc =>
      rw [docOutline]
      split
      · split
        · exact .oneLine (append_ne_empty (by decide) _)
        · exact .nil
      · exact .ofLines fun content => ne_empty_of_mem_docLines

theorem propertyLine_ne_empty (property : Property) : propertyLine property ≠ "" := by
  rw [propertyLine]
  split <;> exact append_ne_empty (by decide) _

theorem hasBlocks_member (member : Member) :
    HasBlocks (memberOutline className member)
      ((memberBlocks className member).map (Block.ends className)) := by
  cases member with
  | property property =>
      exact (hasBlocks_doc false property.doc).append (HasBlocks.oneLine (propertyLine_ne_empty _))
  | method method =>
      exact (hasBlocks_doc method.isAsync method.doc).append
        (HasBlocks.oneBlock (opening_ne_empty _) (hasBlocks_body className method.body) (by decide))

theorem hasBlocks_members : ∀ members : List Member,
    HasBlocks (membersOutline className members)
      ((members.flatMap (memberBlocks className)).map (Block.ends className))
  | [] => .nil
  | [only] => by
      rw [List.flatMap_singleton]
      exact hasBlocks_member className only
  | first :: next :: rest => by
      have gap : HasBlocks (if isCompact first next then [] else [.blank]) [] := by
        split
        · exact .nil
        · exact .blank .nil
      rw [List.flatMap_cons, List.map_append, membersOutline]
      have front := (hasBlocks_member className first).append gap
      rw [List.append_nil] at front
      exact front.append (hasBlocks_members (next :: rest))

end Statements

theorem hasBlocks_class (recordClass : RecordClass) :
    HasBlocks [classOutline recordClass]
      ((classBlocks recordClass).map (Block.ends recordClass.name)) :=
  HasBlocks.oneBlock (opening_ne_empty _)
    (hasBlocks_members recordClass.name recordClass.members) (by decide)

theorem hasBlocks_imports (runtimeModule : String) (imports : List String) :
    HasBlocks (importOutline runtimeModule imports) [] := by
  rw [importOutline]
  split
  · exact .nil
  · exact .line (append_ne_empty (by decide) _) (.blank .nil)

/-- The blocks of the outline of a file are those of its class. -/
theorem hasBlocks_file (runtimeModule : String) (recordClass : RecordClass) :
    HasBlocks (fileOutline runtimeModule recordClass)
      ((fileBlocks recordClass).map (Block.ends recordClass.name)) := by
  have front : HasBlocks ([.line (header recordClass), .blank] ++
      importOutline runtimeModule recordClass.imports) [] :=
    .line (ne_empty_append (by decide) _) (.blank (hasBlocks_imports runtimeModule _))
  refine front.append ?_
  rw [fileBlocks]
  split
  · exact hasBlocks_class recordClass
  · exact .oneBlock (opening_ne_empty _) (hasBlocks_class recordClass) (by decide)

/-- **A source file is one list of lines, whatever the unit of indentation is.** A line stands as
deep as there are blocks open around it, unless it is blank; the lines that open blocks are those of
the blocks of the class, and every one of them is closed at its depth. -/
theorem source_isLaidOut (runtimeModule : String) (recordClass : RecordClass) :
    ∃ lines : List PlacedLine,
      (∀ indent : Indent,
        source { runtimeModule, indent } recordClass =
            String.join (lines.map (PlacedLine.written indent.unit)) ∧
          (Outline.writeAll (.new indent) (fileOutline runtimeModule recordClass)).depth = 0) ∧
      IsBracketed lines ∧
      lines.filterMap PlacedLine.ends? =
        (fileBlocks recordClass).map (Block.ends recordClass.name) := by
  have has := hasBlocks_file runtimeModule recordClass
  refine ⟨Outline.placedAll 0 (fileOutline runtimeModule recordClass), fun indent => ⟨?_, ?_⟩,
    has.isBracketed, has.ends_placedAll 0⟩
  · exact Outline.text_eq_written indent _
  · exact Outline.depth_writeAll indent _

end DataAccess.TypeScript
