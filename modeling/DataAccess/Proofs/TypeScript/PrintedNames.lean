import DataAccess.Proofs.TypeScript.Comments
import DataAccess.Proofs.TypeScript.Placement
import DataAccess.TypeScript.Source

/-!
# Names in printed code

Text from outside the printer gets into code in two ways: as a name, which is printed as it is, and
in a string literal. Where no name holds a quote or a slash, the text of expressions and statements
has no comments, and it ends outside of literals (`isCode_exprText`, `IsCodeAll.body`).
-/

namespace DataAccess.TypeScript

open Code Layout

/-- The classes that a type names. -/
def typeNames : Ty → List String
  | .nullable inner => typeNames inner
  | .list item => typeNames item
  | .object className => [className]
  | _ => []

/-- The names that an expression itself is printed with. Keys are not among them: one that is not a
plain identifier is printed as a string literal. -/
def ownNames : Expr → List String
  | .var name => [name]
  | .field _ name => [name]
  | .cast _ type => typeNames type
  | .call _ method _ => [method]
  | .selfCall method _ => [method]
  | .new created _ => [created]
  | .mapRows _ param itemType _ => param :: typeNames itemType
  | _ => []

/-- The names in an expression. -/
def exprNames (expr : Expr) : List String :=
  expr.parts.flatMap ownNames

mutual

/-- The names in a statement. -/
def stmtNames : Stmt → List String
  | .declare name _ type value => name :: (type.toList.flatMap typeNames ++ exprNames value)
  | .assign target value => exprNames target ++ exprNames value
  | .append name _ => [name]
  | .push list value => list :: exprNames value
  | .when condition body => exprNames condition ++ bodyNames body
  | .result value => exprNames value
  | .run value => exprNames value

/-- The names in statements. -/
def bodyNames : List Stmt → List String
  | [] => []
  | statement :: rest => stmtNames statement ++ bodyNames rest

end

/-- The names in statements after each other are those of both. -/
theorem bodyNames_append (front back : List Stmt) :
    bodyNames (front ++ back) = bodyNames front ++ bodyNames back := by
  induction front with
  | nil => rfl
  | cons statement front ih =>
      rw [List.cons_append, bodyNames, bodyNames, ih, List.append_assoc]

/-- The names in a parameter: its own, those of its type and those of its default. -/
def paramNames (param : Parameter) : List String :=
  param.name :: (typeNames param.type ++ param.default.toList.flatMap exprNames)

/-- The names in the code of a member. -/
def memberNames : Member → List String
  | .property property => property.name :: typeNames property.type
  | .method method =>
    method.name :: (method.params.flatMap paramNames ++ method.returns.toList.flatMap typeNames ++
      bodyNames method.body)

/-- The names in the code of a class. -/
def classNames (recordClass : RecordClass) : List String :=
  recordClass.namespaceName :: recordClass.name ::
    (recordClass.imports ++ recordClass.members.flatMap memberNames)

/-- The names in an expression are its own ones and the ones in its children. -/
theorem exprNames_eq (expr : Expr) :
    exprNames expr = ownNames expr ++ expr.children.flatMap exprNames := by
  rw [exprNames, Expr.parts_eq, List.flatMap_cons, List.flatMap_assoc]
  rfl

/-- No comment and no literal begins in any of the names. -/
def AreOrdinary (names : List String) : Prop :=
  ∀ name ∈ names, IsOrdinary name

instance (names : List String) : Decidable (AreOrdinary names) :=
  inferInstanceAs (Decidable (∀ name ∈ names, IsOrdinary name))

@[simp]
theorem areOrdinary_nil : AreOrdinary [] := nofun

@[simp]
theorem areOrdinary_cons {name : String} {names : List String} :
    AreOrdinary (name :: names) ↔ IsOrdinary name ∧ AreOrdinary names :=
  List.forall_mem_cons

@[simp]
theorem areOrdinary_append {front back : List String} :
    AreOrdinary (front ++ back) ↔ AreOrdinary front ∧ AreOrdinary back :=
  List.forall_mem_append

@[simp]
theorem areOrdinary_flatMap {α : Type} {names : α → List String} {items : List α} :
    AreOrdinary (items.flatMap names) ↔ ∀ item ∈ items, AreOrdinary (names item) :=
  List.forall_mem_flatMap

/-- The names of a child are ordinary where those of the expression are. -/
theorem areOrdinary_child {expr child : Expr} (names : AreOrdinary (exprNames expr))
    (member : child ∈ expr.children) : AreOrdinary (exprNames child) := by
  rw [exprNames_eq, areOrdinary_append, areOrdinary_flatMap] at names
  exact names.2 child member

/-- Neither a comment nor a literal begins in a lexeme that is a word. Literals are complete. -/
def Lexeme.IsOrdinary : Lexeme → Prop
  | .word text => TypeScript.IsOrdinary text
  | _ => True

/-- Neither a comment nor a literal begins in any of the words. -/
def OrdinaryWords (lexemes : List Lexeme) : Prop :=
  ∀ lexeme ∈ lexemes, lexeme.IsOrdinary

section Words

variable {lexemes : List Lexeme}

@[simp]
theorem ordinaryWords_nil : OrdinaryWords [] := nofun

@[simp]
theorem ordinaryWords_cons {lexeme : Lexeme} :
    OrdinaryWords (lexeme :: lexemes) ↔ lexeme.IsOrdinary ∧ OrdinaryWords lexemes :=
  List.forall_mem_cons

@[simp]
theorem ordinaryWords_append {front back : List Lexeme} :
    OrdinaryWords (front ++ back) ↔ OrdinaryWords front ∧ OrdinaryWords back :=
  List.forall_mem_append

@[simp]
theorem isOrdinary_word {text : String} :
    (Lexeme.word text).IsOrdinary ↔ IsOrdinary text := Iff.rfl

@[simp]
theorem isOrdinary_number (value : Int64) : (Lexeme.number value).IsOrdinary := trivial

@[simp]
theorem isOrdinary_literal (text : String) : (Lexeme.literal text).IsOrdinary := trivial

@[simp]
theorem isOrdinary_symbol (mark : Symbol) : (Lexeme.symbol mark).IsOrdinary := trivial

@[simp]
theorem isOrdinary_space : Lexeme.space.IsOrdinary := trivial

/-- Parentheses are no words. -/
@[simp]
theorem ordinaryWords_parenthesized :
    OrdinaryWords (parenthesized lexemes) ↔ OrdinaryWords lexemes := by
  simp [parenthesized]

/-- An operand has the same words with parentheses and without. -/
@[simp]
theorem ordinaryWords_enclosed {least actual : Strength} :
    OrdinaryWords (enclosed least actual lexemes) ↔ OrdinaryWords lexemes := by
  rw [enclosed]
  split
  · exact ordinaryWords_parenthesized
  · exact Iff.rfl

/-- Commas between groups of lexemes are no words. -/
theorem ordinaryWords_commaSeparated {groups : List (List Lexeme)}
    (each : ∀ group ∈ groups, OrdinaryWords group) : OrdinaryWords (commaSeparated groups) := by
  induction groups with
  | nil => exact ordinaryWords_nil
  | cons first rest ih =>
      obtain ⟨now, later⟩ := List.forall_mem_cons.mp each
      cases rest with
      | nil => exact now
      | cons next rest => simp [commaSeparated, now, ih later]

end Words

/-- No comment and no literal begins with a character of identifiers. -/
theorem isOrdinary_of_isIdentifierPart {c : Char} (part : isIdentifierPart c = true) :
    isOrdinary c = true :=
  isOrdinary_of_class (by decide) part

/-- A plain key is ordinary. -/
theorem isOrdinary_of_isPlainKey {key : String} (plain : isPlainKey key = true) :
    IsOrdinary key := by
  rw [isPlainKey] at plain
  rw [isOrdinary_iff]
  cases chars : key.toList with
  | nil => exact List.forall_mem_nil _
  | cons c rest =>
      rw [chars, Bool.and_eq_true, List.all_eq_true] at plain
      exact List.forall_mem_cons.mpr
        ⟨isOrdinary_of_isIdentifierPart (isIdentifierPart_of_isStart plain.1),
          fun d later => isOrdinary_of_isIdentifierPart (plain.2 d later)⟩

/-- A name stays ordinary when it makes way for a reserved word. -/
theorem isOrdinary_binding {name : String} (ordinary : IsOrdinary name) :
    IsOrdinary (binding name) := by
  rw [binding]
  split
  · exact ordinary.append (by decide)
  · exact ordinary

/-- The words of a type are the names of classes and words of the language. -/
theorem ordinaryWords_typeLexemes {type : Ty} (names : AreOrdinary (typeNames type)) :
    OrdinaryWords (typeLexemes type) := by
  induction type with
  | nullable inner ih => simp +decide [typeLexemes, ih names]
  | list item ih =>
      rw [typeLexemes]
      split <;> simp [ih names]
  | object className => simpa [typeNames, typeLexemes] using names
  | _ => simp +decide [typeLexemes]

/-- A cast adds the words of its type to those of its value. -/
theorem ordinaryWords_castLexemes {type : Ty} {value : List Lexeme}
    (names : AreOrdinary (typeNames type)) (words : OrdinaryWords value) :
    OrdinaryWords (castLexemes type value) := by
  have asserted {target : Ty} (names : AreOrdinary (typeNames target)) :
      OrdinaryWords (parenthesized
        (value ++ [.space, .word "as", .space] ++ typeLexemes target)) := by
    simp +decide [words, ordinaryWords_typeLexemes names]
  have converted {name : String} (ordinary : IsOrdinary name) :
      OrdinaryWords (.word name :: parenthesized value) := by
    simp [ordinary, words]
  cases type with
  | nullable inner =>
      cases inner with
      | int | float => exact converted (by decide : IsOrdinary "Number")
      | bool => exact converted (by decide : IsOrdinary "Boolean")
      | text => exact converted (by decide : IsOrdinary "String")
      | _ => exact asserted names
  | int | float => exact converted (by decide : IsOrdinary "Number")
  | bool => exact converted (by decide : IsOrdinary "Boolean")
  | text => exact converted (by decide : IsOrdinary "String")
  | _ => exact asserted names

/-- A key is a plain identifier or a complete literal. -/
theorem isOrdinary_keyLexeme (key : String) : (keyLexeme key).IsOrdinary := by
  rw [keyLexeme]
  split
  · next plain => exact isOrdinary_of_isPlainKey plain
  · exact isOrdinary_literal key

/-- An entry adds its key to the words of its value. -/
theorem ordinaryWords_entryLexemes {className : String} {entry : String × Expr}
    (words : OrdinaryWords (exprLexemes className entry.2)) :
    OrdinaryWords (entryLexemes className entry) := by
  obtain ⟨key, value⟩ := entry
  simp [entryLexemes, isOrdinary_keyLexeme, words]

/-- The words of an expression are its names and words of the language. -/
theorem ordinaryWords_exprLexemes {className : String} (isName : IsOrdinary className)
    {expr : Expr} (names : AreOrdinary (exprNames expr)) :
    OrdinaryWords (exprLexemes className expr) := by
  refine Expr.ofParts (motive := fun expr => OrdinaryWords (exprLexemes className expr)) ?_
    (areOrdinary_flatMap.mp names)
  intro expr names ih
  have all {items : List Expr} (inside : ∀ item ∈ items, item ∈ expr.children) :
      OrdinaryWords (commaSeparated (allLexemes className items)) := by
    rw [allLexemes_eq]
    refine ordinaryWords_commaSeparated fun group member => ?_
    obtain ⟨item, inItems, rfl⟩ := List.mem_map.mp member
    exact ih item (inside item inItems)
  cases expr with
  | var name => simpa [exprLexemes] using isOrdinary_binding (areOrdinary_cons.mp names).1
  | bool value => cases value <;> simp +decide [exprLexemes]
  | list items =>
      have words := all fun item (member : item ∈ items) => member
      simp [exprLexemes, words]
  | map entries =>
      have each (entry : String × Expr) (member : entry ∈ entries) :
          OrdinaryWords (entryLexemes className entry) :=
        ordinaryWords_entryLexemes (ih entry.2 (List.mem_map_of_mem member))
      cases entries with
      | nil => simp [exprLexemes]
      | cons entry entries =>
          have words : OrdinaryWords (commaSeparated
              (entryLexemes className entry :: entriesLexemes className entries)) := by
            rw [entriesLexemes_eq, ← List.map_cons]
            refine ordinaryWords_commaSeparated fun group member => ?_
            obtain ⟨other, inEntries, rfl⟩ := List.mem_map.mp member
            exact each other inEntries
          simp [exprLexemes, words]
  | cast value type =>
      exact ordinaryWords_castLexemes names (ih value (List.mem_singleton_self value))
  | call target method args =>
      have words := all fun arg (member : arg ∈ args) => List.mem_cons_of_mem target member
      have first := ih target List.mem_cons_self
      simp [exprLexemes, first, (areOrdinary_cons.mp names).1, words]
  | selfCall method args =>
      have words := all fun arg (member : arg ∈ args) => member
      simp [exprLexemes, isName, (areOrdinary_cons.mp names).1, words]
  | new created args =>
      have words := all fun arg (member : arg ∈ args) => member
      simp +decide [exprLexemes, (areOrdinary_cons.mp names).1, words]
  | mapRows source param itemType body =>
      obtain ⟨param, types⟩ := areOrdinary_cons.mp names
      have rows := ih source List.mem_cons_self
      have item := ih body (List.mem_cons_of_mem _ (List.mem_singleton_self body))
      simp +decide [exprLexemes, rows, item, isOrdinary_binding param,
        ordinaryWords_typeLexemes types]
  | formatTimestamp value form =>
      have words := ih value (List.mem_singleton_self value)
      cases form <;> simp +decide [exprLexemes, words]
  | _ => simp_all +decide [exprLexemes, comparison, Expr.children, ownNames]

/-- Numbers are written with digits and a sign. -/
theorem isOrdinary_int64Text (value : Int64) : IsOrdinary (Numeral.int64Text value) := by
  have digits (n : Nat) : ∀ c ∈ Nat.toDigits 10 n, isOrdinary c = true := fun c member =>
    isOrdinary_of_isIdentifierPart (isIdentifierPart_of_isDigit
      (Nat.isDigit_of_mem_toDigits (by decide) (by decide) member))
  rw [isOrdinary_iff, Numeral.int64Text]
  cases value.toInt with
  | ofNat n =>
      rw [toList_ofNat]
      exact digits n
  | negSucc n =>
      rw [toList_negSucc]
      exact List.forall_mem_cons.mpr ⟨by decide, digits (n + 1)⟩

/-- The text of lexemes with ordinary words is code. -/
theorem isCode_textOf {lexemes : List Lexeme} (words : OrdinaryWords lexemes) :
    IsCode (textOf lexemes) := by
  induction lexemes with
  | nil => exact fun _ => rfl
  | cons lexeme rest ih =>
      obtain ⟨here, later⟩ := ordinaryWords_cons.mp words
      refine IsCode.append ?_ (ih later)
      cases lexeme with
      | word text => exact IsOrdinary.isCode here
      | number value => exact (isOrdinary_int64Text value).isCode
      | literal text => exact isCode_stringLiteral text
      | symbol mark => cases mark <;> exact IsOrdinary.isCode (by decide)
      | space => exact IsOrdinary.isCode (by decide)

/-- **The text of an expression has no comments**, and ends outside of literals. -/
theorem isCode_exprText {className : String} (isName : IsOrdinary className) {expr : Expr}
    (names : AreOrdinary (exprNames expr)) : IsCode (exprText className expr) :=
  isCode_textOf (ordinaryWords_exprLexemes isName names)

/-- There are no literals in types. -/
theorem isOrdinary_typeName {type : Ty} (names : AreOrdinary (typeNames type)) :
    IsOrdinary (typeName type) := by
  induction type with
  | nullable inner ih =>
      rw [typeName, typeLexemes, textOf_append]
      exact (ih names).append (by decide)
  | list item ih =>
      have brackets : IsOrdinary (textOf [.symbol .openBracket, .symbol .closeBracket]) := by decide
      rw [typeName, typeLexemes, textOf_append]
      refine IsOrdinary.append ?_ brackets
      split
      · rw [parenthesized, textOf, textOf_append]
        exact IsOrdinary.append (by decide) ((ih names).append (by decide))
      · exact ih names
  | object className =>
      exact IsOrdinary.append (areOrdinary_cons.mp names).1 (by decide)
  | _ => decide

/-- Whether all lines of an outline are code. -/
inductive IsCodeOutline : Outline → Prop where
  | line {content : String} (code : IsCode content) : IsCodeOutline (.line content)
  | block {opener closer : String} {body : List Outline} (opens : IsCode opener)
      (inside : ∀ outline ∈ body, IsCodeOutline outline) (closes : IsCode closer) :
      IsCodeOutline (.block opener body closer)

/-- The line that opens a block is code where its head is. -/
theorem isCode_opening {head : String} (code : IsCode head) : IsCode (opening head) :=
  code.append (IsOrdinary.isCode (by decide))

/-- What stands in front of the value of a declaration has neither comments nor literals. -/
theorem isOrdinary_declarationLead {name : String} (named : IsOrdinary name) (mutable : Bool)
    {type : Option Ty} (types : AreOrdinary (type.toList.flatMap typeNames)) :
    IsOrdinary (declarationLead name mutable type) := by
  have keyword : IsOrdinary (if mutable then "let " else "const ") := by
    cases mutable <;> decide
  have lead := keyword.append (isOrdinary_binding named)
  cases type with
  | none => exact (lead.append (by decide : IsOrdinary "")).append (by decide)
  | some type =>
      have annotation : IsOrdinary (": " ++ typeName type) :=
        IsOrdinary.append (by decide)
          (isOrdinary_typeName (areOrdinary_flatMap.mp types type (List.mem_singleton_self type)))
      exact (lead.append annotation).append (by decide)

variable {className : String}

/-- A statement that ends in a value is code, on one line or spread over several. -/
theorem isCodeOutline_value (isName : IsOrdinary className) {lead : String} (leads : IsCode lead)
    {value : Expr} (names : AreOrdinary (exprNames value)) :
    IsCodeOutline (valueOutline className lead value) := by
  have text := isCode_exprText isName names
  cases value with
  | map entries =>
      cases entries with
      | nil => exact .line ((leads.append text).append (IsOrdinary.isCode (by decide)))
      | cons entry entries =>
          refine .block (leads.append (IsOrdinary.isCode (by decide))) ?_
            (IsOrdinary.isCode (by decide))
          intro outline member
          obtain ⟨content, inContents, rfl⟩ := List.mem_map.mp member
          obtain ⟨other, inEntries, rfl⟩ := List.mem_map.mp inContents
          have inside : other.2 ∈ (Expr.map (entry :: entries)).children :=
            List.mem_map_of_mem inEntries
          have words := ordinaryWords_exprLexemes isName (areOrdinary_child names inside)
          exact .line ((isCode_textOf (ordinaryWords_entryLexemes words)).append
            (IsOrdinary.isCode (by decide)))
  | _ => exact .line ((leads.append text).append (IsOrdinary.isCode (by decide)))

mutual

/-- **The lines of a statement are code** where its names are ordinary. -/
theorem isCodeOutline_stmt (isName : IsOrdinary className) :
    ∀ {statement : Stmt}, AreOrdinary (stmtNames statement) →
      IsCodeOutline (stmtOutline className statement)
  | .declare name mutable type value, names => by
      simp only [stmtNames, areOrdinary_cons, areOrdinary_append] at names
      obtain ⟨named, types, values⟩ := names
      have lead := isOrdinary_declarationLead named mutable types
      exact isCodeOutline_value isName lead.isCode values
  | .assign target value, names => by
      obtain ⟨targets, values⟩ := areOrdinary_append.mp names
      exact isCodeOutline_value isName
        ((isCode_exprText isName targets).append (IsOrdinary.isCode (by decide))) values
  | .append name text, names => by
      have named := isOrdinary_binding (areOrdinary_cons.mp names).1
      exact .line (((named.append (by decide)).isCode.append (isCode_stringLiteral text)).append
        (IsOrdinary.isCode (by decide)))
  | .push list value, names => by
      obtain ⟨named, values⟩ := areOrdinary_cons.mp names
      have list := (isOrdinary_binding named).append (by decide : IsOrdinary ".push(")
      exact .line ((list.isCode.append (isCode_exprText isName values)).append
        (IsOrdinary.isCode (by decide)))
  | .when condition body, names => by
      obtain ⟨conditions, inside⟩ := areOrdinary_append.mp names
      refine .block (isCode_opening ?_) (isCodeOutline_body isName inside)
        (IsOrdinary.isCode (by decide))
      exact ((IsOrdinary.isCode (by decide)).append (isCode_exprText isName conditions)).append
        (IsOrdinary.isCode (by decide))
  | .result value, names => isCodeOutline_value isName (IsOrdinary.isCode (by decide)) names
  | .run value, names =>
      .line ((isCode_exprText isName names).append (IsOrdinary.isCode (by decide)))

/-- The lines of statements are code where their names are ordinary. -/
theorem isCodeOutline_body (isName : IsOrdinary className) :
    ∀ {body : List Stmt}, AreOrdinary (bodyNames body) →
      ∀ outline ∈ bodyOutline className body, IsCodeOutline outline
  | [], _ => nofun
  | statement :: rest, names => by
      obtain ⟨first, others⟩ := areOrdinary_append.mp names
      exact List.forall_mem_cons.mpr
        ⟨isCodeOutline_stmt isName first, isCodeOutline_body isName others⟩

end

/-- The line of a property has neither comments nor literals. -/
theorem isOrdinary_propertyLine {property : Property}
    (names : AreOrdinary (memberNames (.property property))) :
    IsOrdinary (propertyLine property) := by
  obtain ⟨named, types⟩ := areOrdinary_cons.mp names
  have type := isOrdinary_typeName types
  rw [propertyLine]
  split
  · exact ((((by decide : IsOrdinary "private ").append named).append (by decide)).append
      type).append (by decide)
  · exact ((named.append (by decide)).append type).append (by decide)

/-- A parameter is code, with its default and without. -/
theorem isCode_paramText (isName : IsOrdinary className) {param : Parameter}
    (names : AreOrdinary (paramNames param)) : IsCode (paramText className param) := by
  obtain ⟨name, type, default⟩ := param
  simp only [paramNames, areOrdinary_cons, areOrdinary_append] at names
  obtain ⟨named, types, defaults⟩ := names
  have declared : IsOrdinary (binding name ++ ": " ++ typeName type) :=
    ((isOrdinary_binding named).append (by decide)).append (isOrdinary_typeName types)
  cases default with
  | none => exact declared.isCode
  | some value =>
      have values := areOrdinary_flatMap.mp defaults value (List.mem_singleton_self value)
      exact (declared.append (by decide)).isCode.append (isCode_exprText isName values)

/-- What a method says of its result has neither comments nor literals. -/
theorem isOrdinary_returnsText {method : Method}
    (types : AreOrdinary (method.returns.toList.flatMap typeNames)) :
    IsOrdinary (returnsText method) := by
  have promise {type : String} (ordinary : IsOrdinary type) :
      IsOrdinary (promised method.isAsync type) := by
    rw [promised]
    split
    · exact ((by decide : IsOrdinary "Promise<").append ordinary).append (by decide)
    · exact ordinary
  rw [returnsText]
  split
  · decide
  · refine IsOrdinary.append (by decide) (promise ?_)
    cases returns : method.returns with
    | none => exact (by decide : IsOrdinary "void")
    | some type =>
        rw [returns] at types
        exact isOrdinary_typeName
          (areOrdinary_flatMap.mp types type (List.mem_singleton_self type))

/-- The head of a method is code where its names are ordinary. -/
theorem isCode_methodHead (isName : IsOrdinary className) {method : Method}
    (names : AreOrdinary (memberNames (.method method))) :
    IsCode (methodHead className method) := by
  simp only [memberNames, areOrdinary_cons, areOrdinary_append, areOrdinary_flatMap] at names
  obtain ⟨named, ⟨params, returns⟩, -⟩ := names
  have keyword {present : Prop} [Decidable present] {word : String} (ordinary : IsOrdinary word) :
      IsOrdinary (if present then word else "") := by
    split
    · exact ordinary
    · exact (by decide : IsOrdinary "")
  have front : IsOrdinary ((if method.isPrivate then "private " else "") ++
      (if method.kind = .static then "static " else "") ++
      (if method.isAsync then "async " else "") ++ method.name ++ "(") :=
    ((((keyword (by decide)).append (keyword (by decide))).append (keyword (by decide))).append
      named).append (by decide)
  have list : IsCode (Text.joinWith ", " (method.params.map (paramText className))) := by
    refine isCode_joinWith (IsOrdinary.isCode (by decide)) fun text member => ?_
    obtain ⟨param, inParams, rfl⟩ := List.mem_map.mp member
    exact isCode_paramText isName (params param inParams)
  have result := isOrdinary_returnsText (areOrdinary_flatMap.mpr returns)
  exact ((front.isCode.append list).append (IsOrdinary.isCode (by decide))).append result.isCode

end DataAccess.TypeScript
