import DataAccess.Proofs.Code.Subexpressions
import DataAccess.Proofs.TypeScript.Levels
import Mathlib.Data.List.Chain

/-!
# Expressions whose text can be read

What the names and operands of an expression have to be like so that its text falls into the right
tokens (`isPlaced`), and what the bodies of its arrow functions must not begin with so that the
tokens mean what the expression does (`opensBlock`). The text of a placed expression is scanned as
its lexemes (`scan_exprText`).
-/

namespace DataAccess.TypeScript

open Code

/-- An identifier that is no keyword. -/
def isClassName (name : String) : Bool :=
  isPlainKey name && !keywords.contains name

/-- Whether all classes that a type names have names that can be read. -/
def namesClasses : Ty → Bool
  | .nullable inner => namesClasses inner
  | .list item => namesClasses item
  | .object className => isClassName className
  | _ => true

/-- How tightly the text of an expression holds together. The sign of an integer is an operator, and
its digits would go on with a dot. -/
def levelOf : Expr → Strength
  | .int _ => .unary
  | expr => strengthOf expr

/-- Whether an expression stands without parentheses where at least the given strength is asked
for. -/
def standsAt (least : Strength) (expr : Expr) : Bool :=
  least.rank ≤ (strengthOf expr).rank

/-- Whether the text of an expression begins with an object literal: the expression is one, or its
first operand outside parentheses is. -/
def opensWithMap : Expr → Bool
  | .map _ => true
  | .field first _ | .index first _ | .isEmpty first | .first first | .call first _ _
  | .mapRows first _ _ _ | .formatTimestamp first .iso =>
    standsAt .postfixed first && opensWithMap first
  | .greater first _ | .equal first _ | .isNull first => standsAt .unary first && opensWithMap first
  | .ternary first _ _ => standsAt .equality first && opensWithMap first
  | _ => false

/-- Whether an expression is an integer, whose digits a dot would join. -/
def isInteger : Expr → Bool
  | .int _ => true
  | _ => false

/-- Only integers are read at another level than they are printed at. -/
theorem levelOf_of_noInteger {expr : Expr} (noInteger : isInteger expr = false) :
    levelOf expr = strengthOf expr := by
  cases expr <;> first | rfl | cases noInteger

/-- What an expression asks of its names and operands. -/
def isPlaced : Expr → Bool
  | .var name => isPlainKey name
  | .field target name => isPlainKey name && !isInteger target
  | .index target _ => !isInteger target
  | .isEmpty value | .first value | .formatTimestamp value .iso => !isInteger value
  | .cast value type => standsAt .unary value && namesClasses type
  | .call target method _ => isPlainKey method && !isInteger target
  | .selfCall method _ => isPlainKey method
  | .new created _ => isClassName created
  | .mapRows source param itemType _ =>
    !isInteger source && isPlainKey param && namesClasses itemType
  | _ => true

/-- Whether an expression maps rows to what begins with an object literal. The brace would open a
block there. -/
def opensBlock : Expr → Bool
  | .mapRows _ _ _ body => opensWithMap body
  | _ => false

/-- Whether all parts of an expression are placed. -/
def IsPlaced (expr : Expr) : Prop :=
  ∀ part ∈ expr.parts, isPlaced part = true

/-- Whether no part of an expression opens a block. -/
def OpensNoBlock (expr : Expr) : Prop :=
  ∀ part ∈ expr.parts, opensBlock part = false

instance (expr : Expr) : Decidable (IsPlaced expr) :=
  inferInstanceAs (Decidable (∀ part ∈ expr.parts, isPlaced part = true))

instance (expr : Expr) : Decidable (OpensNoBlock expr) :=
  inferInstanceAs (Decidable (∀ part ∈ expr.parts, opensBlock part = false))

/-- The lexemes of expressions, one by one. -/
theorem allLexemes_eq (className : String) (items : List Expr) :
    allLexemes className items = items.map (exprLexemes className) := by
  induction items with
  | nil => rfl
  | cons item items ih => rw [allLexemes, ih, List.map_cons]

/-- The lexemes of entries, one by one. -/
theorem entriesLexemes_eq (className : String) (entries : List (String × Expr)) :
    entriesLexemes className entries = entries.map (entryLexemes className) := by
  induction entries with
  | nil => rfl
  | cons entry entries ih => rw [entriesLexemes, ih, List.map_cons]

/-- The name of a variable is a plain identifier. -/
theorem isPlainKey_binding {name : String} (plain : isPlainKey name = true) :
    isPlainKey (binding name) = true := by
  rw [binding]
  split
  · rw [isPlainKey] at plain ⊢
    rw [String.toList_append]
    cases chars : name.toList with
    | nil =>
        rw [chars] at plain
        cases plain
    | cons c rest =>
        rw [chars, Bool.and_eq_true] at plain
        simp only [List.cons_append, List.all_append, plain, Bool.true_and]
        rfl
  · exact plain

/-- Whether a lexeme stays apart from an expression before it. A dot does so only from one that is
tight, that is, does not end in a number. -/
def Lexeme.Separates (tight : Bool) : Lexeme → Prop
  | .word _ | .number _ => False
  | .symbol .dot => tight = true
  | _ => True

/-- Lexemes that can come after an expression. -/
structure Continues (tight : Bool) (next : List Lexeme) : Prop where
  chain : next.IsChain Lexeme.Joins
  first : ∀ lexeme ∈ next.head?, lexeme.Separates tight

/-- Lexemes whose words are identifiers and no two of which run together, whatever can come after an
expression follows them. -/
structure Neat (tight : Bool) (lexemes : List Lexeme) : Prop where
  plain : ∀ lexeme ∈ lexemes, lexeme.IsPlain
  chain : ∀ next, Continues tight next → (lexemes ++ next).IsChain Lexeme.Joins

/-- Lexemes that stay apart from anything. -/
def Lexeme.isFree : Lexeme → Bool
  | .literal _ | .space => true
  | .symbol mark =>
    [.comma, .colon, .openParen, .closeParen, .openBracket, .closeBracket, .openBrace, .closeBrace,
      .equal, .arrow].contains mark
  | _ => false

/-- A free lexeme may stand next to any other. -/
theorem joins_of_isFree {lexeme : Lexeme} (free : lexeme.isFree = true) (next : Lexeme) :
    lexeme.Joins next := by
  cases lexeme with
  | symbol mark => cases mark <;> trivial
  | word text => cases free
  | number value => cases free
  | literal text => trivial
  | space => trivial

namespace Neat

variable {tight : Bool} {lexemes : List Lexeme}

theorem nil : Neat tight [] := ⟨by rintro _ ⟨⟩, fun _ continues => continues.chain⟩

/-- What stays apart after a loose expression does so after a tight one. -/
theorem loosen (neat : Neat tight lexemes) : Neat false lexemes where
  plain := neat.plain
  chain next continues := by
    refine neat.chain next ⟨continues.chain, fun lexeme first => ?_⟩
    have separates := continues.first lexeme first
    cases lexeme with
    | symbol mark =>
        cases mark with
        | dot => cases separates
        | _ => trivial
    | word text => cases separates
    | number value => cases separates
    | literal text => trivial
    | space => trivial

/-- A word is neat. -/
theorem word {text : String} (plain : isPlainKey text = true) : Neat true [.word text] where
  plain := by
    rintro lexeme member
    cases List.mem_singleton.mp member
    exact plain
  chain next continues := by
    refine List.isChain_cons.mpr ⟨fun lexeme first => ?_, continues.chain⟩
    have separates := continues.first lexeme first
    cases lexeme with
    | word text => cases separates
    | number value => cases separates
    | _ => trivial

/-- A number is neat, but not in front of a dot. -/
theorem number (value : Int64) : Neat false [.number value] where
  plain := by
    rintro lexeme member
    cases List.mem_singleton.mp member
    trivial
  chain next continues := by
    refine List.isChain_cons.mpr ⟨fun lexeme first => ?_, continues.chain⟩
    have separates := continues.first lexeme first
    cases lexeme with
    | symbol mark =>
        cases mark with
        | dot => cases separates
        | _ => trivial
    | word text => cases separates
    | number value => cases separates
    | literal text => trivial
    | space => trivial

/-- A free lexeme goes before anything. -/
theorem free {lexeme : Lexeme} (free : lexeme.isFree = true) (neat : Neat tight lexemes) :
    Neat tight (lexeme :: lexemes) where
  plain := by
    refine List.forall_mem_cons.mpr ⟨?_, neat.plain⟩
    cases lexeme with
    | word text => cases free
    | _ => trivial
  chain next continues :=
    List.isChain_cons.mpr ⟨fun other _ => joins_of_isFree free other, neat.chain next continues⟩

/-- Any lexeme goes before one that it stays apart from. -/
theorem cons {first second : Lexeme} (plain : first.IsPlain) (joins : first.Joins second)
    (neat : Neat tight (second :: lexemes)) : Neat tight (first :: second :: lexemes) where
  plain := List.forall_mem_cons.mpr ⟨plain, neat.plain⟩
  chain next continues := List.isChain_cons_cons.mpr ⟨joins, neat.chain next continues⟩

/-- Neat lexemes go before others that begin with one that stays apart from them. -/
theorem append {inner : Bool} {first : Lexeme} {rest : List Lexeme} (before : Neat inner lexemes)
    (separates : first.Separates inner) (after : Neat tight (first :: rest)) :
    Neat tight (lexemes ++ first :: rest) where
  plain := List.forall_mem_append.mpr ⟨before.plain, after.plain⟩
  chain next continues := by
    rw [List.append_assoc]
    refine before.chain _ ⟨after.chain next continues, ?_⟩
    rintro lexeme ⟨⟩
    exact separates

/-- What stands between parentheses is neat in any place. -/
theorem parenthesized (neat : Neat tight lexemes) :
    Neat true (TypeScript.parenthesized lexemes) :=
  free rfl (neat.append trivial (free rfl nil))

/-- An operand may be put between parentheses. -/
theorem enclosed (neat : Neat tight lexemes) (least actual : Strength) :
    Neat false (enclosed least actual lexemes) := by
  rw [TypeScript.enclosed]
  split
  · exact neat.parenthesized.loosen
  · exact neat.loosen

/-- Neat groups are neat with commas between them. -/
theorem commaSeparated {groups : List (List Lexeme)} (each : ∀ group ∈ groups, Neat false group) :
    Neat false (commaSeparated groups) := by
  induction groups with
  | nil => exact nil
  | cons first rest ih =>
      obtain ⟨now, later⟩ := List.forall_mem_cons.mp each
      cases rest with
      | nil => exact now
      | cons next rest => exact now.append trivial (free rfl (free rfl (ih later)))

end Neat

/-- A free lexeme may stand in front of a chain. -/
theorem isChain_free {lexeme : Lexeme} (free : lexeme.isFree = true) {next : List Lexeme}
    (chain : next.IsChain Lexeme.Joins) : (lexeme :: next).IsChain Lexeme.Joins :=
  List.isChain_cons.mpr ⟨fun other _ => joins_of_isFree free other, chain⟩

/-- What can come right after a type. -/
def Lexeme.EndsType (lexeme : Lexeme) : Prop :=
  lexeme = .space ∨ lexeme = .symbol .openBracket ∨ lexeme = .symbol .closeParen

/-- The lexemes of a type stay apart, and so do the last one and what comes after types. -/
theorem isChain_typeLexemes (type : Ty) {next : List Lexeme}
    (chain : next.IsChain Lexeme.Joins) (first : ∀ lexeme ∈ next.head?, lexeme.EndsType) :
    (typeLexemes type ++ next).IsChain Lexeme.Joins := by
  have named (name : String) {next : List Lexeme} (chain : next.IsChain Lexeme.Joins)
      (first : ∀ lexeme ∈ next.head?, lexeme.EndsType) :
      (Lexeme.word name :: next).IsChain Lexeme.Joins := by
    refine List.isChain_cons.mpr ⟨fun lexeme member => ?_, chain⟩
    rcases first lexeme member with rfl | rfl | rfl <;> trivial
  induction type generalizing next with
  | nullable inner ih =>
      rw [typeLexemes, List.append_assoc]
      refine ih (isChain_free rfl (List.isChain_cons_cons.mpr ⟨rfl, isChain_free rfl ?_⟩)) ?_
      · exact named "null" chain first
      · rintro lexeme ⟨⟩
        exact Or.inl rfl
  | list item ih =>
      have brackets : (Lexeme.symbol .openBracket :: .symbol .closeBracket :: next).IsChain
          Lexeme.Joins :=
        isChain_free rfl (isChain_free rfl chain)
      rw [typeLexemes, List.append_assoc]
      split
      · rw [parenthesized, List.cons_append, List.append_assoc]
        refine isChain_free rfl (ih (isChain_free rfl brackets) ?_)
        rintro lexeme ⟨⟩
        exact Or.inr (Or.inr rfl)
      · refine ih brackets ?_
        rintro lexeme ⟨⟩
        exact Or.inr (Or.inl rfl)
  | map =>
      have close : (Lexeme.symbol .greater :: next).IsChain Lexeme.Joins :=
        List.isChain_cons.mpr ⟨first, chain⟩
      refine List.isChain_cons_cons.mpr ⟨trivial, List.isChain_cons_cons.mpr ⟨⟨_, rfl⟩, ?_⟩⟩
      refine List.isChain_cons_cons.mpr ⟨trivial, isChain_free rfl (isChain_free rfl ?_)⟩
      exact List.isChain_cons_cons.mpr ⟨trivial, close⟩
  | object className => exact named className chain first
  | _ => exact named _ chain first

/-- The lexemes of a type that names classes are plain. -/
theorem isPlain_typeLexemes {type : Ty} (named : namesClasses type = true) :
    ∀ lexeme ∈ typeLexemes type, lexeme.IsPlain := by
  have fixed : ∀ text ∈ ["number", "boolean", "Date", "string", "null", "Row", "Record", "unknown",
      "Connection"], isPlainKey text = true := by decide
  induction type with
  | nullable inner ih =>
      have plain := ih named
      simp_all [typeLexemes, Lexeme.IsPlain, or_imp, forall_and]
  | list item ih =>
      have plain := ih named
      rw [typeLexemes]
      split <;> simp_all [parenthesized, Lexeme.IsPlain, or_imp, forall_and]
  | object className =>
      rw [namesClasses, isClassName, Bool.and_eq_true] at named
      simp [typeLexemes, Lexeme.IsPlain, named]
  | _ => simp_all [typeLexemes, Lexeme.IsPlain]

/-- A type may stand in front of what ends types. -/
theorem Neat.afterType {type : Ty} (named : namesClasses type = true) {tight : Bool}
    {first : Lexeme} {rest : List Lexeme} (ends : first.EndsType)
    (after : Neat tight (first :: rest)) : Neat tight (typeLexemes type ++ first :: rest) where
  plain := List.forall_mem_append.mpr ⟨isPlain_typeLexemes named, after.plain⟩
  chain next continues := by
    rw [List.append_assoc]
    refine isChain_typeLexemes type (after.chain next continues) ?_
    rintro lexeme ⟨⟩
    exact ends

/-- A cast is a call of a conversion, or an assertion. -/
theorem castLexemes_cases (type : Ty) :
    (∃ name ∈ ["Number", "Boolean", "String"], ∀ value node,
      castLexemes type value = .word name :: parenthesized value ∧
        castNode type node = .call (.identifier name) [node]) ∨
    ∃ target, (∀ value node,
      castLexemes type value =
          parenthesized (value ++ [.space, .word "as", .space] ++ typeLexemes target) ∧
        castNode type node = .asType node (typeNodeOf target)) ∧
      namesClasses target = namesClasses type := by
  have number : "Number" ∈ ["Number", "Boolean", "String"] := by decide
  have boolean : "Boolean" ∈ ["Number", "Boolean", "String"] := by decide
  have string : "String" ∈ ["Number", "Boolean", "String"] := by decide
  cases type with
  | nullable inner =>
      cases inner with
      | int => exact Or.inl ⟨_, number, fun _ _ => ⟨rfl, rfl⟩⟩
      | float => exact Or.inl ⟨_, number, fun _ _ => ⟨rfl, rfl⟩⟩
      | bool => exact Or.inl ⟨_, boolean, fun _ _ => ⟨rfl, rfl⟩⟩
      | text => exact Or.inl ⟨_, string, fun _ _ => ⟨rfl, rfl⟩⟩
      | _ => exact Or.inr ⟨_, fun _ _ => ⟨rfl, rfl⟩, rfl⟩
  | int => exact Or.inl ⟨_, number, fun _ _ => ⟨rfl, rfl⟩⟩
  | float => exact Or.inl ⟨_, number, fun _ _ => ⟨rfl, rfl⟩⟩
  | bool => exact Or.inl ⟨_, boolean, fun _ _ => ⟨rfl, rfl⟩⟩
  | text => exact Or.inl ⟨_, string, fun _ _ => ⟨rfl, rfl⟩⟩
  | _ => exact Or.inr ⟨_, fun _ _ => ⟨rfl, rfl⟩, rfl⟩

/-- A cast is neat where its value is. -/
theorem neat_castLexemes {type : Ty} (named : namesClasses type = true) {tight : Bool}
    {value : List Lexeme} (neat : Neat tight value) : Neat true (castLexemes type value) := by
  rcases castLexemes_cases type with ⟨name, fixed, cast⟩ | ⟨target, cast, same⟩
  · have plain : isPlainKey name = true := by
      have all : ∀ text ∈ ["Number", "Boolean", "String"], isPlainKey text = true := by decide
      exact all name fixed
    rw [(cast value .null).1]
    exact (Neat.word plain).append trivial neat.parenthesized
  · rw [(cast value .null).1]
    have asserted : Neat true (typeLexemes target ++ [.symbol .closeParen]) :=
      Neat.afterType (same.trans named) (Or.inr (Or.inr rfl)) (.free rfl .nil)
    have operator : Neat true (.space :: .word "as" :: .space ::
        (typeLexemes target ++ [.symbol .closeParen])) :=
      .free rfl (.cons (by decide : isPlainKey "as" = true) trivial (.free rfl asserted))
    have shape : parenthesized (value ++ [.space, .word "as", .space] ++ typeLexemes target) =
        .symbol .openParen :: (value ++ .space :: .word "as" :: .space ::
          (typeLexemes target ++ [.symbol .closeParen])) := by
      simp [parenthesized]
    rw [shape]
    exact .free rfl (neat.append trivial operator)

/-- The target of a postfix form ends where the form begins. -/
theorem neat_target {target : Expr} {lexemes : List Lexeme} (noInteger : isInteger target = false)
    (neat : Neat (levelOf target = .postfixed) lexemes) :
    Neat true (enclosed .postfixed (strengthOf target) lexemes) := by
  rw [levelOf_of_noInteger noInteger] at neat
  rw [enclosed]
  split
  · exact neat.parenthesized
  · next tight =>
      have postfixed : strengthOf target = .postfixed := by
        revert tight
        cases strengthOf target <;> decide
      rwa [postfixed, decide_eq_true rfl] at neat

theorem neat_keyLexeme (key : String) : Neat true [keyLexeme key] := by
  rw [keyLexeme]
  split
  · next plain => exact Neat.word plain
  · exact .free rfl .nil

/-- The name of a method and its arguments go after a target. -/
theorem neat_invocation {method : String} (plain : isPlainKey method = true) {tight : Bool}
    {args : List Lexeme} (neat : Neat tight args) :
    Neat true (.symbol .dot :: .word method :: parenthesized args) :=
  .cons trivial ⟨_, rfl⟩ ((Neat.word plain).append trivial neat.parenthesized)

/-- The name of a property goes after a target. -/
theorem Neat.member {name : String} (plain : isPlainKey name = true) {target : List Lexeme}
    (neat : Neat true target) : Neat true (target ++ [.symbol .dot, .word name]) :=
  neat.append rfl (.cons trivial ⟨_, rfl⟩ (.word plain))

/-- The operator of a comparison stands between spaces, so only its mark has to allow one. -/
theorem Neat.comparison (operator : Symbol) (joins : (Lexeme.symbol operator).Joins .space)
    {left right : List Lexeme} (before : Neat false left) (after : Neat false right) :
    Neat false (comparison operator left right) := by
  rw [TypeScript.comparison, List.append_assoc]
  exact before.append trivial (.free rfl (.cons trivial joins (.free rfl after)))

section Forms

variable {className : String}

/-- Items are neat with commas between them. -/
theorem neat_allLexemes {items : List Expr}
    (each : ∀ item ∈ items, Neat false (exprLexemes className item)) :
    Neat false (commaSeparated (allLexemes className items)) := by
  rw [allLexemes_eq]
  refine Neat.commaSeparated fun group member => ?_
  obtain ⟨item, inItems, rfl⟩ := List.mem_map.mp member
  exact each item inItems

/-- Entries are neat with commas between them. -/
theorem neat_entriesLexemes {entries : List (String × Expr)}
    (each : ∀ entry ∈ entries, Neat false (exprLexemes className entry.2)) :
    Neat false (commaSeparated (entriesLexemes className entries)) := by
  rw [entriesLexemes_eq]
  refine Neat.commaSeparated fun group member => ?_
  obtain ⟨⟨key, value⟩, inEntries, rfl⟩ := List.mem_map.mp member
  exact (neat_keyLexeme key).append trivial (.free rfl (.free rfl (each (key, value) inEntries)))

/-- An object literal is neat where its values are. -/
theorem neat_map {entries : List (String × Expr)}
    (each : ∀ entry ∈ entries, Neat false (exprLexemes className entry.2)) :
    Neat true (exprLexemes className (.map entries)) := by
  cases entries with
  | nil => exact .free rfl (.free rfl .nil)
  | cons entry entries =>
      have neat := neat_entriesLexemes each
      rw [entriesLexemes] at neat
      rw [exprLexemes, List.append_assoc]
      exact .free rfl (.free rfl (neat.append trivial (.free rfl (.free rfl .nil))))

/-- A conditional is neat where its three parts are. -/
theorem neat_ternary {condition whenTrue whenFalse : Expr}
    (first : Neat false (exprLexemes className condition))
    (second : Neat false (exprLexemes className whenTrue))
    (third : Neat false (exprLexemes className whenFalse)) :
    Neat false (exprLexemes className (.ternary condition whenTrue whenFalse)) := by
  have test := first.enclosed .equality (strengthOf condition)
  have chosen := second.enclosed .conditional (strengthOf whenTrue)
  have other := third.enclosed .conditional (strengthOf whenFalse)
  have branches : Neat false (enclosed .conditional (strengthOf whenTrue)
      (exprLexemes className whenTrue) ++ .space :: .symbol .colon :: .space ::
        enclosed .conditional (strengthOf whenFalse) (exprLexemes className whenFalse)) :=
    chosen.append trivial (.free rfl (.free rfl (.free rfl other)))
  rw [exprLexemes]
  simp only [List.append_assoc]
  exact test.append trivial (.free rfl (.cons trivial rfl (.free rfl branches)))

/-- The function from a row goes into the parentheses of a call. -/
theorem neat_mapRows {source body : Expr} {param : String} {itemType : Ty}
    (target : Neat true (enclosed .postfixed (strengthOf source) (exprLexemes className source)))
    (plain : isPlainKey (binding param) = true) (named : namesClasses itemType = true)
    (result : Neat false (exprLexemes className body)) :
    Neat true (exprLexemes className (.mapRows source param itemType body)) := by
  have row : Neat true [.word (binding param), .symbol .colon, .space, .word "Row"] :=
    (Neat.word plain).append trivial (.free rfl (.free rfl (.word (by decide))))
  have typed : Neat false (typeLexemes itemType ++
      .space :: .symbol .arrow :: .space :: exprLexemes className body) :=
    Neat.afterType named (Or.inl rfl) (.free rfl (.free rfl (.free rfl result)))
  have function : Neat false (parenthesized [.word (binding param), .symbol .colon, .space,
      .word "Row"] ++ .symbol .colon :: .space :: (typeLexemes itemType ++
        .space :: .symbol .arrow :: .space :: exprLexemes className body)) :=
    row.parenthesized.append trivial (.free rfl (.free rfl typed))
  have mapped := neat_invocation (by decide : isPlainKey "map" = true) function
  rw [exprLexemes]
  simp only [List.append_assoc]
  exact target.append rfl mapped

end Forms

/-- **The text of an expression is neat.** Only where it ends in a number, a dot cannot follow. -/
theorem neat_exprLexemes {className : String} (isName : isClassName className = true)
    {expr : Expr} (placed : IsPlaced expr) :
    Neat (levelOf expr = .postfixed) (exprLexemes className expr) := by
  rw [isClassName, Bool.and_eq_true] at isName
  refine Expr.ofParts (motive := fun expr =>
    Neat (levelOf expr = .postfixed) (exprLexemes className expr)) ?_ placed
  intro expr placed ih
  have operand (value : Expr) (inside : value ∈ expr.children) (least : Strength) :
      Neat false (enclosed least (strengthOf value) (exprLexemes className value)) :=
    (ih value inside).enclosed least (strengthOf value)
  have target (value : Expr) (inside : value ∈ expr.children)
      (noInteger : isInteger value = false) :
      Neat true (enclosed .postfixed (strengthOf value) (exprLexemes className value)) :=
    neat_target noInteger (ih value inside)
  have all {items : List Expr} (inside : ∀ item ∈ items, item ∈ expr.children) :
      Neat false (commaSeparated (allLexemes className items)) :=
    neat_allLexemes fun item member => (ih item (inside item member)).loosen
  cases expr with
  | var name => exact Neat.word (isPlainKey_binding placed)
  | this => exact Neat.word (by decide)
  | text value => exact Neat.free rfl Neat.nil
  | int value => exact Neat.number value
  | bool value => cases value <;> exact Neat.word (by decide)
  | null => exact Neat.word (by decide)
  | field value name =>
      rw [isPlaced, Bool.and_eq_true, Bool.not_eq_true'] at placed
      exact (target value List.mem_cons_self placed.2).member placed.1
  | index value key =>
      rw [isPlaced, Bool.not_eq_true'] at placed
      have neat := target value List.mem_cons_self placed
      exact neat.append trivial (.free rfl (.free rfl (.free rfl .nil)))
  | list items =>
      have neat := all fun item (member : item ∈ items) => member
      exact .free rfl (neat.append trivial (.free rfl .nil))
  | map entries =>
      exact neat_map fun entry member => (ih entry.2 (List.mem_map_of_mem member)).loosen
  | greater left right =>
      have first := operand left (by simp [Expr.children]) .unary
      have second := operand right (by simp [Expr.children]) .unary
      exact first.comparison .greater (Or.inl rfl) second
  | equal left right =>
      have first := operand left (by simp [Expr.children]) .unary
      have second := operand right (by simp [Expr.children]) .unary
      exact first.comparison .equal trivial second
  | ternary condition whenTrue whenFalse =>
      exact neat_ternary (ih condition (by simp [Expr.children])).loosen
        (ih whenTrue (by simp [Expr.children])).loosen
        (ih whenFalse (by simp [Expr.children])).loosen
  | isNull value =>
      have null : Neat false [.word "null"] := (Neat.word (by decide)).loosen
      exact (operand value List.mem_cons_self .unary).comparison .looselyEqual rfl null
  | isEmpty value =>
      rw [isPlaced, Bool.not_eq_true'] at placed
      have plain : isPlainKey "length" = true := by decide
      have length := (target value List.mem_cons_self placed).member plain
      exact length.loosen.comparison .equal trivial (.number 0)
  | first value =>
      rw [isPlaced, Bool.not_eq_true'] at placed
      have neat := target value List.mem_cons_self placed
      refine neat.append trivial (.free rfl ?_)
      exact (Neat.number 0).append trivial (.free rfl .nil)
  | cast value type =>
      rw [isPlaced, Bool.and_eq_true] at placed
      exact neat_castLexemes placed.2 (ih value List.mem_cons_self)
  | await value =>
      have neat := operand value List.mem_cons_self .unary
      exact .cons (by decide : isPlainKey "await" = true) trivial (.free rfl neat)
  | call value method args =>
      rw [isPlaced, Bool.and_eq_true, Bool.not_eq_true'] at placed
      have neat := target value List.mem_cons_self placed.2
      have given := all fun arg (member : arg ∈ args) => List.mem_cons_of_mem value member
      rw [exprLexemes, List.append_assoc]
      exact neat.append rfl (neat_invocation placed.1 given)
  | selfCall method args =>
      rw [isPlaced] at placed
      have given := all fun arg (member : arg ∈ args) => member
      exact (Neat.word isName.1).append rfl (neat_invocation placed given)
  | new created args =>
      rw [isPlaced, isClassName, Bool.and_eq_true] at placed
      have given := all fun arg (member : arg ∈ args) => member
      exact .cons (by decide : isPlainKey "new" = true) trivial
        (.free rfl ((Neat.word placed.1).append trivial given.parenthesized))
  | mapRows source param itemType body =>
      simp only [isPlaced, Bool.and_eq_true, Bool.not_eq_true'] at placed
      obtain ⟨⟨noInteger, plain⟩, named⟩ := placed
      exact neat_mapRows (target source List.mem_cons_self noInteger) (isPlainKey_binding plain)
        named (ih body (by simp [Expr.children])).loosen
  | parseTimestamp value =>
      have neat := ih value List.mem_cons_self
      exact (Neat.word (by decide)).append trivial neat.parenthesized
  | formatTimestamp value form =>
      have neat := ih value List.mem_cons_self
      cases form with
      | sql => exact (Neat.word (by decide)).append trivial neat.parenthesized
      | iso =>
          rw [isPlaced, Bool.not_eq_true'] at placed
          have noArgs : Neat true [] := Neat.nil
          exact (neat_target placed neat).append rfl (neat_invocation (by decide) noArgs)

/-- **The text of an expression is scanned as its lexemes.** -/
theorem scan_exprText {className : String} (isName : isClassName className = true) {expr : Expr}
    (placed : IsPlaced expr) :
    scan (exprText className expr).toList = some (tokensOf (exprLexemes className expr)) := by
  have neat := neat_exprLexemes isName placed
  refine scan_textOf neat.plain ?_
  simpa using neat.chain [] ⟨.nil, by rintro _ ⟨⟩⟩

end DataAccess.TypeScript
