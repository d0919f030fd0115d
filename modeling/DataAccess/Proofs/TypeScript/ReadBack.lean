import DataAccess.Proofs.TypeScript.TypesReadBack

/-!
# Reading back expressions

The text of an expression is read as what the expression stands for (`parse?_exprText`). For the
induction, each expression is read at the level of the grammar that it belongs to, before tokens
that do not go on with it there (`Reads`); an operand then is read at the level that its place asks
for, as it is or between parentheses.
-/

namespace DataAccess.TypeScript

open Code

/-- Lexemes are read as a unary expression that stands for the node. -/
def ReadsUnary (lexemes : List Lexeme) (node : Node) : Prop :=
  ∀ rest, Stops 4 rest → readUnary (tokensOf lexemes ++ rest) = some (node, rest)

/-- The text of an expression is read as what it stands for, at the level of the expression and
whatever comes next, unless that holds on to it more tightly. -/
def Reads (className : String) (expr : Expr) : Prop :=
  let tokens := tokensOf (exprLexemes className expr)
  let node := nodeOf className expr
  match levelOf expr with
  | .postfixed => ∀ rest, readPostfix (tokens ++ rest) = readSuffixes node rest
  | .unary => ReadsUnary (exprLexemes className expr) node
  | .equality => ∀ rest, Stops 2 rest → readEquality (tokens ++ rest) = some (node, rest)
  | .conditional => ∀ rest, Stops 1 rest → readConditional (tokens ++ rest) = some (node, rest)

namespace Reads

variable {className : String} {expr : Expr} {rest : List Token}

/-- An expression that is tight enough is read where an operand is expected. -/
theorem unary (reads : Reads className expr)
    (tight : Strength.unary.rank ≤ (levelOf expr).rank) :
    ReadsUnary (exprLexemes className expr) (nodeOf className expr) := by
  intro rest stops
  rw [Reads] at reads
  cases level : levelOf expr with
  | postfixed =>
      simp only [level] at reads
      exact readUnary_of_readPostfix ((reads rest).trans (readSuffixes_of_stops stops))
  | unary =>
      simp only [level] at reads
      exact reads rest stops
  | equality => exact absurd tight (by rw [level]; decide)
  | conditional => exact absurd tight (by rw [level]; decide)

/-- An expression that is tight enough is read as one side of an equality. -/
theorem equality (reads : Reads className expr)
    (tight : Strength.equality.rank ≤ (levelOf expr).rank) (stops : Stops 2 rest) :
    readEquality (tokensOf (exprLexemes className expr) ++ rest) =
      some (nodeOf className expr, rest) := by
  by_cases tighter : Strength.unary.rank ≤ (levelOf expr).rank
  · exact readEquality_of_readRelational (readRelational_of_readUnary
      (reads.unary tighter rest (stops.mono (by decide))) (stops.mono (by decide))) stops
  · have level : levelOf expr = .equality := by
      revert tight tighter
      cases levelOf expr <;> decide
    rw [Reads] at reads
    simp only [level] at reads
    exact reads rest stops

/-- An expression stands as it is wherever a whole expression may stand. -/
theorem whole (reads : Reads className expr) (stops : Stops 1 rest) :
    readAssignment (tokensOf (exprLexemes className expr) ++ rest) =
      some (nodeOf className expr, rest) := by
  refine readAssignment_of_readConditional ?_
  by_cases tight : Strength.equality.rank ≤ (levelOf expr).rank
  · exact readConditional_of_readEquality (reads.equality tight (stops.mono (by decide))) stops
  · have level : levelOf expr = .conditional := by
      revert tight
      cases levelOf expr <;> decide
    rw [Reads] at reads
    simp only [level] at reads
    exact reads rest stops

/-- Between parentheses any expression is a primary one. -/
theorem parenthesized (reads : Reads className expr) (rest : List Token) :
    readPrimary (tokensOf (parenthesized (exprLexemes className expr)) ++ rest) =
      some (nodeOf className expr, rest) := by
  have inner := reads.whole
    (stops_cons (by decide : (Token.symbol .closeParen).reach < 1) rest)
  rw [tokensOf_parenthesized, readPrimary_parenthesized inner]

/-- Between parentheses every expression is read as an operand. -/
theorem parenthesizedUnary (reads : Reads className expr) :
    ReadsUnary (TypeScript.parenthesized (exprLexemes className expr)) (nodeOf className expr) :=
  fun rest stops => readUnary_of_readPostfix
    ((readPostfix_of_readPrimary (reads.parenthesized rest)).trans (readSuffixes_of_stops stops))

/-- A negative integer is looser than its printing, but tight enough for an operand. -/
theorem rank_levelOf {least : Strength} (loose : least.rank ≤ Strength.unary.rank)
    (tight : least.rank ≤ (strengthOf expr).rank) : least.rank ≤ (levelOf expr).rank := by
  cases expr with
  | int value => exact loose
  | _ => exact tight

/-- An operand of an operator. -/
theorem unaryOperand (reads : Reads className expr) :
    ReadsUnary (enclosed .unary (strengthOf expr) (exprLexemes className expr))
      (nodeOf className expr) := by
  rw [enclosed]
  split
  · exact reads.parenthesizedUnary
  · next tight => exact reads.unary (rank_levelOf (by decide) (Nat.le_of_not_lt tight))

/-- A condition of a conditional expression. -/
theorem equalityOperand (reads : Reads className expr) (stops : Stops 2 rest) :
    readEquality (tokensOf (enclosed .equality (strengthOf expr) (exprLexemes className expr)) ++
      rest) = some (nodeOf className expr, rest) := by
  rw [enclosed]
  split
  · have unary := reads.parenthesizedUnary rest (stops.mono (by decide))
    exact readEquality_of_readRelational
      (readRelational_of_readUnary unary (stops.mono (by decide))) stops
  · next tight => exact reads.equality (rank_levelOf (by decide) (Nat.le_of_not_lt tight)) stops

/-- The target of a postfix form. -/
theorem target (reads : Reads className expr) (noInteger : isInteger expr = false)
    (rest : List Token) :
    readPostfix (tokensOf (enclosed .postfixed (strengthOf expr) (exprLexemes className expr)) ++
      rest) = readSuffixes (nodeOf className expr) rest := by
  rw [enclosed]
  split
  · exact readPostfix_of_readPrimary (reads.parenthesized rest)
  · next tight =>
      have level : levelOf expr = .postfixed := by
        rw [levelOf_of_noInteger noInteger]
        revert tight
        cases strengthOf expr <;> decide
      rw [Reads] at reads
      simp only [level] at reads
      exact reads rest

end Reads

/-- The items of a list are read up to the bracket that closes it. -/
theorem readItems_allLexemes {className : String} {items : List Expr}
    (each : ∀ item ∈ items, Reads className item) {close : Symbol} (closes : close ∉ openers)
    (noComma : close ≠ .comma) (loose : (Token.symbol close).reach = 0) (rest : List Token) :
    readItems close (tokensOf (commaSeparated (allLexemes className items)) ++
      .symbol close :: rest) = some (nodesOf className items, rest) := by
  induction items with
  | nil => exact readItems_nil
  | cons item items ih =>
      obtain ⟨now, later⟩ := List.forall_mem_cons.mp each
      cases items with
      | nil =>
          have ends : (Token.symbol close).reach < 1 := loose ▸ Nat.one_pos
          exact readItems_last closes noComma (now.whole (stops_cons ends rest))
      | cons next items =>
          have first := now.whole (stops_cons (by decide : (Token.symbol .comma).reach < 1)
            (tokensOf (commaSeparated (allLexemes className (next :: items))) ++
              .symbol close :: rest))
          have shape : tokensOf (commaSeparated (allLexemes className (item :: next :: items))) ++
              .symbol close :: rest =
                tokensOf (exprLexemes className item) ++ .symbol .comma ::
                  (tokensOf (commaSeparated (allLexemes className (next :: items))) ++
                    .symbol close :: rest) := by
            simp [allLexemes, commaSeparated, Lexeme.tokens]
          rw [shape]
          exact readItems_cons closes first (ih later)

/-- The entries of an object literal are read as their keys and nodes. -/
theorem readEntries_entriesLexemes {className : String} {entries : List (String × Expr)}
    (filled : entries ≠ []) (each : ∀ entry ∈ entries, Reads className entry.2)
    (rest : List Token) :
    readEntries (tokensOf (commaSeparated (entriesLexemes className entries)) ++
      .symbol .closeBrace :: rest) = some (entryNodesOf className entries, rest) := by
  have keyed (key : String) (tokens : List Token) :
      readKey (tokensOf [keyLexeme key] ++ tokens) = some (key, tokens) := by
    rw [keyLexeme]
    split <;> rfl
  induction entries with
  | nil => exact absurd rfl filled
  | cons entry entries ih =>
      obtain ⟨key, value⟩ := entry
      obtain ⟨now, later⟩ := List.forall_mem_cons.mp each
      cases entries with
      | nil =>
          have shape : tokensOf (commaSeparated (entriesLexemes className [(key, value)])) ++
              .symbol .closeBrace :: rest =
                tokensOf [keyLexeme key] ++ .symbol .colon ::
                  (tokensOf (exprLexemes className value) ++ .symbol .closeBrace :: rest) := by
            simp [entriesLexemes, entryLexemes, commaSeparated, Lexeme.tokens]
          rw [shape, readEntries_of_readKey (keyed key _)
            (now.whole (stops_cons (by decide : (Token.symbol .closeBrace).reach < 1) rest)),
            readEntryTail_close]
          rfl
      | cons next entries =>
          have shape : tokensOf (commaSeparated
              (entriesLexemes className ((key, value) :: next :: entries))) ++
              .symbol .closeBrace :: rest =
                tokensOf [keyLexeme key] ++ .symbol .colon ::
                  (tokensOf (exprLexemes className value) ++ .symbol .comma ::
                    (tokensOf (commaSeparated (entriesLexemes className (next :: entries))) ++
                      .symbol .closeBrace :: rest)) := by
            simp [entriesLexemes, entryLexemes, commaSeparated, Lexeme.tokens]
          rw [shape, readEntries_of_readKey (keyed key _)
            (now.whole (stops_cons (by decide : (Token.symbol .comma).reach < 1) _)),
            readEntryTail_comma, ih (List.cons_ne_nil _ _) later]
          rfl

/-- A bound name is no reserved word, since no reserved word ends as a changed name does. -/
theorem binding_notMem (name : String) : binding name ∉ reservedWords := by
  have others : ∀ word ∈ reservedWords, word.toList.getLast? ≠ some '_' := by decide
  intro member
  rw [binding] at member
  split at member
  · refine others _ member ?_
    rw [String.toList_append]
    exact List.getLast?_concat
  · next free => exact free (List.contains_iff_mem.mpr member)

/-- The names of variables are no keywords. -/
theorem contains_binding (name : String) : keywords.contains (binding name) = false := by
  have reserved : keywords ⊆ reservedWords := by decide
  rw [← Bool.not_eq_true, List.contains_iff_mem]
  exact fun member => binding_notMem name (reserved member)

/-- A word that is no keyword is an identifier. -/
theorem wordNode?_of_plain {word : String} (plain : keywords.contains word = false) :
    wordNode? word = some (.identifier word) := by
  have other : word ≠ "this" ∧ word ≠ "null" ∧ word ≠ "true" ∧ word ≠ "false" := by
    refine ⟨?_, ?_, ?_, ?_⟩ <;> (rintro rfl; cases plain)
  rw [wordNode?, if_neg other.1, if_neg other.2.1, if_neg other.2.2.1, if_neg other.2.2.2, plain,
    if_neg Bool.false_ne_true]

/-- Behind an identifier its suffixes are read. -/
theorem readPostfix_identifier {word : String} (plain : keywords.contains word = false)
    (rest : List Token) :
    readPostfix (.word word :: rest) = readSuffixes (.identifier word) rest := by
  have other : word ≠ "new" := by
    rintro rfl
    cases plain
  exact readPostfix_of_readPrimary (readPrimary_word other (wordNode?_of_plain plain))

/-- The names of variables can be bound. -/
theorem isBindable_binding (name : String) : isBindable (binding name) = true := by
  have free (word : String) (reserved : word ∈ reservedWords) : binding name ≠ word := by
    rintro rfl
    exact binding_notMem name reserved
  have noArguments := free "arguments" (by decide)
  have noEval := free "eval" (by decide)
  rw [isBindable, contains_binding, bne_iff_ne.mpr noArguments, bne_iff_ne.mpr noEval]
  rfl

section Postfix

variable {className : String} {expr : Expr} {target node : Node} {nodes : List Node}

/-- A dot and a name take a member. -/
theorem readSuffixes_member {name : String} (rest : List Token) :
    readSuffixes target (tokensOf [.symbol .dot, .word name] ++ rest) =
      readSuffixes (.member target name) rest := by
  change readSuffixes target (.symbol .dot :: .word name :: rest) = _
  rw [readSuffixes]

/-- Arguments between parentheses call what stands before them. -/
theorem readSuffixes_call {args : List Lexeme}
    (given : ∀ rest, readItems .closeParen (tokensOf args ++ .symbol .closeParen :: rest) =
      some (nodes, rest)) (rest : List Token) :
    readSuffixes target (tokensOf (parenthesized args) ++ rest) =
      readSuffixes (.call target nodes) rest := by
  rw [tokensOf_parenthesized, readSuffixes, given, andThen_some (length_lt_append_cons _ _ _)]

/-- A dot, a name and arguments call a member. -/
theorem readSuffixes_invocation {method : String} {args : List Lexeme}
    (given : ∀ rest, readItems .closeParen (tokensOf args ++ .symbol .closeParen :: rest) =
      some (nodes, rest)) (rest : List Token) :
    readSuffixes target (tokensOf ([.symbol .dot, .word method] ++ parenthesized args) ++ rest) =
      readSuffixes (.call (.member target method) nodes) rest := by
  rw [tokensOf_append, List.append_assoc, readSuffixes_member, readSuffixes_call given]

/-- An element at a key of one lexeme. -/
theorem readSuffixes_element {key : Expr} {lexeme : Lexeme} (reads : Reads className key)
    (single : exprLexemes className key = [lexeme]) (rest : List Token) :
    readSuffixes target (tokensOf [.symbol .openBracket, lexeme, .symbol .closeBracket] ++ rest) =
      readSuffixes (.element target (nodeOf className key)) rest := by
  have shape : tokensOf [.symbol .openBracket, lexeme, .symbol .closeBracket] ++ rest =
      .symbol .openBracket :: (tokensOf (exprLexemes className key) ++
        .symbol .closeBracket :: rest) := by
    simp [single, Lexeme.tokens]
  have whole := reads.whole (stops_cons (by decide : (Token.symbol .closeBracket).reach < 1) rest)
  rw [shape, readSuffixes, whole, andThen_some (lt_of_readAssignment whole), expect_self,
    andThen_some (Nat.lt_succ_self _)]

/-- A postfix form is read as its suffix on its target. -/
theorem Reads.suffixed (reads : Reads className expr) (noInteger : isInteger expr = false)
    {suffix : List Lexeme}
    (suffixes : ∀ rest, readSuffixes (nodeOf className expr) (tokensOf suffix ++ rest) =
      readSuffixes node rest) (rest : List Token) :
    readPostfix (tokensOf (enclosed .postfixed (strengthOf expr) (exprLexemes className expr) ++
      suffix) ++ rest) = readSuffixes node rest := by
  rw [tokensOf_append, List.append_assoc, reads.target noInteger, suffixes]

/-- A call of a function by its name. -/
theorem Reads.helper (reads : Reads className expr) {name : String}
    (plain : keywords.contains name = false) (rest : List Token) :
    readPostfix (tokensOf (.word name :: TypeScript.parenthesized (exprLexemes className expr)) ++
      rest) = readSuffixes (.call (.identifier name) [nodeOf className expr]) rest := by
  refine (readPostfix_identifier plain _).trans (readSuffixes_call (fun rest => ?_) rest)
  exact readItems_last (by decide) (by decide)
    (reads.whole (stops_cons (by decide : (Token.symbol .closeParen).reach < 1) rest))

end Postfix

section Operators

variable {left right : List Lexeme} {leftNode rightNode : Node} {rest : List Token}

/-- Two operands with an equality between them are read as one. -/
theorem readEquality_comparison {operator : Symbol}
    (isEquality : operator = .equal ∨ operator = .looselyEqual)
    (first : ReadsUnary left leftNode) (second : ReadsUnary right rightNode)
    (stops : Stops 2 rest) :
    readEquality (tokensOf (comparison operator left right) ++ rest) =
      some (.binary operator leftNode rightNode, rest) := by
  have shape : tokensOf (comparison operator left right) ++ rest =
      tokensOf left ++ .symbol operator :: (tokensOf right ++ rest) := by
    simp [comparison, Lexeme.tokens]
  have loose : (Token.symbol operator).reach < 3 := by
    rcases isEquality with rfl | rfl <;> decide
  have before := readRelational_of_readUnary
    (first _ ((stops_cons loose (tokensOf right ++ rest)).mono (by decide)))
    (stops_cons loose (tokensOf right ++ rest))
  have after := readRelational_of_readUnary (second rest (stops.mono (by decide)))
    (stops.mono (by decide))
  rw [shape, readEquality_goesOn before]
  rcases isEquality with rfl | rfl
  all_goals
    rw [readEqualities, after, andThen_some (lt_of_readRelational after)]
    exact readEqualities_of_stops stops

/-- Two operands with a comparison between them are read as one. -/
theorem readRelational_greater (first : ReadsUnary left leftNode)
    (second : ReadsUnary right rightNode) (stops : Stops 3 rest) :
    readRelational (tokensOf (comparison .greater left right) ++ rest) =
      some (.binary .greater leftNode rightNode, rest) := by
  have shape : tokensOf (comparison .greater left right) ++ rest =
      tokensOf left ++ .symbol .greater :: (tokensOf right ++ rest) := by
    simp [comparison, Lexeme.tokens]
  have before := first _ (stops_cons (by decide : (Token.symbol .greater).reach < 4)
    (tokensOf right ++ rest))
  have after := second rest (stops.mono (by decide))
  rw [shape, readRelational_goesOn before, readRelationals, after,
    andThen_some (lt_of_readUnary after)]
  exact readRelationals_of_stops stops

/-- An integer is read with its sign. -/
theorem readsUnary_integer (value : Int64) :
    ReadsUnary [.number value] (integerNode value.toInt) := by
  intro rest stops
  have magnitude (n : Nat) : readUnary (.number n :: rest) = some (.number n, rest) := by
    refine readUnary_of_readPostfix ((readPostfix_of_readPrimary ?_).trans
      (readSuffixes_of_stops stops))
    rw [readPrimary]
  rw [tokensOf_cons, tokensOf_nil, List.append_nil, Lexeme.tokens, integerTokens, integerNode]
  split
  · change readUnary (.minus :: .number _ :: rest) = _
    rw [readUnary, magnitude, andThen_some (Nat.lt_succ_self _)]
  · exact magnitude _

/-- The branches of a conditional expression are never parenthesized. -/
theorem enclosed_conditional (actual : Strength) (lexemes : List Lexeme) :
    enclosed .conditional actual lexemes = lexemes := by
  rw [enclosed, if_neg]
  cases actual <;> decide

/-- An assertion of a type, between its parentheses. -/
theorem readPrimary_asType {type : Ty} (named : namesClasses type = true)
    (first : ReadsUnary left leftNode) (rest : List Token) :
    readPrimary (tokensOf (parenthesized (left ++ [.space, .word "as", .space] ++
      typeLexemes type)) ++ rest) = some (.asType leftNode (typeNodeOf type), rest) := by
  let typeTokens := tokensOf (typeLexemes type) ++ .symbol .closeParen :: rest
  have shape : tokensOf (parenthesized (left ++ [.space, .word "as", .space] ++
      typeLexemes type)) ++ rest =
        .symbol .openParen :: (tokensOf left ++ .word "as" :: typeTokens) := by
    simp [parenthesized, Lexeme.tokens, typeTokens]
  have ends {limit : Nat} (positive : 0 < limit) : Stops limit (.symbol .closeParen :: rest) :=
    stops_cons positive rest
  have before : readUnary (tokensOf left ++ .word "as" :: typeTokens) =
      some (leftNode, .word "as" :: typeTokens) := by
    refine first _ ?_
    rintro _ ⟨⟩
    decide
  have target : readType typeTokens = some (typeNodeOf type, .symbol .closeParen :: rest) :=
    (readsType type named).read (avoids_cons (by decide) rest)
  have relational : readRelational (tokensOf left ++ .word "as" :: typeTokens) =
      some (.asType leftNode (typeNodeOf type), .symbol .closeParen :: rest) := by
    rw [readRelational_goesOn before, readRelationals, target, andThen_some (lt_of_readType target)]
    exact readRelationals_of_stops (ends (by decide))
  have whole := readAssignment_of_readConditional (readConditional_of_readEquality
    (readEquality_of_readRelational relational (ends (by decide))) (ends (by decide)))
  rw [shape, readPrimary_parenthesized whole]

end Operators

/-- An operand begins with a brace only where it stands without parentheses. -/
theorem head?_enclosed {least actual : Strength} {lexemes tail : List Lexeme}
    (opens : (tokensOf (enclosed least actual lexemes ++ tail)).head? =
      some (.symbol .openBrace))
    (other : ((tokensOf tail).head? == some (.symbol .openBrace)) = false) :
    least.rank ≤ actual.rank ∧ (tokensOf lexemes).head? = some (.symbol .openBrace) := by
  rw [enclosed] at opens
  split at opens
  · cases opens
  · next tight =>
      rw [tokensOf_append, List.head?_append] at opens
      cases first : (tokensOf lexemes).head? with
      | none =>
          rw [first, Option.none_or] at opens
          exact absurd opens (beq_eq_false_iff_ne.mp other)
      | some token =>
          rw [first, Option.some_or] at opens
          exact ⟨Nat.le_of_not_lt tight, opens⟩

/-- **Only text that begins with an object literal begins with a brace.** -/
theorem opensWithMap_of_head? {className : String} (expr : Expr)
    (opens : (tokensOf (exprLexemes className expr)).head? = some (.symbol .openBrace)) :
    opensWithMap expr = true := by
  induction expr using Expr.ofChildren with
  | step expr ih =>
      have operand {least : Strength} {first : Expr} {tail : List Lexeme}
          (inside : first ∈ expr.children)
          (opens : (tokensOf (enclosed least (strengthOf first) (exprLexemes className first) ++
            tail)).head? = some (.symbol .openBrace))
          (other : ((tokensOf tail).head? == some (.symbol .openBrace)) = false) :
          (standsAt least first && opensWithMap first) = true := by
        obtain ⟨tight, brace⟩ := head?_enclosed opens other
        rw [standsAt, decide_eq_true tight, ih first inside brace, Bool.and_self]
      cases expr with
      | map entries => rfl
      | field target name => exact operand List.mem_cons_self opens rfl
      | index target key => exact operand List.mem_cons_self opens rfl
      | first value => exact operand List.mem_cons_self opens rfl
      | greater left right =>
          rw [exprLexemes, comparison, List.append_assoc] at opens
          exact operand List.mem_cons_self opens rfl
      | equal left right =>
          rw [exprLexemes, comparison, List.append_assoc] at opens
          exact operand List.mem_cons_self opens rfl
      | isNull value =>
          rw [exprLexemes, comparison, List.append_assoc] at opens
          exact operand List.mem_cons_self opens rfl
      | isEmpty value =>
          rw [exprLexemes, comparison, List.append_assoc, List.append_assoc] at opens
          exact operand List.mem_cons_self opens rfl
      | ternary condition whenTrue whenFalse =>
          simp only [exprLexemes, List.append_assoc] at opens
          exact operand List.mem_cons_self opens rfl
      | call target method args =>
          rw [exprLexemes, List.append_assoc] at opens
          exact operand List.mem_cons_self opens rfl
      | mapRows source param itemType body =>
          rw [exprLexemes, List.append_assoc] at opens
          exact operand List.mem_cons_self opens rfl
      | formatTimestamp value form =>
          cases form with
          | sql => cases opens
          | iso => exact operand List.mem_cons_self opens rfl
      | cast value type =>
          rw [exprLexemes] at opens
          rcases castLexemes_cases type with ⟨name, -, cast⟩ | ⟨target, cast, -⟩
          all_goals
            rw [(cast (exprLexemes className value) .null).1] at opens
            cases opens
      | int value =>
          rw [exprLexemes, tokensOf_cons, Lexeme.tokens, integerTokens] at opens
          split at opens <;> cases opens
      | bool value => cases value <;> cases opens
      | _ => cases opens

/-- An arrow function takes all that its body takes. A brace would open a block there. -/
theorem readAssignment_arrow (param : String) {itemType : Ty}
    (named : namesClasses itemType = true) (body : List Token) :
    readAssignment (tokensOf (parenthesized
      [.word (binding param), .symbol .colon, .space, .word "Row"] ++ [.symbol .colon, .space] ++
        typeLexemes itemType ++ [.space, .symbol .arrow, .space]) ++ body) =
      if body.head? = some (.symbol .openBrace) then none
      else andThen body (readAssignment body) fun node rest _ =>
        some (.arrow (binding param) (.named "Row" []) (typeNodeOf itemType) node, rest) := by
  let result := tokensOf (typeLexemes itemType) ++ .symbol .arrow :: body
  have shape : tokensOf (parenthesized
      [.word (binding param), .symbol .colon, .space, .word "Row"] ++ [.symbol .colon, .space] ++
        typeLexemes itemType ++ [.space, .symbol .arrow, .space]) ++ body =
      .symbol .openParen :: .word (binding param) :: .symbol .colon :: .word "Row" ::
        .symbol .closeParen :: .symbol .colon :: result := by
    simp [parenthesized, Lexeme.tokens, result]
  have row : readType (.word "Row" :: .symbol .closeParen :: .symbol .colon :: result) =
      some (.named "Row" [], .symbol .closeParen :: .symbol .colon :: result) :=
    readType_word rfl (avoids_cons (by decide) _)
  have item : readType result = some (typeNodeOf itemType, .symbol .arrow :: body) :=
    (readsType itemType named).read (avoids_cons (by decide) _)
  have closed := Nat.lt_succ_self result.length
  rw [shape, readAssignment, readArrow, row, andThen_some (lt_of_readType row), expect_self,
    andThen_some (Nat.lt_succ_self _), expect_self, andThen_some closed, item,
    andThen_some (lt_of_readType item), expect_self, andThen_some (Nat.lt_succ_self _)]
  simp only [isBindable_binding, Bool.not_true, Bool.false_or, beq_iff_eq]

/-- The body of an arrow function goes on to the parenthesis that closes the call. -/
theorem Reads.arrow {className : String} {body : Expr} (reads : Reads className body)
    (noBrace : opensWithMap body = false) (param : String) {itemType : Ty}
    (named : namesClasses itemType = true) (rest : List Token) :
    readItems .closeParen (tokensOf (TypeScript.parenthesized
      [.word (binding param), .symbol .colon, .space, .word "Row"] ++ [.symbol .colon, .space] ++
        typeLexemes itemType ++ [.space, .symbol .arrow, .space] ++ exprLexemes className body) ++
        .symbol .closeParen :: rest) =
      some ([.arrow (binding param) (.named "Row" []) (typeNodeOf itemType)
        (nodeOf className body)], rest) := by
  let tokens := tokensOf (exprLexemes className body) ++ .symbol .closeParen :: rest
  have value : readAssignment tokens =
      some (nodeOf className body, .symbol .closeParen :: rest) :=
    reads.whole (stops_cons (by decide) rest)
  have noBlock : tokens.head? ≠ some (.symbol .openBrace) := by
    intro opens
    rw [List.head?_append] at opens
    cases first : (tokensOf (exprLexemes className body)).head? with
    | none =>
        rw [first, Option.none_or] at opens
        cases opens
    | some token =>
        rw [first, Option.some_or] at opens
        have brace := opensWithMap_of_head? body (first.trans opens)
        exact Bool.false_ne_true (noBrace.symm.trans brace)
  refine readItems_last (by decide) (by decide) ?_
  rw [tokensOf_append, List.append_assoc, readAssignment_arrow param named, if_neg noBlock, value,
    andThen_some (lt_of_readAssignment value)]

section Literals

variable (className : String)

theorem reads_text (value : String) : Reads className (.text value) := by
  intro rest
  change readPostfix (.literal value :: rest) = readSuffixes (.text value) rest
  exact readPostfix_of_readPrimary (by rw [readPrimary])

theorem reads_int (value : Int64) : Reads className (.int value) :=
  readsUnary_integer value

theorem reads_null : Reads className .null :=
  fun _ => readPostfix_of_readPrimary (readPrimary_word (by decide) rfl)

theorem reads_bool (value : Bool) : Reads className (.bool value) := by
  cases value <;> exact fun _ => readPostfix_of_readPrimary (readPrimary_word (by decide) rfl)

end Literals

section Forms

variable {className : String}

/-- A list is read back where its items are. -/
theorem reads_list {items : List Expr} (each : ∀ item ∈ items, Reads className item) :
    Reads className (.list items) := by
  intro rest
  have given := readItems_allLexemes each (by decide : Symbol.closeBracket ∉ openers) (by decide)
    rfl rest
  have shape : tokensOf (exprLexemes className (.list items)) ++ rest =
      .symbol .openBracket :: (tokensOf (commaSeparated (allLexemes className items)) ++
        .symbol .closeBracket :: rest) := by
    simp [exprLexemes, Lexeme.tokens]
  rw [shape]
  refine readPostfix_of_readPrimary ?_
  rw [readPrimary, given, andThen_some (length_lt_append_cons _ _ _)]
  rfl

/-- An object literal is read back where its values are. -/
theorem reads_map {entries : List (String × Expr)}
    (each : ∀ entry ∈ entries, Reads className entry.2) : Reads className (.map entries) := by
  intro rest
  refine readPostfix_of_readPrimary ?_
  cases entries with
  | nil =>
      change readPrimary (.symbol .openBrace :: .symbol .closeBrace :: rest) = _
      rw [readPrimary, readEntries, expect_self]
      exact andThen_some (Nat.lt_succ_self _)
  | cons entry entries =>
      have given := readEntries_entriesLexemes (List.cons_ne_nil entry entries) each rest
      have shape : tokensOf (exprLexemes className (.map (entry :: entries))) ++ rest =
          .symbol .openBrace :: (tokensOf (commaSeparated (entriesLexemes className
            (entry :: entries))) ++ .symbol .closeBrace :: rest) := by
        simp [exprLexemes, entriesLexemes, Lexeme.tokens]
      rw [shape, readPrimary, given, andThen_some (length_lt_append_cons _ _ _)]
      rfl

/-- A member of an expression is read back; an integer would swallow the dot. -/
theorem reads_field {target : Expr} (reads : Reads className target)
    (noInteger : isInteger target = false) (name : String) :
    Reads className (.field target name) :=
  reads.suffixed noInteger readSuffixes_member

/-- A conditional is read back where its three parts are. -/
theorem reads_ternary {condition whenTrue whenFalse : Expr} (first : Reads className condition)
    (second : Reads className whenTrue) (third : Reads className whenFalse) :
    Reads className (.ternary condition whenTrue whenFalse) := by
  intro rest stops
  let elseTokens := tokensOf (exprLexemes className whenFalse) ++ rest
  let thenTokens := tokensOf (exprLexemes className whenTrue) ++ .symbol .colon :: elseTokens
  have shape : tokensOf (exprLexemes className (.ternary condition whenTrue whenFalse)) ++ rest =
      tokensOf (enclosed .equality (strengthOf condition) (exprLexemes className condition)) ++
        .symbol .question :: thenTokens := by
    simp [exprLexemes, enclosed_conditional, Lexeme.tokens, thenTokens, elseTokens]
  have chosen : readAssignment thenTokens =
      some (nodeOf className whenTrue, .symbol .colon :: elseTokens) :=
    second.whole (stops_cons (by decide) elseTokens)
  have other : readAssignment elseTokens = some (nodeOf className whenFalse, rest) :=
    third.whole stops
  rw [shape, readConditional_goesOn (first.equalityOperand (stops_cons (by decide) thenTokens)),
    readBranches, chosen, andThen_some (lt_of_readAssignment chosen), expect_self,
    andThen_some (Nat.lt_succ_self _), other, andThen_some (lt_of_readAssignment other)]
  rfl

/-- A cast is read back where its value is tight enough for an operand. -/
theorem reads_cast {value : Expr} {type : Ty} (reads : Reads className value)
    (tight : standsAt .unary value = true) (named : namesClasses type = true) :
    Reads className (.cast value type) := by
  have operand := reads.unary (Reads.rank_levelOf (by decide) (of_decide_eq_true tight))
  intro rest
  change readPostfix (tokensOf (castLexemes type (exprLexemes className value)) ++ rest) =
    readSuffixes (castNode type (nodeOf className value)) rest
  rcases castLexemes_cases type with ⟨name, fixed, cast⟩ | ⟨target, cast, same⟩
  · obtain ⟨lexemes, node⟩ := cast (exprLexemes className value) (nodeOf className value)
    have plain : ∀ name ∈ ["Number", "Boolean", "String"], keywords.contains name = false := by
      decide
    rw [lexemes, node]
    exact reads.helper (plain name fixed) rest
  · obtain ⟨lexemes, node⟩ := cast (exprLexemes className value) (nodeOf className value)
    rw [lexemes, node]
    exact readPostfix_of_readPrimary (readPrimary_asType (same.trans named) operand rest)

/-- Waiting for a value is read back where the value is. -/
theorem reads_await {value : Expr} (reads : Reads className value) :
    Reads className (.await value) := by
  intro rest stops
  change readUnary (.word "await" :: (tokensOf (enclosed .unary (strengthOf value)
    (exprLexemes className value)) ++ rest)) = _
  have operand := reads.unaryOperand rest stops
  rw [readUnary, operand, andThen_some (lt_of_readUnary operand)]
  rfl

end Forms

/-- **The text of an expression is read as what the expression stands for.** Nothing that comes
after it goes into it, unless it holds on to the expression more tightly than the expression holds
together. -/
theorem reads_exprLexemes {className : String} (isName : isClassName className = true)
    {expr : Expr} (placed : IsPlaced expr) (noBlock : OpensNoBlock expr) :
    Reads className expr := by
  rw [isClassName, Bool.and_eq_true, Bool.not_eq_true'] at isName
  refine Expr.ofParts (motive := Reads className) ?_
    fun part member => And.intro (placed part member) (noBlock part member)
  rintro expr ⟨placed, noBlock⟩ ih
  have given {args : List Expr} (inside : ∀ arg ∈ args, arg ∈ expr.children) (rest : List Token) :
      readItems .closeParen (tokensOf (commaSeparated (allLexemes className args)) ++
        .symbol .closeParen :: rest) = some (nodesOf className args, rest) :=
    readItems_allLexemes (fun arg member => ih arg (inside arg member)) (by decide) (by decide)
      rfl rest
  cases expr with
  | var name => exact readPostfix_identifier (contains_binding name)
  | this => exact fun _ => readPostfix_of_readPrimary (readPrimary_word (by decide) rfl)
  | text value => exact reads_text className value
  | int value => exact reads_int className value
  | bool value => exact reads_bool className value
  | null => exact reads_null className
  | list items => exact reads_list ih
  | map entries => exact reads_map fun entry member => ih entry.2 (List.mem_map_of_mem member)
  | field target name =>
      rw [isPlaced, Bool.and_eq_true, Bool.not_eq_true'] at placed
      exact reads_field (ih target List.mem_cons_self) placed.2 name
  | index target key =>
      rw [isPlaced, Bool.not_eq_true'] at placed
      exact (ih target List.mem_cons_self).suffixed placed
        (readSuffixes_element (reads_text className key) rfl)
  | first value =>
      rw [isPlaced, Bool.not_eq_true'] at placed
      exact (ih value List.mem_cons_self).suffixed placed
        (readSuffixes_element (reads_int className 0) rfl)
  | call target method args =>
      rw [isPlaced, Bool.and_eq_true, Bool.not_eq_true'] at placed
      have inside : ∀ arg ∈ args, arg ∈ (Expr.call target method args).children :=
        fun arg member => List.mem_cons_of_mem target member
      intro rest
      rw [exprLexemes, List.append_assoc]
      exact (ih target List.mem_cons_self).suffixed placed.2
        (readSuffixes_invocation (given inside)) rest
  | selfCall method args =>
      intro rest
      refine (readPostfix_identifier isName.2 _).trans ?_
      exact readSuffixes_invocation (given fun arg member => member) rest
  | new created args =>
      rw [isPlaced, isClassName, Bool.and_eq_true, Bool.not_eq_true'] at placed
      intro rest
      have shape : tokensOf (exprLexemes className (.new created args)) ++ rest =
          .word "new" :: .word created :: .symbol .openParen ::
            (tokensOf (commaSeparated (allLexemes className args)) ++
              .symbol .closeParen :: rest) := by
        simp [exprLexemes, parenthesized, Lexeme.tokens]
      refine readPostfix_of_readPrimary ?_
      have read := given (fun arg (member : arg ∈ args) => member) rest
      rw [shape, readPrimary, if_pos rfl, readNew, placed.2, if_neg Bool.false_ne_true, read,
        andThen_some (length_lt_append_cons _ _ _)]
      rfl
  | mapRows source param itemType body =>
      simp only [isPlaced, Bool.and_eq_true, Bool.not_eq_true'] at placed
      obtain ⟨⟨noInteger, -⟩, named⟩ := placed
      have body := (ih body (by simp [Expr.children])).arrow noBlock param named
      intro rest
      rw [exprLexemes, List.append_assoc]
      exact (ih source List.mem_cons_self).suffixed noInteger (readSuffixes_invocation body) rest
  | greater left right =>
      have before := (ih left (by simp [Expr.children])).unaryOperand
      have after := (ih right (by simp [Expr.children])).unaryOperand
      intro rest stops
      exact readEquality_of_readRelational
        (readRelational_greater before after (stops.mono (by decide))) stops
  | equal left right =>
      have before := (ih left (by simp [Expr.children])).unaryOperand
      have after := (ih right (by simp [Expr.children])).unaryOperand
      exact fun _ => readEquality_comparison (Or.inl rfl) before after
  | isNull value =>
      have before := (ih value List.mem_cons_self).unaryOperand
      have after := (reads_null className).unary (by decide)
      exact fun _ => readEquality_comparison (Or.inr rfl) before after
  | isEmpty value =>
      rw [isPlaced, Bool.not_eq_true'] at placed
      have tight : Strength.unary.rank ≤ Strength.postfixed.rank := by decide
      have before := (reads_field (ih value List.mem_cons_self) placed "length").unary tight
      exact fun _ => readEquality_comparison (Or.inl rfl) before (readsUnary_integer 0)
  | ternary condition whenTrue whenFalse =>
      exact reads_ternary (ih condition (by simp [Expr.children]))
        (ih whenTrue (by simp [Expr.children])) (ih whenFalse (by simp [Expr.children]))
  | cast value type =>
      rw [isPlaced, Bool.and_eq_true] at placed
      exact reads_cast (ih value List.mem_cons_self) placed.1 placed.2
  | await value => exact reads_await (ih value List.mem_cons_self)
  | parseTimestamp value => exact (ih value List.mem_cons_self).helper rfl
  | formatTimestamp value form =>
      cases form with
      | sql => exact (ih value List.mem_cons_self).helper rfl
      | iso =>
          rw [isPlaced, Bool.not_eq_true'] at placed
          have none (rest : List Token) : readItems .closeParen
              (tokensOf [] ++ .symbol .closeParen :: rest) = some ([], rest) := readItems_nil
          exact (ih value List.mem_cons_self).suffixed placed (readSuffixes_invocation none)

/-- **Reading the text of an expression gives back what the expression stands for.** Every operand
is found again where it belongs, however the expression is nested. -/
theorem parse?_exprText {className : String} (isName : isClassName className = true) {expr : Expr}
    (placed : IsPlaced expr) (noBlock : OpensNoBlock expr) :
    parse? (exprText className expr) = some (nodeOf className expr) := by
  have whole : readAssignment (tokensOf (exprLexemes className expr) ++ []) =
      some (nodeOf className expr, []) :=
    (reads_exprLexemes isName placed noBlock).whole (by rintro _ ⟨⟩)
  rw [List.append_nil] at whole
  rw [parse?, scan_exprText isName placed, Option.bind_some, whole]

theorem parse?_exprText_rows :
    let rows := Expr.ternary (.greater (.var "count") (.int (-1))) (.await (.var "rows")) (.list [])
    let body := Expr.equal (.cast (.index (.var "new") "at") (.nullable .dateTime))
      (.isNull (.map []))
    let expr := Expr.isEmpty (.mapRows rows "new" (.list (.nullable .bool)) body)
    isClassName "Account" = true ∧ IsPlaced expr ∧ OpensNoBlock expr ∧
      parse? (exprText "Account" expr) = some (nodeOf "Account" expr) := by
  have isName : isClassName "Account" = true := by decide
  refine ⟨isName, by decide, by decide, parse?_exprText isName ?_ ?_⟩
  · decide
  · decide

/-- Where the rows of a variable are mapped to what begins with a brace, nothing can be read. -/
theorem readAssignment_brace {className source param : String} {itemType : Ty} {body : Expr}
    (named : namesClasses itemType = true)
    (opens : (tokensOf (exprLexemes className body)).head? = some (.symbol .openBrace)) :
    readAssignment (tokensOf (exprLexemes className (.mapRows (.var source) param itemType body))) =
      none := by
  let head := parenthesized [.word (binding param), .symbol .colon, .space, .word "Row"] ++
    [.symbol .colon, .space] ++ typeLexemes itemType ++ [.space, .symbol .arrow, .space]
  let bodyTokens := tokensOf (exprLexemes className body) ++ [.symbol .closeParen]
  let function := tokensOf head ++ bodyTokens
  have shape : tokensOf (exprLexemes className (.mapRows (.var source) param itemType body)) =
      .word (binding source) :: .symbol .dot :: .word "map" :: .symbol .openParen :: function := by
    simp [exprLexemes, enclosed, strengthOf, Strength.rank, parenthesized, Lexeme.tokens, function,
      head, bodyTokens]
  have brace : bodyTokens.head? = some (.symbol .openBrace) := by
    rw [List.head?_append, opens, Option.some_or]
  have blocked : readAssignment function = none := by
    rw [readAssignment_arrow param named, if_pos brace]
  have items : readItems .closeParen function = none := by
    rw [readItems, blocked]
    rfl
  have noAwait : binding source ≠ "await" := by
    intro same
    exact binding_notMem source (same ▸ by decide)
  rw [shape]
  refine readAssignment_word_eq_none noAwait ?_
  rw [readPostfix_identifier (contains_binding source), readSuffixes, readSuffixes, items]
  rfl

/-- A body that is no object literal may still begin with one, and no parentheses keep its brace
from opening a block. -/
theorem parse?_exprText_brace :
    let expr := Expr.mapRows (.var "rows") "row" .row (.isNull (.map []))
    isClassName "C" = true ∧ IsPlaced expr ∧
      (∀ part ∈ expr.parts, ∀ source param itemType entries,
        part ≠ .mapRows source param itemType (.map entries)) ∧
      parse? (exprText "C" expr) ≠ some (nodeOf "C" expr) := by
  intro expr
  have isName : isClassName "C" = true := by decide
  have placed : IsPlaced expr := by decide
  have unread : readAssignment (tokensOf (exprLexemes "C" expr)) = none :=
    readAssignment_brace rfl rfl
  refine ⟨isName, placed, ?_, ?_⟩
  · rintro part member source param itemType entries rfl
    simp [expr, Expr.parts, Expr.partsOfEntries] at member
  · rw [parse?, scan_exprText isName placed, Option.bind_some, unread]
    exact (Option.some_ne_none _).symm

end DataAccess.TypeScript
