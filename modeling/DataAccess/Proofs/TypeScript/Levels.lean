import DataAccess.Proofs.TypeScript.Reader

/-!
# From one level of the grammar to the next

Which tokens an expression goes on with says where it ends (`Token.reach`). What is read at one
level is read at every looser level, if the tokens after it do not go on with it there.
-/

namespace DataAccess.TypeScript

/-- A symbol is found where it stands. -/
theorem expect_self (mark : Symbol) (rest : List Token) :
    expect mark (.symbol mark :: rest) = some ((), rest) := by
  rw [expect, if_pos rfl]

/-- How tightly a token holds on to an expression before it; zero where it does not go on with
it. -/
def Token.reach : Token → Nat
  | .symbol .dot | .symbol .openBracket | .symbol .openParen => 4
  | .symbol .greater | .word "as" => 3
  | .symbol .equal | .symbol .looselyEqual => 2
  | .symbol .question => 1
  | _ => 0

/-- Whether an expression ends before the tokens unless they hold on to it less tightly. -/
def Stops (limit : Nat) (tokens : List Token) : Prop :=
  ∀ token ∈ tokens.head?, token.reach < limit

/-- A symbol that binds too loosely stops a reading. -/
theorem stops_cons {limit : Nat} {mark : Symbol} (loose : (Token.symbol mark).reach < limit)
    (tokens : List Token) : Stops limit (.symbol mark :: tokens) := by
  rintro _ ⟨⟩
  exact loose

/-- What stops a tight reading stops a looser one as well. -/
theorem Stops.mono {low high : Nat} {tokens : List Token} (stops : Stops low tokens)
    (le : low ≤ high) : Stops high tokens :=
  fun token first => Nat.lt_of_lt_of_le (stops token first) le

/-- Nothing is called on an expression where the reading of suffixes stops. -/
theorem readSuffixes_of_stops {target : Node} {tokens : List Token} (stops : Stops 4 tokens) :
    readSuffixes target tokens = some (target, tokens) := by
  rw [readSuffixes]
  · rintro name rest rfl
    exact absurd (stops _ rfl) (by decide)
  all_goals
    rintro rest rfl
    exact absurd (stops _ rfl) (by decide)

/-- A chain of comparisons ends where its reading stops. -/
theorem readRelationals_of_stops {left : Node} {tokens : List Token} (stops : Stops 3 tokens) :
    readRelationals left tokens = some (left, tokens) := by
  rw [readRelationals]
  all_goals
    rintro rest rfl
    exact absurd (stops _ rfl) (by decide)

/-- A chain of equalities ends where its reading stops. -/
theorem readEqualities_of_stops {left : Node} {tokens : List Token} (stops : Stops 2 tokens) :
    readEqualities left tokens = some (left, tokens) := by
  rw [readEqualities]
  all_goals
    rintro rest rfl
    exact absurd (stops _ rfl) (by decide)

/-- A condition has no branches where their reading stops. -/
theorem readBranches_of_stops {condition : Node} {tokens : List Token} (stops : Stops 1 tokens) :
    readBranches condition tokens = some (condition, tokens) := by
  rw [readBranches]
  rintro rest rfl
  exact absurd (stops _ rfl) (by decide)

section Levels

variable {tokens rest : List Token} {type : TypeNode} {node : Node} {result : Node × List Token}

/-- Behind a type its brackets are read. -/
theorem readArrayType_of_readTypePrimary (reads : readTypePrimary tokens = some (type, rest)) :
    readArrayType tokens = readBrackets type rest := by
  rw [readArrayType, reads, andThen_some (lt_of_readTypePrimary reads)]

/-- Behind a type with its brackets the rest of a union is read. -/
theorem readType_of_readArrayType (reads : readArrayType tokens = some (type, rest)) :
    readType tokens = readUnion type rest := by
  rw [readType, reads, andThen_some (lt_of_readArrayType reads)]

/-- Behind the first argument of a type the further ones are read. -/
theorem readTypeArguments_of_readType (reads : readType tokens = some (type, rest)) :
    readTypeArguments tokens =
      (readTypeTail rest).map fun (more, rest) => (type :: more, rest) := by
  rw [readTypeArguments, reads, andThen_some (lt_of_readType reads)]

/-- Behind an expression its suffixes are read. -/
theorem readPostfix_of_readPrimary (reads : readPrimary tokens = some (node, rest)) :
    readPostfix tokens = readSuffixes node rest := by
  rw [readPostfix, reads, andThen_some (lt_of_readPrimary reads)]

/-- Nothing that begins with an operator is a primary expression. -/
theorem readUnary_of_readPostfix (reads : readPostfix tokens = some result) :
    readUnary tokens = some result := by
  have fails : readPrimary tokens ≠ none := by
    intro fails
    rw [readPostfix, fails] at reads
    cases reads
  rw [readUnary, reads]
  · rintro rest rfl
    exact fails (by rw [readPrimary]; rfl)
  · rintro rest rfl
    refine fails ?_
    rw [readPrimary] <;> simp

/-- Behind the first operand the rest of a chain of comparisons is read. -/
theorem readRelational_goesOn (reads : readUnary tokens = some (node, rest)) :
    readRelational tokens = readRelationals node rest := by
  rw [readRelational, reads, andThen_some (lt_of_readUnary reads)]

/-- An operand that no comparison follows is read as it is. -/
theorem readRelational_of_readUnary (reads : readUnary tokens = some (node, rest))
    (stops : Stops 3 rest) : readRelational tokens = some (node, rest) :=
  (readRelational_goesOn reads).trans (readRelationals_of_stops stops)

/-- Behind the first operand the rest of a chain of equalities is read. -/
theorem readEquality_goesOn (reads : readRelational tokens = some (node, rest)) :
    readEquality tokens = readEqualities node rest := by
  rw [readEquality, reads, andThen_some (lt_of_readRelational reads)]

/-- An operand that no equality follows is read as it is. -/
theorem readEquality_of_readRelational (reads : readRelational tokens = some (node, rest))
    (stops : Stops 2 rest) : readEquality tokens = some (node, rest) :=
  (readEquality_goesOn reads).trans (readEqualities_of_stops stops)

/-- Behind a condition its branches are read. -/
theorem readConditional_goesOn (reads : readEquality tokens = some (node, rest)) :
    readConditional tokens = readBranches node rest := by
  rw [readConditional, reads, andThen_some (lt_of_readEquality reads)]

/-- An expression that no question mark follows is read as it is. -/
theorem readConditional_of_readEquality (reads : readEquality tokens = some (node, rest))
    (stops : Stops 1 rest) : readConditional tokens = some (node, rest) :=
  (readConditional_goesOn reads).trans (readBranches_of_stops stops)

/-- An expression between parentheses is read as the expression. -/
theorem readPrimary_parenthesized
    (reads : readAssignment tokens = some (node, .symbol .closeParen :: rest)) :
    readPrimary (.symbol .openParen :: tokens) = some (node, rest) := by
  rw [readPrimary, reads, andThen_some (lt_of_readAssignment reads), expect_self,
    andThen_some (Nat.lt_succ_self _)]

/-- A word is read as what it stands for, unless an object is created with it. -/
theorem readPrimary_word {word : String} (other : word ≠ "new") {value : Node}
    (stands : wordNode? word = some value) :
    readPrimary (.word word :: tokens) = some (value, tokens) := by
  rw [readPrimary, if_neg other, stands]
  rfl

/-- What begins with a word is a postfix form, unless the word is an operator. -/
theorem readAssignment_word_eq_none {word : String} (other : word ≠ "await")
    (fails : readPostfix (.word word :: tokens) = none) :
    readAssignment (.word word :: tokens) = none := by
  rw [readAssignment, readConditional, readEquality, readRelational, readUnary, fails]
  · rfl
  · rintro rest ⟨⟩
    exact other rfl
  · rintro rest ⟨⟩
  · rintro param rest ⟨⟩

/-- The symbols that an expression can begin with. -/
def openers : List Symbol := [.openParen, .openBracket, .openBrace]

/-- Most symbols begin no expression. -/
theorem readUnary_symbol {mark : Symbol} (other : mark ∉ openers) :
    readUnary (.symbol mark :: tokens) = none := by
  have fails : readPrimary (.symbol mark :: tokens) = none := by
    rw [readPrimary]
    · rintro name rest ⟨⟩
    · rintro value rest ⟨⟩
    · rintro value rest ⟨⟩
    all_goals
      rintro rest ⟨⟩
      exact other (by decide)
  rw [readUnary, readPostfix, fails]
  · rfl
  · rintro rest ⟨⟩
  · rintro rest ⟨⟩

/-- Where no expression can begin, none is read. -/
theorem readAssignment_symbol {mark : Symbol} (other : mark ∉ openers) :
    readAssignment (.symbol mark :: tokens) = none := by
  rw [readAssignment, readConditional, readEquality, readRelational, readUnary_symbol other]
  · rfl
  · rintro param rest ⟨⟩
    exact other (by decide)

/-- A unary expression takes nothing but the word before a colon. -/
theorem readUnary_word_colon {word : String}
    (reads : readUnary (.word word :: .symbol .colon :: tokens) = some (node, rest)) :
    rest = .symbol .colon :: tokens := by
  by_cases isAwait : word = "await"
  · subst isAwait
    rw [readUnary, readUnary_symbol (by decide)] at reads
    cases reads
  · have postfixed : readPostfix (.word word :: .symbol .colon :: tokens) = some (node, rest) := by
      rw [readUnary] at reads
      · exact reads
      · rintro rest ⟨⟩
        exact isAwait rfl
      · rintro rest ⟨⟩
    rw [readPostfix, readPrimary] at postfixed
    split at postfixed
    · rw [readNew] at postfixed
      · cases postfixed
      · rintro className rest ⟨⟩
    · cases stands : wordNode? word with
      | none =>
          rw [stands] at postfixed
          cases postfixed
      | some value =>
          have stops : Stops 4 (.symbol .colon :: tokens) := stops_cons (by decide) tokens
          rw [stands, Option.map_some, andThen_some (Nat.lt_succ_self _),
            readSuffixes_of_stops stops] at postfixed
          cases postfixed
          rfl

/-- An expression that begins with a word in front of a colon is the word. -/
theorem readAssignment_word_colon {word : String}
    (reads : readAssignment (.word word :: .symbol .colon :: tokens) = some (node, rest)) :
    rest = .symbol .colon :: tokens := by
  have stops {limit : Nat} (positive : 0 < limit) : Stops limit (.symbol .colon :: tokens) :=
    stops_cons positive tokens
  have conditional : readConditional (.word word :: .symbol .colon :: tokens) =
      some (node, rest) := by
    rw [readAssignment] at reads
    · exact reads
    · rintro param rest ⟨⟩
  cases unary : readUnary (.word word :: .symbol .colon :: tokens) with
  | none =>
      rw [readConditional, readEquality, readRelational, unary] at conditional
      cases conditional
  | some found =>
      obtain ⟨value, between⟩ := found
      obtain rfl : between = .symbol .colon :: tokens := readUnary_word_colon unary
      rw [readConditional_of_readEquality (readEquality_of_readRelational
        (readRelational_of_readUnary unary (stops (by decide))) (stops (by decide)))
        (stops (by decide))] at conditional
      cases conditional
      rfl

/-- The head of an arrow function is no expression between parentheses. -/
theorem readPrimary_arrowHead {param : String} :
    readPrimary (.symbol .openParen :: .word param :: .symbol .colon :: tokens) = none := by
  rw [readPrimary]
  cases inner : readAssignment (.word param :: .symbol .colon :: tokens) with
  | none => rfl
  | some found =>
      obtain ⟨node, rest⟩ := found
      obtain rfl : rest = .symbol .colon :: tokens := readAssignment_word_colon inner
      rw [andThen_some (Nat.lt_succ_self _)]
      rfl

/-- An expression that is no function is read as a conditional one. -/
theorem readAssignment_of_readConditional (reads : readConditional tokens = some result) :
    readAssignment tokens = some result := by
  rw [readAssignment]
  · exact reads
  · rintro param rest rfl
    rw [readConditional, readEquality, readRelational, readUnary, readPostfix,
      readPrimary_arrowHead] at reads
    · cases reads
    · rintro rest ⟨⟩
    · rintro rest ⟨⟩

end Levels

section Items

variable {close : Symbol} {tokens rest more : List Token} {node : Node} {nodes : List Node}

/-- An expression does not begin with a closing bracket. -/
theorem expect_of_readAssignment {result : Node × List Token}
    (reads : readAssignment tokens = some result) (closes : close ∉ openers) :
    expect close tokens = none := by
  cases expected : expect close tokens with
  | none => rfl
  | some rest =>
      unfold expect at expected
      split at expected
      · split at expected
        · next same =>
            rw [same, readAssignment_symbol closes] at reads
            cases reads
        · cases expected
      · cases expected

/-- A list that is closed at once has no items. -/
theorem readItems_nil : readItems close (.symbol close :: rest) = some ([], rest) := by
  rw [readItems, expect_self]

/-- An item in front of the closing symbol is the last one. -/
theorem readItems_last (closes : close ∉ openers) (noComma : close ≠ .comma)
    (reads : readAssignment tokens = some (node, .symbol close :: rest)) :
    readItems close tokens = some ([node], rest) := by
  rw [readItems, expect_of_readAssignment reads closes]
  change andThen _ _ _ = _
  rw [reads, andThen_some (lt_of_readAssignment reads), readItemTail, expect_self]
  · rfl
  · rintro rest ⟨⟩
    exact noComma rfl

/-- An item in front of a comma is followed by the other items. -/
theorem readItems_cons (closes : close ∉ openers)
    (reads : readAssignment tokens = some (node, .symbol .comma :: more))
    (others : readItems close more = some (nodes, rest)) :
    readItems close tokens = some (node :: nodes, rest) := by
  rw [readItems, expect_of_readAssignment reads closes]
  change andThen _ _ _ = _
  rw [reads, andThen_some (lt_of_readAssignment reads), readItemTail, others]
  rfl

variable {key : String} {value : List Token} {entries : List (String × Node)}

/-- A key is no closing brace. -/
theorem expect_of_readKey {mark : Symbol} {result : String × List Token}
    (reads : readKey tokens = some result) : expect mark tokens = none := by
  unfold readKey at reads
  split at reads
  · rfl
  · rfl
  · cases reads

/-- A key has at least one token. -/
theorem lt_of_readKey (reads : readKey tokens = some (key, rest)) :
    rest.length < tokens.length := by
  unfold readKey at reads
  split at reads
  · exact Nat.lt_succ_of_le (le_of_some reads)
  · exact Nat.lt_succ_of_le (le_of_some reads)
  · cases reads

/-- An entry is a key, a colon and a value, and the further entries follow. -/
theorem readEntries_of_readKey (keyed : readKey tokens = some (key, .symbol .colon :: value))
    (reads : readAssignment value = some (node, rest)) :
    readEntries tokens =
      (readEntryTail rest).map fun (entries, rest) => ((key, node) :: entries, rest) := by
  rw [readEntries, expect_of_readKey keyed]
  change andThen _ _ _ = _
  rw [keyed, andThen_some (lt_of_readKey keyed), expect_self, andThen_some (Nat.lt_succ_self _),
    reads, andThen_some (lt_of_readAssignment reads)]

/-- The closing brace ends the entries. -/
theorem readEntryTail_close : readEntryTail (.symbol .closeBrace :: rest) = some ([], rest) := by
  rw [readEntryTail, expect_self]
  · rfl
  · rintro rest ⟨⟩

/-- Behind a comma entries go on. -/
theorem readEntryTail_comma :
    readEntryTail (.symbol .comma :: tokens) = readEntries tokens := by
  rw [readEntryTail]

end Items

end DataAccess.TypeScript
