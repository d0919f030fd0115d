import DataAccess.Proofs.TypeScript.Scanner
import DataAccess.Proofs.TypeScript.Syntax

/-!
# A reader of expressions

A reader of expressions by the grammar of the language: conditional expressions are the loosest,
then equalities, then relations and assertions of types, then unary operators, then postfix forms,
and the body of an arrow function goes on as far as it can. Each function takes what it can from
the front of the tokens and returns the rest, which is shorter where the function returns an
expression or a type (`lt_of_readAssignment`, `lt_of_readType`).
-/

namespace DataAccess.TypeScript

/-- The words that are no identifiers in strict code. -/
def keywords : List String :=
  [ "await", "break", "case", "catch", "class", "const", "continue", "debugger", "default",
    "delete", "do", "else", "enum", "export", "extends", "false", "finally", "for", "function",
    "if", "implements", "import", "in", "instanceof", "interface", "let", "new", "null", "package",
    "private", "protected", "public", "return", "static", "super", "switch", "this", "throw",
    "true", "try", "typeof", "var", "void", "while", "with", "yield" ]

/-- Takes the symbol, which has to come first. -/
def expect (mark : Symbol) : List Token → Option (Unit × List Token)
  | .symbol other :: rest => if other = mark then some ((), rest) else none
  | _ => none

mutual

/-- A union of array types, from the left. -/
def readType (tokens : List Token) : Option (TypeNode × List Token) :=
  andThen tokens (readArrayType tokens) fun first rest _ => readUnion first rest
termination_by 5 * tokens.length + 3

/-- Reads the further types of a union whose left side has been read. -/
def readUnion (left : TypeNode) (tokens : List Token) : Option (TypeNode × List Token) :=
  match tokens with
  | .symbol .bar :: rest =>
    andThen rest (readArrayType rest) fun right rest _ => readUnion (.union left right) rest
  | _ => some (left, tokens)
termination_by 5 * tokens.length

/-- Reads a type with any number of pairs of brackets behind it. -/
def readArrayType (tokens : List Token) : Option (TypeNode × List Token) :=
  andThen tokens (readTypePrimary tokens) fun item rest _ => readBrackets item rest
termination_by 5 * tokens.length + 2

/-- Reads the pairs of brackets behind a type. -/
def readBrackets (item : TypeNode) (tokens : List Token) : Option (TypeNode × List Token) :=
  match tokens with
  | .symbol .openBracket :: .symbol .closeBracket :: rest => readBrackets (.array item) rest
  | _ => some (item, tokens)
termination_by 5 * tokens.length

/-- Reads a type between parentheses or a type with a name. -/
def readTypePrimary (tokens : List Token) : Option (TypeNode × List Token) :=
  match tokens with
  | .symbol .openParen :: rest =>
    andThen rest (readType rest) fun type rest _ =>
    andThen rest (expect .closeParen rest) fun _ rest _ => some (type, rest)
  | .word name :: rest =>
    if name = "null" then some (.null, rest)
    else if keywords.contains name then none
    else readNamed name rest
  | _ => none
termination_by 5 * tokens.length + 1

/-- Reads the rest of a type with a name: its arguments, if it has any. -/
def readNamed (name : String) (tokens : List Token) : Option (TypeNode × List Token) :=
  match tokens with
  | .symbol .less :: rest =>
    andThen rest (readTypeArguments rest) fun arguments rest _ =>
      some (.named name arguments, rest)
  | _ => some (.named name [], tokens)
termination_by 5 * tokens.length

/-- Reads the arguments of a type up to the closing angle. -/
def readTypeArguments (tokens : List Token) : Option (List TypeNode × List Token) :=
  andThen tokens (readType tokens) fun first rest _ =>
    (readTypeTail rest).map fun (more, rest) => (first :: more, rest)
termination_by 5 * tokens.length + 4

/-- Reads the further arguments of a type. -/
def readTypeTail (tokens : List Token) : Option (List TypeNode × List Token) :=
  match tokens with
  | .symbol .comma :: rest => readTypeArguments rest
  | tokens => (expect .greater tokens).map fun (_, rest) => ([], rest)
termination_by 5 * tokens.length

end

/-- The key of an entry of an object literal. -/
def readKey : List Token → Option (String × List Token)
  | .word key :: rest => some (key, rest)
  | .literal key :: rest => some (key, rest)
  | _ => none

/-- What a word alone stands for, if it is an expression. -/
def wordNode? (word : String) : Option Node :=
  if word = "this" then some .this
  else if word = "null" then some .null
  else if word = "true" then some (.boolean true)
  else if word = "false" then some (.boolean false)
  else if keywords.contains word then none
  else some (.identifier word)

/-- Whether a parameter may have the name. -/
def isBindable (name : String) : Bool :=
  !keywords.contains name && name != "arguments" && name != "eval"

mutual

/-- A whole expression. It is an arrow function where a word between an opening parenthesis and a
colon comes first, and a conditional expression otherwise. -/
def readAssignment (tokens : List Token) : Option (Node × List Token) :=
  match tokens with
  | .symbol .openParen :: .word param :: .symbol .colon :: rest => readArrow param rest
  | tokens => readConditional tokens
termination_by 10 * tokens.length + 8

/-- What comes after the colon of the parameter of an arrow function. -/
def readArrow (param : String) (tokens : List Token) : Option (Node × List Token) :=
  andThen tokens (readType tokens) fun paramType rest _ =>
  andThen rest (expect .closeParen rest) fun _ rest _ =>
  andThen rest (expect .colon rest) fun _ rest _ =>
  andThen rest (readType rest) fun resultType rest _ =>
  andThen rest (expect .arrow rest) fun _ rest _ =>
    -- A brace would open a block here, not an object.
    if !isBindable param || rest.head? == some (.symbol .openBrace) then none
    else
      andThen rest (readAssignment rest) fun body rest _ =>
        some (.arrow param paramType resultType body, rest)
termination_by 10 * tokens.length

/-- Reads a conditional expression, or one that binds tighter. -/
def readConditional (tokens : List Token) : Option (Node × List Token) :=
  andThen tokens (readEquality tokens) fun condition rest _ => readBranches condition rest
termination_by 10 * tokens.length + 7

/-- Reads both branches of a condition that has been read. -/
def readBranches (condition : Node) (tokens : List Token) : Option (Node × List Token) :=
  match tokens with
  | .symbol .question :: rest =>
    andThen rest (readAssignment rest) fun whenTrue rest _ =>
    andThen rest (expect .colon rest) fun _ rest _ =>
    andThen rest (readAssignment rest) fun whenFalse rest _ =>
      some (.conditional condition whenTrue whenFalse, rest)
  | _ => some (condition, tokens)
termination_by 10 * tokens.length

/-- Reads a chain of equalities. -/
def readEquality (tokens : List Token) : Option (Node × List Token) :=
  andThen tokens (readRelational tokens) fun first rest _ => readEqualities first rest
termination_by 10 * tokens.length + 6

/-- The equalities that go on with an operand, from the left. -/
def readEqualities (left : Node) (tokens : List Token) : Option (Node × List Token) :=
  match tokens with
  | .symbol .equal :: rest =>
    andThen rest (readRelational rest) fun right rest _ =>
      readEqualities (.binary .equal left right) rest
  | .symbol .looselyEqual :: rest =>
    andThen rest (readRelational rest) fun right rest _ =>
      readEqualities (.binary .looselyEqual left right) rest
  | _ => some (left, tokens)
termination_by 10 * tokens.length

/-- Reads a chain of comparisons. -/
def readRelational (tokens : List Token) : Option (Node × List Token) :=
  andThen tokens (readUnary tokens) fun first rest _ => readRelationals first rest
termination_by 10 * tokens.length + 5

/-- The relations and assertions that go on with an operand, from the left. -/
def readRelationals (left : Node) (tokens : List Token) : Option (Node × List Token) :=
  match tokens with
  | .symbol .greater :: rest =>
    andThen rest (readUnary rest) fun right rest _ =>
      readRelationals (.binary .greater left right) rest
  | .word "as" :: rest =>
    andThen rest (readType rest) fun type rest _ => readRelationals (.asType left type) rest
  | _ => some (left, tokens)
termination_by 10 * tokens.length

/-- Reads an expression that may wait for its value. -/
def readUnary (tokens : List Token) : Option (Node × List Token) :=
  match tokens with
  | .word "await" :: rest =>
    andThen rest (readUnary rest) fun value rest _ => some (.await value, rest)
  | .minus :: rest => andThen rest (readUnary rest) fun value rest _ => some (.negate value, rest)
  | tokens => readPostfix tokens
termination_by 10 * tokens.length + 4

/-- Reads an expression with what is taken from it or called on it. -/
def readPostfix (tokens : List Token) : Option (Node × List Token) :=
  andThen tokens (readPrimary tokens) fun first rest _ => readSuffixes first rest
termination_by 10 * tokens.length + 3

/-- The accesses and calls that go on with a target. -/
def readSuffixes (target : Node) (tokens : List Token) : Option (Node × List Token) :=
  match tokens with
  | .symbol .dot :: .word name :: rest => readSuffixes (.member target name) rest
  | .symbol .openBracket :: rest =>
    andThen rest (readAssignment rest) fun key rest _ =>
    andThen rest (expect .closeBracket rest) fun _ rest _ =>
      readSuffixes (.element target key) rest
  | .symbol .openParen :: rest =>
    andThen rest (readItems .closeParen rest) fun arguments rest _ =>
      readSuffixes (.call target arguments) rest
  | _ => some (target, tokens)
termination_by 10 * tokens.length

/-- Reads an expression that needs no parentheses. -/
def readPrimary (tokens : List Token) : Option (Node × List Token) :=
  match tokens with
  | .word name :: rest =>
    if name = "new" then readNew rest
    else (wordNode? name).map fun node => (node, rest)
  | .number value :: rest => some (.number value, rest)
  | .literal value :: rest => some (.text value, rest)
  | .symbol .openParen :: rest =>
    andThen rest (readAssignment rest) fun value rest _ =>
    andThen rest (expect .closeParen rest) fun _ rest _ => some (value, rest)
  | .symbol .openBracket :: rest =>
    andThen rest (readItems .closeBracket rest) fun items rest _ => some (.array items, rest)
  | .symbol .openBrace :: rest =>
    andThen rest (readEntries rest) fun entries rest _ => some (.object entries, rest)
  | _ => none
termination_by 10 * tokens.length + 2

/-- Reads the creation of an object behind `new`. -/
def readNew (tokens : List Token) : Option (Node × List Token) :=
  match tokens with
  | .word className :: .symbol .openParen :: rest =>
    if keywords.contains className then none
    else
      andThen rest (readItems .closeParen rest) fun arguments rest _ =>
        some (.new className arguments, rest)
  | _ => none
termination_by 10 * tokens.length

/-- The expressions up to a closing bracket. A comma may stand before it. -/
def readItems (close : Symbol) (tokens : List Token) : Option (List Node × List Token) :=
  match expect close tokens with
  | some (_, rest) => some ([], rest)
  | none =>
    andThen tokens (readAssignment tokens) fun item rest _ =>
      (readItemTail close rest).map fun (items, rest) => (item :: items, rest)
termination_by 10 * tokens.length + 9

/-- Reads the further items of a list up to its closing symbol. -/
def readItemTail (close : Symbol) (tokens : List Token) : Option (List Node × List Token) :=
  match tokens with
  | .symbol .comma :: rest => readItems close rest
  | tokens => (expect close tokens).map fun (_, rest) => ([], rest)
termination_by 10 * tokens.length

/-- Reads the entries of an object literal. -/
def readEntries (tokens : List Token) : Option (List (String × Node) × List Token) :=
  match expect .closeBrace tokens with
  | some (_, rest) => some ([], rest)
  | none =>
    andThen tokens (readKey tokens) fun key rest _ =>
    andThen rest (expect .colon rest) fun _ rest _ =>
    andThen rest (readAssignment rest) fun value rest _ =>
      (readEntryTail rest).map fun (entries, rest) => ((key, value) :: entries, rest)
termination_by 10 * tokens.length

/-- Reads the further entries of an object literal. -/
def readEntryTail (tokens : List Token) : Option (List (String × Node) × List Token) :=
  match tokens with
  | .symbol .comma :: rest => readEntries rest
  | tokens => (expect .closeBrace tokens).map fun (_, rest) => ([], rest)
termination_by 10 * tokens.length

end

/-- What a text stands for, if all of it is one expression. -/
def parse? (text : String) : Option Node :=
  match (scan text.toList).bind readAssignment with
  | some (node, []) => some node
  | _ => none

section Lengths

variable {α β : Type} {items tokens rest : List Token} {node : Node} {type : TypeNode}

/-- What goes on after a reading ends with less than the reading was given. -/
theorem lt_of_andThen {reading : Option (α × List Token)} {value : β}
    {next : α → (rest : List Token) → rest.length < items.length → Option (β × List Token)}
    (reads : andThen items reading next = some (value, rest))
    (goesOn : ∀ {first between shorter result last},
      next first between shorter = some (result, last) → last.length ≤ between.length) :
    rest.length < items.length := by
  unfold andThen at reads
  split at reads
  · split at reads
    · next shorter => exact Nat.lt_of_le_of_lt (goesOn reads) shorter
    · cases reads
  · cases reads

/-- Where neither of two readers gives tokens back, neither does one after the other. -/
theorem le_of_andThen {reading : Option (α × List Token)} {value : β}
    {next : α → (rest : List Token) → rest.length < items.length → Option (β × List Token)}
    (reads : andThen items reading next = some (value, rest))
    (goesOn : ∀ {first between shorter result last},
      next first between shorter = some (result, last) → last.length ≤ between.length) :
    rest.length ≤ items.length :=
  Nat.le_of_lt (lt_of_andThen reads goesOn)

theorem le_of_some {value result : α} (same : some (value, tokens) = some (result, rest)) :
    rest.length ≤ tokens.length := by
  cases same
  exact Nat.le_refl _

/-- Reading brackets gives no tokens back. -/
theorem le_of_readBrackets (item : TypeNode) (tokens : List Token)
    (reads : readBrackets item tokens = some (type, rest)) : rest.length ≤ tokens.length := by
  rw [readBrackets.eq_def] at reads
  split at reads
  · next more =>
      have later := le_of_readBrackets _ more reads
      exact Nat.le_succ_of_le (Nat.le_succ_of_le later)
  · exact le_of_some reads
termination_by tokens.length

/-- Reading the arguments of a type gives no tokens back. -/
theorem le_of_readNamed {name : String} (reads : readNamed name tokens = some (type, rest)) :
    rest.length ≤ tokens.length := by
  rw [readNamed.eq_def] at reads
  split at reads
  · exact Nat.le_succ_of_le (le_of_andThen reads le_of_some)
  · exact le_of_some reads

/-- A type that is read has at least one token. -/
theorem lt_of_readTypePrimary (reads : readTypePrimary tokens = some (type, rest)) :
    rest.length < tokens.length := by
  rw [readTypePrimary.eq_def] at reads
  split at reads
  · exact Nat.lt_succ_of_lt (lt_of_andThen reads fun closed => le_of_andThen closed le_of_some)
  · split at reads
    · exact Nat.lt_succ_of_le (le_of_some reads)
    · split at reads
      · cases reads
      · exact Nat.lt_succ_of_le (le_of_readNamed reads)
  · cases reads

/-- A type with brackets has at least one token. -/
theorem lt_of_readArrayType (reads : readArrayType tokens = some (type, rest)) :
    rest.length < tokens.length := by
  rw [readArrayType] at reads
  exact lt_of_andThen reads (le_of_readBrackets _ _)

/-- Reading the rest of a union gives no tokens back. -/
theorem le_of_readUnion (left : TypeNode) (tokens : List Token) {result : TypeNode}
    {last : List Token} (reads : readUnion left tokens = some (result, last)) :
    last.length ≤ tokens.length := by
  rw [readUnion.eq_def] at reads
  split at reads
  · exact Nat.le_succ_of_le (le_of_andThen reads (le_of_readUnion _ _))
  · exact le_of_some reads
termination_by tokens.length
decreasing_by
  all_goals
    subst_vars
    simp only [List.length_cons]
    omega

/-- Every type has at least one token. -/
theorem lt_of_readType (reads : readType tokens = some (type, rest)) :
    rest.length < tokens.length := by
  rw [readType] at reads
  exact lt_of_andThen reads (le_of_readUnion _ _)

/-- Reading what stands behind an expression gives no tokens back. -/
theorem le_of_readSuffixes (target : Node) (tokens : List Token) {result : Node}
    {last : List Token} (reads : readSuffixes target tokens = some (result, last)) :
    last.length ≤ tokens.length := by
  rw [readSuffixes.eq_def] at reads
  split at reads
  · exact Nat.le_succ_of_le (Nat.le_succ_of_le (le_of_readSuffixes _ _ reads))
  · refine Nat.le_succ_of_le (le_of_andThen reads fun closed => ?_)
    exact le_of_andThen closed (le_of_readSuffixes _ _)
  · exact Nat.le_succ_of_le (le_of_andThen reads (le_of_readSuffixes _ _))
  · exact le_of_some reads
termination_by tokens.length
decreasing_by
  all_goals
    subst_vars
    simp only [List.length_cons]
    omega

/-- An expression without parts around it has at least one token. -/
theorem lt_of_readPrimary (reads : readPrimary tokens = some (node, rest)) :
    rest.length < tokens.length := by
  rw [readPrimary.eq_def] at reads
  split at reads
  · next name more =>
      split at reads
      · rw [readNew.eq_def] at reads
        split at reads
        · split at reads
          · cases reads
          · have later := lt_of_andThen reads le_of_some
            simp only [List.length_cons]
            omega
        · cases reads
      · obtain ⟨value, -, same⟩ := Option.map_eq_some_iff.mp reads
        exact Nat.lt_succ_of_le (le_of_some (congrArg some same))
  · exact Nat.lt_succ_of_le (le_of_some reads)
  · exact Nat.lt_succ_of_le (le_of_some reads)
  · exact Nat.lt_succ_of_lt (lt_of_andThen reads fun closed => le_of_andThen closed le_of_some)
  · exact Nat.lt_succ_of_lt (lt_of_andThen reads le_of_some)
  · exact Nat.lt_succ_of_lt (lt_of_andThen reads le_of_some)
  · cases reads

/-- An expression with suffixes has at least one token. -/
theorem lt_of_readPostfix (reads : readPostfix tokens = some (node, rest)) :
    rest.length < tokens.length := by
  rw [readPostfix] at reads
  exact lt_of_andThen reads (le_of_readSuffixes _ _)

/-- An expression that may be waited for has at least one token. -/
theorem lt_of_readUnary (reads : readUnary tokens = some (node, rest)) :
    rest.length < tokens.length := by
  rw [readUnary.eq_def] at reads
  split at reads
  · exact Nat.lt_succ_of_lt (lt_of_andThen reads le_of_some)
  · exact Nat.lt_succ_of_lt (lt_of_andThen reads le_of_some)
  · exact lt_of_readPostfix reads

/-- Reading the rest of a chain of comparisons gives no tokens back. -/
theorem le_of_readRelationals (left : Node) (tokens : List Token) {result : Node}
    {last : List Token} (reads : readRelationals left tokens = some (result, last)) :
    last.length ≤ tokens.length := by
  rw [readRelationals.eq_def] at reads
  split at reads
  · exact Nat.le_succ_of_le (le_of_andThen reads (le_of_readRelationals _ _))
  · exact Nat.le_succ_of_le (le_of_andThen reads (le_of_readRelationals _ _))
  · exact le_of_some reads
termination_by tokens.length
decreasing_by
  all_goals
    subst_vars
    simp only [List.length_cons]
    omega

/-- A chain of comparisons has at least one token. -/
theorem lt_of_readRelational (reads : readRelational tokens = some (node, rest)) :
    rest.length < tokens.length := by
  rw [readRelational] at reads
  exact lt_of_andThen reads (le_of_readRelationals _ _)

/-- Reading the rest of a chain of equalities gives no tokens back. -/
theorem le_of_readEqualities (left : Node) (tokens : List Token) {result : Node}
    {last : List Token} (reads : readEqualities left tokens = some (result, last)) :
    last.length ≤ tokens.length := by
  rw [readEqualities.eq_def] at reads
  split at reads
  · exact Nat.le_succ_of_le (le_of_andThen reads (le_of_readEqualities _ _))
  · exact Nat.le_succ_of_le (le_of_andThen reads (le_of_readEqualities _ _))
  · exact le_of_some reads
termination_by tokens.length
decreasing_by
  all_goals
    subst_vars
    simp only [List.length_cons]
    omega

/-- A chain of equalities has at least one token. -/
theorem lt_of_readEquality (reads : readEquality tokens = some (node, rest)) :
    rest.length < tokens.length := by
  rw [readEquality] at reads
  exact lt_of_andThen reads (le_of_readEqualities _ _)

/-- Reading branches gives no tokens back. -/
theorem le_of_readBranches {condition : Node}
    (reads : readBranches condition tokens = some (node, rest)) : rest.length ≤ tokens.length := by
  rw [readBranches.eq_def] at reads
  split at reads
  · refine Nat.le_succ_of_le (le_of_andThen reads fun chosen => ?_)
    exact le_of_andThen chosen fun other => le_of_andThen other le_of_some
  · exact le_of_some reads

/-- A conditional expression has at least one token. -/
theorem lt_of_readConditional (reads : readConditional tokens = some (node, rest)) :
    rest.length < tokens.length := by
  rw [readConditional] at reads
  exact lt_of_andThen reads le_of_readBranches

/-- Every expression has at least one token. -/
theorem lt_of_readAssignment (reads : readAssignment tokens = some (node, rest)) :
    rest.length < tokens.length := by
  rw [readAssignment.eq_def] at reads
  split at reads
  · next param more =>
      rw [readArrow] at reads
      have later : rest.length < more.length := by
        refine lt_of_andThen reads fun named => le_of_andThen named fun closed => ?_
        refine le_of_andThen closed fun typed => le_of_andThen typed fun arrow => ?_
        refine le_of_andThen arrow fun body => ?_
        split at body
        · cases body
        · exact le_of_andThen body le_of_some
      simp only [List.length_cons]
      omega
  · exact lt_of_readConditional reads

end Lengths

end DataAccess.TypeScript
