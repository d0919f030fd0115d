import DataAccess.Proofs.TypeScript.Placement

/-!
# Reading back types

The text of a type is read as what the type stands for (`readsType`), wherever it stands: a type
that may be null is a union, and is put between parentheses where it is the item of a list.
-/

namespace DataAccess.TypeScript

open Code

/-- Whether none of the symbols comes first. -/
def Avoids (marks : List Symbol) (tokens : List Token) : Prop :=
  ∀ mark ∈ marks, tokens.head? ≠ some (.symbol mark)

theorem Avoids.mono {fewer more : List Symbol} {tokens : List Token} (avoids : Avoids more tokens)
    (sub : fewer ⊆ more) : Avoids fewer tokens :=
  fun mark member => avoids mark (sub member)

theorem avoids_cons {marks : List Symbol} {mark : Symbol} (other : mark ∉ marks)
    (tokens : List Token) : Avoids marks (.symbol mark :: tokens) := by
  intro avoided member same
  cases same
  exact other member

theorem readNamed_of_avoids {name : String} {tokens : List Token} (avoids : Avoids [.less] tokens) :
    readNamed name tokens = some (.named name [], tokens) := by
  rw [readNamed]
  rintro rest rfl
  exact avoids .less (by decide) rfl

theorem readBrackets_of_avoids {item : TypeNode} {tokens : List Token}
    (avoids : Avoids [.openBracket] tokens) : readBrackets item tokens = some (item, tokens) := by
  rw [readBrackets]
  rintro rest rfl
  exact avoids .openBracket (by decide) rfl

theorem readUnion_of_avoids {left : TypeNode} {tokens : List Token}
    (avoids : Avoids [.bar] tokens) : readUnion left tokens = some (left, tokens) := by
  rw [readUnion]
  rintro rest rfl
  exact avoids .bar (by decide) rfl

/-- A printed type is read to its end, whatever it is a part of. -/
structure ReadsType (type : Ty) : Prop where
  /-- As the item of a list, unless it would have to be parenthesized there. -/
  item : type.isNullable = false → ∀ rest, Avoids [.less] rest →
    readArrayType (tokensOf (typeLexemes type) ++ rest) = readBrackets (typeNodeOf type) rest
  whole : ∀ rest, Avoids [.less, .openBracket] rest →
    readType (tokensOf (typeLexemes type) ++ rest) = readUnion (typeNodeOf type) rest

theorem readsType_of_item {type : Ty}
    (item : ∀ rest, Avoids [.less] rest →
      readArrayType (tokensOf (typeLexemes type) ++ rest) = readBrackets (typeNodeOf type) rest) :
    ReadsType type where
  item _ := item
  whole rest avoids := by
    refine readType_of_readArrayType ((item rest (avoids.mono (by decide))).trans ?_)
    exact readBrackets_of_avoids (avoids.mono (by decide))

theorem readArrayType_word {name : String} (noKeyword : keywords.contains name = false)
    {rest : List Token} (avoids : Avoids [.less] rest) :
    readArrayType (.word name :: rest) = readBrackets (.named name []) rest := by
  have noNull : name ≠ "null" := by
    rintro rfl
    cases noKeyword
  refine readArrayType_of_readTypePrimary ?_
  rw [readTypePrimary, if_neg noNull, noKeyword, if_neg Bool.false_ne_true]
  exact readNamed_of_avoids avoids

theorem readsType_of_named {type : Ty} {name : String} (noKeyword : keywords.contains name = false)
    (lexemes : typeLexemes type = [.word name]) (node : typeNodeOf type = .named name []) :
    ReadsType type := by
  refine readsType_of_item fun rest avoids => ?_
  rw [lexemes, node]
  exact readArrayType_word noKeyword avoids

/-- A whole type is read if nothing goes on with it. -/
theorem ReadsType.read {type : Ty} (reads : ReadsType type) {rest : List Token}
    (ends : Avoids [.less, .openBracket, .bar] rest) :
    readType (tokensOf (typeLexemes type) ++ rest) = some (typeNodeOf type, rest) := by
  rw [reads.whole rest (ends.mono (by decide)), readUnion_of_avoids (ends.mono (by decide))]

theorem readType_word {name : String} (noKeyword : keywords.contains name = false)
    {rest : List Token} (ends : Avoids [.less, .openBracket, .bar] rest) :
    readType (.word name :: rest) = some (.named name [], rest) := by
  have item : readArrayType (.word name :: rest) = some (.named name [], rest) :=
    (readArrayType_word noKeyword (ends.mono (by decide))).trans
      (readBrackets_of_avoids (ends.mono (by decide)))
  rw [readType_of_readArrayType item, readUnion_of_avoids (ends.mono (by decide))]

theorem readsType_map : ReadsType .map := by
  refine readsType_of_item fun rest avoids => ?_
  let secondTokens := .word "unknown" :: .symbol .greater :: rest
  let bothTokens := .word "string" :: .symbol .comma :: secondTokens
  have second : readTypeArguments secondTokens = some ([.named "unknown" []], rest) := by
    rw [readTypeArguments_of_readType (readType_word rfl (avoids_cons (by decide) _)),
      readTypeTail, expect_self]
    · rfl
    · rintro rest ⟨⟩
  have both : readTypeArguments bothTokens =
      some ([.named "string" [], .named "unknown" []], rest) := by
    rw [readTypeArguments_of_readType (readType_word rfl (avoids_cons (by decide) _)),
      readTypeTail, second]
    rfl
  have shorter : rest.length < bothTokens.length := by
    simp only [bothTokens, secondTokens, List.length_cons]
    omega
  have named : readNamed "Record" (.symbol .less :: bothTokens) =
      some (typeNodeOf .map, rest) := by
    rw [readNamed, both, andThen_some shorter]
    rfl
  refine readArrayType_of_readTypePrimary ?_
  change readTypePrimary (.word "Record" :: .symbol .less :: bothTokens) = _
  rw [readTypePrimary, if_neg (by decide), if_neg (by decide), named]

theorem readsType (type : Ty) (named : namesClasses type = true) : ReadsType type := by
  induction type with
  | int => exact readsType_of_named rfl rfl rfl
  | float => exact readsType_of_named rfl rfl rfl
  | bool => exact readsType_of_named rfl rfl rfl
  | dateTime => exact readsType_of_named rfl rfl rfl
  | text => exact readsType_of_named rfl rfl rfl
  | row => exact readsType_of_named rfl rfl rfl
  | connection => exact readsType_of_named rfl rfl rfl
  | unknown => exact readsType_of_named rfl rfl rfl
  | object className =>
      rw [namesClasses, isClassName, Bool.and_eq_true, Bool.not_eq_true'] at named
      exact readsType_of_named named.2 rfl rfl
  | map => exact readsType_map
  | nullable inner ih =>
      refine ⟨fun plain => absurd plain.symm Bool.false_ne_true, fun rest avoids => ?_⟩
      have next : Avoids [.less, .openBracket]
          (.symbol .bar :: .word "null" :: rest) := avoids_cons (by decide) _
      have null : readArrayType (.word "null" :: rest) = some (.null, rest) := by
        have null : readTypePrimary (.word "null" :: rest) = some (.null, rest) := by
          rw [readTypePrimary, if_pos rfl]
        exact (readArrayType_of_readTypePrimary null).trans
          (readBrackets_of_avoids (avoids.mono (by decide)))
      rw [typeLexemes, tokensOf_append, List.append_assoc]
      refine ((ih named).whole _ next).trans ?_
      rw [readUnion, null, andThen_some (Nat.lt_succ_self _)]
      rfl
  | list item ih =>
      refine readsType_of_item fun rest avoids => ?_
      have more : readBrackets (typeNodeOf item)
          (.symbol .openBracket :: .symbol .closeBracket :: rest) =
            readBrackets (typeNodeOf (.list item)) rest := by
        rw [readBrackets]
        rfl
      rw [typeLexemes, tokensOf_append, List.append_assoc]
      cases nullable : item.isNullable with
      | false =>
          exact ((ih named).item nullable _ (avoids_cons (by decide) _)).trans more
      | true =>
          have inside : readTypePrimary
              (tokensOf (parenthesized (typeLexemes item)) ++ .symbol .openBracket ::
                .symbol .closeBracket :: rest) =
                some (typeNodeOf item, .symbol .openBracket :: .symbol .closeBracket :: rest) := by
            have whole := (ih named).read (avoids_cons
              (by decide : Symbol.closeParen ∉ [.less, .openBracket, .bar])
              (.symbol .openBracket :: .symbol .closeBracket :: rest))
            rw [tokensOf_parenthesized, readTypePrimary, whole, andThen_some (lt_of_readType whole),
              expect_self, andThen_some (Nat.lt_succ_self _)]
          rw [if_pos rfl]
          exact (readArrayType_of_readTypePrimary inside).trans more

end DataAccess.TypeScript
