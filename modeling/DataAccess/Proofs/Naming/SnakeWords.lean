import DataAccess.Proofs.Naming.LegalIdentifiers

/-!
# Words between underscores

How the words of an identifier are told apart when they are written with underscores between them,
read off from each character and its two neighbours (`snake_eq_snakeBetween`). The texts that such
a conversion gives are converted once more without another underscore exactly if no digit or capital
inside a word stands beside a lower-case letter (`snakeBetween_eq_map_iff`).
-/

namespace DataAccess.Naming

open Text

/-- Whether a word is split in front of a character that stands between two others: a digit or a
capital inside a word is the first character of another word if a neighbour is a lower-case
letter. -/
def opensWord (before c : Char) (after : Option Char) : Bool :=
  before != '_' && (c.isDigit || c.isUpper) && (before.isLower || after.any Char.isLower)

/-- Whether a word is split somewhere inside a text. -/
def splitsWord : List Char → Bool
  | before :: c :: rest => opensWord before c rest.head? || splitsWord (c :: rest)
  | _ => false

/-- The words of a text in the given case with underscores between them, where the text stands
behind a character. -/
def snakeBetween (recase : Char → Char) : Char → List Char → List Char
  | _, [] => []
  | before, c :: rest =>
    if c = '_' then
      if before = '_' then snakeBetween recase c rest else '_' :: snakeBetween recase c rest
    else if opensWord before c rest.head? then '_' :: recase c :: snakeBetween recase c rest
    else recase c :: snakeBetween recase c rest

section Neighbours

variable {c : Char} {text : List Char}

theorem toUpper_beq_self : isIdentifierChar c = true → c ≠ '_' →
    (c.toUpper == c) = (c.isDigit || c.isUpper) :=
  @forall_isIdentifierChar
    (fun c => c ≠ '_' → (c.toUpper == c) = (c.isDigit || c.isUpper)) (by decide) c

theorem utf8Size_of_isIdentifierChar : isIdentifierChar c = true → c.utf8Size = 1 :=
  @forall_isIdentifierChar (fun c => c.utf8Size = 1) (by decide) c

theorem lowerAt_eq (chars : IsIdentifier text) (position : Nat) :
    lowerAt text position = text[position]?.any Char.isLower := by
  rw [lowerAt]
  cases found : text[position]? with
  | none => rfl
  | some c => exact isLowerCase_of_ascii (toNat_lt_of_isIdentifierChar
      (chars c (List.mem_of_getElem? found)))

end Neighbours

/-- Behind the first character, words are told apart by neighbours; whatever was dropped at the end
of the text is no lower-case letter. -/
theorem snakeFrom_eq_snakeBetween (recase : Char → Char) {whole front text dropped : List Char}
    {before : Char} (chars : IsIdentifier whole)
    (split : whole = front ++ before :: (text ++ dropped)) (blank : ∀ c ∈ dropped, c = '_') :
    snakeFrom recase whole (front.length + 1) (before == '_') text =
      snakeBetween recase before text := by
  induction text generalizing front before with
  | nil => rfl
  | cons c rest ih =>
      have char : isIdentifierChar c = true := chars c (by simp [split])
      have later := @ih (front ++ [before]) c (by simp [split])
      rw [List.length_append, List.length_singleton] at later
      rw [snakeFrom, snakeBetween, isSeparator_eq_beq char, utf8Size_of_isIdentifierChar char]
      by_cases underscore : c = '_'
      · subst underscore
        rw [beq_self_eq_true] at later
        simp only [beq_self_eq_true, ↓reduceIte, later, beq_iff_eq]
      · have previous : lowerAt whole front.length = before.isLower := by
          rw [lowerAt_eq chars]
          simp [split]
        have next : lowerAt whole (front.length + 2) = rest.head?.any Char.isLower := by
          have at_next : whole[front.length + 2]? = (rest ++ dropped).head? := by
            simp [split, List.getElem?_append_right, List.head?_eq_getElem?]
          rw [lowerAt_eq chars, at_next]
          cases rest with
          | cons d rest => rfl
          | nil =>
              cases dropped with
              | nil => rfl
              | cons d dropped =>
                  rw [blank d List.mem_cons_self]
                  rfl
        have opens : (!(before == '_') && startsWord whole (front.length + 1) c) =
            opensWord before c rest.head? := by
          rw [startsWord, opensWord, toUpper_beq_self char underscore, Nat.add_sub_cancel, previous,
            next, Bool.or_comm (rest.head?.any _), ← Bool.and_assoc]
          rfl
        rw [beq_eq_false_iff_ne.mpr underscore] at later ⊢
        rw [if_neg Bool.false_ne_true, if_neg underscore, opens, later]

/-- **Words are told apart by neighbours.** -/
theorem snake_eq_snakeBetween (recase : Char → Char) {text : List Char}
    (chars : IsIdentifier text) :
    snake recase text = snakeBetween recase '_' (dropLastSeparators text) := by
  obtain ⟨dropped, split, separators⟩ := exists_append_dropLastWhile isSeparator text
  have blank : ∀ c ∈ dropped, c = '_' := fun c member =>
    eq_underscore_of_isSeparator (chars c (split ▸ List.mem_append_right _ member))
      (separators c member)
  change text = dropLastSeparators text ++ dropped at split
  rw [snake]
  cases kept : dropLastSeparators text with
  | nil => rfl
  | cons c rest =>
      rw [kept] at split
      have char : isIdentifierChar c = true := chars c (by simp [split])
      have later := @snakeFrom_eq_snakeBetween recase text [] rest dropped c chars split blank
      rw [snakeFrom, snakeBetween, isSeparator_eq_beq char, utf8Size_of_isIdentifierChar char]
      by_cases underscore : c = '_'
      · subst underscore
        exact later
      · rw [beq_eq_false_iff_ne.mpr underscore] at later ⊢
        rw [if_neg underscore]
        exact congrArg (recase c :: ·) later

/-- No two underscores stand side by side. -/
def IsSpaced (text : List Char) : Prop :=
  text.IsChain fun first second => first = '_' → second ≠ '_'

section Spaced

variable {recase : Char → Char} {text : List Char}

/-- A change of case that leaves underscores alone and makes none. -/
def KeepsUnderscores (recase : Char → Char) (text : List Char) : Prop :=
  ∀ c ∈ text, recase c = '_' ↔ c = '_'

/-- **A spaced text gets no other underscore exactly if no word of it is split.** -/
theorem snakeBetween_eq_map_iff (keeps : KeepsUnderscores recase text) {before : Char}
    (spaced : IsSpaced (before :: text)) :
    snakeBetween recase before text = text.map recase ↔ splitsWord (before :: text) = false := by
  induction text generalizing before with
  | nil => exact ⟨fun _ => rfl, fun _ => rfl⟩
  | cons c rest ih =>
      obtain ⟨same, others⟩ := List.forall_mem_cons.mp keeps
      obtain ⟨apart, later⟩ := List.isChain_cons_cons.mp spaced
      have tail := ih others later
      rw [snakeBetween, splitsWord, List.map_cons, Bool.or_eq_false_iff, ← tail]
      by_cases underscore : c = '_'
      · have closed : opensWord before c rest.head? = false := by
          subst underscore
          simp [opensWord]
        have inside : before ≠ '_' := fun double => apart double underscore
        rw [if_pos underscore, if_neg inside, closed, same.mpr underscore]
        simp
      · rw [if_neg underscore]
        cases opensWord before c rest.head? with
        | true =>
            have differ : '_' ≠ recase c := fun equal => underscore (same.mp equal.symm)
            simp [differ]
        | false => simp

/-- Words between underscores are spaced, also behind a character that is an underscore only where
the text stands behind one. -/
theorem isSpaced_snakeBetween (keeps : KeepsUnderscores recase text) {before first : Char}
    (behind : first = '_' → before = '_') :
    IsSpaced (first :: snakeBetween recase before text) := by
  induction text generalizing before first with
  | nil => exact .singleton first
  | cons c rest ih =>
      obtain ⟨same, others⟩ := List.forall_mem_cons.mp keeps
      have word (underscore : c ≠ '_') :
          IsSpaced (recase c :: snakeBetween recase c rest) :=
        ih others fun isUnderscore => same.mp isUnderscore
      rw [snakeBetween]
      split
      · next underscore =>
          split
          · exact ih others fun _ => underscore
          · next inside =>
              exact List.isChain_cons_cons.mpr
                ⟨fun double => absurd (behind double) inside, ih others fun _ => underscore⟩
      · next underscore =>
          have plain : recase c ≠ '_' := fun isUnderscore => underscore (same.mp isUnderscore)
          split
          · next opens =>
              have inside : before ≠ '_' := by
                rintro rfl
                cases opens
              exact List.isChain_cons_cons.mpr ⟨fun double => absurd (behind double) inside,
                List.isChain_cons_cons.mpr ⟨fun _ => plain, word underscore⟩⟩
          · exact List.isChain_cons_cons.mpr ⟨fun _ => plain, word underscore⟩

theorem mem_snakeBetween {before c : Char} (member : c ∈ snakeBetween recase before text) :
    c = '_' ∨ ∃ d ∈ text, c = recase d := by
  induction text generalizing before with
  | nil => cases member
  | cons d rest ih =>
      have later (inside : c ∈ snakeBetween recase d rest) :
          c = '_' ∨ ∃ e ∈ d :: rest, c = recase e :=
        (ih inside).imp_right fun ⟨e, among, same⟩ => ⟨e, List.mem_cons_of_mem _ among, same⟩
      have here (same : c = recase d) : c = '_' ∨ ∃ e ∈ d :: rest, c = recase e :=
        Or.inr ⟨d, List.mem_cons_self, same⟩
      rw [snakeBetween] at member
      split at member
      · split at member
        · exact later member
        · exact (List.mem_cons.mp member).elim Or.inl later
      · split at member
        · rcases List.mem_cons.mp member with same | member
          · exact Or.inl same
          · exact (List.mem_cons.mp member).elim here later
        · exact (List.mem_cons.mp member).elim here later

end Spaced

/-- The text with capitals at the start of its words, if they are wanted, where it stands behind a
character. -/
def capitalsFrom (wanted : Bool) : Char → List Char → List Char
  | _, [] => []
  | before, c :: rest =>
    (if wanted && before == '_' then c.toUpper else c) :: capitalsFrom wanted c rest

theorem capitalsFrom_unwanted (before : Char) (text : List Char) :
    capitalsFrom false before text = text := by
  induction text generalizing before with
  | nil => rfl
  | cons c rest ih => rw [capitalsFrom, ih, Bool.false_and, if_neg Bool.false_ne_true]

section Capitals

variable {text : List Char}

theorem joinParts_capitalized (chars : IsIdentifier text) {before : Char} {part : List Char}
    {parts : List (List Char)} (split : splitAt '_' text = part :: parts) :
    CaseStyle.joinParts
        ((if before = '_' then CaseStyle.capitalize part else part) ::
          parts.map CaseStyle.capitalize) =
      capitalsFrom true before text := by
  induction text generalizing before part parts with
  | nil =>
      cases split
      rw [capitalsFrom, CaseStyle.capitalize, ite_self]
      rfl
  | cons c rest ih =>
      obtain ⟨char, others⟩ := List.forall_mem_cons.mp chars
      obtain ⟨next, later, inRest⟩ := List.exists_cons_of_ne_nil (splitAt_ne_nil '_' rest)
      rw [splitAt, inRest] at split
      by_cases underscore : c = '_'
      · rw [if_pos underscore] at split
        cases split
        have behind := @ih others '_' _ _ inRest
        subst underscore
        rw [if_pos rfl] at behind
        rw [capitalsFrom, CaseStyle.capitalize, ite_self, List.map_cons, CaseStyle.joinParts,
          behind, List.nil_append]
        exact congrArg (· :: _) (ite_self _).symm
      · rw [if_neg underscore] at split
        cases split
        have behind := @ih others c _ _ inRest
        rw [if_neg underscore] at behind
        rw [capitalsFrom, ← behind, Bool.true_and]
        by_cases start : before = '_'
        · rw [if_pos start, beq_iff_eq.mpr start, if_pos rfl, CaseStyle.capitalize,
            upperChar_of_ascii (toNat_lt_of_isIdentifierChar char), List.singleton_append,
            joinParts_cons_cons]
        · rw [if_neg start, beq_eq_false_iff_ne.mpr start, if_neg Bool.false_ne_true,
            joinParts_cons_cons]

theorem toLower_eq_underscore_iff {c : Char} (char : isIdentifierChar c = true) :
    c.toLower = '_' ↔ c = '_' := by
  refine ⟨fun same => ?_, fun same => by rw [same]; rfl⟩
  by_contra plain
  exact toLower_ne_underscore char plain same

theorem toUpper_eq_underscore_iff {c : Char} (char : isIdentifierChar c = true) :
    c.toUpper = '_' ↔ c = '_' := by
  refine ⟨fun same => ?_, fun same => by rw [same]; rfl⟩
  by_contra plain
  exact toUpper_ne_underscore char plain same

/-- A character at the start of a word or inside it. -/
theorem written_eq_underscore_iff {c : Char} (char : isIdentifierChar c = true) (start : Bool) :
    (if start then c.toUpper else c) = '_' ↔ c = '_' := by
  cases start with
  | true => exact toUpper_eq_underscore_iff char
  | false => exact Iff.rfl

theorem map_toLower_capitalsFrom (wanted : Bool) (before : Char) (chars : IsIdentifier text) :
    (capitalsFrom wanted before text).map Char.toLower = text.map Char.toLower := by
  have same {c : Char} : isIdentifierChar c = true → c.toUpper.toLower = c.toLower :=
    @forall_isIdentifierChar (fun c => c.toUpper.toLower = c.toLower) (by decide) c
  induction text generalizing before with
  | nil => rfl
  | cons c rest ih =>
      obtain ⟨char, others⟩ := List.forall_mem_cons.mp chars
      rw [capitalsFrom, List.map_cons, List.map_cons, ih c others]
      split
      · rw [same char]
      · rfl

theorem isSpaced_capitalsFrom (wanted : Bool) (chars : IsIdentifier text) {before first : Char}
    (spaced : IsSpaced (before :: text)) (same : first = '_' ↔ before = '_') :
    IsSpaced (first :: capitalsFrom wanted before text) := by
  induction text generalizing before first with
  | nil => exact .singleton first
  | cons c rest ih =>
      obtain ⟨char, others⟩ := List.forall_mem_cons.mp chars
      obtain ⟨apart, later⟩ := List.isChain_cons_cons.mp spaced
      have underscore := written_eq_underscore_iff char (wanted && before == '_')
      exact List.isChain_cons_cons.mpr
        ⟨fun double => mt underscore.mp (apart (same.mp double)), ih others later underscore⟩

/-- Capitals stand at the start of words, and nowhere else. -/
def HasCapitalsAtStarts (wanted : Bool) (text : List Char) : Prop :=
  text.IsChain fun before c => c.isUpper = true → wanted = true ∧ before = '_'

theorem hasCapitalsAtStarts_capitalsFrom (wanted : Bool)
    (noCapitals : ∀ c ∈ text, c.isUpper = false) {before first : Char}
    (same : before = '_' → first = '_') :
    HasCapitalsAtStarts wanted (first :: capitalsFrom wanted before text) := by
  induction text generalizing before first with
  | nil => exact .singleton first
  | cons c rest ih =>
      obtain ⟨noCapital, others⟩ := List.forall_mem_cons.mp noCapitals
      refine List.isChain_cons_cons.mpr ⟨fun isCapital => ?_, ih others fun underscore => ?_⟩
      · split at isCapital
        · next start =>
            obtain ⟨isWanted, behind⟩ := Bool.and_eq_true_iff.mp start
            exact ⟨isWanted, same (beq_iff_eq.mp behind)⟩
        · rw [noCapital] at isCapital
          cases isCapital
      · rw [underscore]
        exact ite_self _

/-- What is written in lower case for a character other than a capital at the start of a word was a
lower-case letter. -/
theorem isLower_of_written {c : Char} (char : isIdentifierChar c = true) (plain : c ≠ '_')
    {start : Bool} (capital : c.isUpper = true → start = true)
    (lower : (if start then c.toLower.toUpper else c.toLower).isLower = true) :
    c.isLower = true := by
  cases isWordChar char plain with
  | digit isDigit noCapital noLower =>
      rw [(toLower_eq_self_iff char).mpr noCapital, (toUpper_eq_self_iff char).mpr noLower,
        ite_self, noLower] at lower
      cases lower
  | capital noDigit isCapital noLower =>
      have digit : c.toLower.isDigit = false := (isDigit_toLower char).trans noDigit
      rw [if_pos (capital isCapital), (isUpper_toUpper (isIdentifierChar_toLower char)
        (toLower_ne_underscore char plain) digit).2] at lower
      cases lower
  | lower noDigit noCapital isLower => exact isLower

/-- Inside a word, the next character is a lower-case letter only where it was one before. -/
theorem any_isLower_of_snakeBetween (wanted : Bool) (chars : IsIdentifier text) {before : Char}
    (char : isIdentifierChar before = true) (inside : before ≠ '_')
    (starts : HasCapitalsAtStarts wanted (before :: text))
    (lower : (capitalsFrom wanted before.toLower
      (snakeBetween Char.toLower before text)).head?.any Char.isLower = true) :
    text.head?.any Char.isLower = true := by
  cases text with
  | nil => exact lower
  | cons c rest =>
      have noStart : (wanted && before.toLower == '_') = false := by
        rw [beq_eq_false_iff_ne.mpr (toLower_ne_underscore char inside), Bool.and_false]
      have noCapital : c.isUpper = false := by
        by_contra isCapital
        exact inside ((List.isChain_cons_cons.mp starts).1 ((Bool.not_eq_false _).mp isCapital)).2
      have same := (toLower_eq_self_iff (List.forall_mem_cons.mp chars).1).mpr noCapital
      have noLower : '_'.isLower = false := by decide
      rw [snakeBetween, if_neg inside] at lower
      split at lower
      · simp [capitalsFrom, noStart, noLower] at lower
      split at lower
      · simp [capitalsFrom, noStart, noLower] at lower
      · simpa [capitalsFrom, noStart, same] using lower

/-- A word that is not split in front of a character is not split there when it is written. -/
theorem opensWord_written (wanted : Bool) (chars : IsIdentifier text) {before first c : Char}
    (char : isIdentifierChar c = true) (plain : c ≠ '_') (inside : before ≠ '_')
    (starts : HasCapitalsAtStarts wanted (before :: c :: text))
    (behind : first.isLower = true → before.isLower = true)
    (closed : opensWord before c text.head? = false) :
    opensWord first c.toLower
      (capitalsFrom wanted c.toLower (snakeBetween Char.toLower c text)).head? = false := by
  obtain ⟨start, later⟩ := List.isChain_cons_cons.mp starts
  have noCapital : c.isUpper = false := by
    by_contra isCapital
    exact inside (start ((Bool.not_eq_false _).mp isCapital)).2
  have next := any_isLower_of_snakeBetween wanted chars char plain later
  rw [opensWord, bne_iff_ne.mpr inside, Bool.true_and, noCapital, Bool.or_false] at closed
  rw [(toLower_eq_self_iff char).mpr noCapital, opensWord, noCapital, Bool.or_false]
  rw [(toLower_eq_self_iff char).mpr noCapital] at next
  rcases Bool.and_eq_false_iff.mp closed with noDigit | noLower
  · rw [noDigit, Bool.and_false, Bool.false_and]
  · obtain ⟨noneBefore, noneNext⟩ := Bool.or_eq_false_iff.mp noLower
    have left : first.isLower = false := by
      by_contra lower
      rw [behind ((Bool.not_eq_false _).mp lower)] at noneBefore
      cases noneBefore
    have right : (capitalsFrom wanted c (snakeBetween Char.toLower c text)).head?.any
        Char.isLower = false := by
      by_contra lower
      rw [next ((Bool.not_eq_false _).mp lower)] at noneNext
      cases noneNext
    rw [left, right, Bool.or_false, Bool.and_false]

/-- **Words that were split once are not split again.** -/
theorem splitsWord_snakeBetween (wanted : Bool) (chars : IsIdentifier text)
    {before previous first : Char} (starts : HasCapitalsAtStarts wanted (before :: text))
    (behind : (first = '_' ∧ previous = '_' ∧ before = '_') ∨
      (previous ≠ '_' ∧ before ≠ '_' ∧ (first.isLower = true → before.isLower = true))) :
    splitsWord
      (first :: capitalsFrom wanted previous (snakeBetween Char.toLower before text)) = false := by
  induction text generalizing before previous first with
  | nil => rfl
  | cons c rest ih =>
      obtain ⟨char, others⟩ := List.forall_mem_cons.mp chars
      obtain ⟨start, later⟩ := List.isChain_cons_cons.mp starts
      have closed (next : Option Char) : opensWord first '_' next = false := by
        simp [opensWord]
      have blank : (if wanted && previous == '_' then '_'.toUpper else '_') = '_' := ite_self _
      rw [snakeBetween]
      by_cases underscore : c = '_'
      · subst underscore
        rw [if_pos rfl]
        split
        · next double =>
            obtain ⟨rfl, rfl, rfl⟩ : first = '_' ∧ previous = '_' ∧ before = '_' := by
              rcases behind with all | ⟨-, inside, -⟩
              · exact all
              · exact absurd double inside
            exact ih others later (Or.inl ⟨rfl, rfl, rfl⟩)
        · rw [capitalsFrom, blank, splitsWord, closed, Bool.false_or]
          exact ih others later (Or.inl ⟨rfl, rfl, rfl⟩)
      · have word {isStart : Bool} (capital : c.isUpper = true → isStart = true) :=
          ih others later (Or.inr ⟨toLower_ne_underscore char underscore, underscore,
            isLower_of_written char underscore capital⟩)
        rw [if_neg underscore]
        split
        · next opens =>
            have inside : before ≠ '_' := by
              rintro rfl
              cases opens
            have noCapital : c.isUpper = true → (wanted && '_' == '_') = true :=
              fun isCapital => absurd (start isCapital).2 inside
            rw [capitalsFrom, blank, capitalsFrom, splitsWord, closed, Bool.false_or, splitsWord,
              word noCapital]
            rfl
        · next opens =>
            rw [capitalsFrom, splitsWord]
            rcases behind with ⟨rfl, rfl, rfl⟩ | ⟨inWord, inside, lower⟩
            · have capital : c.isUpper = true → (wanted && '_' == '_') = true :=
                fun isCapital => Bool.and_eq_true_iff.mpr ⟨(start isCapital).1, rfl⟩
              rw [word capital]
              rfl
            · have noStart : (wanted && previous == '_') = false := by
                rw [beq_eq_false_iff_ne.mpr inWord, Bool.and_false]
              rw [word fun isCapital => absurd (start isCapital).2 inside, noStart,
                if_neg Bool.false_ne_true, Bool.or_false]
              exact opensWord_written wanted others char underscore inside starts lower
                ((Bool.not_eq_true _).mp opens)

end Capitals

end DataAccess.Naming
