import DataAccess.Proofs.Naming.CamelWords
import DataAccess.Proofs.Naming.SnakeWords

/-!
# Repeated conversion

Converting an identifier to a style moves the boundaries of its words, and where it does, converting
the result once more gives another one: `A1_B` becomes `a1_b`, and that becomes `a_1_b`. A style
leaves its own result as it is exactly if the result has no such boundary (`apply_apply_iff`). So it
is always from the second conversion on, and for words in capitals from the first.
-/

namespace DataAccess.Naming

open Text

namespace CaseStyle

/-- Whether a text has a boundary of words that the style would move: between words with
underscores, a digit or a capital inside a word beside a lower-case letter; in words run together,
two capitals side by side in front of every lower-case letter. -/
def isUnsettled : CaseStyle → List Char → Bool
  | lowerSnake | screamingSnake | capitalizedSnake => splitsWord
  | lowerCamel | upperCamel => crowdsCapitals

end CaseStyle

variable {text : List Char}

/-- What is converted does not end in separators. -/
theorem dropLastSeparators_applyChars (style : CaseStyle) (chars : IsIdentifier text) :
    dropLastSeparators (style.applyChars text) = style.applyChars text := by
  refine dropLastWhile_of_getLast? fun c last => ?_
  have char : isIdentifierChar c = true :=
    isIdentifier_applyChars style chars c (List.mem_of_getLast? last)
  rw [isSeparator_eq_beq char, beq_eq_false_iff_ne]
  rintro rfl
  exact endsPlain_applyChars style chars last

/-- No word is split at the beginning. -/
theorem splitsWord_underscore (text : List Char) : splitsWord ('_' :: text) = splitsWord text := by
  cases text with
  | nil => rfl
  | cons c rest =>
      rw [splitsWord]
      rfl

/-- Without small letters no word is split. -/
theorem splitsWord_of_no_lower (noLower : ∀ c ∈ text, c.isLower = false) :
    splitsWord text = false := by
  induction text with
  | nil => rfl
  | cons before rest ih =>
      obtain ⟨first, others⟩ := List.forall_mem_cons.mp noLower
      cases rest with
      | nil => rfl
      | cons c rest =>
          have next : rest.head?.any Char.isLower = false :=
            (Option.any_eq_false _ _).mpr fun d among =>
              others d (List.mem_cons_of_mem _ (List.mem_of_mem_head? among))
          rw [splitsWord, opensWord, first, next, Bool.or_false, Bool.and_false, ih others,
            Bool.or_false]

theorem map_eq_self {recase : Char → Char} (same : ∀ c ∈ text, recase c = c) :
    text.map recase = text :=
  (List.map_congr_left same).trans (List.map_id text)

/-- What holds of all characters in the new case holds of the characters of a conversion. -/
theorem of_mem_snake {recase : Char → Char} {holds : Char → Prop} (chars : IsIdentifier text)
    (underscore : holds '_') (recased : ∀ {c}, isIdentifierChar c = true → holds (recase c))
    {c : Char} (member : c ∈ snake recase text) : holds c := by
  rw [snake_eq_snakeBetween recase chars] at member
  rcases mem_snakeBetween member with rfl | ⟨d, among, rfl⟩
  · exact underscore
  · exact recased (isIdentifier_dropLastWhile isSeparator chars d among)

/-- Lower snake case has no capitals. -/
theorem toLower_of_mem_snake (chars : IsIdentifier text) {c : Char}
    (member : c ∈ snake Char.toLower text) : c.toLower = c ∧ c.isUpper = false := by
  have lowered {d : Char} : isIdentifierChar d = true →
      d.toLower.toLower = d.toLower ∧ d.toLower.isUpper = false :=
    @forall_isIdentifierChar
      (fun d => d.toLower.toLower = d.toLower ∧ d.toLower.isUpper = false) (by decide) d
  exact @of_mem_snake _ _ (fun d => d.toLower = d ∧ d.isUpper = false) chars (by decide) lowered
    _ member

/-- Upper snake case has no small letters. -/
theorem toUpper_of_mem_snake (chars : IsIdentifier text) {c : Char}
    (member : c ∈ snake Char.toUpper text) : c.toUpper = c ∧ c.isLower = false := by
  have raised {d : Char} : isIdentifierChar d = true →
      d.toUpper.toUpper = d.toUpper ∧ d.toUpper.isLower = false :=
    @forall_isIdentifierChar
      (fun d => d.toUpper.toUpper = d.toUpper ∧ d.toUpper.isLower = false) (by decide) d
  exact @of_mem_snake _ _ (fun d => d.toUpper = d ∧ d.isLower = false) chars (by decide) raised
    _ member

/-- Snake case puts single underscores between words. -/
theorem isSpaced_snake {recase : Char → Char} (chars : IsIdentifier text)
    (keeps : ∀ {c}, isIdentifierChar c = true → (recase c = '_' ↔ c = '_')) :
    IsSpaced ('_' :: snake recase text) := by
  rw [snake_eq_snakeBetween recase chars]
  exact isSpaced_snakeBetween
    (fun c member => keeps (isIdentifier_dropLastWhile isSeparator chars c member)) id

/-- Another conversion of a text that is trimmed and spaced already. -/
theorem snake_again_iff {recase : Char → Char} (chars : IsIdentifier text)
    (keeps : ∀ {c}, isIdentifierChar c = true → (recase c = '_' ↔ c = '_'))
    (trimmed : dropLastSeparators text = text) (spaced : IsSpaced ('_' :: text)) :
    snake recase text = text.map recase ↔ splitsWord text = false := by
  rw [snake_eq_snakeBetween recase chars, trimmed, ← splitsWord_underscore]
  exact snakeBetween_eq_map_iff (fun c member => keeps (chars c member)) spaced

section Lowered

variable {style : CaseStyle} {wanted : Bool}

/-- A style of words between underscores in lower case, with capitals at their start if wanted. -/
def WritesLowered (style : CaseStyle) (wanted : Bool) : Prop :=
  ∀ {text}, IsIdentifier text →
    style.applyChars text = capitalsFrom wanted '_' (snake Char.toLower text)

/-- Lower snake case writes small letters only. -/
theorem writesLowered_lowerSnake : WritesLowered .lowerSnake false :=
  fun _ => (capitalsFrom_unwanted _ _).symm

/-- Capitalized snake case writes small letters behind the first one of each word. -/
theorem writesLowered_capitalizedSnake : WritesLowered .capitalizedSnake true := by
  intro text chars
  have lowered : IsIdentifier (snake Char.toLower text) := isIdentifier_applyChars .lowerSnake chars
  obtain ⟨part, parts, split⟩ :=
    List.exists_cons_of_ne_nil (splitAt_ne_nil '_' (snake Char.toLower text))
  have joined := @joinParts_capitalized _ lowered '_' _ _ split
  rw [if_pos rfl] at joined
  rw [← joined, CaseStyle.applyChars, split, List.map_cons]

/-- A style of small letters puts single underscores between words. -/
theorem isSpaced_applyChars (writes : WritesLowered style wanted) (chars : IsIdentifier text) :
    IsSpaced ('_' :: style.applyChars text) := by
  rw [writes chars]
  exact isSpaced_capitalsFrom wanted (isIdentifier_applyChars .lowerSnake chars)
    (isSpaced_snake chars toLower_eq_underscore_iff) Iff.rfl

/-- Converting to small letters twice adds nothing if no word was split the first time. -/
theorem applyChars_lowered_iff (writes : WritesLowered style wanted) (chars : IsIdentifier text) :
    style.applyChars (style.applyChars text) = style.applyChars text ↔
      splitsWord (style.applyChars text) = false := by
  have written := isIdentifier_applyChars style chars
  have lowered : IsIdentifier (snake Char.toLower text) := isIdentifier_applyChars .lowerSnake chars
  have again : IsIdentifier (snake Char.toLower (style.applyChars text)) :=
    isIdentifier_applyChars .lowerSnake written
  have same : (style.applyChars text).map Char.toLower = snake Char.toLower text := by
    rw [writes chars, map_toLower_capitalsFrom wanted '_' lowered]
    exact map_eq_self fun c member => (toLower_of_mem_snake chars member).1
  rw [← snake_again_iff written toLower_eq_underscore_iff
    (dropLastSeparators_applyChars style chars) (isSpaced_applyChars writes chars), writes written]
  constructor
  · intro unchanged
    have folded := congrArg (List.map Char.toLower) unchanged
    rw [map_toLower_capitalsFrom wanted '_' again] at folded
    rw [← folded]
    exact (map_eq_self fun c member => (toLower_of_mem_snake written member).1).symm
  · intro unsplit
    rw [unsplit, same, writes chars]

/-- The second conversion to small letters splits no word. -/
theorem splitsWord_lowered (writes : WritesLowered style wanted) (chars : IsIdentifier text) :
    splitsWord (style.applyChars (style.applyChars text)) = false := by
  have written := isIdentifier_applyChars style chars
  have starts : HasCapitalsAtStarts wanted ('_' :: style.applyChars text) := by
    rw [writes chars]
    exact hasCapitalsAtStarts_capitalsFrom wanted
      (fun c member => (toLower_of_mem_snake chars member).2) id
  have unsplit := splitsWord_snakeBetween wanted written starts (Or.inl ⟨rfl, rfl, rfl⟩)
  rwa [splitsWord_underscore, ← dropLastSeparators_applyChars style chars,
    ← snake_eq_snakeBetween Char.toLower written, ← writes written] at unsplit

end Lowered

/-- Words in capitals are never split. -/
theorem splitsWord_screaming (chars : IsIdentifier text) :
    splitsWord (CaseStyle.screamingSnake.applyChars text) = false :=
  splitsWord_of_no_lower fun _ member => (toUpper_of_mem_snake chars member).2

/-- Converting to screaming snake case twice adds nothing. -/
theorem applyChars_screaming (chars : IsIdentifier text) :
    CaseStyle.screamingSnake.applyChars (CaseStyle.screamingSnake.applyChars text) =
      CaseStyle.screamingSnake.applyChars text := by
  have again := (snake_again_iff (isIdentifier_applyChars .screamingSnake chars)
    toUpper_eq_underscore_iff (dropLastSeparators_applyChars .screamingSnake chars)
    (isSpaced_snake chars toUpper_eq_underscore_iff)).mpr (splitsWord_screaming chars)
  exact again.trans (map_eq_self fun c member => (toUpper_of_mem_snake chars member).1)

/-- A style leaves its own result as it is exactly where no boundary of words would move. -/
theorem applyChars_applyChars_iff (style : CaseStyle) (chars : IsIdentifier text) :
    style.applyChars (style.applyChars text) = style.applyChars text ↔
      style.isUnsettled (style.applyChars text) = false := by
  cases style with
  | lowerSnake => exact applyChars_lowered_iff writesLowered_lowerSnake chars
  | screamingSnake =>
      exact ⟨fun _ => splitsWord_screaming chars, fun _ => applyChars_screaming chars⟩
  | capitalizedSnake => exact applyChars_lowered_iff writesLowered_capitalizedSnake chars
  | lowerCamel => exact camel_camel_eq_iff false chars
  | upperCamel => exact camel_camel_eq_iff true chars

/-- No boundary of words would move after the second conversion. -/
theorem isUnsettled_applyChars (style : CaseStyle) (chars : IsIdentifier text) :
    style.isUnsettled (style.applyChars (style.applyChars text)) = false := by
  cases style with
  | lowerSnake => exact splitsWord_lowered writesLowered_lowerSnake chars
  | screamingSnake => exact splitsWord_screaming (isIdentifier_applyChars .screamingSnake chars)
  | capitalizedSnake => exact splitsWord_lowered writesLowered_capitalizedSnake chars
  | lowerCamel => exact crowdsCapitals_camel_camel false chars
  | upperCamel => exact crowdsCapitals_camel_camel true chars

/-- Converting twice, in characters. -/
theorem apply_apply (style : CaseStyle) (ident : String) :
    style.apply (style.apply ident) =
      String.ofList (style.applyChars (style.applyChars ident.toList)) := by
  rw [CaseStyle.apply, CaseStyle.apply, String.toList_ofList]

/-- Converting twice adds nothing to a name if it adds nothing to its characters. -/
theorem apply_apply_eq_iff (style : CaseStyle) (ident : String) :
    style.apply (style.apply ident) = style.apply ident ↔
      style.applyChars (style.applyChars ident.toList) = style.applyChars ident.toList := by
  rw [apply_apply, CaseStyle.apply, String.ofList_inj]

/-- A name fits a style if converting it changes nothing. -/
theorem fits_iff {style : CaseStyle} {ident : String} (filled : ident ≠ "") :
    style.fits ident = true ↔ style.apply ident = ident := by
  rw [CaseStyle.fits, Bool.and_eq_true, beq_iff_eq, Bool.not_eq_true', ← Bool.not_eq_true,
    String.isEmpty_iff]
  exact and_iff_right filled

/-- Detection finds a style that leaves an identifier as it is, if there is one. -/
theorem detect?_iff {ident : String} (filled : ident ≠ "") :
    (∃ found, CaseStyle.detect? ident = some found ∧ found.apply ident = ident) ↔
      ∃ style : CaseStyle, style.apply ident = ident := by
  constructor
  · rintro ⟨found, -, same⟩
    exact ⟨found, same⟩
  · rintro ⟨style, same⟩
    have listed : style ∈ CaseStyle.all := by cases style <;> decide
    cases detected : CaseStyle.detect? ident with
    | none =>
        exact absurd ((fits_iff filled).mpr same) (List.find?_eq_none.mp detected style listed)
    | some found =>
        have fits : found.fits ident = true := by
          rw [CaseStyle.detect?] at detected
          exact @List.find?_some CaseStyle (fun style => style.fits ident) _ _ detected
        exact ⟨found, rfl, (fits_iff filled).mp fits⟩

/-- **A style leaves its own result as it is exactly where no boundary of words would move**, and
always from the second time on. -/
theorem apply_apply_iff (style : CaseStyle) {ident : String} (chars : IsIdentifier ident.toList) :
    let written := style.apply ident
    (style.apply written = written ↔ style.isUnsettled written.toList = false) ∧
      (written ≠ "" →
        (style.fits written = true ↔ style.isUnsettled written.toList = false) ∧
        ((∃ found, CaseStyle.detect? written = some found ∧ found.apply written = written) ↔
          ∃ other : CaseStyle, other.apply written = written)) ∧
      style.apply (style.apply written) = style.apply written ∧
      (style = .screamingSnake → style.apply written = written) := by
  intro written
  have text : written.toList = style.applyChars ident.toList := String.toList_ofList
  have settled : style.apply written = written ↔ style.isUnsettled written.toList = false := by
    rw [text]
    exact (apply_apply_eq_iff style ident).trans (applyChars_applyChars_iff style chars)
  have again : IsIdentifier written.toList := text ▸ isIdentifier_applyChars style chars
  refine ⟨settled, fun filled => ⟨(fits_iff filled).trans settled, detect?_iff filled⟩, ?_, ?_⟩
  · rw [apply_apply_eq_iff, applyChars_applyChars_iff style again, text]
    exact isUnsettled_applyChars style chars
  · rintro rfl
    exact (apply_apply_eq_iff _ ident).mpr (applyChars_screaming chars)

theorem apply_apply_iff_orderItems :
    let written := CaseStyle.upperCamel.apply "order_items"
    IsIdentifier "order_items".toList ∧ written = "OrderItems" ∧
      CaseStyle.upperCamel.apply written = written ∧ CaseStyle.upperCamel.fits written = true := by
  have chars : IsIdentifier "order_items".toList := List.all_eq_true.mp (by decide)
  obtain ⟨same, found, -⟩ := apply_apply_iff .upperCamel chars
  exact ⟨chars, by decide, same.mpr (by decide), (found (by decide)).1.mpr (by decide)⟩

/-- A conversion that is split once more is in no style at all. -/
theorem lowerSnake_unsettled :
    CaseStyle.lowerSnake.apply "A1_B" = "a1_b" ∧ CaseStyle.lowerSnake.apply "a1_b" = "a_1_b" ∧
      CaseStyle.lowerSnake.fits "a1_b" = false ∧ CaseStyle.detect? "a1_b" = none := by
  decide

end DataAccess.Naming
