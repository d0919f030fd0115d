import DataAccess.Naming.Convention
import DataAccess.Proofs.Text.Splitting

/-!
# The characters of identifiers

Whatever a name of the catalog is made of, the identifier that it becomes holds ASCII letters,
digits and underscores only (`isIdentifier_identifier`).
-/

namespace DataAccess.Naming

open Text

/-- A text of identifier characters only. -/
def IsIdentifier (text : List Char) : Prop :=
  ∀ c ∈ text, isIdentifierChar c = true

/-- Identifiers may be written after each other. -/
theorem isIdentifier_append {front back : List Char} (first : IsIdentifier front)
    (second : IsIdentifier back) : IsIdentifier (front ++ back) :=
  List.forall_mem_append.mpr ⟨first, second⟩

theorem isIdentifier_cons {c : Char} {rest : List Char} (first : isIdentifierChar c = true)
    (others : IsIdentifier rest) : IsIdentifier (c :: rest) :=
  List.forall_mem_cons.mpr ⟨first, others⟩

/-- The characters of identifiers are among the first 128, so that facts on them can be checked one
by one. -/
theorem toNat_lt_of_isIdentifierChar {c : Char} (char : isIdentifierChar c = true) :
    c.toNat < 128 := by
  have below (last : Char) (bounded : decide (c.val ≤ last.val) = true)
      (ascii : last.toNat < 128) : c.toNat < 128 :=
    Nat.lt_of_le_of_lt (UInt32.le_iff_toNat_le.mp (of_decide_eq_true bounded)) ascii
  rcases Bool.or_eq_true_iff.mp char with alphanumeric | underscore
  · rcases Bool.or_eq_true_iff.mp alphanumeric with alpha | digit
    · rcases Bool.or_eq_true_iff.mp alpha with upper | lower
      · exact below 'Z' (decide_eq_true (of_decide_eq_true upper).2) (by decide)
      · exact below 'z' (Bool.and_eq_true_iff.mp lower).2 (by decide)
    · exact below '9' (Bool.and_eq_true_iff.mp digit).2 (by decide)
  · obtain rfl := beq_iff_eq.mp underscore
    decide

/-- What holds of every identifier character below 128 holds of every identifier character. -/
theorem forall_isIdentifierChar {holds : Char → Prop}
    (each : ∀ n < 128, isIdentifierChar (Char.ofNat n) = true → holds (Char.ofNat n)) {c : Char}
    (char : isIdentifierChar c = true) : holds c := by
  have self : Char.ofNat c.toNat = c := Char.ofNat_toNat c
  have found := each c.toNat (toNat_lt_of_isIdentifierChar char)
  rw [self] at found
  exact found char

/-- Lower case keeps the characters of identifiers. -/
theorem isIdentifierChar_toLower {c : Char} :
    isIdentifierChar c = true → isIdentifierChar c.toLower = true :=
  @forall_isIdentifierChar (fun c => isIdentifierChar c.toLower = true) (by decide) c

/-- Upper case keeps the characters of identifiers. -/
theorem isIdentifierChar_toUpper {c : Char} :
    isIdentifierChar c = true → isIdentifierChar c.toUpper = true :=
  @forall_isIdentifierChar (fun c => isIdentifierChar c.toUpper = true) (by decide) c

theorem isIdentifierChar_underscore : isIdentifierChar '_' = true := by decide

/-- The characters that words consist of. -/
inductive IsWordChar (c : Char) : Prop
  | digit (isDigit : c.isDigit = true) (noCapital : c.isUpper = false) (noLower : c.isLower = false)
  | capital (noDigit : c.isDigit = false) (isCapital : c.isUpper = true)
      (noLower : c.isLower = false)
  | lower (noDigit : c.isDigit = false) (noCapital : c.isUpper = false) (isLower : c.isLower = true)

section Letters

variable {c : Char}

/-- A character of an identifier belongs to a word unless it is an underscore. -/
theorem isWordChar (char : isIdentifierChar c = true) (word : c ≠ '_') : IsWordChar c := by
  have each : isIdentifierChar c = true → c = '_' ∨ (c.isDigit, c.isUpper, c.isLower) ∈
      [(true, false, false), (false, true, false), (false, false, true)] :=
    @forall_isIdentifierChar (fun c => c = '_' ∨ (c.isDigit, c.isUpper, c.isLower) ∈
      [(true, false, false), (false, true, false), (false, false, true)]) (by decide) c
  rcases each char with underscore | kind
  · exact absurd underscore word
  · simp only [List.mem_cons, List.not_mem_nil, or_false, Prod.mk.injEq] at kind
    rcases kind with ⟨digit, capital, lower⟩ | ⟨digit, capital, lower⟩ | ⟨digit, capital, lower⟩
    · exact .digit digit capital lower
    · exact .capital digit capital lower
    · exact .lower digit capital lower

/-- Upper case changes lower-case letters only. -/
theorem toUpper_eq_self_iff : isIdentifierChar c = true → (c.toUpper = c ↔ c.isLower = false) :=
  @forall_isIdentifierChar (fun c => c.toUpper = c ↔ c.isLower = false) (by decide) c

/-- Lower case changes upper-case letters only. -/
theorem toLower_eq_self_iff : isIdentifierChar c = true → (c.toLower = c ↔ c.isUpper = false) :=
  @forall_isIdentifierChar (fun c => c.toLower = c ↔ c.isUpper = false) (by decide) c

/-- Digits are no letters. -/
theorem isUpper_of_isDigit : isIdentifierChar c = true → c.isDigit = true → c.isUpper = false :=
  @forall_isIdentifierChar (fun c => c.isDigit = true → c.isUpper = false) (by decide) c

/-- Upper case makes letters capital. -/
theorem isUpper_toUpper : isIdentifierChar c = true → c ≠ '_' → c.isDigit = false →
    c.toUpper.isUpper = true ∧ c.toUpper.isLower = false :=
  @forall_isIdentifierChar (fun c => c ≠ '_' → c.isDigit = false →
    c.toUpper.isUpper = true ∧ c.toUpper.isLower = false) (by decide) c

/-- Lower case makes letters small. -/
theorem isLower_toLower : isIdentifierChar c = true → c ≠ '_' → c.isDigit = false →
    c.toLower.isLower = true ∧ c.toLower.isUpper = false :=
  @forall_isIdentifierChar (fun c => c ≠ '_' → c.isDigit = false →
    c.toLower.isLower = true ∧ c.toLower.isUpper = false) (by decide) c

end Letters

variable {text : List Char}

/-- Dropping characters from the end keeps identifiers. -/
theorem isIdentifier_dropLastWhile (inClass : Char → Bool) (chars : IsIdentifier text) :
    IsIdentifier (dropLastWhile inClass text) := by
  induction text with
  | nil => exact chars
  | cons c rest ih =>
      obtain ⟨first, others⟩ := List.forall_mem_cons.mp chars
      have kept := ih others
      rw [dropLastWhile]
      split
      · split
        · nofun
        · exact isIdentifier_cons first nofun
      · exact isIdentifier_cons first kept

/-- Snake case keeps identifiers. -/
theorem isIdentifier_snakeFrom {recase : Char → Char}
    (keeps : ∀ {c}, isIdentifierChar c = true → isIdentifierChar (recase c) = true)
    (whole : List Char) (offset : Nat) (fresh : Bool) (chars : IsIdentifier text) :
    IsIdentifier (snakeFrom recase whole offset fresh text) := by
  induction text generalizing offset fresh with
  | nil => nofun
  | cons c rest ih =>
      obtain ⟨first, others⟩ := List.forall_mem_cons.mp chars
      have later := fun fresh => ih (offset + c.utf8Size) fresh others
      rw [snakeFrom]
      split
      · split
        · exact later true
        · exact isIdentifier_cons isIdentifierChar_underscore (later true)
      · split
        · exact isIdentifier_cons isIdentifierChar_underscore
            (isIdentifier_cons (keeps first) (later false))
        · exact isIdentifier_cons (keeps first) (later false)

/-- Camel case keeps identifiers. -/
theorem isIdentifier_camelFrom (state : CamelState) (chars : IsIdentifier text) :
    IsIdentifier (camelFrom state text) := by
  induction text generalizing state with
  | nil => nofun
  | cons c rest ih =>
      obtain ⟨first, others⟩ := List.forall_mem_cons.mp chars
      rw [camelFrom]
      split
      · exact ih _ others
      split
      · exact isIdentifier_cons first (ih _ others)
      split
      · exact isIdentifier_cons (isIdentifierChar_toUpper first) (ih _ others)
      · exact isIdentifier_cons (isIdentifierChar_toLower first) (ih _ others)

/-- The parts of an identifier are identifiers. -/
theorem isIdentifier_of_mem_splitAt {separator : Char} {part : List Char}
    (chars : IsIdentifier text) (member : part ∈ splitAt separator text) : IsIdentifier part :=
  fun c inside => chars c (mem_of_mem_splitAt member inside)

/-- A capital keeps identifiers. -/
theorem isIdentifier_capitalize (chars : IsIdentifier text) :
    IsIdentifier (CaseStyle.capitalize text) := by
  cases text with
  | nil => exact chars
  | cons c rest =>
      obtain ⟨first, others⟩ := List.forall_mem_cons.mp chars
      rw [CaseStyle.capitalize, upperChar_of_ascii (toNat_lt_of_isIdentifierChar first)]
      exact isIdentifier_cons (isIdentifierChar_toUpper first) others

/-- Identifiers joined by underscores are one. -/
theorem isIdentifier_joinParts {parts : List (List Char)}
    (each : ∀ part ∈ parts, IsIdentifier part) : IsIdentifier (CaseStyle.joinParts parts) := by
  induction parts with
  | nil => nofun
  | cons part parts ih =>
      obtain ⟨first, others⟩ := List.forall_mem_cons.mp each
      cases parts with
      | nil => exact first
      | cons next parts =>
          exact isIdentifier_append first
            (isIdentifier_cons isIdentifierChar_underscore (ih others))

/-- Every style makes identifiers of identifiers. -/
theorem isIdentifier_applyChars (style : CaseStyle) (chars : IsIdentifier text) :
    IsIdentifier (style.applyChars text) := by
  have trimmed := isIdentifier_dropLastWhile isSeparator chars
  have lowered : IsIdentifier (snake Char.toLower text) :=
    isIdentifier_snakeFrom isIdentifierChar_toLower text 0 true trimmed
  cases style with
  | lowerSnake => exact lowered
  | screamingSnake => exact isIdentifier_snakeFrom isIdentifierChar_toUpper text 0 true trimmed
  | capitalizedSnake =>
      refine isIdentifier_joinParts fun part member => ?_
      obtain ⟨word, inWords, rfl⟩ := List.mem_map.mp member
      exact isIdentifier_capitalize (isIdentifier_of_mem_splitAt lowered inWords)
  | lowerCamel => exact isIdentifier_camelFrom _ trimmed
  | upperCamel => exact isIdentifier_camelFrom _ trimmed

/-- Sanitizing makes an identifier of any name. -/
theorem isIdentifier_sanitize (name : String) : IsIdentifier (sanitize name).toList := by
  have replaced :
      IsIdentifier (name.toList.map fun c => if isIdentifierChar c then c else '_') := by
    intro c member
    obtain ⟨d, -, rfl⟩ := List.mem_map.mp member
    split
    · assumption
    · exact isIdentifierChar_underscore
  rw [sanitize, String.toList_ofList, sanitizeChars]
  revert replaced
  cases name.toList.map fun c => if isIdentifierChar c then c else '_' with
  | nil => exact id
  | cons c rest =>
      intro replaced
      simp only
      split
      · exact isIdentifier_cons isIdentifierChar_underscore replaced
      · exact replaced

/-- A styled identifier is the conversion of the cleaned name, or that name itself where the
conversion leaves nothing. -/
theorem identifier_some (style : CaseStyle) (name : String) :
    let converted := style.applyChars (sanitize name).toList
    (converted = [] ∧ identifier (some style) name = sanitize name) ∨
      (converted ≠ [] ∧ (identifier (some style) name).toList = converted) := by
  simp only [identifier, CaseStyle.apply, String.isEmpty_iff, String.ofList_eq_empty_iff]
  split
  next nothing => exact Or.inl ⟨nothing, rfl⟩
  next something => exact Or.inr ⟨something, String.toList_ofList⟩

/-- **Identifiers hold identifier characters only**, whatever they are made from. -/
theorem isIdentifier_identifier (style : Option CaseStyle) (name : String) :
    IsIdentifier (identifier style name).toList := by
  have plain := isIdentifier_sanitize name
  cases style with
  | none => exact plain
  | some style =>
      rcases identifier_some style name with ⟨-, same⟩ | ⟨-, same⟩ <;> rw [same]
      · exact plain
      · exact isIdentifier_applyChars style plain

end DataAccess.Naming
