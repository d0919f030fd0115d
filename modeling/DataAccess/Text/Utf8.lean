/-!
# Reading UTF-8

Bytes are read from the front, one character or one ill-formed part at a time. An ill-formed part
is as long as a beginning of a well-formed character reaches, and at least one byte; this is the
splitting that the Unicode Standard recommends for replacement characters.
-/

namespace DataAccess.Text.Utf8

/-- The character that replaces an ill-formed part. -/
def replacement : Char := '\uFFFD'

/-- How the bytes after a leading byte have to look. -/
structure Lead where
  /-- The value contributed by the leading byte. -/
  value : Nat
  /-- How many bytes follow. -/
  following : Nat
  /-- The bounds of the first byte that follows; all later ones lie from `0x80` to `0xBF`. -/
  lowest : Nat
  highest : Nat

/-- The shape that a leading byte announces, or `none` for a byte that starts no character. -/
def lead? (byte : UInt8) : Option Lead :=
  let b := byte.toNat
  if b < 0x80 then some ⟨b, 0, 0x80, 0xBF⟩
  else if b < 0xC2 then none
  else if b < 0xE0 then some ⟨b - 0xC0, 1, 0x80, 0xBF⟩
  else if b = 0xE0 then some ⟨0, 2, 0xA0, 0xBF⟩
  else if b = 0xED then some ⟨0xD, 2, 0x80, 0x9F⟩
  else if b < 0xF0 then some ⟨b - 0xE0, 2, 0x80, 0xBF⟩
  else if b = 0xF0 then some ⟨0, 3, 0x90, 0xBF⟩
  else if b < 0xF4 then some ⟨b - 0xF0, 3, 0x80, 0xBF⟩
  else if b = 0xF4 then some ⟨4, 3, 0x80, 0x8F⟩
  else none

/-- Reads the bytes that follow a leading byte. The result is the value, if all of them are there,
and the bytes after the last one that fits. -/
def continued : Nat → Nat → Nat → Nat → List UInt8 → Option Nat × List UInt8
  | 0, value, _, _, bytes => (some value, bytes)
  | _ + 1, _, _, _, [] => (none, [])
  | missing + 1, value, lowest, highest, byte :: rest =>
    if lowest ≤ byte.toNat ∧ byte.toNat ≤ highest then
      continued missing (value * 64 + byte.toNat % 64) 0x80 0xBF rest
    else (none, byte :: rest)

/-- What was read and the bytes after it are no more than the bytes that were there. -/
theorem length_continued_le (missing value lowest highest : Nat) (bytes : List UInt8) :
    (continued missing value lowest highest bytes).2.length ≤ bytes.length := by
  induction missing generalizing value lowest highest bytes with
  | zero => simp [continued]
  | succ missing ih =>
    cases bytes with
    | nil => simp [continued]
    | cons byte rest =>
      rw [continued]
      split
      · exact Nat.le_succ_of_le (ih _ _ _ _)
      · simp

/-- The characters of the bytes, with `none` for each ill-formed part. -/
def units : List UInt8 → List (Option Char)
  | [] => []
  | byte :: rest =>
    match lead? byte with
    | none => none :: units rest
    | some lead =>
      let result := continued lead.following lead.value lead.lowest lead.highest rest
      result.1.map Char.ofNat :: units result.2
termination_by bytes => bytes.length
decreasing_by
  · simp
  · exact Nat.lt_succ_of_le (length_continued_le _ _ _ _ rest)

/-- The text that the bytes encode, if they are well-formed throughout. -/
def decode? (bytes : List UInt8) : Option String :=
  ((units bytes).mapM id).map String.ofList

/-- The text of the bytes, with a replacement character for each ill-formed part. -/
def decodeLossy (bytes : List UInt8) : String :=
  String.ofList ((units bytes).map (·.getD replacement))

end DataAccess.Text.Utf8
