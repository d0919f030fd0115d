/-!
# White space

The characters with the Unicode property White_Space, and trimming text of them at its ends.
-/

namespace DataAccess.Text

/-- The characters with the Unicode property White_Space. -/
def isBlank (c : Char) : Bool :=
  let n := c.toNat
  (9 ≤ n && n ≤ 13) || n = 32 || n = 0x85 || n = 0xA0 || n = 0x1680 ||
    (0x2000 ≤ n && n ≤ 0x200A) || n = 0x2028 || n = 0x2029 || n = 0x202F || n = 0x205F ||
    n = 0x3000

/-- A text without the blanks at its beginning. -/
def dropBlanks (text : List Char) : List Char :=
  text.dropWhile isBlank

/-- The text without its longest end of characters in the class. -/
def dropLastWhile (inClass : Char → Bool) : List Char → List Char
  | [] => []
  | c :: rest =>
    match dropLastWhile inClass rest with
    | [] => if inClass c then [] else [c]
    | kept => c :: kept

/-- A text without the blanks around it. -/
def trimChars (text : List Char) : List Char :=
  dropLastWhile isBlank (dropBlanks text)

def trim (text : String) : String :=
  String.ofList (trimChars text.toList)

/-- Every blank of the core library is one of these. -/
theorem isBlank_of_isWhitespace {c : Char} (blank : c.isWhitespace = true) : isBlank c = true := by
  simp only [Char.isWhitespace, Bool.or_eq_true, decide_eq_true_eq] at blank
  rcases blank with ((rfl | rfl) | rfl) | rfl <;> decide

end DataAccess.Text
