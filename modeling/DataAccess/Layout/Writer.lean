import DataAccess.Text.Basic

/-!
# Writing indented lines

A text that is written line by line at a current depth. The indentation is put in front of the
first thing that is written on a line, so that blank lines stay empty.
-/

namespace DataAccess.Layout

/-- What one level of indentation is made of. -/
inductive Indent where
  | tabs
  | spaces (count : Nat)
  deriving DecidableEq

/-- Four spaces, unless something else is chosen. -/
def Indent.default : Indent := .spaces 4

/-- The text of one step of indentation. -/
def Indent.unit : Indent → String
  | tabs => "\t"
  | spaces count => Text.repeated " " count

/-- A text under construction. -/
structure Writer where
  unit : String
  depth : Nat := 0
  atLineStart : Bool := true
  text : String := ""
  deriving DecidableEq

namespace Writer

/-- A writer that has nothing written. -/
def new (indent : Indent) : Writer :=
  { unit := indent.unit }

/-- Goes one step deeper. -/
def indent (writer : Writer) : Writer :=
  { writer with depth := writer.depth + 1 }

/-- One level up; the outermost level stays. -/
def dedent (writer : Writer) : Writer :=
  { writer with depth := writer.depth - 1 }

/-- A piece of a line, with the indentation in front where the line starts. -/
def inline (writer : Writer) (piece : String) : Writer :=
  let start := if writer.atLineStart then Text.repeated writer.unit writer.depth else ""
  { writer with text := writer.text ++ (start ++ piece), atLineStart := false }

/-- Writes an empty line. -/
def blank (writer : Writer) : Writer :=
  { writer with text := writer.text ++ "\n", atLineStart := true }

/-- A line, or the rest of one. -/
def line (writer : Writer) (content : String) : Writer :=
  (writer.inline content).blank

/-- Writes lines one after another. -/
def lines (writer : Writer) (contents : List String) : Writer :=
  contents.foldl line writer

end Writer

/-- A comment that ends with its line. -/
def lineComment (comment : String) : String :=
  "// " ++ comment

/-- A line inside of a comment block. -/
def docLine (content : String) : String :=
  if content.isEmpty then " *" else " * " ++ content

/-- The lines of a comment block; none where there is nothing to say. -/
def docLines (contents : List String) : List String :=
  if contents.isEmpty then [] else "/**" :: (contents.map docLine ++ [" */"])

/-- What a body writes, one level deeper between an opening and a closing line. -/
def Writer.block (writer : Writer) (opener closer : String) (body : Writer → Writer) : Writer :=
  ((body (writer.line opener).indent).dedent).line closer

theorem Writer.line_text (writer : Writer) (content : String)
    (start : writer.atLineStart = true) :
    (writer.line content).text =
      writer.text ++ (Text.repeated writer.unit writer.depth ++ content) ++ "\n" := by
  simp [Writer.line, Writer.blank, Writer.inline, start]

end DataAccess.Layout
