import DataAccess.Layout.Writer

/-!
# Outlines

A text as lines and blocks before a unit of indentation is chosen. An outline has one list of
entries, each a depth and a line, whatever the unit.
-/

namespace DataAccess.Layout

/-- A line, a blank line, or a block of deeper lines between an opening and a closing line. -/
inductive Outline where
  | line (content : String)
  | blank
  | block (opener : String) (body : List Outline) (closer : String)

namespace Outline

mutual

/-- Writes an outline. -/
def write (writer : Writer) : Outline → Writer
  | line content => writer.line content
  | blank => writer.blank
  | block opener body closer =>
    ((writeAll (writer.line opener).indent body).dedent).line closer

/-- Writes outlines one after another. -/
def writeAll (writer : Writer) : List Outline → Writer
  | [] => writer
  | outline :: rest => writeAll (write writer outline) rest

end

/-- The text of outlines with a unit of indentation. -/
def text (indent : Indent) (outlines : List Outline) : String :=
  (writeAll (.new indent) outlines).text

/-- Lines as outlines. -/
def ofLines (contents : List String) : List Outline :=
  contents.map line

end Outline

end DataAccess.Layout
