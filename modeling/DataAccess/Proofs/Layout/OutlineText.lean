import DataAccess.Layout.Outline

/-!
# The text of outlines

The text of an outline is the text of its lines, each behind its indentation, and of its blocks one
level deeper (`Outline.text_eq`). What is written does not depend on what was written before.
-/

namespace DataAccess.Layout

/-- A line at a depth. -/
def indented (unit : String) (depth : Nat) (content : String) : String :=
  Text.repeated unit depth ++ content ++ "\n"

namespace Outline

mutual

/-- The text of an outline at a depth. -/
def shown (unit : String) (depth : Nat) : Outline → String
  | line content => indented unit depth content
  | blank => "\n"
  | block opener body closer =>
    indented unit depth opener ++ shownAll unit (depth + 1) body ++ indented unit depth closer

def shownAll (unit : String) (depth : Nat) : List Outline → String
  | [] => ""
  | outline :: rest => shown unit depth outline ++ shownAll unit depth rest

end

theorem shownAll_append (unit : String) (depth : Nat) (front back : List Outline) :
    shownAll unit depth (front ++ back) =
      shownAll unit depth front ++ shownAll unit depth back := by
  induction front with
  | nil => rw [List.nil_append, shownAll, String.empty_append]
  | cons outline front ih => rw [List.cons_append, shownAll, shownAll, ih, String.append_assoc]

theorem line_eq {writer : Writer} (start : writer.atLineStart = true) (content : String) :
    writer.line content =
      { writer with text := writer.text ++ indented writer.unit writer.depth content } := by
  simp [Writer.line, Writer.blank, Writer.inline, indented, start, String.append_assoc]

mutual

/-- An outline adds its text to what is written, and leaves everything else as it was. -/
theorem write_eq {writer : Writer} (start : writer.atLineStart = true) :
    ∀ outline : Outline, write writer outline =
      { writer with text := writer.text ++ shown writer.unit writer.depth outline }
  | line content => line_eq start content
  | blank => by rw [write, Writer.blank, shown, start]
  | block opener body closer => by
      have opened := line_eq start opener
      have inside := @writeAll_eq (writer.line opener).indent (by rw [opened]; exact start) body
      rw [write, inside, opened]
      refine (line_eq (by exact start) closer).trans ?_
      simp [Writer.indent, Writer.dedent, shown, String.append_assoc]

theorem writeAll_eq {writer : Writer} (start : writer.atLineStart = true) :
    ∀ outlines : List Outline, writeAll writer outlines =
      { writer with text := writer.text ++ shownAll writer.unit writer.depth outlines }
  | [] => by rw [writeAll, shownAll, String.append_empty]
  | outline :: rest => by
      have first := write_eq start outline
      have others := @writeAll_eq (write writer outline) (by rw [first]; exact start) rest
      rw [writeAll, others, first, shownAll, String.append_assoc]

end

/-- **The text of outlines is the text of one after another.** -/
theorem text_eq (indent : Indent) (outlines : List Outline) :
    text indent outlines = shownAll indent.unit 0 outlines := by
  rw [text, writeAll_eq rfl]
  exact String.empty_append

end Outline

end DataAccess.Layout
