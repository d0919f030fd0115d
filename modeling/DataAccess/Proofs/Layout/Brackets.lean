import DataAccess.Proofs.Layout.OutlineText

/-!
# Lines and their blocks

An outline is one list of lines, each with its depth, whatever the unit of indentation is
(`Outline.text_eq_written`). The depth of a line is the number of blocks that are open around it,
and a block is closed at the depth at which it was opened (`HasBlocks.isBracketed`).
-/

namespace DataAccess.Layout

/-- What a line does to the blocks around it. -/
inductive LineRole where
  | plain
  /-- It opens a block, which a line with the text closes. -/
  | opens (closer : String)
  | closes

/-- A line at its depth, before a unit of indentation is chosen. -/
structure PlacedLine where
  role : LineRole
  depth : Nat
  text : String

/-- The lines between which a block stands. -/
structure BlockEnds where
  opener : String
  closer : String

namespace PlacedLine

/-- A line as it is written with a unit of indentation. -/
def written (unit : String) (line : PlacedLine) : String :=
  indented unit line.depth line.text

/-- The opening lines of the blocks that are open after a line, the innermost first. -/
def openAfter (stack : List PlacedLine) (line : PlacedLine) : List PlacedLine :=
  match line.role with
  | .plain => stack
  | .opens _ => line :: stack
  | .closes => stack.tail

/-- The opening lines of the blocks around a line. Neither of the two ends of a block stands in
it. -/
def openAround (stack : List PlacedLine) (line : PlacedLine) : List PlacedLine :=
  match line.role with
  | .plain | .opens _ => stack
  | .closes => stack.tail

/-- Whether a line stands where it should behind the opening lines of open blocks. -/
structure Fits (stack : List PlacedLine) (line : PlacedLine) : Prop where
  blank : line.text = "" → line.depth = 0
  depth : line.text ≠ "" → line.depth = (line.openAround stack).length
  closes : line.role = .closes → ∃ opener outer, stack = opener :: outer ∧
    opener.role = .opens line.text ∧ opener.depth = line.depth

/-- The lines around the block that a line opens. -/
def ends? (line : PlacedLine) : Option BlockEnds :=
  match line.role with
  | .opens closer => some { opener := line.text, closer }
  | _ => none

end PlacedLine

/-- The opening lines of the blocks that lines leave open, the innermost first. -/
def leftOpen (lines : List PlacedLine) : List PlacedLine :=
  lines.foldl PlacedLine.openAfter []

/-- Whether every line fits behind the lines before it, and all blocks are closed in the end. -/
structure IsBracketed (lines : List PlacedLine) : Prop where
  fits : ∀ before line after, lines = before ++ line :: after → line.Fits (leftOpen before)
  closed : leftOpen lines = []

/-- Whether all lines fit, one after another. -/
def AllFit : List PlacedLine → List PlacedLine → Prop
  | _, [] => True
  | stack, line :: rest => line.Fits stack ∧ AllFit (line.openAfter stack) rest

/-- Lines fit after each other if the later ones fit into what the earlier ones leave open. -/
theorem allFit_append {stack front back : List PlacedLine} :
    AllFit stack (front ++ back) ↔
      AllFit stack front ∧ AllFit (front.foldl PlacedLine.openAfter stack) back := by
  induction front generalizing stack with
  | nil => exact (iff_of_eq (true_and _)).symm
  | cons line front ih => rw [List.cons_append, AllFit, AllFit, ih, and_assoc, List.foldl_cons]

/-- Whether lines fit behind open blocks, and those are open after them and no others. -/
structure Nests (stack lines : List PlacedLine) : Prop where
  fit : AllFit stack lines
  restores : lines.foldl PlacedLine.openAfter stack = stack

namespace Nests

variable {stack : List PlacedLine}

theorem nil : Nests stack [] :=
  ⟨trivial, rfl⟩

/-- Lines that nest stay so after each other. -/
theorem append {front back : List PlacedLine} (first : Nests stack front)
    (second : Nests stack back) : Nests stack (front ++ back) where
  fit := allFit_append.mpr ⟨first.fit, by rw [first.restores]; exact second.fit⟩
  restores := by rw [List.foldl_append, first.restores, second.restores]

/-- A blank line nests anywhere. -/
theorem blank : Nests stack [⟨.plain, 0, ""⟩] :=
  ⟨⟨⟨fun _ => rfl, fun filled => absurd rfl filled, nofun⟩, trivial⟩, rfl⟩

/-- A line at the depth of what is open nests. -/
theorem line {content : String} (filled : content ≠ "") :
    Nests stack [⟨.plain, stack.length, content⟩] :=
  ⟨⟨⟨fun empty => absurd empty filled, fun _ => rfl, nofun⟩, trivial⟩, rfl⟩

/-- Lines that nest in a block nest with the ends of the block around them. -/
theorem block {opener closer : String} {body : List PlacedLine} (opens : opener ≠ "")
    (inside : Nests (⟨.opens closer, stack.length, opener⟩ :: stack) body)
    (closes : closer ≠ "") :
    Nests stack (⟨.opens closer, stack.length, opener⟩ ::
      (body ++ [⟨.closes, stack.length, closer⟩])) where
  fit := by
    have last : AllFit (⟨.opens closer, stack.length, opener⟩ :: stack)
        [⟨.closes, stack.length, closer⟩] :=
      ⟨⟨fun empty => absurd empty closes, fun _ => rfl, fun _ => ⟨_, stack, rfl, rfl, rfl⟩⟩,
        trivial⟩
    refine ⟨⟨fun empty => absurd empty opens, fun _ => rfl, nofun⟩, ?_⟩
    refine allFit_append.mpr ⟨inside.fit, ?_⟩
    exact inside.restores.symm ▸ last
  restores := by
    rw [List.foldl_cons, List.foldl_append]
    exact congrArg List.tail inside.restores

end Nests

/-- Each line fits into what the lines before it leave open. -/
theorem fits_of_allFit {stack before after : List PlacedLine} {line : PlacedLine}
    (fit : AllFit stack (before ++ line :: after)) :
    line.Fits (before.foldl PlacedLine.openAfter stack) :=
  (allFit_append.mp fit).2.1

/-- Lines that nest with nothing open are bracketed. -/
theorem Nests.isBracketed {lines : List PlacedLine} (nests : Nests [] lines) :
    IsBracketed lines where
  fits _ _ _ split := fits_of_allFit (split ▸ nests.fit)
  closed := nests.restores

namespace Outline

mutual

/-- The lines of an outline at a depth. -/
def placed (depth : Nat) : Outline → List PlacedLine
  | line content => [⟨.plain, depth, content⟩]
  | blank => [⟨.plain, 0, ""⟩]
  | block opener body closer =>
    ⟨.opens closer, depth, opener⟩ :: (placedAll (depth + 1) body ++ [⟨.closes, depth, closer⟩])

/-- The lines of outlines with their depths. -/
def placedAll (depth : Nat) : List Outline → List PlacedLine
  | [] => []
  | outline :: rest => placed depth outline ++ placedAll depth rest

end

mutual

/-- An outline is shown as its placed lines, one after another. -/
theorem shown_eq_written (unit : String) (depth : Nat) :
    ∀ outline : Outline,
      shown unit depth outline = String.join ((placed depth outline).map (·.written unit))
  | line content => by simp [shown, placed, PlacedLine.written]
  | blank => by simp [shown, placed, PlacedLine.written, indented, Text.repeated]
  | block opener body closer => by
      have inside := shownAll_eq_written unit (depth + 1) body
      simp [shown, placed, PlacedLine.written, inside, String.append_assoc]

/-- Outlines are shown as their placed lines, one after another. -/
theorem shownAll_eq_written (unit : String) (depth : Nat) :
    ∀ outlines : List Outline,
      shownAll unit depth outlines =
        String.join ((placedAll depth outlines).map (·.written unit))
  | [] => by simp [shownAll, placedAll]
  | outline :: rest => by
      have first := shown_eq_written unit depth outline
      have others := shownAll_eq_written unit depth rest
      simp [shownAll, placedAll, first, others]

end

/-- **The lines of outlines do not depend on the unit of indentation.** -/
theorem text_eq_written (indent : Indent) (outlines : List Outline) :
    text indent outlines = String.join ((placedAll 0 outlines).map (·.written indent.unit)) := by
  rw [text_eq, shownAll_eq_written]

/-- The depth after the last line is the depth before the first. -/
theorem depth_writeAll (indent : Indent) (outlines : List Outline) :
    (writeAll (.new indent) outlines).depth = 0 := by
  rw [writeAll_eq rfl]
  rfl

end Outline

/-- Whether the blocks of outlines are the given ones, in the order in which they are opened. No
line is empty but the blank ones. -/
inductive HasBlocks : List Outline → List BlockEnds → Prop where
  | nil : HasBlocks [] []
  | line {content : String} {rest : List Outline} {blocks : List BlockEnds}
      (filled : content ≠ "") (later : HasBlocks rest blocks) :
      HasBlocks (.line content :: rest) blocks
  | blank {rest : List Outline} {blocks : List BlockEnds} (later : HasBlocks rest blocks) :
      HasBlocks (.blank :: rest) blocks
  | block {opener closer : String} {body rest : List Outline} {inner blocks : List BlockEnds}
      (opens : opener ≠ "") (inside : HasBlocks body inner) (closes : closer ≠ "")
      (later : HasBlocks rest blocks) :
      HasBlocks (.block opener body closer :: rest) (⟨opener, closer⟩ :: (inner ++ blocks))

theorem append_ne_empty {right : String} (filled : right ≠ "") (left : String) :
    left ++ right ≠ "" :=
  fun empty => filled (String.append_eq_empty_iff.mp empty).2

theorem ne_empty_append {left : String} (filled : left ≠ "") (right : String) :
    left ++ right ≠ "" :=
  fun empty => filled (String.append_eq_empty_iff.mp empty).1

/-- No line of a comment block is empty. -/
theorem ne_empty_of_mem_docLines {contents : List String} {content : String}
    (member : content ∈ docLines contents) : content ≠ "" := by
  rw [docLines] at member
  split at member
  · cases member
  · rcases List.mem_cons.mp member with rfl | later
    · decide
    · rcases List.mem_append.mp later with inside | last
      · obtain ⟨line, -, rfl⟩ := List.mem_map.mp inside
        rw [docLine]
        split
        · decide
        · exact ne_empty_append (by decide) line
      · rw [List.mem_singleton.mp last]
        decide

namespace HasBlocks

variable {outlines front back : List Outline} {blocks more : List BlockEnds}

/-- Outlines after each other have the blocks of both. -/
theorem append (first : HasBlocks front blocks) (second : HasBlocks back more) :
    HasBlocks (front ++ back) (blocks ++ more) := by
  induction first with
  | nil => exact second
  | line filled _ ih => exact .line filled ih
  | blank _ ih => exact .blank ih
  | block opens inside closes _ _ ih =>
      rw [List.cons_append, List.cons_append, List.append_assoc]
      exact .block opens inside closes ih

/-- A line has no blocks. -/
theorem oneLine {content : String} (filled : content ≠ "") : HasBlocks [.line content] [] :=
  .line filled .nil

/-- A block has itself and the blocks inside of it. -/
theorem oneBlock {opener closer : String} (opens : opener ≠ "")
    (inside : HasBlocks outlines blocks) (closes : closer ≠ "") :
    HasBlocks [.block opener outlines closer] (⟨opener, closer⟩ :: blocks) := by
  have whole := block opens inside closes .nil
  rwa [List.append_nil] at whole

/-- Lines have no blocks. -/
theorem ofLines {contents : List String} (filled : ∀ content ∈ contents, content ≠ "") :
    HasBlocks (Outline.ofLines contents) [] := by
  induction contents with
  | nil => exact .nil
  | cons content rest ih =>
      obtain ⟨first, others⟩ := List.forall_mem_cons.mp filled
      exact .line first (ih others)

/-- Outlines leave the blocks alone that are open before them. -/
theorem nests (has : HasBlocks outlines blocks) (stack : List PlacedLine) :
    Nests stack (Outline.placedAll stack.length outlines) := by
  induction has generalizing stack with
  | nil => exact .nil
  | line filled _ ih => exact (Nests.line filled).append (ih stack)
  | blank _ ih => exact Nests.blank.append (ih stack)
  | block opens _ closes _ inside ih =>
      exact (Nests.block opens (inside (_ :: stack)) closes).append (ih stack)

/-- The blocks of outlines can be read off their placed lines. -/
theorem ends_placedAll (has : HasBlocks outlines blocks) (depth : Nat) :
    (Outline.placedAll depth outlines).filterMap PlacedLine.ends? = blocks := by
  induction has generalizing depth with
  | nil => rfl
  | line _ _ ih => exact ih depth
  | blank _ ih => exact ih depth
  | block _ _ _ _ inside ih =>
      rw [Outline.placedAll, Outline.placed, List.cons_append, List.append_assoc,
        List.filterMap_cons, List.filterMap_append, inside]
      exact congrArg (_ :: ·) (congrArg (_ ++ ·) (ih depth))

/-- **Outlines are bracketed by their blocks.** -/
theorem isBracketed (has : HasBlocks outlines blocks) :
    IsBracketed (Outline.placedAll 0 outlines) :=
  (has.nests []).isBracketed

end HasBlocks

end DataAccess.Layout
