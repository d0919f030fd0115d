import DataAccess.Proofs.Code.Undocumented
import DataAccess.Proofs.Layout.OutlineText
import DataAccess.Proofs.TypeScript.PrintedNames

/-!
# Files without their comments

A printed class has the same lines of code as the class without its comments, and the header of the
file adds no code (`codeLines_source`). What the comments say must not end them for that: no `*/` in
what is said about a member, and no line terminator in the name of the table.
-/

namespace DataAccess.TypeScript

open Code Layout

/-- A text has the lines of code, whatever text comes after it. -/
def HasLines (text : String) (lines : List (List Char)) : Prop :=
  ∀ rest, codeLines (text.toList ++ rest) = lines ++ codeLines rest

section Reading

variable {text other : String} {lines more : List (List Char)}

/-- A text that has the lines of code is read as these lines. -/
theorem HasLines.codeLines_eq (has : HasLines text lines) : codeLines text.toList = lines := by
  have whole := has []
  have none : codeLines [] = [] := rfl
  rwa [List.append_nil, none, List.append_nil] at whole

theorem hasLines_empty : HasLines "" [] := fun _ => rfl

/-- Texts after each other have the lines of both. -/
theorem HasLines.append (first : HasLines text lines) (second : HasLines other more) :
    HasLines (text ++ other) (lines ++ more) := by
  intro rest
  rw [String.toList_append, List.append_assoc, first, second, List.append_assoc]

/-- A text that leaves complete lines of code has these lines. -/
theorem hasLines_of_leaves (leaves : Leaves text.toList (other ++ "\n").toList) :
    HasLines text (linesOf other.toList) := by
  intro rest
  rw [codeLines, leaves, String.toList_append, List.append_assoc]
  exact linesOf_append _ _

end Reading

/-- An indentation of white space. -/
def IsBlankUnit (unit : String) : Prop :=
  ∀ c ∈ unit.toList, Text.isBlank c = true

/-- A unit of white space stays white space when it is repeated. -/
theorem isBlank_repeated {unit : String} (blank : IsBlankUnit unit) (count : Nat) :
    IsBlankUnit (Text.repeated unit count) := by
  induction count with
  | zero => nofun
  | succ count ih =>
      rw [Text.repeated, IsBlankUnit, String.toList_append]
      exact List.forall_mem_append.mpr ⟨blank, ih⟩

/-- Tabs and spaces are white space. -/
theorem isBlankUnit_unit (indent : Indent) : IsBlankUnit indent.unit := by
  cases indent with
  | tabs => exact List.all_eq_true.mp (by decide : "\t".toList.all Text.isBlank = true)
  | spaces count =>
      have space : " ".toList.all Text.isBlank = true := by decide
      exact isBlank_repeated (List.all_eq_true.mp space) count

/-- No comment and no literal begins in white space. -/
theorem isOrdinary_of_isBlankUnit {unit : String} (blank : IsBlankUnit unit) : IsOrdinary unit :=
  isOrdinary_iff.mpr fun c member => isOrdinary_of_class (by decide) (blank c member)

variable {unit : String}

/-- A line of code has lines of its own, whatever comes after it. -/
theorem hasLines_indented (blank : IsBlankUnit unit) {content : String} (code : IsCode content)
    (depth : Nat) :
    ∃ lines, HasLines (indented unit depth content) lines := by
  have front := isOrdinary_of_isBlankUnit (isBlank_repeated blank depth)
  exact ⟨_, hasLines_of_leaves ((front.isCode.append code).append (IsOrdinary.isCode (by decide)))⟩

/-- Outlines that have lines of their own have them together. -/
theorem hasLines_shownAll {depth : Nat} {outlines : List Outline}
    (each : ∀ outline ∈ outlines, ∃ lines, HasLines (outline.shown unit depth) lines) :
    ∃ lines, HasLines (Outline.shownAll unit depth outlines) lines := by
  induction outlines with
  | nil => exact ⟨[], hasLines_empty⟩
  | cons outline rest ih =>
      obtain ⟨⟨lines, first⟩, others⟩ := List.forall_mem_cons.mp each
      obtain ⟨more, second⟩ := ih others
      exact ⟨lines ++ more, first.append second⟩

/-- Code is read the same whatever comes after it. -/
theorem IsCodeOutline.hasLines (blank : IsBlankUnit unit) {outline : Outline}
    (code : IsCodeOutline outline) (depth : Nat) :
    ∃ lines, HasLines (outline.shown unit depth) lines := by
  induction code generalizing depth with
  | line code => exact hasLines_indented blank code depth
  | block opens inside closes ih =>
      obtain ⟨first, opened⟩ := hasLines_indented blank opens depth
      obtain ⟨lines, body⟩ :=
        hasLines_shownAll fun outline member => ih outline member (depth + 1)
      obtain ⟨last, closed⟩ := hasLines_indented blank closes depth
      exact ⟨first ++ lines ++ last, (opened.append body).append closed⟩

/-- The outlines have the same lines of code at any depth. -/
def SameCode (unit : String) (first second : List Outline) : Prop :=
  ∀ depth, ∃ lines, HasLines (Outline.shownAll unit depth first) lines ∧
    HasLines (Outline.shownAll unit depth second) lines

namespace SameCode

variable {first second front back : List Outline}

/-- Outlines without code have the same code. -/
theorem of_none (left : ∀ depth, HasLines (Outline.shownAll unit depth first) [])
    (right : ∀ depth, HasLines (Outline.shownAll unit depth second) []) :
    SameCode unit first second :=
  fun depth => ⟨[], left depth, right depth⟩

/-- Outlines with the same code have it when others with the same code follow. -/
theorem append (same : SameCode unit first second) (after : SameCode unit front back) :
    SameCode unit (first ++ front) (second ++ back) := by
  intro depth
  obtain ⟨lines, left, right⟩ := same depth
  obtain ⟨more, leftMore, rightMore⟩ := after depth
  rw [Outline.shownAll_append, Outline.shownAll_append]
  exact ⟨lines ++ more, left.append leftMore, right.append rightMore⟩

/-- An outline of code has the same code as itself. -/
theorem of_code (blank : IsBlankUnit unit) {outline : Outline} (code : IsCodeOutline outline) :
    SameCode unit [outline] [outline] := by
  intro depth
  obtain ⟨lines, printed⟩ := code.hasLines blank depth
  have whole := printed.append hasLines_empty
  exact ⟨lines ++ [], whole, whole⟩

end SameCode

/-- At a depth, the first outlines have some more lines of code than the second, in one place. -/
def AddsCode (unit : String) (depth : Nat) (extra : List (List Char))
    (first second : List Outline) : Prop :=
  ∃ before after, HasLines (Outline.shownAll unit depth first) (before ++ (extra ++ after)) ∧
    HasLines (Outline.shownAll unit depth second) (before ++ after)

/-- Where the code is the same, nothing is added. -/
theorem SameCode.addsCode (same : SameCode unit first second) (depth : Nat) :
    AddsCode unit depth [] first second := by
  obtain ⟨lines, left, right⟩ := same depth
  exact ⟨[], lines, left, right⟩

namespace AddsCode

variable {depth : Nat} {extra : List (List Char)}

/-- Code that is added stays added behind outlines with the same code. -/
theorem prepend (same : SameCode unit front back) (adds : AddsCode unit depth extra first second) :
    AddsCode unit depth extra (front ++ first) (back ++ second) := by
  obtain ⟨lines, left, right⟩ := same depth
  obtain ⟨before, after, more, fewer⟩ := adds
  rw [AddsCode, Outline.shownAll_append, Outline.shownAll_append]
  refine ⟨lines ++ before, after, ?_, ?_⟩
  · rw [List.append_assoc]
    exact left.append more
  · rw [List.append_assoc]
    exact right.append fewer

/-- Code that is added stays added in front of outlines with the same code. -/
theorem append (adds : AddsCode unit depth extra first second) (same : SameCode unit front back) :
    AddsCode unit depth extra (first ++ front) (second ++ back) := by
  obtain ⟨before, after, more, fewer⟩ := adds
  obtain ⟨lines, left, right⟩ := same depth
  rw [AddsCode, Outline.shownAll_append, Outline.shownAll_append]
  refine ⟨before, after ++ lines, ?_, ?_⟩
  · rw [← List.append_assoc extra, ← List.append_assoc before]
    exact more.append left
  · rw [← List.append_assoc]
    exact fewer.append right

/-- Code that is added inside of a block is added to the block. -/
theorem block (blank : IsBlankUnit unit) {opener closer : String} (opens : IsCode opener)
    (adds : AddsCode unit (depth + 1) extra first second) (closes : IsCode closer) :
    AddsCode unit depth extra [.block opener first closer] [.block opener second closer] := by
  obtain ⟨opened, openerLines⟩ := hasLines_indented blank opens depth
  obtain ⟨before, after, more, fewer⟩ := adds
  obtain ⟨closed, closerLines⟩ := hasLines_indented blank closes depth
  refine ⟨opened ++ before, after ++ closed, ?_, ?_⟩
  · have whole := ((openerLines.append more).append closerLines).append hasLines_empty
    simpa [Outline.shownAll, Outline.shown] using whole
  · have whole := ((openerLines.append fewer).append closerLines).append hasLines_empty
    simpa [Outline.shownAll, Outline.shown] using whole

end AddsCode

theorem hasLines_blankLine : HasLines "\n" [] :=
  @hasLines_of_leaves "\n" "" (IsOrdinary.isCode (by decide))

/-- A character that is neither a slash nor a star goes on with a comment. -/
theorem staysInBlock_char {c : Char} (noSlash : c ≠ '/') (noStar : c ≠ '*') :
    StaysInBlock [c] :=
  staysInBlock_concat (by decide : ¬ ['*', '/'] <:+: []) noSlash noStar

/-- White space goes on with a comment. -/
theorem staysInBlock_blank {text : List Char} (blank : ∀ c ∈ text, Text.isBlank c = true) :
    StaysInBlock text := by
  induction text with
  | nil => exact fun _ => rfl
  | cons c rest ih =>
      obtain ⟨here, later⟩ := List.forall_mem_cons.mp blank
      refine StaysInBlock.append (staysInBlock_char ?_ ?_) (ih later)
      · rintro rfl
        exact Bool.false_ne_true here
      · rintro rfl
        exact Bool.false_ne_true here

/-- A comment block on lines of its own has no lines of code. -/
theorem hasLines_block {text front : String} {body : List Char} (blank : IsBlankUnit front)
    (stays : StaysInBlock body)
    (block : text.toList = front.toList ++ '/' :: '*' :: (body ++ ['*', '/', '\n'])) :
    HasLines text [] := by
  have none : linesOf front.toList = [] := linesOf_blank blank
  rw [← none]
  refine hasLines_of_leaves fun rest => ?_
  have code : IsCode front := (isOrdinary_of_isBlankUnit blank).isCode
  have after : IsCode "\n" := IsOrdinary.isCode (by decide)
  have inside := uncommented_block stays ('\n' :: rest)
  rw [block, String.toList_append, List.append_assoc, List.append_assoc, code]
  refine congrArg (front.toList ++ ·) (Eq.trans ?_ (inside.trans (after rest)))
  rw [List.cons_append, List.cons_append, List.append_assoc]
  rfl

/-- A line of a comment block that does not close it goes on with the comment. -/
theorem staysInBlock_docLine (blank : IsBlankUnit unit) (depth : Nat) {content : String}
    (quiet : ¬ ClosesBlock content) :
    StaysInBlock (indented unit depth (docLine content)).toList := by
  have front := staysInBlock_blank (isBlank_repeated blank depth)
  have noEnd : ¬ ['*', '/'] <:+: " *".toList := by decide
  rw [indented, String.append_assoc, String.toList_append]
  refine front.append ?_
  rw [docLine]
  split
  · rw [String.toList_append]
    exact staysInBlock_concat noEnd (by decide) (by decide)
  · rw [String.append_assoc, String.toList_append, String.toList_append]
    exact (staysInBlock_concat noEnd (by decide) (by decide)).append
      (staysInBlock_concat quiet (by decide) (by decide))

/-- Lines that do not close a comment block go on with it. -/
theorem staysInBlock_docLines (blank : IsBlankUnit unit) (depth : Nat) {contents : List String}
    (quiet : ∀ content ∈ contents, ¬ ClosesBlock content) :
    StaysInBlock
      (Outline.shownAll unit depth (Outline.ofLines (contents.map docLine))).toList := by
  induction contents with
  | nil => exact fun _ => rfl
  | cons content rest ih =>
      obtain ⟨first, others⟩ := List.forall_mem_cons.mp quiet
      rw [List.map_cons, Outline.ofLines, List.map_cons, Outline.shownAll, String.toList_append]
      exact (staysInBlock_docLine blank depth first).append (ih others)

/-- **The comment of a member has no lines of code**, if nothing in it ends it. -/
theorem hasLines_docOutline (blank : IsBlankUnit unit) {isAsync : Bool} {doc : Option Doc}
    (quiet : ∀ content ∈ doc.toList.flatMap (docContents isAsync), ¬ ClosesBlock content)
    (depth : Nat) : HasLines (Outline.shownAll unit depth (docOutline isAsync doc)) [] := by
  have front := isBlank_repeated blank depth
  have star : StaysInBlock ['*', ' '] :=
    staysInBlock_concat (by decide : ¬ ['*', '/'] <:+: ['*']) (by decide) (by decide)
  have starLine : StaysInBlock ['*', '\n'] :=
    staysInBlock_concat (by decide : ¬ ['*', '/'] <:+: ['*']) (by decide) (by decide)
  have space : StaysInBlock [' '] := staysInBlock_char (by decide) (by decide)
  cases doc with
  | none => exact hasLines_empty
  | some doc =>
      rw [Option.toList_some, List.flatMap_singleton] at quiet
      rw [docOutline]
      split
      · cases described : doc.description with
        | none => exact hasLines_empty
        | some text =>
            have silent : ¬ ClosesBlock text := quiet text (by simp [docContents, described])
            have inside := star.append
              (staysInBlock_concat silent (by decide : ' ' ≠ '/') (by decide))
            refine hasLines_block front inside ?_
            simp [Outline.shownAll, Outline.shown, indented, String.toList_append]
      · rw [docLines]
        split
        · exact hasLines_empty
        · have lines := staysInBlock_docLines blank depth quiet
          have indentation := staysInBlock_blank front
          refine hasLines_block front
            (starLine.append (lines.append (indentation.append space))) ?_
          simp [Outline.ofLines, Outline.shownAll_append, Outline.shownAll, Outline.shown, indented,
            String.toList_append]

/-- The lines of the comment of a member. -/
def commentLines : Member → List String
  | .property property => property.doc.toList.flatMap (docContents false)
  | .method method => method.doc.toList.flatMap (docContents method.isAsync)

/-- Whether the comment of a member ends where it is meant to. -/
def KeepsComment (member : Member) : Prop :=
  ∀ line ∈ commentLines member, ¬ ClosesBlock line

/-- What a class is printed from does not end the places that it is printed to. -/
structure PrintsCleanly (recordClass : RecordClass) : Prop where
  names : AreOrdinary (classNames recordClass)
  comments : ∀ member ∈ recordClass.members, KeepsComment member
  header : IsOneLine recordClass.sourceTable

/-- Without a comment there is nothing that could end it. -/
theorem keepsComment_undocumented (member : Member) : KeepsComment member.undocumented := by
  cases member <;> nofun

/-- Comments have no names of the code. -/
theorem classNames_undocumented (recordClass : RecordClass) :
    classNames recordClass.undocumented = classNames recordClass := by
  have names (member : Member) : memberNames member.undocumented = memberNames member := by
    cases member <;> rfl
  rw [classNames, RecordClass.undocumented, List.flatMap_map]
  simp only [names]
  rfl

/-- A class that is printed cleanly is printed cleanly without its comments. -/
theorem PrintsCleanly.undocumented {recordClass : RecordClass} (clean : PrintsCleanly recordClass) :
    PrintsCleanly recordClass.undocumented where
  names := classNames_undocumented recordClass ▸ clean.names
  comments := by
    intro member found
    obtain ⟨documented, -, rfl⟩ := List.mem_map.mp found
    exact keepsComment_undocumented documented
  header := clean.header

/-- A member has the same code without its comment. -/
theorem sameCode_member (blank : IsBlankUnit unit) {className : String}
    (isName : IsOrdinary className) {member : Member} (names : AreOrdinary (memberNames member))
    (quiet : KeepsComment member) :
    SameCode unit (memberOutline className member)
      (memberOutline className member.undocumented) := by
  cases member with
  | property property =>
      have comment : SameCode unit (docOutline false property.doc) [] :=
        .of_none (hasLines_docOutline blank quiet) fun _ => hasLines_empty
      exact comment.append (.of_code blank (.line (isOrdinary_propertyLine names).isCode))
  | method method =>
      have comment : SameCode unit (docOutline method.isAsync method.doc) [] :=
        .of_none (hasLines_docOutline blank quiet) fun _ => hasLines_empty
      have head := isCode_opening (isCode_methodHead isName names)
      have body := (areOrdinary_append.mp (areOrdinary_cons.mp names).2).2
      exact comment.append (.of_code blank
        (.block head (isCodeOutline_body isName body) (IsOrdinary.isCode (by decide))))

/-- Whether neighbours are set apart depends on their comments, but a blank line is no code. -/
theorem sameCode_gap (compact compactToo : Bool) :
    SameCode unit (if compact then [] else [.blank]) (if compactToo then [] else [.blank]) := by
  have gap (compact : Bool) (depth : Nat) :
      HasLines (Outline.shownAll unit depth (if compact then [] else [.blank])) [] := by
    cases compact with
    | true => exact hasLines_empty
    | false => exact hasLines_blankLine.append hasLines_empty
  exact .of_none (gap compact) (gap compactToo)

/-- Members have the same code without their comments. -/
theorem sameCode_members (blank : IsBlankUnit unit) {className : String}
    (isName : IsOrdinary className) {members : List Member}
    (names : ∀ member ∈ members, AreOrdinary (memberNames member))
    (quiet : ∀ member ∈ members, KeepsComment member) :
    SameCode unit (membersOutline className members)
      (membersOutline className (members.map Member.undocumented)) := by
  induction members with
  | nil => exact .of_none (fun _ => hasLines_empty) fun _ => hasLines_empty
  | cons first rest ih =>
      obtain ⟨firstNames, others⟩ := List.forall_mem_cons.mp names
      obtain ⟨firstQuiet, othersQuiet⟩ := List.forall_mem_cons.mp quiet
      have here := sameCode_member blank isName firstNames firstQuiet
      cases rest with
      | nil => exact here
      | cons next rest =>
          exact (here.append (sameCode_gap _ _)).append (ih others othersQuiet)

/-- What a file holds behind its header. -/
def behindHeader (printing : Printing) (recordClass : RecordClass) : String :=
  Outline.text printing.indent (fileOutline printing.runtimeModule recordClass).tail

/-- A header has no lines of code. -/
theorem hasLines_header {recordClass : RecordClass} (oneLine : IsOneLine recordClass.sourceTable) :
    HasLines (header recordClass ++ "\n") [] := by
  have inside : IsOneLine (" Generated by dalgen from " ++ recordClass.sourceTable ++
      ". Do not edit.") :=
    ((by decide : IsOneLine " Generated by dalgen from ").append oneLine).append (by decide)
  refine @hasLines_of_leaves _ "" fun rest => ?_
  refine Eq.trans (congrArg (uncommented .code) ?_) (uncommented_lineComment inside rest)
  simp [header, Layout.lineComment, String.toList_append]

/-- A file is its header and what stands behind it. -/
theorem source_eq (printing : Printing) (recordClass : RecordClass) :
    source printing recordClass =
      header recordClass ++ "\n" ++ behindHeader printing recordClass := by
  have first : fileOutline printing.runtimeModule recordClass =
      .line (header recordClass) :: (fileOutline printing.runtimeModule recordClass).tail := rfl
  rw [source, behindHeader, Outline.text_eq, Outline.text_eq, first, List.tail_cons,
    Outline.shownAll, Outline.shown, indented, Text.repeated, String.empty_append]

/-- The imports have the same code as themselves. -/
theorem sameCode_imports (blank : IsBlankUnit unit) (runtimeModule : String)
    {imports : List String} (names : AreOrdinary imports) :
    SameCode unit (importOutline runtimeModule imports) (importOutline runtimeModule imports) := by
  rw [importOutline]
  split
  · exact .of_none (fun _ => hasLines_empty) fun _ => hasLines_empty
  · have list : IsCode (Text.joinWith ", " imports) :=
      isCode_joinWith (IsOrdinary.isCode (by decide)) fun symbol member =>
        (names symbol member).isCode
    have start : IsCode "import \x7b " := IsOrdinary.isCode (by decide)
    have middle : IsCode " \x7d from " := IsOrdinary.isCode (by decide)
    have line := (((start.append list).append middle).append
      (isCode_stringLiteral runtimeModule)).append (by decide : IsOrdinary ";").isCode
    exact (SameCode.of_code blank (.line line)).append
      (sameCode_gap false false)

/-- The depth at which the members of a class stand. -/
def memberDepth (recordClass : RecordClass) : Nat :=
  if recordClass.namespaceName.isEmpty then 1 else 2

/-- What the comments of members add to the code of the members, they add to the file. -/
theorem addsCode_file (blank : IsBlankUnit unit) {recordClass : RecordClass}
    (names : AreOrdinary (classNames recordClass)) {extra : List (List Char)}
    (members : AddsCode unit (memberDepth recordClass) extra
      (membersOutline recordClass.name recordClass.members)
      (membersOutline recordClass.name recordClass.undocumented.members))
    (runtimeModule : String) :
    AddsCode unit 0 extra (fileOutline runtimeModule recordClass).tail
      (fileOutline runtimeModule recordClass.undocumented).tail := by
  simp only [classNames, areOrdinary_cons, areOrdinary_append] at names
  obtain ⟨namespaceName, isName, imports, -⟩ := names
  have front := (sameCode_gap false false).append
    (sameCode_imports blank runtimeModule imports)
  have head := ((by decide : IsOrdinary "export class ").append isName).isCode
  have outer := ((by decide : IsOrdinary "export namespace ").append namespaceName).isCode
  have closes : IsCode "\x7d" := IsOrdinary.isCode (by decide)
  refine .prepend front ?_
  have same : recordClass.undocumented.namespaceName = recordClass.namespaceName := rfl
  rw [memberDepth] at members
  rw [same]
  split at members
  · next none =>
      rw [if_pos none, if_pos none]
      exact .block blank (isCode_opening head) members closes
  · next some =>
      rw [if_neg some, if_neg some]
      exact .block blank (isCode_opening outer)
        (.block blank (isCode_opening head) members closes) closes

/-- The header of a file adds no code if the name of the table stays on one line. -/
theorem codeLines_of_behind {recordClass : RecordClass}
    (oneLine : IsOneLine recordClass.sourceTable) (printing : Printing) {lines : List (List Char)}
    (behind : HasLines (Outline.shownAll printing.indent.unit 0
      (fileOutline printing.runtimeModule recordClass).tail) lines) :
    codeLines (source printing recordClass).toList = lines ∧
      codeLines (behindHeader printing recordClass).toList = lines := by
  rw [source_eq, behindHeader, Outline.text_eq]
  exact ⟨((hasLines_header oneLine).append behind).codeLines_eq, behind.codeLines_eq⟩

/-- **Comments are no code.** A class that prints cleanly has the same lines of code with its
comments and without them, and all of them stand behind the header of the file. -/
theorem codeLines_source (printing : Printing) {recordClass : RecordClass}
    (clean : PrintsCleanly recordClass) :
    codeLines (source printing recordClass).toList =
        codeLines (source printing recordClass.undocumented).toList ∧
      codeLines (source printing recordClass).toList =
        codeLines (behindHeader printing recordClass).toList := by
  have names := clean.names
  simp only [classNames, areOrdinary_cons, areOrdinary_append, areOrdinary_flatMap] at names
  obtain ⟨-, isName, -, members⟩ := names
  have blank := isBlankUnit_unit printing.indent
  have same := sameCode_members blank isName members clean.comments
  obtain ⟨before, after, left, right⟩ :=
    addsCode_file blank clean.names (same.addsCode _) printing.runtimeModule
  obtain ⟨documented, behind⟩ := codeLines_of_behind clean.header printing left
  obtain ⟨undocumented, -⟩ :=
    @codeLines_of_behind recordClass.undocumented clean.header printing _ right
  exact ⟨documented.trans undocumented.symm, documented.trans behind.symm⟩

/-- What ends the comment of the first member makes code of what comes behind. -/
theorem codeLines_source_ne (printing : Printing) {recordClass : RecordClass}
    (names : AreOrdinary (classNames recordClass))
    (oneLine : IsOneLine recordClass.sourceTable)
    {property : Property} {rest : List Member}
    (members : recordClass.members = .property property :: rest)
    (quiet : ∀ member ∈ rest, KeepsComment member)
    {extra : List (List Char)} (some : extra ≠ [])
    (comment : AddsCode printing.indent.unit (memberDepth recordClass) extra
      (docOutline false property.doc) []) :
    codeLines (source printing recordClass).toList ≠
      codeLines (source printing recordClass.undocumented).toList := by
  have blank := isBlankUnit_unit printing.indent
  have all := names
  simp only [classNames, areOrdinary_cons, areOrdinary_append, areOrdinary_flatMap, members,
    List.forall_mem_cons] at all
  obtain ⟨-, isName, -, propertyNames, restNames⟩ := all
  have line := IsCodeOutline.line (isOrdinary_propertyLine propertyNames).isCode
  have here := comment.append (.of_code blank line)
  have printed : AddsCode printing.indent.unit (memberDepth recordClass) extra
      (membersOutline recordClass.name recordClass.members)
      (membersOutline recordClass.name recordClass.undocumented.members) := by
    rw [RecordClass.undocumented, members]
    cases rest with
    | nil => exact here
    | cons next rest =>
        have others := sameCode_members blank isName restNames quiet
        exact (here.append (sameCode_gap _ _)).append others
  obtain ⟨before, after, left, right⟩ := addsCode_file blank names printed printing.runtimeModule
  rw [(codeLines_of_behind oneLine printing left).1,
    (@codeLines_of_behind recordClass.undocumented oneLine printing _ right).1]
  intro same
  have lengths := congrArg List.length same
  have more := List.length_pos_of_ne_nil some
  simp only [List.length_append] at lengths
  omega

/-- What ends the comment of the header makes code of what comes behind in it. -/
theorem codeLines_behindHeader_ne (printing : Printing) {recordClass : RecordClass} {left : String}
    (leaves : Leaves (header recordClass ++ "\n").toList (left ++ "\n").toList)
    (some : linesOf left.toList ≠ []) :
    codeLines (source printing recordClass).toList ≠
      codeLines (behindHeader printing recordClass).toList := by
  rw [source_eq, String.toList_append, hasLines_of_leaves leaves]
  intro same
  have lengths := congrArg List.length same
  have more := List.length_pos_of_ne_nil some
  rw [List.length_append] at lengths
  omega

end DataAccess.TypeScript
