import DataAccess.Proofs.Members.GeneratedNames
import DataAccess.Proofs.TypeScript.Uncommented

/-!
# Comments of generated classes

What the catalog says about a table goes into comments as it is: its qualified name into the header
of a file, and names of keys and tables and the comments of columns into the comments of members.
Where none of that ends the comment that it stands in, comments are no code: a class is the same
lines of code with comments and without them, and the header adds none
(`Deployment.codeLines_withComments`). A comment of a column that holds `*/` ends the comment of its
property, and what it says behind that is code (`Deployment.comment_escapes`).
-/

namespace DataAccess.Members

open Code Naming Schema TypeScript

/-- What the comments of members say about a table. -/
def commentTexts (table : Table) : List String :=
  table.name :: (table.columns.map propertyDescription ++ Entries.names table.uniqueKeys ++
    Entries.names table.nonUniqueKeys ++ table.foreignKeys.flatMap fun (constraint, pairs) =>
      constraint :: (pairs.head?.map (·.referencedTable)).toList)

/-- A text between two others closes no comment block if neither part nor joint does. -/
theorem not_closesBlock_between {front text back : String} (frontQuiet : ¬ ClosesBlock front)
    (quiet : ¬ ClosesBlock text) (backQuiet : ¬ ClosesBlock back)
    (apart : '*' ∉ front.toList.getLast? ∧ '/' ∉ back.toList.head?) :
    ¬ ClosesBlock (front ++ text ++ back) :=
  not_closesBlock_append (not_closesBlock_append frontQuiet quiet (Or.inl apart.1)) backQuiet
    (Or.inr apart.2)

namespace Plan

variable {plan : Plan}

/-- A tag of a comment is ordinary where its type is. -/
theorem isOrdinary_docTag {tag type : String} (tagged : IsOrdinary tag) (typed : IsOrdinary type) :
    IsOrdinary (docTag tag type) :=
  ((((by decide : IsOrdinary "@").append tagged).append (by decide)).append typed).append
    (by decide)

/-- There is nothing to end a comment in the tags of a method. -/
theorem quiet_docContents {description : String} (quiet : ¬ ClosesBlock description)
    {params : List Parameter} (declared : AreOrdinary (params.flatMap paramNames))
    {returns : Option Ty} (result : AreOrdinary (returns.toList.flatMap typeNames))
    (isAsync : Bool) :
    ∀ line ∈ docContents isAsync (methodDoc description params returns), ¬ ClosesBlock line := by
  intro line member
  rw [docContents] at member
  rcases List.mem_append.mp member with front | last
  · rcases List.mem_append.mp front with first | tag
    · rcases List.mem_cons.mp first with rfl | second
      · exact quiet
      · rw [List.mem_singleton.mp second]
        decide
    · obtain ⟨pair, inPairs, rfl⟩ := List.mem_map.mp tag
      obtain ⟨param, inParams, rfl⟩ := List.mem_map.mp inPairs
      have names := areOrdinary_flatMap.mp declared param inParams
      simp only [paramNames, areOrdinary_cons, areOrdinary_append] at names
      have typed := isOrdinary_typeName names.2.1
      exact (((isOrdinary_docTag (by decide) typed).append (by decide)).append
        (isOrdinary_binding names.1)).not_closesBlock
  · cases returns with
    | none => cases last
    | some type =>
        have typed := isOrdinary_typeName
          (areOrdinary_flatMap.mp result type (List.mem_singleton_self type))
        rw [List.mem_singleton.mp last]
        refine IsOrdinary.not_closesBlock (isOrdinary_docTag (by decide) ?_)
        rw [promised]
        split
        · exact ((by decide : IsOrdinary "Promise<").append typed).append (by decide)
        · exact typed

/-- The comment of a method goes on to its end if the description does not close it. -/
theorem keepsComment_method (isName : IsOrdinary plan.className) {method : Method}
    (generated : plan.Generates method) {description : String}
    (documented : method.doc = plan.doc (methodDoc description method.params method.returns))
    (quiet : ¬ ClosesBlock description) : KeepsComment (.method method) := by
  have names := areOrdinary_generated isName generated
  simp only [memberNames, areOrdinary_cons, areOrdinary_append] at names
  obtain ⟨-, ⟨params, returns⟩, -⟩ := names
  rw [KeepsComment, commentLines, documented, Plan.doc]
  split
  · rw [Option.toList_some, List.flatMap_singleton]
    exact quiet_docContents quiet params returns method.isAsync
  · nofun

/-- The comment of a property goes on to its end if the description does not close it. -/
theorem keepsComment_property {property : Property} {description : String}
    (documented : property.doc = plan.doc { description := some description })
    (quiet : ¬ ClosesBlock description) : KeepsComment (.property property) := by
  rw [KeepsComment, commentLines, documented, Plan.doc]
  split
  · rw [Option.toList_some, List.flatMap_singleton]
    exact List.forall_mem_cons.mpr ⟨quiet, List.forall_mem_singleton.mpr (by decide)⟩
  · nofun

/-- **Members keep their comments** where the texts of the table end no comment. -/
theorem keepsComment_of_mem (isName : IsOrdinary plan.className)
    (texts : ∀ text ∈ commentTexts plan.table, ¬ ClosesBlock text) {part : Part}
    {member : Member} (found : member ∈ part.members plan) : KeepsComment member := by
  simp only [commentTexts, List.forall_mem_cons, List.forall_mem_append, List.forall_mem_flatMap]
    at texts
  obtain ⟨table, ⟨⟨columns, uniqueKeys⟩, nonUniqueKeys⟩, foreignKeys⟩ := texts
  cases counterparts_self found with
  | property inTable => exact keepsComment_property rfl (columns _ (List.mem_map_of_mem inTable))
  | connection bound => exact keepsComment_undocumented (.property connectionProperty)
  | constructor bound => exact keepsComment_method isName (.constructor bound) rfl (by decide)
  | all =>
      exact keepsComment_method isName .all rfl
        (not_closesBlock_between (by decide) table (by decide) (by decide))
  | count keyed => exact keepsComment_method isName .count rfl (by decide)
  | primaryKey means keyed =>
      subst means
      exact keepsComment_method isName (.key _ _) rfl (by decide)
  | uniqueKey means inTable =>
      subst means
      have key := uniqueKeys _ (List.mem_map_of_mem inTable)
      exact keepsComment_method isName (.key _ _) rfl
        (not_closesBlock_between (by decide) key (by decide) (by decide))
  | nonUniqueKey means inTable =>
      subst means
      have key := nonUniqueKeys _ (List.mem_map_of_mem inTable)
      exact keepsComment_method isName (.keyPage _ _) rfl
        (not_closesBlock_between (by decide) key (by decide) (by decide))
  | @foreignKey constraint _ pairs means inTable =>
      subst means
      obtain ⟨constraintQuiet, referencedQuiet⟩ := foreignKeys (constraint, pairs) inTable
      have referenced : ¬ ClosesBlock ((pairs.head?.map (·.referencedTable)).getD "") := by
        cases first : pairs.head? with
        | none => exact (by decide : ¬ ClosesBlock "")
        | some pair => exact referencedQuiet _ (by simp [first])
      have opened := not_closesBlock_between
        (by decide : ¬ ClosesBlock "Fetch records referencing \x60") referenced
        (by decide : ¬ ClosesBlock "\x60 through \x60") (by decide)
      refine keepsComment_method isName (.keyPage _ _) rfl
        (not_closesBlock_between opened constraintQuiet (by decide) ⟨?_, by decide⟩)
      rw [String.toList_append, List.getLast?_append]
      exact (by decide : '*' ∉ some '\x60')
  | add => exact keepsComment_method isName .add rfl (by decide)
  | delete keyed => exact keepsComment_method isName .delete rfl (by decide)
  | update keyed => exact keepsComment_method isName .update rfl (by decide)
  | fromRecord => exact keepsComment_method isName .fromRecord rfl (by decide)
  | serialize => exact keepsComment_method isName .serialize rfl (by decide)

end Plan

namespace Deployment

variable {site : Deployment}

/-- The same table and names, with comments or without them. -/
def withComments (site : Deployment) (comments : Bool) : Deployment :=
  { site with
    assembler := { site.assembler with options := { site.assembler.options with comments } } }

/-- The name of the table and the comments of the members end none of the comments that they go
into, and neither a comment nor a literal begins in the names that were chosen for the class. -/
structure KeepsComments (site : Deployment) : Prop where
  header : IsOneLine site.table.qualifiedName
  members : ∀ member ∈ (site.withComments true).recordClass.members, KeepsComment member
  className : ∀ name ∈ site.target.className, IsOrdinary name
  namespaceName : ∀ name ∈ site.target.namespaceName, IsOrdinary name

/-- A class is what it starts as, with its imports and members. -/
theorem recordClass_eq (site : Deployment) :
    ∃ imports, imports ⊆ RuntimeSymbol.all.map RuntimeSymbol.name ∧
      site.recordClass = { site.bare with imports, members := site.recordClass.members } := by
  have pushed := RecordClass.pushAll_eq site.bare (site.plan.offered site.target.mutators)
  obtain ⟨imports, added, inside⟩ := RecordClass.addImports_subset
    (site.bare.pushAll (site.plan.offered site.target.mutators))
    (runtimeImports (site.bare.pushAll (site.plan.offered site.target.mutators)))
  have assembled : site.recordClass =
      { site.bare.pushAll (site.plan.offered site.target.mutators) with imports } := added
  have none : (site.bare.pushAll (site.plan.offered site.target.mutators)).imports = [] := by
    rw [pushed]
    rfl
  refine ⟨imports, fun symbol member => ?_, ?_⟩
  · have used := inside member
    rw [none, List.nil_append] at used
    obtain ⟨found, isUsed, rfl⟩ := List.mem_map.mp used
    exact List.mem_map_of_mem (List.mem_filter.mp isUsed).1
  · rw [assembled, pushed]

/-- A name is ordinary if it was chosen so, or if it is converted. -/
theorem isOrdinary_chosen {chosen : Option String} (ordinary : ∀ name ∈ chosen, IsOrdinary name)
    (style : Option CaseStyle) (name : String) :
    IsOrdinary (chosen.getD (identifier style name)) := by
  cases chosen with
  | none => exact isOrdinary_of_isIdentifier (isIdentifier_identifier style name)
  | some chosen => exact ordinary chosen rfl

/-- The names of a class are ordinary where its own names and those of its members are. -/
theorem areOrdinary_classNames (className : IsOrdinary site.plan.className)
    (namespaceName : IsOrdinary (site.assembler.namespaceName site.table site.target))
    (members : ∀ member ∈ site.recordClass.members, AreOrdinary (memberNames member)) :
    AreOrdinary (classNames site.recordClass) := by
  have symbols : AreOrdinary (RuntimeSymbol.all.map RuntimeSymbol.name) := by decide
  obtain ⟨imports, known, same⟩ := recordClass_eq site
  rw [same]
  refine areOrdinary_cons.mpr ⟨namespaceName, areOrdinary_cons.mpr ⟨className, ?_⟩⟩
  exact areOrdinary_append.mpr
    ⟨fun symbol member => symbols symbol (known member), areOrdinary_flatMap.mpr members⟩

/-- How deep members stand does not depend on them. -/
theorem memberDepth_recordClass (site : Deployment) :
    memberDepth site.recordClass = memberDepth site.bare := by
  obtain ⟨imports, -, same⟩ := recordClass_eq site
  rw [same]
  rfl

/-- A class says which table it was made for. -/
theorem sourceTable_recordClass (site : Deployment) :
    site.recordClass.sourceTable = site.table.qualifiedName := by
  obtain ⟨imports, -, same⟩ := recordClass_eq site
  rw [same]
  rfl

/-- The name of a class is ordinary unless another one is chosen. -/
theorem isOrdinary_className (chosen : ∀ name ∈ site.target.className, IsOrdinary name) :
    IsOrdinary site.plan.className :=
  isOrdinary_chosen chosen _ _

/-- **Comments are kept** where no text that goes into them ends a comment. -/
theorem KeepsComments.of_texts (header : IsOneLine site.table.qualifiedName)
    (texts : ∀ text ∈ commentTexts site.table, ¬ ClosesBlock text)
    (className : ∀ name ∈ site.target.className, IsOrdinary name)
    (namespaceName : ∀ name ∈ site.target.namespaceName, IsOrdinary name) :
    site.KeepsComments where
  header := header
  members := by
    intro member found
    obtain ⟨part, offered⟩ := mem_part_of_mem found
    have isName : IsOrdinary (site.withComments true).plan.className :=
      isOrdinary_className className
    exact Plan.keepsComment_of_mem isName texts offered
  className := className
  namespaceName := namespaceName

/-- All members have ordinary names where the class has. -/
theorem areOrdinary_memberNames (className : IsOrdinary site.plan.className) :
    ∀ member ∈ site.recordClass.members, AreOrdinary (memberNames member) := by
  intro member found
  obtain ⟨part, offered⟩ := mem_part_of_mem found
  exact Plan.areOrdinary_of_mem className offered

/-- With its comments, a class is printed cleanly where they are kept. -/
theorem printsCleanly_recordClass (keeps : site.KeepsComments) :
    PrintsCleanly (site.withComments true).recordClass where
  names :=
    areOrdinary_classNames (isOrdinary_className keeps.className)
      (isOrdinary_chosen keeps.namespaceName _ _)
      (areOrdinary_memberNames (isOrdinary_className keeps.className))
  comments := keeps.members
  header := (sourceTable_recordClass _).symm ▸ keeps.header

/-- Comments do not change the imports. -/
theorem runtimeImports_undocumented (recordClass : RecordClass) :
    runtimeImports recordClass.undocumented = runtimeImports recordClass := by
  have mentions (other : Ty) :
      anyMentions other recordClass.undocumented = anyMentions other recordClass := by
    have types (member : Member) : memberTypes member.undocumented = memberTypes member := by
      cases member <;> rfl
    rw [anyMentions, RecordClass.undocumented, List.flatMap_map]
    simp only [types]
    rfl
  have bodies (isOfKind : Expr → Bool) :
      anyInBodies isOfKind recordClass.undocumented = anyInBodies isOfKind recordClass := by
    rw [anyInBodies, anyInBodies, RecordClass.methods, RecordClass.methods,
      RecordClass.undocumented, List.filterMap_map, List.any_filterMap, List.any_filterMap]
    refine congrArg recordClass.members.any (funext fun member => ?_)
    cases member <;> rfl
  have used (symbol : RuntimeSymbol) :
      symbol.isUsed recordClass.undocumented = symbol.isUsed recordClass := by
    cases symbol <;> simp only [RuntimeSymbol.isUsed, mentions, bodies]
  rw [runtimeImports, runtimeImports]
  exact congrArg (List.map _) (List.filter_congr fun symbol _ => used symbol)

/-- Without their comments, the members of a part are what it has where there are none. -/
theorem undocumented_members (plan : Plan) (part : Part) :
    (part.members plan).map Member.undocumented =
      part.members { plan with options := { plan.options with comments := false } } := by
  have counterparts := @Plan.forall₂_counterparts plan
    { plan with options := { plan.options with comments := false } } rfl part fun _ => rfl
  rw [← List.forall₂_eq_eq_eq, List.forall₂_map_left_iff]
  refine counterparts.imp fun member counterpart made => ?_
  cases made <;> rfl

/-- **Without its comments, a class is the one that is generated without comments.** -/
theorem undocumented_recordClass (site : Deployment) :
    site.recordClass.undocumented = (site.withComments false).recordClass := by
  have offered : (site.plan.offered site.target.mutators).map Member.undocumented =
      (site.withComments false).plan.offered site.target.mutators := by
    rw [Plan.offered, Plan.offered, List.map_flatMap]
    exact List.flatMap_congr fun part _ => undocumented_members site.plan part
  have pushed :
      (site.bare.pushAll (site.plan.offered site.target.mutators)).undocumented =
        (site.withComments false).bare.pushAll
          ((site.withComments false).plan.offered site.target.mutators) := by
    rw [RecordClass.undocumented_pushAll, offered]
    rfl
  have assembled (site : Deployment) : site.recordClass =
      (runtimeImports (site.bare.pushAll (site.plan.offered site.target.mutators))).foldl
        RecordClass.addImport
        (site.bare.pushAll (site.plan.offered site.target.mutators)) := rfl
  rw [assembled, RecordClass.undocumented_addImports, ← runtimeImports_undocumented, pushed]
  rfl

/-- **Whether there are comments does not change the code.** -/
theorem codeLines_withComments (site : Deployment) (comments : Bool) (printing : Printing)
    (keeps : site.KeepsComments) :
    codeLines (source printing (site.withComments comments).recordClass).toList =
        codeLines (source printing site.recordClass).toList ∧
      codeLines (source printing site.recordClass).toList =
        codeLines (behindHeader printing site.recordClass).toList := by
  have silent (comments : Bool) :
      (site.withComments comments).recordClass.undocumented =
        (site.withComments false).recordClass := undocumented_recordClass _
  have clean (comments : Bool) : PrintsCleanly (site.withComments comments).recordClass := by
    cases comments with
    | true => exact printsCleanly_recordClass keeps
    | false => exact silent true ▸ (printsCleanly_recordClass keeps).undocumented
  have same (comments : Bool) :
      codeLines (source printing (site.withComments comments).recordClass).toList =
        codeLines (source printing (site.withComments false).recordClass).toList :=
    silent comments ▸ (codeLines_source printing (clean comments)).1
  exact ⟨(same comments).trans (same site.assembler.options.comments).symm,
    (codeLines_source printing (clean site.assembler.options.comments)).2⟩

/-- A column with a comment. -/
def noteColumn (comment : String) : Column :=
  { name := "text", nativeType := "text", extendedType := "text", nullable := false, comment,
    isPrimary := false }

/-- A table with one column. -/
def noted (name comment : String) : Deployment :=
  { assembler := {}
    table := { schema := "log", name, columns := [noteColumn comment], loaded := true }
    target := {} }

theorem keepsComments_noted : (noted "notes" "/* in \"quotes\" // and not").KeepsComments :=
  .of_texts (by decide) (by decide) nofun nofun

theorem codeLines_withComments_noted :
    (noted "notes" "/* in \"quotes\" // and not").KeepsComments ∧
      codeLines (source {}
          ((noted "notes" "/* in \"quotes\" // and not").withComments false).recordClass).toList =
        codeLines (source {} (noted "notes" "/* in \"quotes\" // and not").recordClass).toList ∧
      codeLines (source {} (noted "notes" "/* in \"quotes\" // and not").recordClass).toList =
        codeLines (behindHeader {}
          (noted "notes" "/* in \"quotes\" // and not").recordClass).toList :=
  ⟨keepsComments_noted, codeLines_withComments _ false {} keepsComments_noted⟩

/-- The first member of the class of notes is the property with the comment. -/
theorem members_noted (name comment : String) :
    (noted name comment).recordClass.members =
      .property
          { name := (noted name comment).plan.propertyName (noteColumn comment)
            type := Plan.propertyType (noteColumn comment)
            doc := some { description := some (propertyDescription (noteColumn comment)) } } ::
        [ .method (noted name comment).plan.allFetcher,
          .method (noted name comment).plan.addMutator,
          .method (noted name comment).plan.fromRecord,
          .method (noted name comment).plan.serialize ] := by
  have clean : sanitize "text" = "text" := by decide
  have property : (noted name comment).plan.propertyName (noteColumn comment) = "text" := by
    change aside ((noted name comment).plan.isTaken (sanitize "text")) (sanitize "text") = "text"
    rw [clean]
    rfl
  rw [members_recordClass, RecordClass.members_pushAll_of_nodup]
  · rfl
  · change [(Scope.ofObject, (noted name comment).plan.propertyName (noteColumn comment)),
      (.static, "all"), (.ofObject, "add"), (.static, "fromRecord"), (.ofObject, "serialize")].Nodup
    rw [property]
    decide

/-- The comment of a property says what it said before it ended, and the rest is code. -/
theorem addsCode_noted :
    AddsCode (Printing.indent {}).unit 2 ["evil(); ".toList]
      (docOutline false (some { description := some "*/ evil(); /*" })) [] := by
  have shown : Layout.Outline.shownAll (Printing.indent {}).unit 2
      (docOutline false (some { description := some "*/ evil(); /*" })) =
        "        /** */ evil(); /* */\n" := by decide
  have leaves : Leaves "        /** */ evil(); /* */\n".toList
      ("         evil(); " ++ "\n").toList := fun rest => by rfl
  rw [AddsCode, shown]
  exact ⟨[], [], hasLines_of_leaves leaves, hasLines_empty⟩

/-- A comment of a column and the name of a table that both hold code. -/
theorem comment_escapes :
    codeLines (source {} (noted "notes" "*/ evil(); /*").recordClass).toList ≠
        codeLines (source {}
          ((noted "notes" "*/ evil(); /*").withComments false).recordClass).toList ∧
      codeLines (source {} (noted "notes\nevil(); //" "").recordClass).toList ≠
        codeLines (behindHeader {} (noted "notes\nevil(); //" "").recordClass).toList := by
  constructor
  · have className : IsOrdinary (noted "notes" "*/ evil(); /*").plan.className := by decide
    have names := areOrdinary_memberNames className
    have said : propertyDescription (noteColumn "*/ evil(); /*") = "*/ evil(); /*" := by decide
    have members := members_noted "notes" "*/ evil(); /*"
    rw [said] at members
    have depth : memberDepth (noted "notes" "*/ evil(); /*").recordClass = 2 := by
      rw [memberDepth_recordClass]
      decide
    rw [← undocumented_recordClass]
    refine codeLines_source_ne {} (areOrdinary_classNames className (by decide) names) ?_ members
      ?_ (List.cons_ne_nil _ _) (depth ▸ addsCode_noted)
    · rw [sourceTable_recordClass]
      decide
    · simp only [List.forall_mem_cons, List.not_mem_nil, false_implies, implies_true, and_true]
      exact ⟨Plan.keepsComment_method className .all rfl (by decide),
        Plan.keepsComment_method className .add rfl (by decide),
        Plan.keepsComment_method className .fromRecord rfl (by decide),
        Plan.keepsComment_method className .serialize rfl (by decide)⟩
  · have header : header (noted "notes\nevil(); //" "").recordClass ++ "\n" =
        "// Generated by dalgen from log.notes\nevil(); //. Do not edit.\n" := by
      rw [header, sourceTable_recordClass]
      decide
    have leaves : Leaves
        "// Generated by dalgen from log.notes\nevil(); //. Do not edit.\n".toList
        ("\nevil(); " ++ "\n").toList := fun rest => by rfl
    exact codeLines_behindHeader_ne {} (header ▸ leaves) (by decide)

end Deployment

end DataAccess.Members
