import DataAccess.Files.Tree
import DataAccess.Proofs.Files.Dialogues

/-!
# Where paths lead

A path is resolved against the working directory, and its `.` components are left out
(`Path.resolved`). Two paths that start in the same way, both absolute, both with a `.`, or both
with a name, are resolved to the same components only if their own components are the same
(`Path.components_eq_of_resolved_eq`). In a tree, a path without `..` leads to the place that it is
resolved to (`Tree.resolved_of_locate`), so a file that was stored stays until one is stored whose
path is resolved to the same components (`Tree.Holds.of_performs`).
-/

namespace DataAccess.Files

namespace Path

/-- How a path starts. -/
inductive Start where
  | absolute
  | dotted
  | plain
  deriving DecidableEq

/-- How the components of a path begin: at the root, at the current directory, or with a name. -/
def start (path : String) : Start :=
  if isAbsolute path then .absolute
  else
    match parts path with
    | "." :: _ => .dotted
    | _ => .plain

/-- The components that a path has from the root, without the ones that lead nowhere. -/
def resolved (workingDirectory : Place) (path : String) : List Component :=
  if isAbsolute path then components path
  else .root :: workingDirectory.map .named ++ (components path).filter (· ≠ .here)

/-- The current directory is no component inside of a path. -/
theorem here_notMem_innerComponents (parts : List String) :
    Component.here ∉ innerComponents parts := by
  intro member
  obtain ⟨part, -, made⟩ := List.mem_map.mp member
  rw [componentOf] at made
  split at made <;> cases made

/-- Inside of a path there is no current directory to leave out. -/
theorem filter_innerComponents (parts : List String) :
    (innerComponents parts).filter (· ≠ .here) = innerComponents parts := by
  refine List.filter_eq_self.mpr fun component member => ?_
  have other : component ≠ .here := fun same => here_notMem_innerComponents parts (same ▸ member)
  exact decide_eq_true other

/-- The components of a relative path are its parts, less the dots, behind a dot at most. -/
theorem components_of_relative {path : String} (relative : isAbsolute path = false) :
    components path =
      (if start path = .dotted then [.here] else []) ++ innerComponents (parts path) := by
  by_cases dotted : ∃ more, parts path = "." :: more
  · obtain ⟨more, shape⟩ := dotted
    rw [components, start, relative, shape]
    change .here :: innerComponents more = [.here] ++ innerComponents ("." :: more)
    rw [innerComponents, innerComponents, List.filter_cons_of_neg (by decide)]
    rfl
  · have plain : start path = .plain := by
      rw [start, relative, if_neg Bool.false_ne_true]
      split
      · next more shape => exact absurd ⟨more, shape⟩ dotted
      · rfl
    have whole : components path = innerComponents (parts path) := by
      rw [components, relative, if_neg Bool.false_ne_true]
      split
      · next more shape => exact absurd ⟨more, shape⟩ dotted
      · rfl
    rw [plain, whole]
    rfl

/-- A relative path goes on from the working directory. -/
theorem resolved_of_relative (workingDirectory : Place) {path : String}
    (relative : isAbsolute path = false) :
    resolved workingDirectory path =
      .root :: workingDirectory.map .named ++ innerComponents (parts path) := by
  rw [resolved, if_neg (relative ▸ Bool.false_ne_true), components_of_relative relative,
    List.filter_append, filter_innerComponents]
  split <;> rfl

/-- Whether two paths are resolved to different components and none of them goes up. -/
structure LeadApart (workingDirectory : Place) (left right : String) : Prop where
  straightLeft : ".." ∉ parts left
  straightRight : ".." ∉ parts right
  apart : resolved workingDirectory left ≠ resolved workingDirectory right

/-- **Paths that start alike and are resolved alike have the same components.** -/
theorem components_eq_of_resolved_eq {workingDirectory : Place} {left right : String}
    (alike : start left = start right)
    (same : resolved workingDirectory left = resolved workingDirectory right) :
    components left = components right := by
  have absolute (path : String) : isAbsolute path = true ↔ start path = .absolute := by
    rw [start]
    split
    · next here => exact iff_of_true here rfl
    · next here =>
        refine iff_of_false here ?_
        split <;> exact nofun
  cases isLeft : isAbsolute left with
  | true =>
      have isRight := (absolute right).mpr (alike ▸ (absolute left).mp isLeft)
      rwa [resolved, resolved, if_pos isLeft, if_pos isRight] at same
  | false =>
      have isRight : isAbsolute right = false := by
        rw [← Bool.not_eq_true, absolute, ← alike, ← absolute, isLeft]
        exact Bool.false_ne_true
      rw [resolved_of_relative _ isLeft, resolved_of_relative _ isRight,
        List.append_cancel_left_eq] at same
      rw [components_of_relative isLeft, components_of_relative isRight, alike, same]

end Path

namespace Tree

/-- The nodes that stand in one tree stand in the other, which works in the same directory. -/
structure Extends (before after : Tree) : Prop where
  workingDirectory : after.workingDirectory = before.workingDirectory
  node : ∀ place node, before.node? place = some node → after.node? place = some node

/-- The directories of one tree are directories of the other, which works in the same directory. -/
structure KeepsDirectories (before after : Tree) : Prop where
  workingDirectory : after.workingDirectory = before.workingDirectory
  directory : ∀ place, before.node? place = some .directory → after.node? place = some .directory

/-- Where one entry of a tree is replaced, it is found with its new node, and all others as before.
-/
theorem find?_replaced (nodes : List (Place × Node)) (place other : Place) (node : Node) :
    ((nodes.map fun entry => if entry.1 == place then (place, node) else entry).find?
        fun entry => entry.1 == other).map Prod.snd =
      if other = place then
        if nodes.any fun entry => entry.1 == place then some node else none
      else (nodes.find? fun entry => entry.1 == other).map Prod.snd := by
  induction nodes with
  | nil => simp
  | cons entry rest ih =>
      rw [List.map_cons, List.find?_cons, List.find?_cons, List.any_cons]
      by_cases here : entry.1 = place
      · by_cases same : other = place
        · simp [here, same]
        · have skipped : (place == other) = false := beq_false_of_ne (Ne.symm same)
          simp only [here, beq_self_eq_true, ↓reduceIte, skipped, ih, same]
      · have kept : (entry.1 == place) = false := beq_false_of_ne here
        rw [kept, Bool.false_or, if_neg Bool.false_ne_true]
        cases found : entry.1 == other with
        | false => exact ih
        | true =>
            have apart : other ≠ place := eq_of_beq found ▸ here
            rw [if_neg apart]

/-- What is put at a place below the root stands there, and nothing else changes. -/
theorem node?_put {tree : Tree} {place : Place} (inside : place ≠ []) (node : Node)
    (other : Place) :
    (tree.put place node).node? other = if other = place then some node else tree.node? other := by
  by_cases root : other = []
  · subst root
    rw [if_neg inside.symm]
    rfl
  · have below : other.isEmpty = false := by simpa using root
    rw [node?, node?, put]
    simp only [below, Bool.false_eq_true, ↓reduceIte]
    cases there : tree.nodes.any fun entry => entry.1 == place with
    | true =>
        simp only [↓reduceIte]
        rw [find?_replaced, there]
        rfl
    | false =>
        simp only [Bool.false_eq_true, ↓reduceIte, List.find?_append]
        by_cases same : other = place
        · subst same
          have absent : tree.nodes.find? (fun entry => entry.1 == other) = none := by
            rw [List.find?_eq_none]
            intro entry member found
            refine Bool.false_ne_true (there.symm.trans ?_)
            exact List.any_eq_true.mpr ⟨entry, member, found⟩
          simp [absent]
        · have skipped : (place == other) = false := beq_false_of_ne (Ne.symm same)
          simp [skipped, same]

/-- The root is a directory. -/
theorem ne_nil_of_node? {tree : Tree} {place : Place}
    (noDirectory : tree.node? place ≠ some .directory) : place ≠ [] := by
  rintro rfl
  exact noDirectory rfl

/-- Putting a node does not change the working directory. -/
theorem workingDirectory_put (tree : Tree) (place : Place) (node : Node) :
    (tree.put place node).workingDirectory = tree.workingDirectory := by
  rw [put]
  split <;> rfl

namespace Extends

theorem refl (tree : Tree) : Extends tree tree := ⟨rfl, fun _ _ stands => stands⟩

/-- Growing twice is growing. -/
theorem trans {first second third : Tree} (early : Extends first second)
    (late : Extends second third) : Extends first third :=
  ⟨late.workingDirectory.trans early.workingDirectory,
    fun place node stands => late.node place node (early.node place node stands)⟩

/-- What grows keeps its directories. -/
theorem keepsDirectories {before after : Tree} (step : Extends before after) :
    KeepsDirectories before after :=
  ⟨step.workingDirectory, fun place stands => step.node place .directory stands⟩

end Extends

namespace KeepsDirectories

theorem refl (tree : Tree) : KeepsDirectories tree tree := (Extends.refl tree).keepsDirectories

theorem trans {first second third : Tree} (early : KeepsDirectories first second)
    (late : KeepsDirectories second third) : KeepsDirectories first third :=
  ⟨late.workingDirectory.trans early.workingDirectory,
    fun place stands => late.directory place (early.directory place stands)⟩

end KeepsDirectories

/-- A node that is put where nothing stood lets the tree grow. -/
theorem extends_put {tree : Tree} {place : Place} (free : tree.node? place = none) (node : Node) :
    Extends tree (tree.put place node) := by
  have inside : place ≠ [] := by
    rintro rfl
    cases free
  refine ⟨workingDirectory_put tree place node, fun other old stands => ?_⟩
  have apart : other ≠ place := by
    rintro rfl
    rw [free] at stands
    cases stands
  rw [node?_put inside, if_neg apart, stands]

/-- A file that takes the place of no directory takes no directory away. -/
theorem keepsDirectories_put {tree : Tree} {place : Place}
    (noDirectory : tree.node? place ≠ some .directory) (text : String) :
    KeepsDirectories tree (tree.put place (.file text)) := by
  refine ⟨workingDirectory_put tree place _, fun other stands => ?_⟩
  have apart : other ≠ place := by
    rintro rfl
    exact noDirectory stands
  rw [node?_put (ne_nil_of_node? noDirectory), if_neg apart, stands]

/-- Making a directory adds a node where there was none. -/
theorem extends_makeDirectory {tree after : Tree} {path : String}
    (succeeds : tree.makeDirectory path = .ok after) : Extends tree after := by
  rw [makeDirectory] at succeeds
  cases located : tree.locate path with
  | error failure =>
      rw [located] at succeeds
      cases succeeds
  | ok place =>
      simp only [located, bind, Except.bind] at succeeds
      split at succeeds
      · next free =>
          cases succeeds
          exact extends_put free .directory
      · cases succeeds

/-- Writing a file puts its text at the place of the path, which is no directory. -/
theorem writeText_eq_ok {tree after : Tree} {path text : String}
    (succeeds : tree.writeText path text = .ok after) :
    ∃ place, tree.locate path = .ok place ∧ Path.endsInSlash path = false ∧
      tree.node? place ≠ some .directory ∧ after = tree.put place (.file text) := by
  rw [writeText] at succeeds
  cases located : tree.locate path with
  | error failure =>
      rw [located] at succeeds
      cases succeeds
  | ok place =>
      simp only [located, bind, Except.bind] at succeeds
      cases slash : Path.endsInSlash path with
      | true =>
          simp only [slash, ↓reduceIte] at succeeds
          cases succeeds
      | false =>
          simp only [slash, Bool.false_eq_true, ↓reduceIte] at succeeds
          split at succeeds
          · cases succeeds
          · next noDirectory =>
              cases succeeds
              exact ⟨place, rfl, rfl, noDirectory, rfl⟩

end Tree

/-- Whether an exchange is about directories: it looks for one or makes one. -/
def Exchange.isAboutDirectories (exchange : Exchange) : Bool :=
  match exchange.operation with
  | .isDirectory _ | .makeDirectory _ => true
  | _ => false

namespace Dialogue

/-- Whatever the answers are, the dialogue is about directories. -/
def AsksForDirectories {α : Type} (dialogue : Dialogue α) : Prop :=
  ∀ exchanges value, dialogue.Follows exchanges value →
    ∀ exchange ∈ exchanges, exchange.isAboutDirectories = true

/-- A dialogue that is over asks nothing. -/
theorem asksForDirectories_ended {α : Type} (value : α) : AsksForDirectories (ended value) := by
  rintro _ _ ⟨⟩
  exact nofun

/-- Two dialogues that only ask for directories do so one after the other. -/
theorem AsksForDirectories.bind {α β : Type} {dialogue : Dialogue α} {later : α → Dialogue β}
    (now : AsksForDirectories dialogue) (rest : ∀ value, AsksForDirectories (later value)) :
    AsksForDirectories (dialogue >>= later) := by
  intro exchanges result follows
  obtain ⟨first, second, value, rfl, isFirst, isSecond⟩ := follows_bind.mp follows
  exact List.forall_mem_append.mpr ⟨now first value isFirst, rest value second result isSecond⟩

theorem asksForDirectories_makeDirectory (path : String) :
    AsksForDirectories (fileSystem.makeDirectory path) := by
  rintro _ _ ⟨⟩
  next answer exchanges follows =>
    cases follows
    exact List.forall_mem_singleton.mpr rfl

theorem asksForDirectories_isDirectory (path : String) :
    AsksForDirectories (fileSystem.isDirectory path) := by
  rintro _ _ ⟨⟩
  next answer exchanges follows =>
    cases follows
    exact List.forall_mem_singleton.mpr rfl

/-- Making sure that a directory exists only asks for directories. -/
theorem asksForDirectories_ensureDirectory (path : String) :
    AsksForDirectories (fileSystem.ensureDirectory path) := by
  rw [FileSystem.ensureDirectory]
  refine (asksForDirectories_makeDirectory path).bind fun made => ?_
  cases made with
  | ok done => exact asksForDirectories_ended _
  | error failure =>
      refine (asksForDirectories_isDirectory path).bind fun isThere => ?_
      split <;> exact asksForDirectories_ended _

/-- Making sure of directories one by one only asks for directories. -/
theorem asksForDirectories_ensureAlong (paths : List String) :
    AsksForDirectories (fileSystem.ensureAlong paths) := by
  induction paths with
  | nil => exact asksForDirectories_ended _
  | cons path ancestors ih =>
      rw [FileSystem.ensureAlong]
      refine (asksForDirectories_makeDirectory path).bind fun made => ?_
      split
      · exact asksForDirectories_ended _
      · refine ih.bind fun ensured => ?_
        cases ensured with
        | ok done => exact asksForDirectories_ensureDirectory path
        | error failure => exact asksForDirectories_ended _
      · refine (asksForDirectories_isDirectory path).bind fun isThere => ?_
        split <;> exact asksForDirectories_ended _

/-- Making sure of a directory with its parents only asks for directories. -/
theorem asksForDirectories_ensureDirectories (path : String) :
    AsksForDirectories (fileSystem.ensureDirectories path) := by
  rw [FileSystem.ensureDirectories]
  split
  · exact asksForDirectories_ended _
  · exact asksForDirectories_ensureAlong _

/-- **Storing a file first sees to its directory.** The file is written after that, once, unless
there is no directory for it. -/
theorem follows_store {directory path text : String} {exchanges : List Exchange}
    {result : Except Failure Unit}
    (follows : (fileSystem.store directory path text).Follows exchanges result) :
    ∃ first, (∀ exchange ∈ first, exchange.isAboutDirectories = true) ∧
      ((exchanges = first ∧ result ≠ .ok ()) ∨
        exchanges = first ++ [⟨.writeText path text, result⟩]) := by
  rw [FileSystem.store] at follows
  obtain ⟨first, rest, ensured, rfl, isFirst, isRest⟩ := follows_bind.mp follows
  refine ⟨first, asksForDirectories_ensureDirectories directory first ensured isFirst, ?_⟩
  cases ensured with
  | error failure =>
      obtain ⟨rfl, rfl⟩ := follows_ended.mp isRest
      exact Or.inl ⟨List.append_nil first, by simp⟩
  | ok done =>
      cases isRest with
      | ask answer written =>
          obtain ⟨rfl, rfl⟩ := follows_ended.mp written
          exact Or.inr rfl

end Dialogue

/-- The operations of a store that ends with a result: they are about directories, or write the
file. -/
inductive StoreStep (path text : String) (result : Except Failure Unit) : Exchange → Prop
  | directory {exchange : Exchange} (isAbout : exchange.isAboutDirectories = true) :
      StoreStep path text result exchange
  | write : StoreStep path text result ⟨.writeText path text, result⟩

/-- Storing a file asks for directories, and it writes to no other path than its own. -/
theorem storeStep_of_follows {directory path text : String} {exchanges : List Exchange}
    {result : Except Failure Unit}
    (follows : (Dialogue.fileSystem.store directory path text).Follows exchanges result)
    {exchange : Exchange} (member : exchange ∈ exchanges) :
    StoreStep path text result exchange := by
  obtain ⟨first, isAbout, ⟨rfl, -⟩ | rfl⟩ := Dialogue.follows_store follows
  · exact .directory (isAbout exchange member)
  · rcases List.mem_append.mp member with early | last
    · exact .directory (isAbout exchange early)
    · rw [List.mem_singleton.mp last]
      exact .write

namespace Tree

/-- A name can be entered only in a directory. -/
theorem enter_eq_ok {tree : Tree} {place next : Place} {name : String}
    (succeeds : tree.enter place name = .ok next) :
    tree.node? place = some .directory ∧
      next = if name = "." then place else if name = ".." then place.dropLast
        else place ++ [name] := by
  rw [enter] at succeeds
  split at succeeds
  · cases succeeds
  · cases succeeds
  · next directory =>
      refine ⟨directory, ?_⟩
      split at succeeds
      · next here =>
          cases succeeds
          rw [if_pos here]
      · next notHere =>
          rw [if_neg notHere]
          split at succeeds
          · next up =>
              cases succeeds
              rw [if_pos up]
          · next notUp =>
              rw [if_neg notUp]
              split at succeeds
              · cases succeeds
              · cases succeeds
                rfl

/-- A walk along names goes through the first one. -/
theorem walk_cons_eq_ok {tree : Tree} {place goal : Place} {name : String} {rest : List String}
    (succeeds : tree.walk place (name :: rest) = .ok goal) :
    ∃ next, tree.enter place name = .ok next ∧ tree.walk next rest = .ok goal := by
  rw [walk] at succeeds
  cases entered : tree.enter place name with
  | error failure =>
      rw [entered] at succeeds
      cases succeeds
  | ok next =>
      rw [entered] at succeeds
      exact ⟨next, rfl, succeeds⟩

/-- Names without `..` lead down by one level each, and dots lead nowhere. -/
theorem walk_eq_ok {tree : Tree} {place goal : Place} {names : List String}
    (noParent : ".." ∉ names) (succeeds : tree.walk place names = .ok goal) :
    goal = place ++ names.filter (· ≠ ".") := by
  induction names generalizing place with
  | nil =>
      cases succeeds
      rw [List.filter_nil, List.append_nil]
  | cons name rest ih =>
      obtain ⟨next, entered, walked⟩ := walk_cons_eq_ok succeeds
      obtain ⟨notUp, later⟩ := not_or.mp (List.mem_cons.not.mp noParent)
      rw [ih later walked, (enter_eq_ok entered).2, if_neg (Ne.symm notUp)]
      by_cases here : name = "."
      · rw [if_pos here, List.filter_cons_of_neg (by simp [here])]
      · rw [if_neg here, List.filter_cons_of_pos (by simp [here]), List.append_assoc,
          List.singleton_append]

/-- A walk ends at the same place as long as directories stay. -/
theorem walk_of_keepsDirectories {before after : Tree} (kept : KeepsDirectories before after)
    {place goal : Place} {names : List String} (succeeds : before.walk place names = .ok goal) :
    after.walk place names = .ok goal := by
  induction names generalizing place with
  | nil => exact succeeds
  | cons name rest ih =>
      obtain ⟨next, entered, walked⟩ := walk_cons_eq_ok succeeds
      have again : after.enter place name = .ok next := by
        rw [← entered, enter, enter, kept.directory place (enter_eq_ok entered).1,
          (enter_eq_ok entered).1]
      rw [walk, again]
      exact ih walked

/-- Where a path can be located at all, every tree is walked along its parts. -/
theorem locate_eq_walk {tree : Tree} {path : String} {place : Place}
    (succeeds : tree.locate path = .ok place) (other : Tree) :
    other.locate path =
      other.walk (if Path.isAbsolute path then [] else other.workingDirectory)
        (Path.parts path) := by
  rw [locate] at succeeds ⊢
  split at succeeds
  · cases succeeds
  · next noZero =>
      rw [if_neg noZero]
      split at succeeds
      · cases succeeds
      · next filled =>
          rw [if_neg filled]
          split at succeeds
          · cases succeeds
          · next short => rw [if_neg short]

/-- A path leads to the same place as long as the directories stay. -/
theorem locate_of_keepsDirectories {before after : Tree} (kept : KeepsDirectories before after)
    {path : String} {place : Place} (succeeds : before.locate path = .ok place) :
    after.locate path = .ok place := by
  have walked := succeeds
  rw [locate_eq_walk succeeds before, ← kept.workingDirectory] at walked
  rw [locate_eq_walk succeeds after]
  exact walk_of_keepsDirectories kept walked

/-- Without steps to parents the components are the names in order. -/
theorem innerComponents_of_noParent {parts : List String} (noParent : ".." ∉ parts) :
    Path.innerComponents parts = (parts.filter (· ≠ ".")).map .named := by
  refine List.map_congr_left fun part member => ?_
  have notUp : part ≠ ".." := by
    rintro rfl
    exact noParent (List.mem_filter.mp member).1
  rw [Path.componentOf, if_neg notUp]

/-- **A path without `..` leads to the place that it is resolved to.** -/
theorem resolved_of_locate {tree : Tree} {path : String} {place : Place}
    (noParent : ".." ∉ Path.parts path) (located : tree.locate path = .ok place) :
    Path.resolved tree.workingDirectory path = .root :: place.map .named := by
  rw [locate_eq_walk located tree] at located
  rw [walk_eq_ok noParent located, List.map_append, ← innerComponents_of_noParent noParent]
  cases absolute : Path.isAbsolute path with
  | true => simp [Path.resolved, Path.components, absolute]
  | false => simp [Path.resolved_of_relative _ absolute]

/-- The file with the text stands where the path leads. -/
def Holds (tree : Tree) (path text : String) : Prop :=
  ∃ place, tree.locate path = .ok place ∧ Path.endsInSlash path = false ∧
    tree.node? place = some (.file text)

/-- A file that is held is read with its text. -/
theorem Holds.readText {tree : Tree} {path text : String} (holds : tree.Holds path text) :
    tree.readText path = .ok text := by
  obtain ⟨place, located, noSlash, stands⟩ := holds
  simp only [Tree.readText, look, located, bind, Except.bind, stands, noSlash, Bool.false_eq_true,
    ↓reduceIte]

/-- A file is still held in a tree that has grown. -/
theorem Holds.of_extends {before after : Tree} {path text : String} (holds : before.Holds path text)
    (step : Extends before after) : after.Holds path text := by
  obtain ⟨place, located, noSlash, stands⟩ := holds
  exact ⟨place, locate_of_keepsDirectories step.keepsDirectories located, noSlash,
    step.node place _ stands⟩

/-- A file stays when another path, which leads elsewhere, gets a file. -/
theorem Holds.of_put {tree : Tree} {path text other more : String} {place : Place}
    (holds : tree.Holds path text) (located : tree.locate other = .ok place)
    (noDirectory : tree.node? place ≠ some .directory)
    (apart : Path.LeadApart tree.workingDirectory path other) :
    (tree.put place (.file more)).Holds path text := by
  obtain ⟨own, ownLocated, noSlash, stands⟩ := holds
  have elsewhere : own ≠ place := by
    rintro rfl
    refine apart.apart ?_
    rw [resolved_of_locate apart.straightLeft ownLocated,
      resolved_of_locate apart.straightRight located]
  refine ⟨own, locate_of_keepsDirectories (keepsDirectories_put noDirectory more) ownLocated,
    noSlash, ?_⟩
  rw [node?_put (ne_nil_of_node? noDirectory), if_neg elsewhere, stands]

/-- A step that looks for directories or makes them keeps all that stands. -/
theorem extends_perform {exchange : Exchange} {before after : Tree}
    (isAbout : exchange.isAboutDirectories = true)
    (performs : exchange.operation.perform fileSystem before = (exchange.answer, after)) :
    Extends before after := by
  obtain ⟨operation, answer⟩ := exchange
  cases operation with
  | isDirectory path =>
      cases performs
      exact Extends.refl before
  | makeDirectory path =>
      simp only [Operation.perform, fileSystem, changing] at performs
      split at performs
      · next succeeds =>
          cases performs
          exact extends_makeDirectory succeeds
      · cases performs
        exact Extends.refl before
  | isPresent path => cases isAbout
  | readText path => cases isAbout
  | writeText path text => cases isAbout

/-- A failed operation leaves the tree as it is, and a file that is written stands at the place of
its path, which is no directory. -/
theorem writeText_run {path text : String} {before after : Tree} {result : Except Failure Unit}
    (performs : fileSystem.writeText path text before = (result, after)) :
    (∃ failure, result = .error failure ∧ after = before) ∨
      ∃ place, result = .ok () ∧ before.locate path = .ok place ∧
        Path.endsInSlash path = false ∧ before.node? place ≠ some .directory ∧
        after = before.put place (.file text) := by
  simp only [fileSystem, changing] at performs
  split at performs
  · next succeeds =>
      cases performs
      obtain ⟨place, located, noSlash, noDirectory, rfl⟩ := writeText_eq_ok succeeds
      exact Or.inr ⟨place, rfl, located, noSlash, noDirectory, rfl⟩
  · cases performs
    exact Or.inl ⟨_, rfl, rfl⟩

/-- The file that was written stands where its path leads. -/
theorem holds_of_writeText {path text : String} {before after : Tree}
    (performs : fileSystem.writeText path text before = (.ok (), after)) :
    after.Holds path text := by
  obtain ⟨failure, ⟨⟩, -⟩ | ⟨place, -, located, noSlash, noDirectory, rfl⟩ :=
    writeText_run performs
  refine ⟨place, ?_, noSlash, ?_⟩
  · exact locate_of_keepsDirectories (keepsDirectories_put noDirectory text) located
  · rw [node?_put (ne_nil_of_node? noDirectory), if_pos rfl]

/-- No operation changes the working directory. -/
theorem workingDirectory_of_perform {operation : Operation} {answer : operation.Answer}
    {before after : Tree} (performs : operation.perform fileSystem before = (answer, after)) :
    after.workingDirectory = before.workingDirectory := by
  cases operation with
  | makeDirectory path =>
      have added := @extends_perform ⟨.makeDirectory path, answer⟩ before after rfl performs
      exact added.workingDirectory
  | writeText path text =>
      obtain ⟨_, -, rfl⟩ | ⟨place, -, -, -, -, rfl⟩ := writeText_run performs
      · rfl
      · exact workingDirectory_put before place _
  | isPresent path | isDirectory path | readText path =>
      cases performs
      rfl

/-- A step of a store that makes no directory and writes no file changes nothing. -/
theorem unchanged_of_storeStep {path text : String} {result : Except Failure Unit}
    {exchange : Exchange} (isStep : StoreStep path text result exchange) {before after : Tree}
    (performs : exchange.operation.perform fileSystem before = (exchange.answer, after))
    (noDirectory : ∀ made, exchange ≠ ⟨.makeDirectory made, .ok ()⟩) (failed : result ≠ .ok ()) :
    after = before := by
  cases isStep with
  | write =>
      obtain ⟨_, -, rfl⟩ | ⟨_, rfl, -⟩ := writeText_run performs
      · rfl
      · exact absurd rfl failed
  | directory isAbout =>
      obtain ⟨operation, answer⟩ := exchange
      cases operation with
      | isDirectory path =>
          cases performs
          rfl
      | makeDirectory path =>
          simp only [Operation.perform, fileSystem, changing] at performs
          split at performs
          · cases performs
            exact absurd rfl (noDirectory path)
          · cases performs
            rfl
      | isPresent path => cases isAbout
      | readText path => cases isAbout
      | writeText path text => cases isAbout

/-- Operations on files do not change the working directory. -/
theorem workingDirectory_of_performs {before after : Tree} {history : List (Nat × Exchange)}
    (performs : Performs fileSystem before history after) :
    after.workingDirectory = before.workingDirectory := by
  induction performs with
  | nil tree => rfl
  | cons position exchange now later ih => exact ih.trans (workingDirectory_of_perform now)

/-- **A step of a store costs no file whose path leads elsewhere.** -/
theorem Holds.of_storeStep {path text : String} {result : Except Failure Unit}
    {exchange : Exchange} (isStep : StoreStep path text result exchange) {before after : Tree}
    (performs : exchange.operation.perform fileSystem before = (exchange.answer, after))
    {other held : String} (holds : before.Holds other held)
    (apart : result = .ok () → Path.LeadApart before.workingDirectory other path) :
    after.Holds other held := by
  cases isStep with
  | directory isAbout => exact holds.of_extends (extends_perform isAbout performs)
  | write =>
      obtain ⟨failure, rfl, rfl⟩ | ⟨place, rfl, located, -, noDirectory, rfl⟩ :=
        writeText_run performs
      · exact holds
      · exact holds.of_put located noDirectory (apart rfl)

/-- A file stays through steps of stores whose paths lead elsewhere. -/
theorem Holds.of_performs {before after : Tree} {history : List (Nat × Exchange)}
    (performs : Performs fileSystem before history after) {other held : String}
    (holds : before.Holds other held)
    (apart : ∀ entry ∈ history, ∃ path text result, StoreStep path text result entry.2 ∧
      (result = .ok () → Path.LeadApart before.workingDirectory other path)) :
    after.Holds other held := by
  induction performs with
  | nil tree => exact holds
  | @cons before between after position exchange history now later ih =>
      obtain ⟨⟨path, text, result, isStep, leads⟩, rest⟩ := List.forall_mem_cons.mp apart
      have same := workingDirectory_of_perform now
      exact ih (holds.of_storeStep isStep now leads) (same ▸ rest)

end Tree

end DataAccess.Files
