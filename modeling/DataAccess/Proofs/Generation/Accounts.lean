import DataAccess.Proofs.Catalog.Captured
import DataAccess.Proofs.Generation.Turns
import DataAccess.Proofs.Text.Splitting

/-!
# Accounts of runs

A run that ends with a report has accounted for every table: there is one entry for each, in the
order of the listing, and it follows from what the attempt to write its file found
(`runScheduled_accounts`). Attempts meet in the files only. One that fails may leave directories
behind, and nothing else (`Turns.leavesAlone`), but a directory can stand where the file of another
table goes (`run_blocks`).
-/

namespace DataAccess.Generation

open Catalog Database Schema Files

/-- **A run accounts for every table,** in whatever order the operations of the attempts in flight
come. Where the catalog cannot be listed or loaded, the run fails with that failure and leaves the
files as they were. Otherwise it gives a report with one entry for each table, in the order of the
listing, and each entry follows from what its own attempt found. An attempt affects the other
entries only through the files: if it leaves them alone, the others can be had without it. -/
theorem runScheduled_accounts {World σ : Type} (schedule : List Nat)
    (files : FileSystem (StateM World))
    (connection : Connection σ) (settings : Settings) (schema : String) (state : σ)
    (world : World) :
    match catalogOf connection schema state with
    | .error failure _ =>
      runScheduled schedule files connection settings schema state world =
        (.error failure, world)
    | .ok (tables, loaded) _ =>
      ∃ report outcomes history after,
        runScheduled schedule files connection settings schema state world =
          (.ok report, after) ∧
        report.generated = outcomes.filterMap Outcome.generated? ∧
        report.skipped = outcomes.filterMap Outcome.skipped? ∧
        report.generated.length + report.skipped.length = tables.length ∧
        Turns files settings tables loaded world outcomes history after := by
  cases gives : catalogOf connection schema state with
  | error failure final => simp only [runScheduled_eq, gives]
  | ok catalog final =>
      obtain ⟨outcomes, history, after, runs, turns⟩ :=
        turns_of_catalog gives settings schedule world
      exact ⟨.ofOutcomes outcomes, outcomes, history, after, runs, rfl, rfl,
        (Report.length_ofOutcomes outcomes).trans turns.sameLength, turns⟩

/-- The entry of a table that was generated. -/
def GeneratedFile.ofTable (settings : Settings) (table : Table) : GeneratedFile :=
  { table := table.qualifiedName
    className := settings.className table.name
    path := settings.outputPath table.name }

section Turn

variable {settings : Settings} {table loaded : Table} {isTaken : Prop}
  {exchanges : List Exchange} {outcome : Outcome} {file : GeneratedFile}

/-- A table is only generated if its path is free, and its file is written last. -/
theorem Turn.of_generated (turn : Turn settings table loaded isTaken exchanges outcome)
    (generated : outcome = .generated file) :
    ¬ isTaken ∧ file = .ofTable settings table ∧
      ∃ first, exchanges =
        first ++ [⟨.writeText file.path (sourceOf settings loaded), .ok ()⟩] := by
  have free : ¬ isTaken := by
    intro taken
    have skipped := (turn.skips taken).2
    rw [generated] at skipped
    cases skipped
  obtain ⟨result, stores, isGenerated, failed⟩ := turn.attempts free
  cases result with
  | error failure =>
      have skipped := failed failure rfl
      rw [generated] at skipped
      cases skipped
  | ok done =>
      have entry := isGenerated.mpr rfl
      rw [generated] at entry
      cases entry
      obtain ⟨first, -, ⟨-, failed⟩ | shape⟩ := Dialogue.follows_store stores
      · exact absurd rfl failed
      · exact ⟨free, rfl, first, shape⟩

/-- The operations that are made for a table are steps of a store, and where they succeed the table
is generated. -/
theorem Turn.storeStep (turn : Turn settings table loaded isTaken exchanges outcome)
    {exchange : Exchange} (member : exchange ∈ exchanges) :
    ∃ result, StoreStep (settings.outputPath table.name) (sourceOf settings loaded) result
        exchange ∧
      (result = .ok () → outcome = .generated (.ofTable settings table)) := by
  have free : ¬ isTaken := by
    intro taken
    rw [(turn.skips taken).1] at member
    cases member
  obtain ⟨result, stores, isGenerated, -⟩ := turn.attempts free
  exact ⟨result, storeStep_of_follows stores member, isGenerated.mpr⟩

end Turn

namespace Turns

variable {settings : Settings} {tables loaded : List Table} {before after : Tree}
  {outcomes : List Outcome} {history : List (Nat × Exchange)}

/-- The turn of a table of the listing, with the outcome that it ends with. -/
theorem of_lt (turns : Turns Tree.fileSystem settings tables loaded before outcomes history after)
    {index : Nat} (inside : index < tables.length) :
    ∃ table final outcome, tables[index]? = some table ∧ loaded[index]? = some final ∧
      outcomes[index]? = some outcome ∧
      (final.schema, final.name) = (table.schema, table.name) ∧
      Turn settings table final (IsTaken settings tables index table)
        (exchangesAt index history) outcome := by
  have names := congrArg (·[index]?) turns.sameNames
  rw [List.getElem?_map, List.getElem?_map, List.getElem?_eq_getElem inside,
    Option.map_some, Option.map_eq_some_iff] at names
  obtain ⟨final, loads, same⟩ := names
  have listed := List.getElem?_eq_getElem inside
  obtain ⟨outcome, found, turn⟩ := turns.turn index _ final listed loads
  exact ⟨_, final, outcome, listed, loads, found, same, turn⟩

/-- **A failed attempt leaves nothing but directories behind.** Where it makes none, it leaves the
files alone. -/
theorem leavesAlone
    (turns : Turns Tree.fileSystem settings tables loaded before outcomes history after)
    {index : Nat} (failed : ∀ file, outcomes[index]? ≠ some (.generated file))
    (noDirectory : ∀ path, (index, ⟨.makeDirectory path, .ok ()⟩) ∉ history) :
    LeavesAlone Tree.fileSystem before history index := by
  rintro earlier exchange later between rfl performs
  have made : (index, exchange) ∈ earlier ++ (index, exchange) :: later := by simp
  obtain ⟨table, final, outcome, -, -, found, -, turn⟩ := turns.of_lt (turns.isListed _ made)
  obtain ⟨result, step, succeeds⟩ := turn.storeStep (mem_exchangesAt.mpr made)
  obtain ⟨state, same, rest⟩ := turns.performs.append
  obtain rfl := performs.unique same
  cases rest with
  | cons _ _ now _ =>
      rw [now]
      refine Tree.unchanged_of_storeStep step now (fun path => ?_) fun done => ?_
      · rintro rfl
        exact noDirectory path made
      · rw [succeeds done] at found
        exact failed _ found

end Turns

theorem catalogOf_gives {snapshot : Snapshot} (distinct : snapshot.DistinctTables)
    (schema : String) :
    Gives (catalogOf (SnapshotServer.connection { snapshot }) schema)
      ((snapshot.listed schema).map (·.bare),
        (snapshot.listed schema).map (·.populated snapshot)) := by
  have single (source : SnapshotTable) (member : source ∈ snapshot.listed schema) :
      snapshot.tablesNamed source.schema source.name = [source] :=
    distinct.tablesNamed (Snapshot.mem_listed.mp member).1
  exact (listTables_gives schema).bind ((populateAll_gives single).bind (gives_pure _))

def accounts : SnapshotTable := { schema := "shop", name := "accounts" }

def users : SnapshotTable := { schema := "shop", name := "users" }

def people : Snapshot := { tables := [accounts, users] }

theorem catalogOf_people :
    Gives (catalogOf (SnapshotServer.connection { snapshot := people }) "shop")
      ([accounts, users].map (·.bare), [accounts, users].map (·.populated people)) := by
  have listed : people.listed "shop" = [accounts, users] :=
    List.mergeSort_of_pairwise (by decide)
  rw [← listed]
  exact catalogOf_gives (by decide) "shop"

/-- The class of a table with the name, ready to be written. -/
def renderedAs (settings : Settings) (name : String) (table : Table) : RenderedClass :=
  { table := "shop." ++ name
    className := settings.className name
    source := sourceOf settings table
    directory := settings.outDir name
    path := settings.outputPath name }

theorem ofTable_eq_renderedAs (settings : Settings) {name : String} {table : Table}
    (isNamed : (table.schema, table.name) = ("shop", name)) :
    RenderedClass.ofTable settings table = renderedAs settings name table := by
  obtain ⟨sameSchema, rfl⟩ := Prod.mk.inj isNamed
  rw [RenderedClass.ofTable, Table.qualifiedName, sameSchema]
  rfl

/-- A run over both tables, if they have different paths. -/
theorem run_people {settings : Settings} {between after : Tree} {first second : Except Failure Unit}
    (differ : Path.components (settings.outputPath "accounts") ≠
      Path.components (settings.outputPath "users"))
    (storesFirst : Tree.fileSystem.store (settings.outDir "accounts")
      (settings.outputPath "accounts") (sourceOf settings (accounts.populated people)) {} =
        (first, between))
    (storesSecond : Tree.fileSystem.store (settings.outDir "users") (settings.outputPath "users")
      (sourceOf settings (users.populated people)) between = (second, after)) :
    run Tree.fileSystem (SnapshotServer.connection { snapshot := people }) settings "shop" [] {} =
      (.ok (.ofOutcomes
        [ (renderedAs settings "accounts" (accounts.populated people)).outcome first,
          (renderedAs settings "users" (users.populated people)).outcome second ]), after) := by
  have free : [Path.components (settings.outputPath "accounts")].contains
      (Path.components (settings.outputPath "users")) = false := by
    simpa using Ne.symm differ
  let early := renderedAs settings "accounts" (accounts.populated people)
  let late := renderedAs settings "users" (users.populated people)
  have claimed : claims [early, late] =
      [{ rendered := early, isFirst := true }, { rendered := late, isFirst := true }] := by
    simp only [claims, claimFrom, early, late, renderedAs, free]
    rfl
  have storesEarly : Tree.fileSystem.store early.directory early.path early.source {} =
      (first, between) := by
    simp only [early, renderedAs, storesFirst]
  have storesLate : Tree.fileSystem.store late.directory late.path late.source between =
      (second, after) := by
    simp only [late, renderedAs, storesSecond]
  obtain ⟨served, gives⟩ := catalogOf_people []
  rw [run, runScheduled_eq, gives]
  simp only [List.map_cons, List.map_nil]
  rw [@ofTable_eq_renderedAs settings "accounts" _ rfl,
    @ofTable_eq_renderedAs settings "users" _ rfl, claimed, writeAll_store _ early storesEarly, writeAll_store _ late storesLate]
  rfl

/-- A class name of as many letters. -/
def letters (count : Nat) : String := String.ofList (List.replicate count 'A')

/-- Settings with a class name of as many letters for the first table, and with the file of the
second table where the directory of the first one goes. -/
def blocking (count : Nat) : Settings :=
  { tables :=
      [ ("accounts", { className := some (letters count), outDir := some "out/Record.ts" }),
        ("users", { className := some "Record", outDir := some "out" }) ] }

theorem outputPath_users (count : Nat) : (blocking count).outputPath "users" = "out/Record.ts" := by
  have directory : (blocking count).outDir "users" = "out" := rfl
  have name : (blocking count).className "users" = "Record" := rfl
  rw [Settings.outputPath, directory, name]
  decide

/-- The files after the attempt to write the first table. -/
def afterDirectory : Tree :=
  { nodes := [(["out"], .directory), (["out", "Record.ts"], .directory)] }

section LongNames

variable {name : String} (noSlash : '/' ∉ name.toList)

include noSlash

theorem join_of_notMem : Path.join "out/Record.ts" name = "out/Record.ts/" ++ name := by
  have relative : Path.isAbsolute name = false := by
    rw [Path.isAbsolute, beq_eq_false_iff_ne]
    exact fun starts => noSlash (List.mem_of_mem_head? starts)
  rw [Path.join, relative, if_neg Bool.false_ne_true, if_neg (by decide)]
  apply String.toList_injective
  simp

theorem parts_of_notMem (filled : name ≠ "") :
    Path.parts ("out/Record.ts/" ++ name) = ["out", "Record.ts", name] := by
  have split : Text.splitAt '/' ("out/Record.ts/" ++ name).toList =
      Text.splitAt '/' "out/Record.ts".toList ++ Text.splitAt '/' name.toList := by
    rw [← Text.splitAt_append, String.toList_append]
    rfl
  have front : Text.splitAt '/' "out/Record.ts".toList = ["out".toList, "Record.ts".toList] := by
    decide
  rw [Path.parts, split, front, Text.splitAt_of_notMem noSlash]
  simp [filled]

/-- A file with too long a name is not written into a directory that is there. -/
theorem locate_of_long (noZero : '\x00' ∉ name.toList) (long : 255 < name.utf8ByteSize)
    (short : name.utf8ByteSize ≤ 4000) :
    afterDirectory.locate ("out/Record.ts/" ++ name) = .error .nameTooLong := by
  have differs (other : String) (few : other.utf8ByteSize ≤ 2) : name ≠ other := by
    rintro rfl
    omega
  have noZeros : ("out/Record.ts/" ++ name).toList.contains '\x00' = false := by
    simp [noZero]
  have size : ("out/Record.ts/" ++ name).utf8ByteSize = 14 + name.utf8ByteSize := by
    rw [String.utf8ByteSize_append]
    rfl
  have relative : Path.isAbsolute ("out/Record.ts/" ++ name) = false := by
    simp [Path.isAbsolute]
  have walked : afterDirectory.walk afterDirectory.workingDirectory ["out", "Record.ts", name] =
      afterDirectory.walk ["out", "Record.ts"] [name] := rfl
  have entered : afterDirectory.enter ["out", "Record.ts"] name = .error .nameTooLong := by
    have directory : afterDirectory.node? ["out", "Record.ts"] = some .directory := rfl
    rw [Tree.enter, directory]
    simp [differs "." (by decide), differs ".." (by decide), Tree.maxNameBytes, long]
  rw [Tree.locate, noZeros, if_neg Bool.false_ne_true, if_neg (by simp),
    if_neg (by rw [size, Tree.maxPathBytes]; omega), relative, if_neg Bool.false_ne_true,
    parts_of_notMem noSlash (differs "" (by decide)), walked, Tree.walk, entered]
  rfl

end LongNames

theorem utf8ByteSize_letters (count : Nat) : (letters count).utf8ByteSize = count := by
  induction count with
  | zero => rfl
  | succ count ih =>
      have shape : letters (count + 1) = "A" ++ letters count := by
        apply String.toList_injective
        simp [letters, List.replicate_succ]
      rw [shape, String.utf8ByteSize_append, ih, Nat.add_comm]
      rfl

theorem notMem_letters {c : Char} (other : c ∉ 'A' :: ".ts".toList) (count : Nat) :
    c ∉ (letters count ++ ".ts").toList := by
  rw [List.mem_cons, not_or] at other
  rw [letters, String.toList_append, String.toList_ofList, List.mem_append, not_or]
  exact ⟨fun member => other.1 (List.eq_of_mem_replicate member), other.2⟩

/-- With 253 letters and its ending, the name of a file is one byte too long. -/
theorem store_letters (text : String) {count : Nat} (long : 252 < count) (short : count ≤ 3997) :
    Tree.fileSystem.store "out/Record.ts" (Path.join "out/Record.ts" (letters count ++ ".ts"))
      text {} = (.error .nameTooLong, afterDirectory) := by
  have size : (letters count ++ ".ts").utf8ByteSize = count + 3 := by
    rw [String.utf8ByteSize_append, utf8ByteSize_letters]
    rfl
  have noSlash : '/' ∉ (letters count ++ ".ts").toList := notMem_letters (by decide) count
  have located := locate_of_long noSlash (notMem_letters (by decide) count) (by omega) (by omega)
  have ensured : Tree.fileSystem.ensureDirectories "out/Record.ts" {} =
      (.ok (), afterDirectory) := rfl
  rw [join_of_notMem noSlash]
  simp only [FileSystem.store, bind, StateT.bind, ensured]
  simp only [Tree.fileSystem, Tree.changing, Tree.writeText, located, bind, Except.bind]

/-- The file in the directory has another path than the directory. -/
theorem components_letters (count : Nat) :
    Path.components (Path.join "out/Record.ts" (letters count ++ ".ts")) ≠
      Path.components "out/Record.ts" := by
  have noSlash : '/' ∉ (letters count ++ ".ts").toList := notMem_letters (by decide) count
  have filled : letters count ++ ".ts" ≠ "" := by simp
  have relative : Path.isAbsolute ("out/Record.ts/" ++ (letters count ++ ".ts")) = false := by
    simp [Path.isAbsolute]
  have named : letters count ++ ".ts" ≠ "." := by
    intro same
    have sizes := congrArg String.utf8ByteSize same
    rw [String.utf8ByteSize_append] at sizes
    have ending : ".ts".utf8ByteSize = 3 := rfl
    have dot : ".".utf8ByteSize = 1 := rfl
    omega
  have inside : Path.components ("out/Record.ts/" ++ (letters count ++ ".ts")) =
      [.named "out", .named "Record.ts", Path.componentOf (letters count ++ ".ts")] := by
    rw [Path.components, relative, parts_of_notMem noSlash filled]
    simp [Path.innerComponents, Path.componentOf, named]
  have directory : Path.components "out/Record.ts" = [.named "out", .named "Record.ts"] := rfl
  rw [join_of_notMem noSlash, inside, directory]
  simp

/-- A run over the second table alone writes its file. -/
theorem run_users (count : Nat) :
    ∃ after,
      run Tree.fileSystem (SnapshotServer.connection { snapshot := { tables := [users] } })
          (blocking count) "shop" [] {} =
        (.ok { generated := [.ofTable (blocking count) (users.populated people)] }, after) := by
  have listed : Snapshot.listed { tables := [users] } "shop" = [users] :=
    List.mergeSort_of_pairwise (by decide)
  obtain ⟨served, gives⟩ := @catalogOf_gives { tables := [users] } (by decide) "shop" []
  rw [listed] at gives
  let only := renderedAs (blocking count) "users" (users.populated { tables := [users] })
  have storesAt (text : String) : Tree.fileSystem.store "out" "out/Record.ts" text {} =
      (.ok (), { nodes := [(["out"], .directory), (["out", "Record.ts"], .file text)] }) := rfl
  have directory : only.directory = "out" := rfl
  have path : only.path = "out/Record.ts" := outputPath_users count
  have stores : Tree.fileSystem.store only.directory only.path only.source {} =
      (.ok (),
        { nodes := [(["out"], .directory), (["out", "Record.ts"], .file only.source)] }) := by
    rw [directory, path]
    exact storesAt only.source
  have claimed : claims [only] = [{ rendered := only, isFirst := true }] := rfl
  rw [run, runScheduled_eq, gives]
  simp only [List.map_cons, List.map_nil]
  rw [@ofTable_eq_renderedAs (blocking count) "users" _ rfl, claimed, writeAll_store _ only stores]
  exact ⟨_, rfl⟩

/-- A run over both tables writes neither of them. -/
theorem run_blocking {count : Nat} (long : 252 < count) (short : count ≤ 3997) :
    run Tree.fileSystem (SnapshotServer.connection { snapshot := people }) (blocking count)
        "shop" [] {} =
      (.ok
        { skipped :=
            [ { table := "shop.accounts"
                reason :=
                  (blocking count).outputPath "accounts" ++ ": " ++ Failure.nameTooLong.message },
              { table := "shop.users"
                reason := "out/Record.ts" ++ ": " ++ Failure.isADirectory.message } ] },
        afterDirectory) := by
  have storesSecond (text : String) : Tree.fileSystem.store "out" "out/Record.ts" text
      afterDirectory = (.error .isADirectory, afterDirectory) := rfl
  have path := outputPath_users count
  have differ : Path.components ((blocking count).outputPath "accounts") ≠
      Path.components ((blocking count).outputPath "users") := by
    rw [path]
    exact components_letters count
  rw [run_people differ (store_letters _ long short) (by rw [path]; exact storesSecond _),
    ← path]
  rfl

/-- **A failed write can cost another table its file.** The file of the first table cannot be
written, but a directory was made for it, and it stands where the file of the second table goes.
Without the first table, the second one is generated. -/
theorem run_blocks :
    ∃ (report alone : Report) (after final : Tree) (first second : SkippedTable),
      run Tree.fileSystem (SnapshotServer.connection { snapshot := people }) (blocking 253)
          "shop" [] {} = (.ok report, after) ∧
        report.generated = [] ∧ report.skipped = [first, second] ∧
        first.table = "shop.accounts" ∧
        first.reason =
          (blocking 253).outputPath "accounts" ++ ": " ++ "File name too long (os error 36)" ∧
        second.table = "shop.users" ∧
        second.reason = "out/Record.ts" ++ ": " ++ "Is a directory (os error 21)" ∧
      run Tree.fileSystem (SnapshotServer.connection { snapshot := { tables := [users] } })
          (blocking 253) "shop" [] {} = (.ok alone, final) ∧
        alone.generated = [.ofTable (blocking 253) (users.populated people)] ∧
        alone.skipped = [] := by
  obtain ⟨final, alone⟩ := run_users 253
  exact ⟨_, _, _, final, _, _, run_blocking (by decide) (by decide), rfl, rfl, rfl, rfl, rfl, rfl,
    alone, rfl, rfl⟩

end DataAccess.Generation
