import DataAccess.Proofs.Generation.Accounts

/-!
# Files that a report lists

A run compares paths by their components, so of the files in one report any two have different
components. Two of them may still be one file: a path that starts with a `.` and one that does not,
or an absolute path and a relative one, can be resolved to the same components, and the later file
then replaces the earlier one (`run_overwrites`). Where the paths in a report are resolved to
different components and none goes up, each file holds the rendering of its own table
(`run_reported`).
-/

namespace DataAccess.Generation

open Catalog Database Schema Files

namespace Turns

variable {settings : Settings} {tables loaded : List Table} {before after : Tree}
  {outcomes : List Outcome} {history : List (Nat × Exchange)} {file : GeneratedFile}

/-- The turn that an outcome is the end of. -/
theorem of_outcome
    (turns : Turns Tree.fileSystem settings tables loaded before outcomes history after)
    {index : Nat} {outcome : Outcome} (found : outcomes[index]? = some outcome) :
    ∃ table final, tables[index]? = some table ∧ loaded[index]? = some final ∧
      (final.schema, final.name) = (table.schema, table.name) ∧
      Turn settings table final (IsTaken settings tables index table)
        (exchangesAt index history) outcome := by
  have inside : index < tables.length := by
    rw [← turns.sameLength]
    exact (List.getElem?_eq_some_iff.mp found).1
  obtain ⟨table, final, other, listed, loads, again, same, turn⟩ := turns.of_lt inside
  rw [found] at again
  cases again
  exact ⟨table, final, listed, loads, same, turn⟩

/-- The path of a table that was generated is not the path of an earlier one. -/
theorem components_ne
    (turns : Turns Tree.fileSystem settings tables loaded before outcomes history after)
    {early late : Nat} (order : early < late) {first second : GeneratedFile}
    (isFirst : outcomes[early]? = some (.generated first))
    (isSecond : outcomes[late]? = some (.generated second)) :
    Path.components first.path ≠ Path.components second.path := by
  obtain ⟨table, _, listed, -, -, turn⟩ := turns.of_outcome isFirst
  obtain ⟨_, _, -, -, -, next⟩ := turns.of_outcome isSecond
  obtain ⟨-, rfl, -⟩ := turn.of_generated rfl
  obtain ⟨free, rfl, -⟩ := next.of_generated rfl
  intro same
  refine free ⟨table, ?_, same⟩
  rw [List.mem_iff_getElem?]
  exact ⟨early, by rw [List.getElem?_take_of_lt order, listed]⟩

/-- Two generated files whose paths lead to different places, whichever is listed first. -/
theorem leadApart {workingDirectory : Place} {first second : GeneratedFile} {early late : Nat}
    (straight : ∀ file, .generated file ∈ outcomes → ".." ∉ Path.parts file.path)
    (apart : ∀ (early late : Nat) (first second : GeneratedFile), early < late →
      outcomes[early]? = some (.generated first) → outcomes[late]? = some (.generated second) →
        Path.resolved workingDirectory first.path ≠ Path.resolved workingDirectory second.path)
    (differ : early ≠ late) (isFirst : outcomes[early]? = some (.generated first))
    (isSecond : outcomes[late]? = some (.generated second)) :
    Path.LeadApart workingDirectory first.path second.path := by
  refine ⟨straight first (List.mem_of_getElem? isFirst),
    straight second (List.mem_of_getElem? isSecond), ?_⟩
  rcases Nat.lt_or_gt_of_ne differ with isEarlier | isLater
  · exact apart early late first second isEarlier isFirst isSecond
  · exact (apart late early second first isLater isSecond isFirst).symm

/-- **A generated file stays as it was written,** if the paths of the others lead elsewhere. -/
theorem holds (turns : Turns Tree.fileSystem settings tables loaded before outcomes history after)
    (straight : ∀ file, .generated file ∈ outcomes → ".." ∉ Path.parts file.path)
    (apart : ∀ (early late : Nat) (first second : GeneratedFile), early < late →
      outcomes[early]? = some (.generated first) → outcomes[late]? = some (.generated second) →
        Path.resolved before.workingDirectory first.path ≠
          Path.resolved before.workingDirectory second.path)
    {index : Nat} (isFile : outcomes[index]? = some (.generated file)) :
    ∃ table ∈ loaded, file = .ofTable settings table ∧
      after.Holds file.path (sourceOf settings table) := by
  obtain ⟨table, final, -, loads, same, turn⟩ := turns.of_outcome isFile
  obtain ⟨-, entry, first, shape⟩ := turn.of_generated rfl
  refine ⟨final, List.mem_of_getElem? loads, ?_, ?_⟩
  · obtain ⟨sameSchema, sameName⟩ := Prod.mk.inj same
    rw [entry, GeneratedFile.ofTable, GeneratedFile.ofTable, Table.qualifiedName,
      Table.qualifiedName, sameSchema, sameName]
  -- The file stands once it is written, and nothing that comes later leads there.
  obtain ⟨earlier, later, rfl, none⟩ := exists_of_exchangesAt_concat shape
  obtain ⟨between, started, rest⟩ := turns.performs.append
  cases rest with
  | cons _ _ now ends =>
      refine (Tree.holds_of_writeText now).of_performs ends fun entry member => ?_
      obtain ⟨other, exchange⟩ := entry
      have elsewhere : other ≠ index := by
        rintro rfl
        have own := mem_exchangesAt.mpr member
        rw [none] at own
        cases own
      let written : Nat × Exchange :=
        (index, ⟨.writeText file.path (sourceOf settings final), .ok ()⟩)
      have made : (other, exchange) ∈ earlier ++ written :: later :=
        List.mem_append_right earlier (List.mem_cons_of_mem written member)
      obtain ⟨table, last, outcome, -, -, found, -, next⟩ := turns.of_lt (turns.isListed _ made)
      obtain ⟨result, step, succeeds⟩ := next.storeStep (mem_exchangesAt.mpr made)
      refine ⟨_, _, result, step, fun done => ?_⟩
      rw [Tree.workingDirectory_of_perform now, Tree.workingDirectory_of_performs started]
      rw [succeeds done] at found
      exact leadApart straight apart elsewhere.symm isFile found

end Turns

/-- Settings that give both tables one class name, and the second one a directory of its own. -/
def sharing (directory : String) : Settings :=
  { output := { outDir := "out" }
    tables :=
      [ ("accounts", { className := some "Record" }),
        ("users", { className := some "Record", outDir := some directory }) ] }

/-- The files after the first of the two tables. -/
def afterAccounts (settings : Settings) : Tree :=
  { nodes :=
      [ (["out"], .directory),
        (["out", "Record.ts"], .file (sourceOf settings (accounts.populated people))) ] }

/-- Both tables are generated, if the second one has another path. -/
theorem run_sharing {directory path : String} {tree : Tree}
    (goes : Path.join directory "Record.ts" = path)
    (free : Path.components path ≠ Path.components "out/Record.ts")
    (stores : Tree.fileSystem.store directory path
      (sourceOf (sharing directory) (users.populated people)) (afterAccounts (sharing directory)) =
        (.ok (), tree)) :
    run Tree.fileSystem (SnapshotServer.connection { snapshot := people }) (sharing directory)
        "shop" [] {} =
      (.ok
        { generated :=
            [ { table := "shop.accounts", className := "Record", path := "out/Record.ts" },
              { table := "shop.users", className := "Record", path } ] },
        tree) := by
  have accountsPath : (sharing directory).outputPath "accounts" = "out/Record.ts" := by
    have first : (sharing directory).outDir "accounts" = "out" := rfl
    have name : (sharing directory).className "accounts" = "Record" := rfl
    rw [Settings.outputPath, first, name]
    decide
  have usersPath : (sharing directory).outputPath "users" = path := by
    have second : (sharing directory).outDir "users" = directory := rfl
    have name : (sharing directory).className "users" = "Record" := rfl
    rw [Settings.outputPath, second, name, ← goes]
    rfl
  have storesFirst : Tree.fileSystem.store "out" "out/Record.ts"
      (sourceOf (sharing directory) (accounts.populated people)) {} =
        (.ok (), afterAccounts (sharing directory)) := rfl
  have differ : Path.components ((sharing directory).outputPath "accounts") ≠
      Path.components ((sharing directory).outputPath "users") := by
    rw [accountsPath, usersPath]
    exact free.symm
  rw [run_people differ (by rw [accountsPath]; exact storesFirst) (by rw [usersPath]; exact stores)]
  simp only [renderedAs, accountsPath, usersPath]
  rfl

theorem mem_generated_iff {outcomes : List Outcome} {file : GeneratedFile} :
    file ∈ (Report.ofOutcomes outcomes).generated ↔ .generated file ∈ outcomes := by
  rw [Report.ofOutcomes, List.mem_filterMap]
  refine ⟨?_, fun member => ⟨_, member, rfl⟩⟩
  rintro ⟨outcome, member, isFile⟩
  cases outcome with
  | generated other => exact Option.some.inj isFile ▸ member
  | skipped table => cases isFile

/-- What holds of any two files of a report holds of any two outcomes that they come from. -/
theorem pairwise_generated_iff {outcomes : List Outcome}
    {relates : GeneratedFile → GeneratedFile → Prop} :
    (Report.ofOutcomes outcomes).generated.Pairwise relates ↔
      ∀ (early late : Nat) (first second : GeneratedFile), early < late →
        outcomes[early]? = some (.generated first) →
          outcomes[late]? = some (.generated second) → relates first second := by
  rw [Report.ofOutcomes, List.pairwise_filterMap, List.pairwise_iff_getElem]
  constructor
  · intro pairs early late first second before isFirst isSecond
    obtain ⟨earlyInside, earlyEq⟩ := List.getElem?_eq_some_iff.mp isFirst
    obtain ⟨lateInside, lateEq⟩ := List.getElem?_eq_some_iff.mp isSecond
    exact pairs early late earlyInside lateInside before first (by rw [earlyEq]; rfl) second
      (by rw [lateEq]; rfl)
  · intro pairs early late earlyInside lateInside before first isFirst second isSecond
    have generated {outcome : Outcome} {file : GeneratedFile}
        (isFile : outcome.generated? = some file) : outcome = .generated file := by
      cases outcome with
      | generated other => exact congrArg _ (Option.some.inj isFile)
      | skipped table => cases isFile
    refine pairs early late first second before ?_ ?_
    · rw [List.getElem?_eq_getElem earlyInside, generated isFirst]
    · rw [List.getElem?_eq_getElem lateInside, generated isSecond]

/-- **Files in one report.** Two paths in it that are resolved to the same components start
differently. Where all of them are resolved to different components and none goes up, each file
holds the rendering of its own table when the run is over. -/
theorem run_reported {schedule : List Nat} {σ : Type} {connection : Connection σ}
    {settings : Settings} {schema : String} {state : σ} {before after : Tree} {report : Report}
    (reports : runScheduled schedule Tree.fileSystem connection settings schema state before =
      (.ok report, after)) :
    report.generated.Pairwise (fun first second =>
        Path.resolved before.workingDirectory first.path =
            Path.resolved before.workingDirectory second.path →
          Path.start first.path ≠ Path.start second.path) ∧
      ((∀ file ∈ report.generated, ".." ∉ Path.parts file.path) →
        report.generated.Pairwise (fun first second =>
          Path.resolved before.workingDirectory first.path ≠
            Path.resolved before.workingDirectory second.path) →
        ∃ tables loaded final, catalogOf connection schema state = .ok (tables, loaded) final ∧
          ∀ file ∈ report.generated, ∃ table ∈ loaded, file = .ofTable settings table ∧
            after.readText file.path = .ok (sourceOf settings table)) := by
  cases gives : catalogOf connection schema state with
  | error failure final =>
      simp only [runScheduled_eq, gives] at reports
      cases reports
  | ok catalog final =>
      obtain ⟨tables, loaded⟩ := catalog
      obtain ⟨outcomes, history, _, runs, turns⟩ :=
        turns_of_catalog gives settings schedule before
      rw [runs] at reports
      cases reports
      refine ⟨pairwise_generated_iff.mpr ?_, fun straight apart => ?_⟩
      · intro early late first second earlier isFirst isSecond resolved alike
        exact turns.components_ne earlier isFirst isSecond
          (Path.components_eq_of_resolved_eq alike resolved)
      · refine ⟨tables, loaded, final, rfl, fun file member => ?_⟩
        obtain ⟨index, isFile⟩ := List.mem_iff_getElem?.mp (mem_generated_iff.mp member)
        obtain ⟨table, isTable, entry, holds⟩ :=
          turns.holds (fun file member => straight file (mem_generated_iff.mpr member))
            (pairwise_generated_iff.mp apart) isFile
        exact ⟨table, isTable, entry, holds.readText⟩

theorem run_reported_people :
    ∃ report after,
      run Tree.fileSystem (SnapshotServer.connection { snapshot := people }) (sharing "sub")
          "shop" [] {} = (.ok report, after) ∧
        report.generated.length = 2 ∧
        ∀ file ∈ report.generated, ∃ table ∈ [accounts, users].map (·.populated people),
          file = .ofTable (sharing "sub") table ∧
            after.readText file.path = .ok (sourceOf (sharing "sub") table) := by
  have reports := @run_sharing "sub" "sub/Record.ts" _ (by decide) (by decide) rfl
  obtain ⟨-, holds⟩ := run_reported reports
  obtain ⟨tables, loaded, final, gives, files⟩ := holds (by decide) (by decide)
  obtain ⟨served, gives'⟩ := catalogOf_people []
  rw [gives'] at gives
  cases gives
  exact ⟨_, _, reports, rfl, files⟩

/-- **A file can be overwritten.** Both tables are listed as generated, but their paths lead to one
file, and it holds the class of the second table. -/
theorem run_overwrites :
    ∃ (report : Report) (after : Tree) (first second : GeneratedFile),
      run Tree.fileSystem (SnapshotServer.connection { snapshot := people }) (sharing "./out")
          "shop" [] {} = (.ok report, after) ∧
        report.generated = [first, second] ∧
        Path.components first.path ≠ Path.components second.path ∧
        Path.resolved [] first.path = Path.resolved [] second.path ∧
        first = .ofTable (sharing "./out") (accounts.populated people) ∧
        after.readText first.path = .ok (sourceOf (sharing "./out") (users.populated people)) ∧
        sourceOf (sharing "./out") (users.populated people) ≠
          sourceOf (sharing "./out") (accounts.populated people) := by
  have reports := @run_sharing "./out" "./out/Record.ts" _ (by decide) (by decide) rfl
  exact ⟨_, _, _, _, reports, rfl, by decide, by decide, by decide, rfl, by decide +kernel⟩

end DataAccess.Generation
