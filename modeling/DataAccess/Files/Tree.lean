import DataAccess.Files.FileSystem

/-!
# File trees

A file system that is a value: what stands at each place below the root, and a working directory.
Operations fail in the same ways as those of an operating system without permissions and links.
-/

namespace DataAccess.Files

/-- What stands at a place. -/
inductive Node where
  | directory
  | file (text : String)
  deriving DecidableEq

/-- A place: the names that lead to it from the root. -/
abbrev Place := List String

/-- The files and directories of a system. -/
structure Tree where
  /-- What stands at the places below the root; the root itself is a directory. -/
  nodes : List (Place × Node) := []
  workingDirectory : Place := []
  deriving DecidableEq

namespace Tree

/-- The longest name of a file in bytes. -/
def maxNameBytes : Nat := 255

/-- The longest path in bytes. -/
def maxPathBytes : Nat := 4095

/-- What stands at a place. -/
def node? (tree : Tree) (place : Place) : Option Node :=
  if place.isEmpty then some .directory
  else (tree.nodes.find? fun entry => entry.1 == place).map Prod.snd

/-- The tree with a node at a place, instead of the one that stood there. -/
def put (tree : Tree) (place : Place) (node : Node) : Tree :=
  if tree.nodes.any fun entry => entry.1 == place then
    { tree with
      nodes := tree.nodes.map fun entry => if entry.1 == place then (place, node) else entry }
  else { tree with nodes := tree.nodes ++ [(place, node)] }

/-- The place that a name leads to from another place, which has to be a directory. -/
def enter (tree : Tree) (place : Place) (name : String) : Except Failure Place :=
  match tree.node? place with
  | none => .error .notFound
  | some (.file _) => .error .notADirectory
  | some .directory =>
    if name = "." then .ok place
    else if name = ".." then .ok place.dropLast
    else if maxNameBytes < name.utf8ByteSize then .error .nameTooLong
    else .ok (place ++ [name])

/-- The place that names lead to, one after another. -/
def walk (tree : Tree) : Place → List String → Except Failure Place
  | place, [] => .ok place
  | place, name :: rest => do
    let next ← tree.enter place name
    tree.walk next rest

/-- The place of a path. All of it but the last name has to lead through directories. -/
def locate (tree : Tree) (path : String) : Except Failure Place :=
  if path.toList.contains '\x00' then .error .zeroInName
  else if path.isEmpty then .error .notFound
  else if maxPathBytes < path.utf8ByteSize then .error .nameTooLong
  else tree.walk (if Path.isAbsolute path then [] else tree.workingDirectory) (Path.parts path)

/-- What stands at the place of a path. With a slash at its end it has to be a directory. -/
def look (tree : Tree) (path : String) : Except Failure Node := do
  let place ← tree.locate path
  match tree.node? place with
  | none => .error .notFound
  | some (.file text) =>
    if Path.endsInSlash path then .error .notADirectory else .ok (.file text)
  | some .directory => .ok .directory

/-- Reads the text of a file. -/
def readText (tree : Tree) (path : String) : Except Failure String := do
  match ← tree.look path with
  | .directory => .error .isADirectory
  | .file text => .ok text

/-- Makes a directory where nothing stands. -/
def makeDirectory (tree : Tree) (path : String) : Except Failure Tree := do
  let place ← tree.locate path
  match tree.node? place with
  | none => .ok (tree.put place .directory)
  | some _ => .error .alreadyExists

/-- Writes a file, in place of one that stands there. -/
def writeText (tree : Tree) (path text : String) : Except Failure Tree := do
  let place ← tree.locate path
  if Path.endsInSlash path then .error .isADirectory
  else
    match tree.node? place with
    | some .directory => .error .isADirectory
    | _ => .ok (tree.put place (.file text))

/-- The tree with a directory below the working directory, and all that it lies in. -/
def addDirectory (tree : Tree) (names : List String) : Tree :=
  let place := tree.workingDirectory ++ names
  (List.range place.length).foldl
    (fun tree count => tree.put (place.take (count + 1)) .directory) tree

/-- The tree with a file below the working directory, and all directories that it lies in. -/
def addFile (tree : Tree) (names : List String) (text : String) : Tree :=
  (tree.addDirectory names.dropLast).put (tree.workingDirectory ++ names) (.file text)

/-- What stands below the working directory and did not stand there before, by its path; the path
of a directory ends in a slash. -/
def changesSince (before after : Tree) : List (String × Node) :=
  after.nodes.filterMap fun (place, node) =>
    if after.workingDirectory.isPrefixOf place && before.node? place != some node then
      let path := Text.joinWith "/" (place.drop after.workingDirectory.length)
      some (if node = .directory then path ++ "/" else path, node)
    else none

/-- A change as an action; where it fails, the tree stays as it is. -/
def changing (change : Tree → Except Failure Tree) : StateM Tree (Except Failure Unit) :=
  fun tree =>
  match change tree with
  | .ok changed => (.ok (), changed)
  | .error failure => (.error failure, tree)

/-- The operations on files as changes of the tree. -/
def fileSystem : FileSystem (StateM Tree) where
  isPresent path := fun tree => ((tree.look path).isOk, tree)
  isDirectory path := fun tree =>
    ((match tree.look path with
      | .ok .directory => true
      | _ => false), tree)
  makeDirectory path := changing fun tree => tree.makeDirectory path
  readText path := fun tree => (tree.readText path, tree)
  writeText path text := changing fun tree => tree.writeText path text

end Tree

end DataAccess.Files
