import DataAccess.Files.Failure
import DataAccess.Files.Path

/-!
# File systems

The operations on files that generation needs, over any monad, and the ones that are made of them.
-/

namespace DataAccess.Files

/-- Operations on the files of a system. -/
structure FileSystem (m : Type → Type) where
  /-- Whether there is a file or directory. -/
  isPresent : String → m Bool
  isDirectory : String → m Bool
  /-- Makes one directory in one that is there. -/
  makeDirectory : String → m (Except Failure Unit)
  readText : String → m (Except Failure String)
  /-- Writes a file, in the place of the one that is there. -/
  writeText : String → String → m (Except Failure Unit)

namespace FileSystem

variable {m : Type → Type} [Monad m]

/-- Makes a directory unless there is one. -/
def ensureDirectory (files : FileSystem m) (path : String) : m (Except Failure Unit) := do
  match ← files.makeDirectory path with
  | .ok () => pure (.ok ())
  | .error failure =>
    if ← files.isDirectory path then pure (.ok ()) else pure (.error failure)

/-- Makes the first directory of the list. Where the place for it is missing, the rest of the list,
which are the directories that it lies in, is made before it. -/
def ensureAlong (files : FileSystem m) : List String → m (Except Failure Unit)
  | [] => pure (.ok ())
  | path :: ancestors => do
    match ← files.makeDirectory path with
    | .ok () => pure (.ok ())
    | .error .notFound =>
      match ← files.ensureAlong ancestors with
      | .ok () => files.ensureDirectory path
      | .error failure => pure (.error failure)
    | .error failure =>
      if ← files.isDirectory path then pure (.ok ()) else pure (.error failure)

/-- Makes a directory and the ones that it lies in, where they are missing. The empty path is the
working directory. -/
def ensureDirectories (files : FileSystem m) (path : String) : m (Except Failure Unit) :=
  if path.isEmpty then pure (.ok ()) else files.ensureAlong (path :: Path.ancestors path)

/-- Writes a file, after making the directory that it goes to. -/
def store (files : FileSystem m) (directory path text : String) : m (Except Failure Unit) := do
  match ← files.ensureDirectories directory with
  | .ok () => files.writeText path text
  | .error failure => pure (.error failure)

end FileSystem

end DataAccess.Files
