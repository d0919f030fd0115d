import DataAccess.CommandLine.Commands

/-!
# The program

Runs the command line on the files and the environment of the process.
-/

namespace DataAccess.CommandLine

open Files

/-- Whether the code of a failure, which may be negated, is the one of the system. -/
def isCode (code : UInt32) (number : UInt32) : Bool :=
  code == number || code == 0 - number

def failureOf : IO.Error → Failure
  | .noFileOrDirectory _ _ _ => .notFound
  | .alreadyExists _ _ _ => .alreadyExists
  | .inappropriateType _ code details =>
    if isCode code 20 then .notADirectory
    else if isCode code 21 then .isADirectory
    else .other details
  | .invalidArgument _ code details =>
    if isCode code 36 then .nameTooLong
    else if isCode code 22 then .zeroInName
    else .other details
  | .permissionDenied _ code details | .resourceExhausted _ code details =>
    .other (details ++ " (os error " ++ toString code ++ ")")
  | failure => .other (toString failure)

def attempt {α : Type} (operation : IO α) : IO (Except Failure α) := do
  try
    let value ← operation
    pure (.ok value)
  catch failure => pure (.error (failureOf failure))

/-- Whether an operation of the system says that there is nothing at its path. -/
def findsNothing {α : Type} : Except Failure α → Bool
  | .error .notFound | .error .notADirectory | .error .nameTooLong | .error .zeroInName => true
  | _ => false

def processFiles : FileSystem IO where
  isPresent path := do
    let opened ← attempt (IO.FS.Handle.mk path .read)
    pure (!findsNothing opened)
  isDirectory path := do
    let read ← attempt do
      let handle ← IO.FS.Handle.mk path .read
      handle.read 1
    pure (match read with
      | .error .isADirectory => true
      | _ => false)
  makeDirectory path := attempt (IO.FS.createDir path)
  readText path := do
    match ← attempt (IO.FS.readBinFile path) with
    | .error failure => pure (.error failure)
    | .ok bytes =>
      match String.fromUTF8? bytes with
      | some text => pure (.ok text)
      | none => pure (.error (.other "stream did not contain valid UTF-8"))
  writeText path text := attempt (IO.FS.writeFile path text)

def processHost : Host IO where
  files := processFiles
  getVariable name := IO.getEnv name

end DataAccess.CommandLine

/-- Runs the program with the arguments of the process. -/
def main (arguments : List String) : IO UInt32 := do
  let ending ← DataAccess.CommandLine.program DataAccess.CommandLine.processHost arguments
  IO.print ending.output
  IO.eprint ending.errors
  pure ending.code
