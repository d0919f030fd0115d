import DataAccess.Files.FileSystem

/-!
# Dialogues with a file system

An action on files laid out as the operations that it asks for, one after another, and what it goes
on with after each answer. The actions of a file system are made for any monad, so they are also
actions in the monad of dialogues (`Dialogue.fileSystem`). Several dialogues can be in flight at
once; a schedule says whose operation comes next (`Dialogue.interleave`).
-/

namespace DataAccess.Files

/-- One operation on the files of a system. -/
inductive Operation where
  | isPresent (path : String)
  | isDirectory (path : String)
  | makeDirectory (path : String)
  | readText (path : String)
  | writeText (path text : String)
  deriving DecidableEq

/-- What an operation is answered with. -/
def Operation.Answer : Operation → Type
  | isPresent _ | isDirectory _ => Bool
  | makeDirectory _ | writeText _ _ => Except Failure Unit
  | readText _ => Except Failure String

/-- The operation, on the files of the given system. -/
def Operation.perform {m : Type → Type} (files : FileSystem m) :
    (operation : Operation) → m operation.Answer
  | isPresent path => files.isPresent path
  | isDirectory path => files.isDirectory path
  | makeDirectory path => files.makeDirectory path
  | readText path => files.readText path
  | writeText path text => files.writeText path text

/-- An action on files: it is over, or asks for an operation and goes on with the answer. -/
inductive Dialogue (α : Type) where
  | ended (value : α)
  | ask (operation : Operation) (next : operation.Answer → Dialogue α)

namespace Dialogue

variable {α β : Type}

/-- Goes on with what the first dialogue ends with. -/
def bind : Dialogue α → (α → Dialogue β) → Dialogue β
  | ended value, later => later value
  | ask operation next, later => ask operation fun answer => (next answer).bind later

instance : Monad Dialogue where
  pure := ended
  bind := bind

/-- The file system whose operations are asked for. -/
def fileSystem : FileSystem Dialogue where
  isPresent path := ask (.isPresent path) ended
  isDirectory path := ask (.isDirectory path) ended
  makeDirectory path := ask (.makeDirectory path) ended
  readText path := ask (.readText path) ended
  writeText path text := ask (.writeText path text) ended

/-- Whether a dialogue has nothing left to ask. -/
def hasEnded : Dialogue α → Bool
  | ended _ => true
  | ask _ _ => false

/-- Whether the dialogue at a position may go on, when `width` successive ones at most are in
flight: the ones after that wait until the first of them is over. -/
def isInFlight (width : Nat) (dialogues : List (Dialogue α)) (position : Nat) : Bool :=
  position < (dialogues.takeWhile hasEnded).length + width

section Running

variable {m : Type → Type} [Monad m] (files : FileSystem m)

/-- Performs all operations of a dialogue. -/
def finish : Dialogue α → m α
  | ended value => pure value
  | ask operation next => do
    let answer ← operation.perform files
    (next answer).finish

/-- Performs the operations of dialogues, one dialogue after another. -/
def finishAll : List (Dialogue α) → m (List α)
  | [] => pure []
  | dialogue :: rest => do
    let first ← dialogue.finish files
    let rest ← finishAll rest
    pure (first :: rest)

/-- Performs the next operation of the dialogue at a position. Nothing happens where it is over or
not in flight. -/
def advance (width position : Nat) (dialogues : List (Dialogue α)) : m (List (Dialogue α)) :=
  match dialogues[position]? with
  | some (ask operation next) =>
    if isInFlight width dialogues position then do
      let answer ← operation.perform files
      pure (dialogues.set position (next answer))
    else pure dialogues
  | _ => pure dialogues

/-- Performs operations of dialogues in the order of a schedule of their positions. -/
def interleave (width : Nat) : List Nat → List (Dialogue α) → m (List (Dialogue α))
  | [], dialogues => pure dialogues
  | position :: schedule, dialogues => do
    let dialogues ← advance files width position dialogues
    interleave width schedule dialogues

/-- Performs all operations of dialogues, first in the order of a schedule of their positions and
then one dialogue after another. -/
def runAll (width : Nat) (schedule : List Nat) (dialogues : List (Dialogue α)) : m (List α) := do
  let dialogues ← interleave files width schedule dialogues
  finishAll files dialogues

end Running

end Dialogue

end DataAccess.Files
