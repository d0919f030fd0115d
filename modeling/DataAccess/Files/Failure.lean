/-!
# File failures

Why an operation on a file fails, and the words in which the operating system puts it.
-/

namespace DataAccess.Files

/-- Why an operation on a file fails. -/
inductive Failure where
  | notFound
  | alreadyExists
  | notADirectory
  | isADirectory
  | nameTooLong
  /-- A path has a zero character, which ends the names that the system takes. -/
  | zeroInName
  /-- Any other failure, in the words of the system. -/
  | other (message : String)
  deriving DecidableEq

/-- What the system says of a failure. -/
def Failure.message : Failure → String
  | notFound => "No such file or directory (os error 2)"
  | alreadyExists => "File exists (os error 17)"
  | notADirectory => "Not a directory (os error 20)"
  | isADirectory => "Is a directory (os error 21)"
  | nameTooLong => "File name too long (os error 36)"
  | zeroInName => "file name contained an unexpected NUL byte"
  | other message => message

end DataAccess.Files
