import DataAccess.Text.Basic

/-!
# Paths

Paths are texts with `/` between their components. Two paths with the same components are the same
path: repeated and trailing slashes count for nothing, and neither does `.` except at the start of
a relative path. No component is resolved, so `./a` and `a` are two paths.
-/

namespace DataAccess.Files

/-- A component of a path. -/
inductive Component where
  /-- The slash that an absolute path starts with. -/
  | root
  /-- The `.` that a relative path starts with. -/
  | here
  | parent
  | named (name : String)
  deriving DecidableEq

/-- How a component is written. -/
def Component.text : Component → String
  | root => ""
  | here => "."
  | parent => ".."
  | named name => name

namespace Path

/-- The texts between the slashes of a path, without the empty ones. -/
def parts (path : String) : List String :=
  ((Text.splitAt '/' path.toList).filter fun part => !part.isEmpty).map String.ofList

/-- Whether a path begins at the root. -/
def isAbsolute (path : String) : Bool :=
  path.toList.head? == some '/'

/-- Whether a path can only be that of a directory. -/
def endsInSlash (path : String) : Bool :=
  path.toList.getLast? == some '/'

/-- The component that a part of a path stands for. -/
def componentOf (part : String) : Component :=
  if part = ".." then .parent else .named part

/-- The components of the parts that come after the start of a path. -/
def innerComponents (parts : List String) : List Component :=
  (parts.filter (· ≠ ".")).map componentOf

/-- The components of a path. Empty parts are none, and the current directory counts at the
beginning only. -/
def components (path : String) : List Component :=
  if isAbsolute path then .root :: innerComponents (parts path)
  else
    match parts path with
    | "." :: rest => .here :: innerComponents rest
    | parts => innerComponents parts

/-- Whether two paths are the same as far as their components tell. -/
def same (left right : String) : Bool :=
  components left == components right

/-- The path of a file in a directory; an absolute path stays as it is. -/
def join (directory file : String) : String :=
  if isAbsolute file then file
  else if directory.isEmpty || endsInSlash directory then directory ++ file
  else directory ++ "/" ++ file

/-- The path of components. -/
def ofComponents : List Component → String
  | [.root] => "/"
  | components => Text.joinWith "/" (components.map Component.text)

/-- The directories that a path lies in, the nearest one first, down to its first component. -/
def ancestors (path : String) : List String :=
  let components := components path
  ((List.range components.length).drop 1).reverse.map fun count =>
    ofComponents (components.take count)

theorem same_iff (left right : String) :
    same left right = true ↔ components left = components right := by
  simp [same]

theorem join_of_isAbsolute (directory file : String) (absolute : isAbsolute file = true) :
    join directory file = file := by
  simp [join, absolute]

end Path

end DataAccess.Files
