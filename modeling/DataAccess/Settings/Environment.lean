import DataAccess.Text.Alphanumeric

/-!
# References to environment variables

Texts of a configuration may refer to variables of the environment, as `${NAME}` or `$NAME`. A
dollar sign in front of anything else stands for itself. Values are put in as they are, so what
looks like a reference inside a value is not one.
-/

namespace DataAccess.Settings

/-- The values of variables. -/
abbrev Environment := String → Option String

/-- A piece of a text with references. -/
inductive Segment where
  | literal (c : Char)
  | reference (name : List Char)
  /-- A dollar sign that starts no reference. -/
  | dollar
  deriving DecidableEq

/-- The characters of the names of variables. -/
def isNameChar (c : Char) : Bool :=
  Text.isAlphanumeric c || c = '_'

/-- The pieces of a text. A reference in braces ends with the text where its brace is missing. -/
def segments : List Char → List Segment
  | [] => []
  | '$' :: '\x7b' :: rest =>
    .reference (rest.takeWhile (· ≠ '\x7d')) :: segments ((rest.dropWhile (· ≠ '\x7d')).drop 1)
  | '$' :: rest =>
    if (rest.takeWhile isNameChar).isEmpty then .dollar :: segments rest
    else .reference (rest.takeWhile isNameChar) :: segments (rest.dropWhile isNameChar)
  | c :: rest => .literal c :: segments rest
termination_by text => text.length
decreasing_by
  all_goals simp only [List.length_cons, List.length_drop]
  · have := (List.dropWhile_suffix (fun c : Char => decide (c ≠ '\x7d')) (l := rest)).length_le
    omega
  · omega
  · have := (List.dropWhile_suffix isNameChar (l := rest)).length_le
    omega
  · omega

/-- What a piece stands for; the name of a variable that is not set is the failure. -/
def Segment.value (environment : Environment) : Segment → Except String (List Char)
  | literal c => .ok [c]
  | dollar => .ok ['$']
  | reference name =>
    match environment (String.ofList name) with
    | some value => .ok value.toList
    | none => .error (String.ofList name)

/-- What the pieces stand for, one after another. -/
def valueOf (environment : Environment) : List Segment → Except String (List Char)
  | [] => .ok []
  | segment :: rest => do
    let first ← segment.value environment
    let more ← valueOf environment rest
    .ok (first ++ more)

/-- The variables that a text refers to. -/
def variablesOf (text : String) : List String :=
  (segments text.toList).filterMap fun
    | .reference name => some (String.ofList name)
    | _ => none

/-- The text with its references replaced; the first variable that is not set is the failure. -/
def expand (environment : Environment) (text : String) : Except String String :=
  (valueOf environment (segments text.toList)).map String.ofList

/-- The environment that knows the variables of the names, looked up one after another. -/
def environmentOf {m : Type → Type} [Monad m] (getVariable : String → m (Option String)) :
    List String → m Environment
  | [] => pure fun _ => none
  | name :: rest => do
    let value ← getVariable name
    let others ← environmentOf getVariable rest
    pure fun other => if other = name then value else others other

end DataAccess.Settings
