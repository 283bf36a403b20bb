/-
# Path names

The normal form of the name of a file: repeated slashes count once, components that mean
the directory itself are dropped, and a name without components means the directory
itself. Components that lead to the directory above stay, because only the files can tell
where they lead. Two leading slashes are told apart from one.
-/

namespace SexpReader.Command

/-- A path: whether it starts at a root, and which, and its components. -/
structure PathName where
  root : String
  components : List String
  deriving DecidableEq, Repr

namespace PathName

/-- Cut characters at every slash. There is one part more than there are slashes. -/
def splitSlashes : List Char → List (List Char)
  | [] => [[]]
  | '/' :: chars => [] :: splitSlashes chars
  | c :: chars =>
      match splitSlashes chars with
      | [] => [[c]]
      | part :: parts => (c :: part) :: parts

/-- The root that leading slashes name: exactly two name a root of their own. -/
def rootOf : List Char → String
  | '/' :: '/' :: '/' :: _ => "/"
  | '/' :: '/' :: _ => "//"
  | '/' :: _ => "/"
  | _ => ""

/-- The normal form of a name. -/
def ofString (name : String) : PathName :=
  { root := rootOf name.toList
    components := ((splitSlashes name.toList).map String.ofList).filter
      fun component => component != "" && component != "." }

/-- The text of a path. -/
def toString (path : PathName) : String :=
  if path.root = "" && path.components.isEmpty then "."
  else path.root ++ String.intercalate "/" path.components

/-- Whether a path starts at a root and not at the working directory. -/
def isAbsolute (path : PathName) : Bool :=
  path.root != ""

end PathName

end SexpReader.Command
