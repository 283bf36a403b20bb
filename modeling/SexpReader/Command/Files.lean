/-
# Files

The files that there are, by the places where they lie, and what is found at the end of a
path: bytes, or the reason why there are none. A place is told from the working directory, or
from the root. Directories are there as far as files lie in them, and so are those on the way
up from the working directory.
-/

import SexpReader.Command.PathName
import SexpReader.Text.Literal

namespace SexpReader.Command

/-- Why a path leads to no bytes. -/
inductive FileFault
  | notFound
  | isDirectory
  | notDirectory
  | nameTooLong
  deriving DecidableEq, Repr

namespace FileFault

/-- The wording of a fault, before the path. -/
def summary : FileFault → String
  | notFound => "[Errno 2] No such file or directory"
  | isDirectory => "[Errno 21] Is a directory"
  | notDirectory => "[Errno 20] Not a directory"
  | nameTooLong => "[Errno 36] File name too long"

/-- The wording of a fault at a path. -/
def message (fault : FileFault) (path : PathName) : String :=
  fault.summary ++ ": " ++ Text.literal path.toString

end FileFault

/-- The place of a file or directory: the names of the directories on the way there and its own
name. From the working directory the way begins with two dots for every directory that it leaves,
from the root it begins with a slash. -/
abbrev Place := List String

/-- Files by their places. A file that can be reached in several ways, from the root or back into
a directory that was left, is listed under each of these places. -/
abbrev Files := List (Place × List UInt8)

namespace Place

/-- The root. -/
def root : Place := ["/"]

/-- Whether a place is reached from the working directory by leaving directories only. -/
def isAbove (place : Place) : Bool :=
  place.all (· == "..")

/-- The place one directory up. The root has none above it. -/
def up (place : Place) : Place :=
  if place.isAbove then place ++ [".."]
  else if place = root then root
  else place.dropLast

end Place

namespace Files

/-- The file at a place. -/
def fileAt? (files : Files) (place : Place) : Option (List UInt8) :=
  files.lookup place

/-- Whether a place is a directory: one from the working directory upwards, the root, or one
that leads to a file. -/
def isDirectory (files : Files) (place : Place) : Bool :=
  place.isAbove || place = Place.root || files.any fun file =>
    place.isPrefixOf file.1 && place.length < file.1.length

/-- No file has a name of more than 255 bytes. -/
def isLongName (component : String) : Bool :=
  255 < component.utf8ByteSize

/-- No path of more than 4095 bytes is looked up. -/
def isLongPath (path : PathName) : Bool :=
  4095 < path.toString.utf8ByteSize

/-- Walk along components. Only directories lead further, and a name is refused for its
length only where one is looked up in a directory. -/
def walk (files : Files) (place : Place) : List String → Except FileFault Place
  | [] => .ok place
  | component :: rest =>
      if (files.fileAt? place).isSome then .error .notDirectory
      else if component = ".." then files.walk place.up rest
      else if isLongName component then .error .nameTooLong
      else
        let next := place ++ [component]
        if (files.fileAt? next).isSome || files.isDirectory next then files.walk next rest
        else .error .notFound

/-- The bytes at the end of a path. -/
def read (files : Files) (path : PathName) : Except FileFault (List UInt8) := do
  if isLongPath path then throw .nameTooLong
  let start := if path.isAbsolute then Place.root else []
  let place ← files.walk start path.components
  match files.fileAt? place with
  | some bytes => .ok bytes
  | none => .error .isDirectory

end Files

end SexpReader.Command
