/-
# Paths

A path is a text with slashes between its parts. Paths are joined and cut as
texts; where one leads is said by the disk.

Key definitions: `Path.join`, `Path.parts`, `Path.folder`.
-/

namespace Tabletop
namespace Path

/-- The path of something within a folder. An absolute path stands for itself,
and a slash comes between the two unless the first one is empty or ends with
one. -/
def join (a b : String) : String :=
  if b.toList.head? = some '/' then b
  else if a = "" ∨ a.toList.getLast? = some '/' then a ++ b
  else a ++ "/" ++ b

/-- Splits at each slash. -/
def splitAtSlash : List Char → List (List Char)
  | [] => [[]]
  | c :: cs =>
    if c = '/' then [] :: splitAtSlash cs
    else
      match splitAtSlash cs with
      | [] => [[c]]
      | p :: ps => (c :: p) :: ps

/-- The parts of a path between the slashes. -/
def parts (path : String) : List String :=
  (splitAtSlash path.toList).map String.ofList

/-- Whether a path leads from the root. -/
def isAbsolute (path : String) : Bool :=
  path.toList.head? = some '/'

/-- The parts that name something: neither empty nor a single dot. -/
def names (path : String) : List String :=
  (parts path).filter fun p => p != "" && p != "."

/-- The folder that holds what a path names: the path without its last name,
or the working folder. -/
def folder (path : String) : String :=
  match (names path).dropLast with
  | [] => if isAbsolute path then "/" else "."
  | ps =>
    let joined := "/".intercalate ps
    if isAbsolute path then "/" ++ joined else joined

end Path
end Tabletop
