/-
  Criteria/Directory.lean
  =======================
  **A directory of files.**  Files are found by paths, which are names between
  slashes.  A path goes through folders only: two points lead out of one, one
  point or nothing between two slashes stays in it, and a path that ends so, or
  that leaves the directory, leads to no file.
-/
namespace Criteria

/-- The files of a directory, by their paths, and the folders there are besides those of files. -/
structure Directory where
  files : List (List Char × List Char)
  folders : List (List Char) := []

namespace Directory

/-! ### Paths -/

def names : List Char → List (List Char)
  | [] => [[]]
  | c :: cs =>
    if c = '/' then [] :: names cs
    else match names cs with
      | [] => [[c]]
      | p :: ps => (c :: p) :: ps

/-- A name that stays where it is. -/
def stays (name : List Char) : Bool := name = [] || name = ['.']

/-- A name that leads out of a folder. -/
def leaves (name : List Char) : Bool := name = ['.', '.']

def location (path : List Char) : List (List Char) := (names path).filter fun n => !stays n

/-- The names of a path with an extension after the last one; slashes and single points at its end
    are dropped.  A path without a name at its end has none. -/
def withExtension? (extension path : List Char) : Option (List (List Char)) :=
  match (names path).reverse.dropWhile stays with
  | [] => none
  | n :: ns => if leaves n then none else some ((n ++ '.' :: extension) :: ns).reverse

/-- What follows the last point of a path, if something stands before it in its last name. -/
def extension? (path : List Char) : Option (List Char) :=
  let name := ((names path).getLast?.getD []).reverse
  let rest := name.dropWhile (· ≠ '.')
  if rest.length ≤ 1 then none else some (name.takeWhile (· ≠ '.')).reverse

/-! ### Files -/

def isFolder (d : Directory) (place : List (List Char)) : Bool :=
  place.isEmpty || (d.folders.any fun f => place.isPrefixOf (location f))
    || d.files.any fun f => place.isPrefixOf (location f.1).dropLast

def follow (d : Directory) (place : List (List Char)) :
    List (List Char) → Option (List (List Char))
  | [] => some place
  | n :: ns =>
    if !d.isFolder place then none
    else if stays n then d.follow place ns
    else if leaves n then (if place.isEmpty then none else d.follow place.dropLast ns)
    else d.follow (place ++ [n]) ns

def text? (d : Directory) (ns : List (List Char)) : Option (List Char) :=
  (d.follow [] ns).bind fun place =>
    (d.files.map fun f => (location f.1, f.2)).lookup place

def file? (d : Directory) (path : List Char) : Option (List Char) :=
  if path.head? == some '/' then none else d.text? (names path)

/-- The text of the file at a path with an extension after it. -/
def extended? (d : Directory) (path extension : List Char) : Option (List Char) :=
  if path.head? == some '/' then none
  else (withExtension? extension path).bind fun ns => d.text? ns

end Directory

end Criteria
