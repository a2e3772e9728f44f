/-
Folders: a tree of directories and files, from its root on. Files and directories are kept
by location, the list of names that lead to them from the root; where a written path leads is
decided by following its pieces through the tree.
-/

import CrateMetrics.Path

namespace CrateMetrics

abbrev Location := List String

def Location.relativeTo? : Location → Location → Option (List String)
  | [], location => some location
  | _ :: _, [] => none
  | name :: rest, first :: location =>
      if name == first then Location.relativeTo? rest location else none

structure Folder where
  /-- The files with their text. A file has no text if its bytes are not UTF-8. -/
  files : List (Location × Option String) := []
  /-- Directories that are there even if no file lies in them. -/
  directories : List Location := []
  deriving Repr

namespace Folder

def put (folder : Folder) (location : Location) (text : Option String) : Folder :=
  { folder with
    files := folder.files.filter (fun file => file.1 != location) ++ [(location, text)] }

def makeWay (folder : Folder) : Location → List String → Folder × Location
  | here, [] => (folder, here)
  | here, piece :: rest =>
      if Path.isBlank piece then folder.makeWay here rest
      else if piece == ".." then folder.makeWay here.dropLast rest
      else
        let location := here ++ [piece]
        { folder with directories := folder.directories ++ [location] }.makeWay location rest

def makeDirectory (folder : Folder) (path : Path) : Folder :=
  (folder.makeWay [] path.pieces).1

/-- Writes a file, and makes the directories that it lies in. A path that ends in a slash is
that of a directory. -/
def write (folder : Folder) (path : Path) (text : Option String) : Folder :=
  let (folder, above) := folder.makeWay [] path.pieces.dropLast
  match path.pieces.getLast? with
  | none | some "" => folder
  | some name => folder.put (above ++ [name]) text

def file? (folder : Folder) (location : Location) : Option (Option String) :=
  (folder.files.find? (fun file => file.1 == location)).map (·.2)

def isDirectory (folder : Folder) (location : Location) : Bool :=
  location.isEmpty ||
    folder.directories.any (fun directory => (location.relativeTo? directory).isSome) ||
    folder.files.any (fun file =>
      match location.relativeTo? file.1 with
      | some (_ :: _) => true
      | _ => false)

def contains (folder : Folder) (location : Location) : Bool :=
  (folder.file? location).isSome || folder.isDirectory location

/-- The files below a directory, with their ways from there: in the order of their names,
those of a directory where the directory stands. A file lies below itself. -/
def filesBelow (folder : Folder) (directory : Location) :
    List (List String × Option String) :=
  let below := folder.files.filterMap (fun (location, text) =>
    (directory.relativeTo? location).map (fun relative => (relative, text)))
  below.mergeSort (fun left right => Path.namesPrecede left.1 right.1)

def longestName : Nat :=
  255

def longestPath : Nat :=
  4095

/-- Where pieces of a path lead, one after the other. Two dots lead to what a directory lies
in, and from the root to itself. Only from a directory does a way go on. -/
def follow? (folder : Folder) : Location → List String → Option Location
  | here, [] => some here
  | here, piece :: rest =>
      if !folder.isDirectory here || longestName < piece.utf8ByteSize then none
      else if Path.isBlank piece then folder.follow? here rest
      else if piece == ".." then folder.follow? here.dropLast rest
      else folder.follow? (here ++ [piece]) rest

/-- Where a path leads. Nothing need be there yet, only the directory that it would be in. -/
def locate? (folder : Folder) (path : Path) : Option Location :=
  folder.follow? [] path.pieces

/-- Where a text leads that is written as a path from the home directory. The empty text and
texts that are too long lead nowhere. -/
def locateText? (folder : Folder) (home : Path) (written : String) : Option Location :=
  if written.isEmpty || longestPath < written.utf8ByteSize then none
  else folder.locate? (home.join written)

end Folder

end CrateMetrics
