/-
Packages and the source files that belong to them: those below the directories of the
package's libraries and programs, test modules left out. Each file is read once, also if
the directories lie in each other.
-/

import CrateMetrics.Folder
import CrateMetrics.Run
import CrateMetrics.SourceUnit

namespace CrateMetrics

/-- Something a package builds, and the file that its build starts from, as it is written
from the directory of the package. -/
structure Target where
  kinds : List String
  source : String
  deriving Repr

structure Package where
  name : String
  directory : Path
  targets : List Target := []
  deriving Repr

def Target.isMeasured (target : Target) : Bool :=
  target.kinds.any (fun kind => kind == "lib" || kind == "bin")

/-- The module that a file below a source directory defines. `lib.rs` and `main.rs` are the
root of the crate, and `mod.rs` stands for its directory. Names are texts here: what becomes of
a name that is not UTF-8 is left out. -/
def modulePath (relative : List String) : List String :=
  match relative.getLast? with
  | none => []
  | some last =>
      let stem :=
        if last.endsWith ".rs" then (last.dropEnd ".rs".length).toString else last
      let above := relative.dropLast
      if stem == "mod" || (above.isEmpty && (stem == "lib" || stem == "main")) then above
      else above ++ [stem]

def isSourceName (name : String) : Bool :=
  name.endsWith ".rs" && name != ".rs"

structure FoundFile where
  directory : Path
  /-- The names that lead from the directory to the file. -/
  relative : List String
  text : Option String
  deriving Repr

namespace FoundFile

def path (file : FoundFile) : Path :=
  file.directory.below file.relative

def isIncluded (file : FoundFile) : Bool :=
  match file.path.fileName? with
  | none => false
  | some name => isSourceName name && !file.relative.contains "tests" && name != "tests.rs"

end FoundFile

namespace Package

/-- The directories that hold the package's source text, in ascending order: those of the
files that its libraries and programs start from, or the usual one if it has neither. -/
def sourceDirectories (package : Package) : List Path :=
  let measured := package.targets.filter Target.isMeasured
  let parents := measured.filterMap (fun target =>
    (package.directory.join target.source).parent?)
  match parents.foldl (fun found parent => Path.insert parent found) [] with
  | [] => [package.directory.trimmed.below ["src"]]
  | found => found

/-- The source files below a directory, in the order they are read. -/
def sourceFilesIn (folder : Folder) (directory : Path) : Except Fault (List FoundFile) :=
  match (folder.locate? directory).filter folder.contains with
  | none => .error (.unreadable directory.text)
  | some location =>
      let found := (folder.filesBelow location).map (fun (relative, text) =>
        { directory, relative, text : FoundFile })
      .ok (found.filter FoundFile.isIncluded)

variable {α : Type}

/-- Reads a file as a unit that is named by the path of the file. -/
def readFile (file : FoundFile) : Run α SourceUnit := do
  let name := file.path.text
  Run.note (.readingFile name)
  match file.text with
  | none => Run.of (.error (.unreadable name))
  | some source => return { name, source, module := modulePath file.relative }

/-- Reads the source files below directories, one directory after the other, but none that
is among the paths read already. -/
def readDirectories (folder : Folder) (done : List Path) : List Path → Run α (List SourceUnit)
  | [] => return []
  | directory :: rest => do
      let found ← Run.of (sourceFilesIn folder directory)
      let fresh := found.filter (fun file => !done.any file.path.isSame)
      let units ← fresh.mapM readFile
      let others ← readDirectories folder (done ++ fresh.map FoundFile.path) rest
      return units ++ others

/-- Reads the source files of the package. All its source directories have to be there. -/
def read (package : Package) (folder : Folder) : Run α (List SourceUnit) := do
  Run.note (.readingPackage package.name)
  readDirectories folder [] package.sourceDirectories

end Package

end CrateMetrics
