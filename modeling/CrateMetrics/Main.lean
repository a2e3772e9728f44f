/-
The program on the command line. It takes in the directory it is run in and the file that
its arguments name, and writes what the run comes to.
-/

import CrateMetrics.Manifest
import CrateMetrics.Program

namespace CrateMetrics.CommandLine

/-- Takes in directory entries and what lies below them. Build results and version history in
the home directory are left out. -/
partial def addEntries (home : Path) (folder : Folder) (directory : Path) (entries : Array IO.FS.DirEntry) :
    IO Folder := do
  let mut all := folder
  for entry in entries do
    let path := directory.below [entry.fileName]
    let isOutput := directory == home && ["target", ".git"].contains entry.fileName
    unless isOutput do
      if ← entry.path.isDir then
        all ← addEntries home (all.makeDirectory path) path (← entry.path.readDir)
      else
        all := all.write path (String.fromUTF8? (← IO.FS.readBinFile entry.path))
  return all

/-- Takes in the file or directory that a path written in the arguments leads to, or else
the directory that it would be in. -/
def addNamed (home : Path) (folder : Folder) (written : String) : IO Folder := do
  let path := home.join written
  let place := (← IO.currentDir) / written
  let above := { pieces := path.pieces.dropLast : Path }
  if ← place.isDir then return folder.makeDirectory path
  else if ← place.pathExists then
    return folder.write path (String.fromUTF8? (← IO.FS.readBinFile place))
  else if ← (place.parent.getD place).isDir then return folder.makeDirectory above
  else return folder

def Command.namedPath? : Command → Option String
  | .measure options => options.config
  | .init path => path
  | .help _ | .version => none

def refusalText : Refusal → String
  | .usage => "error: wrong arguments; for more information, try '--help'"
  | .failed fault => "Error: " ++ fault.message

end CrateMetrics.CommandLine

open CrateMetrics CommandLine in
def main (arguments : List String) : IO UInt32 := do
  let here ← IO.currentDir
  let home := Path.root.join here.toString
  let start : Folder := {}
  let surroundings ← addEntries home (start.makeDirectory home) home (← here.readDir)
  let folder ←
    match (Command.ofArguments? arguments).bind Command.namedPath? with
    | some written => addNamed home surroundings written
    | none => pure surroundings
  let outcome := Program.run
    { home, folder, packages := Manifest.packages folder home } arguments
  match outcome.created with
  | some (location, text) =>
      IO.FS.writeFile (Path.root.below location).text text
  | none => pure ()
  IO.print outcome.output
  outcome.remarks.forM IO.eprintln
  match outcome.refusal with
  | some refusal => IO.eprintln (refusalText refusal)
  | none => pure ()
  return UInt32.ofNat outcome.exitCode
