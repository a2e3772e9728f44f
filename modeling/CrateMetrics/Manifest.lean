/-
Packages as their manifests describe them. A workspace lists the directories of its members;
a package names itself and, where they are not in the usual places, the files its library
and programs start from.
-/

import CrateMetrics.Package
import CrateMetrics.Toml.Document

namespace CrateMetrics.Manifest

def fileName : String :=
  "Cargo.toml"

def at? (folder : Folder) (directory : Path) : Option Toml.Value := do
  let location ← folder.locate? (directory.below [fileName])
  let text ← (folder.file? location).join
  return .table (← Toml.parse? text)

def value? : List String → Toml.Value → Option Toml.Value
  | [], value => some value
  | key :: rest, .table entries => do
      value? rest (← entries.find? (fun entry => entry.1 == key)).2
  | _ :: _, _ => none

def text? (keys : List String) (value : Toml.Value) : Option String :=
  match value? keys value with
  | some (.text text) => some text
  | _ => none

def elements (keys : List String) (value : Toml.Value) : List Toml.Value :=
  match value? keys value with
  | some (.array elements) => elements
  | _ => []

def waysBelow (folder : Folder) (directory : Path) : List (List String) :=
  match folder.locate? directory with
  | none => []
  | some location => (folder.filesBelow location).map (·.1)

def directoriesIn (folder : Folder) (directory : Path) : List Path :=
  (waysBelow folder directory).filterMap (fun way =>
    match way with
    | [name, file] => if file == fileName then some (directory.below [name]) else none
    | _ => none)

/-- The directories that a member stands for; a final star stands for all. -/
def memberDirectories (folder : Folder) (home : Path) (member : String) : List Path :=
  let path := home.join member
  match path.fileName?, path.parent? with
  | some "*", some above => directoriesIn folder above
  | _, _ => [path]

def usualTargets (folder : Folder) (directory : Path) : List Target :=
  (waysBelow folder directory).filterMap (fun way =>
    let kind := if way == ["src", "lib.rs"] then "lib" else "bin"
    match way with
    | ["src", "lib.rs"] | ["src", "main.rs"] | ["src", "bin", _]
    | ["src", "bin", _, "main.rs"] =>
        some { kinds := [kind], source := "/".intercalate way }
    | _ => none)

def namedTargets (manifest : Toml.Value) : List Target :=
  let lib := (text? ["lib", "path"] manifest).toList
  let programs := (elements ["bin"] manifest).filterMap (text? ["path"])
  lib.map (fun source => { kinds := ["lib"], source }) ++
    programs.map (fun source => { kinds := ["bin"], source })

def package? (folder : Folder) (directory : Path) : Option Package := do
  let manifest ← at? folder directory
  return {
    name := ← text? ["package", "name"] manifest
    directory
    targets := usualTargets folder directory ++ namedTargets manifest }

/-- The packages of the workspace in the home directory. -/
def packages (folder : Folder) (home : Path) : List Package :=
  match at? folder home with
  | none => []
  | some manifest =>
      let members := (elements ["workspace", "members"] manifest).flatMap (fun member =>
        match member with
        | .text member => memberDirectories folder home member
        | _ => [])
      (home :: members).filterMap (package? folder)

end CrateMetrics.Manifest
