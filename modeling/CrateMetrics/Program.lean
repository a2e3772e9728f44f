/-
The program as a function: what it writes, and what it leaves behind in the folder of the
workspace, for given arguments.
-/

import CrateMetrics.Analysis
import CrateMetrics.CommandLine.Texts
import CrateMetrics.Config.Text
import CrateMetrics.Package

namespace CrateMetrics

open CommandLine

structure Workspace where
  /-- The directory from which paths are written that do not start from the root. -/
  home : Path
  folder : Folder
  packages : List Package

/-- The name of a workspace: that of its directory, or how the directory is written if that
has no name. -/
def Workspace.name (workspace : Workspace) : String :=
  workspace.home.fileName?.getD workspace.home.text

def Workspace.locate? (workspace : Workspace) (written : String) : Option Location :=
  workspace.folder.locateText? workspace.home written

inductive Refusal where
  | usage
  | failed (fault : Fault)

structure Outcome where
  exitCode : Nat := 0
  output : String := ""
  /-- What is said besides the output, line by line. -/
  remarks : List String := []
  refusal : Option Refusal := none
  created : Option (Location × String) := none

namespace Outcome

def usage : Outcome :=
  { exitCode := 2, refusal := some .usage }

def failure (fault : Fault) : Outcome :=
  { exitCode := 1, refusal := some (.failed fault) }

end Outcome

namespace Program

def readConfig (workspace : Workspace) (path : String) : Except Fault (Config Float) :=
  match (workspace.locate? path).bind workspace.folder.file? with
  | some (some text) =>
      match Config.parse? text with
      | some config => .ok config
      | none => .error (.malformed path)
  | _ => .error (.unreadable path)

/-- The configuration in the file that is asked for, else in the default file if there is
one. -/
def chooseConfig (workspace : Workspace) : Option String → Except Fault (Config Float)
  | some path => readConfig workspace path
  | none =>
      if ((workspace.locate? defaultConfigPath).filter workspace.folder.contains).isSome then
        readConfig workspace defaultConfigPath
      else .ok {}

/-- The packages of a workspace; of two with one name the first counts. -/
def distinctPackages (packages : List Package) : List Package :=
  packages.foldl (fun kept package =>
    if kept.any (fun other => other.name == package.name) then kept else kept ++ [package]) []

def readPackage [FrontEnd] (folder : Folder) (package : Package) :
    Run Float Analysis.PackageUnits := do
  let units ← package.read folder
  return { name := package.name, units := units.map SourceUnit.read }

/-- Files measured in the order in which they are listed, which is as good as any. -/
def schedule (options : Options) : Analysis.Schedule :=
  if options.parallel then .concurrent List.range else .sequential

def measureWorkspace [FrontEnd] (workspace : Workspace) (options : Options) :
    Run Float (List (Metric Float) × Measurement Float) := do
  let config ← Run.of (chooseConfig workspace options.config)
  let metrics ← Run.of config.resolve
  let packages ← (distinctPackages workspace.packages).mapM (readPackage workspace.folder)
  let project ←
    Analysis.analyzeWorkspace (schedule options) metrics workspace.name packages
  return (metrics, project)

section

variable {α : Type}

def violatingPackages (project : Measurement α) : List String :=
  (project.children.filter Measurement.anyViolated).map (·.name)

/-- How a run ends for what was measured. -/
structure Verdict where
  exitCode : Nat := 0
  remarks : List String := []

/-- Violations fail a run if that is asked for; the packages that have some are remarked. -/
def verdict (options : Options) (project : Measurement α) : Verdict :=
  if options.failOnViolation && project.anyViolated then
    { exitCode := 1
      remarks :=
        ["metric violations in:" ++
          String.join ((violatingPackages project).map (fun name => " " ++ name))] }
  else {}

end

/-- Measures a workspace and reports on it. An unknown format is remarked, and nothing
is written. -/
def measure [FrontEnd] (workspace : Workspace) (options : Options) : Outcome :=
  let run := measureWorkspace workspace options
  match run.result with
  | .error fault => .failure fault
  | .ok (metrics, project) =>
      let report : Report :=
        { tool, metrics, project, errors := run.failures.map Fault.message }
      let formatName := options.output.getD "json"
      let format := Format.ofName? formatName
      let verdict := verdict options project
      { exitCode := verdict.exitCode
        output :=
          match format with
          | some format => report.text format ++ "\n"
          | none => ""
        remarks :=
          (if format.isSome then [] else ["unknown output format: " ++ formatName]) ++
            verdict.remarks }

def init (workspace : Workspace) (path : String) : Outcome :=
  match workspace.locate? path with
  | none => .failure (.unwritable path)
  | some location =>
      if workspace.folder.contains location then { remarks := [path ++ " already exists"] }
      else { output := "created " ++ path ++ "\n", created := some (location, configTemplate) }

def run [FrontEnd] (workspace : Workspace) (arguments : List String) : Outcome :=
  match Command.ofArguments? arguments with
  | none => .usage
  | some (.help topic) => { output := topic.text }
  | some .version => { output := versionText }
  | some (.init path) => init workspace (path.getD defaultConfigPath)
  | some (.measure options) => measure workspace options

end Program

end CrateMetrics
