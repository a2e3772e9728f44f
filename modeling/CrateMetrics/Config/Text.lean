/-
Configurations as TOML text. Keys that are not known are ignored. A table may also be given
as an array of its values in order, and what is left out has its default.
-/

import CrateMetrics.Config
import CrateMetrics.Decimal.Layout
import CrateMetrics.Toml.Document

namespace CrateMetrics

namespace Config

/-! Reading. -/

/-- The fields of a table: by name, or by position if an array stands for the table. A date
stands for a table without any known field. -/
def fields? : Toml.Value → Option (String → Nat → Option Toml.Value)
  | .table entries => some (fun name _ =>
      (entries.find? (fun entry => entry.1 == name)).map (·.2))
  | .array elements => some (fun _ position => elements[position]?)
  | .moment => some (fun _ _ => none)
  | _ => none

/-- A field that may be left out; one of the wrong type is refused. -/
def optional? {β : Type} (decode : Toml.Value → Option β) (default : β) :
    Option Toml.Value → Option β
  | none => some default
  | some value => decode value

def boolean? : Toml.Value → Option Bool
  | .boolean value => some value
  | _ => none

/-- A limit; integers are accepted. -/
def limit? : Toml.Value → Option (Option Float)
  | .float number => some (some number)
  | .integer number =>
      some (some (Decimal.nearest (number < 0) number.natAbs 1))
  | _ => none

def verification? : Toml.Value → Option Verification
  | .text word => Verification.ofWord? word
  | .table [(word, .table [])] | .table [(word, .array [])] => Verification.ofWord? word
  | _ => none

def metricTable? (value : Toml.Value) : Option (MetricTable Float) := do
  let field ← fields? value
  return {
    enabled := ← optional? boolean? true (field "enabled" 0)
    verification := ← optional? verification? .max (field "verification" 1)
    min := ← optional? limit? none (field "min" 2)
    max := ← optional? limit? none (field "max" 3) }

def metricTables? (value : Toml.Value) : Option (Config Float) := do
  let field ← fields? value
  let table (kind : MetricKind) (position : Nat) : Option (MetricTable Float) :=
    optional? metricTable? {} (field kind.metricName position)
  return {
    complexity := ← table .complexity 0
    response := ← table .response 1
    cohesion := ← table .cohesion 2 }

def parse? (text : String) : Option (Config Float) := do
  let field ← fields? (.table (← Toml.parse? text))
  optional? metricTables? {} (field "metrics" 0)

/-! Writing. -/

/-- Limits are written without exponent, and integral ones end in `.0`. -/
def limitLayout : Decimal.Layout :=
  { notANumber := "nan", infinity := "inf" }

def limitLine (name : String) (limit : Option Float) : String :=
  match limit with
  | none => ""
  | some limit => name ++ " = " ++ limitLayout.text limit ++ "\n"

def tableText (name : String) (table : MetricTable Float) : String :=
  let enabled := if table.enabled then "true" else "false"
  "[metrics." ++ name ++ "]\nenabled = " ++ enabled ++ "\nverification = \"" ++
    table.verification.word ++ "\"\n" ++ limitLine "min" table.min ++
    limitLine "max" table.max

def text (config : Config Float) : String :=
  "\n".intercalate (MetricKind.all.map (fun kind =>
    tableText kind.metricName (config.table kind)))

end Config

end CrateMetrics
