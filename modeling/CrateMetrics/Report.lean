/-
Reports: what was measured against which limits, and what could not be measured, in one of
three formats.
-/

import CrateMetrics.Metric
import CrateMetrics.Report.Json
import CrateMetrics.Report.Outline
import CrateMetrics.Report.Yaml
import CrateMetrics.Text.Blank

namespace CrateMetrics

structure Tool where
  name : String
  version : String
  platform : String

structure Report where
  tool : Tool
  metrics : List (Metric Float)
  project : Measurement Float
  errors : List String

inductive Format where
  | json
  | yaml
  | outline
  deriving DecidableEq, Repr

def Format.ofName? : String → Option Format
  | "json" => some .json
  | "yaml" => some .yaml
  | "text" => some .outline
  | _ => none

def Limit.document (limit : Limit Float) : Document :=
  match limit with
  | .atMost max => .record [("kind", .text "max"), ("max", .number max)]
  | .atLeast min => .record [("kind", .text "min"), ("min", .number min)]
  | .between min max =>
      .record [("kind", .text "range"), ("min", .number min), ("max", .number max)]

def Metric.document (metric : Metric Float) : Document :=
  .record [("name", .text metric.name), ("verification", metric.limit.document)]

def MetricValue.document (value : MetricValue Float) : Document :=
  .record [("name", .text value.name), ("value", .number value.value),
    ("element_count", .count value.count), ("violated", .flag value.violated)]

mutual

/-- The fields of a measurement. The parts are left out if there are none. -/
def Measurement.document : Measurement Float → Document
  | ⟨scope, name, values, children⟩ =>
      .record ([("scope", .text scope.label), ("name", .text name),
        ("metric_values", .list (values.map MetricValue.document))] ++
        if children.isEmpty then []
        else [("children", .list (Measurement.documents children))])

def Measurement.documents : List (Measurement Float) → List Document
  | [] => []
  | child :: rest => child.document :: Measurement.documents rest

end

namespace Report

def document (report : Report) : Document :=
  let tool := Document.record
    [("version", .text report.tool.version), ("target", .text report.tool.platform)]
  .record
    [("meta", .record [(report.tool.name, tool),
      ("metrics", .list (report.metrics.map Metric.document))]),
    ("project", report.project.document),
    ("errors", .list (report.errors.map .text))]

def outline (report : Report) : String :=
  let errors :=
    if report.errors.isEmpty then [] else "errors:" :: report.errors.map ("  " ++ ·)
  Text.trimEnd ("\n".intercalate (Outline.lines 0 report.project ++ errors))

def text (report : Report) : Format → String
  | .json => Json.text report.document
  | .yaml => Yaml.text report.document
  | .outline => report.outline

end Report

end CrateMetrics
