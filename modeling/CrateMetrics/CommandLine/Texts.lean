/-
The fixed texts of the program: help, version and the configuration to start from.
-/

import CrateMetrics.CommandLine.Arguments
import CrateMetrics.Report

namespace CrateMetrics.CommandLine

def tool : Tool :=
  { name := "cargo-measure", version := "0.1.0", platform := "linux/x86_64" }

def versionText : String :=
  tool.name ++ " " ++ tool.version ++ "\n"

def lines (texts : List String) : String :=
  String.join (texts.map (fun line => line ++ "\n"))

def HelpTopic.text : HelpTopic → String
  | .program => lines [
      "Usage: cargo-measure [OPTIONS] [COMMAND]",
      "",
      "Commands:",
      "  init  Generate a template metrics config",
      "  help  Print this message or the help of the given subcommand(s)",
      "",
      "Options:",
      "  -o, --output <FORMAT>    Output format: json, yaml or text [default: json]",
      "  -c, --config <FILE>      Path to metrics config file",
      "  -j, --parallel           Measure the files of each package in parallel",
      "      --fail-on-violation  Exit with status 1 when any metric is violated",
      "  -h, --help               Show this help message [alias: -?]",
      "  -V, --version            Print version",
      "",
      "Metrics:",
      "  cyclomatic_complexity - 1 + decision points per method, averaged per type",
      "  response_for_class    - own methods plus distinct methods they invoke",
      "  lcom4                 - connected groups of methods sharing fields or calls",
      "",
      "Verification:",
      "  max   - violated when value > max (default)",
      "  min   - violated when value < min",
      "  range - violated outside [min, max]"]
  | .init => lines [
      "Generate a template metrics config",
      "",
      "Usage: cargo-measure init [PATH]",
      "",
      "Arguments:",
      "  [PATH]  Where to create the config file"]
  | .help => lines [
      "Print this message or the help of the given subcommand(s)",
      "",
      "Usage: cargo-measure help [COMMAND]...",
      "",
      "Arguments:",
      "  [COMMAND]...  Print help for the subcommand(s)"]

def defaultConfigPath : String :=
  ".measure.toml"

def configTemplate : String :=
  lines [
    "# Configuration for cargo-measure",
    "",
    "[metrics]",
    "[metrics.cyclomatic_complexity]",
    "enabled = true",
    "# Average paths per method above this are violations",
    "verification = \"max\"",
    "max = 10.0",
    "",
    "[metrics.response_for_class]",
    "enabled = true",
    "verification = \"max\"",
    "max = 50.0",
    "",
    "[metrics.lcom4]",
    "enabled = true",
    "# More than one component means the type could be split",
    "verification = \"max\"",
    "max = 1.0"]

end CrateMetrics.CommandLine
