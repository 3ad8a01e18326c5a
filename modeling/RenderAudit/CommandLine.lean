import RenderAudit.Arguments
import RenderAudit.Environment
import RenderAudit.Report

/-!
The command line as a function of its arguments, the environment and the files: what it writes and
the status it ends with.
-/

namespace RenderAudit

structure Outcome where
  status : Nat
  output : String
  errors : String

namespace CommandLine

def programName : String := "react-annotation-lint"

def lines (texts : List String) : String :=
  String.join (texts.map (· ++ "\n"))

def usage : String :=
  lines [
    "usage: react-annotation-lint [-h] [--depth-bound DEPTH_BOUND]",
    "                             [--policy \x7btransitive,single-hop\x7d]",
    "                             [--component-tag COMPONENT_TAG]",
    "                             [--renders-tag RENDERS_TAG]",
    "                             [--format \x7btext,json\x7d] [--strict]",
    "                             [--workers WORKERS] [--verbose]",
    "                             [paths ...]"]

def help : String :=
  usage ++ lines [
    "",
    "Cross-check @component / @renders annotations against actual JSX usage",
    "",
    "positional arguments:",
    "  paths                 Files or directories to analyze",
    "",
    "options:",
    "  -h, --help            show this help message and exit",
    "  --depth-bound DEPTH_BOUND",
    "                        Forwarding depth bound",
    "  --policy \x7btransitive,single-hop\x7d",
    "                        Forwarding confidence policy",
    "  --component-tag COMPONENT_TAG",
    "                        Tag name marking component definitions",
    "  --renders-tag RENDERS_TAG",
    "                        Tag name declaring render targets",
    "  --format \x7btext,json\x7d  Output format",
    "  --strict              Exit with status 1 when diagnostics are reported",
    "  --workers WORKERS     Files analyzed in parallel",
    "  --verbose             Enable debug logging",
    "",
    "Examples:",
    "    react-annotation-lint src/                       # Check every TSX/JSX/TS file under src/",
    "    react-annotation-lint App.tsx --strict           # Fail when App.tsx has findings",
    "    react-annotation-lint src/ --policy single-hop   # Only accept exact forwarded targets",
    "    react-annotation-lint src/ --format json         # Machine-readable output",
    "        "]

/-- Folders whose files are not looked at when a folder is searched. -/
def ignoredFolder : String := "node_modules"

/-- The files that a path stands for: those of a known kind below a folder, otherwise itself. -/
def filesAt (workspace : Workspace) (text : String) : List String :=
  let path := Path.parse text
  match workspace.place path with
  | .ok (.folder folder) =>
      ((workspace.filesBelow path folder).filter fun file =>
        Registry.standard.isSupported file && !file.parts.contains ignoredFolder).map Path.text
  | .ok .above => []
  | _ => [path.text]

def textOutput (reports : List Report) : String :=
  let diagnostics := reports.flatMap (·.diagnostics)
  lines (diagnostics.map Diagnostic.text ++
    [s!"{diagnostics.length} warning(s) in {reports.length} file(s)"])

def textErrors (reports : List Report) : String :=
  lines (reports.filterMap fun report =>
    report.error.map fun error => s!"{report.path}: error: {error}")

def reportJson (report : Report) : Json :=
  .object [
    ("file", .text report.path),
    ("error", Json.ofOption .text report.error),
    ("diagnostics", .array (report.diagnostics.map fun diagnostic => .object diagnostic.fields))]

def jsonOutput (reports : List Report) : String :=
  lines [(Json.object [("files", .array (reports.map reportJson))]).pretty]

/-- Errors end with status 2; findings end with status 1 where they are not tolerated. -/
def status (strict : Bool) (reports : List Report) : Nat :=
  if reports.any (!·.isSuccess) then 2
  else if strict && reports.any (!·.diagnostics.isEmpty) then 1
  else 0

def present (settings : Settings) (reports : List Report) : Outcome where
  status := status settings.strict reports
  output := if settings.format = .json then jsonOutput reports else textOutput reports
  errors := if settings.format = .json then "" else textErrors reports

def configure (environment : Environment) (settings : Settings) : Except Config.Fault Config := do
  let config ← environment.load
  config.override settings.overrides

def audit (workspace : Workspace) (environment : Environment) (settings : Settings) :
    Except Failure (List Report) := do
  let config ← (configure environment settings).mapError (·.failure)
  let auditor : Auditor := ⟨config, Inquiry.quiet Resolver.blind⟩
  let (reports, _) ←
    auditor.auditFiles workspace RunState.start (settings.paths.flatMap (filesAt workspace))
  return reports

def run (workspace : Workspace) (environment : Environment) (arguments : List String) : Outcome :=
  match Request.ofArguments arguments with
  | .help => ⟨0, help, ""⟩
  | .refuse fault => ⟨2, "", usage ++ lines [s!"{programName}: error: {fault.message}"]⟩
  | .run settings =>
      match audit workspace environment settings with
      | .error failure => ⟨2, "", lines [s!"error: {failure.message}"]⟩
      | .ok reports => present settings reports

end CommandLine

end RenderAudit
