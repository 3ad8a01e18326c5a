import RenderAudit.Analysis
import RenderAudit.Grammar
import RenderAudit.Workspace

/-!
Reports on sources and files. A file that cannot be read or parsed has a report that says so; only
a cancellation ends a run over several files.
-/

namespace RenderAudit

structure Report where
  path : String
  findings : List Finding
  diagnostics : List Diagnostic
  components : Nat
  error : Option String

/-- What all sources of a run share. -/
structure Auditor where
  config : Config
  inquiry : Inquiry

/-- What changes in the course of a run. -/
structure RunState where
  registry : Registry
  token : CancelToken

namespace RunState

def start : RunState := ⟨Registry.standard, CancelToken.fresh⟩

end RunState

namespace Report

def ofAnalysis (path : String) (analysis : Analysis) : Report where
  path := path
  findings := analysis.findings
  diagnostics := Reporter.standard.report analysis.findings
  components := analysis.arena.components.length
  error := none

def ofFailure (path : String) (failure : Failure) : Report where
  path := path
  findings := []
  diagnostics := []
  components := 0
  error := some failure.message

def isSuccess (report : Report) : Bool := report.error.isNone

end Report

namespace Auditor

/-- Sources of unknown kind are read with this grammar. -/
def fallbackGrammar : String := "tsx"

/-- Audits a text. The state keeps what happened before a failure. -/
def auditSource (auditor : Auditor) (state : RunState) (path : String) (text : List Char)
    (tree : Except String Node) : Except Failure Report × RunState :=
  let (language, registry) := state.registry.detect (Path.parse path)
  match registry.createParser (language.getD fallbackGrammar) with
  | (.error fault, registry) => (.error fault.failure, { state with registry := registry })
  | (.ok (), registry) =>
      let state := { state with registry := registry }
      match tree with
      | .error reason => (.error (.source s!"Failed to parse {path}: {reason}" path []), state)
      | .ok root =>
          let unit : SourceUnit := ⟨path, ⟨text⟩, root, auditor.config.renderableTypes⟩
          match Analysis.run auditor.config auditor.inquiry unit state.token with
          | .error failure => (.error failure, state)
          | .ok (analysis, token) =>
              (.ok (Report.ofAnalysis path analysis), { state with token := token })

def auditFile (auditor : Auditor) (workspace : Workspace) (state : RunState) (path : String) :
    Except Failure Report × RunState :=
  match workspace.read (Path.parse path) with
  | .error fault => (.error (.source (fault.message path) path []), state)
  | .ok file => auditor.auditSource state path (Text.decodeFile file.bytes) file.tree

/-- Audits files one after the other; the token is checked before each of them. -/
def auditFiles (auditor : Auditor) (workspace : Workspace) :
    RunState → List String → Except Failure (List Report × RunState)
  | state, [] => .ok ([], state)
  | state, path :: rest => do
      state.token.check (some path)
      let (outcome, state) := auditor.auditFile workspace state path
      let report ←
        match outcome with
        | .ok report => pure report
        | .error failure =>
            if failure.category = .cancelled then throw failure
            else pure (Report.ofFailure path failure)
      let (reports, state) ← auditor.auditFiles workspace state rest
      return (report :: reports, state)

end Auditor

end RenderAudit
