import RenderAudit.Json
import RenderAudit.Template

/-!
Diagnostics: findings with the message that is shown to the user. Every diagnostic is a warning.
-/

namespace RenderAudit

structure Diagnostic where
  kind : FindingKind
  message : String
  span : Span
deriving DecidableEq, Repr

namespace FindingKind

/-- The message that findings of a kind are shown with. -/
def template : FindingKind → Template
  | .undeclaredUsage =>
      [.detail "source", .literal " renders ", .detail "target", .literal " (",
        .detail "path", .literal ") without declaring it"]
  | .missingDeclaration =>
      [.detail "source", .literal " declares that it renders ", .detail "target",
        .literal ", but never does"]
  | .mismatchedTarget =>
      [.literal "'", .detail "owner", .literal ".", .detail "property",
        .literal "' is declared to render ", .detail "declared", .literal ", but receives ",
        .detail "actual"]
  | .unresolvedTarget =>
      [.literal "Unresolved render target ", .detail "target", .literal ": ", .detail "reason"]
  | .cycleDepthExceeded =>
      [.literal "Forwarding from ", .detail "source", .literal " through '", .detail "owner",
        .literal ".", .detail "property", .literal "' does not terminate within ",
        .detail "bound", .literal " property hops"]
  | .malformedTag =>
      [.literal "Malformed @", .detail "tag", .literal " tag: ", .detail "reason"]

end FindingKind

namespace Diagnostic

def severity : String := "warning"

def code (diagnostic : Diagnostic) : String :=
  "react-annotation/" ++ diagnostic.kind.name

def text (diagnostic : Diagnostic) : String :=
  s!"{diagnostic.span.text}: {severity}: {diagnostic.message} [{diagnostic.code}]"

def fields (diagnostic : Diagnostic) : List (String × Json) :=
  [("severity", .text severity),
    ("kind", .text diagnostic.kind.name),
    ("code", .text diagnostic.code),
    ("message", .text diagnostic.message),
    ("file", .text diagnostic.span.file),
    ("line", .number diagnostic.span.line),
    ("column", .number diagnostic.span.column),
    ("end_line", .number diagnostic.span.endLine),
    ("end_column", .number diagnostic.span.endColumn)]

end Diagnostic

/-- Chooses the template of each kind; without one the message of the finding itself is shown. -/
structure Reporter where
  template? : FindingKind → Option Template

namespace Reporter

def standard : Reporter := ⟨fun kind => some kind.template⟩

/-- Replaces templates by texts. A missing text or one that is no template leaves the messages of
its kind as they are. -/
def withTexts (texts : List (FindingKind × Option String)) : Reporter where
  template? kind :=
    match texts.lookup kind with
    | none => some kind.template
    | some none => none
    | some (some text) => Template.parse? text.toList

def message (reporter : Reporter) (finding : Finding) : String :=
  ((reporter.template? finding.kind).bind (·.fill? finding.details)).getD finding.message

def diagnose (reporter : Reporter) (finding : Finding) : Diagnostic where
  kind := finding.kind
  message := reporter.message finding
  span := finding.span

def report (reporter : Reporter) (findings : List Finding) : List Diagnostic :=
  findings.map reporter.diagnose

end Reporter

/-- The diagnostics that a sink takes; one that is refused does not hold up the others. -/
def deliver (accepts : Diagnostic → Bool) (diagnostics : List Diagnostic) : List Diagnostic :=
  diagnostics.filter accepts

end RenderAudit
