import RenderAudit.Json

/-!
Failures of a run: bad configuration, missing grammars, unreadable sources, malformed tags and
cancellation. Findings about a source are not failures.
-/

namespace RenderAudit

inductive Failure where
  | general (message : String) (details : List (String × Json))
  | configuration (message : String) (key value : Option String)
  | dependency (message : String) (name : Option String)
  | source (message : String) (path : Option String) (details : List (String × Json))
  | malformedTag (message : String) (tag raw : Option String)
  | cancelled (message : String) (path : Option String)

namespace Failure

def cancellationMessage : String := "Analysis cancelled"

def message : Failure → String
  | .general message _ => message
  | .configuration message _ _ => message
  | .dependency message _ => message
  | .source message _ _ => message
  | .malformedTag message _ _ => message
  | .cancelled message _ => message

/-- The name under which a failure is reported. -/
def typeName : Failure → String
  | .general .. => "ReactAnnotationError"
  | .configuration .. => "ConfigurationError"
  | .dependency .. => "DependencyError"
  | .source .. => "SourceParseError"
  | .malformedTag .. => "MalformedTagError"
  | .cancelled .. => "AnalysisCancelled"

inductive Category where
  | host
  | validation
  | cancelled
  | general
  | unknown
deriving DecidableEq, Repr

def Category.name : Category → String
  | .host => "host"
  | .validation => "validation"
  | .cancelled => "cancelled"
  | .general => "react_annotation"
  | .unknown => "unknown"

def category : Failure → Category
  | .dependency .. | .source .. => .host
  | .configuration .. | .malformedTag .. => .validation
  | .cancelled .. => .cancelled
  | .general .. => .general

def path? : Failure → Option String
  | .source _ path _ | .cancelled _ path => path
  | _ => none

def key? : Failure → Option String
  | .configuration _ key _ => key
  | _ => none

def dependency? : Failure → Option String
  | .dependency _ name => name
  | _ => none

def details : Failure → List (String × Json)
  | .general _ details | .source _ _ details => details
  | _ => []

/-- A named attribute, left out if it is missing or empty. -/
def named (name : String) : Option String → List (String × Json)
  | none => []
  | some value => if value.isEmpty then [] else [(name, .text value)]

/-- The structured form of a failure. -/
def report (failure : Failure) : List (String × Json) :=
  [("error_type", .text failure.typeName),
    ("message", .text failure.message),
    ("category", .text failure.category.name)] ++
  named "file_path" failure.path? ++
  named "config_key" failure.key? ++
  named "dependency_name" failure.dependency? ++
  (if failure.details.isEmpty then [] else [("additional_details", .object failure.details)])

end Failure

end RenderAudit
