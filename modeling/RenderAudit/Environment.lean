import RenderAudit.Config
import RenderAudit.Table
import RenderAudit.Text.Digit

/-!
Configuration from environment variables, and the configuration that a process keeps once it has
been loaded.
-/

namespace RenderAudit

abbrev Environment := Table String String

namespace Environment

def variableName (name : String) : String :=
  "REACT_ANNOTATION_" ++ name

/-- The variables that are read. -/
def names : List String :=
  ["DEPTH_BOUND", "COMPONENT_TAG", "RENDERS_TAG", "FORWARDING_POLICY", "RENDERABLE_TYPES"].map
    variableName

/-- The names in a comma-separated list; blank ones do not count. -/
def typeNames (text : String) : List String :=
  ((text.toList.splitOn ',').map Text.trim).filterMap fun name =>
    if name.isEmpty then none else some (String.ofList name)

def load (environment : Environment) : Except Config.Fault Config := do
  let defaults : ConfigDraft := {}
  let bound ←
    match environment.get? (variableName "DEPTH_BOUND") with
    | none => pure defaults.depthBound
    | some text =>
        match Text.integerOf? text with
        | some bound => pure bound
        | none => throw (.badBound text)
  let types :=
    match environment.get? (variableName "RENDERABLE_TYPES") with
    | none => defaults.renderableTypes
    | some text => if text.isEmpty then defaults.renderableTypes else typeNames text
  Config.ofDraft {
    depthBound := bound
    componentTag := (environment.get? (variableName "COMPONENT_TAG")).getD defaults.componentTag
    rendersTag := (environment.get? (variableName "RENDERS_TAG")).getD defaults.rendersTag
    policy := (environment.get? (variableName "FORWARDING_POLICY")).getD defaults.policy
    renderableTypes := types }

end Environment

/-- An environment together with the configuration loaded from it last. -/
structure Session where
  environment : Environment
  kept : Option Config

namespace Session

def start : Session := ⟨Table.empty, none⟩

def set (session : Session) (name value : String) : Session :=
  { session with environment := session.environment.insert name value }

def unset (session : Session) (name : String) : Session :=
  { session with environment := session.environment.erase name }

def reset (session : Session) : Session :=
  { session with kept := none }

/-- The kept configuration; it is loaded if there is none. A failed load keeps nothing. -/
def get (session : Session) : Except Config.Fault Config × Session :=
  match session.kept with
  | some config => (.ok config, session)
  | none =>
      match session.environment.load with
      | .ok config => (.ok config, { session with kept := some config })
      | .error fault => (.error fault, session)

end Session

end RenderAudit
