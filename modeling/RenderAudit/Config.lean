import RenderAudit.Failure
import RenderAudit.Sorted
import RenderAudit.Text.Blank

/-!
The options of an analysis and the checks that make them valid.
-/

namespace RenderAudit

/-- How much a forwarding chain may prove: with `transitive` a supplied component counts as
whatever it reaches, with `singleHop` only as itself. -/
inductive Policy where
  | transitive
  | singleHop
deriving DecidableEq, Repr

namespace Policy

def name : Policy → String
  | .transitive => "transitive"
  | .singleHop => "single-hop"

def all : List Policy := [.transitive, .singleHop]

def ofName? (text : String) : Option Policy :=
  all.find? (·.name = text)

end Policy

/-- Options as given, before they are checked. -/
structure ConfigDraft where
  depthBound : Int := 8
  componentTag : String := "component"
  rendersTag : String := "renders"
  policy : String := Policy.transitive.name
  renderableTypes : List String :=
    ["React.ReactNode", "ReactNode", "React.ReactElement", "ReactElement", "JSX.Element",
      "React.JSX.Element", "React.ReactChild", "ReactChild", "React.ReactPortal", "ReactPortal"]
deriving DecidableEq, Repr

/-- Checked options. Content is followed through at least one property. -/
structure Config where
  depthBound : Nat
  componentTag : String
  rendersTag : String
  policy : Policy
  renderableTypes : List String
  depthBound_pos : 1 ≤ depthBound
deriving DecidableEq, Repr

namespace Config

/-- Why options are refused. -/
inductive Fault where
  | noComponentTag
  | noRendersTag
  | equalTags (tag : String)
  | unknownPolicy (policy : String)
  | badBound (text : String)
deriving DecidableEq, Repr

namespace Fault

def message : Fault → String
  | .noComponentTag | .noRendersTag => "Tag names must not be empty"
  | .equalTags tag => s!"Component and renders tags must differ, both are '{tag}'"
  | .unknownPolicy policy =>
      s!"Unknown forwarding policy '{policy}', expected one of " ++
        ", ".intercalate (Policy.all.map Policy.name)
  | .badBound text => s!"Depth bound must be an integer, got '{text}'"

def key : Fault → String
  | .noComponentTag => "component_tag"
  | .noRendersTag | .equalTags _ => "renders_tag"
  | .unknownPolicy _ => "forwarding_policy"
  | .badBound _ => "REACT_ANNOTATION_DEPTH_BOUND"

def value? : Fault → Option String
  | .noComponentTag | .noRendersTag => none
  | .equalTags tag => some tag
  | .unknownPolicy policy => some policy
  | .badBound text => some text

def failure (fault : Fault) : Failure :=
  .configuration fault.message (some fault.key) fault.value?

end Fault

/-- A tag name without the blanks around it and the at signs in front of it. -/
def cleanTag (tag : String) : String :=
  String.ofList ((Text.trim tag.toList).dropWhile (· == '@'))

/-- A bound below one counts as one. -/
def cleanBound (bound : Int) : Nat :=
  max 1 bound.toNat

theorem one_le_cleanBound (bound : Int) : 1 ≤ cleanBound bound :=
  Nat.le_max_left 1 _

def ofDraft (draft : ConfigDraft) : Except Fault Config :=
  let componentTag := cleanTag draft.componentTag
  let rendersTag := cleanTag draft.rendersTag
  if componentTag.isEmpty then .error .noComponentTag
  else if rendersTag.isEmpty then .error .noRendersTag
  else if componentTag = rendersTag then .error (.equalTags componentTag)
  else
    match Policy.ofName? draft.policy with
    | none => .error (.unknownPolicy draft.policy)
    | some policy =>
        .ok {
          depthBound := cleanBound draft.depthBound
          componentTag := componentTag
          rendersTag := rendersTag
          policy := policy
          renderableTypes := draft.renderableTypes
          depthBound_pos := one_le_cleanBound draft.depthBound }

def toDraft (config : Config) : ConfigDraft where
  depthBound := config.depthBound
  componentTag := config.componentTag
  rendersTag := config.rendersTag
  policy := config.policy.name
  renderableTypes := config.renderableTypes

def transitive (config : Config) : Bool :=
  config.policy = .transitive

/-- The renderable type names in order, each once. -/
def sortedTypes (config : Config) : List String :=
  sortBy compare (firstsBy id [] config.renderableTypes)

/-- Options that replace those of a configuration. -/
structure Overrides where
  depthBound : Option Int := none
  componentTag : Option String := none
  rendersTag : Option String := none
  policy : Option String := none
deriving DecidableEq, Repr

def override (config : Config) (overrides : Overrides) : Except Fault Config :=
  let draft := config.toDraft
  if overrides = {} then .ok config
  else
    ofDraft
      { draft with
        depthBound := overrides.depthBound.getD draft.depthBound
        componentTag := overrides.componentTag.getD draft.componentTag
        rendersTag := overrides.rendersTag.getD draft.rendersTag
        policy := overrides.policy.getD draft.policy }

end Config

end RenderAudit
