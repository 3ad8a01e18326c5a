import RenderAudit.Cancellation
import RenderAudit.Comparison
import RenderAudit.Content
import RenderAudit.Diagnostic
import RenderAudit.Extraction

/-!
The analysis of one source, from its tree to its findings.
-/

namespace RenderAudit

/-- Asks a resolver on behalf of a run: some names cancel the run when they are asked for. -/
structure Inquiry where
  resolver : Resolver
  cancels : String → Bool

namespace Inquiry

def quiet (resolver : Resolver) : Inquiry := ⟨resolver, fun _ => false⟩

def after (inquiry : Inquiry) (names : List String) (token : CancelToken) : CancelToken :=
  if names.any inquiry.cancels then token.cancel else token

end Inquiry

/-- What tracing a component gives: its usage, how many group numbers it took, and the names that
a resolver was asked for. -/
structure Traced where
  usage : ComponentUsage
  groupsTaken : Nat
  asked : List String

namespace Content

def Step.asked? : Step → Option String
  | .asked name => some name
  | _ => none

/-- The usage that content amounts to. Content that breaks off amounts to nothing, but the numbers
of the groups met before are taken. -/
def usage (component firstGroup : Nat) (content : List Content) : Traced :=
  if isComplete content then
    { usage :=
        { component := component
          walked := true
          direct := direct content
          groups := groups firstGroup content
          uses := uses content }
      groupsTaken := (supplies content).length
      asked := (stepsTaken content).filterMap Step.asked? }
  else
    { usage := .untraced component
      groupsTaken := (stepsTaken content).count .opened
      asked := (stepsTaken content).filterMap Step.asked? }

end Content

/-- Traces one component; without a body there is nothing to trace. -/
def traceComponent (unit : SourceUnit) (arena : Arena) (resolver : Resolver) (firstGroup : Nat)
    (component : Nat) (shape : Shape) : Traced :=
  match shape.body with
  | none => ⟨.untraced component, 0, []⟩
  | some body =>
      let tracer : Tracer := ⟨unit, arena, resolver, unit.bindings shape⟩
      Content.usage component firstGroup (tracer.readBody body)

/-- Traces the components one after the other; the token is checked before each of them. -/
def traceAll (unit : SourceUnit) (arena : Arena) (inquiry : Inquiry) :
    Nat → CancelToken → List (Shape × Nat) → Except Failure (Usages × CancelToken)
  | _, token, [] => .ok ([], token)
  | firstGroup, token, (shape, component) :: rest => do
      token.check (some unit.path)
      let traced := traceComponent unit arena inquiry.resolver firstGroup component shape
      let token := inquiry.after traced.asked token
      let (usages, token) ←
        traceAll unit arena inquiry (firstGroup + traced.groupsTaken) token rest
      return (traced.usage :: usages, token)

/-- The results of the steps of an analysis. The tags of the arena are resolved. -/
structure Analysis where
  arena : Arena
  malformed : List Finding
  declared : DeclaredGraph
  actual : ActualGraph
  cycles : List Finding
  findings : List Finding

namespace Arena

def Fault.failure (fault : Fault) : Failure := .general fault.message []

end Arena

namespace Analysis

def ofFault {α : Type} : Except Arena.Fault α → Except Failure α
  | .ok value => .ok value
  | .error fault => .error fault.failure

def run (config : Config) (inquiry : Inquiry) (unit : SourceUnit) (token : CancelToken) :
    Except Failure (Analysis × CancelToken) := do
  let extraction := Extraction.ofUnit config unit
  let arena := extraction.arena.resolveTags inquiry.resolver
  let token := inquiry.after arena.tagQuestions token
  let declared ← ofFault (DeclaredGraph.ofArena arena)
  let (usages, token) ← traceAll unit arena inquiry 0 token extraction.shapes.zipIdx
  let actual := ActualGraph.ofUsages config.depthBound usages
  let cycles ← ofFault (actual.cycleFindings arena)
  let comparison : Comparison := ⟨config, arena, declared, actual⟩
  return (
    { arena := arena
      malformed := extraction.findings
      declared := declared
      actual := actual
      cycles := cycles
      findings := comparison.findings (extraction.findings ++ declared.findings ++ cycles) },
    token)

end Analysis

end RenderAudit
