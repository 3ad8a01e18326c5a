import RenderAudit.Sorted
import RenderAudit.Span

/-!
Findings about a source, and the order in which they are listed.
-/

namespace RenderAudit

/-- The kinds of findings, in the order that breaks ties at one place. -/
inductive FindingKind where
  | undeclaredUsage
  | missingDeclaration
  | mismatchedTarget
  | unresolvedTarget
  | cycleDepthExceeded
  | malformedTag
deriving DecidableEq, Repr

namespace FindingKind

def all : List FindingKind :=
  [.undeclaredUsage, .missingDeclaration, .mismatchedTarget, .unresolvedTarget, .cycleDepthExceeded,
    .malformedTag]

def name : FindingKind → String
  | .undeclaredUsage => "UndeclaredUsage"
  | .missingDeclaration => "MissingDeclaration"
  | .mismatchedTarget => "MismatchedTarget"
  | .unresolvedTarget => "UnresolvedTarget"
  | .cycleDepthExceeded => "CycleDepthExceeded"
  | .malformedTag => "MalformedTag"

def ofName? (text : String) : Option FindingKind :=
  all.find? (·.name = text)

def rank : FindingKind → Nat
  | .undeclaredUsage => 0
  | .missingDeclaration => 1
  | .mismatchedTarget => 2
  | .unresolvedTarget => 3
  | .cycleDepthExceeded => 4
  | .malformedTag => 5

end FindingKind

/-- A fact that a message can mention. -/
inductive Detail where
  | text (value : String)
  | number (value : Int)
  | flag (value : Bool)
  | nothing
deriving DecidableEq, Repr

structure Finding where
  kind : FindingKind
  span : Span
  message : String
  details : List (String × Detail) := []
deriving DecidableEq, Repr

namespace Finding

/-- Findings that agree in kind, place and message are one. -/
def identity (finding : Finding) : FindingKind × Span × String :=
  (finding.kind, finding.span, finding.message)

def order : Finding → Finding → Ordering :=
  compareLex (fun a b => a.span.order b.span)
    (compareLex (compareOn (·.kind.rank)) (compareOn (·.message)))

/-- The first of each set of equal findings, ordered by start, kind and message. -/
def sort (findings : List Finding) : List Finding :=
  sortBy order (firstsBy identity [] findings)

end Finding

end RenderAudit
