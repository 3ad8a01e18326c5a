import RenderAudit.Actual
import RenderAudit.Config
import RenderAudit.Declared

/-!
The comparison of the declared with the actual graph, component by component.

Under the transitive policy supplied content is consistent with a declared target if it is that
target, declares it, or reaches it; under the single-hop policy only if it is that target.
-/

namespace RenderAudit

structure Comparison where
  config : Config
  arena : Arena
  declared : DeclaredGraph
  actual : ActualGraph

inductive Consistency where
  | consistent
  | mismatched
  | uncertain
deriving DecidableEq, Repr

/-- What an answer of the search says about content that is not declared to render the target. -/
def Consistency.ofReach : Reach → Consistency
  | .reached => .consistent
  | .incomplete => .uncertain
  | .notReached => .mismatched

namespace Comparison

/-- Why a check breaks off: a declaration does not exist, or edges have no order. -/
inductive Fault where
  | arena (fault : Arena.Fault)
  | key (fault : Key.Fault)
deriving DecidableEq, Repr

/-- An edge is declared as such, or it runs through a slot of a declared component, whose business
the content is. -/
def covers (comparison : Comparison) (component : Nat) (edge : ActualEdge) : Bool :=
  comparison.declared.declares component edge.target.key ||
    match edge.path, edge.slot with
    | .viaProperty _, some slot =>
        comparison.declared.declares component (.component (some slot.owner))
    | _, _ => false

def undeclaredFinding (comparison : Comparison) (component : Component) (edge : ActualEdge) :
    Finding where
  kind := .undeclaredUsage
  span := edge.span
  message :=
    s!"{component.name} renders {edge.target.label} but does not declare it with " ++
      s!"@{comparison.config.rendersTag}"
  details := [("source", .text component.name), ("target", .text edge.target.label),
    ("path", .text edge.path.describe)]

/-- What a component renders without declaring it. A component that declares nothing, or anything,
is not held to its declarations. -/
def undeclaredUsages (comparison : Comparison) (component : Component) :
    Except Key.Fault (List Finding) :=
  if comparison.declared.optedIn.contains component.id &&
      !comparison.declared.wildcard.contains component.id then do
    let edges ← comparison.actual.edgesFrom component.id
    return (edges.filter fun edge =>
      !edge.target.isOpaque && edge.target.kind ≠ .intrinsic &&
        !comparison.covers component.id edge).map (comparison.undeclaredFinding component)
  else .ok []

/-- The property whose rendering fulfils a declared edge, if there is one. -/
def forwardedProperty (comparison : Comparison) (edge : DeclaredEdge) :
    Except Arena.Fault (Option String) :=
  let named (id : Nat) : Except Arena.Fault (Option String) := do
    let property ← comparison.arena.property id
    return some property.name
  match edge.via with
  | some id => named id
  | none =>
      match edge.target.kind, edge.target.ref with
      | .property, some id => named id
      | _, _ => .ok none

/-- Whether a component is seen to render what it declares. -/
def observed (comparison : Comparison) (component : Nat) (key : Key) : Except Key.Fault Bool :=
  if comparison.actual.hasEdge component key then .ok true
  else if comparison.config.transitive then
    (comparison.actual.reaches component key).map (· ≠ .notReached)
  else .ok false

def missingFinding (component : Component) (edge : DeclaredEdge) (property : Option String) :
    Finding :=
  let facts := [("source", Detail.text component.name), ("target", .text edge.target.label)]
  let start := s!"{component.name} declares that it renders {edge.target.label}"
  match property with
  | some name =>
      { kind := .missingDeclaration
        span := edge.span
        message := s!"{start} through '{name}', but never renders '{name}'"
        details := facts ++ [("property", .text name)] }
  | none =>
      { kind := .missingDeclaration
        span := edge.span
        message := s!"{start}, but no such usage was found"
        details := facts }

def missingDeclaration? (comparison : Comparison) (component : Component) (edge : DeclaredEdge) :
    Except Fault (Option Finding) := do
  let property ← (comparison.forwardedProperty edge).mapError .arena
  let present ←
    match property with
    | some name => .ok ((comparison.actual.resolve ⟨component.id, name⟩).state ≠ .dropped : Bool)
    | none => (comparison.observed component.id edge.target.key).mapError .key
  return if present then none else some (missingFinding component edge property)

/-- What a component declares and does not render. -/
def missingDeclarations (comparison : Comparison) (component : Component) :
    Except Fault (List Finding) :=
  if comparison.actual.wasWalked component.id then do
    let findings ←
      (comparison.declared.edgesFrom component.id).mapM (comparison.missingDeclaration? component)
    return findings.filterMap id
  else .ok []

def consistency (comparison : Comparison) (supplied target : Target) :
    Except Key.Fault Consistency :=
  if supplied.key = target.key then .ok .consistent
  else if supplied.isOpaque then .ok .uncertain
  else if supplied.kind = .intrinsic then .ok .mismatched
  else if !comparison.config.transitive then .ok .uncertain
  else
    match supplied.ref with
    | none => .ok .mismatched
    | some component =>
        if comparison.declared.declares component target.key then .ok .consistent
        else (comparison.actual.reaches component target.key).map .ofReach

/-- The targets that content of a property is checked against. A property that may hold anything,
or the content of another property, is not checked. -/
def expectedTargets (comparison : Comparison) (property : Property) : List Target :=
  let targets := ((comparison.declared.slotTargets.get? property.id).getD []).map Prod.fst
  if targets.any fun target => target.kind = .wildcard || target.kind = .property then []
  else targets

def uncertainFinding (span : Span) (owner property expected supplied : String) : Finding where
  kind := .unresolvedTarget
  span := span
  message := s!"Cannot confirm that {supplied} supplied to '{owner}.{property}' renders {expected}"
  details := [("target", .text expected),
    ("reason", .text s!"forwarding chain from {supplied} is not confidently resolvable")]

def mismatchFinding (span : Span) (owner property expected supplied : String) : Finding where
  kind := .mismatchedTarget
  span := span
  message := s!"'{owner}.{property}' is declared to render {expected}, but receives {supplied}"
  details := [("owner", .text owner), ("property", .text property), ("declared", .text expected),
    ("actual", .text supplied)]

/-- The verdicts on the members of a group, each against every expected target. -/
def verdicts (comparison : Comparison) (group : SupplyGroup) (property : Property) :
    Except Key.Fault (List Consistency) :=
  (group.members.flatMap fun member =>
    (comparison.expectedTargets property).map fun target => (member.target, target)).mapM
      fun (supplied, target) => comparison.consistency supplied target

/-- Checks the members of a group against the declarations of one slot that its content reaches. -/
def checkSlot (comparison : Comparison) (group : SupplyGroup) (slot : Slot) :
    Except Fault (Option Finding) :=
  match comparison.arena.propertyOf? slot.owner slot.property, group.members with
  | some property, first :: _ => do
      let targets := comparison.expectedTargets property
      let results ← (comparison.verdicts group property).mapError .key
      if targets.isEmpty || results.contains .consistent then return none
      else
        let owner := (← (comparison.arena.component slot.owner).mapError .arena).name
        let expected := " or ".intercalate (targets.map Target.label)
        let supplied := ", ".intercalate (group.members.map (·.target.label))
        if group.members.any (·.target.isOpaque) then return none
        else if results.contains .uncertain then
          return some (uncertainFinding first.span owner slot.property expected supplied)
        else return some (mismatchFinding first.span owner slot.property expected supplied)
  | _, _ => .ok none

/-- The slots that the content of a group is checked at: its own, then those it is forwarded to. -/
def checkedSlots (comparison : Comparison) (group : SupplyGroup) : List Slot :=
  firstsBy id [] (group.slot :: (comparison.actual.resolve group.slot).reached)

/-- Content that does not fit the slots it is supplied to. -/
def suppliedContent (comparison : Comparison) (component : Component) :
    Except Fault (List Finding) := do
  let groups := (comparison.actual.groupsOf component.id).filter (!·.members.isEmpty)
  let findings ←
    (groups.flatMap fun group => (comparison.checkedSlots group).map fun slot => (group, slot)).mapM
      fun (group, slot) => comparison.checkSlot group slot
  return findings.filterMap id

/-- The findings about one component. A check that fails ends them, what was found before stays. -/
def componentFindings (comparison : Comparison) (component : Component) : List Finding :=
  match comparison.undeclaredUsages component with
  | .error _ => []
  | .ok undeclared =>
      undeclared ++
        match comparison.missingDeclarations component with
        | .error _ => []
        | .ok missing =>
            missing ++
              match comparison.suppliedContent component with
              | .error _ => []
              | .ok supplied => supplied

/-- All findings in order, together with those of earlier steps. -/
def findings (comparison : Comparison) (earlier : List Finding) : List Finding :=
  Finding.sort (earlier ++ comparison.arena.components.flatMap comparison.componentFindings)

end Comparison

end RenderAudit
