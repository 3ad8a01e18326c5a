import RenderAudit.Finding
import RenderAudit.Resolver

/-!
The declared graph: what components are said to render. A tag on a component speaks for the
component itself, a tag on a renderable property for what its owner receives there.
-/

namespace RenderAudit

namespace Arena

/-- The property that a name means in the scope of a tag. A property does not mean itself, and
beside a property without owner only names are known. -/
def scoped? (arena : Arena) (owner : TagOwner) (name : String) : Except Fault (Option Target) := do
  let owned (id : Int) : Option Target :=
    (arena.propertyOf? id name).map fun property => .property property.id property.name
  match owner with
  | .component id => return owned id
  | .property id =>
      let property ← arena.property id
      if name = property.name then return none
      else
        match property.owner with
        | some owner => return owned owner
        | none =>
            if (property.siblings.getD []).contains name then return some ⟨.property, name, none⟩
            else return none

/-- What a tag names: a property of its scope, or what the name stands for anywhere. A tag whose
resolution breaks off stays unresolved. -/
def tagTarget (arena : Arena) (resolver : Resolver) (tag : Tag) : Target :=
  if tag.target.isEmpty then .wildcard
  else
    match arena.scoped? tag.owner tag.target with
    | .error _ => .unresolved tag.target
    | .ok (some target) => target
    | .ok none => (arena.targetOf? resolver tag.target).getD (.unresolved tag.target)

def resolveTags (arena : Arena) (resolver : Resolver) : Arena :=
  { arena with
    tags := arena.tags.map fun tag => { tag with resolved := some (arena.tagTarget resolver tag) } }

/-- The names for which resolving the tags asks the resolver. -/
def tagQuestions (arena : Arena) : List String :=
  arena.tags.filterMap fun tag =>
    if tag.target.isEmpty then none
    else
      match arena.scoped? tag.owner tag.target with
      | .ok none => if arena.isForeign tag.target then some tag.target else none
      | _ => none

end Arena

/-- An intended composition; `via` is the property whose tag declares it. -/
structure DeclaredEdge where
  source : Int
  target : Target
  span : Span
  via : Option Nat := none
deriving DecidableEq, Repr

/-- `slotTargets` are the targets of the tags on a property, `wildcard` the components that may
render anything, `optedIn` those with a resolved tag of their own. -/
structure DeclaredGraph where
  edges : List DeclaredEdge
  slotTargets : Table Nat (List (Target × Span))
  wildcard : List Int
  optedIn : List Int
  findings : List Finding

namespace DeclaredGraph

def empty : DeclaredGraph := ⟨[], Table.empty, [], [], []⟩

def edgesFrom (graph : DeclaredGraph) (source : Int) : List DeclaredEdge :=
  graph.edges.filter (·.source = source)

/-- All edges by ascending source. -/
def allEdges (graph : DeclaredGraph) : List DeclaredEdge :=
  sortBy (compareOn (·.source)) graph.edges

def declares (graph : DeclaredGraph) (source : Int) (key : Key) : Bool :=
  (graph.edgesFrom source).any (·.target.key = key)

/-- Adds an edge unless its source declares that target already. -/
def addEdge (graph : DeclaredGraph) (edge : DeclaredEdge) : DeclaredGraph :=
  if graph.declares edge.source edge.target.key then graph
  else { graph with edges := graph.edges ++ [edge] }

def addComponentTag (graph : DeclaredGraph) (component : Int) (target : Target) (span : Span) :
    DeclaredGraph :=
  let graph := { graph with optedIn := component :: graph.optedIn }
  if target.kind = .wildcard then { graph with wildcard := component :: graph.wildcard }
  else graph.addEdge { source := component, target := target, span := span }

def addSlotTarget (graph : DeclaredGraph) (property : Nat) (target : Target) (span : Span) :
    DeclaredGraph :=
  let targets := (graph.slotTargets.get? property).getD []
  if targets.any (·.1.key = target.key) then graph
  else { graph with slotTargets := graph.slotTargets.insert property (targets ++ [(target, span)]) }

/-- Only a renderable property of a component declares anything. -/
def addPropertyTag (graph : DeclaredGraph) (property : Property) (target : Target) (span : Span) :
    DeclaredGraph :=
  match property.owner with
  | none => graph
  | some owner =>
      if property.renderable then
        let graph := graph.addSlotTarget property.id target span
        if target.kind = .wildcard then graph
        else
          graph.addEdge { source := owner, target := target, span := span, via := some property.id }
      else graph

def unresolvedFinding (tag : Tag) : Finding where
  kind := .unresolvedTarget
  span := tag.span
  message := s!"Render target '{tag.target}' does not name a property or a known component"
  details := [("target", .text tag.target), ("reason", .text "no matching declaration")]

def addTag (arena : Arena) (graph : DeclaredGraph) (tag : Tag) : Except Arena.Fault DeclaredGraph :=
  match tag.resolved with
  | none => .ok graph
  | some target =>
      if target.kind = .unresolved then
        .ok { graph with findings := graph.findings ++ [unresolvedFinding tag] }
      else
        match tag.owner with
        | .component id => .ok (graph.addComponentTag id target tag.span)
        | .property id => do
            let property ← arena.property id
            return graph.addPropertyTag property target tag.span

/-- The graph that the resolved tags of an arena declare. -/
def ofArena (arena : Arena) : Except Arena.Fault DeclaredGraph :=
  arena.tags.foldlM (addTag arena) empty

end DeclaredGraph

end RenderAudit
