import RenderAudit.Arena
import RenderAudit.Finding
import RenderAudit.Forwarding

/-!
The actual graph: what components are seen to render, directly or through the properties of others.
Of several ways from a component to a target the shortest is kept.
-/

namespace RenderAudit

inductive EdgePath where
  | direct
  | viaProperty (depth : Nat)
deriving DecidableEq, Repr

namespace EdgePath

def depth : EdgePath → Nat
  | .direct => 0
  | .viaProperty depth => depth

def name : EdgePath → String
  | .direct => "direct"
  | .viaProperty _ => "via_property"

def describe : EdgePath → String
  | .direct => "direct"
  | .viaProperty depth => s!"via property ({depth})"

end EdgePath

/-- An observed composition; `slot` is where the content was supplied to. -/
structure ActualEdge where
  source : Nat
  target : Target
  path : EdgePath
  span : Span
  slot : Option Slot
deriving DecidableEq, Repr

namespace ActualEdge

/-- Shorter paths come first, then earlier places. -/
def precedence : ActualEdge → ActualEdge → Ordering :=
  compareLex (compareOn (·.path.depth)) (fun a b => a.span.order b.span)

/-- Edges are listed by place, then by target. -/
def listing (first second : ActualEdge) : Except Key.Fault Ordering :=
  match first.span.order second.span with
  | .lt => .ok .lt
  | .gt => .ok .gt
  | .eq => first.target.key.order second.target.key

/-- Enters an edge: of two with one target the first stays unless the second precedes it. -/
def keep (edge : ActualEdge) : List ActualEdge → List ActualEdge
  | [] => [edge]
  | current :: rest =>
      if current.target.key = edge.target.key then
        (if (precedence edge current).isLT then edge else current) :: rest
      else current :: keep edge rest

end ActualEdge

namespace ComponentUsage

/-- The ways to what a component renders: its own instantiations, then the members of the groups
whose content is rendered somewhere. -/
def candidates (usages : Usages) (bound : Nat) (usage : ComponentUsage) : List ActualEdge :=
  usage.direct.map (fun instantiation =>
    { source := usage.component, target := instantiation.target, path := .direct,
      span := instantiation.span, slot := none }) ++
  usage.groups.flatMap fun group =>
    match (resolveSlot usages bound group.slot).depth with
    | none => []
    | some depth =>
        group.members.map fun member =>
          { source := usage.component, target := member.target, path := .viaProperty depth,
            span := member.span, slot := some group.slot }

/-- The edges of a component in the order in which their targets are met. -/
def edges (usages : Usages) (bound : Nat) (usage : ComponentUsage) : List ActualEdge :=
  if usage.walked then
    (usage.candidates usages bound).foldl (fun kept edge => edge.keep kept) []
  else []

end ComponentUsage

namespace SupplyGroup

def isEmpty (group : SupplyGroup) : Bool :=
  group.members.isEmpty && group.forwards.isEmpty

end SupplyGroup

namespace ComponentUsage

/-- The edges of a component may be incomplete: it was not traced, it instantiates something from
outside, or content that it supplies cannot be followed to its end. -/
def uncertain (usages : Usages) (bound : Nat) (usage : ComponentUsage) : Bool :=
  !usage.walked || usage.direct.any (·.target.isOpaque) ||
    usage.groups.any fun group =>
      !group.isEmpty &&
        ((resolveSlot usages bound group.slot).unknown ||
          (resolveSlot usages bound group.slot).exceeded)

end ComponentUsage

structure ActualGraph where
  bound : Nat
  usages : Usages
  edges : Table Nat (List ActualEdge)
  uncertain : List Nat

inductive Reach where
  | reached
  | notReached
  | incomplete
deriving DecidableEq, Repr

def Reach.name : Reach → String
  | .reached => "reached"
  | .notReached => "not_reached"
  | .incomplete => "incomplete"

namespace ActualGraph

def ofUsages (bound : Nat) (usages : Usages) : ActualGraph where
  bound := bound
  usages := usages
  edges := ⟨usages.map fun usage => (usage.component, usage.edges usages bound)⟩
  uncertain := (usages.filter (·.uncertain usages bound)).map (·.component)

def resolve (graph : ActualGraph) (slot : Slot) : SlotResolution :=
  resolveSlot graph.usages graph.bound slot

def edgesOf (graph : ActualGraph) (source : Nat) : List ActualEdge :=
  (graph.edges.get? source).getD []

/-- The edges of a component in the order of their places, unless two of them have no order. -/
def edgesFrom (graph : ActualGraph) (source : Nat) : Except Key.Fault (List ActualEdge) :=
  sortChecked ActualEdge.listing (graph.edgesOf source)

def allEdges (graph : ActualGraph) : Except Key.Fault (List ActualEdge) := do
  let listed ← graph.edges.entries.mapM fun (source, _) => graph.edgesFrom source
  return listed.flatten

def hasEdge (graph : ActualGraph) (source : Nat) (key : Key) : Bool :=
  (graph.edgesOf source).any (·.target.key = key)

def groupsOf (graph : ActualGraph) (component : Nat) : List SupplyGroup :=
  match graph.usages.get? component with
  | some usage => usage.groups
  | none => []

def wasWalked (graph : ActualGraph) (component : Nat) : Bool :=
  (graph.usages.walked? component).isSome

def isUncertain (graph : ActualGraph) (component : Nat) : Bool :=
  graph.uncertain.contains component

/-- The components that edges lead to. One that is named without an id is a component too, about
which nothing more is known. -/
def successors (edges : List ActualEdge) : List (Option Nat) :=
  edges.filterMap fun edge =>
    if edge.target.kind = .component then some edge.target.ref else none

/-- Looks for an edge with the given key, component by component. If there is none, the result is
what the edges lead to. -/
def scan (graph : ActualGraph) (key : Key) :
    List Nat → Except Key.Fault (Option (List (Option Nat)))
  | [] => .ok (some [])
  | component :: rest => do
      let edges ← graph.edgesFrom component
      if edges.any (·.target.key = key) then return none
      else return (← scan graph key rest).map (successors edges ++ ·)

/-- Searches for an edge with the given key in rounds; each round looks at the components that the
one before it met first. -/
def search (graph : ActualGraph) (key : Key) :
    Nat → List (Option Nat) → List (Option Nat) → Bool → Except Key.Fault Reach
  | 0, _, _, _ => .ok .incomplete
  | rounds + 1, seen, frontier, doubtful => do
      let known := frontier.filterMap id
      match ← graph.scan key known with
      | none => return .reached
      | some met =>
          let doubtful := doubtful || known.any graph.isUncertain
          let next := firstsBy id seen met
          if next.isEmpty then return if doubtful then .incomplete else .notReached
          else search graph key rounds (next ++ seen) next doubtful

/-- Whether a component renders a target, itself or through the components that it renders. -/
def reaches (graph : ActualGraph) (source : Nat) (key : Key) : Except Key.Fault Reach :=
  graph.search key graph.bound [some source] [some source] false

def cycleFinding (graph : ActualGraph) (arena : Arena) (component : Nat) (group : SupplyGroup) :
    Except Arena.Fault Finding := do
  let source := (← arena.component component).name
  let owner := (← arena.component group.slot.owner).name
  let property := group.slot.property
  return {
    kind := .cycleDepthExceeded
    span := group.span
    message :=
      s!"Content supplied by {source} to '{owner}.{property}' is forwarded in a cycle or beyond " ++
        s!"the depth bound of {graph.bound}"
    details := [("source", .text source), ("owner", .text owner), ("property", .text property),
      ("bound", .number graph.bound)] }

/-- The groups of a component whose content is forwarded without end. -/
def cyclicGroups (graph : ActualGraph) (usage : ComponentUsage) : List SupplyGroup :=
  if usage.walked then
    usage.groups.filter fun group =>
      !group.members.isEmpty && (graph.resolve group.slot).exceeded
  else []

/-- Content that is forwarded without end is reported where it is supplied. -/
def cycleFindings (graph : ActualGraph) (arena : Arena) : Except Arena.Fault (List Finding) :=
  (graph.usages.flatMap fun usage =>
    (graph.cyclicGroups usage).map fun group => (usage.component, group)).mapM
      fun (component, group) => graph.cycleFinding arena component group

end ActualGraph

end RenderAudit
