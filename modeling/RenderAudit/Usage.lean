import RenderAudit.Sorted
import RenderAudit.Span
import RenderAudit.Target

/-!
What is observed in the implementation of a component: what it instantiates, what it supplies to
the properties of other components, and how it uses its own.
-/

namespace RenderAudit

/-- A property of a component that content can be supplied to. -/
structure Slot where
  owner : Nat
  property : String
deriving DecidableEq, Repr

def Slot.order : Slot → Slot → Ordering :=
  compareLex (compareOn (·.owner)) (compareOn (·.property))

/-- How a component uses a property of its own: it renders the content, forwards it to a slot, or
hands it to something that cannot be traced. Uses of the last two kinds may name the slot that they
were seen at, which keeps them apart and has no further effect. -/
inductive PropUse where
  | forward (slot : Slot)
  | render (seenAt : Option Slot)
  | unknown (seenAt : Option Slot)
deriving DecidableEq, Repr

namespace PropUse

def name : PropUse → String
  | .forward _ => "forward"
  | .render _ => "render"
  | .unknown _ => "unknown"

def slot? : PropUse → Option Slot
  | .forward slot => some slot
  | .render seenAt | .unknown seenAt => seenAt

/-- The place of a kind of use among the others. -/
def rank : PropUse → Nat
  | .forward _ => 0
  | .render _ => 1
  | .unknown _ => 2

/-- A missing slot comes before all others. -/
def slotOrder : Option Slot → Option Slot → Ordering
  | none, none => .eq
  | none, some _ => .lt
  | some _, none => .gt
  | some a, some b => a.order b

/-- Uses are ordered by their kind, then by their slot. -/
def order : PropUse → PropUse → Ordering :=
  compareLex (compareOn rank) (fun a b => slotOrder a.slot? b.slot?)

end PropUse

structure Instantiation where
  target : Target
  span : Span
deriving DecidableEq, Repr

/-- Content supplied to a slot at one place: what it instantiates, and which properties of the
supplying component it passes on. -/
structure SupplyGroup where
  id : Nat
  slot : Slot
  span : Span
  members : List Instantiation
  forwards : List String
deriving DecidableEq, Repr

structure ComponentUsage where
  component : Nat
  walked : Bool
  direct : List Instantiation
  groups : List SupplyGroup
  uses : List (String × PropUse)
deriving DecidableEq, Repr

namespace ComponentUsage

/-- Nothing is known of a component that could not be traced. -/
def untraced (component : Nat) : ComponentUsage := ⟨component, false, [], [], []⟩

/-- The different uses of a property in order. -/
def usesOf (usage : ComponentUsage) (property : String) : List PropUse :=
  sortBy PropUse.order
    (firstsBy id [] ((usage.uses.filter (·.1 = property)).map Prod.snd))

@[simp]
theorem mem_usesOf {usage : ComponentUsage} {property : String} {use : PropUse} :
    use ∈ usage.usesOf property ↔ (property, use) ∈ usage.uses := by
  simp [usesOf]

/-- The properties that are used, in order. -/
def usedProperties (usage : ComponentUsage) : List String :=
  sortBy compare (firstsBy id [] (usage.uses.map Prod.fst))

end ComponentUsage

/-- The usages of the components of a source. -/
abbrev Usages := List ComponentUsage

namespace Usages

def get? (usages : Usages) (component : Nat) : Option ComponentUsage :=
  usages.find? (·.component = component)

theorem mem_of_get?_eq_some {usages : Usages} {component : Nat} {usage : ComponentUsage}
    (hget : usages.get? component = some usage) : usage ∈ usages ∧ usage.component = component :=
  ⟨List.mem_of_find?_eq_some hget, by simpa using List.find?_some hget⟩

/-- The usage of a component that could be traced. -/
def walked? (usages : Usages) (component : Nat) : Option ComponentUsage :=
  (usages.get? component).filter (·.walked)

theorem walked?_eq_some_iff {usages : Usages} {component : Nat} {usage : ComponentUsage} :
    usages.walked? component = some usage ↔
      usages.get? component = some usage ∧ usage.walked = true := by
  simp [walked?, Option.filter_eq_some_iff]

/-- One usage for each component, by ascending id; of several the last counts. -/
def normalize (usages : Usages) : Usages :=
  sortBy (compareOn (·.component)) (firstsBy (·.component) [] usages.reverse)

end Usages

end RenderAudit
