import RenderAudit.Span
import RenderAudit.Table
import RenderAudit.Target

/-!
The declarations of one source: components, properties and render tags, each known by its position.
Two indexes answer the common questions: the first component of a name, and the properties of a
component.
-/

namespace RenderAudit

inductive ComponentKind where
  | functional
  | classBased
deriving DecidableEq, Repr

def ComponentKind.name : ComponentKind → String
  | .functional => "function"
  | .classBased => "class"

structure Component where
  id : Nat
  name : String
  span : Span
  kind : ComponentKind
deriving DecidableEq, Repr

/-- A property of a component's props, or of a props type that no component uses. `node` is the
signature that declares it; `siblings` are the properties declared beside it, where only their
names are known. The owner need not exist, so any integer can stand for it. -/
structure Property where
  id : Nat
  name : String
  owner : Option Int
  renderable : Bool
  typeText : Option String := none
  span : Option Span := none
  tags : List Nat := []
  node : Option Nat := none
  siblings : Option (List String) := none
deriving DecidableEq, Repr

/-- What a tag is said to stand on, whether it exists or not. -/
inductive TagOwner where
  | component (id : Int)
  | property (id : Int)
deriving DecidableEq, Repr

/-- A render tag; the empty target stands for arbitrary content. -/
structure Tag where
  id : Nat
  owner : TagOwner
  target : String
  span : Span
  description : String := ""
  resolved : Option Target := none
deriving DecidableEq, Repr

structure Arena where
  components : List Component
  properties : List Property
  tags : List Tag
  byName : Table String Nat
  byOwner : Table Int (List Nat)

namespace Arena

/-- A question about a declaration that does not exist. -/
inductive Fault where
  | outOfRange
deriving DecidableEq, Repr

def Fault.message : Fault → String
  | .outOfRange => "list index out of range"

def empty : Arena := ⟨[], [], [], Table.empty, Table.empty⟩

def addComponent (arena : Arena) (name : String) (span : Span) (kind : ComponentKind) :
    Component × Arena :=
  let component := { id := arena.components.length, name := name, span := span, kind := kind }
  (component,
    { arena with
      components := arena.components ++ [component]
      byName := arena.byName.insertIfNew name component.id })

/-- Adds a property; its id and its tags are set here. -/
def addProperty (arena : Arena) (draft : Property) : Property × Arena :=
  let property := { draft with id := arena.properties.length, tags := [] }
  let byOwner :=
    match property.owner with
    | none => arena.byOwner
    | some owner =>
        arena.byOwner.insert owner ((arena.byOwner.get? owner).getD [] ++ [property.id])
  (property, { arena with properties := arena.properties ++ [property], byOwner := byOwner })

/-- The position that an index means among so many entries. A negative index counts from the end. -/
def position? (length : Nat) : Int → Option Nat
  | .ofNat index => if index < length then some index else none
  | .negSucc back => if back < length then some (length - 1 - back) else none

def recordTag (tag : Nat) (property : Property) : Property :=
  { property with tags := property.tags ++ [tag] }

/-- Adds a tag. The tag of a property that does not exist is stored, but belongs to nothing. A
negative owner means a property counted from the last one that there is. -/
def addTag (arena : Arena) (owner : TagOwner) (target : String) (span : Span)
    (description : String) : Except Fault Tag × Arena :=
  let tag :=
    { id := arena.tags.length, owner := owner, target := target, span := span,
      description := description : Tag }
  let stored := { arena with tags := arena.tags ++ [tag] }
  match owner with
  | .component _ => (.ok tag, stored)
  | .property id =>
      match position? arena.properties.length id with
      | some position =>
          (.ok tag, { stored with
            properties := stored.properties.modify position (recordTag tag.id) })
      | none => (.error .outOfRange, stored)

def component (arena : Arena) (id : Nat) : Except Fault Component :=
  match arena.components[id]? with
  | some component => .ok component
  | none => .error .outOfRange

def property (arena : Arena) (id : Int) : Except Fault Property :=
  match (position? arena.properties.length id).bind (arena.properties[·]?) with
  | some property => .ok property
  | none => .error .outOfRange

def componentNamed? (arena : Arena) (name : String) : Option Component :=
  (arena.byName.get? name).bind (arena.components[·]?)

def propertiesOf (arena : Arena) (owner : Int) : List Property :=
  ((arena.byOwner.get? owner).getD []).filterMap (arena.properties[·]?)

def propertyOf? (arena : Arena) (owner : Int) (name : String) : Option Property :=
  (arena.propertiesOf owner).find? (·.name = name)

def componentTags (arena : Arena) (id : Int) : List Tag :=
  arena.tags.filter (·.owner = .component id)

def propertyTags (arena : Arena) (id : Int) : Except Fault (List Tag) := do
  let property ← arena.property id
  return property.tags.filterMap (arena.tags[·]?)

/-- Whether content supplied to a property of a component can be rendered. -/
def acceptsContent (arena : Arena) (owner : Nat) (name : String) : Bool :=
  (arena.propertyOf? owner name).any (·.renderable)

end Arena

end RenderAudit
