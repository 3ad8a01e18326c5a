import RenderAudit.Text.Lowercase

/-!
What a component renders: another component, one of its properties, a host element, something
from outside of the source, or anything at all.
-/

namespace RenderAudit

inductive TargetKind where
  | component
  | property
  | intrinsic
  | external
  | wildcard
  | unresolved
deriving DecidableEq, Repr

def TargetKind.name : TargetKind → String
  | .component => "component"
  | .property => "property"
  | .intrinsic => "intrinsic"
  | .external => "external"
  | .wildcard => "wildcard"
  | .unresolved => "unresolved"

def TargetKind.ofName? (text : String) : Option TargetKind :=
  [.component, .property, .intrinsic, .external, .wildcard, .unresolved].find? (·.name = text)

/-- A reference; `ref` is the id of a component or of a property. -/
structure Target where
  kind : TargetKind
  name : String := ""
  ref : Option Nat := none
deriving DecidableEq, Repr

/-- The identity of a target. Names from outside of the source have one key, resolved or not, so
that a declared one matches an element of that name. -/
inductive Key where
  | component (ref : Option Nat)
  | property (ref : Option Nat)
  | intrinsic (name : String)
  | external (name : String)
  | wildcard (name : String)
deriving DecidableEq, Repr

namespace Key

def kindName : Key → String
  | .component _ => "component"
  | .property _ => "property"
  | .intrinsic _ => "intrinsic"
  | .external _ => "external"
  | .wildcard _ => "wildcard"

def ref? : Key → Option Nat
  | .component ref | .property ref => ref
  | _ => none

def name : Key → String
  | .intrinsic name | .external name | .wildcard name => name
  | _ => ""

/-- Two keys of one kind of which only one has an id. The fault tells which of them has none. -/
inductive Fault where
  | missingFirst
  | missingSecond
deriving DecidableEq, Repr

def Fault.message : Fault → String
  | .missingFirst => "'<' not supported between instances of 'NoneType' and 'int'"
  | .missingSecond => "'<' not supported between instances of 'int' and 'NoneType'"

/-- Keys are ordered by the name of their kind, then by id or by name. There is no order between an
id and a missing one. -/
def order (first second : Key) : Except Fault Ordering :=
  match compare first.kindName second.kindName with
  | .lt => .ok .lt
  | .gt => .ok .gt
  | .eq =>
      match first.ref?, second.ref? with
      | some id, some other => .ok (compare id other)
      | none, none => .ok (compare first.name second.name)
      | none, some _ => .error .missingFirst
      | some _, none => .error .missingSecond

end Key

namespace Target

def key (target : Target) : Key :=
  match target.kind with
  | .component => .component target.ref
  | .property => .property target.ref
  | .intrinsic => .intrinsic target.name
  | .external | .unresolved => .external target.name
  | .wildcard => .wildcard target.name

/-- Nothing is known about what such a target renders. -/
def isOpaque (target : Target) : Bool :=
  target.kind = .external || target.kind = .unresolved

def label (target : Target) : String :=
  match target.kind with
  | .intrinsic => s!"<{target.name}>"
  | .wildcard => "*"
  | _ => target.name

def component (id : Nat) (name : String) : Target := ⟨.component, name, some id⟩

def property (id : Nat) (name : String) : Target := ⟨.property, name, some id⟩

def intrinsic (name : String) : Target := ⟨.intrinsic, name, none⟩

def external (name : String) : Target := ⟨.external, name, none⟩

def wildcard : Target := ⟨.wildcard, "", none⟩

def unresolved (name : String) : Target := ⟨.unresolved, name, none⟩

end Target

/-- Host elements start with a lower-case character or hold a dash. -/
def isIntrinsicName (name : String) : Bool :=
  match name.toList with
  | [] => false
  | c :: rest => Text.isLowercase c || (c :: rest).contains '-'

end RenderAudit
