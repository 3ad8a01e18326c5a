import RenderAudit.Bindings
import RenderAudit.Element
import RenderAudit.Resolver
import RenderAudit.Usage

/-!
The content that the body of a component shows. Content may be supplied to a slot of another
component, or handed to something that cannot be traced; the rest is rendered by the component
itself.
-/

namespace RenderAudit

/-- Why a body cannot be read to its end. -/
inductive TraceFault where
  | tooDeep
  | resolver (name : String)
deriving DecidableEq, Repr

inductive Content where
  | instantiation (value : Instantiation)
  | prop (name : String)
  | supply (slot : Slot) (span : Span) (inner : List Content)
  | handOver (inner : List Content)
  | broken (fault : TraceFault)

/-- Where content ends up: with the component itself, in a slot, or out of sight. -/
inductive Placement where
  | own
  | slot (slot : Slot)
  | outOfSight
deriving DecidableEq, Repr

/-- How a prop is used at a placement. -/
def Placement.use : Placement → PropUse
  | .own => .render none
  | .slot supplied => .forward supplied
  | .outOfSight => .unknown none

namespace Content

mutual

/-- Gathers from a piece of content and from all content in it, each with its placement. -/
def collect {α : Type} (gather : Placement → Content → List α) (placement : Placement) :
    Content → List α
  | .supply slot span inner =>
      gather placement (.supply slot span inner) ++ collectAll gather (.slot slot) inner
  | .handOver inner => gather placement (.handOver inner) ++ collectAll gather .outOfSight inner
  | .instantiation value => gather placement (.instantiation value)
  | .prop name => gather placement (.prop name)
  | .broken fault => gather placement (.broken fault)

def collectAll {α : Type} (gather : Placement → Content → List α) (placement : Placement) :
    List Content → List α
  | [] => []
  | content :: rest => collect gather placement content ++ collectAll gather placement rest

end

def instantiation? : Content → Option Instantiation
  | .instantiation value => some value
  | _ => none

def prop? : Content → Option String
  | .prop name => some name
  | _ => none

/-- What a component instantiates outside of the slots of others. -/
def direct (content : List Content) : List Instantiation :=
  collectAll
    (fun placement content =>
      match placement, content with
      | .slot _, _ => []
      | _, .instantiation value => [value]
      | _, _ => [])
    .own content

/-- The supplies in the order in which they are met. -/
def supplies (content : List Content) : List (Slot × Span × List Content) :=
  collectAll
    (fun _ content =>
      match content with
      | .supply slot span inner => [(slot, span, inner)]
      | _ => [])
    .own content

def uses (content : List Content) : List (String × PropUse) :=
  collectAll
    (fun placement content =>
      match content with
      | .prop name => [(name, placement.use)]
      | _ => [])
    .own content

/-- The supply groups, numbered from `first` on. -/
def groups (first : Nat) (content : List Content) : List SupplyGroup :=
  ((supplies content).zipIdx first).map fun ((slot, span, inner), id) =>
    { id := id
      slot := slot
      span := span
      members := inner.filterMap instantiation?
      forwards := inner.filterMap prop? }

/-- What happens on the way through content: a group is opened, a resolver is asked for a name, or
the way ends. -/
inductive Step where
  | opened
  | asked (name : String)
  | stopped (fault : TraceFault)
deriving DecidableEq, Repr

def steps (content : List Content) : List Step :=
  collectAll
    (fun _ content =>
      match content with
      | .supply .. => [.opened]
      | .instantiation value => if value.target.isOpaque then [.asked value.target.name] else []
      | .broken fault =>
          match fault with
          | .resolver name => [.asked name, .stopped fault]
          | .tooDeep => [.stopped fault]
      | _ => [])
    .own content

def Step.isStop : Step → Bool
  | .stopped _ => true
  | _ => false

/-- The steps before the way ends. -/
def stepsTaken (content : List Content) : List Step :=
  (steps content).takeWhile (!·.isStop)

def isComplete (content : List Content) : Bool :=
  !(steps content).any Step.isStop

end Content

/-- The two ways to look at an expression: as a place where markup may occur, or as a value that is
itself content. -/
inductive Reading where
  | scan
  | markup
deriving DecidableEq, Repr

namespace Node

def isFunction (node : Node) : Bool :=
  node.isOneOf ["arrow_function", "function_expression", "function", "function_declaration"]

/-- Expressions whose value is that of what they hold. -/
def passesThrough (node : Node) : Bool :=
  node.isOneOf ["jsx_expression", "parenthesized_expression", "as_expression",
    "satisfies_expression", "non_null_expression", "spread_element", "await_expression", "array"]

/-- A block is scanned for what it returns, any other body is content. -/
def bodyReading (body : Node) : Reading :=
  if body.kind == "statement_block" then .scan else .markup

end Node

/-- What is known while a body is traced. -/
structure Tracer where
  unit : SourceUnit
  arena : Arena
  resolver : Resolver
  bindings : Bindings

namespace Tracer

/-- Reads the child with a field, if there is one. -/
def readField (go : Reading → Node → List Content) (node : Node) (field : String)
    (reading : Reading) : List Content :=
  match node.withField? field with
  | none => []
  | some child => go reading child

def scan (go : Reading → Node → List Content) (node : Node) : List Content :=
  if node.kind == "return_statement" then node.namedChildren.flatMap (go .markup)
  else if node.isFunction then
    match node.withField? "body" with
    | none => []
    | some body => go body.bodyReading body
  else node.namedChildren.flatMap (go .scan)

def readBinary (tracer : Tracer) (go : Reading → Node → List Content) (node : Node) :
    List Content :=
  let operator := ((node.withField? "operator").map tracer.unit.text).getD ""
  if operator = "&&" then readField go node "left" .scan ++ readField go node "right" .markup
  else if operator = "||" || operator = "??" then
    readField go node "left" .markup ++ readField go node "right" .markup
  else node.namedChildren.flatMap (go .scan)

/-- A callback returns into the place of the call, other arguments go out of sight. -/
def readArgument (go : Reading → Node → List Content) (argument : Node) : List Content :=
  if argument.isFunction then go .scan argument else [.handOver (go .markup argument)]

def readCall (go : Reading → Node → List Content) (node : Node) : List Content :=
  readField go node "function" .scan ++
    match node.withField? "arguments" with
    | none => []
    | some arguments => arguments.namedChildren.flatMap (readArgument go)

def markup (tracer : Tracer) (go : Reading → Node → List Content) (node : Node) : List Content :=
  match tracer.unit.propReference? tracer.bindings node with
  | some name => [.prop name]
  | none =>
      if node.passesThrough then node.namedChildren.flatMap (go .markup)
      else if node.kind == "ternary_expression" then
        readField go node "condition" .scan ++ readField go node "consequence" .markup ++
          readField go node "alternative" .markup
      else if node.kind == "binary_expression" then tracer.readBinary go node
      else if node.kind == "call_expression" then readCall go node
      else scan go node

/-- The attribute of an element that stands for a component of the source. -/
def readAttribute (tracer : Tracer) (go : Reading → Node → List Content) (component : Nat)
    (entry : Attribute) : List Content :=
  match entry.value with
  | none => []
  | some value =>
      match entry.name with
      | none => go .scan value
      | some name =>
          if tracer.arena.acceptsContent component name then
            [.supply ⟨component, name⟩ (tracer.unit.span value) (go .markup value)]
          else [.handOver (go .markup value)]

def readChildren (tracer : Tracer) (go : Reading → Node → List Content) (component : Nat)
    (element : Node) : List Content :=
  let content := element.elementChildren.flatMap (go .markup)
  if element.elementChildren.isEmpty then []
  else if tracer.arena.acceptsContent component childrenName then
    [.supply ⟨component, childrenName⟩ (tracer.unit.span element) content]
  else content

/-- What the attributes and children of an element show. -/
def readParts (tracer : Tracer) (go : Reading → Node → List Content) (target : Target)
    (element : Node) : List Content :=
  let attributes := tracer.unit.attributes element
  let values := attributes.filterMap (·.value)
  if target.kind = .intrinsic then
    values.flatMap (go .scan) ++ element.elementChildren.flatMap (go .markup)
  else
    match target.kind, target.ref with
    | .component, some component =>
        attributes.flatMap (tracer.readAttribute go component) ++
          tracer.readChildren go component element
    | _, _ =>
        [.handOver (values.flatMap (go .markup)),
          .handOver (element.elementChildren.flatMap (go .markup))]

def readElement (tracer : Tracer) (go : Reading → Node → List Content) (element : Node) :
    List Content :=
  match tracer.unit.elementName? element with
  | none => element.elementChildren.flatMap (go .markup)
  | some name =>
      match tracer.arena.targetOf? tracer.resolver name with
      | none => [.broken (.resolver name)]
      | some target =>
          .instantiation ⟨target, tracer.unit.span element⟩ :: tracer.readParts go target element

/-- The content that a node shows, read through at most `limit` nested steps. -/
def read (tracer : Tracer) : Nat → Reading → Node → List Content
  | 0, _, _ => [.broken .tooDeep]
  | limit + 1, reading, node =>
      if node.isElement then tracer.readElement (read tracer limit) node
      else
        match reading with
        | .scan => scan (read tracer limit) node
        | .markup => tracer.markup (read tracer limit) node

def readBody (tracer : Tracer) (body : Node) : List Content :=
  tracer.read nestingLimit body.bodyReading body

end Tracer

end RenderAudit
