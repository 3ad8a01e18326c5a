import RenderAudit.Props
import RenderAudit.Table

/-!
The names under which the body of a component knows its props.
-/

namespace RenderAudit

/-- `aliases` are local names of single props, `objects` are names of the props object or of what
is left of it; `thisProps` says that `this.props` is the props object too. -/
structure Bindings where
  aliases : Table String String
  objects : List String
  thisProps : Bool

namespace Bindings

def addAlias (bindings : Bindings) (name property : String) : Bindings :=
  { bindings with aliases := bindings.aliases.insert name property }

def addObject (bindings : Bindings) (name : String) : Bindings :=
  { bindings with objects := name :: bindings.objects }

end Bindings

namespace SourceUnit

/-- One entry of a destructuring pattern. -/
def bindEntry (unit : SourceUnit) (bindings : Bindings) (entry : Node) : Bindings :=
  if entry.kind == "shorthand_property_identifier_pattern" then
    bindings.addAlias (unit.text entry) (unit.text entry)
  else if entry.kind == "pair_pattern" then
    match entry.withField? "key", entry.withField? "value" with
    | some key, some value =>
        let inner := if value.kind == "assignment_pattern" then value.withField? "left" else some value
        match inner.filter (·.kind == "identifier") with
        | some name => bindings.addAlias (unit.text name) (unit.unquoted key)
        | none => bindings
    | _, _ => bindings
  else if entry.kind == "object_assignment_pattern" then
    match (entry.withField? "left").filter (·.kind == "shorthand_property_identifier_pattern") with
    | some name => bindings.addAlias (unit.text name) (unit.text name)
    | none => bindings
  else if entry.kind == "rest_pattern" then
    (entry.namedChildren.filter (·.kind == "identifier")).foldl
      (fun bindings name => bindings.addObject (unit.text name)) bindings
  else bindings

def bindPattern (unit : SourceUnit) (bindings : Bindings) (pattern : Node) : Bindings :=
  pattern.namedChildren.foldl unit.bindEntry bindings

def isThisProps (unit : SourceUnit) (bindings : Bindings) (node : Node) : Bool :=
  bindings.thisProps && node.kind == "member_expression" && unit.text node == "this.props"

def isPropsObject (unit : SourceUnit) (bindings : Bindings) (node : Node) : Bool :=
  if node.kind == "identifier" then bindings.objects.contains (unit.text node)
  else unit.isThisProps bindings node

/-- A declaration that takes the props object apart. -/
def bindDeclarator (unit : SourceUnit) (bindings : Bindings) (node : Node) : Bindings :=
  if node.kind == "variable_declarator" then
    match (node.withField? "name").filter (·.kind == "object_pattern"), node.withField? "value" with
    | some pattern, some value =>
        if unit.isPropsObject bindings value then unit.bindPattern bindings pattern else bindings
    | _, _ => bindings
  else bindings

def bindParameter (unit : SourceUnit) (bindings : Bindings) (pattern : Node) : Bindings :=
  if pattern.kind == "identifier" then bindings.addObject (unit.text pattern)
  else if pattern.kind == "object_pattern" then unit.bindPattern bindings pattern
  else bindings

/-- What the first parameter and the declarations in the body bind, in order. -/
def bindings (unit : SourceUnit) (shape : Shape) : Bindings :=
  let start : Bindings := ⟨Table.empty, [], shape.kind = .classBased⟩
  let start :=
    match shape.propsParam with
    | none => start
    | some pattern => unit.bindParameter start pattern
  match shape.body with
  | none => start
  | some body => body.namedNodes.foldl unit.bindDeclarator start

/-- The prop that a node reads, if it is a plain read. -/
def propReference? (unit : SourceUnit) (bindings : Bindings) (node : Node) : Option String :=
  if node.kind == "identifier" then bindings.aliases.get? (unit.text node)
  else if node.kind == "member_expression" then
    match node.withField? "object",
      (node.withField? "property").filter (·.kind == "property_identifier") with
    | some object, some property =>
        if (object.kind == "identifier" && bindings.objects.contains (unit.text object)) ||
            unit.isThisProps bindings object then
          some (unit.text property)
        else none
    | _, _ => none
  else none

end SourceUnit

end RenderAudit
