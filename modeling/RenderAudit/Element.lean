import RenderAudit.SourceUnit

/-!
JSX elements: their names, attributes and children.
-/

namespace RenderAudit

/-- An attribute of an element. A spread has no name, a bare attribute no value. -/
structure Attribute where
  name : Option String
  value : Option Node

namespace Node

def isElement (node : Node) : Bool :=
  node.isOneOf ["jsx_element", "jsx_self_closing_element", "jsx_fragment"]

def openingTag? (element : Node) : Option Node :=
  if element.kind == "jsx_self_closing_element" then some element
  else if element.kind == "jsx_element" then
    (element.withField? "open_tag").or (element.namedOfKind? "jsx_opening_element")
  else none

/-- The children of an element that can hold content. -/
def elementChildren (element : Node) : List Node :=
  if element.kind == "jsx_self_closing_element" then []
  else
    element.namedChildren.filter fun child =>
      !child.isOneOf ["jsx_opening_element", "jsx_closing_element", "jsx_text",
        "html_character_reference", "comment"]

end Node

namespace SourceUnit

/-- The name of an element as written; fragments have none. -/
def elementName? (unit : SourceUnit) (element : Node) : Option String :=
  (element.openingTag?.bind (·.withField? "name")).map unit.text

def attribute? (unit : SourceUnit) (node : Node) : Option Attribute :=
  if node.kind == "jsx_attribute" then
    match node.namedChildren with
    | [] => none
    | name :: rest => some ⟨some (unit.text name), rest.head?⟩
  else if node.kind == "jsx_expression" then some ⟨none, some node⟩
  else none

def attributes (unit : SourceUnit) (element : Node) : List Attribute :=
  match element.openingTag? with
  | none => []
  | some tag =>
      let name := (tag.withField? "name").map (·.id)
      (tag.namedChildren.filter fun child => some child.id != name).filterMap unit.attribute?

end SourceUnit

end RenderAudit
