import RenderAudit.Shape

/-!
The properties of props types: members of object types and interfaces, gathered through aliases,
intersections and extends clauses.
-/

namespace RenderAudit

/-- A declared property. The implied `children` have neither node nor place. -/
structure PropertyInfo where
  name : String
  typeText : Option String
  node : Option Nat
  span : Option Span
deriving DecidableEq, Repr

def childrenName : String := "children"

/-- The properties of `first`, then those of `second` with new names. -/
def mergeProperties (first second : List PropertyInfo) : List PropertyInfo :=
  first ++ second.filter fun info => !(first.map (·.name)).contains info.name

def impliedChildren : PropertyInfo := ⟨childrenName, some "React.ReactNode", none, none⟩

def isQuote (c : Char) : Bool :=
  c == '\'' || c == '"'

namespace SourceUnit

/-- The text of a property name without the quotes around it. -/
def unquoted (unit : SourceUnit) (node : Node) : String :=
  String.ofList (Text.strip isQuote (unit.chars node))

def propertyInfo? (unit : SourceUnit) (node : Node) : Option PropertyInfo :=
  (node.withField? "name").map fun name =>
    { name := unit.unquoted name
      typeText := ((node.withField? "type").bind Node.annotatedType?).map unit.text
      node := some node.id
      span := some (unit.span node) }

/-- The properties that an object type or the body of an interface lists. -/
def memberProperties (unit : SourceUnit) (node : Node) : List PropertyInfo :=
  (node.namedChildren.filter (·.kind == "property_signature")).filterMap unit.propertyInfo?

/-- The names of the properties declared beside a property. -/
def siblingNames (unit : SourceUnit) (property : Node) (above : List Node) : List String :=
  match above with
  | [] => []
  | parent :: _ =>
      ((parent.namedChildren.filter fun member =>
        member.kind == "property_signature" && member.id != property.id).filterMap
          unit.propertyInfo?).map (·.name)

/-- Properties together with the type names that were expanded for them. -/
abbrev Gathered := List PropertyInfo × List String

/-- Gathers from several types and merges what they give, in order. -/
def gatherAll (gather : List String → Node → Except Nesting Gathered) (start : Gathered)
    (types : List Node) : Except Nesting Gathered :=
  types.foldlM
    (fun (properties, visited) node => do
      let (more, visited) ← gather visited node
      return (mergeProperties properties more, visited))
    start

/-- The properties of a named type; a name that was expanded before adds nothing. -/
def gatherNamed (unit : SourceUnit) (gather : List String → Node → Except Nesting Gathered)
    (visited : List String) (name : String) : Except Nesting Gathered :=
  match unit.typeDeclaration? name with
  | none => .ok ([], visited)
  | some declaration =>
      if visited.contains name then .ok ([], visited)
      else
        let visited := name :: visited
        let gatherField (field : String) : Except Nesting Gathered :=
          match declaration.withField? field with
          | none => .ok ([], visited)
          | some node => gather visited node
        if declaration.kind == "type_alias_declaration" then gatherField "value"
        else do
          let own ← gatherField "body"
          gatherAll gather own
            ((declaration.namedChildren.filter (·.kind == "extends_type_clause")).flatMap
              Node.namedChildren)

/-- The last part of a dotted name. -/
def lastPart (name : String) : String :=
  String.ofList ((name.toList.splitOn '.').getLast?.getD [])

/-- The properties of a type, where the names in `visited` are expanded already. -/
def gather (unit : SourceUnit) : Nat → List String → Node → Except Nesting Gathered
  | 0, _, _ => .error .tooDeep
  | limit + 1, visited, node =>
      if node.isOneOf ["object_type", "interface_body"] then
        .ok (unit.memberProperties node, visited)
      else if node.kind == "type_identifier" then
        unit.gatherNamed (gather unit limit) visited (unit.text node)
      else if node.kind == "generic_type" then
        let name := ((node.withField? "name").map unit.text).getD ""
        if lastPart name = "PropsWithChildren" then do
          let (properties, visited) ←
            match node.firstTypeArgument? with
            | none => pure ([], visited)
            | some argument => gather unit limit visited argument
          return (mergeProperties properties [impliedChildren], visited)
        else unit.gatherNamed (gather unit limit) visited name
      else if node.kind == "intersection_type" then
        gatherAll (gather unit limit) ([], visited) node.namedChildren
      else if node.kind == "parenthesized_type" then
        match node.namedChildren with
        | [] => .ok ([], visited)
        | inner :: _ => gather unit limit visited inner
      else .ok ([], visited)

/-- The properties of a component. -/
def properties (unit : SourceUnit) (shape : Shape) : Except Nesting (List PropertyInfo) :=
  match shape.propsType with
  | none => .ok []
  | some node => (unit.gather nestingLimit [] node).map Prod.fst

end SourceUnit

end RenderAudit
