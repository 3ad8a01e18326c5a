import RenderAudit.Arena
import RenderAudit.SourceUnit

/-!
Definitions that can be components: functions, variables that hold a function, and classes with a
render method.
-/

namespace RenderAudit

/-- A definition that can be a component. `propsParam` is the pattern of its first parameter,
`propsType` the type of its props. -/
structure Shape where
  name : String
  kind : ComponentKind
  body : Option Node
  propsParam : Option Node
  propsType : Option Node

namespace Node

/-- The type inside of the colon and type that follow a name. -/
def annotatedType? (node : Node) : Option Node :=
  if node.kind == "type_annotation" then node.namedChildren.head? else some node

/-- The first type argument of a generic type or of an extends clause. -/
def firstTypeArgument? (node : Node) : Option Node :=
  ((node.withField? "type_arguments").or (node.namedOfKind? "type_arguments")).bind
    (·.namedChildren.head?)

/-- The pattern and the type of the first parameter of a function. -/
def firstParameter (function : Node) : Option Node × Option Node :=
  match function.withField? "parameter" with
  | some single => (some single, none)
  | none =>
      match (function.withField? "parameters").bind (·.namedChildren.head?) with
      | none => (none, none)
      | some first =>
          if first.isOneOf ["required_parameter", "optional_parameter"] then
            (first.withField? "pattern", (first.withField? "type").bind annotatedType?)
          else if first.isOneOf ["identifier", "object_pattern"] then (some first, none)
          else (none, none)

/-- The function that a value is, inside of parentheses and of calls such as `memo(...)`. -/
def functionValue? : Nat → Node → Except Nesting (Option Node)
  | 0, _ => .error .tooDeep
  | limit + 1, value =>
      if value.isOneOf ["arrow_function", "function_expression", "function"] then .ok (some value)
      else if value.kind == "parenthesized_expression" then
        match value.namedChildren with
        | [] => .ok none
        | inner :: _ => functionValue? limit inner
      else if value.kind == "call_expression" then
        match value.withField? "arguments" with
        | none => .ok none
        | some arguments => arguments.namedChildren.findSomeM? (functionValue? limit)
      else .ok none

/-- The type argument of the first extends clause of a class. -/
def heritageType? (node : Node) : Option Node :=
  ((node.namedChildren.filter (·.kind == "class_heritage")).flatMap fun heritage =>
    heritage.namedChildren.filter (·.kind == "extends_clause")).head?.bind firstTypeArgument?

end Node

namespace SourceUnit

/-- The body of the first method named `render`. -/
def renderBody? (unit : SourceUnit) (node : Node) : Option Node :=
  ((node.withField? "body").bind fun body =>
    body.namedChildren.find? fun member =>
      member.kind == "method_definition" &&
        ((member.withField? "name").map unit.text == some "render")).bind (·.withField? "body")

def functionShape (unit : SourceUnit) (node name : Node) : Shape :=
  let (propsParam, propsType) := node.firstParameter
  { name := unit.text name
    kind := .functional
    body := node.withField? "body"
    propsParam := propsParam
    propsType := propsType }

/-- The props type of `const A: FC<Props> = ...`. -/
def declaredPropsType? (node : Node) : Option Node :=
  (((node.withField? "type").bind Node.annotatedType?).filter (·.kind == "generic_type")).bind
    Node.firstTypeArgument?

def variableShape? (unit : SourceUnit) (node : Node) : Except Nesting (Option Shape) := do
  let value ←
    match node.withField? "value" with
    | none => pure none
    | some value => value.functionValue? nestingLimit
  match (node.withField? "name").filter (·.kind == "identifier"), value with
  | some name, some function =>
      let shape := unit.functionShape function name
      return some { shape with propsType := shape.propsType.or (declaredPropsType? node) }
  | _, _ => return none

def classShape (unit : SourceUnit) (node name : Node) : Shape where
  name := unit.text name
  kind := .classBased
  body := unit.renderBody? node
  propsParam := none
  propsType := node.heritageType?

/-- The definition at a node, if it can be a component. -/
def shape? (unit : SourceUnit) (node : Node) : Except Nesting (Option Shape) :=
  if node.isOneOf ["function_declaration", "generator_function_declaration"] then
    .ok ((node.withField? "name").map (unit.functionShape node))
  else if node.kind == "variable_declarator" then unit.variableShape? node
  else if node.isOneOf ["class_declaration", "abstract_class_declaration", "class"] then
    .ok ((node.withField? "name").map (unit.classShape node))
  else .ok none

end SourceUnit

end RenderAudit
