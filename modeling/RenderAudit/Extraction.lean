import RenderAudit.Config
import RenderAudit.Finding
import RenderAudit.Props
import RenderAudit.TargetSpec

/-!
The declarations of a source, read from the documentation comments of its nodes: components, their
properties, and the render tags of both. Tags that cannot be used become findings.
-/

namespace RenderAudit

/-- A render tag on a property signature, which is attached once all properties are known. `above`
are the nodes above the signature. -/
structure PropertyNote where
  property : Node
  above : List Node
  spec : TargetSpec
  span : Span

/-- What was read so far. The shape at each position belongs to the component of that id. -/
structure Extraction where
  arena : Arena
  shapes : List Shape
  findings : List Finding
  notes : List PropertyNote

/-- The tags on one node: where it is called a component, and its render tags. -/
structure NodeTags where
  components : List Span
  renders : List (TargetSpec × Span)
  findings : List Finding

namespace DocComment

/-- Where the at sign of a tag stands in the source. -/
def tagSpan (comment : DocComment) (tag : DocTag) : Span where
  file := comment.span.file
  line := comment.span.line + tag.line
  column := if tag.line = 0 then comment.span.column + tag.column else tag.column + 1

end DocComment

def malformedFinding (span : Span) (tag reason : String) : Finding where
  kind := .malformedTag
  span := span
  message := s!"Malformed @{tag} tag: {reason}"
  details := [("tag", .text tag), ("reason", .text reason)]

namespace NodeTags

def addTag (config : Config) (tags : NodeTags) (span : Span) (tag : DocTag) : NodeTags :=
  if tag.name = config.componentTag then { tags with components := tags.components ++ [span] }
  else if tag.name = config.rendersTag then
    match TargetSpec.parse tag.body.toList with
    | .ok spec => { tags with renders := tags.renders ++ [(spec, span)] }
    | .error fault =>
        { tags with
          findings := tags.findings ++ [malformedFinding span tag.name (fault.message tag.name)] }
  else tags

def read (config : Config) (comments : List DocComment) : NodeTags :=
  (comments.flatMap fun comment =>
    (DocTag.parse comment.text).map fun tag => (comment.tagSpan tag, tag)).foldl
      (fun tags (span, tag) => tags.addTag config span tag) ⟨[], [], []⟩

end NodeTags

namespace Extraction

def empty : Extraction := ⟨Arena.empty, [], [], []⟩

def addFindings (extraction : Extraction) (findings : List Finding) : Extraction :=
  { extraction with findings := extraction.findings ++ findings }

def addComponent (extraction : Extraction) (span : Span) (shape : Shape)
    (renders : List (TargetSpec × Span)) : Extraction :=
  let (component, arena) := extraction.arena.addComponent shape.name span shape.kind
  { extraction with
    arena := renders.foldl
      (fun arena (spec, span) =>
        (arena.addTag (.component component.id) spec.target span spec.description).2) arena
    shapes := extraction.shapes ++ [shape] }

/-- Render tags that speak for no component belong to the property around them. -/
def addRenders (config : Config) (extraction : Extraction) (place : Located)
    (renders : List (TargetSpec × Span)) : Extraction :=
  match place.enclosingProperty? with
  | none =>
      extraction.addFindings (renders.map fun (_, span) =>
        malformedFinding span config.rendersTag
          s!"it must annotate a property or a @{config.componentTag} definition")
  | some (property, above) =>
      { extraction with
        notes := extraction.notes ++ renders.map fun (spec, span) => ⟨property, above, spec, span⟩ }

/-- Reads the comments of one node. A node that is nested too deep to be read adds nothing but its
malformed tags. -/
def addNode (config : Config) (unit : SourceUnit) (extraction : Extraction) (place : Located)
    (comments : List DocComment) : Extraction :=
  let tags := NodeTags.read config comments
  let extraction := extraction.addFindings tags.findings
  match tags.components with
  | [] => addRenders config extraction place tags.renders
  | span :: _ =>
      match unit.shape? place.node with
      | .error _ => extraction
      | .ok (some shape) => extraction.addComponent (unit.span place.node) shape tags.renders
      | .ok none =>
          addRenders config
            (extraction.addFindings
              [malformedFinding span config.componentTag
                "it must annotate a function or class definition"])
            place tags.renders

/-- Registers the properties of the component at a position. -/
def addProperties (unit : SourceUnit) (arena : Arena) (shape : Shape × Nat) : Arena :=
  match unit.properties shape.1 with
  | .error _ => arena
  | .ok infos =>
      infos.foldl
        (fun arena info =>
          (arena.addProperty
            { id := 0
              name := info.name
              owner := some shape.2
              renderable := unit.accepts info.typeText
              typeText := info.typeText
              span := info.span
              node := info.node }).2)
        arena

/-- The properties that a signature declares. A signature of a type that no component uses is
registered without an owner; one without a name declares nothing. -/
def declaredBy (unit : SourceUnit) (arena : Arena) (property : Node) (above : List Node) :
    List Property × Arena :=
  match arena.properties.filter (·.node = some property.id) with
  | first :: rest => (first :: rest, arena)
  | [] =>
      match unit.propertyInfo? property with
      | none => ([], arena)
      | some info =>
          let (added, arena) := arena.addProperty
            { id := 0
              name := info.name
              owner := none
              renderable := unit.accepts info.typeText
              typeText := info.typeText
              span := info.span
              node := info.node
              siblings := some (unit.siblingNames property above) }
          ([added], arena)

/-- How the type of a property is named in a finding. -/
def shownType (property : Property) : String :=
  match property.typeText with
  | none => "unknown"
  | some text => if text.isEmpty then "unknown" else text

/-- Attaches a render tag to every property that its signature declares. -/
def attach (config : Config) (unit : SourceUnit) (extraction : Extraction) (note : PropertyNote) :
    Extraction :=
  let (properties, arena) := declaredBy unit extraction.arena note.property note.above
  let extraction := { extraction with arena := arena }
  match properties with
  | [] => extraction
  | first :: _ =>
      if first.renderable then
        { extraction with
          arena := properties.foldl
            (fun arena property =>
              (arena.addTag (.property property.id) note.spec.target note.span
                note.spec.description).2) arena }
      else
        extraction.addFindings
          [malformedFinding note.span config.rendersTag
            s!"property '{first.name}' of type '{shownType first}' cannot hold renderable content"]

/-- Reads the comments of all nodes, each node before those in it. -/
def readNodes (config : Config) (unit : SourceUnit) : Extraction :=
  let comments := unit.docComments
  unit.root.places.foldl
    (fun extraction place =>
      match comments.filterMap fun (id, comment) =>
          if id = place.node.id then some comment else none with
      | [] => extraction
      | found => addNode config unit extraction place found)
    empty

/-- Registers the properties of all components. -/
def register (unit : SourceUnit) (extraction : Extraction) : Extraction :=
  { extraction with
    arena := extraction.shapes.zipIdx.foldl (addProperties unit) extraction.arena }

/-- Reads all declarations of a source. -/
def ofUnit (config : Config) (unit : SourceUnit) : Extraction :=
  let registered := register unit (readNodes config unit)
  registered.notes.foldl (attach config unit) registered

end Extraction

end RenderAudit
