import RenderAudit.Proofs.Attachment
import RenderAudit.Proofs.Traversal

/-!
# What reading the nodes adds

Each node is read on its own: it becomes a component with its render tags, or it leaves findings and
notes behind. What the loop over all nodes collects is what they add one after the other, where a
component is known by the number of components before it.
-/

namespace RenderAudit

/-! ### The tags on one node -/

namespace SourceUnit

/-- The documentation comments of the node with an id. -/
def commentsAt (unit : SourceUnit) (id : Nat) : List DocComment :=
  unit.docComments.filterMap fun (other, comment) => if other = id then some comment else none

/-- The tags in the comments of a node, each with its place in the source. -/
def docTagsAt (unit : SourceUnit) (node : Node) : List (Span × DocTag) :=
  (unit.commentsAt node.id).flatMap fun comment =>
    (DocTag.parse comment.text).map fun tag => (comment.tagSpan tag, tag)

def componentTagsAt (config : Config) (unit : SourceUnit) (node : Node) : List (Span × DocTag) :=
  (unit.docTagsAt node).filter (·.2.name = config.componentTag)

def renderTagsAt (config : Config) (unit : SourceUnit) (node : Node) : List (Span × DocTag) :=
  (unit.docTagsAt node).filter (·.2.name = config.rendersTag)

/-- The shape of a node that carries the component tag. -/
def componentShape? (config : Config) (unit : SourceUnit) (node : Node) : Option Shape :=
  match unit.componentTagsAt config node, unit.shape? node with
  | _ :: _, .ok shape => shape
  | _, _ => none

/-- A component tag on a node that has no shape is reported, the first one if there are several. -/
def misplacedAt (config : Config) (unit : SourceUnit) (node : Node) : List Finding :=
  match unit.componentTagsAt config node, unit.shape? node with
  | (span, _) :: _, .ok none =>
      [malformedFinding span config.componentTag "it must annotate a function or class definition"]
  | _, _ => []

/-- The component tag and the render tags of a node can be told apart, and if it has render tags, it
is not nested too deep for its shape to be known. -/
structure Readable (config : Config) (unit : SourceUnit) (node : Node) : Prop where
  distinct : ∀ entry ∈ unit.docTagsAt node,
    entry.2.name = config.componentTag → entry.2.name ≠ config.rendersTag
  shaped : (∃ shape, unit.shape? node = .ok shape) ∨ unit.renderTagsAt config node = []

theorem Readable.of_distinct {config : Config} {unit : SourceUnit} {node : Node}
    (hdistinct : config.componentTag ≠ config.rendersTag)
    (hshape : ∃ shape, unit.shape? node = .ok shape) : unit.Readable config node where
  distinct entry _ hname := by
    rw [hname]
    exact hdistinct
  shaped := .inl hshape

theorem Readable.of_no_renders {config : Config} {unit : SourceUnit} {node : Node}
    (hrenders : unit.renderTagsAt config node = []) : unit.Readable config node where
  distinct entry hentry _ hname :=
    List.filter_eq_nil_iff.1 hrenders entry hentry (decide_eq_true hname)
  shaped := .inr hrenders

theorem misplacedAt_eq_nil {config : Config} {unit : SourceUnit} {node : Node} {shape : Shape}
    (hshape : unit.componentShape? config node = some shape) :
    unit.misplacedAt config node = [] := by
  unfold componentShape? at hshape
  unfold misplacedAt
  split at hshape
  · next htags hread =>
    rw [htags, hread, hshape]
  · cases hshape

end SourceUnit

namespace NodeTags

def parsed : Span × DocTag → List (TargetSpec × Span)
  | (span, tag) =>
      match TargetSpec.parse tag.body.toList with
      | .ok spec => [(spec, span)]
      | .error _ => []

def unparsed (config : Config) : Span × DocTag → List Finding
  | (span, tag) =>
      match TargetSpec.parse tag.body.toList with
      | .ok _ => []
      | .error fault =>
          [malformedFinding span config.rendersTag (fault.message config.rendersTag)]

theorem foldl_addTag {config : Config} {entries : List (Span × DocTag)}
    (hdistinct : ∀ entry ∈ entries,
      entry.2.name = config.componentTag → entry.2.name ≠ config.rendersTag) (tags : NodeTags) :
    entries.foldl (fun tags (span, tag) => tags.addTag config span tag) tags =
      { components := tags.components ++
          (entries.filter (·.2.name = config.componentTag)).map Prod.fst
        renders := tags.renders ++
          (entries.filter (·.2.name = config.rendersTag)).flatMap parsed
        findings := tags.findings ++
          (entries.filter (·.2.name = config.rendersTag)).flatMap (unparsed config) } := by
  induction entries generalizing tags with
  | nil => simp
  | cons entry entries ih =>
      obtain ⟨span, tag⟩ := entry
      obtain ⟨hentry, hentries⟩ := List.forall_mem_cons.1 hdistinct
      rw [List.foldl_cons, ih hentries]
      unfold addTag
      by_cases hcomponent : tag.name = config.componentTag
      · have hrenders : tag.name ≠ config.rendersTag := hentry hcomponent
        rw [hcomponent] at hrenders
        simp [hcomponent, hrenders]
      · by_cases hrenders : tag.name = config.rendersTag
        · rw [hrenders] at hcomponent
          cases hparse : TargetSpec.parse tag.body.toList with
          | ok spec => simp [hrenders, hcomponent, parsed, unparsed, hparse]
          | error fault => simp [hrenders, hcomponent, parsed, unparsed, hparse]
        · simp [hcomponent, hrenders]

theorem read_commentsAt {config : Config} {unit : SourceUnit} {node : Node}
    (hreadable : unit.Readable config node) :
    read config (unit.commentsAt node.id) =
      { components := (unit.componentTagsAt config node).map Prod.fst
        renders := (unit.renderTagsAt config node).flatMap parsed
        findings := (unit.renderTagsAt config node).flatMap (unparsed config) } := by
  have hread := foldl_addTag hreadable.distinct ⟨[], [], []⟩
  simp only [List.nil_append] at hread
  exact hread

end NodeTags

/-! ### What one node adds -/

/-- Render tags that speak for no component and stand on no property signature are reported. -/
def strayFindings (config : Config) (place : Located) (renders : List (TargetSpec × Span)) :
    List Finding :=
  match place.enclosingProperty? with
  | none =>
      renders.map fun (_, span) =>
        malformedFinding span config.rendersTag
          s!"it must annotate a property or a @{config.componentTag} definition"
  | some _ => []

def propertyNotes (place : Located) (renders : List (TargetSpec × Span)) : List PropertyNote :=
  match place.enclosingProperty? with
  | none => []
  | some (property, above) => renders.map fun (spec, span) => ⟨property, above, spec, span⟩

theorem strayFindings_nil (config : Config) (place : Located) :
    strayFindings config place [] = [] := by
  unfold strayFindings
  cases place.enclosingProperty? <;> rfl

theorem propertyNotes_nil (place : Located) : propertyNotes place [] = [] := by
  unfold propertyNotes
  cases place.enclosingProperty? <;> rfl

section Place

variable (config : Config) (unit : SourceUnit)

def rendersAt (node : Node) : List (TargetSpec × Span) :=
  (unit.renderTagsAt config node).flatMap NodeTags.parsed

def unparsedAt (node : Node) : List Finding :=
  (unit.renderTagsAt config node).flatMap (NodeTags.unparsed config)

def placeFindings (place : Located) : List Finding :=
  unparsedAt config unit place.node ++
    match unit.componentShape? config place.node with
    | some _ => []
    | none =>
        unit.misplacedAt config place.node ++
          strayFindings config place (rendersAt config unit place.node)

def placeNotes (place : Located) : List PropertyNote :=
  match unit.componentShape? config place.node with
  | some _ => []
  | none => propertyNotes place (rendersAt config unit place.node)

def placeTags (place : Located) (number : Nat) : List TagFacts :=
  match unit.componentShape? config place.node with
  | some _ =>
      (rendersAt config unit place.node).map fun (spec, span) =>
        spec.tagOf span (.component number)
  | none => []

def placeComponents (place : Located) (number : Nat) : List Component :=
  match unit.componentShape? config place.node with
  | some shape => [⟨number, shape.name, unit.span place.node, shape.kind⟩]
  | none => []

end Place

theorem rendersAt_eq_nil {config : Config} {unit : SourceUnit} {node : Node}
    (hrenders : unit.renderTagsAt config node = []) : rendersAt config unit node = [] := by
  rw [rendersAt, hrenders, List.flatMap_nil]

namespace Extraction

structure Gains (extraction later : Extraction) (findings : List Finding)
    (notes : List PropertyNote) (tags : List TagFacts) (components : List Component) : Prop where
  findings : later.findings = extraction.findings ++ findings
  notes : later.notes = extraction.notes ++ notes
  tags : later.arena.tagFacts = extraction.arena.tagFacts ++ tags
  components : later.arena.components = extraction.arena.components ++ components

theorem Gains.trans {extraction later last : Extraction} {findings findings' : List Finding}
    {notes notes' : List PropertyNote} {tags tags' : List TagFacts}
    {components components' : List Component}
    (hgains : extraction.Gains later findings notes tags components)
    (hgains' : later.Gains last findings' notes' tags' components') :
    extraction.Gains last (findings ++ findings') (notes ++ notes') (tags ++ tags')
      (components ++ components') where
  findings := by rw [hgains'.findings, hgains.findings, List.append_assoc]
  notes := by rw [hgains'.notes, hgains.notes, List.append_assoc]
  tags := by rw [hgains'.tags, hgains.tags, List.append_assoc]
  components := by rw [hgains'.components, hgains.components, List.append_assoc]

variable (extraction : Extraction)

theorem gains_nothing : extraction.Gains extraction [] [] [] [] := by
  constructor <;> exact (List.append_nil _).symm

theorem gains_addFindings (findings : List Finding) :
    extraction.Gains (extraction.addFindings findings) findings [] [] [] where
  findings := rfl
  notes := (List.append_nil _).symm
  tags := (List.append_nil _).symm
  components := (List.append_nil _).symm

theorem gains_addComponent (span : Span) (shape : Shape) (renders : List (TargetSpec × Span)) :
    extraction.Gains (extraction.addComponent span shape renders) [] []
      (renders.map fun (spec, span) =>
        spec.tagOf span (.component extraction.arena.components.length))
      [⟨extraction.arena.components.length, shape.name, span, shape.kind⟩] := by
  have harena : (extraction.addComponent span shape renders).arena =
      (extraction.arena.addComponent shape.name span shape.kind).2.addTags
        (fun (spec, span) => spec.tagOf span (.component extraction.arena.components.length))
        renders := rfl
  refine ⟨(List.append_nil _).symm, (List.append_nil _).symm, ?_, ?_⟩
  · rw [harena, Arena.tagFacts_addTags]
    rfl
  · rw [harena, Arena.components_addTags]
    rfl

theorem gains_addRenders (config : Config) (place : Located) (renders : List (TargetSpec × Span)) :
    extraction.Gains (addRenders config extraction place renders)
      (strayFindings config place renders) (propertyNotes place renders) [] [] := by
  unfold addRenders strayFindings propertyNotes
  cases place.enclosingProperty? with
  | none => exact extraction.gains_addFindings _
  | some found =>
      exact ⟨(List.append_nil _).symm, rfl, (List.append_nil _).symm, (List.append_nil _).symm⟩

section AddNode

theorem addFindings_nil : extraction.addFindings [] = extraction := by
  simp [addFindings]

theorem addRenders_nil (config : Config) (place : Located) :
    addRenders config extraction place [] = extraction := by
  unfold addRenders
  cases place.enclosingProperty? with
  | none => exact extraction.addFindings_nil
  | some found => simp

variable {config : Config} {unit : SourceUnit} {place : Located}
  (hreadable : unit.Readable config place.node)

include hreadable

theorem addNode_of_untagged (htags : unit.componentTagsAt config place.node = []) :
    addNode config unit extraction place (unit.commentsAt place.node.id) =
      addRenders config (extraction.addFindings (unparsedAt config unit place.node)) place
        (rendersAt config unit place.node) := by
  unfold addNode
  rw [NodeTags.read_commentsAt hreadable, htags]
  rfl

variable {tag : Span × DocTag} {tags : List (Span × DocTag)}

theorem addNode_of_shape (htags : unit.componentTagsAt config place.node = tag :: tags)
    {shape : Shape} (hshape : unit.shape? place.node = .ok (some shape)) :
    addNode config unit extraction place (unit.commentsAt place.node.id) =
      (extraction.addFindings (unparsedAt config unit place.node)).addComponent
        (unit.span place.node) shape (rendersAt config unit place.node) := by
  unfold addNode
  rw [NodeTags.read_commentsAt hreadable, htags, hshape]
  rfl

theorem addNode_of_no_shape (htags : unit.componentTagsAt config place.node = tag :: tags)
    (hshape : unit.shape? place.node = .ok none) :
    addNode config unit extraction place (unit.commentsAt place.node.id) =
      addRenders config
        ((extraction.addFindings (unparsedAt config unit place.node)).addFindings
          (unit.misplacedAt config place.node))
        place (rendersAt config unit place.node) := by
  unfold addNode
  rw [NodeTags.read_commentsAt hreadable, SourceUnit.misplacedAt, htags, hshape]
  rfl

theorem addNode_of_unshaped (htags : unit.componentTagsAt config place.node = tag :: tags)
    {nesting : Nesting} (hshape : unit.shape? place.node = .error nesting) :
    addNode config unit extraction place (unit.commentsAt place.node.id) =
      addRenders config (extraction.addFindings (unparsedAt config unit place.node)) place
        (rendersAt config unit place.node) := by
  have hrenders : rendersAt config unit place.node = [] := by
    rcases hreadable.shaped with ⟨shape, hknown⟩ | hnone
    · rw [hshape] at hknown
      cases hknown
    · exact rendersAt_eq_nil hnone
  unfold addNode
  rw [NodeTags.read_commentsAt hreadable, htags, hshape, hrenders, addRenders_nil]
  rfl

/-- A node adds what its tags say. -/
theorem gains_addNode :
    extraction.Gains (addNode config unit extraction place (unit.commentsAt place.node.id))
      (placeFindings config unit place) (placeNotes config unit place)
      (placeTags config unit place extraction.arena.components.length)
      (placeComponents config unit place extraction.arena.components.length) := by
  have hread := extraction.gains_addFindings (unparsedAt config unit place.node)
  unfold placeFindings placeNotes placeTags placeComponents
  cases htags : unit.componentTagsAt config place.node with
  | nil =>
      have hnone : unit.componentShape? config place.node = none := by
        simp [SourceUnit.componentShape?, htags]
      have hproper : unit.misplacedAt config place.node = [] := by
        simp [SourceUnit.misplacedAt, htags]
      rw [extraction.addNode_of_untagged hreadable htags, hnone, hproper]
      exact hread.trans (gains_addRenders _ config place _)
  | cons tag tags =>
      cases hshape : unit.shape? place.node with
      | error nesting =>
          have hnone : unit.componentShape? config place.node = none := by
            simp [SourceUnit.componentShape?, htags, hshape]
          have hproper : unit.misplacedAt config place.node = [] := by
            simp [SourceUnit.misplacedAt, htags, hshape]
          rw [extraction.addNode_of_unshaped hreadable htags hshape, hnone, hproper]
          exact hread.trans (gains_addRenders _ config place _)
      | ok found =>
          cases found with
          | some shape =>
              have hsome : unit.componentShape? config place.node = some shape := by
                simp [SourceUnit.componentShape?, htags, hshape]
              rw [extraction.addNode_of_shape hreadable htags hshape, hsome]
              exact hread.trans (gains_addComponent _ _ shape _)
          | none =>
              have hnone : unit.componentShape? config place.node = none := by
                simp [SourceUnit.componentShape?, htags, hshape]
              rw [extraction.addNode_of_no_shape hreadable htags hshape, hnone]
              exact hread.trans
                ((gains_addFindings _ _).trans (gains_addRenders _ config place _))

end AddNode

end Extraction

/-! ### The loop over all nodes -/

/-- Each element of a list with the number of counted elements before it. -/
def numbered {α : Type} (counts : α → Bool) : Nat → List α → List (α × Nat)
  | _, [] => []
  | number, x :: xs =>
      (x, number) :: numbered counts (if counts x then number + 1 else number) xs

theorem filter_numbered {α : Type} (counts : α → Bool) (number : Nat) (xs : List α) :
    (numbered counts number xs).filter (counts ·.1) = (xs.filter counts).zipIdx number := by
  induction xs generalizing number with
  | nil => rfl
  | cons x xs ih =>
      rw [numbered]
      cases hx : counts x with
      | true => simp [hx, ih]
      | false => simp [hx, ih]

theorem map_fst_numbered {α : Type} (counts : α → Bool) (number : Nat) (xs : List α) :
    (numbered counts number xs).map Prod.fst = xs := by
  induction xs generalizing number with
  | nil => rfl
  | cons x xs ih => rw [numbered, List.map_cons, ih]

namespace SourceUnit

def isComponent (config : Config) (unit : SourceUnit) (place : Located) : Bool :=
  (unit.componentShape? config place.node).isSome

def numberedPlaces (config : Config) (unit : SourceUnit) : List (Located × Nat) :=
  numbered (unit.isComponent config) 0 unit.root.places

theorem flatMap_places {β : Type} (config : Config) (unit : SourceUnit)
    (view : Located → List β) :
    unit.root.places.flatMap view = (unit.numberedPlaces config).flatMap fun entry =>
      view entry.1 := by
  have hplaces : (unit.numberedPlaces config).map Prod.fst = unit.root.places :=
    map_fst_numbered _ _ _
  rw [← hplaces, List.flatMap_map]

theorem fst_mem_places {config : Config} (unit : SourceUnit) {entry : Located × Nat}
    (hentry : entry ∈ unit.numberedPlaces config) : entry.1 ∈ unit.root.places := by
  rw [← map_fst_numbered (unit.isComponent config) 0 unit.root.places]
  exact List.mem_map_of_mem hentry

end SourceUnit

namespace Extraction

variable {config : Config} {unit : SourceUnit}

/-- A node without comments is passed over, which is what reading it does. -/
theorem addNode_nil (extraction : Extraction) (place : Located) :
    addNode config unit extraction place [] = extraction := by
  show addRenders config (extraction.addFindings []) place [] = extraction
  rw [addFindings_nil, addRenders_nil]

theorem readNodes_eq_foldl (config : Config) (unit : SourceUnit) :
    readNodes config unit = unit.root.places.foldl
      (fun extraction place =>
        addNode config unit extraction place (unit.commentsAt place.node.id)) empty := by
  unfold readNodes
  dsimp only
  congr 1
  funext extraction place
  split
  · next hnone =>
    have hcomments : unit.commentsAt place.node.id = [] := hnone
    rw [hcomments, addNode_nil]
  · rfl

theorem length_placeComponents (place : Located) (number : Nat) :
    number + (placeComponents config unit place number).length =
      if unit.isComponent config place then number + 1 else number := by
  unfold placeComponents SourceUnit.isComponent
  cases unit.componentShape? config place.node with
  | none => rfl
  | some shape => rfl

theorem gains_foldl_addNode (extraction : Extraction) (places : List Located)
    (hreadable : ∀ place ∈ places, unit.Readable config place.node) :
    let entries := numbered (unit.isComponent config) extraction.arena.components.length places
    extraction.Gains
      (places.foldl (fun extraction place =>
        addNode config unit extraction place (unit.commentsAt place.node.id)) extraction)
      (places.flatMap (placeFindings config unit)) (places.flatMap (placeNotes config unit))
      (entries.flatMap fun entry => placeTags config unit entry.1 entry.2)
      (entries.flatMap fun entry => placeComponents config unit entry.1 entry.2) := by
  induction places generalizing extraction with
  | nil => exact extraction.gains_nothing
  | cons place places ih =>
      obtain ⟨hfirst, hothers⟩ := List.forall_mem_cons.1 hreadable
      have hplace := extraction.gains_addNode hfirst
      have hrest := ih (addNode config unit extraction place (unit.commentsAt place.node.id)) hothers
      -- The next component gets the number of components so far as its id.
      have hnumber :
          (addNode config unit extraction place
            (unit.commentsAt place.node.id)).arena.components.length =
          if unit.isComponent config place then extraction.arena.components.length + 1
          else extraction.arena.components.length := by
        rw [hplace.components, List.length_append, length_placeComponents]
      rw [hnumber] at hrest
      exact hplace.trans hrest

theorem gains_readNodes
    (hreadable : ∀ place ∈ unit.root.places, unit.Readable config place.node) :
    empty.Gains (readNodes config unit)
      (unit.root.places.flatMap (placeFindings config unit))
      (unit.root.places.flatMap (placeNotes config unit))
      ((unit.numberedPlaces config).flatMap fun entry => placeTags config unit entry.1 entry.2)
      ((unit.numberedPlaces config).flatMap fun entry =>
        placeComponents config unit entry.1 entry.2) := by
  rw [readNodes_eq_foldl]
  exact gains_foldl_addNode empty unit.root.places hreadable

end Extraction

end RenderAudit
