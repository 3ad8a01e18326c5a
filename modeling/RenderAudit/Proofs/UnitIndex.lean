import RenderAudit.Proofs.Preorder
import RenderAudit.Proofs.TagAccounting

/-!
# What is found first on a walk over a unit

One walk over the tree of a unit enters its documentation comments and its type declarations into
tables: a comment behind the earlier ones of its node, a declaration only if its name is new.
Another walk reads the comments of every node. Both follow the order of the tree, so every comment
is read with one node, components are numbered as their nodes stand in the tree, and a name leads to
the first declaration of a type.
-/

namespace RenderAudit

namespace SourceUnit

variable (unit : SourceUnit)

/-- The entry that a documentation comment makes, under the id of the node that it belongs to. -/
def documentation? (place : Located) : Option (Nat × DocComment) :=
  if place.node.kind == "comment" && DocTag.isDocComment (unit.chars place.node) then
    place.documented?.map fun node => (node.id, ⟨unit.chars place.node, unit.span place.node⟩)
  else none

def commentFor (id : Nat) (entry : Nat × DocComment) : Option DocComment :=
  if entry.1 = id then some entry.2 else none

/-- The name of an interface or of a type alias. -/
def declaredName? (node : Node) : Option String :=
  if node.isOneOf ["interface_declaration", "type_alias_declaration"] then
    (node.withField? "name").map unit.text
  else none

theorem documentation?_eq_none {place : Located} (hkind : place.node.kind ≠ "comment") :
    unit.documentation? place = none := by
  simp [documentation?, hkind]

theorem declaredName?_eq_none {node : Node} (hkind : node.kind = "comment") :
    unit.declaredName? node = none := by
  simp [declaredName?, Node.isOneOf, hkind]

theorem typeDeclaration?_eq_find? (name : String) :
    unit.typeDeclaration? name =
      unit.root.nodes.find? fun node => unit.declaredName? node = some name := by
  unfold typeDeclaration?
  congr 1
  funext node
  unfold declaredName?
  cases node.isOneOf ["interface_declaration", "type_alias_declaration"] with
  | false => simp
  | true => rw [Bool.true_and, if_pos rfl, beq_eq_decide]

end SourceUnit

/-! ### Tables filled on a walk -/

/-- Documentation comments by the ids of their nodes, and type declarations by their names. -/
structure UnitIndex where
  comments : Table Nat (List DocComment)
  declarations : Table String Node

namespace UnitIndex

def empty : UnitIndex := ⟨Table.empty, Table.empty⟩

def commentsOf (index : UnitIndex) (id : Nat) : List DocComment :=
  (index.comments.get? id).getD []

def addComment (index : UnitIndex) (id : Nat) (comment : DocComment) : UnitIndex :=
  { index with comments := index.comments.insert id (index.commentsOf id ++ [comment]) }

def addDeclaration (index : UnitIndex) (name : String) (node : Node) : UnitIndex :=
  { index with declarations := index.declarations.insertIfNew name node }

/-- Enters the node at a place, if it is a documentation comment or declares a type. -/
def enter (unit : SourceUnit) (index : UnitIndex) (place : Located) : UnitIndex :=
  if place.node.kind = "comment" then
    match unit.documentation? place with
    | some (id, comment) => index.addComment id comment
    | none => index
  else
    match unit.declaredName? place.node with
    | some name => index.addDeclaration name place.node
    | none => index

section Enter

variable (unit : SourceUnit) (index : UnitIndex)

theorem commentsOf_addComment (entry : Nat × DocComment) (id : Nat) :
    (index.addComment entry.1 entry.2).commentsOf id =
      index.commentsOf id ++ (SourceUnit.commentFor id entry).toList := by
  unfold addComment commentsOf SourceUnit.commentFor
  rw [Table.get?_insert]
  by_cases hid : entry.1 = id
  · simp [hid]
  · simp [hid]

theorem commentsOf_enter (place : Located) (id : Nat) :
    (index.enter unit place).commentsOf id = index.commentsOf id ++
      ((unit.documentation? place).bind (SourceUnit.commentFor id)).toList := by
  unfold enter
  by_cases hkind : place.node.kind = "comment"
  · rw [if_pos hkind]
    cases unit.documentation? place with
    | none => simp
    | some entry => exact index.commentsOf_addComment entry id
  · rw [if_neg hkind, unit.documentation?_eq_none hkind]
    cases unit.declaredName? place.node with
    | none => simp
    | some name => simp [addDeclaration, commentsOf]

theorem get?_declarations_enter (place : Located) (name : String) :
    (index.enter unit place).declarations.get? name = (index.declarations.get? name).or
      (if unit.declaredName? place.node = some name then some place.node else none) := by
  unfold enter
  by_cases hkind : place.node.kind = "comment"
  · rw [if_pos hkind, unit.declaredName?_eq_none hkind]
    cases unit.documentation? place with
    | none => simp
    | some entry => simp [addComment]
  · rw [if_neg hkind]
    cases unit.declaredName? place.node with
    | none => simp
    | some declared => simp [addDeclaration, Table.get?_insertIfNew]

/-- A node has the comments that belong to it, in their order. -/
theorem commentsOf_foldl_enter (places : List Located) (id : Nat) :
    (places.foldl (enter unit) index).commentsOf id = index.commentsOf id ++
      (places.filterMap unit.documentation?).filterMap (SourceUnit.commentFor id) := by
  induction places generalizing index with
  | nil => simp
  | cons place places ih =>
      rw [List.foldl_cons, ih, commentsOf_enter, List.append_assoc]
      cases hentry : unit.documentation? place with
      | none => simp [hentry]
      | some entry =>
          rw [List.filterMap_cons_some hentry, List.filterMap_cons]
          cases hcomment : SourceUnit.commentFor id entry with
          | none => simp [hcomment]
          | some comment => simp [hcomment]

/-- A name has the first declaration that was met. -/
theorem get?_declarations_foldl_enter (places : List Located) (name : String) :
    (places.foldl (enter unit) index).declarations.get? name =
      (index.declarations.get? name).or
        ((places.map Located.node).find? fun node => unit.declaredName? node = some name) := by
  induction places generalizing index with
  | nil => simp
  | cons place places ih =>
      rw [List.foldl_cons, ih, get?_declarations_enter, Option.or_assoc, List.map_cons,
        List.find?_cons]
      by_cases hname : unit.declaredName? place.node = some name
      · simp [hname]
      · simp [hname]

end Enter

end UnitIndex

namespace SourceUnit

variable (unit : SourceUnit)

/-- The tables after a walk over the whole tree. -/
def index : UnitIndex :=
  unit.root.places.foldl (UnitIndex.enter unit) .empty

theorem commentsOf_index (id : Nat) : unit.index.commentsOf id = unit.commentsAt id :=
  UnitIndex.commentsOf_foldl_enter unit .empty unit.root.places id

theorem get?_declarations_index (name : String) :
    unit.index.declarations.get? name = unit.typeDeclaration? name := by
  rw [typeDeclaration?_eq_find?, ← Node.map_node_places]
  exact UnitIndex.get?_declarations_foldl_enter unit .empty unit.root.places name

theorem typeDeclaration?_eq_some_iff {name : String} {node : Node} :
    unit.typeDeclaration? name = some node ↔
      unit.declaredName? node = some name ∧ ∃ before after,
        unit.root.preorder = before ++ node :: after ∧
          ∀ other ∈ before, unit.declaredName? other ≠ some name := by
  rw [typeDeclaration?_eq_find?, Node.nodes_eq_preorder, List.find?_eq_some_iff_append]
  simp

end SourceUnit

/-! ### Components in order -/

theorem NodeTags.components_foldl {config : Config}
    {step : NodeTags → Span × DocTag → NodeTags}
    (hstep : ∀ tags entry, step tags entry = tags.addTag config entry.1 entry.2)
    (entries : List (Span × DocTag)) (tags : NodeTags) :
    (entries.foldl step tags).components = tags.components ++
      (entries.filter (·.2.name = config.componentTag)).map Prod.fst := by
  have hadd : ∀ (tags : NodeTags) span tag, (tags.addTag config span tag).components =
      tags.components ++ if tag.name = config.componentTag then [span] else [] := by
    intro tags span tag
    unfold addTag
    by_cases hcomponent : tag.name = config.componentTag
    · rw [if_pos hcomponent, if_pos hcomponent]
    · rw [if_neg hcomponent, if_neg hcomponent, List.append_nil]
      by_cases hrenders : tag.name = config.rendersTag
      · rw [if_pos hrenders]
        cases TargetSpec.parse tag.body.toList with
        | ok spec => rfl
        | error fault => rfl
      · rw [if_neg hrenders]
  induction entries generalizing tags with
  | nil => simp
  | cons entry entries ih =>
      rw [List.foldl_cons, ih, hstep, hadd]
      by_cases hcomponent : entry.2.name = config.componentTag
      · simp [hcomponent]
      · simp [hcomponent]

namespace SourceUnit

variable (config : Config) (unit : SourceUnit)

/-- The shape of a node that is a component, with the node. -/
def componentEntry? (node : Node) : Option (Node × Shape) :=
  (unit.componentShape? config node).map (Prod.mk node)

/-- The component with a number. -/
def componentOf (entry : (Node × Shape) × Nat) : Component :=
  ⟨entry.2, entry.1.2.name, unit.span entry.1.1, entry.1.2.kind⟩

theorem placeComponents_eq (place : Located) (number : Nat) :
    placeComponents config unit place number =
      ((unit.componentEntry? config place.node).toList.zipIdx number).map unit.componentOf := by
  unfold placeComponents componentEntry?
  cases unit.componentShape? config place.node with
  | none => rfl
  | some shape => rfl

end SourceUnit

namespace Extraction

variable {config : Config} {unit : SourceUnit}

theorem components_read (node : Node) :
    (NodeTags.read config (unit.commentsAt node.id)).components =
      (unit.componentTagsAt config node).map Prod.fst :=
  NodeTags.components_foldl (fun _ _ => rfl) _ _

/-- A node becomes a component or not, whatever else is on it. -/
theorem components_addNode (extraction : Extraction) (place : Located) :
    (addNode config unit extraction place (unit.commentsAt place.node.id)).arena.components =
      extraction.arena.components ++
        placeComponents config unit place extraction.arena.components.length := by
  have hread : (NodeTags.read config (unit.commentsAt place.node.id)).components =
      (unit.componentTagsAt config place.node).map Prod.fst := components_read place.node
  unfold addNode placeComponents SourceUnit.componentShape?
  generalize NodeTags.read config (unit.commentsAt place.node.id) = tags at hread ⊢
  obtain ⟨components, renders, findings⟩ := tags
  dsimp only at hread ⊢
  subst hread
  cases unit.componentTagsAt config place.node with
  | nil => exact (gains_addRenders _ config place renders).components
  | cons entry entries =>
      cases unit.shape? place.node with
      | error nesting => simp [addFindings]
      | ok found =>
          cases found with
          | none => exact (gains_addRenders _ config place renders).components
          | some shape => exact (gains_addComponent _ _ shape renders).components

theorem components_foldl_addNode (extraction : Extraction) (places : List Located) :
    (places.foldl (fun extraction place =>
        addNode config unit extraction place (unit.commentsAt place.node.id))
      extraction).arena.components =
    extraction.arena.components ++
      (((places.map Located.node).filterMap (unit.componentEntry? config)).zipIdx
        extraction.arena.components.length).map unit.componentOf := by
  induction places generalizing extraction with
  | nil => simp
  | cons place places ih =>
      rw [List.foldl_cons, ih, components_addNode, unit.placeComponents_eq config, List.map_cons,
        List.append_assoc]
      cases hentry : unit.componentEntry? config place.node with
      | none => simp [hentry]
      | some entry => simp [hentry]

/-- Components are numbered in the order of the tree. -/
theorem components_ofUnit (config : Config) (unit : SourceUnit) :
    (ofUnit config unit).arena.components =
      ((unit.root.preorder.filterMap (unit.componentEntry? config)).zipIdx).map
        unit.componentOf := by
  unfold ofUnit
  rw [components_foldl_attach, (register_spec unit _).2, readNodes_eq_foldl,
    components_foldl_addNode, Node.map_node_places, Node.nodes_eq_preorder]
  rfl

end Extraction

/-- **A traversal is the recursion into the tree.** The loop over a stack visits what the recursion
lists, with any limit that is not below the number of nodes, and so does the walk over places. Every
address of the tree is visited once, each node before those below it, and all below a child before
all below a later one. So the comments that are read, node by node, are all comments that belong to
a declaration, each once, if nodes are told apart by their ids; the components are the annotated
nodes, numbered in this order; and a name leads to the first declaration of it. -/
theorem traversal_is_preorder (config : Config) (unit : SourceUnit) :
    let root := unit.root
    root.nodes = root.preorder ∧
    (∀ limit, root.size ≤ limit → visit Node.children limit [root] = root.preorder) ∧
    root.places.map Located.node = root.preorder ∧
    root.preorder.map some = root.addresses.map root.at? ∧
    (∀ address, address ∈ root.addresses ↔ (root.at? address).isSome = true) ∧
    root.addresses.Nodup ∧
    root.addresses.Pairwise Node.Precedes ∧
    (Extraction.readNodes config unit = root.places.foldl (fun extraction place =>
      extraction.addNode config unit place (unit.index.commentsOf place.node.id)) .empty) ∧
    (∀ id, unit.index.commentsOf id = unit.docComments.filterMap (SourceUnit.commentFor id)) ∧
    ((root.preorder.map Node.id).Nodup →
      unit.docComments.Perm (root.preorder.flatMap fun node =>
        (unit.index.commentsOf node.id).map (Prod.mk node.id))) ∧
    (Extraction.ofUnit config unit).arena.components =
      ((root.preorder.filterMap (unit.componentEntry? config)).zipIdx).map unit.componentOf ∧
    ∀ name, unit.index.declarations.get? name = unit.typeDeclaration? name ∧
      ∀ node, unit.typeDeclaration? name = some node ↔
        unit.declaredName? node = some name ∧ ∃ before after,
          root.preorder = before ++ node :: after ∧
            ∀ other ∈ before, unit.declaredName? other ≠ some name := by
  intro root
  have hnodes : root.nodes = root.preorder := root.nodes_eq_preorder
  refine ⟨hnodes, fun limit => Node.visit_eq_preorder, ?_, root.map_preorder,
    fun address => Node.mem_addresses_iff, root.nodup_addresses, root.pairwise_addresses, ?_,
    unit.commentsOf_index, ?_, Extraction.components_ofUnit config unit, ?_⟩
  · rw [Node.map_node_places, hnodes]
  · simp only [unit.commentsOf_index]
    exact Extraction.readNodes_eq_foldl config unit
  · intro hids
    rw [← hnodes] at hids ⊢
    simp only [unit.commentsOf_index]
    exact unit.docComments_perm hids
  · intro name
    exact ⟨unit.get?_declarations_index name, fun node => unit.typeDeclaration?_eq_some_iff⟩

/-- All five comments of the unit are read. -/
theorem card_comments_read_once :
    cardUnit.root.size ≤ 40 ∧
      visit Node.children 40 [cardUnit.root] = cardUnit.root.preorder ∧
      (cardUnit.root.preorder.map Node.id).Nodup ∧
      (cardUnit.root.preorder.flatMap fun node =>
        (cardUnit.index.commentsOf node.id).map (Prod.mk node.id)).length = 5 := by
  have hsize : cardUnit.root.size ≤ 40 := by decide +kernel
  have hids : (cardUnit.root.preorder.map Node.id).Nodup := by decide +kernel
  have hcomments : cardUnit.docComments.length = 5 := by decide +kernel
  obtain ⟨-, hvisit, -, -, -, -, -, -, -, hread, -⟩ := traversal_is_preorder relayConfig cardUnit
  exact ⟨hsize, hvisit 40 hsize, hids, (hread hids).length_eq.symm.trans hcomments⟩

end RenderAudit
