import Mathlib.Data.List.Forall2
import RenderAudit.Proofs.ContentRegions
import RenderAudit.Proofs.ElementParts

/-!
# Content and the elements that it was read from

Each instantiation that is read from a node is recorded from an element below it, and content is
supplied only to a property that renders it. A step of the reader goes into different children of a
node each time, so that no element is recorded twice in a tree whose elements open with their tags.
-/

namespace RenderAudit

/-- A component of the arena has a property that renders content. -/
structure Arena.Offers (arena : Arena) (slot : Slot) : Prop where
  owner : ∃ component ∈ arena.components, component.id = slot.owner
  property : ∃ property, arena.propertyOf? slot.owner slot.property = some property ∧
    property.renderable = true

theorem Arena.offers_of_acceptsContent {arena : Arena} {slot : Slot}
    (howner : ∃ component ∈ arena.components, component.id = slot.owner)
    (haccepts : arena.acceptsContent slot.owner slot.property = true) : arena.Offers slot :=
  ⟨howner, (Option.any_eq_true _ _).1 haccepts⟩

/-- What a name can stand for. -/
theorem Arena.targetOf?_cases {arena : Arena} {resolver : Resolver} {name : String}
    {target : Target} (htarget : arena.targetOf? resolver name = some target) :
    (∃ component, arena.componentNamed? name = some component ∧
      target = .component component.id component.name) ∨
    target = .intrinsic name ∨ target = .external name ∨ target = .unresolved name := by
  unfold Arena.targetOf? at htarget
  split at htarget
  · next component hcomponent => exact .inl ⟨component, hcomponent, (Option.some.inj htarget).symm⟩
  · split at htarget
    · exact .inr (.inl (Option.some.inj htarget).symm)
    · split at htarget
      · exact .inr (.inr (.inl (Option.some.inj htarget).symm))
      · exact .inr (.inr (.inr (Option.some.inj htarget).symm))
      · cases htarget

theorem Arena.component_of_targetOf? {arena : Arena} {resolver : Resolver} {name : String}
    {target : Target} (htarget : arena.targetOf? resolver name = some target)
    (hkind : target.kind = .component) :
    ∃ component, arena.componentNamed? name = some component ∧
      target = .component component.id component.name := by
  obtain hcomponent | rfl | rfl | rfl := targetOf?_cases htarget
  · exact hcomponent
  · cases hkind
  · cases hkind
  · cases hkind

theorem Arena.mem_of_componentNamed? {arena : Arena} {name : String} {component : Component}
    (hnamed : arena.componentNamed? name = some component) : component ∈ arena.components := by
  obtain ⟨id, -, hid⟩ := Option.bind_eq_some_iff.1 hnamed
  exact List.mem_of_getElem? hid

/-- What is recorded of an element: what its name stands for, and where it is. -/
@[mk_iff]
structure SourceUnit.Records (unit : SourceUnit) (arena : Arena) (resolver : Resolver)
    (element : Node) (value : Instantiation) : Prop where
  isElement : element.isElement = true
  named : (unit.elementName? element).bind (arena.targetOf? resolver) = some value.target
  span : value.span = unit.span element

instance (unit : SourceUnit) (arena : Arena) (resolver : Resolver) (element : Node)
    (value : Instantiation) : Decidable (unit.Records arena resolver element value) :=
  decidable_of_iff _ (unit.records_iff arena resolver element value).symm

namespace Tracer

open Content

/-- Content that may have been read from some nodes. -/
structure Accounts (tracer : Tracer) (regular : Prop) (nodes : List Node)
    (contents : List Content) : Prop where
  slots : ∀ entry ∈ supplies contents, tracer.arena.Offers entry.1
  elements : ∃ elements,
    List.Forall₂ (tracer.unit.Records tracer.arena tracer.resolver) elements
      (instantiations contents) ∧ Node.Among regular elements nodes

namespace Accounts

variable {tracer : Tracer} {regular : Prop} {nodes : List Node}

/-- Content without elements and supplies. -/
theorem of_empty {contents : List Content} (hsupplies : supplies contents = [])
    (hinstantiations : instantiations contents = []) : tracer.Accounts regular nodes contents where
  slots := by simp [hsupplies]
  elements := ⟨[], by rw [hinstantiations]; exact .nil, Node.among_of_subperm List.nil_subperm⟩

theorem mono {others : List Node} {contents : List Content}
    (hcontents : tracer.Accounts regular nodes contents)
    (hnodes : Node.Among regular nodes others) : tracer.Accounts regular others contents := by
  refine ⟨hcontents.slots, ?_⟩
  obtain ⟨elements, hrecords, hamong⟩ := hcontents.elements
  exact ⟨elements, hrecords, hamong.trans hnodes⟩

theorem append {others : List Node} {first second : List Content}
    (hfirst : tracer.Accounts regular nodes first)
    (hsecond : tracer.Accounts regular others second) :
    tracer.Accounts regular (nodes ++ others) (first ++ second) := by
  obtain ⟨elements, hrecords, hamong⟩ := hfirst.elements
  obtain ⟨elements', hrecords', hamong'⟩ := hsecond.elements
  refine ⟨?_, elements ++ elements', ?_, ?_⟩
  · rw [supplies, collectAll_append]
    exact List.forall_mem_append.2 ⟨hfirst.slots, hsecond.slots⟩
  · rw [instantiations, collectAll_append]
    exact List.rel_append hrecords hrecords'
  · exact hamong.append hamong'

theorem flatMap {α : Type} {items : List α} {nodesOf : α → List Node} {read : α → List Content}
    (hread : ∀ item ∈ items, tracer.Accounts regular (nodesOf item) (read item)) :
    tracer.Accounts regular (items.flatMap nodesOf) (items.flatMap read) := by
  induction items with
  | nil => exact of_empty rfl rfl
  | cons item rest ih =>
      rw [List.flatMap_cons, List.flatMap_cons]
      rw [List.forall_mem_cons] at hread
      exact hread.1.append (ih hread.2)

theorem handOver {inner : List Content} (hinner : tracer.Accounts regular nodes inner) :
    tracer.Accounts regular nodes [.handOver inner] where
  slots := by
    rw [supplies, collectAll_handOver]
    exact hinner.slots
  elements := by
    rw [instantiations, collectAll_handOver]
    exact hinner.elements

theorem supply {slot : Slot} (hslot : tracer.arena.Offers slot) (span : Span) {inner : List Content}
    (hinner : tracer.Accounts regular nodes inner) :
    tracer.Accounts regular nodes [.supply slot span inner] where
  slots := by
    rw [supplies, collectAll_supply]
    exact List.forall_mem_cons.2 ⟨hslot, hinner.slots⟩
  elements := by
    rw [instantiations, collectAll_supply]
    exact hinner.elements

theorem instantiation {element : Node} {value : Instantiation}
    (hrecords : tracer.unit.Records tracer.arena tracer.resolver element value) :
    tracer.Accounts regular [element] [.instantiation value] where
  slots _ hmem := absurd hmem List.not_mem_nil
  elements := ⟨[element], .cons hrecords .nil, Node.among_of_subperm (List.Subperm.refl _)⟩

end Accounts

section Readings

variable {tracer : Tracer} {regular : Prop}

theorem Accounts.of_child {node child : Node} {contents : List Content}
    (hcontents : tracer.Accounts regular child.nodes contents) (hchild : child ∈ node.children) :
    tracer.Accounts regular node.nodes contents := by
  have hbelow := (List.singleton_sublist.2 hchild).flatMap Node.nodes
  rw [List.flatMap_singleton] at hbelow
  exact hcontents.mono
    (Node.among_of_subperm (hbelow.trans (Node.flatMap_children_sublist node)).subperm)

theorem accounts_children {node : Node} {children : List Node} {read : Node → List Content}
    (hchildren : children.Subperm node.children)
    (hread : ∀ child ∈ children, tracer.Accounts regular child.nodes (read child)) :
    tracer.Accounts regular node.nodes (children.flatMap read) := by
  refine (Accounts.flatMap hread).mono (Node.among_of_subperm ?_)
  exact (Node.flatMap_nodes_subperm hchildren).trans (Node.flatMap_children_sublist node).subperm

theorem readField_eq (go : Reading → Node → List Content) (node : Node) (field : String)
    (reading : Reading) :
    readField go node field reading = (node.withField? field).toList.flatMap (go reading) := by
  unfold readField
  cases node.withField? field <;> simp

/-- Different fields are read from different children. -/
theorem accounts_fields {node : Node} (parts : List (String × (Node → List Content)))
    (hparts : (parts.map Prod.fst).Nodup)
    (hread : ∀ part ∈ parts, ∀ child ∈ node.children,
      tracer.Accounts regular child.nodes (part.2 child)) :
    tracer.Accounts regular node.nodes
      (parts.flatMap fun part => (node.withField? part.1).toList.flatMap part.2) := by
  have haccounts : tracer.Accounts regular
      (parts.flatMap fun part => (node.withField? part.1).toList.flatMap Node.nodes)
      (parts.flatMap fun part => (node.withField? part.1).toList.flatMap part.2) := by
    refine Accounts.flatMap fun part hpart => Accounts.flatMap fun child hchild => ?_
    exact hread part hpart child (List.mem_of_find?_eq_some (Option.mem_toList.1 hchild))
  refine haccounts.mono (Node.among_of_subperm ?_)
  have hfields : (parts.map Prod.fst).filterMap node.withField? =
      parts.flatMap fun part => (node.withField? part.1).toList := by
    rw [List.filterMap_map, List.filterMap_eq_flatMap_toList]
    rfl
  rw [← List.flatMap_assoc, ← hfields]
  exact (Node.flatMap_nodes_subperm (Node.filterMap_withField?_subperm node hparts)).trans
    (Node.flatMap_children_sublist node).subperm

-- The recursive call of the reader; each reading accounts for what it reads.
variable {go : Reading → Node → List Content}
  (hgo : ∀ reading node, (regular → node.Regular) →
    tracer.Accounts regular node.nodes (go reading node))
  {node : Node} (hnode : regular → node.Regular)

include hgo hnode

theorem accounts_child (reading : Reading) {child : Node} (hchild : child ∈ node.children) :
    tracer.Accounts regular child.nodes (go reading child) :=
  hgo reading child fun hregular => (hnode hregular).child hchild

theorem accounts_named (reading : Reading) :
    tracer.Accounts regular node.nodes (node.namedChildren.flatMap (go reading)) :=
  accounts_children List.filter_sublist.subperm fun _ hchild =>
    accounts_child hgo hnode reading (List.mem_of_mem_filter hchild)

theorem accounts_scan : tracer.Accounts regular node.nodes (scan go node) := by
  unfold scan
  split
  · exact accounts_named hgo hnode _
  · split
    · split
      · exact .of_empty rfl rfl
      · next body hbody =>
        have hchild := List.mem_of_find?_eq_some hbody
        exact (accounts_child hgo hnode _ hchild).of_child hchild
    · exact accounts_named hgo hnode _

theorem accounts_readFields (parts : List (String × Reading))
    (hparts : (parts.map Prod.fst).Nodup) :
    tracer.Accounts regular node.nodes
      (parts.flatMap fun part => readField go node part.1 part.2) := by
  simp only [readField_eq]
  have hfields := accounts_fields (parts.map fun part => (part.1, go part.2))
    (by simpa [Function.comp_def] using hparts) fun part hpart child hchild => by
      obtain ⟨entry, -, rfl⟩ := List.mem_map.1 hpart
      exact accounts_child hgo hnode _ hchild
  rwa [List.flatMap_map] at hfields

theorem accounts_readBinary : tracer.Accounts regular node.nodes (tracer.readBinary go node) := by
  have hsides (reading : Reading) : tracer.Accounts regular node.nodes
      (readField go node "left" reading ++ readField go node "right" .markup) := by
    simpa using accounts_readFields hgo hnode [("left", reading), ("right", .markup)] (by simp)
  unfold readBinary
  dsimp only
  split
  · exact hsides .scan
  · split
    · exact hsides .markup
    · exact accounts_named hgo hnode _

theorem accounts_readArgument {argument : Node} (hargument : argument ∈ node.children) :
    tracer.Accounts regular argument.nodes (readArgument go argument) := by
  unfold readArgument
  split
  · exact accounts_child hgo hnode _ hargument
  · exact (accounts_child hgo hnode _ hargument).handOver

theorem accounts_readCall : tracer.Accounts regular node.nodes (readCall go node) := by
  have hfields := accounts_fields
    [("function", go .scan),
      ("arguments", fun arguments => arguments.namedChildren.flatMap (readArgument go))]
    (by simp) fun part hpart child hchild => by
      have hregular : regular → child.Regular := fun hregular => (hnode hregular).child hchild
      simp only [List.mem_cons, List.not_mem_nil, or_false] at hpart
      rcases hpart with rfl | rfl
      · exact hgo .scan child hregular
      · refine accounts_children List.filter_sublist.subperm fun argument hargument => ?_
        exact accounts_readArgument hgo hregular (List.mem_of_mem_filter hargument)
  unfold readCall
  rw [readField_eq]
  cases harguments : node.withField? "arguments" <;> simpa [harguments] using hfields

theorem accounts_markup : tracer.Accounts regular node.nodes (tracer.markup go node) := by
  unfold markup
  split
  · exact .of_empty rfl rfl
  · split
    · exact accounts_named hgo hnode _
    · split
      · simpa using accounts_readFields hgo hnode
          [("condition", .scan), ("consequence", .markup), ("alternative", .markup)] (by simp)
      · split
        · exact accounts_readBinary hgo hnode
        · split
          · exact accounts_readCall hgo hnode
          · exact accounts_scan hgo hnode

end Readings

section Elements

variable {tracer : Tracer} {regular : Prop} {go : Reading → Node → List Content}
  (hgo : ∀ reading node, (regular → node.Regular) →
    tracer.Accounts regular node.nodes (go reading node))
  {element : Node} (helement : regular → element.Regular)

include hgo helement

theorem accounts_elementChildren :
    tracer.Accounts regular (element.elementChildren.flatMap Node.nodes)
      (element.elementChildren.flatMap (go .markup)) := by
  refine Accounts.flatMap fun child hchild => accounts_child hgo helement _ ?_
  exact ((Node.elementChildren_sublist element).trans List.filter_sublist).subset hchild

theorem accounts_value (reading : Reading) {entry : Attribute}
    (hentry : entry ∈ tracer.unit.attributes element) {value : Node}
    (hvalue : entry.value = some value) :
    tracer.Accounts regular value.nodes (go reading value) :=
  hgo reading value fun hregular =>
    (helement hregular).of_subset (Node.value_nodes_subset hentry hvalue)

theorem accounts_values (reading : Reading) :
    tracer.Accounts regular
      ((tracer.unit.attributes element).flatMap fun entry => entry.value.toList.flatMap Node.nodes)
      (((tracer.unit.attributes element).filterMap (·.value)).flatMap (go reading)) := by
  rw [List.filterMap_eq_flatMap_toList, List.flatMap_assoc]
  refine Accounts.flatMap fun entry hentry => Accounts.flatMap fun value hvalue => ?_
  exact accounts_value hgo helement reading hentry (Option.mem_toList.1 hvalue)

variable {component : Nat} (hcomponent : ∃ owner ∈ tracer.arena.components, owner.id = component)

include hcomponent

theorem accounts_readAttribute {entry : Attribute}
    (hentry : entry ∈ tracer.unit.attributes element) :
    tracer.Accounts regular (entry.value.toList.flatMap Node.nodes)
      (tracer.readAttribute go component entry) := by
  unfold readAttribute
  cases hvalue : entry.value with
  | none => exact .of_empty rfl rfl
  | some value =>
      have hread (reading : Reading) := accounts_value hgo helement reading hentry hvalue
      rw [Option.toList_some, List.flatMap_singleton]
      dsimp only
      split
      · exact hread .scan
      · split
        · next haccepts =>
          exact (hread .markup).supply (Arena.offers_of_acceptsContent hcomponent haccepts) _
        · exact (hread .markup).handOver

theorem accounts_readChildren :
    tracer.Accounts regular (element.elementChildren.flatMap Node.nodes)
      (tracer.readChildren go component element) := by
  have hcontent := accounts_elementChildren hgo helement
  unfold readChildren
  dsimp only
  split
  · exact .of_empty rfl rfl
  · split
    · next haccepts =>
      exact hcontent.supply (Arena.offers_of_acceptsContent hcomponent haccepts) _
    · exact hcontent

omit hcomponent

theorem accounts_readParts {target : Target}
    (htarget : ∀ component, target.kind = .component → target.ref = some component →
      ∃ owner ∈ tracer.arena.components, owner.id = component) :
    tracer.Accounts regular (Node.partNodes tracer.unit element)
      (tracer.readParts go target element) := by
  have hchildren := accounts_elementChildren hgo helement
  unfold readParts
  dsimp only
  split
  · exact (accounts_values hgo helement .scan).append hchildren
  · split
    · next component hkind href =>
      have hcomponent := htarget component hkind href
      refine Accounts.append ?_ (accounts_readChildren hgo helement hcomponent)
      exact Accounts.flatMap fun entry hentry =>
        accounts_readAttribute hgo helement hcomponent hentry
    · exact (accounts_values hgo helement .markup).handOver.append hchildren.handOver

theorem accounts_readElement (hmarkup : element.isElement = true) :
    tracer.Accounts regular element.nodes (tracer.readElement go element) := by
  have hopens : regular → element.OpensWithTag := fun hregular =>
    helement hregular element (Node.self_mem_nodes element) hmarkup
  have hbelow := Node.among_partNodes tracer.unit hopens
  unfold readElement
  rw [Node.nodes_eq_cons]
  split
  · refine (accounts_elementChildren hgo helement).mono ?_
    refine Node.Among.trans (Node.among_of_subperm ?_) (hbelow.trans (Node.among_of_subperm ?_))
    · exact (List.sublist_append_right _ _).subperm
    · exact (List.sublist_cons_self element _).subperm
  · next name hname =>
    split
    · exact .of_empty rfl rfl
    · next target htarget =>
      have hrecords : tracer.unit.Records tracer.arena tracer.resolver element
          ⟨target, tracer.unit.span element⟩ :=
        ⟨hmarkup, Option.bind_eq_some_iff.2 ⟨name, hname, htarget⟩, rfl⟩
      have howner : ∀ component, target.kind = .component → target.ref = some component →
          ∃ owner ∈ tracer.arena.components, owner.id = component := by
        intro component hkind href
        obtain ⟨owner, howner, rfl⟩ := Arena.component_of_targetOf? htarget hkind
        exact ⟨owner, Arena.mem_of_componentNamed? howner, Option.some.inj href⟩
      have hparts := accounts_readParts hgo helement howner
      exact (Accounts.instantiation hrecords).append (hparts.mono hbelow)

end Elements

/-- A reading accounts for each element at most once if the tree is regular. -/
theorem accounts_read (tracer : Tracer) {regular : Prop} (limit : Nat) (reading : Reading)
    (node : Node) (hnode : regular → node.Regular) :
    tracer.Accounts regular node.nodes (tracer.read limit reading node) := by
  induction limit generalizing reading node with
  | zero => exact .of_empty rfl rfl
  | succ limit ih =>
      unfold read
      split
      · next hmarkup => exact accounts_readElement ih hnode hmarkup
      · cases reading with
        | scan => exact accounts_scan ih hnode
        | markup => exact accounts_markup ih hnode

end Tracer

end RenderAudit
