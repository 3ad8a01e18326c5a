import Mathlib.Data.List.Flatten
import Mathlib.Data.List.Perm.Subperm
import RenderAudit.Element
import RenderAudit.Proofs.Traversal

/-!
# The parts of an element

Children of a node are picked by their field, their position or their kind. Children with different
fields are different, and so are the nodes below them. An element has attributes in its opening tag
and children between its tags; as long as the opening tag is known as one, these have no node in
common.
-/

namespace RenderAudit

namespace Node

/-- The opening tag of an element is not one of its children that hold content. -/
def OpensWithTag (element : Node) : Prop :=
  ∀ tag, element.withField? "open_tag" = some tag → tag.kind = "jsx_opening_element"

instance (element : Node) : Decidable element.OpensWithTag :=
  inferInstanceAs (Decidable (∀ tag ∈ element.withField? "open_tag",
    tag.kind = "jsx_opening_element"))

/-- Every element of a tree opens as the grammar has it. -/
def Regular (root : Node) : Prop :=
  ∀ element ∈ root.nodes, element.isElement = true → element.OpensWithTag

instance (root : Node) : Decidable root.Regular :=
  inferInstanceAs (Decidable (∀ element ∈ root.nodes, element.isElement = true →
    element.OpensWithTag))

theorem Regular.of_subset {root part : Node} (hroot : root.Regular)
    (hpart : part.nodes ⊆ root.nodes) : part.Regular :=
  fun element helement => hroot element (hpart helement)

theorem nodes_subset_of_mem_children {node child : Node} (hchild : child ∈ node.children) :
    child.nodes ⊆ node.nodes := by
  intro element helement
  rw [nodes_eq_cons]
  exact List.mem_cons_of_mem _ (List.mem_flatMap.2 ⟨child, hchild, helement⟩)

theorem Regular.child {root child : Node} (hroot : root.Regular) (hchild : child ∈ root.children) :
    child.Regular :=
  hroot.of_subset (nodes_subset_of_mem_children hchild)

/-- Some nodes are among others, and are no more often there if the tree is regular. -/
def Among (regular : Prop) (nodes others : List Node) : Prop :=
  nodes ⊆ others ∧ (regular → nodes.Subperm others)

variable {regular : Prop} {node : Node}

theorem among_of_subperm {nodes others : List Node} (hnodes : nodes.Subperm others) :
    Among regular nodes others :=
  ⟨hnodes.subset, fun _ => hnodes⟩

theorem Among.trans {first second third : List Node} (hfirst : Among regular first second)
    (hsecond : Among regular second third) : Among regular first third :=
  ⟨List.Subset.trans hfirst.1 hsecond.1,
    fun hregular => (hfirst.2 hregular).trans (hsecond.2 hregular)⟩

theorem Among.append {first second first' second' : List Node} (hfirst : Among regular first first')
    (hsecond : Among regular second second') :
    Among regular (first ++ second) (first' ++ second') := by
  refine ⟨?_, fun hregular => (hfirst.2 hregular).append (hsecond.2 hregular)⟩
  exact List.append_subset.2 ⟨List.subset_append_of_subset_left _ hfirst.1,
    List.subset_append_of_subset_right _ hsecond.1⟩

theorem flatMap_nodes_subperm {few many : List Node} (hfew : few.Subperm many) :
    (few.flatMap nodes).Subperm (many.flatMap nodes) := by
  obtain ⟨middle, hperm, hsublist⟩ := hfew
  exact ((hperm.flatMap_right nodes).symm.subperm).trans (hsublist.flatMap nodes).subperm

theorem flatMap_children_sublist (node : Node) :
    (node.children.flatMap nodes).Sublist node.nodes := by
  rw [nodes_eq_cons]
  exact List.sublist_cons_self node _

/-- Children with different fields are different. -/
theorem filterMap_withField?_subperm (node : Node) {fields : List String} (hfields : fields.Nodup) :
    (fields.filterMap node.withField?).Subperm node.children := by
  have hnodup : (fields.filterMap node.withField?).Nodup := by
    refine hfields.filterMap ?_
    intro field field' child hchild hchild'
    have hfield := List.find?_some hchild
    have hfield' := List.find?_some hchild'
    rw [beq_iff_eq] at hfield hfield'
    exact Option.some.inj (hfield.symm.trans hfield')
  refine hnodup.subperm ?_
  intro child hchild
  obtain ⟨field, -, hfield⟩ := List.mem_filterMap.1 hchild
  exact List.mem_of_find?_eq_some hfield

/-- An element is its own tag and has nothing between tags, or its tag is one of its children. -/
theorem openingTag?_cases {element tag : Node} (htag : element.openingTag? = some tag) :
    (tag = element ∧ element.elementChildren = []) ∨
      (tag ∈ element.children ∧ (element.OpensWithTag → tag.kind = "jsx_opening_element")) := by
  unfold openingTag? at htag
  split at htag
  · next hkind =>
    cases htag
    exact .inl ⟨rfl, if_pos hkind⟩
  · split at htag
    · right
      rcases Option.or_eq_some_iff.1 htag with htag | ⟨-, htag⟩
      · exact ⟨List.mem_of_find?_eq_some htag, fun hopens => hopens tag htag⟩
      · have hkind := List.find?_some htag
        exact ⟨List.mem_of_mem_filter (List.mem_of_find?_eq_some htag), fun _ => eq_of_beq hkind⟩
    · cases htag

theorem elementChildren_sublist (element : Node) :
    element.elementChildren.Sublist
      (element.children.filter fun child => !(child.kind == "jsx_opening_element")) := by
  unfold elementChildren
  split
  · exact List.nil_sublist _
  · refine (List.monotone_filter_right _ ?_).trans (List.filter_sublist.filter _)
    intro child hchild
    simp_all [isOneOf]

/-- What stands in the opening tag of an element and what stands between its tags are apart. -/
theorem among_parts (element : Node) (hopens : regular → element.OpensWithTag) :
    Among regular
      ((element.openingTag?.toList.flatMap children ++ element.elementChildren).flatMap nodes)
      (element.children.flatMap nodes) := by
  have hchildren : element.elementChildren.Sublist element.children :=
    (elementChildren_sublist element).trans List.filter_sublist
  cases htag : element.openingTag? with
  | none => exact among_of_subperm (flatMap_nodes_subperm hchildren.subperm)
  | some tag =>
      rw [Option.toList_some, List.flatMap_singleton]
      obtain ⟨rfl, hnone⟩ | ⟨hmem, hkind⟩ := openingTag?_cases htag
      · rw [hnone, List.append_nil]
        exact among_of_subperm (List.Subperm.refl _)
      · rw [List.flatMap_append]
        have hinside := (flatMap_children_sublist tag).append_right
          (element.elementChildren.flatMap nodes)
        refine (among_of_subperm hinside.subperm).trans ⟨?_, fun hregular => ?_⟩
        · refine List.append_subset.2 ⟨?_, (hchildren.flatMap nodes).subset⟩
          intro node hnode
          exact List.mem_flatMap.2 ⟨tag, hmem, hnode⟩
        · have hkind := hkind (hopens hregular)
          have hopening : [tag].Sublist
              (element.children.filter (·.kind == "jsx_opening_element")) := by
            rw [List.singleton_sublist, List.mem_filter]
            exact ⟨hmem, beq_iff_eq.2 hkind⟩
          have happart := hopening.append (elementChildren_sublist element)
          rw [← List.flatMap_singleton nodes tag, ← List.flatMap_append]
          exact flatMap_nodes_subperm
            (happart.subperm.trans (List.filter_append_perm _ element.children).subperm)

/-! ### Attributes -/

/-- The value of an attribute is the attribute itself or below it. -/
theorem sublist_of_attribute? {unit : SourceUnit} {node : Node} {entry : Attribute}
    (hentry : unit.attribute? node = some entry) :
    (entry.value.toList.flatMap nodes).Sublist node.nodes := by
  unfold SourceUnit.attribute? at hentry
  split at hentry
  · split at hentry
    · cases hentry
    · next name rest hchildren =>
      cases hentry
      have hrest : rest.head?.toList.Sublist node.children := by
        rw [← List.take_one]
        refine ((List.take_sublist 1 rest).trans (List.sublist_cons_self name rest)).trans ?_
        rw [← hchildren]
        exact List.filter_sublist
      exact (hrest.flatMap nodes).trans (flatMap_children_sublist node)
  · split at hentry
    · cases hentry
      simp
    · cases hentry

theorem attributes_sublist (unit : SourceUnit) (element : Node) :
    ((unit.attributes element).flatMap fun entry => entry.value.toList.flatMap nodes).Sublist
      ((element.openingTag?.toList.flatMap children).flatMap nodes) := by
  unfold SourceUnit.attributes
  cases element.openingTag? with
  | none => exact List.Sublist.refl _
  | some tag =>
      rw [Option.toList_some, List.flatMap_singleton]
      dsimp only
      rw [List.filterMap_eq_flatMap_toList, List.flatMap_assoc]
      refine (List.Sublist.flatMap_right _ ?_).trans
        ((List.filter_sublist.trans List.filter_sublist).flatMap nodes)
      intro child _
      cases hentry : unit.attribute? child with
      | none => exact List.nil_sublist _
      | some entry => simpa using sublist_of_attribute? hentry

/-- The nodes below an element that are read: values of attributes, and what is between the tags. -/
def partNodes (unit : SourceUnit) (element : Node) : List Node :=
  ((unit.attributes element).flatMap fun entry => entry.value.toList.flatMap nodes) ++
    element.elementChildren.flatMap nodes

theorem among_partNodes (unit : SourceUnit) {regular : Prop} {element : Node}
    (hopens : regular → element.OpensWithTag) :
    Among regular (partNodes unit element) (element.children.flatMap nodes) := by
  refine Among.trans (among_of_subperm ?_) (among_parts element hopens)
  rw [List.flatMap_append]
  exact ((attributes_sublist unit element).append_right _).subperm

theorem value_nodes_subset {unit : SourceUnit} {element value : Node} {entry : Attribute}
    (hentry : entry ∈ unit.attributes element) (hvalue : entry.value = some value) :
    value.nodes ⊆ element.nodes := by
  intro node hnode
  have hpart : node ∈ partNodes unit element := by
    apply List.mem_append_left
    refine List.mem_flatMap.2 ⟨entry, hentry, ?_⟩
    rw [hvalue]
    simpa using hnode
  rw [nodes_eq_cons]
  exact List.mem_cons_of_mem _ ((among_partNodes unit False.elim).1 hpart)

end Node

end RenderAudit
