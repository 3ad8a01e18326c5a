import RenderAudit.Proofs.Traversal

/-!
# The order of a traversal

A traversal keeps what it still has to visit on a stack. It visits what the recursion into the tree
lists: a node, then all that is below its first child, then all that is below the next one. Every
node has an address, the positions of the children on the way to it, and the addresses come in
order, each of them once: a node before those below it, and all below a child before all below a
later one.
-/

namespace RenderAudit.Node

mutual

/-- The nodes of a tree, by recursion. -/
def preorder : Node → List Node
  | ⟨id, kind, start, stop, field, named, children⟩ =>
      ⟨id, kind, start, stop, field, named, children⟩ :: preorderAll children

def preorderAll : List Node → List Node
  | [] => []
  | node :: nodes => preorder node ++ preorderAll nodes

end

mutual

/-- The addresses of the nodes of a tree. -/
def addresses : Node → List (List Nat)
  | ⟨_, _, _, _, _, _, children⟩ => [] :: addressesFrom 0 children

/-- The addresses in trees that stand beside each other, the first of them at a position. -/
def addressesFrom : Nat → List Node → List (List Nat)
  | _, [] => []
  | position, node :: nodes =>
      (addresses node).map (position :: ·) ++ addressesFrom (position + 1) nodes

end

/-- The node at an address. -/
def at? (node : Node) : List Nat → Option Node
  | [] => some node
  | position :: address => node.children[position]?.bind (·.at? address)

/-- One address comes before another: it leads to a node above, or the two part at a node, where it
goes to an earlier child. -/
inductive Precedes : List Nat → List Nat → Prop
  | above (address : List Nat) (child : Nat) (below : List Nat) :
      Precedes address (address ++ child :: below)
  | beside (address : List Nat) {first second : Nat} (below below' : List Nat)
      (hlt : first < second) : Precedes (address ++ first :: below) (address ++ second :: below')

/-! ### The stack and the recursion -/

theorem induction_children {motive : Node → Prop}
    (hnode : ∀ node, (∀ child ∈ node.children, motive child) → motive node) (node : Node) :
    motive node := by
  induction hsize : node.size using Nat.strongRecOn generalizing node with
  | ind size ih =>
      subst hsize
      exact hnode node fun child hchild => ih child.size (size_lt_of_mem_children hchild) child rfl

theorem preorder_eq_cons (node : Node) :
    node.preorder = node :: node.children.flatMap preorder := by
  have hall : ∀ nodes : List Node, preorderAll nodes = nodes.flatMap preorder := by
    intro nodes
    induction nodes with
    | nil => rfl
    | cons first nodes ih => rw [preorderAll, ih, List.flatMap_cons]
  obtain ⟨id, kind, start, stop, field, named, children⟩ := node
  rw [preorder, hall]

theorem nodes_eq_preorder (root : Node) : root.nodes = root.preorder := by
  induction root using induction_children with
  | hnode node ih =>
      rw [nodes_eq_cons, preorder_eq_cons, List.flatMap_congr ih]

/-- The stack is empty when all nodes have been visited, so a higher limit changes nothing. -/
theorem visit_eq_preorder {root : Node} {limit : Nat} (hlimit : root.size ≤ limit) :
    visit children limit [root] = root.preorder := by
  rw [weighs_size.visit_eq root.sum_size_singleton_le hlimit]
  exact root.nodes_eq_preorder

/-! ### Addresses -/

theorem addresses_eq_cons (node : Node) :
    node.addresses = [] :: node.children.zipIdx.flatMap fun (child, position) =>
      child.addresses.map (position :: ·) := by
  have hfrom : ∀ (nodes : List Node) (position : Nat), addressesFrom position nodes =
      (nodes.zipIdx position).flatMap fun (child, position) =>
        child.addresses.map (position :: ·) := by
    intro nodes
    induction nodes with
    | nil => intro position; rfl
    | cons first nodes ih =>
        intro position
        rw [addressesFrom, ih, List.zipIdx_cons, List.flatMap_cons]
  obtain ⟨id, kind, start, stop, field, named, children⟩ := node
  rw [addresses, hfrom]

theorem at?_cons {node child : Node} {position : Nat}
    (hchild : (child, position) ∈ node.children.zipIdx) (address : List Nat) :
    node.at? (position :: address) = child.at? address := by
  rw [at?, List.mem_zipIdx_iff_getElem?.1 hchild, Option.bind_some]

/-- The recursion comes to the nodes in the order of their addresses. -/
theorem map_preorder (root : Node) : root.preorder.map some = root.addresses.map root.at? := by
  induction root using induction_children with
  | hnode node ih =>
      have hchildren : ∀ entry ∈ node.children.zipIdx,
          (entry.1.addresses.map (entry.2 :: ·)).map node.at? = entry.1.preorder.map some := by
        intro entry hentry
        rw [ih entry.1 (List.fst_mem_of_mem_zipIdx hentry), List.map_map]
        exact List.map_congr_left fun address _ => at?_cons hentry address
      have hpositions : node.children.flatMap (fun child => child.preorder.map some) =
          node.children.zipIdx.flatMap fun entry => entry.1.preorder.map some := by
        conv_lhs => rw [← List.zipIdx_map_fst 0 node.children, List.flatMap_map]
      rw [preorder_eq_cons, addresses_eq_cons, List.map_cons, List.map_cons, List.map_flatMap,
        List.map_flatMap, List.flatMap_congr hchildren, hpositions]
      rfl

theorem mem_addresses_iff {root : Node} {address : List Nat} :
    address ∈ root.addresses ↔ (root.at? address).isSome = true := by
  induction address generalizing root with
  | nil =>
      rw [addresses_eq_cons]
      exact ⟨fun _ => rfl, fun _ => List.mem_cons_self⟩
  | cons position address ih =>
      have hbelow : position :: address ∈ root.addresses ↔
          ∃ child, (child, position) ∈ root.children.zipIdx ∧ address ∈ child.addresses := by
        rw [addresses_eq_cons]
        simp [List.mem_flatMap]
      rw [hbelow]
      constructor
      · rintro ⟨child, hchild, haddress⟩
        rw [at?_cons hchild]
        exact ih.1 haddress
      · intro hsome
        obtain ⟨node, hnode⟩ := Option.isSome_iff_exists.1 hsome
        obtain ⟨child, hchild, hat⟩ := Option.bind_eq_some_iff.1 hnode
        exact ⟨child, List.mem_zipIdx_iff_getElem?.2 hchild,
          ih.2 (Option.isSome_iff_exists.2 ⟨node, hat⟩)⟩

namespace Precedes

variable {first second : List Nat}

theorem ne (hprecedes : Precedes first second) : first ≠ second := by
  cases hprecedes with
  | above => simp
  | beside address below below' hlt =>
      intro heq
      have hcons := List.append_cancel_left heq
      cases hcons
      exact Nat.lt_irrefl _ hlt

theorem cons (hprecedes : Precedes first second) (position : Nat) :
    Precedes (position :: first) (position :: second) := by
  cases hprecedes with
  | above _ child below => exact .above (position :: first) child below
  | beside address below below' hlt => exact .beside (position :: address) below below' hlt

end Precedes

theorem pairwise_zipIdx (nodes : List Node) :
    nodes.zipIdx.Pairwise fun first second => first.2 < second.2 := by
  refine List.pairwise_map.1 ?_
  rw [List.zipIdx_map_snd]
  exact List.pairwise_lt_range'

theorem pairwise_addresses (root : Node) : root.addresses.Pairwise Precedes := by
  induction root using induction_children with
  | hnode node ih =>
      rw [addresses_eq_cons, List.pairwise_cons, List.pairwise_flatMap]
      refine ⟨?_, ?_, ?_⟩
      · intro address haddress
        obtain ⟨entry, -, hmem⟩ := List.mem_flatMap.1 haddress
        obtain ⟨below, -, rfl⟩ := List.mem_map.1 hmem
        exact .above [] entry.2 below
      · intro entry hentry
        refine List.pairwise_map.2 ?_
        exact (ih entry.1 (List.fst_mem_of_mem_zipIdx hentry)).imp fun hprecedes =>
          hprecedes.cons entry.2
      · refine (pairwise_zipIdx node.children).imp ?_
        intro first second hlt address haddress other hother
        obtain ⟨below, -, rfl⟩ := List.mem_map.1 haddress
        obtain ⟨below', -, rfl⟩ := List.mem_map.1 hother
        exact .beside [] below below' hlt

theorem nodup_addresses (root : Node) : root.addresses.Nodup :=
  root.pairwise_addresses.imp Precedes.ne

end RenderAudit.Node
