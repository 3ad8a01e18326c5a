import Mathlib.Algebra.Order.BigOperators.Group.List
import Mathlib.Algebra.Order.Group.Nat
import Mathlib.Algebra.Ring.Nat
import Mathlib.Data.List.Perm.Basic
import Mathlib.Data.List.Sigma
import RenderAudit.SourceUnit
import RenderAudit.Tree.Rows

/-!
# What a traversal visits

A visit with a limit of at least the number of nodes comes to every node once, each before what is
below it. So it is the traversal that recurses into the tree, and it is closed: the children of a
visited node, the nodes above it and the siblings after it are visited too.
-/

namespace RenderAudit

section Visit

variable {α : Type} {next : α → List α}

@[simp]
theorem visit_nil (limit : Nat) : visit next limit [] = [] := by
  cases limit <;> rfl

/-- How much there is to visit: the weight of an element counts it and all that follows from it. -/
def Weighs (next : α → List α) (weight : α → Nat) : Prop :=
  ∀ x, weight x = ((next x).map weight).sum + 1

variable {weight : α → Nat} {limit : Nat} {pending : List α}

theorem Weighs.sum_lt (hweight : Weighs next weight) {first : α}
    (hle : ((first :: pending).map weight).sum ≤ limit + 1) :
    ((next first ++ pending).map weight).sum ≤ limit := by
  have hfirst := hweight first
  simp only [List.map_cons, List.sum_cons, List.map_append, List.sum_append] at hle ⊢
  omega

theorem Weighs.not_sum_le_zero (hweight : Weighs next weight) {first : α} :
    ¬((first :: pending).map weight).sum ≤ 0 := by
  have hfirst := hweight first
  simp only [List.map_cons, List.sum_cons]
  omega

/-- A limit that is not met makes no difference. -/
theorem Weighs.visit_succ (hweight : Weighs next weight)
    (hle : (pending.map weight).sum ≤ limit) :
    visit next (limit + 1) pending = visit next limit pending := by
  induction limit generalizing pending with
  | zero =>
      cases pending with
      | nil => rfl
      | cons first pending => exact absurd hle hweight.not_sum_le_zero
  | succ limit ih =>
      cases pending with
      | nil => rfl
      | cons first pending =>
          rw [visit, visit, ih (hweight.sum_lt hle)]

theorem Weighs.visit_eq (hweight : Weighs next weight) {limit' : Nat}
    (hle : (pending.map weight).sum ≤ limit) (hle' : limit ≤ limit') :
    visit next limit' pending = visit next limit pending := by
  induction hle' with
  | refl => rfl
  | step hle' ih => rw [hweight.visit_succ (Nat.le_trans hle hle'), ih]

theorem Weighs.visit_append (hweight : Weighs next weight) {later : List α}
    (hle : ((pending ++ later).map weight).sum ≤ limit) :
    visit next limit (pending ++ later) = visit next limit pending ++ visit next limit later := by
  induction limit generalizing pending with
  | zero =>
      cases pending with
      | nil => simp
      | cons first pending => exact absurd hle hweight.not_sum_le_zero
  | succ limit ih =>
      cases pending with
      | nil => simp
      | cons first pending =>
          rw [List.cons_append] at hle ⊢
          have hrest := hweight.sum_lt hle
          rw [← List.append_assoc] at hrest
          have hlater : (later.map weight).sum ≤ limit := by
            rw [List.map_append, List.sum_append] at hrest
            omega
          rw [visit, visit, ← List.append_assoc, ih hrest, hweight.visit_succ hlater,
            List.cons_append]

/-- A visit takes what is pending one after the other, with all that follows from each. -/
theorem Weighs.visit_eq_flatMap (hweight : Weighs next weight)
    (hle : (pending.map weight).sum ≤ limit) :
    visit next limit pending = pending.flatMap fun x => visit next (weight x) [x] := by
  induction pending with
  | nil => simp
  | cons first pending ih =>
      have hfirst : (([first] : List α).map weight).sum ≤ weight first := by simp
      have hsplit : (first :: pending).map weight = ([first] ++ pending).map weight := rfl
      rw [hsplit] at hle
      have hparts := hle
      rw [List.map_append, List.sum_append] at hparts
      have happend := hweight.visit_append hle
      rw [List.singleton_append] at happend
      rw [happend, List.flatMap_cons, ih (by omega),
        hweight.visit_eq hfirst (by simp at hparts; omega)]

theorem Weighs.visit_singleton (hweight : Weighs next weight) (x : α) :
    visit next (weight x) [x] = x :: (next x).flatMap fun y => visit next (weight y) [y] := by
  rw [hweight x, visit, List.append_nil, hweight.visit_eq_flatMap (Nat.le_refl _)]

theorem visit_map {β : Type} {next' : β → List β} {view : α → β}
    (hnext : ∀ x, (next x).map view = next' (view x)) (limit : Nat) (pending : List α) :
    (visit next limit pending).map view = visit next' limit (pending.map view) := by
  induction limit generalizing pending with
  | zero => rfl
  | succ limit ih =>
      cases pending with
      | nil => simp
      | cons first pending =>
          rw [visit, List.map_cons, ih, List.map_append, hnext]
          rfl

theorem Weighs.subset_visit (hweight : Weighs next weight)
    (hle : (pending.map weight).sum ≤ limit) : pending ⊆ visit next limit pending := by
  intro x hx
  rw [hweight.visit_eq_flatMap hle, List.mem_flatMap]
  refine ⟨x, hx, ?_⟩
  rw [hweight.visit_singleton]
  exact List.mem_cons_self

theorem Weighs.visit_closed (hweight : Weighs next weight)
    (hle : (pending.map weight).sum ≤ limit) {x y : α} (hx : x ∈ visit next limit pending)
    (hy : y ∈ next x) : y ∈ visit next limit pending := by
  induction limit generalizing pending with
  | zero => cases hx
  | succ limit ih =>
      cases pending with
      | nil => simp at hx
      | cons first pending =>
          have hrest := hweight.sum_lt hle
          rw [visit] at hx ⊢
          apply List.mem_cons_of_mem
          rcases List.mem_cons.1 hx with rfl | hx
          · exact hweight.subset_visit hrest (List.mem_append_left pending hy)
          · exact ih hrest hx

/-- What holds of all that is pending, and of what follows from an element if it holds of that,
holds of all that is visited. -/
theorem visit_induction {motive : α → Prop} (hpending : ∀ x ∈ pending, motive x)
    (hnext : ∀ x, motive x → ∀ y ∈ next x, motive y) : ∀ x ∈ visit next limit pending, motive x := by
  induction limit generalizing pending with
  | zero => simp [visit]
  | succ limit ih =>
      cases pending with
      | nil => simp
      | cons first pending =>
          obtain ⟨hfirst, hrest⟩ := List.forall_mem_cons.1 hpending
          rw [visit]
          refine List.forall_mem_cons.2 ⟨hfirst, ih ?_⟩
          intro x hx
          rcases List.mem_append.1 hx with hx | hx
          · exact hnext first hfirst x hx
          · exact hrest x hx

end Visit

namespace Node

theorem sizeAll_eq_sum (nodes : List Node) : sizeAll nodes = (nodes.map size).sum := by
  induction nodes with
  | nil => rfl
  | cons node nodes ih => rw [sizeAll, ih, List.map_cons, List.sum_cons]

theorem weighs_size : Weighs children size := by
  rintro ⟨id, kind, start, stop, field, named, children⟩
  rw [size, sizeAll_eq_sum]

/-- The traversal is the one that recurses into the children. -/
theorem nodes_eq_cons (node : Node) : node.nodes = node :: node.children.flatMap nodes :=
  weighs_size.visit_singleton node

theorem size_lt_of_mem_children {node child : Node} (hchild : child ∈ node.children) :
    child.size < node.size := by
  have hle : child.size ≤ (node.children.map size).sum :=
    List.le_sum_of_mem (List.mem_map_of_mem hchild)
  rw [weighs_size node]
  omega

theorem sum_size_singleton_le (root : Node) : ([root].map size).sum ≤ root.size := by
  simp

variable {root node : Node}

theorem self_mem_nodes (root : Node) : root ∈ root.nodes :=
  weighs_size.subset_visit root.sum_size_singleton_le List.mem_cons_self

theorem child_mem_nodes (hnode : node ∈ root.nodes) {child : Node} (hchild : child ∈ node.children) :
    child ∈ root.nodes :=
  weighs_size.visit_closed root.sum_size_singleton_le hnode hchild

theorem size_le_of_mem_nodes (hnode : node ∈ root.nodes) : node.size ≤ root.size := by
  revert node
  apply visit_induction
  · simp
  · intro node hle child hchild
    have hlt := size_lt_of_mem_children hchild
    omega

theorem nodes_subset_of_mem_nodes (hnode : node ∈ root.nodes) : node.nodes ⊆ root.nodes := by
  intro other hother
  revert other
  apply visit_induction
  · simpa using hnode
  · intro other hother child hchild
    exact child_mem_nodes hother hchild

/-- A node stands below another one. -/
def Below (root node : Node) : Prop :=
  ∃ above ∈ root.nodes, node ∈ above.children

theorem Below.size_lt (hbelow : root.Below node) : node.size < root.size := by
  obtain ⟨above, habove, hchild⟩ := hbelow
  exact Nat.lt_of_lt_of_le (size_lt_of_mem_children hchild) (size_le_of_mem_nodes habove)

theorem Below.mem_nodes (hbelow : root.Below node) : node ∈ root.nodes := by
  obtain ⟨above, habove, hchild⟩ := hbelow
  exact child_mem_nodes habove hchild

theorem Below.of_mem_nodes {below : Node} (hbelow : node.Below below) (hnode : node ∈ root.nodes) :
    root.Below below := by
  obtain ⟨above, habove, hchild⟩ := hbelow
  exact ⟨above, nodes_subset_of_mem_nodes hnode habove, hchild⟩

theorem withField?_mem_nodes (hnode : node ∈ root.nodes) {field : String} {child : Node}
    (hchild : node.withField? field = some child) : child ∈ root.nodes :=
  child_mem_nodes hnode (List.mem_of_find?_eq_some hchild)

theorem namedOfKind?_mem_nodes (hnode : node ∈ root.nodes) {kind : String} {child : Node}
    (hchild : node.namedOfKind? kind = some child) : child ∈ root.nodes :=
  child_mem_nodes hnode (List.mem_of_mem_filter (List.mem_of_find?_eq_some hchild))

theorem unwrapDeclaration_mem_nodes (hnode : node ∈ root.nodes) :
    node.unwrapDeclaration ∈ root.nodes := by
  have hgetD : ∀ {found : Option Node} {other : Node}, other ∈ root.nodes →
      (∀ child, found = some child → child ∈ root.nodes) → found.getD other ∈ root.nodes := by
    intro found other hother hfound
    cases found with
    | none => exact hother
    | some child => exact hfound child rfl
  have hexported : ∀ child, (node.withField? "declaration").or (node.withField? "value") =
      some child → child ∈ root.nodes := by
    intro child hchild
    rcases Option.or_eq_some_iff.1 hchild with hchild | ⟨-, hchild⟩
    · exact withField?_mem_nodes hnode hchild
    · exact withField?_mem_nodes hnode hchild
  have hinner : (if node.kind == "export_statement" then
      ((node.withField? "declaration").or (node.withField? "value")).getD node
      else node) ∈ root.nodes := by
    split
    · exact hgetD hnode hexported
    · exact hnode
  unfold unwrapDeclaration
  generalize (if node.kind == "export_statement" then
    ((node.withField? "declaration").or (node.withField? "value")).getD node else node) = inner
    at hinner ⊢
  dsimp only
  split
  · exact hgetD hinner fun child hchild => namedOfKind?_mem_nodes hinner hchild
  · exact hinner

end Node

namespace Located

theorem map_node_spread (above nodes : List Node) : (spread above nodes).map node = nodes := by
  induction nodes with
  | nil => rfl
  | cons first nodes ih => rw [spread, List.map_cons, ih]

theorem map_node_children (place : Located) : place.children.map node = place.node.children :=
  map_node_spread _ _

theorem mem_spread {above nodes : List Node} {place : Located} (hplace : place ∈ spread above nodes) :
    place.above = above ∧ place.node ∈ nodes ∧ place.after ⊆ nodes := by
  induction nodes with
  | nil => cases hplace
  | cons first nodes ih =>
      rcases List.mem_cons.1 hplace with rfl | hplace
      · exact ⟨rfl, List.mem_cons_self, List.subset_cons_self first nodes⟩
      · obtain ⟨habove, hnode, hafter⟩ := ih hplace
        exact ⟨habove, List.mem_cons_of_mem first hnode, List.subset_cons_of_subset first hafter⟩

end Located

namespace Node

variable {root : Node}

theorem map_node_places (root : Node) : root.places.map Located.node = root.nodes :=
  visit_map Located.map_node_children root.size [⟨root, [], []⟩]

/-- A place knows nothing but nodes of the tree. -/
theorem within_of_mem_places {place : Located} (hplace : place ∈ root.places) :
    place.node ∈ root.nodes ∧ place.above ⊆ root.nodes ∧ place.after ⊆ root.nodes := by
  refine visit_induction (motive := fun place : Located =>
    place.node ∈ root.nodes ∧ place.above ⊆ root.nodes ∧ place.after ⊆ root.nodes)
    ?_ ?_ place hplace
  · intro place hplace
    rw [List.mem_singleton.1 hplace]
    exact ⟨root.self_mem_nodes, List.nil_subset _, List.nil_subset _⟩
  · rintro parent ⟨hnode, habove, -⟩ place hplace
    obtain ⟨hplaceAbove, hchild, hafter⟩ := Located.mem_spread hplace
    refine ⟨child_mem_nodes hnode hchild, ?_, ?_⟩
    · rw [hplaceAbove]
      exact List.cons_subset.2 ⟨hnode, habove⟩
    · intro sibling hsibling
      exact child_mem_nodes hnode (hafter hsibling)

end Node

/-! ### Trees from rows -/

/-- The ids of all nodes of the trees in a list. -/
def waitingIds (waiting : List (Option Nat × Node)) : List Nat :=
  waiting.flatMap fun entry => entry.2.nodes.map Node.id

theorem Row.waitingIds_adopt (row : Row) (id : Nat) (waiting : List (Option Nat × Node)) :
    (waitingIds (adopt (row, id) waiting)).Perm (id :: waitingIds waiting) := by
  have hsplit := (List.filter_append_perm (fun entry => entry.1 == some id) waiting).flatMap_right
    fun entry => entry.2.nodes.map Node.id
  rw [List.flatMap_append] at hsplit
  unfold adopt waitingIds
  dsimp only
  rw [List.partition_eq_filter_filter]
  dsimp only
  rw [List.flatMap_cons, Node.nodes_eq_cons, List.map_cons,
    List.map_flatMap, List.flatMap_map, List.cons_append]
  exact hsplit.cons id

/-- Rows give their numbers to the nodes of a tree, so no two of them have the same. -/
theorem Node.nodup_ids_of_ofRows? {rows : List Row} {root : Node} (hroot : ofRows? rows = some root) :
    (root.nodes.map Node.id).Nodup := by
  have hids : ∀ entries : List (Row × Nat),
      (waitingIds (entries.foldr Row.adopt [])).Perm (entries.map Prod.snd) := by
    intro entries
    induction entries with
    | nil => exact .refl _
    | cons entry entries ih =>
        rw [List.foldr_cons, List.map_cons]
        exact (Row.waitingIds_adopt entry.1 entry.2 _).trans (ih.cons entry.2)
  have hnodup : (waitingIds (rows.zipIdx.foldr Row.adopt [])).Nodup := by
    rw [(hids rows.zipIdx).nodup_iff]
    exact List.nodup_zipIdx_map_snd rows
  unfold ofRows? at hroot
  obtain ⟨entry, hentry, rfl⟩ := Option.map_eq_some_iff.1 hroot
  exact (List.nodup_flatMap.1 hnodup).1 entry (List.mem_of_find?_eq_some hentry)

end RenderAudit
