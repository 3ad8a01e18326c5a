import RenderAudit.Proofs.DepthBound

/-!
# Where opaque content raises doubts

A component that instantiates something opaque itself is uncertain, and so is one whose supplied
content cannot be followed to its end. Opaque content in a slot that is followed to its end raises no
doubt. So a search that asserts the absence of a target may have passed opaque content of that kind,
and of no other.
-/

namespace RenderAudit

/-- An edge to content in a slot that is followed to its end. -/
def ActualEdge.Followed (usages : Usages) (bound : Nat) (edge : ActualEdge) : Prop :=
  ∃ depth slot, edge.path = .viaProperty depth ∧ edge.slot = some slot ∧
    (resolveSlot usages bound slot).unknown = false ∧
    (resolveSlot usages bound slot).exceeded = false

namespace ActualGraph

variable {usages : Usages} {bound source : Nat} {edge : ActualEdge}

theorem isUncertain_of_mem_direct {usage : ComponentUsage} {instantiation : Instantiation}
    (husage : usage ∈ usages) (hdirect : instantiation ∈ usage.direct)
    (htarget : instantiation.target.isOpaque = true) :
    (ofUsages bound usages).isUncertain usage.component = true := by
  refine isUncertain_ofUsages_iff.2 ⟨usage, husage, rfl, ?_⟩
  exact ComponentUsage.uncertain_iff.2 (.inr (.inl ⟨instantiation, hdirect, htarget⟩))

theorem isUncertain_of_doubt {usage : ComponentUsage} {group : SupplyGroup}
    {member : Instantiation} (husage : usage ∈ usages) (hgroup : group ∈ usage.groups)
    (hmember : member ∈ group.members)
    (hdoubt : (resolveSlot usages bound group.slot).unknown = true ∨
      (resolveSlot usages bound group.slot).exceeded = true) :
    (ofUsages bound usages).isUncertain usage.component = true := by
  have hempty : group.isEmpty = false := by
    have hmembers : group.members.isEmpty = false :=
      List.isEmpty_eq_false_iff.2 (List.ne_nil_of_mem hmember)
    simp [SupplyGroup.isEmpty, hmembers]
  refine isUncertain_ofUsages_iff.2 ⟨usage, husage, rfl, ?_⟩
  exact ComponentUsage.uncertain_iff.2 (.inr (.inr ⟨group, hgroup, hempty, hdoubt⟩))

theorem isUncertain_or_followed (hmem : edge ∈ (ofUsages bound usages).edgesOf source)
    (htarget : edge.target.isOpaque = true) :
    (ofUsages bound usages).isUncertain source = true ∨ edge.Followed usages bound := by
  obtain ⟨usage, hget, hcandidate⟩ := exists_candidate_of_mem_edgesOf hmem
  obtain ⟨husage, rfl⟩ := Usages.mem_of_get?_eq_some hget
  rcases ComponentUsage.mem_candidates_iff.1 hcandidate with
    ⟨instantiation, hdirect, rfl⟩ | ⟨group, hgroup, depth, -, member, hmember, rfl⟩
  · exact .inl (isUncertain_of_mem_direct husage hdirect htarget)
  · by_cases hdoubt : (resolveSlot usages bound group.slot).unknown = true ∨
        (resolveSlot usages bound group.slot).exceeded = true
    · exact .inl (isUncertain_of_doubt husage hgroup hmember hdoubt)
    · rw [not_or, Bool.not_eq_true, Bool.not_eq_true] at hdoubt
      exact .inr ⟨depth, group.slot, rfl, rfl, hdoubt⟩

end ActualGraph

/-- A component with an edge to something opaque is uncertain, unless the edge leads through a slot
whose content is followed to its end. So where a search asserts that a target is not reached, all
opaque content of the components that it met lies in such slots. -/
theorem opaque_edges_uncertain_or_followed (usages : Usages) (bound : Nat) :
    let graph := ActualGraph.ofUsages bound usages
    (∀ source, ∀ edge ∈ graph.edgesOf source, edge.target.isOpaque = true →
      graph.isUncertain source = true ∨ edge.Followed usages bound) ∧
    ∀ source key, graph.reaches source key = .ok .notReached →
      ∀ n component, Steps graph.Leads n (some source) (some component) →
        ∀ edge ∈ graph.edgesOf component, edge.target.isOpaque = true →
          edge.Followed usages bound := by
  intro graph
  refine ⟨fun source edge => ActualGraph.isUncertain_or_followed, ?_⟩
  intro source key hreaches n component hsteps edge hedge htarget
  have hexcludes := (ActualGraph.reaches_eq_notReached_iff.1 hreaches).1
  have hcertain := ((hexcludes n _ hsteps).2 component rfl).2
  refine (ActualGraph.isUncertain_or_followed hedge htarget).resolve_left ?_
  rw [hcertain]
  exact Bool.false_ne_true

/-- `Page` puts something unknown into `Frame`, which renders its children. -/
def framedUsages : Usages :=
  [{ component := 0, walked := true, uses := []
     direct := [⟨.component 1 "Frame", ⟨"frame.tsx", 4, 5, 0, 0⟩⟩]
     groups := [⟨0, ⟨1, "children"⟩, ⟨"frame.tsx", 4, 5, 0, 0⟩,
       [⟨.unresolved "Mystery", ⟨"frame.tsx", 4, 12, 0, 0⟩⟩], []⟩] },
   ⟨1, true, [], [], [("children", .render none)]⟩]

/-- `Page` has an edge to something opaque, but is not uncertain. So a component that might be behind
that edge is said not to be reached. -/
theorem framed_opaque_unnoticed :
    (∃ edge ∈ (ActualGraph.ofUsages 8 framedUsages).edgesOf 0,
      edge.target.isOpaque = true ∧ edge.path = .viaProperty 1) ∧
    (ActualGraph.ofUsages 8 framedUsages).isUncertain 0 = false ∧
    (ActualGraph.ofUsages 8 framedUsages).reaches 0 (.component (some 2)) = .ok .notReached := by
  decide

end RenderAudit
