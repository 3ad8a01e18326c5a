import RenderAudit.Actual
import RenderAudit.Proofs.Outcomes
import RenderAudit.Proofs.Resolution

/-!
# Content that is forwarded without end

Content is reported as forwarded without end where it is supplied: once for each group with members
of a traced component whose slot starts a walk as long as the bound.
-/

namespace RenderAudit

namespace Usages

/-- The components and slots that usages speak of belong to an arena. -/
structure RefersTo (usages : Usages) (arena : Arena) : Prop where
  component : ∀ usage ∈ usages, usage.component < arena.components.length
  supplied : ∀ usage ∈ usages, ∀ group ∈ usage.groups,
    group.slot.owner < arena.components.length
  forwarded : ∀ usage ∈ usages, ∀ property slot, (property, PropUse.forward slot) ∈ usage.uses →
    slot.owner < arena.components.length

/-- The groups that traced components supply, each with its component. -/
def suppliedGroups (usages : Usages) : List (Nat × SupplyGroup) :=
  (usages.filter (·.walked)).flatMap fun usage =>
    usage.groups.map fun group => (usage.component, group)

theorem mem_suppliedGroups {usages : Usages} {entry : Nat × SupplyGroup} :
    entry ∈ usages.suppliedGroups ↔
      ∃ usage ∈ usages, usage.walked = true ∧ usage.component = entry.1 ∧
        entry.2 ∈ usage.groups := by
  obtain ⟨component, group⟩ := entry
  simp only [suppliedGroups, List.mem_flatMap, List.mem_filter, List.mem_map, Prod.mk.injEq]
  constructor
  · rintro ⟨usage, ⟨husage, hwalked⟩, other, hother, rfl, rfl⟩
    exact ⟨usage, husage, hwalked, rfl, hother⟩
  · rintro ⟨usage, husage, hwalked, rfl, hgroup⟩
    exact ⟨usage, ⟨husage, hwalked⟩, group, hgroup, rfl, rfl⟩

end Usages

namespace ActualGraph

/-- The groups whose content is reported as forwarded without end, each with its component. -/
def reportedGroups (graph : ActualGraph) : List (Nat × SupplyGroup) :=
  graph.usages.flatMap fun usage =>
    (graph.cyclicGroups usage).map fun group => (usage.component, group)

theorem cycleFindings_eq_mapM (graph : ActualGraph) (arena : Arena) :
    graph.cycleFindings arena =
      graph.reportedGroups.mapM fun entry => graph.cycleFinding arena entry.1 entry.2 :=
  rfl

/-- A group is reported for what its own slot resolves to, in the order of the supplied groups. -/
theorem reportedGroups_eq_filter (graph : ActualGraph) :
    graph.reportedGroups = graph.usages.suppliedGroups.filter fun entry =>
      !entry.2.members.isEmpty && (graph.resolve entry.2.slot).exceeded := by
  unfold reportedGroups Usages.suppliedGroups
  induction graph.usages with
  | nil => rfl
  | cons usage usages ih =>
      rw [List.flatMap_cons, ih, cyclicGroups]
      by_cases hwalked : usage.walked = true
      · rw [if_pos hwalked, List.filter_cons_of_pos hwalked, List.flatMap_cons, List.filter_append,
          List.filter_map]
        rfl
      · rw [if_neg hwalked, List.filter_cons_of_neg hwalked]
        rfl

theorem exists_cycleFinding_eq_ok (graph : ActualGraph) {arena : Arena} {component : Nat}
    {group : SupplyGroup} (hcomponent : component < arena.components.length)
    (howner : group.slot.owner < arena.components.length) :
    ∃ finding, graph.cycleFinding arena component group = .ok finding := by
  obtain ⟨source, hsource⟩ := Arena.exists_component_eq_ok hcomponent
  obtain ⟨owner, howner⟩ := Arena.exists_component_eq_ok howner
  unfold cycleFinding
  rw [hsource, howner]
  exact ⟨_, rfl⟩

theorem cycleFinding_kind_span {graph : ActualGraph} {arena : Arena} {component : Nat}
    {group : SupplyGroup} {finding : Finding}
    (hfinding : graph.cycleFinding arena component group = .ok finding) :
    finding.kind = .cycleDepthExceeded ∧ finding.span = group.span := by
  obtain ⟨source, -, hfinding⟩ := bind_eq_ok_iff.1 hfinding
  obtain ⟨owner, -, hfinding⟩ := bind_eq_ok_iff.1 hfinding
  cases hfinding
  exact ⟨rfl, rfl⟩

theorem exists_cycleFindings_eq_ok {usages : Usages} {arena : Arena} (bound : Nat)
    (hrefers : usages.RefersTo arena) :
    ∃ findings, (ofUsages bound usages).cycleFindings arena = .ok findings := by
  rw [cycleFindings_eq_mapM, exists_mapM_eq_ok_iff]
  intro entry hentry
  rw [reportedGroups_eq_filter] at hentry
  obtain ⟨usage, husage, -, hcomponent, hgroup⟩ :=
    Usages.mem_suppliedGroups.1 (List.mem_of_mem_filter hentry)
  refine exists_cycleFinding_eq_ok _ ?_ (hrefers.supplied usage husage entry.2 hgroup)
  rw [← hcomponent]
  exact hrefers.component usage husage

end ActualGraph

open Classical in
/-- The groups with members, of traced components, whose slot starts a walk as long as the bound. -/
noncomputable def Usages.endlessGroups (usages : Usages) (bound : Nat) : List (Nat × SupplyGroup) :=
  usages.suppliedGroups.filter fun entry =>
    entry.2.members ≠ [] ∧ ∃ last, Steps (Forwards usages) bound entry.2.slot last

theorem ActualGraph.reportedGroups_ofUsages (usages : Usages) (bound : Nat) :
    (ofUsages bound usages).reportedGroups = usages.endlessGroups bound := by
  classical
  rw [reportedGroups_eq_filter, Usages.endlessGroups]
  apply List.filter_congr
  intro entry _
  rw [Bool.eq_iff_iff, decide_eq_true_iff, ← resolveSlot_exceeded_iff]
  simp [resolve, ofUsages]

/-- The bound is exceeded at a slot exactly if a walk as long as the bound starts there. So content
is reported as forwarded without end once for each group with members of a traced component whose
slot starts such a walk, and for no other group. -/
theorem exceeded_iff_walk_and_reported_once (usages : Usages) (bound : Nat) :
    (∀ slot, (resolveSlot usages bound slot).exceeded = true ↔
      ∃ last, Steps (Forwards usages) bound slot last) ∧
    ∀ arena,
      (ActualGraph.ofUsages bound usages).cycleFindings arena =
        (usages.endlessGroups bound).mapM (fun entry =>
          (ActualGraph.ofUsages bound usages).cycleFinding arena entry.1 entry.2) ∧
      (usages.RefersTo arena →
        ∃ findings, (ActualGraph.ofUsages bound usages).cycleFindings arena = .ok findings ∧
          List.Forall₂
            (fun entry finding =>
              finding.kind = .cycleDepthExceeded ∧ finding.span = entry.2.span ∧
                (ActualGraph.ofUsages bound usages).cycleFinding arena entry.1 entry.2 =
                  .ok finding)
            (usages.endlessGroups bound) findings) := by
  refine ⟨fun slot => resolveSlot_exceeded_iff, ?_⟩
  intro arena
  rw [ActualGraph.cycleFindings_eq_mapM, ActualGraph.reportedGroups_ofUsages]
  refine ⟨rfl, ?_⟩
  intro hrefers
  obtain ⟨findings, hfindings⟩ := ActualGraph.exists_cycleFindings_eq_ok bound hrefers
  rw [ActualGraph.cycleFindings_eq_mapM, ActualGraph.reportedGroups_ofUsages] at hfindings
  refine ⟨findings, hfindings, (mapM_eq_ok_iff.1 hfindings).imp ?_⟩
  intro entry finding hfinding
  obtain ⟨hkind, hspan⟩ := ActualGraph.cycleFinding_kind_span hfinding
  exact ⟨hkind, hspan, hfinding⟩

/-- The first component supplies content to the second, which passes it on to itself. -/
def loopUsages : Usages :=
  [{ component := 0, walked := true, direct := [], uses := []
     groups := [⟨0, ⟨1, "children"⟩, ⟨"loop.tsx", 4, 5, 0, 0⟩,
       [⟨.intrinsic "p", ⟨"loop.tsx", 4, 12, 0, 0⟩⟩], []⟩] },
   { component := 1, walked := true, direct := [], uses := [("children", .forward ⟨1, "children"⟩)]
     groups := [⟨1, ⟨1, "children"⟩, ⟨"loop.tsx", 9, 5, 0, 0⟩, [], ["children"]⟩] }]

def loopArena : Arena :=
  ((Arena.empty.addComponent "Page" ⟨"loop.tsx", 3, 1, 0, 0⟩ .functional).2.addComponent
    "Frame" ⟨"loop.tsx", 8, 1, 0, 0⟩ .functional).2

theorem loop_reported_once :
    loopUsages.RefersTo loopArena ∧
      ∃ finding, (ActualGraph.ofUsages 4 loopUsages).cycleFindings loopArena = .ok [finding] ∧
        finding.kind = .cycleDepthExceeded := by
  have hrefers : loopUsages.RefersTo loopArena := by
    constructor <;> simp [loopUsages, loopArena, Arena.addComponent, Arena.empty]
  obtain ⟨findings, hfindings, hreported⟩ :=
    ((exceeded_iff_walk_and_reported_once loopUsages 4).2 loopArena).2 hrefers
  rw [← ActualGraph.reportedGroups_ofUsages] at hreported
  have hgroups : ∃ entry, (ActualGraph.ofUsages 4 loopUsages).reportedGroups = [entry] :=
    ⟨_, rfl⟩
  obtain ⟨entry, hentry⟩ := hgroups
  rw [hentry, List.forall₂_cons_left_iff] at hreported
  obtain ⟨finding, rest, ⟨hkind, -, -⟩, hrest, rfl⟩ := hreported
  rw [List.forall₂_nil_left_iff] at hrest
  subst hrest
  exact ⟨hrefers, finding, hfindings, hkind⟩

end RenderAudit
