import Mathlib.Data.List.Basic
import RenderAudit.Proofs.CycleReport
import RenderAudit.Proofs.EdgeSelection
import RenderAudit.Proofs.Search

/-!
# The graph at two bounds

With a deeper bound content is followed further. What was resolved stays as it was, since further
walks are longer than those found before, and what can still change had been marked: a slot whose
resolution depends on the bound starts a walk as long as the lower bound. So edges stay, and so do
the answers of a search that came to its end; only doubts go.
-/

namespace RenderAudit

/-! ### One slot at two bounds -/

section Slot

variable {usages : Usages} {bound bound' : Nat} {slot : Slot}

theorem resolveSlot_depth_iff_of_le (hle : bound ≤ bound') {d : Nat} :
    (resolveSlot usages bound slot).depth = some d ↔
      (resolveSlot usages bound' slot).depth = some d ∧ d ≤ bound := by
  rw [resolveSlot_depth_eq_some_iff, resolveSlot_depth_eq_some_iff]
  constructor
  · rintro ⟨hpos, hd, hleast⟩
    exact ⟨⟨hpos, hd.trans hle, hleast⟩, hd⟩
  · rintro ⟨⟨hpos, -, hleast⟩, hd⟩
    exact ⟨hpos, hd, hleast⟩

theorem resolveSlot_exceeded_of_le (hle : bound ≤ bound')
    (hexceeded : (resolveSlot usages bound' slot).exceeded = true) :
    (resolveSlot usages bound slot).exceeded = true := by
  obtain ⟨last, hsteps⟩ := resolveSlot_exceeded_iff.1 hexceeded
  exact resolveSlot_exceeded_iff.2 (hsteps.take hle)

/-- A doubt that shows only beyond the lower bound had shown as its being exceeded. -/
theorem resolveSlot_doubt_of_le (hle : bound ≤ bound')
    (hdoubt : (resolveSlot usages bound' slot).unknown = true ∨
      (resolveSlot usages bound' slot).exceeded = true) :
    (resolveSlot usages bound slot).unknown = true ∨
      (resolveSlot usages bound slot).exceeded = true := by
  rcases hdoubt with hunknown | hexceeded
  · obtain ⟨n, -, last, hsteps, hobscures⟩ := resolveSlot_unknown_iff.1 hunknown
    rcases Nat.lt_or_ge n bound with hlt | hge
    · exact .inl (resolveSlot_unknown_iff.2 ⟨n, hlt, last, hsteps, hobscures⟩)
    · exact .inr (resolveSlot_exceeded_iff.2 (hsteps.take hge))
  · exact .inr (resolveSlot_exceeded_of_le hle hexceeded)

/-- Content that is rendered beyond the lower bound exceeds it on the way. -/
theorem resolveSlot_depth_le_of_not_exceeded
    (hexceeded : (resolveSlot usages bound slot).exceeded = false) {d : Nat}
    (hdepth : (resolveSlot usages bound' slot).depth = some d) : d ≤ bound := by
  obtain ⟨hpos, -, ⟨last, hsteps, -⟩, -⟩ := resolveSlot_depth_eq_some_iff.1 hdepth
  by_contra hdeep
  rw [resolveSlot_exceeded_iff.2 (hsteps.take (by omega))] at hexceeded
  cases hexceeded

theorem mem_reached_resolveSlot_of_le (hle : bound ≤ bound') {last : Slot}
    (hmem : last ∈ (resolveSlot usages bound slot).reached) :
    last ∈ (resolveSlot usages bound' slot).reached := by
  obtain ⟨n, hn, hsteps⟩ := mem_reached_resolveSlot_iff.1 hmem
  exact mem_reached_resolveSlot_iff.2 ⟨n, hn.trans hle, hsteps⟩

theorem SlotResolution.state_eq_dropped_iff {resolution : SlotResolution} :
    resolution.state = .dropped ↔
      resolution.depth = none ∧ resolution.exceeded = false ∧ resolution.unknown = false := by
  obtain ⟨depth, unknown, exceeded, reached⟩ := resolution
  cases depth <;> cases unknown <;> cases exceeded <;> simp [state]

theorem resolveSlot_dropped_of_le (hle : bound ≤ bound')
    (hdropped : (resolveSlot usages bound slot).state = .dropped) :
    (resolveSlot usages bound' slot).state = .dropped := by
  obtain ⟨hdepth, hexceeded, hunknown⟩ := SlotResolution.state_eq_dropped_iff.1 hdropped
  have hcertain : ¬((resolveSlot usages bound' slot).unknown = true ∨
      (resolveSlot usages bound' slot).exceeded = true) := by
    intro hdoubt
    have hdoubt := resolveSlot_doubt_of_le hle hdoubt
    simp [hexceeded, hunknown] at hdoubt
  rw [not_or, Bool.not_eq_true, Bool.not_eq_true] at hcertain
  refine SlotResolution.state_eq_dropped_iff.2 ⟨?_, hcertain.2, hcertain.1⟩
  cases hdepth' : (resolveSlot usages bound' slot).depth with
  | none => rfl
  | some d =>
      have hd := resolveSlot_depth_le_of_not_exceeded hexceeded hdepth'
      rw [(resolveSlot_depth_iff_of_le hle).2 ⟨hdepth', hd⟩] at hdepth
      cases hdepth

end Slot

/-! ### One component at two bounds -/

namespace ComponentUsage

variable {usages : Usages} {bound bound' : Nat} {usage : ComponentUsage}

theorem uncertain_iff :
    usage.uncertain usages bound = true ↔
      usage.walked = false ∨
        (∃ instantiation ∈ usage.direct, instantiation.target.isOpaque = true) ∨
        ∃ group ∈ usage.groups, group.isEmpty = false ∧
          ((resolveSlot usages bound group.slot).unknown = true ∨
            (resolveSlot usages bound group.slot).exceeded = true) := by
  simp [uncertain, or_assoc]

theorem uncertain_of_le (hle : bound ≤ bound') (huncertain : usage.uncertain usages bound' = true) :
    usage.uncertain usages bound = true := by
  rw [uncertain_iff] at huncertain ⊢
  rcases huncertain with hwalked | hforeign | ⟨group, hgroup, hempty, hdoubt⟩
  · exact .inl hwalked
  · exact .inr (.inl hforeign)
  · exact .inr (.inr ⟨group, hgroup, hempty, resolveSlot_doubt_of_le hle hdoubt⟩)

/-- A lower bound leaves out the candidates that lie deeper, and no others. -/
theorem candidates_eq_filter (hle : bound ≤ bound') (usage : ComponentUsage) :
    usage.candidates usages bound =
      (usage.candidates usages bound').filter (·.path.depth ≤ bound) := by
  unfold candidates
  rw [List.filter_append, List.filter_flatMap]
  congr 1
  · rw [eq_comm, List.filter_eq_self]
    intro edge hedge
    obtain ⟨instantiation, -, rfl⟩ := List.mem_map.1 hedge
    simp [EdgePath.depth]
  · congr 1
    funext group
    cases hdepth : (resolveSlot usages bound group.slot).depth with
    | some d =>
        obtain ⟨hdepth', hd⟩ := (resolveSlot_depth_iff_of_le hle).1 hdepth
        rw [hdepth', eq_comm]
        simp only
        rw [List.filter_eq_self]
        intro edge hedge
        obtain ⟨member, -, rfl⟩ := List.mem_map.1 hedge
        exact decide_eq_true hd
    | none =>
        cases hdepth' : (resolveSlot usages bound' group.slot).depth with
        | none => rfl
        | some d =>
            have hdeep : ¬d ≤ bound := by
              intro hd
              rw [(resolveSlot_depth_iff_of_le hle).2 ⟨hdepth', hd⟩] at hdepth
              cases hdepth
            simp only
            rw [eq_comm, List.filter_eq_nil_iff]
            intro edge hedge
            obtain ⟨member, -, rfl⟩ := List.mem_map.1 hedge
            exact fun hd => hdeep (of_decide_eq_true hd)

theorem mem_edges_of_le (hle : bound ≤ bound') {edge : ActualEdge}
    (hedge : edge ∈ usage.edges usages bound) : edge ∈ usage.edges usages bound' := by
  rw [mem_edges_iff] at hedge ⊢
  rw [candidates_eq_filter hle usage] at hedge
  exact ⟨hedge.1, ActualEdge.mem_select_of_mem_select_filter hedge.2⟩

/-- The edges of a component that is certain do not change. -/
theorem edges_eq_of_certain (hle : bound ≤ bound')
    (hcertain : usage.uncertain usages bound = false) :
    usage.edges usages bound' = usage.edges usages bound := by
  have hcandidates : usage.candidates usages bound' = usage.candidates usages bound := by
    rw [candidates_eq_filter hle usage, eq_comm, List.filter_eq_self]
    intro edge hedge
    rcases mem_candidates_iff.1 hedge with
      ⟨instantiation, -, rfl⟩ | ⟨group, hgroup, d, hdepth, member, hmember, rfl⟩
    · exact decide_eq_true (Nat.zero_le bound)
    -- A deeper candidate comes from a group that exceeds the lower bound, which is a doubt.
    · have hexceeded : (resolveSlot usages bound group.slot).exceeded = false := by
        rw [← Bool.not_eq_true] at hcertain ⊢
        intro hexceeded
        refine hcertain (uncertain_iff.2 (.inr (.inr ⟨group, hgroup, ?_, .inr hexceeded⟩)))
        rw [SupplyGroup.isEmpty, List.isEmpty_eq_false_iff.2 (List.ne_nil_of_mem hmember)]
        rfl
      exact decide_eq_true (resolveSlot_depth_le_of_not_exceeded hexceeded hdepth)
  unfold edges
  rw [hcandidates]

end ComponentUsage

/-! ### All components at two bounds -/

theorem Usages.endlessGroups_sublist_of_le (usages : Usages) {bound bound' : Nat}
    (hle : bound ≤ bound') :
    (usages.endlessGroups bound').Sublist (usages.endlessGroups bound) := by
  classical
  unfold endlessGroups
  apply List.monotone_filter_right
  intro entry hentry
  obtain ⟨hmembers, last, hsteps⟩ := of_decide_eq_true hentry
  exact decide_eq_true ⟨hmembers, hsteps.take hle⟩

namespace ActualGraph

variable {usages : Usages} {bound bound' : Nat} {component : Nat}

theorem mem_edgesOf_of_le (hle : bound ≤ bound') {edge : ActualEdge}
    (hedge : edge ∈ (ofUsages bound usages).edgesOf component) :
    edge ∈ (ofUsages bound' usages).edgesOf component := by
  rw [edgesOf_ofUsages] at hedge ⊢
  cases hget : usages.get? component with
  | none =>
      rw [hget] at hedge
      cases hedge
  | some usage =>
      rw [hget] at hedge
      exact ComponentUsage.mem_edges_of_le hle hedge

theorem isUncertain_of_le (hle : bound ≤ bound')
    (huncertain : (ofUsages bound' usages).isUncertain component = true) :
    (ofUsages bound usages).isUncertain component = true := by
  obtain ⟨usage, husage, hcomponent, huncertain⟩ := isUncertain_ofUsages_iff.1 huncertain
  exact isUncertain_ofUsages_iff.2
    ⟨usage, husage, hcomponent, ComponentUsage.uncertain_of_le hle huncertain⟩

theorem edgesOf_eq_of_certain (hle : bound ≤ bound')
    (hcertain : (ofUsages bound usages).isUncertain component = false) :
    (ofUsages bound' usages).edgesOf component = (ofUsages bound usages).edgesOf component := by
  rw [edgesOf_ofUsages, edgesOf_ofUsages]
  cases hget : usages.get? component with
  | none => rfl
  | some usage =>
      obtain ⟨husage, hcomponent⟩ := Usages.mem_of_get?_eq_some hget
      have husageCertain : usage.uncertain usages bound = false := by
        rw [← Bool.not_eq_true] at hcertain ⊢
        intro huncertain
        exact hcertain (isUncertain_ofUsages_iff.2 ⟨usage, husage, hcomponent, huncertain⟩)
      exact ComponentUsage.edges_eq_of_certain hle husageCertain

theorem hasEdge_of_le (hle : bound ≤ bound') {key : Key}
    (hedge : (ofUsages bound usages).hasEdge component key = true) :
    (ofUsages bound' usages).hasEdge component key = true := by
  obtain ⟨edge, hmem, hkey⟩ := hasEdge_iff.1 hedge
  exact hasEdge_iff.2 ⟨edge, mem_edgesOf_of_le hle hmem, hkey⟩

theorem leads_of_le (hle : bound ≤ bound') {source target : Option Nat}
    (hleads : (ofUsages bound usages).Leads source target) :
    (ofUsages bound' usages).Leads source target := by
  obtain ⟨component, rfl, edge, hmem, hkind, href⟩ := hleads
  exact ⟨component, rfl, edge, mem_edgesOf_of_le hle hmem, hkind, href⟩

theorem steps_of_le (hle : bound ≤ bound') {n : Nat} {source target : Option Nat}
    (hsteps : Steps (ofUsages bound usages).Leads n source target) :
    Steps (ofUsages bound' usages).Leads n source target :=
  hsteps.transfer fun _ _ _ _ hleads => leads_of_le hle hleads

theorem Finds.of_le (hle : bound ≤ bound') {key : Key} {source : Option Nat}
    (hfinds : (ofUsages bound usages).Finds key source bound) :
    (ofUsages bound' usages).Finds key source bound' := by
  obtain ⟨n, hn, component, hsteps, hedge⟩ := hfinds
  exact ⟨n, hn.trans_le hle, component, steps_of_le hle hsteps, hasEdge_of_le hle hedge⟩

/-- What is reached at the lower bound is certain, so no walk takes an edge that is new. -/
theorem Excludes.steps_of_le (hle : bound ≤ bound') {key : Key} {source node : Option Nat}
    (hexcludes : (ofUsages bound usages).Excludes key source bound) {n : Nat}
    (hsteps : Steps (ofUsages bound' usages).Leads n source node) :
    Steps (ofUsages bound usages).Leads n source node := by
  refine hsteps.transfer ?_
  rintro m middle next hmiddle ⟨component, rfl, edge, hmem, hkind, href⟩
  have hcertain := ((hexcludes m _ hmiddle).2 component rfl).2
  rw [edgesOf_eq_of_certain hle hcertain] at hmem
  exact ⟨component, rfl, edge, hmem, hkind, href⟩

/-- Where the search came to its end no edge is added, so it comes to the same end. -/
theorem Excludes.of_le (hle : bound ≤ bound') {key : Key} {source : Option Nat}
    (hexcludes : (ofUsages bound usages).Excludes key source bound) :
    (ofUsages bound' usages).Excludes key source bound' := by
  intro n node hsteps
  obtain ⟨⟨m, hm, hnear⟩, hnode⟩ := hexcludes n node (hexcludes.steps_of_le hle hsteps)
  refine ⟨⟨m, hm.trans_le hle, ActualGraph.steps_of_le hle hnear⟩, ?_⟩
  rintro component rfl
  obtain ⟨hedge, hcertain⟩ := hnode component rfl
  constructor
  · rwa [hasEdge, edgesOf_eq_of_certain hle hcertain]
  · rw [← Bool.not_eq_true] at hcertain ⊢
    exact fun huncertain => hcertain (isUncertain_of_le hle huncertain)

/-- Edges that are new can keep others from being listed, unless all of them have ids. -/
theorem reaches_reached_of_le (hids : usages.Identified) (hle : bound ≤ bound') {source : Nat}
    {key : Key} (hreaches : (ofUsages bound usages).reaches source key = .ok .reached) :
    (ofUsages bound' usages).reaches source key = .ok .reached := by
  have hlistable : (ofUsages bound' usages).ListableWithin (some source) bound' :=
    fun _ _ component _ => listable_ofUsages hids bound' component
  exact (reaches_eq_reached_iff hlistable).2 (Finds.of_le hle (finds_of_reaches hreaches))

theorem reaches_notReached_of_le (hle : bound ≤ bound') {source : Nat} {key : Key}
    (hreaches : (ofUsages bound usages).reaches source key = .ok .notReached) :
    (ofUsages bound' usages).reaches source key = .ok .notReached := by
  obtain ⟨hexcludes, hlistable⟩ := reaches_eq_notReached_iff.1 hreaches
  refine reaches_eq_notReached_iff.2 ⟨hexcludes.of_le hle, ?_⟩
  intro n _ component hsteps
  obtain ⟨⟨m, hm, hnear⟩, hcertain⟩ := hexcludes n _ (hexcludes.steps_of_le hle hsteps)
  have hedges := edgesOf_eq_of_certain hle (hcertain component rfl).2
  have hlisted := listable_iff.1 (hlistable m hm component hnear)
  rw [← hedges] at hlisted
  exact listable_iff.2 hlisted

end ActualGraph

end RenderAudit
