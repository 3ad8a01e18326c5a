import RenderAudit.Proofs.ElementsOnce
import RenderAudit.Proofs.ExtractionSteps
import RenderAudit.Proofs.ShortestEdges

/-!
# Direct usage cannot be hidden

One edge is kept for each target of a component, and an edge through the slot of a declared
component is excused. What a component instantiates itself has depth zero, less than anything that
it supplies, so the kept edge is the earliest direct one as soon as there is one. It is not excused,
and since names lead to components of that name, no other edge is reported under the same name.
-/

namespace RenderAudit

/-! ### The edge to what is instantiated directly -/

namespace ComponentUsage

variable {usages : Usages} {bound : Nat} {usage : ComponentUsage}

theorem span_order_of_precedence {first second : Instantiation}
    (hle : (ActualEdge.precedence (usage.directEdge first) (usage.directEdge second)).isLE = true) :
    (first.span.order second.span).isLE = true := by
  simpa [ActualEdge.precedence, compareLex, compareOn, directEdge] using hle

/-- The best way to a target is direct if any is, and then the earliest of those. -/
theorem exists_earliest_of_mem_direct (hwalked : usage.walked = true) {value : Instantiation}
    (hvalue : value ∈ usage.direct) :
    ∃ earliest ∈ usage.direct, earliest.target.key = value.target.key ∧
      (∀ other ∈ usage.direct, other.target.key = value.target.key →
        (earliest.span.order other.span).isLE = true) ∧
      usage.directEdge earliest ∈ usage.edges usages bound := by
  have hkey : value.target.key ∈ (usage.edges usages bound).map (·.target.key) :=
    mem_keys_edges_iff.2 ⟨hwalked, mem_keys_candidates_iff.2 (.inl ⟨value, hvalue, rfl⟩)⟩
  obtain ⟨edge, hedge, hsame⟩ := List.mem_map.1 hkey
  have hselected := (mem_edges_iff.1 hedge).2
  have hbest := ActualEdge.firstBest_of_mem_select hselected
  have hminimal : ∀ other ∈ usage.direct, other.target.key = value.target.key →
      (ActualEdge.precedence edge (usage.directEdge other)).isLE = true := by
    intro other hother hotherKey
    exact hbest.minimal (mem_candidates_iff.2 (.inl ⟨other, hother, rfl⟩))
      (hotherKey.trans hsame.symm)
  rcases mem_candidates_iff.1 (ActualEdge.mem_of_mem_select hselected) with
    ⟨earliest, hdirect, rfl⟩ | ⟨group, -, depth, hdepth, member, -, rfl⟩
  · refine ⟨earliest, hdirect, hsame, ?_, hedge⟩
    intro other hother hotherKey
    exact span_order_of_precedence (hminimal other hother hotherKey)
  · -- content of a slot is at least one step away
    have hlt : (usage.directEdge value).path.depth <
        (usage.suppliedEdge group depth member).path.depth :=
      (resolveSlot_depth_eq_some_iff.1 hdepth).1
    have hle := hminimal value hvalue rfl
    have hswap := ActualEdge.precedence_isLT_of_depth_lt hlt
    rw [Ordering.isLT_iff_eq_lt] at hswap
    exact absurd hswap (Std.OrientedCmp.not_lt_of_isLE hle)

/-- Edges lead to what the component instantiates. -/
theorem exists_value_of_mem_edges {edge : ActualEdge} (hedge : edge ∈ usage.edges usages bound) :
    ∃ value ∈ usage.instantiations, value.target = edge.target := by
  have hcandidate := ActualEdge.mem_of_mem_select (mem_edges_iff.1 hedge).2
  rcases mem_candidates_iff.1 hcandidate with
    ⟨value, hvalue, rfl⟩ | ⟨group, hgroup, depth, -, member, hmember, rfl⟩
  · exact ⟨value, List.mem_append_left _ hvalue, rfl⟩
  · exact ⟨member, List.mem_append_right _ (List.mem_flatMap.2 ⟨group, hgroup, hmember⟩), rfl⟩

end ComponentUsage

theorem ActualGraph.nodup_keys_edgesOf {usages : Usages} {bound component : Nat} :
    (((ofUsages bound usages).edgesOf component).map (·.target.key)).Nodup := by
  rw [edgesOf_ofUsages]
  cases usages.get? component with
  | none => exact List.nodup_nil
  | some usage => exact ComponentUsage.nodup_keys_edges

/-! ### Targets by their names -/

namespace Arena

variable {arena : Arena} {resolver : Resolver} {first second : String} {target other : Target}

/-- Components that are shown alike are the same. -/
theorem NamesIndexed.eq_of_label_eq (hnames : arena.NamesIndexed)
    (htarget : arena.targetOf? resolver first = some target)
    (hother : arena.targetOf? resolver second = some other) (hkind : target.kind = .component)
    (hotherKind : other.kind = .component) (hlabel : target.label = other.label) :
    target = other := by
  obtain ⟨component, hcomponent, rfl⟩ := component_of_targetOf? htarget hkind
  obtain ⟨component', hcomponent', rfl⟩ := component_of_targetOf? hother hotherKind
  have hname : component.name = component'.name := hlabel
  rw [hnames.name_of_componentNamed? hcomponent,
    hnames.name_of_componentNamed? hcomponent'] at hname
  rw [hname, hcomponent'] at hcomponent
  cases hcomponent
  rfl

/-- What is neither foreign nor a host element is a component. -/
theorem kind_of_targetOf? (htarget : arena.targetOf? resolver first = some target)
    (hclear : target.isOpaque = false) (hintrinsic : target.kind ≠ .intrinsic) :
    target.kind = .component := by
  obtain ⟨component, -, rfl⟩ | rfl | rfl | rfl := targetOf?_cases htarget
  · rfl
  · exact absurd rfl hintrinsic
  · cases hclear
  · cases hclear

end Arena

/-! ### What is reported -/

theorem filter_eq_singleton {α κ : Type} {entries : List α} {key : α → κ} {keep : α → Bool}
    {x : α} (hnodup : (entries.map key).Nodup) (hmem : x ∈ entries) (hx : keep x = true)
    (hkey : ∀ y ∈ entries, keep y = true → key y = key x) : entries.filter keep = [x] := by
  obtain ⟨before, after, rfl⟩ := List.append_of_mem hmem
  rw [List.map_append, List.map_cons, List.nodup_middle, List.nodup_cons,
    ← List.map_append] at hnodup
  have hdropped : ∀ y ∈ before ++ after, ¬keep y = true := by
    intro y hy hkeep
    apply hnodup.1
    rw [← hkey y (by simp_all [or_left_comm]) hkeep]
    exact List.mem_map_of_mem hy
  rw [List.forall_mem_append] at hdropped
  rw [List.filter_append, List.filter_cons_of_pos hx, List.filter_eq_nil_iff.2 hdropped.1,
    List.filter_eq_nil_iff.2 hdropped.2, List.nil_append]

namespace Comparison

variable {comparison : Comparison} {component : Component} {edge : ActualEdge}

theorem mem_details_undeclaredFinding_iff {label : String} :
    ("target", .text label) ∈ (comparison.undeclaredFinding component edge).details ↔
      edge.target.label = label := by
  simp [undeclaredFinding, eq_comm]

theorem covers_of_direct (hpath : edge.path = .direct) :
    comparison.covers component.id edge =
      comparison.declared.declares component.id edge.target.key := by
  simp [covers, hpath]

/-- An edge is the only one that is reported under the name of its target. -/
theorem filter_undeclaredUsages (haccountable : comparison.Accountable component)
    {undeclared : List Finding}
    (hundeclared : comparison.undeclaredUsages component = .ok undeclared)
    (hnodup : ((comparison.actual.edgesOf component.id).map (·.target.key)).Nodup)
    (hedge : edge ∈ comparison.actual.edgesOf component.id)
    (hclear : edge.target.isOpaque = false) (hintrinsic : edge.target.kind ≠ .intrinsic)
    (hcovers : comparison.covers component.id edge = false)
    (hothers : ∀ other ∈ comparison.actual.edgesOf component.id,
      other.target.isOpaque = false → other.target.kind ≠ .intrinsic →
        other.target.label = edge.target.label → other.target.key = edge.target.key) :
    undeclared.filter
      (fun reported => ("target", .text edge.target.label) ∈ reported.details) =
        [comparison.undeclaredFinding component edge] := by
  rw [undeclaredUsages_of_accountable haccountable] at hundeclared
  obtain ⟨listed, hlisted, rfl⟩ := map_eq_ok_iff.1 hundeclared
  have hmem : ∀ {other}, other ∈ listed ↔ other ∈ comparison.actual.edgesOf component.id :=
    ActualGraph.mem_of_edgesFrom hlisted
  have hkeys : (listed.map (·.target.key)).Nodup :=
    ((ActualGraph.perm_of_edgesFrom hlisted).map _).nodup_iff.2 hnodup
  rw [List.filter_map, List.filter_filter, filter_eq_singleton hkeys (hmem.2 hedge),
    List.map_singleton]
  · simp [mem_details_undeclaredFinding_iff, hclear, hintrinsic, hcovers]
  · intro other hother hreported
    rw [hmem] at hother
    simp only [Function.comp_apply, mem_details_undeclaredFinding_iff, Bool.and_eq_true,
      Bool.not_eq_true', decide_eq_true_eq] at hreported
    obtain ⟨hlabel, ⟨hclear, hintrinsic⟩, -⟩ := hreported
    exact hothers other hother hclear hintrinsic hlabel

end Comparison

namespace Analysis.Undisturbed

variable {config : Config} {resolver : Resolver} {unit : SourceUnit} {analysis : Analysis}

theorem namesIndexed (hrun : analysis.Undisturbed config resolver unit) :
    analysis.arena.NamesIndexed := by
  rw [hrun.arena]
  exact Arena.namesIndexed_ofUnit config unit

theorem edgesOf_eq (hrun : analysis.Undisturbed config resolver unit) {component : Nat}
    {usage : ComponentUsage} (hget : analysis.actual.usages.get? component = some usage) :
    analysis.actual.edgesOf component =
      usage.edges analysis.actual.usages config.depthBound := by
  rw [hrun.actual, ActualGraph.edgesOf_ofUsages, ← hrun.actual, hget]
  rfl

theorem walked_of_mem_direct (hrun : analysis.Undisturbed config resolver unit) {component : Nat}
    {usage : ComponentUsage} (hget : analysis.actual.usages.get? component = some usage)
    {value : Instantiation} (hvalue : value ∈ usage.direct) : usage.walked = true := by
  obtain ⟨first, entry, -, rfl⟩ :=
    exists_traceComponent_of_mem hrun.traced (Usages.mem_of_get?_eq_some hget).1
  exact walked_of_mem_instantiations (List.mem_append_left _ hvalue)

/-- Every edge leads to what some name stands for. -/
theorem exists_name_of_mem_edgesOf (hrun : analysis.Undisturbed config resolver unit)
    {source : Nat} {edge : ActualEdge} (hedge : edge ∈ analysis.actual.edgesOf source) :
    ∃ name, analysis.arena.targetOf? resolver name = some edge.target := by
  rw [hrun.actual] at hedge
  obtain ⟨usage, hget, -⟩ := ActualGraph.exists_candidate_of_mem_edgesOf hedge
  rw [← hrun.actual, hrun.edgesOf_eq hget] at hedge
  obtain ⟨value, hvalue, htarget⟩ := ComponentUsage.exists_value_of_mem_edges hedge
  obtain ⟨first, entry, -, rfl⟩ :=
    exists_traceComponent_of_mem hrun.traced (Usages.mem_of_get?_eq_some hget).1
  obtain ⟨_, _, _, _, hrecords⟩ := exists_records_of_mem_instantiations hvalue
  obtain ⟨name, -, hname⟩ := Option.bind_eq_some_iff.1 hrecords.named
  exact ⟨name, htarget ▸ hname⟩

/-- The target of an edge with the key of a component is that component. -/
theorem target_eq_of_key (hrun : analysis.Undisturbed config resolver unit) {source : Nat}
    {edge : ActualEdge} (hedge : edge ∈ analysis.actual.edgesOf source) {target : Component}
    (htarget : target ∈ analysis.arena.components)
    (hkey : edge.target.key = .component (some target.id)) :
    edge.target = .component target.id target.name := by
  obtain ⟨name, hname⟩ := hrun.exists_name_of_mem_edgesOf hedge
  have hkind : edge.target.kind = .component := by
    cases hkind : edge.target.kind <;> simp [Target.key, hkind] at hkey ⊢
  obtain ⟨component, hcomponent, heq⟩ := Arena.component_of_targetOf? hname hkind
  rw [heq] at hkey ⊢
  have hid : component.id = target.id := by simpa [Target.key, Target.component] using hkey
  have hfound := hrun.sound.components.getElem?_eq_some (Arena.mem_of_componentNamed? hcomponent)
  rw [hid, hrun.sound.components.getElem?_eq_some htarget] at hfound
  cases hfound
  rfl

/-- No other edge of a component is reported under the name of one that it has an edge to. -/
theorem key_eq_of_reported (hrun : analysis.Undisturbed config resolver unit) {source : Nat}
    {edge other : ActualEdge} (hedge : edge ∈ analysis.actual.edgesOf source)
    (hother : other ∈ analysis.actual.edgesOf source) (hkind : edge.target.kind = .component)
    (hclear : other.target.isOpaque = false) (hintrinsic : other.target.kind ≠ .intrinsic)
    (hlabel : other.target.label = edge.target.label) : other.target.key = edge.target.key := by
  obtain ⟨name, hname⟩ := hrun.exists_name_of_mem_edgesOf hedge
  obtain ⟨name', hname'⟩ := hrun.exists_name_of_mem_edgesOf hother
  have hotherKind := Arena.kind_of_targetOf? hname' hclear hintrinsic
  rw [hrun.namesIndexed.eq_of_label_eq hname' hname hotherKind hkind hlabel]

/-- A direct edge to a component that is not declared is reported, and no other one is reported
under the name of that component. -/
theorem filter_undeclaredUsages (hrun : analysis.Undisturbed config resolver unit)
    {component : Component} {edge : ActualEdge}
    (hopted : analysis.declared.optedIn.contains component.id = true)
    (hwild : analysis.declared.wildcard.contains component.id = false)
    (hedge : edge ∈ analysis.actual.edgesOf component.id)
    (hkind : edge.target.kind = .component) (hpath : edge.path = .direct)
    (hdeclares : analysis.declared.declares component.id edge.target.key = false)
    {undeclared : List Finding}
    (hundeclared : (analysis.comparison config).undeclaredUsages component = .ok undeclared) :
    undeclared.filter
      (fun reported => ("target", .text edge.target.label) ∈ reported.details) =
        [(analysis.comparison config).undeclaredFinding component edge] := by
  have hnodup : ((analysis.actual.edgesOf component.id).map (·.target.key)).Nodup := by
    rw [hrun.actual]
    exact ActualGraph.nodup_keys_edgesOf
  apply Comparison.filter_undeclaredUsages ⟨hopted, hwild⟩ hundeclared hnodup hedge
  · simp [Target.isOpaque, hkind]
  · simp [hkind]
  · exact (Comparison.covers_of_direct hpath).trans hdeclares
  · intro other hother
    exact hrun.key_eq_of_reported hedge hother hkind

end Analysis.Undisturbed

/-- **Direct usage cannot be hidden.** A component that declares something, but neither everything
nor the component `target`, and that instantiates `target` itself, is reported for it exactly once:
at the earliest of these instantiations, whatever else it supplies to the slots of others. -/
theorem direct_usage_reported_once (config : Config) (resolver : Resolver) (unit : SourceUnit) :
    ∃ analysis, Analysis.run config (.quiet resolver) unit .fresh = .ok (analysis, .fresh) ∧
      ∀ component ∈ analysis.arena.components, ∀ target ∈ analysis.arena.components, ∀ usage,
        analysis.declared.optedIn.contains component.id = true →
        analysis.declared.wildcard.contains component.id = false →
        analysis.declared.declares component.id (.component (some target.id)) = false →
        analysis.actual.usages.get? component.id = some usage →
        (∃ value ∈ usage.direct, value.target.key = .component (some target.id)) →
        ∃ earliest ∈ usage.direct, earliest.target = .component target.id target.name ∧
          (∀ other ∈ usage.direct, other.target.key = .component (some target.id) →
            (earliest.span.order other.span).isLE = true) ∧
          ∃ finding : Finding, finding.kind = .undeclaredUsage ∧ finding.span = earliest.span ∧
            finding.details = [("source", .text component.name), ("target", .text target.name),
              ("path", .text "direct")] ∧
            (∃ undeclared,
              (analysis.comparison config).undeclaredUsages component = .ok undeclared ∧
              undeclared.filter
                (fun reported => ("target", .text target.name) ∈ reported.details) = [finding]) ∧
            ∃ reported ∈ analysis.findings, reported.identity = finding.identity := by
  obtain ⟨analysis, hrun⟩ := Analysis.exists_undisturbed config resolver unit
  refine ⟨analysis, Analysis.run_quiet_eq_ok_of_undisturbed hrun, ?_⟩
  rintro component hcomponent target htarget usage hopted hwild hdeclares hget ⟨value, hvalue, hkey⟩
  obtain ⟨earliest, hearliest, hsame, horder, hedge⟩ :=
    ComponentUsage.exists_earliest_of_mem_direct (hrun.walked_of_mem_direct hget hvalue) hvalue
  rw [← hrun.edgesOf_eq hget] at hedge
  rw [hkey] at hsame horder
  have htargetEq : (usage.directEdge earliest).target = .component target.id target.name :=
    hrun.target_eq_of_key hedge htarget hsame
  have hlabel : (usage.directEdge earliest).target.label = target.name := by
    rw [htargetEq]
    rfl
  obtain ⟨undeclared, hundeclared⟩ := hrun.exists_undeclaredUsages component
  have hfilter := hrun.filter_undeclaredUsages hopted hwild hedge (by rw [htargetEq]; rfl) rfl
    (hsame ▸ hdeclares) hundeclared
  rw [hlabel] at hfilter
  have hfound : (analysis.comparison config).undeclaredFinding component
      (usage.directEdge earliest) ∈ undeclared :=
    List.filter_sublist.subset (hfilter ▸ List.mem_singleton_self _)
  refine ⟨earliest, hearliest, htargetEq, horder, _, rfl, rfl, ?_,
    ⟨undeclared, hundeclared, hfilter⟩, hrun.exists_mem_findings hcomponent
      (Comparison.mem_componentFindings_iff.2 ⟨undeclared, hundeclared, .inl hfound⟩)⟩
  unfold Comparison.undeclaredFinding
  rw [hlabel]
  rfl

/-- `App` puts a `Card` into the declared `Box` too, which would be excused. -/
theorem box_card_reported_once :
    ∃ analysis, Analysis.run relayConfig (.quiet .blind) boxUnit .fresh = .ok (analysis, .fresh) ∧
      ∃ component ∈ analysis.arena.components, component.name = "App" ∧
        ∃ target ∈ analysis.arena.components, target.name = "Card" ∧
          ∃ usage ∈ analysis.actual.usages,
            (∃ group ∈ usage.groups, ∃ member ∈ group.members,
              member.target.key = .component (some target.id) ∧
              analysis.declared.declares component.id (.component (some group.slot.owner)) =
                true) ∧
            ∃ finding : Finding,
              (∃ undeclared,
                (analysis.comparison relayConfig).undeclaredUsages component = .ok undeclared ∧
                undeclared.filter
                  (fun reported => ("target", .text "Card") ∈ reported.details) = [finding]) ∧
              finding.details =
                [("source", .text "App"), ("target", .text "Card"), ("path", .text "direct")] := by
  obtain ⟨analysis, hrun, honce⟩ := direct_usage_reported_once relayConfig .blind boxUnit
  have hcard : (Analysis.run relayConfig (.quiet .blind) boxUnit .fresh).toOption.any
      (fun result => decide (∃ component ∈ result.1.arena.components, component.name = "App" ∧
        ∃ target ∈ result.1.arena.components, target.name = "Card" ∧
          result.1.declared.optedIn.contains component.id = true ∧
          result.1.declared.wildcard.contains component.id = false ∧
          result.1.declared.declares component.id (.component (some target.id)) = false ∧
          ∃ usage ∈ result.1.actual.usages.get? component.id,
            (∃ value ∈ usage.direct, value.target.key = .component (some target.id)) ∧
            ∃ group ∈ usage.groups, ∃ member ∈ group.members,
              member.target.key = .component (some target.id) ∧
              result.1.declared.declares component.id (.component (some group.slot.owner)) =
                true)) = true := by
    decide +kernel
  rw [hrun] at hcard
  obtain ⟨component, hcomponent, happ, target, htarget, hname, hopted, hwild, hdeclares, usage,
    hget, hdirect, hsupplied⟩ := of_decide_eq_true hcard
  obtain ⟨-, -, -, -, finding, -, -, hdetails, hfilter, -⟩ :=
    honce component hcomponent target htarget usage hopted hwild hdeclares hget hdirect
  rw [hname] at hfilter hdetails
  rw [happ] at hdetails
  exact ⟨analysis, hrun, component, hcomponent, happ, target, htarget, hname, usage,
    (Usages.mem_of_get?_eq_some hget).1, hsupplied, finding, hfilter, hdetails⟩

end RenderAudit
