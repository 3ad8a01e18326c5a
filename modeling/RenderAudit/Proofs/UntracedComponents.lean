import RenderAudit.Proofs.AnalysisSound

/-!
# Components that could not be traced

A component without a body, or with one that cannot be read to its end, leaves an empty usage that is
marked as not walked. Five later steps read it, each another part of it: edges come from what is
instantiated, groups from what is supplied, slots from how properties are used, and both the search
and the checks from the mark. In all of them the component stays an open question.
-/

namespace RenderAudit

/-! ### The usage that is left -/

/-- The component has a body, and it is read to its end. -/
def Traceable (unit : SourceUnit) (arena : Arena) (resolver : Resolver) (shape : Shape) : Prop :=
  ∃ body, shape.body = some body ∧
    Content.isComplete ((Tracer.mk unit arena resolver (unit.bindings shape)).readBody body) = true

section Tracing

variable {unit : SourceUnit} {arena : Arena} {resolver : Resolver} {first component : Nat}
  {shape : Shape}

theorem component_traceComponent :
    (traceComponent unit arena resolver first component shape).usage.component = component := by
  unfold traceComponent
  split
  · rfl
  · dsimp only [Content.usage]
    split <;> rfl

theorem walked_traceComponent_iff :
    (traceComponent unit arena resolver first component shape).usage.walked = true ↔
      Traceable unit arena resolver shape := by
  unfold traceComponent Traceable
  cases hbody : shape.body with
  | none => simp [ComponentUsage.untraced]
  | some body =>
      simp only [Content.usage, Option.some.injEq, exists_eq_left']
      split
      · next hcomplete => simp [hcomplete]
      · next hcomplete => simp [hcomplete, ComponentUsage.untraced]

theorem usage_traceComponent_of_not_walked
    (hwalked : (traceComponent unit arena resolver first component shape).usage.walked = false) :
    (traceComponent unit arena resolver first component shape).usage = .untraced component := by
  revert hwalked
  unfold traceComponent
  split
  · intro _
    rfl
  · dsimp only [Content.usage]
    split
    · intro hwalked
      cases hwalked
    · intro _
      rfl

theorem exists_mem_of_traceAll {inquiry : Inquiry} {token token' : CancelToken}
    {shapes : List (Shape × Nat)} {usages : Usages}
    (htraced : traceAll unit arena inquiry first token shapes = .ok (usages, token'))
    {entry : Shape × Nat} (hentry : entry ∈ shapes) :
    ∃ usage ∈ usages, usage.component = entry.2 := by
  obtain ⟨usage, husage, start, rfl⟩ := exists_left_of_mem (forall₂_traceAll htraced).flip hentry
  exact ⟨_, husage, component_traceComponent⟩

end Tracing

/-! ### What later steps make of it -/

namespace ActualGraph

variable {usages : Usages} {bound component : Nat}

theorem wasWalked_of_get? {graph : ActualGraph} {usage : ComponentUsage}
    (hget : graph.usages.get? component = some usage) :
    graph.wasWalked component = usage.walked := by
  unfold wasWalked Usages.walked?
  rw [hget]
  cases hwalked : usage.walked <;> simp [hwalked]

theorem edgesOf_of_untraced (hget : usages.get? component = some (.untraced component)) :
    (ofUsages bound usages).edgesOf component = [] := by
  rw [edgesOf_ofUsages, hget]
  rfl

theorem groupsOf_of_untraced (hget : usages.get? component = some (.untraced component)) :
    (ofUsages bound usages).groupsOf component = [] := by
  simp [groupsOf, ofUsages, hget, ComponentUsage.untraced]

theorem isUncertain_of_untraced (hget : usages.get? component = some (.untraced component)) :
    (ofUsages bound usages).isUncertain component = true := by
  have husage := (Usages.mem_of_get?_eq_some hget).1
  exact isUncertain_ofUsages_iff.2 ⟨_, husage, rfl, ComponentUsage.uncertain_iff.2 (.inl rfl)⟩

theorem walked?_of_untraced (hget : usages.get? component = some (.untraced component)) :
    usages.walked? component = none := by
  simp [Usages.walked?, hget, ComponentUsage.untraced]

theorem resolve_of_untraced (hget : usages.get? component = some (.untraced component))
    (hbound : 1 ≤ bound) (property : String) :
    (ofUsages bound usages).resolve ⟨component, property⟩ = .untraced ⟨component, property⟩ := by
  obtain ⟨remaining, rfl⟩ : ∃ remaining, bound = remaining + 1 := ⟨bound - 1, by omega⟩
  exact follow_of_untraced List.not_mem_nil (walked?_of_untraced hget)

/-- A search that asserts an absence has met no uncertain component. -/
theorem reaches_ne_notReached_of_steps {graph : ActualGraph} {source n : Nat}
    (huncertain : graph.isUncertain component = true)
    (hsteps : Steps graph.Leads n (some source) (some component)) (key : Key) :
    graph.reaches source key ≠ .ok .notReached := by
  intro hreaches
  have hexcludes := (reaches_eq_notReached_iff.1 hreaches).1
  have hcertain := ((hexcludes n _ hsteps).2 component rfl).2
  rw [huncertain] at hcertain
  cases hcertain

/-- Content that gets to a slot of an untraced component is out of sight within the bound, or exceeds
the bound on the way. -/
theorem isUncertain_of_forwards_untraced
    (hget : usages.get? component = some (.untraced component)) {usage : ComponentUsage}
    (husage : usage ∈ usages) {group : SupplyGroup} (hgroup : group ∈ usage.groups)
    (hempty : group.isEmpty = false) {n : Nat} {last : Slot} (howner : last.owner = component)
    (hsteps : Steps (Forwards usages) n group.slot last) :
    (ofUsages bound usages).isUncertain usage.component = true := by
  have hobscures : Obscures usages last := by
    left
    rw [howner]
    exact walked?_of_untraced hget
  have hdoubt : (resolveSlot usages bound group.slot).unknown = true ∨
      (resolveSlot usages bound group.slot).exceeded = true := by
    by_cases hlt : n < bound
    · exact .inl (resolveSlot_unknown_iff.2 ⟨n, hlt, last, hsteps, hobscures⟩)
    · exact .inr (resolveSlot_exceeded_iff.2 (hsteps.take (by omega)))
  exact isUncertain_ofUsages_iff.2 ⟨usage, husage, rfl,
    ComponentUsage.uncertain_iff.2 (.inr (.inr ⟨group, hgroup, hempty, hdoubt⟩))⟩

end ActualGraph

theorem Comparison.componentFindings_eq_nil {comparison : Comparison} {component : Component}
    (hwalked : comparison.actual.wasWalked component.id = false)
    (hedges : comparison.actual.edgesFrom component.id = .ok [])
    (hgroups : comparison.actual.groupsOf component.id = []) :
    comparison.componentFindings component = [] := by
  have hundeclared : comparison.undeclaredUsages component = .ok [] := by
    by_cases haccountable : comparison.Accountable component
    · rw [undeclaredUsages_of_accountable haccountable, hedges]
      rfl
    · exact undeclaredUsages_of_not_accountable haccountable
  have hmissing : comparison.missingDeclarations component = .ok [] := by
    simp [missingDeclarations, hwalked]
  have hsupplied : comparison.suppliedContent component = .ok [] := by
    simp [suppliedContent, hgroups, bind, Except.bind, pure, Except.pure]
  exact componentFindings_eq hundeclared hmissing hsupplied

/-! ### Untraced components of a source -/

namespace Analysis

/-- Nothing is asserted on account of the component: it has no edges and supplies nothing, its slots
and itself are marked as unknown, no check reports anything about it, and neither a search that meets
it nor a component whose content gets to one of its slots passes for complete. -/
structure LeftOpen (config : Config) (analysis : Analysis) (component : Component) : Prop where
  edges : analysis.actual.edgesOf component.id = [] ∧
    analysis.actual.edgesFrom component.id = .ok []
  groups : analysis.actual.groupsOf component.id = []
  uncertain : analysis.actual.isUncertain component.id = true
  slots : ∀ property,
    (analysis.actual.resolve ⟨component.id, property⟩).state = .unknown ∧
      (analysis.actual.resolve ⟨component.id, property⟩).reached = [⟨component.id, property⟩]
  findings : (analysis.comparison config).componentFindings component = []
  reaches : ∀ source n, Steps analysis.actual.Leads n (some source) (some component.id) →
    ∀ key, ∃ answer, analysis.actual.reaches source key = .ok answer ∧ answer ≠ .notReached
  suppliers : ∀ usage ∈ analysis.actual.usages, ∀ group ∈ usage.groups, group.isEmpty = false →
    ∀ n last, Steps (Forwards analysis.actual.usages) n group.slot last →
      last.owner = component.id → analysis.actual.isUncertain usage.component = true

namespace Undisturbed

variable {config : Config} {resolver : Resolver} {unit : SourceUnit} {analysis : Analysis}

theorem exists_usage (hrun : analysis.Undisturbed config resolver unit) {component : Component}
    (hcomponent : component ∈ analysis.arena.components) :
    ∃ shape first,
      (Extraction.ofUnit config unit).shapes[component.id]? = some shape ∧
        analysis.actual.usages.get? component.id =
          some (traceComponent unit analysis.arena resolver first component.id shape).usage := by
  have hlt : component.id < (Extraction.ofUnit config unit).shapes.length := by
    rw [(Extraction.sound_ofUnit config unit).shapes]
    have hposition := hrun.sound.components.lt_length hcomponent
    rw [hrun.arena] at hposition
    exact hposition
  have hentry : ((Extraction.ofUnit config unit).shapes[component.id], component.id) ∈
      (Extraction.ofUnit config unit).shapes.zipIdx := by
    rw [List.mk_mem_zipIdx_iff_getElem?]
    exact List.getElem?_eq_getElem hlt
  obtain ⟨listed, hlisted, hid⟩ := exists_mem_of_traceAll hrun.traced hentry
  have hsome : (analysis.actual.usages.get? component.id).isSome = true := by
    unfold Usages.get?
    rw [List.find?_isSome]
    exact ⟨listed, hlisted, decide_eq_true hid⟩
  obtain ⟨usage, hget⟩ := Option.isSome_iff_exists.1 hsome
  obtain ⟨husage, hown⟩ := Usages.mem_of_get?_eq_some hget
  -- The usage that is found is the one of the shape at this position, as no other has this id.
  obtain ⟨first, ⟨shape, position⟩, hshape, rfl⟩ := exists_traceComponent_of_mem hrun.traced husage
  rw [component_traceComponent] at hown
  dsimp only at hown
  subst hown
  exact ⟨shape, first, List.mk_mem_zipIdx_iff_getElem?.1 hshape, hget⟩

theorem wasWalked_iff_traceable (hrun : analysis.Undisturbed config resolver unit)
    {component : Component} (hcomponent : component ∈ analysis.arena.components) :
    ∃ shape, (Extraction.ofUnit config unit).shapes[component.id]? = some shape ∧
      (analysis.actual.wasWalked component.id = true ↔
        Traceable unit analysis.arena resolver shape) := by
  obtain ⟨shape, first, hshape, hget⟩ := hrun.exists_usage hcomponent
  refine ⟨shape, hshape, ?_⟩
  rw [ActualGraph.wasWalked_of_get? hget]
  exact walked_traceComponent_iff

theorem get?_eq_untraced (hrun : analysis.Undisturbed config resolver unit) {component : Component}
    (hcomponent : component ∈ analysis.arena.components)
    (hwalked : analysis.actual.wasWalked component.id = false) :
    analysis.actual.usages.get? component.id = some (.untraced component.id) := by
  obtain ⟨shape, first, -, hget⟩ := hrun.exists_usage hcomponent
  rw [ActualGraph.wasWalked_of_get? hget] at hwalked
  rw [hget, usage_traceComponent_of_not_walked hwalked]

theorem leftOpen (hrun : analysis.Undisturbed config resolver unit) {component : Component}
    (hcomponent : component ∈ analysis.arena.components)
    (hwalked : analysis.actual.wasWalked component.id = false) :
    analysis.LeftOpen config component := by
  have hget := hrun.get?_eq_untraced hcomponent hwalked
  have hedges : analysis.actual.edgesOf component.id = [] := by
    rw [hrun.actual]
    exact ActualGraph.edgesOf_of_untraced hget
  have hlisted : analysis.actual.edgesFrom component.id = .ok [] := by
    rw [ActualGraph.edgesFrom, hedges]
    rfl
  have hgroups : analysis.actual.groupsOf component.id = [] := by
    rw [hrun.actual]
    exact ActualGraph.groupsOf_of_untraced hget
  have huncertain : analysis.actual.isUncertain component.id = true := by
    rw [hrun.actual]
    exact ActualGraph.isUncertain_of_untraced hget
  refine ⟨⟨hedges, hlisted⟩, hgroups, huncertain, ?_, ?_, ?_, ?_⟩
  · intro property
    have hslot : analysis.actual.resolve ⟨component.id, property⟩ =
        .untraced ⟨component.id, property⟩ := by
      rw [hrun.actual]
      exact ActualGraph.resolve_of_untraced hget config.depthBound_pos property
    rw [hslot]
    exact ⟨rfl, rfl⟩
  · exact Comparison.componentFindings_eq_nil hwalked hlisted hgroups
  · intro source n hsteps key
    obtain ⟨answer, hanswer⟩ := hrun.exists_reaches source key
    refine ⟨answer, hanswer, ?_⟩
    rintro rfl
    exact ActualGraph.reaches_ne_notReached_of_steps huncertain hsteps key hanswer
  · intro usage husage group hgroup hempty n last hsteps howner
    rw [hrun.actual]
    exact ActualGraph.isUncertain_of_forwards_untraced hget husage hgroup hempty howner hsteps

/-- What the comparison itself adds to the report comes from components that were traced. -/
theorem exists_walked_of_mem_findings (hrun : analysis.Undisturbed config resolver unit)
    {finding : Finding} (hmem : finding ∈ analysis.findings) :
    finding ∈ analysis.malformed ++ analysis.declared.findings ++ analysis.cycles ∨
      ∃ component ∈ analysis.arena.components,
        analysis.actual.wasWalked component.id = true ∧
          finding ∈ (analysis.comparison config).componentFindings component := by
  rw [hrun.findings] at hmem
  rcases Comparison.mem_of_mem_findings hmem with hearlier | ⟨component, hcomponent, hfinding⟩
  · exact .inl hearlier
  · refine .inr ⟨component, hcomponent, ?_, hfinding⟩
    by_contra hwalked
    have hnone := (hrun.leftOpen hcomponent (by simpa using hwalked)).findings
    rw [hnone] at hfinding
    cases hfinding

end Undisturbed

end Analysis

/-- A component that could not be traced, for want of a body or of an end to it, is left open by all
later steps. What the comparison reports comes from the other components. -/
theorem untraced_left_open (config : Config) (resolver : Resolver) (unit : SourceUnit) :
    ∃ analysis, Analysis.run config (.quiet resolver) unit .fresh = .ok (analysis, .fresh) ∧
      (∀ component ∈ analysis.arena.components,
        (∃ shape, (Extraction.ofUnit config unit).shapes[component.id]? = some shape ∧
          (analysis.actual.wasWalked component.id = true ↔
            Traceable unit analysis.arena resolver shape)) ∧
        (analysis.actual.wasWalked component.id = false → analysis.LeftOpen config component)) ∧
      ∀ finding ∈ analysis.findings,
        finding ∈ analysis.malformed ++ analysis.declared.findings ++ analysis.cycles ∨
          ∃ component ∈ analysis.arena.components,
            analysis.actual.wasWalked component.id = true ∧
              finding ∈ (analysis.comparison config).componentFindings component := by
  obtain ⟨analysis, hrun⟩ := Analysis.exists_undisturbed config resolver unit
  refine ⟨analysis, Analysis.run_quiet_eq_ok_of_undisturbed hrun, ?_, ?_⟩
  · intro component hcomponent
    exact ⟨hrun.wasWalked_iff_traceable hcomponent, hrun.leftOpen hcomponent⟩
  · intro finding hmem
    exact hrun.exists_walked_of_mem_findings hmem

/-- `App` puts an `i` into `Gap`, whose body names something that the resolver fails on. -/
def gapUnit : SourceUnit where
  path := "gap.tsx"
  source := ⟨["interface P\x7ba:ReactNode\x7d\n",
    "/** @component */function Gap(\x7ba\x7d:P)\x7breturn <Lost/>\x7d\n",
    "/** @component */function App()\x7breturn <Gap a=\x7b<i/>\x7d/>\x7d\n"].flatMap String.toList⟩
  renderableTypes := ["ReactNode"]
  root := (Node.ofRows?
    [⟨none, "program", 0, 134, none, true⟩,
      ⟨some 0, "interface_declaration", 0, 24, none, true⟩,
      ⟨some 1, "type_identifier", 10, 11, some "name", true⟩,
      ⟨some 1, "interface_body", 11, 24, some "body", true⟩,
      ⟨some 3, "property_signature", 12, 23, none, true⟩,
      ⟨some 4, "property_identifier", 12, 13, some "name", true⟩,
      ⟨some 4, "type_annotation", 13, 23, some "type", true⟩,
      ⟨some 6, "type_identifier", 14, 23, none, true⟩,
      ⟨some 0, "comment", 25, 42, none, true⟩,
      ⟨some 0, "function_declaration", 42, 77, none, true⟩,
      ⟨some 9, "identifier", 51, 54, some "name", true⟩,
      ⟨some 9, "formal_parameters", 54, 61, some "parameters", true⟩,
      ⟨some 11, "required_parameter", 55, 60, none, true⟩,
      ⟨some 12, "object_pattern", 55, 58, some "pattern", true⟩,
      ⟨some 13, "shorthand_property_identifier_pattern", 56, 57, none, true⟩,
      ⟨some 12, "type_annotation", 58, 60, some "type", true⟩,
      ⟨some 15, "type_identifier", 59, 60, none, true⟩,
      ⟨some 9, "statement_block", 61, 77, some "body", true⟩,
      ⟨some 17, "return_statement", 62, 76, none, true⟩,
      ⟨some 18, "jsx_self_closing_element", 69, 76, none, true⟩,
      ⟨some 19, "identifier", 70, 74, some "name", true⟩,
      ⟨some 0, "comment", 78, 95, none, true⟩,
      ⟨some 0, "function_declaration", 95, 133, none, true⟩,
      ⟨some 22, "identifier", 104, 107, some "name", true⟩,
      ⟨some 22, "formal_parameters", 107, 109, some "parameters", true⟩,
      ⟨some 22, "statement_block", 109, 133, some "body", true⟩,
      ⟨some 25, "return_statement", 110, 132, none, true⟩,
      ⟨some 26, "jsx_self_closing_element", 117, 132, none, true⟩,
      ⟨some 27, "identifier", 118, 121, some "name", true⟩,
      ⟨some 27, "jsx_attribute", 122, 130, none, true⟩,
      ⟨some 29, "property_identifier", 122, 123, none, true⟩,
      ⟨some 29, "jsx_expression", 124, 130, none, true⟩,
      ⟨some 31, "jsx_self_closing_element", 125, 129, none, true⟩,
      ⟨some 32, "identifier", 126, 127, some "name", true⟩]).getD default

theorem gap_left_open :
    ∃ analysis, Analysis.run relayConfig (.quiet ⟨fun _ => .failed⟩) gapUnit .fresh =
        .ok (analysis, .fresh) ∧
      ∃ component ∈ analysis.arena.components, component.name = "Gap" ∧
        analysis.actual.wasWalked component.id = false ∧
        analysis.LeftOpen relayConfig component ∧
        ∃ usage ∈ analysis.actual.usages, usage.walked = true ∧
          ∃ group ∈ usage.groups, group.slot.owner = component.id ∧
            analysis.actual.isUncertain usage.component = true := by
  obtain ⟨analysis, hrun, hopen, -⟩ := untraced_left_open relayConfig ⟨fun _ => .failed⟩ gapUnit
  have hgap : (Analysis.run relayConfig (.quiet ⟨fun _ => .failed⟩) gapUnit .fresh).toOption.any
      (fun result => decide (∃ component ∈ result.1.arena.components, component.name = "Gap" ∧
        result.1.actual.wasWalked component.id = false ∧
        ∃ usage ∈ result.1.actual.usages, usage.walked = true ∧
          ∃ group ∈ usage.groups, group.slot.owner = component.id ∧
            group.isEmpty = false)) = true := by
    decide +kernel
  rw [hrun] at hgap
  obtain ⟨component, hcomponent, hname, hwalked, usage, husage, htraced, group, hgroup, howner,
    hempty⟩ := of_decide_eq_true hgap
  have hleft := (hopen component hcomponent).2 hwalked
  exact ⟨analysis, hrun, component, hcomponent, hname, hwalked, hleft, usage, husage, htraced,
    group, hgroup, howner, hleft.suppliers usage husage group hgroup hempty 0 group.slot rfl howner⟩

end RenderAudit
