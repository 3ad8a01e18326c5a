import RenderAudit.Proofs.ExtractionSound
import RenderAudit.Proofs.Refinement
import RenderAudit.Proofs.UsageSound
import RenderAudit.Tree.Rows

/-!
# An analysis never leaves its tables

The steps of an analysis hand positions to one another: the extraction numbers the declarations, tags
and names are resolved to such numbers, usages refer to them, and the comparison looks them up again.
All of them are in range, so no step breaks off, whatever the tree looks like.
-/

namespace RenderAudit

/-! ### Targets of edges -/

/-- Keys of one kind both have an id, or neither has. -/
def Key.Comparable (first second : Key) : Prop :=
  first.kindName = second.kindName → first.ref?.isSome = second.ref?.isSome

namespace Target.Named

variable {arena : Arena} {target other : Target}

theorem identified (hnamed : target.Named arena) : target.Identified := by
  unfold Named at hnamed
  rintro (hkind | hkind)
  · rw [hkind] at hnamed
    obtain ⟨id, href, -⟩ := hnamed
    simp [href]
  · rw [hkind] at hnamed
    exact hnamed.elim

theorem comparable (hnamed : target.Named arena) (hother : other.Named arena) :
    target.key.Comparable other.key :=
  Target.isSome_ref?_eq hnamed.identified hother.identified

theorem exists_ref (hnamed : target.Named arena) (hkind : target.kind = .component) :
    ∃ id, target.ref = some id ∧ id < arena.components.length := by
  unfold Named at hnamed
  rw [hkind] at hnamed
  exact hnamed

end Target.Named

namespace ActualGraph

variable {usages : Usages} {arena : Arena} {bound : Nat}

/-- Edges run between declarations of the arena. -/
theorem within_of_mem_edgesOf (hwithin : ∀ usage ∈ usages, usage.Within arena) {source : Nat}
    {edge : ActualEdge} (hmem : edge ∈ (ofUsages bound usages).edgesOf source) :
    source < arena.components.length ∧ edge.target.Named arena := by
  obtain ⟨usage, hget, hcandidate⟩ := exists_candidate_of_mem_edgesOf hmem
  obtain ⟨husage, rfl⟩ := Usages.mem_of_get?_eq_some hget
  have husage := hwithin usage husage
  refine ⟨husage.component_lt, ?_⟩
  rcases ComponentUsage.mem_candidates_iff.1 hcandidate with
    ⟨instantiation, hdirect, rfl⟩ | ⟨group, hgroup, depth, -, member, hmember, rfl⟩
  · exact husage.direct instantiation hdirect
  · exact husage.members group hgroup member hmember

theorem exists_of_mem_successors (hwithin : ∀ usage ∈ usages, usage.Within arena) {source : Nat}
    {next : Option Nat} (hmem : next ∈ successors ((ofUsages bound usages).edgesOf source)) :
    ∃ id, next = some id ∧ id < arena.components.length := by
  obtain ⟨edge, hedge, hkind, rfl⟩ := mem_successors_iff.1 hmem
  exact (within_of_mem_edgesOf hwithin hedge).2.exists_ref hkind

end ActualGraph

/-! ### The comparison of graphs within an arena -/

namespace Comparison

variable {comparison : Comparison}

theorem exists_forwardedProperty_eq_ok {edge : DeclaredEdge}
    (hedge : edge.Within comparison.arena) :
    ∃ property, comparison.forwardedProperty edge = .ok property := by
  have hnamed : ∀ id < comparison.arena.properties.length,
      ∃ name, (do
        let property ← comparison.arena.property id
        return some property.name) = Except.ok (ε := Arena.Fault) name := by
    intro id hid
    obtain ⟨property, -, hproperty⟩ :=
      Arena.exists_property_eq_ok (Arena.inRange_natCast.2 hid)
    rw [hproperty]
    exact ⟨some property.name, rfl⟩
  unfold forwardedProperty
  dsimp only
  split
  · next id hvia => exact hnamed id (hedge.via_lt id hvia)
  · split
    · next id hkind href =>
      have htarget := hedge.target
      rw [Target.Declared, hkind] at htarget
      exact hnamed id (htarget id href)
    · exact ⟨none, rfl⟩

theorem exists_missingDeclarations_of_within
    (hlistable : ∀ component, comparison.actual.Listable component)
    (hdeclared : comparison.declared.Within comparison.arena) (component : Component) :
    ∃ missing, comparison.missingDeclarations component = .ok missing := by
  rw [exists_missingDeclarations_eq_ok_iff_of_listable hlistable]
  intro _ edge hedge
  exact exists_forwardedProperty_eq_ok (hdeclared.edges edge (List.mem_of_mem_filter hedge))

/-- Something is reported of a group of a component, at a slot that its content is checked at. -/
structure ReportsSupplied (comparison : Comparison) (group : SupplyGroup) (slot : Slot)
    (finding : Finding) : Prop where
  supplied : ∃ component ∈ comparison.arena.components,
    group ∈ comparison.actual.groupsOf component.id
  checked : slot ∈ comparison.checkedSlots group
  found : comparison.checkSlot group slot = .ok (some finding)

theorem componentFindings_eq {component : Component} {undeclared missing supplied : List Finding}
    (hundeclared : comparison.undeclaredUsages component = .ok undeclared)
    (hmissing : comparison.missingDeclarations component = .ok missing)
    (hsupplied : comparison.suppliedContent component = .ok supplied) :
    comparison.componentFindings component = undeclared ++ (missing ++ supplied) := by
  unfold componentFindings
  rw [hundeclared, hmissing, hsupplied]

end Comparison

/-! ### Undisturbed runs -/

namespace Analysis

/-- The comparison that an analysis ends with. -/
def comparison (config : Config) (analysis : Analysis) : Comparison where
  config := config
  arena := analysis.arena
  declared := analysis.declared
  actual := analysis.actual

/-- How the results of an analysis that nothing cancels hang together. -/
structure Undisturbed (config : Config) (resolver : Resolver) (unit : SourceUnit)
    (analysis : Analysis) : Prop where
  arena : analysis.arena = (Extraction.ofUnit config unit).arena.resolveTags resolver
  malformed : analysis.malformed = (Extraction.ofUnit config unit).findings
  declared : DeclaredGraph.ofArena analysis.arena = .ok analysis.declared
  traced : traceAll unit analysis.arena (.quiet resolver) 0 .fresh
    (Extraction.ofUnit config unit).shapes.zipIdx = .ok (analysis.actual.usages, .fresh)
  actual : analysis.actual = .ofUsages config.depthBound analysis.actual.usages
  cycles : analysis.actual.cycleFindings analysis.arena = .ok analysis.cycles
  findings : analysis.findings = (analysis.comparison config).findings
    (analysis.malformed ++ analysis.declared.findings ++ analysis.cycles)

theorem ofFault_eq_ok_iff {α : Type} {result : Except Arena.Fault α} {value : α} :
    ofFault result = .ok value ↔ result = .ok value := by
  cases result <;> simp [ofFault]

variable {config : Config} {resolver : Resolver} {unit : SourceUnit} {analysis : Analysis}

/-- Each shape stands at the position of its component. -/
theorem shape_lt (config : Config) (unit : SourceUnit) :
    ∀ entry ∈ (Extraction.ofUnit config unit).shapes.zipIdx,
      entry.2 < (Extraction.ofUnit config unit).arena.components.length := by
  intro entry hentry
  rw [← (Extraction.sound_ofUnit config unit).shapes]
  exact List.snd_lt_of_mem_zipIdx hentry

theorem run_quiet_eq_ok_of_undisturbed (hrun : analysis.Undisturbed config resolver unit) :
    run config (.quiet resolver) unit .fresh = .ok (analysis, .fresh) := by
  obtain ⟨arena, malformed, declared, actual, cycles, findings⟩ := analysis
  obtain ⟨harena, hmalformed, hdeclared, htraced, hactual, hcycles, hfindings⟩ := hrun
  dsimp only [comparison] at *
  subst harena hmalformed hfindings
  unfold run
  dsimp only
  rw [Inquiry.after_quiet]
  refine bind_eq_ok_iff.2 ⟨declared, ofFault_eq_ok_iff.2 hdeclared, ?_⟩
  refine bind_eq_ok_iff.2 ⟨(actual.usages, .fresh), htraced, ?_⟩
  dsimp only
  rw [← hactual]
  exact bind_eq_ok_iff.2 ⟨cycles, ofFault_eq_ok_iff.2 hcycles, rfl⟩

namespace Undisturbed

theorem sound (hrun : analysis.Undisturbed config resolver unit) : analysis.arena.Sound := by
  rw [hrun.arena]
  exact (Extraction.sound_ofUnit config unit).arena.resolveTags resolver

theorem within_declared (hrun : analysis.Undisturbed config resolver unit) :
    analysis.declared.Within analysis.arena := by
  obtain ⟨declared, hdeclared, hwithin⟩ := DeclaredGraph.exists_ofArena_eq_ok
    (Extraction.sound_ofUnit config unit).arena resolver
  rw [← hrun.arena] at hdeclared hwithin
  rw [hrun.declared] at hdeclared
  cases hdeclared
  exact hwithin

theorem within_usages (hrun : analysis.Undisturbed config resolver unit) :
    ∀ usage ∈ analysis.actual.usages, usage.Within analysis.arena := by
  refine within_of_traceAll hrun.sound ?_ hrun.traced
  rw [hrun.arena]
  exact shape_lt config unit

theorem identified (hrun : analysis.Undisturbed config resolver unit) :
    analysis.actual.usages.Identified where
  direct usage husage instantiation hdirect :=
    ((hrun.within_usages usage husage).direct instantiation hdirect).identified
  supplied usage husage group hgroup member hmember :=
    ((hrun.within_usages usage husage).members group hgroup member hmember).identified

/-- Edges can be listed, since all that they lead to has an id where it should have one. -/
theorem listable (hrun : analysis.Undisturbed config resolver unit) (component : Nat) :
    analysis.actual.Listable component := by
  rw [hrun.actual]
  exact ActualGraph.listable_ofUsages hrun.identified config.depthBound component

theorem exists_reaches (hrun : analysis.Undisturbed config resolver unit) (source : Nat)
    (key : Key) : ∃ answer, analysis.actual.reaches source key = .ok answer :=
  ActualGraph.exists_reaches_eq_ok key fun _ _ component _ => hrun.listable component

theorem exists_walked_of_mem_groupsOf (hrun : analysis.Undisturbed config resolver unit)
    {component : Nat} {group : SupplyGroup}
    (hgroup : group ∈ analysis.actual.groupsOf component) :
    ∃ usage ∈ analysis.actual.usages, usage.walked = true ∧ group ∈ usage.groups := by
  unfold ActualGraph.groupsOf at hgroup
  split at hgroup
  · next usage hget =>
    have husage := (Usages.mem_of_get?_eq_some hget).1
    obtain ⟨first, entry, -, htraced⟩ := exists_traceComponent_of_mem hrun.traced husage
    refine ⟨usage, husage, ?_, hgroup⟩
    rw [htraced] at hgroup ⊢
    exact walked_of_mem_groups hgroup
  · cases hgroup

theorem comparison_eq (hrun : analysis.Undisturbed config resolver unit) :
    analysis.comparison config =
      .ofUsages config analysis.arena analysis.declared analysis.actual.usages := by
  unfold comparison Comparison.ofUsages
  rw [← hrun.actual]

theorem owner_lt (hrun : analysis.Undisturbed config resolver unit) {group : SupplyGroup}
    {slot : Slot} {component : Nat} (hgroup : group ∈ analysis.actual.groupsOf component)
    (hslot : slot ∈ (analysis.comparison config).checkedSlots group) :
    slot.owner < analysis.arena.components.length := by
  rw [hrun.comparison_eq] at hslot
  rw [hrun.actual] at hgroup
  exact Comparison.owner_lt_of_mem_checkedSlots (Usages.refersTo_of_within hrun.within_usages)
    hgroup hslot

theorem exists_undeclaredUsages (hrun : analysis.Undisturbed config resolver unit)
    (component : Component) :
    ∃ undeclared, (analysis.comparison config).undeclaredUsages component = .ok undeclared :=
  Comparison.exists_undeclaredUsages_eq_ok_iff.2 fun _ => hrun.listable component.id

theorem exists_missingDeclarations (hrun : analysis.Undisturbed config resolver unit)
    (component : Component) :
    ∃ missing, (analysis.comparison config).missingDeclarations component = .ok missing :=
  Comparison.exists_missingDeclarations_of_within hrun.listable hrun.within_declared component

theorem exists_suppliedContent (hrun : analysis.Undisturbed config resolver unit)
    (component : Component) :
    ∃ supplied, (analysis.comparison config).suppliedContent component = .ok supplied := by
  rw [hrun.comparison_eq]
  exact Comparison.exists_suppliedContent_of_refersTo config analysis.declared
    (Usages.refersTo_of_within hrun.within_usages) hrun.identified component

theorem mem_componentFindings_of_missing (hrun : analysis.Undisturbed config resolver unit)
    {component : Component} {missing : List Finding} {finding : Finding}
    (hmissing : (analysis.comparison config).missingDeclarations component = .ok missing)
    (hmem : finding ∈ missing) :
    finding ∈ (analysis.comparison config).componentFindings component := by
  obtain ⟨undeclared, hundeclared⟩ := hrun.exists_undeclaredUsages component
  exact Comparison.mem_componentFindings_iff.2
    ⟨undeclared, hundeclared, .inr ⟨missing, hmissing, .inl hmem⟩⟩

theorem mem_componentFindings_of_supplied (hrun : analysis.Undisturbed config resolver unit)
    {component : Component} {supplied : List Finding} {finding : Finding}
    (hsupplied : (analysis.comparison config).suppliedContent component = .ok supplied)
    (hmem : finding ∈ supplied) :
    finding ∈ (analysis.comparison config).componentFindings component := by
  obtain ⟨undeclared, hundeclared⟩ := hrun.exists_undeclaredUsages component
  obtain ⟨missing, hmissing⟩ := hrun.exists_missingDeclarations component
  exact Comparison.mem_componentFindings_iff.2
    ⟨undeclared, hundeclared, .inr ⟨missing, hmissing, .inr ⟨supplied, hsupplied, hmem⟩⟩⟩

/-- Nothing is asserted before the graphs are compared. -/
theorem not_asserts_of_mem_earlier (hrun : analysis.Undisturbed config resolver unit)
    {finding : Finding}
    (hmem : finding ∈ analysis.malformed ++ analysis.declared.findings ++ analysis.cycles) :
    ¬finding.kind.Asserts := by
  rcases List.mem_append.1 hmem with hmem | hcycle
  · rcases List.mem_append.1 hmem with hmalformed | hdeclared
    · rw [hrun.malformed] at hmalformed
      have hkind := ((Extraction.sound_ofUnit config unit).findings finding hmalformed).kind
      simp [FindingKind.Asserts, hkind]
    · have hkind := hrun.within_declared.findings finding hdeclared
      simp [FindingKind.Asserts, hkind]
  · exact ActualGraph.not_asserts_of_mem_cycleFindings hrun.cycles hcycle

theorem exists_component_of_asserts (hrun : analysis.Undisturbed config resolver unit)
    {finding : Finding} (hmem : finding ∈ analysis.findings) (hasserts : finding.kind.Asserts) :
    ∃ component ∈ analysis.arena.components,
      finding ∈ (analysis.comparison config).componentFindings component := by
  rw [hrun.findings] at hmem
  refine (Comparison.mem_of_mem_findings hmem).resolve_left ?_
  intro hearlier
  exact hrun.not_asserts_of_mem_earlier hearlier hasserts

theorem exists_reportsMismatch (hrun : analysis.Undisturbed config resolver unit)
    {finding : Finding} (hmem : finding ∈ analysis.findings)
    (hkind : finding.kind = .mismatchedTarget) :
    ∃ group slot, (analysis.comparison config).ReportsMismatch group slot finding := by
  rw [hrun.findings] at hmem
  refine (Comparison.reportsMismatch_of_mem_findings hmem hkind).resolve_left ?_
  intro hearlier
  exact hrun.not_asserts_of_mem_earlier hearlier (.inr (.inr hkind))

theorem exists_mem_findings (hrun : analysis.Undisturbed config resolver unit)
    {component : Component} (hcomponent : component ∈ analysis.arena.components)
    {finding : Finding}
    (hmem : finding ∈ (analysis.comparison config).componentFindings component) :
    ∃ reported ∈ analysis.findings, reported.identity = finding.identity := by
  rw [hrun.findings]
  exact Comparison.exists_mem_findings (.inr ⟨component, hcomponent, hmem⟩)

theorem exists_mem_findings_of_supplied (hrun : analysis.Undisturbed config resolver unit)
    {group : SupplyGroup} {slot : Slot} {finding : Finding}
    (hreports : (analysis.comparison config).ReportsSupplied group slot finding) :
    ∃ reported ∈ analysis.findings, reported.identity = finding.identity := by
  obtain ⟨component, hcomponent, hgroup⟩ := hreports.supplied
  obtain ⟨supplied, hsupplied⟩ := hrun.exists_suppliedContent component
  have hmem : finding ∈ supplied := (Comparison.mem_suppliedContent_iff hsupplied).2
    ⟨group, hgroup, slot, hreports.checked, hreports.found⟩
  exact hrun.exists_mem_findings hcomponent
    (hrun.mem_componentFindings_of_supplied hsupplied hmem)

end Undisturbed

theorem exists_undisturbed (config : Config) (resolver : Resolver) (unit : SourceUnit) :
    ∃ analysis, Undisturbed config resolver unit analysis := by
  have hsound := (Extraction.sound_ofUnit config unit).arena
  obtain ⟨declared, hdeclared, -⟩ := DeclaredGraph.exists_ofArena_eq_ok hsound resolver
  obtain ⟨usages, htraced⟩ := exists_traceAll_quiet unit
    ((Extraction.ofUnit config unit).arena.resolveTags resolver) resolver 0
    (Extraction.ofUnit config unit).shapes.zipIdx
  have hwithin := within_of_traceAll (hsound.resolveTags resolver) (shape_lt config unit) htraced
  obtain ⟨cycles, hcycles⟩ := ActualGraph.exists_cycleFindings_eq_ok config.depthBound
    (Usages.refersTo_of_within hwithin)
  refine ⟨{
    arena := (Extraction.ofUnit config unit).arena.resolveTags resolver
    malformed := (Extraction.ofUnit config unit).findings
    declared := declared
    actual := .ofUsages config.depthBound usages
    cycles := cycles
    findings := Comparison.findings
      (.ofUsages config ((Extraction.ofUnit config unit).arena.resolveTags resolver) declared usages)
      ((Extraction.ofUnit config unit).findings ++ declared.findings ++ cycles) }, ?_⟩
  exact ⟨rfl, rfl, hdeclared, htraced, rfl, hcycles, rfl⟩

/-- All that the steps of an analysis ask their tables for is there. Tags are attached to properties
that exist, and resolved without a fault. Edges lead to declarations of the arena, and the keys they
are sorted by can be compared, so that they are listed. The checks of a component come to their
end. -/
structure Intact (config : Config) (resolver : Resolver) (unit : SourceUnit) (analysis : Analysis) :
    Prop where
  extracted : (Extraction.ofUnit config unit).arena.Sound
  attached : ∀ (done : List PropertyNote) note, Extraction.FindsProperties unit
    (done.foldl (Extraction.attach config unit)
      (Extraction.register unit (Extraction.readNodes config unit))) note
  resolved : ∀ tag ∈ (Extraction.ofUnit config unit).arena.tags,
    (∃ found, (Extraction.ofUnit config unit).arena.scoped? tag.owner tag.target = .ok found) ∧
      ∃ target, (Extraction.ofUnit config unit).arena.targetOf? resolver tag.target = some target
  arena : analysis.arena.Sound
  declared : DeclaredGraph.ofArena analysis.arena = .ok analysis.declared ∧
    analysis.declared.Within analysis.arena
  cycles : analysis.actual.cycleFindings analysis.arena = .ok analysis.cycles
  usages : ∀ usage ∈ analysis.actual.usages, usage.Within analysis.arena
  reached : ∀ component, ∀ group ∈ analysis.actual.groupsOf component,
    ∀ slot ∈ (analysis.comparison config).checkedSlots group,
      slot.owner < analysis.arena.components.length
  edges : ∀ source, ∀ edge ∈ analysis.actual.edgesOf source,
    source < analysis.arena.components.length ∧ edge.target.Named analysis.arena
  sorted : ∀ source, ∀ first ∈ analysis.actual.edgesOf source,
    ∀ second ∈ analysis.actual.edgesOf source, first.target.key.Comparable second.target.key
  listed : (∀ source, ∃ edges, analysis.actual.edgesFrom source = .ok edges) ∧
    ∃ edges, analysis.actual.allEdges = .ok edges
  successors : ∀ source, ∀ next ∈ ActualGraph.successors (analysis.actual.edgesOf source),
    ∃ id, next = some id ∧ id < analysis.arena.components.length
  compared : ∀ component ∈ analysis.arena.components, ∃ undeclared missing supplied,
    (analysis.comparison config).undeclaredUsages component = .ok undeclared ∧
      (analysis.comparison config).missingDeclarations component = .ok missing ∧
      (analysis.comparison config).suppliedContent component = .ok supplied ∧
      (analysis.comparison config).componentFindings component =
        undeclared ++ (missing ++ supplied)

theorem Undisturbed.intact (hrun : analysis.Undisturbed config resolver unit)
    (htotal : resolver.Total) : analysis.Intact config resolver unit where
  extracted := (Extraction.sound_ofUnit config unit).arena
  attached := Extraction.findsProperties_of_prefix config unit
  resolved tag hmem := by
    have hsound := (Extraction.sound_ofUnit config unit).arena
    obtain ⟨found, hfound, -⟩ :=
      Arena.exists_scoped?_eq_ok hsound (hsound.holds tag hmem).hasOwner tag.target
    exact ⟨⟨found, hfound⟩, Arena.exists_targetOf?_eq_some htotal _ tag.target⟩
  arena := hrun.sound
  declared := ⟨hrun.declared, hrun.within_declared⟩
  cycles := hrun.cycles
  usages := hrun.within_usages
  reached component group hgroup slot hslot := hrun.owner_lt hgroup hslot
  edges source edge hedge := by
    rw [hrun.actual] at hedge
    exact ActualGraph.within_of_mem_edgesOf hrun.within_usages hedge
  sorted source first hfirst second hsecond := by
    rw [hrun.actual] at hfirst hsecond
    obtain ⟨-, hnamed⟩ := ActualGraph.within_of_mem_edgesOf hrun.within_usages hfirst
    exact hnamed.comparable (ActualGraph.within_of_mem_edgesOf hrun.within_usages hsecond).2
  listed := ⟨hrun.listable, ActualGraph.exists_allEdges_eq_ok hrun.listable⟩
  successors source next hnext := by
    rw [hrun.actual] at hnext
    exact ActualGraph.exists_of_mem_successors hrun.within_usages hnext
  compared component _ := by
    obtain ⟨undeclared, hundeclared⟩ := hrun.exists_undeclaredUsages component
    obtain ⟨missing, hmissing⟩ := hrun.exists_missingDeclarations component
    obtain ⟨supplied, hsupplied⟩ := hrun.exists_suppliedContent component
    exact ⟨undeclared, missing, supplied, hundeclared, hmissing, hsupplied,
      Comparison.componentFindings_eq hundeclared hmissing hsupplied⟩

end Analysis

/-- With a resolver that answers for every name, the analysis of any tree comes to its end, and
every position that it asks for on the way exists. -/
theorem analysis_within_tables (config : Config) (resolver : Resolver) (htotal : resolver.Total)
    (unit : SourceUnit) :
    ∃ analysis, Analysis.run config (.quiet resolver) unit .fresh = .ok (analysis, .fresh) ∧
      analysis.Intact config resolver unit := by
  obtain ⟨analysis, hrun⟩ := Analysis.exists_undisturbed config resolver unit
  exact ⟨analysis, Analysis.run_quiet_eq_ok_of_undisturbed hrun, hrun.intact htotal⟩

/-- `App` puts an `i` into `Outer`, which hands it on to `Inner`. Both are declared to take a `b`. -/
def relayUnit : SourceUnit where
  path := "relay.tsx"
  source := ⟨["interface P\x7b/** @renders b */a:ReactNode\x7d\n",
    "/** @component */function Inner(\x7ba\x7d:P)\x7breturn a\x7d\n",
    "/** @component */function Outer(\x7ba\x7d:P)\x7breturn <Inner a=\x7ba\x7d/>\x7d\n",
    "/** @component */function App()\x7breturn <Outer a=\x7b<i/>\x7d/>\x7d\n"].flatMap
      String.toList⟩
  renderableTypes := ["ReactNode"]
  root := (Node.ofRows?
    [⟨none, "program", 0, 211, none, true⟩,
      ⟨some 0, "interface_declaration", 0, 41, none, true⟩,
      ⟨some 1, "type_identifier", 10, 11, some "name", true⟩,
      ⟨some 1, "interface_body", 11, 41, some "body", true⟩,
      ⟨some 3, "comment", 12, 29, none, true⟩,
      ⟨some 3, "property_signature", 29, 40, none, true⟩,
      ⟨some 5, "property_identifier", 29, 30, some "name", true⟩,
      ⟨some 5, "type_annotation", 30, 40, some "type", true⟩,
      ⟨some 7, "type_identifier", 31, 40, none, true⟩,
      ⟨some 0, "comment", 42, 59, none, true⟩,
      ⟨some 0, "function_declaration", 59, 90, none, true⟩,
      ⟨some 10, "identifier", 68, 73, some "name", true⟩,
      ⟨some 10, "formal_parameters", 73, 80, some "parameters", true⟩,
      ⟨some 12, "required_parameter", 74, 79, none, true⟩,
      ⟨some 13, "object_pattern", 74, 77, some "pattern", true⟩,
      ⟨some 14, "shorthand_property_identifier_pattern", 75, 76, none, true⟩,
      ⟨some 13, "type_annotation", 77, 79, some "type", true⟩,
      ⟨some 16, "type_identifier", 78, 79, none, true⟩,
      ⟨some 10, "statement_block", 80, 90, some "body", true⟩,
      ⟨some 18, "return_statement", 81, 89, none, true⟩,
      ⟨some 19, "identifier", 88, 89, none, true⟩,
      ⟨some 0, "comment", 91, 108, none, true⟩,
      ⟨some 0, "function_declaration", 108, 152, none, true⟩,
      ⟨some 22, "identifier", 117, 122, some "name", true⟩,
      ⟨some 22, "formal_parameters", 122, 129, some "parameters", true⟩,
      ⟨some 24, "required_parameter", 123, 128, none, true⟩,
      ⟨some 25, "object_pattern", 123, 126, some "pattern", true⟩,
      ⟨some 26, "shorthand_property_identifier_pattern", 124, 125, none, true⟩,
      ⟨some 25, "type_annotation", 126, 128, some "type", true⟩,
      ⟨some 28, "type_identifier", 127, 128, none, true⟩,
      ⟨some 22, "statement_block", 129, 152, some "body", true⟩,
      ⟨some 30, "return_statement", 130, 151, none, true⟩,
      ⟨some 31, "jsx_self_closing_element", 137, 151, none, true⟩,
      ⟨some 32, "identifier", 138, 143, some "name", true⟩,
      ⟨some 32, "jsx_attribute", 144, 149, none, true⟩,
      ⟨some 34, "property_identifier", 144, 145, none, true⟩,
      ⟨some 34, "jsx_expression", 146, 149, none, true⟩,
      ⟨some 36, "identifier", 147, 148, none, true⟩,
      ⟨some 0, "comment", 153, 170, none, true⟩,
      ⟨some 0, "function_declaration", 170, 210, none, true⟩,
      ⟨some 39, "identifier", 179, 182, some "name", true⟩,
      ⟨some 39, "formal_parameters", 182, 184, some "parameters", true⟩,
      ⟨some 39, "statement_block", 184, 210, some "body", true⟩,
      ⟨some 42, "return_statement", 185, 209, none, true⟩,
      ⟨some 43, "jsx_self_closing_element", 192, 209, none, true⟩,
      ⟨some 44, "identifier", 193, 198, some "name", true⟩,
      ⟨some 44, "jsx_attribute", 199, 207, none, true⟩,
      ⟨some 46, "property_identifier", 199, 200, none, true⟩,
      ⟨some 46, "jsx_expression", 201, 207, none, true⟩,
      ⟨some 48, "jsx_self_closing_element", 202, 206, none, true⟩,
      ⟨some 49, "identifier", 203, 204, some "name", true⟩]).getD default

/-- At bound 1 the `i` is reported at both slots, and so is that the way of it is not seen to its
end. -/
theorem relay_within_tables :
    Resolver.blind.Total ∧
      ∃ analysis, Analysis.run relayConfig (.quiet .blind) relayUnit .fresh =
          .ok (analysis, .fresh) ∧
        analysis.Intact relayConfig .blind relayUnit ∧
        analysis.findings.map Finding.kind =
          [.cycleDepthExceeded, .mismatchedTarget, .mismatchedTarget] := by
  have htotal : Resolver.blind.Total := by
    intro name
    simp [Resolver.blind]
  obtain ⟨analysis, hrun, hintact⟩ :=
    analysis_within_tables relayConfig .blind htotal relayUnit
  have hkinds : (Analysis.run relayConfig (.quiet .blind) relayUnit .fresh).toOption.map
      (fun result => result.1.findings.map Finding.kind) =
        some [.cycleDepthExceeded, .mismatchedTarget, .mismatchedTarget] := by
    decide +kernel
  rw [hrun] at hkinds
  exact ⟨htotal, analysis, hrun, hintact, Option.some.inj hkinds⟩

end RenderAudit
