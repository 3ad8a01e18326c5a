import RenderAudit.Proofs.DroppedProperties
import RenderAudit.Proofs.UndeclaredUsage

/-!
# Declared and observed names

What a tag names and what an element stands for are found apart from each other, and the answers for
elements may be remembered from one component to the next. Both come to the same target, with any
memory. So what a tag on a component declares and an element in its body shows is one edge in both
graphs: tags on components come before those on properties, hence the declared edge runs through no
property, and it is fulfilled as soon as the element is seen.
-/

namespace RenderAudit

/-! ### Lookups with a memory -/

namespace Arena

variable (arena : Arena) (resolver : Resolver)

/-- Looks a name up, and keeps the answer for the next time. -/
def lookUp (memory : Table String Target) (name : String) : Option Target × Table String Target :=
  match memory.get? name with
  | some target => (some target, memory)
  | none =>
      match arena.targetOf? resolver name with
      | some target => (some target, memory.insert name target)
      | none => (none, memory)

/-- The memory after some names were looked up. -/
def remember (names : List String) : Table String Target :=
  names.foldl (fun memory name => (arena.lookUp resolver memory name).2) Table.empty

/-- All that is remembered is what the names stand for. -/
def Truthful (memory : Table String Target) : Prop :=
  ∀ name target, memory.get? name = some target → arena.targetOf? resolver name = some target

variable {arena resolver}

theorem Truthful.lookUp {memory : Table String Target} (htruthful : arena.Truthful resolver memory)
    (name : String) :
    (arena.lookUp resolver memory name).1 = arena.targetOf? resolver name ∧
      arena.Truthful resolver (arena.lookUp resolver memory name).2 := by
  unfold Arena.lookUp
  split
  · next target hknown => exact ⟨(htruthful name target hknown).symm, htruthful⟩
  · split
    · next target htarget =>
      refine ⟨htarget.symm, ?_⟩
      intro other found hfound
      dsimp only at hfound
      rw [Table.get?_insert] at hfound
      by_cases hname : name = other
      · rw [if_pos hname] at hfound
        cases hfound
        exact hname ▸ htarget
      · rw [if_neg hname] at hfound
        exact htruthful other found hfound
    · next htarget => exact ⟨htarget.symm, htruthful⟩

theorem truthful_remember (names : List String) :
    arena.Truthful resolver (arena.remember resolver names) := by
  unfold remember
  refine List.foldlRecOn (motive := arena.Truthful resolver) names _ ?_ ?_
  · intro name target hfound
    cases hfound
  · intro memory htruthful name _
    exact (htruthful.lookUp name).2

/-! ### Tags and elements of one name -/

/-- A name that its scope does not take for a property is resolved like that of an element. -/
theorem tagTarget_eq_getD {tag : Tag} (hname : tag.target ≠ "")
    (hscope : arena.scoped? tag.owner tag.target = .ok none) :
    arena.tagTarget resolver tag =
      (arena.targetOf? resolver tag.target).getD (.unresolved tag.target) := by
  unfold tagTarget
  rw [if_neg (by simpa using hname), hscope]

theorem targetOf?_eq_some_tagTarget (htotal : resolver.Total) {tag : Tag} (hname : tag.target ≠ "")
    (hscope : arena.scoped? tag.owner tag.target = .ok none) :
    arena.targetOf? resolver tag.target = some (arena.tagTarget resolver tag) := by
  obtain ⟨target, htarget⟩ := exists_targetOf?_eq_some htotal arena tag.target
  rw [tagTarget_eq_getD hname hscope, htarget]
  rfl

theorem scoped?_component {id : Nat} {name : String} (hnone : arena.propertyOf? id name = none) :
    arena.scoped? (.component id) name = .ok none := by
  unfold scoped?
  simp only [hnone]
  rfl

/-- A name stands for something definite that is no property. -/
theorem kind_of_targetOf?_ne {name : String} {target : Target}
    (htarget : arena.targetOf? resolver name = some target) :
    target.kind ≠ .wildcard ∧ target.kind ≠ .property := by
  obtain ⟨component, -, rfl⟩ | rfl | rfl | rfl := targetOf?_cases htarget
  all_goals exact ⟨TargetKind.noConfusion, TargetKind.noConfusion⟩

end Arena

theorem Tracer.head?_readElement (tracer : Tracer) (go : Reading → Node → List Content)
    {element : Node} {name : String} {target : Target}
    (hname : tracer.unit.elementName? element = some name)
    (htarget : tracer.arena.targetOf? tracer.resolver name = some target) :
    (tracer.readElement go element).head? =
      some (.instantiation ⟨target, tracer.unit.span element⟩) := by
  unfold readElement
  rw [hname]
  dsimp only
  rw [htarget]
  rfl

/-! ### One edge in both graphs -/

theorem Target.kind_ne_property_of_key_eq {target other : Target} (hkey : other.key = target.key)
    (hkind : target.kind ≠ .property) : other.kind ≠ .property := by
  intro hother
  have hproperty : target.key = .property other.ref := by
    rw [← hkey, key, hother]
  apply hkind
  cases hcase : target.kind <;> simp [key, hcase] at hproperty ⊢

namespace Comparison

/-- An actual edge of a component is reported to be undeclared. -/
structure ReportsUndeclared (comparison : Comparison) (component : Component) (edge : ActualEdge)
    (finding : Finding) : Prop where
  known : component ∈ comparison.arena.components
  actual : edge ∈ comparison.actual.edgesOf component.id
  uncovered : comparison.covers component.id edge = false
  found : comparison.undeclaredFinding component edge = finding

/-- An undeclared usage in the report is one of an actual edge. -/
theorem reportsUndeclared_of_mem_findings {comparison : Comparison} {earlier : List Finding}
    {finding : Finding} (hmem : finding ∈ comparison.findings earlier)
    (hkind : finding.kind = .undeclaredUsage) :
    finding ∈ earlier ∨ ∃ component edge, comparison.ReportsUndeclared component edge finding := by
  rcases mem_of_mem_findings hmem with hearlier | ⟨component, hcomponent, hfinding⟩
  · exact .inl hearlier
  right
  obtain ⟨undeclared, hundeclared, hfound | ⟨missing, hmissing, hfound |
    ⟨supplied, hsupplied, hfound⟩⟩⟩ := mem_componentFindings_iff.1 hfinding
  · obtain ⟨-, -, edge, hedge, -, -, hcovers, hreported⟩ :=
      (mem_undeclaredUsages_iff hundeclared).1 hfound
    exact ⟨component, edge, hcomponent, hedge, hcovers, hreported⟩
  · obtain ⟨-, edge, -, hedge⟩ := (mem_missingDeclarations_iff hmissing).1 hfound
    simp [kind_of_missingDeclaration? hedge] at hkind
  · obtain ⟨group, -, slot, -, hcheck⟩ := (mem_suppliedContent_iff hsupplied).1 hfound
    rcases kind_of_checkSlot hcheck with hother | hother
    · simp [hkind] at hother
    · simp [hkind] at hother

theorem forwardedProperty_eq_none (comparison : Comparison) {edge : DeclaredEdge}
    (hvia : edge.via = none) (hkind : edge.target.kind ≠ .property) :
    comparison.forwardedProperty edge = .ok none := by
  unfold forwardedProperty
  rw [hvia]
  dsimp only
  split
  · next hproperty _ => exact absurd hproperty hkind
  · rfl

end Comparison

namespace Analysis.Undisturbed

variable {config : Config} {resolver : Resolver} {unit : SourceUnit} {analysis : Analysis}

theorem tagsOrdered (hrun : analysis.Undisturbed config resolver unit) :
    analysis.arena.TagsOrdered := by
  rw [hrun.arena, Arena.TagsOrdered]
  exact List.pairwise_map.2 (Arena.tagsOrdered_ofUnit config unit)

/-- A tag on a component that names no property of it is resolved like an element. -/
theorem resolved_eq (hrun : analysis.Undisturbed config resolver unit) {tag : Tag}
    (htag : tag ∈ analysis.arena.tags) {component : Nat} (howner : tag.owner = .component component)
    (hname : tag.target ≠ "") (hscope : analysis.arena.propertyOf? component tag.target = none)
    {target : Target} (htarget : analysis.arena.targetOf? resolver tag.target = some target) :
    tag.resolved = some target := by
  rw [hrun.arena] at htag hscope htarget
  obtain ⟨stored, -, rfl⟩ := List.mem_map.1 htag
  have hunscoped : (Extraction.ofUnit config unit).arena.scoped? stored.owner stored.target =
      .ok none := by
    rw [show stored.owner = .component component from howner]
    exact Arena.scoped?_component hscope
  have hresolved : (Extraction.ofUnit config unit).arena.tagTarget resolver stored =
      ((Extraction.ofUnit config unit).arena.targetOf? resolver stored.target).getD
        (.unresolved stored.target) :=
    Arena.tagTarget_eq_getD hname hunscoped
  have hfound : (Extraction.ofUnit config unit).arena.targetOf? resolver stored.target =
      some target := htarget
  rw [hfound] at hresolved
  exact congrArg some hresolved

/-- Tags on components come first, so an edge that one of them asks for runs through no property. -/
theorem via_eq_none (hrun : analysis.Undisturbed config resolver unit) {tag : Tag}
    (htag : tag ∈ analysis.arena.tags) {component : Nat} (howner : tag.owner = .component component)
    {target : Target} (hdeclares : analysis.arena.Declares tag component target)
    {edge : DeclaredEdge} (hedge : edge ∈ analysis.declared.edgesFrom component)
    (hkey : edge.target.key = target.key) : edge.via = none := by
  obtain ⟨first, hfirst, -, -, hvia, hleast⟩ := hrun.imageOf.edge_first component edge hedge
  have hle := hleast tag htag target hdeclares hkey.symm
  rw [hvia]
  cases hproperty : first.owner.property? with
  | none => rfl
  | some id =>
      have hnumbered := hrun.wellTagged.numbered
      have hget := hnumbered.getElem?_eq_some hfirst
      have hgetTag := hnumbered.getElem?_eq_some htag
      rcases Nat.eq_or_lt_of_le hle with hid | hlt
      · rw [hid, hgetTag] at hget
        cases hget
        rw [howner] at hproperty
        cases hproperty
      · obtain ⟨hi, hget⟩ := List.getElem?_eq_some_iff.1 hget
        obtain ⟨hj, hgetTag⟩ := List.getElem?_eq_some_iff.1 hgetTag
        have hordered := List.pairwise_iff_getElem.1 hrun.tagsOrdered _ _ hi hj hlt
        rw [hget, hgetTag, hproperty, howner] at hordered
        cases hordered rfl

/-- What is instantiated directly is seen. -/
theorem observed_of_mem_direct (hrun : analysis.Undisturbed config resolver unit) {component : Nat}
    {usage : ComponentUsage} (hget : analysis.actual.usages.get? component = some usage)
    {value : Instantiation} (hvalue : value ∈ usage.direct) :
    (analysis.comparison config).observed component value.target.key = .ok true := by
  obtain ⟨earliest, -, hkey, -, hedge⟩ :=
    ComponentUsage.exists_earliest_of_mem_direct (hrun.walked_of_mem_direct hget hvalue) hvalue
  have hseen : analysis.actual.hasEdge component value.target.key = true := by
    rw [ActualGraph.hasEdge_iff, hrun.edgesOf_eq hget]
    exact ⟨_, hedge, hkey⟩
  exact if_pos hseen

section Declared

variable (hrun : analysis.Undisturbed config resolver unit) {component : Component} {tag : Tag}
  (htag : tag ∈ analysis.arena.tags) (howner : tag.owner = .component component.id)
  {usage : ComponentUsage} (hget : analysis.actual.usages.get? component.id = some usage)
  {value : Instantiation} (hvalue : value ∈ usage.direct)
  (hdeclares : analysis.arena.Declares tag component.id value.target)

include hrun htag hdeclares

theorem not_reportsUndeclared {edge : ActualEdge} (hkey : edge.target.key = value.target.key)
    (finding : Finding) :
    ¬(analysis.comparison config).ReportsUndeclared component edge finding := by
  intro hreports
  obtain ⟨declared, hdeclared, hsame⟩ := (hrun.imageOf.edge_iff component.id edge.target.key).2
    ⟨tag, htag, value.target, hdeclares, hkey.symm⟩
  have hcovers : (analysis.comparison config).covers component.id edge = true := by
    unfold Comparison.covers DeclaredGraph.declares
    rw [Bool.or_eq_true, List.any_eq_true]
    exact .inl ⟨declared, hdeclared, decide_eq_true hsame⟩
  rw [hreports.uncovered] at hcovers
  cases hcovers

include howner hget hvalue

theorem not_reportsMissing (hkind : value.target.kind ≠ .property) {edge : DeclaredEdge}
    (hkey : edge.target.key = value.target.key) (finding : Finding) :
    ¬(analysis.comparison config).ReportsMissing component edge finding := by
  intro hreports
  have hvia := hrun.via_eq_none htag howner hdeclares hreports.declared hkey
  have hnone := (analysis.comparison config).forwardedProperty_eq_none hvia
    (Target.kind_ne_property_of_key_eq hkey hkind)
  obtain ⟨property, hproperty, hunfulfilled, -⟩ :=
    Comparison.missingDeclaration?_eq_ok_some_iff.1 hreports.found
  rw [hnone] at hproperty
  cases hproperty
  have hunseen : (analysis.comparison config).observed component.id edge.target.key = .ok false :=
    hunfulfilled
  rw [hkey, hrun.observed_of_mem_direct hget hvalue] at hunseen
  cases hunseen

end Declared

end Analysis.Undisturbed

/-- **Declared and observed names resolve alike.** A name that the scope of a tag does not take for
a property stands for the same target in the tag and in an element, and a memory of earlier answers
changes none. So if a component has a tag for a name that is no property of it, and an element of
that name in its direct list, then the tag is unresolved, or nothing is reported as missing for the
edge that it declares and nothing as undeclared for its target. -/
theorem declared_observed_alike (resolver : Resolver) (htotal : resolver.Total) :
    (∀ (arena : Arena) earlier name,
      (arena.lookUp resolver (arena.remember resolver earlier) name).1 =
        arena.targetOf? resolver name) ∧
    (∀ (arena : Arena) (tag : Tag), tag.target ≠ "" →
      arena.scoped? tag.owner tag.target = .ok none →
        (∀ earlier, (arena.lookUp resolver (arena.remember resolver earlier) tag.target).1 =
          some (arena.tagTarget resolver tag)) ∧
        ∀ unit bindings go element, unit.elementName? element = some tag.target →
          ((Tracer.mk unit arena resolver bindings).readElement go element).head? =
            some (.instantiation ⟨arena.tagTarget resolver tag, unit.span element⟩)) ∧
    ∀ config unit, ∃ analysis,
      Analysis.run config (.quiet resolver) unit .fresh = .ok (analysis, .fresh) ∧
      (∀ finding ∈ analysis.findings,
        (finding.kind = .missingDeclaration → ∃ component edge,
          (analysis.comparison config).ReportsMissing component edge finding) ∧
        (finding.kind = .undeclaredUsage → ∃ component edge,
          (analysis.comparison config).ReportsUndeclared component edge finding)) ∧
      ∀ component ∈ analysis.arena.components, ∀ tag ∈ analysis.arena.tags,
        tag.owner = .component component.id → tag.target ≠ "" →
        analysis.arena.propertyOf? component.id tag.target = none →
        ∀ usage, analysis.actual.usages.get? component.id = some usage →
        ∀ value ∈ usage.direct, ∀ element,
          unit.Records analysis.arena resolver element value →
          unit.elementName? element = some tag.target →
            tag.resolved = some value.target ∧
            (value.target.kind = .unresolved ∨
              (∀ edge finding, edge.target.key = value.target.key →
                ¬(analysis.comparison config).ReportsMissing component edge finding) ∧
              ∀ edge finding, edge.target.key = value.target.key →
                ¬(analysis.comparison config).ReportsUndeclared component edge finding) := by
  refine ⟨?_, ?_, ?_⟩
  · intro arena earlier name
    exact ((Arena.truthful_remember earlier).lookUp name).1
  · intro arena tag hname hscope
    have htarget := Arena.targetOf?_eq_some_tagTarget htotal hname hscope
    refine ⟨fun earlier => ?_, fun unit bindings go element helement => ?_⟩
    · exact ((Arena.truthful_remember earlier).lookUp tag.target).1.trans htarget
    · exact (Tracer.mk unit arena resolver bindings).head?_readElement go helement htarget
  · intro config unit
    obtain ⟨analysis, hrun⟩ := Analysis.exists_undisturbed config resolver unit
    refine ⟨analysis, Analysis.run_quiet_eq_ok_of_undisturbed hrun, ?_, ?_⟩
    · intro finding hmem
      rw [hrun.findings] at hmem
      constructor
      · intro hkind
        refine (Comparison.reportsMissing_of_mem_findings hmem hkind).resolve_left ?_
        intro hearlier
        exact hrun.not_asserts_of_mem_earlier hearlier (.inr (.inl hkind))
      · intro hkind
        refine (Comparison.reportsUndeclared_of_mem_findings hmem hkind).resolve_left ?_
        intro hearlier
        exact hrun.not_asserts_of_mem_earlier hearlier (.inl hkind)
    · intro component _ tag htag howner hname hscope usage hget value hvalue element hrecords
        helement
      obtain ⟨name, hwritten, htarget⟩ := Option.bind_eq_some_iff.1 hrecords.named
      cases helement.symm.trans hwritten
      have hresolved := hrun.resolved_eq htag howner hname hscope htarget
      refine ⟨hresolved, or_iff_not_imp_left.2 fun hkind => ?_⟩
      obtain ⟨hdefinite, hproper⟩ := Arena.kind_of_targetOf?_ne htarget
      have hdeclares : analysis.arena.Declares tag component.id value.target :=
        ⟨hresolved, hkind, hdefinite, .inl howner⟩
      constructor
      · intro edge finding hkey
        exact hrun.not_reportsMissing htag howner hget hvalue hdeclares hproper hkey finding
      · intro edge finding hkey
        exact hrun.not_reportsUndeclared htag hdeclares hkey finding

/-- `App` declares `Box` and shows one. -/
theorem box_declared_observed_alike :
    Resolver.blind.Total ∧
    ∃ analysis, Analysis.run relayConfig (.quiet .blind) boxUnit .fresh = .ok (analysis, .fresh) ∧
      ∃ component ∈ analysis.arena.components, component.name = "App" ∧
        ∃ tag ∈ analysis.arena.tags, tag.owner = .component component.id ∧ tag.target = "Box" ∧
          ∃ target, target.kind = .component ∧ tag.resolved = some target ∧
            (∀ edge finding, edge.target.key = target.key →
              ¬(analysis.comparison relayConfig).ReportsMissing component edge finding) ∧
            ∀ edge finding, edge.target.key = target.key →
              ¬(analysis.comparison relayConfig).ReportsUndeclared component edge finding := by
  have htotal : Resolver.blind.Total := by
    intro name
    simp [Resolver.blind]
  obtain ⟨analysis, hrun, -, halike⟩ :=
    (declared_observed_alike .blind htotal).2.2 relayConfig boxUnit
  have hbox : (Analysis.run relayConfig (.quiet .blind) boxUnit .fresh).toOption.any
      (fun result => decide (∃ component ∈ result.1.arena.components, component.name = "App" ∧
        ∃ tag ∈ result.1.arena.tags, tag.owner = .component component.id ∧ tag.target = "Box" ∧
          result.1.arena.propertyOf? component.id tag.target = none ∧
          ∃ usage ∈ result.1.actual.usages.get? component.id, ∃ value ∈ usage.direct,
            value.target.kind = .component ∧ ∃ element ∈ boxUnit.root.nodes,
              boxUnit.Records result.1.arena .blind element value ∧
              boxUnit.elementName? element = some tag.target)) = true := by
    decide +kernel
  rw [hrun] at hbox
  obtain ⟨component, hcomponent, happ, tag, htag, howner, hname, hscope, usage, hget, value, hvalue,
    hkind, element, -, hrecords, helement⟩ := of_decide_eq_true hbox
  have hne : tag.target ≠ "" := by simp [hname]
  obtain ⟨hresolved, hopen | ⟨hmissing, hundeclared⟩⟩ := halike component hcomponent tag htag howner
    hne hscope usage hget value hvalue element hrecords helement
  · simp [hkind] at hopen
  · exact ⟨htotal, analysis, hrun, component, hcomponent, happ, tag, htag, howner, hname,
      value.target, hkind, hresolved, hmissing, hundeclared⟩

end RenderAudit
