import RenderAudit.Proofs.FindingSources
import RenderAudit.Proofs.NodeReading
import RenderAudit.Report

/-!
# Sources without annotations

Findings are about annotations. Without render tags nothing is declared, and a graph without
declarations agrees with whatever is rendered. What can still be reported are component tags that
stand on no definition, and content that is passed round in circles, which is seen without any
declaration. Without component tags there is nothing to look at either.
-/

namespace RenderAudit

namespace SourceUnit

/-- A documentation comment of some node has a tag of the given name. -/
def Mentions (unit : SourceUnit) (name : String) : Prop :=
  ∃ place ∈ unit.root.places, ∃ entry ∈ unit.docTagsAt place.node, entry.2.name = name

instance (unit : SourceUnit) (name : String) : Decidable (unit.Mentions name) :=
  inferInstanceAs (Decidable (∃ place ∈ unit.root.places,
    ∃ entry ∈ unit.docTagsAt place.node, entry.2.name = name))

theorem filter_name_eq_nil {unit : SourceUnit} {name : String} (hname : ¬unit.Mentions name)
    {place : Located} (hplace : place ∈ unit.root.places) :
    (unit.docTagsAt place.node).filter (·.2.name = name) = [] := by
  apply List.filter_eq_nil_iff.2
  intro entry hentry hmentions
  exact hname ⟨place, hplace, entry, hentry, of_decide_eq_true hmentions⟩

/-- A component tag is misplaced on a node that has no shape. -/
theorem exists_tag_of_mem_misplacedAt {config : Config} {unit : SourceUnit} {node : Node}
    {finding : Finding} (hmem : finding ∈ unit.misplacedAt config node) :
    ∃ entry ∈ unit.componentTagsAt config node, unit.shape? node = .ok none ∧
      finding = malformedFinding entry.1 config.componentTag
        "it must annotate a function or class definition" := by
  unfold misplacedAt at hmem
  split at hmem
  · next span tag rest htags hshape =>
    refine ⟨(span, tag), ?_, hshape, List.mem_singleton.1 hmem⟩
    rw [htags]
    exact List.mem_cons_self
  · cases hmem

end SourceUnit

/-! ### Reading a source without render tags -/

section NoRenders

variable {config : Config} {unit : SourceUnit} {place : Located}
  (hrenders : unit.renderTagsAt config place.node = [])

include hrenders

theorem placeNotes_eq_nil : placeNotes config unit place = [] := by
  unfold placeNotes
  rw [rendersAt_eq_nil hrenders, propertyNotes_nil]
  cases unit.componentShape? config place.node <;> rfl

theorem placeTags_eq_nil (number : Nat) : placeTags config unit place number = [] := by
  unfold placeTags
  rw [rendersAt_eq_nil hrenders]
  cases unit.componentShape? config place.node <;> rfl

theorem placeFindings_eq_misplacedAt :
    placeFindings config unit place = unit.misplacedAt config place.node := by
  unfold placeFindings
  rw [unparsedAt, hrenders, rendersAt_eq_nil hrenders, strayFindings_nil, List.flatMap_nil,
    List.nil_append, List.append_nil]
  cases hshape : unit.componentShape? config place.node with
  | some shape => exact (SourceUnit.misplacedAt_eq_nil hshape).symm
  | none => rfl

end NoRenders

namespace Extraction

/-- What is read from a source without render tags: components, and misplaced component tags. -/
structure Undeclaring (config : Config) (unit : SourceUnit) (extraction : Extraction) : Prop where
  tags : extraction.arena.tags = []
  components : extraction.arena.components = (unit.numberedPlaces config).flatMap fun entry =>
    placeComponents config unit entry.1 entry.2
  findings : extraction.findings =
    unit.root.places.flatMap fun place => unit.misplacedAt config place.node

variable {config : Config} {unit : SourceUnit}

theorem undeclaring_ofUnit (hrenders : ¬unit.Mentions config.rendersTag) :
    Undeclaring config unit (ofUnit config unit) := by
  have hnone : ∀ place ∈ unit.root.places, unit.renderTagsAt config place.node = [] :=
    fun place hplace => unit.filter_name_eq_nil hrenders hplace
  have hread := gains_readNodes fun place hplace => .of_no_renders (hnone place hplace)
  obtain ⟨htags, hcomponents⟩ := register_spec unit (readNodes config unit)
  have hnotes : (readNodes config unit).notes = [] := by
    rw [hread.notes]
    exact List.flatMap_eq_nil_iff.2 fun place hplace => placeNotes_eq_nil (hnone place hplace)
  -- Without notes the second round attaches nothing.
  have hofUnit : ofUnit config unit = register unit (readNodes config unit) := by
    show (readNodes config unit).notes.foldl (attach config unit) _ = _
    rw [hnotes, List.foldl_nil]
  rw [hofUnit]
  refine ⟨?_, ?_, ?_⟩
  · rw [htags, ← List.map_eq_nil_iff]
    refine hread.tags.trans ?_
    apply List.flatMap_eq_nil_iff.2
    intro entry hentry
    exact placeTags_eq_nil (hnone entry.1 (unit.fst_mem_places hentry)) entry.2
  · rw [hcomponents]
    exact hread.components
  · refine hread.findings.trans (List.flatMap_congr ?_)
    intro place hplace
    exact placeFindings_eq_misplacedAt (hnone place hplace)

/-- Without component tags nothing is read at all. -/
theorem Undeclaring.eq_nil {extraction : Extraction}
    (hundeclaring : Undeclaring config unit extraction)
    (hcomponents : ¬unit.Mentions config.componentTag) :
    extraction.arena.components = [] ∧ extraction.findings = [] := by
  have hnone : ∀ place ∈ unit.root.places, unit.componentTagsAt config place.node = [] :=
    fun place hplace => unit.filter_name_eq_nil hcomponents hplace
  rw [hundeclaring.components, hundeclaring.findings]
  refine ⟨List.flatMap_eq_nil_iff.2 ?_, List.flatMap_eq_nil_iff.2 ?_⟩
  · intro entry hentry
    rw [placeComponents, SourceUnit.componentShape?, hnone entry.1 (unit.fst_mem_places hentry)]
  · intro place hplace
    rw [SourceUnit.misplacedAt, hnone place hplace]

end Extraction

/-! ### Comparing with an empty declared graph -/

namespace DeclaredGraph

theorem ofArena_of_no_tags {arena : Arena} (htags : arena.tags = []) : ofArena arena = .ok empty := by
  rw [ofArena, htags]
  rfl

end DeclaredGraph

namespace Analysis

variable {config : Config} {resolver : Resolver} {unit : SourceUnit} {analysis : Analysis}
  {finding : Finding}

/-- If nothing is declared, only the reading of tags and the search for cycles report anything. -/
theorem Produces.of_no_tags (hproduces : analysis.Produces config finding)
    (htags : analysis.arena.tags = []) (hdeclared : analysis.declared = .empty) :
    finding ∈ analysis.malformed ∨ ∃ component group,
      analysis.actual.cycleFinding analysis.arena component group = .ok finding := by
  have hexpected : ∀ property, (analysis.comparison config).expectedTargets property = [] := by
    intro property
    simp [Comparison.expectedTargets, comparison, hdeclared, DeclaredGraph.empty, Table.empty,
      Table.get?]
  cases hproduces with
  | malformed hmem hmalformed => exact .inl hmem
  | cyclic hcycle => exact .inr ⟨_, _, hcycle⟩
  | unresolved htag => simp [htags] at htag
  | undeclared edge hopted => simp [hdeclared, DeclaredGraph.empty] at hopted
  | missing property hedge => simp [hdeclared, DeclaredGraph.empty, DeclaredGraph.edgesFrom] at hedge
  | uncertain group slot first owner hne => exact absurd (hexpected _) hne
  | mismatched group slot first owner hne => exact absurd (hexpected _) hne

namespace Undisturbed

theorem of_no_renders (hrun : analysis.Undisturbed config resolver unit)
    (hrenders : ¬unit.Mentions config.rendersTag) (hmem : finding ∈ analysis.findings) :
    finding ∈ (Extraction.ofUnit config unit).findings ∨ ∃ component group,
      analysis.actual.cycleFinding analysis.arena component group = .ok finding := by
  have htags : analysis.arena.tags = [] := by
    rw [hrun.arena, Arena.resolveTags, (Extraction.undeclaring_ofUnit hrenders).tags, List.map_nil]
  have hdeclared : analysis.declared = .empty := by
    have hgraph := hrun.declared
    rw [DeclaredGraph.ofArena_of_no_tags htags] at hgraph
    exact (Except.ok.inj hgraph).symm
  rw [← hrun.malformed]
  exact (hrun.produces_of_mem_findings hmem).of_no_tags htags hdeclared

end Undisturbed

end Analysis

/-- A source without render tags has no findings but misplaced component tags and content that is
forwarded without end. One without component tags too has no components and no diagnostics. -/
theorem findings_need_annotations (config : Config) (resolver : Resolver) (unit : SourceUnit)
    (hrenders : ¬unit.Mentions config.rendersTag) :
    ∃ analysis, Analysis.run config (.quiet resolver) unit .fresh = .ok (analysis, .fresh) ∧
      (∀ finding ∈ analysis.findings,
        (∃ place ∈ unit.root.places, ∃ entry ∈ unit.componentTagsAt config place.node,
          unit.shape? place.node = .ok none ∧
          finding = malformedFinding entry.1 config.componentTag
            "it must annotate a function or class definition") ∨
        finding.kind = .cycleDepthExceeded) ∧
      (¬unit.Mentions config.componentTag →
        analysis.arena.components = [] ∧ analysis.findings = [] ∧
        (Report.ofAnalysis unit.path analysis).components = 0 ∧
        (Report.ofAnalysis unit.path analysis).diagnostics = []) := by
  obtain ⟨analysis, hrun⟩ := Analysis.exists_undisturbed config resolver unit
  have hundeclaring := Extraction.undeclaring_ofUnit hrenders
  refine ⟨analysis, Analysis.run_quiet_eq_ok_of_undisturbed hrun, ?_, ?_⟩
  · intro finding hmem
    rcases hrun.of_no_renders hrenders hmem with hmalformed | ⟨component, group, hcycle⟩
    · rw [hundeclaring.findings] at hmalformed
      obtain ⟨place, hplace, hmisplaced⟩ := List.mem_flatMap.1 hmalformed
      exact .inl ⟨place, hplace, SourceUnit.exists_tag_of_mem_misplacedAt hmisplaced⟩
    · exact .inr (ActualGraph.cycleFinding_kind_span hcycle).1
  · intro hcomponents
    obtain ⟨hnoComponents, hnoFindings⟩ := hundeclaring.eq_nil hcomponents
    have harena : analysis.arena.components = [] := by
      rw [hrun.arena]
      exact hnoComponents
    have hfindings : analysis.findings = [] := by
      apply List.eq_nil_iff_forall_not_mem.2
      intro finding hmem
      rcases hrun.of_no_renders hrenders hmem with hmalformed | ⟨component, group, hcycle⟩
      · rw [hnoFindings] at hmalformed
        cases hmalformed
      · -- A cycle is reported of a component.
        obtain ⟨source, hsource, -⟩ := bind_eq_ok_iff.1 hcycle
        simp [Arena.component, harena] at hsource
    refine ⟨harena, hfindings, ?_, ?_⟩
    · exact congrArg List.length harena
    · exact congrArg Reporter.standard.report hfindings

/-- `Spin` passes what it is given on to itself, `App` gives it an element, and the last component
tag stands on a type. -/
def spinUnit : SourceUnit where
  path := "spin.tsx"
  source := ⟨["interface P\x7ba:ReactNode\x7d\n",
    "/** @component */function Spin(\x7ba\x7d:P)\x7breturn <Spin a=\x7ba\x7d/>\x7d\n",
    "/** @component */function App()\x7breturn <Spin a=\x7b<i/>\x7d/>\x7d\n",
    "/** @component */type Q=P\n"].flatMap
      String.toList⟩
  renderableTypes := ["ReactNode"]
  root := (Node.ofRows?
    [⟨none, "program", 0, 168, none, true⟩,
      ⟨some 0, "interface_declaration", 0, 24, none, true⟩,
      ⟨some 1, "type_identifier", 10, 11, some "name", true⟩,
      ⟨some 1, "interface_body", 11, 24, some "body", true⟩,
      ⟨some 3, "property_signature", 12, 23, none, true⟩,
      ⟨some 4, "property_identifier", 12, 13, some "name", true⟩,
      ⟨some 4, "type_annotation", 13, 23, some "type", true⟩,
      ⟨some 6, "type_identifier", 14, 23, none, true⟩,
      ⟨some 0, "comment", 25, 42, none, true⟩,
      ⟨some 0, "function_declaration", 42, 84, none, true⟩,
      ⟨some 9, "identifier", 51, 55, some "name", true⟩,
      ⟨some 9, "formal_parameters", 55, 62, some "parameters", true⟩,
      ⟨some 11, "required_parameter", 56, 61, none, true⟩,
      ⟨some 12, "object_pattern", 56, 59, some "pattern", true⟩,
      ⟨some 13, "shorthand_property_identifier_pattern", 57, 58, none, true⟩,
      ⟨some 12, "type_annotation", 59, 61, some "type", true⟩,
      ⟨some 15, "type_identifier", 60, 61, none, true⟩,
      ⟨some 9, "statement_block", 62, 84, some "body", true⟩,
      ⟨some 17, "return_statement", 63, 83, none, true⟩,
      ⟨some 18, "jsx_self_closing_element", 70, 83, none, true⟩,
      ⟨some 19, "identifier", 71, 75, some "name", true⟩,
      ⟨some 19, "jsx_attribute", 76, 81, none, true⟩,
      ⟨some 21, "property_identifier", 76, 77, none, true⟩,
      ⟨some 21, "jsx_expression", 78, 81, none, true⟩,
      ⟨some 23, "identifier", 79, 80, none, true⟩,
      ⟨some 0, "comment", 85, 102, none, true⟩,
      ⟨some 0, "function_declaration", 102, 141, none, true⟩,
      ⟨some 26, "identifier", 111, 114, some "name", true⟩,
      ⟨some 26, "formal_parameters", 114, 116, some "parameters", true⟩,
      ⟨some 26, "statement_block", 116, 141, some "body", true⟩,
      ⟨some 29, "return_statement", 117, 140, none, true⟩,
      ⟨some 30, "jsx_self_closing_element", 124, 140, none, true⟩,
      ⟨some 31, "identifier", 125, 129, some "name", true⟩,
      ⟨some 31, "jsx_attribute", 130, 138, none, true⟩,
      ⟨some 33, "property_identifier", 130, 131, none, true⟩,
      ⟨some 33, "jsx_expression", 132, 138, none, true⟩,
      ⟨some 35, "jsx_self_closing_element", 133, 137, none, true⟩,
      ⟨some 36, "identifier", 134, 135, some "name", true⟩,
      ⟨some 0, "comment", 142, 159, none, true⟩,
      ⟨some 0, "type_alias_declaration", 159, 167, none, true⟩,
      ⟨some 39, "type_identifier", 164, 165, some "name", true⟩,
      ⟨some 39, "type_identifier", 166, 167, some "value", true⟩]).getD default

/-- Without a render tag the cycle and the misplaced tag are reported all the same. To a reader that
knows components by another tag the source has none. -/
theorem spin_without_renders :
    let unaware : Config := { relayConfig with componentTag := "widget" }
    ¬spinUnit.Mentions "renders" ∧ ¬spinUnit.Mentions "widget" ∧
      (∃ analysis, Analysis.run relayConfig (.quiet .blind) spinUnit .fresh =
          .ok (analysis, .fresh) ∧
        analysis.findings.map Finding.kind = [.cycleDepthExceeded, .malformedTag] ∧
        ∀ finding ∈ analysis.findings,
          (∃ place ∈ spinUnit.root.places,
            ∃ entry ∈ spinUnit.componentTagsAt relayConfig place.node,
            spinUnit.shape? place.node = .ok none ∧
            finding = malformedFinding entry.1 "component"
              "it must annotate a function or class definition") ∨
          finding.kind = .cycleDepthExceeded) ∧
      ∃ analysis, Analysis.run unaware (.quiet .blind) spinUnit .fresh = .ok (analysis, .fresh) ∧
        analysis.arena.components = [] ∧ analysis.findings = [] := by
  intro unaware
  have hrenders : ¬spinUnit.Mentions "renders" := by decide +kernel
  have hcomponents : ¬spinUnit.Mentions "widget" := by decide +kernel
  obtain ⟨analysis, hrun, hfindings, -⟩ :=
    findings_need_annotations relayConfig .blind spinUnit hrenders
  obtain ⟨empty, hempty, -, hnothing⟩ :=
    findings_need_annotations unaware .blind spinUnit hrenders
  have hkinds : (Analysis.run relayConfig (.quiet .blind) spinUnit .fresh).toOption.map
      (fun result => result.1.findings.map Finding.kind) =
        some [.cycleDepthExceeded, .malformedTag] := by
    decide +kernel
  rw [hrun] at hkinds
  obtain ⟨hnoComponents, hnoFindings, -⟩ := hnothing hcomponents
  exact ⟨hrenders, hcomponents, ⟨analysis, hrun, Option.some.inj hkinds, hfindings⟩,
    empty, hempty, hnoComponents, hnoFindings⟩

end RenderAudit
