import RenderAudit.Proofs.AnalysisSound
import RenderAudit.Proofs.DeclaredImage

/-!
# The sources of findings

An analysis has a fixed number of places that make findings, in the reading of tags, in both graphs
and in the three checks that compare them. Whatever it returns was made at one of them, and each is
listed with what has to be there before it makes anything.
-/

namespace RenderAudit

namespace Analysis

/-- The places that make findings. The checks speak of declarations only: of a component that opted
in, of a declared edge, or of a property whose content is expected to be something. -/
inductive Produces (config : Config) (analysis : Analysis) : Finding → Prop
  | malformed {finding : Finding} (hmem : finding ∈ analysis.malformed)
      (hmalformed : finding.IsMalformed) : Produces config analysis finding
  | unresolved {tag : Tag} (htag : tag ∈ analysis.arena.tags) :
      Produces config analysis (DeclaredGraph.unresolvedFinding tag)
  | cyclic {component : Nat} {group : SupplyGroup} {finding : Finding}
      (hcycle : analysis.actual.cycleFinding analysis.arena component group = .ok finding) :
      Produces config analysis finding
  | undeclared {component : Component} (edge : ActualEdge)
      (hopted : (component.id : Int) ∈ analysis.declared.optedIn) :
      Produces config analysis ((analysis.comparison config).undeclaredFinding component edge)
  | missing {component : Component} {edge : DeclaredEdge} (property : Option String)
      (hedge : edge ∈ analysis.declared.edgesFrom component.id) :
      Produces config analysis (Comparison.missingFinding component edge property)
  | uncertain {property : Property} (group : SupplyGroup) (slot : Slot) (first : Instantiation)
      (owner : Component) (hexpected : (analysis.comparison config).expectedTargets property ≠ []) :
      Produces config analysis ((analysis.comparison config).slotFinding
        Comparison.uncertainFinding group slot property first owner)
  | mismatched {property : Property} (group : SupplyGroup) (slot : Slot) (first : Instantiation)
      (owner : Component) (hexpected : (analysis.comparison config).expectedTargets property ≠ []) :
      Produces config analysis ((analysis.comparison config).slotFinding
        Comparison.mismatchFinding group slot property first owner)

variable {config : Config} {analysis : Analysis} {finding : Finding}

theorem Produces.of_mem_componentFindings {component : Component}
    (hmem : finding ∈ (analysis.comparison config).componentFindings component) :
    analysis.Produces config finding := by
  obtain ⟨undeclared, hundeclared, hfound | ⟨missing, hmissing, hfound |
    ⟨supplied, hsupplied, hfound⟩⟩⟩ := Comparison.mem_componentFindings_iff.1 hmem
  · obtain ⟨hopted, -, edge, -, -, -, -, rfl⟩ :=
      (Comparison.mem_undeclaredUsages_iff hundeclared).1 hfound
    exact .undeclared edge (List.contains_iff_mem.1 hopted)
  · obtain ⟨-, edge, hedge, hfinding⟩ :=
      (Comparison.mem_missingDeclarations_iff hmissing).1 hfound
    obtain ⟨property, -, -, rfl⟩ := Comparison.missingDeclaration?_eq_ok_some_iff.1 hfinding
    exact .missing property hedge
  · obtain ⟨group, -, slot, -, hcheck⟩ := (Comparison.mem_suppliedContent_iff hsupplied).1 hfound
    obtain ⟨property, first, -, -, owner, -, -, -, hexpected, -, -, -, ⟨-, rfl⟩ | ⟨-, rfl⟩⟩ :=
      Comparison.checkSlot_eq_ok_some_iff.1 hcheck
    · exact .uncertain group slot first owner hexpected
    · exact .mismatched group slot first owner hexpected

/-- Every finding of an analysis comes from one of its sources. -/
theorem Undisturbed.produces_of_mem_findings {resolver : Resolver} {unit : SourceUnit}
    (hrun : analysis.Undisturbed config resolver unit) (hmem : finding ∈ analysis.findings) :
    analysis.Produces config finding := by
  rw [hrun.findings] at hmem
  rcases Comparison.mem_of_mem_findings hmem with hearlier | ⟨component, -, hcomponent⟩
  · rcases List.mem_append.1 hearlier with hread | hcycle
    · rcases List.mem_append.1 hread with hmalformed | hdeclared
      · refine .malformed hmalformed ?_
        rw [hrun.malformed] at hmalformed
        exact (Extraction.sound_ofUnit config unit).findings finding hmalformed
      · rw [(DeclaredGraph.collected_of_ofArena hrun.sound hrun.declared).findings] at hdeclared
        obtain ⟨tag, htag, rfl⟩ := List.mem_map.1 hdeclared
        exact .unresolved (List.mem_of_mem_filter htag)
    · have hcycles := hrun.cycles
      rw [ActualGraph.cycleFindings_eq_mapM] at hcycles
      obtain ⟨entry, -, hfinding⟩ := (mem_of_mapM_eq_ok hcycles).1 hcycle
      exact .cyclic hfinding
  · exact .of_mem_componentFindings hcomponent

end Analysis

end RenderAudit
