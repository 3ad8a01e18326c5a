import RenderAudit.Proofs.AnalysisSound
import RenderAudit.Proofs.ReportOrder

/-!
# The policies are ordered

A policy decides what forwarding may prove, and enters the comparison in two places only: whether a
declared target counts as observed, and whether supplied content fits a declared target. Under the
single-hop policy less is observed, and a verdict is that of the transitive policy or uncertain. So
with it more declarations are missing, fewer mismatches are asserted, and nothing that disagrees
with a slot goes unreported.
-/

namespace RenderAudit

/-- The same options with another policy. -/
def Config.withPolicy (config : Config) (policy : Policy) : Config :=
  { config with policy := policy }

/-- The kinds of findings that do not rest on what forwarding may prove. -/
def FindingKind.IgnoresPolicy (kind : FindingKind) : Prop :=
  kind = .undeclaredUsage ∨ kind = .cycleDepthExceeded ∨ kind = .malformedTag

namespace Comparison

def withPolicy (comparison : Comparison) (policy : Policy) : Comparison :=
  { comparison with config := comparison.config.withPolicy policy }

variable {comparison : Comparison} {component : Component} {finding : Finding}

/-! ### Declarations without a counterpart -/

theorem unobserved_singleHop {source : Nat} {key : Key}
    (hunobserved : (comparison.withPolicy .transitive).observed source key = .ok false) :
    (comparison.withPolicy .singleHop).observed source key = .ok false := by
  unfold observed at hunobserved ⊢
  split at hunobserved
  · cases hunobserved
  · next hedge => exact if_neg hedge

theorem Unfulfilled.singleHop {source : Nat} {edge : DeclaredEdge} {property : Option String}
    (hunfulfilled : (comparison.withPolicy .transitive).Unfulfilled source edge property) :
    (comparison.withPolicy .singleHop).Unfulfilled source edge property := by
  cases property with
  | some name => exact hunfulfilled
  | none => exact unobserved_singleHop hunfulfilled

theorem missingDeclaration?_singleHop {edge : DeclaredEdge}
    (hfinding : (comparison.withPolicy .transitive).missingDeclaration? component edge =
      .ok (some finding)) :
    (comparison.withPolicy .singleHop).missingDeclaration? component edge =
      .ok (some finding) := by
  obtain ⟨property, hproperty, hunfulfilled, hmissing⟩ :=
    missingDeclaration?_eq_ok_some_iff.1 hfinding
  exact missingDeclaration?_eq_ok_some_iff.2
    ⟨property, hproperty, hunfulfilled.singleHop, hmissing⟩

/-! ### Supplied content -/

/-- Less knowledge leaves a verdict as it is, or makes it uncertain. -/
theorem consistency_singleHop (supplied target : Target) :
    (comparison.withPolicy .singleHop).consistency supplied target =
        (comparison.withPolicy .transitive).consistency supplied target ∨
      (comparison.withPolicy .singleHop).consistency supplied target = .ok .uncertain := by
  unfold consistency
  by_cases hkey : supplied.key = target.key
  · simp [hkey]
  · by_cases hsupplied : supplied.isOpaque = true
    · simp [hkey, hsupplied]
    · by_cases hintrinsic : supplied.kind = .intrinsic
      · simp [hkey, hsupplied, hintrinsic]
      · right
        rw [if_neg hkey, if_neg hsupplied, if_neg hintrinsic]
        rfl

theorem consistency_of_singleHop {supplied target : Target} {verdict : Consistency}
    (hverdict : (comparison.withPolicy .singleHop).consistency supplied target = .ok verdict)
    (hcertain : verdict ≠ .uncertain) :
    (comparison.withPolicy .transitive).consistency supplied target = .ok verdict := by
  rcases comparison.consistency_singleHop supplied target with hsame | huncertain
  · rw [← hsame, hverdict]
  · rw [huncertain] at hverdict
    exact absurd (Except.ok.inj hverdict).symm hcertain

variable {group : SupplyGroup} {slot : Slot}

/-- Verdicts that can be given under the transitive policy can be given under the other, where none
of them is that content fits unless it was before. -/
theorem exists_verdicts_singleHop {property : Property} {verdicts : List Consistency}
    (hverdicts : (comparison.withPolicy .transitive).verdicts group property = .ok verdicts)
    (hconsistent : .consistent ∉ verdicts) :
    ∃ verdicts', (comparison.withPolicy .singleHop).verdicts group property = .ok verdicts' ∧
      .consistent ∉ verdicts' := by
  have hexists : ∃ verdicts',
      (comparison.withPolicy .singleHop).verdicts group property = .ok verdicts' := by
    refine exists_verdicts_eq_ok_iff.2 fun member hmember target htarget => ?_
    obtain ⟨verdict, hverdict⟩ :=
      exists_verdicts_eq_ok_iff.1 ⟨verdicts, hverdicts⟩ member hmember target htarget
    rcases comparison.consistency_singleHop member.target target with hsame | huncertain
    · exact ⟨verdict, hsame.trans hverdict⟩
    · exact ⟨.uncertain, huncertain⟩
  obtain ⟨verdicts', hverdicts'⟩ := hexists
  refine ⟨verdicts', hverdicts', fun hmem => ?_⟩
  obtain ⟨member, hmember, target, htarget, hverdict⟩ := (mem_of_verdicts hverdicts').1 hmem
  refine hconsistent ((mem_of_verdicts hverdicts).2 ⟨member, hmember, target, htarget, ?_⟩)
  exact consistency_of_singleHop hverdict (by decide)

/-- A slot that content disagrees with under the transitive policy is not passed over. -/
theorem exists_checkSlot_singleHop
    (hcheck : (comparison.withPolicy .transitive).checkSlot group slot = .ok (some finding)) :
    ∃ finding', (comparison.withPolicy .singleHop).checkSlot group slot = .ok (some finding') := by
  obtain ⟨property, first, rest, verdicts, owner, hproperty, hmembers, hverdicts, hne, hconsistent,
    howner, htraced, -⟩ := checkSlot_eq_ok_some_iff.1 hcheck
  obtain ⟨verdicts', hverdicts', hconsistent'⟩ := exists_verdicts_singleHop hverdicts hconsistent
  by_cases huncertain : .uncertain ∈ verdicts'
  · exact ⟨_, checkSlot_eq_ok_some_iff.2 ⟨property, first, rest, verdicts', owner, hproperty,
      hmembers, hverdicts', hne, hconsistent', howner, htraced, .inl ⟨huncertain, rfl⟩⟩⟩
  · exact ⟨_, checkSlot_eq_ok_some_iff.2 ⟨property, first, rest, verdicts', owner, hproperty,
      hmembers, hverdicts', hne, hconsistent', howner, htraced, .inr ⟨huncertain, rfl⟩⟩⟩

theorem checkSlot_mismatch_of_singleHop
    (hcheck : (comparison.withPolicy .singleHop).checkSlot group slot = .ok (some finding))
    (hkind : finding.kind = .mismatchedTarget) :
    (comparison.withPolicy .transitive).checkSlot group slot = .ok (some finding) := by
  obtain ⟨property, first, rest, owner, hproperty, hmembers, hne, hall, howner, hfinding⟩ :=
    checkSlot_eq_mismatch_iff.1 ⟨hcheck, hkind⟩
  have hall' : (comparison.withPolicy .transitive).AllMismatched group property := by
    intro member hmember target htarget
    exact consistency_of_singleHop (hall member hmember target htarget) (by decide)
  refine (checkSlot_eq_mismatch_iff.2 ?_).1
  exact ⟨property, first, rest, owner, hproperty, hmembers, hne, hall', howner, hfinding⟩

/-! ### Reports under both policies -/

theorem mem_missingDeclarations_singleHop {missing missing' : List Finding}
    (hmissing : (comparison.withPolicy .transitive).missingDeclarations component = .ok missing)
    (hmissing' : (comparison.withPolicy .singleHop).missingDeclarations component = .ok missing')
    (hmem : finding ∈ missing) : finding ∈ missing' := by
  obtain ⟨hwalked, edge, hedge, hfinding⟩ := (mem_missingDeclarations_iff hmissing).1 hmem
  exact (mem_missingDeclarations_iff hmissing').2
    ⟨hwalked, edge, hedge, missingDeclaration?_singleHop hfinding⟩

theorem ReportsSupplied.exists_singleHop
    (hreports : (comparison.withPolicy .transitive).ReportsSupplied group slot finding) :
    ∃ finding', (comparison.withPolicy .singleHop).ReportsSupplied group slot finding' := by
  obtain ⟨finding', hfound⟩ := exists_checkSlot_singleHop hreports.found
  exact ⟨finding', hreports.supplied, hreports.checked, hfound⟩

/-- Of the findings of a component only undeclared usages can be of such a kind. -/
theorem filter_componentFindings {kind : FindingKind} (hkind : kind.IgnoresPolicy)
    {undeclared missing supplied : List Finding}
    (hundeclared : comparison.undeclaredUsages component = .ok undeclared)
    (hmissing : comparison.missingDeclarations component = .ok missing)
    (hsupplied : comparison.suppliedContent component = .ok supplied) :
    (comparison.componentFindings component).filter (·.kind = kind) =
      undeclared.filter (·.kind = kind) := by
  have hnoMissing : missing.filter (·.kind = kind) = [] := by
    rw [List.filter_eq_nil_iff]
    intro finding hmem
    obtain ⟨-, edge, -, hfinding⟩ := (mem_missingDeclarations_iff hmissing).1 hmem
    rw [decide_eq_true_iff, kind_of_missingDeclaration? hfinding]
    rintro rfl
    simp [FindingKind.IgnoresPolicy] at hkind
  have hnoSupplied : supplied.filter (·.kind = kind) = [] := by
    rw [List.filter_eq_nil_iff]
    intro finding hmem
    obtain ⟨group, -, slot, -, hcheck⟩ := (mem_suppliedContent_iff hsupplied).1 hmem
    rw [decide_eq_true_iff]
    rintro rfl
    rcases kind_of_checkSlot hcheck with hsupplied | hsupplied
    · simp [FindingKind.IgnoresPolicy, hsupplied] at hkind
    · simp [FindingKind.IgnoresPolicy, hsupplied] at hkind
  rw [componentFindings_eq hundeclared hmissing hsupplied, List.filter_append, List.filter_append,
    hnoMissing, hnoSupplied, List.append_nil, List.append_nil]

theorem filter_findings (kind : FindingKind) (earlier : List Finding) :
    (comparison.findings earlier).filter (·.kind = kind) =
      Finding.sort (earlier.filter (·.kind = kind) ++ comparison.arena.components.flatMap
        fun component => (comparison.componentFindings component).filter (·.kind = kind)) := by
  unfold findings
  rw [Finding.filter_kind_sort, List.filter_append, List.filter_flatMap]

end Comparison

namespace Analysis

/-- The same analysis, reported under another policy. -/
def withPolicy (config : Config) (policy : Policy) (analysis : Analysis) : Analysis :=
  { analysis with
    findings := ((analysis.comparison config).withPolicy policy).findings
      (analysis.malformed ++ analysis.declared.findings ++ analysis.cycles) }

theorem comparison_withPolicy (config : Config) (policy : Policy) (analysis : Analysis) :
    (analysis.withPolicy config policy).comparison (config.withPolicy policy) =
      (analysis.comparison config).withPolicy policy := rfl

namespace Undisturbed

variable {config : Config} {resolver : Resolver} {unit : SourceUnit} {analysis : Analysis}

theorem withPolicy (hrun : analysis.Undisturbed config resolver unit) (policy : Policy) :
    (analysis.withPolicy config policy).Undisturbed (config.withPolicy policy) resolver unit where
  arena := hrun.arena
  malformed := hrun.malformed
  declared := hrun.declared
  traced := hrun.traced
  actual := hrun.actual
  cycles := hrun.cycles
  findings := rfl

theorem filter_findings_withPolicy (hrun : analysis.Undisturbed config resolver unit)
    {kind : FindingKind} (hkind : kind.IgnoresPolicy) (policy : Policy) :
    (analysis.withPolicy config policy).findings.filter (·.kind = kind) =
      analysis.findings.filter (·.kind = kind) := by
  have hcomponent : ∀ component,
      (((analysis.comparison config).withPolicy policy).componentFindings component).filter
          (·.kind = kind) =
        ((analysis.comparison config).componentFindings component).filter (·.kind = kind) := by
    intro component
    -- The policy does not enter what is undeclared.
    obtain ⟨undeclared, hundeclared⟩ := hrun.exists_undeclaredUsages component
    obtain ⟨missing, hmissing⟩ := hrun.exists_missingDeclarations component
    obtain ⟨supplied, hsupplied⟩ := hrun.exists_suppliedContent component
    obtain ⟨missing', hmissing'⟩ := (hrun.withPolicy policy).exists_missingDeclarations component
    obtain ⟨supplied', hsupplied'⟩ := (hrun.withPolicy policy).exists_suppliedContent component
    calc (((analysis.comparison config).withPolicy policy).componentFindings component).filter
            (·.kind = kind)
        = undeclared.filter (·.kind = kind) :=
          Comparison.filter_componentFindings hkind hundeclared hmissing' hsupplied'
      _ = ((analysis.comparison config).componentFindings component).filter (·.kind = kind) :=
          (Comparison.filter_componentFindings hkind hundeclared hmissing hsupplied).symm
  rw [(hrun.withPolicy policy).findings, hrun.findings, comparison_withPolicy,
    Comparison.filter_findings, Comparison.filter_findings]
  simp only [hcomponent]
  rfl

theorem exists_missing_singleHop (hrun : analysis.Undisturbed config resolver unit)
    {finding : Finding}
    (hmem : finding ∈ (analysis.withPolicy config .transitive).findings)
    (hkind : finding.kind = .missingDeclaration) :
    ∃ reported ∈ (analysis.withPolicy config .singleHop).findings,
      reported.identity = finding.identity := by
  obtain ⟨component, hcomponent, hfinding⟩ :=
    (hrun.withPolicy .transitive).exists_component_of_asserts hmem (.inr (.inl hkind))
  rw [comparison_withPolicy] at hfinding
  obtain ⟨missing, hmissing, hmem⟩ := Comparison.exists_mem_missingDeclarations hfinding hkind
  obtain ⟨missing', hmissing'⟩ := (hrun.withPolicy .singleHop).exists_missingDeclarations component
  rw [comparison_withPolicy] at hmissing'
  have hmem' := Comparison.mem_missingDeclarations_singleHop hmissing hmissing' hmem
  exact (hrun.withPolicy .singleHop).exists_mem_findings hcomponent
    ((hrun.withPolicy .singleHop).mem_componentFindings_of_missing hmissing' hmem')

theorem exists_mismatch_transitive (hrun : analysis.Undisturbed config resolver unit)
    {finding : Finding}
    (hmem : finding ∈ (analysis.withPolicy config .singleHop).findings)
    (hkind : finding.kind = .mismatchedTarget) :
    ∃ reported ∈ (analysis.withPolicy config .transitive).findings,
      reported.identity = finding.identity := by
  obtain ⟨group, slot, hreports⟩ := (hrun.withPolicy .singleHop).exists_reportsMismatch hmem hkind
  rw [comparison_withPolicy] at hreports
  have hfound := Comparison.checkSlot_mismatch_of_singleHop hreports.found hkind
  exact (hrun.withPolicy .transitive).exists_mem_findings_of_supplied
    ⟨hreports.supplied, hreports.checked, hfound⟩

end Undisturbed

end Analysis

/-- The policies are ordered. They do not change the declarations, the graphs, and the findings that
do not rest on forwarding. What is missing under the transitive policy is missing under the
single-hop policy, a mismatch that is asserted under the single-hop policy is asserted under the
transitive policy, and a group that disagrees with a slot under the transitive policy is reported
there under the single-hop policy too. -/
theorem policies_ordered (config : Config) (resolver : Resolver) (unit : SourceUnit) :
    ∃ transitive singleHop : Analysis,
      Analysis.run (config.withPolicy .transitive) (.quiet resolver) unit .fresh =
        .ok (transitive, .fresh) ∧
      Analysis.run (config.withPolicy .singleHop) (.quiet resolver) unit .fresh =
        .ok (singleHop, .fresh) ∧
      (singleHop.arena = transitive.arena ∧ singleHop.declared = transitive.declared ∧
        singleHop.actual = transitive.actual) ∧
      (∀ kind : FindingKind, kind.IgnoresPolicy →
        singleHop.findings.filter (·.kind = kind) = transitive.findings.filter (·.kind = kind)) ∧
      (∀ finding ∈ transitive.findings, finding.kind = .missingDeclaration →
        ∃ reported ∈ singleHop.findings, reported.identity = finding.identity) ∧
      (∀ finding ∈ singleHop.findings, finding.kind = .mismatchedTarget →
        ∃ reported ∈ transitive.findings, reported.identity = finding.identity) ∧
      ∀ group slot finding,
        (transitive.comparison (config.withPolicy .transitive)).ReportsSupplied group slot finding →
        ∃ finding',
          (singleHop.comparison (config.withPolicy .singleHop)).ReportsSupplied group slot finding' ∧
          ∃ reported ∈ singleHop.findings, reported.identity = finding'.identity := by
  obtain ⟨analysis, hrun⟩ := Analysis.exists_undisturbed config resolver unit
  refine ⟨analysis.withPolicy config .transitive, analysis.withPolicy config .singleHop,
    Analysis.run_quiet_eq_ok_of_undisturbed (hrun.withPolicy .transitive),
    Analysis.run_quiet_eq_ok_of_undisturbed (hrun.withPolicy .singleHop), ⟨rfl, rfl, rfl⟩,
    ?_, ?_, ?_, ?_⟩
  · intro kind hkind
    rw [hrun.filter_findings_withPolicy hkind, hrun.filter_findings_withPolicy hkind]
  · intro finding hmem hkind
    exact hrun.exists_missing_singleHop hmem hkind
  · intro finding hmem hkind
    exact hrun.exists_mismatch_transitive hmem hkind
  · intro group slot finding hreports
    rw [Analysis.comparison_withPolicy] at hreports
    obtain ⟨finding', hreports'⟩ := hreports.exists_singleHop
    exact ⟨finding', hreports',
      (hrun.withPolicy .singleHop).exists_mem_findings_of_supplied hreports'⟩

end RenderAudit
