import RenderAudit.Proofs.FindingOrigin
import RenderAudit.Proofs.Search

/-!
# Firm findings rest on complete knowledge

Under the transitive policy a mismatch, and the absence of a declared target, are asserted only
where the search came to its end: everything that can be reached lies within the bound, and none of
it is a component whose edges may be incomplete.
-/

namespace RenderAudit

namespace Config

theorem transitive_eq_true_iff {config : Config} :
    config.transitive = true ↔ config.policy = .transitive := by
  simp [transitive]

end Config

namespace Comparison

variable {comparison : Comparison}

/-- A mismatch is reported for a group of a component, at a slot that its content is checked at. -/
structure ReportsMismatch (comparison : Comparison) (group : SupplyGroup) (slot : Slot)
    (finding : Finding) : Prop where
  supplied : ∃ component ∈ comparison.arena.components,
    group ∈ comparison.actual.groupsOf component.id
  checked : slot ∈ comparison.checkedSlots group
  found : comparison.checkSlot group slot = .ok (some finding)
  kind : finding.kind = .mismatchedTarget

/-- A declared edge of a component is reported to have no counterpart. -/
structure ReportsMissing (comparison : Comparison) (component : Component) (edge : DeclaredEdge)
    (finding : Finding) : Prop where
  known : component ∈ comparison.arena.components
  declared : edge ∈ comparison.declared.edgesFrom component.id
  found : comparison.missingDeclaration? component edge = .ok (some finding)

/-- Nothing connects what was supplied with a declared target. A component neither declares the
target nor reaches it over any number of edges, and all that it reaches lies within the bound and is
certain. -/
structure Unrelated (comparison : Comparison) (supplied target : Target) : Prop where
  key_ne : supplied.key ≠ target.key
  traced : supplied.isOpaque = false
  undeclared : ∀ component, supplied.kind = .component → supplied.ref = some component →
    comparison.declared.declares component target.key = false
  excluded : ∀ component, supplied.kind = .component → supplied.ref = some component →
    comparison.actual.Excludes target.key (some component) comparison.actual.bound

theorem unrelated_of_mismatched (htransitive : comparison.config.transitive = true)
    {supplied target : Target}
    (hverdict : comparison.consistency supplied target = .ok .mismatched) :
    comparison.Unrelated supplied target := by
  obtain ⟨hkey, htraced, hcause⟩ := (consistency_eq_mismatched_iff htransitive).1 hverdict
  have hcomponent : ∀ component, supplied.kind = .component → supplied.ref = some component →
      comparison.declared.declares component target.key = false ∧
        comparison.actual.reaches component target.key = .ok .notReached := by
    intro component hkind href
    have hintrinsic : supplied.kind ≠ .intrinsic := by
      rw [hkind]
      decide
    exact hcause.resolve_left hintrinsic component href
  refine ⟨hkey, htraced, ?_, ?_⟩
  · intro component hkind href
    exact (hcomponent component hkind href).1
  · intro component hkind href
    exact (ActualGraph.reaches_eq_notReached_iff.1 (hcomponent component hkind href).2).1

theorem observed_eq_false_iff (htransitive : comparison.config.transitive = true) {component : Nat}
    {key : Key} :
    comparison.observed component key = .ok false ↔
      comparison.actual.reaches component key = .ok .notReached := by
  unfold observed
  rw [if_pos htransitive]
  constructor
  · intro hobserved
    split at hobserved
    · cases hobserved
    · obtain ⟨answer, hreaches, hanswer⟩ := map_eq_ok_iff.1 hobserved
      rw [hreaches, Except.ok.injEq]
      simpa using hanswer
  · intro hreaches
    have hexcludes := (ActualGraph.reaches_eq_notReached_iff.1 hreaches).1
    have hedge := ((hexcludes 0 _ rfl).2 component rfl).1
    rw [hedge, hreaches]
    rfl

/-- A property that is checked expects all targets that its tags declare. -/
theorem mem_expectedTargets_of_declared {property : Property}
    (hne : comparison.expectedTargets property ≠ []) {entry : Target × Span}
    (hentry : entry ∈ (comparison.declared.slotTargets.get? property.id).getD []) :
    entry.1 ∈ comparison.expectedTargets property := by
  unfold expectedTargets at hne ⊢
  dsimp only at hne ⊢
  split
  · next hany =>
    rw [if_pos hany] at hne
    exact absurd rfl hne
  · exact List.mem_map_of_mem hentry

theorem ReportsMismatch.unrelated {group : SupplyGroup} {slot : Slot} {finding : Finding}
    (hreports : comparison.ReportsMismatch group slot finding)
    (htransitive : comparison.config.transitive = true) :
    ∃ property, comparison.arena.propertyOf? slot.owner slot.property = some property ∧
      ∀ member ∈ group.members,
        ∀ entry ∈ (comparison.declared.slotTargets.get? property.id).getD [],
          comparison.Unrelated member.target entry.1 := by
  obtain ⟨property, -, -, -, hproperty, -, hne, hall, -, -⟩ :=
    checkSlot_eq_mismatch_iff.1 ⟨hreports.found, hreports.kind⟩
  refine ⟨property, hproperty, ?_⟩
  intro member hmember entry hentry
  exact unrelated_of_mismatched htransitive
    (hall member hmember entry.1 (mem_expectedTargets_of_declared hne hentry))

theorem ReportsMissing.excludes {component : Component} {edge : DeclaredEdge} {finding : Finding}
    (hreports : comparison.ReportsMissing component edge finding)
    (htransitive : comparison.config.transitive = true)
    (hdirect : comparison.forwardedProperty edge = .ok none) :
    comparison.actual.Excludes edge.target.key (some component.id) comparison.actual.bound := by
  obtain ⟨property, hproperty, hunfulfilled, -⟩ :=
    missingDeclaration?_eq_ok_some_iff.1 hreports.found
  rw [hdirect] at hproperty
  cases hproperty
  have hreaches := (observed_eq_false_iff htransitive).1 hunfulfilled
  exact (ActualGraph.reaches_eq_notReached_iff.1 hreaches).1

/-- A mismatch in the report is one of a group at a slot. -/
theorem reportsMismatch_of_mem_findings {earlier : List Finding} {finding : Finding}
    (hmem : finding ∈ comparison.findings earlier) (hkind : finding.kind = .mismatchedTarget) :
    finding ∈ earlier ∨ ∃ group slot, comparison.ReportsMismatch group slot finding := by
  rcases mem_of_mem_findings hmem with hearlier | ⟨component, hcomponent, hfinding⟩
  · exact .inl hearlier
  right
  rcases origin_of_mem_componentFindings hfinding with
    hother | ⟨hother, -⟩ | ⟨-, group, hgroup, slot, hslot, hcheck⟩
  · simp [hother] at hkind
  · simp [hother] at hkind
  · exact ⟨group, slot, ⟨component, hcomponent, hgroup⟩, hslot, hcheck, hkind⟩

/-- A missing declaration in the report is one of a component's declared edge. -/
theorem reportsMissing_of_mem_findings {earlier : List Finding} {finding : Finding}
    (hmem : finding ∈ comparison.findings earlier) (hkind : finding.kind = .missingDeclaration) :
    finding ∈ earlier ∨ ∃ component edge, comparison.ReportsMissing component edge finding := by
  rcases mem_of_mem_findings hmem with hearlier | ⟨component, hcomponent, hfinding⟩
  · exact .inl hearlier
  right
  rcases origin_of_mem_componentFindings hfinding with
    hother | ⟨-, edge, hedge, hmissing⟩ | ⟨hother, -⟩
  · simp [hother] at hkind
  · exact ⟨component, edge, hcomponent, hedge, hmissing⟩
  · simp [hkind] at hother

end Comparison

/-- Firm findings are asserted on complete knowledge only. Every member of a group that is reported
as mismatched is unrelated to every declared target of the slot. Where a declared edge that no
property carries is reported as missing, its target cannot be reached at all, and all that can be
reached lies within the bound and is certain. -/
theorem firm_findings_of_transitive (comparison : Comparison)
    (htransitive : comparison.config.policy = .transitive) (earlier : List Finding) :
    ((∀ finding ∈ comparison.findings earlier, finding.kind = .mismatchedTarget →
        finding ∈ earlier ∨ ∃ group slot, comparison.ReportsMismatch group slot finding) ∧
      ∀ group slot finding, comparison.ReportsMismatch group slot finding →
        ∃ property, comparison.arena.propertyOf? slot.owner slot.property = some property ∧
          ∀ member ∈ group.members,
            ∀ entry ∈ (comparison.declared.slotTargets.get? property.id).getD [],
              comparison.Unrelated member.target entry.1) ∧
    ((∀ finding ∈ comparison.findings earlier, finding.kind = .missingDeclaration →
        finding ∈ earlier ∨
          ∃ component edge, comparison.ReportsMissing component edge finding) ∧
      ∀ component edge finding, comparison.ReportsMissing component edge finding →
        comparison.forwardedProperty edge = .ok none →
          comparison.actual.Excludes edge.target.key (some component.id)
            comparison.actual.bound) := by
  rw [← Config.transitive_eq_true_iff] at htransitive
  refine ⟨⟨?_, ?_⟩, ?_, ?_⟩
  · intro finding hmem hkind
    exact Comparison.reportsMismatch_of_mem_findings hmem hkind
  · intro group slot finding hreports
    exact hreports.unrelated htransitive
  · intro finding hmem hkind
    exact Comparison.reportsMissing_of_mem_findings hmem hkind
  · intro component edge finding hreports hdirect
    exact hreports.excludes htransitive hdirect

/-- `Page` puts a `Badge` into `Frame`, whose children are declared to be a `Card`. -/
def framedBadge : SupplyGroup where
  id := 0
  slot := ⟨1, "children"⟩
  span := ⟨"shop.tsx", 4, 5, 0, 0⟩
  members := [⟨.component 3 "Badge", ⟨"shop.tsx", 4, 12, 0, 0⟩⟩]
  forwards := []

def shop : Comparison where
  config := ⟨3, "component", "renders", .transitive, [], by decide⟩
  arena :=
    { Arena.empty with
      components := ["Page", "Frame", "Card", "Badge"].zipIdx.map fun (name, id) =>
        ⟨id, name, ⟨"shop.tsx", 10 * id + 1, 1, 0, 0⟩, .functional⟩
      properties := [⟨0, "children", some 1, true, none, none, [], none, none⟩]
      byOwner := ⟨[(1, [0])]⟩ }
  declared :=
    { DeclaredGraph.empty with
      edges := [⟨0, .component 2 "Card", ⟨"shop.tsx", 2, 4, 0, 0⟩, none⟩]
      slotTargets := ⟨[(0, [(.component 2 "Card", ⟨"shop.tsx", 12, 6, 0, 0⟩)])]⟩ }
  actual := .ofUsages 3
    [⟨0, true, [⟨.component 1 "Frame", ⟨"shop.tsx", 4, 5, 0, 0⟩⟩], [framedBadge], []⟩,
      ⟨1, true, [], [], [("children", .render none)]⟩,
      ⟨2, true, [], [], []⟩,
      ⟨3, true, [⟨.intrinsic "b", ⟨"shop.tsx", 32, 5, 0, 0⟩⟩], [], []⟩]

/-- Both the `Badge` in place of a `Card` and the `Card` that `Page` declares are reported. -/
theorem shop_findings_firm :
    (∃ finding, shop.ReportsMismatch framedBadge ⟨1, "children"⟩ finding ∧
      shop.Unrelated (.component 3 "Badge") (.component 2 "Card")) ∧
    ∃ component edge finding, shop.ReportsMissing component edge finding ∧
      shop.actual.Excludes (.component (some 2)) (some 0) 3 := by
  have hfirm := firm_findings_of_transitive shop rfl []
  constructor
  · have hreports : ∃ finding, shop.ReportsMismatch framedBadge ⟨1, "children"⟩ finding :=
      ⟨_, ⟨⟨_, List.mem_cons_self, List.mem_cons_self⟩, List.mem_cons_self, rfl, rfl⟩⟩
    obtain ⟨finding, hreports⟩ := hreports
    obtain ⟨property, hproperty, hunrelated⟩ := hfirm.1.2 _ _ _ hreports
    cases hproperty
    exact ⟨finding, hreports, hunrelated _ List.mem_cons_self _ List.mem_cons_self⟩
  · have hreports : ∃ finding, shop.ReportsMissing
        ⟨0, "Page", ⟨"shop.tsx", 1, 1, 0, 0⟩, .functional⟩
        ⟨0, .component 2 "Card", ⟨"shop.tsx", 2, 4, 0, 0⟩, none⟩ finding :=
      ⟨_, ⟨List.mem_cons_self, List.mem_cons_self, rfl⟩⟩
    obtain ⟨finding, hreports⟩ := hreports
    exact ⟨_, _, finding, hreports, hfirm.2.2 _ _ _ hreports rfl⟩

end RenderAudit
