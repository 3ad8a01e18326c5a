import RenderAudit.Proofs.PolicyOrder

/-!
# Where mismatches are asserted

Supplied content is checked at every slot within as many forwarding steps as the bound allows, and
the verdict does not depend on how far the slot is away. That includes the slots at which the walk is
cut off, and under the single-hop policy the slots that content is only forwarded to. What the
single-hop policy leaves of the mismatches are those of host elements.
-/

namespace RenderAudit

namespace Comparison

variable {comparison : Comparison} {group : SupplyGroup} {slot : Slot} {finding : Finding}

/-- The content of a group disagrees with all that is declared for a slot. -/
def Disagrees (comparison : Comparison) (group : SupplyGroup) (slot : Slot) : Prop :=
  ∃ property, comparison.arena.propertyOf? slot.owner slot.property = some property ∧
    group.members ≠ [] ∧ comparison.expectedTargets property ≠ [] ∧
    comparison.AllMismatched group property

theorem ReportsMismatch.disagrees (hreports : comparison.ReportsMismatch group slot finding) :
    comparison.Disagrees group slot := by
  obtain ⟨property, first, rest, owner, hproperty, hmembers, hne, hall, -, -⟩ :=
    checkSlot_eq_mismatch_iff.1 ⟨hreports.found, hreports.kind⟩
  exact ⟨property, hproperty, by simp [hmembers], hne, hall⟩

theorem Disagrees.exists_mismatch (hdisagrees : comparison.Disagrees group slot)
    (howner : slot.owner < comparison.arena.components.length) :
    ∃ finding, comparison.checkSlot group slot = .ok (some finding) ∧
      finding.kind = .mismatchedTarget := by
  obtain ⟨property, hproperty, hmembers, hne, hall⟩ := hdisagrees
  obtain ⟨first, rest, hmembers⟩ := List.exists_cons_of_ne_nil hmembers
  obtain ⟨owner, howner⟩ := Arena.exists_component_eq_ok howner
  exact ⟨_, checkSlot_eq_mismatch_iff.2
    ⟨property, first, rest, owner, hproperty, hmembers, hne, hall, howner, rfl⟩⟩

theorem intrinsic_of_mismatched (hpolicy : comparison.config.policy = .singleHop)
    {supplied target : Target}
    (hverdict : comparison.consistency supplied target = .ok .mismatched) :
    supplied.kind = .intrinsic := by
  by_contra hintrinsic
  obtain ⟨hkey, htraced⟩ := isOpaque_eq_false_of_mismatched hverdict
  rw [consistency, if_neg hkey, if_neg (by simp [htraced]), if_neg hintrinsic,
    if_pos (by simp [Config.transitive, hpolicy])] at hverdict
  cases hverdict

theorem Disagrees.intrinsic (hdisagrees : comparison.Disagrees group slot)
    (hpolicy : comparison.config.policy = .singleHop) :
    ∀ member ∈ group.members, member.target.kind = .intrinsic := by
  intro member hmember
  obtain ⟨property, -, -, hne, hall⟩ := hdisagrees
  obtain ⟨target, htarget⟩ := List.exists_mem_of_ne_nil _ hne
  exact intrinsic_of_mismatched hpolicy (hall member hmember target htarget)

theorem mem_checkedSlots_ofUsages_iff {config : Config} {arena : Arena} {declared : DeclaredGraph}
    {usages : Usages} :
    slot ∈ (ofUsages config arena declared usages).checkedSlots group ↔
      ∃ n ≤ config.depthBound, Steps (Forwards usages) n group.slot slot := by
  rw [mem_checkedSlots_iff]
  constructor
  · rintro (rfl | hreached)
    · exact ⟨0, Nat.zero_le _, rfl⟩
    · exact mem_reached_resolveSlot_iff.1 hreached
  · intro hsteps
    exact .inr (mem_reached_resolveSlot_iff.2 hsteps)

end Comparison

namespace Analysis.Undisturbed

variable {config : Config} {resolver : Resolver} {unit : SourceUnit} {analysis : Analysis}
  {group : SupplyGroup} {slot : Slot}

theorem mem_checkedSlots_iff (hrun : analysis.Undisturbed config resolver unit) :
    slot ∈ (analysis.comparison config).checkedSlots group ↔
      ∃ n ≤ config.depthBound, Steps (Forwards analysis.actual.usages) n group.slot slot := by
  rw [hrun.comparison_eq]
  exact Comparison.mem_checkedSlots_ofUsages_iff

theorem exists_mismatch_iff (hrun : analysis.Undisturbed config resolver unit)
    {supplier : Component} (hsupplier : supplier ∈ analysis.arena.components)
    (hgroup : group ∈ analysis.actual.groupsOf supplier.id) :
    (∃ finding, (analysis.comparison config).ReportsMismatch group slot finding) ↔
      (∃ n ≤ config.depthBound, Steps (Forwards analysis.actual.usages) n group.slot slot) ∧
        (analysis.comparison config).Disagrees group slot := by
  rw [← hrun.mem_checkedSlots_iff]
  constructor
  · rintro ⟨finding, hreports⟩
    exact ⟨hreports.checked, hreports.disagrees⟩
  · rintro ⟨hchecked, hdisagrees⟩
    obtain ⟨finding, hfound, hkind⟩ := hdisagrees.exists_mismatch (hrun.owner_lt hgroup hchecked)
    exact ⟨finding, ⟨supplier, hsupplier, hgroup⟩, hchecked, hfound, hkind⟩

/-- A group whose content takes as many steps as the bound allows is reported for that. -/
theorem exists_cycle_of_steps (hrun : analysis.Undisturbed config resolver unit) {component : Nat}
    (hgroup : group ∈ analysis.actual.groupsOf component) (hmembers : group.members ≠ [])
    (hsteps : Steps (Forwards analysis.actual.usages) config.depthBound group.slot slot) :
    ∃ cycle ∈ analysis.findings, cycle.kind = .cycleDepthExceeded ∧ cycle.span = group.span := by
  obtain ⟨usage, husage, hwalked, hmem⟩ := hrun.exists_walked_of_mem_groupsOf hgroup
  have hexceeded : (analysis.actual.resolve group.slot).exceeded = true := by
    rw [hrun.actual]
    exact resolveSlot_exceeded_iff.2 ⟨slot, hsteps⟩
  have hreported : (usage.component, group) ∈ analysis.actual.reportedGroups := by
    rw [ActualGraph.reportedGroups_eq_filter, List.mem_filter]
    refine ⟨Usages.mem_suppliedGroups.2 ⟨usage, husage, hwalked, rfl, hmem⟩, ?_⟩
    simp [hmembers, hexceeded]
  have hcycles := hrun.cycles
  rw [ActualGraph.cycleFindings_eq_mapM] at hcycles
  obtain ⟨cycle, hcycle⟩ := exists_mapM_eq_ok_iff.1 ⟨_, hcycles⟩ _ hreported
  have hlisted : cycle ∈ analysis.cycles := (mem_of_mapM_eq_ok hcycles).2 ⟨_, hreported, hcycle⟩
  have hfindings : ∃ reported ∈ analysis.findings, reported.identity = cycle.identity := by
    rw [hrun.findings]
    exact Comparison.exists_mem_findings (.inl (List.mem_append_right _ hlisted))
  obtain ⟨reported, hmem, hidentity⟩ := hfindings
  obtain ⟨hkind, hspan⟩ := ActualGraph.cycleFinding_kind_span hcycle
  simp only [Finding.identity, Prod.mk.injEq] at hidentity
  exact ⟨reported, hmem, hidentity.1.trans hkind, hidentity.2.1.trans hspan⟩

end Analysis.Undisturbed

/-- Mismatches are asserted for the groups and slots where content disagrees with what is declared,
within as many forwarding steps as the bound allows. At a slot that is not met in fewer steps the
same group is reported as forwarded beyond the bound. Under the single-hop policy only host elements
are asserted to mismatch. -/
theorem mismatch_iff_disagrees_within_bound (config : Config) (resolver : Resolver)
    (unit : SourceUnit) :
    ∃ analysis, Analysis.run config (.quiet resolver) unit .fresh = .ok (analysis, .fresh) ∧
      (∀ finding ∈ analysis.findings, finding.kind = .mismatchedTarget →
        ∃ group slot, (analysis.comparison config).ReportsMismatch group slot finding) ∧
      (∀ component ∈ analysis.arena.components,
        ∀ group ∈ analysis.actual.groupsOf component.id, ∀ slot,
          (∃ finding, (analysis.comparison config).ReportsMismatch group slot finding) ↔
            (∃ n ≤ config.depthBound,
              Steps (Forwards analysis.actual.usages) n group.slot slot) ∧
            (analysis.comparison config).Disagrees group slot) ∧
      ∀ group slot finding, (analysis.comparison config).ReportsMismatch group slot finding →
        (∃ reported ∈ analysis.findings, reported.identity = finding.identity) ∧
        ((∃ n < config.depthBound, Steps (Forwards analysis.actual.usages) n group.slot slot) ∨
          Steps (Forwards analysis.actual.usages) config.depthBound group.slot slot ∧
            ∃ cycle ∈ analysis.findings,
              cycle.kind = .cycleDepthExceeded ∧ cycle.span = group.span) ∧
        (config.policy = .singleHop →
          ∀ member ∈ group.members, member.target.kind = .intrinsic) := by
  obtain ⟨analysis, hrun⟩ := Analysis.exists_undisturbed config resolver unit
  refine ⟨analysis, Analysis.run_quiet_eq_ok_of_undisturbed hrun, ?_, ?_, ?_⟩
  · intro finding hmem hkind
    exact hrun.exists_reportsMismatch hmem hkind
  · intro component hcomponent group hgroup slot
    exact hrun.exists_mismatch_iff hcomponent hgroup
  · intro group slot finding hreports
    obtain ⟨component, -, hgroup⟩ := hreports.supplied
    obtain ⟨n, hle, hsteps⟩ := hrun.mem_checkedSlots_iff.1 hreports.checked
    refine ⟨?_, ?_, ?_⟩
    · exact hrun.exists_mem_findings_of_supplied
        ⟨hreports.supplied, hreports.checked, hreports.found⟩
    · rcases Nat.lt_or_eq_of_le hle with hlt | rfl
      · exact .inl ⟨n, hlt, hsteps⟩
      · obtain ⟨-, -, hmembers, -⟩ := hreports.disagrees
        exact .inr ⟨hsteps, hrun.exists_cycle_of_steps hgroup hmembers hsteps⟩
    · intro hpolicy
      exact hreports.disagrees.intrinsic hpolicy

/-- A mismatch is reported at a slot that content is forwarded to, and that it does not meet in
fewer steps than the bound. -/
def Analysis.MismatchesAtBound (config : Config) (analysis : Analysis) : Prop :=
  ∃ group slot, ∃ finding ∈ analysis.findings,
    (analysis.comparison config).ReportsMismatch group slot finding ∧ slot ≠ group.slot ∧
    ¬∃ n < config.depthBound, Steps (Forwards analysis.actual.usages) n group.slot slot

/-- Under either policy the `i` is asserted to mismatch at `Inner`. -/
theorem relay_mismatch_at_bound :
    (∃ analysis, Analysis.run (relayConfig.withPolicy .transitive) (.quiet .blind) relayUnit .fresh =
        .ok (analysis, .fresh) ∧
      analysis.MismatchesAtBound (relayConfig.withPolicy .transitive)) ∧
    ∃ analysis, Analysis.run (relayConfig.withPolicy .singleHop) (.quiet .blind) relayUnit .fresh =
        .ok (analysis, .fresh) ∧
      analysis.MismatchesAtBound (relayConfig.withPolicy .singleHop) := by
  have hpolicy : ∀ policy : Policy, ∃ analysis,
      Analysis.run (relayConfig.withPolicy policy) (.quiet .blind) relayUnit .fresh =
        .ok (analysis, .fresh) ∧
      analysis.MismatchesAtBound (relayConfig.withPolicy policy) := by
    intro policy
    obtain ⟨analysis, hundisturbed⟩ :=
      Analysis.exists_undisturbed (relayConfig.withPolicy policy) .blind relayUnit
    have hrun := Analysis.run_quiet_eq_ok_of_undisturbed hundisturbed
    have hfound : (Analysis.run (relayConfig.withPolicy policy) (.quiet .blind) relayUnit
        .fresh).toOption.any (fun result => decide (
          ∃ component ∈ result.1.arena.components,
            ∃ group ∈ result.1.actual.groupsOf component.id,
              ∃ slot ∈ (result.1.comparison (relayConfig.withPolicy policy)).checkedSlots group,
                slot ≠ group.slot ∧ ∃ finding ∈ result.1.findings,
                  finding.kind = .mismatchedTarget ∧
                  (result.1.comparison (relayConfig.withPolicy policy)).checkSlot group slot =
                    .ok (some finding))) = true := by
      cases policy <;> decide +kernel
    rw [hrun] at hfound
    obtain ⟨component, hcomponent, group, hgroup, slot, hslot, hne, finding, hmem, hkind,
      hcheck⟩ := of_decide_eq_true hfound
    refine ⟨analysis, hrun, group, slot, finding, hmem,
      ⟨⟨component, hcomponent, hgroup⟩, hslot, hcheck, hkind⟩, hne, ?_⟩
    -- Within fewer steps than the bound of one there is only the group's own slot.
    rintro ⟨n, hlt, hsteps⟩
    have hzero : n = 0 := Nat.lt_one_iff.1 hlt
    subst hzero
    exact hne hsteps.symm
  exact ⟨hpolicy .transitive, hpolicy .singleHop⟩

end RenderAudit
