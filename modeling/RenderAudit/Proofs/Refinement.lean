import RenderAudit.Proofs.DepthBound
import RenderAudit.Proofs.FirmFindings

/-!
# A deeper bound refines the analysis

Whatever is asserted at a bound is asserted at every deeper one. An undeclared usage is one of an
edge, and edges stay. A mismatch and a missing declaration rest on a search that came to its end or
on content that is dropped, and neither changes. The checks that come before a finding do not break
off either, since a deeper bound leads to no slot outside the arena.
-/

namespace RenderAudit

/-- The same options with a deeper bound. -/
def Config.deepen (config : Config) (bound : Nat) (hle : config.depthBound ≤ bound) : Config :=
  { config with depthBound := bound, depthBound_pos := config.depthBound_pos.trans hle }

/-- What is asserted, and not only left open. -/
def FindingKind.Asserts (kind : FindingKind) : Prop :=
  kind = .undeclaredUsage ∨ kind = .missingDeclaration ∨ kind = .mismatchedTarget

/-- Content never leaves the arena on its way. -/
theorem Usages.RefersTo.owner_lt_of_steps {usages : Usages} {arena : Arena}
    (hrefers : usages.RefersTo arena) {n : Nat} {slot last : Slot}
    (howner : slot.owner < arena.components.length)
    (hsteps : Steps (Forwards usages) n slot last) : last.owner < arena.components.length := by
  cases n with
  | zero =>
      cases hsteps
      exact howner
  | succ n =>
      obtain ⟨middle, -, usage, hget, -, huse⟩ := steps_succ_iff.1 hsteps
      exact hrefers.forwarded usage (mem_of_get?_eq_some hget).1 middle.property last huse

namespace Comparison

/-- The comparison of a declared graph with what usages show within the bound. -/
def ofUsages (config : Config) (arena : Arena) (declared : DeclaredGraph) (usages : Usages) :
    Comparison where
  config := config
  arena := arena
  declared := declared
  actual := .ofUsages config.depthBound usages

section Deepen

variable {config : Config} {arena : Arena} {declared : DeclaredGraph} {usages : Usages}
  {bound : Nat} {component : Component} {finding : Finding}

theorem listable_actual (hids : usages.Identified) (component : Nat) :
    (ofUsages config arena declared usages).actual.Listable component :=
  ActualGraph.listable_ofUsages hids config.depthBound component

theorem undeclaredUsages_deepen (hids : usages.Identified) (hle : config.depthBound ≤ bound)
    {undeclared : List Finding}
    (hundeclared : (ofUsages config arena declared usages).undeclaredUsages component =
      .ok undeclared) :
    ∃ undeclared',
      (ofUsages (config.deepen bound hle) arena declared usages).undeclaredUsages component =
        .ok undeclared' ∧ undeclared ⊆ undeclared' := by
  obtain ⟨undeclared', hundeclared'⟩ : ∃ undeclared',
      (ofUsages (config.deepen bound hle) arena declared usages).undeclaredUsages component =
        .ok undeclared' :=
    exists_undeclaredUsages_eq_ok_iff.2 fun _ => listable_actual hids component.id
  refine ⟨undeclared', hundeclared', ?_⟩
  intro finding hmem
  obtain ⟨hopted, hwildcard, edge, hedge, hfinding⟩ :=
    (mem_undeclaredUsages_iff hundeclared).1 hmem
  exact (mem_undeclaredUsages_iff hundeclared').2
    ⟨hopted, hwildcard, edge, ActualGraph.mem_edgesOf_of_le hle hedge, hfinding⟩

theorem Unfulfilled.deepen (hle : config.depthBound ≤ bound)
    (htransitive : config.transitive = true) {id : Nat} {edge : DeclaredEdge}
    {property : Option String}
    (hunfulfilled : (ofUsages config arena declared usages).Unfulfilled id edge property) :
    (ofUsages (config.deepen bound hle) arena declared usages).Unfulfilled id edge property := by
  cases property with
  | some name => exact resolveSlot_dropped_of_le hle hunfulfilled
  | none =>
      have hreaches := (observed_eq_false_iff htransitive).1 hunfulfilled
      exact (observed_eq_false_iff htransitive).2
        (ActualGraph.reaches_notReached_of_le hle hreaches)

theorem missingDeclaration?_deepen (hle : config.depthBound ≤ bound)
    (htransitive : config.transitive = true) {edge : DeclaredEdge}
    (hfinding : (ofUsages config arena declared usages).missingDeclaration? component edge =
      .ok (some finding)) :
    (ofUsages (config.deepen bound hle) arena declared usages).missingDeclaration? component edge =
      .ok (some finding) := by
  obtain ⟨property, hproperty, hunfulfilled, hmissing⟩ :=
    missingDeclaration?_eq_ok_some_iff.1 hfinding
  exact missingDeclaration?_eq_ok_some_iff.2
    ⟨property, hproperty, hunfulfilled.deepen hle htransitive, hmissing⟩

theorem missingDeclarations_deepen (hids : usages.Identified) (hle : config.depthBound ≤ bound)
    (htransitive : config.transitive = true) {missing : List Finding}
    (hmissing : (ofUsages config arena declared usages).missingDeclarations component =
      .ok missing) :
    ∃ missing',
      (ofUsages (config.deepen bound hle) arena declared usages).missingDeclarations component =
        .ok missing' ∧ missing ⊆ missing' := by
  have hedges :=
    (exists_missingDeclarations_eq_ok_iff_of_listable (listable_actual hids)).1 ⟨missing, hmissing⟩
  obtain ⟨missing', hmissing'⟩ : ∃ missing',
      (ofUsages (config.deepen bound hle) arena declared usages).missingDeclarations component =
        .ok missing' :=
    (exists_missingDeclarations_eq_ok_iff_of_listable (listable_actual hids)).2 hedges
  refine ⟨missing', hmissing', ?_⟩
  intro finding hmem
  obtain ⟨hwalked, edge, hedge, hfinding⟩ := (mem_missingDeclarations_iff hmissing).1 hmem
  exact (mem_missingDeclarations_iff hmissing').2
    ⟨hwalked, edge, hedge, missingDeclaration?_deepen hle htransitive hfinding⟩

theorem consistency_mismatched_deepen (hle : config.depthBound ≤ bound)
    (htransitive : config.transitive = true) {supplied target : Target}
    (hverdict : (ofUsages config arena declared usages).consistency supplied target =
      .ok .mismatched) :
    (ofUsages (config.deepen bound hle) arena declared usages).consistency supplied target =
      .ok .mismatched := by
  obtain ⟨hkey, htraced, hunrelated⟩ := (consistency_eq_mismatched_iff htransitive).1 hverdict
  refine (consistency_eq_mismatched_iff htransitive).2 ⟨hkey, htraced, ?_⟩
  apply hunrelated.imp_right
  intro hcomponent id href
  obtain ⟨hdeclares, hreaches⟩ := hcomponent id href
  exact ⟨hdeclares, ActualGraph.reaches_notReached_of_le hle hreaches⟩

theorem checkSlot_mismatch_deepen (hle : config.depthBound ≤ bound)
    (htransitive : config.transitive = true) {group : SupplyGroup} {slot : Slot}
    (hcheck : (ofUsages config arena declared usages).checkSlot group slot = .ok (some finding))
    (hkind : finding.kind = .mismatchedTarget) :
    (ofUsages (config.deepen bound hle) arena declared usages).checkSlot group slot =
      .ok (some finding) := by
  obtain ⟨property, first, rest, owner, hproperty, hmembers, hne, hall, howner, hfinding⟩ :=
    checkSlot_eq_mismatch_iff.1 ⟨hcheck, hkind⟩
  have hall' : (ofUsages (config.deepen bound hle) arena declared usages).AllMismatched group
      property := by
    intro member hmember target htarget
    exact consistency_mismatched_deepen hle htransitive (hall member hmember target htarget)
  refine (checkSlot_eq_mismatch_iff.2 ?_).1
  exact ⟨property, first, rest, owner, hproperty, hmembers, hne, hall', howner, hfinding⟩

theorem owner_lt_of_mem_checkedSlots (hrefers : usages.RefersTo arena) {component : Nat}
    {group : SupplyGroup} {slot : Slot}
    (hgroup : group ∈ (ofUsages config arena declared usages).actual.groupsOf component)
    (hslot : slot ∈ (ofUsages config arena declared usages).checkedSlots group) :
    slot.owner < arena.components.length := by
  have howner : group.slot.owner < arena.components.length := by
    unfold ActualGraph.groupsOf at hgroup
    split at hgroup
    · next usage hget =>
      exact hrefers.supplied usage (Usages.mem_of_get?_eq_some hget).1 group hgroup
    · cases hgroup
  rcases mem_checkedSlots_iff.1 hslot with rfl | hreached
  · exact howner
  · obtain ⟨n, -, hsteps⟩ := mem_reached_resolveSlot_iff.1 hreached
    exact hrefers.owner_lt_of_steps howner hsteps

/-- The check of supplied content meets no slot whose owner is unknown. -/
theorem exists_suppliedContent_of_refersTo (config : Config) (declared : DeclaredGraph)
    (hrefers : usages.RefersTo arena) (hids : usages.Identified) (component : Component) :
    ∃ supplied,
      (ofUsages config arena declared usages).suppliedContent component = .ok supplied := by
  apply exists_suppliedContent_eq_ok (listable_actual hids)
  intro group hgroup slot hslot
  exact owner_lt_of_mem_checkedSlots hrefers hgroup hslot

theorem mem_suppliedContent_deepen (hle : config.depthBound ≤ bound)
    (htransitive : config.transitive = true) {supplied supplied' : List Finding}
    (hsupplied : (ofUsages config arena declared usages).suppliedContent component = .ok supplied)
    (hsupplied' : (ofUsages (config.deepen bound hle) arena declared usages).suppliedContent
      component = .ok supplied')
    (hmem : finding ∈ supplied) (hkind : finding.kind = .mismatchedTarget) :
    finding ∈ supplied' := by
  obtain ⟨group, hgroup, slot, hslot, hcheck⟩ := (mem_suppliedContent_iff hsupplied).1 hmem
  refine (mem_suppliedContent_iff hsupplied').2 ⟨group, hgroup, slot, ?_, ?_⟩
  · exact mem_checkedSlots_iff.2
      ((mem_checkedSlots_iff.1 hslot).imp_right (mem_reached_resolveSlot_of_le hle))
  · exact checkSlot_mismatch_deepen hle htransitive hcheck hkind

theorem mem_componentFindings_deepen (hle : config.depthBound ≤ bound)
    (htransitive : config.transitive = true) (hrefers : usages.RefersTo arena)
    (hids : usages.Identified)
    (hmem : finding ∈ (ofUsages config arena declared usages).componentFindings component)
    (hasserts : finding.kind.Asserts) :
    finding ∈
      (ofUsages (config.deepen bound hle) arena declared usages).componentFindings component := by
  rw [mem_componentFindings_iff] at hmem ⊢
  obtain ⟨undeclared, hundeclared, hfound⟩ := hmem
  obtain ⟨undeclared', hundeclared', hsubset⟩ := undeclaredUsages_deepen hids hle hundeclared
  refine ⟨undeclared', hundeclared', ?_⟩
  rcases hfound with hmem | ⟨missing, hmissing, hfound⟩
  · exact .inl (hsubset hmem)
  obtain ⟨missing', hmissing', hsubset⟩ := missingDeclarations_deepen hids hle htransitive hmissing
  refine .inr ⟨missing', hmissing', ?_⟩
  rcases hfound with hmem | ⟨supplied, hsupplied, hmem⟩
  · exact .inl (hsubset hmem)
  -- Of what the check of supplied content finds only a mismatch is asserted.
  have hkind : finding.kind = .mismatchedTarget := by
    obtain ⟨group, -, slot, -, hcheck⟩ := (mem_suppliedContent_iff hsupplied).1 hmem
    rcases kind_of_checkSlot hcheck with hkind | hkind
    · simp [FindingKind.Asserts, hkind] at hasserts
    · exact hkind
  obtain ⟨supplied', hsupplied'⟩ :=
    exists_suppliedContent_of_refersTo (config.deepen bound hle) declared hrefers hids component
  exact .inr ⟨supplied', hsupplied',
    mem_suppliedContent_deepen hle htransitive hsupplied hsupplied' hmem hkind⟩

theorem exists_mem_findings_deepen (hle : config.depthBound ≤ bound)
    (htransitive : config.transitive = true) (hrefers : usages.RefersTo arena)
    (hids : usages.Identified) {earlier earlier' : List Finding}
    (hearlier : ∀ finding ∈ earlier, finding.kind.Asserts → finding ∈ earlier')
    (hmem : finding ∈ (ofUsages config arena declared usages).findings earlier)
    (hasserts : finding.kind.Asserts) :
    ∃ finding' ∈
        (ofUsages (config.deepen bound hle) arena declared usages).findings earlier',
      finding'.identity = finding.identity := by
  apply exists_mem_findings
  rcases mem_of_mem_findings hmem with hmem | ⟨component, hcomponent, hmem⟩
  · exact .inl (hearlier finding hmem hasserts)
  · exact .inr ⟨component, hcomponent,
      mem_componentFindings_deepen hle htransitive hrefers hids hmem hasserts⟩

end Deepen

end Comparison

theorem ActualGraph.not_asserts_of_mem_cycleFindings {graph : ActualGraph} {arena : Arena}
    {cycles : List Finding} (hcycles : graph.cycleFindings arena = .ok cycles) {finding : Finding}
    (hmem : finding ∈ cycles) : ¬finding.kind.Asserts := by
  rw [cycleFindings_eq_mapM] at hcycles
  obtain ⟨entry, -, hfinding⟩ := (mem_of_mapM_eq_ok hcycles).1 hmem
  simp [FindingKind.Asserts, (cycleFinding_kind_span hfinding).1]

/-- A deeper bound refines the analysis. Edges stay as they are, only doubts go, and a search that
found its target or came to its end has the same answer. Under the transitive policy everything that
is asserted stays asserted, at the same place and with the same message. -/
theorem deeper_bound_refines (config : Config) (arena : Arena) (declared : DeclaredGraph)
    (usages : Usages) (hrefers : usages.RefersTo arena) (bound : Nat)
    (hle : config.depthBound ≤ bound) :
    let graph := ActualGraph.ofUsages config.depthBound usages
    let graph' := ActualGraph.ofUsages bound usages
    (∀ source, ∀ edge ∈ graph.edgesOf source, edge ∈ graph'.edgesOf source) ∧
    ((∀ component, graph'.isUncertain component = true → graph.isUncertain component = true) ∧
      graph'.reportedGroups.Sublist graph.reportedGroups) ∧
    (∀ source key,
      (usages.Identified →
        graph.reaches source key = .ok .reached → graph'.reaches source key = .ok .reached) ∧
      (graph.reaches source key = .ok .notReached →
        graph'.reaches source key = .ok .notReached)) ∧
    (usages.Identified → config.policy = .transitive → ∀ extra, ∃ cycles cycles',
      graph.cycleFindings arena = .ok cycles ∧ graph'.cycleFindings arena = .ok cycles' ∧
      ∀ finding ∈ (Comparison.ofUsages config arena declared usages).findings
          (extra ++ declared.findings ++ cycles),
        finding.kind.Asserts →
          ∃ finding' ∈ (Comparison.ofUsages (config.deepen bound hle) arena declared
              usages).findings (extra ++ declared.findings ++ cycles'),
            finding'.kind = finding.kind ∧ finding'.span = finding.span ∧
              finding'.message = finding.message) := by
  intro graph graph'
  refine ⟨?_, ⟨?_, ?_⟩, ?_, ?_⟩
  · intro source edge hedge
    exact ActualGraph.mem_edgesOf_of_le hle hedge
  · intro component huncertain
    exact ActualGraph.isUncertain_of_le hle huncertain
  · rw [ActualGraph.reportedGroups_ofUsages, ActualGraph.reportedGroups_ofUsages]
    exact usages.endlessGroups_sublist_of_le hle
  · intro source key
    exact ⟨fun hids => ActualGraph.reaches_reached_of_le hids hle,
      ActualGraph.reaches_notReached_of_le hle⟩
  · intro hids htransitive extra
    rw [← Config.transitive_eq_true_iff] at htransitive
    obtain ⟨cycles, hcycles⟩ := ActualGraph.exists_cycleFindings_eq_ok config.depthBound hrefers
    obtain ⟨cycles', hcycles'⟩ := ActualGraph.exists_cycleFindings_eq_ok bound hrefers
    refine ⟨cycles, cycles', hcycles, hcycles', ?_⟩
    intro finding hmem hasserts
    -- The reports of endless forwarding name the bound, but they are not asserted in this sense.
    have hearlier : ∀ finding ∈ extra ++ declared.findings ++ cycles, finding.kind.Asserts →
        finding ∈ extra ++ declared.findings ++ cycles' := by
      intro finding hmem hasserts
      rcases List.mem_append.1 hmem with hmem | hmem
      · exact List.mem_append_left cycles' hmem
      · exact absurd hasserts (ActualGraph.not_asserts_of_mem_cycleFindings hcycles hmem)
    obtain ⟨finding', hmem', hidentity⟩ :=
      Comparison.exists_mem_findings_deepen hle htransitive hrefers hids hearlier hmem hasserts
    simp only [Finding.identity, Prod.mk.injEq] at hidentity
    exact ⟨finding', hmem', hidentity⟩

/-- `Page` puts a `Badge` into `Outer`, which hands its children on to `Inner`. -/
def relayUsages : Usages :=
  [{ component := 0, walked := true, uses := []
     direct := [⟨.component 1 "Outer", ⟨"relay.tsx", 4, 5, 0, 0⟩⟩]
     groups := [⟨0, ⟨1, "children"⟩, ⟨"relay.tsx", 4, 5, 0, 0⟩,
       [⟨.component 3 "Badge", ⟨"relay.tsx", 4, 12, 0, 0⟩⟩], []⟩] },
   { component := 1, walked := true, uses := [("children", .forward ⟨2, "children"⟩)]
     direct := [⟨.component 2 "Inner", ⟨"relay.tsx", 14, 5, 0, 0⟩⟩]
     groups := [⟨1, ⟨2, "children"⟩, ⟨"relay.tsx", 14, 5, 0, 0⟩, [], ["children"]⟩] },
   ⟨2, true, [], [], [("children", .render none)]⟩,
   ⟨3, true, [], [], []⟩]

def relayArena : Arena :=
  { Arena.empty with
    components := ["Page", "Outer", "Inner", "Badge"].zipIdx.map fun (name, id) =>
      ⟨id, name, ⟨"relay.tsx", 10 * id + 1, 1, 0, 0⟩, .functional⟩
    properties := [⟨0, "children", some 1, true, none, none, [], none, none⟩]
    byOwner := ⟨[(1, [0])]⟩ }

def relayDeclared : DeclaredGraph :=
  { DeclaredGraph.empty with
    slotTargets := ⟨[(0, [(.component 2 "Inner", ⟨"relay.tsx", 12, 6, 0, 0⟩)])]⟩ }

def relayConfig : Config :=
  ⟨1, "component", "renders", .transitive, [], by decide⟩

/-- At bound 1 the mismatch at `Outer` is asserted and `Page` is uncertain, at bound 2 only the
mismatch is left. -/
theorem relay_refined :
    relayUsages.RefersTo relayArena ∧ relayUsages.Identified ∧
      (ActualGraph.ofUsages 1 relayUsages).isUncertain 0 = true ∧
      (ActualGraph.ofUsages 2 relayUsages).isUncertain 0 = false ∧
      ∃ finding ∈ (Comparison.ofUsages (relayConfig.deepen 2 (by decide)) relayArena relayDeclared
        relayUsages).findings [], finding.kind = .mismatchedTarget := by
  have hrefers : relayUsages.RefersTo relayArena := by
    constructor <;> simp [relayUsages, relayArena]
  have hids : relayUsages.Identified := by
    constructor <;> simp [relayUsages, Target.Identified, Target.component]
  refine ⟨hrefers, hids, by decide, by decide, ?_⟩
  obtain ⟨cycles, cycles', hcycles, hcycles', hfindings⟩ :=
    (deeper_bound_refines relayConfig relayArena relayDeclared relayUsages hrefers 2
      (by decide)).2.2.2 hids rfl []
  have hpage : ∃ finding, finding.kind = .mismatchedTarget ∧
      ∃ component ∈ relayArena.components, finding ∈ (Comparison.ofUsages relayConfig relayArena
        relayDeclared relayUsages).componentFindings component :=
    ⟨_, rfl, _, List.mem_cons_self, List.mem_cons_self⟩
  obtain ⟨found, hkind, hmem⟩ := hpage
  obtain ⟨finding, hmem, hidentity⟩ := @Comparison.exists_mem_findings
    (.ofUsages relayConfig relayArena relayDeclared relayUsages) found cycles (.inr hmem)
  simp only [Finding.identity, Prod.mk.injEq] at hidentity
  obtain ⟨finding', hmem', hkind', -, -⟩ :=
    hfindings finding hmem (.inr (.inr (hidentity.1.trans hkind)))
  cases hcycles'
  exact ⟨finding', hmem', hkind'.trans (hidentity.1.trans hkind)⟩

end RenderAudit
