import Mathlib.Algebra.Ring.Nat
import RenderAudit.Proofs.PolicyOrder
import RenderAudit.Proofs.Saturation

/-!
# Reports beyond saturation

What a comparison finds rests on edges, on resolutions of slots and, under the transitive policy,
on the answers of the search. None of them changes any more once the bound has saturated. A report
of endless forwarding goes on to print the bound.
-/

namespace RenderAudit

/-! ### Reports of endless forwarding -/

/-- What is reported about content that is forwarded without end, apart from the bound. -/
structure CycleReport where
  span : Span
  source : String
  owner : String
  property : String
deriving DecidableEq, Repr

namespace CycleReport

def opening : CycleReport → String
  | ⟨_, source, owner, property⟩ =>
      s!"Content supplied by {source} to '{owner}.{property}' is forwarded in a cycle or beyond "

def finding (bound : Nat) (report : CycleReport) : Finding where
  kind := .cycleDepthExceeded
  span := report.span
  message := report.opening ++ s!"the depth bound of {bound}"
  details := [("source", .text report.source), ("owner", .text report.owner),
    ("property", .text report.property), ("bound", .number bound)]

/-- The bound does not decide which reports are the same. -/
theorem identity_finding_iff {bound : Nat} {report other : CycleReport} :
    (report.finding bound).identity = (other.finding bound).identity ↔
      report.span = other.span ∧ report.opening = other.opening := by
  simp only [Finding.identity, finding, Prod.mk.injEq, true_and, String.append_left_inj]

/-- Repeated reports are left out alike, whatever bound they print. -/
theorem firstsBy_finding (bound bound' : Nat) (reports : List CycleReport) :
    firstsBy Finding.identity [] (reports.map (finding bound')) =
      (firstsBy (Finding.identity ∘ finding bound) [] reports).map (finding bound') := by
  have hsame : ∀ report other : CycleReport,
      (Finding.identity ∘ finding bound') report = (Finding.identity ∘ finding bound') other ↔
        (Finding.identity ∘ finding bound) report = (Finding.identity ∘ finding bound) other := by
    intro report other
    exact identity_finding_iff.trans identity_finding_iff.symm
  rw [firstsBy_map]
  exact congrArg (List.map _) (firstsBy_congr_key hsame [] reports)

end CycleReport

namespace ActualGraph

def cycleReport (arena : Arena) (component : Nat) (group : SupplyGroup) :
    Except Arena.Fault CycleReport := do
  let source := (← arena.component component).name
  let owner := (← arena.component group.slot.owner).name
  return ⟨group.span, source, owner, group.slot.property⟩

theorem cycleFinding_eq_map (graph : ActualGraph) (arena : Arena) (component : Nat)
    (group : SupplyGroup) :
    graph.cycleFinding arena component group =
      (cycleReport arena component group).map (·.finding graph.bound) := by
  unfold cycleFinding cycleReport
  cases arena.component component with
  | error fault => rfl
  | ok source =>
      cases arena.component group.slot.owner with
      | error fault => rfl
      | ok owner => rfl

theorem cycleFindings_eq_map (graph : ActualGraph) (arena : Arena) :
    graph.cycleFindings arena =
      (graph.reportedGroups.mapM fun entry => cycleReport arena entry.1 entry.2).map
        (·.map (·.finding graph.bound)) := by
  rw [cycleFindings_eq_mapM, ← mapM_map_eq]
  simp only [cycleFinding_eq_map]

theorem cycleFindings_of_card_lt {usages : Usages} {bound bound' : Nat}
    (hbound : usages.forwardSlots.card < bound) (hbound' : usages.forwardSlots.card < bound')
    (arena : Arena) :
    ∃ reports : Except Arena.Fault (List CycleReport),
      (ofUsages bound usages).cycleFindings arena = reports.map (·.map (·.finding bound)) ∧
        (ofUsages bound' usages).cycleFindings arena = reports.map (·.map (·.finding bound')) := by
  have hresolve := resolveSlot_eq_of_card_lt hbound' hbound
  have hgroups : (ofUsages bound' usages).reportedGroups = (ofUsages bound usages).reportedGroups := by
    simp only [reportedGroups_eq_filter, resolve, ofUsages, hresolve]
  refine ⟨_, cycleFindings_eq_map _ arena, ?_⟩
  rw [cycleFindings_eq_map, hgroups]
  rfl

end ActualGraph

/-! ### What a comparison finds -/

def Config.withBound (config : Config) (bound : Nat) (hpos : 1 ≤ bound) : Config :=
  { config with depthBound := bound, depthBound_pos := hpos }

namespace Comparison

/-- The same comparison, where the bound is another one and the edges are what they were. -/
def withBound (comparison : Comparison) (bound : Nat) (hpos : 1 ≤ bound) : Comparison :=
  { comparison with
    config := comparison.config.withBound bound hpos
    actual := { comparison.actual with bound := bound } }

/-- All that is asked of the actual graph is answered with another bound as with its own. -/
structure AgreesAt (comparison : Comparison) (bound : Nat) (hpos : 1 ≤ bound) : Prop where
  resolve : (comparison.withBound bound hpos).actual.resolve = comparison.actual.resolve
  reaches : comparison.config.transitive = true → ∀ source key,
    (comparison.withBound bound hpos).actual.reaches source key =
      comparison.actual.reaches source key

namespace AgreesAt

variable {comparison : Comparison} {bound : Nat} {hpos : 1 ≤ bound}

theorem observed (hagrees : comparison.AgreesAt bound hpos) (component : Nat) (key : Key) :
    (comparison.withBound bound hpos).observed component key =
      comparison.observed component key := by
  unfold Comparison.observed
  by_cases htransitive : comparison.config.transitive = true
  · rw [hagrees.reaches htransitive]
    rfl
  · have htransitive' : ¬(comparison.withBound bound hpos).config.transitive = true := htransitive
    rw [if_neg htransitive, if_neg htransitive']
    rfl

theorem missingDeclarations (hagrees : comparison.AgreesAt bound hpos) (component : Component) :
    (comparison.withBound bound hpos).missingDeclarations component =
      comparison.missingDeclarations component := by
  have hedge : (comparison.withBound bound hpos).missingDeclaration? component =
      comparison.missingDeclaration? component := by
    funext edge
    unfold missingDeclaration?
    simp only [hagrees.resolve, hagrees.observed]
    rfl
  unfold Comparison.missingDeclarations
  rw [hedge]
  rfl

theorem consistency (hagrees : comparison.AgreesAt bound hpos) :
    (comparison.withBound bound hpos).consistency = comparison.consistency := by
  funext supplied target
  unfold Comparison.consistency
  by_cases htransitive : comparison.config.transitive = true
  · simp only [hagrees.reaches htransitive]
    rfl
  · have htransitive' : ¬(comparison.withBound bound hpos).config.transitive = true := htransitive
    rw [Bool.not_eq_true] at htransitive htransitive'
    simp only [htransitive, htransitive', Bool.not_false, if_true]

theorem suppliedContent (hagrees : comparison.AgreesAt bound hpos) (component : Component) :
    (comparison.withBound bound hpos).suppliedContent component =
      comparison.suppliedContent component := by
  have hslot : (comparison.withBound bound hpos).checkSlot = comparison.checkSlot := by
    funext group slot
    unfold checkSlot verdicts
    rw [hagrees.consistency]
    rfl
  have hslots : (comparison.withBound bound hpos).checkedSlots = comparison.checkedSlots := by
    funext group
    unfold checkedSlots
    rw [hagrees.resolve]
  unfold Comparison.suppliedContent
  rw [hslot, hslots]
  rfl

theorem componentFindings (hagrees : comparison.AgreesAt bound hpos) (component : Component) :
    (comparison.withBound bound hpos).componentFindings component =
      comparison.componentFindings component := by
  unfold Comparison.componentFindings
  rw [hagrees.missingDeclarations, hagrees.suppliedContent]
  rfl

end AgreesAt

theorem ofUsages_withBound {usages : Usages} {bound bound' : Nat} (config : Config) (arena : Arena)
    (declared : DeclaredGraph) (hbound : usages.forwardSlots.card < bound)
    (hbound' : usages.forwardSlots.card < bound') (hpos : 1 ≤ bound) (hpos' : 1 ≤ bound') :
    ofUsages (config.withBound bound' hpos') arena declared usages =
      (ofUsages (config.withBound bound hpos) arena declared usages).withBound bound' hpos' := by
  unfold ofUsages withBound Config.withBound
  simp only
  rw [ActualGraph.ofUsages_eq_of_card_lt hbound hbound']

theorem agreesAt_of_saturation_le {usages : Usages} {arena : Arena} {bound bound' : Nat}
    (config : Config) (declared : DeclaredGraph)
    (hstays : config.policy = .transitive → usages.StaysIn arena)
    (hbound : usages.saturation arena ≤ bound) (hbound' : usages.saturation arena ≤ bound')
    (hpos : 1 ≤ bound) (hpos' : 1 ≤ bound') :
    (ofUsages (config.withBound bound hpos) arena declared usages).AgreesAt bound' hpos' where
  resolve := by
    funext slot
    exact congrFun (resolveSlot_eq_of_card_lt (Usages.card_forwardSlots_lt hbound')
      (Usages.card_forwardSlots_lt hbound)) slot
  reaches htransitive source key := by
    have hstays := hstays (Config.transitive_eq_true_iff.1 htransitive)
    have hreaches : (ActualGraph.ofUsages bound' usages).reaches source key =
        (ActualGraph.ofUsages bound usages).reaches source key :=
      ActualGraph.reaches_eq_of_saturation_le hstays hbound' hbound
    rw [ActualGraph.ofUsages_eq_of_card_lt (Usages.card_forwardSlots_lt hbound)
      (Usages.card_forwardSlots_lt hbound')] at hreaches
    exact hreaches

theorem componentFindings_eq_of_saturation_le {usages : Usages} {arena : Arena}
    {bound bound' : Nat} (config : Config) (declared : DeclaredGraph)
    (hstays : config.policy = .transitive → usages.StaysIn arena)
    (hbound : usages.saturation arena ≤ bound) (hbound' : usages.saturation arena ≤ bound')
    (hpos : 1 ≤ bound) (hpos' : 1 ≤ bound') :
    (ofUsages (config.withBound bound' hpos') arena declared usages).componentFindings =
      (ofUsages (config.withBound bound hpos) arena declared usages).componentFindings := by
  funext component
  rw [ofUsages_withBound config arena declared (Usages.card_forwardSlots_lt hbound)
    (Usages.card_forwardSlots_lt hbound') hpos hpos']
  exact (agreesAt_of_saturation_le config declared hstays hbound hbound' hpos hpos').componentFindings
    component

theorem kind_ne_of_mem_componentFindings {comparison : Comparison} {component : Component}
    {finding : Finding} (hmem : finding ∈ comparison.componentFindings component) :
    finding.kind ≠ .cycleDepthExceeded := by
  rcases origin_of_mem_componentFindings hmem with hkind | ⟨hkind, -⟩ | ⟨hkind | hkind, -⟩
  all_goals simp [hkind]

theorem filter_findings_ne (comparison : Comparison) (bound : Nat) (earlier : List Finding)
    (reports : List CycleReport) :
    (comparison.findings (earlier ++ reports.map (·.finding bound))).filter
        (·.kind ≠ .cycleDepthExceeded) =
      Finding.sort (earlier.filter (·.kind ≠ .cycleDepthExceeded) ++
        (comparison.arena.components.flatMap comparison.componentFindings).filter
          (·.kind ≠ .cycleDepthExceeded)) := by
  have hreports : (reports.map (·.finding bound)).filter (·.kind ≠ .cycleDepthExceeded) = [] := by
    simp [List.filter_eq_nil_iff, CycleReport.finding]
  have hsort := Finding.filter_sort (fun kind => kind ≠ .cycleDepthExceeded)
    (earlier ++ reports.map (·.finding bound) ++
      comparison.arena.components.flatMap comparison.componentFindings)
  rw [findings, hsort, List.filter_append, List.filter_append, hreports, List.append_nil]

/-- Of the reports of endless forwarding each is listed once, and which they are does not depend on
the bound that they print. -/
theorem filter_findings_cycle_perm (comparison : Comparison) (bound base : Nat)
    {earlier : List Finding}
    (hearlier : ∀ finding ∈ earlier, finding.kind ≠ .cycleDepthExceeded)
    (reports : List CycleReport) :
    ((comparison.findings (earlier ++ reports.map (·.finding bound))).filter
        (·.kind = .cycleDepthExceeded)).Perm
      ((firstsBy (Finding.identity ∘ CycleReport.finding base) [] reports).map
        (·.finding bound)) := by
  have hnone : earlier.filter (·.kind = .cycleDepthExceeded) = [] := by
    simpa [List.filter_eq_nil_iff] using hearlier
  have hreports : (reports.map (·.finding bound)).filter (·.kind = .cycleDepthExceeded) =
      reports.map (·.finding bound) := by
    simp [List.filter_eq_self, CycleReport.finding]
  have hcomponents : (comparison.arena.components.flatMap comparison.componentFindings).filter
      (·.kind = .cycleDepthExceeded) = [] := by
    rw [List.filter_eq_nil_iff]
    intro finding hmem
    obtain ⟨component, -, hmem⟩ := List.mem_flatMap.1 hmem
    simpa using kind_ne_of_mem_componentFindings hmem
  rw [findings, Finding.filter_kind_sort, List.filter_append, List.filter_append, hnone, hreports,
    hcomponents, List.nil_append, List.append_nil, ← CycleReport.firstsBy_finding]
  exact sortBy_perm _ _

end Comparison

/-- The bound saturates. Let it be greater than the number of slots that content is forwarded to and
not less than the number of components. Then every slot is resolved as with any other such bound,
and exceeds the bound exactly if content comes from it to a cycle; the edges and the doubts are the
same. If the components that usages speak of are those of the arena, every search has the same
answer, and stays open only for a component that it meets and that is uncertain. A report, whose
findings rest on the search under the transitive policy only, differs in the bound that it prints
for endless forwarding and in nothing else. -/
theorem bound_saturates (arena : Arena) (declared : DeclaredGraph) (usages : Usages)
    (bound bound' : Nat) (hbound : usages.saturation arena ≤ bound)
    (hbound' : usages.saturation arena ≤ bound') :
    let graph := ActualGraph.ofUsages bound usages
    let graph' := ActualGraph.ofUsages bound' usages
    (∀ slot, graph.resolve slot = graph'.resolve slot ∧
      ((graph.resolve slot).exceeded = true ↔
        ∃ n last m, Steps (Forwards usages) n slot last ∧
          Steps (Forwards usages) (m + 1) last last)) ∧
    (graph.edges = graph'.edges ∧ graph.uncertain = graph'.uncertain) ∧
    (usages.StaysIn arena → ∀ source key,
      graph.reaches source key = graph'.reaches source key ∧
        (graph.reaches source key = .ok .incomplete →
          ∃ n < bound, ∃ component, Steps graph.Leads n (some source) (some component) ∧
            graph.isUncertain component = true)) ∧
    ∀ config : Config, (config.policy = .transitive → usages.StaysIn arena) →
      let comparison := Comparison.ofUsages
        (config.withBound bound (Usages.one_le_of_saturation_le hbound)) arena declared usages
      let comparison' := Comparison.ofUsages
        (config.withBound bound' (Usages.one_le_of_saturation_le hbound')) arena declared usages
      (∀ component, comparison.componentFindings component =
        comparison'.componentFindings component) ∧
      ((∃ fault, graph.cycleFindings arena = .error fault ∧
          graph'.cycleFindings arena = .error fault) ∨
        ∃ reports : List CycleReport,
          graph.cycleFindings arena = .ok (reports.map (·.finding bound)) ∧
          graph'.cycleFindings arena = .ok (reports.map (·.finding bound')) ∧
          ∀ earlier,
            let report := comparison.findings (earlier ++ reports.map (·.finding bound))
            let report' := comparison'.findings (earlier ++ reports.map (·.finding bound'))
            report.filter (·.kind ≠ .cycleDepthExceeded) =
                report'.filter (·.kind ≠ .cycleDepthExceeded) ∧
              ((∀ finding ∈ earlier, finding.kind ≠ .cycleDepthExceeded) →
                ∃ distinct : List CycleReport,
                  (report.filter (·.kind = .cycleDepthExceeded)).Perm
                    (distinct.map (·.finding bound)) ∧
                  (report'.filter (·.kind = .cycleDepthExceeded)).Perm
                    (distinct.map (·.finding bound')))) := by
  have hcard := Usages.card_forwardSlots_lt hbound
  have hcard' := Usages.card_forwardSlots_lt hbound'
  intro graph graph'
  refine ⟨?_, ?_, ?_, ?_⟩
  · intro slot
    exact ⟨congrFun (resolveSlot_eq_of_card_lt hcard hcard') slot,
      resolveSlot_exceeded_iff_cycle hcard⟩
  · have hgraph : graph' = { graph with bound := bound' } :=
      ActualGraph.ofUsages_eq_of_card_lt hcard hcard'
    rw [hgraph]
    exact ⟨rfl, rfl⟩
  · intro hstays source key
    exact ⟨ActualGraph.reaches_eq_of_saturation_le hstays hbound hbound',
      ActualGraph.exists_uncertain_of_incomplete hstays hbound⟩
  · intro config hstays comparison comparison'
    have hcomponents : comparison'.componentFindings = comparison.componentFindings :=
      Comparison.componentFindings_eq_of_saturation_le config declared hstays hbound hbound' _ _
    refine ⟨fun component => (congrFun hcomponents component).symm, ?_⟩
    obtain ⟨reports, hreports, hreports'⟩ :=
      ActualGraph.cycleFindings_of_card_lt hcard hcard' arena
    cases reports with
    | error fault => exact .inl ⟨fault, hreports, hreports'⟩
    | ok reports =>
        refine .inr ⟨reports, hreports, hreports', ?_⟩
        intro earlier report report'
        constructor
        · rw [Comparison.filter_findings_ne, Comparison.filter_findings_ne, hcomponents]
          rfl
        · intro hearlier
          exact ⟨_, comparison.filter_findings_cycle_perm bound bound hearlier reports,
            comparison'.filter_findings_cycle_perm bound' bound hearlier reports⟩

/-- With four components and one slot that content is forwarded to, a bound of four is as good as
one that is larger than any program. -/
theorem relay_saturated :
    relayUsages.saturation relayArena = 4 ∧ relayUsages.StaysIn relayArena ∧
      (ActualGraph.ofUsages (10 ^ 30) relayUsages).resolve ⟨1, "children"⟩ =
        ⟨some 2, false, false, [⟨1, "children"⟩, ⟨2, "children"⟩]⟩ ∧
      (ActualGraph.ofUsages (10 ^ 30) relayUsages).reaches 0 (.component (some 3)) =
        .ok .reached ∧
      (ActualGraph.ofUsages (10 ^ 30) relayUsages).reaches 3 (.component (some 0)) =
        .ok .notReached := by
  have hsaturation : relayUsages.saturation relayArena = 4 := by decide
  have hstays : relayUsages.StaysIn relayArena := by
    constructor <;> simp [relayUsages, relayArena, Target.component]
  obtain ⟨hresolve, -, hreaches, -⟩ := bound_saturates relayArena relayDeclared relayUsages 4
    (10 ^ 30) hsaturation.le (hsaturation.trans_le (by decide))
  refine ⟨hsaturation, hstays, ?_, ?_, ?_⟩
  · rw [← (hresolve ⟨1, "children"⟩).1]
    decide
  · rw [← (hreaches hstays 0 (.component (some 3))).1]
    decide
  · rw [← (hreaches hstays 3 (.component (some 0))).1]
    decide

/-- `Page` instantiates a component that has no id. -/
def ghostUsages : Usages :=
  [{ component := 0, walked := true, uses := [], groups := []
     direct := [⟨⟨.component, "Ghost", none⟩, ⟨"ghost.tsx", 2, 5, 0, 0⟩⟩] }]

def ghostArena : Arena :=
  (Arena.empty.addComponent "Page" ⟨"ghost.tsx", 1, 1, 0, 0⟩ .functional).2

/-- A component without id is none of the arena, and the search takes a round more to meet it. -/
theorem ghost_left_open :
    ghostUsages.saturation ghostArena = 1 ∧
      (ActualGraph.ofUsages 1 ghostUsages).uncertain = [] ∧
      (ActualGraph.ofUsages 1 ghostUsages).reaches 0 (.intrinsic "p") = .ok .incomplete ∧
      (ActualGraph.ofUsages 2 ghostUsages).reaches 0 (.intrinsic "p") = .ok .notReached := by
  decide

end RenderAudit
