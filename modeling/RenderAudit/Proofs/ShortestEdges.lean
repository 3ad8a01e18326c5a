import Mathlib.Data.List.Induction
import RenderAudit.Proofs.EdgeSelection

/-!
# The kept edge is the first of the shortest

Each candidate is entered on its own, and may displace the one kept for its target. What is left for
a target in the end does not depend on the way there: it is minimal in precedence among all
candidates for that target, and the first of those that are. The edges of a component are then
listed by place and target, if they have an order, and since no two have the same target, no two are
level.
-/

namespace RenderAudit

namespace ActualEdge

instance : Std.TransCmp precedence :=
  inferInstanceAs (Std.TransCmp (compareLex (compareOn fun edge : ActualEdge => edge.path.depth)
    (compareLex (compareOn (·.span.file))
      (compareLex (compareOn (·.span.line)) (compareOn (·.span.column))))))

/-! ### The first of the best candidates -/

/-- `edge` is the first of the best candidates for its target: it precedes those that were met
before it, and none that was met later precedes it. -/
def FirstBest (candidates : List ActualEdge) (edge : ActualEdge) : Prop :=
  ∃ before after, candidates = before ++ edge :: after ∧
    (∀ other ∈ before, other.target.key = edge.target.key → precedence edge other = .lt) ∧
    ∀ other ∈ after, other.target.key = edge.target.key → (precedence edge other).isLE = true

namespace FirstBest

variable {candidates : List ActualEdge} {edge other : ActualEdge}

theorem minimal (hbest : FirstBest candidates edge) (hmem : other ∈ candidates)
    (hkey : other.target.key = edge.target.key) : (precedence edge other).isLE = true := by
  obtain ⟨before, after, rfl, hbefore, hafter⟩ := hbest
  rcases List.mem_append.1 hmem with hmem | hmem
  · rw [hbefore other hmem hkey]
    rfl
  · rcases List.mem_cons.1 hmem with rfl | hmem
    · have hself : precedence other other = .eq := Std.ReflCmp.compare_self
      rw [hself]
      rfl
    · exact hafter other hmem hkey

/-- A further candidate that does not precede the best one changes nothing. -/
theorem concat (hbest : FirstBest candidates edge)
    (hlast : other.target.key = edge.target.key → (precedence edge other).isLE = true) :
    FirstBest (candidates ++ [other]) edge := by
  obtain ⟨before, after, rfl, hbefore, hafter⟩ := hbest
  refine ⟨before, after ++ [other], by simp, hbefore, ?_⟩
  intro candidate hmem hkey
  rcases List.mem_append.1 hmem with hmem | hmem
  · exact hafter candidate hmem hkey
  · rw [List.mem_singleton.1 hmem] at hkey ⊢
    exact hlast hkey

/-- A further candidate that precedes all others for its target is the best one. -/
theorem last (hall : ∀ other ∈ candidates, other.target.key = edge.target.key →
    precedence edge other = .lt) : FirstBest (candidates ++ [edge]) edge :=
  ⟨candidates, [], rfl, hall, fun _ hmem => absurd hmem List.not_mem_nil⟩

theorem unique (hbest : FirstBest candidates edge) (hother : FirstBest candidates other)
    (hkey : other.target.key = edge.target.key) : edge = other := by
  obtain ⟨before, after, hsplit, hbefore, hafter⟩ := hbest
  obtain ⟨before', after', hsplit', hbefore', hafter'⟩ := hother
  rw [hsplit] at hsplit'
  -- Whichever of the two is met first would have to precede the other and be preceded by it.
  rcases List.append_eq_append_iff.1 hsplit' with ⟨between, rfl, hrest⟩ | ⟨between, rfl, hrest⟩
  · cases between with
    | nil => exact (List.cons.inj hrest).1
    | cons first between =>
        obtain ⟨rfl, rfl⟩ := List.cons.inj hrest
        have hlt := hbefore' edge (by simp) hkey.symm
        have hle := hafter other (by simp) hkey
        exact absurd hlt (Std.OrientedCmp.not_lt_of_isLE hle)
  · cases between with
    | nil => exact (List.cons.inj hrest).1.symm
    | cons first between =>
        obtain ⟨rfl, rfl⟩ := List.cons.inj hrest
        have hlt := hbefore other (by simp) hkey
        have hle := hafter' edge (by simp) hkey.symm
        exact absurd hlt (Std.OrientedCmp.not_lt_of_isLE hle)

end FirstBest

theorem select_concat (candidates : List ActualEdge) (edge : ActualEdge) :
    select (candidates ++ [edge]) = edge.keep (select candidates) := by
  simp [select]

theorem mem_keys_select {candidates : List ActualEdge} {key : Key} :
    key ∈ (select candidates).map (·.target.key) ↔ key ∈ candidates.map (·.target.key) := by
  induction candidates using List.reverseRecOn with
  | nil => rfl
  | append_singleton candidates edge ih =>
      rw [select_concat, keys_keep, List.map_append, List.mem_append, ← ih]
      split
      · next hpresent =>
        constructor
        · exact Or.inl
        · rintro (hmem | hlast)
          · exact hmem
          · rw [List.map_singleton, List.mem_singleton] at hlast
            exact hlast ▸ hpresent
      · rw [List.mem_append, List.map_singleton]

/-- Entering one candidate after the other leaves the first of the best ones. -/
theorem firstBest_of_mem_select {candidates : List ActualEdge} {edge : ActualEdge}
    (hmem : edge ∈ select candidates) : FirstBest candidates edge := by
  induction candidates using List.reverseRecOn generalizing edge with
  | nil => cases hmem
  | append_singleton candidates last ih =>
      have hnodup := nodup_keys_select (candidates ++ [last])
      rw [mem_iff_kept?_eq_some hnodup, select_concat, kept?_keep] at hmem
      by_cases hkey : last.target.key = edge.target.key
      · rw [if_pos hkey, Option.some.injEq] at hmem
        cases hkept : kept? edge.target.key (select candidates) with
        | none =>
            rw [hkept] at hmem
            obtain rfl : last = edge := hmem
            apply FirstBest.last
            intro other hother hsame
            have hpresent : last.target.key ∈ (select candidates).map (·.target.key) :=
              mem_keys_select.2 (hsame ▸ List.mem_map_of_mem hother)
            obtain ⟨current, hcurrent, hcurrentKey⟩ := List.mem_map.1 hpresent
            exact absurd hcurrentKey (by simpa using List.find?_eq_none.1 hkept current hcurrent)
        | some current =>
            have hcurrent := ih (List.mem_of_find?_eq_some hkept)
            have hcurrentKey : current.target.key = edge.target.key := by
              simpa using List.find?_some hkept
            rw [hkept, preferred_some] at hmem
            split at hmem
            · next hprecedes =>
              subst hmem
              apply FirstBest.last
              intro other hother hsame
              exact Std.TransCmp.lt_of_lt_of_isLE (Ordering.isLT_iff_eq_lt.1 hprecedes)
                (hcurrent.minimal hother (hsame.trans hcurrentKey.symm))
            · next hkeeps =>
              subst hmem
              apply hcurrent.concat
              intro _
              have hswap : precedence current last = (precedence last current).swap :=
                Std.OrientedCmp.eq_swap
              rw [hswap]
              cases hcompare : precedence last current with
              | lt => simp [hcompare] at hkeeps
              | eq => rfl
              | gt => rfl
      · rw [if_neg hkey] at hmem
        exact (ih (List.mem_of_find?_eq_some hmem)).concat fun hsame => absurd hsame hkey

theorem mem_select_iff_firstBest {candidates : List ActualEdge} {edge : ActualEdge} :
    edge ∈ select candidates ↔ FirstBest candidates edge := by
  constructor
  · exact firstBest_of_mem_select
  · intro hbest
    have hmem : edge ∈ candidates := by
      obtain ⟨before, after, rfl, -, -⟩ := hbest
      simp
    obtain ⟨kept, hkept, hkey⟩ :=
      List.mem_map.1 (mem_keys_select.2 (List.mem_map_of_mem hmem))
    rw [hbest.unique (firstBest_of_mem_select hkept) hkey]
    exact hkept

end ActualEdge

/-! ### The edges of a component -/

namespace ComponentUsage

variable {usages : Usages} {bound : Nat} {usage : ComponentUsage}

theorem edges_of_walked (hwalked : usage.walked = true) :
    usage.edges usages bound = ActualEdge.select (usage.candidates usages bound) :=
  if_pos hwalked

theorem nodup_keys_edges : ((usage.edges usages bound).map (·.target.key)).Nodup := by
  by_cases hwalked : usage.walked = true
  · rw [edges_of_walked hwalked]
    exact ActualEdge.nodup_keys_select _
  · simp [edges, hwalked]

/-- The targets that a component can have edges to. -/
theorem mem_keys_candidates_iff {key : Key} :
    key ∈ (usage.candidates usages bound).map (·.target.key) ↔
      (∃ instantiation ∈ usage.direct, instantiation.target.key = key) ∨
        ∃ group ∈ usage.groups, ∃ depth, (resolveSlot usages bound group.slot).depth = some depth ∧
          ∃ member ∈ group.members, member.target.key = key := by
  rw [List.mem_map]
  constructor
  · rintro ⟨edge, hedge, rfl⟩
    rcases mem_candidates_iff.1 hedge with
      ⟨instantiation, hdirect, rfl⟩ | ⟨group, hgroup, depth, hdepth, member, hmember, rfl⟩
    · exact .inl ⟨instantiation, hdirect, rfl⟩
    · exact .inr ⟨group, hgroup, depth, hdepth, member, hmember, rfl⟩
  · rintro (⟨instantiation, hdirect, rfl⟩ | ⟨group, hgroup, depth, hdepth, member, hmember, rfl⟩)
    · exact ⟨_, mem_candidates_iff.2 (.inl ⟨instantiation, hdirect, rfl⟩), rfl⟩
    · exact ⟨_, mem_candidates_iff.2 (.inr ⟨group, hgroup, depth, hdepth, member, hmember, rfl⟩),
        rfl⟩

theorem mem_keys_edges_iff {key : Key} :
    key ∈ (usage.edges usages bound).map (·.target.key) ↔
      usage.walked = true ∧ key ∈ (usage.candidates usages bound).map (·.target.key) := by
  by_cases hwalked : usage.walked = true
  · rw [edges_of_walked hwalked, ActualEdge.mem_keys_select]
    simp [hwalked]
  · simp [edges, hwalked]

end ComponentUsage

/-- The actual graph has one edge from a component to each target that the component instantiates
itself or supplies to a slot where it is rendered, and none if the component was not traced. That
edge is the first of the best ways there: instantiations have depth zero, members of a group the
depth at which its slot is rendered, and of equal depths the earlier place counts. The edges are
listed once each, by ascending place and target, unless two of them clash: then there is no list. -/
theorem edgesFrom_first_of_shortest (bound : Nat) (usages : Usages) (component : Nat) :
    let graph := ActualGraph.ofUsages bound usages
    let edges := graph.edgesOf component
    (edges.map (·.target.key)).Nodup ∧
    (∀ key, key ∈ edges.map (·.target.key) ↔
      ∃ usage, usages.get? component = some usage ∧ usage.walked = true ∧
        ((∃ instantiation ∈ usage.direct, instantiation.target.key = key) ∨
          ∃ group ∈ usage.groups, ∃ depth,
            (resolveSlot usages bound group.slot).depth = some depth ∧
              ∃ member ∈ group.members, member.target.key = key)) ∧
    (∀ edge, edge ∈ edges ↔
      ∃ usage, usages.get? component = some usage ∧ usage.walked = true ∧
        ActualEdge.FirstBest (usage.candidates usages bound) edge) ∧
    (∀ (usage : ComponentUsage) edge, edge ∈ usage.candidates usages bound ↔
      (∃ instantiation ∈ usage.direct, usage.directEdge instantiation = edge) ∨
        ∃ group ∈ usage.groups, ∃ depth, (resolveSlot usages bound group.slot).depth = some depth ∧
          ∃ member ∈ group.members, usage.suppliedEdge group depth member = edge) ∧
    ((∃ listed, graph.edgesFrom component = .ok listed) ↔
      ∀ first ∈ edges, ∀ second ∈ edges, ¬ActualEdge.Clash first second) ∧
    ∀ listed, graph.edgesFrom component = .ok listed →
      listed.Perm edges ∧
        listed.Pairwise fun first second => ActualEdge.listing first second = .ok .lt := by
  intro graph edges
  have hedges : edges = ((usages.get? component).map (·.edges usages bound)).getD [] :=
    ActualGraph.edgesOf_ofUsages
  have hnodup : (edges.map (·.target.key)).Nodup := by
    rw [hedges]
    cases usages.get? component with
    | none => exact List.nodup_nil
    | some usage => exact ComponentUsage.nodup_keys_edges
  refine ⟨hnodup, ?_, ?_, ?_, ActualGraph.listable_iff, ?_⟩
  · intro key
    rw [hedges]
    cases usages.get? component with
    | none => simp
    | some usage =>
        simp only [Option.map_some, Option.getD_some, Option.some.injEq, exists_eq_left']
        rw [← ComponentUsage.mem_keys_candidates_iff, ← ComponentUsage.mem_keys_edges_iff]
  · intro edge
    rw [hedges]
    cases usages.get? component with
    | none => simp
    | some usage =>
        simp only [Option.map_some, Option.getD_some, Option.some.injEq, exists_eq_left']
        rw [ComponentUsage.mem_edges_iff, ActualEdge.mem_select_iff_firstBest]
  · intro usage edge
    exact ComponentUsage.mem_candidates_iff
  · intro listed hlisted
    exact ⟨ActualGraph.perm_of_edgesFrom hlisted, ActualGraph.pairwise_of_edgesFrom hnodup hlisted⟩

/-- `Page` renders a `Card` and, at the same place, a component without an id. -/
def twinUsages : Usages :=
  [⟨0, true, [⟨⟨.component, "Ghost", none⟩, ⟨"twin.tsx", 3, 5, 0, 0⟩⟩,
    ⟨.component 1 "Card", ⟨"twin.tsx", 3, 5, 0, 0⟩⟩], [], []⟩]

/-- Both edges of `Page` are there, and they are not listed. -/
theorem twin_edges_not_listed :
    ((ActualGraph.ofUsages 8 twinUsages).edgesOf 0).map (·.target.key) =
        [.component none, .component (some 1)] ∧
      (ActualGraph.ofUsages 8 twinUsages).edgesFrom 0 = .error .missingSecond := by
  decide

end RenderAudit
