import RenderAudit.Proofs.Search

/-!
# Paths over actual edges

What the search answers, in terms of paths that are written out as lists of edges. The rounds of the
search, what it has seen and the moment at which it stops appear in none of the conditions.
-/

namespace RenderAudit.ActualGraph

/-- The edges follow one another: each leaves the component that the one before it leads to. -/
inductive Trail (graph : ActualGraph) : Option Nat → List ActualEdge → Option Nat → Prop
  | nil (source : Option Nat) : graph.Trail source [] source
  | cons {component : Nat} {edge : ActualEdge} {rest : List ActualEdge} {last : Option Nat}
      (hedge : edge ∈ graph.edgesOf component) (hkind : edge.target.kind = .component)
      (hrest : graph.Trail edge.target.ref rest last) :
      graph.Trail (some component) (edge :: rest) last

/-- The path leaves `source`, passes through components only, and ends in an edge with the key. -/
def PathTo (graph : ActualGraph) (source : Nat) (key : Key) (path : List ActualEdge) : Prop :=
  ∃ before component last, path = before ++ [last] ∧
    graph.Trail (some source) before (some component) ∧
    last ∈ graph.edgesOf component ∧ last.target.key = key

variable {graph : ActualGraph} {source : Nat} {key : Key}

theorem steps_leads_iff_trail {n : Nat} {first last : Option Nat} :
    Steps graph.Leads n first last ↔
      ∃ edges, graph.Trail first edges last ∧ edges.length = n := by
  induction n generalizing first with
  | zero =>
      constructor
      · intro hsteps
        cases hsteps
        exact ⟨[], .nil _, rfl⟩
      · rintro ⟨edges, htrail, hlength⟩
        cases htrail with
        | nil => rfl
        | cons hedge hkind hrest => simp at hlength
  | succ n ih =>
      constructor
      · rintro ⟨next, ⟨component, rfl, edge, hedge, hkind, rfl⟩, hrest⟩
        obtain ⟨rest, htrail, rfl⟩ := ih.1 hrest
        exact ⟨edge :: rest, .cons hedge hkind htrail, rfl⟩
      · rintro ⟨edges, htrail, hlength⟩
        cases htrail with
        | nil => simp at hlength
        | @cons component edge rest last hedge hkind hrest =>
            have hrestLength : rest.length = n := by simpa using hlength
            have hleads : graph.Leads (some component) edge.target.ref :=
              ⟨component, rfl, edge, hedge, hkind, rfl⟩
            exact ⟨edge.target.ref, hleads, ih.2 ⟨rest, hrest, hrestLength⟩⟩

theorem finds_iff_pathTo {limit : Nat} :
    graph.Finds key (some source) limit ↔
      ∃ path, graph.PathTo source key path ∧ path.length ≤ limit := by
  constructor
  · rintro ⟨n, hn, component, hsteps, hedge⟩
    obtain ⟨before, htrail, rfl⟩ := steps_leads_iff_trail.1 hsteps
    obtain ⟨last, hlast, hkey⟩ := hasEdge_iff.1 hedge
    refine ⟨before ++ [last], ⟨before, component, last, rfl, htrail, hlast, hkey⟩, ?_⟩
    rw [List.length_append, List.length_singleton]
    omega
  · rintro ⟨path, ⟨before, component, last, rfl, htrail, hlast, hkey⟩, hlength⟩
    rw [List.length_append, List.length_singleton] at hlength
    have hsteps : Steps graph.Leads before.length (some source) (some component) :=
      steps_leads_iff_trail.2 ⟨before, htrail, rfl⟩
    exact ⟨before.length, by omega, component, hsteps, hasEdge_iff.2 ⟨last, hlast, hkey⟩⟩

/-- No path ends in an edge with the key, and what paths lead to is near and certain. -/
structure RulesOut (graph : ActualGraph) (source : Nat) (key : Key) : Prop where
  missed : ∀ path, ¬graph.PathTo source key path
  near : ∀ edges node, graph.Trail (some source) edges node →
    ∃ short, graph.Trail (some source) short node ∧ short.length + 1 ≤ graph.bound
  certain : ∀ edges component, graph.Trail (some source) edges (some component) →
    graph.isUncertain component = false

theorem excludes_iff_rulesOut :
    graph.Excludes key (some source) graph.bound ↔ graph.RulesOut source key := by
  constructor
  · intro hexcludes
    have htrails : ∀ edges node, graph.Trail (some source) edges node →
        (∃ m < graph.bound, Steps graph.Leads m (some source) node) ∧
          ∀ component, node = some component →
            graph.hasEdge component key = false ∧ graph.isUncertain component = false := by
      intro edges node htrail
      exact hexcludes edges.length node (steps_leads_iff_trail.2 ⟨edges, htrail, rfl⟩)
    refine ⟨?_, ?_, ?_⟩
    · rintro path ⟨before, component, last, rfl, htrail, hlast, hkey⟩
      have hmissed := ((htrails before _ htrail).2 component rfl).1
      rw [hasEdge_iff.2 ⟨last, hlast, hkey⟩] at hmissed
      cases hmissed
    · intro edges node htrail
      obtain ⟨m, hm, hsteps⟩ := (htrails edges node htrail).1
      obtain ⟨short, hshort, rfl⟩ := steps_leads_iff_trail.1 hsteps
      exact ⟨short, hshort, hm⟩
    · intro edges component htrail
      exact ((htrails edges _ htrail).2 component rfl).2
  · intro hrules n node hsteps
    obtain ⟨edges, htrail, -⟩ := steps_leads_iff_trail.1 hsteps
    obtain ⟨short, hshort, hlength⟩ := hrules.near edges node htrail
    refine ⟨⟨short.length, hlength, steps_leads_iff_trail.2 ⟨short, hshort, rfl⟩⟩, ?_⟩
    rintro component rfl
    refine ⟨?_, hrules.certain edges component htrail⟩
    rw [← Bool.not_eq_true]
    intro hedge
    obtain ⟨last, hlast, hkey⟩ := hasEdge_iff.1 hedge
    exact hrules.missed (edges ++ [last]) ⟨edges, component, last, rfl, htrail, hlast, hkey⟩

/-! ### Edges that have no order -/

/-- No two edges of the component clash, so that they can be listed. -/
def Orderly (graph : ActualGraph) (component : Nat) : Prop :=
  ∀ first ∈ graph.edgesOf component, ∀ second ∈ graph.edgesOf component,
    ¬ActualEdge.Clash first second

/-- All components are orderly that fewer than `limit` edges lead to. -/
def OrderlyWithin (graph : ActualGraph) (source limit : Nat) : Prop :=
  ∀ edges component, graph.Trail (some source) edges (some component) → edges.length < limit →
    graph.Orderly component

theorem listableWithin_iff_orderlyWithin {limit : Nat} :
    graph.ListableWithin (some source) limit ↔ graph.OrderlyWithin source limit := by
  constructor
  · intro hlistable edges component htrail hlength
    exact listable_iff.1 (hlistable edges.length hlength component
      (steps_leads_iff_trail.2 ⟨edges, htrail, rfl⟩))
  · intro horderly n hn component hsteps
    obtain ⟨edges, htrail, rfl⟩ := steps_leads_iff_trail.1 hsteps
    exact listable_iff.2 (horderly edges component htrail hn)

/-- The answers of a search that meets orderly components only. -/
theorem reaches_iff_of_orderlyWithin (horderly : graph.OrderlyWithin source graph.bound) :
    (graph.reaches source key = .ok .reached ↔
      ∃ path, graph.PathTo source key path ∧ path.length ≤ graph.bound) ∧
    (graph.reaches source key = .ok .notReached ↔ graph.RulesOut source key) ∧
    (graph.reaches source key = .ok .incomplete ↔
      (¬∃ path, graph.PathTo source key path ∧ path.length ≤ graph.bound) ∧
        ¬graph.RulesOut source key) := by
  have hlistable := listableWithin_iff_orderlyWithin.2 horderly
  have hreached : graph.reaches source key = .ok .reached ↔
      ∃ path, graph.PathTo source key path ∧ path.length ≤ graph.bound :=
    (reaches_eq_reached_iff hlistable).trans finds_iff_pathTo
  have hnotReached : graph.reaches source key = .ok .notReached ↔ graph.RulesOut source key := by
    rw [reaches_eq_notReached_iff, and_iff_left hlistable, excludes_iff_rulesOut]
  refine ⟨hreached, hnotReached, ?_⟩
  rw [← hreached, ← hnotReached]
  obtain ⟨answer, hanswer⟩ := exists_reaches_eq_ok key hlistable
  rw [hanswer]
  cases answer <;> simp

/-- A search that comes to edges without an order, `limit` steps away at the nearest, is decided
there at the latest. -/
theorem reached_of_not_orderly {limit : Nat} (hdisorder : ¬graph.OrderlyWithin source (limit + 1))
    (hreaches : graph.reaches source key = .ok .reached) :
    ∃ before component last, graph.Trail (some source) before (some component) ∧
      before.length ≤ limit ∧ graph.Orderly component ∧
      last ∈ graph.edgesOf component ∧ last.target.key = key := by
  obtain ⟨n, -, ⟨component, hsteps, hlistable, hedge⟩, hnearer⟩ := exists_found_of_reaches hreaches
  have hn : n ≤ limit := by
    by_contra hfar
    refine hdisorder (listableWithin_iff_orderlyWithin.1 ?_)
    exact fun m hm => hnearer m (by omega)
  obtain ⟨before, htrail, rfl⟩ := steps_leads_iff_trail.1 hsteps
  obtain ⟨last, hlast, hkey⟩ := hasEdge_iff.1 hedge
  exact ⟨before, component, last, htrail, hn, listable_iff.1 hlistable, hlast, hkey⟩

theorem exists_nearest_disorder {limit : Nat} (hdisorder : ¬graph.OrderlyWithin source limit) :
    ∃ nearest < limit, graph.OrderlyWithin source nearest ∧
      ¬graph.OrderlyWithin source (nearest + 1) := by
  induction limit with
  | zero => exact absurd (fun _ _ _ hlength => absurd hlength (Nat.not_lt_zero _)) hdisorder
  | succ limit ih =>
      by_cases horderly : graph.OrderlyWithin source limit
      · exact ⟨limit, Nat.lt_succ_self limit, horderly, hdisorder⟩
      · obtain ⟨nearest, hlt, hnearest⟩ := ih horderly
        exact ⟨nearest, Nat.lt_succ_of_lt hlt, hnearest⟩

/-- The answers of the search are exact. As long as it meets orderly components only, a target is
reached if a path of at most as many edges as the bound ends in it. It is said not to be reached if
no path of any length ends in it, every component that paths lead to is nearer than the bound, and
none of them is uncertain. In all other cases the search is incomplete.

Otherwise some component within the search is not orderly, and the first of them is `nearest` edges
away. Then the search fails, or it has found the target before. It does find a target that a path of
at most `nearest` edges ends in, and it finds none unless an orderly component that no more than
`nearest` edges lead to has an edge with the key. -/
theorem reaches_exact (graph : ActualGraph) (source : Nat) (key : Key) :
    (graph.OrderlyWithin source graph.bound →
      (graph.reaches source key = .ok .reached ↔
        ∃ path, graph.PathTo source key path ∧ path.length ≤ graph.bound) ∧
      (graph.reaches source key = .ok .notReached ↔ graph.RulesOut source key) ∧
      (graph.reaches source key = .ok .incomplete ↔
        (¬∃ path, graph.PathTo source key path ∧ path.length ≤ graph.bound) ∧
          ¬graph.RulesOut source key)) ∧
    (¬graph.OrderlyWithin source graph.bound →
      ((∃ fault, graph.reaches source key = .error fault) ∨
        graph.reaches source key = .ok .reached) ∧
      ∃ nearest < graph.bound, graph.OrderlyWithin source nearest ∧
        ¬graph.OrderlyWithin source (nearest + 1) ∧
        ((∃ path, graph.PathTo source key path ∧ path.length ≤ nearest) →
          graph.reaches source key = .ok .reached) ∧
        (graph.reaches source key = .ok .reached →
          ∃ before component last, graph.Trail (some source) before (some component) ∧
            before.length ≤ nearest ∧ graph.Orderly component ∧
            last ∈ graph.edgesOf component ∧ last.target.key = key)) := by
  refine ⟨reaches_iff_of_orderlyWithin, ?_⟩
  intro hdisorder
  refine ⟨reaches_of_not_listable (mt listableWithin_iff_orderlyWithin.1 hdisorder), ?_⟩
  obtain ⟨nearest, hlt, horderly, hnearest⟩ := exists_nearest_disorder hdisorder
  refine ⟨nearest, hlt, horderly, hnearest, ?_, reached_of_not_orderly hnearest⟩
  intro hpath
  exact reaches_eq_reached_of_finds hlt.le (listableWithin_iff_orderlyWithin.2 horderly)
    (finds_iff_pathTo.2 hpath)

/-- `Page` renders a `Card`, and that renders a `Badge` and, at the same place, a component without
an id. -/
def mixedUsages : Usages :=
  [⟨0, true, [⟨.component 1 "Card", ⟨"mixed.tsx", 3, 5, 0, 0⟩⟩], [], []⟩,
   ⟨1, true, [⟨⟨.component, "Ghost", none⟩, ⟨"mixed.tsx", 13, 5, 0, 0⟩⟩,
     ⟨.component 2 "Badge", ⟨"mixed.tsx", 13, 5, 0, 0⟩⟩], [], []⟩,
   ⟨2, true, [], [], []⟩]

/-- Within one edge of `Page` all is orderly, within two it is not. -/
theorem mixed_searches :
    ((ofUsages 1 mixedUsages).OrderlyWithin 0 1 ∧
      (ofUsages 1 mixedUsages).reaches 0 (.component (some 1)) = .ok .reached) ∧
    ¬(ofUsages 2 mixedUsages).OrderlyWithin 0 2 ∧
      ∃ fault, (ofUsages 2 mixedUsages).reaches 0 (.component (some 3)) = .error fault := by
  have horderly : (ofUsages 1 mixedUsages).OrderlyWithin 0 1 := by
    refine listableWithin_iff_orderlyWithin.1 fun n hn component hsteps => ?_
    obtain rfl : n = 0 := by omega
    cases hsteps
    exact ⟨_, rfl⟩
  have hdisorder : ¬(ofUsages 2 mixedUsages).OrderlyWithin 0 2 := by
    intro horderly
    have hcard := listableWithin_iff_orderlyWithin.2 horderly 1 (by decide) 1
      ⟨some 1, ⟨0, rfl, _, List.mem_cons_self, rfl, rfl⟩, rfl⟩
    have hfails : (ofUsages 2 mixedUsages).edgesFrom 1 = .error .missingSecond := by decide
    exact hcard.not_error hfails
  have hpath : ∃ path, (ofUsages 1 mixedUsages).PathTo 0 (.component (some 1)) path ∧
      path.length ≤ 1 :=
    finds_iff_pathTo.1 ⟨0, by decide, 0, rfl, by decide⟩
  have hexact := reaches_exact (ofUsages 1 mixedUsages) 0 (.component (some 1))
  have hfails := reaches_exact (ofUsages 2 mixedUsages) 0 (.component (some 3))
  exact ⟨⟨horderly, (hexact.1 horderly).1.2 hpath⟩, hdisorder,
    (hfails.2 hdisorder).1.resolve_right (by decide)⟩

/-- Two edges lead from `Page` to the `Badge`, yet the search for it fails at those of `Card`. -/
theorem mixed_badge_not_found :
    (∃ path, (ofUsages 8 mixedUsages).PathTo 0 (.component (some 2)) path ∧ path.length ≤ 8) ∧
      (ofUsages 8 mixedUsages).reaches 0 (.component (some 2)) = .error .missingSecond := by
  constructor
  · refine finds_iff_pathTo.1 ⟨1, by decide, 1, ⟨some 1, ?_, rfl⟩, by decide⟩
    exact ⟨0, rfl, _, List.mem_cons_self, rfl, rfl⟩
  · decide

end RenderAudit.ActualGraph
