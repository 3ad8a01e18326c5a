import RenderAudit.Proofs.EdgeListing
import RenderAudit.Proofs.Steps

/-!
# What the search over actual edges finds

The search goes in rounds. After each of them it has seen exactly the components within that many
steps, and looks next at those that are exactly so far away. So a target is found if it is the
target of an edge near enough, and its absence is asserted only if the search has come to an end
within the bound and met no component whose edges may be incomplete. The search breaks off at a
component whose edges cannot be listed, unless it has found the target before.
-/

namespace RenderAudit.ActualGraph

/-- An edge leads from one component to another. A component without id leads nowhere. -/
def Leads (graph : ActualGraph) (source target : Option Nat) : Prop :=
  ∃ component, source = some component ∧
    ∃ edge ∈ graph.edgesOf component, edge.target.kind = .component ∧ edge.target.ref = target

theorem hasEdge_iff {graph : ActualGraph} {source : Nat} {key : Key} :
    graph.hasEdge source key = true ↔
      ∃ edge ∈ graph.edgesOf source, edge.target.key = key := by
  simp [hasEdge]

theorem mem_successors_iff {edges : List ActualEdge} {target : Option Nat} :
    target ∈ successors edges ↔
      ∃ edge ∈ edges, edge.target.kind = .component ∧ edge.target.ref = target := by
  simp [successors, List.mem_filterMap]

theorem any_known_iff {frontier : List (Option Nat)} {test : Nat → Bool} :
    (frontier.filterMap id).any test = true ↔
      ∃ component, some component ∈ frontier ∧ test component = true := by
  rw [List.any_eq_true]
  simp only [List.mem_filterMap, id_eq, exists_eq_right]

/-! ### One round -/

section Scan

variable {graph : ActualGraph} {key : Key} {known : List Nat}

theorem any_key_of_edgesFrom {component : Nat} {listed : List ActualEdge}
    (hlisted : graph.edgesFrom component = .ok listed) :
    listed.any (·.target.key = key) = graph.hasEdge component key := by
  rw [Bool.eq_iff_iff, hasEdge_iff, List.any_eq_true]
  simp only [mem_of_edgesFrom hlisted, decide_eq_true_eq]

theorem scan_cons_of_ok {component : Nat} {listed : List ActualEdge}
    (hlisted : graph.edgesFrom component = .ok listed) :
    graph.scan key (component :: known) =
      if graph.hasEdge component key then .ok none
      else (graph.scan key known).map (·.map (successors listed ++ ·)) := by
  rw [← any_key_of_edgesFrom hlisted, scan, hlisted]
  change (if listed.any (·.target.key = key) = true then _ else _) = _
  split
  · rfl
  · cases graph.scan key known <;> rfl

theorem scan_cons_of_error {component : Nat} {fault : Key.Fault}
    (hfault : graph.edgesFrom component = .error fault) :
    graph.scan key (component :: known) = .error fault := by
  rw [scan, hfault]
  rfl

/-- What a round comes to: it breaks off, it finds the key, or it has seen all edges. -/
def Scanned (graph : ActualGraph) (key : Key) (known : List Nat) :
    Except Key.Fault (Option (List (Option Nat))) → Prop
  | .error fault => ∃ component ∈ known, graph.edgesFrom component = .error fault
  | .ok none =>
      ∃ component ∈ known, graph.Listable component ∧ graph.hasEdge component key = true
  | .ok (some met) =>
      (∀ component ∈ known, graph.Listable component ∧ graph.hasEdge component key = false) ∧
        ∀ node, node ∈ met ↔ ∃ component ∈ known, graph.Leads (some component) node

theorem scanned_scan (graph : ActualGraph) (key : Key) (known : List Nat) :
    graph.Scanned key known (graph.scan key known) := by
  induction known with
  | nil => simp [scan, Scanned]
  | cons component known ih =>
      cases hlisted : graph.edgesFrom component with
      | error fault =>
          rw [scan_cons_of_error hlisted]
          exact ⟨component, List.mem_cons_self, hlisted⟩
      | ok listed =>
          rw [scan_cons_of_ok hlisted]
          split
          · next hedge => exact ⟨component, List.mem_cons_self, ⟨listed, hlisted⟩, hedge⟩
          next hedge =>
          cases hrest : graph.scan key known with
          | error fault =>
              rw [hrest] at ih
              obtain ⟨other, hother, hfault⟩ := ih
              exact ⟨other, List.mem_cons_of_mem component hother, hfault⟩
          | ok found =>
              rw [hrest] at ih
              cases found with
              | none =>
                  obtain ⟨other, hother, hfound⟩ := ih
                  exact ⟨other, List.mem_cons_of_mem component hother, hfound⟩
              | some met =>
                  refine ⟨List.forall_mem_cons.2 ⟨⟨⟨listed, hlisted⟩, ?_⟩, ih.1⟩, ?_⟩
                  · rwa [← Bool.not_eq_true]
                  · intro node
                    have hfirst : node ∈ successors listed ↔ graph.Leads (some component) node := by
                      rw [mem_successors_iff]
                      simp only [mem_of_edgesFrom hlisted, Leads, Option.some.injEq,
                        exists_eq_left']
                    rw [List.mem_append, hfirst, ih.2]
                    simp only [List.mem_cons, exists_eq_or_imp]

end Scan

/-- `next` are the components that a round meets for the first time. -/
def MeetsNext (graph : ActualGraph) (seen frontier next : List (Option Nat)) : Prop :=
  ∀ node, node ∈ next ↔ (∃ middle ∈ frontier, graph.Leads middle node) ∧ node ∉ seen

theorem meetsNext_firstsBy {graph : ActualGraph} {frontier met : List (Option Nat)}
    (seen : List (Option Nat))
    (hmet : ∀ node, node ∈ met ↔
      ∃ component ∈ frontier.filterMap id, graph.Leads (some component) node) :
    graph.MeetsNext seen frontier (firstsBy id seen met) := by
  intro node
  rw [mem_firstsBy_id, hmet]
  refine and_congr_left fun _ => ?_
  simp only [List.mem_filterMap, id_eq, exists_eq_right]
  constructor
  · rintro ⟨component, hmem, hleads⟩
    exact ⟨some component, hmem, hleads⟩
  · rintro ⟨middle, hmem, hleads⟩
    obtain ⟨component, rfl, -⟩ := id hleads
    exact ⟨component, hmem, hleads⟩

/-! ### All rounds -/

/-- The edges of all components that lie within fewer than `limit` steps can be listed. -/
def ListableWithin (graph : ActualGraph) (source : Option Nat) (limit : Nat) : Prop :=
  ∀ n < limit, ∀ component, Steps graph.Leads n source (some component) →
    graph.Listable component

/-- What holds after `done` rounds that did not find the key: `seen` are the components within
`done` steps, `frontier` those that are exactly so far away. -/
structure Searched (graph : ActualGraph) (key : Key) (source : Option Nat) (done : Nat)
    (seen frontier : List (Option Nat)) (doubtful : Bool) : Prop where
  seen_iff : ∀ node, node ∈ seen ↔ ∃ n ≤ done, Steps graph.Leads n source node
  frontier_iff : ∀ node, node ∈ frontier ↔
    Steps graph.Leads done source node ∧ ∀ n < done, ¬Steps graph.Leads n source node
  missed : ∀ n < done, ∀ component, Steps graph.Leads n source (some component) →
    graph.hasEdge component key = false
  listable : graph.ListableWithin source done
  doubtful_iff : doubtful = true ↔
    ∃ n < done, ∃ component, Steps graph.Leads n source (some component) ∧
      graph.isUncertain component = true

theorem searched_start (graph : ActualGraph) (key : Key) (source : Option Nat) :
    graph.Searched key source 0 [source] [source] false where
  seen_iff node := by
    constructor
    · intro hnode
      exact ⟨0, Nat.le_refl 0, (List.mem_singleton.1 hnode).symm⟩
    · rintro ⟨n, hn, hsteps⟩
      obtain rfl : n = 0 := by omega
      exact List.mem_singleton.2 (Eq.symm hsteps)
  frontier_iff node := by
    rw [List.mem_singleton]
    constructor
    · rintro rfl
      exact ⟨rfl, fun n hn => absurd hn (Nat.not_lt_zero n)⟩
    · rintro ⟨hsteps, -⟩
      exact Eq.symm hsteps
  missed n hn := absurd hn (Nat.not_lt_zero n)
  listable n hn := absurd hn (Nat.not_lt_zero n)
  doubtful_iff := by simp

namespace Searched

variable {graph : ActualGraph} {key : Key} {source : Option Nat} {done : Nat}
  {seen frontier next : List (Option Nat)} {doubtful : Bool}

/-- What lies within the rounds done is nearer than the frontier or belongs to it. -/
theorem nearer_or_mem_frontier (hsearched : graph.Searched key source done seen frontier doubtful)
    {n : Nat} {node : Option Nat} (hn : n < done + 1) (hsteps : Steps graph.Leads n source node) :
    (∃ m < done, Steps graph.Leads m source node) ∨ node ∈ frontier := by
  rw [hsearched.frontier_iff]
  exact hsteps.nearer_or_exact (Nat.le_of_lt_succ hn)

theorem mem_next_iff (hsearched : graph.Searched key source done seen frontier doubtful)
    (hnext : graph.MeetsNext seen frontier next) (node : Option Nat) :
    node ∈ next ↔
      Steps graph.Leads (done + 1) source node ∧
        ∀ n < done + 1, ¬Steps graph.Leads n source node := by
  rw [hnext node, hsearched.seen_iff]
  constructor
  · rintro ⟨⟨middle, hmiddle, hleads⟩, hnew⟩
    refine ⟨((hsearched.frontier_iff middle).1 hmiddle).1.add (.single hleads), ?_⟩
    intro n hn hsteps
    exact hnew ⟨n, by omega, hsteps⟩
  · rintro ⟨hsteps, hfar⟩
    obtain ⟨middle, hmiddle, hleads⟩ := steps_succ_iff.1 hsteps
    have hfrontier : middle ∈ frontier := by
      refine (hsearched.frontier_iff middle).2 ⟨hmiddle, ?_⟩
      intro n hn hnear
      exact hfar (n + 1) (by omega) (hnear.add (.single hleads))
    refine ⟨⟨middle, hfrontier, hleads⟩, ?_⟩
    rintro ⟨n, hn, hnear⟩
    exact hfar n (by omega) hnear

/-- One more round that does not find the key. -/
theorem step (hsearched : graph.Searched key source done seen frontier doubtful)
    (hmissed : ∀ component, some component ∈ frontier →
      graph.Listable component ∧ graph.hasEdge component key = false)
    (hnext : graph.MeetsNext seen frontier next) :
    graph.Searched key source (done + 1) (next ++ seen) next
      (doubtful || (frontier.filterMap id).any graph.isUncertain) where
  seen_iff node := by
    rw [List.mem_append, hsearched.mem_next_iff hnext, hsearched.seen_iff]
    constructor
    · rintro (⟨hsteps, -⟩ | ⟨n, hn, hsteps⟩)
      · exact ⟨done + 1, Nat.le_refl _, hsteps⟩
      · exact ⟨n, by omega, hsteps⟩
    · rintro ⟨n, hn, hsteps⟩
      rcases hsteps.nearer_or_exact hn with ⟨m, hm, hnear⟩ | hexact
      · exact .inr ⟨m, Nat.le_of_lt_succ hm, hnear⟩
      · exact .inl hexact
  frontier_iff := hsearched.mem_next_iff hnext
  missed n hn component hsteps := by
    rcases hsearched.nearer_or_mem_frontier hn hsteps with ⟨m, hm, hnear⟩ | hfrontier
    · exact hsearched.missed m hm component hnear
    · exact (hmissed component hfrontier).2
  listable n hn component hsteps := by
    rcases hsearched.nearer_or_mem_frontier hn hsteps with ⟨m, hm, hnear⟩ | hfrontier
    · exact hsearched.listable m hm component hnear
    · exact (hmissed component hfrontier).1
  doubtful_iff := by
    rw [Bool.or_eq_true, hsearched.doubtful_iff, any_known_iff]
    constructor
    · rintro (⟨n, hn, component, hsteps, huncertain⟩ | ⟨component, hfrontier, huncertain⟩)
      · exact ⟨n, by omega, component, hsteps, huncertain⟩
      · have hsteps := ((hsearched.frontier_iff _).1 hfrontier).1
        exact ⟨done, Nat.lt_succ_self done, component, hsteps, huncertain⟩
    · rintro ⟨n, hn, component, hsteps, huncertain⟩
      rcases hsearched.nearer_or_mem_frontier hn hsteps with ⟨m, hm, hnear⟩ | hfrontier
      · exact .inl ⟨m, hm, component, hnear, huncertain⟩
      · exact .inr ⟨component, hfrontier, huncertain⟩

/-- Where a round meets nothing new, all that can be reached has been seen. -/
theorem closed (hsearched : graph.Searched key source done seen frontier doubtful)
    (hempty : graph.MeetsNext seen frontier []) {n : Nat} {node : Option Nat}
    (hsteps : Steps graph.Leads n source node) :
    ∃ m < done + 1, Steps graph.Leads m source node := by
  induction n generalizing node with
  | zero => exact ⟨0, Nat.succ_pos done, hsteps⟩
  | succ n ih =>
      obtain ⟨middle, hmiddle, hleads⟩ := steps_succ_iff.1 hsteps
      obtain ⟨m, hm, hnear⟩ := ih hmiddle
      rcases (hnear.add (.single hleads)).nearer_or_exact hm with hnode | hexact
      · exact hnode
      · cases (hsearched.mem_next_iff hempty node).2 hexact

end Searched

/-- An edge with the key leaves a component that lies within fewer than `limit` steps. -/
def Finds (graph : ActualGraph) (key : Key) (source : Option Nat) (limit : Nat) : Prop :=
  ∃ n < limit, ∃ component, Steps graph.Leads n source (some component) ∧
    graph.hasEdge component key = true

/-- Whatever can be reached lies within fewer than `limit` steps, and no edge with the key leaves
it, and its edges are complete. -/
def Excludes (graph : ActualGraph) (key : Key) (source : Option Nat) (limit : Nat) : Prop :=
  ∀ n node, Steps graph.Leads n source node →
    (∃ m < limit, Steps graph.Leads m source node) ∧
      ∀ component, node = some component →
        graph.hasEdge component key = false ∧ graph.isUncertain component = false

theorem Finds.not_excludes {graph : ActualGraph} {key : Key} {source : Option Nat}
    {limit limit' : Nat} (hfinds : graph.Finds key source limit) :
    ¬graph.Excludes key source limit' := by
  obtain ⟨n, -, component, hsteps, hedge⟩ := hfinds
  intro hexcludes
  have hno := ((hexcludes n _ hsteps).2 component rfl).1
  rw [hedge] at hno
  cases hno

theorem Searched.excludes_iff_of_closed {graph : ActualGraph} {key : Key} {source : Option Nat}
    {done limit : Nat} {seen frontier : List (Option Nat)} {doubtful : Bool}
    (hsearched : graph.Searched key source (done + 1) seen frontier doubtful)
    (hclosed : ∀ n node, Steps graph.Leads n source node →
      ∃ m < done + 1, Steps graph.Leads m source node)
    (hlimit : done < limit) : graph.Excludes key source limit ↔ doubtful = false := by
  constructor
  · intro hexcludes
    rw [← Bool.not_eq_true, hsearched.doubtful_iff]
    rintro ⟨n, -, component, hsteps, huncertain⟩
    have hcertain := ((hexcludes n _ hsteps).2 component rfl).2
    rw [huncertain] at hcertain
    cases hcertain
  · intro hcertain n node hsteps
    obtain ⟨m, hm, hnear⟩ := hclosed n node hsteps
    refine ⟨⟨m, by omega, hnear⟩, ?_⟩
    rintro component rfl
    refine ⟨hsearched.missed m hm component hnear, ?_⟩
    rw [← Bool.not_eq_true]
    intro huncertain
    have hdoubtful := hsearched.doubtful_iff.2 ⟨m, hm, component, hnear, huncertain⟩
    rw [hcertain] at hdoubtful
    cases hdoubtful

/-- What an answer stands for. The search is decided at the nearest components of which one has an
edge with the key, or edges that cannot be listed. -/
def Answers (graph : ActualGraph) (key : Key) (source : Option Nat) (limit : Nat) :
    Except Key.Fault Reach → Prop
  | .ok .reached =>
      ∃ n < limit, (∃ component, Steps graph.Leads n source (some component) ∧
        graph.Listable component ∧ graph.hasEdge component key = true) ∧
        graph.ListableWithin source n
  | .ok .notReached => graph.Excludes key source limit ∧ graph.ListableWithin source limit
  | .ok .incomplete =>
      ¬graph.Finds key source limit ∧ ¬graph.Excludes key source limit ∧
        graph.ListableWithin source limit
  | .error fault =>
      ∃ n < limit, (∃ component, Steps graph.Leads n source (some component) ∧
        graph.edgesFrom component = .error fault) ∧ ¬graph.Finds key source n

/-- Where a round meets nothing new, the search has come to its end, and only a doubt keeps it
undecided. -/
theorem Searched.answers_of_closed {graph : ActualGraph} {key : Key} {source : Option Nat}
    {done limit : Nat} {seen frontier : List (Option Nat)} {doubtful : Bool}
    (hsearched : graph.Searched key source (done + 1) seen frontier doubtful)
    (hclosed : ∀ n node, Steps graph.Leads n source node →
      ∃ m < done + 1, Steps graph.Leads m source node)
    (hlimit : done < limit) :
    graph.Answers key source limit (.ok (if doubtful then .incomplete else .notReached)) := by
  have hexcludes := hsearched.excludes_iff_of_closed hclosed hlimit
  have hlistable : graph.ListableWithin source limit := by
    intro n _ component hsteps
    obtain ⟨m, hm, hnear⟩ := hclosed n _ hsteps
    exact hsearched.listable m hm component hnear
  cases doubtful with
  | false => exact ⟨hexcludes.2 rfl, hlistable⟩
  | true =>
      refine ⟨?_, by simp [hexcludes], hlistable⟩
      rintro ⟨n, -, component, hsteps, hedge⟩
      obtain ⟨m, hm, hnear⟩ := hclosed n _ hsteps
      rw [hsearched.missed m hm component hnear] at hedge
      cases hedge

section Round

variable {graph : ActualGraph} {key : Key} {rounds : Nat} {seen frontier : List (Option Nat)}
  {doubtful : Bool}

theorem search_of_scan_error {fault : Key.Fault}
    (hscan : graph.scan key (frontier.filterMap id) = .error fault) :
    graph.search key (rounds + 1) seen frontier doubtful = .error fault := by
  simp only [search, hscan]
  rfl

theorem search_of_scan_none (hscan : graph.scan key (frontier.filterMap id) = .ok none) :
    graph.search key (rounds + 1) seen frontier doubtful = .ok .reached := by
  simp only [search, hscan]
  rfl

theorem search_of_scan_some {met : List (Option Nat)}
    (hscan : graph.scan key (frontier.filterMap id) = .ok (some met)) :
    graph.search key (rounds + 1) seen frontier doubtful =
      if (firstsBy id seen met).isEmpty then
        .ok (if doubtful || (frontier.filterMap id).any graph.isUncertain then .incomplete
          else .notReached)
      else graph.search key rounds (firstsBy id seen met ++ seen) (firstsBy id seen met)
        (doubtful || (frontier.filterMap id).any graph.isUncertain) := by
  simp only [search, hscan]
  rfl

end Round

namespace Searched

variable {graph : ActualGraph} {key : Key} {source : Option Nat} {done : Nat}
  {seen frontier met : List (Option Nat)} {doubtful : Bool}

theorem not_finds (hsearched : graph.Searched key source done seen frontier doubtful) :
    ¬graph.Finds key source done := by
  rintro ⟨n, hn, component, hsteps, hedge⟩
  rw [hsearched.missed n hn component hsteps] at hedge
  cases hedge

/-- As long as there is a frontier, something lies as far away as rounds have been done. -/
theorem exists_far (hsearched : graph.Searched key source done seen frontier doubtful)
    (hne : frontier ≠ []) :
    ∃ node, Steps graph.Leads done source node ∧
      ¬∃ m < done, Steps graph.Leads m source node := by
  obtain ⟨node, hnode⟩ := List.exists_mem_of_ne_nil frontier hne
  obtain ⟨hsteps, hfar⟩ := (hsearched.frontier_iff node).1 hnode
  exact ⟨node, hsteps, fun ⟨m, hm, hnear⟩ => hfar m hm hnear⟩

theorem steps_of_known (hsearched : graph.Searched key source done seen frontier doubtful)
    {component : Nat} (hknown : component ∈ frontier.filterMap id) :
    Steps graph.Leads done source (some component) :=
  ((hsearched.frontier_iff _).1 (by simpa using hknown)).1

theorem step_of_scan (hsearched : graph.Searched key source done seen frontier doubtful)
    (hscan : graph.scan key (frontier.filterMap id) = .ok (some met)) :
    graph.Searched key source (done + 1) (firstsBy id seen met ++ seen) (firstsBy id seen met)
      (doubtful || (frontier.filterMap id).any graph.isUncertain) := by
  have hscanned := graph.scanned_scan key (frontier.filterMap id)
  rw [hscan] at hscanned
  refine hsearched.step ?_ (meetsNext_firstsBy seen hscanned.2)
  intro component hmem
  exact hscanned.1 component (by simpa using hmem)

end Searched

section Run

variable {graph : ActualGraph} {key : Key} {source : Option Nat} {done : Nat}
  {seen frontier : List (Option Nat)} {doubtful : Bool}

/-- The answer of the search that goes on after `done` rounds. -/
theorem answers_search (rounds : Nat)
    (hsearched : graph.Searched key source done seen frontier doubtful) (hne : frontier ≠ []) :
    graph.Answers key source (done + rounds) (graph.search key rounds seen frontier doubtful) := by
  induction rounds generalizing done seen frontier doubtful with
  | zero =>
      obtain ⟨node, hsteps, hfar⟩ := hsearched.exists_far hne
      exact ⟨hsearched.not_finds, fun hexcludes => hfar (hexcludes done node hsteps).1,
        hsearched.listable⟩
  | succ rounds ih =>
      have hscanned := graph.scanned_scan key (frontier.filterMap id)
      cases hscan : graph.scan key (frontier.filterMap id) with
      | error fault =>
          rw [hscan] at hscanned
          obtain ⟨component, hmem, hfault⟩ := hscanned
          rw [search_of_scan_error hscan]
          exact ⟨done, by omega, ⟨component, hsearched.steps_of_known hmem, hfault⟩,
            hsearched.not_finds⟩
      | ok found =>
          rw [hscan] at hscanned
          cases found with
          | none =>
              obtain ⟨component, hmem, hfound⟩ := hscanned
              rw [search_of_scan_none hscan]
              exact ⟨done, by omega, ⟨component, hsearched.steps_of_known hmem, hfound⟩,
                hsearched.listable⟩
          | some met =>
              have hlater := hsearched.step_of_scan hscan
              rw [search_of_scan_some hscan]
              split
              · next hempty =>
                have hnext := meetsNext_firstsBy seen hscanned.2
                rw [List.isEmpty_iff.1 hempty] at hnext
                exact hlater.answers_of_closed
                  (fun n node hsteps => hsearched.closed hnext hsteps) (by omega)
              · next hempty =>
                have hrounds : done + (rounds + 1) = done + 1 + rounds := by omega
                rw [hrounds]
                exact ih hlater (by simpa using hempty)

/-- Where nothing lies beyond the rounds that are left, more rounds do not change the answer. -/
theorem search_eq_of_near {rounds rounds' : Nat} (hle : rounds ≤ rounds')
    (hsearched : graph.Searched key source done seen frontier doubtful) (hne : frontier ≠ [])
    (hnear : ∀ n node, Steps graph.Leads n source node →
      ∃ m < done + rounds, Steps graph.Leads m source node) :
    graph.search key rounds seen frontier doubtful =
      graph.search key rounds' seen frontier doubtful := by
  induction rounds generalizing done seen frontier doubtful rounds' with
  | zero =>
      obtain ⟨node, hsteps, hfar⟩ := hsearched.exists_far hne
      exact absurd (hnear done node hsteps) hfar
  | succ rounds ih =>
      obtain ⟨rounds', rfl⟩ : ∃ more, rounds' = more + 1 := ⟨rounds' - 1, by omega⟩
      match hscan : graph.scan key (frontier.filterMap id) with
      | .error fault => rw [search_of_scan_error hscan, search_of_scan_error hscan]
      | .ok none => rw [search_of_scan_none hscan, search_of_scan_none hscan]
      | .ok (some met) =>
          rw [search_of_scan_some hscan, search_of_scan_some hscan]
          split
          · rfl
          · next hempty =>
            refine ih (by omega) (hsearched.step_of_scan hscan) (by simpa using hempty) ?_
            intro n node hsteps
            obtain ⟨m, hm, hshort⟩ := hnear n node hsteps
            exact ⟨m, by omega, hshort⟩

end Run

section Reaches

variable {graph : ActualGraph} {source : Nat} {key : Key}

theorem answers_reaches (graph : ActualGraph) (source : Nat) (key : Key) :
    graph.Answers key (some source) graph.bound (graph.reaches source key) := by
  have hanswers := answers_search graph.bound (graph.searched_start key (some source))
    (List.cons_ne_nil _ _)
  rwa [Nat.zero_add] at hanswers

/-- The edge that is found leaves a component that can be listed, and so can all that lie nearer. -/
theorem exists_found_of_reaches (hreaches : graph.reaches source key = .ok .reached) :
    ∃ n < graph.bound, (∃ component, Steps graph.Leads n (some source) (some component) ∧
      graph.Listable component ∧ graph.hasEdge component key = true) ∧
      graph.ListableWithin (some source) n := by
  have hanswers := graph.answers_reaches source key
  rwa [hreaches] at hanswers

theorem finds_of_reaches (hreaches : graph.reaches source key = .ok .reached) :
    graph.Finds key (some source) graph.bound := by
  obtain ⟨n, hn, ⟨component, hsteps, -, hedge⟩, -⟩ := exists_found_of_reaches hreaches
  exact ⟨n, hn, component, hsteps, hedge⟩

/-- A key that is found is reported, if the components nearer than the way to it can be listed. -/
theorem reaches_eq_reached_of_finds {limit : Nat} (hlimit : limit ≤ graph.bound)
    (hlistable : graph.ListableWithin (some source) limit)
    (hfinds : graph.Finds key (some source) limit) :
    graph.reaches source key = .ok .reached := by
  obtain ⟨n, hn, component, hsteps, hedge⟩ := id hfinds
  have hanswers := graph.answers_reaches source key
  match hreaches : graph.reaches source key with
  | .ok .reached => rfl
  | .ok .notReached =>
      rw [hreaches] at hanswers
      exact absurd hanswers.1 hfinds.not_excludes
  | .ok .incomplete =>
      rw [hreaches] at hanswers
      exact absurd ⟨n, hn.trans_le hlimit, component, hsteps, hedge⟩ hanswers.1
  | .error fault =>
      rw [hreaches] at hanswers
      obtain ⟨m, -, ⟨other, hnear, hfault⟩, hunfound⟩ := hanswers
      have hle : m ≤ n := Nat.le_of_not_lt fun hlt => hunfound ⟨n, hlt, component, hsteps, hedge⟩
      exact absurd hfault (hlistable m (by omega) other hnear).not_error

theorem reaches_eq_notReached_iff :
    graph.reaches source key = .ok .notReached ↔
      graph.Excludes key (some source) graph.bound ∧
        graph.ListableWithin (some source) graph.bound := by
  have hanswers := graph.answers_reaches source key
  constructor
  · intro hreaches
    rwa [hreaches] at hanswers
  · rintro ⟨hexcludes, hlistable⟩
    match hreaches : graph.reaches source key with
    | .ok .notReached => rfl
    | .ok .reached => exact absurd hexcludes (finds_of_reaches hreaches).not_excludes
    | .ok .incomplete =>
        rw [hreaches] at hanswers
        exact absurd hexcludes hanswers.2.1
    | .error fault =>
        rw [hreaches] at hanswers
        obtain ⟨n, hn, ⟨component, hsteps, hfault⟩, -⟩ := hanswers
        exact absurd hfault (hlistable n hn component hsteps).not_error

theorem reaches_eq_reached_iff (hlistable : graph.ListableWithin (some source) graph.bound) :
    graph.reaches source key = .ok .reached ↔ graph.Finds key (some source) graph.bound :=
  ⟨finds_of_reaches, reaches_eq_reached_of_finds (Nat.le_refl _) hlistable⟩

/-- A search that meets edges which cannot be listed has found its target before, or fails. -/
theorem reaches_of_not_listable (hlistable : ¬graph.ListableWithin (some source) graph.bound) :
    (∃ fault, graph.reaches source key = .error fault) ∨
      graph.reaches source key = .ok .reached := by
  have hanswers := graph.answers_reaches source key
  match hreaches : graph.reaches source key with
  | .ok .reached => exact .inr rfl
  | .error fault => exact .inl ⟨fault, rfl⟩
  | .ok .notReached =>
      rw [hreaches] at hanswers
      exact absurd hanswers.2 hlistable
  | .ok .incomplete =>
      rw [hreaches] at hanswers
      exact absurd hanswers.2.2 hlistable

/-- The search breaks off only where edges cannot be listed. -/
theorem exists_reaches_eq_ok (key : Key)
    (hlistable : graph.ListableWithin (some source) graph.bound) :
    ∃ answer, graph.reaches source key = .ok answer := by
  have hanswers := graph.answers_reaches source key
  cases hreaches : graph.reaches source key with
  | ok answer => exact ⟨answer, rfl⟩
  | error fault =>
      rw [hreaches] at hanswers
      obtain ⟨n, hn, ⟨component, hsteps, hfault⟩, -⟩ := hanswers
      exact absurd hfault (hlistable n hn component hsteps).not_error

end Reaches

end RenderAudit.ActualGraph
