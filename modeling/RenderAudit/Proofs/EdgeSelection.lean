import RenderAudit.Proofs.EdgeListing

/-!
# Which edges are kept

Of several ways to one target the first of the best is kept. The kept edges are read off key by
key: each key has its own run of `preferred` over the candidates with that key, so what happens to
one key does not touch the others. Candidates that come after all others in precedence never
displace one.
-/

namespace RenderAudit

namespace ActualEdge

/-- Whichever of an edge and the one kept so far precedes the other; the older one on a tie. -/
def preferred (edge : ActualEdge) : Option ActualEdge → ActualEdge
  | none => edge
  | some current => if (precedence edge current).isLT then edge else current

theorem preferred_some (edge current : ActualEdge) :
    edge.preferred (some current) = if (precedence edge current).isLT then edge else current :=
  rfl

/-- The edge that is kept for a key. -/
def kept? (key : Key) (edges : List ActualEdge) : Option ActualEdge :=
  edges.find? (·.target.key = key)

def select (candidates : List ActualEdge) : List ActualEdge :=
  candidates.foldl (fun kept edge => edge.keep kept) []

theorem kept?_keep (edge : ActualEdge) (kept : List ActualEdge) (key : Key) :
    kept? key (edge.keep kept) =
      if edge.target.key = key then some (edge.preferred (kept? key kept)) else kept? key kept := by
  unfold kept?
  induction kept with
  | nil => by_cases hkey : edge.target.key = key <;> simp [keep, hkey, preferred]
  | cons current rest ih =>
      unfold keep
      by_cases hsame : current.target.key = edge.target.key
      · rw [if_pos hsame]
        have hchosen : (edge.preferred (some current)).target.key = edge.target.key := by
          rw [preferred_some]
          split
          · rfl
          · exact hsame
        change (edge.preferred (some current) :: rest).find? _ = _
        by_cases hkey : edge.target.key = key
        · rw [if_pos hkey, List.find?_cons_of_pos (by simp [hchosen, hkey]),
            List.find?_cons_of_pos (by simp [hsame, hkey])]
        · rw [if_neg hkey, List.find?_cons_of_neg (by simp [hchosen, hkey]),
            List.find?_cons_of_neg (by simp [hsame, hkey])]
      · rw [if_neg hsame]
        by_cases hcurrent : current.target.key = key
        · have hne : edge.target.key ≠ key := fun hkey => hsame (hcurrent.trans hkey.symm)
          simp [hcurrent, hne]
        · simpa [hcurrent] using ih

/-- The kept edge of a key after all candidates: only those with the key count. -/
theorem kept?_foldl_keep (candidates kept : List ActualEdge) (key : Key) :
    kept? key (candidates.foldl (fun kept edge => edge.keep kept) kept) =
      (candidates.filter (·.target.key = key)).foldl (fun best edge => some (edge.preferred best))
        (kept? key kept) := by
  induction candidates generalizing kept with
  | nil => rfl
  | cons edge rest ih =>
      rw [List.foldl_cons, ih, kept?_keep]
      by_cases hkey : edge.target.key = key
      · simp [hkey]
      · simp [hkey]

theorem keys_keep (edge : ActualEdge) (kept : List ActualEdge) :
    (edge.keep kept).map (·.target.key) =
      if edge.target.key ∈ kept.map (·.target.key) then kept.map (·.target.key)
      else kept.map (·.target.key) ++ [edge.target.key] := by
  induction kept with
  | nil => simp [keep]
  | cons current rest ih =>
      unfold keep
      by_cases hsame : current.target.key = edge.target.key
      · rw [if_pos hsame]
        split <;> simp [hsame]
      · rw [if_neg hsame, List.map_cons, ih]
        simp only [List.map_cons, List.mem_cons, Ne.symm hsame, false_or]
        split <;> rfl

theorem nodup_keys_keep {edge : ActualEdge} {kept : List ActualEdge}
    (hnodup : (kept.map (·.target.key)).Nodup) :
    ((edge.keep kept).map (·.target.key)).Nodup := by
  rw [keys_keep]
  split
  · exact hnodup
  · next hnew =>
    rw [List.nodup_append]
    refine ⟨hnodup, by simp, ?_⟩
    intro key hkey other hother
    rw [List.mem_singleton] at hother
    rintro rfl
    exact hnew (hother ▸ hkey)

theorem nodup_keys_select (candidates : List ActualEdge) :
    ((select candidates).map (·.target.key)).Nodup := by
  have hfold : ∀ kept : List ActualEdge, (kept.map (·.target.key)).Nodup →
      ((candidates.foldl (fun kept edge => edge.keep kept) kept).map (·.target.key)).Nodup := by
    induction candidates with
    | nil => exact fun kept hkept => hkept
    | cons edge rest ih => exact fun kept hkept => ih (edge.keep kept) (nodup_keys_keep hkept)
  exact hfold [] List.nodup_nil

theorem mem_iff_kept?_eq_some {edges : List ActualEdge}
    (hnodup : (edges.map (·.target.key)).Nodup) {edge : ActualEdge} :
    edge ∈ edges ↔ kept? edge.target.key edges = some edge := by
  unfold kept?
  constructor
  · intro hmem
    induction edges with
    | nil => cases hmem
    | cons current rest ih =>
        rw [List.map_cons, List.nodup_cons] at hnodup
        rcases List.mem_cons.1 hmem with rfl | hmem
        · simp
        · have hne : current.target.key ≠ edge.target.key := by
            intro hkey
            exact hnodup.1 (hkey ▸ List.mem_map_of_mem hmem)
          simpa [hne] using ih hnodup.2 hmem
  · exact List.mem_of_find?_eq_some

theorem mem_select_iff {candidates : List ActualEdge} {edge : ActualEdge} :
    edge ∈ select candidates ↔
      (candidates.filter (·.target.key = edge.target.key)).foldl
        (fun best edge => some (edge.preferred best)) none = some edge := by
  rw [mem_iff_kept?_eq_some (nodup_keys_select candidates), select, kept?_foldl_keep]
  rfl

theorem mem_of_mem_keep {edge other : ActualEdge} {kept : List ActualEdge}
    (hmem : other ∈ edge.keep kept) : other = edge ∨ other ∈ kept := by
  induction kept with
  | nil => exact .inl (List.mem_singleton.1 hmem)
  | cons current rest ih =>
      unfold keep at hmem
      by_cases hkey : current.target.key = edge.target.key
      · rw [if_pos hkey] at hmem
        rcases List.mem_cons.1 hmem with rfl | hmem
        · by_cases hprecedes : (precedence edge current).isLT = true
          · exact .inl (if_pos hprecedes)
          · rw [if_neg hprecedes]
            exact .inr List.mem_cons_self
        · exact .inr (List.mem_cons_of_mem current hmem)
      · rw [if_neg hkey] at hmem
        rcases List.mem_cons.1 hmem with rfl | hmem
        · exact .inr List.mem_cons_self
        · exact (ih hmem).imp_right (List.mem_cons_of_mem current)

theorem mem_of_mem_select {candidates : List ActualEdge} {edge : ActualEdge}
    (hmem : edge ∈ select candidates) : edge ∈ candidates := by
  have hselected : select candidates ⊆ candidates := by
    refine List.foldlRecOn (motive := (· ⊆ candidates)) candidates _ (List.nil_subset _) ?_
    intro kept hkept candidate hcandidate other hother
    rcases mem_of_mem_keep hother with rfl | hother
    · exact hcandidate
    · exact hkept hother
  exact hselected hmem

/-! ### Candidates that never displace one -/

theorem precedence_isLT_of_depth_lt {edge other : ActualEdge}
    (hlt : edge.path.depth < other.path.depth) : (precedence edge other).isLT = true := by
  have hdepth : compare edge.path.depth other.path.depth = .lt := Nat.compare_eq_lt.2 hlt
  simp [precedence, compareLex, compareOn, hdepth]

theorem not_precedence_isLT_of_depth_lt {edge other : ActualEdge}
    (hlt : other.path.depth < edge.path.depth) : ¬(precedence edge other).isLT = true := by
  have hdepth : compare edge.path.depth other.path.depth = .gt := Nat.compare_eq_gt.2 hlt
  simp [precedence, compareLex, compareOn, hdepth]

/-- What a run over the shallow candidates alone and a run over all of them have in common. -/
def Agree (bound : Nat) : Option ActualEdge → Option ActualEdge → Prop
  | some edge, best => edge.path.depth ≤ bound ∧ best = some edge
  | none, best => ∀ edge, best = some edge → bound < edge.path.depth

theorem Agree.shallow {bound : Nat} {best best' : Option ActualEdge} {edge : ActualEdge}
    (hagree : Agree bound best best') (hedge : edge.path.depth ≤ bound) :
    Agree bound (some (edge.preferred best)) (some (edge.preferred best')) := by
  cases best with
  | some current =>
      obtain ⟨hcurrent, rfl⟩ := hagree
      refine ⟨?_, rfl⟩
      rw [preferred_some]
      split
      · exact hedge
      · exact hcurrent
  | none =>
      refine ⟨hedge, ?_⟩
      cases best' with
      | none => rfl
      | some current =>
          have hlt : edge.path.depth < current.path.depth := Nat.lt_of_le_of_lt hedge (hagree _ rfl)
          rw [preferred_some, if_pos (precedence_isLT_of_depth_lt hlt)]
          rfl

theorem Agree.deep {bound : Nat} {best best' : Option ActualEdge} {edge : ActualEdge}
    (hagree : Agree bound best best') (hedge : bound < edge.path.depth) :
    Agree bound best (some (edge.preferred best')) := by
  cases best with
  | some current =>
      obtain ⟨hcurrent, rfl⟩ := hagree
      refine ⟨hcurrent, ?_⟩
      have hlt : current.path.depth < edge.path.depth := Nat.lt_of_le_of_lt hcurrent hedge
      rw [preferred_some, if_neg (not_precedence_isLT_of_depth_lt hlt)]
  | none =>
      rintro chosen hchosen
      cases hchosen
      cases best' with
      | none => exact hedge
      | some current =>
          rw [preferred_some]
          split
          · exact hedge
          · exact hagree _ rfl

theorem Agree.foldl (bound : Nat) {best best' : Option ActualEdge}
    (hagree : Agree bound best best') (candidates : List ActualEdge) :
    Agree bound
      ((candidates.filter (·.path.depth ≤ bound)).foldl
        (fun best edge => some (edge.preferred best)) best)
      (candidates.foldl (fun best edge => some (edge.preferred best)) best') := by
  induction candidates generalizing best best' with
  | nil => exact hagree
  | cons edge rest ih =>
      by_cases hedge : edge.path.depth ≤ bound
      · rw [List.filter_cons_of_pos (by simpa using hedge)]
        exact ih (hagree.shallow hedge)
      · rw [List.filter_cons_of_neg (by simpa using hedge)]
        exact ih (hagree.deep (Nat.lt_of_not_le hedge))

/-- An edge that is kept among the shallow candidates is kept among all of them. -/
theorem mem_select_of_mem_select_filter {bound : Nat} {candidates : List ActualEdge}
    {edge : ActualEdge} (hmem : edge ∈ select (candidates.filter (·.path.depth ≤ bound))) :
    edge ∈ select candidates := by
  -- Only the run of the edge's own key matters, and there the shallow candidates are a filter too.
  have hswap : (candidates.filter (·.path.depth ≤ bound)).filter
        (·.target.key = edge.target.key) =
      (candidates.filter (·.target.key = edge.target.key)).filter (·.path.depth ≤ bound) := by
    rw [List.filter_filter, List.filter_filter]
    exact List.filter_congr fun _ _ => Bool.and_comm _ _
  rw [mem_select_iff, hswap] at hmem
  have hstart : Agree bound none none := fun edge hnone => nomatch hnone
  have hagree := Agree.foldl bound hstart (candidates.filter (·.target.key = edge.target.key))
  rw [hmem] at hagree
  exact mem_select_iff.2 hagree.2

end ActualEdge

/-! ### The graph of a list of usages -/

namespace ComponentUsage

/-- An edge to what a component instantiates itself. -/
def directEdge (usage : ComponentUsage) (instantiation : Instantiation) : ActualEdge where
  source := usage.component
  target := instantiation.target
  path := .direct
  span := instantiation.span
  slot := none

/-- An edge to a member of a group whose content is rendered at some depth. -/
def suppliedEdge (usage : ComponentUsage) (group : SupplyGroup) (depth : Nat)
    (member : Instantiation) : ActualEdge where
  source := usage.component
  target := member.target
  path := .viaProperty depth
  span := member.span
  slot := some group.slot

theorem mem_candidates_iff {usages : Usages} {bound : Nat} {usage : ComponentUsage}
    {edge : ActualEdge} :
    edge ∈ usage.candidates usages bound ↔
      (∃ instantiation ∈ usage.direct, usage.directEdge instantiation = edge) ∨
        ∃ group ∈ usage.groups, ∃ depth, (resolveSlot usages bound group.slot).depth = some depth ∧
          ∃ member ∈ group.members, usage.suppliedEdge group depth member = edge := by
  unfold candidates
  rw [List.mem_append, List.mem_map, List.mem_flatMap]
  refine or_congr Iff.rfl (exists_congr fun group => and_congr_right fun _ => ?_)
  cases (resolveSlot usages bound group.slot).depth with
  | none => simp
  | some depth =>
      simp only [List.mem_map, Option.some.injEq, exists_eq_left']
      rfl

theorem mem_edges_iff {usages : Usages} {bound : Nat} {usage : ComponentUsage}
    {edge : ActualEdge} :
    edge ∈ usage.edges usages bound ↔
      usage.walked = true ∧ edge ∈ ActualEdge.select (usage.candidates usages bound) := by
  unfold edges
  by_cases hwalked : usage.walked = true
  · simp [hwalked, ActualEdge.select]
  · simp [hwalked]

end ComponentUsage

/-- All that is instantiated or supplied has an id, where it stands for a declaration. -/
structure Usages.Identified (usages : Usages) : Prop where
  direct : ∀ usage ∈ usages, ∀ instantiation ∈ usage.direct, instantiation.target.Identified
  supplied : ∀ usage ∈ usages, ∀ group ∈ usage.groups, ∀ member ∈ group.members,
    member.target.Identified

namespace ActualGraph

variable {usages : Usages} {bound : Nat} {component : Nat}

theorem edgesOf_ofUsages :
    (ofUsages bound usages).edgesOf component =
      ((usages.get? component).map (·.edges usages bound)).getD [] := by
  unfold edgesOf Table.get? ofUsages Usages.get?
  simp only [List.find?_map, Option.map_map]
  rfl

/-- An edge comes from what its source instantiates or supplies. -/
theorem exists_candidate_of_mem_edgesOf {edge : ActualEdge}
    (hmem : edge ∈ (ofUsages bound usages).edgesOf component) :
    ∃ usage, usages.get? component = some usage ∧ edge ∈ usage.candidates usages bound := by
  rw [edgesOf_ofUsages] at hmem
  cases hget : usages.get? component with
  | none =>
      rw [hget] at hmem
      cases hmem
  | some usage =>
      rw [hget] at hmem
      obtain ⟨-, hselected⟩ := ComponentUsage.mem_edges_iff.1 hmem
      exact ⟨usage, rfl, ActualEdge.mem_of_mem_select hselected⟩

theorem listable_ofUsages (hids : usages.Identified) (bound component : Nat) :
    (ofUsages bound usages).Listable component := by
  refine listable_of_identified fun edge hedge => ?_
  obtain ⟨usage, hget, hcandidate⟩ := exists_candidate_of_mem_edgesOf hedge
  have husage := (Usages.mem_of_get?_eq_some hget).1
  rcases ComponentUsage.mem_candidates_iff.1 hcandidate with
    ⟨instantiation, hdirect, rfl⟩ | ⟨group, hgroup, depth, -, member, hmember, rfl⟩
  · exact hids.direct usage husage instantiation hdirect
  · exact hids.supplied usage husage group hgroup member hmember

theorem isUncertain_ofUsages_iff :
    (ofUsages bound usages).isUncertain component = true ↔
      ∃ usage ∈ usages, usage.component = component ∧ usage.uncertain usages bound = true := by
  simp only [isUncertain, ofUsages, List.contains_iff_mem, List.mem_map, List.mem_filter]
  constructor
  · rintro ⟨usage, ⟨husage, huncertain⟩, hcomponent⟩
    exact ⟨usage, husage, hcomponent, huncertain⟩
  · rintro ⟨usage, husage, hcomponent, huncertain⟩
    exact ⟨usage, ⟨husage, huncertain⟩, hcomponent⟩

end ActualGraph

end RenderAudit
