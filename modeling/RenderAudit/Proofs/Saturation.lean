import Mathlib.Data.Finset.Image
import RenderAudit.Proofs.EdgeSelection
import RenderAudit.Proofs.Resolution
import RenderAudit.Proofs.Search

/-!
# The bound from which on nothing changes

A walk that refuses the slots on its path enters each slot once, so a bound beyond the number of
slots that content is forwarded to cuts nothing off. The search over components ends in the same
way, once the bound has come to their number. From there on the bound only shows where it is
printed.
-/

namespace RenderAudit

/-! ### Slots -/

def PropUse.forwarded? : PropUse → Option Slot
  | .forward slot => some slot
  | .render _ | .unknown _ => none

namespace Usages

/-- The slots that content is forwarded to. -/
def forwardSlots (usages : Usages) : Finset Slot :=
  (usages.flatMap fun usage => usage.uses.filterMap fun entry => entry.2.forwarded?).toFinset

/-- The bound from which on nothing changes. -/
def saturation (usages : Usages) (arena : Arena) : Nat :=
  max (usages.forwardSlots.card + 1) arena.components.length

variable {usages : Usages} {arena : Arena} {bound : Nat}

theorem card_forwardSlots_lt (hbound : usages.saturation arena ≤ bound) :
    usages.forwardSlots.card < bound := by
  unfold saturation at hbound
  omega

theorem one_le_of_saturation_le (hbound : usages.saturation arena ≤ bound) : 1 ≤ bound :=
  Nat.one_le_of_lt (card_forwardSlots_lt hbound)

end Usages

theorem Forwards.mem_forwardSlots {usages : Usages} {slot next : Slot}
    (hforwards : Forwards usages slot next) : next ∈ usages.forwardSlots := by
  obtain ⟨usage, hget, -, huse⟩ := hforwards
  unfold Usages.forwardSlots
  rw [List.mem_toFinset, List.mem_flatMap]
  refine ⟨usage, (Usages.mem_of_get?_eq_some hget).1, ?_⟩
  exact List.mem_filterMap.2 ⟨(slot.property, .forward next), huse, rfl⟩

section Follow

variable {usages : Usages} {path : List Slot} {slot : Slot}

/-- The slots that a walk which has come to `slot` may still enter. -/
def unentered (usages : Usages) (path : List Slot) (slot : Slot) : Finset Slot :=
  insert slot usages.forwardSlots \ path.toFinset

theorem card_unentered_lt (hnew : slot ∉ path) {next : Slot} (hforwards : Forwards usages slot next) :
    (unentered usages (slot :: path) next).card < (unentered usages path slot).card := by
  apply Finset.card_lt_card
  have hslot : slot ∈ unentered usages path slot := by simp [unentered, hnew]
  have hentered : slot ∉ unentered usages (slot :: path) next := by simp [unentered]
  refine ⟨?_, fun hsubset => hentered (hsubset hslot)⟩
  intro other hother
  have hnext := hforwards.mem_forwardSlots
  simp only [unentered, Finset.mem_sdiff, Finset.mem_insert, List.mem_toFinset, List.mem_cons,
    not_or] at hother ⊢
  obtain ⟨rfl | hmem, -, hpath⟩ := hother
  · exact ⟨.inr hnext, hpath⟩
  · exact ⟨.inr hmem, hpath⟩

theorem follow_eq_cutOff (usages : Usages) (remaining depth : Nat) (hmem : slot ∈ path) :
    follow usages remaining depth path slot = .cutOff slot := by
  cases remaining with
  | zero => rfl
  | succ remaining => exact follow_of_mem_path hmem

/-- Bounds that the walk cannot exhaust make no difference to it. -/
theorem follow_eq_of_card_le {remaining remaining' : Nat} (depth : Nat)
    (hle : (unentered usages path slot).card ≤ remaining)
    (hle' : (unentered usages path slot).card ≤ remaining') :
    follow usages remaining depth path slot = follow usages remaining' depth path slot := by
  induction remaining using Nat.strongRecOn generalizing remaining' depth path slot with
  | ind remaining ih =>
      by_cases hnew : slot ∈ path
      · rw [follow_eq_cutOff usages remaining depth hnew,
          follow_eq_cutOff usages remaining' depth hnew]
      have hslot : slot ∈ unentered usages path slot := by simp [unentered, hnew]
      have hpos := Finset.card_pos.2 ⟨slot, hslot⟩
      obtain ⟨rest, rfl⟩ : ∃ rest, remaining = rest + 1 := ⟨remaining - 1, by omega⟩
      obtain ⟨rest', rfl⟩ : ∃ rest', remaining' = rest' + 1 := ⟨remaining' - 1, by omega⟩
      cases hwalked : usages.walked? slot.owner with
      | none => rw [follow_of_untraced hnew hwalked, follow_of_untraced hnew hwalked]
      | some usage =>
          rw [follow_of_walked hnew hwalked, follow_of_walked hnew hwalked]
          congr 1
          apply List.map_congr_left
          intro use huse
          cases use with
          | render seenAt => rfl
          | unknown seenAt => rfl
          | forward next =>
              have hforwards : Forwards usages slot next := (usedAs_iff_mem_usesOf hwalked).2 huse
              have hless := card_unentered_lt hnew hforwards
              exact ih rest (Nat.lt_succ_self rest) (depth + 1) (by omega) (by omega)

end Follow

section ResolveSlot

variable {usages : Usages} {bound bound' : Nat}

theorem card_unentered_nil_le (usages : Usages) (slot : Slot) :
    (unentered usages [] slot).card ≤ usages.forwardSlots.card + 1 := by
  rw [unentered, List.toFinset_nil, Finset.sdiff_empty]
  exact Finset.card_insert_le slot usages.forwardSlots

theorem resolveSlot_eq_of_card_lt (hbound : usages.forwardSlots.card < bound)
    (hbound' : usages.forwardSlots.card < bound') :
    resolveSlot usages bound = resolveSlot usages bound' := by
  funext slot
  have hcard := card_unentered_nil_le usages slot
  exact follow_eq_of_card_le 1 (by omega) (by omega)

/-- Beyond that many slots only a cycle exceeds the bound. -/
theorem resolveSlot_exceeded_iff_cycle (hbound : usages.forwardSlots.card < bound) {slot : Slot} :
    (resolveSlot usages bound slot).exceeded = true ↔
      ∃ n last m, Steps (Forwards usages) n slot last ∧
        Steps (Forwards usages) (m + 1) last last := by
  rw [resolveSlot_exceeded_iff]
  constructor
  · rintro ⟨last, hsteps⟩
    refine hsteps.exists_cycle (fun _ _ hforwards => hforwards.mem_forwardSlots) ?_
    exact (Finset.card_erase_le).trans_lt hbound
  · rintro ⟨n, middle, m, hsteps, hcycle⟩
    obtain ⟨last, hlong⟩ := hcycle.endless bound
    exact (hsteps.add hlong).take (Nat.le_add_left bound n)

end ResolveSlot

/-! ### Edges and the search over them -/

namespace Usages

/-- The components that usages belong to, and those that they instantiate or supply, are
components of an arena. -/
structure StaysIn (usages : Usages) (arena : Arena) : Prop where
  component : ∀ usage ∈ usages, usage.component < arena.components.length
  direct : ∀ usage ∈ usages, ∀ instantiation ∈ usage.direct,
    instantiation.target.kind = .component →
      ∃ id < arena.components.length, instantiation.target.ref = some id
  supplied : ∀ usage ∈ usages, ∀ group ∈ usage.groups, ∀ member ∈ group.members,
    member.target.kind = .component →
      ∃ id < arena.components.length, member.target.ref = some id

end Usages

namespace ActualGraph

variable {usages : Usages} {bound bound' : Nat}

/-- Beyond that many slots graphs differ in the bound that they hold and in nothing else. -/
theorem ofUsages_eq_of_card_lt (hbound : usages.forwardSlots.card < bound)
    (hbound' : usages.forwardSlots.card < bound') :
    ofUsages bound' usages = { ofUsages bound usages with bound := bound' } := by
  have hresolve := resolveSlot_eq_of_card_lt hbound' hbound
  simp only [ofUsages, ComponentUsage.edges, ComponentUsage.candidates, ComponentUsage.uncertain,
    hresolve]

variable {arena : Arena}

theorem Leads.mem_components {source target : Option Nat} (hstays : usages.StaysIn arena)
    (hleads : (ofUsages bound usages).Leads source target) :
    target ∈ (Finset.range arena.components.length).image some := by
  obtain ⟨component, rfl, edge, hmem, hkind, rfl⟩ := hleads
  obtain ⟨usage, hget, hcandidate⟩ := exists_candidate_of_mem_edgesOf hmem
  have husage := (Usages.mem_of_get?_eq_some hget).1
  have hdeclared : ∃ id < arena.components.length, edge.target.ref = some id := by
    rcases ComponentUsage.mem_candidates_iff.1 hcandidate with
      ⟨instantiation, hdirect, rfl⟩ | ⟨group, hgroup, depth, -, member, hmember, rfl⟩
    · exact hstays.direct usage husage instantiation hdirect hkind
    · exact hstays.supplied usage husage group hgroup member hmember hkind
  obtain ⟨id, hid, href⟩ := hdeclared
  rw [href]
  exact Finset.mem_image_of_mem some (Finset.mem_range.2 hid)

/-- Nothing lies further away than there are components. -/
theorem exists_steps_lt (hstays : usages.StaysIn arena)
    (hbound : usages.saturation arena ≤ bound) {source : Nat} {n : Nat} {node : Option Nat}
    (hsteps : Steps (ofUsages bound usages).Leads n (some source) node) :
    ∃ m < bound, Steps (ofUsages bound usages).Leads m (some source) node := by
  have hpos := Usages.one_le_of_saturation_le hbound
  cases hget : usages.get? source with
  | none =>
      -- Nothing is known about the source, and so it leads nowhere.
      cases n with
      | zero => exact ⟨0, hpos, hsteps⟩
      | succ n =>
          obtain ⟨next, ⟨component, hcomponent, edge, hmem, -⟩, -⟩ := hsteps
          cases hcomponent
          rw [edgesOf_ofUsages, hget] at hmem
          cases hmem
  | some usage =>
      obtain ⟨husage, hcomponent⟩ := Usages.mem_of_get?_eq_some hget
      have hsource : some source ∈ (Finset.range arena.components.length).image some := by
        rw [← hcomponent]
        exact Finset.mem_image_of_mem some (Finset.mem_range.2 (hstays.component usage husage))
      obtain ⟨m, hm, hshort⟩ :=
        hsteps.exists_le_card fun _ _ hleads => Leads.mem_components hstays hleads
      refine ⟨m, ?_, hshort⟩
      calc m ≤ (((Finset.range arena.components.length).image some).erase (some source)).card := hm
        _ < ((Finset.range arena.components.length).image some).card :=
            Finset.card_erase_lt_of_mem hsource
        _ ≤ (Finset.range arena.components.length).card := Finset.card_image_le
        _ = arena.components.length := Finset.card_range _
        _ ≤ bound := le_trans (le_max_right _ _) hbound

section Reaches

variable {source : Nat} {key : Key}

/-- Once the search comes to an end within the bound, only a doubt about a component that it
meets leaves it open. -/
theorem exists_uncertain_of_incomplete (hstays : usages.StaysIn arena)
    (hbound : usages.saturation arena ≤ bound)
    (hincomplete : (ofUsages bound usages).reaches source key = .ok .incomplete) :
    ∃ n < bound, ∃ component,
      Steps (ofUsages bound usages).Leads n (some source) (some component) ∧
        (ofUsages bound usages).isUncertain component = true := by
  have hanswers := (ofUsages bound usages).answers_reaches source key
  rw [hincomplete] at hanswers
  obtain ⟨hunfound, hopen, -⟩ := hanswers
  by_contra hcertain
  refine hopen fun n node hsteps => ?_
  obtain ⟨m, hm, hshort⟩ := exists_steps_lt hstays hbound hsteps
  refine ⟨⟨m, hm, hshort⟩, ?_⟩
  rintro component rfl
  rw [← Bool.not_eq_true, ← Bool.not_eq_true]
  exact ⟨fun hedge => hunfound ⟨m, hm, component, hshort, hedge⟩,
    fun huncertain => hcertain ⟨m, hm, component, hshort, huncertain⟩⟩

theorem scan_withBound (graph : ActualGraph) (bound : Nat) (known : List Nat) :
    ({ graph with bound := bound } : ActualGraph).scan key known = graph.scan key known := by
  induction known with
  | nil => rfl
  | cons component known ih =>
      rw [scan, scan, ih]
      rfl

/-- The search asks for the bound only once, when it starts. -/
theorem search_withBound (graph : ActualGraph) (bound rounds : Nat)
    (seen frontier : List (Option Nat)) (doubtful : Bool) :
    ({ graph with bound := bound } : ActualGraph).search key rounds seen frontier doubtful =
      graph.search key rounds seen frontier doubtful := by
  induction rounds generalizing seen frontier doubtful with
  | zero => rfl
  | succ rounds ih =>
      simp only [search, scan_withBound, ih]
      rfl

theorem reaches_eq_of_le (hstays : usages.StaysIn arena)
    (hbound : usages.saturation arena ≤ bound) (hle : bound ≤ bound') :
    (ofUsages bound' usages).reaches source key = (ofUsages bound usages).reaches source key := by
  have hgraph := ofUsages_eq_of_card_lt (Usages.card_forwardSlots_lt hbound)
    (Usages.card_forwardSlots_lt (hbound.trans hle))
  rw [hgraph]
  refine (search_withBound _ _ _ _ _ _).trans (Eq.symm ?_)
  refine search_eq_of_near hle (searched_start _ key (some source)) (List.cons_ne_nil _ _) ?_
  intro n node hsteps
  rw [Nat.zero_add]
  exact exists_steps_lt hstays hbound hsteps

theorem reaches_eq_of_saturation_le (hstays : usages.StaysIn arena)
    (hbound : usages.saturation arena ≤ bound) (hbound' : usages.saturation arena ≤ bound') :
    (ofUsages bound usages).reaches source key = (ofUsages bound' usages).reaches source key := by
  rcases Nat.le_total bound bound' with hle | hle
  · exact (reaches_eq_of_le hstays hbound hle).symm
  · exact reaches_eq_of_le hstays hbound' hle

end Reaches

end ActualGraph

end RenderAudit
