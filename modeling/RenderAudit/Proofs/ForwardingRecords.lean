import RenderAudit.Proofs.ElementsOnce

/-!
# Two records of forwarding

What a component forwards is noted twice: as a use of its property, and in the group of the content
that passes the property on. Slots are resolved by the first record and content is checked by the
second. They agree for every body, and group numbers are given out once for all components.
-/

namespace RenderAudit

/-! ### Group numbers -/

theorem Content.map_id_groups (first : Nat) (contents : List Content) :
    (groups first contents).map (·.id) = List.range' first (supplies contents).length := by
  rw [groups, List.map_map, ← List.zipIdx_map_snd first (supplies contents)]
  rfl

/-- The groups of a component take numbers from those that are set aside for it. -/
theorem groupIds_traceComponent (unit : SourceUnit) (arena : Arena) (resolver : Resolver)
    (first component : Nat) (shape : Shape) :
    ((traceComponent unit arena resolver first component shape).usage.groups.map (·.id)).Sublist
      (List.range' first
        (traceComponent unit arena resolver first component shape).groupsTaken) := by
  unfold traceComponent
  split
  · exact List.nil_sublist _
  · dsimp only [Content.usage]
    split
    · rw [Content.map_id_groups]
    · exact List.nil_sublist _

theorem groupIds_traceAll {unit : SourceUnit} {arena : Arena} {inquiry : Inquiry} {first : Nat}
    {token token' : CancelToken} {shapes : List (Shape × Nat)} {usages : Usages}
    (htraced : traceAll unit arena inquiry first token shapes = .ok (usages, token')) :
    ∃ count, ((usages.flatMap (·.groups)).map (·.id)).Sublist (List.range' first count) := by
  induction shapes generalizing first token token' usages with
  | nil =>
      cases htraced
      exact ⟨0, List.nil_sublist _⟩
  | cons entry rest ih =>
      obtain ⟨traced, rfl, later, middle, rfl, hlater⟩ := exists_of_traceAll_cons htraced
      obtain ⟨count, hids⟩ := ih hlater
      have hown := groupIds_traceComponent unit arena inquiry.resolver first entry.2 entry.1
      refine
        ⟨(traceComponent unit arena inquiry.resolver first entry.2 entry.1).groupsTaken + count, ?_⟩
      rw [List.flatMap_cons, List.map_append, ← List.range'_append_1]
      exact hown.append hids

/-! ### Uses and groups -/

/-- The uses of properties and the groups tell the same about forwarding. -/
structure ComponentUsage.Agrees (arena : Arena) (usage : ComponentUsage) : Prop where
  forward_iff : ∀ name slot, (name, .forward slot) ∈ usage.uses ↔
    ∃ group ∈ usage.groups, group.slot = slot ∧ name ∈ group.forwards
  unplaced : ∀ name use, (name, use) ∈ usage.uses →
    (∃ slot, use = .forward slot) ∨ use = .render none ∨ use = .unknown none
  offered : ∀ group ∈ usage.groups, arena.Offers group.slot

theorem ComponentUsage.agrees_untraced (arena : Arena) (component : Nat) :
    (untraced component).Agrees arena := by
  constructor <;> simp [untraced]

theorem agrees_traceComponent (unit : SourceUnit) (arena : Arena) (resolver : Resolver)
    (first component : Nat) (shape : Shape) :
    (traceComponent unit arena resolver first component shape).usage.Agrees arena := by
  cases hwalked : (traceComponent unit arena resolver first component shape).usage.walked with
  | false =>
      rw [usage_traceComponent_of_not_walked hwalked]
      exact ComponentUsage.agrees_untraced arena component
  | true =>
      obtain ⟨body, hbody, contents, rfl, husage⟩ := exists_contents_of_walked hwalked
      -- an arbitrary body: nothing is said here about how often an element is read
      have hslots := ((unit.tracer arena resolver shape).accounts_read nestingLimit
        body.bodyReading body False.elim).slots
      rw [husage]
      constructor
      · intro name slot
        exact Content.mem_uses_forward_iff first
      · intro name use hmem
        exact Content.slot?_of_mem_uses hmem
      · intro group hgroup
        obtain ⟨entry, hentry, rfl⟩ := List.mem_map.1 hgroup
        exact hslots entry.1 (List.fst_mem_of_mem_zipIdx hentry)

/-- **The two records of forwarding agree.** Without cancellation every component is traced. In
every outcome a component that can be traced has a usage whose uses and groups tell the same, any
other one leaves nothing, and group numbers ascend over all components in their order. -/
theorem forwarding_records_agree (unit : SourceUnit) (arena : Arena) (inquiry : Inquiry)
    (first : Nat) (shapes : List (Shape × Nat)) :
    (∃ usages, traceAll unit arena (.quiet inquiry.resolver) first .fresh shapes =
      .ok (usages, .fresh)) ∧
    ∀ token usages token',
      traceAll unit arena inquiry first token shapes = .ok (usages, token') →
        List.Forall₂ (fun (entry : Shape × Nat) usage =>
          usage.component = entry.2 ∧
          (usage.walked = true ↔ Traceable unit arena inquiry.resolver entry.1) ∧
          (usage.walked = false → usage = .untraced entry.2) ∧
          usage.Agrees arena) shapes usages ∧
        ((usages.flatMap (·.groups)).map (·.id)).Pairwise (· < ·) := by
  refine ⟨exists_traceAll_quiet unit arena inquiry.resolver first shapes, ?_⟩
  intro token usages token' htraced
  constructor
  · refine (forall₂_traceAll htraced).imp ?_
    rintro ⟨shape, component⟩ usage ⟨start, rfl⟩
    exact ⟨component_traceComponent, walked_traceComponent_iff, usage_traceComponent_of_not_walked,
      agrees_traceComponent unit arena inquiry.resolver start component shape⟩
  · obtain ⟨count, hids⟩ := groupIds_traceAll htraced
    exact (List.pairwise_lt_range' 1).sublist hids

theorem relay_records_agree :
    ∃ arena shapes usages,
      traceAll relayUnit arena (.quiet .blind) 0 .fresh shapes = .ok (usages, .fresh) ∧
      ((usages.flatMap (·.groups)).map (·.id)).Pairwise (· < ·) ∧
      ∃ usage ∈ usages, ("a", .forward ⟨0, "a"⟩) ∈ usage.uses ∧
        (∃ group ∈ usage.groups, group.slot = ⟨0, "a"⟩ ∧ "a" ∈ group.forwards) ∧
        arena.Offers ⟨0, "a"⟩ := by
  obtain ⟨usages, htraced⟩ := exists_traceAll_quiet relayUnit
    (Extraction.ofUnit relayConfig relayUnit).arena .blind 0
    (Extraction.ofUnit relayConfig relayUnit).shapes.zipIdx
  obtain ⟨hagree, hids⟩ := (forwarding_records_agree relayUnit
    (Extraction.ofUnit relayConfig relayUnit).arena (.quiet .blind) 0
    (Extraction.ofUnit relayConfig relayUnit).shapes.zipIdx).2 .fresh usages .fresh htraced
  have houter : (traceAll relayUnit (Extraction.ofUnit relayConfig relayUnit).arena (.quiet .blind)
      0 .fresh (Extraction.ofUnit relayConfig relayUnit).shapes.zipIdx).toOption.any
        (fun result => decide (∃ usage ∈ result.1, ("a", .forward ⟨0, "a"⟩) ∈ usage.uses)) =
      true := by
    decide +kernel
  rw [htraced] at houter
  obtain ⟨usage, husage, hforward⟩ := of_decide_eq_true houter
  obtain ⟨-, -, -, -, -, hsame⟩ := exists_left_of_mem hagree husage
  obtain ⟨group, hgroup, hslot, hname⟩ := (hsame.forward_iff "a" ⟨0, "a"⟩).1 hforward
  exact ⟨_, _, usages, htraced, hids, usage, husage, hforward, ⟨group, hgroup, hslot, hname⟩,
    hslot ▸ hsame.offered group hgroup⟩

end RenderAudit
