import RenderAudit.Proofs.DeclaredSound
import RenderAudit.Proofs.ReportOrder
import RenderAudit.Proofs.StoredTags

/-!
# The declared graph is an image of the tags

The tags of an arena are entered one after the other, and each of them adds at most one edge, at most
one target of a slot, and at most one finding. What they add is read off a tag by itself. So the
graph can be described without the loop: its edges are those of all tags, each with the first tag
that asks for it, and its slots hold the targets of their own tags. A tag that says again what
another tag says changes nothing.
-/

namespace RenderAudit

/-! ### The first element of each key, kept step by step -/

section KeepFirst

variable {α β κ : Type} [BEq κ] {key : β → κ}

/-- Adds an element unless one with its key is there. -/
def keepFirst (key : β → κ) (kept : List β) : Option β → List β
  | none => kept
  | some x => if (kept.map key).contains (key x) then kept else kept ++ [x]

@[simp]
theorem keepFirst_none (kept : List β) : keepFirst key kept none = kept := rfl

variable [LawfulBEq κ]

theorem keepFirst_of_mem {kept : List β} {x : β} (hmem : key x ∈ kept.map key) :
    keepFirst key kept (some x) = kept :=
  if_pos (List.contains_iff_mem.2 hmem)

theorem keepFirst_of_notMem {kept : List β} {x : β} (hnew : key x ∉ kept.map key) :
    keepFirst key kept (some x) = kept ++ [x] :=
  if_neg (mt List.contains_iff_mem.1 hnew)

theorem firstsBy_filterMap_concat (read : α → Option β) (xs : List α) (x : α) :
    firstsBy key [] ((xs ++ [x]).filterMap read) =
      keepFirst key (firstsBy key [] (xs.filterMap read)) (read x) := by
  rw [List.filterMap_append]
  cases hread : read x with
  | none => simp [hread]
  | some y =>
      have hlast : [x].filterMap read = [y] := by simp [hread]
      rw [hlast]
      by_cases hmem : key y ∈ (xs.filterMap read).map key
      · rw [keepFirst_of_mem (mem_map_firstsBy_iff.2 hmem), firstsBy_concat_of_mem (.inr hmem)]
      · rw [keepFirst_of_notMem (mt mem_map_firstsBy_iff.1 hmem),
          firstsBy_concat_of_notMem List.not_mem_nil hmem]

/-- An element that reads like an earlier one is not kept. -/
theorem keepFirst_of_read {read : α → Option β} {xs : List α} {x again : α} (hx : x ∈ xs)
    (hread : (read again).map key = (read x).map key) :
    keepFirst key (firstsBy key [] (xs.filterMap read)) (read again) =
      firstsBy key [] (xs.filterMap read) := by
  cases hagain : read again with
  | none => rfl
  | some y =>
      apply keepFirst_of_mem
      rw [hagain, Option.map_some, eq_comm, Option.map_eq_some_iff] at hread
      obtain ⟨z, hz, hkey⟩ := hread
      rw [mem_map_firstsBy_iff, ← hkey]
      exact List.mem_map_of_mem (List.mem_filterMap.2 ⟨x, hx, hz⟩)

end KeepFirst

/-! ### What a single tag says -/

def TagOwner.property? : TagOwner → Option Nat
  | .property (.ofNat id) => some id
  | _ => none

@[simp]
theorem TagOwner.property?_component (id : Int) : (TagOwner.component id).property? = none := rfl

@[simp]
theorem TagOwner.property?_natCast (id : Nat) :
    (TagOwner.property (id : Int)).property? = some id := rfl

namespace Tag

/-- What a tag names, if that is known. -/
def named? (tag : Tag) : Option Target :=
  tag.resolved.filter (·.kind ≠ .unresolved)

def isUnresolved (tag : Tag) : Bool :=
  tag.resolved.any (·.kind = .unresolved)

/-- What a tag on a property says about the content of that property. -/
def entryOn? (property : Nat) (tag : Tag) : Option (Target × Span) :=
  if tag.owner = .property property then tag.named?.map fun target => (target, tag.span) else none

/-- A resolved tag of the component itself. -/
def OptsIn (tag : Tag) (component : Int) : Prop :=
  tag.owner = .component component ∧
    ∃ target, tag.resolved = some target ∧ target.kind ≠ .unresolved

/-- A tag of the component itself for arbitrary content. -/
def Frees (tag : Tag) (component : Int) : Prop :=
  tag.owner = .component component ∧ ∃ target, tag.resolved = some target ∧ target.kind = .wildcard

theorem named?_eq_some_iff {tag : Tag} {target : Target} :
    tag.named? = some target ↔ tag.resolved = some target ∧ target.kind ≠ .unresolved := by
  simp [named?, Option.filter_eq_some_iff]

theorem isUnresolved_of_named? {tag : Tag} {target : Target} (hnamed : tag.named? = some target) :
    tag.isUnresolved = false := by
  obtain ⟨hresolved, hkind⟩ := named?_eq_some_iff.1 hnamed
  simp [isUnresolved, hresolved, hkind]

end Tag

namespace Arena

/-- The component that a tag with this owner speaks for. -/
def speaker? (arena : Arena) : TagOwner → Option Int
  | .component id => some id
  | .property (.ofNat id) =>
      arena.properties[id]?.bind fun property =>
        if property.renderable then property.owner else none
  | .property (.negSucc _) => none

/-- A tag stands on the component, or on a renderable property of it. -/
def SpeaksFor (arena : Arena) (owner : TagOwner) (component : Int) : Prop :=
  owner = .component component ∨
    ∃ property ∈ arena.properties, owner = .property property.id ∧
      property.renderable = true ∧ property.owner = some component

/-- A tag declares that a component renders a definite target. -/
structure Declares (arena : Arena) (tag : Tag) (component : Int) (target : Target) : Prop where
  resolved : tag.resolved = some target
  known : target.kind ≠ .unresolved
  definite : target.kind ≠ .wildcard
  speaks : arena.SpeaksFor tag.owner component

/-- The edge that a tag asks for. -/
def edgeOf? (arena : Arena) (tag : Tag) : Option DeclaredEdge :=
  match tag.named?, arena.speaker? tag.owner with
  | some target, some component =>
      if target.kind = .wildcard then none
      else some ⟨component, target, tag.span, tag.owner.property?⟩
  | _, _ => none

def entryOf? (arena : Arena) (property : Nat) (tag : Tag) : Option (Target × Span) :=
  if (arena.speaker? (.property property)).isSome then tag.entryOn? property else none

variable {arena : Arena}

/-- A tag on one property has nothing to say about another. -/
theorem entryOf?_of_owner {tag : Tag} {id property : Nat} (howner : tag.owner = .property id)
    (hne : id ≠ property) : arena.entryOf? property tag = none := by
  have hother : ¬tag.owner = .property property := by
    rw [howner, TagOwner.property.injEq]
    omega
  rw [entryOf?, Tag.entryOn?, if_neg hother, ite_self]

theorem speaker?_natCast (arena : Arena) (id : Nat) :
    arena.speaker? (.property (id : Int)) = arena.properties[id]?.bind fun property =>
      if property.renderable then property.owner else none := rfl

theorem Sound.speaker?_eq_some_iff (hsound : arena.Sound) {owner : TagOwner} {component : Int} :
    arena.speaker? owner = some component ↔ arena.SpeaksFor owner component := by
  unfold SpeaksFor
  match owner with
  | .component id => simp [speaker?]
  | .property (.ofNat id) =>
      simp only [speaker?, Option.bind_eq_some_iff, Option.ite_none_right_eq_some,
        reduceCtorEq, TagOwner.property.injEq, Int.ofNat_eq_natCast, Int.natCast_inj, false_or]
      constructor
      · rintro ⟨property, hget, hrenderable, howner⟩
        exact ⟨property, List.mem_of_getElem? hget, (hsound.properties id property hget).symm,
          hrenderable, howner⟩
      · rintro ⟨property, hmem, rfl, hrenderable, howner⟩
        exact ⟨property, hsound.properties.getElem?_eq_some hmem, hrenderable, howner⟩
  | .property (.negSucc back) => simp [speaker?]

theorem Sound.edgeOf?_eq_some_iff (hsound : arena.Sound) {tag : Tag} {edge : DeclaredEdge} :
    arena.edgeOf? tag = some edge ↔
      arena.Declares tag edge.source edge.target ∧ edge.span = tag.span ∧
        edge.via = tag.owner.property? := by
  constructor
  · intro hedge
    unfold edgeOf? at hedge
    split at hedge
    · next target component hnamed hspeaker =>
      obtain ⟨hresolved, hknown⟩ := Tag.named?_eq_some_iff.1 hnamed
      split at hedge
      · cases hedge
      · next hdefinite =>
        cases hedge
        exact ⟨⟨hresolved, hknown, hdefinite, hsound.speaker?_eq_some_iff.1 hspeaker⟩, rfl, rfl⟩
    · cases hedge
  · rintro ⟨⟨hresolved, hknown, hdefinite, hspeaks⟩, hspan, hvia⟩
    have hnamed := Tag.named?_eq_some_iff.2 ⟨hresolved, hknown⟩
    have hspeaker := hsound.speaker?_eq_some_iff.2 hspeaks
    simp only [edgeOf?, hnamed, hspeaker, if_neg hdefinite]
    rw [← hspan, ← hvia]

end Arena

/-! ### What one step of the loop does -/

def DeclaredEdge.identity (edge : DeclaredEdge) : Int × Key :=
  (edge.source, edge.target.key)

namespace DeclaredGraph

def targetsAt (graph : DeclaredGraph) (property : Nat) : List (Target × Span) :=
  (graph.slotTargets.get? property).getD []

theorem addEdge_eq (graph : DeclaredGraph) (edge : DeclaredEdge) :
    graph.addEdge edge =
      { graph with edges := keepFirst DeclaredEdge.identity graph.edges (some edge) } := by
  have hdeclares : graph.declares edge.source edge.target.key = true ↔
      edge.identity ∈ graph.edges.map DeclaredEdge.identity := by
    simp only [declares, edgesFrom, List.any_eq_true, List.mem_filter, decide_eq_true_eq,
      List.mem_map, DeclaredEdge.identity, Prod.mk.injEq, and_assoc]
  unfold addEdge
  by_cases hmem : edge.identity ∈ graph.edges.map DeclaredEdge.identity
  · rw [if_pos (hdeclares.2 hmem), keepFirst_of_mem hmem]
  · rw [if_neg (mt hdeclares.1 hmem), keepFirst_of_notMem hmem]

theorem addSlotTarget_spec (graph : DeclaredGraph) (property : Nat) (target : Target)
    (span : Span) :
    ∃ table, graph.addSlotTarget property target span = { graph with slotTargets := table } ∧
      (∀ id, (table.get? id).getD [] =
        if property = id then keepFirst (·.1.key) (graph.targetsAt id) (some (target, span))
        else graph.targetsAt id) ∧
      (target.key ∈ (graph.targetsAt property).map (·.1.key) → table = graph.slotTargets) := by
  have hany : ((graph.slotTargets.get? property).getD []).any (·.1.key = target.key) = true ↔
      target.key ∈ (graph.targetsAt property).map (·.1.key) := by
    simp only [List.any_eq_true, decide_eq_true_eq, List.mem_map, targetsAt]
  unfold addSlotTarget
  dsimp only
  by_cases hmem : target.key ∈ (graph.targetsAt property).map (·.1.key)
  · rw [if_pos (hany.2 hmem)]
    refine ⟨graph.slotTargets, rfl, ?_, fun _ => rfl⟩
    intro id
    split
    · next heq =>
      subst heq
      exact (keepFirst_of_mem hmem).symm
    · rfl
  · rw [if_neg (mt hany.1 hmem)]
    refine ⟨_, rfl, ?_, fun hin => absurd hin hmem⟩
    intro id
    rw [Table.get?_insert]
    split
    · next heq =>
      subst heq
      exact (keepFirst_of_notMem hmem).symm
    · rfl

/-- What entering a tag does to each part of a graph. -/
structure Entered (arena : Arena) (tag : Tag) (graph next : DeclaredGraph) : Prop where
  edges : next.edges = keepFirst DeclaredEdge.identity graph.edges (arena.edgeOf? tag)
  targets : ∀ property, next.targetsAt property =
    keepFirst (·.1.key) (graph.targetsAt property) (arena.entryOf? property tag)
  -- The table is written to only if one of its lists changes.
  slotTargets : (∀ property, next.targetsAt property = graph.targetsAt property) →
    next.slotTargets = graph.slotTargets
  optedIn : ∀ component, component ∈ next.optedIn ↔ component ∈ graph.optedIn ∨ tag.OptsIn component
  wildcard : ∀ component,
    component ∈ next.wildcard ↔ component ∈ graph.wildcard ∨ tag.Frees component
  findings : next.findings =
    graph.findings ++ ([tag].filter Tag.isUnresolved).map unresolvedFinding

variable {arena : Arena} {graph next : DeclaredGraph} {tag : Tag}

theorem entered_of_unnamed (hnamed : tag.named? = none) :
    Entered arena tag graph
      { graph with
        findings := graph.findings ++ ([tag].filter Tag.isUnresolved).map unresolvedFinding } := by
  have hunresolved : ∀ target, tag.resolved = some target → target.kind = .unresolved := by
    intro target hresolved
    by_contra hkind
    rw [Tag.named?_eq_some_iff.2 ⟨hresolved, hkind⟩] at hnamed
    cases hnamed
  constructor
  · simp [Arena.edgeOf?, hnamed]
  · intro property
    simp [Arena.entryOf?, Tag.entryOn?, hnamed, targetsAt]
  · exact fun _ => rfl
  · intro component
    refine (or_iff_left ?_).symm
    rintro ⟨-, target, hresolved, hkind⟩
    exact hkind (hunresolved target hresolved)
  · intro component
    refine (or_iff_left ?_).symm
    rintro ⟨-, target, hresolved, hkind⟩
    rw [hunresolved target hresolved] at hkind
    cases hkind
  · rfl

theorem entered_addComponentTag {id : Int} {target : Target} (hnamed : tag.named? = some target)
    (howner : tag.owner = .component id) :
    Entered arena tag graph (graph.addComponentTag id target tag.span) := by
  obtain ⟨hresolved, hkind⟩ := Tag.named?_eq_some_iff.1 hnamed
  have hentry : ∀ property, arena.entryOf? property tag = none := by
    intro property
    simp [Arena.entryOf?, Tag.entryOn?, howner]
  have hquiet := Tag.isUnresolved_of_named? hnamed
  have hopts : ∀ component, tag.OptsIn component ↔ component = id := by
    intro component
    simp [Tag.OptsIn, howner, hresolved, hkind, eq_comm (a := id)]
  have hfrees : ∀ component, tag.Frees component ↔ component = id ∧ target.kind = .wildcard := by
    intro component
    simp [Tag.Frees, howner, hresolved, eq_comm (a := id)]
  unfold addComponentTag
  dsimp only
  by_cases hwild : target.kind = .wildcard
  · have hedge : arena.edgeOf? tag = none := by
      simp [Arena.edgeOf?, hnamed, howner, Arena.speaker?, hwild]
    rw [if_pos hwild]
    constructor <;> simp [hedge, hentry, hopts, hfrees, hquiet, hwild, targetsAt, or_comm]
  · have hedge : arena.edgeOf? tag = some ⟨id, target, tag.span, none⟩ := by
      simp [Arena.edgeOf?, hnamed, howner, Arena.speaker?, hwild]
    rw [if_neg hwild, addEdge_eq]
    constructor <;> simp [hedge, hentry, hopts, hfrees, hquiet, hwild, targetsAt, or_comm]

section OnProperty

variable {id : Nat} {target : Target} (hnamed : tag.named? = some target)
  (howner : tag.owner = .property id)

include hnamed howner

/-- A tag on a property that is not renderable, or has no owner, does nothing. -/
theorem entered_of_silent (hspeaker : arena.speaker? (.property id) = none) :
    Entered arena tag graph graph := by
  have hquiet := Tag.isUnresolved_of_named? hnamed
  have hedge : arena.edgeOf? tag = none := by simp [Arena.edgeOf?, howner, hspeaker]
  have hentry : ∀ property, arena.entryOf? property tag = none := by
    intro property
    by_cases hproperty : id = property
    · simp [Arena.entryOf?, ← hproperty, hspeaker]
    · exact Arena.entryOf?_of_owner howner hproperty
  constructor <;> simp [hedge, hentry, Tag.OptsIn, Tag.Frees, howner, hquiet]

theorem entered_of_slot {owner : Int} {table : Table Nat (List (Target × Span))}
    (hspeaker : arena.speaker? (.property id) = some owner)
    (htable : ∀ property, (table.get? property).getD [] =
      if id = property then
        keepFirst (·.1.key) (graph.targetsAt property) (some (target, tag.span))
      else graph.targetsAt property)
    (hkept : target.key ∈ (graph.targetsAt id).map (·.1.key) → table = graph.slotTargets) :
    Entered arena tag graph
      { graph with
        edges := keepFirst DeclaredEdge.identity graph.edges (arena.edgeOf? tag)
        slotTargets := table } := by
  constructor
  · rfl
  · intro property
    refine (htable property).trans ?_
    by_cases hproperty : id = property
    · simp [Arena.entryOf?, Tag.entryOn?, howner, hnamed, hspeaker, ← hproperty]
    · simp [Arena.entryOf?_of_owner howner hproperty, hproperty]
  · intro hsame
    apply hkept
    by_contra hnew
    have hlonger := (htable id).symm.trans (hsame id)
    rw [if_pos rfl, keepFirst_of_notMem hnew] at hlonger
    simp at hlonger
  · simp [Tag.OptsIn, howner]
  · simp [Tag.Frees, howner]
  · simp [Tag.isUnresolved_of_named? hnamed]

end OnProperty

theorem entered_addPropertyTag {property : Property} {target : Target}
    (hnamed : tag.named? = some target) (howner : tag.owner = .property property.id)
    (hproperty : arena.properties[property.id]? = some property) :
    Entered arena tag graph (graph.addPropertyTag property target tag.span) := by
  unfold addPropertyTag
  split
  · next hnone =>
    exact entered_of_silent hnamed howner (by simp [Arena.speaker?_natCast, hproperty, hnone])
  · next owner hsome =>
    by_cases hrenderable : property.renderable = true
    · have hspeaker : arena.speaker? (.property property.id) = some owner := by
        simp [Arena.speaker?_natCast, hproperty, hrenderable, hsome]
      obtain ⟨table, hslot, htable, hkept⟩ := graph.addSlotTarget_spec property.id target tag.span
      have hentered := entered_of_slot hnamed howner hspeaker htable hkept
      rw [if_pos hrenderable]
      dsimp only
      rw [hslot]
      by_cases hwild : target.kind = .wildcard
      · have hedge : arena.edgeOf? tag = none := by
          simp [Arena.edgeOf?, hnamed, howner, hspeaker, hwild]
        rw [hedge] at hentered
        rw [if_pos hwild]
        exact hentered
      · have hedge : arena.edgeOf? tag = some ⟨owner, target, tag.span, some property.id⟩ := by
          simp [Arena.edgeOf?, hnamed, howner, hspeaker, hwild]
        rw [hedge] at hentered
        rw [if_neg hwild, addEdge_eq]
        exact hentered
    · rw [if_neg hrenderable]
      exact entered_of_silent hnamed howner
        (by simp [Arena.speaker?_natCast, hproperty, hrenderable])

theorem entered_addTag (hsound : arena.Sound) (hholder : arena.HasOwner tag.owner)
    (hadd : addTag arena graph tag = .ok next) :
    Entered arena tag graph next := by
  unfold addTag at hadd
  split at hadd
  · next hresolved =>
    cases hadd
    have hentered : Entered arena tag graph { graph with findings := graph.findings ++ _ } :=
      entered_of_unnamed (by simp [Tag.named?, hresolved])
    simpa [Tag.isUnresolved, hresolved] using hentered
  · next target hresolved =>
    split at hadd
    · next hkind =>
      cases hadd
      have hentered : Entered arena tag graph { graph with findings := graph.findings ++ _ } :=
        entered_of_unnamed (by simp [Tag.named?, hresolved, hkind])
      simpa [Tag.isUnresolved, hresolved, hkind] using hentered
    · next hkind =>
      have hnamed := Tag.named?_eq_some_iff.2 ⟨hresolved, hkind⟩
      split at hadd
      · next id howner =>
        cases hadd
        exact entered_addComponentTag hnamed howner
      · next id howner =>
        rw [howner] at hholder
        obtain ⟨position, -, rfl⟩ := Arena.InRange.exists_eq_natCast hholder
        obtain ⟨property, hproperty, hnext⟩ := bind_eq_ok_iff.1 hadd
        have hget := Arena.property_eq_ok_iff.1 hproperty
        obtain rfl := hsound.properties position property hget
        cases hnext
        exact entered_addPropertyTag hnamed howner hget

/-! ### The whole loop -/

/-- What the tags entered so far amount to. -/
structure Collected (arena : Arena) (done : List Tag) (graph : DeclaredGraph) : Prop where
  edges : graph.edges = firstsBy DeclaredEdge.identity [] (done.filterMap arena.edgeOf?)
  targets : ∀ property, graph.targetsAt property =
    firstsBy (·.1.key) [] (done.filterMap (arena.entryOf? property))
  optedIn : ∀ component, component ∈ graph.optedIn ↔ ∃ tag ∈ done, tag.OptsIn component
  wildcard : ∀ component, component ∈ graph.wildcard ↔ ∃ tag ∈ done, tag.Frees component
  findings : graph.findings = (done.filter Tag.isUnresolved).map unresolvedFinding

variable {done rest : List Tag} {last : DeclaredGraph}

theorem collected_empty (arena : Arena) : Collected arena [] empty := by
  constructor <;> simp [empty, targetsAt, Table.empty, Table.get?, firstsBy]

theorem Collected.enter (hcollected : Collected arena done graph)
    (hentered : Entered arena tag graph next) : Collected arena (done ++ [tag]) next where
  edges := by rw [firstsBy_filterMap_concat, ← hcollected.edges, hentered.edges]
  targets property := by
    rw [firstsBy_filterMap_concat, ← hcollected.targets, hentered.targets]
  optedIn component := by
    rw [hentered.optedIn, hcollected.optedIn]
    simp [or_and_right, exists_or]
  wildcard component := by
    rw [hentered.wildcard, hcollected.wildcard]
    simp [or_and_right, exists_or]
  findings := by
    rw [hentered.findings, hcollected.findings, List.filter_append, List.map_append]

theorem Collected.foldlM (hsound : arena.Sound) (hcollected : Collected arena done graph)
    (hholders : ∀ tag ∈ rest, arena.HasOwner tag.owner)
    (hfold : rest.foldlM (addTag arena) graph = .ok last) : Collected arena (done ++ rest) last := by
  induction rest generalizing done graph with
  | nil =>
      rw [List.foldlM_nil, pure_eq_ok_iff] at hfold
      rw [List.append_nil, ← hfold]
      exact hcollected
  | cons tag rest ih =>
      rw [List.foldlM_cons] at hfold
      obtain ⟨hfirst, hothers⟩ := List.forall_mem_cons.1 hholders
      obtain ⟨next, hadd, hrest⟩ := bind_eq_ok_iff.1 hfold
      have hnext := ih (hcollected.enter (entered_addTag hsound hfirst hadd)) hothers hrest
      rwa [List.append_assoc] at hnext

theorem collected_of_ofArena (hsound : arena.Sound) (hgraph : ofArena arena = .ok graph) :
    Collected arena arena.tags graph := by
  simpa using (collected_empty arena).foldlM hsound
    (fun tag hmem => (hsound.holds tag hmem).hasOwner) hgraph

/-- The graph is what the tags of an arena say, each edge once and with the first tag that asks for
it. -/
structure ImageOf (arena : Arena) (graph : DeclaredGraph) : Prop where
  edge_iff : ∀ component key,
    (∃ edge ∈ graph.edgesFrom component, edge.target.key = key) ↔
      ∃ tag ∈ arena.tags, ∃ target, arena.Declares tag component target ∧ target.key = key
  nodup_keys : ∀ component, ((graph.edgesFrom component).map (·.target.key)).Nodup
  edge_first : ∀ component, ∀ edge ∈ graph.edgesFrom component,
    ∃ tag ∈ arena.tags, arena.Declares tag component edge.target ∧
      edge.span = tag.span ∧ edge.via = tag.owner.property? ∧
      ∀ other ∈ arena.tags, ∀ target, arena.Declares other component target →
        target.key = edge.target.key → tag.id ≤ other.id
  targets : ∀ property ∈ arena.properties, graph.targetsAt property.id =
    if property.owner.isSome && property.renderable then
      firstsBy (·.1.key) [] (arena.tags.filterMap (Tag.entryOn? property.id))
    else []
  optedIn : ∀ component, component ∈ graph.optedIn ↔ ∃ tag ∈ arena.tags, tag.OptsIn component
  wildcard : ∀ component, component ∈ graph.wildcard ↔ ∃ tag ∈ arena.tags, tag.Frees component
  findings : graph.findings.map (fun finding => (finding.kind, finding.span, finding.details)) =
    (arena.tags.filter Tag.isUnresolved).map fun tag =>
      (.unresolvedTarget, tag.span,
        [("target", .text tag.target), ("reason", .text "no matching declaration")])

/-- The first edges of a source have different keys, so the edges of one source do. -/
theorem Collected.nodup_keys (hcollected : Collected arena done graph) (component : Int) :
    ((graph.edgesFrom component).map (·.target.key)).Nodup := by
  have hnodup : (graph.edges.map DeclaredEdge.identity).Nodup := by
    rw [hcollected.edges]
    exact nodup_map_firstsBy _ _
  rw [List.Nodup, List.pairwise_map] at hnodup ⊢
  unfold edgesFrom
  rw [List.pairwise_filter]
  refine hnodup.imp ?_
  intro first second hne hfirst hsecond hkey
  rw [decide_eq_true_eq] at hfirst hsecond
  exact hne (Prod.ext (hfirst.trans hsecond.symm) hkey)

theorem Collected.edge_iff (hsound : arena.Sound) (hcollected : Collected arena done graph)
    (component : Int) (key : Key) :
    (∃ edge ∈ graph.edgesFrom component, edge.target.key = key) ↔
      ∃ tag ∈ done, ∃ target, arena.Declares tag component target ∧ target.key = key := by
  have hidentity : (∃ edge ∈ graph.edgesFrom component, edge.target.key = key) ↔
      (component, key) ∈ graph.edges.map DeclaredEdge.identity := by
    simp only [edgesFrom, List.mem_filter, decide_eq_true_eq, List.mem_map, DeclaredEdge.identity,
      Prod.mk.injEq, and_assoc]
  rw [hidentity, hcollected.edges, mem_map_firstsBy_iff, List.mem_map]
  simp only [List.mem_filterMap]
  constructor
  · rintro ⟨edge, ⟨tag, htag, hedge⟩, hkey⟩
    obtain ⟨hdeclares, -, -⟩ := hsound.edgeOf?_eq_some_iff.1 hedge
    cases hkey
    exact ⟨tag, htag, edge.target, hdeclares, rfl⟩
  · rintro ⟨tag, htag, target, hdeclares, rfl⟩
    refine ⟨⟨component, target, tag.span, tag.owner.property?⟩, ⟨tag, htag, ?_⟩, rfl⟩
    exact hsound.edgeOf?_eq_some_iff.2 ⟨hdeclares, rfl, rfl⟩

theorem Collected.edge_first (hsound : arena.Sound) (hcollected : Collected arena done graph)
    (hnumbered : Numbered Tag.id done) {component : Int} {edge : DeclaredEdge}
    (hedge : edge ∈ graph.edgesFrom component) :
    ∃ tag ∈ done, arena.Declares tag component edge.target ∧
      edge.span = tag.span ∧ edge.via = tag.owner.property? ∧
      ∀ other ∈ done, ∀ target, arena.Declares other component target →
        target.key = edge.target.key → tag.id ≤ other.id := by
  obtain ⟨hmem, hsource⟩ := List.mem_filter.1 hedge
  rw [decide_eq_true_eq] at hsource
  rw [hcollected.edges] at hmem
  obtain ⟨before, after, hsplit, hnew⟩ := exists_before_of_mem_firstsBy hmem
  obtain ⟨early, late, rfl, hearly, hlate⟩ := List.filterMap_eq_append_iff.1 hsplit
  obtain ⟨silent, tag, rest, rfl, hsilent, hread, -⟩ := List.filterMap_eq_cons_iff.1 hlate
  obtain ⟨hdeclares, hspan, hvia⟩ := hsound.edgeOf?_eq_some_iff.1 hread
  rw [hsource] at hdeclares
  refine ⟨tag, by simp, hdeclares, hspan, hvia, ?_⟩
  intro other hother target hrival hkey
  have hsaid : arena.edgeOf? other = some ⟨component, target, other.span, other.owner.property?⟩ :=
    hsound.edgeOf?_eq_some_iff.2 ⟨hrival, rfl, rfl⟩
  rcases List.mem_append.1 hother with hother | hother
  · -- An earlier tag that asks for this edge would have been the first.
    have hbefore : ⟨component, target, other.span, other.owner.property?⟩ ∈ before := by
      rw [← hearly]
      exact List.mem_filterMap.2 ⟨other, hother, hsaid⟩
    exact absurd (List.mem_map.2 ⟨_, hbefore, Prod.ext hsource.symm hkey⟩) hnew
  · rcases List.mem_append.1 hother with hother | hother
    · rw [hsilent other hother] at hsaid
      cases hsaid
    · rcases List.mem_cons.1 hother with rfl | hother
      · exact Nat.le_refl _
      · have hordered := (List.pairwise_append.1 hnumbered.pairwise).2.1
        have hafter := (List.pairwise_append.1 hordered).2.1
        exact Nat.le_of_lt ((List.pairwise_cons.1 hafter).1 other hother)

theorem Collected.imageOf (hsound : arena.Sound) (hnumbered : Numbered Tag.id arena.tags)
    (hcollected : Collected arena arena.tags graph) : graph.ImageOf arena where
  edge_iff := hcollected.edge_iff hsound
  nodup_keys := hcollected.nodup_keys
  edge_first component edge hedge := hcollected.edge_first hsound hnumbered hedge
  targets property hmem := by
    have hget := hsound.properties.getElem?_eq_some hmem
    have hspeaker : (arena.speaker? (.property property.id)).isSome =
        (property.owner.isSome && property.renderable) := by
      cases hrenderable : property.renderable <;> simp [Arena.speaker?_natCast, hget, hrenderable]
    rw [hcollected.targets]
    unfold Arena.entryOf?
    rw [hspeaker]
    split
    · rfl
    · rw [List.filterMap_none, firstsBy]
  optedIn := hcollected.optedIn
  wildcard := hcollected.wildcard
  findings := by
    rw [hcollected.findings, List.map_map]
    rfl

/-! ### Tags that say the same -/

/-- Two graphs with the same edges, slots and components that declare something or anything. -/
structure Alike (graph later : DeclaredGraph) : Prop where
  edges : later.edges = graph.edges
  slotTargets : later.slotTargets = graph.slotTargets
  optedIn : ∀ component, component ∈ later.optedIn ↔ component ∈ graph.optedIn
  wildcard : ∀ component, component ∈ later.wildcard ↔ component ∈ graph.wildcard

theorem Collected.alike_of_entered (hcollected : Collected arena done graph) (hmem : tag ∈ done)
    {again : Tag} (howner : again.owner = tag.owner) (hresolved : again.resolved = tag.resolved)
    (hentered : Entered arena again graph next) : graph.Alike next := by
  have hnamed : again.named? = tag.named? := by rw [Tag.named?, Tag.named?, hresolved]
  have htargets : ∀ property, next.targetsAt property = graph.targetsAt property := by
    intro property
    rw [hentered.targets, hcollected.targets]
    apply keepFirst_of_read hmem
    unfold Arena.entryOf? Tag.entryOn?
    rw [howner, hnamed]
    split
    · split
      · rw [Option.map_map, Option.map_map]
        rfl
      · rfl
    · rfl
  constructor
  · rw [hentered.edges, hcollected.edges]
    apply keepFirst_of_read hmem
    unfold Arena.edgeOf?
    rw [howner, hnamed]
    split
    · split <;> rfl
    · rfl
  · exact hentered.slotTargets htargets
  · intro component
    have hsame : again.OptsIn component ↔ tag.OptsIn component := by
      rw [Tag.OptsIn, Tag.OptsIn, howner, hresolved]
    rw [hentered.optedIn, hsame]
    refine or_iff_left_of_imp ?_
    intro hopts
    exact (hcollected.optedIn component).2 ⟨tag, hmem, hopts⟩
  · intro component
    have hsame : again.Frees component ↔ tag.Frees component := by
      rw [Tag.Frees, Tag.Frees, howner, hresolved]
    rw [hentered.wildcard, hsame]
    refine or_iff_left_of_imp ?_
    intro hfrees
    exact (hcollected.wildcard component).2 ⟨tag, hmem, hfrees⟩

end DeclaredGraph

namespace Arena

variable {arena later : Arena}

namespace SameProperties

theorem getElem? (hsame : arena.SameProperties later) (id : Nat) :
    later.properties[id]?.map Property.untagged = arena.properties[id]?.map Property.untagged := by
  rw [← List.getElem?_map, hsame, List.getElem?_map]

theorem length_eq (hsame : arena.SameProperties later) :
    later.properties.length = arena.properties.length := by
  simpa using congrArg List.length hsame

/-- What does not look at the tags of a property goes on alike. -/
theorem property_bind {α : Type} (hsame : arena.SameProperties later) (id : Int)
    {next : Property → Except Fault α}
    (hnext : ∀ property : Property, next property.untagged = next property) :
    later.property id >>= next = arena.property id >>= next := by
  have huntagged : ((position? later.properties.length id).bind (later.properties[·]?)).map
      Property.untagged = ((position? arena.properties.length id).bind (arena.properties[·]?)).map
        Property.untagged := by
    rw [hsame.length_eq, Option.map_bind, Option.map_bind]
    exact Option.bind_congr fun position _ => hsame.getElem? position
  unfold Arena.property
  cases hlater : (position? later.properties.length id).bind (later.properties[·]?) with
  | none =>
      rw [hlater, Option.map_none, eq_comm, Option.map_eq_none_iff] at huntagged
      rw [huntagged]
  | some property =>
      rw [hlater, Option.map_some, eq_comm, Option.map_eq_some_iff] at huntagged
      obtain ⟨old, hold, hsame⟩ := huntagged
      rw [hold]
      exact (hnext property).symm.trans (hsame ▸ hnext old)

theorem propertyOf? (hsame : arena.SameProperties later) (howner : later.byOwner = arena.byOwner)
    (owner : Int) (name : String) :
    (later.propertyOf? owner name).map Property.untagged =
      (arena.propertyOf? owner name).map Property.untagged := by
  have hproperties : (later.propertiesOf owner).map Property.untagged =
      (arena.propertiesOf owner).map Property.untagged := by
    unfold propertiesOf
    rw [howner, List.map_filterMap, List.map_filterMap]
    exact List.filterMap_congr fun id _ => hsame.getElem? id
  have hfind : ∀ properties : List Property,
      (properties.find? (·.name = name)).map Property.untagged =
        (properties.map Property.untagged).find? (·.name = name) := by
    intro properties
    rw [List.find?_map]
    rfl
  unfold Arena.propertyOf?
  rw [hfind, hfind, hproperties]

theorem scoped? (hsame : arena.SameProperties later) (howner : later.byOwner = arena.byOwner)
    (owner : TagOwner) (name : String) :
    later.scoped? owner name = arena.scoped? owner name := by
  have howned : ∀ id,
      (later.propertyOf? id name).map (fun found => Target.property found.id found.name) =
        (arena.propertyOf? id name).map fun found => Target.property found.id found.name := by
    intro id
    have hfound := congrArg
      (Option.map fun found : Property => Target.property found.id found.name)
      (hsame.propertyOf? howner id name)
    rwa [Option.map_map, Option.map_map] at hfound
  unfold Arena.scoped?
  simp only [howned]
  cases owner with
  | component id => rfl
  | property id => exact hsame.property_bind id fun _ => rfl

end SameProperties

variable (arena : Arena) (resolver : Resolver) (owner : TagOwner) (target : String) (span : Span)
  (description : String)

theorem tagTarget_addTag (tag : Tag) :
    (arena.addTag owner target span description).2.tagTarget resolver tag =
      arena.tagTarget resolver tag := by
  have hscoped := (arena.sameProperties_addTag owner target span description).scoped?
    (arena.byOwner_addTag owner target span description)
  unfold tagTarget
  rw [hscoped]
  simp only [targetOf?, componentNamed?, byName_addTag, components_addTag]

/-- A further tag is resolved like an earlier one with its owner and target. -/
theorem tags_resolveTags_addTag :
    ((arena.addTag owner target span description).2.resolveTags resolver).tags =
      (arena.resolveTags resolver).tags ++
        [⟨arena.tags.length, owner, target, span, description,
          some (arena.tagTarget resolver ⟨arena.tags.length, owner, target, span, description, none⟩)⟩] := by
  simp only [resolveTags, tagTarget_addTag, tags_addTag, List.map_append, List.map_cons,
    List.map_nil]

end Arena

namespace DeclaredGraph

variable {arena later : Arena} {resolver : Resolver} {graph : DeclaredGraph}

theorem addTag_congr (hsame : arena.SameProperties later) (graph : DeclaredGraph) (tag : Tag) :
    addTag later graph tag = addTag arena graph tag := by
  unfold addTag
  split
  · rfl
  · split
    · rfl
    · split
      · rfl
      · exact hsame.property_bind _ fun _ => rfl

theorem exists_alike_of_addTag (hsound : arena.Sound)
    (hgraph : ofArena (arena.resolveTags resolver) = .ok graph) {existing : Tag}
    (hmem : existing ∈ arena.tags) (span : Span) (description : String) :
    ∃ later, ofArena ((arena.addTag existing.owner existing.target span description).2.resolveTags
        resolver) = .ok later ∧ graph.Alike later := by
  have howner := (hsound.holds existing hmem).hasOwner
  obtain ⟨later, hlater, -⟩ := exists_ofArena_eq_ok
    (hsound.addTag howner existing.target span description) resolver
  refine ⟨later, hlater, ?_⟩
  have hsame : (arena.resolveTags resolver).SameProperties
      ((arena.addTag existing.owner existing.target span description).2.resolveTags resolver) :=
    arena.sameProperties_addTag existing.owner existing.target span description
  -- The longer loop is the shorter one and one step, in which the tag is entered again.
  unfold ofArena at hgraph hlater
  rw [Arena.tags_resolveTags_addTag, funext₂ (addTag_congr hsame), List.foldlM_append] at hlater
  obtain ⟨middle, hmiddle, hstep⟩ := bind_eq_ok_iff.1 hlater
  rw [hgraph] at hmiddle
  cases hmiddle
  rw [List.foldlM_cons] at hstep
  obtain ⟨next, hadd, hnext⟩ := bind_eq_ok_iff.1 hstep
  rw [List.foldlM_nil, pure_eq_ok_iff] at hnext
  subst hnext
  have hresolved := hsound.resolveTags resolver
  refine (collected_of_ofArena hresolved hgraph).alike_of_entered (List.mem_map_of_mem hmem) ?_ ?_
    (entered_addTag hresolved (by exact howner) hadd)
  · rfl
  · rfl

end DeclaredGraph

theorem Arena.WellTagged.resolveTags {arena : Arena} (htagged : arena.WellTagged)
    (resolver : Resolver) : (arena.resolveTags resolver).WellTagged where
  numbered position tag hget := by
    rw [Arena.resolveTags, List.getElem?_map, Option.map_eq_some_iff] at hget
    obtain ⟨unresolved, hstored, rfl⟩ := hget
    exact htagged.numbered position unresolved hstored
  oneWord tag hmem := by
    obtain ⟨unresolved, hstored, rfl⟩ := List.mem_map.1 hmem
    exact htagged.oneWord unresolved hstored

/-- The declared graph of a source says what the resolved tags say, each edge and each target of a
slot once. A further tag with the owner and the target of an earlier one adds nothing to it. -/
theorem declared_graph_image (config : Config) (resolver : Resolver) (unit : SourceUnit) :
    let arena := (Extraction.ofUnit config unit).arena
    ∃ graph, DeclaredGraph.ofArena (arena.resolveTags resolver) = .ok graph ∧
      graph.ImageOf (arena.resolveTags resolver) ∧
      ∀ existing ∈ arena.tags, ∀ span description, ∃ later,
        DeclaredGraph.ofArena
          ((arena.addTag existing.owner existing.target span description).2.resolveTags resolver) =
            .ok later ∧ graph.Alike later := by
  intro arena
  have hsound : arena.Sound := (Extraction.sound_ofUnit config unit).arena
  have htagged : arena.WellTagged := (Extraction.wellTagged_ofUnit config unit).arena
  have hresolved := hsound.resolveTags resolver
  obtain ⟨graph, hgraph, -⟩ := DeclaredGraph.exists_ofArena_eq_ok hsound resolver
  refine ⟨graph, hgraph, ?_, ?_⟩
  · exact (DeclaredGraph.collected_of_ofArena hresolved hgraph).imageOf hresolved
      (htagged.resolveTags resolver).numbered
  · intro existing hmem span description
    exact DeclaredGraph.exists_alike_of_addTag hsound hgraph hmem span description

end RenderAudit
