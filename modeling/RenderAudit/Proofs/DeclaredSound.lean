import RenderAudit.Declared
import RenderAudit.Proofs.ArenaSound

/-!
# Declared graphs stay within their arena

A tag names a property of its scope or what its name stands for anywhere. In a sound arena both are
found without a fault, and what they refer to exists. So the declared graph is built to its end, and
all its edges run between declarations of the arena.
-/

namespace RenderAudit

namespace Target

/-- What a name of a source can stand for: a component of the arena, a host element, or something
opaque. -/
def Named (arena : Arena) (target : Target) : Prop :=
  match target.kind with
  | .component => ∃ id, target.ref = some id ∧ id < arena.components.length
  | .intrinsic | .external | .unresolved => True
  | .property | .wildcard => False

/-- What a tag can declare: a component or a property of the arena, or something without an id. A
property beside one without owner is known by its name only. -/
def Declared (arena : Arena) (target : Target) : Prop :=
  match target.kind with
  | .component => ∃ id, target.ref = some id ∧ id < arena.components.length
  | .property => ∀ id, target.ref = some id → id < arena.properties.length
  | .intrinsic | .external | .unresolved | .wildcard => True

variable {arena : Arena} {target : Target}

theorem Named.declared (hnamed : target.Named arena) : target.Declared arena := by
  unfold Named at hnamed
  unfold Declared
  cases hkind : target.kind <;> simp_all

end Target

/-- Answers for every name, if only that it is not known. -/
def Resolver.Total (resolver : Resolver) : Prop :=
  ∀ name, resolver.lookup name ≠ .failed

namespace Arena

variable {arena : Arena} {resolver : Resolver}

theorem Holds.hasOwner {tag : Tag} (hholds : arena.Holds tag) : arena.HasOwner tag.owner := by
  unfold Holds at hholds
  split at hholds
  · next howner =>
    rw [howner]
    exact hholds
  · next howner =>
    obtain ⟨position, property, rfl, hget, -⟩ := hholds
    rw [howner]
    exact inRange_natCast.2 (List.getElem?_eq_some_iff.1 hget).1

theorem named_of_targetOf? (hsound : arena.Sound) {name : String} {target : Target}
    (htarget : arena.targetOf? resolver name = some target) : target.Named arena := by
  unfold targetOf? at htarget
  split at htarget
  · next found hfound =>
    cases htarget
    exact ⟨found.id, rfl, hsound.componentNamed?_lt hfound⟩
  · split at htarget
    · cases htarget
      trivial
    · split at htarget
      · cases htarget
        trivial
      · cases htarget
        trivial
      · cases htarget

theorem exists_targetOf?_eq_some (htotal : resolver.Total) (arena : Arena) (name : String) :
    ∃ target, arena.targetOf? resolver name = some target := by
  unfold targetOf?
  split
  · exact ⟨_, rfl⟩
  · split
    · exact ⟨_, rfl⟩
    · split
      · exact ⟨_, rfl⟩
      · exact ⟨_, rfl⟩
      · next hfailed => exact absurd hfailed (htotal name)

/-- The scope of a tag that belongs to something is known, and what is found there exists. -/
theorem exists_scoped?_eq_ok (hsound : arena.Sound) {owner : TagOwner}
    (howner : arena.HasOwner owner) (name : String) :
    ∃ found, arena.scoped? owner name = .ok found ∧
      ∀ target, found = some target → target.Declared arena := by
  have howned : ∀ id target,
      (arena.propertyOf? id name).map (fun property => Target.property property.id property.name) =
        some target → target.Declared arena := by
    intro id target htarget
    obtain ⟨property, hproperty, rfl⟩ := Option.map_eq_some_iff.1 htarget
    rintro _ ⟨⟩
    exact hsound.propertyOf?_lt hproperty
  cases owner with
  | component id => exact ⟨_, rfl, howned id⟩
  | property id =>
      obtain ⟨property, -, hproperty⟩ := exists_property_eq_ok howner
      unfold scoped?
      dsimp only
      rw [hproperty]
      simp only [bind, Except.bind, pure, Except.pure]
      by_cases hname : name = property.name
      · rw [if_pos hname]
        exact ⟨none, rfl, by simp⟩
      rw [if_neg hname]
      cases property.owner with
      | some owner => exact ⟨_, rfl, howned owner⟩
      | none =>
          dsimp only
          split
          · refine ⟨_, rfl, ?_⟩
            rintro target ⟨⟩ id hid
            cases hid
          · exact ⟨none, rfl, by simp⟩

/-- Resolving a tag that belongs to something ends in one of the regular ways. -/
theorem declared_tagTarget (hsound : arena.Sound) {tag : Tag} (hmem : tag ∈ arena.tags) :
    (arena.tagTarget resolver tag).Declared arena := by
  obtain ⟨found, hfound, hdeclared⟩ :=
    exists_scoped?_eq_ok hsound (hsound.holds tag hmem).hasOwner tag.target
  unfold tagTarget
  split
  · trivial
  · rw [hfound]
    cases found with
    | some target => exact hdeclared target rfl
    | none =>
        cases htarget : arena.targetOf? resolver tag.target with
        | none => trivial
        | some target => exact (named_of_targetOf? hsound htarget).declared

theorem Sound.resolveTags (hsound : arena.Sound) (resolver : Resolver) :
    (arena.resolveTags resolver).Sound where
  components := hsound.components
  properties := hsound.properties
  owner_lt := hsound.owner_lt
  tags_lt property hmem tag htag := by
    rw [Arena.resolveTags, List.length_map]
    exact hsound.tags_lt property hmem tag htag
  byName_lt := hsound.byName_lt
  byOwner_lt := hsound.byOwner_lt
  holds tag hmem := by
    obtain ⟨unresolved, hstored, rfl⟩ := List.mem_map.1 hmem
    exact hsound.holds unresolved hstored

theorem declared_of_mem_resolveTags (hsound : arena.Sound) {tag : Tag}
    (hmem : tag ∈ (arena.resolveTags resolver).tags) {target : Target}
    (hresolved : tag.resolved = some target) : target.Declared arena := by
  obtain ⟨unresolved, hstored, rfl⟩ := List.mem_map.1 hmem
  cases hresolved
  exact declared_tagTarget hsound hstored

end Arena

/-- An edge runs between declarations of the arena. -/
structure DeclaredEdge.Within (arena : Arena) (edge : DeclaredEdge) : Prop where
  source : Arena.InRange arena.components.length edge.source
  target : edge.target.Declared arena
  via_lt : ∀ id, edge.via = some id → id < arena.properties.length

namespace DeclaredGraph

structure Within (arena : Arena) (graph : DeclaredGraph) : Prop where
  edges : ∀ edge ∈ graph.edges, edge.Within arena
  slotTargets : ∀ id targets, graph.slotTargets.get? id = some targets →
    id < arena.properties.length ∧ ∀ entry ∈ targets, entry.1.Declared arena
  wildcard : ∀ id ∈ graph.wildcard, Arena.InRange arena.components.length id
  optedIn : ∀ id ∈ graph.optedIn, Arena.InRange arena.components.length id
  findings : ∀ finding ∈ graph.findings, finding.kind = .unresolvedTarget

variable {arena : Arena} {graph : DeclaredGraph}

theorem within_empty (arena : Arena) : empty.Within arena := by
  constructor <;> simp [empty, Table.empty, Table.get?]

namespace Within

theorem addEdge (hwithin : graph.Within arena) {edge : DeclaredEdge} (hedge : edge.Within arena) :
    (graph.addEdge edge).Within arena := by
  unfold DeclaredGraph.addEdge
  split
  · exact hwithin
  · refine { hwithin with edges := ?_ }
    intro other hmem
    rcases List.mem_append.1 hmem with hmem | hmem
    · exact hwithin.edges other hmem
    · rw [List.mem_singleton.1 hmem]
      exact hedge

theorem addComponentTag (hwithin : graph.Within arena) {component : Int}
    (hcomponent : Arena.InRange arena.components.length component) {target : Target}
    (htarget : target.Declared arena) (span : Span) :
    (graph.addComponentTag component target span).Within arena := by
  have hopted : ({ graph with optedIn := component :: graph.optedIn }).Within arena :=
    { hwithin with optedIn := List.forall_mem_cons.2 ⟨hcomponent, hwithin.optedIn⟩ }
  unfold DeclaredGraph.addComponentTag
  dsimp only
  split
  · exact { hopted with wildcard := List.forall_mem_cons.2 ⟨hcomponent, hwithin.wildcard⟩ }
  · exact hopted.addEdge ⟨hcomponent, htarget, by simp⟩

theorem addSlotTarget (hwithin : graph.Within arena) {property : Nat}
    (hproperty : property < arena.properties.length) {target : Target}
    (htarget : target.Declared arena) (span : Span) :
    (graph.addSlotTarget property target span).Within arena := by
  unfold DeclaredGraph.addSlotTarget
  dsimp only
  split
  · exact hwithin
  · refine { hwithin with slotTargets := ?_ }
    intro id targets hget
    rw [Table.get?_insert] at hget
    split at hget
    · next heq =>
      subst heq
      cases hget
      refine ⟨hproperty, ?_⟩
      intro entry hmem
      rcases List.mem_append.1 hmem with hmem | hmem
      · cases hold : graph.slotTargets.get? property with
        | none => simp [hold] at hmem
        | some targets =>
            rw [hold] at hmem
            exact (hwithin.slotTargets property targets hold).2 entry hmem
      · rw [List.mem_singleton.1 hmem]
        exact htarget
    · exact hwithin.slotTargets id targets hget

theorem addPropertyTag (hwithin : graph.Within arena) (hsound : arena.Sound) {property : Property}
    (hmem : property ∈ arena.properties) {target : Target} (htarget : target.Declared arena)
    (span : Span) : (graph.addPropertyTag property target span).Within arena := by
  have hproperty := hsound.properties.lt_length hmem
  unfold DeclaredGraph.addPropertyTag
  split
  · exact hwithin
  · next owner howner =>
    split
    · have hslot := hwithin.addSlotTarget hproperty htarget span
      dsimp only
      split
      · exact hslot
      · refine hslot.addEdge ⟨hsound.owner_lt property hmem owner howner, htarget, ?_⟩
        rintro id ⟨⟩
        exact hproperty
    · exact hwithin

/-- A tag that belongs to something is entered without a fault. -/
theorem exists_addTag_eq_ok (hwithin : graph.Within arena) (hsound : arena.Sound) {tag : Tag}
    (howner : arena.HasOwner tag.owner)
    (hresolved : ∀ target, tag.resolved = some target → target.Declared arena) :
    ∃ next, addTag arena graph tag = .ok next ∧ next.Within arena := by
  unfold addTag
  split
  · exact ⟨graph, rfl, hwithin⟩
  · next target htarget =>
    have hdeclared := hresolved target htarget
    split
    · refine ⟨_, rfl, { hwithin with findings := ?_ }⟩
      intro finding hmem
      rcases List.mem_append.1 hmem with hmem | hmem
      · exact hwithin.findings finding hmem
      · rw [List.mem_singleton.1 hmem]
        rfl
    · split
      · next id hid =>
        rw [hid] at howner
        exact ⟨_, rfl, hwithin.addComponentTag howner hdeclared tag.span⟩
      · next id hid =>
        rw [hid] at howner
        obtain ⟨property, hmem, hproperty⟩ := Arena.exists_property_eq_ok howner
        rw [hproperty]
        exact ⟨_, rfl, hwithin.addPropertyTag hsound hmem hdeclared tag.span⟩

end Within

theorem exists_ofArena_eq_ok (hsound : arena.Sound) (resolver : Resolver) :
    ∃ declared, ofArena (arena.resolveTags resolver) = .ok declared ∧
      declared.Within (arena.resolveTags resolver) := by
  have hresolved := hsound.resolveTags resolver
  unfold ofArena
  refine exists_foldlM_eq_ok ?_ (within_empty _)
  intro graph hwithin tag hmem
  refine hwithin.exists_addTag_eq_ok hresolved (hresolved.holds tag hmem).hasOwner ?_
  intro target htarget
  exact Arena.declared_of_mem_resolveTags hsound hmem htarget

end DeclaredGraph

end RenderAudit
