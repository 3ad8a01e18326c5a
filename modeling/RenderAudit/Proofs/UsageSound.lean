import Mathlib.Data.List.Forall2
import RenderAudit.Analysis
import RenderAudit.Proofs.CycleReport
import RenderAudit.Proofs.DeclaredSound

/-!
# Traced bodies stay within their arena

Whatever a body looks like, an element in it stands for something that a name can stand for, and
content is supplied only to a slot of a component that has such a property. This holds of every piece
of content that is read, at any depth, and so of the usages that are gathered from it.
-/

namespace RenderAudit

/-- Content that refers to nothing outside of the arena, and so does all content in it. -/
inductive Content.Within (arena : Arena) : Content → Prop
  | instantiation {value : Instantiation} :
      value.target.Named arena → Content.Within arena (.instantiation value)
  | prop {name : String} : Content.Within arena (.prop name)
  | supply {slot : Slot} {span : Span} {inner : List Content} :
      slot.owner < arena.components.length → (∀ content ∈ inner, Content.Within arena content) →
        Content.Within arena (.supply slot span inner)
  | handOver {inner : List Content} :
      (∀ content ∈ inner, Content.Within arena content) → Content.Within arena (.handOver inner)
  | broken {fault : TraceFault} : Content.Within arena (.broken fault)

def Content.AllWithin (arena : Arena) (contents : List Content) : Prop :=
  ∀ content ∈ contents, content.Within arena

namespace Content

variable {arena : Arena} {α : Type}

theorem allWithin_nil : AllWithin arena [] := fun _ hmem => absurd hmem List.not_mem_nil

theorem allWithin_singleton {content : Content} (hcontent : content.Within arena) :
    AllWithin arena [content] := by
  intro other hmem
  rw [List.mem_singleton.1 hmem]
  exact hcontent

theorem AllWithin.append {first second : List Content} (hfirst : AllWithin arena first)
    (hsecond : AllWithin arena second) : AllWithin arena (first ++ second) :=
  List.forall_mem_append.2 ⟨hfirst, hsecond⟩

theorem allWithin_flatMap {items : List α} {read : α → List Content}
    (hread : ∀ item ∈ items, AllWithin arena (read item)) :
    AllWithin arena (items.flatMap read) := by
  intro content hmem
  obtain ⟨item, hitem, hcontent⟩ := List.mem_flatMap.1 hmem
  exact hread item hitem content hcontent

end Content

/-! ### Reading a body -/

namespace Tracer

open Content

section Readings

-- The recursive call of the reader; each reading keeps what it keeps.
variable {tracer : Tracer} {go : Reading → Node → List Content}
  (hgo : ∀ reading node, AllWithin tracer.arena (go reading node))

include hgo

theorem within_children (nodes : List Node) (reading : Reading) :
    AllWithin tracer.arena (nodes.flatMap (go reading)) :=
  allWithin_flatMap fun node _ => hgo reading node

theorem within_readField (node : Node) (field : String) (reading : Reading) :
    AllWithin tracer.arena (readField go node field reading) := by
  unfold readField
  split
  · exact allWithin_nil
  · exact hgo reading _

theorem within_scan (node : Node) : AllWithin tracer.arena (scan go node) := by
  unfold scan
  split
  · exact within_children hgo _ _
  · split
    · split
      · exact allWithin_nil
      · exact hgo _ _
    · exact within_children hgo _ _

theorem within_readBinary (node : Node) : AllWithin tracer.arena (tracer.readBinary go node) := by
  unfold readBinary
  dsimp only
  split
  · exact (within_readField hgo node _ _).append (within_readField hgo node _ _)
  · split
    · exact (within_readField hgo node _ _).append (within_readField hgo node _ _)
    · exact within_children hgo _ _

theorem within_readCall (node : Node) : AllWithin tracer.arena (readCall go node) := by
  apply (within_readField hgo node _ _).append
  split
  · exact allWithin_nil
  · apply allWithin_flatMap
    intro argument _
    unfold readArgument
    split
    · exact hgo _ argument
    · exact allWithin_singleton (.handOver (hgo _ argument))

theorem within_markup (node : Node) : AllWithin tracer.arena (tracer.markup go node) := by
  unfold markup
  split
  · exact allWithin_singleton .prop
  · split
    · exact within_children hgo _ _
    · split
      · exact ((within_readField hgo node _ _).append (within_readField hgo node _ _)).append
          (within_readField hgo node _ _)
      · split
        · exact within_readBinary hgo node
        · split
          · exact within_readCall hgo node
          · exact within_scan hgo node

theorem within_readAttribute (hsound : tracer.arena.Sound) (component : Nat) (entry : Attribute) :
    AllWithin tracer.arena (tracer.readAttribute go component entry) := by
  unfold readAttribute
  split
  · exact allWithin_nil
  · split
    · exact hgo _ _
    · split
      · next haccepts =>
        exact allWithin_singleton (.supply (hsound.acceptsContent_lt haccepts) (hgo _ _))
      · exact allWithin_singleton (.handOver (hgo _ _))

theorem within_readChildren (hsound : tracer.arena.Sound) (component : Nat) (element : Node) :
    AllWithin tracer.arena (tracer.readChildren go component element) := by
  have hcontent := within_children hgo element.elementChildren .markup
  unfold readChildren
  dsimp only
  split
  · exact allWithin_nil
  · split
    · next haccepts =>
      exact allWithin_singleton (.supply (hsound.acceptsContent_lt haccepts) hcontent)
    · exact hcontent

theorem within_readParts (hsound : tracer.arena.Sound) (target : Target) (element : Node) :
    AllWithin tracer.arena (tracer.readParts go target element) := by
  have hchildren := within_children hgo element.elementChildren .markup
  unfold readParts
  dsimp only
  split
  · exact (within_children hgo _ _).append hchildren
  · split
    · refine AllWithin.append ?_ (within_readChildren hgo hsound _ element)
      exact allWithin_flatMap fun entry _ => within_readAttribute hgo hsound _ entry
    · exact (allWithin_singleton (.handOver (within_children hgo _ _))).append
        (allWithin_singleton (.handOver hchildren))

theorem within_readElement (hsound : tracer.arena.Sound) (element : Node) :
    AllWithin tracer.arena (tracer.readElement go element) := by
  unfold readElement
  split
  · exact within_children hgo _ _
  · split
    · exact allWithin_singleton .broken
    · next target htarget =>
      exact (allWithin_singleton (.instantiation (Arena.named_of_targetOf? hsound htarget))).append
        (within_readParts hgo hsound target element)

end Readings

theorem within_read (tracer : Tracer) (hsound : tracer.arena.Sound) (limit : Nat)
    (reading : Reading) (node : Node) : AllWithin tracer.arena (tracer.read limit reading node) := by
  induction limit generalizing reading node with
  | zero => exact allWithin_singleton .broken
  | succ limit ih =>
      unfold read
      split
      · exact within_readElement ih hsound node
      · cases reading with
        | scan => exact within_scan ih node
        | markup => exact within_markup ih node

end Tracer

/-! ### Gathering usages -/

def Placement.Within (arena : Arena) : Placement → Prop
  | .slot supplied => supplied.owner < arena.components.length
  | .own | .outOfSight => True

namespace Content

variable {arena : Arena} {α : Type} {gather : Placement → Content → List α}

theorem mem_collectAll_iff {placement : Placement} {contents : List Content} {item : α} :
    item ∈ collectAll gather placement contents ↔
      ∃ content ∈ contents, item ∈ collect gather placement content := by
  induction contents with
  | nil => simp [collectAll]
  | cons content rest ih => simp [collectAll, ih]

/-- What is gathered from content within the arena, piece by piece. -/
theorem Within.forall_mem_collect {Fits : α → Prop}
    (hgather : ∀ placement content, placement.Within arena → content.Within arena →
      ∀ item ∈ gather placement content, Fits item)
    {content : Content} (hcontent : content.Within arena) {placement : Placement}
    (hplacement : placement.Within arena) :
    ∀ item ∈ collect gather placement content, Fits item := by
  induction hcontent generalizing placement with
  | instantiation hnamed => exact hgather placement _ hplacement (.instantiation hnamed)
  | prop => exact hgather placement _ hplacement .prop
  | broken => exact hgather placement _ hplacement .broken
  | @supply slot span inner hslot hinner ih =>
      intro item hmem
      rw [collect, List.mem_append, mem_collectAll_iff] at hmem
      rcases hmem with hmem | ⟨content, hcontent, hmem⟩
      · exact hgather placement _ hplacement (.supply hslot hinner) item hmem
      · have hinside : Placement.Within arena (.slot slot) := hslot
        exact ih content hcontent hinside item hmem
  | @handOver inner hinner ih =>
      intro item hmem
      rw [collect, List.mem_append, mem_collectAll_iff] at hmem
      rcases hmem with hmem | ⟨content, hcontent, hmem⟩
      · exact hgather placement _ hplacement (.handOver hinner) item hmem
      · have hinside : Placement.Within arena .outOfSight := trivial
        exact ih content hcontent hinside item hmem

theorem AllWithin.forall_mem_collectAll {Fits : α → Prop} {contents : List Content}
    (hcontents : AllWithin arena contents)
    (hgather : ∀ placement content, placement.Within arena → content.Within arena →
      ∀ item ∈ gather placement content, Fits item) :
    ∀ item ∈ collectAll gather .own contents, Fits item := by
  intro item hmem
  obtain ⟨content, hcontent, hmem⟩ := mem_collectAll_iff.1 hmem
  have hinside : Placement.Within arena .own := trivial
  exact (hcontents content hcontent).forall_mem_collect hgather hinside item hmem

end Content

/-- What a component was seen to do stays within the arena. -/
structure ComponentUsage.Within (arena : Arena) (usage : ComponentUsage) : Prop where
  component_lt : usage.component < arena.components.length
  direct : ∀ instantiation ∈ usage.direct, instantiation.target.Named arena
  slot_lt : ∀ group ∈ usage.groups, group.slot.owner < arena.components.length
  members : ∀ group ∈ usage.groups, ∀ member ∈ group.members, member.target.Named arena
  forward_lt : ∀ property slot, (property, PropUse.forward slot) ∈ usage.uses →
    slot.owner < arena.components.length

namespace ComponentUsage

variable {arena : Arena}

theorem within_untraced {component : Nat} (hcomponent : component < arena.components.length) :
    (untraced component).Within arena := by
  constructor
  · exact hcomponent
  all_goals simp [untraced]

end ComponentUsage

namespace Content

variable {arena : Arena} {contents : List Content}

theorem AllWithin.named_of_mem_direct (hcontents : AllWithin arena contents) :
    ∀ instantiation ∈ direct contents, instantiation.target.Named arena := by
  refine hcontents.forall_mem_collectAll ?_
  intro placement content _ hcontent item hmem
  cases hcontent with
  | instantiation hnamed =>
      cases placement with
      | slot supplied => cases hmem
      | own => rwa [List.mem_singleton.1 hmem]
      | outOfSight => rwa [List.mem_singleton.1 hmem]
  | _ => cases placement <;> cases hmem

theorem AllWithin.within_of_mem_supplies (hcontents : AllWithin arena contents) :
    ∀ entry ∈ supplies contents,
      entry.1.owner < arena.components.length ∧ AllWithin arena entry.2.2 := by
  refine hcontents.forall_mem_collectAll ?_
  intro placement content _ hcontent item hmem
  cases hcontent with
  | supply hslot hinner =>
      rw [List.mem_singleton.1 hmem]
      exact ⟨hslot, hinner⟩
  | _ => cases hmem

theorem AllWithin.within_of_mem_uses (hcontents : AllWithin arena contents) :
    ∀ entry ∈ uses contents, ∀ slot, entry.2 = .forward slot →
      slot.owner < arena.components.length := by
  refine hcontents.forall_mem_collectAll ?_
  intro placement content hplacement hcontent item hmem slot huse
  cases hcontent with
  | prop =>
      rw [List.mem_singleton.1 hmem] at huse
      cases placement with
      | slot supplied =>
          cases huse
          exact hplacement
      | own => cases huse
      | outOfSight => cases huse
  | _ => cases hmem

theorem AllWithin.named_of_mem_filterMap (hcontents : AllWithin arena contents) :
    ∀ member ∈ contents.filterMap instantiation?, member.target.Named arena := by
  intro member hmem
  obtain ⟨content, hcontent, hmember⟩ := List.mem_filterMap.1 hmem
  cases hcontents content hcontent with
  | instantiation hnamed =>
      cases hmember
      exact hnamed
  | _ => cases hmember

theorem AllWithin.usage (hcontents : AllWithin arena contents) {component : Nat}
    (hcomponent : component < arena.components.length) (firstGroup : Nat) :
    (usage component firstGroup contents).usage.Within arena := by
  have hgroup : ∀ group ∈ groups firstGroup contents,
      group.slot.owner < arena.components.length ∧
        ∀ member ∈ group.members, member.target.Named arena := by
    intro group hmem
    obtain ⟨⟨⟨slot, span, inner⟩, id⟩, hentry, rfl⟩ := List.mem_map.1 hmem
    obtain ⟨hslot, hinner⟩ :=
      hcontents.within_of_mem_supplies _ (List.fst_mem_of_mem_zipIdx hentry)
    exact ⟨hslot, AllWithin.named_of_mem_filterMap hinner⟩
  unfold Content.usage
  split
  · exact {
      component_lt := hcomponent
      direct := hcontents.named_of_mem_direct
      slot_lt := fun group hmem => (hgroup group hmem).1
      members := fun group hmem => (hgroup group hmem).2
      forward_lt := fun property slot hmem =>
        hcontents.within_of_mem_uses _ hmem slot rfl }
  · exact ComponentUsage.within_untraced hcomponent

end Content

@[simp]
theorem Inquiry.after_quiet (resolver : Resolver) (names : List String) (token : CancelToken) :
    (quiet resolver).after names token = token := by
  simp [after, quiet]

section Tracing

variable {unit : SourceUnit} {arena : Arena}

theorem within_traceComponent (hsound : arena.Sound) (resolver : Resolver) (firstGroup : Nat)
    {component : Nat} (hcomponent : component < arena.components.length) (shape : Shape) :
    (traceComponent unit arena resolver firstGroup component shape).usage.Within arena := by
  unfold traceComponent
  split
  · exact ComponentUsage.within_untraced hcomponent
  · have hcontents := Tracer.within_read ⟨unit, arena, resolver, unit.bindings shape⟩ hsound
    exact Content.AllWithin.usage (hcontents _ _ _) hcomponent firstGroup

/-- Only what was read to its end supplies content. -/
theorem walked_of_mem_groups {resolver : Resolver} {firstGroup component : Nat} {shape : Shape}
    {group : SupplyGroup}
    (hgroup : group ∈
      (traceComponent unit arena resolver firstGroup component shape).usage.groups) :
    (traceComponent unit arena resolver firstGroup component shape).usage.walked = true := by
  revert hgroup
  unfold traceComponent
  split
  · intro hgroup
    cases hgroup
  · dsimp only [Content.usage]
    split
    · intro _
      rfl
    · intro hgroup
      cases hgroup

theorem exists_of_traceAll_cons {inquiry : Inquiry} {first component : Nat} {shape : Shape}
    {token token' : CancelToken} {rest : List (Shape × Nat)} {usages : Usages}
    (htraced : traceAll unit arena inquiry first token ((shape, component) :: rest) =
      .ok (usages, token')) :
    ∃ traced, traced = traceComponent unit arena inquiry.resolver first component shape ∧
      ∃ later middle, usages = traced.usage :: later ∧
        traceAll unit arena inquiry (first + traced.groupsTaken) middle rest =
          .ok (later, token') := by
  unfold traceAll at htraced
  obtain ⟨_, -, htraced⟩ := bind_eq_ok_iff.1 htraced
  obtain ⟨⟨later, last⟩, hlater, htraced⟩ := bind_eq_ok_iff.1 htraced
  cases htraced
  exact ⟨_, rfl, later, _, rfl, hlater⟩

/-- The usages are those of the components, one for each and in their order. -/
theorem forall₂_traceAll {inquiry : Inquiry} {first : Nat} {token token' : CancelToken}
    {shapes : List (Shape × Nat)} {usages : Usages}
    (htraced : traceAll unit arena inquiry first token shapes = .ok (usages, token')) :
    List.Forall₂ (fun entry usage => ∃ start,
      usage = (traceComponent unit arena inquiry.resolver start entry.2 entry.1).usage)
      shapes usages := by
  induction shapes generalizing first token token' usages with
  | nil =>
      cases htraced
      exact .nil
  | cons entry rest ih =>
      obtain ⟨traced, rfl, later, middle, rfl, hlater⟩ := exists_of_traceAll_cons htraced
      exact .cons ⟨first, rfl⟩ (ih hlater)

theorem exists_left_of_mem {α β : Type} {R : α → β → Prop} {entries : List α} {values : List β}
    (hrel : List.Forall₂ R entries values) {value : β} (hmem : value ∈ values) :
    ∃ entry ∈ entries, R entry value := by
  induction hrel with
  | nil => cases hmem
  | cons hfirst _ ih =>
      rcases List.mem_cons.1 hmem with rfl | hmem
      · exact ⟨_, List.mem_cons_self, hfirst⟩
      · obtain ⟨entry, hentry, hvalue⟩ := ih hmem
        exact ⟨entry, List.mem_cons_of_mem _ hentry, hvalue⟩

/-- Every usage is that of one of the components. -/
theorem exists_traceComponent_of_mem {inquiry : Inquiry} {firstGroup : Nat}
    {token token' : CancelToken} {shapes : List (Shape × Nat)} {usages : Usages}
    (htraced : traceAll unit arena inquiry firstGroup token shapes = .ok (usages, token'))
    {usage : ComponentUsage} (hmem : usage ∈ usages) :
    ∃ first, ∃ entry ∈ shapes,
      usage = (traceComponent unit arena inquiry.resolver first entry.2 entry.1).usage := by
  obtain ⟨entry, hentry, first, husage⟩ := exists_left_of_mem (forall₂_traceAll htraced) hmem
  exact ⟨first, entry, hentry, husage⟩

theorem within_of_traceAll (hsound : arena.Sound) {inquiry : Inquiry} {firstGroup : Nat}
    {token token' : CancelToken} {shapes : List (Shape × Nat)} {usages : Usages}
    (hshapes : ∀ entry ∈ shapes, entry.2 < arena.components.length)
    (htraced : traceAll unit arena inquiry firstGroup token shapes = .ok (usages, token')) :
    ∀ usage ∈ usages, usage.Within arena := by
  intro usage hmem
  obtain ⟨first, entry, hentry, rfl⟩ := exists_traceComponent_of_mem htraced hmem
  exact within_traceComponent hsound inquiry.resolver first (hshapes entry hentry) entry.1

/-- Without cancellation all components are traced. -/
theorem exists_traceAll_quiet (unit : SourceUnit) (arena : Arena) (resolver : Resolver)
    (firstGroup : Nat) (shapes : List (Shape × Nat)) :
    ∃ usages, traceAll unit arena (.quiet resolver) firstGroup .fresh shapes =
      .ok (usages, .fresh) := by
  induction shapes generalizing firstGroup with
  | nil => exact ⟨[], rfl⟩
  | cons entry rest ih =>
      obtain ⟨shape, component⟩ := entry
      obtain ⟨usages, husages⟩ := ih
        (firstGroup + (traceComponent unit arena resolver firstGroup component shape).groupsTaken)
      refine ⟨(traceComponent unit arena resolver firstGroup component shape).usage :: usages, ?_⟩
      unfold traceAll
      refine bind_eq_ok_iff.2 ⟨(), rfl, ?_⟩
      dsimp only
      rw [Inquiry.after_quiet]
      exact bind_eq_ok_iff.2 ⟨(usages, .fresh), husages, rfl⟩

end Tracing

theorem Usages.refersTo_of_within {usages : Usages} {arena : Arena}
    (hwithin : ∀ usage ∈ usages, usage.Within arena) : usages.RefersTo arena where
  component usage hmem := (hwithin usage hmem).component_lt
  supplied usage hmem := (hwithin usage hmem).slot_lt
  forwarded usage hmem := (hwithin usage hmem).forward_lt

end RenderAudit
