import RenderAudit.Proofs.ContentRegions
import RenderAudit.Proofs.DepthBound
import RenderAudit.Proofs.ElementsOnce
import RenderAudit.Tree.Rows

/-!
# Which reads of props are met

The reader goes from node to node, and each node that it comes to has a placement. What it records
as uses of a prop are the plain reads of it among these nodes, such as `a` or `props.a`. All that is
handed to an element which cannot be traced is visited out of sight, by whichever attribute. But a
whole props object is no plain read: to spread it there leaves no trace, and a property that is
passed on by such a spread only counts as dropped.
-/

namespace RenderAudit

open Content

/-- A node that the reader comes to, how it is read, and where its content ends up. -/
structure Visit where
  placement : Placement
  reading : Reading
  node : Node

namespace Visit

/-- Nodes that are read alike. -/
def each (placement : Placement) (reading : Reading) (nodes : List Node) : List Visit :=
  nodes.map fun node => ⟨placement, reading, node⟩

end Visit

namespace Tracer

/-! ### Where the reader goes next -/

def scanNexts (placement : Placement) (node : Node) : List Visit :=
  if node.kind == "return_statement" then Visit.each placement .markup node.namedChildren
  else if node.isFunction then
    (node.withField? "body").toList.map fun body => ⟨placement, body.bodyReading, body⟩
  else Visit.each placement .scan node.namedChildren

def fieldNexts (placement : Placement) (node : Node) (field : String) (reading : Reading) :
    List Visit :=
  Visit.each placement reading (node.withField? field).toList

def binaryNexts (tracer : Tracer) (placement : Placement) (node : Node) : List Visit :=
  let operator := ((node.withField? "operator").map tracer.unit.text).getD ""
  if operator = "&&" then
    fieldNexts placement node "left" .scan ++ fieldNexts placement node "right" .markup
  else if operator = "||" || operator = "??" then
    fieldNexts placement node "left" .markup ++ fieldNexts placement node "right" .markup
  else Visit.each placement .scan node.namedChildren

def argumentNext (placement : Placement) (argument : Node) : Visit :=
  if argument.isFunction then ⟨placement, .scan, argument⟩ else ⟨.outOfSight, .markup, argument⟩

def callNexts (placement : Placement) (node : Node) : List Visit :=
  fieldNexts placement node "function" .scan ++
    ((node.withField? "arguments").toList.flatMap Node.namedChildren).map (argumentNext placement)

def markupNexts (tracer : Tracer) (placement : Placement) (node : Node) : List Visit :=
  if (tracer.unit.propReference? tracer.bindings node).isSome then []
  else if node.passesThrough then Visit.each placement .markup node.namedChildren
  else if node.kind == "ternary_expression" then
    fieldNexts placement node "condition" .scan ++
      fieldNexts placement node "consequence" .markup ++
        fieldNexts placement node "alternative" .markup
  else if node.kind == "binary_expression" then tracer.binaryNexts placement node
  else if node.kind == "call_expression" then callNexts placement node
  else scanNexts placement node

def attributeNext (tracer : Tracer) (placement : Placement) (component : Nat)
    (name : Option String) (value : Node) : Visit :=
  match name with
  | none => ⟨placement, .scan, value⟩
  | some name =>
      if tracer.arena.acceptsContent component name then ⟨.slot ⟨component, name⟩, .markup, value⟩
      else ⟨.outOfSight, .markup, value⟩

def childrenPlacement (tracer : Tracer) (placement : Placement) (component : Nat) : Placement :=
  if tracer.arena.acceptsContent component childrenName then .slot ⟨component, childrenName⟩
  else placement

/-- The values of the attributes of an element, of spreads too. -/
def values (tracer : Tracer) (element : Node) : List Node :=
  (tracer.unit.attributes element).filterMap (·.value)

def partNexts (tracer : Tracer) (placement : Placement) (target : Target) (element : Node) :
    List Visit :=
  if target.kind = .intrinsic then
    Visit.each placement .scan (tracer.values element) ++
      Visit.each placement .markup element.elementChildren
  else
    match target.kind, target.ref with
    | .component, some component =>
        (tracer.unit.attributes element).flatMap (fun entry =>
            entry.value.toList.map (tracer.attributeNext placement component entry.name)) ++
          Visit.each (tracer.childrenPlacement placement component) .markup element.elementChildren
    | _, _ =>
        Visit.each .outOfSight .markup (tracer.values element ++ element.elementChildren)

section Hidden

variable {tracer : Tracer} {target : Target} {element : Node} (hintrinsic : target.kind ≠ .intrinsic)
  (hcomponent : ∀ component, target.kind = .component → target.ref ≠ some component)

include hintrinsic hcomponent

theorem readParts_of_hidden {go : Reading → Node → List Content} :
    tracer.readParts go target element =
      [.handOver ((tracer.values element).flatMap (go .markup)),
        .handOver (element.elementChildren.flatMap (go .markup))] := by
  rw [readParts, if_neg hintrinsic]
  split
  · next component hkind href => exact absurd href (hcomponent component hkind)
  · rfl

theorem partNexts_of_hidden {placement : Placement} :
    tracer.partNexts placement target element =
      Visit.each .outOfSight .markup (tracer.values element ++ element.elementChildren) := by
  rw [partNexts, if_neg hintrinsic]
  split
  · next component hkind href => exact absurd href (hcomponent component hkind)
  · rfl

end Hidden

def elementNexts (tracer : Tracer) (placement : Placement) (element : Node) : List Visit :=
  match tracer.unit.elementName? element with
  | none => Visit.each placement .markup element.elementChildren
  | some name =>
      match tracer.arena.targetOf? tracer.resolver name with
      | none => []
      | some target => tracer.partNexts placement target element

/-- The visits that follow from a visit, in order. -/
def nexts (tracer : Tracer) (visit : Visit) : List Visit :=
  if visit.node.isElement then tracer.elementNexts visit.placement visit.node
  else
    match visit.reading with
    | .scan => scanNexts visit.placement visit.node
    | .markup => tracer.markupNexts visit.placement visit.node

/-- What a visit records by itself. -/
def leaves (tracer : Tracer) (visit : Visit) : List Content :=
  if visit.node.isElement then
    match tracer.unit.elementName? visit.node with
    | none => []
    | some name =>
        match tracer.arena.targetOf? tracer.resolver name with
        | none => [.broken (.resolver name)]
        | some target => [.instantiation ⟨target, tracer.unit.span visit.node⟩]
  else
    match visit.reading with
    | .scan => []
    | .markup => (tracer.unit.propReference? tracer.bindings visit.node).toList.map .prop

def Goes (tracer : Tracer) (visit next : Visit) : Prop :=
  next ∈ tracer.nexts visit

/-- A visit on the way through a body. -/
def Met (tracer : Tracer) (body : Node) (visit : Visit) : Prop :=
  ∃ n, Steps tracer.Goes n ⟨.own, body.bodyReading, body⟩ visit

/-- A visit at a plain read of a prop. -/
structure ReadsProp (tracer : Tracer) (visit : Visit) (name : String) : Prop where
  plain : visit.node.isElement = false
  markup : visit.reading = .markup
  reference : tracer.unit.propReference? tracer.bindings visit.node = some name

end Tracer

/-! ### What is gathered on the way -/

namespace Visit

variable {α : Type} {gather : Placement → Content → List α} {placement : Placement}
  {go : Reading → Node → List Content}

/-- Gathers from what is read at some visits. -/
def gatherVisits (gather : Placement → Content → List α)
    (go : Reading → Node → List Content) (visits : List Visit) : List α :=
  visits.flatMap fun visit => collectAll gather visit.placement (go visit.reading visit.node)

theorem gatherVisits_cons (visit : Visit) (visits : List Visit) :
    gatherVisits gather go (visit :: visits) =
      collectAll gather visit.placement (go visit.reading visit.node) ++
        gatherVisits gather go visits :=
  List.flatMap_cons

theorem gatherVisits_append (first second : List Visit) :
    gatherVisits gather go (first ++ second) =
      gatherVisits gather go first ++ gatherVisits gather go second :=
  List.flatMap_append

theorem mem_gatherVisits_iff {visits : List Visit} {item : α} :
    item ∈ gatherVisits gather go visits ↔
      ∃ visit ∈ visits, item ∈ collectAll gather visit.placement (go visit.reading visit.node) :=
  List.mem_flatMap

theorem gatherVisits_each (reading : Reading) (nodes : List Node) :
    gatherVisits gather go (Visit.each placement reading nodes) =
      collectAll gather placement (nodes.flatMap (go reading)) := by
  induction nodes with
  | nil => rfl
  | cons node nodes ih =>
      rw [List.flatMap_cons, collectAll_append, ← ih]
      exact gatherVisits_cons _ _

theorem collectAll_readField (node : Node) (field : String) (reading : Reading) :
    collectAll gather placement (Tracer.readField go node field reading) =
      gatherVisits gather go (Tracer.fieldNexts placement node field reading) := by
  rw [Tracer.readField_eq, Tracer.fieldNexts, gatherVisits_each]

theorem collectAll_scan (node : Node) :
    collectAll gather placement (Tracer.scan go node) =
      gatherVisits gather go (Tracer.scanNexts placement node) := by
  unfold Tracer.scan Tracer.scanNexts
  split
  · rw [gatherVisits_each]
  · split
    · cases node.withField? "body" with
      | none => rfl
      | some body => exact (List.flatMap_singleton _ _).symm
    · rw [gatherVisits_each]

theorem collectAll_readBinary (tracer : Tracer) (node : Node) :
    collectAll gather placement (tracer.readBinary go node) =
      gatherVisits gather go (tracer.binaryNexts placement node) := by
  unfold Tracer.readBinary Tracer.binaryNexts
  dsimp only
  split
  · rw [collectAll_append, gatherVisits_append, collectAll_readField, collectAll_readField]
  · split
    · rw [collectAll_append, gatherVisits_append, collectAll_readField, collectAll_readField]
    · rw [gatherVisits_each]

end Visit

/-- What is gathered comes from pieces of content that hold no other ones. -/
structure Leafwise {α : Type} (gather : Placement → Content → List α) : Prop where
  supply : ∀ placement slot span inner, gather placement (.supply slot span inner) = []
  handOver : ∀ placement inner, gather placement (.handOver inner) = []

namespace Leafwise

open Visit

variable {α : Type} {gather : Placement → Content → List α} (hleafwise : Leafwise gather)
  {placement : Placement} {go : Reading → Node → List Content}

include hleafwise

theorem collectAll_handOver (inner : List Content) :
    collectAll gather placement [.handOver inner] = collectAll gather .outOfSight inner := by
  rw [collectAll, collect, hleafwise.handOver, List.nil_append, collectAll, List.append_nil]

theorem collectAll_supply (slot : Slot) (span : Span) (inner : List Content) :
    collectAll gather placement [.supply slot span inner] =
      collectAll gather (.slot slot) inner := by
  rw [collectAll, collect, hleafwise.supply, List.nil_append, collectAll, List.append_nil]

theorem collectAll_readArguments (arguments : List Node) :
    collectAll gather placement (arguments.flatMap (Tracer.readArgument go)) =
      gatherVisits gather go (arguments.map (Tracer.argumentNext placement)) := by
  induction arguments with
  | nil => rfl
  | cons argument arguments ih =>
      rw [List.flatMap_cons, collectAll_append, ih, List.map_cons, gatherVisits_cons]
      congr 1
      unfold Tracer.readArgument Tracer.argumentNext
      split
      · rfl
      · rw [hleafwise.collectAll_handOver]

theorem collectAll_readCall (node : Node) :
    collectAll gather placement (Tracer.readCall go node) =
      gatherVisits gather go (Tracer.callNexts placement node) := by
  unfold Tracer.readCall Tracer.callNexts
  rw [collectAll_append, gatherVisits_append, collectAll_readField]
  congr 1
  cases node.withField? "arguments" with
  | none => rfl
  | some arguments =>
      rw [Option.toList_some, List.flatMap_singleton, ← hleafwise.collectAll_readArguments]

theorem collectAll_markup (tracer : Tracer) (node : Node) :
    collectAll gather placement (tracer.markup go node) =
      ((tracer.unit.propReference? tracer.bindings node).toList.map Content.prop).flatMap
          (gather placement) ++
        gatherVisits gather go (tracer.markupNexts placement node) := by
  unfold Tracer.markup Tracer.markupNexts
  cases tracer.unit.propReference? tracer.bindings node with
  | some name => simp [collectAll, collect, gatherVisits]
  | none =>
      simp only [Option.isSome_none, Bool.false_eq_true, if_false]
      show _ = gatherVisits gather go _
      split
      · rw [gatherVisits_each]
      · split
        · rw [collectAll_append, collectAll_append, gatherVisits_append, gatherVisits_append,
            collectAll_readField, collectAll_readField, collectAll_readField]
        · split
          · exact collectAll_readBinary tracer node
          · split
            · exact hleafwise.collectAll_readCall node
            · exact collectAll_scan node

theorem collectAll_readAttributes (tracer : Tracer) (component : Nat) (entries : List Attribute) :
    collectAll gather placement (entries.flatMap (tracer.readAttribute go component)) =
      gatherVisits gather go (entries.flatMap fun entry =>
        entry.value.toList.map (tracer.attributeNext placement component entry.name)) := by
  induction entries with
  | nil => rfl
  | cons entry entries ih =>
      rw [List.flatMap_cons, List.flatMap_cons, collectAll_append, gatherVisits_append, ih]
      congr 1
      unfold Tracer.readAttribute
      cases entry.value with
      | none => rfl
      | some value =>
          rw [Option.toList_some, List.map_singleton, gatherVisits, List.flatMap_singleton]
          unfold Tracer.attributeNext
          cases entry.name with
          | none => rfl
          | some name =>
              dsimp only
              split
              · rw [hleafwise.collectAll_supply]
              · rw [hleafwise.collectAll_handOver]

theorem collectAll_readChildren (tracer : Tracer) (component : Nat) (element : Node) :
    collectAll gather placement (tracer.readChildren go component element) =
      gatherVisits gather go (Visit.each (tracer.childrenPlacement placement component) .markup
        element.elementChildren) := by
  rw [gatherVisits_each]
  unfold Tracer.readChildren Tracer.childrenPlacement
  dsimp only
  split
  · next hempty =>
    rw [List.isEmpty_iff.1 hempty]
    rfl
  · split
    · rw [hleafwise.collectAll_supply]
    · rfl

theorem collectAll_readParts (tracer : Tracer) (target : Target) (element : Node) :
    collectAll gather placement (tracer.readParts go target element) =
      gatherVisits gather go (tracer.partNexts placement target element) := by
  by_cases hintrinsic : target.kind = .intrinsic
  · rw [Tracer.readParts, Tracer.partNexts, if_pos hintrinsic, if_pos hintrinsic,
      collectAll_append, gatherVisits_append, gatherVisits_each, gatherVisits_each, Tracer.values]
  · by_cases hcomponent : ∃ component, target.kind = .component ∧ target.ref = some component
    · obtain ⟨component, hkind, href⟩ := hcomponent
      rw [Tracer.readParts, Tracer.partNexts, if_neg hintrinsic, if_neg hintrinsic]
      simp only [hkind, href]
      rw [collectAll_append, gatherVisits_append, hleafwise.collectAll_readAttributes,
        hleafwise.collectAll_readChildren]
    · have hother : ∀ component, target.kind = .component → target.ref ≠ some component :=
        fun component hkind href => hcomponent ⟨component, hkind, href⟩
      rw [Tracer.readParts_of_hidden hintrinsic hother, Tracer.partNexts_of_hidden hintrinsic hother,
        gatherVisits_each, List.flatMap_append, collectAll_append, ← List.singleton_append,
        collectAll_append, hleafwise.collectAll_handOver, hleafwise.collectAll_handOver]

theorem collectAll_readElement (tracer : Tracer) {visit : Visit}
    (helement : visit.node.isElement = true) :
    collectAll gather visit.placement (tracer.readElement go visit.node) =
      (tracer.leaves visit).flatMap (gather visit.placement) ++
        gatherVisits gather go (tracer.elementNexts visit.placement visit.node) := by
  unfold Tracer.readElement Tracer.leaves Tracer.elementNexts
  rw [if_pos helement]
  cases tracer.unit.elementName? visit.node with
  | none => exact (gatherVisits_each _ _).symm
  | some name =>
      dsimp only
      cases tracer.arena.targetOf? tracer.resolver name with
      | none => simp [collectAll, collect, gatherVisits]
      | some target =>
          dsimp only
          rw [collectAll, collect, hleafwise.collectAll_readParts, List.flatMap_singleton]

/-- **One step of the reader.** A visit records what it shows by itself, then the visits that follow
from it. -/
theorem collectAll_read_succ (tracer : Tracer) (limit : Nat) (visit : Visit) :
    collectAll gather visit.placement (tracer.read (limit + 1) visit.reading visit.node) =
      (tracer.leaves visit).flatMap (gather visit.placement) ++
        gatherVisits gather (tracer.read limit) (tracer.nexts visit) := by
  unfold Tracer.read Tracer.nexts
  by_cases helement : visit.node.isElement = true
  · rw [if_pos helement, if_pos helement, hleafwise.collectAll_readElement tracer helement]
  · rw [if_neg helement, if_neg helement, Tracer.leaves, if_neg helement]
    cases visit.reading with
    | scan => exact collectAll_scan visit.node
    | markup => exact hleafwise.collectAll_markup tracer visit.node

/-- **All steps of the reader.** What is gathered comes from the visits that are met in less than
`limit` steps, and from where the reader gives up. -/
theorem mem_collectAll_read_iff (tracer : Tracer) {limit : Nat} (visit : Visit) {item : α} :
    item ∈ collectAll gather visit.placement (tracer.read limit visit.reading visit.node) ↔
      (∃ n < limit, ∃ last, Steps tracer.Goes n visit last ∧
        item ∈ (tracer.leaves last).flatMap (gather last.placement)) ∨
      ∃ last, Steps tracer.Goes limit visit last ∧
        item ∈ gather last.placement (.broken .tooDeep) := by
  induction limit generalizing visit with
  | zero => simp [Tracer.read, collectAll, collect, Steps]
  | succ limit ih =>
      rw [hleafwise.collectAll_read_succ, List.mem_append, mem_gatherVisits_iff]
      constructor
      · rintro (hown | ⟨next, hnext, hitem⟩)
        · exact .inl ⟨0, Nat.succ_pos limit, visit, rfl, hown⟩
        · rcases (ih next).1 hitem with ⟨n, hlt, last, hsteps, hlast⟩ | ⟨last, hsteps, hlast⟩
          · exact .inl ⟨n + 1, by omega, last, ⟨next, hnext, hsteps⟩, hlast⟩
          · exact .inr ⟨last, ⟨next, hnext, hsteps⟩, hlast⟩
      · rintro (⟨n, hlt, last, hsteps, hlast⟩ | ⟨last, ⟨next, hnext, hsteps⟩, hlast⟩)
        · cases n with
          | zero =>
              cases hsteps
              exact .inl hlast
          | succ n =>
              obtain ⟨next, hnext, hsteps⟩ := hsteps
              exact .inr ⟨next, hnext, (ih next).2 (.inl ⟨n, by omega, last, hsteps, hlast⟩)⟩
        · exact .inr ⟨next, hnext, (ih next).2 (.inr ⟨last, hsteps, hlast⟩)⟩

end Leafwise

namespace Content

/-- What breaks content off. -/
def faults (contents : List Content) : List TraceFault :=
  collectAll
    (fun _ content =>
      match content with
      | .broken fault => [fault]
      | _ => [])
    .own contents

theorem mem_faults_iff {contents : List Content} {fault : TraceFault} :
    fault ∈ faults contents ↔
      ∃ region ∈ regions .own contents, .broken fault ∈ region.contents := by
  rw [faults, mem_collectAll_iff_region]
  apply exists_congr
  intro region
  apply and_congr_right
  intro _
  constructor
  · rintro ⟨content, hcontent, hfault⟩
    split at hfault
    · rw [List.mem_singleton] at hfault
      exact hfault ▸ hcontent
    · cases hfault
  · intro hcontent
    exact ⟨.broken fault, hcontent, List.mem_singleton.2 rfl⟩

theorem isComplete_iff {contents : List Content} :
    isComplete contents = true ↔ ∀ fault, fault ∉ faults contents := by
  constructor
  · intro hcomplete fault hfault
    obtain ⟨region, hregion, hbroken⟩ := mem_faults_iff.1 hfault
    have hstop : Step.stopped fault ∈ steps contents := by
      rw [steps, mem_collectAll_iff_region]
      refine ⟨region, hregion, .broken fault, hbroken, ?_⟩
      cases fault <;> simp
    have hany : (steps contents).any Step.isStop = true := List.any_eq_true.2 ⟨_, hstop, rfl⟩
    rw [isComplete, hany] at hcomplete
    cases hcomplete
  · intro hnone
    rw [isComplete, Bool.not_eq_true', ← Bool.not_eq_true, List.any_eq_true]
    rintro ⟨step, hstep, hstop⟩
    rw [steps, mem_collectAll_iff_region] at hstep
    obtain ⟨region, hregion, content, hcontent, hitem⟩ := hstep
    cases content with
    | broken fault => exact hnone fault (mem_faults_iff.2 ⟨region, hregion, hcontent⟩)
    | instantiation value =>
        dsimp only at hitem
        split at hitem
        · rw [List.mem_singleton] at hitem
          subst hitem
          cases hstop
        · cases hitem
    | supply slot span inner =>
        rw [List.mem_singleton] at hitem
        subst hitem
        cases hstop
    | prop name => cases hitem
    | handOver inner => cases hitem

end Content

namespace Tracer

variable {tracer : Tracer}

theorem prop_mem_leaves_iff {visit : Visit} {name : String} :
    .prop name ∈ tracer.leaves visit ↔ tracer.ReadsProp visit name := by
  unfold leaves
  by_cases helement : visit.node.isElement = true
  · rw [if_pos helement]
    constructor
    · intro hprop
      split at hprop
      · cases hprop
      · split at hprop <;> simp at hprop
    · intro hreads
      rw [hreads.plain] at helement
      cases helement
  · rw [if_neg helement]
    constructor
    · intro hprop
      cases hreading : visit.reading with
      | scan =>
          rw [hreading] at hprop
          cases hprop
      | markup =>
          simp only [hreading, List.mem_map, Option.mem_toList, Content.prop.injEq] at hprop
          obtain ⟨other, hreference, rfl⟩ := hprop
          exact ⟨by simpa using helement, hreading, hreference⟩
    · intro hreads
      simp [hreads.markup, hreads.reference]

/-- A reader that comes to the end of a body has not gone as far as it may. -/
theorem not_steps_of_isComplete {body : Node}
    (hcomplete : isComplete (tracer.readBody body) = true) (visit : Visit) :
    ¬Steps tracer.Goes nestingLimit ⟨.own, body.bodyReading, body⟩ visit := by
  intro hsteps
  apply isComplete_iff.1 hcomplete .tooDeep
  exact (Leafwise.mem_collectAll_read_iff ⟨fun _ _ _ _ => rfl, fun _ _ => rfl⟩ tracer
    ⟨.own, body.bodyReading, body⟩).2 (.inr ⟨visit, hsteps, List.mem_singleton.2 rfl⟩)

/-- **The uses of props are the plain reads that are met.** -/
theorem mem_uses_readBody_iff {body : Node}
    (hcomplete : isComplete (tracer.readBody body) = true) {name : String} {use : PropUse} :
    (name, use) ∈ uses (tracer.readBody body) ↔
      ∃ visit, tracer.Met body visit ∧ tracer.ReadsProp visit name ∧ visit.placement.use = use := by
  have hread : (name, use) ∈ uses (tracer.readBody body) ↔ _ :=
    Leafwise.mem_collectAll_read_iff ⟨fun _ _ _ _ => rfl, fun _ _ => rfl⟩ tracer
      ⟨.own, body.bodyReading, body⟩
  rw [hread]
  constructor
  · rintro (⟨n, -, last, hsteps, hitem⟩ | ⟨last, -, hitem⟩)
    · obtain ⟨content, hcontent, hitem⟩ := List.mem_flatMap.1 hitem
      cases content with
      | prop other =>
          rw [List.mem_singleton, Prod.mk.injEq] at hitem
          obtain ⟨rfl, rfl⟩ := hitem
          exact ⟨last, ⟨n, hsteps⟩, prop_mem_leaves_iff.1 hcontent, rfl⟩
      | instantiation value => cases hitem
      | supply slot span inner => cases hitem
      | handOver inner => cases hitem
      | broken fault => cases hitem
    · cases hitem
  · rintro ⟨last, ⟨n, hsteps⟩, hreads, rfl⟩
    have hlt : n < nestingLimit := by
      by_contra hge
      obtain ⟨middle, hmiddle⟩ := hsteps.take (Nat.le_of_not_lt hge)
      exact not_steps_of_isComplete hcomplete middle hmiddle
    left
    refine ⟨n, hlt, last, hsteps, List.mem_flatMap.2 ⟨.prop name, ?_, List.mem_singleton.2 rfl⟩⟩
    exact prop_mem_leaves_iff.2 hreads

/-! ### What is handed to an element that cannot be traced -/

/-- An element whose name stands for nothing in the source. -/
def IsOpaque (tracer : Tracer) (element : Node) : Prop :=
  element.isElement = true ∧ ∃ name target, tracer.unit.elementName? element = some name ∧
    tracer.arena.targetOf? tracer.resolver name = some target ∧ target.isOpaque = true

/-- A spread of a whole props object, `{...props}` or `{...this.props}`. -/
structure SpreadsProps (tracer : Tracer) (value object : Node) : Prop where
  expression : value.kind = "jsx_expression"
  spread : ∃ spread, value.namedChildren = [spread] ∧ spread.kind = "spread_element" ∧
    spread.namedChildren = [object]
  isProps : tracer.unit.isPropsObject tracer.bindings object = true
  whole : tracer.unit.propReference? tracer.bindings object = none
  bare : ∀ child ∈ object.namedChildren, child.children = []

theorem isOpaque_iff {element : Node} :
    tracer.IsOpaque element ↔ element.isElement = true ∧
      ∃ name ∈ tracer.unit.elementName? element,
        ∃ target ∈ tracer.arena.targetOf? tracer.resolver name, target.isOpaque = true := by
  simp [IsOpaque]

instance (element : Node) : Decidable (tracer.IsOpaque element) :=
  decidable_of_iff _ isOpaque_iff.symm

theorem exists_spreadsProps_iff {value : Node} :
    (∃ object, tracer.SpreadsProps value object) ↔
      value.kind = "jsx_expression" ∧ value.namedChildren.length = 1 ∧
        ∃ spread ∈ value.namedChildren, spread.kind = "spread_element" ∧
          spread.namedChildren.length = 1 ∧
            ∃ object ∈ spread.namedChildren,
              tracer.unit.isPropsObject tracer.bindings object = true ∧
                tracer.unit.propReference? tracer.bindings object = none ∧
                  ∀ child ∈ object.namedChildren, child.children.isEmpty = true := by
  constructor
  · rintro ⟨object, hexpression, ⟨spread, hvalue, hspread, hobject⟩, hprops, hwhole, hbare⟩
    refine ⟨hexpression, by rw [hvalue, List.length_singleton], spread, by simp [hvalue], hspread,
      by rw [hobject, List.length_singleton], object, by simp [hobject], hprops, hwhole, ?_⟩
    exact fun child hchild => List.isEmpty_iff.2 (hbare child hchild)
  · rintro ⟨hexpression, hone, spread, hvalue, hspread, hone', object, hobject, hprops, hwhole,
      hbare⟩
    obtain ⟨first, hfirst⟩ := List.length_eq_one_iff.1 hone
    obtain ⟨second, hsecond⟩ := List.length_eq_one_iff.1 hone'
    rw [hfirst, List.mem_singleton] at hvalue
    rw [hsecond, List.mem_singleton] at hobject
    subst hvalue hobject
    exact ⟨object, hexpression, ⟨spread, hfirst, hspread, hsecond⟩, hprops, hwhole,
      fun child hchild => List.isEmpty_iff.1 (hbare child hchild)⟩

instance (value : Node) : Decidable (∃ object, tracer.SpreadsProps value object) :=
  decidable_of_iff _ exists_spreadsProps_iff.symm

theorem goes_of_isOpaque {visit : Visit} (hhidden : tracer.IsOpaque visit.node) {value : Node}
    (hvalue : value ∈ tracer.values visit.node ++ visit.node.elementChildren) :
    tracer.Goes visit ⟨.outOfSight, .markup, value⟩ := by
  obtain ⟨helement, name, target, hname, htarget, hkind⟩ := hhidden
  have hintrinsic : target.kind ≠ .intrinsic := by
    intro hintrinsic
    simp [Target.isOpaque, hintrinsic] at hkind
  have hcomponent : target.kind ≠ .component := by
    intro hcomponent
    simp [Target.isOpaque, hcomponent] at hkind
  rw [Goes, nexts, if_pos helement, elementNexts, hname]
  simp only [htarget]
  rw [partNexts_of_hidden hintrinsic fun component hkind => absurd hkind hcomponent]
  exact List.mem_map_of_mem hvalue

theorem Met.of_isOpaque {body : Node} {visit : Visit} (hmet : tracer.Met body visit)
    (hhidden : tracer.IsOpaque visit.node) {value : Node}
    (hvalue : value ∈ tracer.values visit.node ++ visit.node.elementChildren) :
    tracer.Met body ⟨.outOfSight, .markup, value⟩ := by
  obtain ⟨n, hsteps⟩ := hmet
  exact ⟨n + 1, hsteps.add (.single (goes_of_isOpaque hhidden hvalue))⟩

/-- Only identifiers and member expressions are plain reads. -/
theorem propReference?_eq_none {node : Node} (hidentifier : node.kind ≠ "identifier")
    (hmember : node.kind ≠ "member_expression") :
    tracer.unit.propReference? tracer.bindings node = none := by
  simp [SourceUnit.propReference?, hidentifier, hmember]

theorem nexts_passesThrough {placement : Placement} {node : Node}
    (hpasses : node.passesThrough = true) (helement : node.isElement = false)
    (hreference : tracer.unit.propReference? tracer.bindings node = none) :
    tracer.nexts ⟨placement, .markup, node⟩ = Visit.each placement .markup node.namedChildren := by
  simp [nexts, helement, markupNexts, hreference, hpasses]

theorem nexts_childless {placement : Placement} {node : Node} (hchildless : node.children = []) :
    tracer.nexts ⟨placement, .scan, node⟩ = [] := by
  have hnamed : node.namedChildren = [] := by rw [Node.namedChildren, hchildless, List.filter_nil]
  have hfield : ∀ field, node.withField? field = none := by
    intro field
    rw [Node.withField?, hchildless, List.find?_nil]
  have hname : tracer.unit.elementName? node = none := by
    have hopening : node.openingTag?.bind (·.withField? "name") = none := by
      unfold Node.openingTag?
      split
      · exact hfield "name"
      · split
        · rw [hfield, Node.namedOfKind?, hnamed]
          rfl
        · rfl
    rw [SourceUnit.elementName?, hopening, Option.map_none]
  have hchildren : node.elementChildren = [] := by
    rw [Node.elementChildren, hnamed, List.filter_nil, ite_self]
  unfold nexts
  split
  · simp [elementNexts, hname, hchildren, Visit.each]
  · simp [scanNexts, hnamed, hfield, Visit.each]

theorem nexts_of_isPropsObject {placement : Placement} {object : Node}
    (hprops : tracer.unit.isPropsObject tracer.bindings object = true)
    (hwhole : tracer.unit.propReference? tracer.bindings object = none) :
    tracer.nexts ⟨placement, .markup, object⟩ =
      Visit.each placement .scan object.namedChildren := by
  have hkind : object.kind = "identifier" ∨ object.kind = "member_expression" := by
    by_contra hother
    rw [not_or] at hother
    simp [SourceUnit.isPropsObject, SourceUnit.isThisProps, hother] at hprops
  rcases hkind with hkind | hkind <;>
    simp [nexts, markupNexts, scanNexts, hwhole, Node.isElement, Node.passesThrough,
      Node.isFunction, Node.isOneOf, hkind]

/-- The way through a spread: to the object and to its leaves. -/
def spreadVisits (placement : Placement) (value spread object : Node) : List Visit :=
  Visit.each placement .markup [value, spread, object] ++
    Visit.each placement .scan object.namedChildren

theorem mem_spreadVisits_iff {placement : Placement} {value spread object : Node} {visit : Visit} :
    visit ∈ spreadVisits placement value spread object ↔
      visit = ⟨placement, .markup, value⟩ ∨ visit = ⟨placement, .markup, spread⟩ ∨
        visit = ⟨placement, .markup, object⟩ ∨
          ∃ child ∈ object.namedChildren, visit = ⟨placement, .scan, child⟩ := by
  simp [spreadVisits, Visit.each, eq_comm]

/-- A spread of a whole props object reads no prop. -/
theorem SpreadsProps.not_readsProp {value object : Node}
    (hspreads : tracer.SpreadsProps value object) {placement : Placement} {n : Nat} {last : Visit}
    (hsteps : Steps tracer.Goes n ⟨placement, .markup, value⟩ last) (name : String) :
    ¬tracer.ReadsProp last name := by
  obtain ⟨hexpression, ⟨spread, hvalue, hspread, hobject⟩, hprops, hwhole, hbare⟩ := hspreads
  have hvalueNone : tracer.unit.propReference? tracer.bindings value = none :=
    propReference?_eq_none (by simp [hexpression]) (by simp [hexpression])
  have hspreadNone : tracer.unit.propReference? tracer.bindings spread = none :=
    propReference?_eq_none (by simp [hspread]) (by simp [hspread])
  have hclosed : ∀ visit next, visit ∈ spreadVisits placement value spread object →
      tracer.Goes visit next → next ∈ spreadVisits placement value spread object := by
    intro visit next hvisit hgoes
    rw [mem_spreadVisits_iff] at hvisit ⊢
    unfold Goes at hgoes
    rcases hvisit with rfl | rfl | rfl | ⟨child, hchild, rfl⟩
    · rw [nexts_passesThrough (by simp [Node.passesThrough, Node.isOneOf, hexpression])
        (by simp [Node.isElement, Node.isOneOf, hexpression]) hvalueNone, hvalue] at hgoes
      exact .inr (.inl (List.mem_singleton.1 hgoes))
    · rw [nexts_passesThrough (by simp [Node.passesThrough, Node.isOneOf, hspread])
        (by simp [Node.isElement, Node.isOneOf, hspread]) hspreadNone, hobject] at hgoes
      exact .inr (.inr (.inl (List.mem_singleton.1 hgoes)))
    · rw [nexts_of_isPropsObject hprops hwhole] at hgoes
      obtain ⟨child, hchild, rfl⟩ := List.mem_map.1 hgoes
      exact .inr (.inr (.inr ⟨child, hchild, rfl⟩))
    · rw [nexts_childless (hbare child hchild)] at hgoes
      cases hgoes
  have hlast := hsteps.keeps (· ∈ spreadVisits placement value spread object) hclosed
    (mem_spreadVisits_iff.2 (.inl rfl))
  intro hreads
  have hreference := hreads.reference
  rcases mem_spreadVisits_iff.1 hlast with rfl | rfl | rfl | ⟨child, -, rfl⟩
  · rw [hvalueNone] at hreference
    cases hreference
  · rw [hspreadNone] at hreference
    cases hreference
  · rw [hwhole] at hreference
    cases hreference
  · cases hreads.markup

end Tracer

/-! ### What becomes of the slots -/

section Slots

variable {usages : Usages} {bound : Nat} {slot : Slot}

theorem resolveSlot_ne_dropped_of_usedAs (hbound : 1 ≤ bound) {placement : Placement}
    (hused : UsedAs usages slot placement.use) (hplace : ∀ other, placement ≠ .slot other) :
    (resolveSlot usages bound slot).state ≠ .dropped := by
  intro hdropped
  obtain ⟨hdepth, -, hunknown⟩ := SlotResolution.state_eq_dropped_iff.1 hdropped
  cases placement with
  | own =>
      apply resolveSlot_depth_eq_none_iff.1 hdepth 0 hbound
      exact ⟨slot, rfl, none, hused⟩
  | slot other => exact hplace other rfl
  | outOfSight =>
      have hseen := resolveSlot_unknown_iff.2 ⟨0, hbound, slot, rfl, .inr ⟨none, hused⟩⟩
      rw [hunknown] at hseen
      cases hseen

/-- Nothing leads on from a slot that its owner does not use. -/
theorem eq_of_steps_of_unused (hunused : ∀ use, ¬UsedAs usages slot use) {n : Nat} {last : Slot}
    (hsteps : Steps (Forwards usages) n slot last) : n = 0 ∧ slot = last := by
  cases n with
  | zero => exact ⟨rfl, hsteps⟩
  | succ n =>
      obtain ⟨next, hforwards, -⟩ := hsteps
      exact absurd hforwards (hunused _)

theorem resolveSlot_dropped_of_unused (hbound : 1 ≤ bound) {usage : ComponentUsage}
    (hwalked : usages.walked? slot.owner = some usage) (hunused : ∀ use, ¬UsedAs usages slot use) :
    (resolveSlot usages bound slot).state = .dropped := by
  refine SlotResolution.state_eq_dropped_iff.2 ⟨?_, ?_, ?_⟩
  · rw [resolveSlot_depth_eq_none_iff]
    rintro n - ⟨last, hsteps, seenAt, hrenders⟩
    obtain ⟨-, rfl⟩ := eq_of_steps_of_unused hunused hsteps
    exact hunused _ hrenders
  · rw [← Bool.not_eq_true, resolveSlot_exceeded_iff]
    rintro ⟨last, hsteps⟩
    have hzero := (eq_of_steps_of_unused hunused hsteps).1
    omega
  · rw [← Bool.not_eq_true, resolveSlot_unknown_iff]
    rintro ⟨n, -, last, hsteps, hobscures⟩
    obtain ⟨-, rfl⟩ := eq_of_steps_of_unused hunused hsteps
    rcases hobscures with huntraced | ⟨seenAt, hused⟩
    · rw [hwalked] at huntraced
      cases huntraced
    · exact hunused _ hused

end Slots

/-- How the props of a component fare whose body is read to its end. Its uses of them are the plain
reads that are met, so a prop that is read where it is rendered or out of sight is not dropped, and
one that is not read at all is. All that is handed to an element which cannot be traced is visited
out of sight; but where that is the whole props object, no prop is read by it. -/
structure Tracer.PropsFollowed (tracer : Tracer) (body : Node) (actual : ActualGraph)
    (owner : Nat) : Prop where
  used : ∀ property use, UsedAs actual.usages ⟨owner, property⟩ use ↔
    ∃ visit, tracer.Met body visit ∧ tracer.ReadsProp visit property ∧ visit.placement.use = use
  read : ∀ property visit, tracer.Met body visit → tracer.ReadsProp visit property →
    (∀ slot, visit.placement ≠ .slot slot) → (actual.resolve ⟨owner, property⟩).state ≠ .dropped
  unread : ∀ property, (∀ visit, tracer.Met body visit → ¬tracer.ReadsProp visit property) →
    (actual.resolve ⟨owner, property⟩).state = .dropped
  handed : ∀ visit, tracer.Met body visit → tracer.IsOpaque visit.node →
    ∀ value ∈ tracer.values visit.node ++ visit.node.elementChildren,
      tracer.Met body ⟨.outOfSight, .markup, value⟩
  spread : ∀ value object, tracer.SpreadsProps value object → ∀ placement n last,
    Steps tracer.Goes n ⟨placement, .markup, value⟩ last →
      ∀ property, ¬tracer.ReadsProp last property

theorem Analysis.Undisturbed.propsFollowed {config : Config} {resolver : Resolver}
    {unit : SourceUnit} {analysis : Analysis} (hrun : analysis.Undisturbed config resolver unit)
    {component : Component} (hcomponent : component ∈ analysis.arena.components)
    (hwalked : analysis.actual.wasWalked component.id = true) :
    ∃ shape body, (Extraction.ofUnit config unit).shapes[component.id]? = some shape ∧
      shape.body = some body ∧
      (unit.tracer analysis.arena resolver shape).PropsFollowed body
        analysis.actual component.id := by
  obtain ⟨shape, first, hshape, hget⟩ := hrun.exists_usage hcomponent
  rw [ActualGraph.wasWalked_of_get? hget] at hwalked
  obtain ⟨body, hbody, hcomplete⟩ := walked_traceComponent_iff.1 hwalked
  obtain ⟨_, hbody', contents, hcontents, husage⟩ := exists_contents_of_walked hwalked
  cases hbody.symm.trans hbody'
  have hwalked? := Usages.walked?_eq_some_iff.2 ⟨hget, hwalked⟩
  have hresolve : ∀ slot, analysis.actual.resolve slot =
      resolveSlot analysis.actual.usages config.depthBound slot := by
    intro slot
    rw [hrun.actual]
    rfl
  have hused : ∀ property use, UsedAs analysis.actual.usages ⟨component.id, property⟩ use ↔
      ∃ visit, (unit.tracer analysis.arena resolver shape).Met body visit ∧
        (unit.tracer analysis.arena resolver shape).ReadsProp visit property ∧
          visit.placement.use = use := by
    intro property use
    rw [← Tracer.mem_uses_readBody_iff hcomplete, ← hcontents]
    simp [UsedAs, hget, husage]
  refine ⟨shape, body, hshape, hbody, hused, ?_, ?_, ?_, ?_⟩
  · intro property visit hmet hreads hplace
    rw [hresolve]
    exact resolveSlot_ne_dropped_of_usedAs config.depthBound_pos
      ((hused property _).2 ⟨visit, hmet, hreads, rfl⟩) hplace
  · intro property hnone
    rw [hresolve]
    apply resolveSlot_dropped_of_unused config.depthBound_pos hwalked?
    intro use huse
    obtain ⟨visit, hmet, hreads, -⟩ := (hused property use).1 huse
    exact hnone visit hmet hreads
  · exact fun visit hmet hhidden value hvalue => hmet.of_isOpaque hhidden hvalue
  · exact fun value object hspreads placement n last hsteps property =>
      hspreads.not_readsProp hsteps property

/-- **A spread of the whole props object leaves no trace.** The slots of each traced component are
kept open by the plain reads of its props only, wherever these are handed over, and not by a spread
of all of them. -/
theorem whole_props_unread (config : Config) (resolver : Resolver) (unit : SourceUnit) :
    ∃ analysis, Analysis.run config (.quiet resolver) unit .fresh = .ok (analysis, .fresh) ∧
      ∀ component ∈ analysis.arena.components,
        analysis.actual.wasWalked component.id = true →
          ∃ shape body, (Extraction.ofUnit config unit).shapes[component.id]? = some shape ∧
            shape.body = some body ∧
            (unit.tracer analysis.arena resolver shape).PropsFollowed body
              analysis.actual component.id := by
  obtain ⟨analysis, hrun⟩ := Analysis.exists_undisturbed config resolver unit
  refine ⟨analysis, Analysis.run_quiet_eq_ok_of_undisturbed hrun, ?_⟩
  exact fun component hcomponent hwalked => hrun.propsFollowed hcomponent hwalked

/-! ### A spread that counts as a drop -/

/-- `Card` hands all its props to an element of no known source, and `b` once more by its name. -/
def spreadUnit : SourceUnit where
  path := "spread.tsx"
  source := ⟨["interface P\x7b/** @renders i */a:ReactNode;b:ReactNode\x7d\n/** @component */",
    "function Card(props:P)\x7breturn <Mystery \x7b...props\x7d b=\x7bprops.b\x7d/>\x7d\n"].flatMap
      String.toList⟩
  renderableTypes := ["ReactNode"]
  root := (Node.ofRows?
    [⟨none, "program", 0, 136, none, true⟩,
      ⟨some 0, "interface_declaration", 0, 53, none, true⟩,
      ⟨some 1, "type_identifier", 10, 11, some "name", true⟩,
      ⟨some 1, "interface_body", 11, 53, some "body", true⟩,
      ⟨some 3, "comment", 12, 29, none, true⟩,
      ⟨some 3, "property_signature", 29, 40, none, true⟩,
      ⟨some 5, "property_identifier", 29, 30, some "name", true⟩,
      ⟨some 5, "type_annotation", 30, 40, some "type", true⟩,
      ⟨some 7, "type_identifier", 31, 40, none, true⟩,
      ⟨some 3, "property_signature", 41, 52, none, true⟩,
      ⟨some 9, "property_identifier", 41, 42, some "name", true⟩,
      ⟨some 9, "type_annotation", 42, 52, some "type", true⟩,
      ⟨some 11, "type_identifier", 43, 52, none, true⟩,
      ⟨some 0, "comment", 54, 71, none, true⟩,
      ⟨some 0, "function_declaration", 71, 135, none, true⟩,
      ⟨some 14, "identifier", 80, 84, some "name", true⟩,
      ⟨some 14, "formal_parameters", 84, 93, some "parameters", true⟩,
      ⟨some 16, "required_parameter", 85, 92, none, true⟩,
      ⟨some 17, "identifier", 85, 90, some "pattern", true⟩,
      ⟨some 17, "type_annotation", 90, 92, some "type", true⟩,
      ⟨some 19, "type_identifier", 91, 92, none, true⟩,
      ⟨some 14, "statement_block", 93, 135, some "body", true⟩,
      ⟨some 21, "return_statement", 94, 134, none, true⟩,
      ⟨some 22, "jsx_self_closing_element", 101, 134, none, true⟩,
      ⟨some 23, "identifier", 102, 109, some "name", true⟩,
      ⟨some 23, "jsx_expression", 110, 120, none, true⟩,
      ⟨some 25, "spread_element", 111, 119, none, true⟩,
      ⟨some 26, "identifier", 114, 119, none, true⟩,
      ⟨some 23, "jsx_attribute", 121, 132, none, true⟩,
      ⟨some 28, "property_identifier", 121, 122, none, true⟩,
      ⟨some 28, "jsx_expression", 123, 132, none, true⟩,
      ⟨some 30, "member_expression", 124, 131, none, true⟩,
      ⟨some 31, "identifier", 124, 129, some "object", true⟩,
      ⟨some 31, "property_identifier", 130, 131, some "property", true⟩]).getD default

/-- A property that a component passes on to an element which cannot be traced, in a spread of all
its props, counts as dropped. -/
def Analysis.DropsSpread (analysis : Analysis) (tracer : Tracer) (body : Node) (slot : Slot) :
    Prop :=
  (∃ visit, tracer.Met body visit ∧ tracer.IsOpaque visit.node ∧
    ∃ value ∈ tracer.values visit.node, ∃ object, tracer.SpreadsProps value object) ∧
  (analysis.actual.resolve slot).state = .dropped

theorem card_props_unread :
    ∃ analysis, Analysis.run relayConfig (.quiet .blind) spreadUnit .fresh =
        .ok (analysis, .fresh) ∧
      ∃ component ∈ analysis.arena.components, component.name = "Card" ∧
        analysis.actual.wasWalked component.id = true ∧
        ∃ shape body,
          (Extraction.ofUnit relayConfig spreadUnit).shapes[component.id]? = some shape ∧
          shape.body = some body ∧
          (spreadUnit.tracer analysis.arena .blind shape).PropsFollowed body
            analysis.actual component.id := by
  obtain ⟨analysis, hrun, hfollowed⟩ := whole_props_unread relayConfig .blind spreadUnit
  have hcard : (Analysis.run relayConfig (.quiet .blind) spreadUnit .fresh).toOption.any
      (fun result => decide (∃ component ∈ result.1.arena.components, component.name = "Card" ∧
        result.1.actual.wasWalked component.id = true)) = true := by
    decide +kernel
  rw [hrun] at hcard
  obtain ⟨component, hcomponent, hname, hwalked⟩ := of_decide_eq_true hcard
  exact ⟨analysis, hrun, component, hcomponent, hname, hwalked,
    hfollowed component hcomponent hwalked⟩

/-- The spread hands `a` over, yet `a` counts as dropped and its declaration as missing, while `b`
is left open. -/
theorem spread_props_dropped :
    ∃ analysis, Analysis.run relayConfig (.quiet .blind) spreadUnit .fresh =
        .ok (analysis, .fresh) ∧
      ∃ component ∈ analysis.arena.components,
        analysis.actual.wasWalked component.id = true ∧
        (∃ shape body,
          (Extraction.ofUnit relayConfig spreadUnit).shapes[component.id]? = some shape ∧
          shape.body = some body ∧
          analysis.DropsSpread (spreadUnit.tracer analysis.arena .blind shape) body
            ⟨component.id, "a"⟩) ∧
        (analysis.actual.resolve ⟨component.id, "b"⟩).state = .unknown ∧
        ∃ finding ∈ analysis.findings, finding.kind = .missingDeclaration := by
  obtain ⟨analysis, hundisturbed⟩ := Analysis.exists_undisturbed relayConfig .blind spreadUnit
  have hrun := Analysis.run_quiet_eq_ok_of_undisturbed hundisturbed
  have hcard : (Analysis.run relayConfig (.quiet .blind) spreadUnit .fresh).toOption.any
      (fun result => decide (∃ component ∈ result.1.arena.components,
        result.1.actual.wasWalked component.id = true ∧
        (∃ shape ∈ (Extraction.ofUnit relayConfig spreadUnit).shapes[component.id]?,
          ∃ body ∈ shape.body,
            ∃ middle ∈ (spreadUnit.tracer result.1.arena .blind shape).nexts
                ⟨.own, body.bodyReading, body⟩,
              ∃ visit ∈ (spreadUnit.tracer result.1.arena .blind shape).nexts middle,
                (spreadUnit.tracer result.1.arena .blind shape).IsOpaque visit.node ∧
                ∃ value ∈ (spreadUnit.tracer result.1.arena .blind shape).values visit.node,
                  ∃ object,
                    (spreadUnit.tracer result.1.arena .blind shape).SpreadsProps value object) ∧
        (result.1.actual.resolve ⟨component.id, "a"⟩).state = .dropped ∧
        (result.1.actual.resolve ⟨component.id, "b"⟩).state = .unknown ∧
        ∃ finding ∈ result.1.findings, finding.kind = .missingDeclaration)) = true := by
    decide +kernel
  rw [hrun] at hcard
  obtain ⟨component, hcomponent, hwalked, ⟨shape, hshape, body, hbody, middle, hmiddle, visit,
    hvisit, hhidden, hspread⟩, hdropped, hopen, hmissing⟩ := of_decide_eq_true hcard
  exact ⟨analysis, hrun, component, hcomponent, hwalked, ⟨shape, body, hshape, hbody,
    ⟨visit, ⟨2, middle, hmiddle, visit, hvisit, rfl⟩, hhidden, hspread⟩, hdropped⟩, hopen, hmissing⟩

end RenderAudit
