import RenderAudit.Proofs.ElementAccount
import RenderAudit.Proofs.UntracedComponents

/-!
# Each element counts once

What a component instantiates is spread over its direct list and the members of its groups. All of
it stems from elements below the body of the component, and no two instantiations from the same one.
-/

namespace RenderAudit

/-- All that a component was seen to instantiate, by itself and then for the slots of others. -/
def ComponentUsage.instantiations (usage : ComponentUsage) : List Instantiation :=
  usage.direct ++ usage.groups.flatMap (·.members)

/-- What is known while the body of a component is traced. -/
abbrev SourceUnit.tracer (unit : SourceUnit) (arena : Arena) (resolver : Resolver) (shape : Shape) :
    Tracer :=
  ⟨unit, arena, resolver, unit.bindings shape⟩

theorem exists_contents_of_walked {unit : SourceUnit} {arena : Arena} {resolver : Resolver}
    {first component : Nat} {shape : Shape}
    (hwalked : (traceComponent unit arena resolver first component shape).usage.walked = true) :
    ∃ body, shape.body = some body ∧ ∃ contents,
      contents = (unit.tracer arena resolver shape).readBody body ∧
      (traceComponent unit arena resolver first component shape).usage =
        ⟨component, true, Content.direct contents, Content.groups first contents,
          Content.uses contents⟩ := by
  revert hwalked
  unfold traceComponent
  split
  · intro hwalked
    cases hwalked
  · next body hbody =>
    dsimp only [Content.usage]
    split
    · intro _
      exact ⟨body, hbody, _, rfl, rfl⟩
    · intro hwalked
      cases hwalked

/-- Values that stand for different elements of a list can be placed there. -/
theorem exists_place_of_subperm {α β : Type} {R : α → β → Prop} {few many : List α}
    {values : List β} (hrel : List.Forall₂ R few values) (hfew : few.Subperm many) :
    ∃ place : Fin values.length → Fin many.length, Function.Injective place ∧
      ∀ i, R (many.get (place i)) (values.get i) := by
  classical
  have hlength := hrel.length_eq
  refine ⟨fun i => hfew.idxInj (i.cast hlength.symm), ?_, ?_⟩
  · intro i j hij
    have hval := congrArg Fin.val (hfew.idxInj_injective hij)
    exact Fin.ext hval
  · intro i
    have hget := hrel.get (i.cast hlength.symm).isLt i.isLt
    rw [List.get_eq_getElem, hfew.getElem_idxInj_eq_getElem]
    exact hget

/-- The instantiations of a walked component stem from elements below its body. -/
theorem exists_elements_of_walked {unit : SourceUnit} {arena : Arena} {resolver : Resolver}
    {first component : Nat} {shape : Shape}
    (hwalked : (traceComponent unit arena resolver first component shape).usage.walked = true) :
    ∃ body, shape.body = some body ∧ ∃ elements,
      Node.Among body.Regular elements body.nodes ∧
      List.Forall₂ (unit.Records arena resolver) elements
        (traceComponent unit arena resolver first component shape).usage.instantiations := by
  obtain ⟨body, hbody, contents, rfl, husage⟩ := exists_contents_of_walked hwalked
  obtain ⟨elements, hrecords, hamong⟩ :=
    ((unit.tracer arena resolver shape).accounts_read nestingLimit body.bodyReading body
      (id : body.Regular → body.Regular)).elements
  have hperm := Content.direct_append_members_perm
    ((unit.tracer arena resolver shape).readBody body) first
  -- the elements in the order in which their instantiations are listed
  have hlisted : Relation.Comp List.Perm (List.Forall₂ (unit.Records arena resolver))
      elements (traceComponent unit arena resolver first component shape).usage.instantiations := by
    rw [← List.forall₂_comp_perm_eq_perm_comp_forall₂, husage]
    exact ⟨_, hrecords, hperm.symm⟩
  obtain ⟨elements', helements, hrecords'⟩ := hlisted
  exact ⟨body, hbody, elements', (Node.among_of_subperm helements.symm.subperm).trans hamong,
    hrecords'⟩

section Provenance

variable {unit : SourceUnit} {arena : Arena} {resolver : Resolver} {first component : Nat}
  {shape : Shape} {value : Instantiation}
  (hmem : value ∈ (traceComponent unit arena resolver first component shape).usage.instantiations)

include hmem

/-- Only what was read to its end instantiates something. -/
theorem walked_of_mem_instantiations :
    (traceComponent unit arena resolver first component shape).usage.walked = true := by
  cases hwalked : (traceComponent unit arena resolver first component shape).usage.walked with
  | true => rfl
  | false =>
      rw [usage_traceComponent_of_not_walked hwalked] at hmem
      cases hmem

theorem exists_records_of_mem_instantiations :
    ∃ body, shape.body = some body ∧ ∃ element ∈ body.nodes,
      unit.Records arena resolver element value := by
  obtain ⟨body, hbody, elements, hamong, hrecords⟩ :=
    exists_elements_of_walked (walked_of_mem_instantiations hmem)
  obtain ⟨element, helement, hvalue⟩ := exists_left_of_mem hrecords hmem
  exact ⟨body, hbody, element, hamong.1 helement, hvalue⟩

end Provenance

/-- **Each element counts once.** If every element below the body of a walked component opens with
its tag, then what the component instantiates, directly and in all its groups, is placed at
different nodes of the body: each at an element with its span, whose name stands for its target. -/
theorem elements_recorded_once {unit : SourceUnit} {arena : Arena} {inquiry : Inquiry}
    {first : Nat} {token token' : CancelToken} {shapes : List (Shape × Nat)} {usages : Usages}
    (htraced : traceAll unit arena inquiry first token shapes = .ok (usages, token')) :
    List.Forall₂ (fun (entry : Shape × Nat) usage => usage.component = entry.2 ∧
      (usage.walked = true → ∃ body, entry.1.body = some body ∧ (body.Regular →
        ∃ place : Fin usage.instantiations.length → Fin body.nodes.length,
          Function.Injective place ∧
          ∀ i, unit.Records arena inquiry.resolver (body.nodes.get (place i))
            (usage.instantiations.get i))))
      shapes usages := by
  refine (forall₂_traceAll htraced).imp ?_
  rintro ⟨shape, component⟩ usage ⟨start, rfl⟩
  refine ⟨component_traceComponent, fun hwalked => ?_⟩
  obtain ⟨body, hbody, elements, hamong, hrecords⟩ := exists_elements_of_walked hwalked
  exact ⟨body, hbody, fun hregular => exists_place_of_subperm hrecords (hamong.2 hregular)⟩

/-- `App` declares `Box`, and shows a `Card` next to a `Box` with another `Card` in it. -/
def boxUnit : SourceUnit where
  path := "box.tsx"
  source := ⟨["interface P\x7bchildren:ReactNode\x7d\n",
    "/** @component */function Box(\x7bchildren\x7d:P)\x7breturn children\x7d\n",
    "/** @component */function Card()\x7breturn <b/>\x7d\n",
    "/** @component\n@renders Box\n*/",
    "function App()\x7breturn <p><Card/><Box><Card/></Box></p>\x7d\n"].flatMap String.toList⟩
  renderableTypes := ["ReactNode"]
  root := (Node.ofRows?
    [⟨none, "program", 0, 225, none, true⟩,
      ⟨some 0, "interface_declaration", 0, 31, none, true⟩,
      ⟨some 1, "type_identifier", 10, 11, some "name", true⟩,
      ⟨some 1, "interface_body", 11, 31, some "body", true⟩,
      ⟨some 3, "property_signature", 12, 30, none, true⟩,
      ⟨some 4, "property_identifier", 12, 20, some "name", true⟩,
      ⟨some 4, "type_annotation", 20, 30, some "type", true⟩,
      ⟨some 6, "type_identifier", 21, 30, none, true⟩,
      ⟨some 0, "comment", 32, 49, none, true⟩,
      ⟨some 0, "function_declaration", 49, 92, none, true⟩,
      ⟨some 9, "identifier", 58, 61, some "name", true⟩,
      ⟨some 9, "formal_parameters", 61, 75, some "parameters", true⟩,
      ⟨some 11, "required_parameter", 62, 74, none, true⟩,
      ⟨some 12, "object_pattern", 62, 72, some "pattern", true⟩,
      ⟨some 13, "shorthand_property_identifier_pattern", 63, 71, none, true⟩,
      ⟨some 12, "type_annotation", 72, 74, some "type", true⟩,
      ⟨some 15, "type_identifier", 73, 74, none, true⟩,
      ⟨some 9, "statement_block", 75, 92, some "body", true⟩,
      ⟨some 17, "return_statement", 76, 91, none, true⟩,
      ⟨some 18, "identifier", 83, 91, none, true⟩,
      ⟨some 0, "comment", 93, 110, none, true⟩,
      ⟨some 0, "function_declaration", 110, 138, none, true⟩,
      ⟨some 21, "identifier", 119, 123, some "name", true⟩,
      ⟨some 21, "formal_parameters", 123, 125, some "parameters", true⟩,
      ⟨some 21, "statement_block", 125, 138, some "body", true⟩,
      ⟨some 24, "return_statement", 126, 137, none, true⟩,
      ⟨some 25, "jsx_self_closing_element", 133, 137, none, true⟩,
      ⟨some 26, "identifier", 134, 135, some "name", true⟩,
      ⟨some 0, "comment", 139, 169, none, true⟩,
      ⟨some 0, "function_declaration", 169, 224, none, true⟩,
      ⟨some 29, "identifier", 178, 181, some "name", true⟩,
      ⟨some 29, "formal_parameters", 181, 183, some "parameters", true⟩,
      ⟨some 29, "statement_block", 183, 224, some "body", true⟩,
      ⟨some 32, "return_statement", 184, 223, none, true⟩,
      ⟨some 33, "jsx_element", 191, 223, none, true⟩,
      ⟨some 34, "jsx_opening_element", 191, 194, some "open_tag", true⟩,
      ⟨some 35, "identifier", 192, 193, some "name", true⟩,
      ⟨some 34, "jsx_self_closing_element", 194, 201, none, true⟩,
      ⟨some 37, "identifier", 195, 199, some "name", true⟩,
      ⟨some 34, "jsx_element", 201, 219, none, true⟩,
      ⟨some 39, "jsx_opening_element", 201, 206, some "open_tag", true⟩,
      ⟨some 40, "identifier", 202, 205, some "name", true⟩,
      ⟨some 39, "jsx_self_closing_element", 206, 213, none, true⟩,
      ⟨some 42, "identifier", 207, 211, some "name", true⟩,
      ⟨some 39, "jsx_closing_element", 213, 219, some "close_tag", true⟩,
      ⟨some 44, "identifier", 215, 218, some "name", true⟩,
      ⟨some 34, "jsx_closing_element", 219, 223, some "close_tag", true⟩,
      ⟨some 46, "identifier", 221, 222, some "name", true⟩]).getD default

theorem box_elements_once :
    ∃ arena shapes usages,
      traceAll boxUnit arena (.quiet .blind) 0 .fresh shapes = .ok (usages, .fresh) ∧
      ∃ usage ∈ usages, usage.direct.map (·.target.name) = ["p", "Card", "Box"] ∧
        usage.groups.map (fun group => group.members.map (·.target.name)) = [["Card"]] ∧
        ∃ body : Node, ∃ place : Fin usage.instantiations.length → Fin body.nodes.length,
          Function.Injective place ∧
          ∀ i, boxUnit.Records arena .blind (body.nodes.get (place i))
            (usage.instantiations.get i) := by
  refine ⟨(Extraction.ofUnit relayConfig boxUnit).arena,
    (Extraction.ofUnit relayConfig boxUnit).shapes.zipIdx, ?_⟩
  obtain ⟨usages, htraced⟩ := exists_traceAll_quiet boxUnit
    (Extraction.ofUnit relayConfig boxUnit).arena .blind 0
    (Extraction.ofUnit relayConfig boxUnit).shapes.zipIdx
  have honce := elements_recorded_once htraced
  have hregular : ∀ entry ∈ (Extraction.ofUnit relayConfig boxUnit).shapes.zipIdx,
      ∀ body ∈ entry.1.body, body.Regular := by
    decide +kernel
  have happ : (traceAll boxUnit (Extraction.ofUnit relayConfig boxUnit).arena (.quiet .blind) 0
      .fresh (Extraction.ofUnit relayConfig boxUnit).shapes.zipIdx).toOption.any
        (fun result => decide (∃ usage ∈ result.1, usage.walked = true ∧
          usage.direct.map (·.target.name) = ["p", "Card", "Box"] ∧
          usage.groups.map (fun group => group.members.map (·.target.name)) = [["Card"]])) =
      true := by
    decide +kernel
  rw [htraced] at happ
  obtain ⟨usage, husage, hwalked, hdirect, hgroups⟩ := of_decide_eq_true happ
  obtain ⟨entry, hentry, -, hplaced⟩ := exists_left_of_mem honce husage
  obtain ⟨body, hbody, hplace⟩ := hplaced hwalked
  exact ⟨usages, htraced, usage, husage, hdirect, hgroups, body,
    hplace (hregular entry hentry body hbody)⟩

end RenderAudit
