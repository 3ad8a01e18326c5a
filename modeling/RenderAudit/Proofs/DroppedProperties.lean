import RenderAudit.Proofs.AnalysisSound
import RenderAudit.Proofs.DeclaredImage

/-!
# Properties that are declared and dropped

A tag on a renderable property declares an edge of its component. If the property is dropped, that
edge is reported, at the tag that put it into the graph. Declared edges have one tag each, the first
of all that name their target for the component, so the other tags on a dropped property stay
unmentioned.
-/

namespace RenderAudit

/-! ### Names of targets -/

namespace Arena

variable {arena : Arena}

theorem name_of_scoped? {owner : TagOwner} {name : String} {target : Target}
    (hscoped : arena.scoped? owner name = .ok (some target)) : target.name = name := by
  have howned : ∀ id,
      (arena.propertyOf? id name).map (fun found => Target.property found.id found.name) =
        some target → target.name = name := by
    intro id hfound
    obtain ⟨property, hproperty, rfl⟩ := Option.map_eq_some_iff.1 hfound
    have hname := List.find?_some (show List.find? _ _ = _ from hproperty)
    exact of_decide_eq_true hname
  cases owner with
  | component id => exact howned id (Except.ok.inj hscoped)
  | property id =>
      obtain ⟨property, -, hnext⟩ := bind_eq_ok_iff.1 hscoped
      dsimp only at hnext
      split at hnext
      · cases hnext
      · split at hnext
        · exact howned _ (Except.ok.inj hnext)
        · split at hnext
          · cases hnext
            rfl
          · cases hnext

/-- A tag is resolved to something of its own name, to a component, or to anything. -/
theorem name_tagTarget (arena : Arena) (resolver : Resolver) (tag : Tag) :
    (arena.tagTarget resolver tag).name = tag.target ∨
      (∃ component ∈ arena.components, (arena.tagTarget resolver tag).name = component.name) ∨
      arena.tagTarget resolver tag = .wildcard := by
  unfold tagTarget
  split
  · exact .inr (.inr rfl)
  · split
    · exact .inl rfl
    · next target hscoped => exact .inl (name_of_scoped? hscoped)
    · unfold targetOf?
      split
      · next component hcomponent =>
        obtain ⟨id, -, hget⟩ := Option.bind_eq_some_iff.1 hcomponent
        exact .inr (.inl ⟨component, List.mem_of_getElem? hget, rfl⟩)
      · split
        · exact .inl rfl
        · split
          · exact .inl rfl
          · exact .inl rfl
          · exact .inl rfl

end Arena

theorem toString_text (text : String) : toString text = text := rfl

theorem Target.oneWord_label {target : Target} (hname : OneWord target.name) :
    OneWord target.label := by
  unfold label
  split
  · simpa [OneWord, toString_text] using hname
  · decide
  · exact hname

/-- All components are called by a single word, as identifiers are. -/
def Arena.WordNames (arena : Arena) : Prop :=
  ∀ component ∈ arena.components, OneWord component.name

instance (arena : Arena) : Decidable arena.WordNames :=
  inferInstanceAs (Decidable (∀ component ∈ arena.components, OneWord component.name))

theorem Arena.oneWord_label_tagTarget {arena : Arena} (hnames : arena.WordNames)
    (resolver : Resolver) {tag : Tag} (hword : OneWord tag.target) :
    OneWord (arena.tagTarget resolver tag).label := by
  rcases arena.name_tagTarget resolver tag with
    hname | ⟨component, hcomponent, hname⟩ | hwild
  · exact Target.oneWord_label (hname ▸ hword)
  · exact Target.oneWord_label (hname ▸ hnames component hcomponent)
  · rw [hwild]
    decide

/-! ### Messages that tell edges apart -/

theorem eq_of_append_blank {first second rest rest' : List Char} (hfirst : ' ' ∉ first)
    (hsecond : ' ' ∉ second) (heq : first ++ ' ' :: rest = second ++ ' ' :: rest') :
    first = second ∧ rest = rest' := by
  induction first generalizing second with
  | nil =>
      cases second with
      | nil => exact ⟨rfl, (List.cons.inj heq).2⟩
      | cons c second => exact absurd (List.mem_cons.2 (.inl (List.cons.inj heq).1)) hsecond
  | cons c first ih =>
      cases second with
      | nil => exact absurd (List.mem_cons.2 (.inl (List.cons.inj heq).1.symm)) hfirst
      | cons d second =>
          obtain ⟨rfl, htail⟩ := List.cons.inj heq
          obtain ⟨rfl, hrest⟩ := ih (fun hmem => hfirst (List.mem_cons_of_mem c hmem))
            (fun hmem => hsecond (List.mem_cons_of_mem c hmem)) htail
          exact ⟨rfl, hrest⟩

namespace Comparison

section Message

variable (component : Component) (edge : DeclaredEdge)

theorem message_missingFinding_some (name : String) :
    (missingFinding component edge (some name)).message.toList =
      component.name.toList ++ ' ' :: ("declares that it renders ".toList ++
        (edge.target.label.toList ++ ' ' :: ("through '".toList ++ (name.toList ++
          ("', but never renders '".toList ++ (name.toList ++ ['\''])))))) := by
  simp [missingFinding, toString_text]

theorem message_missingFinding_none :
    (missingFinding component edge none).message.toList =
      component.name.toList ++ ' ' :: ("declares that it renders ".toList ++
        ((edge.target.label.toList ++ [',']) ++ ' ' :: "but no such usage was found".toList)) := by
  simp [missingFinding, toString_text]

end Message

/-- Words are told apart in a message, so findings with one message state the same facts. -/
theorem details_of_message_eq {component other : Component} {edge edge' : DeclaredEdge}
    {name : String} {property : Option String} (hcomponent : OneWord component.name)
    (hother : OneWord other.name) (hlabel : OneWord edge.target.label)
    (hlabel' : OneWord edge'.target.label)
    (hmessage : (missingFinding other edge' property).message =
      (missingFinding component edge (some name)).message) :
    (missingFinding other edge' property).details =
      (missingFinding component edge (some name)).details := by
  have htext := congrArg String.toList hmessage
  rw [message_missingFinding_some] at htext
  cases property with
  | none =>
      rw [message_missingFinding_none] at htext
      obtain ⟨-, htext⟩ := eq_of_append_blank hother hcomponent htext
      have hcomma : ' ' ∉ edge'.target.label.toList ++ [','] := by simpa [OneWord] using hlabel'
      obtain ⟨-, htext⟩ := eq_of_append_blank hcomma hlabel (List.append_cancel_left htext)
      simp at htext
  | some name' =>
      rw [message_missingFinding_some] at htext
      obtain ⟨hname, htext⟩ := eq_of_append_blank hother hcomponent htext
      obtain ⟨htarget, htext⟩ :=
        eq_of_append_blank hlabel' hlabel (List.append_cancel_left htext)
      -- The name of the property stands in the rest twice, so its length can be told.
      have hrest := List.append_cancel_left htext
      have hlength : name'.toList.length = name.toList.length := by
        have htotal := congrArg List.length hrest
        simp only [List.length_append] at htotal
        omega
      have hproperty := (List.append_inj hrest hlength).1
      rw [String.toList_inj] at hname htarget hproperty
      simp only [missingFinding, hname, htarget, hproperty]

end Comparison

/-! ### Dropped properties -/

/-- Of the tags that declare a target for a component, this is the first. -/
structure Arena.FirstDeclares (arena : Arena) (tag : Tag) (component : Nat) (target : Target) : Prop
    extends arena.Declares tag component target where
  first : ∀ earlier ∈ arena.tags, earlier.id < tag.id →
    ∀ other, arena.Declares earlier component other → other.key ≠ target.key

theorem DeclaredGraph.ImageOf.mem_edgesFrom {arena : Arena} {graph : DeclaredGraph}
    (himage : graph.ImageOf arena) (hnumbered : Numbered Tag.id arena.tags) {tag : Tag}
    (htag : tag ∈ arena.tags) {component : Nat} {target : Target}
    (hfirst : arena.FirstDeclares tag component target) :
    ⟨component, target, tag.span, tag.owner.property?⟩ ∈ graph.edgesFrom component := by
  obtain ⟨edge, hedge, hkey⟩ := (himage.edge_iff component target.key).2
    ⟨tag, htag, target, hfirst.toDeclares, rfl⟩
  obtain ⟨source, hsource, hdeclares, hspan, hvia, hleast⟩ :=
    himage.edge_first component edge hedge
  have hid : source.id = tag.id := by
    have hle := hleast tag htag target hfirst.toDeclares hkey.symm
    by_contra hne
    exact hfirst.first source hsource (by omega) edge.target hdeclares hkey
  have hsame : source = tag := by
    have hget := hnumbered.getElem?_eq_some hsource
    rw [hid, hnumbered.getElem?_eq_some htag] at hget
    exact (Option.some.inj hget).symm
  subst hsame
  have htarget : edge.target = target :=
    Option.some.inj (hdeclares.resolved.symm.trans hfirst.resolved)
  have hcomponent : edge.source = component := of_decide_eq_true (List.mem_filter.1 hedge).2
  have hwhole : edge = ⟨component, target, source.span, source.owner.property?⟩ := by
    rw [← hspan, ← hvia, ← htarget, ← hcomponent]
  exact hwhole ▸ hedge

namespace Analysis.Undisturbed

variable {config : Config} {resolver : Resolver} {unit : SourceUnit} {analysis : Analysis}

theorem wellTagged (hrun : analysis.Undisturbed config resolver unit) :
    analysis.arena.WellTagged := by
  rw [hrun.arena]
  exact (Extraction.wellTagged_ofUnit config unit).arena.resolveTags resolver

theorem imageOf (hrun : analysis.Undisturbed config resolver unit) :
    analysis.declared.ImageOf analysis.arena :=
  (DeclaredGraph.collected_of_ofArena hrun.sound hrun.declared).imageOf hrun.sound
    hrun.wellTagged.numbered

theorem oneWord_label (hrun : analysis.Undisturbed config resolver unit)
    (hnames : analysis.arena.WordNames) {component : Nat} {edge : DeclaredEdge}
    (hedge : edge ∈ analysis.declared.edgesFrom component) : OneWord edge.target.label := by
  obtain ⟨tag, htag, hdeclares, -⟩ := hrun.imageOf.edge_first component edge hedge
  have hword := hrun.wellTagged.oneWord tag htag
  have hresolved := hdeclares.resolved
  rw [hrun.arena] at htag hnames
  obtain ⟨stored, -, rfl⟩ := List.mem_map.1 htag
  rw [← Option.some.inj hresolved]
  exact Arena.oneWord_label_tagTarget hnames resolver hword

/-- A reported declaration that is missing was found at a declared edge of a walked component. -/
theorem exists_edge_of_missing (hrun : analysis.Undisturbed config resolver unit)
    {reported : Finding} (hmem : reported ∈ analysis.findings)
    (hkind : reported.kind = .missingDeclaration) :
    ∃ component ∈ analysis.arena.components, analysis.actual.wasWalked component.id = true ∧
      ∃ edge ∈ analysis.declared.edgesFrom component.id, ∃ property,
        (analysis.comparison config).Unfulfilled component.id edge property ∧
        Comparison.missingFinding component edge property = reported := by
  obtain ⟨component, hcomponent, hfound⟩ :=
    hrun.exists_component_of_asserts hmem (.inr (.inl hkind))
  obtain ⟨missing, hmissing, hfound⟩ := Comparison.exists_mem_missingDeclarations hfound hkind
  obtain ⟨hwalked, edge, hedge, hfinding⟩ :=
    (Comparison.mem_missingDeclarations_iff hmissing).1 hfound
  obtain ⟨property, -, hunfulfilled, hreported⟩ :=
    Comparison.missingDeclaration?_eq_ok_some_iff.1 hfinding
  exact ⟨component, hcomponent, hwalked, edge, hedge, property, hunfulfilled, hreported⟩

end Analysis.Undisturbed

/-- A component was traced, and does nothing with a renderable property of its own. -/
@[mk_iff]
structure Analysis.Drops (analysis : Analysis) (component : Component) (property : Property) :
    Prop where
  component_mem : component ∈ analysis.arena.components
  property_mem : property ∈ analysis.arena.properties
  owner : property.owner = some component.id
  renderable : property.renderable = true
  walked : analysis.actual.wasWalked component.id = true
  dropped : (analysis.actual.resolve ⟨component.id, property.name⟩).state = .dropped

instance (analysis : Analysis) (component : Component) (property : Property) :
    Decidable (analysis.Drops component property) :=
  decidable_of_iff _ (analysis.drops_iff component property).symm

namespace Analysis.Drops

variable {config : Config} {resolver : Resolver} {unit : SourceUnit} {analysis : Analysis}
  {component : Component} {property : Property} {tag : Tag} {target : Target}

theorem mem_componentFindings (hdrops : analysis.Drops component property)
    (hrun : analysis.Undisturbed config resolver unit) (htag : tag ∈ analysis.arena.tags)
    (howner : tag.owner = .property property.id)
    (hfirst : analysis.arena.FirstDeclares tag component.id target) :
    Comparison.missingFinding component ⟨component.id, target, tag.span, some property.id⟩
        (some property.name) ∈
      (analysis.comparison config).componentFindings component := by
  have hedge := hrun.imageOf.mem_edgesFrom hrun.wellTagged.numbered htag hfirst
  rw [howner, TagOwner.property?_natCast] at hedge
  have hproperty : analysis.arena.property property.id = .ok property :=
    Arena.property_eq_ok_iff.2 (hrun.sound.properties.getElem?_eq_some hdrops.property_mem)
  have hforwarded : (analysis.comparison config).forwardedProperty
      ⟨component.id, target, tag.span, some property.id⟩ = .ok (some property.name) :=
    bind_eq_ok_iff.2 ⟨property, hproperty, rfl⟩
  have hfound := Comparison.missingDeclaration?_eq_ok_some_iff.2
    ⟨some property.name, hforwarded, hdrops.dropped, rfl⟩
  obtain ⟨missing, hmissing⟩ := hrun.exists_missingDeclarations component
  have hmem := (Comparison.mem_missingDeclarations_iff hmissing).2
    ⟨hdrops.walked, _, hedge, hfound⟩
  exact hrun.mem_componentFindings_of_missing hmissing hmem

theorem exists_reported (hdrops : analysis.Drops component property)
    (hrun : analysis.Undisturbed config resolver unit) (htag : tag ∈ analysis.arena.tags)
    (howner : tag.owner = .property property.id)
    (hfirst : analysis.arena.FirstDeclares tag component.id target) :
    ∃ reported ∈ analysis.findings, reported.kind = .missingDeclaration ∧
      reported.span = tag.span ∧
      reported.message = s!"{component.name} declares that it renders {target.label} through " ++
        s!"'{property.name}', but never renders '{property.name}'" ∧
      (analysis.arena.WordNames → reported.details =
        [("source", .text component.name), ("target", .text target.label),
          ("property", .text property.name)]) := by
  have hfound := hdrops.mem_componentFindings hrun htag howner hfirst
  have hedge := hrun.imageOf.mem_edgesFrom hrun.wellTagged.numbered htag hfirst
  obtain ⟨reported, hreported, hidentity⟩ := hrun.exists_mem_findings hdrops.component_mem hfound
  obtain ⟨hkind, hplace⟩ := Prod.mk.inj hidentity
  obtain ⟨hspan, hmessage⟩ := Prod.mk.inj hplace
  refine ⟨reported, hreported, hkind, hspan, ?_, ?_⟩
  · rw [hmessage, ← String.toList_inj, Comparison.message_missingFinding_some]
    simp [toString_text]
  · -- The finding that stands in the report may stem from another edge with the same message.
    intro hnames
    obtain ⟨other, hother, -, edge, hstated, stated, -, rfl⟩ :=
      hrun.exists_edge_of_missing hreported hkind
    exact Comparison.details_of_message_eq (hnames component hdrops.component_mem)
      (hnames other hother) (hrun.oneWord_label hnames hedge) (hrun.oneWord_label hnames hstated)
      hmessage

end Analysis.Drops

/-- A property that a walked component drops is reported at every tag on it that is the first to
name its target for the component. And only dropped properties are reported that way. -/
theorem dropped_property_reported (config : Config) (resolver : Resolver) (unit : SourceUnit) :
    ∃ analysis, Analysis.run config (.quiet resolver) unit .fresh = .ok (analysis, .fresh) ∧
      (∀ component property, analysis.Drops component property →
        ∀ tag ∈ analysis.arena.tags, ∀ target, tag.owner = .property property.id →
          analysis.arena.FirstDeclares tag component.id target →
          ∃ reported ∈ analysis.findings, reported.kind = .missingDeclaration ∧
            reported.span = tag.span ∧
            reported.message =
              s!"{component.name} declares that it renders {target.label} through " ++
                s!"'{property.name}', but never renders '{property.name}'" ∧
            (analysis.arena.WordNames → reported.details =
              [("source", .text component.name), ("target", .text target.label),
                ("property", .text property.name)])) ∧
      ∀ reported ∈ analysis.findings, reported.kind = .missingDeclaration →
        ∀ name, ("property", Detail.text name) ∈ reported.details →
          ∃ component ∈ analysis.arena.components,
            ("source", Detail.text component.name) ∈ reported.details ∧
            analysis.actual.wasWalked component.id = true ∧
            (analysis.actual.resolve ⟨component.id, name⟩).state = .dropped := by
  obtain ⟨analysis, hrun⟩ := Analysis.exists_undisturbed config resolver unit
  refine ⟨analysis, Analysis.run_quiet_eq_ok_of_undisturbed hrun, ?_, ?_⟩
  · intro component property hdrops tag htag target howner hfirst
    exact hdrops.exists_reported hrun htag howner hfirst
  · intro reported hreported hkind name hname
    obtain ⟨component, hcomponent, hwalked, edge, -, property, hunfulfilled, rfl⟩ :=
      hrun.exists_edge_of_missing hreported hkind
    refine ⟨component, hcomponent, ?_, hwalked, ?_⟩
    · cases property <;> simp [Comparison.missingFinding]
    · cases property with
      | none => simp [Comparison.missingFinding] at hname
      | some forwarded =>
          have hsame : name = forwarded := by simpa [Comparison.missingFinding] using hname
          rw [hsame]
          exact hunfulfilled

/-- `A` drops `b` and `c`. What `b` is declared to render, `a` is declared to render before. -/
def doubledUnit : SourceUnit where
  path := "doubled.tsx"
  source := ⟨["interface P\x7b/** @renders i */a:ReactNode;/** @renders i */b:ReactNode;",
    "/** @renders u */c:ReactNode\x7d\n",
    "/** @component */function A(\x7ba,b,c\x7d:P)\x7breturn a\x7d\n"].flatMap String.toList⟩
  renderableTypes := ["ReactNode"]
  root := (Node.ofRows?
    [⟨none, "program", 0, 149, none, true⟩,
      ⟨some 0, "interface_declaration", 0, 99, none, true⟩,
      ⟨some 1, "type_identifier", 10, 11, some "name", true⟩,
      ⟨some 1, "interface_body", 11, 99, some "body", true⟩,
      ⟨some 3, "comment", 12, 29, none, true⟩,
      ⟨some 3, "property_signature", 29, 40, none, true⟩,
      ⟨some 5, "property_identifier", 29, 30, some "name", true⟩,
      ⟨some 5, "type_annotation", 30, 40, some "type", true⟩,
      ⟨some 7, "type_identifier", 31, 40, none, true⟩,
      ⟨some 3, "comment", 41, 58, none, true⟩,
      ⟨some 3, "property_signature", 58, 69, none, true⟩,
      ⟨some 10, "property_identifier", 58, 59, some "name", true⟩,
      ⟨some 10, "type_annotation", 59, 69, some "type", true⟩,
      ⟨some 12, "type_identifier", 60, 69, none, true⟩,
      ⟨some 3, "comment", 70, 87, none, true⟩,
      ⟨some 3, "property_signature", 87, 98, none, true⟩,
      ⟨some 15, "property_identifier", 87, 88, some "name", true⟩,
      ⟨some 15, "type_annotation", 88, 98, some "type", true⟩,
      ⟨some 17, "type_identifier", 89, 98, none, true⟩,
      ⟨some 0, "comment", 100, 117, none, true⟩,
      ⟨some 0, "function_declaration", 117, 148, none, true⟩,
      ⟨some 20, "identifier", 126, 127, some "name", true⟩,
      ⟨some 20, "formal_parameters", 127, 138, some "parameters", true⟩,
      ⟨some 22, "required_parameter", 128, 137, none, true⟩,
      ⟨some 23, "object_pattern", 128, 135, some "pattern", true⟩,
      ⟨some 24, "shorthand_property_identifier_pattern", 129, 130, none, true⟩,
      ⟨some 24, "shorthand_property_identifier_pattern", 131, 132, none, true⟩,
      ⟨some 24, "shorthand_property_identifier_pattern", 133, 134, none, true⟩,
      ⟨some 23, "type_annotation", 135, 137, some "type", true⟩,
      ⟨some 28, "type_identifier", 136, 137, none, true⟩,
      ⟨some 20, "statement_block", 138, 148, some "body", true⟩,
      ⟨some 30, "return_statement", 139, 147, none, true⟩,
      ⟨some 31, "identifier", 146, 147, none, true⟩]).getD default

/-- Nothing before names what `c` is declared to render. -/
theorem doubled_reported :
    ∃ analysis, Analysis.run relayConfig (.quiet .blind) doubledUnit .fresh =
        .ok (analysis, .fresh) ∧
      ∃ component property, analysis.Drops component property ∧
        ∃ reported ∈ analysis.findings, reported.kind = .missingDeclaration ∧
          reported.details = [("source", .text "A"), ("target", .text "<u>"),
            ("property", .text "c")] := by
  obtain ⟨analysis, hrun, hreports, -⟩ := dropped_property_reported relayConfig .blind doubledUnit
  have hfacts : (Analysis.run relayConfig (.quiet .blind) doubledUnit .fresh).toOption.any
      (fun result => decide (result.1.arena.WordNames ∧
        ∃ component ∈ result.1.arena.components, component.name = "A" ∧
          ∃ property ∈ result.1.arena.properties, property.name = "c" ∧
            result.1.Drops component property ∧
            ∃ tag ∈ result.1.arena.tags, tag.owner = .property property.id ∧
              tag.resolved = some (.intrinsic "u") ∧
              ∀ earlier ∈ result.1.arena.tags, earlier.id < tag.id →
                earlier.resolved.all (·.key ≠ .intrinsic "u") = true)) = true := by
    decide +kernel
  rw [hrun] at hfacts
  obtain ⟨hwords, component, -, hcomponent, property, hmem, hproperty, hdrops, tag, htag, howner,
    hresolved, hearlier⟩ := of_decide_eq_true hfacts
  have hfirst : analysis.arena.FirstDeclares tag component.id (.intrinsic "u") := by
    refine ⟨⟨hresolved, by decide, by decide, ?_⟩, ?_⟩
    · exact .inr ⟨property, hmem, howner, hdrops.renderable, hdrops.owner⟩
    · intro earlier hbefore hlt other hdeclares
      have hother := hearlier earlier hbefore hlt
      rw [hdeclares.resolved] at hother
      exact of_decide_eq_true hother
  obtain ⟨reported, hreported, hkind, -, -, hdetails⟩ :=
    hreports component property hdrops tag htag _ howner hfirst
  refine ⟨analysis, hrun, component, property, hdrops, reported, hreported, hkind, ?_⟩
  rw [hdetails hwords, hcomponent, hproperty]
  rfl

/-- No finding names `b`, although it is dropped and declared to render `i`. -/
theorem doubled_unreported :
    ∃ analysis, Analysis.run relayConfig (.quiet .blind) doubledUnit .fresh =
        .ok (analysis, .fresh) ∧
      ∃ component property, analysis.Drops component property ∧
        (∃ tag ∈ analysis.arena.tags, tag.owner = .property property.id ∧
          ∃ target, tag.resolved = some target ∧ target.kind ≠ .wildcard ∧
            target.kind ≠ .unresolved) ∧
        ∀ reported ∈ analysis.findings, reported.kind = .missingDeclaration →
          ¬(("source", Detail.text component.name) ∈ reported.details ∧
            ("property", Detail.text property.name) ∈ reported.details) := by
  obtain ⟨analysis, hundisturbed⟩ := Analysis.exists_undisturbed relayConfig .blind doubledUnit
  have hrun := Analysis.run_quiet_eq_ok_of_undisturbed hundisturbed
  have hfacts : (Analysis.run relayConfig (.quiet .blind) doubledUnit .fresh).toOption.any
      (fun result => decide (∃ component ∈ result.1.arena.components,
        ∃ property ∈ result.1.arena.properties, result.1.Drops component property ∧
          (∃ tag ∈ result.1.arena.tags, tag.owner = .property property.id ∧
            tag.resolved = some (.intrinsic "i")) ∧
          ∀ reported ∈ result.1.findings, reported.kind = .missingDeclaration →
            ¬(("source", Detail.text component.name) ∈ reported.details ∧
              ("property", Detail.text property.name) ∈ reported.details))) = true := by
    decide +kernel
  rw [hrun] at hfacts
  obtain ⟨component, -, property, -, hdrops, ⟨tag, htag, howner, hresolved⟩, hsilent⟩ :=
    of_decide_eq_true hfacts
  exact ⟨analysis, hrun, component, property, hdrops,
    ⟨tag, htag, howner, _, hresolved, by decide, by decide⟩, hsilent⟩

end RenderAudit
