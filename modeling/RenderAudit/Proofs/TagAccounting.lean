import Mathlib.Data.List.Forall2
import RenderAudit.Proofs.ConfigRebuild
import RenderAudit.Proofs.NodeReading
import RenderAudit.Proofs.Refinement

/-!
# Every render tag is accounted for

A render tag can leave the extraction in several ways: as a finding about its body, about its place
or about the property that it stands on, as a tag of a component, or as a tag of every property that
its signature declares. Each occurrence leaves it in exactly one of them, and nothing leaves it that
did not come in as an occurrence.
-/

namespace RenderAudit

/-- What a parser guarantees of a tree: nodes are told apart by their ids, and a property signature
has a name. -/
structure Node.Grammatical (root : Node) : Prop where
  ids : (root.nodes.map Node.id).Nodup
  named : ∀ node ∈ root.nodes, node.kind = "property_signature" →
    (node.withField? "name").isSome = true

/-- In a tree that comes from rows only the names are left to the grammar. -/
theorem Node.grammatical_of_ofRows? {rows : List Row} {root : Node}
    (hroot : ofRows? rows = some root)
    (hnamed : root.nodes.all (fun node =>
      node.kind ≠ "property_signature" || (node.withField? "name").isSome) = true) :
    root.Grammatical where
  ids := nodup_ids_of_ofRows? hroot
  named node hnode hkind := by
    simpa [hkind] using List.all_eq_true.1 hnamed node hnode

theorem Config.componentTag_ne_rendersTag {draft : ConfigDraft} {config : Config}
    (hconfig : Config.ofDraft draft = .ok config) : config.componentTag ≠ config.rendersTag :=
  (isChecked_of_ofDraft hconfig).tags_ne

/-! ### Comments and their nodes -/

theorem perm_flatMap_filter {α κ : Type} [DecidableEq κ] {key : α → κ} {keys : List κ}
    (hnodup : keys.Nodup) {entries : List α} (hkeys : ∀ entry ∈ entries, key entry ∈ keys) :
    entries.Perm (keys.flatMap fun k => entries.filter (key · = k)) := by
  induction keys generalizing entries with
  | nil =>
      rw [List.eq_nil_iff_forall_not_mem.2 fun entry hentry => List.not_mem_nil (hkeys entry hentry)]
      exact .refl _
  | cons first keys ih =>
      obtain ⟨hfirst, hnodup⟩ := List.nodup_cons.1 hnodup
      have hothers : ∀ entry ∈ entries.filter (fun entry => !decide (key entry = first)),
          key entry ∈ keys := by
        intro entry hentry
        obtain ⟨hmem, hne⟩ := List.mem_filter.1 hentry
        exact (List.mem_cons.1 (hkeys entry hmem)).resolve_left (by simpa using hne)
      have hrest : (keys.flatMap fun k =>
          (entries.filter (fun entry => !decide (key entry = first))).filter (key · = k)) =
          keys.flatMap fun k => entries.filter (key · = k) := by
        apply List.flatMap_congr
        intro k hk
        rw [List.filter_filter]
        apply List.filter_congr
        intro entry _
        by_cases hentry : key entry = k
        · have hne : k ≠ first := fun h => hfirst (h ▸ hk)
          simp [hentry, hne]
        · simp [hentry]
      have hperm := ih hnodup hothers
      rw [hrest] at hperm
      rw [List.flatMap_cons]
      exact (List.filter_append_perm _ entries).symm.trans (hperm.append_left _)

namespace SourceUnit

theorem mem_ids_of_mem_docComments {unit : SourceUnit} {entry : Nat × DocComment}
    (hentry : entry ∈ unit.docComments) : entry.1 ∈ unit.root.nodes.map Node.id := by
  obtain ⟨place, hplace, hcomment⟩ := List.mem_filterMap.1 hentry
  split at hcomment
  · obtain ⟨node, hnode, rfl⟩ := Option.map_eq_some_iff.1 hcomment
    obtain ⟨sibling, hsibling, rfl⟩ := Option.map_eq_some_iff.1 hnode
    have hafter := (Node.within_of_mem_places hplace).2.2 (List.mem_of_find?_eq_some hsibling)
    exact List.mem_map_of_mem (Node.unwrapDeclaration_mem_nodes hafter)
  · cases hcomment

/-- Every documentation comment is read with one node. -/
theorem docComments_perm (unit : SourceUnit) (hids : (unit.root.nodes.map Node.id).Nodup) :
    unit.docComments.Perm (unit.root.nodes.flatMap fun node =>
      (unit.commentsAt node.id).map (Prod.mk node.id)) := by
  have hcomments : ∀ id, (unit.commentsAt id).map (Prod.mk id) =
      unit.docComments.filter (·.1 = id) := by
    intro id
    unfold commentsAt
    induction unit.docComments with
    | nil => rfl
    | cons entry entries ih =>
        by_cases hentry : entry.1 = id
        · subst hentry
          simp [ih]
        · simp [hentry, ih]
  have hperm := perm_flatMap_filter hids fun entry hentry => unit.mem_ids_of_mem_docComments hentry
  rw [List.flatMap_map] at hperm
  simpa only [hcomments] using hperm

end SourceUnit

/-! ### The outcome of every tag -/

/-- An occurrence of the renders tag in a comment of a node. -/
structure TagOccurrence where
  place : Located
  span : Span
  tag : DocTag

namespace SourceUnit

/-- The occurrences of the renders tag, node by node. -/
def renderTags (config : Config) (unit : SourceUnit) : List TagOccurrence :=
  unit.root.places.flatMap fun place =>
    (unit.renderTagsAt config place.node).map fun (span, tag) => ⟨place, span, tag⟩

def componentPlaces (config : Config) (unit : SourceUnit) : List Located :=
  unit.root.places.filter (unit.isComponent config)

end SourceUnit

/-- What becomes of an occurrence of the renders tag. It is malformed if its body cannot be parsed,
if it stands neither on a component nor on a property signature, or if the property cannot hold
content. Otherwise it is kept with what was parsed, as one tag of the component, or as one tag of
each property of the arena that the signature declares. -/
inductive Settles (config : Config) (unit : SourceUnit) (arena : Arena)
    (occurrence : TagOccurrence) : TagOutcome → Prop
  | unparsed {fault : TargetSpec.Fault}
      (hparse : TargetSpec.parse occurrence.tag.body.toList = .error fault) :
      Settles config unit arena occurrence
        (.malformed (malformedFinding occurrence.span config.rendersTag
          (fault.message config.rendersTag)))
  | component {spec : TargetSpec} {shape : Shape} {id : Nat}
      (hparse : TargetSpec.parse occurrence.tag.body.toList = .ok spec)
      (hshape : unit.componentShape? config occurrence.place.node = some shape)
      (hplace : (unit.componentPlaces config)[id]? = some occurrence.place)
      (hdeclared : arena.components[id]? =
        some ⟨id, shape.name, unit.span occurrence.place.node, shape.kind⟩) :
      Settles config unit arena occurrence
        (.kept [spec.tagOf occurrence.span (.component id)])
  | stray {spec : TargetSpec}
      (hparse : TargetSpec.parse occurrence.tag.body.toList = .ok spec)
      (hshape : unit.componentShape? config occurrence.place.node = none)
      (hproperty : occurrence.place.enclosingProperty? = none) :
      Settles config unit arena occurrence
        (.malformed (malformedFinding occurrence.span config.rendersTag
          s!"it must annotate a property or a @{config.componentTag} definition"))
  | refused {spec : TargetSpec} {property : Node} {above : List Node} {first : Property}
      {rest : List Property}
      (hparse : TargetSpec.parse occurrence.tag.body.toList = .ok spec)
      (hshape : unit.componentShape? config occurrence.place.node = none)
      (hproperty : occurrence.place.enclosingProperty? = some (property, above))
      (hdeclared : arena.properties.filter (·.node = some property.id) = first :: rest)
      (hrenderable : first.renderable = false) :
      Settles config unit arena occurrence
        (.malformed (malformedFinding occurrence.span config.rendersTag
          s!"property '{first.name}' of type '{Extraction.shownType first}' cannot hold renderable content"))
  | attached {spec : TargetSpec} {property : Node} {above : List Node} {first : Property}
      {rest : List Property}
      (hparse : TargetSpec.parse occurrence.tag.body.toList = .ok spec)
      (hshape : unit.componentShape? config occurrence.place.node = none)
      (hproperty : occurrence.place.enclosingProperty? = some (property, above))
      (hdeclared : arena.properties.filter (·.node = some property.id) = first :: rest)
      (hrenderable : first.renderable = true) :
      Settles config unit arena occurrence
        (.kept ((first :: rest).map fun property =>
          spec.tagOf occurrence.span (.property property.id)))

section Settle

variable (config : Config) (unit : SourceUnit) (arena : Arena)

/-- What becomes of a render tag whose body was parsed, at a place with a number of components
before it. -/
def settleParsed (entry : Located × Nat) : TargetSpec × Span → TagOutcome
  | (spec, span) =>
      match unit.componentShape? config entry.1.node with
      | some _ => .kept [spec.tagOf span (.component entry.2)]
      | none =>
          match entry.1.enclosingProperty? with
          | none =>
              .malformed (malformedFinding span config.rendersTag
                s!"it must annotate a property or a @{config.componentTag} definition")
          | some (property, above) =>
              PropertyNote.outcome config ⟨property, above, spec, span⟩
                (arena.declaredAt property.id)

def settle (entry : Located × Nat) : Span × DocTag → TagOutcome
  | (span, tag) =>
      match TargetSpec.parse tag.body.toList with
      | .error fault =>
          .malformed (malformedFinding span config.rendersTag (fault.message config.rendersTag))
      | .ok spec => settleParsed config unit arena entry (spec, span)

theorem findings_settle (entry : Located × Nat) (tag : Span × DocTag) :
    (settle config unit arena entry tag).findings =
      NodeTags.unparsed config tag ++ (NodeTags.parsed tag).flatMap fun render =>
        (settleParsed config unit arena entry render).findings := by
  obtain ⟨span, tag⟩ := tag
  unfold settle NodeTags.unparsed NodeTags.parsed
  dsimp only
  cases TargetSpec.parse tag.body.toList with
  | error fault => rfl
  | ok spec => simp

theorem tags_settle (entry : Located × Nat) (tag : Span × DocTag) :
    (settle config unit arena entry tag).tags =
      (NodeTags.parsed tag).flatMap fun render =>
        (settleParsed config unit arena entry render).tags := by
  obtain ⟨span, tag⟩ := tag
  unfold settle NodeTags.parsed
  dsimp only
  cases TargetSpec.parse tag.body.toList with
  | error fault => rfl
  | ok spec => simp

variable (last : Extraction)

theorem tags_place (entry : Located × Nat) :
    placeTags config unit entry.1 entry.2 ++ ((placeNotes config unit entry.1).flatMap fun note =>
        (last.finalOutcome config note).tags) =
      (unit.renderTagsAt config entry.1.node).flatMap fun tag =>
        (settle config unit last.arena entry tag).tags := by
  have hparsed : ((unit.renderTagsAt config entry.1.node).flatMap fun tag =>
      (settle config unit last.arena entry tag).tags) =
      (rendersAt config unit entry.1.node).flatMap fun render =>
        (settleParsed config unit last.arena entry render).tags := by
    simp only [tags_settle, rendersAt, List.flatMap_assoc]
  rw [hparsed]
  unfold placeTags placeNotes
  cases hshape : unit.componentShape? config entry.1.node with
  | some shape => simp [settleParsed, hshape, TagOutcome.tags, List.map_eq_flatMap]
  | none =>
      cases hproperty : entry.1.enclosingProperty? with
      | none => simp [settleParsed, hshape, hproperty, TagOutcome.tags, propertyNotes]
      | some found =>
          simp [settleParsed, hshape, hproperty, propertyNotes, List.flatMap_map,
            Extraction.finalOutcome]

/-- The findings about a place, with those about its notes, are those of the outcomes of its tags
and the report of a misplaced component tag. -/
theorem findings_place_perm (entry : Located × Nat) :
    (placeFindings config unit entry.1 ++ (placeNotes config unit entry.1).flatMap fun note =>
        (last.finalOutcome config note).findings).Perm
      (unit.misplacedAt config entry.1.node ++
        (unit.renderTagsAt config entry.1.node).flatMap fun tag =>
          (settle config unit last.arena entry tag).findings) := by
  have hparsed : ((unit.renderTagsAt config entry.1.node).flatMap fun tag =>
      (settle config unit last.arena entry tag).findings).Perm
      (unparsedAt config unit entry.1.node ++
        (rendersAt config unit entry.1.node).flatMap fun render =>
          (settleParsed config unit last.arena entry render).findings) := by
    simp only [findings_settle, rendersAt, unparsedAt, List.flatMap_assoc]
    exact (List.flatMap_append_perm _ _ _).symm
  -- The node is read body by body first, then once for its place, whatever the order of its tags.
  refine .trans ?_ (hparsed.symm.append_left _)
  unfold placeFindings placeNotes
  cases hshape : unit.componentShape? config entry.1.node with
  | some shape =>
      have hkept : ((rendersAt config unit entry.1.node).flatMap fun render =>
          (settleParsed config unit last.arena entry render).findings) = [] := by
        simp [List.flatMap_eq_nil_iff, settleParsed, hshape, TagOutcome.findings]
      rw [SourceUnit.misplacedAt_eq_nil hshape, hkept]
      simp
  | none =>
      dsimp only
      rw [List.append_assoc, List.append_assoc]
      refine .trans ?_ (List.perm_append_comm_assoc _ _ _)
      apply List.Perm.append_left
      apply List.Perm.append_left
      cases hproperty : entry.1.enclosingProperty? with
      | none =>
          simp [settleParsed, hshape, hproperty, TagOutcome.findings, strayFindings, propertyNotes,
            List.map_eq_flatMap]
      | some found =>
          simp [settleParsed, hshape, hproperty, strayFindings, propertyNotes, List.flatMap_map,
            Extraction.finalOutcome]

end Settle

/-! ### The account of an extraction -/

namespace Located

theorem mem_of_firstProperty? {nodes above : List Node} {property : Node}
    (hfound : firstProperty? nodes = some (property, above)) :
    property ∈ nodes ∧ property.kind = "property_signature" := by
  induction nodes with
  | nil => cases hfound
  | cons node nodes ih =>
      rw [firstProperty?] at hfound
      split at hfound
      · next hkind =>
        cases hfound
        exact ⟨List.mem_cons_self, by simpa using hkind⟩
      · obtain ⟨hmem, hkind⟩ := ih hfound
        exact ⟨List.mem_cons_of_mem node hmem, hkind⟩

end Located

theorem mem_of_mem_placeNotes {config : Config} {unit : SourceUnit} {place : Located}
    {note : PropertyNote} (hnote : note ∈ placeNotes config unit place) :
    place.enclosingProperty? = some (note.property, note.above) := by
  unfold placeNotes propertyNotes at hnote
  split at hnote
  · cases hnote
  · split at hnote
    · cases hnote
    · next property above hfound =>
      obtain ⟨render, -, rfl⟩ := List.mem_map.1 hnote
      exact hfound

theorem Node.Grammatical.named_of_note {unit : SourceUnit} (htree : unit.root.Grammatical)
    {config : Config} {note : PropertyNote}
    (hnote : note ∈ unit.root.places.flatMap (placeNotes config unit)) :
    (note.property.withField? "name").isSome = true := by
  obtain ⟨place, hplace, hnote⟩ := List.mem_flatMap.1 hnote
  obtain ⟨hnode, habove, -⟩ := Node.within_of_mem_places hplace
  obtain ⟨hmem, hkind⟩ := Located.mem_of_firstProperty? (mem_of_mem_placeNotes hnote)
  refine htree.named note.property ?_ hkind
  rcases List.mem_cons.1 hmem with hself | hmem
  · rw [hself]
    exact hnode
  · exact habove hmem

section Account

variable {config : Config} {unit : SourceUnit}

def numberedTags (config : Config) (unit : SourceUnit) : List ((Located × Nat) × Span × DocTag) :=
  (unit.numberedPlaces config).flatMap fun entry =>
    (unit.renderTagsAt config entry.1.node).map (Prod.mk entry)

def outcomes (config : Config) (unit : SourceUnit) (arena : Arena) : List TagOutcome :=
  (numberedTags config unit).map fun occurrence =>
    settle config unit arena occurrence.1 occurrence.2

theorem renderTags_eq_map (config : Config) (unit : SourceUnit) :
    unit.renderTags config = (numberedTags config unit).map fun occurrence =>
      ⟨occurrence.1.1, occurrence.2.1, occurrence.2.2⟩ := by
  unfold SourceUnit.renderTags numberedTags
  rw [unit.flatMap_places config, List.map_flatMap]
  simp only [List.map_map]
  rfl

theorem flatMap_outcomes {β : Type} (view : TagOutcome → List β) (arena : Arena) :
    (outcomes config unit arena).flatMap view =
      (unit.numberedPlaces config).flatMap fun entry =>
        (unit.renderTagsAt config entry.1.node).flatMap fun tag =>
          view (settle config unit arena entry tag) := by
  unfold outcomes numberedTags
  rw [List.flatMap_map, List.flatMap_assoc]
  simp only [List.flatMap_map]

theorem ofUnit_spec (hdistinct : config.componentTag ≠ config.rendersTag)
    (htree : unit.root.Grammatical)
    (hshapes : ∀ node ∈ unit.root.nodes, ∃ shape, unit.shape? node = .ok shape) :
    let last := Extraction.ofUnit config unit
    let notes := unit.root.places.flatMap (placeNotes config unit)
    last.arena.components = ((unit.numberedPlaces config).flatMap fun entry =>
        placeComponents config unit entry.1 entry.2) ∧
      last.arena.tagFacts = ((unit.numberedPlaces config).flatMap fun entry =>
        placeTags config unit entry.1 entry.2) ++
          notes.flatMap (fun note => (last.finalOutcome config note).tags) ∧
      last.findings = unit.root.places.flatMap (placeFindings config unit) ++
          notes.flatMap (fun note => (last.finalOutcome config note).findings) ∧
      ∀ note ∈ notes, last.arena.declaredAt note.property.id ≠ [] := by
  have hreadable : ∀ place ∈ unit.root.places, unit.Readable config place.node := by
    intro place hplace
    exact .of_distinct hdistinct (hshapes place.node (Node.within_of_mem_places hplace).1)
  have hread := Extraction.gains_readNodes hreadable
  obtain ⟨htags, hcomponents⟩ := Extraction.register_spec unit (Extraction.readNodes config unit)
  have hnotes : (Extraction.register unit (Extraction.readNodes config unit)).notes =
      unit.root.places.flatMap (placeNotes config unit) := hread.notes
  have hfacts : (Extraction.register unit (Extraction.readNodes config unit)).arena.tagFacts =
      (unit.numberedPlaces config).flatMap fun entry => placeTags config unit entry.1 entry.2 := by
    rw [Arena.tagFacts, htags]
    exact hread.tags
  obtain ⟨hlastTags, hlastFindings, hdeclared⟩ := Extraction.foldl_attach_spec config unit
    (Extraction.register unit (Extraction.readNodes config unit))
    (unit.root.places.flatMap (placeNotes config unit)) fun note hnote => htree.named_of_note hnote
  have hlast : Extraction.ofUnit config unit =
      (unit.root.places.flatMap (placeNotes config unit)).foldl (Extraction.attach config unit)
        (Extraction.register unit (Extraction.readNodes config unit)) := by
    rw [Extraction.ofUnit, hnotes]
  rw [← hlast] at hlastTags hlastFindings hdeclared
  refine ⟨?_, ?_, ?_, hdeclared⟩
  · rw [hlast, Extraction.components_foldl_attach, hcomponents]
    exact hread.components
  · rw [hlastTags, hfacts]
  · rw [hlastFindings]
    congr 1
    exact hread.findings

theorem tagFacts_perm (hdistinct : config.componentTag ≠ config.rendersTag)
    (htree : unit.root.Grammatical)
    (hshapes : ∀ node ∈ unit.root.nodes, ∃ shape, unit.shape? node = .ok shape) :
    let last := Extraction.ofUnit config unit
    last.arena.tagFacts.Perm ((outcomes config unit last.arena).flatMap TagOutcome.tags) := by
  obtain ⟨-, htags, -⟩ := ofUnit_spec hdistinct htree hshapes
  intro last
  rw [htags, flatMap_outcomes, unit.flatMap_places config, List.flatMap_assoc]
  simp only [← tags_place config unit last]
  exact List.flatMap_append_perm _ _ _

theorem findings_perm (hdistinct : config.componentTag ≠ config.rendersTag)
    (htree : unit.root.Grammatical)
    (hshapes : ∀ node ∈ unit.root.nodes, ∃ shape, unit.shape? node = .ok shape) :
    let last := Extraction.ofUnit config unit
    last.findings.Perm (unit.root.nodes.flatMap (unit.misplacedAt config) ++
      (outcomes config unit last.arena).flatMap TagOutcome.findings) := by
  obtain ⟨-, -, hfindings, -⟩ := ofUnit_spec hdistinct htree hshapes
  intro last
  have hmisplaced : unit.root.nodes.flatMap (unit.misplacedAt config) =
      (unit.numberedPlaces config).flatMap fun entry => unit.misplacedAt config entry.1.node := by
    rw [← Node.map_node_places, List.flatMap_map, unit.flatMap_places config]
  rw [hfindings, flatMap_outcomes, hmisplaced, unit.flatMap_places config,
    unit.flatMap_places config, List.flatMap_assoc]
  refine (List.flatMap_append_perm _ _ _).trans (.trans ?_ (List.flatMap_append_perm _ _ _).symm)
  exact .flatMap_left _ fun entry _ => findings_place_perm config unit last entry

theorem getElem?_componentPlaces {entry : Located × Nat} (hentry : entry ∈ unit.numberedPlaces config)
    (hcomponent : unit.isComponent config entry.1 = true) :
    (unit.componentPlaces config)[entry.2]? = some entry.1 := by
  have hmem : entry ∈ (unit.componentPlaces config).zipIdx := by
    unfold SourceUnit.componentPlaces
    rw [← filter_numbered]
    exact List.mem_filter.2 ⟨hentry, hcomponent⟩
  exact List.mem_zipIdx_iff_getElem?.1 hmem

/-- The outcome that is computed is one that the relation allows. -/
theorem settles_settle {arena : Arena} {entry : Located × Nat}
    (hentry : entry ∈ unit.numberedPlaces config)
    (hcomponents : ∀ shape, unit.componentShape? config entry.1.node = some shape →
      arena.components[entry.2]? =
        some ⟨entry.2, shape.name, unit.span entry.1.node, shape.kind⟩)
    (hnotes : ∀ note ∈ placeNotes config unit entry.1, arena.declaredAt note.property.id ≠ [])
    {tag : Span × DocTag} (htag : tag ∈ unit.renderTagsAt config entry.1.node) :
    Settles config unit arena ⟨entry.1, tag.1, tag.2⟩ (settle config unit arena entry tag) := by
  obtain ⟨span, tag⟩ := tag
  cases hparse : TargetSpec.parse tag.body.toList with
  | error fault =>
      simp only [settle, hparse]
      exact .unparsed hparse
  | ok spec =>
      have hrender : (spec, span) ∈ rendersAt config unit entry.1.node := by
        refine List.mem_flatMap.2 ⟨(span, tag), htag, ?_⟩
        simp [NodeTags.parsed, hparse]
      cases hshape : unit.componentShape? config entry.1.node with
      | some shape =>
          simp only [settle, settleParsed, hparse, hshape]
          refine .component hparse hshape (getElem?_componentPlaces hentry ?_)
            (hcomponents shape hshape)
          simp [SourceUnit.isComponent, hshape]
      | none =>
          cases hproperty : entry.1.enclosingProperty? with
          | none =>
              simp only [settle, settleParsed, hparse, hshape, hproperty]
              exact .stray hparse hshape hproperty
          | some found =>
              obtain ⟨property, above⟩ := found
              -- The tag was noted, and attaching the note has left the signature with a property.
              have hnote : ⟨property, above, spec, span⟩ ∈ placeNotes config unit entry.1 := by
                simp only [placeNotes, propertyNotes, hshape, hproperty]
                exact List.mem_map.2 ⟨(spec, span), hrender, rfl⟩
              have hsome : arena.declaredAt property.id ≠ [] := hnotes _ hnote
              simp only [settle, settleParsed, hparse, hshape, hproperty]
              cases hdeclared : arena.declaredAt property.id with
              | nil => exact absurd hdeclared hsome
              | cons first rest =>
                  rw [PropertyNote.outcome]
                  by_cases hrenderable : first.renderable = true
                  · rw [if_pos hrenderable]
                    exact .attached hparse hshape hproperty hdeclared hrenderable
                  · rw [if_neg hrenderable]
                    exact .refused hparse hshape hproperty hdeclared (by simpa using hrenderable)

end Account

/-- The extraction loses no render tag and invents none, as long as no definition is nested too deep
to be read. Every documentation comment is read with one node, and every occurrence of the renders
tag in it is settled in one way: as one finding, or as tags that carry what was parsed. These
findings, and those about misplaced component tags, are all findings there are, and these tags are
all tags of the arena. -/
theorem render_tags_accounted {draft : ConfigDraft} {config : Config}
    (hconfig : Config.ofDraft draft = .ok config) (unit : SourceUnit)
    (htree : unit.root.Grammatical)
    (hshapes : ∀ node ∈ unit.root.nodes, ∃ shape, unit.shape? node = .ok shape) :
    let extraction := Extraction.ofUnit config unit
    unit.docComments.Perm (unit.root.nodes.flatMap fun node =>
      (unit.commentsAt node.id).map (Prod.mk node.id)) ∧
    ∃ outcomes : List TagOutcome,
      List.Forall₂ (Settles config unit extraction.arena) (unit.renderTags config) outcomes ∧
      extraction.findings.Perm (unit.root.nodes.flatMap (unit.misplacedAt config) ++
        outcomes.flatMap TagOutcome.findings) ∧
      (extraction.arena.tags.map Tag.facts).Perm (outcomes.flatMap TagOutcome.tags) := by
  intro extraction
  have hdistinct := Config.componentTag_ne_rendersTag hconfig
  refine ⟨unit.docComments_perm htree.ids, outcomes config unit extraction.arena, ?_,
    findings_perm hdistinct htree hshapes, tagFacts_perm hdistinct htree hshapes⟩
  obtain ⟨hcomponents, -, -, hnotes⟩ := ofUnit_spec hdistinct htree hshapes
  rw [renderTags_eq_map, outcomes, List.forall₂_map_left_iff, List.forall₂_map_right_iff,
    List.forall₂_same]
  rintro ⟨entry, tag⟩ hoccurrence
  obtain ⟨entry, hentry, hmap⟩ := List.mem_flatMap.1 hoccurrence
  obtain ⟨tag, htag, ⟨⟩⟩ := List.mem_map.1 hmap
  refine settles_settle hentry ?_ ?_ htag
  · intro shape hshape
    have hmem : (⟨entry.2, shape.name, unit.span entry.1.node, shape.kind⟩ : Component) ∈
        extraction.arena.components := by
      rw [hcomponents]
      refine List.mem_flatMap.2 ⟨entry, hentry, ?_⟩
      simp [placeComponents, hshape]
    exact (Extraction.sound_ofUnit config unit).arena.components.getElem?_eq_some hmem
  · intro note hnote
    refine hnotes note ?_
    rw [unit.flatMap_places config]
    exact List.mem_flatMap.2 ⟨entry, hentry, hnote⟩

def cardRows : List Row :=
  [⟨none, "program", 0, 181, none, true⟩,
    ⟨some 0, "interface_declaration", 0, 97, none, true⟩,
    ⟨some 1, "type_identifier", 10, 11, some "name", true⟩,
    ⟨some 1, "interface_body", 11, 97, some "body", true⟩,
    ⟨some 3, "comment", 12, 29, none, true⟩,
    ⟨some 3, "property_signature", 29, 40, none, true⟩,
    ⟨some 5, "property_identifier", 29, 30, some "name", true⟩,
    ⟨some 5, "type_annotation", 30, 40, some "type", true⟩,
    ⟨some 7, "type_identifier", 31, 40, none, true⟩,
    ⟨some 3, "comment", 41, 59, none, true⟩,
    ⟨some 3, "property_signature", 59, 70, none, true⟩,
    ⟨some 10, "property_identifier", 59, 60, some "name", true⟩,
    ⟨some 10, "type_annotation", 60, 70, some "type", true⟩,
    ⟨some 12, "type_identifier", 61, 70, none, true⟩,
    ⟨some 3, "comment", 71, 88, none, true⟩,
    ⟨some 3, "property_signature", 88, 96, none, true⟩,
    ⟨some 15, "property_identifier", 88, 89, some "name", true⟩,
    ⟨some 15, "type_annotation", 89, 96, some "type", true⟩,
    ⟨some 17, "predefined_type", 90, 96, none, true⟩,
    ⟨some 0, "comment", 98, 126, none, true⟩,
    ⟨some 0, "function_declaration", 126, 154, none, true⟩,
    ⟨some 20, "identifier", 135, 136, some "name", true⟩,
    ⟨some 20, "formal_parameters", 136, 141, some "parameters", true⟩,
    ⟨some 22, "required_parameter", 137, 140, none, true⟩,
    ⟨some 23, "identifier", 137, 138, some "pattern", true⟩,
    ⟨some 23, "type_annotation", 138, 140, some "type", true⟩,
    ⟨some 25, "type_identifier", 139, 140, none, true⟩,
    ⟨some 20, "statement_block", 141, 154, some "body", true⟩,
    ⟨some 27, "return_statement", 142, 153, none, true⟩,
    ⟨some 28, "jsx_self_closing_element", 149, 153, none, true⟩,
    ⟨some 29, "identifier", 150, 151, some "name", true⟩,
    ⟨some 0, "comment", 155, 172, none, true⟩,
    ⟨some 0, "type_alias_declaration", 172, 180, none, true⟩,
    ⟨some 32, "type_identifier", 177, 178, some "name", true⟩,
    ⟨some 32, "type_identifier", 179, 180, some "value", true⟩]

/-- `P` declares `a` with a tag, `c` with a tag that cannot be parsed, and `n` with a tag that a
number cannot carry. `A` has a tag of its own, and the tag of `Q` belongs to nothing. -/
def cardUnit : SourceUnit where
  path := "card.tsx"
  source := ⟨["interface P\x7b/** @renders b */a:ReactNode,",
    "/** @renders \x7bb */c:ReactNode,/** @renders b */n:number\x7d\n",
    "/** @component\n@renders i\n*/function A(p:P)\x7breturn <i/>\x7d\n",
    "/** @renders b */type Q=P\n"].flatMap String.toList⟩
  renderableTypes := ["ReactNode"]
  root := (Node.ofRows? cardRows).getD default

/-- Two of the five tags are kept, and three are reported. -/
theorem card_tags_accounted :
    Config.ofDraft relayConfig.toDraft = .ok relayConfig ∧ cardUnit.root.Grammatical ∧
      (∀ node ∈ cardUnit.root.nodes, ∃ shape, cardUnit.shape? node = .ok shape) ∧
      ∃ outcomes : List TagOutcome,
        List.Forall₂ (Settles relayConfig cardUnit (Extraction.ofUnit relayConfig cardUnit).arena)
          (cardUnit.renderTags relayConfig) outcomes ∧
        outcomes.length = 5 ∧ (outcomes.flatMap TagOutcome.findings).length = 3 ∧
        (outcomes.flatMap TagOutcome.tags).length = 2 := by
  have hconfig : Config.ofDraft relayConfig.toDraft = .ok relayConfig := by decide +kernel
  have htree : cardUnit.root.Grammatical := by
    have hsome : (Node.ofRows? cardRows).isSome = true := by decide +kernel
    obtain ⟨root, hroot⟩ := Option.isSome_iff_exists.1 hsome
    have hcard : cardUnit.root = root := by
      rw [cardUnit, hroot, Option.getD_some]
    exact Node.grammatical_of_ofRows? (hcard ▸ hroot) (by decide +kernel)
  have hshapes : ∀ node ∈ cardUnit.root.nodes, ∃ shape, cardUnit.shape? node = .ok shape := by
    have hshaped : cardUnit.root.nodes.all (fun node =>
        (cardUnit.shape? node).toOption.isSome) = true := by
      decide +kernel
    intro node hnode
    have hnode := List.all_eq_true.1 hshaped node hnode
    cases hshape : cardUnit.shape? node with
    | error fault => simp [hshape, Except.toOption] at hnode
    | ok shape => exact ⟨shape, rfl⟩
  obtain ⟨-, outcomes, hsettles, hfindings, htags⟩ :=
    render_tags_accounted hconfig cardUnit htree hshapes
  have hmisplaced : (cardUnit.root.nodes.flatMap (cardUnit.misplacedAt relayConfig)).length = 0 := by
    decide +kernel
  have hcounts : (cardUnit.renderTags relayConfig).length = 5 ∧
      (Extraction.ofUnit relayConfig cardUnit).findings.length = 3 ∧
      (Extraction.ofUnit relayConfig cardUnit).arena.tags.length = 2 := by
    decide +kernel
  obtain ⟨hoccurrences, hreported, hkept⟩ := hcounts
  refine ⟨hconfig, htree, hshapes, outcomes, hsettles, ?_, ?_, ?_⟩
  · rw [← hsettles.length_eq, hoccurrences]
  · have hlength := hfindings.length_eq
    rw [List.length_append, hmisplaced, hreported] at hlength
    omega
  · rw [← htags.length_eq, List.length_map, hkept]

end RenderAudit
