import RenderAudit.Proofs.ExtractionSound

/-!
# What attaching render tags adds

Reading the nodes leaves notes behind, one for each render tag on a property signature. A note is
attached to all properties of its signature, or becomes a finding. It sees of the notes before it
only which properties they registered, and once a signature has properties it keeps them. So what
becomes of every note can be read off the final arena.
-/

namespace RenderAudit

/-- What a render tag says, apart from its id. -/
structure TagFacts where
  owner : TagOwner
  target : String
  span : Span
  description : String
deriving DecidableEq, Repr

def Tag.facts (tag : Tag) : TagFacts :=
  ⟨tag.owner, tag.target, tag.span, tag.description⟩

def TargetSpec.tagOf (spec : TargetSpec) (span : Span) (owner : TagOwner) : TagFacts :=
  ⟨owner, spec.target, span, spec.description⟩

def Property.untagged (property : Property) : Property :=
  { property with tags := [] }

namespace Arena

def tagFacts (arena : Arena) : List TagFacts :=
  arena.tags.map Tag.facts

/-- The properties that the signature of an id declares. -/
def declaredAt (arena : Arena) (id : Nat) : List Property :=
  arena.properties.filter (·.node = some id)

/-- The same properties are declared, whatever tags they have. -/
def SameProperties (arena later : Arena) : Prop :=
  later.properties.map Property.untagged = arena.properties.map Property.untagged

theorem SameProperties.declaredAt {arena later : Arena} (hsame : arena.SameProperties later)
    (id : Nat) :
    (later.declaredAt id).map Property.untagged = (arena.declaredAt id).map Property.untagged := by
  have hfilter : ∀ properties : List Property,
      (properties.filter (·.node = some id)).map Property.untagged =
        (properties.map Property.untagged).filter (·.node = some id) := by
    intro properties
    rw [List.filter_map]
    rfl
  unfold Arena.declaredAt
  rw [hfilter, hfilter, hsame]

section AddTags

variable (arena : Arena)

theorem sameProperties_addTag (owner : TagOwner) (target : String) (span : Span)
    (description : String) :
    arena.SameProperties (arena.addTag owner target span description).2 := by
  apply List.ext_getElem?
  intro position
  rw [List.getElem?_map, List.getElem?_map, getElem?_properties_addTag]
  split
  · rw [Option.map_map]
    rfl
  · rfl

def addTags {α : Type} (facts : α → TagFacts) (entries : List α) : Arena :=
  entries.foldl (fun arena entry =>
    (arena.addTag (facts entry).owner (facts entry).target (facts entry).span
      (facts entry).description).2) arena

variable {α : Type} (facts : α → TagFacts) (entries : List α)

theorem tagFacts_addTags :
    (arena.addTags facts entries).tagFacts = arena.tagFacts ++ entries.map facts := by
  induction entries generalizing arena with
  | nil => exact (List.append_nil _).symm
  | cons entry entries ih =>
      unfold addTags at ih ⊢
      rw [List.foldl_cons, ih, tagFacts, tags_addTag, List.map_append, List.append_assoc]
      rfl

theorem sameProperties_addTags : arena.SameProperties (arena.addTags facts entries) := by
  induction entries generalizing arena with
  | nil => rfl
  | cons entry entries ih =>
      exact (ih _).trans (arena.sameProperties_addTag _ _ _ _)

theorem components_addTags :
    (arena.addTags facts entries).components = arena.components := by
  induction entries generalizing arena with
  | nil => rfl
  | cons entry entries ih => exact (ih _).trans (arena.components_addTag _ _ _ _)

end AddTags

end Arena

/-! ### The notes that are attached -/

/-- What becomes of a render tag: it is malformed, or it is kept as tags of its owners. -/
inductive TagOutcome where
  | malformed (finding : Finding)
  | kept (tags : List TagFacts)
deriving DecidableEq, Repr

namespace TagOutcome

def findings : TagOutcome → List Finding
  | malformed finding => [finding]
  | kept _ => []

def tags : TagOutcome → List TagFacts
  | malformed _ => []
  | kept tags => tags

end TagOutcome

def PropertyNote.tagOf (note : PropertyNote) (property : Property) : TagFacts :=
  note.spec.tagOf note.span (.property property.id)

def PropertyNote.refusal (config : Config) (note : PropertyNote) (property : Property) : Finding :=
  malformedFinding note.span config.rendersTag
    s!"property '{property.name}' of type '{Extraction.shownType property}' cannot hold renderable content"

/-- What becomes of a render tag on a signature that declares these properties. -/
def PropertyNote.outcome (config : Config) (note : PropertyNote) : List Property → TagOutcome
  | [] => .kept []
  | first :: rest =>
      if first.renderable then .kept ((first :: rest).map note.tagOf)
      else .malformed (note.refusal config first)

theorem PropertyNote.outcome_untagged (config : Config) (note : PropertyNote)
    (properties : List Property) :
    note.outcome config (properties.map Property.untagged) = note.outcome config properties := by
  cases properties with
  | nil => rfl
  | cons first rest =>
      rw [List.map_cons, outcome, outcome, ← List.map_cons, List.map_map]
      rfl

theorem SourceUnit.node_of_propertyInfo? {unit : SourceUnit} {property : Node}
    {info : PropertyInfo} (hinfo : unit.propertyInfo? property = some info) :
    info.node = some property.id := by
  obtain ⟨name, -, rfl⟩ := Option.map_eq_some_iff.1 hinfo
  rfl

namespace Extraction

section DeclaredBy

variable (unit : SourceUnit) (arena : Arena) (property : Node) (above : List Node)

theorem filter_declaredBy :
    (declaredBy unit arena property above).2.properties.filter (·.node = some property.id) =
      (declaredBy unit arena property above).1 := by
  unfold declaredBy
  split
  · next first rest hfound => exact hfound
  · next hfound =>
    split
    · exact hfound
    · next info hinfo =>
      have hnode := SourceUnit.node_of_propertyInfo? hinfo
      rw [Arena.properties_addProperty, List.filter_append, hfound]
      simp [Arena.addProperty, hnode]

theorem tags_declaredBy : (declaredBy unit arena property above).2.tags = arena.tags := by
  unfold declaredBy
  split
  · rfl
  · split
    · rfl
    · rfl

theorem components_declaredBy :
    (declaredBy unit arena property above).2.components = arena.components := by
  unfold declaredBy
  split
  · rfl
  · split
    · rfl
    · rfl

theorem declaredBy_ne_nil (hnamed : (property.withField? "name").isSome = true) :
    (declaredBy unit arena property above).1 ≠ [] := by
  obtain ⟨name, hname⟩ := Option.isSome_iff_exists.1 hnamed
  have hinfo : ∃ info, unit.propertyInfo? property = some info :=
    ⟨_, Option.map_eq_some_iff.2 ⟨name, hname, rfl⟩⟩
  obtain ⟨info, hinfo⟩ := hinfo
  unfold declaredBy
  rw [hinfo]
  split
  · exact List.cons_ne_nil _ _
  · exact List.cons_ne_nil _ _

/-- A signature that has properties keeps them. -/
theorem declaredAt_declaredBy {id : Nat} (hdeclared : arena.declaredAt id ≠ []) :
    (declaredBy unit arena property above).2.declaredAt id = arena.declaredAt id := by
  unfold declaredBy
  split
  · rfl
  · next hfound =>
    split
    · rfl
    · next info hinfo =>
      have hnode := SourceUnit.node_of_propertyInfo? hinfo
      have hother : property.id ≠ id := by
        rintro rfl
        rw [Arena.declaredAt, hfound] at hdeclared
        exact hdeclared rfl
      unfold Arena.declaredAt
      rw [Arena.properties_addProperty, List.filter_append]
      simp [Arena.addProperty, hnode, hother]

end DeclaredBy

/-! ### Attaching notes -/

section Attach

variable (config : Config) (unit : SourceUnit)

/-- A note adds the tags and the findings of its outcome for the properties that it finds. -/
theorem attach_eq (extraction : Extraction) (note : PropertyNote) :
    attach config unit extraction note =
      let found := declaredBy unit extraction.arena note.property note.above
      let outcome := note.outcome config found.1
      { extraction with
        arena := found.2.addTags id outcome.tags
        findings := extraction.findings ++ outcome.findings } := by
  unfold attach
  rcases declaredBy unit extraction.arena note.property note.above with ⟨properties, arena⟩
  cases properties with
  | nil => simp [PropertyNote.outcome, TagOutcome.tags, TagOutcome.findings, Arena.addTags]
  | cons first rest =>
      by_cases hrenderable : first.renderable = true
      · simp only [PropertyNote.outcome, hrenderable, if_true, TagOutcome.tags,
          TagOutcome.findings, List.append_nil, Arena.addTags, List.foldl_map]
        rfl
      · simp only [PropertyNote.outcome, hrenderable, TagOutcome.tags, TagOutcome.findings]
        rfl

theorem sameProperties_attach (extraction : Extraction) (note : PropertyNote) :
    (declaredBy unit extraction.arena note.property note.above).2.SameProperties
      (attach config unit extraction note).arena := by
  rw [attach_eq]
  exact Arena.sameProperties_addTags _ _ _

theorem components_attach (extraction : Extraction) (note : PropertyNote) :
    (attach config unit extraction note).arena.components = extraction.arena.components := by
  rw [attach_eq]
  exact (Arena.components_addTags _ _ _).trans
    (components_declaredBy unit extraction.arena note.property note.above)

theorem outcome_attach (extraction : Extraction) (note : PropertyNote) :
    note.outcome config
        ((attach config unit extraction note).arena.declaredAt note.property.id) =
      note.outcome config (declaredBy unit extraction.arena note.property note.above).1 := by
  have hsame := sameProperties_attach config unit extraction note
  rw [← PropertyNote.outcome_untagged, hsame.declaredAt, PropertyNote.outcome_untagged,
    Arena.declaredAt, filter_declaredBy]

theorem attach_spec (extraction : Extraction) (note : PropertyNote) :
    let later := attach config unit extraction note
    let outcome := note.outcome config (later.arena.declaredAt note.property.id)
    later.arena.tagFacts = extraction.arena.tagFacts ++ outcome.tags ∧
      later.findings = extraction.findings ++ outcome.findings := by
  intro later outcome
  have houtcome : outcome = note.outcome config
      (declaredBy unit extraction.arena note.property note.above).1 :=
    outcome_attach config unit extraction note
  have hlater := attach_eq config unit extraction note
  dsimp only at hlater
  rw [← houtcome] at hlater
  constructor
  · have htags : later.arena = (declaredBy unit extraction.arena note.property
        note.above).2.addTags id outcome.tags := congrArg arena hlater
    rw [htags, Arena.tagFacts_addTags, List.map_id, Arena.tagFacts, tags_declaredBy]
    rfl
  · exact congrArg findings hlater

theorem declaredAt_attach_ne_nil (extraction : Extraction) (note : PropertyNote)
    (hnamed : (note.property.withField? "name").isSome = true) :
    (attach config unit extraction note).arena.declaredAt note.property.id ≠ [] := by
  intro hnone
  have hsame := (sameProperties_attach config unit extraction note).declaredAt
    note.property.id
  rw [hnone, List.map_nil, eq_comm, List.map_eq_nil_iff, Arena.declaredAt, filter_declaredBy] at hsame
  exact declaredBy_ne_nil unit extraction.arena note.property note.above hnamed hsame

theorem declaredAt_attach (extraction : Extraction) (note : PropertyNote) {id : Nat}
    (hdeclared : extraction.arena.declaredAt id ≠ []) :
    ((attach config unit extraction note).arena.declaredAt id).map Property.untagged =
      (extraction.arena.declaredAt id).map Property.untagged := by
  rw [(sameProperties_attach config unit extraction note).declaredAt id,
    declaredAt_declaredBy unit extraction.arena note.property note.above hdeclared]

theorem declaredAt_foldl_attach (extraction : Extraction) (notes : List PropertyNote) {id : Nat}
    (hdeclared : extraction.arena.declaredAt id ≠ []) :
    ((notes.foldl (attach config unit) extraction).arena.declaredAt id).map Property.untagged =
      (extraction.arena.declaredAt id).map Property.untagged := by
  induction notes generalizing extraction with
  | nil => rfl
  | cons note notes ih =>
      have hkept := declaredAt_attach config unit extraction note hdeclared
      have hstill : (attach config unit extraction note).arena.declaredAt id ≠ [] := by
        intro hnone
        rw [hnone, List.map_nil, eq_comm, List.map_eq_nil_iff] at hkept
        exact hdeclared hkept
      rw [List.foldl_cons, ih _ hstill, hkept]

theorem components_foldl_attach (extraction : Extraction) (notes : List PropertyNote) :
    (notes.foldl (attach config unit) extraction).arena.components =
      extraction.arena.components := by
  induction notes generalizing extraction with
  | nil => rfl
  | cons note notes ih => rw [List.foldl_cons, ih, components_attach]

def finalOutcome (config : Config) (extraction : Extraction) (note : PropertyNote) : TagOutcome :=
  note.outcome config (extraction.arena.declaredAt note.property.id)

/-- All notes together add the tags and the findings of their outcomes, which can be read off the
final arena. -/
theorem foldl_attach_spec (extraction : Extraction) (notes : List PropertyNote)
    (hnamed : ∀ note ∈ notes, (note.property.withField? "name").isSome = true) :
    let last := notes.foldl (attach config unit) extraction
    (last.arena.tagFacts = extraction.arena.tagFacts ++
        notes.flatMap fun note => (last.finalOutcome config note).tags) ∧
      (last.findings = extraction.findings ++
        notes.flatMap fun note => (last.finalOutcome config note).findings) ∧
      ∀ note ∈ notes, last.arena.declaredAt note.property.id ≠ [] := by
  induction notes generalizing extraction with
  | nil => simp
  | cons note notes ih =>
      obtain ⟨hnote, hnotes⟩ := List.forall_mem_cons.1 hnamed
      obtain ⟨htags, hfindings⟩ := attach_spec config unit extraction note
      obtain ⟨hlastTags, hlastFindings, hdeclared⟩ := ih (attach config unit extraction note) hnotes
      -- Later notes add tags to the properties of this signature but register no other one there,
      -- so the outcome stays what it was when the note was attached.
      have hfirst := declaredAt_attach_ne_nil config unit extraction note hnote
      have hkept := declaredAt_foldl_attach config unit
        (attach config unit extraction note) notes hfirst
      have houtcome : finalOutcome config
          (notes.foldl (attach config unit) (attach config unit extraction note)) note =
          note.outcome config ((attach config unit extraction note).arena.declaredAt
            note.property.id) := by
        rw [finalOutcome, ← PropertyNote.outcome_untagged, hkept, PropertyNote.outcome_untagged]
      dsimp only
      rw [List.foldl_cons, List.flatMap_cons, List.flatMap_cons, houtcome, ← List.append_assoc,
        ← List.append_assoc, ← htags, ← hfindings]
      refine ⟨hlastTags, hlastFindings, List.forall_mem_cons.2 ⟨?_, hdeclared⟩⟩
      intro hnone
      rw [hnone, List.map_nil, eq_comm, List.map_eq_nil_iff] at hkept
      exact hfirst hkept

end Attach

/-! ### Registering properties -/

theorem addProperties_spec (unit : SourceUnit) (arena : Arena) (shape : Shape × Nat) :
    (addProperties unit arena shape).tags = arena.tags ∧
      (addProperties unit arena shape).components = arena.components := by
  unfold addProperties
  split
  · exact ⟨rfl, rfl⟩
  · refine List.foldlRecOn (motive := fun later : Arena =>
      later.tags = arena.tags ∧ later.components = arena.components) _ _ ⟨rfl, rfl⟩ ?_
    intro later hlater info _
    exact hlater

theorem register_spec (unit : SourceUnit) (extraction : Extraction) :
    (register unit extraction).arena.tags = extraction.arena.tags ∧
      (register unit extraction).arena.components = extraction.arena.components := by
  refine List.foldlRecOn (motive := fun later : Arena =>
    later.tags = extraction.arena.tags ∧ later.components = extraction.arena.components)
    _ _ ⟨rfl, rfl⟩ ?_
  intro later hlater shape _
  obtain ⟨htags, hcomponents⟩ := addProperties_spec unit later shape
  exact ⟨htags.trans hlater.1, hcomponents.trans hlater.2⟩

end Extraction

end RenderAudit
