import RenderAudit.Extraction
import RenderAudit.Proofs.ArenaSound

/-!
# What is read from a source is sound

Whatever the tree looks like, each node that is read, each component whose properties are registered
and each render tag that is attached leaves a sound arena behind. A tag is attached only to properties
that exist when it is attached, since they are found in the arena or added to it right before.
-/

namespace RenderAudit

namespace Arena

/-- A sound arena with the components of an earlier one and at least its properties. -/
structure Grown (earlier later : Arena) : Prop where
  sound : later.Sound
  components : later.components = earlier.components
  properties : earlier.properties.length ≤ later.properties.length

namespace Grown

variable {arena later : Arena}

theorem start (hsound : arena.Sound) : arena.Grown arena := ⟨hsound, rfl, Nat.le_refl _⟩

theorem trans {last : Arena} (hgrown : arena.Grown later) (hlast : later.Grown last) :
    arena.Grown last where
  sound := hlast.sound
  components := hlast.components.trans hgrown.components
  properties := Nat.le_trans hgrown.properties hlast.properties

theorem hasOwner (hgrown : arena.Grown later) {owner : TagOwner} (howner : arena.HasOwner owner) :
    later.HasOwner owner := by
  cases owner with
  | component id =>
      rw [HasOwner, hgrown.components]
      exact howner
  | property id => exact howner.mono hgrown.properties

theorem addTag (hgrown : arena.Grown later) {owner : TagOwner} (howner : arena.HasOwner owner)
    (target : String) (span : Span) (description : String) :
    arena.Grown (later.addTag owner target span description).2 where
  sound := hgrown.sound.addTag (hgrown.hasOwner howner) target span description
  components := by simpa using hgrown.components
  properties := by simpa using hgrown.properties

theorem addProperty (hgrown : arena.Grown later) {draft : Property}
    (howner : ∀ owner, draft.owner = some owner → InRange arena.components.length owner) :
    arena.Grown (later.addProperty draft).2 where
  sound := hgrown.sound.addProperty (by rwa [hgrown.components])
  components := hgrown.components
  properties := by
    rw [properties_addProperty, List.length_append]
    exact Nat.le_trans hgrown.properties (Nat.le_add_right _ _)

end Grown

end Arena

/-- The finding says of a tag that it is malformed, and why. -/
def Finding.IsMalformed (finding : Finding) : Prop :=
  ∃ span tag reason, finding = malformedFinding span tag reason

theorem Finding.IsMalformed.kind {finding : Finding} (hmalformed : finding.IsMalformed) :
    finding.kind = .malformedTag := by
  obtain ⟨span, tag, reason, rfl⟩ := hmalformed
  rfl

theorem NodeTags.isMalformed_of_mem_read (config : Config) (comments : List DocComment) :
    ∀ finding ∈ (read config comments).findings, finding.IsMalformed := by
  unfold read
  refine List.foldlRecOn (motive := fun tags : NodeTags =>
    ∀ finding ∈ tags.findings, finding.IsMalformed) _ _ (by simp) ?_
  rintro tags hmalformed ⟨span, tag⟩ _
  dsimp only
  unfold addTag
  split
  · exact hmalformed
  · split
    · split
      · exact hmalformed
      · intro finding hmem
        rcases List.mem_append.1 hmem with hmem | hmem
        · exact hmalformed finding hmem
        · exact ⟨_, _, _, List.mem_singleton.1 hmem⟩
    · exact hmalformed

namespace Extraction

structure Sound (extraction : Extraction) : Prop where
  arena : extraction.arena.Sound
  shapes : extraction.shapes.length = extraction.arena.components.length
  findings : ∀ finding ∈ extraction.findings, finding.IsMalformed

namespace Sound

variable {extraction : Extraction}

theorem grow (hsound : extraction.Sound) {arena : Arena} (hgrown : extraction.arena.Grown arena) :
    { extraction with arena := arena }.Sound where
  arena := hgrown.sound
  shapes := by rw [hgrown.components]; exact hsound.shapes
  findings := hsound.findings

theorem addFindings (hsound : extraction.Sound) {findings : List Finding}
    (hfindings : ∀ finding ∈ findings, finding.IsMalformed) :
    (extraction.addFindings findings).Sound where
  arena := hsound.arena
  shapes := hsound.shapes
  findings finding hmem := by
    rcases List.mem_append.1 hmem with hmem | hmem
    · exact hsound.findings finding hmem
    · exact hfindings finding hmem

theorem addComponent (hsound : extraction.Sound) (span : Span) (shape : Shape)
    (renders : List (TargetSpec × Span)) :
    (extraction.addComponent span shape renders).Sound := by
  have hadded := hsound.arena.addComponent shape.name span shape.kind
  have howner : (extraction.arena.addComponent shape.name span shape.kind).2.HasOwner
      (.component (extraction.arena.addComponent shape.name span shape.kind).1.id) := by
    simp [Arena.HasOwner, Arena.addComponent]
  have hgrown : (extraction.arena.addComponent shape.name span shape.kind).2.Grown
      (extraction.addComponent span shape renders).arena := by
    refine List.foldlRecOn renders _ (Arena.Grown.start hadded) ?_
    intro arena hgrown render _
    exact hgrown.addTag howner _ _ _
  refine ⟨hgrown.sound, ?_, hsound.findings⟩
  rw [hgrown.components, Arena.length_components_addComponent, ← hsound.shapes]
  simp [Extraction.addComponent]

theorem addRenders (hsound : extraction.Sound) (config : Config) (place : Located)
    (renders : List (TargetSpec × Span)) :
    (Extraction.addRenders config extraction place renders).Sound := by
  unfold Extraction.addRenders
  split
  · apply hsound.addFindings
    intro finding hmem
    obtain ⟨render, -, rfl⟩ := List.mem_map.1 hmem
    exact ⟨_, _, _, rfl⟩
  · exact ⟨hsound.arena, hsound.shapes, hsound.findings⟩

theorem addNode (hsound : extraction.Sound) (config : Config) (unit : SourceUnit)
    (place : Located) (comments : List DocComment) :
    (Extraction.addNode config unit extraction place comments).Sound := by
  have hread := hsound.addFindings (NodeTags.isMalformed_of_mem_read config comments)
  unfold Extraction.addNode
  dsimp only
  split
  · exact hread.addRenders config place _
  · split
    · exact hread
    · exact hread.addComponent _ _ _
    · refine (hread.addFindings ?_).addRenders config place _
      intro finding hmem
      exact ⟨_, _, _, List.mem_singleton.1 hmem⟩

end Sound

theorem sound_readNodes (config : Config) (unit : SourceUnit) : (readNodes config unit).Sound := by
  unfold readNodes
  refine List.foldlRecOn _ _ ⟨Arena.sound_empty, rfl, by simp [empty]⟩ ?_
  intro extraction hsound place _
  dsimp only
  split
  · exact hsound
  · exact hsound.addNode config unit place _

theorem grown_addProperties {arena later : Arena} (hgrown : arena.Grown later) (unit : SourceUnit)
    {shape : Shape × Nat} (hshape : shape.2 < arena.components.length) :
    arena.Grown (addProperties unit later shape) := by
  unfold addProperties
  split
  · exact hgrown
  · refine List.foldlRecOn _ _ hgrown ?_
    intro later hgrown info _
    apply hgrown.addProperty
    rintro owner ⟨⟩
    exact Arena.inRange_natCast.2 hshape

theorem Sound.register {extraction : Extraction} (hsound : extraction.Sound) (unit : SourceUnit) :
    (Extraction.register unit extraction).Sound := by
  apply hsound.grow
  refine List.foldlRecOn _ _ (Arena.Grown.start hsound.arena) ?_
  intro later hgrown shape hmem
  apply grown_addProperties hgrown
  rw [← hsound.shapes]
  exact List.snd_lt_of_mem_zipIdx hmem

/-- The properties that a signature declares are in the arena, each at its own position. -/
theorem declaredBy_spec {arena : Arena} (hsound : arena.Sound) (unit : SourceUnit)
    (property : Node) (above : List Node) :
    arena.Grown (declaredBy unit arena property above).2 ∧
      ∀ declared ∈ (declaredBy unit arena property above).1,
        (declaredBy unit arena property above).2.properties[declared.id]? = some declared := by
  unfold declaredBy
  split
  · next first rest hfound =>
    refine ⟨Arena.Grown.start hsound, ?_⟩
    intro declared hmem
    rw [← hfound] at hmem
    exact hsound.properties.getElem?_eq_some (List.mem_of_mem_filter hmem)
  · split
    · exact ⟨Arena.Grown.start hsound, fun declared hmem => absurd hmem List.not_mem_nil⟩
    · next info =>
      dsimp only
      refine ⟨(Arena.Grown.start hsound).addProperty (by simp), ?_⟩
      intro declared hmem
      rw [List.mem_singleton.1 hmem]
      exact (hsound.addProperty (by simp)).properties.getElem?_eq_some (by simp)

theorem Sound.attach {extraction : Extraction} (hsound : extraction.Sound) (config : Config)
    (unit : SourceUnit) (note : PropertyNote) :
    (Extraction.attach config unit extraction note).Sound := by
  obtain ⟨hgrown, hdeclared⟩ := declaredBy_spec hsound.arena unit note.property note.above
  unfold Extraction.attach
  dsimp only
  split
  · exact hsound.grow hgrown
  · split
    · refine hsound.grow (hgrown.trans ?_)
      refine List.foldlRecOn _ _ (Arena.Grown.start hgrown.sound) ?_
      intro later hlater property hmem
      have howner : (declaredBy unit extraction.arena note.property note.above).2.HasOwner
          (.property property.id) :=
        Arena.inRange_natCast.2 (List.getElem?_eq_some_iff.1 (hdeclared property hmem)).1
      exact hlater.addTag howner _ _ _
    · refine (hsound.grow hgrown).addFindings ?_
      intro finding hmem
      exact ⟨_, _, _, List.mem_singleton.1 hmem⟩

theorem sound_foldl_attach {extraction : Extraction} (hsound : extraction.Sound) (config : Config)
    (unit : SourceUnit) (notes : List PropertyNote) :
    (notes.foldl (attach config unit) extraction).Sound := by
  refine List.foldlRecOn _ _ hsound ?_
  intro extraction hsound note _
  exact hsound.attach config unit note

theorem sound_ofUnit (config : Config) (unit : SourceUnit) : (ofUnit config unit).Sound :=
  sound_foldl_attach ((sound_readNodes config unit).register unit) config unit _

/-- The properties that a render tag is attached to stand at their own positions. -/
def FindsProperties (unit : SourceUnit) (extraction : Extraction) (note : PropertyNote) : Prop :=
  let (properties, arena) := declaredBy unit extraction.arena note.property note.above
  ∀ property ∈ properties, arena.property property.id = .ok property

/-- Each render tag is attached to properties that exist by then. -/
theorem findsProperties_of_prefix (config : Config) (unit : SourceUnit) (done : List PropertyNote)
    (note : PropertyNote) :
    FindsProperties unit
      (done.foldl (attach config unit) (register unit (readNodes config unit))) note := by
  have hsound := sound_foldl_attach ((sound_readNodes config unit).register unit) config unit done
  intro property hmem
  exact Arena.property_eq_ok_iff.2 ((declaredBy_spec hsound.arena unit _ _).2 property hmem)

end Extraction

end RenderAudit
