import RenderAudit.Proofs.Attachment
import RenderAudit.Proofs.TargetGrammar

/-!
# The render tags that a source leaves behind

Tags are numbered in the order in which they are stored, and a target is one word: what a body names
is made of identifiers, dots and dashes. Both hold of every tag that is read from a source, on a
component or on a property.
-/

namespace RenderAudit

/-- A text without a blank. -/
def OneWord (text : String) : Prop :=
  ' ' ∉ text.toList

instance (text : String) : Decidable (OneWord text) :=
  inferInstanceAs (Decidable (' ' ∉ text.toList))

/-! ### Targets are words -/

theorem TargetSpec.oneWord_of_parse {body : List Char} {spec : TargetSpec}
    (hparse : parse body = .ok spec) : OneWord spec.target := by
  have hempty : OneWord "" := by decide
  rcases names_of_parse hparse with ⟨-, rfl⟩ | ⟨token, rest, -, hnames, -⟩
  · exact hempty
  · rcases hnames with ⟨-, htarget⟩ | ⟨hdotted, htarget⟩
    · rw [htarget]
      exact hempty
    · rw [htarget, OneWord, String.toList_ofList]
      intro hblank
      exact absurd (hdotted.isBlank_of_mem hblank) (by decide)

theorem NodeTags.oneWord_of_mem_read (config : Config) (comments : List DocComment) :
    ∀ render ∈ (read config comments).renders, OneWord render.1.target := by
  unfold read
  refine List.foldlRecOn (motive := fun tags : NodeTags =>
    ∀ render ∈ tags.renders, OneWord render.1.target) _ _ (by simp) ?_
  rintro tags hwords ⟨span, tag⟩ _
  dsimp only
  unfold addTag
  split
  · exact hwords
  · split
    · split
      · next spec hparse =>
        intro render hmem
        rcases List.mem_append.1 hmem with hmem | hmem
        · exact hwords render hmem
        · rw [List.mem_singleton.1 hmem]
          exact TargetSpec.oneWord_of_parse hparse
      · exact hwords
    · exact hwords

/-! ### Tags in their arena -/

/-- Tags carry their positions as ids, and each target is one word. -/
structure Arena.WellTagged (arena : Arena) : Prop where
  numbered : Numbered Tag.id arena.tags
  oneWord : ∀ tag ∈ arena.tags, OneWord tag.target

namespace Arena.WellTagged

variable {arena : Arena}

theorem of_tags_eq (htagged : arena.WellTagged) {later : Arena} (htags : later.tags = arena.tags) :
    later.WellTagged where
  numbered := by rw [htags]; exact htagged.numbered
  oneWord := by rw [htags]; exact htagged.oneWord

theorem addTag (htagged : arena.WellTagged) (owner : TagOwner) {target : String}
    (hword : OneWord target) (span : Span) (description : String) :
    (arena.addTag owner target span description).2.WellTagged where
  numbered := by
    rw [tags_addTag]
    exact htagged.numbered.concat rfl
  oneWord tag hmem := by
    rw [tags_addTag] at hmem
    rcases List.mem_append.1 hmem with hmem | hmem
    · exact htagged.oneWord tag hmem
    · rw [List.mem_singleton.1 hmem]
      exact hword

end Arena.WellTagged

namespace Extraction

/-- So far all tags are numbered, and those that are not yet attached name one word as well. -/
structure WellTagged (extraction : Extraction) : Prop where
  arena : extraction.arena.WellTagged
  notes : ∀ note ∈ extraction.notes, OneWord note.spec.target

namespace WellTagged

variable {extraction : Extraction}

theorem addFindings (htagged : extraction.WellTagged) (findings : List Finding) :
    (extraction.addFindings findings).WellTagged :=
  ⟨htagged.arena, htagged.notes⟩

theorem addComponent (htagged : extraction.WellTagged) (span : Span) (shape : Shape)
    {renders : List (TargetSpec × Span)}
    (hrenders : ∀ render ∈ renders, OneWord render.1.target) :
    (extraction.addComponent span shape renders).WellTagged := by
  refine ⟨?_, htagged.notes⟩
  refine List.foldlRecOn renders _ (htagged.arena.of_tags_eq rfl) ?_
  intro arena harena render hrender
  exact harena.addTag _ (hrenders render hrender) _ _

theorem addRenders (htagged : extraction.WellTagged) (config : Config) (place : Located)
    {renders : List (TargetSpec × Span)}
    (hrenders : ∀ render ∈ renders, OneWord render.1.target) :
    (Extraction.addRenders config extraction place renders).WellTagged := by
  unfold Extraction.addRenders
  split
  · exact htagged.addFindings _
  · refine ⟨htagged.arena, ?_⟩
    intro note hnote
    rcases List.mem_append.1 hnote with hnote | hnote
    · exact htagged.notes note hnote
    · obtain ⟨render, hrender, rfl⟩ := List.mem_map.1 hnote
      exact hrenders render hrender

theorem addNode (htagged : extraction.WellTagged) (config : Config) (unit : SourceUnit)
    (place : Located) (comments : List DocComment) :
    (Extraction.addNode config unit extraction place comments).WellTagged := by
  have hrenders := NodeTags.oneWord_of_mem_read config comments
  have hread := htagged.addFindings (NodeTags.read config comments).findings
  unfold Extraction.addNode
  dsimp only
  split
  · exact hread.addRenders config place hrenders
  · split
    · exact hread
    · exact hread.addComponent _ _ hrenders
    · exact (hread.addFindings _).addRenders config place hrenders

theorem attach (htagged : extraction.WellTagged) (config : Config) (unit : SourceUnit)
    {note : PropertyNote} (hnote : OneWord note.spec.target) :
    (Extraction.attach config unit extraction note).WellTagged := by
  have hfound := htagged.arena.of_tags_eq
    (tags_declaredBy unit extraction.arena note.property note.above)
  unfold Extraction.attach
  dsimp only
  split
  · exact ⟨hfound, htagged.notes⟩
  · split
    · refine ⟨List.foldlRecOn _ _ hfound ?_, htagged.notes⟩
      intro arena harena property _
      exact harena.addTag _ hnote _ _
    · exact ⟨hfound, htagged.notes⟩

end WellTagged

theorem wellTagged_readNodes (config : Config) (unit : SourceUnit) :
    (readNodes config unit).WellTagged := by
  unfold readNodes
  refine List.foldlRecOn _ _ ⟨⟨?_, ?_⟩, ?_⟩ ?_
  · simp [Numbered, empty, Arena.empty]
  · simp [empty, Arena.empty]
  · simp [empty]
  intro extraction htagged place _
  dsimp only
  split
  · exact htagged
  · exact htagged.addNode config unit place _

theorem wellTagged_ofUnit (config : Config) (unit : SourceUnit) :
    (ofUnit config unit).WellTagged := by
  have hread := wellTagged_readNodes config unit
  have hregistered : (register unit (readNodes config unit)).WellTagged :=
    ⟨hread.arena.of_tags_eq (register_spec unit _).1, hread.notes⟩
  refine List.foldlRecOn _ _ hregistered ?_
  intro extraction htagged note hnote
  exact htagged.attach config unit (hregistered.notes note hnote)

end Extraction

end RenderAudit
