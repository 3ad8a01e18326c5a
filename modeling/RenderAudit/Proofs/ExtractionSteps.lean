import RenderAudit.Proofs.DeclaredImage

/-!
# Names and the order of tags in what is read

An extraction builds its arena in two rounds. The first adds components, each with the tags on it;
the second adds properties and the tags on them. What each of these additions keeps holds of the
arena in the end. So a name in the index is the name of the component that it leads to, and the tags
of components come before those of properties.
-/

namespace RenderAudit

namespace Extraction

/-! ### The two rounds -/

section Rounds

variable {motive : Arena → Prop} {config : Config} {unit : SourceUnit}

theorem addNode_induction
    (hcomponent : ∀ arena name span kind, motive arena →
      motive (arena.addComponent name span kind).2)
    (htag : ∀ arena id target span description, motive arena →
      motive (arena.addTag (.component id) target span description).2)
    {extraction : Extraction} (hstart : motive extraction.arena) (place : Located)
    (comments : List DocComment) :
    motive (addNode config unit extraction place comments).arena := by
  have hrenders : ∀ (extraction : Extraction) renders, motive extraction.arena →
      motive (addRenders config extraction place renders).arena := by
    intro extraction renders hstart
    unfold addRenders
    split <;> exact hstart
  unfold addNode
  dsimp only
  split
  · exact hrenders _ _ hstart
  · split
    · exact hstart
    · refine List.foldlRecOn _ _ (hcomponent _ _ _ _ hstart) ?_
      intro arena harena render _
      exact htag _ _ _ _ _ harena
    · exact hrenders _ _ hstart

/-- The first round adds components and their tags. -/
theorem readNodes_induction (hempty : motive .empty)
    (hcomponent : ∀ arena name span kind, motive arena →
      motive (arena.addComponent name span kind).2)
    (htag : ∀ arena id target span description, motive arena →
      motive (arena.addTag (.component id) target span description).2) :
    motive (readNodes config unit).arena := by
  unfold readNodes
  refine List.foldlRecOn (motive := fun extraction : Extraction => motive extraction.arena)
    _ _ hempty ?_
  intro extraction harena place _
  dsimp only
  split
  · exact harena
  · exact addNode_induction hcomponent htag harena place _

/-- The second round adds properties and their tags. -/
theorem ofUnit_induction (hread : motive (readNodes config unit).arena)
    (hproperty : ∀ arena draft, motive arena → motive (arena.addProperty draft).2)
    (htag : ∀ arena (id : Nat) target span description, motive arena →
      motive (arena.addTag (.property id) target span description).2) :
    motive (ofUnit config unit).arena := by
  have hdeclared : ∀ arena property above, motive arena →
      motive (declaredBy unit arena property above).2 := by
    intro arena property above harena
    unfold declaredBy
    split
    · exact harena
    · split
      · exact harena
      · exact hproperty _ _ harena
  unfold ofUnit
  refine List.foldlRecOn (motive := fun extraction : Extraction => motive extraction.arena)
    _ _ ?_ ?_
  · refine List.foldlRecOn _ _ hread ?_
    intro arena harena shape _
    unfold addProperties
    split
    · exact harena
    · refine List.foldlRecOn _ _ harena ?_
      intro arena harena info _
      exact hproperty _ _ harena
  · intro extraction harena note _
    have hfound := hdeclared _ note.property note.above harena
    unfold attach
    dsimp only
    split
    · exact hfound
    · split
      · refine List.foldlRecOn _ _ hfound ?_
        intro arena harena property _
        exact htag _ _ _ _ _ harena
      · exact hfound

end Rounds

end Extraction

/-! ### Names -/

namespace Arena

/-- The index leads from a name to a component of that name. -/
def NamesIndexed (arena : Arena) : Prop :=
  ∀ name id, arena.byName.get? name = some id →
    ∃ component, arena.components[id]? = some component ∧ component.name = name

theorem NamesIndexed.addComponent {arena : Arena} (hnames : arena.NamesIndexed) (name : String)
    (span : Span) (kind : ComponentKind) : (arena.addComponent name span kind).2.NamesIndexed := by
  intro other id hid
  dsimp only [Arena.addComponent] at hid ⊢
  rw [Table.get?_insertIfNew] at hid
  rcases Option.or_eq_some_iff.1 hid with hold | ⟨-, hnew⟩
  · obtain ⟨component, hcomponent, hname⟩ := hnames other id hold
    refine ⟨component, ?_, hname⟩
    rw [List.getElem?_append_left (List.getElem?_eq_some_iff.1 hcomponent).1]
    exact hcomponent
  · split at hnew
    · next hname =>
      cases hnew
      refine ⟨_, List.getElem?_concat_length, hname⟩
    · cases hnew

theorem namesIndexed_ofUnit (config : Config) (unit : SourceUnit) :
    (Extraction.ofUnit config unit).arena.NamesIndexed := by
  refine Extraction.ofUnit_induction (Extraction.readNodes_induction ?_ ?_ ?_) ?_ ?_
  · intro name id hid
    cases hid
  · intro arena name span kind hnames
    exact hnames.addComponent name span kind
  · intro arena id target span description hnames
    simpa [NamesIndexed] using hnames
  · intro arena draft hnames
    exact hnames
  · intro arena id target span description hnames
    simpa [NamesIndexed] using hnames

theorem NamesIndexed.name_of_componentNamed? {arena : Arena} (hnames : arena.NamesIndexed)
    {name : String} {component : Component} (hnamed : arena.componentNamed? name = some component) :
    component.name = name := by
  obtain ⟨id, hid, hcomponent⟩ := Option.bind_eq_some_iff.1 hnamed
  obtain ⟨found, hfound, hname⟩ := hnames name id hid
  rw [hfound] at hcomponent
  cases hcomponent
  exact hname

/-! ### The order of tags -/

/-- The tags on components come first, those on properties follow. -/
def TagsOrdered (arena : Arena) : Prop :=
  arena.tags.Pairwise fun first second =>
    first.owner.property?.isSome = true → second.owner.property?.isSome = true

theorem property?_eq_none_of_mem_readNodes (config : Config) (unit : SourceUnit) :
    ∀ tag ∈ (Extraction.readNodes config unit).arena.tags, tag.owner.property? = none := by
  refine Extraction.readNodes_induction (motive := fun arena =>
    ∀ tag ∈ arena.tags, tag.owner.property? = none) (by simp [Arena.empty]) ?_ ?_
  · intro arena name span kind htags
    exact htags
  · intro arena id target span description htags tag hmem
    rw [tags_addTag] at hmem
    rcases List.mem_append.1 hmem with hmem | hmem
    · exact htags tag hmem
    · rw [List.mem_singleton.1 hmem]
      rfl

theorem tagsOrdered_ofUnit (config : Config) (unit : SourceUnit) :
    (Extraction.ofUnit config unit).arena.TagsOrdered := by
  refine Extraction.ofUnit_induction ?_ ?_ ?_
  · have hnone := property?_eq_none_of_mem_readNodes config unit
    refine List.pairwise_of_forall_mem_list ?_
    intro first hfirst second _ hsome
    rw [hnone first hfirst] at hsome
    cases hsome
  · intro arena draft hordered
    exact hordered
  · intro arena id target span description hordered
    rw [TagsOrdered, tags_addTag, List.pairwise_append]
    refine ⟨hordered, List.pairwise_singleton _ _, ?_⟩
    intro first _ last hlast _
    rw [List.mem_singleton.1 hlast]
    rfl

end Arena

end RenderAudit
