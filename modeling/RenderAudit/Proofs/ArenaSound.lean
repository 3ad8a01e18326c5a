import RenderAudit.Proofs.Outcomes

/-!
# Arenas that mention only what they hold

Declarations are known by their positions, and an arena stores such positions in many places: in the
ids of its entries, in its two indexes, in the owners of properties and tags, and in the tag lists of
properties. `Sound` says that all of them are in range. It holds of the empty arena, and each of the
three ways to add a declaration keeps it.
-/

namespace RenderAudit

/-- Every entry carries its own position as its number. -/
def Numbered {α : Type} (number : α → Nat) (entries : List α) : Prop :=
  ∀ (position : Nat) (entry : α), entries[position]? = some entry → number entry = position

namespace Numbered

variable {α : Type} {number : α → Nat} {entries : List α}

theorem concat (hnumbered : Numbered number entries) {last : α}
    (hlast : number last = entries.length) : Numbered number (entries ++ [last]) := by
  intro position entry hget
  rcases Nat.lt_trichotomy position entries.length with hlt | rfl | hgt
  · rw [List.getElem?_append_left hlt] at hget
    exact hnumbered position entry hget
  · rw [List.getElem?_concat_length, Option.some.injEq] at hget
    exact hget ▸ hlast
  · have hnone : (entries ++ [last])[position]? = none := by
      rw [List.getElem?_eq_none_iff, List.length_append, List.length_singleton]
      exact hgt
    rw [hnone] at hget
    cases hget

theorem getElem?_eq_some (hnumbered : Numbered number entries) {entry : α}
    (hmem : entry ∈ entries) : entries[number entry]? = some entry := by
  obtain ⟨position, hget⟩ := List.mem_iff_getElem?.1 hmem
  rw [hnumbered position entry hget]
  exact hget

theorem lt_length (hnumbered : Numbered number entries) {entry : α} (hmem : entry ∈ entries) :
    number entry < entries.length :=
  (List.getElem?_eq_some_iff.1 (hnumbered.getElem?_eq_some hmem)).1

theorem pairwise (hnumbered : Numbered number entries) :
    entries.Pairwise fun first second => number first < number second := by
  rw [List.pairwise_iff_getElem]
  intro i j hi hj hlt
  rw [hnumbered i _ (List.getElem?_eq_getElem hi), hnumbered j _ (List.getElem?_eq_getElem hj)]
  exact hlt

end Numbered

/-- The position of the property that an owner means, among so many. -/
def TagOwner.meant? (count : Nat) : TagOwner → Option Nat
  | .component _ => none
  | .property id => Arena.position? count id

namespace Arena

/-! ### Owners as positions -/

/-- An owner that is the position of one of so many entries. -/
def InRange (length : Nat) (owner : Int) : Prop :=
  0 ≤ owner ∧ owner < length

theorem InRange.exists_eq_natCast {length : Nat} {owner : Int} (hrange : InRange length owner) :
    ∃ position < length, owner = (position : Int) := by
  obtain ⟨position, rfl⟩ := Int.eq_ofNat_of_zero_le hrange.1
  exact ⟨position, Int.ofNat_lt.1 hrange.2, rfl⟩

theorem InRange.mono {length length' : Nat} {owner : Int} (hrange : InRange length owner)
    (hle : length ≤ length') : InRange length' owner :=
  ⟨hrange.1, Int.lt_of_lt_of_le hrange.2 (Int.ofNat_le.2 hle)⟩

@[simp]
theorem inRange_natCast {length position : Nat} :
    InRange length (position : Int) ↔ position < length := by
  simp [InRange]

@[simp]
theorem position?_natCast (length position : Nat) :
    position? length (position : Int) = if position < length then some position else none := rfl

/-- There is something that a tag with this owner can belong to. -/
def HasOwner (arena : Arena) : TagOwner → Prop
  | .component id => InRange arena.components.length id
  | .property id => InRange arena.properties.length id

/-- A stored tag belongs to a component, or to a property that lists it. -/
def Holds (arena : Arena) (tag : Tag) : Prop :=
  match tag.owner with
  | .component id => InRange arena.components.length id
  | .property id => ∃ (position : Nat) (property : Property), id = (position : Int) ∧
      arena.properties[position]? = some property ∧ tag.id ∈ property.tags

structure Sound (arena : Arena) : Prop where
  components : Numbered Component.id arena.components
  properties : Numbered Property.id arena.properties
  owner_lt : ∀ property ∈ arena.properties, ∀ owner, property.owner = some owner →
    InRange arena.components.length owner
  tags_lt : ∀ property ∈ arena.properties, ∀ tag ∈ property.tags, tag < arena.tags.length
  byName_lt : ∀ name id, arena.byName.get? name = some id → id < arena.components.length
  byOwner_lt : ∀ owner ids, arena.byOwner.get? owner = some ids →
    InRange arena.components.length owner ∧ ∀ id ∈ ids, id < arena.properties.length
  holds : ∀ tag ∈ arena.tags, arena.Holds tag

theorem sound_empty : empty.Sound := by
  constructor <;> simp [empty, Numbered, Table.empty, Table.get?]

theorem property_eq_ok_iff {arena : Arena} {id : Nat} {found : Property} :
    arena.property id = .ok found ↔ arena.properties[id]? = some found := by
  have hposition : (position? arena.properties.length (id : Int)).bind (arena.properties[·]?) =
      arena.properties[id]? := by
    rw [position?_natCast]
    split
    · rfl
    · next hid => exact (List.getElem?_eq_none (Nat.le_of_not_lt hid)).symm
  unfold property
  rw [hposition]
  split
  · next hget => simp [hget]
  · next hget => simp [hget]

theorem exists_property_eq_ok {arena : Arena} {id : Int}
    (hid : InRange arena.properties.length id) :
    ∃ found ∈ arena.properties, arena.property id = .ok found := by
  obtain ⟨position, hlt, rfl⟩ := hid.exists_eq_natCast
  exact ⟨arena.properties[position], List.getElem_mem hlt,
    property_eq_ok_iff.2 (List.getElem?_eq_getElem hlt)⟩

/-! ### What the operations leave alone -/

section Operations

variable (arena : Arena) (draft : Property) (owner : TagOwner) (target : String) (span : Span)
  (description : String)

@[simp]
theorem length_components_addComponent (name : String) (kind : ComponentKind) :
    (arena.addComponent name span kind).2.components.length = arena.components.length + 1 := by
  simp [addComponent]

@[simp]
theorem components_addProperty : (arena.addProperty draft).2.components = arena.components := rfl

@[simp]
theorem properties_addProperty :
    (arena.addProperty draft).2.properties = arena.properties ++ [(arena.addProperty draft).1] :=
  rfl

@[simp]
theorem components_addTag :
    (arena.addTag owner target span description).2.components = arena.components := by
  unfold addTag
  cases owner with
  | component id => rfl
  | property id => dsimp only; split <;> rfl

@[simp]
theorem byName_addTag :
    (arena.addTag owner target span description).2.byName = arena.byName := by
  unfold addTag
  cases owner with
  | component id => rfl
  | property id => dsimp only; split <;> rfl

@[simp]
theorem byOwner_addTag :
    (arena.addTag owner target span description).2.byOwner = arena.byOwner := by
  unfold addTag
  cases owner with
  | component id => rfl
  | property id => dsimp only; split <;> rfl

theorem tags_addTag :
    (arena.addTag owner target span description).2.tags =
      arena.tags ++ [⟨arena.tags.length, owner, target, span, description, none⟩] := by
  unfold addTag
  cases owner with
  | component id => rfl
  | property id => dsimp only; split <;> rfl

/-- Only the property that a tag is attached to changes. -/
theorem getElem?_properties_addTag (position : Nat) :
    (arena.addTag owner target span description).2.properties[position]? =
      if owner.meant? arena.properties.length = some position then
        arena.properties[position]?.map (recordTag arena.tags.length)
      else arena.properties[position]? := by
  unfold addTag
  cases owner with
  | component id => simp [TagOwner.meant?]
  | property id =>
      dsimp only [TagOwner.meant?]
      split
      · next meant hmeant =>
        by_cases hposition : meant = position
        · simp [hmeant, hposition]
        · simp [hmeant, hposition]
      · next hmeant => simp [hmeant]

@[simp]
theorem length_properties_addTag :
    (arena.addTag owner target span description).2.properties.length =
      arena.properties.length := by
  unfold addTag
  cases owner with
  | component id => rfl
  | property id => dsimp only; split <;> simp

end Operations

variable {arena : Arena}

/-- A tag keeps its place while declarations are added and properties are given further tags. -/
theorem Holds.mono {arena' : Arena} {tag : Tag} (hholds : arena.Holds tag)
    (hcomponents : arena.components.length ≤ arena'.components.length)
    (hproperties : ∀ (id : Nat) (property : Property), arena.properties[id]? = some property →
      ∃ property', arena'.properties[id]? = some property' ∧ property.tags ⊆ property'.tags) :
    arena'.Holds tag := by
  unfold Holds at hholds ⊢
  split
  · next howner =>
    rw [howner] at hholds
    exact hholds.mono hcomponents
  · next howner =>
    rw [howner] at hholds
    obtain ⟨position, property, hposition, hget, htag⟩ := hholds
    obtain ⟨property', hget', hsubset⟩ := hproperties position property hget
    exact ⟨position, property', hposition, hget', hsubset htag⟩

namespace Sound

theorem addComponent (hsound : arena.Sound) (name : String) (span : Span) (kind : ComponentKind) :
    (arena.addComponent name span kind).2.Sound := by
  have hlast : arena.components.length <
      (arena.addComponent name span kind).2.components.length := by simp
  constructor
  · exact hsound.components.concat rfl
  · exact hsound.properties
  · intro property hmem owner howner
    exact (hsound.owner_lt property hmem owner howner).mono (Nat.le_of_lt hlast)
  · exact hsound.tags_lt
  · intro other id hget
    simp only [Arena.addComponent, Table.get?_insertIfNew, Option.or_eq_some_iff] at hget
    rcases hget with hget | ⟨-, hget⟩
    · exact Nat.lt_trans (hsound.byName_lt other id hget) hlast
    · split at hget
      · cases hget
        exact hlast
      · cases hget
  · intro owner ids hget
    obtain ⟨howner, hids⟩ := hsound.byOwner_lt owner ids hget
    exact ⟨howner.mono (Nat.le_of_lt hlast), hids⟩
  · intro tag hmem
    refine (hsound.holds tag hmem).mono (Nat.le_of_lt hlast) ?_
    intro id property hget
    exact ⟨property, hget, List.Subset.refl _⟩

theorem addProperty (hsound : arena.Sound) {draft : Property}
    (howner : ∀ owner, draft.owner = some owner → InRange arena.components.length owner) :
    (arena.addProperty draft).2.Sound := by
  have hlast : arena.properties.length < (arena.addProperty draft).2.properties.length := by simp
  have hadded : ∀ property ∈ (arena.addProperty draft).2.properties,
      property ∈ arena.properties ∨ property = (arena.addProperty draft).1 := by
    intro property hmem
    simpa using hmem
  have hlisted : ∀ owner, ∀ id ∈ (arena.byOwner.get? owner).getD [],
      id < (arena.addProperty draft).2.properties.length := by
    intro owner id hid
    cases hget : arena.byOwner.get? owner with
    | none => simp [hget] at hid
    | some ids =>
        have hmem : id ∈ ids := by simpa [hget] using hid
        exact Nat.lt_trans ((hsound.byOwner_lt owner ids hget).2 id hmem) hlast
  constructor
  · exact hsound.components
  · exact hsound.properties.concat rfl
  · intro property hmem owner hown
    rcases hadded property hmem with hmem | rfl
    · exact hsound.owner_lt property hmem owner hown
    · exact howner owner hown
  · intro property hmem tag htag
    rcases hadded property hmem with hmem | rfl
    · exact hsound.tags_lt property hmem tag htag
    · cases htag
  · exact hsound.byName_lt
  · intro owner ids hget
    have hold : arena.byOwner.get? owner = some ids → InRange arena.components.length owner ∧
        ∀ id ∈ ids, id < (arena.addProperty draft).2.properties.length := by
      intro hget
      have hids := hlisted owner
      rw [hget] at hids
      exact ⟨(hsound.byOwner_lt owner ids hget).1, hids⟩
    cases hdraft : draft.owner with
    | none =>
        simp only [Arena.addProperty, hdraft] at hget
        exact hold hget
    | some own =>
        simp only [Arena.addProperty, hdraft, Table.get?_insert] at hget
        split at hget
        · next heq =>
          subst heq
          cases hget
          refine ⟨howner own hdraft, ?_⟩
          intro id hid
          rcases List.mem_append.1 hid with hid | hid
          · exact hlisted own id hid
          · rw [List.mem_singleton] at hid
            exact hid ▸ hlast
        · exact hold hget
  · intro tag hmem
    refine (hsound.holds tag hmem).mono (Nat.le_refl _) ?_
    intro id property hget
    refine ⟨property, ?_, List.Subset.refl _⟩
    rw [properties_addProperty, List.getElem?_append_left (List.getElem?_eq_some_iff.1 hget).1]
    exact hget

theorem addTag (hsound : arena.Sound) {owner : TagOwner} (howner : arena.HasOwner owner)
    (target : String) (span : Span) (description : String) :
    (arena.addTag owner target span description).2.Sound := by
  -- Every property is an old one, with the new tag behind its own ones or without it.
  have hold : ∀ (id : Nat) (property : Property),
      (arena.addTag owner target span description).2.properties[id]? = some property →
      ∃ old, arena.properties[id]? = some old ∧
        (property = old ∨ property = recordTag arena.tags.length old) := by
    intro id property hget
    rw [getElem?_properties_addTag] at hget
    split at hget
    · obtain ⟨old, hstored, rfl⟩ := Option.map_eq_some_iff.1 hget
      exact ⟨old, hstored, .inr rfl⟩
    · exact ⟨property, hget, .inl rfl⟩
  constructor
  · rw [components_addTag]
    exact hsound.components
  · intro id property hget
    obtain ⟨old, hstored, rfl | rfl⟩ := hold id property hget
    · exact hsound.properties id property hstored
    · exact hsound.properties id old hstored
  · intro property hmem own hown
    obtain ⟨id, hget⟩ := List.mem_iff_getElem?.1 hmem
    rw [components_addTag]
    obtain ⟨old, hstored, rfl | rfl⟩ := hold id property hget
    · exact hsound.owner_lt property (List.mem_of_getElem? hstored) own hown
    · exact hsound.owner_lt old (List.mem_of_getElem? hstored) own hown
  · intro property hmem tag htag
    obtain ⟨id, hget⟩ := List.mem_iff_getElem?.1 hmem
    rw [tags_addTag, List.length_append, List.length_singleton]
    obtain ⟨old, hstored, rfl | rfl⟩ := hold id property hget
    · exact Nat.lt_succ_of_lt (hsound.tags_lt property (List.mem_of_getElem? hstored) tag htag)
    · rcases List.mem_append.1 htag with htag | htag
      · exact Nat.lt_succ_of_lt (hsound.tags_lt old (List.mem_of_getElem? hstored) tag htag)
      · rw [List.mem_singleton.1 htag]
        exact Nat.lt_succ_self _
  · rw [byName_addTag, components_addTag]
    exact hsound.byName_lt
  · rw [byOwner_addTag, components_addTag, length_properties_addTag]
    exact hsound.byOwner_lt
  · intro tag hmem
    rw [tags_addTag, List.mem_append, List.mem_singleton] at hmem
    rcases hmem with hmem | rfl
    · refine (hsound.holds tag hmem).mono (by simp) ?_
      intro id property hget
      rw [getElem?_properties_addTag, hget]
      split
      · exact ⟨_, rfl, List.subset_append_left _ _⟩
      · exact ⟨property, rfl, List.Subset.refl _⟩
    · cases owner with
      | component id => simpa [Holds, HasOwner] using howner
      | property id =>
          obtain ⟨position, hlt, rfl⟩ := InRange.exists_eq_natCast howner
          have hget := List.getElem?_eq_getElem hlt
          refine ⟨position, recordTag arena.tags.length arena.properties[position], rfl, ?_, ?_⟩
          · rw [getElem?_properties_addTag, if_pos (by simp [TagOwner.meant?, hlt]), hget,
              Option.map_some]
          · exact List.mem_append_right _ List.mem_cons_self

/-! ### Answers to questions -/

theorem componentNamed?_lt (hsound : arena.Sound) {name : String} {found : Component}
    (hfound : arena.componentNamed? name = some found) :
    found.id < arena.components.length := by
  obtain ⟨id, -, hget⟩ := Option.bind_eq_some_iff.1 hfound
  exact hsound.components.lt_length (List.mem_of_getElem? hget)

theorem propertyOf?_eq_some (hsound : arena.Sound) {owner : Int} {name : String}
    {found : Property} (hfound : arena.propertyOf? owner name = some found) :
    InRange arena.components.length owner ∧ arena.properties[found.id]? = some found := by
  have hmem : found ∈ arena.propertiesOf owner := List.mem_of_find?_eq_some hfound
  obtain ⟨id, hid, hget⟩ := List.mem_filterMap.1 hmem
  refine ⟨?_, hsound.properties.getElem?_eq_some (List.mem_of_getElem? hget)⟩
  cases hlist : arena.byOwner.get? owner with
  | none => simp [hlist] at hid
  | some ids => exact (hsound.byOwner_lt owner ids hlist).1

theorem propertyOf?_lt (hsound : arena.Sound) {owner : Int} {name : String} {found : Property}
    (hfound : arena.propertyOf? owner name = some found) : found.id < arena.properties.length :=
  (List.getElem?_eq_some_iff.1 (hsound.propertyOf?_eq_some hfound).2).1

theorem acceptsContent_lt (hsound : arena.Sound) {owner : Nat} {name : String}
    (haccepts : arena.acceptsContent owner name = true) : owner < arena.components.length := by
  unfold acceptsContent at haccepts
  cases hfound : arena.propertyOf? owner name with
  | none => simp [hfound] at haccepts
  | some found => exact inRange_natCast.1 (hsound.propertyOf?_eq_some hfound).1

end Sound

end Arena

end RenderAudit
