import Mathlib.Data.List.Induction
import RenderAudit.Proofs.Attachment

/-!
# Indexes that agree with scans

An arena answers by two indexes and by the tag lists of its properties, which are kept beside the
lists of declarations. Whatever is added, in whatever order, the answers are those of a scan over
these lists. A tag can come before the property that it names: it is stored, but the property does
not list it, since tags are listed only where they find their property. A tag can also name its
property from the end of the list, and which one it means then depends on when it was added.
-/

namespace RenderAudit

theorem Numbered.filterMap_map {α : Type} {number : α → Nat} {entries picked : List α}
    (hnumbered : Numbered number entries) (hpicked : ∀ entry ∈ picked, entry ∈ entries) :
    (picked.map number).filterMap (entries[·]?) = picked := by
  induction picked with
  | nil => rfl
  | cons first rest ih =>
      obtain ⟨hfirst, hrest⟩ := List.forall_mem_cons.1 hpicked
      rw [List.map_cons, List.filterMap_cons_some (hnumbered.getElem?_eq_some hfirst), ih hrest]

namespace Arena

/-! ### Calls -/

/-- What can be asked of an arena in order to add to it. -/
inductive Call where
  | component (name : String) (span : Span) (kind : ComponentKind)
  | property (draft : Property)
  | tag (owner : TagOwner) (target : String) (span : Span) (description : String)

/-- The arena after a call, whether the call failed or not. -/
def perform (arena : Arena) : Call → Arena
  | .component name span kind => (arena.addComponent name span kind).2
  | .property draft => (arena.addProperty draft).2
  | .tag owner target span description => (arena.addTag owner target span description).2

def build (calls : List Call) : Arena :=
  calls.foldl perform empty

theorem build_concat (calls : List Call) (call : Call) :
    build (calls ++ [call]) = (build calls).perform call :=
  List.foldl_concat ..

theorem build_append (calls later : List Call) :
    build (calls ++ later) = later.foldl perform (build calls) :=
  List.foldl_append

/-- The tag that a call adds, with the number of properties that there are then. -/
def added (arena : Arena) : Call → List (Tag × Nat)
  | .tag owner target span description =>
      [(⟨arena.tags.length, owner, target, span, description, none⟩, arena.properties.length)]
  | _ => []

def addedTags (arena : Arena) : List Call → List (Tag × Nat)
  | [] => []
  | call :: calls => arena.added call ++ (arena.perform call).addedTags calls

/-! ### The two indexes -/

/-- The ids of the properties of an owner. -/
def ownedIds (owner : Int) (properties : List Property) : List Nat :=
  (properties.filter (·.owner = some owner)).map Property.id

theorem SameProperties.ownedIds_eq {arena later : Arena} (hsame : arena.SameProperties later)
    (owner : Int) : ownedIds owner later.properties = ownedIds owner arena.properties := by
  have huntagged : ∀ properties : List Property,
      ownedIds owner properties = ownedIds owner (properties.map Property.untagged) := by
    intro properties
    rw [ownedIds, ownedIds, List.filter_map, List.map_map]
    rfl
  rw [huntagged, hsame, ← huntagged]

/-- Declarations stand at their ids, and each index holds what a scan would find. -/
structure Indexed (arena : Arena) : Prop where
  components : Numbered Component.id arena.components
  properties : Numbered Property.id arena.properties
  tags : Numbered Tag.id arena.tags
  byName : ∀ name, arena.byName.get? name =
    (arena.components.find? (·.name = name)).map Component.id
  byOwner : ∀ owner, (arena.byOwner.get? owner).getD [] = ownedIds owner arena.properties

theorem indexed_empty : empty.Indexed := by
  constructor <;> simp [empty, Numbered, Table.empty, Table.get?, ownedIds]

namespace Indexed

variable {arena : Arena}

theorem addComponent (hindexed : arena.Indexed) (name : String) (span : Span)
    (kind : ComponentKind) : (arena.addComponent name span kind).2.Indexed where
  components := hindexed.components.concat rfl
  properties := hindexed.properties
  tags := hindexed.tags
  byName other := by
    dsimp only [Arena.addComponent]
    rw [Table.get?_insertIfNew, hindexed.byName, List.find?_append]
    -- The new component is found under its name only if no other one is.
    cases arena.components.find? (·.name = other) with
    | some found => rfl
    | none =>
        by_cases hname : name = other
        · simp [hname]
        · simp [hname]
  byOwner := hindexed.byOwner

theorem addProperty (hindexed : arena.Indexed) (draft : Property) :
    (arena.addProperty draft).2.Indexed where
  components := hindexed.components
  properties := hindexed.properties.concat rfl
  tags := hindexed.tags
  byName := hindexed.byName
  byOwner other := by
    have hids := hindexed.byOwner other
    rw [properties_addProperty, ownedIds, List.filter_append, List.map_append]
    cases hdraft : draft.owner with
    | none => simp [Arena.addProperty, hdraft, hids, ownedIds]
    | some owner =>
        by_cases howner : owner = other
        · subst howner
          simp [Arena.addProperty, hdraft, Table.get?_insert, hids, ownedIds]
        · simp [Arena.addProperty, hdraft, Table.get?_insert, hids, ownedIds, howner]

theorem addTag (hindexed : arena.Indexed) (owner : TagOwner) (target : String) (span : Span)
    (description : String) : (arena.addTag owner target span description).2.Indexed where
  components := by
    rw [components_addTag]
    exact hindexed.components
  properties := by
    intro position property hget
    rw [getElem?_properties_addTag] at hget
    split at hget
    · obtain ⟨stored, hstored, rfl⟩ := Option.map_eq_some_iff.1 hget
      exact hindexed.properties position stored hstored
    · exact hindexed.properties position property hget
  tags := by
    rw [tags_addTag]
    exact hindexed.tags.concat rfl
  byName := by
    rw [byName_addTag, components_addTag]
    exact hindexed.byName
  byOwner other := by
    rw [byOwner_addTag, (arena.sameProperties_addTag owner target span description).ownedIds_eq]
    exact hindexed.byOwner other

theorem perform (hindexed : arena.Indexed) (call : Call) : (arena.perform call).Indexed := by
  cases call with
  | component name span kind => exact hindexed.addComponent name span kind
  | property draft => exact hindexed.addProperty draft
  | tag owner target span description => exact hindexed.addTag owner target span description

/-! ### Answers -/

theorem componentNamed?_eq (hindexed : arena.Indexed) (name : String) :
    arena.componentNamed? name = arena.components.find? (·.name = name) := by
  rw [componentNamed?, hindexed.byName]
  cases hfound : arena.components.find? (·.name = name) with
  | none => rfl
  | some found =>
      exact hindexed.components.getElem?_eq_some (List.mem_of_find?_eq_some hfound)

theorem least_of_componentNamed? (hindexed : arena.Indexed) {name : String} {found : Component}
    (hfound : arena.componentNamed? name = some found) :
    ∀ other ∈ arena.components, other.name = name → found.id ≤ other.id := by
  rw [hindexed.componentNamed?_eq] at hfound
  obtain ⟨-, before, after, hsplit, hbefore⟩ := List.find?_eq_some_iff_append.1 hfound
  intro other hmem hname
  have hordered := hindexed.components.pairwise
  rw [hsplit, List.pairwise_append, List.pairwise_cons] at hordered
  rw [hsplit] at hmem
  rcases List.mem_append.1 hmem with hmem | hmem
  · have hother := hbefore other hmem
    simp [hname] at hother
  · rcases List.mem_cons.1 hmem with rfl | hmem
    · exact Nat.le_refl _
    · exact Nat.le_of_lt (hordered.2.1.1 other hmem)

theorem propertiesOf_eq (hindexed : arena.Indexed) (owner : Int) :
    arena.propertiesOf owner = arena.properties.filter (·.owner = some owner) := by
  rw [propertiesOf, hindexed.byOwner, ownedIds]
  apply hindexed.properties.filterMap_map
  intro property hmem
  exact (List.mem_filter.1 hmem).1

end Indexed

theorem indexed_build (calls : List Call) : (build calls).Indexed := by
  refine List.foldlRecOn calls perform indexed_empty ?_
  intro arena hindexed call _
  exact hindexed.perform call

/-! ### The tags of a property -/

/-- A tag names a property by its position, counted from the start or from the end. -/
def Names (position : Nat) (tag : Tag × Nat) : Prop :=
  tag.1.owner = .property position ∨ tag.1.owner = .property (position - tag.2)

instance (position : Nat) : DecidablePred (Names position) :=
  fun _ => inferInstanceAs (Decidable (_ ∨ _))

theorem position?_eq_some_iff {length position : Nat} {index : Int} :
    position? length index = some position ↔
      position < length ∧ (index = position ∨ index = position - length) := by
  cases index with
  | ofNat index =>
      simp only [position?, Option.ite_none_right_eq_some, Option.some.injEq, Int.ofNat_eq_natCast]
      omega
  | negSucc back =>
      simp only [position?, Option.ite_none_right_eq_some, Option.some.injEq, Int.negSucc_eq]
      omega

theorem position?_eq_none_iff {length : Nat} {index : Int} :
    position? length index = none ↔ index < -length ∨ length ≤ index := by
  cases index with
  | ofNat index =>
      simp only [position?, ite_eq_right_iff, reduceCtorEq, imp_false, Int.ofNat_eq_natCast]
      omega
  | negSucc back =>
      simp only [position?, ite_eq_right_iff, reduceCtorEq, imp_false, Int.negSucc_eq]
      omega

theorem meant?_eq_some_iff {count position : Nat} (hlt : position < count) (tag : Tag) :
    tag.owner.meant? count = some position ↔ Names position (tag, count) := by
  unfold Names
  cases tag.owner with
  | component id => simp [TagOwner.meant?]
  | property id => simp [TagOwner.meant?, position?_eq_some_iff, hlt]

/-- Since the tags `start` were all, the property at `position` was given those that name it. -/
structure Lists (arena : Arena) (start : List Tag) (position : Nat)
    (later : List (Tag × Nat)) : Prop where
  tags : arena.tags = start ++ later.map Prod.fst
  listed : ∃ property, arena.properties[position]? = some property ∧
    property.tags = ((later.filter (Names position ·)).map Prod.fst).map Tag.id

theorem lists_addProperty (arena : Arena) (draft : Property) :
    (arena.addProperty draft).2.Lists arena.tags arena.properties.length [] where
  tags := (List.append_nil _).symm
  listed := by
    refine ⟨(arena.addProperty draft).1, ?_, rfl⟩
    rw [properties_addProperty]
    exact List.getElem?_concat_length

namespace Lists

variable {arena : Arena} {start : List Tag} {later : List (Tag × Nat)} {position : Nat}

theorem addTag (hlists : arena.Lists start position later) (owner : TagOwner) (target : String)
    (span : Span) (description : String) :
    (arena.addTag owner target span description).2.Lists start position
      (later ++ arena.added (.tag owner target span description)) where
  tags := by
    rw [tags_addTag, List.map_append, ← List.append_assoc, ← hlists.tags]
    rfl
  listed := by
    obtain ⟨property, hget, htags⟩ := hlists.listed
    have hlt := (List.getElem?_eq_some_iff.1 hget).1
    have hmeant := meant?_eq_some_iff hlt ⟨arena.tags.length, owner, target, span, description, none⟩
    rw [getElem?_properties_addTag, hget, List.filter_append, List.map_append, List.map_append,
      ← htags]
    by_cases howner : owner.meant? arena.properties.length = some position
    · refine ⟨recordTag arena.tags.length property, ?_, ?_⟩
      · rw [if_pos howner, Option.map_some]
      · simp [recordTag, added, hmeant.1 howner]
    · refine ⟨property, if_neg howner, ?_⟩
      simp [added, mt hmeant.2 howner]

theorem perform (hlists : arena.Lists start position later) (call : Call) :
    (arena.perform call).Lists start position (later ++ arena.added call) := by
  cases call with
  | component name span kind =>
      dsimp only [added]
      rw [List.append_nil]
      exact ⟨hlists.tags, hlists.listed⟩
  | property draft =>
      dsimp only [added]
      rw [List.append_nil]
      refine ⟨hlists.tags, ?_⟩
      obtain ⟨property, hget, htags⟩ := hlists.listed
      refine ⟨property, ?_, htags⟩
      have hlt := (List.getElem?_eq_some_iff.1 hget).1
      exact (List.getElem?_append_left hlt).trans hget
  | tag owner target span description => exact hlists.addTag owner target span description

theorem foldl_perform (hlists : arena.Lists start position later) (calls : List Call) :
    (calls.foldl Arena.perform arena).Lists start position (later ++ arena.addedTags calls) := by
  induction calls generalizing arena later with
  | nil => rwa [addedTags, List.append_nil]
  | cons call calls ih =>
      rw [addedTags, ← List.append_assoc]
      exact ih (hlists.perform call)

theorem propertyTags_eq (hlists : arena.Lists start position later) (hindexed : arena.Indexed) :
    arena.propertyTags position = .ok ((later.filter (Names position ·)).map Prod.fst) := by
  obtain ⟨property, hget, htags⟩ := hlists.listed
  have hpicked : (property.tags.filterMap (arena.tags[·]?)) =
      (later.filter (Names position ·)).map Prod.fst := by
    rw [htags]
    apply hindexed.tags.filterMap_map
    intro tag hmem
    obtain ⟨added, hadded, rfl⟩ := List.mem_map.1 hmem
    rw [hlists.tags]
    exact List.mem_append_right _ (List.mem_map_of_mem (List.mem_filter.1 hadded).1)
  rw [propertyTags, property_eq_ok_iff.2 hget, ← hpicked]
  rfl

end Lists

/-- Every property goes back to a call, and its position is the number of properties before it. -/
theorem exists_call_of_lt {calls : List Call} {position : Nat}
    (hlt : position < (build calls).properties.length) :
    ∃ before draft after, calls = before ++ .property draft :: after ∧
      (build before).properties.length = position := by
  induction calls using List.reverseRecOn with
  | nil => cases hlt
  | append_singleton calls call ih =>
      have hearlier : position < (build calls).properties.length →
          ∃ before draft after, calls ++ [call] = before ++ .property draft :: after ∧
            (build before).properties.length = position := by
        intro hlt
        obtain ⟨before, draft, after, rfl, hposition⟩ := ih hlt
        exact ⟨before, draft, after ++ [call], by simp, hposition⟩
      rw [build_concat] at hlt
      cases call with
      | component name span kind => exact hearlier hlt
      | tag owner target span description =>
          rw [Arena.perform, length_properties_addTag] at hlt
          exact hearlier hlt
      | property draft =>
          rw [Arena.perform, properties_addProperty, List.length_append, List.length_singleton] at hlt
          rcases Nat.lt_succ_iff_lt_or_eq.1 hlt with hlt | rfl
          · exact hearlier hlt
          · exact ⟨calls, draft, [], rfl, rfl⟩

theorem lists_build (before : List Call) (draft : Property) (after : List Call) :
    (build (before ++ .property draft :: after)).Lists (build before).tags
      (build before).properties.length
      ((build (before ++ [.property draft])).addedTags after) := by
  have hlists := (lists_addProperty (build before) draft).foldl_perform after
  rw [List.nil_append] at hlists
  rw [build_append, build_concat]
  exact hlists

/-! ### Tags that belong to nothing -/

theorem addTag_eq_error_iff {arena : Arena} {owner : TagOwner} {target : String} {span : Span}
    {description : String} {fault : Fault} :
    (arena.addTag owner target span description).1 = .error fault ↔
      ∃ id, owner = .property id ∧ position? arena.properties.length id = none := by
  cases fault
  unfold addTag
  cases owner with
  | component id => simp
  | property id =>
      dsimp only
      split
      · next hposition => simp [hposition]
      · next hposition => simp [hposition]

theorem addTag_of_error {arena : Arena} {owner : TagOwner} {target : String} {span : Span}
    {description : String} {fault : Fault}
    (hfailed : (arena.addTag owner target span description).1 = .error fault) :
    (arena.addTag owner target span description).2 = { arena with
      tags := arena.tags ++ [⟨arena.tags.length, owner, target, span, description, none⟩] } := by
  obtain ⟨id, rfl, hposition⟩ := addTag_eq_error_iff.1 hfailed
  unfold addTag
  dsimp only
  split
  · next hsome => rw [hposition] at hsome; cases hsome
  · rfl

end Arena

/-- **Indexes agree with scans.** After any calls, failed ones included, every declaration stands at
its id, a name leads to the least component of that name, and an owner to all its properties in the
order of their ids. A property lists the tags that name it and were added after it, also where an
earlier tag had named its id already. A tag names a property by its id, or by its place from the end
of the properties that there are when the tag is added. A tag fails exactly if it names a property
that does not exist then, and nothing changes but the list of tags, which ends with it. -/
theorem indexes_agree_with_scans (calls : List Arena.Call) :
    let arena := Arena.build calls
    (∀ (position : Nat) component,
      arena.components[position]? = some component → component.id = position) ∧
    (∀ (position : Nat) property,
      arena.properties[position]? = some property → property.id = position) ∧
    (∀ (position : Nat) tag, arena.tags[position]? = some tag → tag.id = position) ∧
    (∀ name, arena.componentNamed? name = arena.components.find? (·.name = name) ∧
      ∀ found, arena.componentNamed? name = some found →
        ∀ other ∈ arena.components, other.name = name → found.id ≤ other.id) ∧
    (∀ owner, arena.propertiesOf owner = arena.properties.filter (·.owner = some owner) ∧
      ∀ name, arena.propertyOf? owner name =
        (arena.properties.filter (·.owner = some owner)).find? (·.name = name)) ∧
    (∀ id < arena.properties.length, ∃ before draft after,
      calls = before ++ .property draft :: after ∧
      (Arena.build before).properties.length = id ∧
      let later := (Arena.build (before ++ [.property draft])).addedTags after
      arena.tags = (Arena.build before).tags ++ later.map Prod.fst ∧
      arena.propertyTags id = .ok ((later.filter fun (tag, count) =>
        tag.owner = .property id ∨ tag.owner = .property (id - count)).map Prod.fst)) ∧
    ∀ owner target span description,
      ((∃ fault, (arena.addTag owner target span description).1 = .error fault) ↔
        ∃ id : Int, owner = .property id ∧
          (id < -arena.properties.length ∨ arena.properties.length ≤ id)) ∧
      ∀ fault, (arena.addTag owner target span description).1 = .error fault →
        (arena.addTag owner target span description).2 = { arena with
          tags := arena.tags ++
            [⟨arena.tags.length, owner, target, span, description, none⟩] } := by
  intro arena
  have hindexed : arena.Indexed := Arena.indexed_build calls
  refine ⟨hindexed.components, hindexed.properties, hindexed.tags, ?_, ?_, ?_, ?_⟩
  · intro name
    exact ⟨hindexed.componentNamed?_eq name, fun found => hindexed.least_of_componentNamed?⟩
  · intro owner
    refine ⟨hindexed.propertiesOf_eq owner, ?_⟩
    intro name
    rw [Arena.propertyOf?, hindexed.propertiesOf_eq]
  · intro id hlt
    obtain ⟨before, draft, after, hcalls, rfl⟩ := Arena.exists_call_of_lt hlt
    have hlists := Arena.lists_build before draft after
    rw [← hcalls] at hlists
    exact ⟨before, draft, after, hcalls, rfl, hlists.tags, hlists.propertyTags_eq hindexed⟩
  · intro owner target span description
    refine ⟨?_, fun fault => Arena.addTag_of_error⟩
    simp only [← Arena.position?_eq_none_iff]
    constructor
    · rintro ⟨fault, hfailed⟩
      exact Arena.addTag_eq_error_iff.1 hfailed
    · intro hmissing
      exact ⟨.outOfRange, Arena.addTag_eq_error_iff.2 hmissing⟩

/-- A tag on the property 0 before there is one, that property, and another tag on it. -/
def orphanCalls : List Arena.Call :=
  [.tag (.property 0) "Early" ⟨"box.tsx", 1, 1, 0, 0⟩ "",
    .property { id := 0, name := "children", owner := some 3, renderable := true },
    .tag (.property 0) "Late" ⟨"box.tsx", 2, 1, 0, 0⟩ ""]

/-- Both tags are stored, and the property lists the second one only. -/
theorem orphan_tag_unlisted :
    0 < (Arena.build orphanCalls).properties.length ∧
      ∃ listed, (Arena.build orphanCalls).propertyTags 0 = .ok listed ∧
        (Arena.build orphanCalls).tags.map Tag.target = ["Early", "Late"] ∧
        listed.map Tag.target = ["Late"] := by
  obtain ⟨before, draft, after, -, -, -, hlisted⟩ :=
    (indexes_agree_with_scans orphanCalls).2.2.2.2.2.1 0 (by decide)
  have htargets : ((Arena.build orphanCalls).propertyTags (0 : Nat)).toOption.map
      (·.map Tag.target) = some ["Late"] := by decide
  rw [hlisted] at htargets
  exact ⟨by decide, _, hlisted, by decide, Option.some.inj htargets⟩

/-- Two properties, and a tag on the last of them, counted from the end. -/
def backwardCalls : List Arena.Call :=
  [.property { id := 0, name := "header", owner := some 0, renderable := true },
    .property { id := 0, name := "children", owner := some 0, renderable := true },
    .tag (.property (-1)) "Card" ⟨"box.tsx", 1, 1, 0, 0⟩ ""]

/-- The second property lists the tag, which does not have the id of that property as its owner. -/
theorem backward_tag_listed :
    (Arena.build backwardCalls).tags.filter (·.owner = .property 1) = [] ∧
      ∃ tag, (Arena.build backwardCalls).propertyTags 1 = .ok [tag] ∧
        tag.owner = .property (-1) :=
  ⟨by decide, _, rfl, rfl⟩

end RenderAudit
