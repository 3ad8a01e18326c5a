import Mathlib.Data.List.Flatten
import Mathlib.Data.List.Perm.Basic
import RenderAudit.Analysis

/-!
# Content by regions

The content of a body falls into regions: what stands side by side and ends up in one place. Content
that is supplied to a slot or handed over starts a region of its own. Whatever is gathered from
content is gathered region by region, up to order. So a property is forwarded to a slot exactly if
it stands in a region of that slot, which is what a supply group lists; and each instantiation is
either direct or a member of one group.
-/

namespace RenderAudit

/-- Pieces of content that stand side by side, and where they end up. -/
structure Region where
  placement : Placement
  contents : List Content

namespace Content

/-- The region that a piece of content starts. -/
def region? : Content → Option Region
  | .supply slot _ inner => some ⟨.slot slot, inner⟩
  | .handOver inner => some ⟨.outOfSight, inner⟩
  | _ => none

/-- The regions below some content, at any depth. -/
def innerRegions (placement : Placement) (contents : List Content) : List Region :=
  collectAll (fun _ content => content.region?.toList) placement contents

def regions (placement : Placement) (contents : List Content) : List Region :=
  ⟨placement, contents⟩ :: innerRegions placement contents

/-- Gathers from the pieces of a region, without what is in them. -/
def gatherFrom {α : Type} (gather : Placement → Content → List α) (region : Region) : List α :=
  region.contents.flatMap (gather region.placement)

section Collecting

variable {α : Type} (gather : Placement → Content → List α)

mutual

theorem collect_perm (placement : Placement) :
    (content : Content) → (collect gather placement content).Perm
      (gather placement content ++
        (collect (fun _ content => content.region?.toList) placement content).flatMap
          (gatherFrom gather))
  | .supply slot span inner => by
      rw [collect, collect]
      exact (collectAll_perm (.slot slot) inner).append_left _
  | .handOver inner => by
      rw [collect, collect]
      exact (collectAll_perm .outOfSight inner).append_left _
  | .instantiation value => by simp [collect, region?]
  | .prop name => by simp [collect, region?]
  | .broken fault => by simp [collect, region?]

/-- What is gathered from all content is what is gathered from its regions. -/
theorem collectAll_perm (placement : Placement) :
    (contents : List Content) → (collectAll gather placement contents).Perm
      ((regions placement contents).flatMap (gatherFrom gather))
  | [] => by simp [regions, innerRegions, collectAll, gatherFrom]
  | content :: rest => by
      have hcontent := collect_perm placement content
      have hrest := collectAll_perm placement rest
      rw [collectAll]
      refine (hcontent.append hrest).trans ?_
      simp only [regions, innerRegions, collectAll, gatherFrom, List.flatMap_cons,
        List.flatMap_append, List.append_assoc]
      exact (List.perm_append_comm_assoc ..).append_left _

end

variable {gather}

theorem collectAll_append {placement : Placement} {first second : List Content} :
    collectAll gather placement (first ++ second) =
      collectAll gather placement first ++ collectAll gather placement second := by
  induction first with
  | nil => rfl
  | cons content rest ih => rw [List.cons_append, collectAll, collectAll, ih, List.append_assoc]

theorem mem_collectAll_iff_region {placement : Placement} {contents : List Content} {item : α} :
    item ∈ collectAll gather placement contents ↔
      ∃ region ∈ regions placement contents, ∃ content ∈ region.contents,
        item ∈ gather region.placement content := by
  rw [(collectAll_perm gather placement contents).mem_iff]
  simp only [List.mem_flatMap, gatherFrom]

end Collecting

section Placeless

variable {α : Type} {gather : Content → List α} {placement : Placement}

theorem collectAll_placement (placement placement' : Placement) (contents : List Content) :
    collectAll (fun _ => gather) placement contents =
      collectAll (fun _ => gather) placement' contents := by
  induction contents with
  | nil => rfl
  | cons content rest ih =>
      rw [collectAll, collectAll, ih]
      cases content <;> rfl

theorem collectAll_handOver {inner : List Content} :
    collectAll (fun _ => gather) placement [.handOver inner] =
      gather (.handOver inner) ++ collectAll (fun _ => gather) placement inner := by
  rw [collectAll_placement placement .outOfSight inner]
  exact List.append_nil _

theorem collectAll_supply {slot : Slot} {span : Span} {inner : List Content} :
    collectAll (fun _ => gather) placement [.supply slot span inner] =
      gather (.supply slot span inner) ++ collectAll (fun _ => gather) placement inner := by
  rw [collectAll_placement placement (.slot slot) inner]
  exact List.append_nil _

end Placeless

/-! ### Properties and supplies -/

section Uses

variable {contents : List Content}

theorem mem_uses_iff {name : String} {use : PropUse} :
    (name, use) ∈ uses contents ↔
      ∃ region ∈ regions .own contents, .prop name ∈ region.contents ∧
        region.placement.use = use := by
  rw [uses, mem_collectAll_iff_region]
  apply exists_congr
  intro region
  apply and_congr_right
  intro _
  constructor
  · rintro ⟨content, hcontent, hitem⟩
    cases content with
    | prop other =>
        cases List.mem_singleton.1 hitem
        exact ⟨hcontent, rfl⟩
    | _ => cases hitem
  · rintro ⟨hprop, rfl⟩
    exact ⟨.prop name, hprop, List.mem_singleton_self _⟩

theorem mem_supplies_iff {slot : Slot} {span : Span} {inner : List Content} :
    (slot, span, inner) ∈ supplies contents ↔
      ∃ region ∈ regions .own contents, .supply slot span inner ∈ region.contents := by
  rw [supplies, mem_collectAll_iff_region]
  apply exists_congr
  intro region
  apply and_congr_right
  intro _
  constructor
  · rintro ⟨content, hcontent, hitem⟩
    cases content with
    | supply other place within =>
        cases List.mem_singleton.1 hitem
        exact hcontent
    | _ => cases hitem
  · intro hsupply
    exact ⟨_, hsupply, List.mem_singleton_self _⟩

/-- The regions of slots are those of the supplies. -/
theorem mem_regions_slot_iff {slot : Slot} {inner : List Content} :
    ⟨.slot slot, inner⟩ ∈ regions .own contents ↔
      ∃ span, (slot, span, inner) ∈ supplies contents := by
  simp only [mem_supplies_iff]
  rw [regions, List.mem_cons, innerRegions, mem_collectAll_iff_region]
  constructor
  · rintro (hroot | ⟨region, hregion, content, hcontent, hinner⟩)
    · cases hroot
    · cases content with
      | supply other span within =>
          cases List.mem_singleton.1 hinner
          exact ⟨span, region, hregion, hcontent⟩
      | handOver within => cases List.mem_singleton.1 hinner
      | _ => cases hinner
  · rintro ⟨span, region, hregion, hsupply⟩
    exact .inr ⟨region, hregion, _, hsupply, List.mem_singleton_self _⟩

theorem mem_filterMap_prop?_iff {name : String} :
    name ∈ contents.filterMap prop? ↔ .prop name ∈ contents := by
  rw [List.mem_filterMap]
  constructor
  · rintro ⟨content, hcontent, hname⟩
    cases content with
    | prop other =>
        cases hname
        exact hcontent
    | _ => cases hname
  · intro hprop
    exact ⟨_, hprop, rfl⟩

/-- A property is forwarded to a slot exactly if a group for that slot passes it on. -/
theorem mem_uses_forward_iff {name : String} {slot : Slot} (first : Nat) :
    (name, .forward slot) ∈ uses contents ↔
      ∃ group ∈ groups first contents, group.slot = slot ∧ name ∈ group.forwards := by
  rw [mem_uses_iff]
  constructor
  · rintro ⟨⟨placement, inner⟩, hregion, hprop, huse⟩
    cases placement with
    | slot supplied =>
        cases huse
        obtain ⟨span, hsupply⟩ := mem_regions_slot_iff.1 hregion
        rw [← List.zipIdx_map_fst first (supplies contents)] at hsupply
        obtain ⟨⟨_, id⟩, hentry, rfl⟩ := List.mem_map.1 hsupply
        exact ⟨_, List.mem_map_of_mem hentry, rfl, mem_filterMap_prop?_iff.2 hprop⟩
    | own => cases huse
    | outOfSight => cases huse
  · rintro ⟨group, hgroup, rfl, hname⟩
    obtain ⟨⟨⟨slot, span, inner⟩, id⟩, hentry, rfl⟩ := List.mem_map.1 hgroup
    have hsupply := List.fst_mem_of_mem_zipIdx hentry
    exact ⟨_, mem_regions_slot_iff.2 ⟨span, hsupply⟩, mem_filterMap_prop?_iff.1 hname, rfl⟩

/-- What is rendered or lost from sight is not seen at a slot. -/
theorem slot?_of_mem_uses {name : String} {use : PropUse} (hmem : (name, use) ∈ uses contents) :
    (∃ slot, use = .forward slot) ∨ use = .render none ∨ use = .unknown none := by
  obtain ⟨region, -, -, rfl⟩ := mem_uses_iff.1 hmem
  cases region.placement with
  | own => exact .inr (.inl rfl)
  | slot supplied => exact .inl ⟨supplied, rfl⟩
  | outOfSight => exact .inr (.inr rfl)

end Uses

end Content

/-! ### Instantiations -/

namespace Region

/-- What a region instantiates for the component itself. -/
def shown (region : Region) : List Instantiation :=
  match region.placement with
  | .slot _ => []
  | .own | .outOfSight => region.contents.filterMap Content.instantiation?

/-- What a region instantiates for a slot. -/
def supplied (region : Region) : List Instantiation :=
  match region.placement with
  | .slot _ => region.contents.filterMap Content.instantiation?
  | .own | .outOfSight => []

theorem shown_append_supplied (region : Region) :
    region.shown ++ region.supplied = region.contents.filterMap Content.instantiation? := by
  obtain ⟨placement, contents⟩ := region
  cases placement with
  | slot supplied => rfl
  | own => exact List.append_nil _
  | outOfSight => exact List.append_nil _

end Region

namespace Content

variable (contents : List Content)

/-- All that content instantiates, wherever it ends up. -/
def instantiations (contents : List Content) : List Instantiation :=
  collectAll (fun _ content => content.instantiation?.toList) .own contents

theorem direct_perm : (direct contents).Perm ((regions .own contents).flatMap Region.shown) := by
  refine (collectAll_perm _ .own contents).trans (List.Perm.flatMap_left _ ?_)
  rintro ⟨placement, inner⟩ -
  rw [gatherFrom, Region.shown, List.filterMap_eq_flatMap_toList]
  cases placement with
  | slot supplied => simp
  | own =>
      refine List.Perm.flatMap_left _ fun content _ => ?_
      cases content <;> rfl
  | outOfSight =>
      refine List.Perm.flatMap_left _ fun content _ => ?_
      cases content <;> rfl

theorem flatMap_members_groups (first : Nat) :
    (groups first contents).flatMap (·.members) =
      (supplies contents).flatMap (·.2.2.filterMap instantiation?) := by
  rw [← List.zipIdx_map_fst first (supplies contents), List.flatMap_map, groups, List.flatMap_map]

theorem members_perm (first : Nat) :
    ((groups first contents).flatMap (·.members)).Perm
      ((regions .own contents).flatMap Region.supplied) := by
  have hinner : (innerRegions .own contents).Perm
      ((regions .own contents).flatMap (gatherFrom fun _ content => content.region?.toList)) :=
    collectAll_perm _ .own contents
  have hsupplies : ((supplies contents).flatMap (·.2.2.filterMap instantiation?)).Perm
      (((regions .own contents).flatMap
        (gatherFrom fun _ content => content.region?.toList)).flatMap Region.supplied) := by
    refine ((collectAll_perm _ .own contents).flatMap_right _).trans (.of_eq ?_)
    simp only [gatherFrom, List.flatMap_assoc]
    congr! 4 with region content
    cases content <;> simp [region?, Region.supplied]
  rw [flatMap_members_groups]
  -- the outermost region is not that of a slot
  have houter : (regions .own contents).flatMap Region.supplied =
      (innerRegions .own contents).flatMap Region.supplied := rfl
  rw [houter]
  exact hsupplies.trans (hinner.flatMap_right Region.supplied).symm

/-- Each instantiation is either direct or a member of one group. -/
theorem direct_append_members_perm (first : Nat) :
    (direct contents ++ (groups first contents).flatMap (·.members)).Perm
      (instantiations contents) := by
  have hall : (instantiations contents).Perm ((regions .own contents).flatMap
      fun region => region.shown ++ region.supplied) := by
    refine (collectAll_perm _ .own contents).trans (List.Perm.flatMap_left _ ?_)
    intro region _
    rw [Region.shown_append_supplied, List.filterMap_eq_flatMap_toList, gatherFrom]
  exact ((direct_perm contents).append (members_perm contents first)).trans
    ((List.flatMap_append_perm _ _ _).trans hall.symm)

end Content

end RenderAudit
