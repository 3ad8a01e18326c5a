import RenderAudit.Forwarding
import RenderAudit.Proofs.Steps

/-!
# What the forwarding walk meets

The walk follows content depth first and refuses a slot that is already on its path. `Enters` names
the slots that it looks into. A slot that some walk reaches is looked into after no more steps,
whatever cycles there are (`enters_of_steps`): where the path stands in the way, a shorter walk
starts on the path itself.
-/

namespace RenderAudit

/-- The owner of `slot` was traced and uses the property in this way. -/
def UsedAs (usages : Usages) (slot : Slot) (use : PropUse) : Prop :=
  ∃ usage, usages.get? slot.owner = some usage ∧ usage.walked = true ∧
    (slot.property, use) ∈ usage.uses

/-- Content of `slot` is passed on to `next`. -/
def Forwards (usages : Usages) (slot next : Slot) : Prop :=
  UsedAs usages slot (.forward next)

/-- Content of `slot` is rendered by the owner of `slot` itself. -/
def Renders (usages : Usages) (slot : Slot) : Prop :=
  ∃ seenAt, UsedAs usages slot (.render seenAt)

/-- Content of `slot` gets out of sight: the owner was not traced, or hands it to something that
cannot be. -/
def Obscures (usages : Usages) (slot : Slot) : Prop :=
  usages.walked? slot.owner = none ∨ ∃ seenAt, UsedAs usages slot (.unknown seenAt)

theorem usedAs_iff_mem_usesOf {usages : Usages} {slot : Slot} {usage : ComponentUsage}
    (hwalked : usages.walked? slot.owner = some usage) {use : PropUse} :
    UsedAs usages slot use ↔ use ∈ usage.usesOf slot.property := by
  obtain ⟨hget, htraced⟩ := Usages.walked?_eq_some_iff.1 hwalked
  simp [UsedAs, hget, htraced]

theorem not_usedAs_of_walked?_eq_none {usages : Usages} {slot : Slot}
    (huntraced : usages.walked? slot.owner = none) (use : PropUse) : ¬UsedAs usages slot use := by
  rintro ⟨usage, hget, htraced, -⟩
  have hwalked := Usages.walked?_eq_some_iff.2 ⟨hget, htraced⟩
  rw [huntraced] at hwalked
  cases hwalked

/-! ### Observations of a resolution

The walk merges what it finds. An observation that a merged resolution allows exactly if one of its
parts does can be read off slot by slot. -/

namespace SlotResolution

/-- `Seen` holds of a merged resolution exactly if it holds of a part. -/
def Additive (Seen : SlotResolution → Prop) : Prop :=
  ∀ first second, Seen (first.merge second) ↔ Seen first ∨ Seen second

/-- The content is rendered at `depth` or before. -/
def RenderedWithin (depth : Nat) (resolution : SlotResolution) : Prop :=
  ∃ d, resolution.depth = some d ∧ d ≤ depth

theorem additive_exceeded : Additive (·.exceeded = true) := by
  intro first second
  simp [merge]

theorem additive_unknown : Additive (·.unknown = true) := by
  intro first second
  simp [merge]

theorem mem_foldl_addReached {slot : Slot} {reached more : List Slot} :
    slot ∈ more.foldl addReached reached ↔ slot ∈ reached ∨ slot ∈ more := by
  induction more generalizing reached with
  | nil => simp
  | cons head rest ih =>
      rw [List.foldl_cons, ih]
      have hhead : slot ∈ addReached reached head ↔ slot ∈ reached ∨ slot = head := by
        unfold addReached
        split
        · next hmem =>
          have hmem : head ∈ reached := by simpa using hmem
          constructor
          · exact Or.inl
          · rintro (hslot | rfl)
            · exact hslot
            · exact hmem
        · simp
      rw [hhead, List.mem_cons, or_assoc]

theorem additive_reached (slot : Slot) : Additive (slot ∈ ·.reached) := by
  intro first second
  exact mem_foldl_addReached

theorem additive_renderedWithin (depth : Nat) : Additive (RenderedWithin depth) := by
  rintro ⟨first, -, -, -⟩ ⟨second, -, -, -⟩
  unfold RenderedWithin merge
  cases first with
  | none => simp [shorter]
  | some a =>
      cases second with
      | none => simp [shorter]
      | some b =>
          simp only [shorter, Option.some.injEq, exists_eq_left']
          split <;> omega

theorem Additive.foldl_merge {Seen : SlotResolution → Prop} (hadditive : Additive Seen)
    (first : SlotResolution) (rest : List SlotResolution) :
    Seen (rest.foldl merge first) ↔ Seen first ∨ ∃ resolution ∈ rest, Seen resolution := by
  induction rest generalizing first with
  | nil => simp
  | cons head rest ih =>
      rw [List.foldl_cons, ih, hadditive first head, or_assoc]
      simp only [List.mem_cons, exists_eq_or_imp]

/-- What one use of a property adds to the resolution of its slot. -/
def ofUse (usages : Usages) (remaining depth : Nat) (path : List Slot) : PropUse → SlotResolution
  | .render _ => ⟨some depth, false, false, []⟩
  | .unknown _ => ⟨none, true, false, []⟩
  | .forward next => follow usages remaining (depth + 1) path next

end SlotResolution

section Follow

variable {usages : Usages} {remaining depth : Nat} {path : List Slot} {slot : Slot}

theorem follow_of_mem_path (hmem : slot ∈ path) :
    follow usages (remaining + 1) depth path slot = .cutOff slot := by
  rw [follow, if_pos (by simpa using hmem)]

theorem follow_of_untraced (hnew : slot ∉ path) (huntraced : usages.walked? slot.owner = none) :
    follow usages (remaining + 1) depth path slot = .untraced slot := by
  rw [follow, if_neg (by simpa using hnew), huntraced]

theorem follow_of_walked (hnew : slot ∉ path) {usage : ComponentUsage}
    (hwalked : usages.walked? slot.owner = some usage) :
    follow usages (remaining + 1) depth path slot =
      ((usage.usesOf slot.property).map (SlotResolution.ofUse usages remaining depth
        (slot :: path))).foldl SlotResolution.merge (.dropped slot) := by
  rw [follow, if_neg (by simpa using hnew), hwalked, List.foldl_map]
  refine congrArg (fun add => List.foldl add _ _) ?_
  funext resolution use
  cases use with
  | forward next => rfl
  | render seenAt => rfl
  | unknown seenAt =>
      obtain ⟨found, unknown, exceeded, reached⟩ := resolution
      cases found <;> simp [SlotResolution.ofUse, SlotResolution.merge, SlotResolution.shorter]

/-- An observation of the walk through a traced slot comes from the slot itself, from the way its
owner uses it, or from a slot that the content is forwarded to. -/
theorem SlotResolution.Additive.follow_iff {Seen : SlotResolution → Prop}
    (hadditive : SlotResolution.Additive Seen) (hnew : slot ∉ path) {usage : ComponentUsage}
    (hwalked : usages.walked? slot.owner = some usage) :
    Seen (follow usages (remaining + 1) depth path slot) ↔
      Seen (.dropped slot) ∨ (Renders usages slot ∧ Seen ⟨some depth, false, false, []⟩) ∨
        ((∃ seenAt, UsedAs usages slot (.unknown seenAt)) ∧ Seen ⟨none, true, false, []⟩) ∨
        ∃ next, Forwards usages slot next ∧
          Seen (follow usages remaining (depth + 1) (slot :: path) next) := by
  rw [follow_of_walked hnew hwalked, hadditive.foldl_merge]
  apply or_congr_right
  constructor
  · rintro ⟨resolution, hresolution, hseen⟩
    obtain ⟨use, hmem, rfl⟩ := List.mem_map.1 hresolution
    have huse := (usedAs_iff_mem_usesOf hwalked).2 hmem
    cases use with
    | render seenAt => exact .inl ⟨⟨seenAt, huse⟩, hseen⟩
    | unknown seenAt => exact .inr (.inl ⟨⟨seenAt, huse⟩, hseen⟩)
    | forward next => exact .inr (.inr ⟨next, huse, hseen⟩)
  · have hadd : ∀ use, UsedAs usages slot use →
        Seen (SlotResolution.ofUse usages remaining depth (slot :: path) use) →
        ∃ resolution ∈ (usage.usesOf slot.property).map
          (SlotResolution.ofUse usages remaining depth (slot :: path)), Seen resolution :=
      fun use huse hseen =>
        ⟨_, List.mem_map_of_mem ((usedAs_iff_mem_usesOf hwalked).1 huse), hseen⟩
    rintro (⟨⟨seenAt, huse⟩, hseen⟩ | ⟨⟨seenAt, huse⟩, hseen⟩ | ⟨next, huse, hseen⟩)
    · exact hadd (.render seenAt) huse hseen
    · exact hadd (.unknown seenAt) huse hseen
    · exact hadd (.forward next) huse hseen

end Follow

/-! ### Slots that the walk looks into -/

/-- The walk looks into `last` after `n` steps from `slot`, with at most `remaining` slots in all
and none of those on `path`. -/
def Enters (usages : Usages) : Nat → List Slot → Slot → Nat → Slot → Prop
  | 0, _, _, _, _ => False
  | _ + 1, path, slot, 0, last => slot ∉ path ∧ slot = last
  | remaining + 1, path, slot, n + 1, last =>
      slot ∉ path ∧ ∃ next, Forwards usages slot next ∧
        Enters usages remaining (slot :: path) next n last

section Enters

variable {usages : Usages} {remaining n : Nat} {path : List Slot} {slot last : Slot}

theorem Enters.notMem_path (henters : Enters usages remaining path slot n last) : slot ∉ path := by
  cases remaining with
  | zero => exact henters.elim
  | succ remaining =>
      cases n with
      | zero => exact henters.1
      | succ n => exact henters.1

theorem Enters.steps (henters : Enters usages remaining path slot n last) :
    n < remaining ∧ Steps (Forwards usages) n slot last := by
  induction remaining generalizing path slot n with
  | zero => exact henters.elim
  | succ remaining ih =>
      cases n with
      | zero => exact ⟨Nat.succ_pos remaining, henters.2⟩
      | succ n =>
          obtain ⟨-, next, hforwards, hrest⟩ := henters
          obtain ⟨hlt, hsteps⟩ := ih hrest
          exact ⟨Nat.succ_lt_succ hlt, next, hforwards, hsteps⟩

/-- A slot at the end of a walk is looked into after no more steps, unless a slot on the path is as
near to it. -/
theorem enters_or_path_of_steps (remaining : Nat) (path : List Slot) (hlt : n < remaining)
    (hsteps : Steps (Forwards usages) n slot last) :
    (∃ m ≤ n, Enters usages remaining path slot m last) ∨
      ∃ start ∈ path, ∃ m ≤ n, Steps (Forwards usages) m start last := by
  -- On the length of the walk: what is left after a loop is cut out may be any shorter walk.
  induction n using Nat.strongRecOn generalizing remaining path slot with
  | ind n ih =>
      obtain ⟨remaining, rfl⟩ : ∃ k, remaining = k + 1 := ⟨remaining - 1, by omega⟩
      by_cases hmem : slot ∈ path
      · exact .inr ⟨slot, hmem, n, Nat.le_refl n, hsteps⟩
      cases n with
      | zero => exact .inl ⟨0, Nat.le_refl 0, hmem, hsteps⟩
      | succ n =>
          obtain ⟨next, hforwards, hrest⟩ := hsteps
          rcases ih n (Nat.lt_succ_self n) remaining (slot :: path) (by omega) hrest with
            ⟨m, hm, henters⟩ | ⟨start, hstart, m, hm, hshort⟩
          · exact .inl ⟨m + 1, by omega, hmem, next, hforwards, henters⟩
          -- The walk comes back to a slot on the path; if that is `slot`, the loop is left out.
          · rcases List.mem_cons.1 hstart with rfl | hstart
            · rcases ih m (by omega) (remaining + 1) path (by omega) hshort with
                ⟨k, hk, henters⟩ | ⟨start', hstart', k, hk, hshort'⟩
              · exact .inl ⟨k, by omega, henters⟩
              · exact .inr ⟨start', hstart', k, by omega, hshort'⟩
            · exact .inr ⟨start, hstart, m, by omega, hshort⟩

theorem enters_of_steps (hlt : n < remaining) (hsteps : Steps (Forwards usages) n slot last) :
    ∃ m ≤ n, Enters usages remaining [] slot m last := by
  rcases enters_or_path_of_steps remaining [] hlt hsteps with henters | ⟨start, hstart, -⟩
  · exact henters
  · cases hstart

end Enters

end RenderAudit
