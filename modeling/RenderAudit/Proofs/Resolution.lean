import Mathlib.Order.Bounds.Basic
import RenderAudit.Proofs.Forwarding

/-!
# What a resolution says

Each part of a resolution has a meaning in terms of walks over the forwarding relation alone.
Content is rendered at the depth of a shortest walk to a rendering slot, it is obscured within the
bound, it reaches the slots within the bound, and the bound is exceeded exactly if some walk is as
long as the bound. The visited path of the search appears in none of these.
-/

namespace RenderAudit

open SlotResolution

section Follow

variable {usages : Usages} {remaining depth : Nat} {path : List Slot} {slot : Slot}

/-- What looking into a slot shows: it cannot be traced, it renders, or it hands over. -/
def Shows (Seen : SlotResolution → Prop) (usages : Usages) (depth : Nat) (slot : Slot) : Prop :=
  (usages.walked? slot.owner = none ∧ Seen (.untraced slot)) ∨
    (Renders usages slot ∧ Seen ⟨some depth, false, false, []⟩) ∨
    ((∃ seenAt, UsedAs usages slot (.unknown seenAt)) ∧ Seen ⟨none, true, false, []⟩)

/-- An observation that neither a dropped nor a refused slot allows is made at a slot that the walk
looks into. -/
theorem SlotResolution.Additive.follow_iff_enters {Seen : SlotResolution → Prop}
    (hadditive : Additive Seen) (hdropped : ∀ slot, ¬Seen (.dropped slot))
    (hcutOff : ∀ slot, ¬Seen (.cutOff slot)) :
    Seen (follow usages remaining depth path slot) ↔
      ∃ n last, Enters usages remaining path slot n last ∧ Shows Seen usages (depth + n) last := by
  induction remaining generalizing depth path slot with
  | zero =>
      constructor
      · intro hseen
        exact absurd hseen (hcutOff slot)
      · rintro ⟨n, last, henters, -⟩
        exact henters.elim
  | succ remaining ih =>
      by_cases hmem : slot ∈ path
      · rw [follow_of_mem_path hmem]
        constructor
        · intro hseen
          exact absurd hseen (hcutOff slot)
        · rintro ⟨n, last, henters, -⟩
          exact absurd hmem henters.notMem_path
      cases hwalked : usages.walked? slot.owner with
      | none =>
          rw [follow_of_untraced hmem hwalked]
          constructor
          · intro hseen
            exact ⟨0, slot, ⟨hmem, rfl⟩, .inl ⟨hwalked, hseen⟩⟩
          · rintro ⟨n, last, henters, hshows⟩
            cases n with
            | zero =>
                obtain ⟨-, rfl⟩ := henters
                rcases hshows with ⟨-, hseen⟩ | ⟨⟨seenAt, huse⟩, -⟩ | ⟨⟨seenAt, huse⟩, -⟩
                · exact hseen
                · exact absurd huse (not_usedAs_of_walked?_eq_none hwalked _)
                · exact absurd huse (not_usedAs_of_walked?_eq_none hwalked _)
            | succ n =>
                obtain ⟨-, next, hforwards, -⟩ := henters
                exact absurd hforwards (not_usedAs_of_walked?_eq_none hwalked _)
      | some usage =>
          rw [hadditive.follow_iff hmem hwalked]
          constructor
          · rintro (hseen | hrenders | hlost | ⟨next, hforwards, hseen⟩)
            · exact absurd hseen (hdropped slot)
            · exact ⟨0, slot, ⟨hmem, rfl⟩, .inr (.inl hrenders)⟩
            · exact ⟨0, slot, ⟨hmem, rfl⟩, .inr (.inr hlost)⟩
            · obtain ⟨n, last, henters, hshows⟩ := ih.1 hseen
              refine ⟨n + 1, last, ⟨hmem, next, hforwards, henters⟩, ?_⟩
              rwa [Nat.add_right_comm] at hshows
          · rintro ⟨n, last, henters, hshows⟩
            cases n with
            | zero =>
                obtain ⟨-, rfl⟩ := henters
                rcases hshows with ⟨huntraced, -⟩ | hrenders | hlost
                · rw [hwalked] at huntraced
                  cases huntraced
                · exact .inr (.inl hrenders)
                · exact .inr (.inr (.inl hlost))
            | succ n =>
                obtain ⟨-, next, hforwards, henters⟩ := henters
                refine .inr (.inr (.inr ⟨next, hforwards, ih.2 ⟨n, last, henters, ?_⟩⟩))
                rwa [Nat.add_right_comm]

theorem follow_unknown_iff :
    (follow usages remaining depth path slot).unknown = true ↔
      ∃ n last, Enters usages remaining path slot n last ∧ Obscures usages last := by
  rw [additive_unknown.follow_iff_enters (by simp [dropped]) (by simp [cutOff])]
  simp [Shows, Obscures, untraced]

theorem follow_renderedWithin_iff {limit : Nat} :
    RenderedWithin limit (follow usages remaining depth path slot) ↔
      ∃ n last, Enters usages remaining path slot n last ∧ Renders usages last ∧
        depth + n ≤ limit := by
  rw [(additive_renderedWithin limit).follow_iff_enters (by simp [dropped, RenderedWithin])
    (by simp [cutOff, RenderedWithin])]
  simp [Shows, RenderedWithin, untraced]

/-- The walk meets its first slot and every slot that one it looks into forwards to. -/
theorem mem_reached_follow_iff {last : Slot} :
    last ∈ (follow usages remaining depth path slot).reached ↔
      last = slot ∨ ∃ n middle, Enters usages remaining path slot n middle ∧
        Forwards usages middle last := by
  induction remaining generalizing depth path slot with
  | zero => simp [follow, cutOff, Enters]
  | succ remaining ih =>
      by_cases hmem : slot ∈ path
      · rw [follow_of_mem_path hmem]
        constructor
        · intro hlast
          exact .inl (by simpa [cutOff] using hlast)
        · rintro (rfl | ⟨n, middle, henters, -⟩)
          · simp [cutOff]
          · exact absurd hmem henters.notMem_path
      cases hwalked : usages.walked? slot.owner with
      | none =>
          rw [follow_of_untraced hmem hwalked]
          constructor
          · intro hlast
            exact .inl (by simpa [untraced] using hlast)
          · rintro (rfl | ⟨n, middle, henters, hforwards⟩)
            · simp [untraced]
            · cases n with
              | zero =>
                  obtain ⟨-, rfl⟩ := henters
                  exact absurd hforwards (not_usedAs_of_walked?_eq_none hwalked _)
              | succ n =>
                  obtain ⟨-, next, hnext, -⟩ := henters
                  exact absurd hnext (not_usedAs_of_walked?_eq_none hwalked _)
      | some usage =>
          rw [(additive_reached last).follow_iff hmem hwalked]
          simp only [dropped, List.mem_singleton, List.not_mem_nil, and_false, false_or]
          apply or_congr_right
          constructor
          · rintro ⟨next, hforwards, hlast⟩
            rcases ih.1 hlast with rfl | ⟨n, middle, henters, hmiddle⟩
            · exact ⟨0, slot, ⟨hmem, rfl⟩, hforwards⟩
            · exact ⟨n + 1, middle, ⟨hmem, next, hforwards, henters⟩, hmiddle⟩
          · rintro ⟨n, middle, henters, hmiddle⟩
            cases n with
            | zero =>
                obtain ⟨-, rfl⟩ := henters
                exact ⟨last, hmiddle, ih.2 (.inl rfl)⟩
            | succ n =>
                obtain ⟨-, next, hforwards, henters⟩ := henters
                exact ⟨next, hforwards, ih.2 (.inr ⟨n, middle, henters, hmiddle⟩)⟩

theorem follow_exceeded_succ_iff :
    (follow usages (remaining + 1) depth path slot).exceeded = true ↔
      slot ∈ path ∨ ∃ next, Forwards usages slot next ∧
        (follow usages remaining (depth + 1) (slot :: path) next).exceeded = true := by
  by_cases hmem : slot ∈ path
  · rw [follow_of_mem_path hmem]
    simp [cutOff, hmem]
  cases hwalked : usages.walked? slot.owner with
  | none =>
      rw [follow_of_untraced hmem hwalked]
      simp [untraced, hmem, Forwards, not_usedAs_of_walked?_eq_none hwalked]
  | some usage =>
      rw [additive_exceeded.follow_iff hmem hwalked]
      simp [dropped, hmem]

/-- A refused slot lies on a cycle, so beyond it a walk goes on for as long as the bound allows. -/
theorem steps_of_follow_exceeded
    (hpath : ∀ start ∈ path, ∃ n, Steps (Forwards usages) (n + 1) start slot)
    (hexceeded : (follow usages remaining depth path slot).exceeded = true) :
    ∃ last, Steps (Forwards usages) remaining slot last := by
  induction remaining generalizing depth path slot with
  | zero => exact ⟨slot, rfl⟩
  | succ remaining ih =>
      rcases follow_exceeded_succ_iff.1 hexceeded with hmem | ⟨next, hforwards, hrest⟩
      · obtain ⟨n, hcycle⟩ := hpath slot hmem
        exact hcycle.endless (remaining + 1)
      · have hpath' : ∀ start ∈ slot :: path, ∃ n, Steps (Forwards usages) (n + 1) start next := by
          intro start hstart
          rcases List.mem_cons.1 hstart with rfl | hstart
          · exact ⟨0, .single hforwards⟩
          · obtain ⟨n, hsteps⟩ := hpath start hstart
            exact ⟨n + 1, hsteps.add (.single hforwards)⟩
        obtain ⟨last, hsteps⟩ := ih hpath' hrest
        exact ⟨last, next, hforwards, hsteps⟩

theorem follow_exceeded_of_steps {last : Slot}
    (hsteps : Steps (Forwards usages) remaining slot last) :
    (follow usages remaining depth path slot).exceeded = true := by
  induction remaining generalizing depth path slot with
  | zero => rfl
  | succ remaining ih =>
      obtain ⟨next, hforwards, hrest⟩ := hsteps
      exact follow_exceeded_succ_iff.2 (.inr ⟨next, hforwards, ih hrest⟩)

end Follow

section ResolveSlot

variable {usages : Usages} {bound : Nat} {slot : Slot}

theorem resolveSlot_exceeded_iff :
    (resolveSlot usages bound slot).exceeded = true ↔
      ∃ last, Steps (Forwards usages) bound slot last := by
  constructor
  · exact steps_of_follow_exceeded fun start hstart => absurd hstart List.not_mem_nil
  · rintro ⟨last, hsteps⟩
    exact follow_exceeded_of_steps hsteps

theorem resolveSlot_unknown_iff :
    (resolveSlot usages bound slot).unknown = true ↔
      ∃ n < bound, ∃ last, Steps (Forwards usages) n slot last ∧ Obscures usages last := by
  rw [resolveSlot, follow_unknown_iff]
  constructor
  · rintro ⟨n, last, henters, hobscures⟩
    exact ⟨n, henters.steps.1, last, henters.steps.2, hobscures⟩
  · rintro ⟨n, hlt, last, hsteps, hobscures⟩
    obtain ⟨m, -, henters⟩ := enters_of_steps hlt hsteps
    exact ⟨m, last, henters, hobscures⟩

theorem mem_reached_resolveSlot_iff {last : Slot} :
    last ∈ (resolveSlot usages bound slot).reached ↔
      ∃ n ≤ bound, Steps (Forwards usages) n slot last := by
  rw [resolveSlot, mem_reached_follow_iff]
  constructor
  · rintro (rfl | ⟨n, middle, henters, hforwards⟩)
    · exact ⟨0, Nat.zero_le bound, rfl⟩
    · exact ⟨n + 1, henters.steps.1, henters.steps.2.add (.single hforwards)⟩
  · rintro ⟨n, hle, hsteps⟩
    cases n with
    | zero => exact .inl (Eq.symm hsteps)
    | succ n =>
        obtain ⟨middle, hmiddle, hforwards⟩ := steps_succ_iff.1 hsteps
        obtain ⟨m, -, henters⟩ := enters_of_steps hle hmiddle
        exact .inr ⟨m, middle, henters, hforwards⟩

/-- The numbers of steps after which content of `slot` is rendered. -/
def renderingSteps (usages : Usages) (slot : Slot) : Set Nat :=
  {n | ∃ last, Steps (Forwards usages) n slot last ∧ Renders usages last}

theorem resolveSlot_renderedWithin_iff {limit : Nat} :
    RenderedWithin limit (resolveSlot usages bound slot) ↔
      ∃ n ∈ renderingSteps usages slot, n < bound ∧ n < limit := by
  rw [resolveSlot, follow_renderedWithin_iff]
  constructor
  · rintro ⟨n, last, henters, hrenders, hle⟩
    exact ⟨n, ⟨last, henters.steps.2, hrenders⟩, henters.steps.1, by omega⟩
  · rintro ⟨n, ⟨last, hsteps, hrenders⟩, hlt, hlimit⟩
    obtain ⟨m, hm, henters⟩ := enters_of_steps hlt hsteps
    exact ⟨m, last, henters, hrenders, by omega⟩

theorem resolveSlot_depth_eq_some_iff {d : Nat} :
    (resolveSlot usages bound slot).depth = some d ↔
      1 ≤ d ∧ d ≤ bound ∧ IsLeast (renderingSteps usages slot) (d - 1) := by
  constructor
  · intro hdepth
    have hwithin : RenderedWithin d (resolveSlot usages bound slot) :=
      ⟨d, hdepth, Nat.le_refl d⟩
    have hleast : ∀ n ∈ renderingSteps usages slot, n < bound → d ≤ n + 1 := by
      intro n hn hlt
      obtain ⟨e, he, hle⟩ :=
        resolveSlot_renderedWithin_iff.2 ⟨n, hn, hlt, Nat.lt_succ_self n⟩
      rw [hdepth] at he
      cases he
      exact hle
    obtain ⟨n, hn, hlt, hlimit⟩ := resolveSlot_renderedWithin_iff.1 hwithin
    obtain rfl : d = n + 1 := Nat.le_antisymm (hleast n hn hlt) hlimit
    refine ⟨Nat.succ_pos n, hlt, hn, ?_⟩
    intro m hm
    by_contra hlarge
    have hd := hleast m hm (by omega)
    omega
  · rintro ⟨hpos, hle, hmem, hlower⟩
    have hwithin : RenderedWithin d (resolveSlot usages bound slot) :=
      resolveSlot_renderedWithin_iff.2 ⟨d - 1, hmem, by omega, by omega⟩
    obtain ⟨e, he, hed⟩ := hwithin
    obtain ⟨n, hn, -, hne⟩ := resolveSlot_renderedWithin_iff.1 ⟨e, he, Nat.le_refl e⟩
    have hdn := hlower hn
    rw [he, Option.some.injEq]
    omega

theorem resolveSlot_depth_eq_none_iff :
    (resolveSlot usages bound slot).depth = none ↔
      ∀ n < bound, n ∉ renderingSteps usages slot := by
  constructor
  · intro hnone n hlt hn
    obtain ⟨d, hd, -⟩ := resolveSlot_renderedWithin_iff.2 ⟨n, hn, hlt, Nat.lt_succ_self n⟩
    rw [hnone] at hd
    cases hd
  · intro hnever
    cases hdepth : (resolveSlot usages bound slot).depth with
    | none => rfl
    | some d =>
        obtain ⟨n, hn, hlt, -⟩ := resolveSlot_renderedWithin_iff.1 ⟨d, hdepth, Nat.le_refl d⟩
        exact absurd hn (hnever n hlt)

end ResolveSlot

/-- The depth at which content is rendered is that of a shortest walk to a slot that renders it,
however cyclic the forwarding is, and there is none exactly if no such slot lies within the
bound. -/
theorem resolveSlot_depth_shortest (usages : Usages) (bound : Nat) (slot : Slot) :
    (∀ d, (resolveSlot usages bound slot).depth = some d ↔
      1 ≤ d ∧ d ≤ bound ∧
        IsLeast {n | ∃ last, Steps (Forwards usages) n slot last ∧ Renders usages last} (d - 1)) ∧
    ((resolveSlot usages bound slot).depth = none ↔
      ¬∃ n, n + 1 ≤ bound ∧ ∃ last, Steps (Forwards usages) n slot last ∧ Renders usages last) := by
  refine ⟨fun d => resolveSlot_depth_eq_some_iff, ?_⟩
  rw [resolveSlot_depth_eq_none_iff]
  constructor
  · rintro hnever ⟨n, hlt, hn⟩
    exact hnever n hlt hn
  · intro hnone n hlt hn
    exact hnone ⟨n, hlt, hn⟩

/-! ### The slots that were met -/

namespace SlotResolution

/-- Each slot that was met is listed once, `slot` in front of the others. -/
structure ListsFrom (slot : Slot) (resolution : SlotResolution) : Prop where
  nodup : resolution.reached.Nodup
  head : resolution.reached.head? = some slot

variable {slot : Slot} {resolution : SlotResolution}

theorem nodup_addReached {reached : List Slot} (hnodup : reached.Nodup) (next : Slot) :
    (addReached reached next).Nodup := by
  unfold addReached
  split
  · exact hnodup
  · next hnew =>
    have hdisjoint : next ∉ reached := by simpa using hnew
    rw [List.nodup_append]
    refine ⟨hnodup, List.nodup_singleton next, ?_⟩
    intro other hother last hlast heq
    rw [List.mem_singleton] at hlast
    exact hdisjoint (hlast ▸ heq ▸ hother)

theorem head?_addReached {reached : List Slot} (hhead : reached.head? = some slot) (next : Slot) :
    (addReached reached next).head? = some slot := by
  unfold addReached
  split
  · exact hhead
  · rw [List.head?_append, hhead]
    rfl

/-- What is merged into a resolution goes behind what it lists. -/
theorem ListsFrom.merge (hlists : resolution.ListsFrom slot) (other : SlotResolution) :
    (resolution.merge other).ListsFrom slot := by
  have hreached : (resolution.merge other).reached.Nodup ∧
      (resolution.merge other).reached.head? = some slot := by
    refine List.foldlRecOn (motive := fun reached : List Slot =>
      reached.Nodup ∧ reached.head? = some slot) other.reached addReached
      ⟨hlists.nodup, hlists.head⟩ ?_
    intro reached hreached next _
    exact ⟨nodup_addReached hreached.1 next, head?_addReached hreached.2 next⟩
  exact ⟨hreached.1, hreached.2⟩

end SlotResolution

theorem listsFrom_follow (usages : Usages) (remaining depth : Nat) (path : List Slot)
    (slot : Slot) : (follow usages remaining depth path slot).ListsFrom slot := by
  have hsingle : [slot].Nodup := List.nodup_singleton slot
  cases remaining with
  | zero => exact ⟨hsingle, rfl⟩
  | succ remaining =>
      by_cases hmem : slot ∈ path
      · rw [follow_of_mem_path hmem]
        exact ⟨hsingle, rfl⟩
      cases hwalked : usages.walked? slot.owner with
      | none =>
          rw [follow_of_untraced hmem hwalked]
          exact ⟨hsingle, rfl⟩
      | some usage =>
          -- The walk through a traced slot starts from the slot alone and only merges.
          rw [follow_of_walked hmem hwalked]
          refine List.foldlRecOn (motive := ListsFrom slot) _ _ ⟨hsingle, rfl⟩ ?_
          intro resolution hlists other _
          exact hlists.merge other

theorem obscures_iff {usages : Usages} {slot : Slot} :
    Obscures usages slot ↔
      (∀ usage, usages.get? slot.owner = some usage → usage.walked = false) ∨
        ∃ usage seenAt, usages.get? slot.owner = some usage ∧
          (slot.property, .unknown seenAt) ∈ usage.uses := by
  cases hwalked : usages.walked? slot.owner with
  | none =>
      have huntraced : ∀ usage, usages.get? slot.owner = some usage → usage.walked = false := by
        intro usage hget
        by_contra htraced
        have hsome := Usages.walked?_eq_some_iff.2 ⟨hget, by simpa using htraced⟩
        rw [hwalked] at hsome
        cases hsome
      exact iff_of_true (.inl hwalked) (.inl huntraced)
  | some usage =>
      obtain ⟨hget, htraced⟩ := Usages.walked?_eq_some_iff.1 hwalked
      simp [Obscures, UsedAs, hwalked, hget, htraced]

/-- The walk lists every slot within the bound once, its own first, those at which it was cut off
among them. What it says about untraced slots concerns the ones that it looked into, which are those
within one step less. -/
theorem resolveSlot_lists_within_bound (usages : Usages) (bound : Nat) (slot : Slot) :
    (resolveSlot usages bound slot).reached.Nodup ∧
    (resolveSlot usages bound slot).reached.head? = some slot ∧
    (∀ last, last ∈ (resolveSlot usages bound slot).reached ↔
      ∃ n ≤ bound, Steps (Forwards usages) n slot last) ∧
    ((resolveSlot usages bound slot).unknown = true ↔
      ∃ n, n + 1 ≤ bound ∧ ∃ last, Steps (Forwards usages) n slot last ∧
        ((∀ usage, usages.get? last.owner = some usage → usage.walked = false) ∨
          ∃ usage seenAt, usages.get? last.owner = some usage ∧
            (last.property, .unknown seenAt) ∈ usage.uses)) := by
  have hlists := listsFrom_follow usages bound 1 [] slot
  refine ⟨hlists.nodup, hlists.head, fun last => mem_reached_resolveSlot_iff, ?_⟩
  rw [resolveSlot_unknown_iff]
  simp only [← obscures_iff, Nat.succ_le_iff]

end RenderAudit
