import Mathlib.Data.Finset.Card

/-!
# Walks of a given length

`Steps step n first last` says that `last` is reached from `first` by exactly `n` steps. Elements
may repeat on the way. Both searches of the analysis, the one through slots and the one through
components, are measured against such walks. Where there are finitely many elements to come to,
nothing is far away, and a walk that is long enough runs into a cycle.
-/

namespace RenderAudit

variable {α : Type} {step : α → α → Prop}

def Steps (step : α → α → Prop) : Nat → α → α → Prop
  | 0, first, last => first = last
  | n + 1, first, last => ∃ next, step first next ∧ Steps step n next last

theorem Steps.add {m n : Nat} {first middle last : α}
    (hleft : Steps step m first middle) (hright : Steps step n middle last) :
    Steps step (m + n) first last := by
  induction m generalizing first with
  | zero =>
      cases hleft
      rwa [Nat.zero_add]
  | succ m ih =>
      obtain ⟨next, hstep, hrest⟩ := hleft
      rw [Nat.succ_add]
      exact ⟨next, hstep, ih hrest⟩

theorem Steps.single {first last : α} (hstep : step first last) : Steps step 1 first last :=
  ⟨last, hstep, rfl⟩

/-- The last step of a walk split off. -/
theorem steps_succ_iff {n : Nat} {first last : α} :
    Steps step (n + 1) first last ↔ ∃ middle, Steps step n first middle ∧ step middle last := by
  constructor
  · intro hwalk
    induction n generalizing first with
    | zero =>
        obtain ⟨next, hstep, rfl⟩ := hwalk
        exact ⟨first, rfl, hstep⟩
    | succ n ih =>
        obtain ⟨next, hstep, hrest⟩ := hwalk
        obtain ⟨middle, hmiddle, hlast⟩ := ih hrest
        exact ⟨middle, ⟨next, hstep, hmiddle⟩, hlast⟩
  · rintro ⟨middle, hmiddle, hlast⟩
    exact hmiddle.add (.single hlast)

/-- The first `m` steps of a longer walk. -/
theorem Steps.take {m n : Nat} {first last : α} (hwalk : Steps step n first last) (hle : m ≤ n) :
    ∃ middle, Steps step m first middle := by
  induction m generalizing n first with
  | zero => exact ⟨first, rfl⟩
  | succ m ih =>
      obtain ⟨k, rfl⟩ : ∃ k, n = k + 1 := ⟨n - 1, by omega⟩
      obtain ⟨next, hstep, hrest⟩ := hwalk
      obtain ⟨middle, hmiddle⟩ := ih hrest (by omega)
      exact ⟨middle, next, hstep, hmiddle⟩

theorem Steps.iterate {n : Nat} {first : α} (hcycle : Steps step n first first) (times : Nat) :
    Steps step (times * n) first first := by
  induction times with
  | zero =>
      rw [Nat.zero_mul]
      rfl
  | succ times ih =>
      rw [Nat.succ_mul]
      exact ih.add hcycle

/-- Going round a cycle often enough gives walks of every length. -/
theorem Steps.endless {n : Nat} {first : α} (hcycle : Steps step (n + 1) first first)
    (length : Nat) : ∃ last, Steps step length first last :=
  (hcycle.iterate length).take (Nat.le_mul_of_pos_right length (Nat.succ_pos n))

/-- What each step keeps, a walk keeps. -/
theorem Steps.keeps (Inv : α → Prop)
    (hstep : ∀ source target, Inv source → step source target → Inv target) {n : Nat}
    {first last : α} (hwalk : Steps step n first last) (hfirst : Inv first) : Inv last := by
  induction n generalizing first with
  | zero => exact hwalk ▸ hfirst
  | succ n ih =>
      obtain ⟨next, hnext, hrest⟩ := hwalk
      exact ih hrest (hstep first next hfirst hnext)

/-- A walk stays a walk under another relation that has all steps which leave its own walks. -/
theorem Steps.transfer {step' : α → α → Prop} {n : Nat} {first last : α}
    (hstep : ∀ m middle next, Steps step' m first middle → step middle next → step' middle next)
    (hwalk : Steps step n first last) : Steps step' n first last := by
  induction n generalizing last with
  | zero => exact hwalk
  | succ n ih =>
      obtain ⟨middle, hmiddle, hlast⟩ := steps_succ_iff.1 hwalk
      exact steps_succ_iff.2 ⟨middle, ih hmiddle, hstep n middle last (ih hmiddle) hlast⟩

/-- What lies within a number of steps lies nearer, or exactly so far away. -/
theorem Steps.nearer_or_exact {n level : Nat} {first last : α} (hle : n ≤ level)
    (hwalk : Steps step n first last) :
    (∃ m < level, Steps step m first last) ∨
      (Steps step level first last ∧ ∀ m < level, ¬Steps step m first last) := by
  by_cases hnear : ∃ m < level, Steps step m first last
  · exact .inl hnear
  · rcases Nat.lt_or_eq_of_le hle with hlt | rfl
    · exact absurd ⟨n, hlt, hwalk⟩ hnear
    · exact .inr ⟨hwalk, fun m hm hshort => hnear ⟨m, hm, hshort⟩⟩

/-! ### Walks among finitely many elements -/

/-- The steps that do not lead to `point`. -/
def Avoiding (step : α → α → Prop) (point : α) : α → α → Prop :=
  fun source target => step source target ∧ target ≠ point

theorem Steps.of_avoiding {point : α} {n : Nat} {first last : α}
    (hwalk : Steps (Avoiding step point) n first last) : Steps step n first last :=
  hwalk.transfer fun _ _ _ _ hstep => hstep.1

/-- A walk avoids a point from its first step on, or it is split where it leaves the point for the
last time. -/
theorem Steps.avoids_or_splits (point : α) {n : Nat} {first last : α}
    (hwalk : Steps step n first last) :
    Steps (Avoiding step point) n first last ∨
      ∃ k m, k + 1 + m = n ∧ Steps step (k + 1) first point ∧
        Steps (Avoiding step point) m point last := by
  induction n generalizing first with
  | zero => exact .inl hwalk
  | succ n ih =>
      obtain ⟨next, hstep, hrest⟩ := hwalk
      rcases ih hrest with havoids | ⟨k, m, hlength, hleft, hright⟩
      · by_cases hpoint : next = point
        · subst hpoint
          exact .inr ⟨0, n, by omega, .single hstep, havoids⟩
        · exact .inl ⟨next, ⟨hstep, hpoint⟩, havoids⟩
      · exact .inr ⟨k + 1, m, by omega, ⟨next, hstep, hleft⟩, hright⟩

section Finite

variable [DecidableEq α] {targets : Finset α}

theorem Avoiding.mem_erase (htargets : ∀ source target, step source target → target ∈ targets)
    {point source target : α} (hstep : Avoiding step point source target) :
    target ∈ targets.erase point :=
  Finset.mem_erase.2 ⟨hstep.2, htargets source target hstep.1⟩

/-- Whatever a walk reaches is reached without coming to any of the targets twice. -/
theorem Steps.exists_le_card (htargets : ∀ source target, step source target → target ∈ targets)
    {n : Nat} {first last : α} (hwalk : Steps step n first last) :
    ∃ m ≤ (targets.erase first).card, Steps step m first last := by
  induction n using Nat.strongRecOn generalizing step targets first with
  | ind n ih =>
      -- The part of the walk that does not come back to its first element has one target less.
      obtain ⟨m, hm, hdirect⟩ : ∃ m ≤ n, Steps (Avoiding step first) m first last := by
        rcases hwalk.avoids_or_splits first with havoids | ⟨k, m, hlength, -, hright⟩
        · exact ⟨n, Nat.le_refl n, havoids⟩
        · exact ⟨m, by omega, hright⟩
      cases m with
      | zero => exact ⟨0, Nat.zero_le _, hdirect⟩
      | succ m =>
          obtain ⟨next, hstep, hrest⟩ := hdirect
          obtain ⟨k, hk, hshort⟩ :=
            ih m hm (fun source target hstep => hstep.mem_erase htargets) hrest
          have hless := Finset.card_erase_lt_of_mem (hstep.mem_erase htargets)
          exact ⟨k + 1, by omega, next, hstep.1, hshort.of_avoiding⟩

/-- A walk with more steps than there are targets comes to a cycle. -/
theorem Steps.exists_cycle (htargets : ∀ source target, step source target → target ∈ targets)
    {n : Nat} {first last : α} (hwalk : Steps step n first last)
    (hlong : (targets.erase first).card < n) :
    ∃ k middle m, Steps step k first middle ∧ Steps step (m + 1) middle middle := by
  induction n generalizing step targets first with
  | zero => exact absurd hlong (Nat.not_lt_zero _)
  | succ n ih =>
      rcases hwalk.avoids_or_splits first with ⟨next, hstep, hrest⟩ | ⟨k, -, -, hcycle, -⟩
      · have hless := Finset.card_erase_lt_of_mem (hstep.mem_erase htargets)
        obtain ⟨k, middle, m, hwalk, hcycle⟩ :=
          ih (fun source target hstep => hstep.mem_erase htargets) hrest (by omega)
        exact ⟨k + 1, middle, m, ⟨next, hstep.1, hwalk.of_avoiding⟩, hcycle.of_avoiding⟩
      · exact ⟨0, first, k, rfl, hcycle⟩

end Finite

end RenderAudit
