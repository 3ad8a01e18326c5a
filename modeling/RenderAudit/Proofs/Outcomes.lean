import Mathlib.Data.List.Forall2
import RenderAudit.Arena

/-!
# Computations that may fail

A list of computations succeeds exactly if each of them does, and then it returns their values in
order. Questions to an arena succeed within its range.
-/

namespace RenderAudit

section Except

variable {ε α β : Type}

theorem bind_eq_ok_iff {first : Except ε α} {next : α → Except ε β} {value : β} :
    (first >>= next) = .ok value ↔ ∃ middle, first = .ok middle ∧ next middle = .ok value := by
  cases first with
  | error fault => simp [bind, Except.bind]
  | ok middle => simp [bind, Except.bind]

theorem pure_eq_ok_iff {left right : α} :
    (pure left : Except ε α) = .ok right ↔ left = right := by
  simp [pure, Except.pure]

theorem map_eq_ok_iff {first : Except ε α} {view : α → β} {value : β} :
    first.map view = .ok value ↔ ∃ middle, first = .ok middle ∧ view middle = value := by
  cases first with
  | error fault => simp [Except.map]
  | ok middle => simp [Except.map]

theorem exists_map_eq_ok_iff {first : Except ε α} {view : α → β} :
    (∃ value, first.map view = .ok value) ↔ ∃ middle, first = .ok middle := by
  cases first with
  | error fault => simp [Except.map]
  | ok middle => simp [Except.map]

theorem mapError_eq_ok_iff {ε' : Type} {first : Except ε α} {view : ε → ε'} {value : α} :
    first.mapError view = .ok value ↔ first = .ok value := by
  cases first with
  | error fault => simp [Except.mapError]
  | ok middle => simp [Except.mapError]

theorem mapM_eq_ok_iff {compute : α → Except ε β} {inputs : List α} {values : List β} :
    inputs.mapM compute = .ok values ↔
      List.Forall₂ (fun input value => compute input = .ok value) inputs values := by
  induction inputs generalizing values with
  | nil =>
      rw [List.mapM_nil, pure_eq_ok_iff, List.forall₂_nil_left_iff]
      exact eq_comm
  | cons input inputs ih =>
      rw [List.mapM_cons, List.forall₂_cons_left_iff, bind_eq_ok_iff]
      simp only [bind_eq_ok_iff, pure_eq_ok_iff, ih]
      constructor
      · rintro ⟨value, hvalue, rest, hrest, rfl⟩
        exact ⟨value, rest, hvalue, hrest, rfl⟩
      · rintro ⟨value, rest, hvalue, hrest, rfl⟩
        exact ⟨value, hvalue, rest, hrest, rfl⟩

theorem exists_mapM_eq_ok_iff {compute : α → Except ε β} {inputs : List α} :
    (∃ values, inputs.mapM compute = .ok values) ↔
      ∀ input ∈ inputs, ∃ value, compute input = .ok value := by
  simp only [mapM_eq_ok_iff]
  induction inputs with
  | nil => simp
  | cons input inputs ih =>
      rw [List.forall_mem_cons, ← ih]
      simp only [List.forall₂_cons_left_iff]
      constructor
      · rintro ⟨values, value, rest, hvalue, hrest, rfl⟩
        exact ⟨⟨value, hvalue⟩, rest, hrest⟩
      · rintro ⟨⟨value, hvalue⟩, rest, hrest⟩
        exact ⟨value :: rest, value, rest, hvalue, hrest, rfl⟩

theorem mem_of_mapM_eq_ok {compute : α → Except ε β} {inputs : List α} {values : List β}
    (hvalues : inputs.mapM compute = .ok values) {value : β} :
    value ∈ values ↔ ∃ input ∈ inputs, compute input = .ok value := by
  rw [mapM_eq_ok_iff] at hvalues
  induction hvalues with
  | nil => simp
  | @cons input first inputs rest hfirst hrest ih =>
      rw [List.mem_cons, ih]
      constructor
      · rintro (rfl | ⟨other, hother, hvalue⟩)
        · exact ⟨input, List.mem_cons_self, hfirst⟩
        · exact ⟨other, List.mem_cons_of_mem input hother, hvalue⟩
      · rintro ⟨other, hother, hvalue⟩
        rcases List.mem_cons.1 hother with rfl | hother
        · rw [hfirst] at hvalue
          cases hvalue
          exact .inl rfl
        · exact .inr ⟨other, hother, hvalue⟩

theorem mapM_map_eq {γ : Type} (compute : α → Except ε β) (view : β → γ) (inputs : List α) :
    (inputs.mapM fun input => (compute input).map view) =
      (inputs.mapM compute).map (·.map view) := by
  induction inputs with
  | nil => rfl
  | cons input inputs ih =>
      rw [List.mapM_cons, List.mapM_cons, ih]
      cases compute input with
      | error fault => rfl
      | ok value =>
          cases inputs.mapM compute with
          | error fault => rfl
          | ok values => rfl

/-- A loop whose steps succeed where an invariant holds, and keep it, succeeds and keeps it. -/
theorem exists_foldlM_eq_ok {step : β → α → Except ε β} {Inv : β → Prop} {inputs : List α}
    (hstep : ∀ state, Inv state → ∀ input ∈ inputs,
      ∃ next, step state input = .ok next ∧ Inv next)
    {start : β} (hstart : Inv start) :
    ∃ last, inputs.foldlM step start = .ok last ∧ Inv last := by
  induction inputs generalizing start with
  | nil => exact ⟨start, rfl, hstart⟩
  | cons input inputs ih =>
      obtain ⟨next, hnext, hinv⟩ := hstep start hstart input List.mem_cons_self
      have hrest : ∀ state, Inv state → ∀ other ∈ inputs,
          ∃ next, step state other = .ok next ∧ Inv next :=
        fun state hstate other hother => hstep state hstate other (List.mem_cons_of_mem input hother)
      obtain ⟨last, hlast, hinv⟩ := ih hrest hinv
      refine ⟨last, ?_, hinv⟩
      rw [List.foldlM_cons]
      exact bind_eq_ok_iff.2 ⟨next, hnext, hlast⟩

end Except

namespace Arena

theorem exists_component_eq_ok {arena : Arena} {id : Nat} (hid : id < arena.components.length) :
    ∃ found, arena.component id = .ok found := by
  refine ⟨arena.components[id], ?_⟩
  rw [component, List.getElem?_eq_getElem hid]

end Arena

end RenderAudit
