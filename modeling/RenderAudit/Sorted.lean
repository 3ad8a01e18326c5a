/-!
Stable sorting of lists by a comparison, which may fail.
-/

namespace RenderAudit

/-- Puts `x` in front of the first element that it does not exceed. -/
def insertSorted {α : Type} (order : α → α → Ordering) (x : α) : List α → List α
  | [] => [x]
  | y :: ys => if (order x y).isLE then x :: y :: ys else y :: insertSorted order x ys

def sortBy {α : Type} (order : α → α → Ordering) : List α → List α
  | [] => []
  | x :: xs => insertSorted order x (sortBy order xs)

theorem insertSorted_perm {α : Type} (order : α → α → Ordering) (x : α) (xs : List α) :
    (insertSorted order x xs).Perm (x :: xs) := by
  induction xs with
  | nil => exact .refl _
  | cons y ys ih =>
      unfold insertSorted
      split
      · exact .refl _
      · exact (ih.cons y).trans (.swap x y ys)

theorem sortBy_perm {α : Type} (order : α → α → Ordering) (xs : List α) :
    (sortBy order xs).Perm xs := by
  induction xs with
  | nil => exact .refl _
  | cons x xs ih => exact (insertSorted_perm order x _).trans (ih.cons x)

@[simp]
theorem mem_sortBy {α : Type} {order : α → α → Ordering} {x : α} {xs : List α} :
    x ∈ sortBy order xs ↔ x ∈ xs :=
  (sortBy_perm order xs).mem_iff

/-- Puts `x` in front of the first element that it precedes, as far as it can be compared. -/
def insertChecked {α ε : Type} (order : α → α → Except ε Ordering) (x : α) :
    List α → Except ε (List α)
  | [] => .ok [x]
  | y :: ys =>
      match order x y with
      | .error fault => .error fault
      | .ok .lt => .ok (x :: y :: ys)
      | .ok _ => (insertChecked order x ys).map (y :: ·)

/-- Sorts by a comparison that may fail, each element in its turn. -/
def sortChecked {α ε : Type} (order : α → α → Except ε Ordering) (xs : List α) :
    Except ε (List α) :=
  xs.foldlM (fun sorted x => insertChecked order x sorted) []

/-- Keeps the first of all elements with the same key. `seen` holds the keys met so far. -/
def firstsBy {α κ : Type} [BEq κ] (key : α → κ) (seen : List κ) : List α → List α
  | [] => []
  | x :: xs =>
      if seen.contains (key x) then firstsBy key seen xs
      else x :: firstsBy key (key x :: seen) xs

section FirstsBy

variable {α κ : Type} [BEq κ] [LawfulBEq κ] {key : α → κ}

theorem mem_of_mem_firstsBy {seen : List κ} {xs : List α} {x : α}
    (hx : x ∈ firstsBy key seen xs) : x ∈ xs ∧ key x ∉ seen := by
  induction xs generalizing seen with
  | nil => simp [firstsBy] at hx
  | cons y ys ih =>
      unfold firstsBy at hx
      split at hx
      · exact ⟨List.mem_cons_of_mem y (ih hx).1, (ih hx).2⟩
      · next hseen =>
        rcases List.mem_cons.1 hx with rfl | hx
        · exact ⟨List.mem_cons_self, by simpa using hseen⟩
        · obtain ⟨hmem, hnew⟩ := ih hx
          exact ⟨List.mem_cons_of_mem y hmem, fun h => hnew (List.mem_cons_of_mem _ h)⟩

/-- Each key that is not yet seen keeps an element. -/
theorem exists_mem_firstsBy {seen : List κ} {xs : List α} {x : α} (hx : x ∈ xs)
    (hnew : key x ∉ seen) : ∃ y ∈ firstsBy key seen xs, key y = key x := by
  induction xs generalizing seen with
  | nil => cases hx
  | cons y ys ih =>
      unfold firstsBy
      split
      · next hseen =>
        have hne : x ≠ y := by
          rintro rfl
          exact hnew (by simpa using hseen)
        exact ih ((List.mem_cons.1 hx).resolve_left hne) hnew
      · by_cases hkey : key y = key x
        · exact ⟨y, List.mem_cons_self, hkey⟩
        · have hne : x ≠ y := fun h => hkey (h ▸ rfl)
          have hnew' : key x ∉ key y :: seen := by
            simp only [List.mem_cons, not_or]
            exact ⟨Ne.symm hkey, hnew⟩
          obtain ⟨z, hz, hzx⟩ := ih ((List.mem_cons.1 hx).resolve_left hne) hnew'
          exact ⟨z, List.mem_cons_of_mem y hz, hzx⟩

@[simp]
theorem mem_firstsBy_id {seen : List κ} {xs : List κ} {x : κ} :
    x ∈ firstsBy id seen xs ↔ x ∈ xs ∧ x ∉ seen := by
  constructor
  · exact mem_of_mem_firstsBy
  · rintro ⟨hx, hnew⟩
    have hkept : ∃ y ∈ firstsBy id seen xs, id y = id x := exists_mem_firstsBy hx hnew
    obtain ⟨y, hy, rfl⟩ := hkept
    exact hy

end FirstsBy

end RenderAudit
