import RenderAudit.Finding

/-!
# The order of a report

A report lists every finding once, sorted by place, kind and message. Selecting the findings of one
kind before or after that makes no difference, so reports can be compared kind by kind.
-/

namespace RenderAudit

section Inserting

variable {α : Type} {order : α → α → Ordering} {x y : α} {xs : List α}

theorem insertSorted_cons_of_isLE (hle : (order x y).isLE = true) :
    insertSorted order x (y :: xs) = x :: y :: xs :=
  if_pos hle

theorem insertSorted_cons_of_not_isLE (hgt : ¬(order x y).isLE = true) :
    insertSorted order x (y :: xs) = y :: insertSorted order x xs :=
  if_neg hgt

theorem insertSorted_of_forall_isLE (hle : ∀ y ∈ xs, (order x y).isLE = true) :
    insertSorted order x xs = x :: xs := by
  cases xs with
  | nil => rfl
  | cons y ys => exact insertSorted_cons_of_isLE (hle y List.mem_cons_self)

theorem sortBy_of_pairwise (hsorted : xs.Pairwise fun a b => (order a b).isLE) :
    sortBy order xs = xs := by
  induction xs with
  | nil => rfl
  | cons x xs ih =>
      obtain ⟨hx, hxs⟩ := List.pairwise_cons.1 hsorted
      rw [sortBy, ih hxs, insertSorted_of_forall_isLE hx]

end Inserting

section Sorting

variable {α : Type} {order : α → α → Ordering} [Std.TransCmp order]

theorem pairwise_insertSorted {x : α} {xs : List α}
    (hsorted : xs.Pairwise fun a b => (order a b).isLE) :
    (insertSorted order x xs).Pairwise fun a b => (order a b).isLE := by
  induction xs with
  | nil => exact List.pairwise_singleton _ x
  | cons y ys ih =>
      obtain ⟨hy, hys⟩ := List.pairwise_cons.1 hsorted
      by_cases hle : (order x y).isLE = true
      · rw [insertSorted_cons_of_isLE hle]
        refine List.pairwise_cons.2 ⟨?_, hsorted⟩
        intro z hz
        rcases List.mem_cons.1 hz with rfl | hz
        · exact hle
        · exact Std.TransCmp.isLE_trans hle (hy z hz)
      · rw [insertSorted_cons_of_not_isLE hle]
        refine List.pairwise_cons.2 ⟨?_, ih hys⟩
        intro z hz
        rcases List.mem_cons.1 ((insertSorted_perm order x ys).mem_iff.1 hz) with rfl | hz
        · have hgt : order z y = .gt := by simpa using hle
          have hswap : order y z = (order z y).swap := Std.OrientedCmp.eq_swap
          rw [hswap, hgt]
          rfl
        · exact hy z hz

theorem pairwise_sortBy (xs : List α) :
    (sortBy order xs).Pairwise fun a b => (order a b).isLE := by
  induction xs with
  | nil => exact List.Pairwise.nil
  | cons x xs ih => exact pairwise_insertSorted ih

theorem filter_insertSorted (keep : α → Bool) {x : α} {xs : List α}
    (hsorted : xs.Pairwise fun a b => (order a b).isLE) :
    (insertSorted order x xs).filter keep =
      if keep x then insertSorted order x (xs.filter keep) else xs.filter keep := by
  induction xs with
  | nil => cases hx : keep x <;> simp [insertSorted, hx]
  | cons y ys ih =>
      obtain ⟨hy, hys⟩ := List.pairwise_cons.1 hsorted
      by_cases hle : (order x y).isLE = true
      · rw [insertSorted_cons_of_isLE hle, List.filter_cons]
        split
        · -- All that the filter leaves from the place of insertion on follows the new element.
          have hafter : ∀ z ∈ (y :: ys).filter keep, (order x z).isLE = true := by
            intro z hz
            rcases List.mem_cons.1 (List.mem_filter.1 hz).1 with rfl | hz
            · exact hle
            · exact Std.TransCmp.isLE_trans hle (hy z hz)
          exact (insertSorted_of_forall_isLE hafter).symm
        · rfl
      · rw [insertSorted_cons_of_not_isLE hle, List.filter_cons, List.filter_cons, ih hys]
        cases keep y with
        | false => rfl
        | true =>
            cases keep x with
            | false => rfl
            | true => exact (insertSorted_cons_of_not_isLE hle).symm

theorem filter_sortBy (keep : α → Bool) (xs : List α) :
    (sortBy order xs).filter keep = sortBy order (xs.filter keep) := by
  induction xs with
  | nil => rfl
  | cons x xs ih =>
      rw [sortBy, filter_insertSorted keep (pairwise_sortBy xs), ih, List.filter_cons]
      split <;> rfl

/-- Elements that sorting does not tell apart keep their order. -/
theorem filter_sortBy_of_forall_isLE {keep : α → Bool}
    (hkeep : ∀ a b, keep a = true → keep b = true → (order a b).isLE = true) (xs : List α) :
    (sortBy order xs).filter keep = xs.filter keep := by
  rw [filter_sortBy]
  apply sortBy_of_pairwise
  rw [List.pairwise_filter]
  refine List.pairwise_of_forall_mem_list ?_
  intro a _ b _ ha hb
  exact hkeep a b ha hb

/-! ### Ranks -/

/-- Whether an element has the same rank as another one. -/
def sameRank (order : α → α → Ordering) (z x : α) : Bool :=
  order z x == .eq

omit [Std.TransCmp order] in
theorem sameRank_eq_true_iff {z x : α} : sameRank order z x = true ↔ order z x = .eq :=
  beq_iff_eq

theorem sameRank_self (z : α) : sameRank order z z = true :=
  sameRank_eq_true_iff.2 Std.ReflCmp.compare_self

theorem filter_sameRank_sortBy (z : α) (xs : List α) :
    (sortBy order xs).filter (sameRank order z) = xs.filter (sameRank order z) := by
  apply filter_sortBy_of_forall_isLE
  intro a b ha hb
  rw [sameRank_eq_true_iff] at ha hb
  rw [← Std.TransCmp.congr_left ha, hb]
  rfl

theorem self_mem_of_filter_sameRank {z : α} {xs ys : List α}
    (hranks : (z :: xs).filter (sameRank order z) = ys.filter (sameRank order z)) : z ∈ ys := by
  have hmem : z ∈ ys.filter (sameRank order z) := by
    rw [← hranks, List.filter_cons_of_pos (sameRank_self z)]
    exact List.mem_cons_self
  exact (List.mem_filter.1 hmem).1

/-- Two sorted lists are equal if they have the same elements of each rank in the same order. -/
theorem eq_of_filter_sameRank {xs ys : List α} (hxs : xs.Pairwise fun a b => (order a b).isLE)
    (hys : ys.Pairwise fun a b => (order a b).isLE)
    (hranks : ∀ z, xs.filter (sameRank order z) = ys.filter (sameRank order z)) : xs = ys := by
  induction xs generalizing ys with
  | nil =>
      cases ys with
      | nil => rfl
      | cons y ys => cases self_mem_of_filter_sameRank (hranks y).symm
  | cons x xs ih =>
      have hxmem := self_mem_of_filter_sameRank (hranks x)
      cases ys with
      | nil => cases hxmem
      | cons y ys =>
          have hymem := self_mem_of_filter_sameRank (hranks y).symm
          obtain ⟨hx, hrestx⟩ := List.pairwise_cons.1 hxs
          obtain ⟨hy, hresty⟩ := List.pairwise_cons.1 hys
          -- Each head comes before the other one, so both have the same rank.
          have hrank : order x y = .eq := by
            rcases List.mem_cons.1 hxmem with rfl | hxmem
            · exact Std.ReflCmp.compare_self
            rcases List.mem_cons.1 hymem with rfl | hymem
            · exact Std.ReflCmp.compare_self
            · exact Std.OrientedCmp.isLE_antisymm (hx y hymem) (hy x hxmem)
          have hheads := hranks x
          rw [List.filter_cons_of_pos (sameRank_self x),
            List.filter_cons_of_pos (sameRank_eq_true_iff.2 hrank)] at hheads
          obtain ⟨rfl, -⟩ := List.cons.inj hheads
          congr 1
          apply ih hrestx hresty
          intro z
          have htails := hranks z
          rw [List.filter_cons, List.filter_cons] at htails
          split at htails
          · exact (List.cons.inj htails).2
          · exact htails

/-- Sorting looks only at the elements of each rank and at their order among each other. -/
theorem sortBy_congr {xs ys : List α}
    (hranks : ∀ z, xs.filter (sameRank order z) = ys.filter (sameRank order z)) :
    sortBy order xs = sortBy order ys := by
  apply eq_of_filter_sameRank (pairwise_sortBy xs) (pairwise_sortBy ys)
  intro z
  rw [filter_sameRank_sortBy, filter_sameRank_sortBy, hranks z]

theorem sortBy_sortBy_append (xs ys : List α) :
    sortBy order (sortBy order xs ++ ys) = sortBy order (xs ++ ys) := by
  apply sortBy_congr
  intro z
  rw [List.filter_append, List.filter_append, filter_sameRank_sortBy]

end Sorting

section Firsts

variable {α κ : Type} [BEq κ] {key : α → κ}

/-- Only the keys of the list itself need to be known as seen. -/
theorem firstsBy_congr {seen seen' : List κ} {xs : List α}
    (hseen : ∀ x ∈ xs, seen.contains (key x) = seen'.contains (key x)) :
    firstsBy key seen xs = firstsBy key seen' xs := by
  induction xs generalizing seen seen' with
  | nil => rfl
  | cons x xs ih =>
      obtain ⟨hx, hxs⟩ := List.forall_mem_cons.1 hseen
      unfold firstsBy
      rw [hx]
      split
      · exact ih hxs
      · congr 1
        apply ih
        intro y hy
        rw [List.contains_cons, List.contains_cons, hxs y hy]

theorem filter_firstsBy [LawfulBEq κ] {keep : α → Bool}
    (hkeep : ∀ x y, key x = key y → keep x = keep y) (seen : List κ) (xs : List α) :
    (firstsBy key seen xs).filter keep = firstsBy key seen (xs.filter keep) := by
  induction xs generalizing seen with
  | nil => rfl
  | cons x xs ih =>
      cases hx : keep x with
      | true =>
          rw [List.filter_cons_of_pos hx]
          unfold firstsBy
          split
          · exact ih seen
          · rw [List.filter_cons_of_pos hx, ih]
      | false =>
          rw [List.filter_cons_of_neg (by simp [hx])]
          rw [firstsBy]
          split
          · exact ih seen
          · rw [List.filter_cons_of_neg (by simp [hx]), ih]
            -- What is left has other keys than `x`.
            apply firstsBy_congr
            intro y hy
            have hne : key y ≠ key x := by
              intro hkey
              have hy := (List.mem_filter.1 hy).2
              rw [hkeep y x hkey, hx] at hy
              cases hy
            simp [hne]

theorem firstsBy_map {β : Type} (view : β → α) (seen : List κ) (xs : List β) :
    firstsBy key seen (xs.map view) = (firstsBy (key ∘ view) seen xs).map view := by
  induction xs generalizing seen with
  | nil => rfl
  | cons x xs ih =>
      rw [List.map_cons, firstsBy, firstsBy, Function.comp_apply]
      split
      · exact ih seen
      · rw [List.map_cons, ih]

/-- Only which elements have the same key matters. -/
theorem firstsBy_congr_key {κ' : Type} [BEq κ'] [LawfulBEq κ] [LawfulBEq κ'] {key' : α → κ'}
    (hkey : ∀ x y, key x = key y ↔ key' x = key' y) (met xs : List α) :
    firstsBy key (met.map key) xs = firstsBy key' (met.map key') xs := by
  induction xs generalizing met with
  | nil => rfl
  | cons x xs ih =>
      have hseen : (met.map key).contains (key x) = (met.map key').contains (key' x) := by
        rw [Bool.eq_iff_iff, List.contains_iff_mem, List.contains_iff_mem, List.mem_map,
          List.mem_map]
        simp only [hkey]
      rw [firstsBy, firstsBy, hseen]
      split
      · exact ih met
      · rw [← List.map_cons, ← List.map_cons, ih (x :: met)]

/-- What is kept of the later elements depends on the keys of the earlier ones. -/
theorem firstsBy_append [LawfulBEq κ] (seen : List κ) (xs ys : List α) :
    firstsBy key seen (xs ++ ys) = firstsBy key seen xs ++ firstsBy key (xs.map key ++ seen) ys := by
  induction xs generalizing seen with
  | nil => rfl
  | cons x xs ih =>
      rw [List.cons_append, firstsBy, firstsBy]
      split
      · next hseen =>
        rw [ih]
        congr 1
        apply firstsBy_congr
        intro y _
        rw [List.contains_iff_mem] at hseen
        rw [Bool.eq_iff_iff, List.contains_iff_mem, List.contains_iff_mem, List.map_cons,
          List.cons_append, List.mem_cons, List.mem_append]
        constructor
        · exact .inr
        · rintro (hkey | hmem)
          · exact .inr (hkey ▸ hseen)
          · exact hmem
      · rw [ih, List.cons_append]
        congr 2
        apply firstsBy_congr
        intro y _
        rw [Bool.eq_iff_iff, List.contains_iff_mem, List.contains_iff_mem]
        simp only [List.map_cons, List.cons_append, List.mem_cons, List.mem_append, or_left_comm]

theorem firstsBy_eq_nil [LawfulBEq κ] {seen : List κ} {xs : List α}
    (hseen : ∀ x ∈ xs, key x ∈ seen) : firstsBy key seen xs = [] := by
  rw [List.eq_nil_iff_forall_not_mem]
  intro x hx
  obtain ⟨hmem, hnew⟩ := mem_of_mem_firstsBy hx
  exact hnew (hseen x hmem)

theorem firstsBy_eq_self [LawfulBEq κ] {seen : List κ} {xs : List α} (hnodup : (xs.map key).Nodup)
    (hnew : ∀ x ∈ xs, key x ∉ seen) : firstsBy key seen xs = xs := by
  induction xs generalizing seen with
  | nil => rfl
  | cons x xs ih =>
      rw [List.map_cons, List.nodup_cons] at hnodup
      obtain ⟨hx, hxs⟩ := List.forall_mem_cons.1 hnew
      rw [firstsBy, if_neg (by simpa using hx)]
      congr 1
      apply ih hnodup.2
      intro y hy hmem
      rcases List.mem_cons.1 hmem with hkey | hmem
      · exact hnodup.1 (List.mem_map.2 ⟨y, hy, hkey⟩)
      · exact hxs y hy hmem

/-! ### The elements that are kept -/

/-- Of each key the first element is kept. -/
theorem filter_firstsBy_eq_find? [LawfulBEq κ] [DecidableEq κ] (k : κ) (xs : List α) :
    (firstsBy key [] xs).filter (key · = k) = (xs.find? (key · = k)).toList := by
  have hkeep : ∀ x y, key x = key y → decide (key x = k) = decide (key y = k) := by
    intro x y hkey
    rw [hkey]
  rw [filter_firstsBy hkeep, ← List.head?_filter]
  cases hfilter : xs.filter (key · = k) with
  | nil => rfl
  | cons first rest =>
      have hkeys : ∀ x ∈ first :: rest, key x = k := by
        intro x hx
        rw [← hfilter, List.mem_filter] at hx
        exact of_decide_eq_true hx.2
      obtain ⟨hfirst, hrest⟩ := List.forall_mem_cons.1 hkeys
      have hnone : firstsBy key [key first] rest = [] := by
        apply firstsBy_eq_nil
        intro x hx
        rw [hrest x hx, hfirst]
        exact List.mem_cons_self
      rw [firstsBy, if_neg (by simp), hnone]
      rfl

theorem mem_map_firstsBy_iff [LawfulBEq κ] {k : κ} {xs : List α} :
    k ∈ (firstsBy key [] xs).map key ↔ k ∈ xs.map key := by
  simp only [List.mem_map]
  constructor
  · rintro ⟨x, hx, hkey⟩
    exact ⟨x, (mem_of_mem_firstsBy hx).1, hkey⟩
  · rintro ⟨x, hx, hkey⟩
    have hnew : key x ∉ [] := List.not_mem_nil
    obtain ⟨y, hy, hsame⟩ := exists_mem_firstsBy hx hnew
    exact ⟨y, hy, hsame.trans hkey⟩

theorem nodup_map_firstsBy [LawfulBEq κ] (seen : List κ) (xs : List α) :
    ((firstsBy key seen xs).map key).Nodup := by
  induction xs generalizing seen with
  | nil => exact List.nodup_nil
  | cons x xs ih =>
      unfold firstsBy
      split
      · exact ih seen
      · refine List.nodup_cons.2 ⟨?_, ih _⟩
        intro hmem
        obtain ⟨y, hy, hkey⟩ := List.mem_map.1 hmem
        exact (mem_of_mem_firstsBy hy).2 (hkey ▸ List.mem_cons_self)

/-- An element that is kept comes before all others with its key. -/
theorem exists_before_of_mem_firstsBy [LawfulBEq κ] {seen : List κ} {xs : List α} {x : α}
    (hx : x ∈ firstsBy key seen xs) :
    ∃ before after, xs = before ++ x :: after ∧ key x ∉ before.map key := by
  induction xs generalizing seen with
  | nil => cases hx
  | cons y ys ih =>
      have hlater : ∀ seen, key y ≠ key x → x ∈ firstsBy key seen ys →
          ∃ before after, y :: ys = before ++ x :: after ∧ key x ∉ before.map key := by
        intro seen hne hx
        obtain ⟨before, after, rfl, hbefore⟩ := ih hx
        refine ⟨y :: before, after, rfl, ?_⟩
        rw [List.map_cons, List.mem_cons, not_or]
        exact ⟨Ne.symm hne, hbefore⟩
      unfold firstsBy at hx
      split at hx
      · next hseen =>
        refine hlater seen ?_ hx
        intro hkey
        rw [hkey, List.contains_iff_mem] at hseen
        exact (mem_of_mem_firstsBy hx).2 hseen
      · rcases List.mem_cons.1 hx with rfl | hx
        · exact ⟨[], ys, rfl, List.not_mem_nil⟩
        · refine hlater _ ?_ hx
          intro hkey
          exact (mem_of_mem_firstsBy hx).2 (hkey ▸ List.mem_cons_self)

theorem firstsBy_concat_of_mem [LawfulBEq κ] {seen : List κ} {xs : List α} {x : α}
    (hmem : key x ∈ seen ∨ key x ∈ xs.map key) :
    firstsBy key seen (xs ++ [x]) = firstsBy key seen xs := by
  induction xs generalizing seen with
  | nil =>
      have hseen : key x ∈ seen := by simpa using hmem
      simp [firstsBy, hseen]
  | cons y ys ih =>
      rw [List.cons_append, firstsBy, firstsBy]
      rw [List.map_cons, List.mem_cons] at hmem
      split
      · next hseen =>
        apply ih
        rcases hmem with hmem | hmem | hmem
        · exact .inl hmem
        · rw [hmem]
          exact .inl (List.contains_iff_mem.1 hseen)
        · exact .inr hmem
      · rw [ih]
        rcases hmem with hmem | hmem | hmem
        · exact .inl (List.mem_cons_of_mem _ hmem)
        · exact .inl (hmem ▸ List.mem_cons_self)
        · exact .inr hmem

theorem firstsBy_concat_of_notMem [LawfulBEq κ] {seen : List κ} {xs : List α} {x : α}
    (hseen : key x ∉ seen) (hxs : key x ∉ xs.map key) :
    firstsBy key seen (xs ++ [x]) = firstsBy key seen xs ++ [x] := by
  induction xs generalizing seen with
  | nil => simp [firstsBy, hseen]
  | cons y ys ih =>
      rw [List.map_cons, List.mem_cons, not_or] at hxs
      rw [List.cons_append, firstsBy, firstsBy]
      split
      · exact ih hseen hxs.2
      · rw [List.cons_append, ih _ hxs.2]
        rw [List.mem_cons, not_or]
        exact ⟨hxs.1, hseen⟩

end Firsts

namespace Finding

instance : Std.TransCmp order :=
  inferInstanceAs (Std.TransCmp (compareLex
    (compareLex (compareOn fun finding : Finding => finding.span.file)
      (compareLex (compareOn (·.span.line)) (compareOn (·.span.column))))
    (compareLex (compareOn (·.kind.rank)) (compareOn (·.message)))))

/-- The findings of some kinds are reported as if there were no others. -/
theorem filter_sort (keep : FindingKind → Bool) (findings : List Finding) :
    (sort findings).filter (keep ·.kind) = sort (findings.filter (keep ·.kind)) := by
  have hkeep : ∀ first second : Finding, first.identity = second.identity →
      keep first.kind = keep second.kind := by
    intro first second hidentity
    rw [show first.kind = second.kind from congrArg Prod.fst hidentity]
  unfold sort
  rw [filter_sortBy, filter_firstsBy hkeep]

theorem filter_kind_sort (kind : FindingKind) (findings : List Finding) :
    (sort findings).filter (·.kind = kind) = sort (findings.filter (·.kind = kind)) :=
  filter_sort (· = kind) findings

end Finding

end RenderAudit
