import Mathlib.Data.List.Pairwise
import RenderAudit.Actual
import RenderAudit.Proofs.Outcomes

/-!
# Listing edges by place

Edges are sorted by a comparison that can fail: at one place, a target with an id and a target of
the same kind without one have no order. A sort that compares each element only with some of the
others still fails exactly if two elements have no order, whichever they are. For where it stops
comparing, it has met a greater element, and elements beyond a greater one can be compared too.
-/

namespace RenderAudit

/-! ### Sorting by a comparison that may fail -/

section Checked

variable {α ε : Type} {order : α → α → Except ε Ordering} {x y : α} {xs ys zs : List α}

def Comparable (order : α → α → Except ε Ordering) (x y : α) : Prop :=
  ∃ comparison, order x y = .ok comparison

def Ascends (order : α → α → Except ε Ordering) (x y : α) : Prop :=
  ∃ comparison, order x y = .ok comparison ∧ comparison.isLE = true

/-- Where the comparison does not fail it is that of an order. -/
structure LawfulOrder (order : α → α → Except ε Ordering) : Prop where
  swap : ∀ {x y comparison}, order x y = .ok comparison → order y x = .ok comparison.swap
  trans : ∀ {x y z}, order x y = .ok .lt → Ascends order y z → order x z = .ok .lt

theorem LawfulOrder.symm (hlaws : LawfulOrder order) (hcomparable : Comparable order x y) :
    Comparable order y x :=
  hcomparable.imp' _ fun _ hxy => hlaws.swap hxy

theorem insertChecked_cons_of_lt (hlt : order x y = .ok .lt) :
    insertChecked order x (y :: ys) = .ok (x :: y :: ys) := by
  rw [insertChecked, hlt]

theorem insertChecked_cons_of_ne {comparison : Ordering} (hxy : order x y = .ok comparison)
    (hne : comparison ≠ .lt) :
    insertChecked order x (y :: ys) = (insertChecked order x ys).map (y :: ·) := by
  rw [insertChecked, hxy]
  cases comparison with
  | lt => exact absurd rfl hne
  | eq => rfl
  | gt => rfl

/-- What one comparison decides: the element stays in front, or goes on behind. -/
theorem insertChecked_cons_eq_ok_iff :
    insertChecked order x (y :: ys) = .ok zs ↔
      (order x y = .ok .lt ∧ zs = x :: y :: ys) ∨
        ∃ comparison, order x y = .ok comparison ∧ comparison ≠ .lt ∧
          ∃ rest, insertChecked order x ys = .ok rest ∧ zs = y :: rest := by
  cases hxy : order x y with
  | error fault => simp [insertChecked, hxy]
  | ok comparison =>
      by_cases hlt : comparison = .lt
      · subst hlt
        simp [insertChecked_cons_of_lt hxy, eq_comm]
      · rw [insertChecked_cons_of_ne hxy hlt, map_eq_ok_iff]
        simp [hlt, eq_comm]

theorem perm_of_insertChecked (hinsert : insertChecked order x ys = .ok zs) :
    zs.Perm (x :: ys) := by
  induction ys generalizing zs with
  | nil =>
      cases hinsert
      exact .refl _
  | cons y ys ih =>
      rcases insertChecked_cons_eq_ok_iff.1 hinsert with
        ⟨-, rfl⟩ | ⟨comparison, -, -, rest, hrest, rfl⟩
      · exact .refl _
      · exact ((ih hrest).cons y).trans (.swap x y ys)

theorem pairwise_insertChecked (hlaws : LawfulOrder order) (hsorted : ys.Pairwise (Ascends order))
    (hinsert : insertChecked order x ys = .ok zs) : zs.Pairwise (Ascends order) := by
  induction ys generalizing zs with
  | nil =>
      cases hinsert
      exact List.pairwise_singleton _ x
  | cons y ys ih =>
      obtain ⟨hy, hys⟩ := List.pairwise_cons.1 hsorted
      rcases insertChecked_cons_eq_ok_iff.1 hinsert with
        ⟨hlt, rfl⟩ | ⟨comparison, hxy, hne, rest, hrest, rfl⟩
      · refine List.pairwise_cons.2 ⟨?_, hsorted⟩
        intro z hz
        rcases List.mem_cons.1 hz with rfl | hz
        · exact ⟨.lt, hlt, rfl⟩
        · exact ⟨.lt, hlaws.trans hlt (hy z hz), rfl⟩
      · refine List.pairwise_cons.2 ⟨?_, ih hys hrest⟩
        intro z hz
        rcases List.mem_cons.1 ((perm_of_insertChecked hrest).mem_iff.1 hz) with rfl | hz
        · refine ⟨comparison.swap, hlaws.swap hxy, ?_⟩
          cases comparison with
          | lt => exact absurd rfl hne
          | eq => rfl
          | gt => rfl
        · exact hy z hz

/-- An element can be inserted exactly if it can be compared with all others. -/
theorem exists_insertChecked_eq_ok_iff (hlaws : LawfulOrder order)
    (hsorted : ys.Pairwise (Ascends order)) :
    (∃ zs, insertChecked order x ys = .ok zs) ↔ ∀ y ∈ ys, Comparable order x y := by
  induction ys with
  | nil => simp [insertChecked]
  | cons y ys ih =>
      obtain ⟨hy, hys⟩ := List.pairwise_cons.1 hsorted
      rw [List.forall_mem_cons, ← ih hys]
      constructor
      · rintro ⟨zs, hinsert⟩
        rcases insertChecked_cons_eq_ok_iff.1 hinsert with
          ⟨hlt, -⟩ | ⟨comparison, hxy, -, rest, hrest, -⟩
        · -- The elements that are not looked at any more are greater.
          refine ⟨⟨.lt, hlt⟩, (ih hys).2 fun z hz => ⟨.lt, hlaws.trans hlt (hy z hz)⟩⟩
        · exact ⟨⟨comparison, hxy⟩, rest, hrest⟩
      · rintro ⟨⟨comparison, hxy⟩, rest, hrest⟩
        by_cases hlt : comparison = .lt
        · exact ⟨_, insertChecked_cons_of_lt (hlt ▸ hxy)⟩
        · exact ⟨y :: rest, by rw [insertChecked_cons_of_ne hxy hlt, hrest]; rfl⟩

/-- What the elements sorted so far and those still to come amount to. -/
theorem foldlM_insertChecked_spec (hlaws : LawfulOrder order)
    (hsorted : ys.Pairwise (Ascends order))
    (hfold : xs.foldlM (fun sorted x => insertChecked order x sorted) ys = .ok zs) :
    zs.Perm (ys ++ xs) ∧ zs.Pairwise (Ascends order) := by
  induction xs generalizing ys with
  | nil =>
      cases hfold
      exact ⟨by simp, hsorted⟩
  | cons x xs ih =>
      rw [List.foldlM_cons] at hfold
      obtain ⟨next, hnext, hrest⟩ := bind_eq_ok_iff.1 hfold
      obtain ⟨hperm, hlast⟩ := ih (pairwise_insertChecked hlaws hsorted hnext) hrest
      refine ⟨hperm.trans ?_, hlast⟩
      exact ((perm_of_insertChecked hnext).append_right xs).trans List.perm_middle.symm

theorem exists_foldlM_insertChecked_iff (hlaws : LawfulOrder order)
    (hsorted : ys.Pairwise (Ascends order)) :
    (∃ zs, xs.foldlM (fun sorted x => insertChecked order x sorted) ys = .ok zs) ↔
      (∀ x ∈ xs, ∀ y ∈ ys, Comparable order x y) ∧ xs.Pairwise (Comparable order) := by
  induction xs generalizing ys with
  | nil => simp [pure, Except.pure]
  | cons x xs ih =>
      simp only [List.foldlM_cons, bind_eq_ok_iff]
      rw [List.forall_mem_cons, List.pairwise_cons]
      constructor
      · rintro ⟨zs, next, hnext, hrest⟩
        obtain ⟨hlater, hpairs⟩ := (ih (pairwise_insertChecked hlaws hsorted hnext)).1 ⟨zs, hrest⟩
        have hmem : ∀ {y}, y ∈ next ↔ y ∈ x :: ys := (perm_of_insertChecked hnext).mem_iff
        refine ⟨⟨(exists_insertChecked_eq_ok_iff hlaws hsorted).1 ⟨next, hnext⟩, ?_⟩, ?_, hpairs⟩
        · intro later hin y hy
          exact hlater later hin y (hmem.2 (List.mem_cons_of_mem x hy))
        · intro later hin
          exact hlaws.symm (hlater later hin x (hmem.2 List.mem_cons_self))
      · rintro ⟨⟨hfirst, hothers⟩, hlater, hpairs⟩
        obtain ⟨next, hnext⟩ := (exists_insertChecked_eq_ok_iff hlaws hsorted).2 hfirst
        have hnexts : ∀ later ∈ xs, ∀ y ∈ next, Comparable order later y := by
          intro later hin y hy
          rcases List.mem_cons.1 ((perm_of_insertChecked hnext).mem_iff.1 hy) with rfl | hy
          · exact hlaws.symm (hlater later hin)
          · exact hothers later hin y hy
        obtain ⟨zs, hzs⟩ := (ih (pairwise_insertChecked hlaws hsorted hnext)).2 ⟨hnexts, hpairs⟩
        exact ⟨zs, next, hnext, hzs⟩

theorem perm_of_sortChecked (hlaws : LawfulOrder order) (hsort : sortChecked order xs = .ok zs) :
    zs.Perm xs :=
  (foldlM_insertChecked_spec hlaws List.Pairwise.nil hsort).1

theorem pairwise_of_sortChecked (hlaws : LawfulOrder order)
    (hsort : sortChecked order xs = .ok zs) : zs.Pairwise (Ascends order) :=
  (foldlM_insertChecked_spec hlaws List.Pairwise.nil hsort).2

theorem exists_sortChecked_eq_ok_iff (hlaws : LawfulOrder order) :
    (∃ zs, sortChecked order xs = .ok zs) ↔ xs.Pairwise (Comparable order) := by
  rw [sortChecked, exists_foldlM_insertChecked_iff hlaws List.Pairwise.nil]
  simp

end Checked

/-! ### Edges without an order -/

theorem Key.name_of_ref? {key : Key} {id : Nat} (href : key.ref? = some id) : key.name = "" := by
  cases key with
  | component ref => rfl
  | property ref => rfl
  | intrinsic name => cases href
  | external name => cases href
  | wildcard name => cases href

/-- A target that stands for a declaration names it by its id. -/
def Target.Identified (target : Target) : Prop :=
  target.kind = .component ∨ target.kind = .property → target.ref.isSome = true

theorem Target.isSome_ref?_eq {first second : Target} (hfirst : first.Identified)
    (hsecond : second.Identified) (hkind : first.key.kindName = second.key.kindName) :
    first.key.ref?.isSome = second.key.ref?.isSome := by
  obtain ⟨kind, name, ref⟩ := first
  obtain ⟨kind', name', ref'⟩ := second
  unfold Identified at hfirst hsecond
  cases kind <;> cases kind' <;> simp_all [key, Key.kindName, Key.ref?]

namespace ActualEdge

/-- Two edges start at one place and lead to targets of one kind, of which only one has an id. -/
def Clash (first second : ActualEdge) : Prop :=
  first.span.order second.span = .eq ∧
    first.target.key.kindName = second.target.key.kindName ∧
    first.target.key.ref?.isSome ≠ second.target.key.ref?.isSome

/-- The place and the kind of target, by which edges can always be compared. -/
def heading : ActualEdge → ActualEdge → Ordering :=
  compareLex (fun first second => first.span.order second.span)
    (compareOn (·.target.key.kindName))

/-- The order that edges have where a missing id counts as less than any id. -/
def rank : ActualEdge → ActualEdge → Ordering :=
  compareLex heading (compareLex (compareOn (·.target.key.ref?)) (compareOn (·.target.key.name)))

instance : Std.TransCmp heading :=
  inferInstanceAs (Std.TransCmp (compareLex
    (compareLex (compareOn fun edge : ActualEdge => edge.span.file)
      (compareLex (compareOn (·.span.line)) (compareOn (·.span.column))))
    (compareOn (·.target.key.kindName))))

instance : Std.TransCmp rank :=
  inferInstanceAs (Std.TransCmp (compareLex heading
    (compareLex (compareOn fun edge : ActualEdge => edge.target.key.ref?)
      (compareOn (·.target.key.name)))))

variable {first second third : ActualEdge} {comparison : Ordering}

theorem heading_eq_eq_iff :
    heading first second = .eq ↔
      first.span.order second.span = .eq ∧
        first.target.key.kindName = second.target.key.kindName := by
  rw [heading, compareLex_eq_eq, compareOn, Std.LawfulEqOrd.compare_eq_iff_eq]

theorem clash_iff :
    Clash first second ↔ heading first second = .eq ∧
      first.target.key.ref?.isSome ≠ second.target.key.ref?.isSome := by
  rw [heading_eq_eq_iff, Clash, and_assoc]

theorem Clash.symm (hclash : Clash first second) : Clash second first := by
  rw [clash_iff] at hclash ⊢
  exact ⟨Std.OrientedCmp.eq_symm hclash.1, hclash.2.symm⟩

/-- The comparison of edges fails where they clash, and is that of an order elsewhere. -/
theorem listing_eq_ok_iff :
    listing first second = .ok comparison ↔
      ¬Clash first second ∧ rank first second = comparison := by
  rw [clash_iff]
  unfold listing rank heading Key.order
  cases hspan : first.span.order second.span with
  | lt => simp [compareLex, hspan]
  | gt => simp [compareLex, hspan]
  | eq =>
      cases hkind : compare first.target.key.kindName second.target.key.kindName with
      | lt => simp [compareLex, compareOn, hspan, hkind]
      | gt => simp [compareLex, compareOn, hspan, hkind]
      | eq =>
          cases hfirst : first.target.key.ref? with
          | none =>
              cases hsecond : second.target.key.ref? with
              | none => simp [compareLex, compareOn, hspan, hkind, hfirst, hsecond]
              | some other => simp [compareLex, compareOn, hspan, hkind]
          | some id =>
              cases hsecond : second.target.key.ref? with
              | none => simp [compareLex, compareOn, hspan, hkind]
              | some other =>
                  have hids : compare (some id) (some other) = compare id other := rfl
                  simp [compareLex, compareOn, hspan, hkind, hfirst, hsecond, hids,
                    Key.name_of_ref? hfirst, Key.name_of_ref? hsecond]

theorem comparable_listing_iff : Comparable listing first second ↔ ¬Clash first second := by
  simp [Comparable, listing_eq_ok_iff]

theorem heading_isLE_of_rank (hle : (rank first second).isLE = true) :
    (heading first second).isLE = true := by
  unfold rank compareLex at hle
  cases hheading : heading first second with
  | lt => rfl
  | eq => rfl
  | gt => simp [hheading] at hle

/-- What lies between two edges of one place and kind is of that place and kind too. -/
theorem heading_eq_of_between (hfirst : (heading first second).isLE = true)
    (hsecond : (heading second third).isLE = true) (heq : heading first third = .eq) :
    heading first second = .eq ∧ heading second third = .eq := by
  have hback : (heading third first).isLE = true := by
    rw [Std.OrientedCmp.eq_symm heq]
    rfl
  constructor
  · exact Std.OrientedCmp.isLE_antisymm hfirst (Std.TransCmp.isLE_trans hsecond hback)
  · exact Std.OrientedCmp.isLE_antisymm hsecond (Std.TransCmp.isLE_trans hback hfirst)

theorem lawful_listing : LawfulOrder listing where
  swap {first second comparison} hlisting := by
    obtain ⟨hclash, rfl⟩ := listing_eq_ok_iff.1 hlisting
    exact listing_eq_ok_iff.2 ⟨fun hback => hclash hback.symm, Std.OrientedCmp.eq_swap⟩
  trans {first second third} hlisting hascends := by
    obtain ⟨hclash, hlt⟩ := listing_eq_ok_iff.1 hlisting
    obtain ⟨comparison, hnext, hle⟩ := hascends
    obtain ⟨hclash', rfl⟩ := listing_eq_ok_iff.1 hnext
    refine listing_eq_ok_iff.2 ⟨?_, Std.TransCmp.lt_of_lt_of_isLE hlt hle⟩
    rw [clash_iff] at hclash hclash' ⊢
    rintro ⟨heq, hne⟩
    obtain ⟨hleft, hright⟩ := heading_eq_of_between
      (heading_isLE_of_rank (by rw [hlt]; rfl)) (heading_isLE_of_rank hle) heq
    -- The edge between has an id like the first one, and like the last one.
    have hsame := not_and_not_right.1 hclash hleft
    have hsame' := not_and_not_right.1 hclash' hright
    exact hne (hsame.trans hsame')

theorem key_eq_of_rank_eq (hrank : rank first second = .eq) :
    first.target.key = second.target.key := by
  simp only [rank, compareLex_eq_eq, heading_eq_eq_iff, compareOn,
    Std.LawfulEqOrd.compare_eq_iff_eq] at hrank
  obtain ⟨⟨-, hkind⟩, href, hname⟩ := hrank
  generalize first.target.key = key at hkind href hname ⊢
  generalize second.target.key = key' at hkind href hname ⊢
  cases key <;> cases key' <;> simp_all [Key.kindName, Key.ref?, Key.name]

end ActualEdge

namespace ActualGraph

variable {graph : ActualGraph} {source : Nat} {listed : List ActualEdge}

theorem perm_of_edgesFrom (hlisted : graph.edgesFrom source = .ok listed) :
    listed.Perm (graph.edgesOf source) :=
  perm_of_sortChecked ActualEdge.lawful_listing hlisted

theorem mem_of_edgesFrom (hlisted : graph.edgesFrom source = .ok listed) {edge : ActualEdge} :
    edge ∈ listed ↔ edge ∈ graph.edgesOf source :=
  (perm_of_edgesFrom hlisted).mem_iff

def Listable (graph : ActualGraph) (source : Nat) : Prop :=
  ∃ listed, graph.edgesFrom source = .ok listed

theorem Listable.not_error (hlistable : graph.Listable source) {fault : Key.Fault} :
    graph.edgesFrom source ≠ .error fault := by
  obtain ⟨listed, hlisted⟩ := hlistable
  simp [hlisted]

/-- The edges of a component can be listed exactly if no two of them clash. -/
theorem listable_iff :
    graph.Listable source ↔
      ∀ first ∈ graph.edgesOf source, ∀ second ∈ graph.edgesOf source,
        ¬ActualEdge.Clash first second := by
  rw [Listable, edgesFrom, exists_sortChecked_eq_ok_iff ActualEdge.lawful_listing,
    List.Pairwise.iff fun _ _ => ActualEdge.comparable_listing_iff]
  constructor
  · intro hpairs
    have hsymm : Std.Symm fun first second => ¬ActualEdge.Clash first second :=
      ⟨fun _ _ hclash hback => hclash hback.symm⟩
    exact hpairs.forall_of_forall fun _ _ hclash => hclash.2.2 rfl
  · exact List.pairwise_of_forall_mem_list

theorem exists_allEdges_eq_ok (hlistable : ∀ source, graph.Listable source) :
    ∃ listed, graph.allEdges = .ok listed := by
  have heach : ∃ lists, graph.edges.entries.mapM (fun entry => graph.edgesFrom entry.1) =
      .ok lists :=
    exists_mapM_eq_ok_iff.2 fun entry _ => hlistable entry.1
  obtain ⟨lists, hlists⟩ := heach
  exact ⟨lists.flatten, bind_eq_ok_iff.2 ⟨lists, hlists, rfl⟩⟩

/-- Targets without an id are in the way of a listing only if they should have one. -/
theorem listable_of_identified (hids : ∀ edge ∈ graph.edgesOf source, edge.target.Identified) :
    graph.Listable source := by
  refine listable_iff.2 fun first hfirst second hsecond hclash => ?_
  obtain ⟨-, hkind, hne⟩ := hclash
  exact hne (Target.isSome_ref?_eq (hids first hfirst) (hids second hsecond) hkind)

/-- Edges with different targets are listed in strictly ascending order. -/
theorem pairwise_of_edgesFrom (hnodup : ((graph.edgesOf source).map (·.target.key)).Nodup)
    (hlisted : graph.edgesFrom source = .ok listed) :
    listed.Pairwise fun first second => ActualEdge.listing first second = .ok .lt := by
  have hkeys : (listed.map (·.target.key)).Nodup :=
    ((perm_of_edgesFrom hlisted).map _).nodup_iff.2 hnodup
  have hsorted := pairwise_of_sortChecked ActualEdge.lawful_listing hlisted
  refine (hsorted.and (List.pairwise_map.1 hkeys)).imp ?_
  rintro first second ⟨⟨comparison, hlisting, hle⟩, hkey⟩
  cases comparison with
  | lt => exact hlisting
  | gt => cases hle
  | eq =>
      obtain ⟨-, hrank⟩ := ActualEdge.listing_eq_ok_iff.1 hlisting
      exact absurd (ActualEdge.key_eq_of_rank_eq hrank) hkey

end ActualGraph

end RenderAudit
