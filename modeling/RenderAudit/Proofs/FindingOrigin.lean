import RenderAudit.Comparison
import RenderAudit.Proofs.Search

/-!
# Where findings come from

The comparison returns the findings of earlier steps and those of its three checks, each of which is
read back here to the declared edge, the actual edge, or the group and the slot that it is about.
-/

namespace RenderAudit

namespace Finding

theorem mem_of_mem_sort {finding : Finding} {findings : List Finding}
    (hmem : finding ∈ sort findings) : finding ∈ findings :=
  (mem_of_mem_firstsBy (mem_sortBy.1 hmem)).1

/-- Sorting drops a finding only for an equal one. -/
theorem exists_mem_sort {finding : Finding} {findings : List Finding}
    (hmem : finding ∈ findings) : ∃ other ∈ sort findings, other.identity = finding.identity := by
  have hkept : ∃ other ∈ firstsBy identity [] findings, other.identity = finding.identity :=
    exists_mem_firstsBy hmem List.not_mem_nil
  obtain ⟨other, hother, hidentity⟩ := hkept
  exact ⟨other, mem_sortBy.2 hother, hidentity⟩

end Finding

namespace Comparison

variable {comparison : Comparison} {component : Component} {finding : Finding}

/-- Whether a component is held to its declarations. -/
def Accountable (comparison : Comparison) (component : Component) : Prop :=
  comparison.declared.optedIn.contains component.id = true ∧
    comparison.declared.wildcard.contains component.id = false

theorem undeclaredUsages_of_accountable (haccountable : comparison.Accountable component) :
    comparison.undeclaredUsages component =
      (comparison.actual.edgesFrom component.id).map fun edges =>
        (edges.filter fun edge =>
          !edge.target.isOpaque && edge.target.kind ≠ .intrinsic &&
            !comparison.covers component.id edge).map (comparison.undeclaredFinding component) := by
  rw [undeclaredUsages, haccountable.1, haccountable.2]
  cases comparison.actual.edgesFrom component.id <;> rfl

theorem undeclaredUsages_of_not_accountable (haccountable : ¬comparison.Accountable component) :
    comparison.undeclaredUsages component = .ok [] := by
  refine if_neg fun hopted => haccountable ?_
  rwa [Bool.and_eq_true, Bool.not_eq_true'] at hopted

/-- Edges that cannot be listed break the check off, where there are declarations to hold them
to. -/
theorem exists_undeclaredUsages_eq_ok_iff :
    (∃ undeclared, comparison.undeclaredUsages component = .ok undeclared) ↔
      (comparison.Accountable component → comparison.actual.Listable component.id) := by
  by_cases haccountable : comparison.Accountable component
  · simp only [undeclaredUsages_of_accountable haccountable, exists_map_eq_ok_iff, haccountable,
      true_imp_iff, ActualGraph.Listable]
  · simp [undeclaredUsages_of_not_accountable haccountable, haccountable]

theorem mem_undeclaredUsages_iff {undeclared : List Finding}
    (hundeclared : comparison.undeclaredUsages component = .ok undeclared) :
    finding ∈ undeclared ↔
      comparison.declared.optedIn.contains component.id = true ∧
        comparison.declared.wildcard.contains component.id = false ∧
        ∃ edge ∈ comparison.actual.edgesOf component.id,
          edge.target.isOpaque = false ∧ edge.target.kind ≠ .intrinsic ∧
            comparison.covers component.id edge = false ∧
            comparison.undeclaredFinding component edge = finding := by
  by_cases haccountable : comparison.Accountable component
  · rw [undeclaredUsages_of_accountable haccountable] at hundeclared
    obtain ⟨listed, hlisted, rfl⟩ := map_eq_ok_iff.1 hundeclared
    simp only [haccountable.1, haccountable.2, true_and, List.mem_map, List.mem_filter,
      Bool.and_eq_true, Bool.not_eq_true', decide_eq_true_eq, and_assoc,
      ActualGraph.mem_of_edgesFrom hlisted]
  · rw [undeclaredUsages_of_not_accountable haccountable] at hundeclared
    cases hundeclared
    constructor
    · intro hmem
      cases hmem
    · rintro ⟨hin, hwild, -⟩
      exact absurd ⟨hin, hwild⟩ haccountable

/-- A declared edge has no counterpart: the property that it runs through is dropped, or, if there
is none, its target is not observed. -/
def Unfulfilled (comparison : Comparison) (component : Nat) (edge : DeclaredEdge) :
    Option String → Prop
  | some name => (comparison.actual.resolve ⟨component, name⟩).state = .dropped
  | none => comparison.observed component edge.target.key = .ok false

section Missing

variable {edge : DeclaredEdge}

theorem missingDeclaration?_of_direct
    (hdirect : comparison.forwardedProperty edge = .ok none) :
    comparison.missingDeclaration? component edge =
      ((comparison.observed component.id edge.target.key).map fun present =>
        if present then none else some (missingFinding component edge none)).mapError .key := by
  rw [missingDeclaration?, hdirect]
  cases comparison.observed component.id edge.target.key <;> rfl

theorem missingDeclaration?_of_named {name : String}
    (hnamed : comparison.forwardedProperty edge = .ok (some name)) :
    comparison.missingDeclaration? component edge =
      .ok (if (comparison.actual.resolve ⟨component.id, name⟩).state = .dropped then
        some (missingFinding component edge (some name)) else none) := by
  rw [missingDeclaration?, hnamed]
  by_cases hdropped : (comparison.actual.resolve ⟨component.id, name⟩).state = .dropped <;>
    simp [hdropped, bind, Except.bind, Except.mapError, pure, Except.pure]

theorem forwardedProperty_of_missingDeclaration? {found : Option Finding}
    (hfound : comparison.missingDeclaration? component edge = .ok found) :
    ∃ property, comparison.forwardedProperty edge = .ok property := by
  obtain ⟨property, hproperty, -⟩ := bind_eq_ok_iff.1 hfound
  exact ⟨property, mapError_eq_ok_iff.1 hproperty⟩

theorem missingDeclaration?_eq_ok_some_iff :
    comparison.missingDeclaration? component edge = .ok (some finding) ↔
      ∃ property, comparison.forwardedProperty edge = .ok property ∧
        comparison.Unfulfilled component.id edge property ∧
        missingFinding component edge property = finding := by
  have hcases : ∀ property, comparison.forwardedProperty edge = .ok property →
      (comparison.missingDeclaration? component edge = .ok (some finding) ↔
        comparison.Unfulfilled component.id edge property ∧
          missingFinding component edge property = finding) := by
    intro property hproperty
    cases property with
    | none => simp [missingDeclaration?_of_direct hproperty, mapError_eq_ok_iff, map_eq_ok_iff,
        Unfulfilled]
    | some name => simp [missingDeclaration?_of_named hproperty, Unfulfilled]
  constructor
  · intro hfinding
    obtain ⟨property, hproperty⟩ := forwardedProperty_of_missingDeclaration? hfinding
    exact ⟨property, hproperty, (hcases property hproperty).1 hfinding⟩
  · rintro ⟨property, hproperty, hunfulfilled⟩
    exact (hcases property hproperty).2 hunfulfilled

/-- The check of a declared edge answers, if what it asks for has an answer. -/
def Answerable (comparison : Comparison) (component : Nat) (edge : DeclaredEdge) : Prop :=
  ∃ property, comparison.forwardedProperty edge = .ok property ∧
    (property = none → ∃ answer, comparison.observed component edge.target.key = .ok answer)

theorem exists_missingDeclaration?_eq_ok_iff :
    (∃ found, comparison.missingDeclaration? component edge = .ok found) ↔
      comparison.Answerable component.id edge := by
  have hcases : ∀ property, comparison.forwardedProperty edge = .ok property →
      ((∃ found, comparison.missingDeclaration? component edge = .ok found) ↔
        (property = none →
          ∃ answer, comparison.observed component.id edge.target.key = .ok answer)) := by
    intro property hproperty
    cases property with
    | none =>
        simp only [missingDeclaration?_of_direct hproperty, mapError_eq_ok_iff,
          exists_map_eq_ok_iff, true_imp_iff]
    | some name => simp [missingDeclaration?_of_named hproperty]
  constructor
  · rintro ⟨found, hfound⟩
    obtain ⟨property, hproperty⟩ := forwardedProperty_of_missingDeclaration? hfound
    exact ⟨property, hproperty, (hcases property hproperty).1 ⟨found, hfound⟩⟩
  · rintro ⟨property, hproperty, hanswer⟩
    exact (hcases property hproperty).2 hanswer

theorem answerable_iff_of_listable (hlistable : ∀ component, comparison.actual.Listable component)
    {component : Nat} :
    comparison.Answerable component edge ↔
      ∃ property, comparison.forwardedProperty edge = .ok property := by
  refine exists_congr fun property => and_iff_left fun _ => ?_
  unfold observed
  split
  · exact ⟨true, rfl⟩
  split
  · exact exists_map_eq_ok_iff.2
      (ActualGraph.exists_reaches_eq_ok _ fun _ _ component _ => hlistable component)
  · exact ⟨false, rfl⟩

theorem kind_of_missingDeclaration?
    (hfinding : comparison.missingDeclaration? component edge = .ok (some finding)) :
    finding.kind = .missingDeclaration := by
  obtain ⟨property, -, -, rfl⟩ := missingDeclaration?_eq_ok_some_iff.1 hfinding
  cases property <;> rfl

end Missing

theorem missingDeclarations_eq_ok_of_walked {missing : List Finding}
    (hwalked : comparison.actual.wasWalked component.id = true) :
    comparison.missingDeclarations component = .ok missing ↔
      ∃ found, (comparison.declared.edgesFrom component.id).mapM
        (comparison.missingDeclaration? component) = .ok found ∧ found.filterMap id = missing := by
  unfold missingDeclarations
  rw [if_pos hwalked, bind_eq_ok_iff]
  simp only [pure_eq_ok_iff]

theorem exists_missingDeclarations_eq_ok_iff :
    (∃ missing, comparison.missingDeclarations component = .ok missing) ↔
      (comparison.actual.wasWalked component.id = true →
        ∀ edge ∈ comparison.declared.edgesFrom component.id,
          comparison.Answerable component.id edge) := by
  by_cases hwalked : comparison.actual.wasWalked component.id = true
  · have hedges : (∃ found, (comparison.declared.edgesFrom component.id).mapM
          (comparison.missingDeclaration? component) = .ok found) ↔
        ∀ edge ∈ comparison.declared.edgesFrom component.id,
          comparison.Answerable component.id edge := by
      rw [exists_mapM_eq_ok_iff]
      exact forall₂_congr fun edge _ => exists_missingDeclaration?_eq_ok_iff
    simp only [missingDeclarations_eq_ok_of_walked hwalked, hwalked, true_imp_iff, ← hedges]
    constructor
    · rintro ⟨missing, found, hfound, -⟩
      exact ⟨found, hfound⟩
    · rintro ⟨found, hfound⟩
      exact ⟨found.filterMap id, found, hfound, rfl⟩
  · simp [missingDeclarations, hwalked]

/-- Where edges can be listed, the check of declared edges hangs on the declarations alone. -/
theorem exists_missingDeclarations_eq_ok_iff_of_listable
    (hlistable : ∀ component, comparison.actual.Listable component) :
    (∃ missing, comparison.missingDeclarations component = .ok missing) ↔
      (comparison.actual.wasWalked component.id = true →
        ∀ edge ∈ comparison.declared.edgesFrom component.id,
          ∃ property, comparison.forwardedProperty edge = .ok property) := by
  rw [exists_missingDeclarations_eq_ok_iff]
  simp only [answerable_iff_of_listable hlistable]

theorem mem_missingDeclarations_iff {missing : List Finding}
    (hmissing : comparison.missingDeclarations component = .ok missing) :
    finding ∈ missing ↔
      comparison.actual.wasWalked component.id = true ∧
        ∃ edge ∈ comparison.declared.edgesFrom component.id,
          comparison.missingDeclaration? component edge = .ok (some finding) := by
  by_cases hwalked : comparison.actual.wasWalked component.id = true
  · obtain ⟨found, hfound, rfl⟩ := (missingDeclarations_eq_ok_of_walked hwalked).1 hmissing
    simp only [List.mem_filterMap, id_eq, exists_eq_right, hwalked, true_and,
      mem_of_mapM_eq_ok hfound]
  · rw [missingDeclarations, if_neg hwalked] at hmissing
    cases hmissing
    simp [hwalked]

section Supplied

variable {group : SupplyGroup} {slot : Slot}

theorem mem_pairs_iff {property : Property} {entry : Target × Target} :
    (entry ∈ group.members.flatMap fun member =>
        (comparison.expectedTargets property).map fun target => (member.target, target)) ↔
      ∃ member ∈ group.members, ∃ target ∈ comparison.expectedTargets property,
        (member.target, target) = entry := by
  simp only [List.mem_flatMap, List.mem_map]

theorem mem_of_verdicts {property : Property} {verdicts : List Consistency}
    (hverdicts : comparison.verdicts group property = .ok verdicts) {verdict : Consistency} :
    verdict ∈ verdicts ↔
      ∃ member ∈ group.members, ∃ target ∈ comparison.expectedTargets property,
        comparison.consistency member.target target = .ok verdict := by
  rw [mem_of_mapM_eq_ok hverdicts]
  constructor
  · rintro ⟨entry, hentry, hverdict⟩
    obtain ⟨member, hmember, target, htarget, rfl⟩ := mem_pairs_iff.1 hentry
    exact ⟨member, hmember, target, htarget, hverdict⟩
  · rintro ⟨member, hmember, target, htarget, hverdict⟩
    exact ⟨_, mem_pairs_iff.2 ⟨member, hmember, target, htarget, rfl⟩, hverdict⟩

theorem exists_verdicts_eq_ok_iff {property : Property} :
    (∃ verdicts, comparison.verdicts group property = .ok verdicts) ↔
      ∀ member ∈ group.members, ∀ target ∈ comparison.expectedTargets property,
        ∃ verdict, comparison.consistency member.target target = .ok verdict := by
  unfold verdicts
  rw [exists_mapM_eq_ok_iff]
  constructor
  · intro hall member hmember target htarget
    exact hall _ (mem_pairs_iff.2 ⟨member, hmember, target, htarget, rfl⟩)
  · intro hall entry hentry
    obtain ⟨member, hmember, target, htarget, rfl⟩ := mem_pairs_iff.1 hentry
    exact hall member hmember target htarget

/-- Every member disagrees with every expected target. -/
def AllMismatched (comparison : Comparison) (group : SupplyGroup) (property : Property) : Prop :=
  ∀ member ∈ group.members, ∀ target ∈ comparison.expectedTargets property,
    comparison.consistency member.target target = .ok .mismatched

theorem allMismatched_iff {property : Property} :
    comparison.AllMismatched group property ↔
      ∃ verdicts, comparison.verdicts group property = .ok verdicts ∧
        .consistent ∉ verdicts ∧ .uncertain ∉ verdicts := by
  constructor
  · intro hall
    obtain ⟨verdicts, hverdicts⟩ := exists_verdicts_eq_ok_iff.2
      fun member hmember target htarget => ⟨_, hall member hmember target htarget⟩
    have hother : ∀ verdict, verdict ≠ .mismatched → verdict ∉ verdicts := by
      intro verdict hne hmem
      obtain ⟨member, hmember, target, htarget, hverdict⟩ := (mem_of_verdicts hverdicts).1 hmem
      rw [hall member hmember target htarget] at hverdict
      exact hne (Except.ok.inj hverdict).symm
    exact ⟨verdicts, hverdicts, hother _ (by decide), hother _ (by decide)⟩
  · rintro ⟨verdicts, hverdicts, hconsistent, huncertain⟩ member hmember target htarget
    obtain ⟨verdict, hverdict⟩ :=
      exists_verdicts_eq_ok_iff.1 ⟨verdicts, hverdicts⟩ member hmember target htarget
    have hmem := (mem_of_verdicts hverdicts).2 ⟨member, hmember, target, htarget, hverdict⟩
    cases verdict with
    | consistent => exact absurd hmem hconsistent
    | uncertain => exact absurd hmem huncertain
    | mismatched => exact hverdict

theorem isOpaque_eq_false_of_mismatched {supplied target : Target}
    (hverdict : comparison.consistency supplied target = .ok .mismatched) :
    supplied.key ≠ target.key ∧ supplied.isOpaque = false := by
  unfold consistency at hverdict
  split at hverdict
  · cases hverdict
  · next hkey =>
    split at hverdict
    · cases hverdict
    · next htraced => exact ⟨hkey, by simpa using htraced⟩

theorem consistency_eq_mismatched_iff (htransitive : comparison.config.transitive = true)
    {supplied target : Target} :
    comparison.consistency supplied target = .ok .mismatched ↔
      supplied.key ≠ target.key ∧ supplied.isOpaque = false ∧
        (supplied.kind = .intrinsic ∨
          ∀ component, supplied.ref = some component →
            comparison.declared.declares component target.key = false ∧
              comparison.actual.reaches component target.key = .ok .notReached) := by
  constructor
  · intro hverdict
    obtain ⟨hkey, htraced⟩ := isOpaque_eq_false_of_mismatched hverdict
    refine ⟨hkey, htraced, ?_⟩
    by_cases hintrinsic : supplied.kind = .intrinsic
    · exact .inl hintrinsic
    refine .inr fun component href => ?_
    rw [consistency, if_neg hkey, if_neg (by simp [htraced]), if_neg hintrinsic,
      if_neg (by simp [htransitive]), href] at hverdict
    simp only at hverdict
    split at hverdict
    · cases hverdict
    next hdeclares =>
    obtain ⟨answer, hreach, hanswer⟩ := map_eq_ok_iff.1 hverdict
    refine ⟨by simpa using hdeclares, ?_⟩
    cases answer with
    | notReached => exact hreach
    | reached => cases hanswer
    | incomplete => cases hanswer
  · rintro ⟨hkey, htraced, hunrelated⟩
    rw [consistency, if_neg hkey, if_neg (by simp [htraced])]
    split
    · rfl
    next hintrinsic =>
    rw [if_neg (by simp [htransitive])]
    cases href : supplied.ref with
    | none => rfl
    | some component =>
        obtain ⟨hdeclares, hreach⟩ := hunrelated.resolve_left hintrinsic component href
        simp [hdeclares, hreach, Except.map, Consistency.ofReach]

/-- What is reported of a group that disagrees with a slot, and of one that may do so. -/
def slotFinding (comparison : Comparison)
    (report : Span → String → String → String → String → Finding) (group : SupplyGroup)
    (slot : Slot) (property : Property) (first : Instantiation) (owner : Component) : Finding :=
  report first.span owner.name slot.property
    (" or ".intercalate ((comparison.expectedTargets property).map Target.label))
    (", ".intercalate (group.members.map (·.target.label)))

theorem checkSlot_of_members {property : Property} {first : Instantiation}
    {rest : List Instantiation}
    (hproperty : comparison.arena.propertyOf? slot.owner slot.property = some property)
    (hmembers : group.members = first :: rest) :
    comparison.checkSlot group slot = do
      let verdicts ← (comparison.verdicts group property).mapError .key
      if (comparison.expectedTargets property).isEmpty || verdicts.contains .consistent then
        return none
      else
        let owner ← (comparison.arena.component slot.owner).mapError .arena
        if group.members.any (·.target.isOpaque) then return none
        else if verdicts.contains .uncertain then
          return some (comparison.slotFinding uncertainFinding group slot property first owner)
        else
          return some (comparison.slotFinding mismatchFinding group slot property first owner) := by
  obtain ⟨id, target, span, members, forwards⟩ := group
  cases hmembers
  simp only [checkSlot, hproperty]
  rfl

theorem checkSlot_eq_none_of_empty
    (hempty : comparison.arena.propertyOf? slot.owner slot.property = none ∨ group.members = []) :
    comparison.checkSlot group slot = .ok none := by
  unfold checkSlot
  rcases hempty with hnone | hnil
  · rw [hnone]
  · rw [hnil]
    cases comparison.arena.propertyOf? slot.owner slot.property <;> rfl

/-- A finding about a group at a slot: no verdict is that they agree, nothing that was supplied is
opaque, and an uncertain verdict decides which of the two findings it is. -/
theorem checkSlot_eq_ok_some_iff :
    comparison.checkSlot group slot = .ok (some finding) ↔
      ∃ property first rest verdicts owner,
        comparison.arena.propertyOf? slot.owner slot.property = some property ∧
          group.members = first :: rest ∧
          comparison.verdicts group property = .ok verdicts ∧
          comparison.expectedTargets property ≠ [] ∧ .consistent ∉ verdicts ∧
          comparison.arena.component slot.owner = .ok owner ∧
          group.members.any (·.target.isOpaque) = false ∧
          ((.uncertain ∈ verdicts ∧
              comparison.slotFinding uncertainFinding group slot property first owner = finding) ∨
            (.uncertain ∉ verdicts ∧
              comparison.slotFinding mismatchFinding group slot property first owner =
                finding)) := by
  constructor
  · intro hcheck
    cases hproperty : comparison.arena.propertyOf? slot.owner slot.property with
    | none =>
        rw [checkSlot_eq_none_of_empty (.inl hproperty)] at hcheck
        cases hcheck
    | some property =>
        cases hmembers : group.members with
        | nil =>
            rw [checkSlot_eq_none_of_empty (.inr hmembers)] at hcheck
            cases hcheck
        | cons first rest =>
            rw [checkSlot_of_members hproperty hmembers] at hcheck
            obtain ⟨verdicts, hverdicts, hcheck⟩ := bind_eq_ok_iff.1 hcheck
            rw [mapError_eq_ok_iff] at hverdicts
            split at hcheck
            · cases hcheck
            next hchecked =>
            simp only [Bool.or_eq_true, List.isEmpty_iff, List.contains_iff_mem, not_or]
              at hchecked
            obtain ⟨owner, howner, hcheck⟩ := bind_eq_ok_iff.1 hcheck
            rw [mapError_eq_ok_iff] at howner
            split at hcheck
            · cases hcheck
            next htraced =>
            rw [hmembers, Bool.not_eq_true] at htraced
            refine ⟨property, first, rest, verdicts, owner, rfl, rfl, hverdicts, hchecked.1,
              hchecked.2, howner, htraced, ?_⟩
            split at hcheck
            · next huncertain =>
              cases hcheck
              exact .inl ⟨List.contains_iff_mem.1 huncertain, rfl⟩
            · next huncertain =>
              cases hcheck
              exact .inr ⟨fun hmem => huncertain (List.contains_iff_mem.2 hmem), rfl⟩
  · rintro ⟨property, first, rest, verdicts, owner, hproperty, hmembers, hverdicts, hne,
      hconsistent, howner, htraced, hverdict⟩
    rw [checkSlot_of_members hproperty hmembers]
    refine bind_eq_ok_iff.2 ⟨verdicts, mapError_eq_ok_iff.2 hverdicts, ?_⟩
    rw [if_neg (by simp [hne, hconsistent])]
    refine bind_eq_ok_iff.2 ⟨owner, mapError_eq_ok_iff.2 howner, ?_⟩
    rcases hverdict with ⟨huncertain, rfl⟩ | ⟨huncertain, rfl⟩
    · simp [htraced, huncertain, pure, Except.pure]
    · simp [htraced, huncertain, pure, Except.pure]

theorem kind_of_checkSlot (hcheck : comparison.checkSlot group slot = .ok (some finding)) :
    finding.kind = .unresolvedTarget ∨ finding.kind = .mismatchedTarget := by
  obtain ⟨property, first, rest, verdicts, owner, -, -, -, -, -, -, -, ⟨-, rfl⟩ | ⟨-, rfl⟩⟩ :=
    checkSlot_eq_ok_some_iff.1 hcheck
  · exact .inl rfl
  · exact .inr rfl

theorem checkSlot_eq_mismatch_iff :
    comparison.checkSlot group slot = .ok (some finding) ∧ finding.kind = .mismatchedTarget ↔
      ∃ property first rest owner,
        comparison.arena.propertyOf? slot.owner slot.property = some property ∧
          group.members = first :: rest ∧ comparison.expectedTargets property ≠ [] ∧
          comparison.AllMismatched group property ∧
          comparison.arena.component slot.owner = .ok owner ∧
          comparison.slotFinding mismatchFinding group slot property first owner = finding := by
  rw [checkSlot_eq_ok_some_iff]
  constructor
  · rintro ⟨⟨property, first, rest, verdicts, owner, hproperty, hmembers, hverdicts, hne,
      hconsistent, howner, -, ⟨-, rfl⟩ | ⟨huncertain, rfl⟩⟩, hkind⟩
    · cases hkind
    · exact ⟨property, first, rest, owner, hproperty, hmembers, hne,
        allMismatched_iff.2 ⟨verdicts, hverdicts, hconsistent, huncertain⟩, howner, rfl⟩
  · rintro ⟨property, first, rest, owner, hproperty, hmembers, hne, hall, howner, rfl⟩
    obtain ⟨verdicts, hverdicts, hconsistent, huncertain⟩ := allMismatched_iff.1 hall
    -- Disagreement with a single target already shows that a member is not opaque.
    obtain ⟨target, htarget⟩ := List.exists_mem_of_ne_nil _ hne
    have htraced : group.members.any (·.target.isOpaque) = false := by
      rw [List.any_eq_false]
      intro member hmember
      rw [(isOpaque_eq_false_of_mismatched (hall member hmember target htarget)).2]
      exact Bool.false_ne_true
    exact ⟨⟨property, first, rest, verdicts, owner, hproperty, hmembers, hverdicts, hne,
      hconsistent, howner, htraced, .inr ⟨huncertain, rfl⟩⟩, rfl⟩

theorem exists_consistency_eq_ok (hlistable : ∀ component, comparison.actual.Listable component)
    (supplied target : Target) :
    ∃ verdict, comparison.consistency supplied target = .ok verdict := by
  unfold consistency
  repeat' split
  · exact ⟨_, rfl⟩
  · exact ⟨_, rfl⟩
  · exact ⟨_, rfl⟩
  · exact ⟨_, rfl⟩
  · exact ⟨_, rfl⟩
  · exact ⟨_, rfl⟩
  · exact exists_map_eq_ok_iff.2
      (ActualGraph.exists_reaches_eq_ok _ fun _ _ component _ => hlistable component)

theorem exists_checkSlot_eq_ok (hlistable : ∀ component, comparison.actual.Listable component)
    (howner : slot.owner < comparison.arena.components.length) :
    ∃ found, comparison.checkSlot group slot = .ok found := by
  cases hproperty : comparison.arena.propertyOf? slot.owner slot.property with
  | none => exact ⟨none, checkSlot_eq_none_of_empty (.inl hproperty)⟩
  | some property =>
      cases hmembers : group.members with
      | nil => exact ⟨none, checkSlot_eq_none_of_empty (.inr hmembers)⟩
      | cons first rest =>
          obtain ⟨owner, howner⟩ := Arena.exists_component_eq_ok howner
          obtain ⟨verdicts, hverdicts⟩ : ∃ verdicts,
              comparison.verdicts group property = .ok verdicts :=
            exists_verdicts_eq_ok_iff.2 fun member _ target _ =>
              exists_consistency_eq_ok hlistable member.target target
          rw [checkSlot_of_members hproperty hmembers, hverdicts, howner]
          simp only [Except.mapError, bind, Except.bind]
          split
          · exact ⟨none, rfl⟩
          · cases group.members.any (·.target.isOpaque) <;>
              cases verdicts.contains .uncertain <;> exact ⟨_, rfl⟩

theorem mem_checkedSlots_iff :
    slot ∈ comparison.checkedSlots group ↔
      slot = group.slot ∨ slot ∈ (comparison.actual.resolve group.slot).reached := by
  simp [checkedSlots]

theorem mem_suppliedContent_iff {supplied : List Finding}
    (hsupplied : comparison.suppliedContent component = .ok supplied) :
    finding ∈ supplied ↔
      ∃ group ∈ comparison.actual.groupsOf component.id, ∃ slot ∈ comparison.checkedSlots group,
        comparison.checkSlot group slot = .ok (some finding) := by
  unfold suppliedContent at hsupplied
  obtain ⟨found, hfound, hsupplied⟩ := bind_eq_ok_iff.1 hsupplied
  rw [pure_eq_ok_iff] at hsupplied
  subst hsupplied
  simp only [List.mem_filterMap, id_eq, exists_eq_right, mem_of_mapM_eq_ok hfound,
    List.mem_flatMap, List.mem_filter, List.mem_map]
  constructor
  · rintro ⟨entry, ⟨group, ⟨hgroup, -⟩, slot, hslot, rfl⟩, hcheck⟩
    exact ⟨group, hgroup, slot, hslot, hcheck⟩
  · rintro ⟨group, hgroup, slot, hslot, hcheck⟩
    refine ⟨(group, slot), ⟨group, ⟨hgroup, ?_⟩, slot, hslot, rfl⟩, hcheck⟩
    rw [Bool.not_eq_true', List.isEmpty_eq_false_iff]
    intro hnil
    rw [checkSlot_eq_none_of_empty (.inr hnil)] at hcheck
    cases hcheck

theorem exists_suppliedContent_eq_ok (hlistable : ∀ component, comparison.actual.Listable component)
    (howners : ∀ group ∈ comparison.actual.groupsOf component.id,
      ∀ slot ∈ comparison.checkedSlots group, slot.owner < comparison.arena.components.length) :
    ∃ supplied, comparison.suppliedContent component = .ok supplied := by
  have hchecks : ∃ found, (((comparison.actual.groupsOf component.id).filter
      (!·.members.isEmpty)).flatMap fun group =>
        (comparison.checkedSlots group).map fun slot => (group, slot)).mapM
      (fun entry => comparison.checkSlot entry.1 entry.2) = .ok found := by
    rw [exists_mapM_eq_ok_iff]
    intro entry hentry
    simp only [List.mem_flatMap, List.mem_filter, List.mem_map] at hentry
    obtain ⟨group, ⟨hgroup, -⟩, slot, hslot, rfl⟩ := hentry
    exact exists_checkSlot_eq_ok hlistable (howners group hgroup slot hslot)
  obtain ⟨found, hfound⟩ := hchecks
  refine ⟨found.filterMap id, ?_⟩
  unfold suppliedContent
  exact bind_eq_ok_iff.2 ⟨found, hfound, rfl⟩

end Supplied

theorem mem_componentFindings_iff :
    finding ∈ comparison.componentFindings component ↔
      ∃ undeclared, comparison.undeclaredUsages component = .ok undeclared ∧
        (finding ∈ undeclared ∨
          ∃ missing, comparison.missingDeclarations component = .ok missing ∧
            (finding ∈ missing ∨
              ∃ supplied, comparison.suppliedContent component = .ok supplied ∧
                finding ∈ supplied)) := by
  unfold componentFindings
  cases comparison.undeclaredUsages component with
  | error fault => simp
  | ok undeclared =>
  simp only [List.mem_append, Except.ok.injEq, exists_eq_left']
  apply or_congr_right
  cases comparison.missingDeclarations component with
  | error fault => simp
  | ok missing =>
      simp only [List.mem_append, Except.ok.injEq, exists_eq_left']
      apply or_congr_right
      cases comparison.suppliedContent component with
      | error fault => simp
      | ok supplied => simp

/-- The kind of a component's finding tells what it is about. -/
theorem origin_of_mem_componentFindings (hmem : finding ∈ comparison.componentFindings component) :
    finding.kind = .undeclaredUsage ∨
      (finding.kind = .missingDeclaration ∧
        ∃ edge ∈ comparison.declared.edgesFrom component.id,
          comparison.missingDeclaration? component edge = .ok (some finding)) ∨
      ((finding.kind = .unresolvedTarget ∨ finding.kind = .mismatchedTarget) ∧
        ∃ group ∈ comparison.actual.groupsOf component.id, ∃ slot ∈ comparison.checkedSlots group,
          comparison.checkSlot group slot = .ok (some finding)) := by
  obtain ⟨undeclared, hundeclared, hfound | ⟨missing, hmissing, hfound |
    ⟨supplied, hsupplied, hfound⟩⟩⟩ := mem_componentFindings_iff.1 hmem
  · obtain ⟨-, -, edge, -, -, -, -, rfl⟩ := (mem_undeclaredUsages_iff hundeclared).1 hfound
    exact .inl rfl
  · obtain ⟨-, edge, hedge, hfinding⟩ := (mem_missingDeclarations_iff hmissing).1 hfound
    exact .inr (.inl ⟨kind_of_missingDeclaration? hfinding, edge, hedge, hfinding⟩)
  · obtain ⟨group, hgroup, slot, hslot, hcheck⟩ := (mem_suppliedContent_iff hsupplied).1 hfound
    exact .inr (.inr ⟨kind_of_checkSlot hcheck, group, hgroup, slot, hslot, hcheck⟩)

theorem exists_mem_missingDeclarations (hmem : finding ∈ comparison.componentFindings component)
    (hkind : finding.kind = .missingDeclaration) :
    ∃ missing, comparison.missingDeclarations component = .ok missing ∧ finding ∈ missing := by
  obtain ⟨undeclared, hundeclared, hfound | ⟨missing, hmissing, hfound |
    ⟨supplied, hsupplied, hfound⟩⟩⟩ := mem_componentFindings_iff.1 hmem
  · obtain ⟨-, -, edge, -, -, -, -, rfl⟩ := (mem_undeclaredUsages_iff hundeclared).1 hfound
    cases hkind
  · exact ⟨missing, hmissing, hfound⟩
  · obtain ⟨group, -, slot, -, hcheck⟩ := (mem_suppliedContent_iff hsupplied).1 hfound
    rcases kind_of_checkSlot hcheck with hother | hother
    · simp [hkind] at hother
    · simp [hkind] at hother

theorem mem_of_mem_findings {earlier : List Finding}
    (hmem : finding ∈ comparison.findings earlier) :
    finding ∈ earlier ∨
      ∃ component ∈ comparison.arena.components,
        finding ∈ comparison.componentFindings component := by
  have hsorted := Finding.mem_of_mem_sort hmem
  rwa [List.mem_append, List.mem_flatMap] at hsorted

theorem exists_mem_findings {earlier : List Finding}
    (hmem : finding ∈ earlier ∨
      ∃ component ∈ comparison.arena.components,
        finding ∈ comparison.componentFindings component) :
    ∃ other ∈ comparison.findings earlier, other.identity = finding.identity := by
  rw [← List.mem_flatMap, ← List.mem_append] at hmem
  exact Finding.exists_mem_sort hmem

end Comparison

end RenderAudit
