import Mathlib.Data.List.Forall2
import Mathlib.Data.List.Induction
import Mathlib.Data.Prod.Lex
import Mathlib.Data.String.Basic
import RenderAudit.Proofs.AnalysisSound
import RenderAudit.Proofs.ReportOrder
import RenderAudit.Report

/-!
# Reports in canonical form

Findings are told apart by their whole span, but sorted by the start of it. So findings that sorting
does not tell apart can stand beside each other, and only their order of first occurrence decides
between them. With it the report of a list of findings is determined, and it does not matter whether
a part of the list was sorted before.
-/

namespace RenderAudit

/-! ### What findings are sorted by -/

def Span.sortKey (span : Span) : String ×ₗ Int ×ₗ Int :=
  toLex (span.file, toLex (span.line, span.column))

theorem FindingKind.rank_injective : Function.Injective FindingKind.rank := by
  intro first second hrank
  cases first <;> cases second <;> first | rfl | cases hrank

namespace Finding

def sortKey (finding : Finding) : (String ×ₗ Int ×ₗ Int) ×ₗ Nat ×ₗ String :=
  toLex (finding.span.sortKey, toLex (finding.kind.rank, finding.message))

variable {first second : Finding}

theorem order_eq_compare (first second : Finding) :
    first.order second = compare first.sortKey second.sortKey := by
  simp only [Prod.Lex.compare_def]
  rfl

theorem isLE_order_iff : (first.order second).isLE = true ↔ first.sortKey ≤ second.sortKey := by
  rw [order_eq_compare, Ordering.isLE_iff_ne_gt]
  exact compare_le_iff_le

/-- The key of the order without the rank of a kind in its place. -/
def heading (finding : Finding) : (String × Int × Int) × FindingKind × String :=
  ((finding.span.file, finding.span.line, finding.span.column), finding.kind, finding.message)

theorem sortKey_eq_iff : first.sortKey = second.sortKey ↔ first.heading = second.heading := by
  simp only [sortKey, Span.sortKey, heading, toLex_inj, Prod.mk.injEq,
    FindingKind.rank_injective.eq_iff]

theorem heading_eq_of_identity_eq (hidentity : first.identity = second.identity) :
    first.heading = second.heading := by
  simp only [identity, Prod.mk.injEq] at hidentity
  obtain ⟨hkind, hspan, hmessage⟩ := hidentity
  rw [heading, heading, hkind, hspan, hmessage]

end Finding

/-! ### The order of first occurrence -/

theorem pairwise_findIdx_firstsBy {α κ : Type} [BEq κ] [LawfulBEq κ] [DecidableEq κ] (key : α → κ)
    (xs : List α) :
    (firstsBy key [] xs).Pairwise fun a b =>
      xs.findIdx (key · = key a) < xs.findIdx (key · = key b) := by
  induction xs using List.reverseRecOn with
  | nil => exact .nil
  | append_singleton xs x ih =>
      have hfound : ∀ a ∈ firstsBy key [] xs, xs.findIdx (key · = key a) < xs.length := by
        intro a ha
        rw [List.findIdx_lt_length]
        exact ⟨a, (mem_of_mem_firstsBy ha).1, decide_eq_true rfl⟩
      have hsame : ∀ a ∈ firstsBy key [] xs,
          (xs ++ [x]).findIdx (key · = key a) = xs.findIdx (key · = key a) := by
        intro a ha
        rw [List.findIdx_append, if_pos (hfound a ha)]
      have hkept : (firstsBy key [] xs).Pairwise fun a b =>
          (xs ++ [x]).findIdx (key · = key a) < (xs ++ [x]).findIdx (key · = key b) := by
        refine ih.imp_of_mem ?_
        intro a b ha hb hlt
        rw [hsame a ha, hsame b hb]
        exact hlt
      by_cases hx : key x ∈ xs.map key
      · rw [firstsBy_concat_of_mem (.inr hx)]
        exact hkept
      · rw [firstsBy_concat_of_notMem List.not_mem_nil hx, List.pairwise_append]
        refine ⟨hkept, List.pairwise_singleton _ _, ?_⟩
        intro a ha b hb
        rw [List.mem_singleton.1 hb, hsame a ha]
        -- The key of the last element occurs nowhere before it.
        have hlast : ¬xs.findIdx (key · = key x) < xs.length := by
          rw [List.findIdx_lt_length]
          rintro ⟨y, hy, hkey⟩
          exact hx (List.mem_map.2 ⟨y, hy, of_decide_eq_true hkey⟩)
        have hbehind : xs.length ≤ (xs ++ [x]).findIdx (key · = key x) := by
          rw [List.findIdx_append, if_neg hlast]
          exact Nat.le_add_left _ _
        exact Nat.lt_of_lt_of_le (hfound a ha) hbehind

namespace Finding

/-- Where the first finding of the same identity stands. -/
def firstPlace (findings : List Finding) (finding : Finding) : Nat :=
  findings.findIdx (·.identity = finding.identity)

/-- A report lists findings in order. It has the first finding of each identity, details included,
and nothing else, and what is equal in order stands as it occurred first. -/
structure Canonical (findings report : List Finding) : Prop where
  ordered : report.Pairwise fun first second => first.sortKey ≤ second.sortKey
  firsts : ∀ identity, report.filter (·.identity = identity) =
    (findings.find? (·.identity = identity)).toList
  stable : report.Pairwise fun first second =>
    first.sortKey = second.sortKey → firstPlace findings first < firstPlace findings second

theorem ordered_sort (findings : List Finding) :
    (sort findings).Pairwise fun first second => first.sortKey ≤ second.sortKey := by
  refine (pairwise_sortBy _).imp ?_
  intro first second hle
  exact isLE_order_iff.1 hle

theorem filter_identity_sort (findings : List Finding) (identity : FindingKind × Span × String) :
    (sort findings).filter (·.identity = identity) =
      (findings.find? (·.identity = identity)).toList := by
  rw [sort, filter_sortBy, filter_firstsBy_eq_find?]
  cases findings.find? (·.identity = identity) with
  | none => rfl
  | some finding => rfl

theorem filter_sortKey_sort (findings : List Finding)
    (key : (String ×ₗ Int ×ₗ Int) ×ₗ Nat ×ₗ String) :
    (sort findings).filter (·.sortKey = key) =
      (firstsBy identity [] findings).filter (·.sortKey = key) := by
  apply filter_sortBy_of_forall_isLE
  intro first second hfirst hsecond
  rw [isLE_order_iff, of_decide_eq_true hfirst, of_decide_eq_true hsecond]

theorem stable_sort (findings : List Finding) :
    (sort findings).Pairwise fun first second =>
      first.sortKey = second.sortKey →
        firstPlace findings first < firstPlace findings second := by
  rw [List.pairwise_iff_forall_sublist]
  intro first second hsublist hkey
  have hpair : [first, second].filter (·.sortKey = first.sortKey) = [first, second] := by
    simp [hkey]
  have hfilter := hsublist.filter (·.sortKey = first.sortKey)
  rw [filter_sortKey_sort, hpair] at hfilter
  have hboth := hfilter.trans List.filter_sublist
  exact List.pairwise_iff_forall_sublist.1 (pairwise_findIdx_firstsBy identity findings) hboth

theorem canonical_sort (findings : List Finding) : Canonical findings (sort findings) where
  ordered := ordered_sort findings
  firsts := filter_identity_sort findings
  stable := stable_sort findings

namespace Canonical

variable {findings report : List Finding}

theorem mem_iff (hcanonical : Canonical findings report) {finding : Finding} :
    finding ∈ report ↔ findings.find? (·.identity = finding.identity) = some finding := by
  rw [← Option.mem_toList, ← hcanonical.firsts, List.mem_filter]
  simp

/-- Strictly before: by the key of the order, or else by first occurrence. -/
theorem pairwise_before (hcanonical : Canonical findings report) :
    report.Pairwise fun first second => first.sortKey < second.sortKey ∨
      first.sortKey = second.sortKey ∧ firstPlace findings first < firstPlace findings second := by
  refine (hcanonical.ordered.and hcanonical.stable).imp ?_
  rintro first second ⟨hle, hstable⟩
  rcases hle.lt_or_eq with hlt | hkey
  · exact .inl hlt
  · exact .inr ⟨hkey, hstable hkey⟩

/-- The three conditions leave no choice. -/
theorem eq_sort (hcanonical : Canonical findings report) : report = sort findings := by
  have hsort := canonical_sort findings
  have hbefore : ∀ first second : Finding,
      (first.sortKey < second.sortKey ∨ first.sortKey = second.sortKey ∧
        firstPlace findings first < firstPlace findings second) →
      ¬(second.sortKey < first.sortKey ∨ second.sortKey = first.sortKey ∧
        firstPlace findings second < firstPlace findings first) := by
    rintro first second (hlt | ⟨hkey, hlt⟩) (hlt' | ⟨hkey', hlt'⟩)
    · exact lt_asymm hlt hlt'
    · exact hlt.ne hkey'.symm
    · exact hlt'.ne hkey.symm
    · exact lt_asymm hlt hlt'
  have hnodup : ∀ {report : List Finding}, Canonical findings report → report.Nodup := by
    intro report hcanonical
    refine hcanonical.pairwise_before.imp ?_
    rintro first _ hlt rfl
    exact hbefore first first hlt hlt
  have hperm : report.Perm (sort findings) := by
    rw [List.perm_ext_iff_of_nodup (hnodup hcanonical) (hnodup hsort)]
    intro finding
    rw [hcanonical.mem_iff, hsort.mem_iff]
  refine List.Perm.eq_of_pairwise ?_ hcanonical.pairwise_before hsort.pairwise_before hperm
  intro first second _ _ hlt hlt'
  exact absurd hlt' (hbefore first second hlt)

end Canonical

/-! ### Sorting in parts -/

theorem nodup_identity_sort (findings : List Finding) :
    ((sort findings).map identity).Nodup :=
  ((sortBy_perm order _).map identity).nodup_iff.2 (nodup_map_firstsBy [] findings)

theorem mem_identity_sort_iff {findings : List Finding} {key : FindingKind × Span × String} :
    key ∈ (sort findings).map identity ↔ key ∈ findings.map identity := by
  unfold sort
  rw [((sortBy_perm order _).map identity).mem_iff, mem_map_firstsBy_iff]

theorem firstsBy_sort (findings : List Finding) :
    firstsBy identity [] (sort findings) = sort findings := by
  apply firstsBy_eq_self (nodup_identity_sort findings)
  intro finding _
  exact List.not_mem_nil

theorem sort_sort (findings : List Finding) : sort (sort findings) = sort findings := by
  rw [sort, firstsBy_sort]
  exact sortBy_of_pairwise (pairwise_sortBy _)

theorem sort_sort_append (findings others : List Finding) :
    sort (sort findings ++ others) = sort (findings ++ others) := by
  -- The same identities are known after either part, so the same others are left.
  have hothers : firstsBy identity ((sort findings).map identity ++ []) others =
      firstsBy identity (findings.map identity ++ []) others := by
    apply firstsBy_congr
    intro finding _
    rw [Bool.eq_iff_iff, List.contains_iff_mem, List.contains_iff_mem, List.append_nil,
      List.append_nil, mem_identity_sort_iff]
  calc sort (sort findings ++ others)
      = sortBy order (sort findings ++
          firstsBy identity (findings.map identity ++ []) others) := by
        rw [sort, firstsBy_append, firstsBy_sort, hothers]
    _ = sortBy order (firstsBy identity [] findings ++
          firstsBy identity (findings.map identity ++ []) others) := sortBy_sortBy_append _ _
    _ = sort (findings ++ others) := by rw [sort, firstsBy_append]

theorem sort_eq_of_perm {findings others : List Finding}
    (hdistinct : (findings.map heading).Nodup) (hperm : others.Perm findings) :
    sort others = sort findings := by
  -- Without equal headings there are no equal identities, and nothing is dropped.
  have hkept : ∀ {findings : List Finding}, (findings.map heading).Nodup →
      sort findings = sortBy order findings := by
    intro findings hdistinct
    have hidentity : (findings.map identity).Nodup := by
      rw [List.Nodup, List.pairwise_map] at hdistinct ⊢
      refine hdistinct.imp ?_
      intro first second hne hidentity
      exact hne (heading_eq_of_identity_eq hidentity)
    rw [sort, firstsBy_eq_self hidentity (fun _ _ => List.not_mem_nil)]
  rw [hkept hdistinct, hkept ((hperm.map heading).nodup_iff.2 hdistinct)]
  have hsorted : (sortBy order others).Perm (sortBy order findings) :=
    (sortBy_perm order others).trans (hperm.trans (sortBy_perm order findings).symm)
  refine List.Perm.eq_of_pairwise ?_ (pairwise_sortBy others) (pairwise_sortBy findings) hsorted
  intro first second hfirst hsecond hle hge
  have hkey : first.sortKey = second.sortKey :=
    le_antisymm (isLE_order_iff.1 hle) (isLE_order_iff.1 hge)
  have hmem : first ∈ findings := hperm.mem_iff.1 (mem_sortBy.1 hfirst)
  exact List.inj_on_of_nodup_map hdistinct hmem (mem_sortBy.1 hsecond) (sortKey_eq_iff.1 hkey)

end Finding

/-! ### Reports of an analysis -/

theorem Analysis.Undisturbed.find?_mem_findings {config : Config} {resolver : Resolver}
    {unit : SourceUnit} {analysis : Analysis} (hrun : analysis.Undisturbed config resolver unit)
    {finding : Finding}
    (hmem : finding ∈ analysis.malformed ++ analysis.declared.findings ++ analysis.cycles) :
    ∃ reported ∈ analysis.findings,
      (analysis.malformed ++ analysis.declared.findings ++ analysis.cycles).find?
        (·.identity = finding.identity) = some reported := by
  cases hfind : (analysis.malformed ++ analysis.declared.findings ++ analysis.cycles).find?
      (·.identity = finding.identity) with
  | none =>
      have hnone := List.find?_eq_none.1 hfind finding hmem
      exact absurd (decide_eq_true rfl) hnone
  | some reported =>
      refine ⟨reported, ?_, rfl⟩
      have hidentity : reported.identity = finding.identity := by
        simpa using List.find?_some hfind
      rw [hrun.findings, Comparison.findings, (Finding.canonical_sort _).mem_iff,
        List.find?_append, hidentity, hfind]
      rfl

/-- Findings are shown one by one, in their order. -/
theorem Reporter.forall₂_report_iff (reporter : Reporter) {findings : List Finding}
    {R : Finding → Diagnostic → Prop} :
    List.Forall₂ R findings (reporter.report findings) ↔
      ∀ finding ∈ findings, R finding (reporter.diagnose finding) := by
  rw [report, List.forall₂_map_right_iff, List.forall₂_same]

/-- **Sorting gives a canonical form.** The report of a list is the one list in order that has the
first finding of each identity and keeps ties as they occurred. It does not change if it is sorted
again, alone or with other findings behind it, and without equal headings it does not depend on the
order of the list. So an analysis reports every finding of the steps before the comparison, each by
its first occurrence there, and shows its findings as diagnostics one by one. -/
theorem sorted_report_canonical :
    (∀ findings : List Finding,
      (∀ report, Finding.Canonical findings report ↔ report = Finding.sort findings) ∧
      Finding.sort (Finding.sort findings) = Finding.sort findings ∧
      (∀ others, Finding.sort (Finding.sort findings ++ others) =
        Finding.sort (findings ++ others)) ∧
      ((findings.map Finding.heading).Nodup → ∀ others : List Finding, others.Perm findings →
        Finding.sort others = Finding.sort findings)) ∧
    ∀ (config : Config) (resolver : Resolver) (unit : SourceUnit), ∃ analysis,
      Analysis.run config (.quiet resolver) unit .fresh = .ok (analysis, .fresh) ∧
      let earlier := analysis.malformed ++ analysis.declared.findings ++ analysis.cycles
      let report := Report.ofAnalysis unit.path analysis
      (∀ finding ∈ earlier, ∃ reported ∈ report.findings,
        earlier.find? (·.identity = finding.identity) = some reported) ∧
      List.Forall₂ (fun finding diagnostic => diagnostic.kind = finding.kind ∧
        diagnostic.span = finding.span ∧
        diagnostic.message = Reporter.standard.message finding)
        report.findings report.diagnostics := by
  constructor
  · intro findings
    refine ⟨?_, Finding.sort_sort findings, Finding.sort_sort_append findings, ?_⟩
    · intro report
      refine ⟨Finding.Canonical.eq_sort, ?_⟩
      rintro rfl
      exact Finding.canonical_sort findings
    · intro hdistinct others hperm
      exact Finding.sort_eq_of_perm hdistinct hperm
  · intro config resolver unit
    obtain ⟨analysis, hrun⟩ := Analysis.exists_undisturbed config resolver unit
    refine ⟨analysis, Analysis.run_quiet_eq_ok_of_undisturbed hrun, ?_, ?_⟩
    · intro finding hmem
      exact hrun.find?_mem_findings hmem
    · apply Reporter.standard.forall₂_report_iff.2
      intro finding _
      exact ⟨rfl, rfl, rfl⟩

/-- A finding whose start, kind and message are the same wherever it ends. -/
def tiedFinding (endColumn : Int) (reason : String) : Finding where
  kind := .malformedTag
  span := ⟨"box.tsx", 2, 5, 2, endColumn⟩
  message := "Malformed @renders tag"
  details := [("reason", .text reason)]

theorem tied_report_canonical :
    Finding.Canonical [tiedFinding 30 "first", tiedFinding 9 "second", tiedFinding 30 "third"]
      [tiedFinding 30 "first", tiedFinding 9 "second"] ∧
    ([tiedFinding 9 "second", malformedFinding ⟨"box.tsx", 1, 1, 0, 0⟩ "renders" "empty"].map
      Finding.heading).Nodup ∧
    Finding.sort [malformedFinding ⟨"box.tsx", 1, 1, 0, 0⟩ "renders" "empty",
        tiedFinding 9 "second"] =
      Finding.sort [tiedFinding 9 "second",
        malformedFinding ⟨"box.tsx", 1, 1, 0, 0⟩ "renders" "empty"] := by
  refine ⟨((sorted_report_canonical.1 _).1 _).2 (by decide +kernel), by decide, ?_⟩
  exact (sorted_report_canonical.1 _).2.2.2 (by decide) _ (.swap _ _ [])

end RenderAudit
