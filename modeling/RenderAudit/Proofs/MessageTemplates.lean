import RenderAudit.Proofs.CanonicalReport
import RenderAudit.Proofs.FindingSources

/-!
# Findings fit their templates

Details are put together where a finding is made, templates are chosen by its kind, and a finding
that lacks a detail is silently shown with its own message. Each source of findings supplies every
detail that the template of its kind names, so this never happens: the message of a diagnostic is the
template with the details in place of their names.
-/

namespace RenderAudit

/-- The detail that a piece shows. -/
def Piece.name? {σ : Type} : Piece σ → Option String
  | .literal _ => none
  | .field name _ _ _ => some name

namespace Template

/-- The details that a template names. -/
def names (template : Template) : List String :=
  template.filterMap Piece.name?

/-- A template that shows the details which it names as they are. -/
inductive Plain : Template → Prop
  | nil : Plain []
  | literal (text : String) {template : Template} : Plain template → Plain (.literal text :: template)
  | detail (name : String) {template : Template} : Plain template → Plain (.detail name :: template)

/-- The text of a template with details inserted. -/
inductive Inserts (details : List (String × Detail)) : Template → String → Prop
  | nil : Inserts details [] ""
  | literal (text : String) {template : Template} {rest : String} :
      Inserts details template rest → Inserts details (.literal text :: template) (text ++ rest)
  | detail {name : String} {detail : Detail} {template : Template} {rest : String} :
      details.lookup name = some detail → Inserts details template rest →
        Inserts details (.detail name :: template) (detail.render ++ rest)

variable {details : List (String × Detail)} {template : Template} {text : String}

theorem exists_inserts (hplain : template.Plain)
    (hnames : ∀ name ∈ template.names, ∃ detail, details.lookup name = some detail) :
    ∃ text, template.Inserts details text := by
  induction hplain with
  | nil => exact ⟨_, .nil⟩
  | literal text _ ih =>
      obtain ⟨rest, hrest⟩ := ih hnames
      exact ⟨_, .literal text hrest⟩
  | detail name _ ih =>
      obtain ⟨⟨detail, hdetail⟩, hothers⟩ := List.forall_mem_cons.1 hnames
      obtain ⟨rest, hrest⟩ := ih hothers
      exact ⟨_, .detail hdetail hrest⟩

theorem fill?_literal_cons :
    fill? details (.literal text :: template) = (fill? details template).map (text ++ ·) := by
  show (do let rest ← fill? details template; return text ++ rest) = _
  cases fill? details template <;> rfl

theorem fill?_detail_cons {name : String} {detail : Detail}
    (hdetail : details.lookup name = some detail) :
    fill? details (.detail name :: template) =
      (fill? details template).map (detail.render ++ ·) := by
  have hpiece : (Piece.detail name).fill? details (Piece.fillAll? details some) =
      some detail.render := by
    simp only [Piece.detail, Piece.fill?, hdetail]
    rfl
  show (do
    let text ← (Piece.detail name).fill? details (Piece.fillAll? details some)
    let rest ← fill? details template
    return text ++ rest) = _
  rw [hpiece]
  cases fill? details template <;> rfl

/-- Inserting details is what filling a template does. -/
theorem Inserts.fill? (hinserts : template.Inserts details text) :
    template.fill? details = some text := by
  induction hinserts with
  | nil => rfl
  | literal text _ ih => rw [fill?_literal_cons, ih, Option.map_some]
  | detail hdetail _ ih => rw [fill?_detail_cons hdetail, ih, Option.map_some]

end Template

theorem FindingKind.plain_template (kind : FindingKind) : kind.template.Plain := by
  cases kind <;> repeat constructor

/-! ### The details of findings -/

namespace Finding

/-- The finding has the details that the template of its kind names. -/
def Fits (finding : Finding) : Prop :=
  ∀ name ∈ finding.kind.template.names, ∃ detail, finding.details.lookup name = some detail

theorem fits_of_names {finding : Finding} (kind : FindingKind) (names : List String)
    (hkind : finding.kind = kind) (hdetails : finding.details.map Prod.fst = names)
    (hnames : ∀ name ∈ kind.template.names, name ∈ names) : finding.Fits := by
  intro name hname
  rw [hkind] at hname
  have hmem := hnames name hname
  rw [← hdetails] at hmem
  obtain ⟨entry, hentry, rfl⟩ := List.mem_map.1 hmem
  exact Option.isSome_iff_exists.1 (List.lookup_isSome_iff.2 ⟨entry, hentry, beq_self_eq_true _⟩)

end Finding

theorem ActualGraph.fits_of_cycleFinding {graph : ActualGraph} {arena : Arena} {component : Nat}
    {group : SupplyGroup} {finding : Finding}
    (hfinding : graph.cycleFinding arena component group = .ok finding) : finding.Fits := by
  obtain ⟨source, -, hfinding⟩ := bind_eq_ok_iff.1 hfinding
  obtain ⟨owner, -, hfinding⟩ := bind_eq_ok_iff.1 hfinding
  cases hfinding
  exact Finding.fits_of_names .cycleDepthExceeded ["source", "owner", "property", "bound"] rfl rfl
    (by decide)

/-- A declared edge that runs through a property has a detail that its template does not name. -/
theorem Comparison.fits_missingFinding (component : Component) (edge : DeclaredEdge)
    (property : Option String) : (missingFinding component edge property).Fits := by
  cases property with
  | none =>
      exact Finding.fits_of_names .missingDeclaration ["source", "target"] rfl rfl (by decide)
  | some name =>
      exact Finding.fits_of_names .missingDeclaration ["source", "target", "property"] rfl rfl
        (by decide)

theorem Analysis.Produces.fits {config : Config} {analysis : Analysis} {finding : Finding}
    (hproduces : analysis.Produces config finding) : finding.Fits := by
  cases hproduces with
  | malformed hmem hmalformed =>
      obtain ⟨span, tag, reason, rfl⟩ := hmalformed
      exact Finding.fits_of_names .malformedTag ["tag", "reason"] rfl rfl (by decide)
  | unresolved htag =>
      exact Finding.fits_of_names .unresolvedTarget ["target", "reason"] rfl rfl (by decide)
  | cyclic hcycle => exact ActualGraph.fits_of_cycleFinding hcycle
  | undeclared edge hopted =>
      exact Finding.fits_of_names .undeclaredUsage ["source", "target", "path"] rfl rfl (by decide)
  | missing property hedge => exact Comparison.fits_missingFinding _ _ property
  | uncertain group slot first owner hexpected =>
      exact Finding.fits_of_names .unresolvedTarget ["target", "reason"] rfl rfl (by decide)
  | mismatched group slot first owner hexpected =>
      exact Finding.fits_of_names .mismatchedTarget ["owner", "property", "declared", "actual"] rfl
        rfl (by decide)

/-! ### The messages of diagnostics -/

theorem Finding.Fits.inserts {finding : Finding} (hfits : finding.Fits) :
    finding.kind.template.fill? finding.details = some (Reporter.standard.message finding) ∧
      finding.kind.template.Inserts finding.details (Reporter.standard.message finding) := by
  obtain ⟨text, hinserts⟩ := Template.exists_inserts finding.kind.plain_template hfits
  have hmessage : Reporter.standard.message finding = text := by
    show (finding.kind.template.fill? finding.details).getD finding.message = text
    rw [hinserts.fill?, Option.getD_some]
  rw [hmessage]
  exact ⟨hinserts.fill?, hinserts⟩

/-- Every finding of an analysis has the details that the template of its kind names. So the template
can be filled, and each diagnostic shows it with these details inserted. -/
theorem findings_fit_templates (config : Config) (resolver : Resolver) (unit : SourceUnit) :
    ∃ analysis, Analysis.run config (.quiet resolver) unit .fresh = .ok (analysis, .fresh) ∧
      (∀ finding ∈ analysis.findings, ∀ name ∈ finding.kind.template.names,
        ∃ detail, finding.details.lookup name = some detail) ∧
      List.Forall₂ (fun finding (diagnostic : Diagnostic) =>
          diagnostic.kind = finding.kind ∧ diagnostic.span = finding.span ∧
          finding.kind.template.fill? finding.details = some diagnostic.message ∧
          finding.kind.template.Inserts finding.details diagnostic.message)
        analysis.findings (Report.ofAnalysis unit.path analysis).diagnostics := by
  obtain ⟨analysis, hrun⟩ := Analysis.exists_undisturbed config resolver unit
  have hfits : ∀ finding ∈ analysis.findings, finding.Fits :=
    fun finding hmem => (hrun.produces_of_mem_findings hmem).fits
  refine ⟨analysis, Analysis.run_quiet_eq_ok_of_undisturbed hrun, hfits, ?_⟩
  apply Reporter.standard.forall₂_report_iff.2
  intro finding hmem
  exact ⟨rfl, rfl, (hfits finding hmem).inserts⟩

end RenderAudit
