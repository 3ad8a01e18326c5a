import Mathlib.Data.List.TakeWhile
import RenderAudit.Config

/-!
# Configurations that are checked again

A configuration whose bound or policy is replaced is checked as a whole again. Its bound, its policy
and its renderable types come through as they are, and so does a tag name, unless it was given with
white space behind its at signs: the white space is kept the first time and taken off, with the at
signs behind it, the second time. Then the name changes, or nothing is left of it, or it becomes equal
to the other one.
-/

namespace RenderAudit

theorem Policy.ofName?_name (policy : Policy) : ofName? policy.name = some policy := by
  cases policy <;> decide

namespace Config

/-! ### Tag names -/

/-- A tag name given with white space right behind its at signs. -/
def SpacedSign (tag : String) : Prop :=
  ∃ signs rest c, Text.trim tag.toList = signs ++ c :: rest ∧ (∀ sign ∈ signs, sign = '@') ∧
    Text.isBlank c = true

theorem toList_cleanTag (tag : String) :
    (cleanTag tag).toList = (Text.trim tag.toList).dropWhile (· == '@') := by
  rw [cleanTag, String.toList_ofList]

theorem head_cleanTag {tag : String} {c : Char} (hc : c ∈ (cleanTag tag).toList.head?) :
    c ≠ '@' := by
  rw [toList_cleanTag] at hc
  have hother := Text.head_dropWhile hc
  exact beq_eq_false_iff_ne.1 hother

theorem last_cleanTag {tag : String} {c : Char} (hc : c ∈ (cleanTag tag).toList.getLast?) :
    Text.isBlank c = false := by
  have hcut := List.takeWhile_append_dropWhile (p := (· == '@')) (l := Text.trim tag.toList)
  apply (Text.isTrimmed_trim tag.toList).last
  rw [toList_cleanTag] at hc
  rw [← hcut, List.getLast?_append, Option.mem_def.1 hc]
  rfl

theorem spacedSign_iff {tag : String} :
    SpacedSign tag ↔ ∃ c ∈ (cleanTag tag).toList.head?, Text.isBlank c = true := by
  rw [toList_cleanTag]
  constructor
  · rintro ⟨signs, rest, c, htag, hsigns, hblank⟩
    refine ⟨c, ?_, hblank⟩
    have hsign : ∀ sign ∈ signs, (sign == '@') = true :=
      fun sign hsign => beq_iff_eq.2 (hsigns sign hsign)
    have hother : c ≠ '@' := by
      rintro rfl
      exact absurd hblank (by decide)
    rw [htag, List.dropWhile_append_of_pos hsign]
    simp [hother]
  · rintro ⟨c, hc, hblank⟩
    obtain ⟨rest, hrest⟩ := List.head?_eq_some_iff.1 hc
    refine ⟨(Text.trim tag.toList).takeWhile (· == '@'), rest, c, ?_, ?_, hblank⟩
    · rw [← hrest, List.takeWhile_append_dropWhile]
    · intro sign hsign
      have hequal := List.mem_takeWhile_imp hsign
      exact beq_iff_eq.1 hequal

/-- A tag name that was cleaned stays as it is, unless white space is in front of it now. -/
theorem cleanTag_cleanTag_iff {tag : String} :
    cleanTag (cleanTag tag) = cleanTag tag ↔ ¬ SpacedSign tag := by
  rw [spacedSign_iff]
  constructor
  · rintro hsame ⟨c, hc, hblank⟩
    have hlength : (cleanTag tag).toList.length ≤ (Text.trim (cleanTag tag).toList).length := by
      calc (cleanTag tag).toList.length
          = ((Text.trim (cleanTag tag).toList).dropWhile (· == '@')).length := by
            rw [← toList_cleanTag, hsame]
        _ ≤ (Text.trim (cleanTag tag).toList).length := List.length_dropWhile_le _ _
    -- the white space in front would make the trimmed name shorter
    obtain ⟨front, back, -, -, hname⟩ := Text.exists_eq_append_trim (cleanTag tag).toList
    have hparts := congrArg List.length hname
    rw [List.length_append, List.length_append] at hparts
    have hfront : front = [] := List.eq_nil_of_length_eq_zero (by omega)
    have hback : back = [] := List.eq_nil_of_length_eq_zero (by omega)
    rw [hfront, hback, List.nil_append, List.append_nil] at hname
    have htrimmed := Text.isTrimmed_trim (cleanTag tag).toList
    rw [← hname] at htrimmed
    rw [htrimmed.head c hc] at hblank
    cases hblank
  · intro hnot
    have htrimmed : Text.IsTrimmed (cleanTag tag).toList := by
      refine ⟨fun c hc => ?_, fun c => last_cleanTag⟩
      rw [← Bool.not_eq_true]
      exact fun hblank => hnot ⟨c, hc, hblank⟩
    rw [← String.toList_inj, toList_cleanTag, Text.trim_of_isTrimmed htrimmed]
    exact Text.dropWhile_of_head fun c hc => beq_eq_false_iff_ne.2 (head_cleanTag hc)

/-! ### Checking -/

theorem ofDraft_of_policy {draft : ConfigDraft} {policy : Policy}
    (hpolicy : Policy.ofName? draft.policy = some policy) :
    ofDraft draft =
      if cleanTag draft.componentTag = "" then .error .noComponentTag
      else if cleanTag draft.rendersTag = "" then .error .noRendersTag
      else if cleanTag draft.componentTag = cleanTag draft.rendersTag then
        .error (.equalTags (cleanTag draft.componentTag))
      else .ok {
        depthBound := cleanBound draft.depthBound
        componentTag := cleanTag draft.componentTag
        rendersTag := cleanTag draft.rendersTag
        policy := policy
        renderableTypes := draft.renderableTypes
        depthBound_pos := one_le_cleanBound draft.depthBound } := by
  simp only [ofDraft, hpolicy, String.isEmpty_iff]

/-- A configuration holds the given options, cleaned, and its tag names can be told apart. -/
structure IsChecked (draft : ConfigDraft) (config : Config) : Prop where
  depthBound : config.depthBound = cleanBound draft.depthBound
  componentTag : config.componentTag = cleanTag draft.componentTag
  rendersTag : config.rendersTag = cleanTag draft.rendersTag
  policy : Policy.ofName? draft.policy = some config.policy
  renderableTypes : config.renderableTypes = draft.renderableTypes
  componentTag_ne : config.componentTag ≠ ""
  rendersTag_ne : config.rendersTag ≠ ""
  tags_ne : config.componentTag ≠ config.rendersTag

theorem isChecked_of_ofDraft {draft : ConfigDraft} {config : Config}
    (hbuilt : ofDraft draft = .ok config) : IsChecked draft config := by
  cases hpolicy : Policy.ofName? draft.policy with
  | none =>
      simp only [ofDraft, hpolicy] at hbuilt
      repeat' split at hbuilt
      all_goals cases hbuilt
  | some policy =>
      rw [ofDraft_of_policy hpolicy] at hbuilt
      by_cases hcomponent : cleanTag draft.componentTag = ""
      · rw [if_pos hcomponent] at hbuilt
        cases hbuilt
      by_cases hrenders : cleanTag draft.rendersTag = ""
      · rw [if_neg hcomponent, if_pos hrenders] at hbuilt
        cases hbuilt
      by_cases hequal : cleanTag draft.componentTag = cleanTag draft.rendersTag
      · rw [if_neg hcomponent, if_neg hrenders, if_pos hequal] at hbuilt
        cases hbuilt
      rw [if_neg hcomponent, if_neg hrenders, if_neg hequal] at hbuilt
      cases hbuilt
      exact ⟨rfl, rfl, rfl, hpolicy, rfl, hcomponent, hrenders, hequal⟩

theorem IsChecked.ofDraft_eq {draft : ConfigDraft} {config : Config}
    (hchecked : IsChecked draft config) : ofDraft draft = .ok config := by
  obtain ⟨hbound, hcomponent, hrenders, hpolicy, htypes, hcomponentNe, hrendersNe, htagsNe⟩ :=
    hchecked
  rw [hcomponent] at hcomponentNe htagsNe
  rw [hrenders] at hrendersNe htagsNe
  rw [ofDraft_of_policy hpolicy, if_neg hcomponentNe, if_neg hrendersNe, if_neg htagsNe]
  cases config
  subst hbound hcomponent hrenders htypes
  rfl

/-- The options of a configuration, with a bound and a policy in place of its own. -/
def revised (config : Config) (bound : Option Int) (policy : Option Policy) : ConfigDraft :=
  { config.toDraft with
    depthBound := bound.getD config.depthBound
    policy := (policy.getD config.policy).name }

/-- A configuration has the bound and the policy that are given, and otherwise those of another one,
with its renderable types. -/
structure Keeps (config : Config) (bound : Option Int) (policy : Option Policy)
    (rebuilt : Config) : Prop where
  depthBound : (rebuilt.depthBound : Int) = bound.getD config.depthBound
  policy : rebuilt.policy = policy.getD config.policy
  renderableTypes : rebuilt.renderableTypes = config.renderableTypes

section Revised

variable {config : Config} {bound : Option Int} {policy : Option Policy}

theorem override_eq :
    config.override { depthBound := bound, policy := policy.map Policy.name } =
      if bound = none ∧ policy = none then .ok config
      else ofDraft (config.revised bound policy) := by
  by_cases hnone : bound = none ∧ policy = none
  · rw [if_pos hnone, hnone.1, hnone.2]
    rfl
  · have hsome : ({ depthBound := bound, policy := policy.map Policy.name } : Overrides) ≠ {} := by
      simpa using hnone
    rw [if_neg hnone, override, if_neg hsome]
    apply congrArg ofDraft
    cases policy <;> rfl

theorem cleanBound_revised (hbound : ∀ b ∈ bound, 1 ≤ b) :
    (cleanBound (bound.getD config.depthBound) : Int) = bound.getD config.depthBound := by
  have hpos : 1 ≤ bound.getD config.depthBound := by
    cases bound with
    | none => exact Int.ofNat_le.2 config.depthBound_pos
    | some b => exact hbound b rfl
  rw [cleanBound]
  omega

/-- What is accepted again has its tag names cleaned again, and all else as it was given. -/
theorem keeps_of_ofDraft_revised (hbound : ∀ b ∈ bound, 1 ≤ b) {rebuilt : Config}
    (hrebuilt : ofDraft (config.revised bound policy) = .ok rebuilt) :
    config.Keeps bound policy rebuilt ∧ rebuilt.componentTag = cleanTag config.componentTag ∧
      rebuilt.rendersTag = cleanTag config.rendersTag := by
  have hchecked := isChecked_of_ofDraft hrebuilt
  have hpolicy : some (policy.getD config.policy) = some rebuilt.policy :=
    (Policy.ofName?_name _).symm.trans hchecked.policy
  refine ⟨⟨?_, (Option.some.inj hpolicy).symm, hchecked.renderableTypes⟩, hchecked.componentTag,
    hchecked.rendersTag⟩
  rw [hchecked.depthBound]
  exact cleanBound_revised hbound

theorem exists_ofDraft_revised_iff (config : Config) (bound : Option Int)
    (policy : Option Policy) :
    (∃ rebuilt, ofDraft (config.revised bound policy) = .ok rebuilt) ↔
      cleanTag config.componentTag ≠ "" ∧ cleanTag config.rendersTag ≠ "" ∧
        cleanTag config.componentTag ≠ cleanTag config.rendersTag := by
  constructor
  · rintro ⟨rebuilt, hrebuilt⟩
    have hchecked := isChecked_of_ofDraft hrebuilt
    have hcomponent : rebuilt.componentTag = cleanTag config.componentTag := hchecked.componentTag
    have hrenders : rebuilt.rendersTag = cleanTag config.rendersTag := hchecked.rendersTag
    rw [← hcomponent, ← hrenders]
    exact ⟨hchecked.componentTag_ne, hchecked.rendersTag_ne, hchecked.tags_ne⟩
  · rintro ⟨hcomponent, hrenders, hdistinct⟩
    have hrebuilt : IsChecked (config.revised bound policy)
        { depthBound := cleanBound (bound.getD config.depthBound)
          componentTag := cleanTag config.componentTag
          rendersTag := cleanTag config.rendersTag
          policy := policy.getD config.policy
          renderableTypes := config.renderableTypes
          depthBound_pos := one_le_cleanBound _ } :=
      ⟨rfl, rfl, rfl, Policy.ofName?_name _, rfl, hcomponent, hrenders, hdistinct⟩
    exact ⟨_, hrebuilt.ofDraft_eq⟩

end Revised

/-- **Options that are checked again stay as they are, except for tag names with white space behind
their at signs.** The configuration that is built from another with a valid bound or policy is the
same but for these exactly if no tag name was given so. Otherwise it is refused, because a name is
empty now or equal to the other one, or it differs in the names alone. -/
theorem revised_kept_iff_unspaced {draft : ConfigDraft} {config : Config}
    (hbuilt : ofDraft draft = .ok config) (bound : Option Int) (hbound : ∀ b ∈ bound, 1 ≤ b)
    (policy : Option Policy) :
    ((∃ rebuilt, ofDraft (config.revised bound policy) = .ok rebuilt ∧
          config.Keeps bound policy rebuilt ∧ rebuilt.componentTag = config.componentTag ∧
          rebuilt.rendersTag = config.rendersTag) ↔
        ¬ SpacedSign draft.componentTag ∧ ¬ SpacedSign draft.rendersTag) ∧
      (ofDraft config.toDraft = .ok config ↔
        ¬ SpacedSign draft.componentTag ∧ ¬ SpacedSign draft.rendersTag) ∧
      ((∃ rebuilt, ofDraft (config.revised bound policy) = .ok rebuilt) ↔
        cleanTag config.componentTag ≠ "" ∧ cleanTag config.rendersTag ≠ "" ∧
          cleanTag config.componentTag ≠ cleanTag config.rendersTag) ∧
      (∀ rebuilt, ofDraft (config.revised bound policy) = .ok rebuilt →
        config.Keeps bound policy rebuilt ∧ rebuilt.componentTag = cleanTag config.componentTag ∧
          rebuilt.rendersTag = cleanTag config.rendersTag) ∧
      config.override { depthBound := bound, policy := policy.map Policy.name } =
        if bound = none ∧ policy = none then .ok config
        else ofDraft (config.revised bound policy) := by
  have hchecked := isChecked_of_ofDraft hbuilt
  have hclean : cleanTag config.componentTag = config.componentTag ∧
      cleanTag config.rendersTag = config.rendersTag ↔
      ¬ SpacedSign draft.componentTag ∧ ¬ SpacedSign draft.rendersTag := by
    rw [hchecked.componentTag, hchecked.rendersTag, cleanTag_cleanTag_iff, cleanTag_cleanTag_iff]
  have haccepted := exists_ofDraft_revised_iff config bound policy
  refine ⟨?_, ?_, haccepted, fun _ => keeps_of_ofDraft_revised hbound, override_eq⟩
  · rw [← hclean]
    constructor
    · rintro ⟨rebuilt, hrebuilt, -, hcomponent, hrenders⟩
      obtain ⟨-, hcomponentAgain, hrendersAgain⟩ := keeps_of_ofDraft_revised hbound hrebuilt
      exact ⟨hcomponentAgain.symm.trans hcomponent, hrendersAgain.symm.trans hrenders⟩
    · rintro ⟨hcomponent, hrenders⟩
      rw [hcomponent, hrenders] at haccepted
      obtain ⟨rebuilt, hrebuilt⟩ := haccepted.2
        ⟨hchecked.componentTag_ne, hchecked.rendersTag_ne, hchecked.tags_ne⟩
      obtain ⟨hkeeps, hcomponentAgain, hrendersAgain⟩ := keeps_of_ofDraft_revised hbound hrebuilt
      exact ⟨rebuilt, hrebuilt, hkeeps, hcomponentAgain.trans hcomponent,
        hrendersAgain.trans hrenders⟩
  · rw [← hclean]
    constructor
    · intro hsame
      have hagain := isChecked_of_ofDraft hsame
      exact ⟨hagain.componentTag.symm, hagain.rendersTag.symm⟩
    · rintro ⟨hcomponent, hrenders⟩
      have hdepth : cleanBound config.depthBound = config.depthBound :=
        Nat.max_eq_right config.depthBound_pos
      exact IsChecked.ofDraft_eq ⟨hdepth.symm, hcomponent.symm, hrenders.symm,
        Policy.ofName?_name config.policy, rfl, hchecked.componentTag_ne, hchecked.rendersTag_ne,
        hchecked.tags_ne⟩

/-- A tag name with white space around it, and one with two at signs and a blank further on. -/
def plainDraft : ConfigDraft := { componentTag := " @widget ", rendersTag := "@@my tag" }

def plainConfig : Config where
  depthBound := 8
  componentTag := "widget"
  rendersTag := "my tag"
  policy := .transitive
  renderableTypes := plainDraft.renderableTypes
  depthBound_pos := by decide

theorem plainConfig_kept :
    ofDraft plainDraft = .ok plainConfig ∧
      ∃ rebuilt, plainConfig.override { depthBound := some 3, policy := some "single-hop" } =
          .ok rebuilt ∧
        plainConfig.Keeps (some 3) (some .singleHop) rebuilt ∧
        rebuilt.componentTag = "widget" ∧ rebuilt.rendersTag = "my tag" := by
  have hbuilt : ofDraft plainDraft = .ok plainConfig := by decide +kernel
  obtain ⟨hkept, hagain, -, -, hoverride⟩ :=
    revised_kept_iff_unspaced hbuilt (some 3) (by decide) (some .singleHop)
  rw [if_neg (by simp)] at hoverride
  have hsame : ofDraft plainConfig.toDraft = .ok plainConfig := by decide +kernel
  obtain ⟨rebuilt, hrebuilt, hkeeps, htags⟩ := hkept.2 (hagain.1 hsame)
  exact ⟨hbuilt, rebuilt, hoverride.trans hrebuilt, hkeeps, htags⟩

/-- Tag names with a blank behind the at sign: accepted at first, and then changed, empty or equal
to the other name. -/
theorem spaced_tags_unstable :
    (ofDraft { componentTag := "@ widget" }).map Config.componentTag = .ok " widget" ∧
      (ofDraft { componentTag := "@ widget" } >>= fun config => config.override
        { depthBound := some 3 }).map Config.componentTag = .ok "widget" ∧
      (ofDraft { componentTag := "@ @" }).map Config.componentTag = .ok " @" ∧
      (ofDraft { componentTag := "@ @" } >>= fun config => ofDraft config.toDraft) =
        .error .noComponentTag ∧
      (ofDraft { componentTag := "@ renders" }).map Config.componentTag = .ok " renders" ∧
      (ofDraft { componentTag := "@ renders" } >>= fun config => config.override
        { policy := some "single-hop" }) = .error (.equalTags "renders") := by
  decide +kernel

end Config

end RenderAudit
