import Mathlib.Data.List.TakeWhile
import RenderAudit.TargetSpec

/-!
# The grammar of render targets

A body opens with a token: what stands in braces, or all up to the first white space. The token is a
star or a dotted identifier, and nothing else is accepted. Targets hold no white space and
descriptions are trimmed, so that a parsed body, written out with a dash between its two parts, is
read back as it was.
-/

namespace RenderAudit.TargetSpec

/-! ### Dotted identifiers -/

/-- A character inside an identifier. -/
def Continues (c : Char) : Prop :=
  Text.isWord c = true ∨ c = '$'

/-- An ASCII letter, an underscore or a dollar sign, and then characters of the class `inner`. -/
def IsIdentifier (inner : Char → Prop) (text : List Char) : Prop :=
  ∃ c rest, text = c :: rest ∧ (c.isAlpha = true ∨ c = '_' ∨ c = '$') ∧ ∀ d ∈ rest, inner d

/-- Identifiers joined by dots. Only the first may hold dashes. -/
def IsDotted (token : List Char) : Prop :=
  ∃ first rest, token = ['.'].intercalate (first :: rest) ∧
    IsIdentifier (fun c => Continues c ∨ c = '-') first ∧
    ∀ segment ∈ rest, IsIdentifier Continues segment

theorem isInner_iff {c : Char} : isInner c = true ↔ Continues c := by
  simp [isInner, Continues]

theorem isSegment_iff {inner : Char → Bool} {kind : Char → Prop}
    (hinner : ∀ c, inner c = true ↔ kind c) {text : List Char} :
    isSegment inner text = true ↔ IsIdentifier kind text := by
  cases text with
  | nil => simp [isSegment, IsIdentifier]
  | cons c rest =>
      simp only [isSegment, isInitial, Bool.and_eq_true, Bool.or_eq_true, beq_iff_eq,
        List.all_eq_true, hinner, or_assoc]
      constructor
      · rintro ⟨hinitial, hrest⟩
        exact ⟨c, rest, rfl, hinitial, hrest⟩
      · rintro ⟨_, _, ⟨⟩, hinitial, hrest⟩
        exact ⟨hinitial, hrest⟩

theorem IsIdentifier.continues_or {inner : Char → Prop} {text : List Char}
    (htext : IsIdentifier inner text) {c : Char} (hc : c ∈ text) : Continues c ∨ inner c := by
  obtain ⟨d, rest, rfl, hinitial, hrest⟩ := htext
  rcases List.mem_cons.1 hc with rfl | hc
  · rcases hinitial with hletter | rfl | rfl
    · exact .inl (.inl (Text.isWord_of_isAlpha hletter))
    · exact .inl (.inl rfl)
    · exact .inl (.inr rfl)
  · exact .inr (hrest c hc)

theorem not_continues_dot : ¬ Continues '.' := by
  rw [← isInner_iff]
  decide +kernel

theorem IsIdentifier.dot_notMem {inner : Char → Prop} {text : List Char}
    (htext : IsIdentifier inner text) (hinner : ¬ inner '.') : '.' ∉ text := by
  intro hdot
  rcases htext.continues_or hdot with hc | hc
  · exact not_continues_dot hc
  · exact hinner hc

theorem isTarget_iff {token : List Char} : isTarget token = true ↔ IsDotted token := by
  have hfirst : ∀ segment, isSegment (fun c => isInner c || c == '-') segment = true ↔
      IsIdentifier (fun c => Continues c ∨ c = '-') segment :=
    fun segment => isSegment_iff (by simp [isInner_iff])
  have hlater : ∀ segment, isSegment isInner segment = true ↔ IsIdentifier Continues segment :=
    fun segment => isSegment_iff fun _ => isInner_iff
  constructor
  · intro htarget
    cases hsplit : token.splitOn '.' with
    | nil => exact absurd hsplit (List.splitOn_ne_nil '.' token)
    | cons first rest =>
        rw [isTarget, hsplit] at htarget
        simp only [Bool.and_eq_true, List.all_eq_true, hfirst, hlater] at htarget
        refine ⟨first, rest, ?_, htarget.1, htarget.2⟩
        rw [← hsplit, List.intercalate_splitOn]
  · rintro ⟨first, rest, rfl, hhead, hrest⟩
    have hdots : ∀ segment ∈ first :: rest, '.' ∉ segment := by
      rw [List.forall_mem_cons]
      refine ⟨hhead.dot_notMem ?_, fun segment hmem => (hrest segment hmem).dot_notMem ?_⟩
      · rintro (hdot | hdot)
        · exact not_continues_dot hdot
        · cases hdot
      · exact not_continues_dot
    rw [isTarget, List.splitOn_intercalate '.' hdots (List.cons_ne_nil first rest)]
    simp only [Bool.and_eq_true, List.all_eq_true, hfirst, hlater]
    exact ⟨hhead, hrest⟩

theorem mem_intercalate {c dot : Char} {segments : List (List Char)}
    (hmem : c ∈ [dot].intercalate segments) : c = dot ∨ ∃ segment ∈ segments, c ∈ segment := by
  induction segments with
  | nil => cases hmem
  | cons first rest ih =>
      cases rest with
      | nil =>
          rw [List.intercalate_singleton] at hmem
          exact .inr ⟨first, List.mem_cons_self, hmem⟩
      | cons second rest =>
          rw [List.intercalate_cons_cons] at hmem
          rcases List.mem_append.1 hmem with hmem | hmem
          · rcases List.mem_append.1 hmem with hmem | hmem
            · exact .inr ⟨first, List.mem_cons_self, hmem⟩
            · exact .inl (List.mem_singleton.1 hmem)
          · rcases ih hmem with hdot | ⟨segment, hsegment, hc⟩
            · exact .inl hdot
            · exact .inr ⟨segment, List.mem_cons_of_mem first hsegment, hc⟩

theorem IsDotted.isBlank_of_mem {token : List Char} (htoken : IsDotted token) {c : Char}
    (hc : c ∈ token) : Text.isBlank c = false := by
  have hcontinues : Continues c → Text.isBlank c = false := by
    rintro (hword | rfl)
    · exact Text.isBlank_of_isWord hword
    · decide
  obtain ⟨first, rest, rfl, hfirst, hrest⟩ := htoken
  rcases mem_intercalate hc with rfl | ⟨segment, hsegment, hmem⟩
  · decide
  rcases List.mem_cons.1 hsegment with rfl | hsegment
  · rcases hfirst.continues_or hmem with hc | hc | rfl
    · exact hcontinues hc
    · exact hcontinues hc
    · decide
  · exact ((hrest segment hsegment).continues_or hmem).elim hcontinues hcontinues

theorem IsDotted.exists_eq_cons {token : List Char} (htoken : IsDotted token) :
    ∃ c rest, token = c :: rest ∧ (c.isAlpha = true ∨ c = '_' ∨ c = '$') := by
  obtain ⟨_, others, rfl, ⟨c, rest, rfl, hinitial, -⟩, -⟩ := htoken
  cases others with
  | nil => exact ⟨c, rest, List.intercalate_singleton, hinitial⟩
  | cons second others =>
      refine ⟨c, rest ++ ['.'] ++ ['.'].intercalate (second :: others), ?_, hinitial⟩
      rw [List.intercalate_cons_cons, List.cons_append, List.cons_append]

/-! ### First tokens -/

/-- A text opens with a token, behind which the rest stands. -/
inductive Opens : List Char → List Char → List Char → Prop where
  | braced {inner rest : List Char} (hinner : '}' ∉ inner) :
      Opens ('{' :: (inner ++ '}' :: rest)) (Text.trim inner) rest
  | plain {token rest : List Char} (hopen : (token ++ rest).head? ≠ some '{')
      (htoken : ∀ c ∈ token, Text.isBlank c = false)
      (hrest : ∀ c ∈ rest.head?, Text.isBlank c = true) : Opens (token ++ rest) token rest

theorem token?_of_head? {text : List Char} (hopen : text.head? ≠ some '{') :
    token? text =
      some (text.takeWhile (!Text.isBlank ·), text.dropWhile (!Text.isBlank ·)) := by
  unfold token?
  split
  · exact absurd rfl hopen
  · rfl

theorem bne_of_notMem {inner : List Char} (hinner : '}' ∉ inner) :
    ∀ c ∈ inner, (c != '}') = true := by
  intro c hc
  rw [bne_iff_ne]
  rintro rfl
  exact hinner hc

theorem token?_braced {inner : List Char} (hinner : '}' ∉ inner) (rest : List Char) :
    token? ('{' :: (inner ++ '}' :: rest)) = some (Text.trim inner, rest) := by
  have hdrop : (inner ++ '}' :: rest).dropWhile (· != '}') = '}' :: rest :=
    List.dropWhile_append_of_pos (bne_of_notMem hinner)
  have htake : (inner ++ '}' :: rest).takeWhile (· != '}') = inner :=
    (List.takeWhile_append_of_pos (bne_of_notMem hinner)).trans (List.append_nil inner)
  simp only [token?, hdrop, htake]

theorem token?_unclosed {inside : List Char} (hinside : '}' ∉ inside) :
    token? ('{' :: inside) = none := by
  have hdrop : inside.dropWhile (· != '}') = [] :=
    List.dropWhile_eq_nil_iff.2 (bne_of_notMem hinside)
  simp only [token?, hdrop]

theorem token?_plain {token rest : List Char} (hopen : (token ++ rest).head? ≠ some '{')
    (htoken : ∀ c ∈ token, Text.isBlank c = false)
    (hrest : ∀ c ∈ rest.head?, Text.isBlank c = true) :
    token? (token ++ rest) = some (token, rest) := by
  have hrun : ∀ c ∈ token, (!Text.isBlank c) = true := by simpa using htoken
  have hdrop : rest.dropWhile (!Text.isBlank ·) = rest :=
    Text.dropWhile_of_head (by simpa using hrest)
  have htake : rest.takeWhile (!Text.isBlank ·) = [] := by
    have hcut := List.takeWhile_append_dropWhile (p := (!Text.isBlank ·)) (l := rest)
    rwa [hdrop, List.append_left_eq_self] at hcut
  rw [token?_of_head? hopen, List.takeWhile_append_of_pos hrun,
    List.dropWhile_append_of_pos hrun, hdrop, htake, List.append_nil]

/-- A text opens with a token, unless it has a brace that stays open. -/
theorem opens_or_unclosed (text : List Char) :
    (∃ token rest, Opens text token rest) ∨ text.head? = some '{' ∧ '}' ∉ text := by
  by_cases hopen : text.head? = some '{'
  · obtain ⟨inside, rfl⟩ := List.head?_eq_some_iff.1 hopen
    by_cases hclose : '}' ∈ inside
    · obtain ⟨inner, rest, rfl, hinner⟩ := List.eq_append_cons_of_mem hclose
      exact .inl ⟨_, rest, .braced hinner⟩
    · exact .inr ⟨rfl, by simpa using hclose⟩
  · refine .inl ⟨text.takeWhile (!Text.isBlank ·), text.dropWhile (!Text.isBlank ·), ?_⟩
    have hcut := List.takeWhile_append_dropWhile (p := (!Text.isBlank ·)) (l := text)
    conv => arg 1; rw [← hcut]
    refine .plain (by rwa [hcut]) ?_ ?_
    · intro c hc
      simpa using List.mem_takeWhile_imp hc
    · intro c hc
      simpa using Text.head_dropWhile hc

theorem token?_of_opens {text token rest : List Char} (hopens : Opens text token rest) :
    token? text = some (token, rest) := by
  cases hopens with
  | braced hinner => exact token?_braced hinner rest
  | plain hopen htoken hrest => exact token?_plain hopen htoken hrest

theorem Opens.token_eq {text token rest token' rest' : List Char} (hopens : Opens text token rest)
    (hopens' : Opens text token' rest') : token = token' := by
  have htoken := (token?_of_opens hopens).symm.trans (token?_of_opens hopens')
  cases htoken
  rfl

theorem Opens.token_of_nil {token rest : List Char} (hopens : Opens [] token rest) :
    token = [] := by
  have hnil : Opens ([] ++ []) [] [] := .plain (by simp) (by simp) (by simp)
  exact hopens.token_eq hnil

theorem token?_eq_none_iff {text : List Char} :
    token? text = none ↔ text.head? = some '{' ∧ '}' ∉ text := by
  constructor
  · intro hnone
    refine (opens_or_unclosed text).resolve_left ?_
    rintro ⟨token, rest, hopens⟩
    rw [token?_of_opens hopens] at hnone
    cases hnone
  · rintro ⟨hopen, hclose⟩
    obtain ⟨inside, rfl⟩ := List.head?_eq_some_iff.1 hopen
    exact token?_unclosed (List.not_mem_of_not_mem_cons hclose)

/-! ### Parsing -/

/-- What a first token names: a star arbitrary content, a dotted identifier itself. -/
def Names (token : List Char) (target : String) : Prop :=
  token = ['*'] ∧ target = "" ∨ IsDotted token ∧ target = String.ofList token

/-- A text whose first token names nothing, or that has a brace which stays open. -/
def IsMalformed (text : List Char) : Prop :=
  (text ≠ [] ∧ ∃ token rest, Opens text token rest ∧ token ≠ ['*'] ∧ ¬ IsDotted token) ∨
    text.head? = some '{' ∧ '}' ∉ text

theorem not_isDotted_star : ¬ IsDotted ['*'] := by
  intro hdotted
  obtain ⟨_, _, ⟨⟩, hinitial⟩ := hdotted.exists_eq_cons
  revert hinitial
  decide

/-- A first token that names something is written as what it names. -/
theorem Names.spec {token : List Char} {target : String} (hnames : Names token target) :
    token ≠ [] ∧ token.head? ≠ some '{' ∧ (∀ c ∈ token, Text.isBlank c = false) ∧
      (if target = "" then "*" else target) = String.ofList token := by
  rcases hnames with ⟨rfl, rfl⟩ | ⟨hdotted, rfl⟩
  · refine ⟨by decide, by decide, fun c hc => ?_, by decide⟩
    rw [List.mem_singleton.1 hc]
    decide
  · obtain ⟨c, rest, rfl, hinitial⟩ := hdotted.exists_eq_cons
    refine ⟨List.cons_ne_nil c rest, ?_, fun c => hdotted.isBlank_of_mem, if_neg ?_⟩
    · rintro ⟨⟩
      revert hinitial
      decide
    · rw [← String.toList_inj, String.toList_ofList]
      exact List.cons_ne_nil c rest

theorem parse_of_blank {body : List Char} (hblank : Text.trim body = []) :
    parse body = .ok ⟨"", ""⟩ := by
  simp [parse, hblank]

theorem parse_of_names {body token rest : List Char} {target : String}
    (hopens : Opens (Text.trim body) token rest) (hnames : Names token target) :
    parse body = .ok ⟨target, String.ofList (describe rest)⟩ := by
  have hne : Text.trim body ≠ [] := by
    intro hnil
    rw [hnil] at hopens
    exact hnames.spec.1 hopens.token_of_nil
  simp only [parse, List.isEmpty_iff, if_neg hne, token?_of_opens hopens]
  rcases hnames with ⟨rfl, rfl⟩ | ⟨hdotted, rfl⟩
  · rfl
  · have hstar : token ≠ ['*'] := by
      rintro rfl
      exact not_isDotted_star hdotted
    rw [if_neg (by simpa using hstar), if_pos (isTarget_iff.2 hdotted)]

theorem parse_of_isMalformed {body : List Char} (hbody : IsMalformed (Text.trim body)) :
    ∃ fault, parse body = .error fault := by
  rcases hbody with ⟨hne, token, rest, hopens, hstar, hdotted⟩ | hopen
  · refine ⟨.invalid (String.ofList token), ?_⟩
    simp only [parse, List.isEmpty_iff, if_neg hne, token?_of_opens hopens]
    rw [if_neg (by simpa using hstar), if_neg (by rwa [isTarget_iff])]
  · have hne : Text.trim body ≠ [] := by
      intro hnil
      rw [hnil] at hopen
      cases hopen.1
    refine ⟨.unterminated, ?_⟩
    simp only [parse, List.isEmpty_iff, if_neg hne, token?_eq_none_iff.2 hopen]

theorem blank_or_names_or_isMalformed (text : List Char) :
    text = [] ∨ (∃ token rest target, Opens text token rest ∧ Names token target) ∨
      IsMalformed text := by
  by_cases hne : text = []
  · exact .inl hne
  rcases opens_or_unclosed text with ⟨token, rest, hopens⟩ | hopen
  · by_cases hstar : token = ['*']
    · exact .inr (.inl ⟨token, rest, "", hopens, .inl ⟨hstar, rfl⟩⟩)
    · by_cases hdotted : IsDotted token
      · exact .inr (.inl ⟨token, rest, _, hopens, .inr ⟨hdotted, rfl⟩⟩)
      · exact .inr (.inr (.inl ⟨hne, token, rest, hopens, hstar, hdotted⟩))
  · exact .inr (.inr (.inr hopen))

theorem exists_parse_eq_error_iff {body : List Char} :
    (∃ fault, parse body = .error fault) ↔ IsMalformed (Text.trim body) := by
  refine ⟨?_, parse_of_isMalformed⟩
  rintro ⟨fault, hparse⟩
  rcases blank_or_names_or_isMalformed (Text.trim body) with hblank | ⟨_, _, _, hopens, hnames⟩ | h
  · rw [parse_of_blank hblank] at hparse
    cases hparse
  · rw [parse_of_names hopens hnames] at hparse
    cases hparse
  · exact h

/-- A body that is read is blank, or its first token names the target. -/
theorem names_of_parse {body : List Char} {spec : TargetSpec} (hparse : parse body = .ok spec) :
    Text.trim body = [] ∧ spec = ⟨"", ""⟩ ∨
      ∃ token rest, Opens (Text.trim body) token rest ∧ Names token spec.target ∧
        spec.description = String.ofList (describe rest) := by
  rcases blank_or_names_or_isMalformed (Text.trim body) with
    hblank | ⟨token, rest, target, hopens, hnames⟩ | hmalformed
  · rw [parse_of_blank hblank] at hparse
    cases hparse
    exact .inl ⟨hblank, rfl⟩
  · rw [parse_of_names hopens hnames] at hparse
    cases hparse
    exact .inr ⟨token, rest, hopens, hnames, rfl⟩
  · obtain ⟨fault, hfault⟩ := parse_of_isMalformed hmalformed
    rw [hfault] at hparse
    cases hparse

/-! ### Writing a body -/

/-- A body with a dash between the target and a description. -/
def written (spec : TargetSpec) : String :=
  let target := if spec.target = "" then "*" else spec.target
  if spec.description = "" then target else target ++ " - " ++ spec.description

theorem isTrimmed_describe (rest : List Char) : Text.IsTrimmed (describe rest) := by
  unfold describe
  split
  · exact Text.isTrimmed_trim _
  · exact Text.isTrimmed_trim rest

theorem describe_dash {text : List Char} {last : Char} (hlast : text.getLast? = some last)
    (htext : Text.IsTrimmed text) : describe (' ' :: '-' :: ' ' :: text) = text := by
  have hdash : Text.trim ([' '] ++ (['-', ' '] ++ text)) = '-' :: ' ' :: text := by
    rw [Text.trim_blank_append Text.isBlank_blank]
    exact Text.trim_of_isTrimmed
      (Text.isTrimmed_append rfl (by decide) hlast (htext.last last hlast))
  simp only [List.cons_append, List.nil_append] at hdash
  rw [describe, hdash]
  exact Text.trim_of_isTrimmed htext

theorem parse_written {spec : TargetSpec} {token : List Char} (hnames : Names token spec.target)
    (hdescription : Text.IsTrimmed spec.description.toList) :
    parse spec.written.toList = .ok spec := by
  obtain ⟨hne, hopen, htoken, hwritten⟩ := hnames.spec
  obtain ⟨first, others, hcons⟩ := List.exists_cons_of_ne_nil hne
  have hhead : token.head? = some first := by rw [hcons]; rfl
  have hfirst : Text.isBlank first = false := htoken first (List.mem_of_mem_head? hhead)
  -- a rest that begins with white space ends the token where the target ends
  have hparse : ∀ rest : List Char, (∀ c ∈ rest.head?, Text.isBlank c = true) →
      Text.IsTrimmed (token ++ rest) →
      parse (token ++ rest) = .ok ⟨spec.target, String.ofList (describe rest)⟩ := by
    intro rest hrest htrimmed
    have hopens : Opens (token ++ rest) token rest := by
      refine .plain ?_ htoken hrest
      rw [List.head?_append, hhead, Option.some_or, ← hhead]
      exact hopen
    rw [← Text.trim_of_isTrimmed htrimmed] at hopens
    exact parse_of_names hopens hnames
  by_cases hempty : spec.description = ""
  · have htext : spec.written.toList = token ++ [] := by
      simp only [written, if_pos hempty, hwritten, String.toList_ofList, List.append_nil]
    have htrimmed : Text.IsTrimmed (token ++ []) := by
      rw [List.append_nil]
      exact ⟨fun c hc => htoken c (List.mem_of_mem_head? hc),
        fun c hc => htoken c (List.mem_of_mem_getLast? hc)⟩
    have hspec : spec = ⟨spec.target, ""⟩ := by rw [← hempty]
    rw [htext, hparse [] (by simp) htrimmed, hspec]
    rfl
  · have hdescribed : spec.description.toList ≠ [] := by simpa using hempty
    obtain ⟨last, hlast⟩ := Option.isSome_iff_exists.1 (List.getLast?_isSome.2 hdescribed)
    have htext : spec.written.toList = token ++ ([' ', '-', ' '] ++ spec.description.toList) := by
      simp [written, hempty, hwritten]
    have htrimmed : Text.IsTrimmed (token ++ ([' ', '-', ' '] ++ spec.description.toList)) := by
      refine Text.isTrimmed_append hhead hfirst ?_ (hdescription.last last hlast)
      rw [List.getLast?_append, hlast, Option.some_or]
    rw [htext, hparse _ (by simp; decide) htrimmed]
    simp only [List.cons_append, List.nil_append, describe_dash hlast hdescription,
      String.ofList_toList]

theorem ofBody_eq_ok_iff {tag body : String} {spec : TargetSpec} :
    ofBody tag body = .ok spec ↔ parse body.toList = .ok spec := by
  unfold ofBody
  cases parse body.toList <;> simp [Except.mapError]

theorem ofBody_eq_error_iff {tag body : String} {failure : Failure} :
    ofBody tag body = .error failure ↔
      ∃ fault, parse body.toList = .error fault ∧ fault.failure tag body = failure := by
  unfold ofBody
  cases parse body.toList <;> simp [Except.mapError]

/-- **Bodies are read by their grammar, and what is read can be written.** A body is refused exactly
if its first token is neither a star nor a dotted identifier or if a brace stays open, and the
failure shows the body. Otherwise the target is empty, for a blank body or a star, or the dotted
identifier that is the first token. A parsed body that is written out is read as the same. -/
theorem ofBody_reads_grammar (tag body : String) :
    ((∃ failure, ofBody tag body = .error failure) ↔ IsMalformed (Text.trim body.toList)) ∧
      (∀ failure, ofBody tag body = .error failure →
        ∃ fault : Fault,
          failure = .malformedTag (fault.message tag) (some tag) (some body)) ∧
      ∀ spec, ofBody tag body = .ok spec →
        (spec.target = "" ∨ IsDotted spec.target.toList) ∧
        (spec.target = "" ↔
          Text.trim body.toList = [] ∨ ∃ rest, Opens (Text.trim body.toList) ['*'] rest) ∧
        (spec.target ≠ "" → ∃ rest, Opens (Text.trim body.toList) spec.target.toList rest) ∧
        ofBody tag spec.written = .ok spec := by
  refine ⟨?_, ?_, ?_⟩
  · rw [← exists_parse_eq_error_iff]
    constructor
    · rintro ⟨failure, hfailure⟩
      obtain ⟨fault, hparse, -⟩ := ofBody_eq_error_iff.1 hfailure
      exact ⟨fault, hparse⟩
    · rintro ⟨fault, hparse⟩
      exact ⟨_, ofBody_eq_error_iff.2 ⟨fault, hparse, rfl⟩⟩
  · intro failure hfailure
    obtain ⟨fault, -, hfault⟩ := ofBody_eq_error_iff.1 hfailure
    exact ⟨fault, hfault.symm⟩
  · intro spec hspec
    rw [ofBody_eq_ok_iff] at hspec ⊢
    rcases names_of_parse hspec with ⟨hblank, rfl⟩ | ⟨token, rest, hopens, hnames, hdescription⟩
    · refine ⟨.inl rfl, iff_of_true rfl (.inl hblank), fun hne => absurd rfl hne, ?_⟩
      exact parse_written (.inl ⟨rfl, rfl⟩) ⟨by simp, by simp⟩
    · have hwritten : parse spec.written.toList = .ok spec := by
        refine parse_written hnames ?_
        rw [hdescription, String.toList_ofList]
        exact isTrimmed_describe rest
      rcases hnames with ⟨rfl, htarget⟩ | ⟨hdotted, htarget⟩
      · exact ⟨.inl htarget, iff_of_true htarget (.inr ⟨rest, hopens⟩), fun hne => absurd htarget hne,
          hwritten⟩
      · have htoken : spec.target.toList = token := by rw [htarget, String.toList_ofList]
        have hne : token ≠ [] := (Names.spec (.inr ⟨hdotted, rfl⟩)).1
        have htarget : spec.target ≠ "" := by
          intro hempty
          rw [hempty] at htoken
          exact hne htoken.symm
        refine ⟨.inr (by rwa [htoken]), iff_of_false htarget ?_, fun _ => ⟨rest, by rwa [htoken]⟩,
          hwritten⟩
        rintro (hblank | ⟨rest', hstar⟩)
        · rw [hblank] at hopens
          exact hne hopens.token_of_nil
        · rw [hopens.token_eq hstar] at hdotted
          exact not_isDotted_star hdotted

end RenderAudit.TargetSpec
