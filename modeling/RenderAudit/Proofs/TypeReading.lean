import RenderAudit.Proofs.TopLevel

/-!
# What a type text is read as

Each level of the classification reads a text as a union, as something around an inner type, or as a
type name, and white space around the text makes no difference. More levels accept more. A union is
renderable exactly if one of its members is. Parentheses make no difference either, with one
exception: a union that itself begins with an opening and ends with a closing parenthesis. The two
are taken for a pair, although a bar outside of all brackets stands between them.
-/

namespace RenderAudit.TypeText

/-! ### One level -/

inductive Reading where
  | union (members : List (List Char))
  | inner (text : List Char)
  | named (name : String)

/-- What one level makes of a text. -/
def reading (text : List Char) : Reading :=
  let member := Text.trim text
  let name := Text.trim (member.takeWhile (· != '<'))
  if 1 < (splitTopLevel (some '|') text).length then .union (splitTopLevel (some '|') text)
  else if bare text ≠ member then .inner (bare text)
  else if arrayMark.isSuffixOf member then .inner (member.take (member.length - 2))
  else
    ((arrayArgument? name ((member.dropWhile (· != '<')).drop 1)).map .inner).getD
      (.named (String.ofList name))

/-- Whether a reading is renderable, given whether the types inside of it are. -/
def Reading.holds (names : List String) (inside : List Char → Bool) : Reading → Bool
  | .union members => members.any inside
  | .inner text => inside text
  | .named name => names.contains name

theorem accepts_succ (names : List String) (levels : Nat) (text : List Char) :
    accepts names (levels + 1) text = (reading text).holds names (accepts names levels) := by
  rw [accepts, reading]
  split
  · next first second rest hmembers =>
    rw [hmembers, if_pos (by simp)]
    rfl
  · next hmembers =>
    have hone : ¬ 1 < (splitTopLevel (some '|') text).length := by
      intro hlength
      obtain ⟨first, others, hfirst⟩ := List.exists_cons_of_length_pos (Nat.zero_lt_of_lt hlength)
      rw [hfirst, List.length_cons] at hlength
      obtain ⟨second, rest, hothers⟩ := List.exists_cons_of_length_pos (Nat.lt_of_succ_lt_succ hlength)
      exact hmembers first second rest (by rw [hfirst, hothers])
    rw [if_neg hone]
    by_cases hbare : bare text = Text.trim text
    · have hsame : ¬ (bare text != Text.trim text) = true := by simp [hbare]
      rw [if_neg (not_not_intro hbare)]
      simp only [if_neg hsame]
      rw [hbare]
      by_cases harray : arrayMark.isSuffixOf (Text.trim text) = true
      · rw [if_pos harray, if_pos harray]
        rfl
      · rw [if_neg harray, if_neg harray]
        split
        · next element helement => rw [helement]; rfl
        · next helement => rw [helement]; rfl
    · rw [if_pos hbare]
      simp only [if_pos (bne_iff_ne.2 hbare)]
      rfl

theorem reading_trim (text : List Char) : reading (Text.trim text) = reading text := by
  have hsplit : splitTopLevel (some '|') (Text.trim text) = splitTopLevel (some '|') text :=
    splitTopLevel_trim (by decide) text
  have hbare : bare (Text.trim text) = bare text := by rw [bare, bare, Text.trim_trim]
  rw [reading, reading, hsplit, hbare, Text.trim_trim]

theorem accepts_trim (names : List String) (levels : Nat) (text : List Char) :
    accepts names levels (Text.trim text) = accepts names levels text := by
  cases levels with
  | zero => rfl
  | succ levels => rw [accepts_succ, accepts_succ, reading_trim]

/-! ### More levels -/

section Levels

variable {names : List String} {levels : Nat}

theorem Reading.holds_mono {inside further : List Char → Bool}
    (hfurther : ∀ text, inside text = true → further text = true) (reading : Reading)
    (hholds : reading.holds names inside = true) : reading.holds names further = true := by
  cases reading with
  | union members =>
      obtain ⟨member, hmember, haccepted⟩ := List.any_eq_true.1 hholds
      exact List.any_eq_true.2 ⟨member, hmember, hfurther member haccepted⟩
  | inner text => exact hfurther text hholds
  | named name => exact hholds

theorem accepts_mono {text : List Char} (haccepts : accepts names levels text = true) :
    accepts names (levels + 1) text = true := by
  induction levels generalizing text with
  | zero => cases haccepts
  | succ levels ih =>
      rw [accepts_succ] at haccepts ⊢
      exact (reading text).holds_mono (fun _ => ih) haccepts

/-- Whether the types inside a reading that are looked at, one after the other up to the first that
is renderable, stay within the levels left for them. -/
def Reading.staysWithin (inside within : List Char → Bool) : Reading → Bool
  | .union members =>
      members.foldr (fun member later => within member && (inside member || later)) true
  | .inner text => within text
  | .named _ => true

/-- Whether the classification of a text comes to an end before the levels are used up. -/
def staysWithin (names : List String) : Nat → List Char → Bool
  | 0, _ => false
  | levels + 1, text =>
      (reading text).staysWithin (accepts names levels) (staysWithin names levels)

theorem any_of_staysWithin {inside within further : List Char → Bool}
    (hfurther : ∀ text, within text = true → further text = inside text)
    {members : List (List Char)}
    (hwithin : (Reading.union members).staysWithin inside within = true) :
    members.any further = members.any inside := by
  induction members with
  | nil => rfl
  | cons member members ih =>
      obtain ⟨hmember, hlater⟩ := Bool.and_eq_true_iff.1 hwithin
      rw [List.any_cons, List.any_cons, hfurther member hmember]
      cases haccepted : inside member with
      | true => rfl
      | false =>
          rw [haccepted, Bool.false_or] at hlater
          rw [ih hlater]

/-- A classification that stays within its levels does not change with one more. -/
theorem accepts_succ_of_staysWithin {text : List Char}
    (hwithin : staysWithin names levels text = true) :
    accepts names (levels + 1) text = accepts names levels text := by
  induction levels generalizing text with
  | zero => cases hwithin
  | succ levels ih =>
      rw [staysWithin] at hwithin
      rw [accepts_succ, accepts_succ]
      cases hreading : reading text with
      | union members =>
          rw [hreading] at hwithin
          exact any_of_staysWithin (fun _ => ih) hwithin
      | inner inside =>
          rw [hreading] at hwithin
          exact ih hwithin
      | named name => rfl

end Levels

/-! ### Unions -/

/-- A text that can stand in a union as one member. -/
structure IsMember (text : List Char) : Prop where
  nonblank : ∃ c ∈ text, Text.isBlank c = false
  balanced : depthOver none 0 text = 0
  uncut : Uncut '|' none 0 text

instance (text : List Char) : Decidable (IsMember text) :=
  decidable_of_iff (text.any (!Text.isBlank ·) = true ∧ depthOver none 0 text = 0 ∧
      Uncut '|' none 0 text) (by
    simp only [List.any_eq_true, Bool.not_eq_true']
    exact ⟨fun ⟨hblank, hbalanced, huncut⟩ => ⟨hblank, hbalanced, huncut⟩,
      fun hmember => ⟨hmember.nonblank, hmember.balanced, hmember.uncut⟩⟩)

/-- The verdict on a text that is met a number of levels below the type it stands in. -/
def acceptsAt (names : List String) (depth : Nat) (text : List Char) : Bool :=
  accepts names (levelLimit - depth) text

theorem splitTopLevel_join {members : List (List Char)} (hne : members ≠ [])
    (hmembers : ∀ member ∈ members, IsMember member) :
    splitTopLevel (some '|') (" | ".toList.intercalate members) = members.map Text.trim := by
  have hpieces : (pieces (some '|') none 0 [] (" | ".toList.intercalate members)).map Text.trim =
      members.map Text.trim :=
    map_trim_pieces_intercalate [' '] [' '] (by decide) Text.isBlank_blank Text.isBlank_blank
      (by decide) hne
      fun member hmember => ⟨(hmembers member hmember).balanced, (hmembers member hmember).uncut⟩
  rw [splitTopLevel, hpieces, List.filter_eq_self]
  intro piece hpiece
  obtain ⟨member, hmember, rfl⟩ := List.mem_map.1 hpiece
  obtain ⟨c, hc, hblank⟩ := (hmembers member hmember).nonblank
  simpa using Text.trim_ne_nil hc hblank

theorem reading_join {members : List (List Char)} (htwo : 2 ≤ members.length)
    (hmembers : ∀ member ∈ members, IsMember member) :
    reading (" | ".toList.intercalate members) = .union (members.map Text.trim) := by
  have hne : members ≠ [] := List.ne_nil_of_length_pos (by omega)
  rw [reading, splitTopLevel_join hne hmembers, if_pos (by rw [List.length_map]; omega)]

theorem accepts_levelLimit (names : List String) (text : List Char) :
    accepts names levelLimit text = (reading text).holds names (acceptsAt names 1) :=
  accepts_succ names 32 text

theorem isRenderable_of_ne {names : List String} {text : String} (hne : text ≠ "") :
    isRenderable names (some text) = accepts names levelLimit text.toList := by
  rw [isRenderable, accepts_trim]
  simp [hne]

theorem isRenderable_join_iff {names : List String} {members : List String}
    (htwo : 2 ≤ members.length) (hmembers : ∀ member ∈ members, IsMember member.toList) :
    isRenderable names (some (" | ".intercalate members)) = true ↔
      ∃ member ∈ members, acceptsAt names 1 member.toList = true := by
  have hlists : ∀ member ∈ members.map String.toList, IsMember member := by
    intro text htext
    obtain ⟨member, hmember, rfl⟩ := List.mem_map.1 htext
    exact hmembers member hmember
  have hlength : 2 ≤ (members.map String.toList).length := by rwa [List.length_map]
  have hne : " | ".intercalate members ≠ "" := by
    intro hempty
    have hsplit := splitTopLevel_join (List.ne_nil_of_length_pos (by omega)) hlists
    rw [← String.toList_intercalate, hempty] at hsplit
    have hnone : ((members.map String.toList).map Text.trim).length = 0 := by
      rw [← hsplit]
      rfl
    rw [List.length_map] at hnone
    omega
  rw [isRenderable_of_ne hne, String.toList_intercalate, accepts_levelLimit,
    reading_join hlength hlists]
  simp only [Reading.holds, List.any_map, List.any_eq_true, Function.comp_apply, acceptsAt,
    accepts_trim]

theorem acceptsAt_of_succ {names : List String} {depth : Nat} {text : List Char}
    (haccepts : acceptsAt names (depth + 1) text = true) : acceptsAt names depth text = true := by
  by_cases hdepth : depth < levelLimit
  · have hlevels : levelLimit - depth = levelLimit - (depth + 1) + 1 := by omega
    rw [acceptsAt, hlevels]
    exact accepts_mono haccepts
  · have hlevels : levelLimit - (depth + 1) = 0 := by omega
    rw [acceptsAt, hlevels] at haccepts
    cases haccepts

/-- **A union is renderable exactly if one of its members is.** Members count one level below the
union, in whatever order and however often they stand in it. A type that is accepted at some level is
accepted at each higher one, so one of the members is renderable on its own as well. -/
theorem union_renderable_iff_member (names members : List String)
    (htwo : 2 ≤ members.length) (hmembers : ∀ member ∈ members, IsMember member.toList) :
    (isRenderable names (some (" | ".intercalate members)) = true ↔
        ∃ member ∈ members, acceptsAt names 1 member.toList = true) ∧
      (∀ others : List String, 2 ≤ others.length → (∀ text, text ∈ others ↔ text ∈ members) →
        isRenderable names (some (" | ".intercalate others)) =
          isRenderable names (some (" | ".intercalate members))) ∧
      (∀ text depth, acceptsAt names (depth + 1) text = true → acceptsAt names depth text = true) ∧
      (isRenderable names (some (" | ".intercalate members)) = true →
        ∃ member ∈ members, isRenderable names (some member) = true) := by
  refine ⟨isRenderable_join_iff htwo hmembers, ?_, fun _ _ => acceptsAt_of_succ, ?_⟩
  · intro others hothers hsame
    have hmembers' : ∀ member ∈ others, IsMember member.toList :=
      fun member hmember => hmembers member ((hsame member).1 hmember)
    rw [Bool.eq_iff_iff, isRenderable_join_iff hothers hmembers',
      isRenderable_join_iff htwo hmembers]
    simp only [hsame]
  · intro hrenderable
    obtain ⟨member, hmember, haccepts⟩ := (isRenderable_join_iff htwo hmembers).1 hrenderable
    have hne : member ≠ "" := by
      rintro rfl
      obtain ⟨c, hc, -⟩ := (hmembers "" hmember).nonblank
      cases hc
    refine ⟨member, hmember, ?_⟩
    rw [isRenderable_of_ne hne]
    exact acceptsAt_of_succ haccepts

theorem paged_union_by_member :
    let members := ["Map<string, A | B>", "(a: A) => [B | N]", " readonly (N)[] "]
    isRenderable ["N"] (some (" | ".intercalate members)) = true ∧
      isRenderable ["N"] (some (" | ".intercalate members.reverse)) = true ∧
      ∃ member ∈ members, isRenderable ["N"] (some member) = true := by
  intro members
  obtain ⟨hiff, hsame, -, hown⟩ :=
    union_renderable_iff_member ["N"] members (by decide) (by decide)
  have hrenderable : isRenderable ["N"] (some (" | ".intercalate members)) = true :=
    hiff.2 ⟨" readonly (N)[] ", by decide, by decide +kernel⟩
  refine ⟨hrenderable, ?_, hown hrenderable⟩
  rw [hsame members.reverse (by decide) (fun _ => List.mem_reverse)]
  exact hrenderable

/-! ### Parentheses -/

/-- A text with a bracket counter that is never negative. -/
def NeverNegative (text : List Char) : Prop :=
  ∀ before, before <+: text → 0 ≤ depthOver none 0 before

instance (text : List Char) : Decidable (NeverNegative text) :=
  decidable_of_iff (∀ count < text.length + 1, 0 ≤ depthOver none 0 (text.take count)) (by
    constructor
    · intro hcounts before hbefore
      have hlength := hbefore.length_le
      rw [List.prefix_iff_eq_take.1 hbefore]
      exact hcounts before.length (by omega)
    · intro htext count _
      exact htext (text.take count) (List.take_prefix count text))

/-- A text that begins with an opening and ends with a closing parenthesis. -/
def IsFramed (text : List Char) : Prop :=
  text.head? = some '(' ∧ text.getLast? = some ')'

theorem exists_eq_of_isFramed {text : List Char} (hframed : IsFramed text) :
    ∃ inside, text = '(' :: (inside ++ [')']) := by
  obtain ⟨rest, rfl⟩ := List.head?_eq_some_iff.1 hframed.1
  obtain ⟨front, hfront⟩ := List.getLast?_eq_some_iff.1 hframed.2
  cases front with
  | nil => cases hfront
  | cons c inside =>
      cases hfront
      exact ⟨inside, rfl⟩

theorem unparenthesize_of_not_isFramed {text : List Char} (hframed : ¬ IsFramed text) :
    unparenthesize text = text := by
  fun_cases unparenthesize text with
  | case1 rest hlast =>
      apply absurd _ hframed
      refine ⟨rfl, ?_⟩
      rw [List.getLast?_cons, beq_iff_eq.1 hlast]
      rfl
  | case2 rest hlast => rfl
  | case3 text hopen => rfl

theorem unparenthesize_framed (inside : List Char) :
    unparenthesize ('(' :: (inside ++ [')'])) = unparenthesize (Text.trim inside) := by
  rw [unparenthesize]
  simp

theorem length_unparenthesize_le (text : List Char) :
    (unparenthesize text).length ≤ text.length := by
  fun_induction unparenthesize text with
  | case1 rest hlast ih =>
      have htrim := Text.length_trim_le rest.dropLast
      rw [List.length_dropLast] at htrim
      rw [List.length_cons]
      omega
  | case2 rest hlast => exact Nat.le_refl _
  | case3 text hopen => exact Nat.le_refl _

theorem depthOver_open (text : List Char) :
    depthOver none 0 ('(' :: text) = depthOver none 0 text + 1 := by
  have hopen : depthAfter none 0 '(' = 0 + 1 := by decide
  rw [depthOver, hopen, depthOver_of_ne (by decide), depthOver_add]

/-- A bar in front of a closing parenthesis stands in the text before it. -/
theorem exists_eq_of_append_close {inside before after : List Char}
    (htext : inside ++ [')'] = before ++ '|' :: after) :
    ∃ later, inside = before ++ '|' :: later := by
  rcases List.eq_nil_or_concat after with rfl | ⟨later, last, rfl⟩
  · have hlast := (List.append_inj' htext rfl).2
    cases hlast
  · rw [List.concat_eq_append, ← List.cons_append, ← List.append_assoc] at htext
    exact ⟨later, (List.append_inj' htext rfl).1⟩

theorem uncut_framed {inside : List Char} (hinside : NeverNegative inside) :
    Uncut '|' none 0 ('(' :: (inside ++ [')'])) := by
  intro before after htext
  cases before with
  | nil => cases htext
  | cons c before =>
      obtain ⟨rfl, hrest⟩ := List.cons.inj htext
      obtain ⟨later, rfl⟩ := exists_eq_of_append_close hrest
      have hnonneg := hinside (before ++ ['|']) ⟨later, by simp⟩
      rw [List.cons_append, depthOver_open]
      omega

theorem length_splitTopLevel_le {text : List Char} (huncut : Uncut '|' none 0 text) :
    (splitTopLevel (some '|') text).length ≤ 1 := by
  rw [splitTopLevel, pieces_of_uncut huncut]
  exact List.length_filter_le _ _

theorem bare_of_head? {text : List Char} (hopen : text.head? = some '(')
    (htext : Text.IsTrimmed text) : bare text = unparenthesize text := by
  obtain ⟨rest, rfl⟩ := List.head?_eq_some_iff.1 hopen
  rw [bare, Text.trim_of_isTrimmed htext]
  rfl

/-- Parentheses around a text that is no union are taken off, as many as there are. -/
theorem reading_of_isFramed {text : List Char} (hframed : IsFramed text)
    (hone : (splitTopLevel (some '|') text).length ≤ 1) :
    reading text = .inner (unparenthesize text) := by
  have htrimmed : Text.IsTrimmed text := by
    constructor
    · rw [hframed.1]
      rintro c ⟨⟩
      decide
    · rw [hframed.2]
      rintro c ⟨⟩
      decide
  have hbare := bare_of_head? hframed.1 htrimmed
  have hchanged : bare text ≠ Text.trim text := by
    rw [hbare, Text.trim_of_isTrimmed htrimmed]
    obtain ⟨inside, rfl⟩ := exists_eq_of_isFramed hframed
    intro hsame
    have hlength := length_unparenthesize_le (Text.trim inside)
    have htrim := Text.length_trim_le inside
    rw [← unparenthesize_framed, hsame, List.length_cons, List.length_append] at hlength
    omega
  rw [reading, if_neg (by omega), if_pos hchanged, hbare]

theorem isFramed_parenthesized (inside : List Char) : IsFramed ('(' :: (inside ++ [')'])) := by
  refine ⟨rfl, ?_⟩
  rw [← List.cons_append, List.getLast?_concat]

/-- A union that begins with an opening and ends with a closing parenthesis. -/
def IsFramedUnion (text : List Char) : Prop :=
  IsFramed text ∧ 1 < (splitTopLevel (some '|') text).length

/-- The outer parentheses of a union are no pair: what they enclose closes a bracket that it has not
opened. -/
theorem IsFramedUnion.exists_inside {text : List Char} (hunion : IsFramedUnion text) :
    ∃ inside, text = '(' :: (inside ++ [')']) ∧ ¬ NeverNegative inside := by
  obtain ⟨inside, rfl⟩ := exists_eq_of_isFramed hunion.1
  refine ⟨inside, rfl, fun hinside => ?_⟩
  have hone := length_splitTopLevel_le (uncut_framed hinside)
  have htwo := hunion.2
  omega

theorem isRenderable_parenthesized (names : List String) {text : String}
    (hdepth : NeverNegative text.toList) :
    isRenderable names (some ("(" ++ text ++ ")")) =
      acceptsAt names 1 (unparenthesize (Text.trim text.toList)) := by
  have htext : ("(" ++ text ++ ")").toList = '(' :: (text.toList ++ [')']) := by simp
  have hreading := reading_of_isFramed (isFramed_parenthesized text.toList)
    (length_splitTopLevel_le (uncut_framed hdepth))
  rw [isRenderable_of_ne (by simp), htext, accepts_levelLimit, hreading, unparenthesize_framed,
    Reading.holds]

/-- **Parentheses around a type make no difference**, unless the type is a union that begins with an
opening and ends with a closing parenthesis. Of such a union these two are taken off as well, and
what is left is read in its place, although they do not belong together. -/
theorem parenthesized_renderable_alike (names : List String) (text : String) (hne : text ≠ "")
    (hdepth : NeverNegative text.toList)
    (hlevels : staysWithin names (levelLimit - 1) (Text.trim text.toList) = true) :
    (¬ IsFramedUnion (Text.trim text.toList) →
        isRenderable names (some ("(" ++ text ++ ")")) = isRenderable names (some text)) ∧
      (IsFramedUnion (Text.trim text.toList) →
        isRenderable names (some ("(" ++ text ++ ")")) =
            acceptsAt names 1 (unparenthesize (Text.trim text.toList)) ∧
          ∃ inside, Text.trim text.toList = '(' :: (inside ++ [')']) ∧ ¬ NeverNegative inside) := by
  rw [isRenderable_parenthesized names hdepth, isRenderable_of_ne hne, ← accepts_trim]
  refine ⟨fun hplain => ?_, fun hunion => ⟨rfl, hunion.exists_inside⟩⟩
  by_cases hframed : IsFramed (Text.trim text.toList)
  · -- the parentheses of the text itself are taken off with those around it
    have hone : (splitTopLevel (some '|') (Text.trim text.toList)).length ≤ 1 :=
      Nat.le_of_not_lt fun hmore => hplain ⟨hframed, hmore⟩
    rw [accepts_levelLimit, reading_of_isFramed hframed hone, Reading.holds]
  · rw [unparenthesize_of_not_isFramed hframed]
    exact (accepts_succ_of_staysWithin hlevels).symm

theorem paged_union_alike :
    isRenderable ["N"] (some "(readonly N[] | (x: A) => (M))") = true := by
  have hnot : ¬ IsFramedUnion (Text.trim "readonly N[] | (x: A) => (M)".toList) := by
    intro hunion
    cases hunion.1.1
  have halike := (parenthesized_renderable_alike ["N"] "readonly N[] | (x: A) => (M)"
    (by decide) (by decide +kernel) (by decide +kernel)).1 hnot
  exact halike.trans (by decide +kernel)

/-- A union of two types in parentheses, with and without parentheses around it. -/
theorem framed_union_unrenderable :
    NeverNegative "(N)|(M)".toList ∧ depthOver none 0 "(N)|(M)".toList = 0 ∧
      staysWithin ["N"] (levelLimit - 1) (Text.trim "(N)|(M)".toList) = true ∧
      isRenderable ["N"] (some "(N)|(M)") = true ∧
      isRenderable ["N"] (some "((N)|(M))") = false := by
  decide +kernel

end RenderAudit.TypeText
