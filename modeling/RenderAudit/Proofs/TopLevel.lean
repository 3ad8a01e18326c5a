import RenderAudit.TypeText

/-!
# Pieces of a text at the top level

A scan counts the brackets that are open and cuts where a separator stands outside of all of them.
The count behind a text depends on what was read before only by the depth at the start and, because
of arrows, by whether the last character was an equals sign. So a text that is balanced and is cut
nowhere can be read as a whole, wherever it stands, and joined texts come apart again.
-/

namespace RenderAudit.TypeText

/-- The nesting depth behind a text. -/
def depthOver (previous : Option Char) (depth : Int) : List Char → Int
  | [] => depth
  | c :: rest => depthOver (some c) (depthAfter previous depth c) rest

/-- No separator in a text stands outside of brackets. -/
def Uncut (separator : Char) (previous : Option Char) (depth : Int) (text : List Char) : Prop :=
  ∀ before after, text = before ++ separator :: after →
    depthOver previous depth (before ++ [separator]) ≠ 0

section Depth

variable {previous : Option Char} {depth : Int} {c : Char} {text : List Char}

theorem depthAfter_add (more : Int) :
    depthAfter previous (depth + more) c = depthAfter previous depth c + more := by
  unfold depthAfter
  split
  · omega
  · split <;> omega

theorem depthOver_add (more : Int) :
    depthOver previous (depth + more) text = depthOver previous depth text + more := by
  induction text generalizing previous depth with
  | nil => rfl
  | cons c rest ih => rw [depthOver, depthOver, depthAfter_add, ih]

theorem depthAfter_of_ne (hprevious : previous ≠ some '=') :
    depthAfter previous depth c = depthAfter none depth c := by
  have hequals : (previous == some '=') = false := beq_eq_false_iff_ne.2 hprevious
  unfold depthAfter
  rw [hequals]
  rfl

theorem depthOver_of_ne (hprevious : previous ≠ some '=') :
    depthOver previous depth text = depthOver none depth text := by
  cases text with
  | nil => rfl
  | cons c rest => rw [depthOver, depthOver, depthAfter_of_ne hprevious]

theorem depthAfter_of_plain (hopens : opens c = false) (hcloses : closes c = false) :
    depthAfter previous depth c = depth := by
  simp [depthAfter, hopens, hcloses]

theorem depthAfter_of_isBlank (hblank : Text.isBlank c = true) :
    depthAfter previous depth c = depth := by
  have hnot : ∀ bracket : Char, Text.isBlank bracket = false → (c == bracket) = false := by
    intro bracket hbracket
    rw [beq_eq_false_iff_ne]
    rintro rfl
    rw [hbracket] at hblank
    cases hblank
  apply depthAfter_of_plain
  · simp only [opens, hnot '<' (by decide), hnot '(' (by decide), hnot '[' (by decide),
      hnot '{' (by decide), Bool.or_false]
  · simp only [closes, hnot '>' (by decide), hnot ')' (by decide), hnot ']' (by decide),
      hnot '}' (by decide), Bool.or_false]

theorem depthOver_of_isBlank (hblank : ∀ c ∈ text, Text.isBlank c = true) :
    depthOver previous depth text = depth := by
  induction text generalizing previous with
  | nil => rfl
  | cons c rest ih =>
      rw [List.forall_mem_cons] at hblank
      rw [depthOver, depthAfter_of_isBlank hblank.1, ih hblank.2]

end Depth

section Pieces

variable {separator : Char} {previous : Option Char} {depth : Int} {text : List Char}

theorem uncut_cons {c : Char} {rest : List Char} :
    Uncut separator previous depth (c :: rest) ↔
      (c = separator → depthAfter previous depth c ≠ 0) ∧
        Uncut separator (some c) (depthAfter previous depth c) rest := by
  constructor
  · intro huncut
    refine ⟨?_, fun before after hrest => huncut (c :: before) after (by rw [hrest]; rfl)⟩
    rintro rfl
    exact huncut [] rest rfl
  · rintro ⟨hfirst, hrest⟩ before after htext
    cases before with
    | nil =>
        cases htext
        exact hfirst rfl
    | cons d before =>
        cases htext
        exact hrest before after rfl

instance decidableUncut (separator : Char) :
    ∀ previous depth text, Decidable (Uncut separator previous depth text)
  | _, _, [] => .isTrue fun _ _ htext => by simp at htext
  | previous, depth, c :: rest =>
      have := decidableUncut separator (some c) (depthAfter previous depth c) rest
      decidable_of_iff' _ uncut_cons

theorem uncut_of_notMem (hnot : separator ∉ text) : Uncut separator previous depth text := by
  rintro before after rfl
  exact absurd (by simp) hnot

/-- A text that is not cut is read as a whole. -/
theorem pieces_append_of_uncut (huncut : Uncut separator previous depth text)
    (piece rest : List Char) :
    pieces (some separator) previous depth piece (text ++ rest) =
      pieces (some separator) (text.getLast?.or previous) (depthOver previous depth text)
        (text.reverse ++ piece) rest := by
  induction text generalizing previous depth piece with
  | nil => rfl
  | cons c text ih =>
      rw [uncut_cons] at huncut
      have hkept : ¬ (some separator == some c && depthAfter previous depth c == 0) = true := by
        simp only [Bool.and_eq_true, beq_iff_eq, Option.some.injEq]
        rintro ⟨rfl, hzero⟩
        exact huncut.1 rfl hzero
      have hlast : (c :: text).getLast?.or previous = text.getLast?.or (some c) := by
        rw [List.getLast?_cons]
        cases text.getLast? <;> rfl
      rw [List.cons_append, pieces, if_neg hkept, ih huncut.2, hlast, depthOver,
        List.reverse_cons, List.append_assoc]
      rfl

theorem pieces_of_uncut (huncut : Uncut separator previous depth text) (piece : List Char) :
    pieces (some separator) previous depth piece text = [piece.reverse ++ text] := by
  have hwhole := pieces_append_of_uncut huncut piece []
  rw [List.append_nil] at hwhole
  rw [hwhole, pieces, List.reverse_append, List.reverse_reverse]

theorem pieces_cut (hdepth : depthAfter previous depth separator = 0) (piece rest : List Char) :
    pieces (some separator) previous depth piece (separator :: rest) =
      piece.reverse :: pieces (some separator) (some separator) 0 [] rest := by
  simp [pieces, hdepth]

theorem pieces_of_ne (hprevious : previous ≠ some '=') (piece : List Char) :
    pieces (some separator) previous depth piece text =
      pieces (some separator) none depth piece text := by
  cases text with
  | nil => rfl
  | cons c rest => rw [pieces, pieces, depthAfter_of_ne hprevious]

/-! ### White space around pieces -/

section Blanks

variable {blanks : List Char}

theorem notMem_of_isBlank (hblanks : ∀ c ∈ blanks, Text.isBlank c = true)
    (hseparator : Text.isBlank separator = false) : separator ∉ blanks := by
  intro hmem
  rw [hblanks separator hmem] at hseparator
  cases hseparator

theorem getLast?_or_ne (hblanks : ∀ c ∈ blanks, Text.isBlank c = true)
    (hprevious : previous ≠ some '=') : blanks.getLast?.or previous ≠ some '=' := by
  cases hlast : blanks.getLast? with
  | none => exact hprevious
  | some c =>
      rintro ⟨⟩
      exact notMem_of_isBlank hblanks (by decide) (List.mem_of_getLast? hlast)

/-- White space between two pieces goes to the piece behind it. -/
theorem pieces_blank_append (hblanks : ∀ c ∈ blanks, Text.isBlank c = true)
    (hseparator : separator ∉ blanks) (piece rest : List Char) :
    pieces (some separator) previous depth piece (blanks ++ rest) =
      pieces (some separator) (blanks.getLast?.or previous) depth (blanks.reverse ++ piece) rest := by
  rw [pieces_append_of_uncut (uncut_of_notMem hseparator), depthOver_of_isBlank hblanks]

theorem map_trim_pieces_append (hblanks : ∀ c ∈ blanks, Text.isBlank c = true)
    (hseparator : Text.isBlank separator = false) (piece : List Char) :
    (pieces (some separator) previous depth piece (text ++ blanks)).map Text.trim =
      (pieces (some separator) previous depth piece text).map Text.trim := by
  induction text generalizing previous depth piece with
  | nil =>
      rw [List.nil_append, pieces_of_uncut (uncut_of_notMem (notMem_of_isBlank hblanks hseparator)),
        pieces, List.map_singleton, List.map_singleton, Text.trim_append hblanks]
  | cons c text ih =>
      rw [List.cons_append, pieces, pieces]
      split
      · rw [List.map_cons, List.map_cons, ih]
      · exact ih _

/-- White space that was read first does not count. -/
theorem map_trim_pieces_concat (hblanks : ∀ c ∈ blanks, Text.isBlank c = true)
    (piece : List Char) :
    (pieces (some separator) previous depth (piece ++ blanks) text).map Text.trim =
      (pieces (some separator) previous depth piece text).map Text.trim := by
  have hreverse : ∀ c ∈ blanks.reverse, Text.isBlank c = true := by simpa using hblanks
  have hpiece : ∀ piece : List Char,
      Text.trim (piece ++ blanks).reverse = Text.trim piece.reverse := by
    intro piece
    rw [List.reverse_append, Text.trim_blank_append hreverse]
  induction text generalizing previous depth piece with
  | nil => rw [pieces, pieces, List.map_singleton, List.map_singleton, hpiece]
  | cons c text ih =>
      rw [pieces, pieces]
      split
      · rw [List.map_cons, List.map_cons, hpiece]
      · exact ih (c :: piece)

theorem map_trim_pieces_blank_append (hblanks : ∀ c ∈ blanks, Text.isBlank c = true)
    (hseparator : separator ∉ blanks) (hprevious : previous ≠ some '=') :
    (pieces (some separator) previous depth [] (blanks ++ text)).map Text.trim =
      (pieces (some separator) none depth [] text).map Text.trim := by
  have hreverse : ∀ c ∈ blanks.reverse, Text.isBlank c = true := by simpa using hblanks
  rw [pieces_blank_append hblanks hseparator, pieces_of_ne (getLast?_or_ne hblanks hprevious),
    List.append_nil, ← List.nil_append blanks.reverse, map_trim_pieces_concat hreverse]

theorem splitTopLevel_trim (hseparator : Text.isBlank separator = false) (text : List Char) :
    splitTopLevel (some separator) (Text.trim text) = splitTopLevel (some separator) text := by
  obtain ⟨front, back, hfront, hback, htext⟩ := Text.exists_eq_append_trim text
  have hbegin : (pieces (some separator) none 0 [] (front ++ Text.trim text)).map Text.trim =
      (pieces (some separator) none 0 [] (Text.trim text)).map Text.trim :=
    map_trim_pieces_blank_append hfront (notMem_of_isBlank hfront hseparator) (by simp)
  have hend : (pieces (some separator) none 0 [] (front ++ Text.trim text ++ back)).map Text.trim =
      (pieces (some separator) none 0 [] (front ++ Text.trim text)).map Text.trim :=
    map_trim_pieces_append hback hseparator []
  rw [splitTopLevel, splitTopLevel, ← hbegin, ← hend, ← htext]

end Blanks

/-! ### Joined texts -/

/-- Balanced texts that are not cut, joined by a separator with white space around it, come apart
again: each of them is one piece. -/
theorem map_trim_pieces_intercalate (front back : List Char) {parts : List (List Char)}
    (hplain : opens separator = false ∧ closes separator = false ∧ separator ≠ '=')
    (hfront : ∀ c ∈ front, Text.isBlank c = true) (hback : ∀ c ∈ back, Text.isBlank c = true)
    (hglue : separator ∉ front ++ back) (hparts : parts ≠ [])
    (hwhole : ∀ part ∈ parts, depthOver none 0 part = 0 ∧ Uncut separator none 0 part) :
    (pieces (some separator) none 0 [] ((front ++ separator :: back).intercalate parts)).map
        Text.trim = parts.map Text.trim := by
  rw [List.mem_append, not_or] at hglue
  induction parts with
  | nil => exact absurd rfl hparts
  | cons part parts ih =>
      rw [List.forall_mem_cons] at hwhole
      obtain ⟨⟨hbalanced, huncut⟩, hwhole⟩ := hwhole
      cases parts with
      | nil =>
          rw [List.intercalate_singleton, pieces_of_uncut huncut]
          rfl
      | cons second parts =>
          have hcut : ∀ previous, depthAfter previous 0 separator = 0 :=
            fun _ => depthAfter_of_plain hplain.1 hplain.2.1
          have hequals : some separator ≠ some '=' := by simpa using hplain.2.2
          rw [List.intercalate_cons_cons, List.append_assoc, List.append_assoc,
            pieces_append_of_uncut huncut, hbalanced, pieces_blank_append hfront hglue.1,
            List.cons_append, pieces_cut (hcut _), List.map_cons, List.map_cons,
            map_trim_pieces_blank_append hback hglue.2 hequals,
            ih (List.cons_ne_nil second parts) hwhole]
          congr 1
          rw [List.append_nil, List.reverse_append, List.reverse_reverse, List.reverse_reverse,
            Text.trim_append hfront]

end Pieces

end RenderAudit.TypeText
