import RenderAudit.Proofs.TopLevel

/-!
# Splitting as division, and as the inverse of joining

A text is divided at the positions where a separator stands outside of all brackets, by the count of
the brackets up to and including that position, whatever that count is elsewhere. The parts are what
is left of these pieces without the white space around them and without the blank ones. So texts
that are trimmed, balanced and not cut come back from a text that joins them.
-/

namespace RenderAudit.TypeText

/-- The character of a separator. One of no or of several characters is found nowhere. -/
def separatorOf : List Char → Option Char
  | [c] => some c
  | _ => none

theorem separatorOf_eq_some_iff {separator : List Char} {c : Char} :
    separatorOf separator = some c ↔ [c] = separator := by
  constructor
  · intro hsome
    unfold separatorOf at hsome
    split at hsome
    · cases hsome
      rfl
    · cases hsome
  · rintro rfl
    rfl

/-- The positions where a separator stands and the depth behind it is zero. -/
def cuts (separator : List Char) (previous : Option Char) (depth : Int) (text : List Char) :
    List Nat :=
  (List.range text.length).filter fun position =>
    text[position]?.map ([·]) = some separator ∧
      depthOver previous depth (text.take (position + 1)) = 0

def slices (text : List Char) (starts stops : List Nat) : List (List Char) :=
  List.zipWith (fun start stop => (text.take stop).drop start) starts stops

/-- The pieces before, between and behind the characters at these positions of a text. -/
def divideAt (positions : List Nat) (text : List Char) : List (List Char) :=
  slices text (0 :: positions.map (· + 1)) (positions ++ [text.length])

/-! ### Positions -/

section Cuts

variable {separator : List Char} {previous : Option Char} {depth : Int}

theorem cuts_cons (c : Char) (rest : List Char) :
    cuts separator previous depth (c :: rest) =
      (if [c] = separator ∧ depthAfter previous depth c = 0 then [0] else []) ++
        (cuts separator (some c) (depthAfter previous depth c) rest).map (· + 1) := by
  unfold cuts
  rw [List.length_cons, List.range_succ_eq_map, List.filter_cons, List.filter_map]
  by_cases hcut : [c] = separator ∧ depthAfter previous depth c = 0
  · rw [if_pos hcut, if_pos (by simpa [depthOver] using hcut)]
    rfl
  · rw [if_neg hcut, if_neg (by simpa [depthOver] using hcut)]
    rfl

end Cuts

theorem slices_cons (c : Char) (rest : List Char) (starts stops : List Nat) :
    slices (c :: rest) (starts.map (· + 1)) (stops.map (· + 1)) = slices rest starts stops := by
  unfold slices
  rw [List.zipWith_map]
  rfl

theorem divideAt_zero_cons (positions : List Nat) (c : Char) (rest : List Char) :
    divideAt (0 :: positions.map (· + 1)) (c :: rest) = [] :: divideAt positions rest := by
  have hrest := slices_cons c rest (0 :: positions.map (· + 1)) (positions ++ [rest.length])
  rw [divideAt, divideAt, ← hrest]
  simp [slices]

theorem divideAt_map_succ (positions : List Nat) (c : Char) (rest : List Char) :
    divideAt (positions.map (· + 1)) (c :: rest) =
      (divideAt positions rest).modifyHead (c :: ·) := by
  cases positions with
  | nil => simp [divideAt, slices]
  | cons first positions =>
      have hrest : divideAt (first :: positions) rest = rest.take first ::
          slices rest ((first + 1) :: positions.map (· + 1)) (positions ++ [rest.length]) := rfl
      rw [hrest, ← slices_cons c]
      simp [divideAt, slices]

/-! ### Pieces -/

section Pieces

variable {previous : Option Char} {depth : Int}

theorem pieces_eq_modifyHead (separator : Option Char) (piece text : List Char) :
    pieces separator previous depth piece text =
      (pieces separator previous depth [] text).modifyHead (piece.reverse ++ ·) := by
  induction text generalizing previous depth piece with
  | nil => simp [pieces]
  | cons c rest ih =>
      rw [pieces, pieces]
      split
      · simp
      · rw [ih (c :: piece), ih [c], List.modifyHead_modifyHead]
        congr 1
        funext first
        simp

/-- The scan divides a text at the cuts. -/
theorem pieces_eq_divideAt (separator text : List Char) :
    pieces (separatorOf separator) previous depth [] text =
      divideAt (cuts separator previous depth text) text := by
  induction text generalizing previous depth with
  | nil => rfl
  | cons c rest ih =>
      rw [pieces, cuts_cons, pieces_eq_modifyHead _ [c], ih]
      by_cases hcut : [c] = separator ∧ depthAfter previous depth c = 0
      · have hfound : separatorOf separator = some c ∧ depthAfter previous depth c = 0 :=
          ⟨separatorOf_eq_some_iff.2 hcut.1, hcut.2⟩
        rw [if_pos (by simpa using hfound), if_pos hcut, List.singleton_append,
          divideAt_zero_cons]
        rfl
      · have hkept : ¬(separatorOf separator = some c ∧ depthAfter previous depth c = 0) := by
          rwa [separatorOf_eq_some_iff]
        rw [if_neg (by simpa using hkept), if_neg hcut, List.nil_append, divideAt_map_succ]
        rfl

end Pieces

/-! ### Parts -/

/-- What can be joined and comes back as one part. -/
structure IsPart (separator : Char) (part : List Char) : Prop where
  nonempty : part ≠ []
  trimmed : Text.IsTrimmed part
  balanced : depthOver none 0 part = 0
  uncut : Uncut separator none 0 part

theorem splitTopLevel_intercalate {separator : Char} {parts : List (List Char)}
    (hplain : opens separator = false ∧ closes separator = false ∧ separator ≠ '=')
    (hparts : ∀ part ∈ parts, IsPart separator part) :
    splitTopLevel (some separator) ([separator].intercalate parts) = parts := by
  by_cases hne : parts = []
  · subst hne
    rfl
  · have hpieces : (pieces (some separator) none 0 [] ([separator].intercalate parts)).map
        Text.trim = parts.map Text.trim :=
      map_trim_pieces_intercalate [] [] hplain (by simp) (by simp) (by simp) hne
        fun part hpart => ⟨(hparts part hpart).balanced, (hparts part hpart).uncut⟩
    have htrim : parts.map Text.trim = parts :=
      List.map_congr_left (fun part hpart => Text.trim_of_isTrimmed (hparts part hpart).trimmed)
        |>.trans (List.map_id parts)
    rw [splitTopLevel, hpieces, htrim, List.filter_eq_self]
    intro part hpart
    simpa using (hparts part hpart).nonempty

theorem splitTopLevel_eq_divideAt (separator text : List Char) :
    splitTopLevel (separatorOf separator) text =
      ((divideAt (cuts separator none 0 text) text).map Text.trim).filter (!·.isEmpty) := by
  rw [splitTopLevel, pieces_eq_divideAt]

theorem mem_splitTopLevel {separator : Option Char} {text part : List Char}
    (hpart : part ∈ splitTopLevel separator text) : part ≠ [] ∧ Text.IsTrimmed part := by
  obtain ⟨hmem, hnonempty⟩ := List.mem_filter.1 hpart
  obtain ⟨piece, -, rfl⟩ := List.mem_map.1 hmem
  exact ⟨by simpa using hnonempty, Text.isTrimmed_trim piece⟩

/-- **Splitting undoes joining.** A character that is neither a bracket nor an equals sign joins
parts that are trimmed, balanced and not cut by it, and splitting at it gives them back. Whatever
the separator and the text are, the result is what is left of a division of the text: at exactly the
positions where the separator stands and no bracket is open by the count, each piece is trimmed and
kept if it is not blank. -/
theorem splitTopLevel_undoes_join :
    (∀ (separator : Char) (parts : List (List Char)),
      opens separator = false → closes separator = false → separator ≠ '=' →
      (∀ part ∈ parts, IsPart separator part) →
      splitTopLevel (separatorOf [separator]) ([separator].intercalate parts) = parts) ∧
    ∀ separator text : List Char,
      (∀ part ∈ splitTopLevel (separatorOf separator) text, part ≠ [] ∧ Text.IsTrimmed part) ∧
      splitTopLevel (separatorOf separator) text =
        ((divideAt (cuts separator none 0 text) text).map Text.trim).filter (!·.isEmpty) := by
  constructor
  · intro separator parts hopens hcloses hequals hparts
    exact splitTopLevel_intercalate ⟨hopens, hcloses, hequals⟩ hparts
  · intro separator text
    exact ⟨fun part => mem_splitTopLevel, splitTopLevel_eq_divideAt separator text⟩

def spacedParts : List (List Char) :=
  ["Map<K, V>".toList, "x=>y".toList]

/-- A blank joins a type with a blank inside of its brackets and one with an arrow. -/
theorem spacedParts_split :
    opens ' ' = false ∧ closes ' ' = false ∧ ' ' ≠ '=' ∧
      (∀ part ∈ spacedParts, IsPart ' ' part) ∧
      splitTopLevel (separatorOf [' ']) ("Map<K, V> x=>y".toList) = spacedParts := by
  have hplain : opens ' ' = false ∧ closes ' ' = false ∧ ' ' ≠ '=' := by decide
  have hparts : ∀ part ∈ spacedParts, IsPart ' ' part := by
    refine List.forall_mem_cons.2 ⟨?_, List.forall_mem_singleton.2 ?_⟩
    · exact ⟨by decide, ⟨by rintro _ ⟨⟩; decide, by rintro _ ⟨⟩; decide⟩, by decide, by decide⟩
    · exact ⟨by decide, ⟨by rintro _ ⟨⟩; decide, by rintro _ ⟨⟩; decide⟩, by decide, by decide⟩
  exact ⟨hplain.1, hplain.2.1, hplain.2.2, hparts,
    splitTopLevel_undoes_join.1 ' ' spacedParts hplain.1 hplain.2.1 hplain.2.2 hparts⟩

end RenderAudit.TypeText
