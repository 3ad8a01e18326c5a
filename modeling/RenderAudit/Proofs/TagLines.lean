import Mathlib.Data.List.Nodup
import Mathlib.Data.Nat.Find
import RenderAudit.DocTag

/-!
# The tag lines of a documentation comment

What remains of a line without its ending and its margin is its content. A line whose content starts
with an at sign and a letter opens a tag, and the lines behind it belong to the tag up to the next
such line. The reader cuts a line by positions and adds them up to the column of the at sign; it also
takes all carriage returns from the end of a line and not only one. Neither shows in a tag: its column
is that of the at sign in the line as it is written, and its body has no white space at its ends.
-/

namespace RenderAudit.DocTag

/-! ### Contents of lines -/

/-- A line without its ending: the delimiter that closes the comment, or one carriage return. -/
def withoutEnding (last : Bool) (raw : List Char) : List Char :=
  if last then raw.take (raw.length - 2)
  else if raw.getLast? = some '\r' then raw.dropLast
  else raw

/-- A line without its margin: the delimiter that opens the comment, or white space and one star. -/
def withoutMargin (first : Bool) (line : List Char) : List Char :=
  if first then line.drop 3
  else
    match Text.trimStart line with
    | '*' :: rest => rest
    | inner => inner

/-- The content of the line at an index. -/
def contentAt (lines : List (List Char)) (index : Nat) : List Char :=
  withoutMargin (index == 0) (withoutEnding (index + 1 == lines.length) (lines.getD index []))

def opensTag (lines : List (List Char)) (index : Nat) : Bool :=
  match Text.trimStart (contentAt lines index) with
  | '@' :: c :: _ => c.isAlpha
  | _ => false

/-- The lines behind a line, up to the next one that opens a tag. -/
def linesAfter (lines : List (List Char)) (index : Nat) : List Nat :=
  (List.range' (index + 1) (lines.length - (index + 1))).takeWhile (!opensTag lines ·)

/-- What may stand in front of a tag: the opening delimiter or a star, and white space. -/
def IsMargin (first : Bool) (margin : List Char) : Prop :=
  ∃ before mark after, margin = before ++ mark ++ after ∧
    (∀ c ∈ before ++ after, Text.isBlank c = true) ∧
    if first then before = [] ∧ mark = ['/', '*', '*'] else mark = [] ∨ mark = ['*']

theorem IsMargin.append {first : Bool} {margin blanks : List Char} (hmargin : IsMargin first margin)
    (hblanks : ∀ c ∈ blanks, Text.isBlank c = true) : IsMargin first (margin ++ blanks) := by
  obtain ⟨before, mark, after, hmark, hblank, hkind⟩ := hmargin
  refine ⟨before, mark, after ++ blanks, by rw [hmark, List.append_assoc _ after], ?_, hkind⟩
  rw [← List.append_assoc, List.forall_mem_append]
  exact ⟨hblank, hblanks⟩

theorem isTagChar_return : isTagChar '\r' = false := by decide +kernel

theorem isTagChar_star : isTagChar '*' = false := by decide +kernel

theorem isTagChar_of_isAlpha {c : Char} (hletter : c.isAlpha = true) : isTagChar c = true := by
  rw [isTagChar, Text.isWord_of_isAlpha hletter, Bool.true_or]

theorem lastClose?_append (front : List Char) :
    lastClose? (front ++ ['*', '/']) = some front.length := by
  induction front with
  | nil => rfl
  | cons c rest ih => simp [lastClose?, ih]

theorem withoutReturn_append_close (front : List Char) :
    withoutReturn (front ++ ['*', '/']) = front ++ ['*', '/'] := by
  simp [withoutReturn, Text.stripEnd]

/-- The reader looks at what stands in front of the ending of a line, which differs from the line
without its ending by carriage returns only. -/
theorem exists_ending (first : Bool) {last : Bool} {raw : List Char}
    (hclose : last = true → ['*', '/'] <:+ raw) :
    ∃ inner ending extra, raw = inner ++ ending ∧
      (∀ c ∈ ending.head?, isTagChar c = false) ∧
      withoutEnding last raw = inner ++ extra ∧ (∀ c ∈ extra, c = '\r') ∧
      undecorate first last (withoutReturn raw) = undecorate first false inner := by
  cases last with
  | true =>
      obtain ⟨front, rfl⟩ := hclose rfl
      refine ⟨front, ['*', '/'], [], rfl, ?_, ?_, ?_, ?_⟩
      · rintro c ⟨⟩
        exact isTagChar_star
      · simp [withoutEnding]
      · simp
      · rw [withoutReturn_append_close]
        simp [undecorate, lastClose?_append]
  | false =>
      have hreturns : ∀ {tail : List Char}, (∀ c ∈ tail, (c == '\r') = true) →
          ∀ c ∈ tail.head?, isTagChar c = false := by
        intro tail htail c hc
        rw [beq_iff_eq.1 (htail c (List.mem_of_mem_head? hc))]
        exact isTagChar_return
      by_cases hreturn : raw.getLast? = some '\r'
      · obtain ⟨front, rfl⟩ := List.getLast?_eq_some_iff.1 hreturn
        obtain ⟨tail, htail, hfront⟩ := Text.exists_eq_stripEnd_append (· == '\r') front
        have hstrip : withoutReturn (front ++ ['\r']) = withoutReturn front :=
          Text.stripEnd_append (by simp) front
        refine ⟨withoutReturn front, tail ++ ['\r'], tail, ?_, ?_, ?_, ?_, ?_⟩
        · rw [← List.append_assoc]
          exact congrArg (· ++ ['\r']) hfront
        · apply hreturns
          simpa [or_imp, forall_and] using htail
        · rw [withoutEnding, if_neg Bool.false_ne_true, if_pos hreturn, List.dropLast_concat]
          exact hfront
        · simpa using htail
        · rw [hstrip]
      · obtain ⟨tail, htail, hraw⟩ := Text.exists_eq_stripEnd_append (· == '\r') raw
        refine ⟨withoutReturn raw, tail, tail, hraw, hreturns htail, ?_, ?_, rfl⟩
        · rw [withoutEnding, if_neg Bool.false_ne_true, if_neg hreturn]
          exact hraw
        · simpa using htail

theorem fst_undecorate (first : Bool) (inner : List Char) :
    (undecorate first false inner).1 = withoutMargin first inner := by
  cases first with
  | true => simp [undecorate, withoutMargin]
  | false =>
      simp only [undecorate, withoutMargin, Bool.false_eq_true, if_false, List.take_length]
      cases hinner : Text.trimStart inner with
      | nil => rfl
      | cons c rest => by_cases hstar : c = '*' <;> simp [hstar]

theorem withoutMargin_append (first : Bool) (inner : List Char) {extra : List Char}
    (hextra : ∀ c ∈ extra, c = '\r') :
    ∃ more, (∀ c ∈ more, c = '\r') ∧
      withoutMargin first (inner ++ extra) = withoutMargin first inner ++ more := by
  cases first with
  | true =>
      refine ⟨extra.drop (3 - inner.length), ?_, List.drop_append⟩
      intro c hc
      exact hextra c (List.mem_of_mem_drop hc)
  | false =>
      simp only [withoutMargin, Bool.false_eq_true, if_false]
      by_cases hblank : Text.trimStart inner = []
      · refine ⟨[], by simp, ?_⟩
        have hnothing : Text.trimStart extra = [] := by
          apply Text.trimStart_eq_nil
          intro c hc
          rw [hextra c hc]
          rfl
        rw [Text.trimStart_append_of_eq_nil hblank, hnothing, hblank]
        rfl
      · refine ⟨extra, hextra, ?_⟩
        rw [Text.trimStart_append_of_ne_nil hblank]
        obtain ⟨c, rest, hinner⟩ := List.exists_cons_of_ne_nil hblank
        rw [hinner]
        by_cases hstar : c = '*'
        · subst hstar
          rfl
        · simp [hstar]

/-- The content of a line starts behind its margin. -/
theorem exists_margin {first : Bool} {inner : List Char}
    (hopen : first = true → ['/', '*', '*'] <+: inner) :
    ∃ margin, IsMargin first margin ∧ inner = margin ++ (undecorate first false inner).1 ∧
      margin.length = (undecorate first false inner).2 := by
  cases first with
  | true =>
      obtain ⟨rest, rfl⟩ := hopen rfl
      refine ⟨['/', '*', '*'], ⟨[], ['/', '*', '*'], [], rfl, by simp, by simp⟩, ?_, rfl⟩
      simp [undecorate]
  | false =>
      have hinner : inner = inner.takeWhile Text.isBlank ++ Text.trimStart inner :=
        List.takeWhile_append_dropWhile.symm
      have hblank : ∀ c ∈ inner.takeWhile Text.isBlank, Text.isBlank c = true :=
        List.all_eq_true.1 List.all_takeWhile
      have hlength : inner.length - (Text.trimStart inner).length =
          (inner.takeWhile Text.isBlank).length := by
        have hsum := congrArg List.length hinner
        rw [List.length_append] at hsum
        omega
      simp only [undecorate, Bool.false_eq_true, if_false, List.take_length]
      split
      · next rest hstar =>
        refine ⟨inner.takeWhile Text.isBlank ++ ['*'],
          ⟨inner.takeWhile Text.isBlank, ['*'], [], by simp, by simpa using hblank, by simp⟩, ?_, ?_⟩
        · rw [hstar] at hinner
          simpa using hinner
        · rw [List.length_append, ← hlength]
          rfl
      · exact ⟨inner.takeWhile Text.isBlank,
          ⟨inner.takeWhile Text.isBlank, [], [], by simp, by simpa using hblank, by simp⟩, hinner,
          hlength.symm⟩

/-! ### Lines that open a tag -/

/-- The first line of a comment opens it and the last one closes it. -/
structure Framed (lines : List (List Char)) : Prop where
  opening : ∀ raw, lines[0]? = some raw → ['/', '*', '*'] <+: raw
  closing : ∀ raw, lines[lines.length - 1]? = some raw → ['*', '/'] <:+ raw

/-- Where a tag stands in its line: its name is the longest run of name characters behind the at
sign, and `rest` is what the line says behind the name. -/
structure StandsAt (lines : List (List Char)) (index column : Nat) (name rest : List Char) :
    Prop where
  written : ∃ raw, lines[index]? = some raw ∧ IsMargin (index == 0) (raw.take column) ∧
    raw[column]? = some '@' ∧ name = (raw.drop (column + 1)).takeWhile isTagChar
  content : Text.trimStart (contentAt lines index) = '@' :: (name ++ rest)

/-- The line at an index as it is read. -/
def lineAt (lines : List (List Char)) (index : Nat) : Line :=
  let (content, start) :=
    undecorate (index == 0) (index + 1 == lines.length) (withoutReturn (lines.getD index []))
  Line.read index content start

/-- A run does not go on into what begins with a character of another class. -/
theorem takeWhile_append_of_head? {p : Char → Bool} {run ending : List Char}
    (hending : ∀ c ∈ ending.head?, p c = false) :
    (run ++ ending).takeWhile p = run.takeWhile p := by
  induction run with
  | nil =>
      cases ending with
      | nil => rfl
      | cons c ending => simp [hending c rfl]
  | cons c run ih => rw [List.cons_append, List.takeWhile_cons, List.takeWhile_cons, ih]

theorem read_of_letter {index start : Nat} {content rest : List Char} {c : Char}
    (hcontent : Text.trimStart content = '@' :: c :: rest) (hletter : c.isAlpha = true) :
    Line.read index content start =
      .opening (c :: rest.takeWhile isTagChar) (rest.dropWhile isTagChar) index
        (start + (content.takeWhile Text.isBlank).length) := by
  have hlength : content.length - ('@' :: c :: rest).length =
      (content.takeWhile Text.isBlank).length := by
    have hsum := congrArg List.length (List.takeWhile_append_dropWhile (p := Text.isBlank)
      (l := content))
    rw [List.length_append] at hsum
    rw [← hcontent]
    unfold Text.trimStart
    omega
  simp only [Line.read, hcontent, hletter, if_true, hlength]

theorem read_of_no_letter {index start : Nat} {content : List Char}
    (hnone : ∀ c rest, Text.trimStart content = '@' :: c :: rest → c.isAlpha = false) :
    Line.read index content start = .text content := by
  unfold Line.read
  dsimp only
  split
  · next c rest hcontent => rw [if_neg (by simp [hnone c rest hcontent])]
  · rfl

theorem opensTag_iff {lines : List (List Char)} {index : Nat} :
    opensTag lines index = true ↔
      ∃ c rest, Text.trimStart (contentAt lines index) = '@' :: c :: rest ∧ c.isAlpha = true := by
  unfold opensTag
  split
  · next c rest hcontent => simp [hcontent]
  · next hother =>
    constructor
    · intro hfalse
      cases hfalse
    · rintro ⟨c, rest, hcontent, -⟩
      exact absurd hcontent (hother c rest)

/-- Carriage returns at its end do not change whether a content opens a tag. -/
theorem trimStart_append_returns_iff {content more : List Char} (hmore : ∀ c ∈ more, c = '\r') :
    (∃ c rest, Text.trimStart (content ++ more) = '@' :: c :: rest ∧ c.isAlpha = true) ↔
      ∃ c rest, Text.trimStart content = '@' :: c :: rest ∧ c.isAlpha = true := by
  by_cases hblank : Text.trimStart content = []
  · have hnothing : Text.trimStart more = [] := by
      apply Text.trimStart_eq_nil
      intro c hc
      rw [hmore c hc]
      rfl
    rw [Text.trimStart_append_of_eq_nil hblank, hnothing, hblank]
  · rw [Text.trimStart_append_of_ne_nil hblank]
    constructor
    · rintro ⟨c, rest, hcontent, hletter⟩
      -- a lone at sign would need the first carriage return for a letter
      rcases htrim : Text.trimStart content with _ | ⟨first, _ | ⟨second, others⟩⟩
      · exact absurd htrim hblank
      · rw [htrim, List.singleton_append, List.cons.injEq] at hcontent
        rw [hmore c (by simp [hcontent.2])] at hletter
        cases hletter
      · rw [htrim] at hcontent
        simp only [List.cons_append, List.cons.injEq] at hcontent
        obtain ⟨rfl, rfl, -⟩ := hcontent
        exact ⟨second, others, rfl, hletter⟩
    · rintro ⟨c, rest, hcontent, hletter⟩
      exact ⟨c, rest ++ more, by rw [hcontent]; rfl, hletter⟩

section Reading

variable {lines : List (List Char)} {index : Nat} {raw : List Char}

/-- How a line is read: up to its ending, behind its margin. -/
theorem exists_reading (hframed : Framed lines) (hraw : lines[index]? = some raw) :
    ∃ content start more, lineAt lines index = Line.read index content start ∧
      contentAt lines index = content ++ more ∧ (∀ c ∈ more, c = '\r') ∧
      (content ≠ [] → ∃ margin ending, raw = margin ++ content ++ ending ∧ margin.length = start ∧
        IsMargin (index == 0) margin ∧ ∀ c ∈ ending.head?, isTagChar c = false) := by
  have hget : lines.getD index [] = raw := by rw [List.getD_eq_getElem?_getD, hraw]; rfl
  have hclose : (index + 1 == lines.length) = true → ['*', '/'] <:+ raw := by
    intro hlast
    apply hframed.closing
    rw [← beq_iff_eq.1 hlast]
    exact hraw
  obtain ⟨inner, ending, extra, hinner, hending, hwithout, hextra, hread⟩ :=
    exists_ending (index == 0) hclose
  obtain ⟨more, hmore, hcontent⟩ := withoutMargin_append (index == 0) inner hextra
  refine ⟨(undecorate (index == 0) false inner).1, (undecorate (index == 0) false inner).2, more,
    ?_, ?_, hmore, ?_⟩
  · rw [lineAt, hget, hread]
  · rw [contentAt, hget, hwithout, hcontent, fst_undecorate]
  · intro hne
    have hopen : (index == 0) = true → ['/', '*', '*'] <+: inner := by
      intro hfirst
      have hzero : index = 0 := beq_iff_eq.1 hfirst
      subst hzero
      apply List.prefix_of_prefix_length_le (hframed.opening raw hraw) ⟨ending, hinner.symm⟩
      rw [fst_undecorate, withoutMargin, if_pos hfirst] at hne
      have hlong := mt List.drop_eq_nil_of_le hne
      simp only [List.length_cons, List.length_nil]
      omega
    obtain ⟨margin, hmargin, hsplit, hlength⟩ := exists_margin hopen
    exact ⟨margin, ending, by rw [← hsplit, hinner], hlength, hmargin, hending⟩

theorem lineAt_of_opensTag (hframed : Framed lines) (hraw : lines[index]? = some raw)
    (hopens : opensTag lines index = true) :
    ∃ name rest column said, lineAt lines index = .opening name rest index column ∧
      StandsAt lines index column name said ∧ Text.trim said = Text.trim rest := by
  obtain ⟨content, start, more, hline, hsaid, hmore, hplace⟩ := exists_reading hframed hraw
  rw [opensTag_iff, hsaid, trimStart_append_returns_iff hmore] at hopens
  obtain ⟨c, rest, hcontent, hletter⟩ := hopens
  have hne : Text.trimStart content ≠ [] := by simp [hcontent]
  have hsplit : content = content.takeWhile Text.isBlank ++ '@' :: c :: rest := by
    rw [← hcontent]
    exact List.takeWhile_append_dropWhile.symm
  obtain ⟨margin, ending, hwritten, hlength, hmargin, hending⟩ :=
    hplace (by rw [hsplit]; simp)
  -- the line as it is written, cut at the column of the at sign
  have hcut : raw = (margin ++ content.takeWhile Text.isBlank) ++ '@' :: (c :: rest ++ ending) :=
    calc raw = margin ++ content ++ ending := hwritten
      _ = margin ++ (content.takeWhile Text.isBlank ++ '@' :: c :: rest) ++ ending := by
          rw [← hsplit]
      _ = _ := by simp only [List.append_assoc, List.cons_append]
  have hcolumn : (margin ++ content.takeWhile Text.isBlank).length =
      start + (content.takeWhile Text.isBlank).length := by
    rw [List.length_append, hlength]
  refine ⟨_, _, _, rest.dropWhile isTagChar ++ more, hline.trans (read_of_letter hcontent hletter),
    ⟨⟨raw, hraw, ?_, ?_, ?_⟩, ?_⟩, ?_⟩
  · rw [hcut, ← hcolumn, List.take_left]
    exact hmargin.append (List.all_eq_true.1 List.all_takeWhile)
  · rw [hcut, ← hcolumn]
    simp
  · rw [hcut, ← hcolumn, ← List.drop_drop, List.drop_left, List.drop_succ_cons, List.drop_zero,
      takeWhile_append_of_head? hending, List.takeWhile_cons_of_pos (isTagChar_of_isAlpha hletter)]
  · rw [hsaid, Text.trimStart_append_of_ne_nil hne, hcontent]
    simp only [List.cons_append, ← List.append_assoc, List.takeWhile_append_dropWhile]
  · apply Text.trim_append
    intro d hd
    rw [hmore d hd]
    rfl

theorem lineAt_of_not_opensTag (hframed : Framed lines) (hraw : lines[index]? = some raw)
    (hopens : opensTag lines index = false) :
    ∃ content, lineAt lines index = .text content ∧
      Text.trim content = Text.trim (contentAt lines index) := by
  obtain ⟨content, start, more, hline, hsaid, hmore, -⟩ := exists_reading hframed hraw
  rw [← Bool.not_eq_true, opensTag_iff, hsaid, trimStart_append_returns_iff hmore] at hopens
  refine ⟨content, hline.trans (read_of_no_letter ?_), ?_⟩
  · intro c rest hcontent
    cases hletter : c.isAlpha with
    | false => rfl
    | true => exact absurd ⟨c, rest, hcontent, hletter⟩ hopens
  · rw [hsaid, Text.trim_append]
    intro d hd
    rw [hmore d hd]
    rfl

end Reading

/-! ### All lines of a comment -/

/-- A tag as its lines have it: its body is the rest of its own line and the contents of the lines
behind it, each without white space at its ends. -/
def ReadFrom (lines : List (List Char)) (tag : DocTag) : Prop :=
  ∃ rest, StandsAt lines tag.line tag.column tag.name.toList rest ∧
    tag.body.toList = Text.trim (['\n'].intercalate (Text.trim rest ::
      (linesAfter lines tag.line).map fun index => Text.trim (contentAt lines index)))

section Lines

variable {lines : List (List Char)}

theorem readLines_drop {index count : Nat} (hcount : index + count = lines.length) :
    readLines index (lines.drop index) = (List.range' index count).map (lineAt lines) := by
  induction count generalizing index with
  | zero =>
      rw [List.drop_eq_nil_of_le (by omega)]
      rfl
  | succ count ih =>
      have hlt : index < lines.length := by omega
      have hlast : (lines.drop (index + 1)).isEmpty = (index + 1 == lines.length) := by
        rw [Bool.eq_iff_iff, List.isEmpty_iff, List.drop_eq_nil_iff, beq_iff_eq]
        omega
      have hget : lines.getD index [] = lines[index] := by simp [hlt]
      rw [List.drop_eq_getElem_cons hlt, readLines, ih (by omega), hlast, List.range'_succ,
        List.map_cons, lineAt, hget]

theorem leadingText_lines (hframed : Framed lines) {index count : Nat}
    (hcount : index + count = lines.length) :
    (leadingText ((List.range' index count).map (lineAt lines))).map Text.trim =
      ((List.range' index count).takeWhile (!opensTag lines ·)).map
        fun index => Text.trim (contentAt lines index) := by
  induction count generalizing index with
  | zero => rfl
  | succ count ih =>
      have hraw := List.getElem?_eq_getElem (l := lines) (i := index) (by omega)
      rw [List.range'_succ, List.map_cons]
      cases hopens : opensTag lines index with
      | true =>
          obtain ⟨name, rest, column, said, hline, -⟩ := lineAt_of_opensTag hframed hraw hopens
          rw [hline, List.takeWhile_cons_of_neg (by simp [hopens])]
          rfl
      | false =>
          obtain ⟨content, hline, htrim⟩ := lineAt_of_not_opensTag hframed hraw hopens
          rw [hline, List.takeWhile_cons_of_pos (by simp [hopens]), leadingText, List.map_cons,
            List.map_cons, htrim, ih (by omega)]

/-- From any line on, one tag is read for each line that opens one. -/
theorem ofLines_lines (hframed : Framed lines) {index count : Nat}
    (hcount : index + count = lines.length) :
    (ofLines ((List.range' index count).map (lineAt lines))).map (·.line) =
        (List.range' index count).filter (opensTag lines) ∧
      ∀ tag ∈ ofLines ((List.range' index count).map (lineAt lines)), ReadFrom lines tag := by
  induction count generalizing index with
  | zero => exact ⟨rfl, fun _ hmem => absurd hmem List.not_mem_nil⟩
  | succ count ih =>
      have hraw := List.getElem?_eq_getElem (l := lines) (i := index) (by omega)
      obtain ⟨hlines, htags⟩ := @ih (index + 1) (by omega)
      rw [List.range'_succ, List.map_cons]
      cases hopens : opensTag lines index with
      | true =>
          obtain ⟨name, rest, column, said, hline, hstands, htrim⟩ :=
            lineAt_of_opensTag hframed hraw hopens
          rw [hline, List.filter_cons_of_pos hopens, ofLines, List.map_cons, hlines,
            List.forall_mem_cons]
          refine ⟨rfl, ⟨said, by rwa [String.toList_ofList], ?_⟩, htags⟩
          have hcount' : lines.length - (index + 1) = count := by omega
          rw [String.toList_ofList, bodyOf, List.map_cons, leadingText_lines hframed (by omega),
            linesAfter, hcount', htrim]
      | false =>
          obtain ⟨content, hline, -⟩ := lineAt_of_not_opensTag hframed hraw hopens
          rw [hline, List.filter_cons_of_neg (by simp [hopens]), ofLines]
          exact ⟨hlines, htags⟩

end Lines

theorem framed_splitOn {text : List Char} (hdoc : isDocComment text = true) :
    Framed (text.splitOn '\n') := by
  simp only [isDocComment, Bool.and_eq_true, List.isPrefixOf_iff_prefix,
    List.isSuffixOf_iff_suffix] at hdoc
  obtain ⟨⟨⟨rest, hopen⟩, -⟩, ⟨front, hclose⟩⟩ := hdoc
  constructor
  · intro raw hraw
    rw [← hopen] at hraw
    obtain ⟨first, others, hrest⟩ := List.exists_cons_of_ne_nil (List.splitOn_ne_nil '\n' rest)
    simp [List.splitOn_cons_eq_if_modifyHead, hrest] at hraw
    exact ⟨first, hraw⟩
  · intro raw hraw
    rw [← List.getLast?_eq_getElem?] at hraw
    by_cases hbreak : '\n' ∈ front
    · -- the last line starts behind the last line feed
      obtain ⟨behind, before, hfront, hnone⟩ :=
        List.eq_append_cons_of_mem (List.mem_reverse.2 hbreak)
      rw [List.reverse_eq_iff] at hfront
      have hlast : behind.reverse ++ ['*', '/'] = raw := by
        have hsingle : (behind.reverse ++ ['*', '/']).splitOn '\n' =
            [behind.reverse ++ ['*', '/']] := by
          apply List.splitOn_eq_singleton
          simpa using hnone
        rw [← hclose, hfront, List.reverse_append, List.reverse_cons, List.append_assoc,
          List.append_assoc, List.singleton_append, List.splitOn_append_cons_self, hsingle,
          List.getLast?_concat] at hraw
        exact Option.some.inj hraw
      exact ⟨_, hlast⟩
    · have hsingle : text.splitOn '\n' = [text] := by
        apply List.splitOn_eq_singleton
        rw [← hclose]
        simpa using hbreak
      rw [hsingle] at hraw
      cases hraw
      exact ⟨front, hclose⟩

theorem mem_takeWhile_range'_iff {p : Nat → Bool} {index start count : Nat} :
    index ∈ (List.range' start count).takeWhile p ↔
      start ≤ index ∧ index < start + count ∧ ∀ k, start ≤ k → k ≤ index → p k = true := by
  induction count generalizing start with
  | zero => simp; omega
  | succ count ih =>
      rw [List.range'_succ]
      by_cases hstart : p start = true
      · rw [List.takeWhile_cons_of_pos hstart, List.mem_cons, ih]
        constructor
        · rintro (rfl | ⟨hle, hlt, hall⟩)
          · refine ⟨le_rfl, by omega, fun k hlow hhigh => ?_⟩
            rwa [le_antisymm hhigh hlow]
          · refine ⟨by omega, by omega, fun k hlow hhigh => ?_⟩
            rcases Nat.eq_or_lt_of_le hlow with rfl | hlow
            · exact hstart
            · exact hall k hlow hhigh
        · rintro ⟨hle, hlt, hall⟩
          rcases Nat.eq_or_lt_of_le hle with rfl | hle
          · exact .inl rfl
          · exact .inr ⟨hle, by omega, fun k hlow hhigh => hall k (by omega) hhigh⟩
      · rw [List.takeWhile_cons_of_neg hstart]
        constructor
        · intro hmem
          cases hmem
        · rintro ⟨hle, -, hall⟩
          exact absurd (hall start le_rfl hle) hstart

/-- A line belongs to the last tag that was opened up to it. -/
theorem belongs_iff {lines : List (List Char)} {index line : Nat} (hlt : index < lines.length) :
    index = line ∨ index ∈ linesAfter lines line ↔
      line ≤ index ∧ ∀ k, line < k → k ≤ index → opensTag lines k = false := by
  rw [linesAfter, mem_takeWhile_range'_iff]
  simp only [Bool.not_eq_true']
  constructor
  · rintro (rfl | ⟨hle, -, hall⟩)
    · exact ⟨le_rfl, fun k hlow hhigh => absurd hlow (by omega)⟩
    · exact ⟨by omega, hall⟩
  · rintro ⟨hle, hall⟩
    rcases Nat.eq_or_lt_of_le hle with rfl | hlt'
    · exact .inl rfl
    · exact .inr ⟨hlt', by omega, hall⟩

theorem parse_eq_ofLines {text : List Char} (hdoc : isDocComment text = true) :
    parse text = ofLines ((List.range' 0 (text.splitOn '\n').length).map
      (lineAt (text.splitOn '\n'))) := by
  rw [parse, if_pos hdoc, ← readLines_drop (Nat.zero_add _), List.drop_zero]

theorem readFrom_of_mem_parse {text : List Char} {tag : DocTag} (htag : tag ∈ parse text) :
    ReadFrom (text.splitOn '\n') tag := by
  by_cases hdoc : isDocComment text = true
  · rw [parse_eq_ofLines hdoc] at htag
    exact (ofLines_lines (framed_splitOn hdoc) (Nat.zero_add _)).2 tag htag
  · rw [parse, if_neg hdoc] at htag
    cases htag

/-- **A comment is read by its tag lines.** The tags are those of the lines whose content opens one,
in their order. Each stands in its line as it is written, right behind the margin; its name is the
longest run of name characters there; and its body is made of the contents up to the next such line.
So each line from the first tag on belongs to exactly one tag. -/
theorem parse_reads_tag_lines {text : List Char} (hdoc : isDocComment text = true) :
    (parse text).map (·.line) =
        (List.range (text.splitOn '\n').length).filter (opensTag (text.splitOn '\n')) ∧
      (∀ tag ∈ parse text, ReadFrom (text.splitOn '\n') tag) ∧
      ∀ index < (text.splitOn '\n').length,
        (∃ first ≤ index, opensTag (text.splitOn '\n') first = true) →
          ∃! tag, tag ∈ parse text ∧
            (index = tag.line ∨ index ∈ linesAfter (text.splitOn '\n') tag.line) := by
  have hlines : (parse text).map (·.line) =
      (List.range (text.splitOn '\n').length).filter (opensTag (text.splitOn '\n')) := by
    rw [parse_eq_ofLines hdoc, List.range_eq_range']
    exact (ofLines_lines (framed_splitOn hdoc) (Nat.zero_add _)).1
  refine ⟨hlines, fun tag htag => readFrom_of_mem_parse htag, ?_⟩
  intro index hlt ⟨first, hfirst, hopens⟩
  have hopensAt : ∀ tag ∈ parse text, opensTag (text.splitOn '\n') tag.line = true := by
    intro tag htag
    have hline := List.mem_map_of_mem (f := (·.line)) htag
    rw [hlines] at hline
    exact (List.mem_filter.1 hline).2
  -- the tag of the last line up to this one that opens a tag
  have hlast := Nat.findGreatest_spec (P := fun k => opensTag (text.splitOn '\n') k = true)
    hfirst hopens
  have hle := Nat.findGreatest_le (P := fun k => opensTag (text.splitOn '\n') k = true) index
  have hmem : Nat.findGreatest (fun k => opensTag (text.splitOn '\n') k = true) index ∈
      (parse text).map (·.line) := by
    rw [hlines, List.mem_filter, List.mem_range]
    exact ⟨by omega, hlast⟩
  obtain ⟨tag, htag, hline⟩ := List.mem_map.1 hmem
  refine ⟨tag, ⟨htag, (belongs_iff hlt).2 ⟨by omega, ?_⟩⟩, ?_⟩
  · intro k hlow hhigh
    rw [hline] at hlow
    simpa using Nat.findGreatest_is_greatest hlow hhigh
  · rintro other ⟨hother, hbelongs⟩
    obtain ⟨hotherLe, hnone⟩ := (belongs_iff hlt).1 hbelongs
    have hsame : other.line = tag.line := by
      rcases Nat.lt_trichotomy other.line tag.line with hbefore | hsame | hbehind
      · have hclosed := hnone tag.line hbefore (by omega)
        rw [hopensAt tag htag] at hclosed
        cases hclosed
      · exact hsame
      · rw [hline] at hbehind
        exact absurd (hopensAt other hother) (Nat.findGreatest_is_greatest hbehind hotherLe)
    have hnodup : ((parse text).map (·.line)).Nodup := by
      rw [hlines]
      exact List.nodup_range.filter _
    exact List.inj_on_of_nodup_map hnodup hother htag hsame

/-- Text in front of the first tag, a tag over two lines, and one that the delimiter ends. -/
def cardNote : List Char :=
  "/** Card.\r\n * @renders Title -\r\n *   in bold\r\n\t@see-also*/".toList

theorem cardNote_tag_lines :
    isDocComment cardNote = true ∧ (parse cardNote).map (·.line) = [1, 3] ∧
      (∀ tag ∈ parse cardNote, ReadFrom (cardNote.splitOn '\n') tag) ∧
      ∃! tag, tag ∈ parse cardNote ∧
        (2 = tag.line ∨ 2 ∈ linesAfter (cardNote.splitOn '\n') tag.line) := by
  have hdoc : isDocComment cardNote = true := by decide +kernel
  obtain ⟨hlines, htags, howner⟩ := parse_reads_tag_lines hdoc
  refine ⟨hdoc, hlines.trans (by decide +kernel), htags, ?_⟩
  exact howner 2 (by decide +kernel) ⟨1, by decide, by decide +kernel⟩

end RenderAudit.DocTag
