import RenderAudit.Extraction
import RenderAudit.Proofs.TagLines
import RenderAudit.Tree.Rows

/-!
# The places of tags in a source

The place of a tag is put together from the place of its comment, which counts bytes, and from the
column of the at sign within its line, which counts characters. The line that comes out is that of
the at sign. The column lags behind by what the white space in front of the at sign takes in bytes
beyond one for each character, so it is right exactly if all of that is one byte wide.
-/

namespace RenderAudit

namespace DocTag

/-- The lines of the comment above the one of a tag. -/
def linesBefore (tag : DocTag) (text : List Char) : List Char :=
  ((text.splitOn '\n').take tag.line).flatMap (· ++ ['\n'])

/-- What stands in front of a tag in its line, as far as it belongs to the comment. -/
def indentation (tag : DocTag) (text : List Char) : List Char :=
  ((text.splitOn '\n').getD tag.line []).take tag.column

/-- What stands in front of a tag in the comment. -/
def textBefore (tag : DocTag) (text : List Char) : List Char :=
  tag.linesBefore text ++ tag.indentation text

/-- A line holds no line feed. -/
theorem notMem_of_mem_splitOn {text raw : List Char} (hraw : raw ∈ text.splitOn '\n') :
    '\n' ∉ raw := by
  induction text generalizing raw with
  | nil =>
      rw [List.splitOn_nil, List.mem_singleton] at hraw
      simp [hraw]
  | cons c rest ih =>
      obtain ⟨first, others, hrest⟩ := List.exists_cons_of_ne_nil (List.splitOn_ne_nil '\n' rest)
      rw [hrest, List.forall_mem_cons] at ih
      rw [List.splitOn_cons_eq_if_modifyHead, hrest, List.modifyHead_cons] at hraw
      by_cases hbreak : (c == '\n') = true
      · rw [if_pos hbreak, List.mem_cons, List.mem_cons] at hraw
        rcases hraw with rfl | rfl | hraw
        · exact List.not_mem_nil
        · exact ih.1
        · exact ih.2 raw hraw
      · rw [if_neg hbreak, List.mem_cons] at hraw
        rcases hraw with rfl | hraw
        · rw [List.mem_cons, not_or]
          exact ⟨fun heq => hbreak (by rw [← heq]; rfl), ih.1⟩
        · exact ih.2 raw hraw

/-- A text at one of its lines. -/
theorem exists_eq_append_line {lines : List (List Char)} {index : Nat} {raw : List Char}
    (hraw : lines[index]? = some raw) :
    ∃ after, ['\n'].intercalate lines =
      (lines.take index).flatMap (· ++ ['\n']) ++ raw ++ after := by
  induction lines generalizing index with
  | nil => cases hraw
  | cons line rest ih =>
      cases index with
      | zero =>
          cases hraw
          cases rest with
          | nil => exact ⟨[], by simp⟩
          | cons next others =>
              exact ⟨['\n'] ++ ['\n'].intercalate (next :: others), by simp⟩
      | succ index =>
          rw [List.getElem?_cons_succ] at hraw
          obtain ⟨after, hafter⟩ := ih hraw
          obtain ⟨next, others, rfl⟩ := List.exists_cons_of_ne_nil
            (List.ne_nil_of_mem (List.mem_of_getElem? hraw))
          refine ⟨after, ?_⟩
          rw [List.intercalate_cons_cons, hafter, List.take_succ_cons, List.flatMap_cons]
          simp only [List.append_assoc]

section Tag

variable {text : List Char} {tag : DocTag} (htag : tag ∈ parse text)

include htag

theorem notMem_indentation : '\n' ∉ tag.indentation text := by
  obtain ⟨_, ⟨⟨raw, hraw, -⟩, -⟩, -⟩ := readFrom_of_mem_parse htag
  intro hbreak
  rw [indentation, List.getD_eq_getElem?_getD, hraw] at hbreak
  exact notMem_of_mem_splitOn (List.mem_of_getElem? hraw) (List.mem_of_mem_take hbreak)

theorem length_indentation : (tag.indentation text).length = tag.column := by
  obtain ⟨_, ⟨⟨raw, hraw, -, hat, -⟩, -⟩, -⟩ := readFrom_of_mem_parse htag
  have hlt := (List.getElem?_eq_some_iff.1 hat).1
  rw [indentation, List.getD_eq_getElem?_getD, hraw]
  exact List.length_take_of_le (Nat.le_of_lt hlt)

/-- The at sign and the name of a tag stand behind the text before it. -/
theorem exists_eq_append_tag :
    ∃ after, text = tag.textBefore text ++ '@' :: (tag.name.toList ++ after) := by
  obtain ⟨_, ⟨⟨raw, hraw, -, hat, hname⟩, -⟩, -⟩ := readFrom_of_mem_parse htag
  obtain ⟨hlt, hat⟩ := List.getElem?_eq_some_iff.1 hat
  obtain ⟨after, hafter⟩ := exists_eq_append_line hraw
  have hline : raw = raw.take tag.column ++ '@' :: (tag.name.toList ++
      (raw.drop (tag.column + 1)).dropWhile isTagChar) := by
    rw [hname, List.takeWhile_append_dropWhile, ← hat, ← List.drop_eq_getElem_cons hlt,
      List.take_append_drop]
  refine ⟨(raw.drop (tag.column + 1)).dropWhile isTagChar ++ after, ?_⟩
  calc text = ['\n'].intercalate (text.splitOn '\n') := (List.intercalate_splitOn '\n').symm
    _ = ((text.splitOn '\n').take tag.line).flatMap (· ++ ['\n']) ++ raw ++ after := hafter
    _ = ((text.splitOn '\n').take tag.line).flatMap (· ++ ['\n']) ++
          (raw.take tag.column ++ '@' :: (tag.name.toList ++
            (raw.drop (tag.column + 1)).dropWhile isTagChar)) ++ after := by rw [← hline]
    _ = _ := by
        rw [textBefore, linesBefore, indentation, List.getD_eq_getElem?_getD, hraw]
        simp

theorem count_textBefore : (tag.textBefore text).count '\n' = tag.line := by
  obtain ⟨_, ⟨⟨raw, hraw, -⟩, -⟩, -⟩ := readFrom_of_mem_parse htag
  have hle := Nat.le_of_lt (List.getElem?_eq_some_iff.1 hraw).1
  have hone : ∀ line ∈ (text.splitOn '\n').take tag.line,
      (List.count '\n' ∘ (· ++ ['\n'])) line = 1 := by
    intro line hline
    rw [Function.comp_apply, List.count_append,
      List.count_eq_zero_of_not_mem (notMem_of_mem_splitOn (List.mem_of_mem_take hline))]
    rfl
  rw [textBefore, List.count_append, List.count_eq_zero_of_not_mem (notMem_indentation htag),
    linesBefore, List.count_flatMap, List.map_congr_left hone, List.map_const', List.sum_replicate_nat,
    List.length_take_of_le hle]
  omega

/-- The line of a tag starts behind a line feed unless it is the first one. -/
theorem exists_linesBefore_eq (hline : tag.line ≠ 0) :
    ∃ front, tag.linesBefore text = front ++ ['\n'] := by
  obtain ⟨_, ⟨⟨raw, hraw, -⟩, -⟩, -⟩ := readFrom_of_mem_parse htag
  obtain ⟨hlt, -⟩ := List.getElem?_eq_some_iff.1 hraw
  obtain ⟨index, hindex⟩ := Nat.exists_eq_succ_of_ne_zero hline
  have hprevious : index < (text.splitOn '\n').length := by omega
  refine ⟨((text.splitOn '\n').take index).flatMap (· ++ ['\n']) ++ (text.splitOn '\n')[index], ?_⟩
  rw [linesBefore, hindex, Nat.succ_eq_add_one, List.take_succ_eq_append_getElem hprevious,
    List.flatMap_append, List.flatMap_singleton, List.append_assoc]

end Tag

end DocTag

namespace SourceUnit

def docComment (unit : SourceUnit) (node : Node) : DocComment :=
  ⟨unit.chars node, unit.span node⟩

/-- What stands in the source in front of a tag of the comment at a node. -/
def textBefore (unit : SourceUnit) (node : Node) (tag : DocTag) : List Char :=
  Source.takeBytes node.start unit.source.chars ++ tag.textBefore (unit.chars node)

section Tag

variable {unit : SourceUnit} {node : Node} {tag : DocTag}
  (htag : tag ∈ DocTag.parse (unit.chars node))

include htag

theorem exists_chars_eq :
    ∃ after, unit.source.chars = unit.textBefore node tag ++ '@' :: (tag.name.toList ++ after) := by
  obtain ⟨behind, hsource⟩ := unit.source.exists_eq_append_slice node.start node.stop
  obtain ⟨after, hcomment⟩ := DocTag.exists_eq_append_tag htag
  refine ⟨after ++ behind, ?_⟩
  calc unit.source.chars =
        Source.takeBytes node.start unit.source.chars ++ unit.chars node ++ behind := hsource
    _ = Source.takeBytes node.start unit.source.chars ++ (tag.textBefore (unit.chars node) ++
          '@' :: (tag.name.toList ++ after)) ++ behind := by rw [← hcomment]
    _ = _ := by simp [textBefore]

theorem row_tag :
    unit.source.row (Source.byteSize (unit.textBefore node tag)) =
      unit.source.row node.start + tag.line := by
  obtain ⟨after, hsource⟩ := exists_chars_eq htag
  rw [Source.row_of_chars_eq hsource, textBefore, List.count_append, DocTag.count_textBefore htag]
  rfl

theorem column_tag :
    unit.source.column (Source.byteSize (unit.textBefore node tag)) =
      (if tag.line = 0 then unit.source.column node.start else 0) +
        Source.byteSize (tag.indentation (unit.chars node)) := by
  obtain ⟨after, hsource⟩ := exists_chars_eq htag
  have hbefore : unit.textBefore node tag = Source.takeBytes node.start unit.source.chars ++
      tag.linesBefore (unit.chars node) ++ tag.indentation (unit.chars node) := by
    rw [textBefore, DocTag.textBefore, List.append_assoc]
  rw [hbefore] at hsource ⊢
  rw [Source.column_of_chars_eq hsource (DocTag.notMem_indentation htag)]
  by_cases hline : tag.line = 0
  · have hnone : tag.linesBefore (unit.chars node) = [] := by
      rw [DocTag.linesBefore, hline]
      rfl
    rw [hnone, List.append_nil, if_pos hline]
    rfl
  · obtain ⟨front, hfront⟩ := DocTag.exists_linesBefore_eq htag hline
    rw [hfront, if_neg hline, ← List.append_assoc, List.reverse_append]
    rfl

end Tag

end SourceUnit

/-- **Tags are placed on the line of their at sign, and short of it by the wide characters of the
margin.** The column lacks, for each character in front of the at sign in its line of the comment,
the bytes beyond the first; so it is right exactly if those characters are one byte each, and only
white space makes it wrong. -/
theorem tagSpan_short_by_wide_margin (unit : SourceUnit) (node : Node) {tag : DocTag}
    (htag : tag ∈ DocTag.parse (unit.chars node)) :
    (∃ after, unit.source.chars = unit.textBefore node tag ++ '@' :: (tag.name.toList ++ after)) ∧
      ((unit.docComment node).tagSpan tag).line =
        unit.source.row (Source.byteSize (unit.textBefore node tag)) + 1 ∧
      ((unit.docComment node).tagSpan tag).column +
          (Source.byteSize (tag.indentation (unit.chars node)) - tag.column) =
        unit.source.column (Source.byteSize (unit.textBefore node tag)) + 1 ∧
      (((unit.docComment node).tagSpan tag).column =
          unit.source.column (Source.byteSize (unit.textBefore node tag)) + 1 ↔
        ∀ c ∈ tag.indentation (unit.chars node), c.utf8Size = 1) ∧
      DocTag.IsMargin (tag.line == 0) (tag.indentation (unit.chars node)) := by
  have hlength := DocTag.length_indentation htag
  have hle := Source.length_le_byteSize (tag.indentation (unit.chars node))
  have hcolumn : ((unit.docComment node).tagSpan tag).column =
      (if tag.line = 0 then unit.source.column node.start else 0) + tag.column + 1 := by
    by_cases hline : tag.line = 0
    · simp only [DocComment.tagSpan, SourceUnit.docComment, SourceUnit.span, if_pos hline]
      omega
    · simp only [DocComment.tagSpan, if_neg hline]
      omega
  refine ⟨SourceUnit.exists_chars_eq htag, ?_, ?_, ?_, ?_⟩
  · rw [SourceUnit.row_tag htag]
    simp only [DocComment.tagSpan, SourceUnit.docComment, SourceUnit.span]
    omega
  · rw [hcolumn, SourceUnit.column_tag htag]
    omega
  · rw [hcolumn, SourceUnit.column_tag htag, ← Source.byteSize_eq_length_iff]
    omega
  · obtain ⟨_, ⟨⟨raw, hraw, hmargin, -⟩, -⟩, -⟩ := DocTag.readFrom_of_mem_parse htag
    rw [DocTag.indentation, List.getD_eq_getElem?_getD, hraw]
    exact hmargin

/-- A comment with a no-break space in front of one tag and an ideographic space in front of the
other, behind a wide character on its first line. -/
def spacedUnit : SourceUnit where
  path := "spaced.tsx"
  source := ⟨"\"\u00e9\";/**\u00a0@renders Card\n\u3000*@see More */let a".toList⟩
  renderableTypes := []
  root := (Node.ofRows?
    [⟨none, "program", 0, 45, none, true⟩,
      ⟨some 0, "expression_statement", 0, 5, none, true⟩,
      ⟨some 0, "comment", 5, 40, none, true⟩,
      ⟨some 0, "lexical_declaration", 40, 45, none, true⟩,
      ⟨some 3, "variable_declarator", 44, 45, none, true⟩]).getD default

/-- The second tag of the comment of `spacedUnit`. -/
def spacedTag : DocTag := ⟨"see", "More", 1, 2⟩

theorem spacedTag_short :
    let note : Node := ⟨2, "comment", 5, 40, none, true, []⟩
    spacedTag ∈ DocTag.parse (spacedUnit.chars note) ∧
      ((spacedUnit.docComment note).tagSpan spacedTag).line = 2 ∧
      ((spacedUnit.docComment note).tagSpan spacedTag).column + 2 =
        spacedUnit.source.column (Source.byteSize (spacedUnit.textBefore note spacedTag)) + 1 := by
  intro note
  have htag : spacedTag ∈ DocTag.parse (spacedUnit.chars note) := by decide +kernel
  obtain ⟨-, hline, hcolumn, -⟩ := tagSpan_short_by_wide_margin spacedUnit note htag
  have hwide : (Source.byteSize (spacedTag.indentation (spacedUnit.chars note)) : Int) -
      spacedTag.column = 2 := by decide +kernel
  rw [hwide] at hcolumn
  exact ⟨htag, hline.trans (by decide +kernel), hcolumn⟩

/-- Both tags of `spacedUnit` are placed to the left of their at signs. -/
theorem spaced_tags_misplaced :
    (spacedUnit.docComments.flatMap fun (_, comment) => (DocTag.parse comment.text).map fun tag =>
        ((comment.tagSpan tag).line, (comment.tagSpan tag).column)) = [(1, 10), (2, 3)] ∧
      ([10, 28].map fun offset => (spacedUnit.source.slice offset (offset + 1),
        spacedUnit.source.row offset + 1, spacedUnit.source.column offset + 1)) =
        [(['@'], 1, 11), (['@'], 2, 5)] := by
  decide +kernel

end RenderAudit
