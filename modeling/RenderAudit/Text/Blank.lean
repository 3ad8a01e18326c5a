/-!
White space: the controls from tab to carriage return, the four separators below the blank, the
blank itself, and the spaces and line separators beyond ASCII. The zero-width space and the byte
order mark are not white space.
-/

namespace RenderAudit.Text

def isBlank (c : Char) : Bool :=
  let code := c.toNat
  (0x09 ≤ code && code ≤ 0x0D) || (0x1C ≤ code && code ≤ 0x20) || code == 0x85 || code == 0xA0 ||
    code == 0x1680 || (0x2000 ≤ code && code ≤ 0x200A) || code == 0x2028 || code == 0x2029 ||
    code == 0x202F || code == 0x205F || code == 0x3000

theorem isBlank_blank : ∀ c ∈ [' '], isBlank c = true := by
  intro c hc
  rw [List.mem_singleton.1 hc]
  decide

def stripEnd (p : Char → Bool) (text : List Char) : List Char :=
  (text.reverse.dropWhile p).reverse

/-- Drops the characters of the class `p` from both ends. -/
def strip (p : Char → Bool) (text : List Char) : List Char :=
  stripEnd p (text.dropWhile p)

def trimStart (text : List Char) : List Char :=
  text.dropWhile isBlank

def trim (text : List Char) : List Char :=
  strip isBlank text

theorem length_stripEnd_le (p : Char → Bool) (text : List Char) :
    (stripEnd p text).length ≤ text.length := by
  simpa [stripEnd] using (List.dropWhile_sublist p (l := text.reverse)).length_le

theorem length_strip_le (p : Char → Bool) (text : List Char) :
    (strip p text).length ≤ text.length :=
  Nat.le_trans (length_stripEnd_le p _) (List.dropWhile_sublist p).length_le

theorem length_trim_le (text : List Char) : (trim text).length ≤ text.length :=
  length_strip_le isBlank text

theorem exists_eq_stripEnd_append (p : Char → Bool) (text : List Char) :
    ∃ tail, (∀ c ∈ tail, p c = true) ∧ text = stripEnd p text ++ tail := by
  refine ⟨(text.reverse.takeWhile p).reverse, ?_, ?_⟩
  · intro c hc
    exact List.all_eq_true.1 List.all_takeWhile c (List.mem_reverse.1 hc)
  · rw [stripEnd, ← List.reverse_append, List.takeWhile_append_dropWhile, List.reverse_reverse]

theorem stripEnd_append {p : Char → Bool} {tail : List Char} (htail : ∀ c ∈ tail, p c = true)
    (text : List Char) : stripEnd p (text ++ tail) = stripEnd p text := by
  unfold stripEnd
  rw [List.reverse_append, List.dropWhile_append_of_pos (by simpa using htail)]

theorem trimStart_eq_nil {text : List Char} (htext : ∀ c ∈ text, isBlank c = true) :
    trimStart text = [] := by
  rw [trimStart, ← List.append_nil text, List.dropWhile_append_of_pos htext, List.dropWhile_nil]

theorem trimStart_append_of_eq_nil {text : List Char} (hblank : trimStart text = [])
    (tail : List Char) : trimStart (text ++ tail) = trimStart tail := by
  unfold trimStart at hblank ⊢
  rw [List.dropWhile_append, hblank, if_pos List.isEmpty_nil]

theorem trimStart_append_of_ne_nil {text : List Char} (hblank : trimStart text ≠ [])
    (tail : List Char) : trimStart (text ++ tail) = trimStart text ++ tail := by
  unfold trimStart at hblank ⊢
  rw [List.dropWhile_append, if_neg (by simpa using hblank)]

theorem trim_append {tail : List Char} (htail : ∀ c ∈ tail, isBlank c = true) (text : List Char) :
    trim (text ++ tail) = trim text := by
  change stripEnd isBlank (trimStart (text ++ tail)) = stripEnd isBlank (trimStart text)
  by_cases hblank : trimStart text = []
  · rw [trimStart_append_of_eq_nil hblank, trimStart_eq_nil htail, hblank]
  · rw [trimStart_append_of_ne_nil hblank, stripEnd_append htail]

theorem trim_blank_append {blanks : List Char} (hblanks : ∀ c ∈ blanks, isBlank c = true)
    (text : List Char) : trim (blanks ++ text) = trim text := by
  rw [trim, strip, List.dropWhile_append_of_pos hblanks, trim, strip]

/-- A text is its trimmed part with white space around it. -/
theorem exists_eq_append_trim (text : List Char) :
    ∃ front back, (∀ c ∈ front, isBlank c = true) ∧ (∀ c ∈ back, isBlank c = true) ∧
      text = front ++ trim text ++ back := by
  obtain ⟨back, hback, htail⟩ := exists_eq_stripEnd_append isBlank (text.dropWhile isBlank)
  refine ⟨text.takeWhile isBlank, back, ?_, hback, ?_⟩
  · exact List.all_eq_true.1 List.all_takeWhile
  · rw [List.append_assoc]
    exact List.takeWhile_append_dropWhile.symm.trans (congrArg _ htail)

theorem trim_eq_nil_iff {text : List Char} : trim text = [] ↔ ∀ c ∈ text, isBlank c = true := by
  constructor
  · intro htrim
    obtain ⟨front, back, hfront, hback, htext⟩ := exists_eq_append_trim text
    rw [htrim, List.append_nil] at htext
    rw [htext, List.forall_mem_append]
    exact ⟨hfront, hback⟩
  · intro hblank
    rw [← List.append_nil text, trim_blank_append hblank]
    rfl

theorem trim_ne_nil {text : List Char} {c : Char} (hmem : c ∈ text) (hc : isBlank c = false) :
    trim text ≠ [] := by
  intro htrim
  have hblank := trim_eq_nil_iff.1 htrim c hmem
  rw [hc] at hblank
  cases hblank

/-! ### Trimmed texts -/

theorem head_dropWhile {p : Char → Bool} {text : List Char} {c : Char}
    (hc : c ∈ (text.dropWhile p).head?) : p c = false := by
  have hnot := List.head?_dropWhile_not p text
  rw [Option.mem_def.1 hc] at hnot
  exact hnot

theorem last_stripEnd {p : Char → Bool} {text : List Char} {c : Char}
    (hc : c ∈ (stripEnd p text).getLast?) : p c = false := by
  rw [stripEnd, List.getLast?_reverse] at hc
  exact head_dropWhile hc

theorem dropWhile_of_head {p : Char → Bool} {text : List Char}
    (hhead : ∀ c ∈ text.head?, p c = false) : text.dropWhile p = text := by
  cases text with
  | nil => rfl
  | cons c rest => exact List.dropWhile_cons_of_neg (by simp [hhead c rfl])

theorem stripEnd_of_last {p : Char → Bool} {text : List Char}
    (hlast : ∀ c ∈ text.getLast?, p c = false) : stripEnd p text = text := by
  rw [stripEnd, dropWhile_of_head, List.reverse_reverse]
  rwa [List.head?_reverse]

/-- A text that neither begins nor ends with white space. -/
structure IsTrimmed (text : List Char) : Prop where
  head : ∀ c ∈ text.head?, isBlank c = false
  last : ∀ c ∈ text.getLast?, isBlank c = false

theorem isTrimmed_append {front back : List Char} {c d : Char} (hfront : front.head? = some c)
    (hc : isBlank c = false) (hback : back.getLast? = some d) (hd : isBlank d = false) :
    IsTrimmed (front ++ back) where
  head := by
    rw [List.head?_append, hfront, Option.some_or]
    rintro _ ⟨⟩
    exact hc
  last := by
    rw [List.getLast?_append, hback, Option.some_or]
    rintro _ ⟨⟩
    exact hd

theorem isTrimmed_trim (text : List Char) : IsTrimmed (trim text) where
  head := by
    intro c hc
    -- what is cut off is behind the first character
    obtain ⟨tail, -, htail⟩ := exists_eq_stripEnd_append isBlank (text.dropWhile isBlank)
    have hhead : c ∈ (text.dropWhile isBlank).head? := by
      rw [htail, List.head?_append, Option.mem_def]
      exact Option.or_eq_some_iff.2 (.inl hc)
    exact head_dropWhile hhead
  last := fun _ hc => last_stripEnd hc

theorem trim_of_isTrimmed {text : List Char} (htext : IsTrimmed text) : trim text = text := by
  rw [trim, strip, dropWhile_of_head htext.head, stripEnd_of_last htext.last]

@[simp]
theorem trim_trim (text : List Char) : trim (trim text) = trim text :=
  trim_of_isTrimmed (isTrimmed_trim text)

end RenderAudit.Text
