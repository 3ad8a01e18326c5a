/-!
Source text addressed by byte offsets of its UTF-8 form.
-/

namespace RenderAudit

structure Source where
  chars : List Char

namespace Source

def byteSize (text : List Char) : Nat :=
  text.foldr (fun c size => c.utf8Size + size) 0

/-- The text behind the first `count` bytes. -/
def dropBytes (count : Nat) : List Char → List Char
  | [] => []
  | c :: rest => if count = 0 then c :: rest else dropBytes (count - c.utf8Size) rest

/-- The text in the first `count` bytes. -/
def takeBytes (count : Nat) : List Char → List Char
  | [] => []
  | c :: rest => if count = 0 then [] else c :: takeBytes (count - c.utf8Size) rest

def slice (source : Source) (start stop : Nat) : List Char :=
  takeBytes (stop - start) (dropBytes start source.chars)

/-- The number of line feeds before an offset. -/
def row (source : Source) (offset : Nat) : Nat :=
  (takeBytes offset source.chars).count '\n'

/-- The number of bytes between the last line feed before an offset and the offset. -/
def column (source : Source) (offset : Nat) : Nat :=
  byteSize ((takeBytes offset source.chars).reverse.takeWhile (· != '\n'))

@[simp]
theorem byteSize_nil : byteSize [] = 0 := rfl

@[simp]
theorem byteSize_cons (c : Char) (text : List Char) :
    byteSize (c :: text) = c.utf8Size + byteSize text := rfl

@[simp]
theorem byteSize_append (first second : List Char) :
    byteSize (first ++ second) = byteSize first + byteSize second := by
  induction first with
  | nil => simp
  | cons c rest ih => simp [ih, Nat.add_assoc]

@[simp]
theorem byteSize_reverse (text : List Char) : byteSize text.reverse = byteSize text := by
  induction text with
  | nil => rfl
  | cons c rest ih => simp [ih, Nat.add_comm]

theorem length_le_byteSize (text : List Char) : text.length ≤ byteSize text := by
  induction text with
  | nil => exact Nat.le_refl 0
  | cons c rest ih =>
      have hpos := c.utf8Size_pos
      rw [List.length_cons, byteSize_cons]
      omega

/-- A text has as many bytes as characters if each of them is one byte, and only then. -/
theorem byteSize_eq_length_iff {text : List Char} :
    byteSize text = text.length ↔ ∀ c ∈ text, c.utf8Size = 1 := by
  induction text with
  | nil => simp
  | cons c rest ih =>
      have hpos := c.utf8Size_pos
      have hle := length_le_byteSize rest
      rw [List.forall_mem_cons, ← ih, List.length_cons, byteSize_cons]
      omega

theorem takeBytes_append_dropBytes (count : Nat) (text : List Char) :
    takeBytes count text ++ dropBytes count text = text := by
  induction text generalizing count with
  | nil => rfl
  | cons c rest ih =>
      unfold takeBytes dropBytes
      by_cases hcount : count = 0
      · rw [if_pos hcount, if_pos hcount, List.nil_append]
      · rw [if_neg hcount, if_neg hcount, List.cons_append, ih]

theorem takeBytes_byteSize_append (first second : List Char) :
    takeBytes (byteSize first) (first ++ second) = first := by
  induction first with
  | nil => cases second <;> rfl
  | cons c rest ih =>
      have hpos := c.utf8Size_pos
      have hrest : c.utf8Size + byteSize rest - c.utf8Size = byteSize rest := by omega
      rw [List.cons_append, takeBytes, byteSize_cons, if_neg (by omega), hrest, ih]

/-- A slice stands in the text behind the bytes in front of it. -/
theorem exists_eq_append_slice (source : Source) (start stop : Nat) :
    ∃ after, source.chars = takeBytes start source.chars ++ source.slice start stop ++ after := by
  refine ⟨dropBytes (stop - start) (dropBytes start source.chars), ?_⟩
  rw [slice, List.append_assoc, takeBytes_append_dropBytes, takeBytes_append_dropBytes]

section Place

variable {source : Source} {front line after : List Char}

theorem row_of_chars_eq (hchars : source.chars = front ++ after) :
    source.row (byteSize front) = front.count '\n' := by
  rw [row, hchars, takeBytes_byteSize_append]

/-- The column behind a piece of a line. -/
theorem column_of_chars_eq (hchars : source.chars = front ++ line ++ after) (hline : '\n' ∉ line) :
    source.column (byteSize (front ++ line)) =
      byteSize (front.reverse.takeWhile (· != '\n')) + byteSize line := by
  have hall : ∀ c ∈ line.reverse, (c != '\n') = true := by
    intro c hc
    rw [bne_iff_ne]
    rintro rfl
    exact hline (List.mem_reverse.1 hc)
  rw [column, hchars, takeBytes_byteSize_append, List.reverse_append,
    List.takeWhile_append_of_pos hall, byteSize_append, byteSize_reverse, Nat.add_comm]

end Place

end Source

end RenderAudit
