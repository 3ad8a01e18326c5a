import RenderAudit.Finding
import RenderAudit.Text.Layout
import RenderAudit.Text.Quoted

/-!
Message templates: literal text and fields in braces that are filled from the details of a finding.
A doubled brace stands for itself. A field may pick a part of a detail, convert it, and lay it out;
the layout may itself have fields.
-/

namespace RenderAudit

/-- A step from a detail to a part of it. -/
inductive Access where
  | index (position : Nat)
  | part (name : String)
deriving DecidableEq, Repr

/-- How a detail becomes a text before it is laid out. -/
inductive Conversion where
  | shown
  | quoted
  | escaped
deriving DecidableEq, Repr

def Conversion.ofChar? : Char → Option Conversion
  | 's' => some .shown
  | 'r' => some .quoted
  | 'a' => some .escaped
  | _ => none

/-- A part of a template, with layouts of type `σ`. -/
inductive Piece (σ : Type) where
  | literal (text : String)
  | field (name : String) (path : List Access) (conversion : Option Conversion) (layout : σ)
deriving DecidableEq, Repr

/-- A layout text whose own fields have layouts without fields. -/
abbrev LayoutTemplate := List (Piece String)

abbrev Template := List (Piece LayoutTemplate)

namespace Piece

/-- A detail as it is. -/
def detail (name : String) : Piece LayoutTemplate :=
  .field name [] none []

end Piece

/-- A field as it is written, and the text behind it. -/
structure RawField where
  name : List Char
  conversion : Option Char
  layout : List Char
  after : List Char

namespace RawField

/-- Splits the name from what ends it. Within square brackets everything belongs to the name. -/
def splitName (bracket : Bool) : List Char → Option (List Char × List Char)
  | [] => none
  | c :: rest =>
      if bracket then (splitName (c != ']') rest).map fun (name, after) => (c :: name, after)
      else if c == '}' || c == ':' || c == '!' then some ([], c :: rest)
      else if c == '{' then none
      else (splitName (c == '[') rest).map fun (name, after) => (c :: name, after)

/-- Splits a layout from what follows its closing brace; `depth` braces within it are open. -/
def splitLayout (depth : Nat) : List Char → Option (List Char × List Char)
  | [] => none
  | '}' :: rest =>
      match depth with
      | 0 => some ([], rest)
      | depth + 1 => (splitLayout depth rest).map fun (layout, after) => ('}' :: layout, after)
  | c :: rest =>
      (splitLayout (if c == '{' then depth + 1 else depth) rest).map fun (layout, after) =>
        (c :: layout, after)

/-- Reads a field behind its opening brace. -/
def read? (text : List Char) : Option RawField := do
  let (name, rest) ← splitName false text
  match rest with
  | '}' :: after => return ⟨name, none, [], after⟩
  | ':' :: rest =>
      let (layout, after) ← splitLayout 0 rest
      return ⟨name, none, layout, after⟩
  | '!' :: conversion :: '}' :: after => return ⟨name, some conversion, [], after⟩
  | '!' :: conversion :: ':' :: rest =>
      let (layout, after) ← splitLayout 0 rest
      return ⟨name, some conversion, layout, after⟩
  | _ => none

theorem length_splitName_le {bracket : Bool} {text name after : List Char}
    (h : splitName bracket text = some (name, after)) : after.length ≤ text.length := by
  induction text generalizing bracket name with
  | nil => simp [splitName] at h
  | cons c rest ih =>
      unfold splitName at h
      split at h
      · obtain ⟨pair, hpair, heq⟩ := Option.map_eq_some_iff.1 h
        cases heq
        exact Nat.le_succ_of_le (ih hpair)
      · split at h
        · cases h
          exact Nat.le_refl _
        · split at h
          · cases h
          · obtain ⟨pair, hpair, heq⟩ := Option.map_eq_some_iff.1 h
            cases heq
            exact Nat.le_succ_of_le (ih hpair)

theorem length_splitLayout_lt {depth : Nat} {text layout after : List Char}
    (h : splitLayout depth text = some (layout, after)) : after.length < text.length := by
  induction text generalizing depth layout with
  | nil => simp [splitLayout] at h
  | cons c rest ih =>
      unfold splitLayout at h
      split at h
      · cases h
      · rename_i heq
        cases heq
        split at h
        · cases h
          exact Nat.lt_succ_self _
        · obtain ⟨pair, hpair, heq⟩ := Option.map_eq_some_iff.1 h
          cases heq
          exact Nat.lt_succ_of_lt (ih hpair)
      · rename_i heq
        cases heq
        obtain ⟨pair, hpair, heq⟩ := Option.map_eq_some_iff.1 h
        cases heq
        exact Nat.lt_succ_of_lt (ih hpair)

theorem length_after_lt {text : List Char} {field : RawField} (h : read? text = some field) :
    field.after.length < text.length := by
  unfold read? at h
  obtain ⟨⟨name, rest⟩, hname, h⟩ := Option.bind_eq_some_iff.1 h
  have hrest := length_splitName_le hname
  dsimp only at h
  split at h
  · cases h
    simp only [List.length_cons] at hrest ⊢
    omega
  · obtain ⟨⟨layout, after⟩, hlayout, h⟩ := Option.bind_eq_some_iff.1 h
    cases h
    have hafter := length_splitLayout_lt hlayout
    simp only [List.length_cons] at hrest ⊢
    omega
  · cases h
    simp only [List.length_cons] at hrest ⊢
    omega
  · obtain ⟨⟨layout, after⟩, hlayout, h⟩ := Option.bind_eq_some_iff.1 h
    cases h
    have hafter := length_splitLayout_lt hlayout
    simp only [List.length_cons] at hrest ⊢
    omega
  · cases h

end RawField

namespace Template

/-- The number that a field name or an index spells, if it consists of digits. -/
def number? (text : List Char) : Option Nat :=
  if text.isEmpty then none
  else text.foldlM (fun total c => (Text.digitValue? c).map (10 * total + ·)) 0

/-- The steps behind a field name, as in `[2]` or `.part`. -/
def path? : List Char → Option (List Access)
  | [] => some []
  | '[' :: rest => do
      let position ← number? (rest.takeWhile (· != ']'))
      match _ : rest.dropWhile (· != ']') with
      | [] => none
      | _ :: after =>
          let path ← path? after
          return .index position :: path
  | '.' :: rest => do
      let name := rest.takeWhile fun c => c != '.' && c != '['
      let path ← path? (rest.dropWhile fun c => c != '.' && c != '[')
      if name.isEmpty then none else return .part (String.ofList name) :: path
  | _ => none
termination_by text => text.length
decreasing_by
  · have hlength := (List.dropWhile_sublist (· != ']') (l := rest)).length_le
    simp_all only [List.length_cons]
    omega
  · have hlength :=
      (List.dropWhile_sublist (fun c => c != '.' && c != '[') (l := rest)).length_le
    simp only [List.length_cons]
    omega

/-- Numbered and unnamed fields have nothing to refer to. -/
def piece? {σ : Type} (layout? : List Char → Option σ) (raw : RawField) : Option (Piece σ) := do
  let isName (c : Char) : Bool := c != '.' && c != '['
  let name := raw.name.takeWhile isName
  let path ← path? (raw.name.dropWhile isName)
  let conversion ←
    match raw.conversion with
    | none => some none
    | some c => (Conversion.ofChar? c).map some
  let layout ← layout? raw.layout
  if name.isEmpty || (number? name).isSome then none
  else return .field (String.ofList name) path conversion layout

/-- Reads pieces; none if a brace stands alone or a field is not one. -/
def pieces? {σ : Type} (layout? : List Char → Option σ) : List Char → Option (List (Piece σ))
  | [] => some []
  | '{' :: '{' :: rest => (pieces? layout? rest).map (.literal "\x7b" :: ·)
  | '}' :: '}' :: rest => (pieces? layout? rest).map (.literal "\x7d" :: ·)
  | '{' :: rest =>
      match _h : RawField.read? rest with
      | none => none
      | some raw => do
          let piece ← piece? layout? raw
          let pieces ← pieces? layout? raw.after
          return piece :: pieces
  | '}' :: _ => none
  | c :: rest => (pieces? layout? rest).map (.literal (String.singleton c) :: ·)
termination_by text => text.length
decreasing_by
  · simp only [List.length_cons]
    omega
  · simp only [List.length_cons]
    omega
  · have hlength := RawField.length_after_lt _h
    simp only [List.length_cons]
    omega
  · simp only [List.length_cons]
    omega

/-- A layout without fields. -/
def plainLayout? (text : List Char) : Option String :=
  if text.contains '{' then none else some (String.ofList text)

def parse? (text : List Char) : Option Template :=
  pieces? (pieces? plainLayout?) text

end Template

namespace Detail

def render : Detail → String
  | .text value => value
  | .number value => toString value
  | .flag value => if value then "True" else "False"
  | .nothing => "None"

/-- The number that a detail stands for. -/
def number? : Detail → Option Int
  | .number value => some value
  | .flag value => some (if value then 1 else 0)
  | _ => none

/-- A character of a text, or a part of a number: seen as a fraction and as a complex number. -/
def access? (detail : Detail) : Access → Option Detail
  | .index position =>
      match detail with
      | .text value => (value.toList[position]?).map fun c => .text (String.singleton c)
      | _ => none
  | .part name => do
      let value ← detail.number?
      match name with
      | "real" | "numerator" => return .number value
      | "imag" => return .number 0
      | "denominator" => return .number 1
      | _ => none

def convert (detail : Detail) : Conversion → String
  | .shown => detail.render
  | .quoted =>
      match detail with
      | .text value => Text.quoted value
      | _ => detail.render
  | .escaped =>
      match detail with
      | .text value => Text.escaped (Text.quoted value)
      | _ => detail.render

/-- Lays out a detail; without a layout it is shown as it is. -/
def layOut? (detail : Detail) (layout : String) : Option String :=
  if layout.isEmpty then some detail.render
  else do
    let layout ← Text.Layout.parse? layout.toList
    match detail with
    | .text value => (layout.text? value.toList).map String.ofList
    | _ => (layout.number? (← detail.number?)).map String.ofList

end Detail

namespace Piece

/-- Fills a piece, given how layouts are filled. -/
def fill? {σ : Type} (details : List (String × Detail)) (layout? : σ → Option String) :
    Piece σ → Option String
  | .literal text => some text
  | .field name path conversion layout => do
      let detail ← details.lookup name
      let detail ← path.foldlM Detail.access? detail
      let detail := (conversion.map fun conversion => .text (detail.convert conversion)).getD detail
      detail.layOut? (← layout? layout)

def fillAll? {σ : Type} (details : List (String × Detail)) (layout? : σ → Option String) :
    List (Piece σ) → Option String
  | [] => some ""
  | piece :: pieces => do
      let text ← piece.fill? details layout?
      let rest ← fillAll? details layout? pieces
      return text ++ rest

end Piece

/-- Fills a template; none if it names a detail that is missing or a layout that does not fit. -/
def Template.fill? (details : List (String × Detail)) (template : Template) : Option String :=
  Piece.fillAll? details (Piece.fillAll? details some) template

end RenderAudit
