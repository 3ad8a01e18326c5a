import RenderAudit.Text.Decimal
import RenderAudit.Text.Digit

/-!
Layouts say how a text or a number is set: fill and alignment, sign, width, separators between
groups of digits, precision, and the form of a number.
-/

namespace RenderAudit.Text

/-- Where a value stands in a wider field; `inside` fills between the sign and the digits. -/
inductive Alignment where
  | left
  | right
  | center
  | inside
deriving DecidableEq, Repr

def Alignment.ofChar? : Char → Option Alignment
  | '<' => some .left
  | '>' => some .right
  | '^' => some .center
  | '=' => some .inside
  | _ => none

structure Layout where
  fill : Option Char
  alignment : Option Alignment
  sign : Option Char
  unsignedZero : Bool
  alternate : Bool
  zeros : Bool
  width : Nat
  separator : Option Char
  precision : Option Nat
  form : Option Char
deriving DecidableEq, Repr

namespace Layout

/-- The largest width of a field that can be set. -/
def widthLimit : Nat := Nat.pow 2 31

/-- The largest number that a layout may contain. -/
def numberLimit : Nat := Nat.pow 2 63

/-- An alignment, which may have a fill character in front of it. -/
def splitAlignment : List Char → Option Char × Option Alignment × List Char
  | fill :: mark :: rest =>
      match Alignment.ofChar? mark, Alignment.ofChar? fill with
      | some alignment, _ => (some fill, some alignment, rest)
      | none, some alignment => (none, some alignment, mark :: rest)
      | none, none => (none, none, fill :: mark :: rest)
  | [mark] =>
      match Alignment.ofChar? mark with
      | some alignment => (none, some alignment, [])
      | none => (none, none, [mark])
  | [] => (none, none, [])

/-- The first character if it is one of those asked for. -/
def splitMark (marks : List Char) : List Char → Option Char × List Char
  | [] => (none, [])
  | c :: rest => if marks.contains c then (some c, rest) else (none, c :: rest)

/-- The number that a text starts with. -/
def splitNumber (text : List Char) : Option Nat × List Char :=
  let isDigit (c : Char) : Bool := (digitValue? c).isSome
  let digits := (text.takeWhile isDigit).filterMap digitValue?
  (if digits.isEmpty then none else some (digits.foldl (10 * · + ·) 0), text.dropWhile isDigit)

/-- A comma or an underscore, but not both. -/
def splitSeparator (text : List Char) : Option (Option Char × List Char) :=
  match splitMark [',', '_'] text with
  | (some ',', '_' :: _) => none
  | (some '_', ',' :: _) => none
  | split => some split

/-- A precision after a point. -/
def splitPrecision : List Char → Option (Option Nat × List Char)
  | '.' :: rest =>
      match splitNumber rest with
      | (none, _) => none
      | (some precision, rest) => some (some precision, rest)
  | rest => some (none, rest)

def parse? (text : List Char) : Option Layout := do
  let (fill, alignment, rest) := splitAlignment text
  let (sign, rest) := splitMark ['+', '-', ' '] rest
  let (unsignedZero, rest) := splitMark ['z'] rest
  let (alternate, rest) := splitMark ['#'] rest
  let (zeros, rest) := if fill.isSome then (none, rest) else splitMark ['0'] rest
  let (width, rest) := splitNumber rest
  let (separator, rest) ← splitSeparator rest
  let (precision, rest) ← splitPrecision rest
  let form ←
    match rest with
    | [] => some none
    | [form] => some (some form)
    | _ => none
  if width.getD 0 ≤ widthLimit && precision.getD 0 < numberLimit then
    return {
      fill := fill
      alignment := alignment
      sign := sign
      unsignedZero := unsignedZero.isSome
      alternate := alternate.isSome
      zeros := zeros.isSome
      width := width.getD 0
      separator := separator
      precision := precision
      form := form }
  else none

def fillChar (layout : Layout) : Char :=
  layout.fill.getD (if layout.zeros then '0' else ' ')

/-- Fills a field of which `front` and `back` are the two parts of the value. -/
def pad (layout : Layout) (alignment : Alignment) (front back : List Char) : List Char :=
  let lack := layout.width - (front.length + back.length)
  let filling (count : Nat) : List Char := List.replicate count layout.fillChar
  match alignment with
  | .left => front ++ back ++ filling lack
  | .right => filling lack ++ front ++ back
  | .center => filling (lack / 2) ++ front ++ back ++ filling (lack - lack / 2)
  | .inside => front ++ filling lack ++ back

/-- Sets a text; the precision is the most characters that are shown of it. -/
def text? (layout : Layout) (text : List Char) : Option (List Char) :=
  let alignment := layout.alignment.getD .left
  if layout.form.getD 's' == 's' && layout.sign.isNone && !layout.unsignedZero &&
      !layout.alternate && layout.separator.isNone && alignment != .inside then
    some (layout.pad alignment [] (text.take (layout.precision.getD text.length)))
  else none

/-- Puts a separator between groups of digits, which come with the last one first. Zeros are added
until `width` characters are reached; a separator always has a digit in front of it. -/
def group (size : Nat) (separator : Char) : Nat → List Char → Nat → List Char
  | 0, digits, _ => digits
  | fuel + 1, digits, width =>
      let length := min size (max (max digits.length width) 1)
      let taken := digits.take length ++ List.replicate (length - digits.length) '0'
      let rest := digits.drop length
      if rest.isEmpty && width ≤ length then taken
      else taken ++ separator :: group size separator fuel rest (width - length - 1)

/-- The parts of a number: a mark of its base, its digits in groups of a size, and what follows. -/
structure NumberParts where
  negative : Bool
  mark : List Char
  digits : List Char
  tail : List Char
  groupSize : Nat

def signText (layout : Layout) (negative : Bool) : List Char :=
  if negative then ['-']
  else
    match layout.sign with
    | some '+' => ['+']
    | some ' ' => [' ']
    | _ => []

def grouped (layout : Layout) (parts : NumberParts) (width : Nat) : List Char :=
  match layout.separator with
  | some separator =>
      if parts.digits.isEmpty then []
      else
        (group parts.groupSize separator (parts.digits.length + width) parts.digits.reverse
          width).reverse
  | none => parts.digits

def setNumber (layout : Layout) (parts : NumberParts) : List Char :=
  let alignment := layout.alignment.getD (if layout.zeros then .inside else .right)
  let front := layout.signText parts.negative ++ parts.mark
  let room := layout.width - (front.length + parts.tail.length)
  let width := if layout.fillChar == '0' && alignment = .inside then room else 0
  layout.pad alignment front (layout.grouped parts width ++ parts.tail)

/-- How integers are written: the base, the mark of the base, the size of a group of digits, and the
separators that may stand between groups. -/
structure IntegerForm where
  base : Nat
  mark : String
  groupSize : Nat
  separators : List Char
deriving DecidableEq, Repr

def integerForm? : Char → Option IntegerForm
  | 'd' => some ⟨10, "", 3, [',', '_']⟩
  | 'n' => some ⟨10, "", 3, []⟩
  | 'b' => some ⟨2, "0b", 4, ['_']⟩
  | 'o' => some ⟨8, "0o", 4, ['_']⟩
  | 'x' | 'X' => some ⟨16, "0x", 4, ['_']⟩
  | _ => none

/-- The parts of an integer; the mark of its base is shown in the alternate form. -/
def integerParts (layout : Layout) (form : IntegerForm) (upper : Bool) (value : Int) :
    NumberParts :=
  let letters (text : List Char) : List Char := if upper then text.map Char.toUpper else text
  { negative := value < 0
    mark := if layout.alternate then letters form.mark.toList else []
    digits := letters (Nat.toDigits form.base value.natAbs)
    tail := []
    groupSize := form.groupSize }

/-- The character with a code; it has neither sign nor mark nor groups. -/
def character? (layout : Layout) (value : Int) : Option (List Char) :=
  if layout.separator.isNone && layout.sign.isNone && !layout.alternate && 0 ≤ value &&
      value.toNat.isValidChar then
    some (layout.setNumber ⟨false, [], [], [Char.ofNat value.toNat], 3⟩)
  else none

/-- Sets a number as an integer, which has no precision. -/
def integer? (layout : Layout) (form : Char) (value : Int) : Option (List Char) :=
  if layout.precision.isSome || layout.unsignedZero then none
  else if form == 'c' then layout.character? value
  else do
    let integerForm ← integerForm? form
    if layout.separator.all integerForm.separators.contains then
      return layout.setNumber (layout.integerParts integerForm (form == 'X') value)
    else none

/-- The notation of a number in double precision. -/
def decimalText? (form : Char) (point : Bool) (precision number : Nat) : Option (List Char) :=
  match form with
  | 'f' | 'F' => some (Decimal.positional point precision number)
  | 'e' => some (Decimal.scientific 'e' point precision number)
  | 'E' => some (Decimal.scientific 'E' point precision number)
  | 'g' => some (Decimal.general 'e' point precision number)
  | 'G' => some (Decimal.general 'E' point precision number)
  | '%' =>
      some
        (match Decimal.nearestDouble? (100 * number) with
        | some percent => Decimal.positional point precision percent ++ ['%']
        | none => "inf%".toList)
  | _ => none

def decimal? (layout : Layout) (form : Char) (value : Int) : Option (List Char) := do
  let number ← Decimal.nearestDouble? value.natAbs
  let text ← decimalText? form layout.alternate (layout.precision.getD 6) number
  return layout.setNumber
    ⟨value < 0, [], text.takeWhile Char.isDigit, text.dropWhile Char.isDigit, 3⟩

def number? (layout : Layout) (value : Int) : Option (List Char) :=
  let form := layout.form.getD 'd'
  if ['e', 'E', 'f', 'F', 'g', 'G', '%'].contains form then layout.decimal? form value
  else layout.integer? form value

end Layout

end RenderAudit.Text
