import RenderAudit.Text.Blank

/-!
Decimal digits of every script, and the integers written with them.
-/

namespace RenderAudit.Text

/-- The zeros of the decimal digit rows; each row holds ten digits in order. -/
def digitZeros : List Nat :=
  [
    0x30, 0x660, 0x6F0, 0x7C0, 0x966, 0x9E6, 0xA66, 0xAE6, 0xB66, 0xBE6, 0xC66, 0xCE6, 0xD66,
    0xDE6, 0xE50, 0xED0, 0xF20, 0x1040, 0x1090, 0x17E0, 0x1810, 0x1946, 0x19D0, 0x1A80, 0x1A90,
    0x1B50, 0x1BB0, 0x1C40, 0x1C50, 0xA620, 0xA8D0, 0xA900, 0xA9D0, 0xA9F0, 0xAA50, 0xABF0, 0xFF10,
    0x104A0, 0x10D30, 0x11066, 0x110F0, 0x11136, 0x111D0, 0x112F0, 0x11450, 0x114D0, 0x11650,
    0x116C0, 0x11730, 0x118E0, 0x11950, 0x11C50, 0x11D50, 0x11DA0, 0x16A60, 0x16AC0, 0x16B50,
    0x1D7CE, 0x1D7D8, 0x1D7E2, 0x1D7EC, 0x1D7F6, 0x1E140, 0x1E2F0, 0x1E950, 0x1FBF0]

def digitValue? (c : Char) : Option Nat :=
  (digitZeros.find? fun first => first ≤ c.toNat && c.toNat < first + 10).map (c.toNat - ·)

/-- The digits of a number, where one underscore may stand between two of them. -/
def digitsOf? : List Char → Option (List Nat)
  | [] => none
  | [c] => (digitValue? c).map ([·])
  | c :: '_' :: rest => do
      let digit ← digitValue? c
      let digits ← digitsOf? rest
      return digit :: digits
  | c :: rest => do
      let digit ← digitValue? c
      let digits ← digitsOf? rest
      return digit :: digits

/-- The most digits an integer may be written with. -/
def digitLimit : Nat := 4300

/-- The blanks that may surround a number: white space without the four ASCII separators. -/
def isMargin (c : Char) : Bool :=
  isBlank c && !(0x1C ≤ c.toNat && c.toNat ≤ 0x1F)

def naturalOf? (text : List Char) : Option Nat :=
  match digitsOf? text with
  | some digits =>
      if digits.length ≤ digitLimit then some (digits.foldl (fun total digit => 10 * total + digit) 0)
      else none
  | none => none

/-- An integer with an optional sign, between optional blanks. -/
def integerOf? (text : String) : Option Int :=
  match strip isMargin text.toList with
  | '+' :: rest => (naturalOf? rest).map Int.ofNat
  | '-' :: rest => (naturalOf? rest).map fun n => -(Int.ofNat n)
  | digits => (naturalOf? digits).map Int.ofNat

end RenderAudit.Text
