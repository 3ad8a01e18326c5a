/-!
Decoding of file contents. Every maximal ill-formed piece of a byte sequence becomes one
replacement character, and every line ending becomes a line feed.
-/

namespace RenderAudit.Text

/-- What a lead byte promises: how many bytes follow, its payload, and the range that the first
byte after it must lie in. -/
structure Lead where
  following : Nat
  payload : Nat
  low : Nat
  high : Nat

def lead? (byte : Nat) : Option Lead :=
  if byte < 0x80 then some ⟨0, byte, 0x80, 0xBF⟩
  else if byte < 0xC2 then none
  else if byte < 0xE0 then some ⟨1, byte - 0xC0, 0x80, 0xBF⟩
  else if byte < 0xF0 then
    some ⟨2, byte - 0xE0, if byte == 0xE0 then 0xA0 else 0x80, if byte == 0xED then 0x9F else 0xBF⟩
  else if byte < 0xF5 then
    some ⟨3, byte - 0xF0, if byte == 0xF0 then 0x90 else 0x80, if byte == 0xF4 then 0x8F else 0xBF⟩
  else none

def replacement : Char := Char.ofNat 0xFFFD

/-- Decodes bytes while a character of which `pending` bytes are missing has the payload `code`;
the next byte of it must lie between `low` and `high`. -/
def decodeFrom (pending code low high : Nat) : List UInt8 → List Char
  | [] => if pending = 0 then [] else [replacement]
  | byte :: rest =>
      let value := byte.toNat
      if 0 < pending && low ≤ value && value ≤ high then
        let code := code * 0x40 + (value - 0x80)
        if pending = 1 then Char.ofNat code :: decodeFrom 0 0 0x80 0xBF rest
        else decodeFrom (pending - 1) code 0x80 0xBF rest
      else
        let cut := if pending = 0 then [] else [replacement]
        match lead? value with
        | none => cut ++ replacement :: decodeFrom 0 0 0x80 0xBF rest
        | some lead =>
            if lead.following = 0 then cut ++ Char.ofNat lead.payload :: decodeFrom 0 0 0x80 0xBF rest
            else cut ++ decodeFrom lead.following lead.payload lead.low lead.high rest

def decode (bytes : List UInt8) : List Char :=
  decodeFrom 0 0 0x80 0xBF bytes

/-- Carriage returns, with or without a line feed after them, become line feeds. -/
def unifyNewlines : List Char → List Char
  | [] => []
  | '\r' :: '\n' :: rest => '\n' :: unifyNewlines rest
  | '\r' :: rest => '\n' :: unifyNewlines rest
  | c :: rest => c :: unifyNewlines rest

def decodeFile (bytes : List UInt8) : List Char :=
  unifyNewlines (decode bytes)

end RenderAudit.Text
