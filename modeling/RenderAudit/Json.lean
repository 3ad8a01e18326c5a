import RenderAudit.Text.Quoted

/-!
JSON values and their indented ASCII form.
-/

namespace RenderAudit

inductive Json where
  | null
  | bool (value : Bool)
  | number (value : Int)
  | text (value : String)
  | array (items : List Json)
  | object (fields : List (String × Json))
deriving Inhabited

namespace Json

/-- A character beyond the basic plane is written as two surrogates. -/
def escapeCode (code : Nat) : List Char :=
  if code < 0x10000 then '\\' :: 'u' :: Text.hexDigits 4 code
  else
    let offset := code - 0x10000
    '\\' :: 'u' :: Text.hexDigits 4 (0xD800 + offset / 0x400) ++
      '\\' :: 'u' :: Text.hexDigits 4 (0xDC00 + offset % 0x400)

def escapeChar (c : Char) : List Char :=
  if c == '"' || c == '\\' then ['\\', c]
  else if c == '\n' then ['\\', 'n']
  else if c == '\r' then ['\\', 'r']
  else if c == '\t' then ['\\', 't']
  else if c.toNat == 0x08 then ['\\', 'b']
  else if c.toNat == 0x0C then ['\\', 'f']
  else if 0x20 ≤ c.toNat && c.toNat ≤ 0x7E then [c]
  else escapeCode c.toNat

def quote (text : String) : String :=
  String.ofList ('"' :: text.toList.flatMap escapeChar ++ ['"'])

/-- A line break followed by two blanks for each level. -/
def newline (level : Nat) : String :=
  String.ofList ('\n' :: List.replicate (2 * level) ' ')

mutual

/-- The text of a value that stands at the given level. -/
def render (level : Nat) : Json → String
  | .null => "null"
  | .bool value => if value then "true" else "false"
  | .number value => toString value
  | .text value => quote value
  | .array [] => "[]"
  | .array (item :: items) =>
      "[" ++ newline (level + 1) ++ render (level + 1) item ++ renderItems (level + 1) items ++
        newline level ++ "]"
  | .object [] => "\x7b\x7d"
  | .object ((name, value) :: fields) =>
      "\x7b" ++ newline (level + 1) ++ quote name ++ ": " ++ render (level + 1) value ++
        renderFields (level + 1) fields ++ newline level ++ "\x7d"

def renderItems (level : Nat) : List Json → String
  | [] => ""
  | item :: items => "," ++ newline level ++ render level item ++ renderItems level items

def renderFields (level : Nat) : List (String × Json) → String
  | [] => ""
  | (name, value) :: fields =>
      "," ++ newline level ++ quote name ++ ": " ++ render level value ++ renderFields level fields

end

def pretty (value : Json) : String :=
  render 0 value

def ofOption (f : String → Json) : Option String → Json
  | none => .null
  | some value => f value

end Json

end RenderAudit
