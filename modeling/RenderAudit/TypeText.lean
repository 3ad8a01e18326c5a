import RenderAudit.Text.Blank

/-!
Type expressions as written, and whether a value of such a type can be rendered.

The check reads the text only: a union is renderable if a member is, an array if its elements are,
and the arguments of a renderable type name do not count.
-/

namespace RenderAudit.TypeText

def opens (c : Char) : Bool :=
  c == '<' || c == '(' || c == '[' || c == '{'

def closes (c : Char) : Bool :=
  c == '>' || c == ')' || c == ']' || c == '}'

/-- The nesting depth behind `c`. The angle of an arrow closes nothing. -/
def depthAfter (previous : Option Char) (depth : Int) (c : Char) : Int :=
  if opens c then depth + 1
  else if closes c && !(c == '>' && previous == some '=') then depth - 1
  else depth

/-- The pieces of a text between the separators outside of brackets. `piece` holds what was read
of the first of them, last character first. -/
def pieces (separator : Option Char) (previous : Option Char) (depth : Int) (piece : List Char) :
    List Char → List (List Char)
  | [] => [piece.reverse]
  | c :: rest =>
      let depth := depthAfter previous depth c
      if separator == some c && depth == 0 then
        piece.reverse :: pieces separator (some c) depth [] rest
      else pieces separator (some c) depth (c :: piece) rest

/-- The trimmed pieces of a text that are not blank. -/
def splitTopLevel (separator : Option Char) (text : List Char) : List (List Char) :=
  ((pieces separator none 0 [] text).map Text.trim).filter (!·.isEmpty)

/-- Removes the parentheses around a text, however many there are. -/
def unparenthesize (text : List Char) : List Char :=
  match text with
  | '(' :: rest =>
      if rest.getLast? == some ')' then unparenthesize (Text.trim rest.dropLast) else '(' :: rest
  | _ => text
termination_by text.length
decreasing_by
  have := Text.length_trim_le rest.dropLast
  simp at this ⊢
  omega

def readonlyMark : List Char := "readonly ".toList

/-- A member of a union without its modifier and the parentheses around it. -/
def bare (text : List Char) : List Char :=
  let text := Text.trim text
  unparenthesize
    (if readonlyMark.isPrefixOf text then Text.trim (text.drop readonlyMark.length) else text)

def arrayMark : List Char := ['[', ']']

/-- The element type of a text such as `Array<T>`. -/
def arrayArgument? (name rest : List Char) : Option (List Char) :=
  if name == "Array".toList || name == "ReadonlyArray".toList then
    if rest.getLast? == some '>' then some rest.dropLast else none
  else none

/-- Whether a type is renderable, looking through at most `levels` levels. -/
def accepts (names : List String) : Nat → List Char → Bool
  | 0, _ => false
  | levels + 1, text =>
      match splitTopLevel (some '|') text with
      | first :: second :: rest => (first :: second :: rest).any (accepts names levels)
      | _ =>
          let member := bare text
          if member != Text.trim text then accepts names levels member
          else if arrayMark.isSuffixOf member then
            accepts names levels (member.take (member.length - 2))
          else
            let name := Text.trim (member.takeWhile (· != '<'))
            let rest := (member.dropWhile (· != '<')).drop 1
            match arrayArgument? name rest with
            | some element => accepts names levels element
            | none => names.contains (String.ofList name)

/-- Types are followed through this many levels. -/
def levelLimit : Nat := 33

def isRenderable (names : List String) (text : Option String) : Bool :=
  match text with
  | none => false
  | some text => !text.isEmpty && accepts names levelLimit (Text.trim text.toList)

end RenderAudit.TypeText
