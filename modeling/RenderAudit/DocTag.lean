import RenderAudit.Text.Blank
import RenderAudit.Text.Word

/-!
Documentation comments and their tags.

A documentation comment opens with exactly two stars. A tag stands at the start of a line, behind
the optional star in the margin, and its body runs to the next tag or to the end of the comment.
-/

namespace RenderAudit

/-- One tag of a documentation comment. `line` counts from the first line of the comment, `column`
is the position of the at sign in that line, in characters. -/
structure DocTag where
  name : String
  body : String
  line : Nat
  column : Nat
deriving DecidableEq, Repr

namespace DocTag

def isDocComment (text : List Char) : Bool :=
  ['/', '*', '*'].isPrefixOf text && !(['/', '*', '*', '*'].isPrefixOf text) &&
    ['*', '/'].isSuffixOf text

/-- The position of the last closing delimiter of a line. -/
def lastClose? : List Char → Option Nat
  | [] => none
  | c :: rest =>
      match lastClose? rest with
      | some position => some (position + 1)
      | none => if ['*', '/'].isPrefixOf (c :: rest) then some 0 else none

/-- A line without the carriage return before its end. -/
def withoutReturn (raw : List Char) : List Char :=
  Text.stripEnd (· == '\r') raw

/-- What remains of a line without delimiters and margin, and the column at which it starts. -/
def undecorate (first last : Bool) (raw : List Char) : List Char × Nat :=
  let stop := if last then (lastClose? raw).getD raw.length else raw.length
  if first then ((raw.take stop).drop 3, 3)
  else
    let inner := Text.trimStart (raw.take stop)
    let start := stop - inner.length
    match inner with
    | '*' :: rest => (rest, start + 1)
    | _ => (inner, start)

/-- A line of a comment: it opens a tag or continues the text before it. -/
inductive Line where
  | opening (name rest : List Char) (line column : Nat)
  | text (content : List Char)

def isTagChar (c : Char) : Bool :=
  Text.isWord c || c == '-'

def Line.read (line : Nat) (content : List Char) (start : Nat) : Line :=
  let inner := Text.trimStart content
  match inner with
  | '@' :: c :: rest =>
      if c.isAlpha then
        .opening (c :: rest.takeWhile isTagChar) (rest.dropWhile isTagChar) line
          (start + (content.length - inner.length))
      else .text content
  | _ => .text content

/-- The contents of the lines in front of the next tag. -/
def leadingText : List Line → List (List Char)
  | .text content :: lines => content :: leadingText lines
  | _ => []

def bodyOf (lines : List (List Char)) : List Char :=
  Text.trim (['\n'].intercalate (lines.map Text.trim))

def ofLines : List Line → List DocTag
  | [] => []
  | .text _ :: lines => ofLines lines
  | .opening name rest line column :: lines =>
      { name := String.ofList name
        body := String.ofList (bodyOf (rest :: leadingText lines))
        line := line
        column := column } :: ofLines lines

/-- The lines of a comment, numbered from `index`. -/
def readLines (index : Nat) : List (List Char) → List Line
  | [] => []
  | raw :: rest =>
      let (content, start) := undecorate (index == 0) rest.isEmpty (withoutReturn raw)
      Line.read index content start :: readLines (index + 1) rest

/-- The tags of a comment in order. Text that is no documentation comment has none. -/
def parse (text : List Char) : List DocTag :=
  if isDocComment text then ofLines (readLines 0 (text.splitOn '\n')) else []

end DocTag

end RenderAudit
