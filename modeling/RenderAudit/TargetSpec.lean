import RenderAudit.Failure
import RenderAudit.Text.Blank
import RenderAudit.Text.Word

/-!
The body of a render tag: an optional target followed by an optional description.

A target is a dotted identifier, alone or in braces, or a star. No target and the star both stand
for arbitrary content.
-/

namespace RenderAudit

/-- A parsed body. The empty target stands for arbitrary content. -/
structure TargetSpec where
  target : String
  description : String
deriving DecidableEq, Repr

namespace TargetSpec

def isWildcard (spec : TargetSpec) : Bool :=
  spec.target.isEmpty

/-- Why a body is no target. -/
inductive Fault where
  | unterminated
  | invalid (token : String)
deriving DecidableEq, Repr

def Fault.message (tag : String) : Fault → String
  | .unterminated => s!"Unterminated '\x7b' in @{tag} target"
  | .invalid token => s!"Cannot parse @{tag} target '{token}'"

def Fault.failure (tag body : String) (fault : Fault) : Failure :=
  .malformedTag (fault.message tag) (some tag) (some body)

def isInitial (c : Char) : Bool :=
  c.isAlpha || c == '_' || c == '$'

def isSegment (inner : Char → Bool) : List Char → Bool
  | [] => false
  | c :: rest => isInitial c && rest.all inner

def isInner (c : Char) : Bool :=
  Text.isWord c || c == '$'

/-- Identifiers joined by dots; the first of them may hold dashes. -/
def isTarget (token : List Char) : Bool :=
  match token.splitOn '.' with
  | [] => false
  | first :: rest => isSegment (fun c => isInner c || c == '-') first && rest.all (isSegment isInner)

/-- The first token of a trimmed body and the text after it; none if a brace stays open. -/
def token? : List Char → Option (List Char × List Char)
  | '{' :: rest =>
      match rest.dropWhile (· != '}') with
      | _ :: after => some (Text.trim (rest.takeWhile (· != '}')), after)
      | [] => none
  | text => some (text.takeWhile (!Text.isBlank ·), text.dropWhile (!Text.isBlank ·))

/-- A description may be set off from its target by a dash. -/
def describe (rest : List Char) : List Char :=
  match Text.trim rest with
  | '-' :: ' ' :: text => Text.trim text
  | text => text

def parse (body : List Char) : Except Fault TargetSpec :=
  let text := Text.trim body
  if text.isEmpty then .ok ⟨"", ""⟩
  else
    match token? text with
    | none => .error .unterminated
    | some (token, rest) =>
        let description := String.ofList (describe rest)
        if token == ['*'] then .ok ⟨"", description⟩
        else if isTarget token then .ok ⟨String.ofList token, description⟩
        else .error (.invalid (String.ofList token))

/-- What the body of a tag names; the failure tells the tag and the whole body. -/
def ofBody (tag body : String) : Except Failure TargetSpec :=
  (parse body.toList).mapError (·.failure tag body)

end TargetSpec

end RenderAudit
