import RenderAudit.Config
import RenderAudit.Text.Digit

/-!
The arguments of the command line. Each argument is first classified on its own, then the arguments
are read from left to right. Paths have to stand together.
-/

namespace RenderAudit

inductive Switch where
  | help
  | depthBound
  | policy
  | componentTag
  | rendersTag
  | format
  | strict
  | workers
  | verbose
deriving DecidableEq, Repr

namespace Switch

def all : List Switch :=
  [.help, .depthBound, .policy, .componentTag, .rendersTag, .format, .strict, .workers, .verbose]

def word : Switch → String
  | .help => "--help"
  | .depthBound => "--depth-bound"
  | .policy => "--policy"
  | .componentTag => "--component-tag"
  | .rendersTag => "--renders-tag"
  | .format => "--format"
  | .strict => "--strict"
  | .workers => "--workers"
  | .verbose => "--verbose"

/-- How a switch is named in an error. -/
def label : Switch → String
  | .help => "-h/--help"
  | switch => switch.word

def takesValue : Switch → Bool
  | .help | .strict | .verbose => false
  | _ => true

/-- The switches that a word may be short for. -/
def startingWith (word : List Char) : List Switch :=
  all.filter fun switch => word.isPrefixOf switch.word.toList

def named? (word : List Char) : Option Switch :=
  all.find? fun switch => switch.word.toList = word

end Switch

inductive UsageFault where
  | ambiguous (argument : String)
  | missingValue (switch : Switch)
  | ignoredValue (switch : Switch) (value : String)
  | badInteger (switch : Switch) (value : String)
  | badChoice (switch : Switch) (value : String) (choices : List String)
  | unrecognized (arguments : List String)
deriving DecidableEq, Repr

namespace UsageFault

def message : UsageFault → String
  | .ambiguous argument =>
      s!"ambiguous option: {argument} could match " ++ ", ".intercalate (Switch.all.map Switch.word)
  | .missingValue switch => s!"argument {switch.label}: expected one argument"
  | .ignoredValue switch value =>
      s!"argument {switch.label}: ignored explicit argument {Text.quoted value}"
  | .badInteger switch value => s!"argument {switch.label}: invalid int value: {Text.quoted value}"
  | .badChoice switch value choices =>
      s!"argument {switch.label}: invalid choice: {Text.quoted value} (choose from " ++
        ", ".intercalate (choices.map Text.quoted) ++ ")"
  | .unrecognized arguments => "unrecognized arguments: " ++ " ".intercalate arguments

end UsageFault

inductive OutputFormat where
  | text
  | json
deriving DecidableEq, Repr

structure Settings where
  paths : List String := ["."]
  overrides : Config.Overrides := {}
  format : OutputFormat := .text
  strict : Bool := false
  workers : Int := 4
  verbose : Bool := false

/-- An argument by itself. `letters` are what follows the short form of the help switch. -/
inductive Argument where
  | plain (text : String)
  | divider
  | switch (switch : Switch) (value : Option String)
  | short (letters : List Char)
  | unknown (text : String)
deriving DecidableEq, Repr

namespace Argument

/-- Digits, with at most one point that has a digit after it. One line break may follow. -/
def isNumber (text : List Char) : Bool :=
  let text := if text.getLast? = some '\n' then text.dropLast else text
  let isDigit (c : Char) : Bool := (Text.digitValue? c).isSome
  match text.dropWhile isDigit with
  | [] => !text.isEmpty
  | '.' :: decimals => !decimals.isEmpty && decimals.all isDigit
  | _ => false

/-- What follows the first equals sign, if there is one. -/
def valueOf? (text : List Char) : Option String :=
  match text.dropWhile (· != '=') with
  | [] => none
  | _ :: value => some (String.ofList value)

/-- An argument with dashes that is no switch: a negative number and a text with blanks are plain. -/
def other (text : String) : Argument :=
  if isNumber (text.toList.drop 1) || text.toList.contains ' ' then .plain text else .unknown text

def classify (text : String) : Except UsageFault Argument :=
  match text.toList with
  | '-' :: '-' :: rest =>
      let word := '-' :: '-' :: rest.takeWhile (· != '=')
      let value := valueOf? rest
      match Switch.named? word, Switch.startingWith word with
      | some found, _ => .ok (.switch found value)
      | none, [found] => .ok (.switch found value)
      | none, [] => .ok (other text)
      | none, _ :: _ :: _ => .error (.ambiguous text)
  | '-' :: 'h' :: letters => .ok (.short letters)
  | '-' :: _ :: _ => .ok (other text)
  | _ => .ok (.plain text)

/-- After the first pair of dashes everything is plain. -/
def classifyAll : List String → Except UsageFault (List Argument)
  | [] => .ok []
  | text :: rest =>
      if text = "--" then .ok (.divider :: rest.map .plain)
      else do
        let argument ← classify text
        let arguments ← classifyAll rest
        return argument :: arguments

end Argument

/-- What a command line asks for. -/
inductive Request where
  | help
  | run (settings : Settings)
  | refuse (fault : UsageFault)

/-- Whether paths have been met, and whether the last argument was one of them. -/
inductive PathPhase where
  | before
  | within
  | after
deriving DecidableEq, Repr

structure ArgumentReader where
  settings : Settings := {}
  paths : List String := []
  phase : PathPhase := .before
  unrecognized : List String := []

namespace Settings

def integer (switch : Switch) (value : String) : Except UsageFault Int :=
  match Text.integerOf? value with
  | some number => .ok number
  | none => .error (.badInteger switch value)

def choice (switch : Switch) (value : String) (choices : List String) : Except UsageFault String :=
  if choices.contains value then .ok value else .error (.badChoice switch value choices)

def withOverrides (settings : Settings) (change : Config.Overrides → Config.Overrides) : Settings :=
  { settings with overrides := change settings.overrides }

/-- Sets a switch that takes a value. -/
def setValue (settings : Settings) (switch : Switch) (value : String) :
    Except UsageFault Settings := do
  match switch with
  | .depthBound =>
      let bound ← integer switch value
      return settings.withOverrides ({ · with depthBound := some bound })
  | .policy =>
      let policy ← choice switch value ["transitive", "single-hop"]
      return settings.withOverrides ({ · with policy := some policy })
  | .componentTag => return settings.withOverrides ({ · with componentTag := some value })
  | .rendersTag => return settings.withOverrides ({ · with rendersTag := some value })
  | .format =>
      let format ← choice switch value ["text", "json"]
      return { settings with format := if format = "json" then .json else .text }
  | .workers => return { settings with workers := ← integer switch value }
  | .help | .strict | .verbose => return settings

/-- Two dashes as an attached value end the values of a switch before the first, so it is left with
none. An empty policy is shown as an empty list. -/
def setEmpty (settings : Settings) : Switch → Settings
  | .depthBound => settings.withOverrides ({ · with depthBound := none })
  | .policy => settings.withOverrides ({ · with policy := some "[]" })
  | .componentTag => settings.withOverrides ({ · with componentTag := some "" })
  | .rendersTag => settings.withOverrides ({ · with rendersTag := some "" })
  | .format => { settings with format := .text }
  | _ => settings

/-- Sets a switch to a value that is attached to it. -/
def setAttached (settings : Settings) (switch : Switch) (value : String) :
    Except UsageFault Settings :=
  if value = "--" then .ok (settings.setEmpty switch) else settings.setValue switch value

/-- Sets a switch that takes no value. -/
def turnOn (settings : Settings) : Switch → Settings
  | .strict => { settings with strict := true }
  | .verbose => { settings with verbose := true }
  | _ => settings

end Settings

namespace ArgumentReader

/-- A switch ends the paths before it. -/
def leavePaths (reader : ArgumentReader) : ArgumentReader :=
  { reader with phase := if reader.phase = .before then .before else .after }

def addPlain (reader : ArgumentReader) (text : String) : ArgumentReader :=
  if reader.phase = .after then
    { reader with unrecognized := reader.unrecognized ++ [text] }
  else { reader with paths := reader.paths ++ [text], phase := .within }

def addDivider (reader : ArgumentReader) : ArgumentReader :=
  if reader.phase = .after then
    { reader with unrecognized := reader.unrecognized ++ ["--"] }
  else { reader with phase := .within }

def addUnknown (reader : ArgumentReader) (text : String) : ArgumentReader :=
  { reader.leavePaths with unrecognized := reader.unrecognized ++ [text] }

def finish (reader : ArgumentReader) : Request :=
  if reader.unrecognized.isEmpty then
    .run { reader.settings with paths := if reader.paths.isEmpty then ["."] else reader.paths }
  else .refuse (.unrecognized reader.unrecognized)

/-- The letter of the help switch may be repeated; anything else is a value, which is refused. -/
def shortLetters : List Char → Request
  | [] => .help
  | 'h' :: letters => shortLetters letters
  | value => .refuse (.ignoredValue .help (String.ofList value))

/-- Letters may also follow an equals sign, but then there has to be one. -/
def short : List Char → Request
  | ['='] => .refuse (.ignoredValue .help "")
  | '=' :: letters => shortLetters letters
  | letters => shortLetters letters

def read (reader : ArgumentReader) : List Argument → Request
  | [] => reader.finish
  | .plain text :: rest => read (reader.addPlain text) rest
  | .divider :: rest => read reader.addDivider rest
  | .unknown text :: rest => read (reader.addUnknown text) rest
  | .short letters :: _ => short letters
  | .switch switch (some value) :: rest =>
      if switch.takesValue then
        match reader.settings.setAttached switch value with
        | .ok settings => read { reader.leavePaths with settings := settings } rest
        | .error fault => .refuse fault
      else .refuse (.ignoredValue switch value)
  | .switch .help none :: _ => .help
  | .switch switch none :: .plain value :: rest =>
      if switch.takesValue then
        match reader.settings.setValue switch value with
        | .ok settings => read { reader.leavePaths with settings := settings } rest
        | .error fault => .refuse fault
      else
        read ({ reader.leavePaths with
          settings := reader.settings.turnOn switch }.addPlain value) rest
  | .switch switch none :: rest =>
      if switch.takesValue then .refuse (.missingValue switch)
      else read { reader.leavePaths with settings := reader.settings.turnOn switch } rest

end ArgumentReader

namespace Request

def ofArguments (arguments : List String) : Request :=
  match Argument.classifyAll arguments with
  | .error fault => .refuse fault
  | .ok arguments => ArgumentReader.read {} arguments

end Request

end RenderAudit
