import RenderAudit.Failure
import RenderAudit.Path
import RenderAudit.Sorted
import RenderAudit.Table

/-!
The grammars that sources are read with: which grammar a file calls for, which grammars are
loaded, and how often each question was asked.
-/

namespace RenderAudit

structure GrammarStats where
  parsersCreated : Nat := 0
  cacheHits : Nat := 0
  cacheMisses : Nat := 0
  unknownLanguages : Nat := 0
  successfulDetections : Nat := 0
deriving DecidableEq, Repr

/-- Where a grammar comes from: a function of a module. -/
structure GrammarSource where
  module : String
  function : String
deriving DecidableEq, Repr

namespace GrammarSource

def package : String := "tree_sitter_typescript"

/-- What stands in front of the last dot of a module name; empty if there is none. -/
def parent (module : List Char) : List Char :=
  (module.reverse.dropWhile (· != '.')).tail.reverse

theorem length_parent_lt (module : List Char) (h : (parent module).isEmpty = false) :
    (parent module).length < module.length := by
  have hdrop : ((module.reverse.dropWhile (· != '.'))).length ≤ module.length := by
    simpa using (List.dropWhile_sublist (· != '.') (l := module.reverse)).length_le
  have hne : (module.reverse.dropWhile (· != '.')).tail ≠ [] := by
    intro hnil
    simp [parent, hnil] at h
  have hlength : (parent module).length = (module.reverse.dropWhile (· != '.')).length - 1 := by
    simp [parent]
  have hpos : 0 < (module.reverse.dropWhile (· != '.')).length := by
    cases hcases : module.reverse.dropWhile (· != '.') with
    | nil => simp [hcases] at hne
    | cons _ _ => simp
  omega

/-- A dot in front of a name does not change where it is looked up. -/
def isPackage (module : List Char) : Bool :=
  module == package.toList || module == '.' :: package.toList

/-- A module is looked up after its parents, so the first of them that does not exist is missing. -/
def missingFrom (module : List Char) : List Char :=
  if _h : (parent module).isEmpty then module
  else if isPackage (parent module) then module
  else missingFrom (parent module)
termination_by module.length
decreasing_by exact length_parent_lt module (by simpa using _h)

def missing (module : String) : String :=
  String.ofList (missingFrom module.toList)

/-- Why a grammar is not available; nothing if it is. -/
def problem? (source : GrammarSource) : Option String :=
  if source.module = package then
    if source.function = "language_tsx" || source.function = "language_typescript" then none
    else
      some s!"module {Text.quoted source.module} has no attribute {Text.quoted source.function}"
  else some ("No module named " ++ Text.quoted (missing source.module))

end GrammarSource

/-- `problem?` says why a source gives no grammar, and nothing if it gives one. -/
structure Registry where
  extensions : Table String String
  sources : Table String GrammarSource
  problem? : GrammarSource → Option String
  loaded : List String
  stats : GrammarStats

namespace Registry

inductive Fault where
  | unsupported (language : String)
  | unavailable (source : GrammarSource) (problem : String)
deriving DecidableEq, Repr

def Fault.failure : Fault → Failure
  | .unsupported language => .dependency s!"Unsupported grammar: {language}" none
  | .unavailable source problem =>
      .dependency
        s!"Tree-sitter grammar '{source.module}.{source.function}' is not available: {problem}"
        (some source.module)

def standard : Registry where
  extensions :=
    ⟨[(".tsx", "tsx"), (".jsx", "tsx"), (".js", "tsx"), (".mjs", "tsx"), (".cjs", "tsx"),
      (".ts", "typescript"), (".mts", "typescript"), (".cts", "typescript")]⟩
  sources :=
    ⟨[("tsx", ⟨GrammarSource.package, "language_tsx"⟩),
      ("typescript", ⟨GrammarSource.package, "language_typescript"⟩)]⟩
  problem? := GrammarSource.problem?
  loaded := []
  stats := {}

def setExtension (registry : Registry) (extension language : String) : Registry :=
  { registry with extensions := registry.extensions.insert extension language }

def setSource (registry : Registry) (language : String) (source : GrammarSource) : Registry :=
  { registry with sources := registry.sources.insert language source }

def isSupported (registry : Registry) (path : Path) : Bool :=
  registry.extensions.contains path.suffix

def supportedExtensions (registry : Registry) : List String :=
  sortBy compare registry.extensions.keys

/-- The grammar for a file, by its suffix. -/
def detect (registry : Registry) (path : Path) : Option String × Registry :=
  let stats := registry.stats
  match registry.extensions.get? path.suffix with
  | some language =>
      (some language,
        { registry with
          stats := { stats with successfulDetections := stats.successfulDetections + 1 } })
  | none =>
      (none,
        { registry with stats := { stats with unknownLanguages := stats.unknownLanguages + 1 } })

/-- Loads a grammar unless it is loaded already. -/
def load (registry : Registry) (language : String) : Except Fault Unit × Registry :=
  let stats := registry.stats
  if registry.loaded.contains language then
    (.ok (), { registry with stats := { stats with cacheHits := stats.cacheHits + 1 } })
  else
    let missed :=
      { registry with stats := { stats with cacheMisses := stats.cacheMisses + 1 } }
    match registry.sources.get? language with
    | none => (.error (.unsupported language), missed)
    | some source =>
        match registry.problem? source with
        | some problem => (.error (.unavailable source problem), missed)
        | none => (.ok (), { missed with loaded := language :: missed.loaded })

def createParser (registry : Registry) (language : String) : Except Fault Unit × Registry :=
  match registry.load language with
  | (.ok (), registry) =>
      let stats := registry.stats
      (.ok (), { registry with stats := { stats with parsersCreated := stats.parsersCreated + 1 } })
  | failed => failed

/-- Whether there is a parser for a file; files of unknown kind have none. -/
def parserFor (registry : Registry) (path : Path) : Except Fault Bool × Registry :=
  match registry.detect path with
  | (none, registry) => (.ok false, registry)
  | (some language, registry) =>
      match registry.createParser language with
      | (.ok (), registry) => (.ok true, registry)
      | (.error fault, registry) => (.error fault, registry)

end Registry

end RenderAudit
