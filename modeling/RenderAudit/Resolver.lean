import RenderAudit.Arena

/-!
Names: a component of the source, a host element, or something from outside that a resolver may
know.
-/

namespace RenderAudit

/-- What a resolver says about a name. -/
inductive Lookup where
  | found
  | missing
  | failed
deriving DecidableEq, Repr

structure Resolver where
  lookup : String → Lookup

/-- Knows no name. -/
def Resolver.blind : Resolver := ⟨fun _ => .missing⟩

namespace Arena

/-- Whether a name can be told only by a resolver. -/
def isForeign (arena : Arena) (name : String) : Bool :=
  (arena.componentNamed? name).isNone && !isIntrinsicName name

/-- What a name stands for; nothing if the resolver fails. -/
def targetOf? (arena : Arena) (resolver : Resolver) (name : String) : Option Target :=
  match arena.componentNamed? name with
  | some component => some (.component component.id component.name)
  | none =>
      if isIntrinsicName name then some (.intrinsic name)
      else
        match resolver.lookup name with
        | .found => some (.external name)
        | .missing => some (.unresolved name)
        | .failed => none

end Arena

end RenderAudit
