import RenderAudit.Failure

/-!
Cooperative cancellation: a token is cancelled once and stays so; work stops at the next check.
-/

namespace RenderAudit

structure CancelToken where
  cancelled : Bool
deriving DecidableEq, Repr

namespace CancelToken

def fresh : CancelToken := ⟨false⟩

def cancel (_ : CancelToken) : CancelToken := ⟨true⟩

/-- Fails with a cancellation at `path` if the token is cancelled. -/
def check (token : CancelToken) (path : Option String) : Except Failure Unit :=
  if token.cancelled then .error (.cancelled Failure.cancellationMessage path) else .ok ()

end CancelToken

end RenderAudit
