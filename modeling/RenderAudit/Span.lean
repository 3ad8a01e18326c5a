/-!
Places in a source. Lines and columns count from one.
-/

namespace RenderAudit

structure Span where
  file : String
  line : Int
  column : Int
  endLine : Int := 0
  endColumn : Int := 0
deriving DecidableEq, Repr

namespace Span

/-- Spans are ordered by where they start. -/
def order : Span → Span → Ordering :=
  compareLex (compareOn (·.file)) (compareLex (compareOn (·.line)) (compareOn (·.column)))

def text (span : Span) : String :=
  s!"{span.file}:{span.line}:{span.column}"

end Span

end RenderAudit
