import RenderAudit.Usage

/-!
Content supplied to a slot is followed through the receiving component, which renders it, drops it,
or forwards it to a further slot. The walk ends at a depth bound and where it would close a cycle.
-/

namespace RenderAudit

inductive SlotState where
  | rendered
  | dropped
  | unknown
  | exceeded
deriving DecidableEq, Repr

def SlotState.name : SlotState → String
  | .rendered => "rendered"
  | .dropped => "dropped"
  | .unknown => "unknown"
  | .exceeded => "exceeded"

/-- What becomes of content supplied to a slot. `depth` counts the properties on the shortest way
to where it is rendered, `reached` lists the slots in the order they were met. -/
structure SlotResolution where
  depth : Option Nat
  unknown : Bool
  exceeded : Bool
  reached : List Slot
deriving DecidableEq, Repr

namespace SlotResolution

def state (resolution : SlotResolution) : SlotState :=
  if resolution.depth.isSome then .rendered
  else if resolution.exceeded then .exceeded
  else if resolution.unknown then .unknown
  else .dropped

def dropped (slot : Slot) : SlotResolution := ⟨none, false, false, [slot]⟩

def cutOff (slot : Slot) : SlotResolution := ⟨none, false, true, [slot]⟩

def untraced (slot : Slot) : SlotResolution := ⟨none, true, false, [slot]⟩

def shorter : Option Nat → Option Nat → Option Nat
  | none, depth => depth
  | depth, none => depth
  | some a, some b => some (if b < a then b else a)

def addReached (reached : List Slot) (slot : Slot) : List Slot :=
  if reached.contains slot then reached else reached ++ [slot]

def merge (first second : SlotResolution) : SlotResolution where
  depth := shorter first.depth second.depth
  unknown := first.unknown || second.unknown
  exceeded := first.exceeded || second.exceeded
  reached := second.reached.foldl addReached first.reached

end SlotResolution

/-- Follows content into `slot`. At most `remaining` further properties are entered, `depth` is the
number of properties up to and including this one, `path` holds the slots in front of it. -/
def follow (usages : Usages) : Nat → Nat → List Slot → Slot → SlotResolution
  | 0, _, _, slot => .cutOff slot
  | remaining + 1, depth, path, slot =>
      if path.contains slot then .cutOff slot
      else
        match usages.walked? slot.owner with
        | none => .untraced slot
        | some usage =>
            (usage.usesOf slot.property).foldl
              (fun result use =>
                match use with
                | .render _ => result.merge ⟨some depth, false, false, []⟩
                | .unknown _ => { result with unknown := true }
                | .forward next =>
                    result.merge (follow usages remaining (depth + 1) (slot :: path) next))
              (.dropped slot)

/-- What becomes of content supplied to a slot, within a depth bound. -/
def resolveSlot (usages : Usages) (bound : Nat) (slot : Slot) : SlotResolution :=
  follow usages bound 1 [] slot

end RenderAudit
