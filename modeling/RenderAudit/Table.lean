/-!
Finite tables that remember the order in which their keys were entered.
-/

namespace RenderAudit

structure Table (α β : Type) where
  entries : List (α × β)
deriving Repr

namespace Table

variable {α β : Type} [DecidableEq α]

def empty : Table α β := ⟨[]⟩

def get? (table : Table α β) (key : α) : Option β :=
  (table.entries.find? fun entry => entry.1 = key).map Prod.snd

def keys (table : Table α β) : List α :=
  table.entries.map Prod.fst

def contains (table : Table α β) (key : α) : Bool :=
  (table.get? key).isSome

def replaceEntry (key : α) (value : β) : List (α × β) → List (α × β)
  | [] => [(key, value)]
  | entry :: rest =>
      if entry.1 = key then (key, value) :: rest else entry :: replaceEntry key value rest

/-- Enters a value; a key that is present keeps its place. -/
def insert (table : Table α β) (key : α) (value : β) : Table α β :=
  ⟨replaceEntry key value table.entries⟩

/-- Enters a value unless the key is present. -/
def insertIfNew (table : Table α β) (key : α) (value : β) : Table α β :=
  if table.contains key then table else ⟨table.entries ++ [(key, value)]⟩

def erase (table : Table α β) (key : α) : Table α β :=
  ⟨table.entries.filter fun entry => entry.1 ≠ key⟩

theorem get?_insert (table : Table α β) (key other : α) (value : β) :
    (table.insert key value).get? other = if key = other then some value else table.get? other := by
  obtain ⟨entries⟩ := table
  simp only [insert, get?]
  induction entries with
  | nil => by_cases h : key = other <;> simp [replaceEntry, h]
  | cons entry rest ih =>
      by_cases hkey : entry.1 = key
      · by_cases h : key = other <;> simp_all [replaceEntry]
      · by_cases h : entry.1 = other
        · subst h
          simp [replaceEntry, hkey, Ne.symm hkey]
        · simpa [replaceEntry, hkey, h] using ih

theorem get?_insertIfNew (table : Table α β) (key other : α) (value : β) :
    (table.insertIfNew key value).get? other =
      (table.get? other).or (if key = other then some value else none) := by
  unfold insertIfNew
  split
  · next h =>
    by_cases hkey : key = other
    · subst hkey
      obtain ⟨found, hfound⟩ := Option.isSome_iff_exists.1 h
      simp [hfound]
    · simp [hkey]
  · simp only [get?, List.find?_append]
    cases table.entries.find? (fun entry => decide (entry.1 = other)) with
    | some entry => simp
    | none => by_cases hkey : key = other <;> simp [hkey]

end Table

end RenderAudit
