import Mathlib.Data.List.Nodup
import Mathlib.Data.Set.Insert
import Mathlib.Logic.Relation
import RenderAudit.Props
import RenderAudit.Proofs.Outcomes
import RenderAudit.Proofs.Traversal
import RenderAudit.Tree.Rows

/-!
# The closure of a props type

The properties of a component are those of all types that its props type draws on: the members of an
intersection, what stands in parentheses, the argument of `PropsWithChildren`, and what is declared
under a name. Names lead anywhere in the source, so types can draw on each other in circles; a name
is expanded only once, and what the second visit leaves out is among what the first one gathers.
-/

namespace RenderAudit

namespace SourceUnit

/-! ### Types that draw on other types -/

/-- The name in front of the arguments of a generic type. -/
def genericName (unit : SourceUnit) (node : Node) : String :=
  ((node.withField? "name").map unit.text).getD ""

def IsPropsWithChildren (unit : SourceUnit) (node : Node) : Prop :=
  node.kind = "generic_type" ∧ lastPart (unit.genericName node) = "PropsWithChildren"

instance (unit : SourceUnit) (node : Node) : Decidable (unit.IsPropsWithChildren node) :=
  inferInstanceAs (Decidable (_ ∧ _))

/-- The name that a type is declared under. -/
def typeName? (unit : SourceUnit) (node : Node) : Option String :=
  if node.kind = "type_identifier" then some (unit.text node)
  else if node.kind = "generic_type" ∧ ¬unit.IsPropsWithChildren node then
    some (unit.genericName node)
  else none

/-- What a name is declared as: the value of an alias, or the body of an interface and the types it
extends. -/
def declaredTypes (unit : SourceUnit) (name : String) : List Node :=
  match unit.typeDeclaration? name with
  | none => []
  | some declaration =>
      if declaration.kind = "type_alias_declaration" then (declaration.withField? "value").toList
      else (declaration.withField? "body").toList ++
        (declaration.namedChildren.filter (·.kind == "extends_type_clause")).flatMap
          Node.namedChildren

/-- What stands in the parentheses of a type, or between the brackets of `PropsWithChildren`. -/
def enclosed (unit : SourceUnit) (node : Node) : List Node :=
  if node.kind = "parenthesized_type" then node.namedChildren
  else if unit.IsPropsWithChildren node then
    (((node.withField? "type_arguments").or (node.namedOfKind? "type_arguments")).map
      Node.namedChildren).getD []
  else []

/-- A type draws on another one. Of what is enclosed, `first` says what counts. -/
inductive Draws (unit : SourceUnit) (first : List Node → Option Node) : Node → Node → Prop
  | member {node next : Node} (hkind : node.kind = "intersection_type")
      (hnext : next ∈ node.namedChildren) : Draws unit first node next
  | inner {node next : Node} (hnext : first (unit.enclosed node) = some next) :
      Draws unit first node next
  | declared {node next : Node} {name : String} (hname : unit.typeName? node = some name)
      (hnext : next ∈ unit.declaredTypes name) : Draws unit first node next

/-- A type that the props type of a definition draws on, through any number of others. -/
def Reached (unit : SourceUnit) (first : List Node → Option Node) (shape : Shape) (node : Node) :
    Prop :=
  ∃ start, shape.propsType = some start ∧ Relation.ReflTransGen (unit.Draws first) start node

/-- The names that a type brings in by itself. -/
inductive Offers (unit : SourceUnit) (node : Node) : String → Prop
  | member {signature name : Node} (hkind : node.isOneOf ["object_type", "interface_body"] = true)
      (hmember : signature ∈ node.namedChildren) (hsignature : signature.kind = "property_signature")
      (hname : signature.withField? "name" = some name) : Offers unit node (unit.unquoted name)
  | children (hkind : unit.IsPropsWithChildren node) : Offers unit node childrenName

/-! ### One step of the search -/

/-- The types that are looked at as parts of a type. -/
def typeParts (unit : SourceUnit) (first : List Node → Option Node) (node : Node) : List Node :=
  (if node.kind = "intersection_type" then node.namedChildren else []) ++
    (first (unit.enclosed node)).toList

/-- The properties that a type has by itself. -/
def offered (unit : SourceUnit) (node : Node) : List PropertyInfo :=
  if node.isOneOf ["object_type", "interface_body"] = true then unit.memberProperties node
  else if unit.IsPropsWithChildren node then [impliedChildren]
  else []

/-- A name that is expanded: it is declared, and it is not expanded yet. -/
def fresh (unit : SourceUnit) (visited : List String) (name : String) : List String :=
  if (unit.typeDeclaration? name).isSome ∧ name ∉ visited then [name] else []

/-- The names that are expanded at a type, of which there is one at most. -/
def entered (unit : SourceUnit) (visited : List String) (node : Node) : List String :=
  (unit.typeName? node).toList.flatMap (unit.fresh visited)

theorem mem_entered_iff {unit : SourceUnit} {visited : List String} {node : Node} {name : String} :
    name ∈ unit.entered visited node ↔
      unit.typeName? node = some name ∧ (unit.typeDeclaration? name).isSome ∧ name ∉ visited := by
  unfold entered fresh
  cases unit.typeName? node with
  | none => simp
  | some other =>
      simp only [Option.toList_some, List.flatMap_singleton, Option.some.injEq]
      split
      · next hnew =>
        rw [List.mem_singleton]
        constructor
        · rintro rfl
          exact ⟨rfl, hnew⟩
        · exact fun hname => hname.1.symm
      · next hold =>
        constructor
        · intro hname
          cases hname
        · rintro ⟨rfl, hnew⟩
          exact absurd hnew hold

theorem draws_iff {unit : SourceUnit} {first : List Node → Option Node} {node next : Node} :
    unit.Draws first node next ↔ next ∈ unit.typeParts first node ∨
      ∃ name, unit.typeName? node = some name ∧ next ∈ unit.declaredTypes name := by
  constructor
  · rintro (⟨hkind, hnext⟩ | ⟨hnext⟩ | ⟨hname, hnext⟩)
    · exact .inl (List.mem_append_left _ (by rwa [if_pos hkind]))
    · exact .inl (List.mem_append_right _ (by simp [hnext]))
    · exact .inr ⟨_, hname, hnext⟩
  · rintro (hnext | ⟨name, hname, hnext⟩)
    · rcases List.mem_append.1 hnext with hnext | hnext
      · by_cases hkind : node.kind = "intersection_type"
        · exact .member hkind (by rwa [if_pos hkind] at hnext)
        · rw [if_neg hkind] at hnext
          cases hnext
      · exact .inner (Option.mem_toList.1 hnext)
    · exact .declared hname hnext

theorem mem_offered_iff {unit : SourceUnit} {node : Node} {name : String} :
    name ∈ (unit.offered node).map (·.name) ↔ unit.Offers node name := by
  constructor
  · intro hname
    unfold offered at hname
    split at hname
    · next hkind =>
      obtain ⟨info, hinfo, rfl⟩ := List.mem_map.1 hname
      obtain ⟨signature, hsignature, hread⟩ := List.mem_filterMap.1 hinfo
      obtain ⟨hmember, hproperty⟩ := List.mem_filter.1 hsignature
      obtain ⟨nameNode, hfield, rfl⟩ := Option.map_eq_some_iff.1 hread
      exact .member hkind hmember (beq_iff_eq.1 hproperty) hfield
    · split at hname
      · next hkind =>
        rw [List.map_singleton, List.mem_singleton] at hname
        subst hname
        exact .children hkind
      · cases hname
  · rintro (⟨hkind, hmember, hproperty, hfield⟩ | ⟨hkind⟩)
    · rw [offered, if_pos hkind]
      refine List.mem_map.2 ⟨_, List.mem_filterMap.2 ⟨_, List.mem_filter.2
        ⟨hmember, beq_iff_eq.2 hproperty⟩, Option.map_eq_some_iff.2 ⟨_, hfield, rfl⟩⟩, rfl⟩
    · have hother : ¬node.isOneOf ["object_type", "interface_body"] = true := by
        simp [Node.isOneOf, hkind.1]
      rw [offered, if_neg hother, if_pos hkind]
      exact List.mem_singleton.2 rfl

@[simp]
theorem mergeProperties_nil_left (second : List PropertyInfo) :
    mergeProperties [] second = second := by
  simp [mergeProperties]

@[simp]
theorem mergeProperties_nil_right (first : List PropertyInfo) :
    mergeProperties first [] = first := by
  simp [mergeProperties]

section GatherAll

variable {gather : List String → Node → Except Nesting Gathered}

theorem gatherAll_cons (start : Gathered) (node : Node) (types : List Node) :
    gatherAll gather start (node :: types) = (gather start.2 node >>= fun found =>
      gatherAll gather (mergeProperties start.1 found.1, found.2) types) := by
  rw [gatherAll, List.foldlM_cons]
  simp only [bind_assoc, pure_bind]
  rfl

theorem gatherAll_append (start : Gathered) (first second : List Node) :
    gatherAll gather start (first ++ second) =
      (gatherAll gather start first >>= fun found => gatherAll gather found second) :=
  List.foldlM_append

theorem gatherAll_singleton (visited : List String) (node : Node) :
    gatherAll gather ([], visited) [node] = gather visited node := by
  rw [gatherAll_cons]
  dsimp only
  cases gather visited node with
  | error fault => rfl
  | ok found =>
      show Except.ok (mergeProperties [] found.1, found.2) = Except.ok found
      rw [mergeProperties_nil_left]

theorem gatherNamed_eq (unit : SourceUnit) (visited : List String) (name : String) :
    unit.gatherNamed gather visited name =
      gatherAll gather ([], unit.fresh visited name ++ visited)
        ((unit.fresh visited name).flatMap unit.declaredTypes) := by
  unfold gatherNamed fresh
  cases hdeclaration : unit.typeDeclaration? name with
  | none => rfl
  | some declaration =>
      by_cases hvisited : name ∈ visited
      · simp only [List.contains_iff_mem.2 hvisited, hvisited]
        rfl
      · have hnew : ¬visited.contains name = true := by rwa [List.contains_iff_mem]
        simp only [if_neg hnew, Option.isSome_some, hvisited, not_false_eq_true, and_self, if_true,
          List.flatMap_singleton, List.singleton_append, declaredTypes, hdeclaration, beq_iff_eq]
        by_cases halias : declaration.kind = "type_alias_declaration"
        · rw [if_pos halias, if_pos halias]
          cases declaration.withField? "value" with
          | none => rfl
          | some value => exact (gatherAll_singleton (name :: visited) value).symm
        · rw [if_neg halias, if_neg halias, gatherAll_append]
          cases declaration.withField? "body" with
          | none => rfl
          | some body =>
              rw [Option.toList_some, gatherAll_singleton]

end GatherAll

theorem head?_enclosed {unit : SourceUnit} {node : Node} (hkind : unit.IsPropsWithChildren node) :
    (unit.enclosed node).head? = node.firstTypeArgument? := by
  have hother : ¬node.kind = "parenthesized_type" := by simp [hkind.1]
  rw [enclosed, if_neg hother, if_pos hkind, Node.firstTypeArgument?]
  cases (node.withField? "type_arguments").or (node.namedOfKind? "type_arguments") with
  | none => rfl
  | some arguments => rfl

/-- One step of the search: what a type draws on is searched in order, with its name entered before,
and what it has by itself is added behind. -/
def gatherStep (unit : SourceUnit) (gather : List String → Node → Except Nesting Gathered)
    (visited : List String) (node : Node) : Except Nesting Gathered :=
  (gatherAll gather ([], unit.entered visited node ++ visited)
    (unit.typeParts List.head? node ++ (unit.entered visited node).flatMap unit.declaredTypes)).map
      fun found => (mergeProperties found.1 (unit.offered node), found.2)

section GatherStep

variable {unit : SourceUnit} {gather : List String → Node → Except Nesting Gathered}
  {visited : List String} {node : Node}

theorem map_merge_nil (result : Except Nesting Gathered) :
    (result.map fun found => (mergeProperties found.1 [], found.2)) = result := by
  cases result with
  | error fault => rfl
  | ok found =>
      show Except.ok (mergeProperties found.1 [], found.2) = Except.ok found
      rw [mergeProperties_nil_right]

theorem gatherStep_of_unnamed (hname : unit.typeName? node = none) :
    unit.gatherStep gather visited node =
      (gatherAll gather ([], visited) (unit.typeParts List.head? node)).map
        fun found => (mergeProperties found.1 (unit.offered node), found.2) := by
  have hentered : unit.entered visited node = [] := by simp [entered, hname]
  rw [gatherStep, hentered, List.flatMap_nil, List.append_nil, List.nil_append]

theorem gatherStep_of_named {name : String} (hname : unit.typeName? node = some name) :
    unit.gatherStep gather visited node = unit.gatherNamed gather visited name := by
  have hkind : node.kind = "type_identifier" ∨
      node.kind = "generic_type" ∧ ¬unit.IsPropsWithChildren node := by
    by_contra hother
    rw [not_or] at hother
    rw [typeName?, if_neg hother.1, if_neg hother.2] at hname
    cases hname
  have hparts : unit.typeParts List.head? node = [] := by
    rcases hkind with hkind | ⟨hkind, hchildren⟩
    · simp [typeParts, enclosed, IsPropsWithChildren, hkind]
    · simp [typeParts, enclosed, hkind, hchildren]
  have hoffered : unit.offered node = [] := by
    rcases hkind with hkind | ⟨hkind, hchildren⟩
    · simp [offered, Node.isOneOf, IsPropsWithChildren, hkind]
    · simp [offered, Node.isOneOf, hkind, hchildren]
  have hentered : unit.entered visited node = unit.fresh visited name := by simp [entered, hname]
  rw [gatherStep, hparts, hoffered, hentered, List.nil_append, map_merge_nil, gatherNamed_eq]

theorem gatherStep_of_object (hobject : node.isOneOf ["object_type", "interface_body"] = true) :
    unit.gatherStep gather visited node = .ok (unit.memberProperties node, visited) := by
  have hkind : node.kind = "object_type" ∨ node.kind = "interface_body" := by
    simpa [Node.isOneOf] using hobject
  have hname : unit.typeName? node = none := by
    rcases hkind with hkind | hkind <;> simp [typeName?, hkind]
  have hparts : unit.typeParts List.head? node = [] := by
    rcases hkind with hkind | hkind <;> simp [typeParts, enclosed, IsPropsWithChildren, hkind]
  rw [gatherStep_of_unnamed hname, hparts, offered, if_pos hobject]
  show Except.ok (mergeProperties [] (unit.memberProperties node), visited) = _
  rw [mergeProperties_nil_left]

theorem gatherStep_of_children (hchildren : unit.IsPropsWithChildren node) :
    unit.gatherStep gather visited node =
      (gatherAll gather ([], visited) node.firstTypeArgument?.toList).map
        fun found => (mergeProperties found.1 [impliedChildren], found.2) := by
  have hname : unit.typeName? node = none := by simp [typeName?, hchildren.1, hchildren]
  have hparts : unit.typeParts List.head? node = node.firstTypeArgument?.toList := by
    rw [typeParts, if_neg (by simp [hchildren.1]), head?_enclosed hchildren, List.nil_append]
  have hoffered : unit.offered node = [impliedChildren] := by
    rw [offered, if_neg (by simp [Node.isOneOf, hchildren.1]), if_pos hchildren]
  rw [gatherStep_of_unnamed hname, hparts, hoffered]

end GatherStep

/-- The search goes step by step. -/
theorem gather_succ (unit : SourceUnit) (limit : Nat) (visited : List String) (node : Node) :
    unit.gather (limit + 1) visited node = unit.gatherStep (unit.gather limit) visited node := by
  rw [gather]
  by_cases hobject : node.isOneOf ["object_type", "interface_body"] = true
  · rw [if_pos hobject, gatherStep_of_object hobject]
  rw [if_neg hobject]
  by_cases hidentifier : node.kind = "type_identifier"
  · have hname : unit.typeName? node = some (unit.text node) := by rw [typeName?, if_pos hidentifier]
    rw [if_pos (beq_iff_eq.2 hidentifier), gatherStep_of_named hname]
  rw [if_neg (by simp [hidentifier])]
  by_cases hgeneric : node.kind = "generic_type"
  · rw [if_pos (beq_iff_eq.2 hgeneric)]
    by_cases hchildren : unit.IsPropsWithChildren node
    · rw [gatherStep_of_children hchildren]
      have hlast : lastPart (((node.withField? "name").map unit.text).getD "") =
          "PropsWithChildren" := hchildren.2
      simp only [if_pos hlast]
      cases node.firstTypeArgument? with
      | none => rfl
      | some argument =>
          rw [Option.toList_some, gatherAll_singleton]
          dsimp only
          cases unit.gather limit visited argument with
          | error fault => rfl
          | ok found => rfl
    · have hname : unit.typeName? node = some (unit.genericName node) := by
        rw [typeName?, if_neg hidentifier, if_pos ⟨hgeneric, hchildren⟩]
      have hlast : ¬lastPart (((node.withField? "name").map unit.text).getD "") =
          "PropsWithChildren" := fun hlast => hchildren ⟨hgeneric, hlast⟩
      simp only [if_neg hlast]
      rw [gatherStep_of_named hname, genericName]
  rw [if_neg (by simp [hgeneric])]
  have hname : unit.typeName? node = none := by simp [typeName?, hidentifier, hgeneric]
  have hchildren : ¬unit.IsPropsWithChildren node := fun hchildren => hgeneric hchildren.1
  have hoffered : unit.offered node = [] := by rw [offered, if_neg hobject, if_neg hchildren]
  rw [gatherStep_of_unnamed hname, hoffered, map_merge_nil]
  by_cases hmember : node.kind = "intersection_type"
  · simp [hmember, typeParts, enclosed, hchildren]
  rw [if_neg (by simp [hmember]), typeParts, if_neg hmember, List.nil_append, enclosed]
  by_cases hinner : node.kind = "parenthesized_type"
  · rw [if_pos (beq_iff_eq.2 hinner), if_pos hinner]
    cases node.namedChildren with
    | nil => rfl
    | cons first others => exact (gatherAll_singleton visited first).symm
  · rw [if_neg (by simp [hinner]), if_neg hinner, if_neg hchildren]
    rfl

/-! ### What a search has seen -/

/-- What a search through `types` has done: it started with `start`, came to the end `last`, and has
looked at the types in `seen`. Each name that it met is expanded by the end, and of those that were
not expanded before, all that is declared under them has been looked at. -/
structure Explored (unit : SourceUnit) (start : Gathered) (types : List Node) (last : Gathered)
    (seen : Set Node) : Prop where
  begins : ∀ node ∈ types, node ∈ seen
  reached : ∀ node ∈ seen, ∃ first ∈ types,
    Relation.ReflTransGen (unit.Draws List.head?) first node
  names : ∀ name, name ∈ last.1.map (·.name) ↔
    name ∈ start.1.map (·.name) ∨ ∃ node ∈ seen, unit.Offers node name
  distinct : (start.1.map (·.name)).Nodup →
    (∀ node ∈ seen, ((unit.offered node).map (·.name)).Nodup) → (last.1.map (·.name)).Nodup
  grows : ∀ name ∈ start.2, name ∈ last.2
  parts : ∀ node ∈ seen, ∀ next ∈ unit.typeParts List.head? node, next ∈ seen
  named : ∀ node ∈ seen, ∀ name, unit.typeName? node = some name →
    (unit.typeDeclaration? name).isSome → name ∈ last.2
  expanded : ∀ name ∈ last.2, name ∈ start.2 ∨ ∀ next ∈ unit.declaredTypes name, next ∈ seen

theorem mem_names_merge {first second : List PropertyInfo} {name : String} :
    name ∈ (mergeProperties first second).map (·.name) ↔
      name ∈ first.map (·.name) ∨ name ∈ second.map (·.name) := by
  rw [mergeProperties, List.map_append, List.mem_append]
  constructor
  · rintro (hname | hname)
    · exact .inl hname
    · obtain ⟨info, hinfo, rfl⟩ := List.mem_map.1 hname
      exact .inr (List.mem_map_of_mem (List.mem_of_mem_filter hinfo))
  · rintro (hname | hname)
    · exact .inl hname
    · by_cases hold : name ∈ first.map (·.name)
      · exact .inl hold
      · obtain ⟨info, hinfo, rfl⟩ := List.mem_map.1 hname
        refine .inr (List.mem_map_of_mem (List.mem_filter.2 ⟨hinfo, ?_⟩))
        simpa using hold

theorem nodup_names_merge {first second : List PropertyInfo}
    (hfirst : (first.map (·.name)).Nodup) (hsecond : (second.map (·.name)).Nodup) :
    ((mergeProperties first second).map (·.name)).Nodup := by
  rw [mergeProperties, List.map_append, List.nodup_append']
  refine ⟨hfirst, (List.filter_sublist.map _).nodup hsecond, ?_⟩
  intro name hleft hright
  obtain ⟨info, hinfo, rfl⟩ := List.mem_map.1 hright
  have hnew := (List.mem_filter.1 hinfo).2
  rw [List.contains_iff_mem.2 hleft] at hnew
  cases hnew

namespace Explored

variable {unit : SourceUnit}

theorem nothing (start : Gathered) : unit.Explored start [] start ∅ where
  begins := by simp
  reached := by simp
  names := by simp
  distinct := fun hstart _ => hstart
  grows := fun _ hname => hname
  parts := by simp
  named := by simp
  expanded := fun _ hname => .inl hname

/-- A search through one type, followed by one through the others. -/
theorem followed {start middle last : Gathered} {node : Node} {types : List Node}
    {seen seen' : Set Node}
    (hfirst : unit.Explored ([], start.2) [node] middle seen)
    (hrest : unit.Explored (mergeProperties start.1 middle.1, middle.2) types last seen') :
    unit.Explored start (node :: types) last (seen ∪ seen') where
  begins := by
    rw [List.forall_mem_cons]
    exact ⟨.inl (hfirst.begins node List.mem_cons_self), fun next hnext => .inr (hrest.begins next hnext)⟩
  reached := by
    rintro other (hother | hother)
    · obtain ⟨first, hmem, hpath⟩ := hfirst.reached other hother
      rw [List.mem_singleton] at hmem
      exact ⟨first, hmem ▸ List.mem_cons_self, hpath⟩
    · obtain ⟨first, hmem, hpath⟩ := hrest.reached other hother
      exact ⟨first, List.mem_cons_of_mem node hmem, hpath⟩
  names := by
    intro name
    rw [hrest.names, mem_names_merge, hfirst.names]
    simp only [List.map_nil, List.not_mem_nil, false_or, Set.mem_union]
    constructor
    · rintro ((hname | ⟨other, hother, hname⟩) | ⟨other, hother, hname⟩)
      · exact .inl hname
      · exact .inr ⟨other, .inl hother, hname⟩
      · exact .inr ⟨other, .inr hother, hname⟩
    · rintro (hname | ⟨other, hother | hother, hname⟩)
      · exact .inl (.inl hname)
      · exact .inl (.inr ⟨other, hother, hname⟩)
      · exact .inr ⟨other, hother, hname⟩
  distinct := by
    intro hstart hoffered
    have hmiddle := hfirst.distinct List.nodup_nil fun other hother => hoffered other (.inl hother)
    exact hrest.distinct (nodup_names_merge hstart hmiddle) fun other hother =>
      hoffered other (.inr hother)
  grows := fun name hname => hrest.grows name (hfirst.grows name hname)
  parts := by
    rintro other (hother | hother) next hnext
    · exact .inl (hfirst.parts other hother next hnext)
    · exact .inr (hrest.parts other hother next hnext)
  named := by
    rintro other (hother | hother) name hname hdeclared
    · exact hrest.grows name (hfirst.named other hother name hname hdeclared)
    · exact hrest.named other hother name hname hdeclared
  expanded := by
    intro name hname
    rcases hrest.expanded name hname with hname | hseen
    · rcases hfirst.expanded name hname with hname | hseen
      · exact .inl hname
      · exact .inr fun next hnext => .inl (hseen next hnext)
    · exact .inr fun next hnext => .inr (hseen next hnext)

/-- A search through what a type draws on, followed by what the type has itself. -/
theorem entered {visited : List String} {node : Node} {last : Gathered} {seen : Set Node}
    (hinner : unit.Explored ([], unit.entered visited node ++ visited)
      (unit.typeParts List.head? node ++ (unit.entered visited node).flatMap unit.declaredTypes)
      last seen) :
    unit.Explored ([], visited) [node] (mergeProperties last.1 (unit.offered node), last.2)
      (insert node seen) where
  begins := by simp
  reached := by
    rintro other (rfl | hother)
    · exact ⟨other, List.mem_cons_self, .refl⟩
    · obtain ⟨first, hfirst, hpath⟩ := hinner.reached other hother
      refine ⟨node, List.mem_cons_self, .head (draws_iff.2 ?_) hpath⟩
      rcases List.mem_append.1 hfirst with hfirst | hfirst
      · exact .inl hfirst
      · obtain ⟨name, hname, hfirst⟩ := List.mem_flatMap.1 hfirst
        exact .inr ⟨name, (mem_entered_iff.1 hname).1, hfirst⟩
  names := by
    intro name
    rw [mem_names_merge, hinner.names, mem_offered_iff]
    simp [or_comm]
  distinct := by
    intro _ hoffered
    apply nodup_names_merge
    · exact hinner.distinct List.nodup_nil fun other hother => hoffered other (.inr hother)
    · exact hoffered node (.inl rfl)
  grows := fun name hname => hinner.grows name (List.mem_append_right _ hname)
  parts := by
    rintro other (rfl | hother) next hnext
    · exact .inr (hinner.begins next (List.mem_append_left _ hnext))
    · exact .inr (hinner.parts other hother next hnext)
  named := by
    rintro other (rfl | hother) name hname hdeclared
    · apply hinner.grows
      by_cases hold : name ∈ visited
      · exact List.mem_append_right _ hold
      · exact List.mem_append_left _ (mem_entered_iff.2 ⟨hname, hdeclared, hold⟩)
    · exact hinner.named other hother name hname hdeclared
  expanded := by
    intro name hname
    rcases hinner.expanded name hname with hname | hseen
    · rcases List.mem_append.1 hname with hnew | hold
      · right
        intro next hnext
        exact .inr (hinner.begins next
          (List.mem_append_right _ (List.mem_flatMap.2 ⟨name, hnew, hnext⟩)))
      · exact .inl hold
    · exact .inr fun next hnext => .inr (hseen next hnext)

/-- A search that starts with no name expanded has seen all that is drawn on, and nothing else. -/
theorem mem_seen_iff {node other : Node} {last : Gathered} {seen : Set Node}
    (hexplored : unit.Explored ([], []) [node] last seen) :
    other ∈ seen ↔ Relation.ReflTransGen (unit.Draws List.head?) node other := by
  constructor
  · intro hother
    obtain ⟨first, hfirst, hpath⟩ := hexplored.reached other hother
    rw [List.mem_singleton] at hfirst
    exact hfirst ▸ hpath
  · intro hpath
    induction hpath with
    | refl => exact hexplored.begins node List.mem_cons_self
    | tail _ hdraws ih =>
        rcases draws_iff.1 hdraws with hpart | ⟨name, hname, hnext⟩
        · exact hexplored.parts _ ih _ hpart
        · have hdeclared : (unit.typeDeclaration? name).isSome := by
            cases hdeclaration : unit.typeDeclaration? name with
            | none => simp [declaredTypes, hdeclaration] at hnext
            | some declaration => rfl
          rcases hexplored.expanded name (hexplored.named _ ih name hname hdeclared) with hold | hseen
          · cases hold
          · exact hseen _ hnext

end Explored

theorem gatherAll_explored {unit : SourceUnit}
    {gather : List String → Node → Except Nesting Gathered}
    (hgather : ∀ visited node last, gather visited node = .ok last →
      ∃ seen, unit.Explored ([], visited) [node] last seen)
    {start last : Gathered} {types : List Node} (hall : gatherAll gather start types = .ok last) :
    ∃ seen, unit.Explored start types last seen := by
  induction types generalizing start with
  | nil =>
      cases hall
      exact ⟨∅, .nothing last⟩
  | cons node types ih =>
      rw [gatherAll_cons] at hall
      obtain ⟨middle, hfirst, hrest⟩ := bind_eq_ok_iff.1 hall
      obtain ⟨seen, hseen⟩ := hgather start.2 node middle hfirst
      obtain ⟨seen', hseen'⟩ := ih hrest
      exact ⟨seen ∪ seen', hseen.followed hseen'⟩

theorem gather_explored {unit : SourceUnit} {limit : Nat} {visited : List String} {node : Node}
    {last : Gathered} (hgather : unit.gather limit visited node = .ok last) :
    ∃ seen, unit.Explored ([], visited) [node] last seen := by
  induction limit generalizing visited node last with
  | zero => cases hgather
  | succ limit ih =>
      rw [gather_succ, gatherStep, map_eq_ok_iff] at hgather
      obtain ⟨found, hfound, rfl⟩ := hgather
      obtain ⟨seen, hseen⟩ := gatherAll_explored (fun _ _ _ hnext => ih hnext) hfound
      exact ⟨insert node seen, hseen.entered⟩

/-! ### How deep a search goes -/

/-- The names that types are declared under. -/
def declaredNames (unit : SourceUnit) : List String :=
  (unit.root.nodes.filter (·.isOneOf ["interface_declaration", "type_alias_declaration"])).filterMap
    fun node => (node.withField? "name").map unit.text

/-- A search goes no deeper than this: below each of the declared names that are left, through a
declaration, and in the end through the type itself. -/
def depthFrom (unit : SourceUnit) (visited : List String) (node : Node) : Nat :=
  node.size + (unit.declaredNames.filter (· ∉ visited)).length * unit.root.size

theorem gatherAll_mono {gather gather' : List String → Node → Except Nesting Gathered}
    (hgather : ∀ visited node last, gather visited node = .ok last →
      gather' visited node = .ok last)
    {start last : Gathered} {types : List Node} (hall : gatherAll gather start types = .ok last) :
    gatherAll gather' start types = .ok last := by
  induction types generalizing start with
  | nil => exact hall
  | cons node types ih =>
      rw [gatherAll_cons, bind_eq_ok_iff] at hall ⊢
      obtain ⟨middle, hfirst, hrest⟩ := hall
      exact ⟨middle, hgather start.2 node middle hfirst, ih hrest⟩

theorem gather_mono {unit : SourceUnit} {limit limit' : Nat} {visited : List String} {node : Node}
    {last : Gathered} (hle : limit ≤ limit') (hgather : unit.gather limit visited node = .ok last) :
    unit.gather limit' visited node = .ok last := by
  induction limit generalizing limit' visited node last with
  | zero => cases hgather
  | succ limit ih =>
      obtain ⟨larger, rfl⟩ : ∃ larger, limit' = larger + 1 := ⟨limit' - 1, by omega⟩
      rw [gather_succ, gatherStep, map_eq_ok_iff] at hgather ⊢
      obtain ⟨found, hfound, hlast⟩ := hgather
      have hinner : ∀ visited node last, unit.gather limit visited node = .ok last →
          unit.gather larger visited node = .ok last :=
        fun _ _ _ hnext => ih (by omega) hnext
      exact ⟨found, gatherAll_mono hinner hfound, hlast⟩

section Depth

variable {unit : SourceUnit} {visited : List String} {node next : Node} {name : String}

theorem below_of_mem_namedChildren (hnext : next ∈ node.namedChildren) : node.Below next :=
  ⟨node, node.self_mem_nodes, List.mem_of_mem_filter hnext⟩

theorem below_of_withField? {field : String} (hnext : node.withField? field = some next) :
    node.Below next :=
  ⟨node, node.self_mem_nodes, List.mem_of_find?_eq_some hnext⟩

theorem below_of_mem_enclosed (hnext : next ∈ unit.enclosed node) : node.Below next := by
  unfold enclosed at hnext
  split at hnext
  · exact below_of_mem_namedChildren hnext
  · split at hnext
    · cases harguments : (node.withField? "type_arguments").or
          (node.namedOfKind? "type_arguments") with
      | none => simp [harguments] at hnext
      | some arguments =>
          rw [harguments, Option.map_some, Option.getD_some] at hnext
          refine ⟨arguments, ?_, List.mem_of_mem_filter hnext⟩
          rcases Option.or_eq_some_iff.1 harguments with hfield | ⟨-, hkind⟩
          · exact Node.withField?_mem_nodes node.self_mem_nodes hfield
          · exact Node.namedOfKind?_mem_nodes node.self_mem_nodes hkind
    · cases hnext

theorem below_of_mem_typeParts (hnext : next ∈ unit.typeParts List.head? node) :
    node.Below next := by
  rcases List.mem_append.1 hnext with hmember | hinner
  · split at hmember
    · exact below_of_mem_namedChildren hmember
    · cases hmember
  · exact below_of_mem_enclosed (List.mem_of_mem_head? (Option.mem_toList.1 hinner))

theorem below_of_mem_declaredTypes (hnext : next ∈ unit.declaredTypes name) :
    unit.root.Below next := by
  unfold declaredTypes at hnext
  cases hdeclaration : unit.typeDeclaration? name with
  | none => simp [hdeclaration] at hnext
  | some declaration =>
      have hinside := List.mem_of_find?_eq_some hdeclaration
      simp only [hdeclaration] at hnext
      split at hnext
      · exact (below_of_withField? (Option.mem_toList.1 hnext)).of_mem_nodes hinside
      · rcases List.mem_append.1 hnext with hbody | hbase
        · exact (below_of_withField? (Option.mem_toList.1 hbody)).of_mem_nodes hinside
        · obtain ⟨clause, hclause, hbase⟩ := List.mem_flatMap.1 hbase
          refine ⟨clause, ?_, List.mem_of_mem_filter hbase⟩
          exact Node.child_mem_nodes hinside
            (List.mem_of_mem_filter (List.mem_of_mem_filter hclause))

theorem mem_declaredNames (hdeclared : (unit.typeDeclaration? name).isSome) :
    name ∈ unit.declaredNames := by
  obtain ⟨declaration, hdeclaration⟩ := Option.isSome_iff_exists.1 hdeclared
  have hmem := List.mem_of_find?_eq_some hdeclaration
  have hnamed := List.find?_some hdeclaration
  rw [Bool.and_eq_true, beq_iff_eq] at hnamed
  exact List.mem_filterMap.2 ⟨declaration, List.mem_filter.2 ⟨hmem, hnamed.1⟩, hnamed.2⟩

theorem depthFrom_anti (node : Node) {visited' : List String}
    (hsubset : ∀ name ∈ visited, name ∈ visited') :
    unit.depthFrom visited' node ≤ unit.depthFrom visited node := by
  apply Nat.add_le_add_left
  apply Nat.mul_le_mul_right
  apply List.Sublist.length_le
  apply List.monotone_filter_right
  intro name hname
  simp only [decide_eq_true_eq] at hname ⊢
  exact fun hold => hname (hsubset name hold)

/-- What is declared under a name that is being expanded is searched with a name less to go. -/
theorem depthFrom_declared_lt (hname : name ∈ unit.entered visited node)
    (hnext : next ∈ unit.declaredTypes name) :
    unit.depthFrom (unit.entered visited node ++ visited) next < unit.depthFrom visited node := by
  obtain ⟨-, hdeclared, hnew⟩ := mem_entered_iff.1 hname
  have hfewer : (unit.declaredNames.filter (· ∉ unit.entered visited node ++ visited)).length <
      (unit.declaredNames.filter (· ∉ visited)).length := by
    have hsublist : (unit.declaredNames.filter (· ∉ unit.entered visited node ++ visited)).Sublist
        (unit.declaredNames.filter (· ∉ visited)) := by
      apply List.monotone_filter_right
      intro other hother
      simp only [List.mem_append, not_or, decide_eq_true_eq] at hother ⊢
      exact hother.2
    by_contra hge
    have hsame := hsublist.eq_of_length_le (Nat.le_of_not_lt hge)
    have hmem : name ∈ unit.declaredNames.filter (· ∉ visited) :=
      List.mem_filter.2 ⟨mem_declaredNames hdeclared, by simpa using hnew⟩
    rw [← hsame, List.mem_filter] at hmem
    simp [hname] at hmem
  have hsize := (below_of_mem_declaredTypes hnext).size_lt
  have hpos : 0 < node.size := by rw [Node.weighs_size node]; omega
  have hmul := Nat.mul_le_mul_right unit.root.size hfewer
  rw [Nat.succ_mul] at hmul
  unfold depthFrom
  omega

theorem exists_gatherAll_eq_ok {gather : List String → Node → Except Nesting Gathered}
    {start : Gathered} {types : List Node}
    (hgather : ∀ visited, (∀ name ∈ start.2, name ∈ visited) → ∀ node ∈ types,
      ∃ last, gather visited node = .ok last ∧ ∀ name ∈ visited, name ∈ last.2) :
    ∃ last, gatherAll gather start types = .ok last := by
  induction types generalizing start with
  | nil => exact ⟨start, rfl⟩
  | cons node types ih =>
      obtain ⟨middle, hmiddle, hgrows⟩ :=
        hgather start.2 (fun _ hname => hname) node List.mem_cons_self
      have hrest : ∃ last, gatherAll gather (mergeProperties start.1 middle.1, middle.2) types =
          .ok last := by
        apply ih
        intro visited hvisited next hnext
        exact hgather visited (fun name hname => hvisited name (hgrows name hname)) next
          (List.mem_cons_of_mem node hnext)
      rw [gatherAll_cons, hmiddle]
      exact hrest

/-- **The search ends.** -/
theorem exists_gather_eq_ok {limit : Nat} (hlimit : unit.depthFrom visited node ≤ limit) :
    ∃ last, unit.gather limit visited node = .ok last := by
  induction limit generalizing visited node with
  | zero =>
      rw [depthFrom, Node.weighs_size node] at hlimit
      omega
  | succ limit ih =>
      have hnear : ∀ next ∈ unit.typeParts List.head? node ++
          (unit.entered visited node).flatMap unit.declaredTypes,
          unit.depthFrom (unit.entered visited node ++ visited) next ≤ limit := by
        intro next hnext
        rcases List.mem_append.1 hnext with hpart | hdeclared
        · have hsize := (below_of_mem_typeParts hpart).size_lt
          have hless : unit.depthFrom (unit.entered visited node ++ visited) next ≤
              unit.depthFrom visited next :=
            depthFrom_anti next fun name hname => List.mem_append_right _ hname
          unfold depthFrom at hlimit hless ⊢
          omega
        · obtain ⟨name, hname, hnext⟩ := List.mem_flatMap.1 hdeclared
          have hless := depthFrom_declared_lt hname hnext
          omega
      have hall : ∃ found, gatherAll (unit.gather limit) ([], unit.entered visited node ++ visited)
          (unit.typeParts List.head? node ++
            (unit.entered visited node).flatMap unit.declaredTypes) = .ok found := by
        apply exists_gatherAll_eq_ok
        intro names hnames next hnext
        obtain ⟨last, hlast⟩ := ih ((depthFrom_anti next hnames).trans (hnear next hnext))
        obtain ⟨seen, hseen⟩ := gather_explored hlast
        exact ⟨last, hlast, hseen.grows⟩
      obtain ⟨found, hfound⟩ := hall
      rw [gather_succ, gatherStep, hfound]
      exact ⟨_, rfl⟩

end Depth

/-! ### What the closure is meant to be -/

/-- The first type of several, which is not a comment. -/
def firstType (types : List Node) : Option Node :=
  types.find? (·.kind != "comment")

/-- A comment stands in front of what a type encloses. -/
def OpensWithComment (unit : SourceUnit) (node : Node) : Prop :=
  ∃ first, (unit.enclosed node).head? = some first ∧ first.kind = "comment"

instance (unit : SourceUnit) (node : Node) : Decidable (unit.OpensWithComment node) :=
  inferInstanceAs (Decidable (∃ first, first ∈ (unit.enclosed node).head? ∧ first.kind = "comment"))

/-- `PropsWithChildren` without an argument. -/
def IsBareChildren (unit : SourceUnit) (node : Node) : Prop :=
  node.isOneOf ["type_identifier", "nested_type_identifier"] = true ∧
    lastPart (unit.text node) = "PropsWithChildren"

instance (unit : SourceUnit) (node : Node) : Decidable (unit.IsBareChildren node) :=
  inferInstanceAs (Decidable (_ ∧ _))

/-- The names of a props type by its meaning, where comments do not count and `PropsWithChildren`
may lack an argument. -/
def Means (unit : SourceUnit) (shape : Shape) (name : String) : Prop :=
  ∃ node, unit.Reached firstType shape node ∧
    (unit.Offers node name ∨ name = childrenName ∧ unit.IsBareChildren node)

section Meaning

variable {unit : SourceUnit} {shape : Shape}

theorem firstType_eq_head? {node : Node} (hplain : ¬unit.OpensWithComment node) :
    firstType (unit.enclosed node) = (unit.enclosed node).head? := by
  unfold OpensWithComment at hplain
  unfold firstType
  cases henclosed : unit.enclosed node with
  | nil => rfl
  | cons first others =>
      apply List.find?_cons_of_pos
      rw [bne_iff_ne]
      exact fun hcomment => hplain ⟨first, by rw [henclosed]; rfl, hcomment⟩

theorem draws_congr {first second : List Node → Option Node} {node next : Node}
    (hsame : first (unit.enclosed node) = second (unit.enclosed node)) :
    unit.Draws first node next ↔ unit.Draws second node next := by
  rw [draws_iff, draws_iff, typeParts, typeParts, hsame]

/-- Without comments in the way, what is searched is what is meant. -/
theorem reached_firstType_iff
    (hplain : ∀ node, unit.Reached List.head? shape node → ¬unit.OpensWithComment node)
    {node : Node} : unit.Reached firstType shape node ↔ unit.Reached List.head? shape node := by
  constructor
  · rintro ⟨start, hstart, hpath⟩
    refine ⟨start, hstart, ?_⟩
    induction hpath with
    | refl => exact .refl
    | tail _ hdraws ih =>
        have hsame := firstType_eq_head? (hplain _ ⟨start, hstart, ih⟩)
        exact ih.tail ((draws_congr hsame).1 hdraws)
  · rintro ⟨start, hstart, hpath⟩
    refine ⟨start, hstart, ?_⟩
    induction hpath with
    | refl => exact .refl
    | tail hprevious hdraws ih =>
        have hsame := firstType_eq_head? (hplain _ ⟨start, hstart, hprevious⟩)
        exact ih.tail ((draws_congr hsame).2 hdraws)

/-- A search stays in the tree, apart from where it starts. -/
theorem Reached.mem_nodes {start node : Node} (hstart : shape.propsType = some start)
    (hreached : unit.Reached List.head? shape node) :
    node ∈ start.nodes ∨ node ∈ unit.root.nodes := by
  obtain ⟨other, hother, hpath⟩ := hreached
  cases hstart.symm.trans hother
  induction hpath with
  | refl => exact .inl start.self_mem_nodes
  | tail _ hdraws ih =>
      rcases draws_iff.1 hdraws with hpart | ⟨name, -, hdeclared⟩
      · have hbelow := below_of_mem_typeParts hpart
        exact ih.imp (fun hnode => (hbelow.of_mem_nodes hnode).mem_nodes)
          (fun hnode => (hbelow.of_mem_nodes hnode).mem_nodes)
      · exact .inr (below_of_mem_declaredTypes hdeclared).mem_nodes

end Meaning

/-- The properties of a component as a search of the given depth finds them. -/
def propertiesWithin (unit : SourceUnit) (limit : Nat) (shape : Shape) :
    Except Nesting (List PropertyInfo) :=
  match shape.propsType with
  | none => .ok []
  | some node => (unit.gather limit [] node).map Prod.fst

theorem properties_eq_within (unit : SourceUnit) (shape : Shape) :
    unit.properties shape = unit.propertiesWithin nestingLimit shape := rfl

def propsDepth (unit : SourceUnit) (shape : Shape) : Nat :=
  (shape.propsType.map (unit.depthFrom [])).getD 0

section Within

variable {unit : SourceUnit} {shape : Shape} {limit : Nat} {infos : List PropertyInfo}

theorem exists_within_eq_ok (hlimit : unit.propsDepth shape ≤ limit) :
    ∃ infos, unit.propertiesWithin limit shape = .ok infos := by
  unfold propsDepth at hlimit
  unfold propertiesWithin
  cases hprops : shape.propsType with
  | none => exact ⟨[], rfl⟩
  | some node =>
      rw [hprops] at hlimit
      obtain ⟨last, hlast⟩ := exists_gather_eq_ok hlimit
      exact ⟨last.1, map_eq_ok_iff.2 ⟨last, hlast, rfl⟩⟩

theorem within_mono {limit' : Nat} (hle : limit ≤ limit')
    (hwithin : unit.propertiesWithin limit shape = .ok infos) :
    unit.propertiesWithin limit' shape = .ok infos := by
  unfold propertiesWithin at hwithin ⊢
  cases hprops : shape.propsType with
  | none => simpa [hprops] using hwithin
  | some node =>
      simp only [hprops, map_eq_ok_iff] at hwithin ⊢
      obtain ⟨last, hlast, hinfos⟩ := hwithin
      exact ⟨last, gather_mono hle hlast, hinfos⟩

/-- A search that succeeds has found nothing for want of a props type, or it has seen all types
that the props type draws on. -/
theorem seen_of_within (hwithin : unit.propertiesWithin limit shape = .ok infos) :
    (shape.propsType = none ∧ infos = []) ∨
      ∃ start last seen, shape.propsType = some start ∧ last.1 = infos ∧
        unit.Explored ([], []) [start] last seen := by
  unfold propertiesWithin at hwithin
  cases hprops : shape.propsType with
  | none =>
      simp only [hprops, Except.ok.injEq] at hwithin
      exact .inl ⟨rfl, hwithin.symm⟩
  | some start =>
      simp only [hprops, map_eq_ok_iff] at hwithin
      obtain ⟨last, hlast, hinfos⟩ := hwithin
      obtain ⟨seen, hseen⟩ := gather_explored hlast
      exact .inr ⟨start, last, seen, rfl, hinfos, hseen⟩

theorem reached_iff {start node : Node} (hstart : shape.propsType = some start) :
    unit.Reached List.head? shape node ↔
      Relation.ReflTransGen (unit.Draws List.head?) start node := by
  constructor
  · rintro ⟨other, hother, hpath⟩
    rw [hstart] at hother
    exact Option.some.inj hother ▸ hpath
  · exact fun hpath => ⟨start, hstart, hpath⟩

theorem mem_within_iff (hwithin : unit.propertiesWithin limit shape = .ok infos) {name : String} :
    name ∈ infos.map (·.name) ↔
      ∃ node, unit.Reached List.head? shape node ∧ unit.Offers node name := by
  rcases seen_of_within hwithin with ⟨hprops, rfl⟩ | ⟨start, last, seen, hprops, rfl, hseen⟩
  · constructor
    · intro hname
      cases hname
    · rintro ⟨node, ⟨start, hstart, -⟩, -⟩
      rw [hprops] at hstart
      cases hstart
  · rw [hseen.names]
    simp only [List.map_nil, List.not_mem_nil, false_or, hseen.mem_seen_iff, reached_iff hprops]

theorem nodup_within (hwithin : unit.propertiesWithin limit shape = .ok infos)
    (hmembers : ∀ node, unit.Reached List.head? shape node →
      node.isOneOf ["object_type", "interface_body"] = true →
        ((unit.memberProperties node).map (·.name)).Nodup) :
    (infos.map (·.name)).Nodup := by
  rcases seen_of_within hwithin with ⟨-, rfl⟩ | ⟨start, last, seen, hprops, rfl, hseen⟩
  · exact List.nodup_nil
  · apply hseen.distinct List.nodup_nil
    intro node hnode
    unfold offered
    split
    · next hobject =>
      exact hmembers node ((reached_iff hprops).2 (hseen.mem_seen_iff.1 hnode)) hobject
    · split
      · exact List.nodup_singleton _
      · exact List.nodup_nil

end Within

/-- **Properties are the closure of the props type under what is searched.** With enough depth the
search succeeds, and it finds the names that the types offer which the props type draws on, where of
what a type encloses the first node is taken, be it a comment. So it finds the names that are meant
unless a comment or a bare `PropsWithChildren` is in the way, and no name twice unless an object
type has it twice. -/
theorem properties_closure (unit : SourceUnit) (shape : Shape) :
    ∃ infos,
      (∀ limit, unit.propsDepth shape ≤ limit → unit.propertiesWithin limit shape = .ok infos) ∧
      (unit.properties shape = .ok infos ∨ unit.properties shape = .error .tooDeep) ∧
      (∀ name, name ∈ infos.map (·.name) ↔
        ∃ node, unit.Reached List.head? shape node ∧ unit.Offers node name) ∧
      ((∀ node, unit.Reached List.head? shape node →
          ¬unit.OpensWithComment node ∧ ¬unit.IsBareChildren node) →
        ∀ name, name ∈ infos.map (·.name) ↔ unit.Means shape name) ∧
      ((∀ node, unit.Reached List.head? shape node →
          node.isOneOf ["object_type", "interface_body"] = true →
            ((unit.memberProperties node).map (·.name)).Nodup) →
        (infos.map (·.name)).Nodup) := by
  obtain ⟨infos, hinfos⟩ := unit.exists_within_eq_ok (Nat.le_refl (unit.propsDepth shape))
  refine ⟨infos, fun limit hlimit => within_mono hlimit hinfos, ?_, fun name => mem_within_iff hinfos,
    ?_, nodup_within hinfos⟩
  · rw [properties_eq_within]
    cases hproperties : unit.propertiesWithin nestingLimit shape with
    | error fault => exact .inr rfl
    | ok found =>
        left
        rcases Nat.le_total nestingLimit (unit.propsDepth shape) with hle | hle
        · rw [← within_mono hle hproperties, hinfos]
        · rw [← hproperties, within_mono hle hinfos]
  · intro hplain name
    rw [mem_within_iff hinfos]
    have hreached : ∀ node, unit.Reached firstType shape node ↔ unit.Reached List.head? shape node :=
      fun node => reached_firstType_iff fun other hother => (hplain other hother).1
    constructor
    · rintro ⟨node, hnode, hoffers⟩
      exact ⟨node, (hreached node).2 hnode, .inl hoffers⟩
    · rintro ⟨node, hnode, hoffers | ⟨-, hbare⟩⟩
      · exact ⟨node, (hreached node).1 hnode, hoffers⟩
      · exact absurd hbare (hplain node ((hreached node).1 hnode)).2

end SourceUnit

/-- The shapes of all definitions in the source. -/
def SourceUnit.foundShapes (unit : SourceUnit) : List Shape :=
  unit.root.nodes.filterMap fun node => (unit.shape? node).toOption.join

/-- `A` and `B` extend each other, and `A` comes to `B` once more by way of `C`. -/
def loopedUnit : SourceUnit where
  path := "looped.tsx"
  source := ⟨["interface A extends B,C\x7ba:T\x7d\ninterface B extends A\x7bb:T\x7d\n",
    "interface C extends B\x7bc:T\x7d\nfunction F(p:(A)&\x7bd:T\x7d)\x7b\x7d\n"].flatMap
      String.toList⟩
  renderableTypes := []
  root := (Node.ofRows?
    [⟨none, "program", 0, 109, none, true⟩,
      ⟨some 0, "interface_declaration", 0, 28, none, true⟩,
      ⟨some 1, "type_identifier", 10, 11, some "name", true⟩,
      ⟨some 1, "extends_type_clause", 12, 23, none, true⟩,
      ⟨some 3, "type_identifier", 20, 21, some "type", true⟩,
      ⟨some 3, "type_identifier", 22, 23, none, true⟩,
      ⟨some 1, "interface_body", 23, 28, some "body", true⟩,
      ⟨some 6, "property_signature", 24, 27, none, true⟩,
      ⟨some 7, "property_identifier", 24, 25, some "name", true⟩,
      ⟨some 7, "type_annotation", 25, 27, some "type", true⟩,
      ⟨some 9, "type_identifier", 26, 27, none, true⟩,
      ⟨some 0, "interface_declaration", 29, 55, none, true⟩,
      ⟨some 11, "type_identifier", 39, 40, some "name", true⟩,
      ⟨some 11, "extends_type_clause", 41, 50, none, true⟩,
      ⟨some 13, "type_identifier", 49, 50, some "type", true⟩,
      ⟨some 11, "interface_body", 50, 55, some "body", true⟩,
      ⟨some 15, "property_signature", 51, 54, none, true⟩,
      ⟨some 16, "property_identifier", 51, 52, some "name", true⟩,
      ⟨some 16, "type_annotation", 52, 54, some "type", true⟩,
      ⟨some 18, "type_identifier", 53, 54, none, true⟩,
      ⟨some 0, "interface_declaration", 56, 82, none, true⟩,
      ⟨some 20, "type_identifier", 66, 67, some "name", true⟩,
      ⟨some 20, "extends_type_clause", 68, 77, none, true⟩,
      ⟨some 22, "type_identifier", 76, 77, some "type", true⟩,
      ⟨some 20, "interface_body", 77, 82, some "body", true⟩,
      ⟨some 24, "property_signature", 78, 81, none, true⟩,
      ⟨some 25, "property_identifier", 78, 79, some "name", true⟩,
      ⟨some 25, "type_annotation", 79, 81, some "type", true⟩,
      ⟨some 27, "type_identifier", 80, 81, none, true⟩,
      ⟨some 0, "function_declaration", 83, 108, none, true⟩,
      ⟨some 29, "identifier", 92, 93, some "name", true⟩,
      ⟨some 29, "formal_parameters", 93, 106, some "parameters", true⟩,
      ⟨some 31, "required_parameter", 94, 105, none, true⟩,
      ⟨some 32, "identifier", 94, 95, some "pattern", true⟩,
      ⟨some 32, "type_annotation", 95, 105, some "type", true⟩,
      ⟨some 34, "intersection_type", 96, 105, none, true⟩,
      ⟨some 35, "parenthesized_type", 96, 99, none, true⟩,
      ⟨some 36, "type_identifier", 97, 98, none, true⟩,
      ⟨some 35, "object_type", 100, 105, none, true⟩,
      ⟨some 38, "property_signature", 101, 104, none, true⟩,
      ⟨some 39, "property_identifier", 101, 102, some "name", true⟩,
      ⟨some 39, "type_annotation", 102, 104, some "type", true⟩,
      ⟨some 41, "type_identifier", 103, 104, none, true⟩,
      ⟨some 29, "statement_block", 106, 108, some "body", true⟩]).getD default

/-- No name gets lost in the circle. -/
theorem looped_names_found :
    ∃ shape ∈ loopedUnit.foundShapes, ∃ infos, loopedUnit.properties shape = .ok infos ∧
      infos.map (·.name) = ["a", "b", "c", "d"] ∧
      (∀ name, name ∈ infos.map (·.name) ↔ loopedUnit.Means shape name) ∧
      (infos.map (·.name)).Nodup := by
  have hfacts : ∃ shape ∈ loopedUnit.foundShapes,
      (loopedUnit.properties shape).toOption.map (·.map (·.name)) = some ["a", "b", "c", "d"] ∧
      ∃ start ∈ shape.propsType, ∀ node ∈ start.nodes ++ loopedUnit.root.nodes,
        (¬loopedUnit.OpensWithComment node ∧ ¬loopedUnit.IsBareChildren node) ∧
        (node.isOneOf ["object_type", "interface_body"] = true →
          ((loopedUnit.memberProperties node).map (·.name)).Nodup) := by
    decide +kernel
  obtain ⟨shape, hshape, hnames, start, hstart, hnodes⟩ := hfacts
  have hreached : ∀ node, loopedUnit.Reached List.head? shape node →
      node ∈ start.nodes ++ loopedUnit.root.nodes :=
    fun node hnode => List.mem_append.2 (hnode.mem_nodes hstart)
  obtain ⟨infos, -, hfound | hdeep, -, hmeans, hdistinct⟩ :=
    SourceUnit.properties_closure loopedUnit shape
  · rw [hfound] at hnames
    exact ⟨shape, hshape, infos, hfound, Option.some.inj hnames,
      hmeans fun node hnode => (hnodes node (hreached node hnode)).1,
      hdistinct fun node hnode => (hnodes node (hreached node hnode)).2⟩
  · rw [hdeep] at hnames
    cases hnames

/-- `A` has a comment in front of the argument of its `PropsWithChildren`, and `B` has no argument
there. -/
def notedUnit : SourceUnit where
  path := "noted.tsx"
  source := ⟨["function A(p:PropsWithChildren</**/\x7ba:T\x7d>)\x7b\x7d\n",
    "function B(p:PropsWithChildren)\x7b\x7d"].flatMap String.toList⟩
  renderableTypes := []
  root := (Node.ofRows?
    [⟨none, "program", 0, 78, none, true⟩,
      ⟨some 0, "function_declaration", 0, 44, none, true⟩,
      ⟨some 1, "identifier", 9, 10, some "name", true⟩,
      ⟨some 1, "formal_parameters", 10, 42, some "parameters", true⟩,
      ⟨some 3, "required_parameter", 11, 41, none, true⟩,
      ⟨some 4, "identifier", 11, 12, some "pattern", true⟩,
      ⟨some 4, "type_annotation", 12, 41, some "type", true⟩,
      ⟨some 6, "generic_type", 13, 41, none, true⟩,
      ⟨some 7, "type_identifier", 13, 30, some "name", true⟩,
      ⟨some 7, "type_arguments", 30, 41, some "type_arguments", true⟩,
      ⟨some 9, "comment", 31, 35, none, true⟩,
      ⟨some 9, "object_type", 35, 40, none, true⟩,
      ⟨some 11, "property_signature", 36, 39, none, true⟩,
      ⟨some 12, "property_identifier", 36, 37, some "name", true⟩,
      ⟨some 12, "type_annotation", 37, 39, some "type", true⟩,
      ⟨some 14, "type_identifier", 38, 39, none, true⟩,
      ⟨some 1, "statement_block", 42, 44, some "body", true⟩,
      ⟨some 0, "function_declaration", 45, 78, none, true⟩,
      ⟨some 17, "identifier", 54, 55, some "name", true⟩,
      ⟨some 17, "formal_parameters", 55, 76, some "parameters", true⟩,
      ⟨some 19, "required_parameter", 56, 75, none, true⟩,
      ⟨some 20, "identifier", 56, 57, some "pattern", true⟩,
      ⟨some 20, "type_annotation", 57, 75, some "type", true⟩,
      ⟨some 22, "type_identifier", 58, 75, none, true⟩,
      ⟨some 17, "statement_block", 76, 78, some "body", true⟩]).getD default

/-- The search misses `a` behind the comment, and the children of a bare `PropsWithChildren`. -/
theorem noted_names_missed :
    ∃ first second, notedUnit.foundShapes = [first, second] ∧
      (notedUnit.properties first).toOption.map (·.map (·.name)) = some ["children"] ∧
      notedUnit.Means first "a" ∧
      (notedUnit.properties second).toOption.map (·.map (·.name)) = some [] ∧
      notedUnit.Means second "children" := by
  have hfacts : notedUnit.foundShapes.map (fun shape =>
      ((notedUnit.properties shape).toOption.map (·.map (·.name)),
        shape.propsType.any fun start =>
          (SourceUnit.firstType (notedUnit.enclosed start)).any fun node =>
            decide ("a" ∈ (notedUnit.offered node).map (·.name)),
        shape.propsType.any fun start => decide (notedUnit.IsBareChildren start))) =
      [(some ["children"], true, false), (some [], false, true)] := by
    decide +kernel
  obtain ⟨first, rest, hshapes, hfirst, hrest⟩ := List.map_eq_cons_iff.1 hfacts
  obtain ⟨second, others, rfl, hsecond, hothers⟩ := List.map_eq_cons_iff.1 hrest
  rw [List.map_eq_nil_iff] at hothers
  subst hothers
  simp only [Prod.mk.injEq, Option.any_eq_true, decide_eq_true_eq] at hfirst hsecond
  obtain ⟨hmissed, ⟨start, hstart, node, hnode, hoffers⟩, -⟩ := hfirst
  obtain ⟨hmissed', -, bare, hbare, hchildren⟩ := hsecond
  refine ⟨first, second, hshapes, hmissed, ⟨node, ⟨start, hstart, .single (.inner hnode)⟩, .inl ?_⟩,
    hmissed', bare, ⟨bare, hbare, .refl⟩, .inr ⟨rfl, hchildren⟩⟩
  exact SourceUnit.mem_offered_iff.1 hoffers

end RenderAudit
