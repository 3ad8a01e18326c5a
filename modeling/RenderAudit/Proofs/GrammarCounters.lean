import RenderAudit.Grammar

/-!
# What the counters of a registry count

A registry is asked for grammars in any order, and its two mappings may change in between. Its
counters say how often what happened: a detection, a look-up of a grammar and a parser that was made
count wherever the call came from. A look-up is a miss before the grammar is loaded, so one that
fails leaves a miss and nothing else behind. A grammar that was loaded stays, and is never loaded
again, whatever becomes of the mappings.
-/

namespace RenderAudit.Registry

/-! ### Calls and what happens in them -/

/-- What a registry is asked, and how its mappings are changed. -/
inductive Call where
  | detect (path : Path)
  | isSupported (path : Path)
  | load (language : String)
  | createParser (language : String)
  | parserFor (path : Path)
  | changeExtensions (change : Table String String → Table String String)
  | changeSources (change : Table String GrammarSource → Table String GrammarSource)

/-- The registry after a call, whether the call failed or not. -/
def perform (registry : Registry) : Call → Registry
  | .detect path => (registry.detect path).2
  | .isSupported _ => registry
  | .load language => (registry.load language).2
  | .createParser language => (registry.createParser language).2
  | .parserFor path => (registry.parserFor path).2
  | .changeExtensions change => { registry with extensions := change registry.extensions }
  | .changeSources change => { registry with sources := change registry.sources }

/-- What happens in a call: a language is detected or not, a grammar is looked up, in the cache or
beyond it, and a parser is made or not. -/
inductive Event where
  | detection (found : Option String)
  | lookup (language : String) (cached : Bool) (result : Except Fault Unit)
  | creation (result : Except Fault Unit)

namespace Event

@[simp]
def isDetection : Event → Bool
  | detection _ => true
  | _ => false

@[simp]
def isLookup : Event → Bool
  | lookup _ _ _ => true
  | _ => false

@[simp]
def isFailedLookup : Event → Bool
  | lookup _ _ (.error _) => true
  | _ => false

@[simp]
def isCreated : Event → Bool
  | creation (.ok _) => true
  | _ => false

/-- After a look-up that gave a grammar, another one for that grammar finds it in the cache. -/
def Keeps (first second : Event) : Prop :=
  ∀ language cached cached' result, first = lookup language cached (.ok ()) →
    second = lookup language cached' result → cached' = true ∧ result = .ok ()

end Event

section Events

variable (registry : Registry)

def lookupEvent (language : String) : Event :=
  .lookup language (registry.loaded.contains language) (registry.load language).1

def creationEvents (language : String) : List Event :=
  [registry.lookupEvent language, .creation (registry.createParser language).1]

/-- The events of a call. A parser is made after its grammar was looked up, and a parser for a file
only after a language was detected. -/
def events : Call → List Event
  | .detect path => [.detection (registry.detect path).1]
  | .load language => [registry.lookupEvent language]
  | .createParser language => registry.creationEvents language
  | .parserFor path =>
      .detection (registry.detect path).1 ::
        match (registry.detect path).1 with
        | none => []
        | some language => (registry.detect path).2.creationEvents language
  | .isSupported _ | .changeExtensions _ | .changeSources _ => []

end Events

/-- The events of calls that are made one after the other. -/
def log (registry : Registry) : List Call → List Event
  | [] => []
  | call :: calls => registry.events call ++ (registry.perform call).log calls

/-- A new registry, where `problem?` says which sources give a grammar. -/
def fresh (problem? : GrammarSource → Option String) : Registry :=
  { standard with problem? := problem? }

/-! ### What a call does -/

section Steps

variable (registry : Registry)

/-- What an event does to the counters and to the cache. -/
def note : Event → Registry
  | .detection (some _) =>
      { registry with stats := { registry.stats with
          successfulDetections := registry.stats.successfulDetections + 1 } }
  | .detection none =>
      { registry with stats := { registry.stats with
          unknownLanguages := registry.stats.unknownLanguages + 1 } }
  | .lookup _ true _ =>
      { registry with stats := { registry.stats with cacheHits := registry.stats.cacheHits + 1 } }
  | .lookup _ false (.error _) =>
      { registry with stats := { registry.stats with
          cacheMisses := registry.stats.cacheMisses + 1 } }
  | .lookup language false (.ok _) =>
      { registry with
        loaded := language :: registry.loaded
        stats := { registry.stats with cacheMisses := registry.stats.cacheMisses + 1 } }
  | .creation (.ok _) =>
      { registry with stats := { registry.stats with
          parsersCreated := registry.stats.parsersCreated + 1 } }
  | .creation (.error _) => registry

theorem snd_detect (path : Path) :
    (registry.detect path).2 = registry.note (.detection (registry.detect path).1) := by
  unfold detect
  cases registry.extensions.get? path.suffix with
  | none => rfl
  | some language => rfl

theorem load_of_mem {language : String} (hmem : language ∈ registry.loaded) :
    registry.load language = (.ok (), registry.note (.lookup language true (.ok ()))) := by
  unfold load
  rw [if_pos (List.contains_iff_mem.2 hmem)]
  rfl

/-- A grammar that is not in the cache is missed, whether it can be loaded or not. -/
theorem load_of_notMem {language : String} (hnot : language ∉ registry.loaded) :
    ∃ result, registry.load language =
      (result, registry.note (.lookup language false result)) := by
  unfold load
  rw [if_neg (mt List.contains_iff_mem.1 hnot)]
  cases registry.sources.get? language with
  | none => exact ⟨_, rfl⟩
  | some source =>
      dsimp only
      cases registry.problem? source with
      | some problem => exact ⟨_, rfl⟩
      | none => exact ⟨_, rfl⟩

theorem load_eq_ok_iff {language : String} (hnot : language ∉ registry.loaded) :
    (registry.load language).1 = .ok () ↔
      ∃ source, registry.sources.get? language = some source ∧
        registry.problem? source = none := by
  unfold load
  rw [if_neg (mt List.contains_iff_mem.1 hnot)]
  cases registry.sources.get? language with
  | none => simp
  | some source =>
      dsimp only
      cases hproblem : registry.problem? source with
      | some problem => simp [hproblem]
      | none => simp [hproblem]

theorem snd_load (language : String) :
    (registry.load language).2 = registry.note (registry.lookupEvent language) := by
  unfold lookupEvent
  by_cases hmem : language ∈ registry.loaded
  · rw [registry.load_of_mem hmem, List.contains_iff_mem.2 hmem]
  · obtain ⟨result, hload⟩ := registry.load_of_notMem hmem
    rw [hload, Bool.eq_false_iff.2 (mt List.contains_iff_mem.1 hmem)]

theorem snd_createParser (language : String) :
    (registry.createParser language).2 =
      (registry.creationEvents language).foldl note registry := by
  have hload := registry.snd_load language
  unfold creationEvents createParser
  rcases hresult : registry.load language with ⟨result, later⟩
  rw [hresult] at hload
  rw [List.foldl_cons, ← hload]
  cases result with
  | ok _ => rfl
  | error _ => rfl

theorem snd_parserFor (path : Path) :
    (registry.parserFor path).2 = (registry.events (.parserFor path)).foldl note registry := by
  have hdetect := registry.snd_detect path
  unfold parserFor events
  rcases hfound : registry.detect path with ⟨found, later⟩
  rw [hfound] at hdetect
  rw [List.foldl_cons, hfound, ← hdetect]
  cases found with
  | none => rfl
  | some language =>
      have hcreate := later.snd_createParser language
      dsimp only
      rw [← hcreate]
      rcases later.createParser language with ⟨result, last⟩
      cases result with
      | ok _ => rfl
      | error _ => rfl

theorem createParser_of_mem {language : String} (hmem : language ∈ registry.loaded) :
    (registry.createParser language).1 = .ok () := by
  unfold createParser
  rw [registry.load_of_mem hmem]

theorem parserFor_of_mem {path : Path} {language : String} (hmem : language ∈ registry.loaded)
    (hdetected : (registry.detect path).1 = some language) :
    (registry.parserFor path).1 = .ok true := by
  have hlater := registry.snd_detect path
  unfold parserFor
  rcases hfound : registry.detect path with ⟨found, later⟩
  rw [hfound] at hdetected hlater
  cases hdetected
  have hkept : language ∈ later.loaded := by
    dsimp only at hlater
    rw [hlater]
    exact hmem
  have hcreated := later.createParser_of_mem hkept
  rcases hresult : later.createParser language with ⟨result, last⟩
  rw [hresult] at hcreated
  cases hcreated
  simp only [hresult]

theorem isSupported_iff_detect (path : Path) :
    registry.isSupported path = true ↔ (registry.detect path).1 ≠ none := by
  unfold isSupported Table.contains detect
  cases registry.extensions.get? path.suffix with
  | none => simp
  | some language => simp

/-! Calls change nothing about which sources give a grammar. -/

theorem problem?_foldl_note (events : List Event) :
    (events.foldl note registry).problem? = registry.problem? := by
  induction events generalizing registry with
  | nil => rfl
  | cons event events ih =>
      rw [List.foldl_cons, ih]
      unfold note
      split <;> rfl

theorem problem?_perform (call : Call) :
    (registry.perform call).problem? = registry.problem? := by
  cases call with
  | detect path =>
      rw [perform, snd_detect]
      exact registry.problem?_foldl_note [_]
  | load language =>
      rw [perform, snd_load]
      exact registry.problem?_foldl_note [_]
  | createParser language => rw [perform, snd_createParser, problem?_foldl_note]
  | parserFor path => rw [perform, snd_parserFor, problem?_foldl_note]
  | isSupported path => rfl
  | changeExtensions change => rfl
  | changeSources change => rfl

theorem problem?_foldl_perform (calls : List Call) :
    (calls.foldl perform registry).problem? = registry.problem? := by
  induction calls generalizing registry with
  | nil => rfl
  | cons call calls ih => rw [List.foldl_cons, ih, problem?_perform]

end Steps

/-! ### Counters against events -/

/-- The counters and the cache of a registry in which these events have happened. -/
structure Tallied (registry : Registry) (events : List Event) : Prop where
  detections : registry.stats.successfulDetections + registry.stats.unknownLanguages =
    events.countP Event.isDetection
  lookups : registry.stats.cacheHits + registry.stats.cacheMisses = events.countP Event.isLookup
  misses : registry.stats.cacheMisses =
    registry.loaded.length + events.countP Event.isFailedLookup
  created : registry.stats.parsersCreated = events.countP Event.isCreated
  nodup : registry.loaded.Nodup
  loaded : ∀ language, language ∈ registry.loaded ↔
    ∃ cached, Event.lookup language cached (.ok ()) ∈ events
  kept : events.Pairwise Event.Keeps

/-- A look-up says what is in the cache, and finds what it says. -/
def Fits (registry : Registry) : Event → Prop
  | .lookup language cached result =>
      (cached = true ↔ language ∈ registry.loaded) ∧ (cached = true → result = .ok ())
  | _ => True

theorem fits_lookupEvent (registry : Registry) (language : String) :
    registry.Fits (registry.lookupEvent language) := by
  refine ⟨List.contains_iff_mem, ?_⟩
  intro hcached
  rw [registry.load_of_mem (List.contains_iff_mem.1 hcached)]

section Note

variable {registry : Registry} {event : Event}

/-- The cache holds in the end what it held and what was looked up with success. -/
theorem mem_loaded_note (hfits : registry.Fits event) (language : String) :
    language ∈ (registry.note event).loaded ↔
      language ∈ registry.loaded ∨ ∃ cached, event = .lookup language cached (.ok ()) := by
  cases event with
  | detection found => cases found <;> simp [note]
  | creation result => cases result <;> simp [note]
  | lookup other cached result =>
      obtain ⟨hcached, -⟩ := hfits
      cases cached with
      | true =>
          have hother : other ∈ registry.loaded := hcached.1 rfl
          simp only [note, Event.lookup.injEq]
          refine (or_iff_left_of_imp ?_).symm
          rintro ⟨-, rfl, -⟩
          exact hother
      | false =>
          cases result with
          | error fault => simp [note]
          | ok _ => simp [note, or_comm, eq_comm]

theorem nodup_loaded_note (hfits : registry.Fits event) (hnodup : registry.loaded.Nodup) :
    (registry.note event).loaded.Nodup := by
  cases event with
  | detection found => cases found <;> exact hnodup
  | creation result => cases result <;> exact hnodup
  | lookup language cached result =>
      obtain ⟨hcached, -⟩ := hfits
      cases cached with
      | true => exact hnodup
      | false =>
          cases result with
          | error fault => exact hnodup
          | ok _ => exact List.nodup_cons.2 ⟨by simpa using hcached, hnodup⟩

theorem counters_note (registry : Registry) (event : Event) :
    let stats := registry.stats
    let later := (registry.note event).stats
    later.successfulDetections + later.unknownLanguages =
        stats.successfulDetections + stats.unknownLanguages + [event].countP Event.isDetection ∧
      later.cacheHits + later.cacheMisses =
        stats.cacheHits + stats.cacheMisses + [event].countP Event.isLookup ∧
      later.parsersCreated = stats.parsersCreated + [event].countP Event.isCreated := by
  simp only [List.countP_singleton]
  cases event with
  | detection found => cases found <;> simp +arith [note]
  | creation result => cases result <;> simp +arith [note]
  | lookup language cached result =>
      cases cached <;> cases result <;> simp +arith [note]

end Note

namespace Tallied

variable {registry : Registry} {events : List Event} {event : Event}

theorem fresh (problem? : GrammarSource → Option String) : (fresh problem?).Tallied [] := by
  constructor <;> simp [Registry.fresh, standard]

theorem kept_concat (htallied : registry.Tallied events) (hfits : registry.Fits event) :
    (events ++ [event]).Pairwise Event.Keeps := by
  refine List.pairwise_append.2 ⟨htallied.kept, List.pairwise_singleton _ _, ?_⟩
  rintro _ hfirst _ hsecond language cached cached' result rfl rfl
  rw [← List.mem_singleton.1 hsecond] at hfits
  have hcached := hfits.1.2 ((htallied.loaded language).2 ⟨cached, hfirst⟩)
  exact ⟨hcached, hfits.2 hcached⟩

theorem misses_note (htallied : registry.Tallied events) (hfits : registry.Fits event) :
    (registry.note event).stats.cacheMisses =
      (registry.note event).loaded.length + (events ++ [event]).countP Event.isFailedLookup := by
  have hmisses := htallied.misses
  rw [List.countP_append, List.countP_singleton]
  cases event with
  | detection found => cases found <;> exact hmisses
  | creation result => cases result <;> exact hmisses
  | lookup language cached result =>
      cases cached with
      | true =>
          cases hfits.2 rfl
          exact hmisses
      | false =>
          cases result with
          | error fault => simp [Registry.note]; omega
          | ok _ => simp [Registry.note]; omega

/-- An event is counted, once and in the right place. -/
theorem note (htallied : registry.Tallied events) (hfits : registry.Fits event) :
    (registry.note event).Tallied (events ++ [event]) where
  detections := by
    rw [(counters_note registry event).1, htallied.detections, List.countP_append]
  lookups := by
    rw [(counters_note registry event).2.1, htallied.lookups, List.countP_append]
  misses := htallied.misses_note hfits
  created := by
    rw [(counters_note registry event).2.2, htallied.created, List.countP_append]
  nodup := nodup_loaded_note hfits htallied.nodup
  loaded language := by
    rw [mem_loaded_note hfits, htallied.loaded]
    simp only [List.mem_append, List.mem_singleton, exists_or, eq_comm]
  kept := htallied.kept_concat hfits

theorem detect (htallied : registry.Tallied events) (path : Path) :
    (registry.detect path).2.Tallied (events ++ [.detection (registry.detect path).1]) := by
  rw [snd_detect]
  exact htallied.note trivial

theorem createParser (htallied : registry.Tallied events) (language : String) :
    (registry.createParser language).2.Tallied (events ++ registry.creationEvents language) := by
  rw [snd_createParser, creationEvents, ← List.singleton_append, ← List.append_assoc]
  exact (htallied.note (registry.fits_lookupEvent language)).note trivial

theorem parserFor (htallied : registry.Tallied events) (path : Path) :
    (registry.parserFor path).2.Tallied (events ++ registry.events (.parserFor path)) := by
  have hdetected := htallied.detect path
  rw [snd_parserFor, Registry.events, List.foldl_cons, ← snd_detect, ← List.singleton_append,
    ← List.append_assoc]
  cases hfound : (registry.detect path).1 with
  | none =>
      rw [hfound] at hdetected
      rw [List.append_nil]
      exact hdetected
  | some language =>
      rw [hfound] at hdetected
      dsimp only
      rw [← snd_createParser]
      exact hdetected.createParser language

/-- The mappings do not count. -/
theorem of_eq (htallied : registry.Tallied events) {later : Registry}
    (hstats : later.stats = registry.stats) (hloaded : later.loaded = registry.loaded) :
    later.Tallied events where
  detections := by rw [hstats, htallied.detections]
  lookups := by rw [hstats, htallied.lookups]
  misses := by rw [hstats, hloaded, htallied.misses]
  created := by rw [hstats, htallied.created]
  nodup := by rw [hloaded]; exact htallied.nodup
  loaded := by rw [hloaded]; exact htallied.loaded
  kept := htallied.kept

theorem perform (htallied : registry.Tallied events) (call : Call) :
    (registry.perform call).Tallied (events ++ registry.events call) := by
  have hunchanged : ∀ later : Registry, later.stats = registry.stats →
      later.loaded = registry.loaded → later.Tallied (events ++ []) := by
    intro later hstats hloaded
    rw [List.append_nil]
    exact htallied.of_eq hstats hloaded
  cases call with
  | detect path => exact htallied.detect path
  | load language =>
      rw [Registry.perform, snd_load]
      exact htallied.note (registry.fits_lookupEvent language)
  | createParser language => exact htallied.createParser language
  | parserFor path => exact htallied.parserFor path
  | isSupported path => exact hunchanged _ rfl rfl
  | changeExtensions change => exact hunchanged _ rfl rfl
  | changeSources change => exact hunchanged _ rfl rfl

theorem foldl_perform (htallied : registry.Tallied events) (calls : List Call) :
    (calls.foldl Registry.perform registry).Tallied (events ++ registry.log calls) := by
  induction calls generalizing registry events with
  | nil => simpa [log] using htallied
  | cons call calls ih =>
      rw [List.foldl_cons, log, ← List.append_assoc]
      exact ih (htallied.perform call)

/-- What was loaded stays in the cache. -/
theorem mem_loaded_foldl_perform (htallied : registry.Tallied events) {language : String}
    (hloaded : language ∈ registry.loaded) (calls : List Call) :
    language ∈ (calls.foldl Registry.perform registry).loaded := by
  obtain ⟨cached, hevent⟩ := (htallied.loaded language).1 hloaded
  exact ((htallied.foldl_perform calls).loaded language).2
    ⟨cached, List.mem_append_left _ hevent⟩

end Tallied

/-- **The counters follow the calls.** Whichever sources give a grammar, and whatever calls and
changes of the mappings come after each other: every detection is counted as successful or as
unknown, and every look-up of a grammar as a hit or as a miss, where a call inside of another one
counts too. The misses are the grammars in the cache and the look-ups that failed, and parsers are
counted if they were made. A grammar that is not in the cache is loaded exactly if its source gives
it, and it is in the cache, once, exactly if a look-up gave it. From then on every look-up finds it
there, even if its source gives it no longer, and no call for it fails. A file is supported exactly
if its language is detected. -/
theorem counters_follow_calls (problem? : GrammarSource → Option String) (calls : List Call) :
    let registry := calls.foldl perform (fresh problem?)
    let events := (fresh problem?).log calls
    let stats := registry.stats
    stats.successfulDetections + stats.unknownLanguages = events.countP Event.isDetection ∧
    stats.cacheHits + stats.cacheMisses = events.countP Event.isLookup ∧
    stats.cacheMisses = registry.loaded.length + events.countP Event.isFailedLookup ∧
    stats.parsersCreated = events.countP Event.isCreated ∧
    registry.loaded.Nodup ∧
    (∀ language, language ∉ registry.loaded → ((registry.load language).1 = .ok () ↔
      ∃ source, registry.sources.get? language = some source ∧ problem? source = none)) ∧
    (∀ language, language ∈ registry.loaded ↔
      ∃ cached, Event.lookup language cached (.ok ()) ∈ events) ∧
    events.Pairwise Event.Keeps ∧
    (∀ language ∈ registry.loaded, ∀ (later : List Call)
        (problem?' : GrammarSource → Option String),
      let last := { later.foldl perform registry with problem? := problem?' }
      last.load language = (.ok (), { last with
        stats := { last.stats with cacheHits := last.stats.cacheHits + 1 } }) ∧
      (last.createParser language).1 = .ok () ∧
      ∀ path, (last.detect path).1 = some language → (last.parserFor path).1 = .ok true) ∧
    ∀ path, registry.isSupported path = true ↔ (registry.detect path).1 ≠ none := by
  intro registry events stats
  have htallied : registry.Tallied events := (Tallied.fresh problem?).foldl_perform calls
  have hproblem : registry.problem? = problem? := (fresh problem?).problem?_foldl_perform calls
  refine ⟨htallied.detections, htallied.lookups, htallied.misses, htallied.created, htallied.nodup,
    ?_, htallied.loaded, htallied.kept, ?_, registry.isSupported_iff_detect⟩
  · intro language hnot
    rw [← hproblem]
    exact registry.load_eq_ok_iff hnot
  · intro language hloaded later problem?' last
    have hlast : language ∈ last.loaded := htallied.mem_loaded_foldl_perform hloaded later
    exact ⟨last.load_of_mem hlast, last.createParser_of_mem hlast,
      fun path => last.parserFor_of_mem hlast⟩

/-- A parser for a file is made; then the source of its grammar is replaced by one that gives none,
another parser is made, and a grammar is asked for that nobody knows. -/
def replacedSourceCalls : List Call :=
  [.parserFor (.parse "Page.tsx"),
    .changeSources (·.insert "tsx" ⟨"tree_sitter_missing", "language_tsx"⟩),
    .createParser "tsx", .load "cobol"]

/-- The grammar is loaded by the first call, and found in the cache by the third and by any later
one, also where nothing can be loaded any more. -/
theorem replaced_source_kept :
    let registry := replacedSourceCalls.foldl perform (fresh GrammarSource.problem?)
    "tsx" ∈ registry.loaded ∧
      registry.stats = ⟨2, 1, 2, 0, 1⟩ ∧
      ({ registry with problem? := fun _ => some "gone" }.parserFor (.parse "Page.jsx")).1 =
        .ok true := by
  intro registry
  have hloaded : "tsx" ∈ registry.loaded := by decide +kernel
  obtain ⟨-, -, -, -, -, -, -, -, hkept, -⟩ :=
    counters_follow_calls GrammarSource.problem? replacedSourceCalls
  obtain ⟨-, -, hparser⟩ := hkept "tsx" hloaded [] fun _ => some "gone"
  exact ⟨hloaded, by decide +kernel, hparser (.parse "Page.jsx") (by decide +kernel)⟩

end RenderAudit.Registry
