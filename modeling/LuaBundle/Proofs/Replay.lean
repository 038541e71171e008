import LuaBundle.Artifact
import LuaBundle.Proofs.Trail

/-! # A build depends only on what it asked

What a build does next depends on every answer it had so far, so two builds are compared in lock
step: `Replays` says that a second computation is the very same as a first one, trail and all, as
long as whatever the first one asked is answered alike. This holds of testing candidates and of
reading a file, and composed computations inherit it. Two places of files therefore have the same
builds unless they differ where the first build looked, and it looks neither at files the entry does
not reach nor behind the first candidate that is a file.
-/

namespace LuaBundle

/-- What an event asked is answered alike by another place of files. -/
def Event.AnsweredAlike (files other : FileView) : Event → Prop
  | .probed path _ => other.isFile path = files.isFile path
  | .read path => other.read path = files.read path
  | _ => True

instance (files other : FileView) : DecidablePred (Event.AnsweredAlike files other) := fun event =>
  match event with
  | .probed path _ => inferInstanceAs (Decidable (other.isFile path = files.isFile path))
  | .read path => inferInstanceAs (Decidable (other.read path = files.read path))
  | .remarked _ | .began _ | .resolved _ _ _ | .loading _ _ | .met _ _ | .collected _ _
  | .bundled _ _ _ => isTrue trivial

namespace Traced

variable {α β σ : Type} {files other : FileView}

/-- The second computation is the first one again, if all that this one asked is answered alike. -/
def Replays (files other : FileView) (first second : Traced α) : Prop :=
  (∀ event ∈ first.events, event.AnsweredAlike files other) → second = first

theorem Replays.refl (run : Traced α) : Replays files other run run :=
  fun _ => rfl

theorem Replays.bind {first second : Traced α} {next next' : α → Traced β}
    (start : Replays files other first second)
    (further : ∀ value, first.result = .ok value →
      (∀ event ∈ first.events, event.AnsweredAlike files other) →
      Replays files other (next value) (next' value)) :
    Replays files other (first.bind next) (second.bind next') := by
  intro alike
  have early : ∀ event ∈ first.events, event.AnsweredAlike files other :=
    fun event mem => alike event (mem_events_bind.2 (.inl mem))
  rw [start early]
  cases ran : first.result with
  | error error => simp only [Traced.bind, ran]
  | ok value =>
      have late := further value ran early fun event mem =>
        alike event (mem_events_bind.2 (.inr ⟨value, ran, mem⟩))
      simp only [Traced.bind, ran, late]

theorem Replays.forEach {step step' : σ → α → Traced σ}
    (each : ∀ state item, Replays files other (step state item) (step' state item)) (state : σ)
    (items : List α) :
    Replays files other (forEach step state items) (forEach step' state items) := by
  induction items generalizing state with
  | nil => exact .refl _
  | cons item items ih => exact (each state item).bind fun next _ _ => ih next

end Traced

open Traced (Replays)

variable {importer literal module : String} {other : FileView}

namespace Resolver

/-- The same resolver over another place of files. -/
def withFiles (resolver : Resolver) (files : FileView) : Resolver :=
  { resolver with files := files }

theorem probe_alike {files : FileView} {paths : List Path}
    (alike : ∀ event ∈ (probe files paths).1, event.AnsweredAlike files other) :
    probe other paths = probe files paths := by
  induction paths with
  | nil => rfl
  | cons path paths ih =>
      unfold probe at alike ⊢
      cases isFile : files.isFile path with
      | true =>
          simp only [isFile, if_true] at alike
          have same : other.isFile path = true :=
            (alike _ (List.mem_singleton_self _)).trans isFile
          simp only [same, if_true]
      | false =>
          simp only [isFile, Bool.false_eq_true, if_false] at alike
          have same : other.isFile path = false := (alike _ List.mem_cons_self).trans isFile
          have rest := ih fun event mem => alike event (List.mem_cons_of_mem _ mem)
          simp only [same, Bool.false_eq_true, if_false, rest]

theorem resolve_replays (resolver : Resolver) (importer literal : String) :
    Replays resolver.files other (resolver.resolve importer literal)
      ((resolver.withFiles other).resolve importer literal) := by
  intro alike
  have same : probe other (resolver.candidates importer literal) =
      probe resolver.files (resolver.candidates importer literal) := by
    refine probe_alike fun event mem => alike event ?_
    simp only [resolve]
    split
    · next events path outcome =>
        rw [outcome] at mem
        exact List.mem_append_left _ mem
    · next events outcome =>
        rw [outcome] at mem
        exact mem
  simp only [resolve]
  rw [← same]
  rfl

end Resolver

namespace Linker

/-- The same linker over another place of files. -/
def withFiles (linker : Linker) (files : FileView) : Linker :=
  { linker with resolver := linker.resolver.withFiles files }

theorem linkCall_replays (linker : Linker) (importer : String) (call : ImportCall) :
    Replays linker.resolver.files other (linker.linkCall importer call)
      ((linker.withFiles other).linkCall importer call) := by
  unfold linkCall
  split
  · exact (linker.resolver.resolve_replays importer _).bind fun _ _ _ => .refl _
  · exact .refl _

theorem linkCalls_replays (linker : Linker) (importer : String) (tail : List Char)
    (calls : List (List Char × ImportCall)) :
    Replays linker.resolver.files other (linker.linkCalls importer tail calls)
      ((linker.withFiles other).linkCalls importer tail calls) := by
  induction calls with
  | nil => exact .refl _
  | cons cut calls ih =>
      apply (linker.linkCall_replays importer cut.2).bind
      intro linked _ _
      exact ih.bind fun _ _ _ => .refl _

end Linker

namespace Builder

/-- The same builder over another place of files. -/
def withFiles (builder : Builder) (files : FileView) : Builder :=
  { builder with resolver := builder.resolver.withFiles files }

variable (builder : Builder)

theorem moduleOf_replays (module source : String) :
    Replays builder.resolver.files other (builder.moduleOf module source)
      ((builder.withFiles other).moduleOf module source) := by
  apply (Replays.refl (Traced.tell (builder.remarks module source))).bind
  intro _ _ _
  apply (builder.linker.linkCalls_replays module _ _).bind
  intro linked _ _
  exact .refl _

theorem openModule_replays (module : String) :
    Replays builder.resolver.files other (builder.openModule module)
      ((builder.withFiles other).openModule module) := by
  unfold openModule
  apply (Replays.refl _).bind
  intro _ _ alike
  have same : (builder.withFiles other).resolver.files.read
      ((builder.withFiles other).resolver.absolute module) =
      builder.resolver.files.read (builder.resolver.absolute module) :=
    alike _ (List.mem_singleton_self _)
  rw [same]
  cases builder.resolver.files.read (builder.resolver.absolute module) with
  | error fault => exact .refl _
  | ok source => exact builder.moduleOf_replays module source

theorem load_replays (opened : OpenModules) (importer : String) (progress : Progress)
    (module : String) :
    Replays builder.resolver.files other (builder.load opened importer progress module)
      ((builder.withFiles other).load opened importer progress module) := by
  induction opened, importer, progress, module using load_induct builder with
  | circle opened importer progress module isOpen =>
      have isOpen' : (builder.withFiles other).fileOf module ∈ opened.map (·.1) := isOpen
      rw [load_of_open isOpen, load_of_open isOpen']
      exact .refl _
  | met opened importer progress module closed visited =>
      have closed' : (builder.withFiles other).fileOf module ∉ opened.map (·.1) := closed
      have visited' : (builder.withFiles other).fileOf module ∈ progress.visited := visited
      rw [load_of_visited closed visited, load_of_visited closed' visited']
      exact .refl _
  | entered opened importer progress module closed new ih =>
      have closed' : (builder.withFiles other).fileOf module ∉ opened.map (·.1) := closed
      have new' : (builder.withFiles other).fileOf module ∉ progress.visited := new
      rw [load_of_new closed new, load_of_new closed' new']
      apply (Replays.refl _).bind
      intro _ _ _
      apply (builder.openModule_replays module).bind
      intro loaded read _
      rw [result_openModule] at read
      apply (Replays.forEach (ih loaded read) _ _).bind
      intro inner _ _
      exact .refl _

theorem build_replays (entry : Path) :
    Replays builder.resolver.files other (builder.build entry)
      ((builder.withFiles other).build entry) := by
  rw [build_eq, build_eq]
  apply (Replays.refl _).bind
  intro _ _ _
  apply (builder.openModule_replays _).bind
  intro loaded _ _
  apply (Replays.forEach (builder.load_replays _ _) _ _).bind
  intro progress _ _
  exact .refl _

end Builder

namespace Files

variable {files : Files} {path : Path}

theorem get?_insert (files : Files) (path : Path) (text : String) (location : Location) :
    (files.insert path text).get? location =
      if path.location = location then some text else files.get? location := by
  by_cases here : path.location = location
  · simp [insert, get?, here]
  · have others : (files.entries.filter (·.1 != path.location)).find? (·.1 == location) =
        files.entries.find? (·.1 == location) := by
      rw [List.find?_filter]
      congr 1
      funext entry
      by_cases found : entry.1 = location
      · have apart : location ≠ path.location := fun same => here same.symm
        simp [found, apart]
      · simp [found]
    simp [insert, get?, here, others]

theorem read_insert_of_ne {asked : Path} (apart : path.location ≠ asked.location) (text : String) :
    (files.insert path text).read asked = files.read asked := by
  rw [read, read, get?_insert, if_neg apart]

theorem isFile_insert (asked : Path) (text : String)
    (known : path.location = asked.location → files.isFile path = true) :
    (files.insert path text).isFile asked = files.isFile asked := by
  rw [isFile, get?_insert]
  split
  · next here =>
      rw [← files.isFile_congr here, known here]
      rfl
  · rfl

end Files

namespace Builder

open Relation (ReflTransGen)

variable {builder : Builder}

/-- No module that the entry reaches has its file at a location. -/
def Unreached (builder : Builder) (entry : Path) (file : Location) : Prop :=
  ∀ module, ReflTransGen builder.Imports (builder.resolver.canonical entry) module →
    builder.fileOf module ≠ file

/-- Wherever a literal that the entry reaches could mean a location, it means a file that is tried
before. -/
def Shadowed (builder : Builder) (entry : Path) (file : Location) : Prop :=
  ∀ module, ReflTransGen builder.Imports (builder.resolver.canonical entry) module →
    ∀ literal ∈ builder.literals module, ∀ before candidate after,
      builder.resolver.candidates module literal = before ++ candidate :: after →
      candidate.location = file → ∃ earlier ∈ before, builder.resolver.files.isFile earlier = true

/-- Nothing is asked about a file that the entry does not reach, except whether it is there, and not
even that if a file tried before it always is. -/
theorem answeredAlike_insert {files : Files} {entry path : Path}
    (unreached : builder.Unreached entry path.location)
    (settled : files.isFile path = true ∨ builder.Shadowed entry path.location) (text : String) :
    ∀ event ∈ (builder.build entry).events,
      event.AnsweredAlike files.view (files.insert path text).view := by
  intro event mem
  by_cases silent : event.path? = none
  · cases event with
    | probed => cases silent
    | read => cases silent
    | _ => trivial
  obtain ⟨module, reached, asks⟩ := asked_of_mem_build mem silent
  cases asks with
  | read =>
      apply Files.read_insert_of_ne
      exact (unreached module reached).symm
  | @probed literal before after asked written cut unmet =>
      apply Files.isFile_insert
      intro here
      rcases settled with known | shadowed
      · exact known
      · obtain ⟨earlier, inside, isFile⟩ :=
          shadowed module reached literal written before asked after cut here.symm
        rw [unmet earlier inside] at isFile
        cases isFile

/-- Two places of files that answer alike whatever a build over the first one asked have the same
build: it comes to the same and leaves the same trail, remarks and reads included. So neither a
change to a file that the entry does not reach, nor a new file that no literal would mean because
another one is tried before it, changes the bundle or whether there is one. -/
theorem build_depends_on_answers {settings : Settings} {files : Files} {base entry : Path}
    (made : Instant) {builder : Builder} (origin : builder = .ofBase settings files.view base) :
    (∀ other : Files,
      (∀ event ∈ (builder.build entry).events, event.AnsweredAlike files.view other.view) →
      (Builder.ofBase settings other.view base).build entry = builder.build entry ∧
      (Builder.ofBase settings other.view base).bundle entry made = builder.bundle entry made) ∧
    ∀ path text, builder.Unreached entry path.location →
      (files.isFile path = true ∨ builder.Shadowed entry path.location) →
      (Builder.ofBase settings (files.insert path text).view base).bundle entry made =
        builder.bundle entry made := by
  have builds : ∀ other : Files,
      (∀ event ∈ (builder.build entry).events, event.AnsweredAlike files.view other.view) →
      (Builder.ofBase settings other.view base).build entry = builder.build entry := by
    intro other alike
    have view : builder.resolver.files = files.view := by rw [origin, ofBase, Resolver.ofBase]
    have moved : Builder.ofBase settings other.view base = builder.withFiles other.view := by
      rw [origin]
      rfl
    rw [moved]
    exact builder.build_replays entry (view ▸ alike)
  have bundles : ∀ other : Files,
      (∀ event ∈ (builder.build entry).events, event.AnsweredAlike files.view other.view) →
      (Builder.ofBase settings other.view base).bundle entry made = builder.bundle entry made := by
    intro other alike
    rw [bundle, builds other alike, bundle, origin]
    rfl
  refine ⟨fun other alike => ⟨builds other alike, bundles other alike⟩, ?_⟩
  intro path text unreached settled
  exact bundles _ (answeredAlike_insert unreached settled text)

/-- An import that two files could be meant by, and a file that nothing imports. -/
def twins : Files :=
  .ofList [(⟨"/m.luau"⟩, "import('u')"), (⟨"/u.luau"⟩, "type A = 1"), (⟨"/n.luau"⟩, "old")]

theorem build_depends_on_answers_twins :
    ∃ builder changed : Builder, builder = .ofBase {} twins.view ⟨"/"⟩ ∧
      changed = .ofBase {}
        ((twins.insert ⟨"/u.lua"⟩ "import('n')").insert ⟨"/n.luau"⟩ "new").view ⟨"/"⟩ ∧
      (builder.build ⟨"m.luau"⟩).result.map (·.modules.modules.map (·.path)) = .ok ["u.luau"] ∧
      (builder.build ⟨"m.luau"⟩).diagnostics.length = 1 ∧
      changed.build ⟨"m.luau"⟩ = builder.build ⟨"m.luau"⟩ := by
  refine ⟨_, _, rfl, rfl, by decide +kernel, by decide +kernel, ?_⟩
  exact ((build_depends_on_answers ⟨⟨1970, 1, 1⟩, 0, 0, 0⟩ rfl).1 _ (by decide +kernel)).1

end Builder

end LuaBundle
