import LuaBundle.Program
import LuaBundle.Proofs.Path.Spelling
import Mathlib.Data.List.DropRight

/-! # What a failed run leaves on the disk

Making directories changes no file, and a file is written last of all, so a write that fails leaves
every file as it was, and one that succeeds changes just the file its path leads to. A run writes
twice, the manifest and then the bundle. If the second write fails the first is not taken back:
`LeavesManifest` says when this happens, and it is the only way for a failed run to change a file.
-/

namespace LuaBundle

namespace Disk

variable {disk after : Disk} {working place other : Place} {path : Path} {text : String}
  {fault : FileFault}

/-- The same files with the same bytes are on both disks. -/
def SameFiles (disk after : Disk) : Prop :=
  ∀ place, after.file? place = disk.file? place

theorem SameFiles.trans {last : Disk} (first : SameFiles disk after)
    (second : SameFiles after last) : SameFiles disk last :=
  fun place => (second place).trans (first place)

/-- A file is written at a place, and all others are as before. -/
structure Wrote (disk after : Disk) (place : Place) (text : String) : Prop where
  written : after.file? place = some text.toUTF8
  others : ∀ other, other ≠ place → after.file? other = disk.file? other

theorem node?_set (disk : Disk) {place : Place} (below : place ≠ []) (node : DiskNode)
    (other : Place) :
    (disk.set place node).node? other = if other = place then some node else disk.node? other := by
  by_cases root : other = []
  · subst root
    simp [node?, below.symm]
  · by_cases same : other = place
    · simp [node?, set, same, below]
    · have apart : place ≠ other := fun bad => same bad.symm
      simp only [node?, root, set, same, if_false, List.find?_cons, beq_eq_false_iff_ne.2 apart]
      congr 1
      rw [List.find?_filter]
      congr 1
      funext entry
      by_cases here : entry.1 = other
      · simp [here, same]
      · simp [here]

theorem ne_nil_of_node? (free : disk.node? place ≠ some .directory) : place ≠ [] := by
  rintro rfl
  exact free rfl

theorem file?_congr (same : after.node? place = disk.node? place) :
    after.file? place = disk.file? place := by
  rw [file?, file?, same]

/-! ## Directories -/

theorem sameFiles_set_directory (free : disk.node? place = none) :
    SameFiles disk (disk.set place .directory) := by
  intro other
  have undirected : disk.node? place ≠ some .directory := by simp [free]
  have below := ne_nil_of_node? undirected
  by_cases same : other = place
  · subst same
    simp [file?, node?_set disk below, free]
  · apply file?_congr
    rw [node?_set disk below, if_neg same]

theorem sameFiles_makeDirectory (made : disk.makeDirectory working path = .ok after) :
    SameFiles disk after := by
  unfold makeDirectory at made
  split at made
  · cases made
  · split at made
    · simp only at made
      split at made
      · cases made
      · split at made
        · cases made
        · split at made
          · cases made
          · next free =>
              cases made
              exact sameFiles_set_directory (by simpa using free)
    · split at made
      · cases made
      · split at made <;> cases made

theorem sameFiles_ensureDirectory (disk : Disk) (working : Place) (path : Path) :
    SameFiles disk (disk.ensureDirectory working path).1 := by
  unfold ensureDirectory
  split
  · next made => exact sameFiles_makeDirectory made
  · exact fun _ => rfl

theorem sameFiles_ensureDirectories (disk : Disk) (working : Place) (location : Location) :
    SameFiles disk (disk.ensureDirectories working location).1 := by
  fun_induction ensureDirectories disk working location with
  | case1 => exact fun _ => rfl
  | case2 location _ _ _ left fault above ih =>
      rw [above] at ih
      exact ih
  | case3 location _ _ _ left above ih =>
      rw [above] at ih
      exact ih.trans (sameFiles_ensureDirectory left working _)
  | case4 location _ _ _ => exact sameFiles_ensureDirectory disk working _

theorem sameFiles_ensureParent (disk : Disk) (working : Place) (path : Path) :
    SameFiles disk (disk.ensureParent working path).1 := by
  unfold ensureParent
  split
  · exact fun _ => rfl
  · exact sameFiles_ensureDirectories disk working _

/-! ## Files -/

theorem wrote_set (free : disk.node? place ≠ some .directory) (text : String) :
    Wrote disk (disk.set place (.file text.toUTF8)) place text := by
  have below := ne_nil_of_node? free
  constructor
  · simp [file?, node?_set disk below]
  · intro other apart
    apply file?_congr
    rw [node?_set disk below, if_neg apart]

theorem node?_of_step {piece : List Char} (stepped : disk.step place piece = .ok other) :
    disk.node? place = some .directory := by
  unfold step at stepped
  split at stepped
  · cases stepped
  · cases stepped
  · next found => exact found

theorem step_congr (same : after.node? place = disk.node? place) (piece : List Char) :
    after.step place piece = disk.step place piece := by
  rw [step, step, same]

theorem steps_append (disk : Disk) (place : Place) (pieces further : List (List Char)) :
    disk.steps place (pieces ++ further) =
      match disk.steps place pieces with
      | .error fault => .error fault
      | .ok other => disk.steps other further := by
  induction pieces generalizing place with
  | nil => rfl
  | cons piece pieces ih =>
      simp only [List.cons_append, steps]
      cases disk.step place piece with
      | error fault => rfl
      | ok other => exact ih other

/-- A path only leads through directories, so a file that is put where no directory is does not
stand in its way. -/
theorem steps_set {start : Place} {pieces : List (List Char)}
    (free : disk.node? place ≠ some .directory) (node : DiskNode)
    (led : disk.steps start pieces = .ok other) :
    (disk.set place node).steps start pieces = .ok other := by
  induction pieces generalizing start with
  | nil => exact led
  | cons piece pieces ih =>
      simp only [steps] at led ⊢
      cases stepped : disk.step start piece with
      | error fault =>
          rw [stepped] at led
          cases led
      | ok next =>
          have apart : start ≠ place := by
            rintro rfl
            exact free (node?_of_step stepped)
          have same : (disk.set place node).node? start = disk.node? start := by
            rw [node?_set disk (ne_nil_of_node? free), if_neg apart]
          rw [stepped] at led
          rw [step_congr same, stepped]
          exact ih led

theorem overwrite_eq_ok (overwritten : disk.overwrite working path text = .ok after) :
    ∃ place, disk.walk working path = .ok place ∧ disk.node? place ≠ some .directory ∧
      after = disk.set place (.file text.toUTF8) := by
  unfold overwrite at overwritten
  unfold walk
  split at overwritten
  · cases overwritten
  · next sound =>
      dsimp only at overwritten
      have some := Text.split_ne_nil '/' path.text.toList
      generalize Text.split '/' path.text.toList = pieces at overwritten some ⊢
      have front : (pieces.reverse.dropWhile (· == [])).reverse <+: pieces :=
        List.rdropWhile_prefix _ _
      generalize (pieces.reverse.dropWhile (· == [])).reverse = named at overwritten front
      split at overwritten
      · cases overwritten
      · next above led =>
          split at overwritten
          · cases overwritten
          · next place stepped =>
              split at overwritten
              · cases overwritten
              · next file =>
                  cases overwritten
                  obtain ⟨named', free⟩ := not_or.1 file
                  rw [if_neg named'] at stepped
                  -- Nothing but slashes could be missing at the end, and nothing is.
                  obtain rfl : named = pieces :=
                    front.eq_of_length_le (not_lt.1 (not_or.1 named').1)
                  refine ⟨place, ?_, free, rfl⟩
                  rw [List.getLastD_eq_getLast?, List.getLast?_eq_getLast_of_ne_nil some] at stepped
                  rw [← List.dropLast_append_getLast some, steps_append, led]
                  simp only [Option.getD_some] at stepped
                  simp only [steps, stepped]

theorem wrote_of_overwrite (overwritten : disk.overwrite working path text = .ok after) :
    ∃ place, after.walk working path = .ok place ∧ Wrote disk after place text := by
  obtain ⟨place, led, free, rfl⟩ := overwrite_eq_ok overwritten
  refine ⟨place, ?_, wrote_set free text⟩
  unfold walk at led ⊢
  split at led
  · cases led
  · exact steps_set free _ led

/-- A write that fails changes no file. -/
theorem sameFiles_of_write (failed : disk.write working path text = (after, .error fault)) :
    SameFiles disk after := by
  have above := sameFiles_ensureParent disk working path
  unfold write at failed
  generalize disk.ensureParent working path = made at failed above
  split at failed
  · cases failed
    exact above
  · split at failed
    · cases failed
      exact above
    · cases failed

/-- A write that succeeds changes the file that the path then leads to, and no other. -/
theorem wrote_of_write (succeeded : disk.write working path text = (after, .ok ())) :
    ∃ place, after.walk working path = .ok place ∧ Wrote disk after place text := by
  have above := sameFiles_ensureParent disk working path
  unfold write at succeeded
  generalize disk.ensureParent working path = made at succeeded above
  split at succeeded
  · cases succeeded
  · next left =>
      split at succeeded
      · cases succeeded
      · next overwritten =>
          cases succeeded
          obtain ⟨place, led, wrote⟩ := wrote_of_overwrite overwritten
          refine ⟨place, led, wrote.written, fun other apart => ?_⟩
          exact (wrote.others other apart).trans (above other)

/-- Writing a list of files stops at the first that cannot be written, when all before it are. -/
theorem cut_of_writeAll {files : List (Path × String)}
    (failed : disk.writeAll working files = (after, .error (path, fault))) :
    ∃ before text behind between, files = before ++ (path, text) :: behind ∧
      disk.writeAll working before = (between, .ok ()) ∧
      between.write working path text = (after, .error fault) := by
  induction files generalizing disk with
  | nil => cases failed
  | cons file files ih =>
      obtain ⟨first, text⟩ := file
      unfold writeAll at failed
      split at failed
      · next stopped =>
          cases failed
          exact ⟨[], text, files, disk, rfl, rfl, stopped⟩
      · next written =>
          obtain ⟨before, text', behind, between, rfl, done, stopped⟩ := ih failed
          refine ⟨(first, text) :: before, text', behind, between, rfl, ?_, stopped⟩
          simp only [writeAll, written, done]

end Disk

namespace Program

variable {arguments : Arguments} {scene : Scene} {disk : Disk} {error : RunError}

/-- The manifest is written to a place, but then the bundle cannot be written. -/
inductive LeavesManifest (arguments : Arguments) (scene : Scene) (disk : Disk) :
    Place → String → Prop where
  | halfway {settings : Settings} {bundle : Bundle} {path : Path} {written left : Disk}
      {fault : FileFault} {place : Place}
      (settled : arguments.settings scene disk = .ok settings)
      (made : (arguments.bundle scene settings disk).result = .ok bundle)
      (asked : arguments.manifest = some path)
      (first : disk.write scene.working path (Manifest.ofGraph bundle.graph bundle.made).render =
        (written, .ok ()))
      (second : written.write scene.working arguments.output bundle.artifact = (left, .error fault))
      (leads : written.walk scene.working path = .ok place) :
      LeavesManifest arguments scene disk place (Manifest.ofGraph bundle.graph bundle.made).render

/-- A run that does not watch has the outcome of its one build. -/
theorem run_of_settings {settings : Settings} (once : arguments.watch = false)
    (settled : arguments.settings scene disk = .ok settings) :
    (run arguments scene disk).disk = (build arguments scene settings disk).disk ∧
      (run arguments scene disk).result = (build arguments scene settings disk).result := by
  simp [run, settled, once, Report.after]

/-- Once a bundle is made, what becomes of the run is what becomes of its files. -/
theorem build_of_bundle {settings : Settings} {bundle : Bundle}
    (made : (arguments.bundle scene settings disk).result = .ok bundle) :
    (build arguments scene settings disk).disk =
        (disk.writeAll scene.working (arguments.filesOf bundle)).1 ∧
      ((build arguments scene settings disk).result = .ok () ↔
        (disk.writeAll scene.working (arguments.filesOf bundle)).2 = .ok ()) := by
  unfold build
  dsimp only
  rw [made]
  dsimp only
  cases disk.writeAll scene.working (arguments.filesOf bundle) with
  | mk after outcome => cases outcome <;> simp

theorem LeavesManifest.wrote {place : Place} {text : String} (once : arguments.watch = false)
    (leaves : LeavesManifest arguments scene disk place text) :
    Disk.Wrote disk (run arguments scene disk).disk place text := by
  cases leaves with
  | @halfway settings bundle path written left fault _ settled made asked first second leads =>
      have last : (run arguments scene disk).disk = left := by
        rw [(run_of_settings once settled).1, (build_of_bundle made).1, Arguments.filesOf, asked]
        simp only [Option.toList_some, List.map_cons, List.map_nil, List.cons_append,
          List.nil_append, Disk.writeAll, first, second]
      obtain ⟨found, led, wrote⟩ := Disk.wrote_of_write first
      rw [leads] at led
      cases led
      have same := Disk.sameFiles_of_write second
      rw [last]
      constructor
      · rw [same]
        exact wrote.written
      · intro other apart
        rw [same]
        exact wrote.others other apart

/-- Before a file of a bundle, nothing or only the manifest is written. -/
theorem cut_of_filesOf {bundle : Bundle} {before behind : List (Path × String)} {path : Path}
    {text : String} (cut : arguments.filesOf bundle = before ++ (path, text) :: behind) :
    before = [] ∨ ∃ manifest, arguments.manifest = some manifest ∧
      before = [(manifest, (Manifest.ofGraph bundle.graph bundle.made).render)] ∧
      path = arguments.output ∧ text = bundle.artifact := by
  unfold Arguments.filesOf at cut
  match before with
  | [] => exact .inl rfl
  | first :: before =>
      cases asked : arguments.manifest with
      | none => simp [asked] at cut
      | some manifest =>
          obtain ⟨rfl, rest⟩ := List.cons.inj (by simpa [asked] using cut)
          cases before with
          | cons second before => simp at rest
          | nil =>
              simp only [List.nil_append, List.cons.injEq, Prod.mk.injEq] at rest
              exact .inr ⟨manifest, rfl, rfl, rest.1.1.symm, rest.1.2.symm⟩

/-- A bundle that cannot be written, or not even made, leaves the files alone unless its manifest
was written before. -/
theorem sameFiles_of_build {settings : Settings}
    (settled : arguments.settings scene disk = .ok settings)
    (failed : (build arguments scene settings disk).result = .error error)
    (clean : ∀ place text, ¬ LeavesManifest arguments scene disk place text) :
    Disk.SameFiles disk (build arguments scene settings disk).disk := by
  cases made : (arguments.bundle scene settings disk).result with
  | error reason =>
      unfold build
      dsimp only
      rw [made]
      exact fun _ => rfl
  | ok bundle =>
      obtain ⟨last, finished⟩ := build_of_bundle made
      rw [last]
      cases written : disk.writeAll scene.working (arguments.filesOf bundle) with
      | mk after outcome =>
          cases outcome with
          | ok nothing =>
              rw [finished.2 (by rw [written])] at failed
              cases failed
          | error reason =>
              obtain ⟨before, text, behind, between, cut, done, stopped⟩ :=
                Disk.cut_of_writeAll written
              rcases cut_of_filesOf cut with rfl | ⟨manifest, asked, rfl, output, artifact⟩
              · cases done
                exact Disk.sameFiles_of_write stopped
              · rw [output, artifact] at stopped
                unfold Disk.writeAll at done
                split at done
                · cases done
                · next first =>
                    cases done
                    obtain ⟨place, led, -⟩ := Disk.wrote_of_write first
                    exact (clean _ _ (.halfway settled made asked first stopped led)).elim

theorem sameFiles_of_run (once : arguments.watch = false)
    (failed : (run arguments scene disk).result = .error error)
    (clean : ∀ place text, ¬ LeavesManifest arguments scene disk place text) :
    Disk.SameFiles disk (run arguments scene disk).disk := by
  cases settled : arguments.settings scene disk with
  | error reason =>
      unfold run
      dsimp only
      rw [settled]
      exact fun _ => rfl
  | ok settings =>
      obtain ⟨last, outcome⟩ := run_of_settings once settled
      rw [outcome] at failed
      rw [last]
      exact sameFiles_of_build settled failed clean

/-- A failed run leaves every file as it was unless it leaves a manifest, and one that says
something new. The manifest is then the one file that differs, and it is there as a whole. -/
theorem run_failed_files_iff (once : arguments.watch = false)
    (failed : (run arguments scene disk).result = .error error) :
    ((∀ place, (run arguments scene disk).disk.file? place = disk.file? place) ↔
      ∀ place text, LeavesManifest arguments scene disk place text →
        disk.file? place = some text.toUTF8) ∧
    ∀ place, (run arguments scene disk).disk.file? place ≠ disk.file? place →
      ∃ text, LeavesManifest arguments scene disk place text ∧
        (run arguments scene disk).disk.file? place = some text.toUTF8 := by
  have only : ∀ place, (run arguments scene disk).disk.file? place ≠ disk.file? place →
      ∃ text, LeavesManifest arguments scene disk place text ∧
        (run arguments scene disk).disk.file? place = some text.toUTF8 := by
    intro place differs
    by_cases leaves : ∃ left text, LeavesManifest arguments scene disk left text
    · obtain ⟨left, text, leaves⟩ := leaves
      have wrote := leaves.wrote once
      obtain rfl : place = left := by
        by_contra apart
        exact differs (wrote.others place apart)
      exact ⟨text, leaves, wrote.written⟩
    · simp only [not_exists] at leaves
      exact absurd (sameFiles_of_run once failed leaves place) differs
  refine ⟨⟨?_, ?_⟩, only⟩
  · intro same place text leaves
    rw [← same]
    exact (leaves.wrote once).written
  · intro before place
    by_contra differs
    obtain ⟨text, leaves, written⟩ := only place differs
    apply differs
    rw [written, before place text leaves]

theorem run_failed_files_iff_missing_import :
    ∃ (arguments : Arguments) (scene : Scene) (disk : Disk),
      arguments = { base := ⟨"/"⟩, entry := ⟨"m.lua"⟩, output := ⟨"o"⟩, manifest := some ⟨"j"⟩ } ∧
      disk = ⟨[(["m.lua".toList], .file "import('./a')".toUTF8)]⟩ ∧
      (run arguments scene disk).result =
        .error (.build (.moduleNotFound "./a" ["a.luau", "a.lua"] "m.lua")) ∧
      ∀ place, (run arguments scene disk).disk.file? place = disk.file? place := by
  let arguments : Arguments :=
    { base := ⟨"/"⟩, entry := ⟨"m.lua"⟩, output := ⟨"o"⟩, manifest := some ⟨"j"⟩ }
  let scene : Scene := ⟨[], ⟨⟨1970, 1, 1⟩, 0, 0, 0⟩⟩
  let disk : Disk := ⟨[(["m.lua".toList], .file "import('./a')".toUTF8)]⟩
  have failed : (run arguments scene disk).result =
      .error (.build (.moduleNotFound "./a" ["a.luau", "a.lua"] "m.lua")) := by
    decide +kernel
  have settled : arguments.settings scene disk = .ok {} := by decide +kernel
  have unmade : (arguments.bundle scene {} disk).result =
      .error (.moduleNotFound "./a" ["a.luau", "a.lua"] "m.lua") := by
    decide +kernel
  refine ⟨arguments, scene, disk, rfl, rfl, failed, ?_⟩
  rw [(run_failed_files_iff rfl failed).1]
  rintro place text ⟨given, made, -, -, -, -⟩
  rw [settled] at given
  cases given
  rw [unmade] at made
  cases made

/-- A run whose output is a directory fails, but its manifest is on the disk by then. -/
theorem run_failed_leaves_manifest :
    ∃ (arguments : Arguments) (scene : Scene) (disk : Disk),
      arguments = { base := ⟨"/"⟩, entry := ⟨"m"⟩, output := ⟨"o"⟩, manifest := some ⟨"j"⟩ } ∧
      disk = ⟨[(["m".toList], .file "".toUTF8), (["o".toList], .directory)]⟩ ∧
      (run arguments scene disk).result = .error (.write ⟨"o"⟩ .isDirectory) ∧
      disk.file? ["j".toList] = none ∧
      ((run arguments scene disk).disk.file? ["j".toList]).isSome = true := by
  refine ⟨_, ⟨[], ⟨⟨1970, 1, 1⟩, 0, 0, 0⟩⟩, _, rfl, rfl, ?_, ?_, ?_⟩ <;> decide +kernel

end Program

end LuaBundle
