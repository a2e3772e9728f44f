/-
What is read of a package. The source directories may be repeated or lie in each other: still each
file that lies below one of them and is no test module is read once, and its module is the one that
it defines below the first directory that it is read from.
-/

import CrateMetrics.Package
import CrateMetrics.Proofs.Paths
import CrateMetrics.Proofs.Running
import Mathlib.Data.List.Nodup

namespace CrateMetrics

/-! ### Files in folders -/

theorem Location.relativeTo?_eq_some_iff (start location : Location) (rest : List String) :
    start.relativeTo? location = some rest ↔ location = start ++ rest := by
  induction start generalizing location with
  | nil => exact Option.some_inj
  | cons name names ih =>
      cases location with
      | nil =>
          exact iff_of_false (fun impossible => nomatch impossible)
            (fun impossible => nomatch impossible)
      | cons first others =>
          rw [Location.relativeTo?]
          by_cases same : name = first
          · subst same
            rw [beq_self_eq_true, if_pos rfl, ih, List.cons_append, List.cons.injEq,
              and_iff_right rfl]
          · rw [if_neg (fun equal => same (eq_of_beq equal))]
            exact iff_of_false (fun impossible => nomatch impossible)
              (fun equal => same (List.head_eq_of_cons_eq equal).symm)

namespace Folder

/-- The files have locations of their own, and the locations consist of names. -/
structure IsTree (folder : Folder) : Prop where
  distinct : (folder.files.map Prod.fst).Nodup
  named : ∀ file ∈ folder.files, ∀ name ∈ file.1,
    Path.isBlank name = false ∧ name ≠ ".." ∧ '/' ∉ name.toList

/-- The path leads to something that is there. -/
def Has (folder : Folder) (path : Path) : Prop :=
  ∃ location, folder.locate? path = some location ∧ folder.contains location = true

theorem mem_filesBelow_iff (folder : Folder) (directory : Location) (relative : List String)
    (text : Option String) :
    (relative, text) ∈ folder.filesBelow directory ↔
      (directory ++ relative, text) ∈ folder.files := by
  rw [filesBelow, List.mem_mergeSort, List.mem_filterMap]
  constructor
  · rintro ⟨⟨location, found⟩, present, below⟩
    obtain ⟨rest, isRest, same⟩ := Option.map_eq_some_iff.mp below
    obtain ⟨rfl, rfl⟩ := Prod.mk.inj same
    rw [(Location.relativeTo?_eq_some_iff ..).mp isRest] at present
    exact present
  · intro present
    refine ⟨_, present, Option.map_eq_some_iff.mpr ⟨relative, ?_, rfl⟩⟩
    exact (Location.relativeTo?_eq_some_iff ..).mpr rfl

theorem IsTree.nodup_filesBelow {folder : Folder} (tree : folder.IsTree) (directory : Location) :
    ((folder.filesBelow directory).map Prod.fst).Nodup := by
  have inOrder : ((folder.filesBelow directory).map Prod.fst).Perm
      ((folder.files.map Prod.fst).filterMap directory.relativeTo?) := by
    rw [List.filterMap_map]
    refine ((List.mergeSort_perm _ _).map Prod.fst).trans (.of_eq ?_)
    rw [List.map_filterMap]
    congr 1
    funext file
    exact (Option.map_map ..).trans (Option.map_id' ..)
  refine inOrder.nodup_iff.mpr (List.Nodup.filterMap ?_ tree.distinct)
  intro first second rest toFirst toSecond
  rw [(Location.relativeTo?_eq_some_iff ..).mp toFirst,
    (Location.relativeTo?_eq_some_iff ..).mp toSecond]

end Folder

/-! ### Files of packages -/

theorem endsWith_rs_iff (name : String) :
    name.endsWith ".rs" = true ↔ ∃ stem, name = stem ++ ".rs" := by
  rw [← String.endsWith_toSlice, String.Slice.endsWith_string_iff, String.copy_toSlice]
  constructor
  · rintro ⟨stem, same⟩
    exact ⟨String.ofList stem, String.toList_injective (by simp [← same])⟩
  · rintro ⟨stem, rfl⟩
    exact ⟨stem.toList, by simp⟩

theorem isSourceName_iff (name : String) :
    isSourceName name = true ↔ ∃ stem, stem ≠ "" ∧ name = stem ++ ".rs" := by
  rw [isSourceName, Bool.and_eq_true, endsWith_rs_iff, bne_iff_ne]
  constructor
  · rintro ⟨⟨stem, rfl⟩, different⟩
    exact ⟨stem, fun empty => different (by rw [empty]; rfl), rfl⟩
  · rintro ⟨stem, nonempty, rfl⟩
    refine ⟨⟨stem, rfl⟩, fun same => nonempty (String.toList_injective ?_)⟩
    have texts := congrArg String.toList same
    rw [String.toList_append] at texts
    exact List.append_cancel_right (texts.trans (List.nil_append _).symm)

namespace FoundFile

/-- Where in the folder the file lies. -/
def location (file : FoundFile) : Location :=
  file.directory.location ++ file.relative

/-- The unit that is read from the file. -/
def toUnit (file : FoundFile) : SourceUnit where
  name := file.path.text
  source := file.text.getD ""
  module := modulePath file.relative

/-- The file is one of source text, and no test module as seen from its directory. -/
structure IsSource (file : FoundFile) : Prop where
  named : ∃ stem, stem ≠ "" ∧ file.path.names.getLast? = some (stem ++ ".rs")
  notTests : file.path.names.getLast? ≠ some "tests.rs"
  outsideTests : "tests" ∉ file.relative

theorem isIncluded_iff (file : FoundFile) : file.isIncluded = true ↔ file.IsSource := by
  have fields : file.IsSource ↔ (∃ name, file.path.names.getLast? = some name ∧
      isSourceName name = true ∧ name ≠ "tests.rs") ∧ "tests" ∉ file.relative := by
    constructor
    · rintro ⟨⟨stem, nonempty, isLast⟩, notTests, outside⟩
      refine ⟨⟨_, isLast, (isSourceName_iff _).mpr ⟨stem, nonempty, rfl⟩, ?_⟩, outside⟩
      exact fun isTests => notTests (isTests ▸ isLast)
    · rintro ⟨⟨name, isLast, isSource, notTests⟩, outside⟩
      obtain ⟨stem, nonempty, rfl⟩ := (isSourceName_iff name).mp isSource
      refine ⟨⟨stem, nonempty, isLast⟩, fun isTests => notTests ?_, outside⟩
      exact Option.some.inj (isLast.symm.trans isTests)
  rw [fields, isIncluded, Path.fileName?]
  cases last : file.path.names.getLast? with
  | none => simp
  | some name =>
      by_cases up : name = ".."
      · have noSource : isSourceName ".." = false := by decide +kernel
        simp [up, noSource, Option.filter]
      · simp [up, Option.filter, and_right_comm]

end FoundFile

namespace Package

/-- The directories of the files that the libraries and programs of the package start from. -/
def parents (package : Package) : List Path :=
  (package.targets.filter Target.isMeasured).filterMap (fun target =>
    (package.directory.join target.source).parent?)

/-- The directory holds source text: a library or program starts there, or it is the usual one and
none starts in any directory. -/
def SourcesIn (package : Package) (directory : Path) : Prop :=
  directory ∈ package.parents ∨
    package.parents = [] ∧ directory = package.directory.trimmed.below ["src"]

theorem sourceDirectories_of_parents {package : Package} (some : package.parents ≠ []) :
    package.sourceDirectories = Path.sorted package.parents := by
  have nonempty : Path.sorted package.parents ≠ [] :=
    fun nothing => some ((Path.sorted_eq_nil_iff _).mp nothing)
  rw [sourceDirectories]
  split
  · rename_i nothing
    exact absurd nothing nonempty
  · rfl

theorem sourceDirectories_of_no_parents {package : Package} (none : package.parents = []) :
    package.sourceDirectories = [package.directory.trimmed.below ["src"]] := by
  have nothing : Path.sorted package.parents = [] := (Path.sorted_eq_nil_iff _).mpr none
  rw [sourceDirectories]
  split
  · rfl
  · rename_i found
    exact absurd nothing found

theorem ascending_sourceDirectories (package : Package) :
    Path.Ascending package.sourceDirectories := by
  by_cases none : package.parents = []
  · rw [sourceDirectories_of_no_parents none]
    exact List.pairwise_singleton _ _
  · rw [sourceDirectories_of_parents none]
    exact Path.ascending_sorted package.parents

theorem sourcesIn_of_mem_sourceDirectories {package : Package} {directory : Path}
    (present : directory ∈ package.sourceDirectories) : package.SourcesIn directory := by
  by_cases none : package.parents = []
  · rw [sourceDirectories_of_no_parents none] at present
    exact .inr ⟨none, List.mem_singleton.mp present⟩
  · rw [sourceDirectories_of_parents none] at present
    exact .inl (Path.mem_of_mem_sorted present)

/-- Each directory with source text is kept, maybe as it is written elsewhere. -/
theorem SourcesIn.exists_mem {package : Package} {directory : Path}
    (sources : package.SourcesIn directory) :
    ∃ kept ∈ package.sourceDirectories, kept.names = directory.names := by
  rcases sources with isParent | ⟨none, rfl⟩
  · rw [sourceDirectories_of_parents (List.ne_nil_of_mem isParent)]
    exact Path.exists_mem_sorted isParent
  · rw [sourceDirectories_of_no_parents none]
    exact ⟨_, List.mem_singleton_self _, rfl⟩

theorem SourcesIn.isWritten {package : Package} (written : package.directory.IsWritten)
    {directory : Path} (sources : package.SourcesIn directory) : directory.IsWritten := by
  rcases sources with isParent | ⟨_, rfl⟩
  · obtain ⟨target, _, isParent⟩ := List.mem_filterMap.mp isParent
    exact (written.join target.source).parent? isParent
  · exact written.trimmed.below (by decide)

/-! ### Reading directories -/

/-- The source files below a directory. -/
def filesIn (folder : Folder) (directory : Path) : List FoundFile :=
  ((folder.filesBelow directory.location).map (fun (relative, text) =>
    { directory, relative, text : FoundFile })).filter FoundFile.isIncluded

/-- Those of them whose paths are not among the ones read already. -/
def freshIn (folder : Folder) (done : List Path) (directory : Path) : List FoundFile :=
  (filesIn folder directory).filter (fun file => !done.any file.path.isSame)

/-- The files that are read from directories, one directory after the other. -/
def filesFrom (folder : Folder) (done : List Path) : List Path → List FoundFile
  | [] => []
  | directory :: rest =>
      freshIn folder done directory ++
        filesFrom folder (done ++ (freshIn folder done directory).map FoundFile.path) rest

section

variable {folder : Folder}

theorem sourceFilesIn_of_has {directory : Path} (has : folder.Has directory) :
    sourceFilesIn folder directory = .ok (filesIn folder directory) := by
  obtain ⟨location, leads, there⟩ := has
  rw [sourceFilesIn, leads, Option.filter_some, if_pos there, folder.locate?_eq leads]
  rfl

theorem result_readDirectories {α : Type} {directories : List Path} (done : List Path)
    (has : ∀ directory ∈ directories, folder.Has directory)
    (readable : ∀ directory ∈ directories, ∀ file ∈ filesIn folder directory,
      file.text.isSome = true) :
    (readDirectories folder done directories : Run α (List SourceUnit)).result =
      .ok ((filesFrom folder done directories).map FoundFile.toUnit) := by
  induction directories generalizing done with
  | nil => rfl
  | cons directory rest ih =>
      obtain ⟨hasDirectory, hasRest⟩ := List.forall_mem_cons.mp has
      obtain ⟨readableHere, readableRest⟩ := List.forall_mem_cons.mp readable
      have units : ((freshIn folder done directory).mapM readFile :
          Run α (List SourceUnit)).result =
          .ok ((freshIn folder done directory).map FoundFile.toUnit) := by
        rw [Run.result_mapM]
        refine mapM_eq_ok_map (fun file present => ?_)
        obtain ⟨text, holds⟩ :=
          Option.isSome_iff_exists.mp (readableHere file (List.mem_of_mem_filter present))
        rw [readFile, Run.result_bind, FoundFile.toUnit, holds]
        rfl
      have found : (Run.of (sourceFilesIn folder directory) : Run α (List FoundFile)).result =
          .ok (filesIn folder directory) := sourceFilesIn_of_has hasDirectory
      rw [readDirectories]
      refine (Run.result_bind_of_ok found _).trans ((Run.result_bind_of_ok units _).trans ?_)
      refine (Run.result_bind_of_ok (ih _ hasRest readableRest) _).trans ?_
      rw [filesFrom, List.map_append]
      rfl

theorem mem_filesIn_iff (directory : Path) (file : FoundFile) :
    file ∈ filesIn folder directory ↔
      file.directory = directory ∧ (file.location, file.text) ∈ folder.files ∧ file.IsSource := by
  rw [filesIn, List.mem_filter, List.mem_map, FoundFile.isIncluded_iff, ← and_assoc]
  refine and_congr_left (fun _ => ?_)
  constructor
  · rintro ⟨⟨relative, text⟩, below, rfl⟩
    exact ⟨rfl, (folder.mem_filesBelow_iff ..).mp below⟩
  · rintro ⟨rfl, present⟩
    exact ⟨(file.relative, file.text), (folder.mem_filesBelow_iff ..).mpr present, rfl⟩

theorem isFresh_iff (done : List Path) (file : FoundFile) :
    (!done.any file.path.isSame) = true ↔ ∀ path ∈ done, path.names ≠ file.path.names := by
  rw [Bool.not_eq_true', List.any_eq_false]
  refine forall₂_congr (fun path _ => ?_)
  rw [Path.isSame_iff]
  exact not_congr eq_comm

theorem ne_of_mem_filesFrom {done directories : List Path} {file : FoundFile}
    (isRead : file ∈ filesFrom folder done directories) :
    ∀ path ∈ done, path.names ≠ file.path.names := by
  induction directories generalizing done with
  | nil => cases isRead
  | cons directory rest ih =>
      rcases List.mem_append.mp isRead with fresh | later
      · exact (isFresh_iff done file).mp (List.mem_filter.mp fresh).2
      · exact fun path present => ih later path (List.mem_append_left _ present)

theorem exists_mem_filesFrom {directories : List Path} (done : List Path) {directory : Path}
    (isSource : directory ∈ directories) {file : FoundFile}
    (found : file ∈ filesIn folder directory) :
    (∃ path ∈ done, path.names = file.path.names) ∨
      ∃ other ∈ filesFrom folder done directories, other.path.names = file.path.names := by
  induction directories generalizing done with
  | nil => cases isSource
  | cons head rest ih =>
      rcases List.mem_cons.mp isSource with rfl | later
      · by_cases fresh : ∀ path ∈ done, path.names ≠ file.path.names
        · exact .inr ⟨file, List.mem_append_left _
            (List.mem_filter.mpr ⟨found, (isFresh_iff done file).mpr fresh⟩), rfl⟩
        · push Not at fresh
          exact .inl fresh
      · rcases ih (done ++ (freshIn folder done head).map FoundFile.path) later with
          ⟨path, present, same⟩ | ⟨other, isRead, same⟩
        · rcases List.mem_append.mp present with earlier | here
          · exact .inl ⟨path, earlier, same⟩
          · obtain ⟨other, fresh, rfl⟩ := List.mem_map.mp here
            exact .inr ⟨other, List.mem_append_left _ fresh, same⟩
        · exact .inr ⟨other, List.mem_append_right _ isRead, same⟩

/-- A file is read from the first directory that it is found in. -/
theorem first_of_mem_filesFrom {done directories : List Path} {file : FoundFile}
    (isRead : file ∈ filesFrom folder done directories) :
    ∃ before after, directories = before ++ file.directory :: after ∧
      file ∈ filesIn folder file.directory ∧
      ∀ directory ∈ before, ∀ other ∈ filesIn folder directory,
        other.path.names ≠ file.path.names := by
  induction directories generalizing done with
  | nil => cases isRead
  | cons head rest ih =>
      rcases List.mem_append.mp isRead with fresh | later
      · have found := List.mem_of_mem_filter fresh
        obtain ⟨rfl, -⟩ := (mem_filesIn_iff ..).mp found
        exact ⟨[], rest, rfl, found, fun _ impossible => nomatch impossible⟩
      · obtain ⟨before, after, rfl, found, first⟩ := ih later
        refine ⟨head :: before, after, rfl, found, List.forall_mem_cons.mpr ⟨?_, first⟩⟩
        intro other here same
        -- What is found in the head is read there, unless its path was read before.
        have unread := ne_of_mem_filesFrom later
        by_cases fresh : (!done.any other.path.isSame) = true
        · exact unread other.path (List.mem_append_right _
            (List.mem_map_of_mem (List.mem_filter.mpr ⟨here, fresh⟩))) same
        · rw [isFresh_iff] at fresh
          push Not at fresh
          obtain ⟨path, earlier, isOther⟩ := fresh
          exact unread path (List.mem_append_left _ earlier) (isOther.trans same)

end

section

variable {folder : Folder} (tree : folder.IsTree)

include tree

theorem names_of_present {file : FoundFile}
    (present : (file.location, file.text) ∈ folder.files) :
    file.path.names = file.directory.names ++ file.relative ∧
      file.location = file.path.location := by
  have proper := fun name among =>
    tree.named _ present name (List.mem_append_right file.directory.location among)
  have names : file.path.names = file.directory.names ++ file.relative :=
    Path.names_below _ (fun name among => (proper name among).1)
  refine ⟨names, ?_⟩
  rw [Path.location, names, List.foldl_append,
    Path.foldl_advance (fun among => (proper _ among).2.1 rfl)]
  rfl

theorem isWritten_of_present {file : FoundFile} (written : file.directory.IsWritten)
    (present : (file.location, file.text) ∈ folder.files) : file.path.IsWritten :=
  written.below (fun name among =>
    (tree.named _ present name (List.mem_append_right file.directory.location among)).2.2)

theorem nodup_filesIn (directory : Path) :
    ((filesIn folder directory).map (fun file => file.path.names)).Nodup := by
  have relatives : ((filesIn folder directory).map FoundFile.relative).Nodup := by
    refine (tree.nodup_filesBelow directory.location).sublist ?_
    have kept := (List.filter_sublist (p := FoundFile.isIncluded)
      (l := (folder.filesBelow directory.location).map (fun (relative, text) =>
        ({ directory, relative, text } : FoundFile)))).map FoundFile.relative
    rwa [List.map_map] at kept
  have paths : (filesIn folder directory).map (fun file => file.path.names) =
      ((filesIn folder directory).map FoundFile.relative).map (directory.names ++ ·) := by
    rw [List.map_map]
    refine List.map_congr_left (fun file found => ?_)
    obtain ⟨rfl, present, -⟩ := (mem_filesIn_iff ..).mp found
    exact (names_of_present tree present).1
  rw [paths]
  exact relatives.map (fun _ _ same => List.append_cancel_left same)

theorem nodup_filesFrom (done directories : List Path) :
    ((filesFrom folder done directories).map (fun file => file.path.names)).Nodup := by
  induction directories generalizing done with
  | nil => exact List.nodup_nil
  | cons directory rest ih =>
      rw [filesFrom, List.map_append]
      refine List.Nodup.append ?_ (ih _) ?_
      · exact (nodup_filesIn tree directory).sublist (List.filter_sublist.map _)
      · rw [List.disjoint_left]
        intro names here later
        obtain ⟨file, fresh, rfl⟩ := List.mem_map.mp here
        obtain ⟨other, isRead, same⟩ := List.mem_map.mp later
        exact ne_of_mem_filesFrom isRead file.path
          (List.mem_append_right _ (List.mem_map_of_mem fresh)) same.symm

end

end Package

/-! ### The files that are read -/

/-- The file is one that the package consists of: it lies in the folder, below a directory with
source text, and is a source file as seen from there. -/
structure FoundFile.BelongsTo (file : FoundFile) (package : Package) (folder : Folder) : Prop where
  sources : package.SourcesIn file.directory
  present : (file.location, file.text) ∈ folder.files
  isSource : file.IsSource

namespace Package

/-- A file that belongs to the package is found, maybe from the same directory as it is written
elsewhere. -/
theorem exists_mem_filesIn {package : Package} {folder : Folder} (tree : folder.IsTree)
    {file : FoundFile} (belongs : file.BelongsTo package folder) :
    ∃ directory ∈ package.sourceDirectories, directory.names = file.directory.names ∧
      ∃ found ∈ filesIn folder directory, found.path.names = file.path.names := by
  obtain ⟨directory, isDirectory, same⟩ := belongs.sources.exists_mem
  let copy : FoundFile := { file with directory }
  have lies : (copy.location, copy.text) ∈ folder.files := by
    have leads : copy.location = file.location := by
      rw [FoundFile.location, FoundFile.location, Path.location, Path.location, same]
    rw [leads]
    exact belongs.present
  have path : copy.path.names = file.path.names := by
    rw [(names_of_present tree lies).1, (names_of_present tree belongs.present).1, same]
  obtain ⟨named, notTests, outsideTests⟩ := belongs.isSource
  rw [← path] at named notTests
  exact ⟨directory, isDirectory, same, copy,
    (mem_filesIn_iff ..).mpr ⟨rfl, lies, named, notTests, outsideTests⟩, path⟩

theorem belongsTo_of_mem_filesIn {package : Package} {folder : Folder} {directory : Path}
    (isDirectory : directory ∈ package.sourceDirectories) {file : FoundFile}
    (found : file ∈ filesIn folder directory) : file.BelongsTo package folder := by
  obtain ⟨rfl, lies, isSource⟩ := (mem_filesIn_iff ..).mp found
  exact ⟨sourcesIn_of_mem_sourceDirectories isDirectory, lies, isSource⟩

theorem belongsTo_of_mem_filesFrom {package : Package} {folder : Folder} {file : FoundFile}
    (isRead : file ∈ filesFrom folder [] package.sourceDirectories) :
    file.BelongsTo package folder := by
  obtain ⟨before, after, directories, found, -⟩ := first_of_mem_filesFrom isRead
  exact belongsTo_of_mem_filesIn (directories ▸ List.mem_append_right _ (List.Mem.head after)) found

theorem precedes_of_mem_filesFrom {package : Package} {folder : Folder} (tree : folder.IsTree)
    {file other : FoundFile} (isRead : file ∈ filesFrom folder [] package.sourceDirectories)
    (belongs : other.BelongsTo package folder) (same : other.path.names = file.path.names) :
    Path.namesPrecede file.directory.names other.directory.names = true := by
  obtain ⟨before, after, directories, -, first⟩ := first_of_mem_filesFrom isRead
  obtain ⟨directory, isDirectory, written, copy, found, isCopy⟩ := exists_mem_filesIn tree belongs
  rw [← written]
  have ascending := ascending_sourceDirectories package
  rw [directories] at isDirectory ascending
  rcases List.mem_append.mp isDirectory with earlier | later
  · exact absurd (isCopy.trans same) (first directory earlier copy found)
  · rcases List.mem_cons.mp later with rfl | afterwards
    · exact Path.namesPrecede_refl _
    · have fromHere := List.pairwise_cons.mp (List.pairwise_append.mp ascending).2.1
      exact (fromHere.1 directory afterwards).1

/-- Files of a package are named by different texts if they have different paths. -/
theorem nodup_unitNames {package : Package} (written : package.directory.IsWritten)
    {folder : Folder} (tree : folder.IsTree) {files : List FoundFile}
    (belong : ∀ file ∈ files, file.BelongsTo package folder)
    (paths : (files.map (fun file => file.path.names)).Nodup) :
    ((files.map FoundFile.toUnit).map SourceUnit.name).Nodup := by
  have isWritten (file : FoundFile) (among : file ∈ files) : file.path.IsWritten :=
    isWritten_of_present tree ((belong file among).sources.isWritten written)
      (belong file among).present
  rw [List.map_map, List.Nodup, List.pairwise_map]
  refine (List.pairwise_map.mp paths).imp_of_mem (fun {file other} isFile isOther different => ?_)
  exact fun same => different
    (Path.names_eq_of_text_eq (isWritten file isFile) (isWritten other isOther) same)

/-- If all source directories are there and all files that belong to the package are text, then
reading it succeeds. No two of the units have the same name, which is the path of the file; no path
is read twice and none is left out. Where directories with source text lie in each other, it is the
first one that says what module a file defines. -/
theorem read_reads_once {α : Type} (package : Package) (written : package.directory.IsWritten)
    (folder : Folder) (tree : folder.IsTree)
    (present : ∀ directory, package.SourcesIn directory → folder.Has directory)
    (readable : ∀ file : FoundFile, file.BelongsTo package folder → file.text.isSome = true) :
    ∃ files : List FoundFile,
      (package.read folder : Run α (List SourceUnit)).result =
        .ok (files.map FoundFile.toUnit) ∧
      ((files.map FoundFile.toUnit).map SourceUnit.name).Nodup ∧
      (files.map (fun file => file.path.names)).Nodup ∧
      (∀ file ∈ files, file.BelongsTo package folder ∧
        ∀ other : FoundFile, other.BelongsTo package folder →
          other.path.names = file.path.names →
          Path.namesPrecede file.directory.names other.directory.names = true) ∧
      (∀ file : FoundFile, file.BelongsTo package folder →
        ∃ read ∈ files, read.path.names = file.path.names) ∧
      ((∀ directory, package.SourcesIn directory → ".." ∉ directory.names) →
        (files.map FoundFile.location).Nodup) := by
  have paths := nodup_filesFrom tree [] package.sourceDirectories
  refine ⟨filesFrom folder [] package.sourceDirectories, ?_,
    nodup_unitNames written tree (fun _ => belongsTo_of_mem_filesFrom) paths, paths, ?_, ?_, ?_⟩
  · refine (Run.result_bind_of_ok rfl _).trans (result_readDirectories [] ?_ ?_)
    · exact fun directory isDirectory =>
        present directory (sourcesIn_of_mem_sourceDirectories isDirectory)
    · exact fun directory isDirectory file found =>
        readable file (belongsTo_of_mem_filesIn isDirectory found)
  · exact fun file isRead => ⟨belongsTo_of_mem_filesFrom isRead, fun other belongs same =>
      precedes_of_mem_filesFrom tree isRead belongs same⟩
  · intro file belongs
    obtain ⟨directory, isDirectory, -, copy, found, isCopy⟩ := exists_mem_filesIn tree belongs
    rcases exists_mem_filesFrom [] isDirectory found with ⟨_, impossible, _⟩ | ⟨read, isRead, same⟩
    · cases impossible
    · exact ⟨read, isRead, same.trans isCopy⟩
  · intro plain
    refine (List.map_congr_left (fun file isRead => ?_)) ▸ paths
    have belongs := belongsTo_of_mem_filesFrom isRead
    obtain ⟨names, leads⟩ := names_of_present tree belongs.present
    rw [leads, Path.location_eq_names]
    rw [names, List.mem_append, not_or]
    exact ⟨plain _ belongs.sources, fun among =>
      (tree.named _ belongs.present _ (List.mem_append_right _ among)).2.1 rfl⟩

end Package

/-- A package with a program below the directory of its library and one among the tests there. -/
def nestedPackage : Package where
  name := "sketch"
  directory := { pieces := ["work", "sketch"] }
  targets := [
    { kinds := ["lib"], source := "src/lib.rs" },
    { kinds := ["bin"], source := "src/bin/draw.rs" },
    { kinds := ["bin"], source := "src//tests/probe/main.rs" },
    { kinds := ["bin"], source := "./src/main.rs" },
    { kinds := ["test"], source := "tests/all.rs" }]

def nestedFolder : Folder where
  files := [
    (["work", "sketch", "src", "lib.rs"], some "mod grid;"),
    (["work", "sketch", "src", "main.rs"], some "fn main() {}"),
    (["work", "sketch", "src", "grid.rs"], some "struct Cell;"),
    (["work", "sketch", "src", "tests.rs"], some "mod cells;"),
    (["work", "sketch", "src", "bin", "draw.rs"], some "fn main() {}"),
    (["work", "sketch", "src", "tests", "cells.rs"], some "struct Probe;"),
    (["work", "sketch", "src", "tests", "probe", "main.rs"], some "fn main() {}"),
    (["work", "sketch", "tests", "all.rs"], some "fn all() {}")]

theorem sourcesIn_nestedPackage_iff (directory : Path) :
    nestedPackage.SourcesIn directory ↔ directory ∈ [
      { pieces := ["work", "sketch", "src"] }, { pieces := ["work", "sketch", "src", "bin"] },
      { pieces := ["work", "sketch", "src", "", "tests", "probe"] },
      ({ pieces := ["work", "sketch", ".", "src"] } : Path)] := by
  have parents : nestedPackage.parents = [
      { pieces := ["work", "sketch", "src"] }, { pieces := ["work", "sketch", "src", "bin"] },
      { pieces := ["work", "sketch", "src", "", "tests", "probe"] },
      { pieces := ["work", "sketch", ".", "src"] }] := by
    simp only [Package.parents, Path.join, Path.splitOn_slash]
    decide +kernel
  rw [Package.SourcesIn, parents]
  exact or_iff_left (fun impossible => nomatch impossible.1)

theorem nestedPackage_read_once :
    ∃ files : List FoundFile,
      (nestedPackage.read nestedFolder : Run Unit (List SourceUnit)).result =
        .ok (files.map FoundFile.toUnit) ∧
      ((files.map FoundFile.toUnit).map SourceUnit.name).Nodup ∧
      (files.map FoundFile.location).Nodup ∧
      (∃ file ∈ files, file.path.names = ["work", "sketch", "src", "bin", "draw.rs"] ∧
        modulePath file.relative = ["bin", "draw"]) ∧
      ∃ file ∈ files, file.path.names = ["work", "sketch", "src", "tests", "probe", "main.rs"] ∧
        modulePath file.relative = [] := by
  have written : nestedPackage.directory.IsWritten := by
    unfold Path.IsWritten
    decide +kernel
  have tree : nestedFolder.IsTree := ⟨by decide, by decide +kernel⟩
  have has : ∀ directory, nestedPackage.SourcesIn directory → nestedFolder.Has directory := by
    simp only [sourcesIn_nestedPackage_iff]
    exact fun directory isParent => ⟨directory.location, by revert directory; decide +kernel⟩
  have texts : ∀ file : FoundFile, file.BelongsTo nestedPackage nestedFolder →
      file.text.isSome = true := by
    intro file belongs
    have all : ∀ found ∈ nestedFolder.files, found.2.isSome = true := by decide
    exact all _ belongs.present
  have plain : ∀ directory, nestedPackage.SourcesIn directory → ".." ∉ directory.names := by
    simp only [sourcesIn_nestedPackage_iff]
    decide +kernel
  obtain ⟨files, result, names, -, first, every, apart⟩ :=
    Package.read_reads_once (α := Unit) nestedPackage written nestedFolder tree has texts
  refine ⟨files, result, names, apart plain, ?_, ?_⟩
  · let draw : FoundFile :=
      { directory := { pieces := ["work", "sketch", "src"] }, relative := ["bin", "draw.rs"],
        text := some "fn main() {}" }
    have belongs : draw.BelongsTo nestedPackage nestedFolder :=
      ⟨(sourcesIn_nestedPackage_iff _).mpr (by decide), by decide +kernel,
        draw.isIncluded_iff.mp (by decide +kernel)⟩
    obtain ⟨read, isRead, same⟩ := every draw belongs
    refine ⟨read, isRead, same.trans (by decide +kernel), ?_⟩
    obtain ⟨readBelongs, isFirst⟩ := first read isRead
    have names := (Package.names_of_present tree readBelongs.present).1
    rw [same] at names
    have earliest : ∀ directory, nestedPackage.SourcesIn directory →
        Path.namesPrecede directory.names draw.directory.names = true →
        ∀ relative ∈ Location.relativeTo? directory.names draw.path.names,
          relative = ["bin", "draw.rs"] := by
      simp only [sourcesIn_nestedPackage_iff]
      decide +kernel
    rw [earliest _ readBelongs.sources (isFirst draw belongs same.symm) read.relative
      ((Location.relativeTo?_eq_some_iff ..).mpr names)]
    decide +kernel
  · let probe : FoundFile :=
      { directory := { pieces := ["work", "sketch", "src", "", "tests", "probe"] },
        relative := ["main.rs"], text := some "fn main() {}" }
    have belongs : probe.BelongsTo nestedPackage nestedFolder :=
      ⟨(sourcesIn_nestedPackage_iff _).mpr (by decide), by decide +kernel,
        probe.isIncluded_iff.mp (by decide +kernel)⟩
    obtain ⟨read, isRead, same⟩ := every probe belongs
    refine ⟨read, isRead, same.trans (by decide +kernel), ?_⟩
    obtain ⟨readBelongs, -⟩ := first read isRead
    have names := (Package.names_of_present tree readBelongs.present).1
    rw [same] at names
    have elsewhere : ∀ directory, nestedPackage.SourcesIn directory →
        ∀ relative ∈ Location.relativeTo? directory.names probe.path.names,
          "tests" ∈ relative ∨ relative = ["main.rs"] := by
      simp only [sourcesIn_nestedPackage_iff]
      decide +kernel
    have relative := elsewhere _ readBelongs.sources read.relative
      ((Location.relativeTo?_eq_some_iff ..).mpr names)
    rw [relative.resolve_left readBelongs.isSource.outsideTests]
    decide +kernel

end CrateMetrics
