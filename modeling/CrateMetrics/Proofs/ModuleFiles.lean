/-
The files that define a module. Below a source directory there are at most two of them: the file
that has the name of the module, and the `mod.rs` in the directory of this name. Only the root of
the crate has three. So two files share a module for one of these reasons or not at all.
-/

import CrateMetrics.Proofs.SourceFiles
import Mathlib.Data.Set.Insert

namespace CrateMetrics

/-- The way leads from a source directory to a `.rs` file. -/
def IsSourceWay (relative : List String) : Prop :=
  ∃ above name, relative = above ++ [name ++ ".rs"]

/-- The file with this name defines the module of the directory that it lies in. -/
def StandsForDirectory (above : List String) (name : String) : Prop :=
  name = "mod" ∨ above = [] ∧ (name = "lib" ∨ name = "main")

/-- The files that define the root of the crate. -/
def rootFiles : List (List String) :=
  [["mod.rs"], ["lib.rs"], ["main.rs"]]

theorem not_standsForDirectory_iff (above : List String) (name : String) :
    ¬StandsForDirectory above name ↔
      name ≠ "mod" ∧ (above = [] → name ≠ "lib" ∧ name ≠ "main") := by
  rw [StandsForDirectory, not_or, not_and, not_or]

/-! ### Modules of files -/

private theorem stem_eq (name : String) :
    (if (name ++ ".rs").endsWith ".rs" then ((name ++ ".rs").dropEnd ".rs".length).toString
      else name ++ ".rs") = name := by
  have width : ".rs".length = ".rs".toList.length := rfl
  rw [if_pos ((endsWith_rs_iff _).mpr ⟨name, rfl⟩)]
  apply String.toList_injective
  rw [String.Slice.toString_eq, String.toList_copy_dropEnd, String.toList_append,
    List.length_append, width, Nat.add_sub_cancel, List.take_left]

theorem modulePath_of_standsForDirectory {above : List String} {name : String}
    (stands : StandsForDirectory above name) : modulePath (above ++ [name ++ ".rs"]) = above := by
  rw [modulePath, List.getLast?_concat]
  dsimp only
  rw [stem_eq, List.dropLast_concat]
  rcases stands with isMod | ⟨top, isRoot⟩
  · simp [isMod]
  · simp [top, isRoot]

theorem modulePath_of_not_standsForDirectory {above : List String} {name : String}
    (ordinary : ¬StandsForDirectory above name) :
    modulePath (above ++ [name ++ ".rs"]) = above ++ [name] := by
  obtain ⟨notMod, notRoot⟩ := (not_standsForDirectory_iff above name).mp ordinary
  rw [modulePath, List.getLast?_concat]
  dsimp only
  rw [stem_eq, List.dropLast_concat, if_neg]
  simpa [notMod] using notRoot

/-! ### Files of modules -/

theorem sourceWay_inj {above other : List String} {name otherName : String} :
    above ++ [name ++ ".rs"] = other ++ [otherName ++ ".rs"] ↔
      above = other ∧ name = otherName := by
  rw [← List.concat_eq_append, ← List.concat_eq_append, List.concat_inj, String.append_left_inj]

theorem mem_rootFiles_iff (above : List String) (name : String) :
    above ++ [name ++ ".rs"] ∈ rootFiles ↔ above = [] ∧ StandsForDirectory above name := by
  have files : rootFiles = ["mod", "lib", "main"].map (fun root => [] ++ [root ++ ".rs"]) := rfl
  rw [files, List.mem_map]
  constructor
  · rintro ⟨root, present, same⟩
    obtain ⟨rfl, rfl⟩ := sourceWay_inj.mp same
    simp only [List.mem_cons, List.not_mem_nil, or_false] at present
    exact ⟨rfl, present.imp_right (fun isRoot => ⟨rfl, isRoot⟩)⟩
  · rintro ⟨rfl, stands⟩
    refine ⟨name, ?_, rfl⟩
    simp only [List.mem_cons, List.not_mem_nil, or_false]
    exact stands.imp_right And.right

theorem modulePath_eq_nil_iff {file : List String} (isSource : IsSourceWay file) :
    modulePath file = [] ↔ file ∈ rootFiles := by
  obtain ⟨above, name, rfl⟩ := isSource
  rw [mem_rootFiles_iff]
  by_cases stands : StandsForDirectory above name
  · rw [modulePath_of_standsForDirectory stands, and_iff_left stands]
  · rw [modulePath_of_not_standsForDirectory stands]
    exact iff_of_false (List.concat_ne_nil name above) (fun root => stands root.2)

/-- A module other than the root is defined by the `mod.rs` of its directory or by the file with its
name, if this file does not stand for another module. -/
theorem modulePath_eq_concat_iff {file : List String} (isSource : IsSourceWay file)
    (above : List String) (name : String) :
    modulePath file = above ++ [name] ↔
      file = above ++ [name, "mod.rs"] ∨
        file = above ++ [name ++ ".rs"] ∧ ¬StandsForDirectory above name := by
  have inside : above ++ [name, "mod.rs"] = (above ++ [name]) ++ ["mod" ++ ".rs"] := by
    rw [List.append_assoc]
    rfl
  obtain ⟨directory, stem, rfl⟩ := isSource
  rw [inside, sourceWay_inj, sourceWay_inj]
  by_cases stands : StandsForDirectory directory stem
  · rw [modulePath_of_standsForDirectory stands]
    constructor
    · rintro rfl
      exact .inl ⟨rfl, stands.resolve_right (fun root => List.concat_ne_nil name above root.1)⟩
    · rintro (⟨same, -⟩ | ⟨⟨rfl, rfl⟩, ordinary⟩)
      · exact same
      · exact absurd stands ordinary
  · rw [modulePath_of_not_standsForDirectory stands, ← List.concat_eq_append,
      ← List.concat_eq_append, List.concat_inj]
    constructor
    · rintro ⟨rfl, rfl⟩
      exact .inr ⟨⟨rfl, rfl⟩, stands⟩
    · rintro (⟨-, isMod⟩ | ⟨same, -⟩)
      · exact absurd (.inl isMod) stands
      · exact same

example :
    [["mod", "mod.rs"], ["lib", "mod.rs"], ["net", "main.rs"]].map modulePath =
      [["mod"], ["lib"], ["net", "main"]] := by
  decide +kernel

/-! ### Shared modules -/

theorem modulePath_eq_concat_pair_iff {first second : List String} (isFirst : IsSourceWay first)
    (isSecond : IsSourceWay second) (different : first ≠ second) (above : List String)
    (name : String) :
    modulePath first = above ++ [name] ∧ modulePath second = above ++ [name] ↔
      ¬StandsForDirectory above name ∧
        ({first, second} : Set (List String)) =
          {above ++ [name ++ ".rs"], above ++ [name, "mod.rs"]} := by
  rw [modulePath_eq_concat_iff isFirst, modulePath_eq_concat_iff isSecond, Set.pair_eq_pair_iff]
  constructor
  · rintro ⟨firstInside | ⟨firstBeside, ordinary⟩, secondInside | ⟨secondBeside, alsoOrdinary⟩⟩
    · exact absurd (firstInside.trans secondInside.symm) different
    · exact ⟨alsoOrdinary, .inr ⟨firstInside, secondBeside⟩⟩
    · exact ⟨ordinary, .inl ⟨firstBeside, secondInside⟩⟩
    · exact absurd (firstBeside.trans secondBeside.symm) different
  · rintro ⟨ordinary, ⟨firstBeside, secondInside⟩ | ⟨firstInside, secondBeside⟩⟩
    · exact ⟨.inr ⟨firstBeside, ordinary⟩, .inl secondInside⟩
    · exact ⟨.inl firstInside, .inr ⟨secondBeside, ordinary⟩⟩

/-- Different files define the same module exactly if one has the name of the module and the other
is the `mod.rs` of the directory with this name, or if both define the root of the crate. A `mod.rs`
is not the file of a module `mod`, nor are `lib.rs` and `main.rs` files of modules of these names
where they define the root. -/
theorem modulePath_eq_iff {first second : List String} (isFirst : IsSourceWay first)
    (isSecond : IsSourceWay second) (different : first ≠ second) :
    modulePath first = modulePath second ↔
      (∃ (above : List String) (name : String), name ≠ "mod" ∧
        (above = [] → name ≠ "lib" ∧ name ≠ "main") ∧
        ({first, second} : Set (List String)) =
          {above ++ [name ++ ".rs"], above ++ [name, "mod.rs"]}) ∨
      first ∈ rootFiles ∧ second ∈ rootFiles := by
  have pair := modulePath_eq_concat_pair_iff isFirst isSecond different
  constructor
  · intro same
    rcases List.eq_nil_or_concat' (modulePath second) with root | ⟨above, name, below⟩
    · exact .inr ⟨(modulePath_eq_nil_iff isFirst).mp (same.trans root),
        (modulePath_eq_nil_iff isSecond).mp root⟩
    · obtain ⟨ordinary, files⟩ := (pair above name).mp ⟨same.trans below, below⟩
      obtain ⟨notMod, notRoot⟩ := (not_standsForDirectory_iff above name).mp ordinary
      exact .inl ⟨above, name, notMod, notRoot, files⟩
  · rintro (⟨above, name, notMod, notRoot, files⟩ | ⟨firstRoot, secondRoot⟩)
    · have ordinary := (not_standsForDirectory_iff above name).mpr ⟨notMod, notRoot⟩
      obtain ⟨firstBelow, secondBelow⟩ := (pair above name).mpr ⟨ordinary, files⟩
      exact firstBelow.trans secondBelow.symm
    · exact ((modulePath_eq_nil_iff isFirst).mpr firstRoot).trans
        ((modulePath_eq_nil_iff isSecond).mpr secondRoot).symm

/-- Below a directory `lib.rs` is the file of a module like any other; at the top it is not. -/
theorem libFiles_share_below_net :
    IsSourceWay ["net", "lib.rs"] ∧ IsSourceWay ["net", "lib", "mod.rs"] ∧
    modulePath ["net", "lib.rs"] = modulePath ["net", "lib", "mod.rs"] ∧
    IsSourceWay ["lib.rs"] ∧ IsSourceWay ["lib", "mod.rs"] ∧
    modulePath ["lib.rs"] ≠ modulePath ["lib", "mod.rs"] := by
  have beside : IsSourceWay ["net", "lib.rs"] := ⟨["net"], "lib", rfl⟩
  have inside : IsSourceWay ["net", "lib", "mod.rs"] := ⟨["net", "lib"], "mod", rfl⟩
  have root : IsSourceWay ["lib.rs"] := ⟨[], "lib", rfl⟩
  have below : IsSourceWay ["lib", "mod.rs"] := ⟨["lib"], "mod", rfl⟩
  refine ⟨beside, inside, ?_, root, below, ?_⟩
  · have notTop : ["net"] = [] → "lib" ≠ "lib" ∧ "lib" ≠ "main" :=
      fun impossible => nomatch impossible
    exact (modulePath_eq_iff beside inside (by decide)).mpr
      (.inl ⟨["net"], "lib", by decide, notTop, rfl⟩)
  · rw [Ne, modulePath_eq_iff root below (by decide)]
    rintro (⟨above, name, -, notRoot, same⟩ | ⟨-, isRoot⟩)
    · rcases Set.pair_eq_pair_iff.mp same with ⟨isRoot, -⟩ | ⟨isInside, -⟩
      · obtain ⟨rfl, rfl⟩ : [] = above ∧ "lib" = name := sourceWay_inj.mp isRoot
        exact (notRoot rfl).1 rfl
      · have lengths := congrArg List.length isInside
        simp at lengths
    · exact absurd isRoot (by decide)

end CrateMetrics
