/-
Paths in order. Lists of names are in a total order, and a list of paths that is built by insertion
is ascending and holds each path once. The text of a path says through which names it leads, and
where it leads is settled by them.
-/

import CrateMetrics.Folder
import Mathlib.Data.List.Induction
import Mathlib.Data.String.Basic

namespace CrateMetrics

namespace Path

/-! ### The order of names -/

theorem nameComesBefore_iff (left right : String) :
    nameComesBefore left right = true ↔ right ≠ ".." ∧ (left = ".." ∨ left < right) := by
  unfold nameComesBefore
  cases leftUp : left == ".." with
  | true =>
      rw [beq_iff_eq] at leftUp
      simp [leftUp]
  | false =>
      rw [beq_eq_false_iff_ne] at leftUp
      cases rightUp : right == ".." with
      | true =>
          rw [beq_iff_eq] at rightUp
          simp [rightUp]
      | false =>
          rw [beq_eq_false_iff_ne] at rightUp
          simp [leftUp, rightUp]

theorem nameComesBefore_irrefl (name : String) : ¬nameComesBefore name name = true := by
  rw [nameComesBefore_iff]
  rintro ⟨notUp, isUp | less⟩
  · exact notUp isUp
  · exact String.lt_irrefl name less

theorem nameComesBefore_trans {first second third : String}
    (before : nameComesBefore first second = true) (after : nameComesBefore second third = true) :
    nameComesBefore first third = true := by
  rw [nameComesBefore_iff] at before after ⊢
  have less : second < third := after.2.resolve_left before.1
  exact ⟨after.1, before.2.imp_right (fun lessFirst => String.lt_trans lessFirst less)⟩

theorem nameComesBefore_total (left right : String) :
    nameComesBefore left right = true ∨ left = right ∨ nameComesBefore right left = true := by
  rw [nameComesBefore_iff, nameComesBefore_iff]
  by_cases leftUp : left = ".."
  · by_cases rightUp : right = ".."
    · exact .inr (.inl (leftUp.trans rightUp.symm))
    · exact .inl ⟨rightUp, .inl leftUp⟩
  · by_cases rightUp : right = ".."
    · exact .inr (.inr ⟨leftUp, .inl rightUp⟩)
    · by_cases less : left < right
      · exact .inl ⟨rightUp, .inr less⟩
      · by_cases greater : right < left
        · exact .inr (.inr ⟨leftUp, .inr greater⟩)
        · exact .inr (.inl (String.le_antisymm (String.not_lt.mp greater) (String.not_lt.mp less)))

theorem namesPrecede_cons_iff (left right : String) (leftRest rightRest : List String) :
    namesPrecede (left :: leftRest) (right :: rightRest) = true ↔
      nameComesBefore left right = true ∨
        left = right ∧ namesPrecede leftRest rightRest = true := by
  rw [namesPrecede, Bool.or_eq_true, Bool.and_eq_true, beq_iff_eq]

theorem namesPrecede_refl (names : List String) : namesPrecede names names = true := by
  induction names with
  | nil => rfl
  | cons name rest ih => exact (namesPrecede_cons_iff ..).mpr (.inr ⟨rfl, ih⟩)

theorem namesPrecede_trans {first second third : List String}
    (before : namesPrecede first second = true) (after : namesPrecede second third = true) :
    namesPrecede first third = true := by
  induction first generalizing second third with
  | nil => rfl
  | cons name rest ih =>
      cases second with
      | nil => cases before
      | cons secondName secondRest =>
          cases third with
          | nil => cases after
          | cons thirdName thirdRest =>
              rw [namesPrecede_cons_iff] at before after ⊢
              rcases before with before | ⟨rfl, before⟩
              · rcases after with after | ⟨rfl, _⟩
                · exact .inl (nameComesBefore_trans before after)
                · exact .inl before
              · exact after.imp_right (fun same => ⟨same.1, ih before same.2⟩)

theorem namesPrecede_total (left right : List String) :
    namesPrecede left right = true ∨ namesPrecede right left = true := by
  induction left generalizing right with
  | nil => exact .inl rfl
  | cons name rest ih =>
      cases right with
      | nil => exact .inr rfl
      | cons rightName rightRest =>
          rw [namesPrecede_cons_iff, namesPrecede_cons_iff]
          rcases nameComesBefore_total name rightName with before | rfl | after
          · exact .inl (.inl before)
          · exact (ih rightRest).imp (fun precedes => .inr ⟨rfl, precedes⟩)
              (fun precedes => .inr ⟨rfl, precedes⟩)
          · exact .inr (.inl after)

theorem namesPrecede_antisymm {left right : List String}
    (before : namesPrecede left right = true) (after : namesPrecede right left = true) :
    left = right := by
  induction left generalizing right with
  | nil =>
      cases right with
      | nil => rfl
      | cons _ _ => cases after
  | cons name rest ih =>
      cases right with
      | nil => cases before
      | cons rightName rightRest =>
          rw [namesPrecede_cons_iff] at before after
          rcases before with before | ⟨rfl, before⟩
          · rcases after with after | ⟨same, _⟩
            · exact absurd (nameComesBefore_trans before after) (nameComesBefore_irrefl name)
            · exact absurd (same ▸ before) (nameComesBefore_irrefl rightName)
          · rcases after with after | ⟨_, after⟩
            · exact absurd after (nameComesBefore_irrefl name)
            · rw [ih before after]

/-! ### Ascending lists of paths -/

theorem isSame_iff (left right : Path) : left.isSame right = true ↔ left.names = right.names :=
  beq_iff_eq

theorem mem_of_mem_insert {path other : Path} {paths : List Path}
    (present : other ∈ insert path paths) : other = path ∨ other ∈ paths := by
  induction paths with
  | nil => exact .inl (List.mem_singleton.mp present)
  | cons head rest ih =>
      rw [insert] at present
      split at present
      · exact .inr present
      · split at present
        · exact List.mem_cons.mp present
        · rcases List.mem_cons.mp present with isHead | later
          · exact .inr (isHead ▸ List.Mem.head rest)
          · exact (ih later).imp_right (List.Mem.tail head)

theorem mem_names_insert_iff (path : Path) (paths : List Path) (found : List String) :
    found ∈ (insert path paths).map names ↔ found = path.names ∨ found ∈ paths.map names := by
  induction paths with
  | nil =>
      rw [insert, List.map_singleton, List.mem_singleton, List.map_nil, List.mem_nil_iff, or_false]
  | cons head rest ih =>
      rw [insert]
      by_cases same : path.isSame head = true
      · rw [if_pos same, List.map_cons, List.mem_cons, (isSame_iff path head).mp same, ← or_assoc,
          or_self]
      · rw [if_neg same]
        split
        · rw [List.map_cons, List.mem_cons]
        · rw [List.map_cons, List.map_cons, List.mem_cons, List.mem_cons, ih, or_left_comm]

/-- The paths are in ascending order, and none comes twice. -/
def Ascending (paths : List Path) : Prop :=
  paths.Pairwise (fun left right =>
    namesPrecede left.names right.names = true ∧ left.names ≠ right.names)

theorem Ascending.insert {paths : List Path} (ascending : Ascending paths) (path : Path) :
    Ascending (insert path paths) := by
  induction paths with
  | nil => exact List.pairwise_singleton _ path
  | cons head rest ih =>
      obtain ⟨afterHead, restAscending⟩ := List.pairwise_cons.mp ascending
      rw [Path.insert]
      by_cases same : path.isSame head = true
      · rw [if_pos same]
        exact ascending
      · have different : path.names ≠ head.names := fun equal => same ((isSame_iff ..).mpr equal)
        rw [if_neg same]
        by_cases before : namesPrecede path.names head.names = true
        · rw [if_pos before]
          refine List.pairwise_cons.mpr ⟨?_, ascending⟩
          intro other present
          rcases List.mem_cons.mp present with rfl | later
          · exact ⟨before, different⟩
          · obtain ⟨precedes, distinct⟩ := afterHead other later
            refine ⟨namesPrecede_trans before precedes, fun equal => distinct ?_⟩
            exact namesPrecede_antisymm precedes (equal ▸ before)
        · have after : namesPrecede head.names path.names = true :=
            (namesPrecede_total _ _).resolve_left before
          rw [if_neg before]
          refine List.pairwise_cons.mpr ⟨?_, ih restAscending⟩
          intro other present
          rcases mem_of_mem_insert present with rfl | later
          · exact ⟨after, different.symm⟩
          · exact afterHead other later

/-- The paths inserted one after the other. -/
def sorted (paths : List Path) : List Path :=
  paths.foldl (fun found path => insert path found) []

theorem sorted_concat (paths : List Path) (last : Path) :
    sorted (paths ++ [last]) = insert last (sorted paths) := by
  rw [sorted, List.foldl_append]
  rfl

theorem ascending_sorted (paths : List Path) : Ascending (sorted paths) := by
  induction paths using List.reverseRecOn with
  | nil => exact List.Pairwise.nil
  | append_singleton paths last ih =>
      rw [sorted_concat]
      exact ih.insert last

theorem mem_of_mem_sorted {paths : List Path} {path : Path} (present : path ∈ sorted paths) :
    path ∈ paths := by
  induction paths using List.reverseRecOn with
  | nil => cases present
  | append_singleton paths last ih =>
      rw [sorted_concat] at present
      rcases mem_of_mem_insert present with rfl | earlier
      · exact List.mem_concat_self
      · exact List.mem_append_left _ (ih earlier)

theorem mem_names_sorted_iff (paths : List Path) (found : List String) :
    found ∈ (sorted paths).map names ↔ found ∈ paths.map names := by
  induction paths using List.reverseRecOn with
  | nil => exact Iff.rfl
  | append_singleton paths last ih =>
      rw [sorted_concat, mem_names_insert_iff, ih, List.map_append, List.mem_append,
        List.map_singleton, List.mem_singleton, or_comm]

theorem exists_mem_sorted {paths : List Path} {path : Path} (present : path ∈ paths) :
    ∃ kept ∈ sorted paths, kept.names = path.names :=
  List.mem_map.mp ((mem_names_sorted_iff paths path.names).mpr (List.mem_map_of_mem present))

theorem sorted_eq_nil_iff (paths : List Path) : sorted paths = [] ↔ paths = [] := by
  constructor
  · intro nothing
    refine List.eq_nil_iff_forall_not_mem.mpr (fun path present => ?_)
    obtain ⟨kept, isKept, _⟩ := exists_mem_sorted present
    rw [nothing] at isKept
    cases isKept
  · rintro rfl
    rfl

/-! ### Texts as paths -/

private theorem splitOnAux_slash (text : String) (start here : String.Pos.Raw)
    (found : List String) :
    text.splitOnAux "/" start here 0 found = text.splitAux (· == '/') start here found := by
  have slash : String.Pos.Raw.get "/" 0 = '/' := by decide
  have closed : String.Pos.Raw.atEnd "/" (String.Pos.Raw.next "/" 0) = true := by decide
  have width : String.Pos.Raw.next "/" 0 = ⟨1⟩ := by decide
  fun_induction String.splitAux text (· == '/') start here found with
  | case1 start here found atEnd => rw [String.splitOnAux, if_pos atEnd]
  | case2 start here found inside _ isSlash next ih =>
      have back : (String.Pos.Raw.next text here).unoffsetBy (String.Pos.Raw.next "/" 0) =
          here := by
        rw [width, String.Pos.Raw.next, eq_of_beq isSlash]
        rfl
      rw [String.splitOnAux, if_neg inside, slash, if_pos isSlash]
      simp only [closed, back, if_true]
      exact ih
  | case3 start here found inside _ other ih =>
      have back : here.unoffsetBy 0 = here := rfl
      rw [String.splitOnAux, if_neg inside, slash, if_neg other, back]
      exact ih

theorem splitOn_slash (text : String) :
    text.splitOn "/" = (text.toList.splitOnP (· == '/')).map String.ofList := by
  have slash : ("/" == "") = false := by decide
  rw [String.splitOn, slash, if_neg Bool.false_ne_true, splitOnAux_slash]
  exact String.splitToList_of_valid text (· == '/')

private theorem eq_false_of_mem_splitOnP {β : Type} {test : β → Bool} {items part : List β}
    (isPart : part ∈ items.splitOnP test) : ∀ item ∈ part, test item = false := by
  induction items generalizing part with
  | nil =>
      rw [List.splitOnP_nil, List.mem_singleton] at isPart
      rw [isPart]
      exact fun _ impossible => nomatch impossible
  | cons head rest ih =>
      rw [List.splitOnP_cons_eq_if_modifyHead] at isPart
      cases ends : test head with
      | true =>
          rw [ends, if_pos rfl, List.mem_cons] at isPart
          rcases isPart with rfl | later
          · exact fun _ impossible => nomatch impossible
          · exact ih later
      | false =>
          rw [ends, if_neg Bool.false_ne_true] at isPart
          cases parts : rest.splitOnP test with
          | nil => exact absurd parts (List.splitOnP_ne_nil test rest)
          | cons first others =>
              rw [parts, List.modifyHead_cons, List.mem_cons] at isPart
              rw [parts] at ih
              rcases isPart with rfl | later
              · exact List.forall_mem_cons.mpr ⟨ends, ih (List.Mem.head others)⟩
              · exact ih (List.Mem.tail first later)

/-- Between slashes there are none. -/
theorem slash_not_mem_of_mem_splitOn {text piece : String} (isPiece : piece ∈ text.splitOn "/") :
    '/' ∉ piece.toList := by
  rw [splitOn_slash] at isPiece
  obtain ⟨part, isPart, rfl⟩ := List.mem_map.mp isPiece
  rw [String.toList_ofList]
  intro present
  exact absurd (eq_false_of_mem_splitOnP isPart '/' present) (by decide)

/-- The path can be read back from its text, for no piece has a slash in it. -/
def IsWritten (path : Path) : Prop :=
  ∀ piece ∈ path.pieces, '/' ∉ piece.toList

theorem IsWritten.below {path : Path} (written : path.IsWritten) {names : List String}
    (noSlashes : ∀ name ∈ names, '/' ∉ name.toList) : (path.below names).IsWritten := by
  have opened : ∀ piece ∈ path.openPieces, '/' ∉ piece.toList := by
    unfold openPieces
    split
    · exact fun piece present => written piece (List.dropLast_subset _ present)
    · exact written
  exact List.forall_mem_append.mpr ⟨opened, noSlashes⟩

theorem IsWritten.trimmed {path : Path} (written : path.IsWritten) : path.trimmed.IsWritten := by
  intro piece present
  have kept := (List.dropWhile_sublist isBlank).subset (List.mem_reverse.mp present)
  exact written piece (List.mem_reverse.mp kept)

theorem IsWritten.join {path : Path} (written : path.IsWritten) (text : String) :
    (path.join text).IsWritten := by
  have noSlashes : ∀ piece ∈ text.splitOn "/", '/' ∉ piece.toList :=
    fun _ => slash_not_mem_of_mem_splitOn
  unfold Path.join
  split
  · rename_i first rest same
    rw [same] at noSlashes
    exact fun piece present => noSlashes piece (List.Mem.tail _ present)
  · exact written.below noSlashes

theorem IsWritten.parent? {path above : Path} (written : path.IsWritten)
    (isParent : path.parent? = some above) : above.IsWritten := by
  unfold Path.parent? at isParent
  split at isParent
  · cases isParent
  · cases isParent
    refine IsWritten.trimmed (fun piece present => ?_)
    exact written.trimmed piece (List.dropLast_subset _ present)

/-- Written paths with one text lead through the same names. -/
theorem names_eq_of_text_eq {path other : Path} (written : path.IsWritten)
    (otherWritten : other.IsWritten) (same : path.text = other.text) :
    path.names = other.names := by
  -- The root and a lone empty piece have one text, and both lead through no names.
  have readBack {path : Path} (written : path.IsWritten) :
      path.names = (((path.text.toList.drop 1).splitOn '/').map String.ofList).filter
        (fun piece => !isBlank piece) := by
    have slashed : path.text.toList.drop 1 =
        ['/'].intercalate (path.pieces.map String.toList) := by
      rw [text, String.toList_append, String.toList_intercalate]
      rfl
    rw [slashed]
    by_cases root : path.pieces = []
    · rw [names, root]
      rfl
    · rw [List.splitOn_intercalate '/' (List.forall_mem_map.mpr written)
        (fun none => root (List.map_eq_nil_iff.mp none)), List.map_map]
      have back : String.ofList ∘ String.toList = id := funext (fun _ => String.ofList_toList)
      rw [back, List.map_id, names]
  rw [readBack written, readBack otherWritten, same]

/-! ### Where paths lead -/

theorem names_openPieces (path : Path) :
    path.openPieces.filter (fun piece => !isBlank piece) = path.names := by
  unfold openPieces names
  by_cases closed : path.pieces.getLast? = some ""
  · obtain ⟨front, same⟩ := List.getLast?_eq_some_iff.mp closed
    rw [same]
    simp [isBlank]
  · rw [if_neg (by simpa using closed)]

theorem names_below (path : Path) {names : List String}
    (proper : ∀ name ∈ names, isBlank name = false) :
    (path.below names).names = path.names ++ names := by
  have kept : names.filter (fun piece => !isBlank piece) = names :=
    List.filter_eq_self.mpr (fun name present => by rw [proper name present]; rfl)
  rw [Path.names, below, List.filter_append, names_openPieces, kept]

/-- Where one more name leads. -/
def advance (here : Location) (name : String) : Location :=
  if name == ".." then here.dropLast else here ++ [name]

/-- Where the names of the path lead if they are followed through directories. -/
def location (path : Path) : Location :=
  path.names.foldl advance []

theorem foldl_advance {names : List String} (plain : ".." ∉ names) (here : Location) :
    names.foldl advance here = here ++ names := by
  induction names generalizing here with
  | nil => exact (List.append_nil here).symm
  | cons name rest ih =>
      rw [List.mem_cons, not_or] at plain
      have stays : (name == "..") = false := beq_false_of_ne (Ne.symm plain.1)
      rw [List.foldl_cons, ih plain.2, advance, stays, if_neg Bool.false_ne_true,
        List.append_assoc, List.singleton_append]

theorem location_eq_names {path : Path} (plain : ".." ∉ path.names) :
    path.location = path.names :=
  foldl_advance plain []

end Path

namespace Folder

private theorem follow?_eq (folder : Folder) {here : Location} {pieces : List String}
    {location : Location} (leads : folder.follow? here pieces = some location) :
    location = (pieces.filter (fun piece => !Path.isBlank piece)).foldl Path.advance here := by
  induction pieces generalizing here with
  | nil => exact (Option.some.inj leads).symm
  | cons piece rest ih =>
      rw [follow?] at leads
      split at leads
      · cases leads
      · cases blank : Path.isBlank piece with
        | true =>
            rw [blank, if_pos rfl] at leads
            rw [ih leads, List.filter_cons, blank]
            rfl
        | false =>
            rw [blank, if_neg Bool.false_ne_true] at leads
            rw [List.filter_cons, blank]
            change _ = List.foldl _ (Path.advance here piece) _
            split at leads
            · rename_i up
              have step : Path.advance here piece = here.dropLast := if_pos up
              rw [ih leads, step]
            · rename_i down
              have step : Path.advance here piece = here ++ [piece] := if_neg down
              rw [ih leads, step]

/-- Whatever there is in the folder, a path that leads anywhere leads where its names do. -/
theorem locate?_eq (folder : Folder) {path : Path} {location : Location}
    (leads : folder.locate? path = some location) : location = path.location :=
  folder.follow?_eq leads

end Folder

end CrateMetrics
