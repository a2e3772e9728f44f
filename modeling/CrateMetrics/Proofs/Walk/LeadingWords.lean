/-
Paths that start with `crate`, `self` or `super`. The language reads these words as the way to a
module, and what follows as names in it. So does resolution, except where `super` comes after a
written `self`: there it stays in the path like a name, and the path leads to no type at all.
-/

import CrateMetrics.Proofs.Walk.Attribution
import CrateMetrics.SourceUnit

namespace CrateMetrics.Rust

/-! ### Segments of resolved paths -/

private theorem mem_of_mem_ascend {module path : List String} {segment : String}
    (present : segment ∈ ascend module path) : segment ∈ module ∨ segment ∈ path := by
  fun_induction ascend module path with
  | case1 module rest ih =>
      exact (ih present).imp (List.dropLast_subset module ·) (List.mem_cons_of_mem "super")
  | case2 module path _ => exact List.mem_append.mp present

/-- Resolution adds no segment that is neither of the module nor written. -/
theorem mem_of_mem_resolveFrom {module path : List String} {segment : String}
    (present : segment ∈ resolveFrom module path) : segment ∈ module ∨ segment ∈ path := by
  unfold resolveFrom at present
  split at present
  · exact .inr (List.mem_cons_of_mem "crate" present)
  · exact (List.mem_append.mp present).imp_right (List.mem_cons_of_mem "self")
  · exact mem_of_mem_ascend present

/-! ### Leading words -/

/-- What a path may start with before its names: `crate`, or one `super` for each module to leave,
with or without `self` in front. -/
inductive PathStart
  | crate
  | module (written : Bool) (climbs : ℕ)

namespace PathStart

def words : PathStart → List String
  | .crate => ["crate"]
  | .module written climbs => (if written then ["self"] else []) ++ List.replicate climbs "super"

/-- The words, written in the module, do not lead out of the crate. -/
def IsLegal (module : List String) : PathStart → Prop
  | .crate => True
  | .module _ climbs => climbs ≤ module.length

/-- The module in which the language looks for the names. -/
def place (module : List String) : PathStart → List String
  | .crate => []
  | .module _ climbs => module.take (module.length - climbs)

/-- There is a `super` after a written `self`. -/
def climbsFromSelf : PathStart → Bool
  | .crate => false
  | .module written climbs => written && climbs != 0

variable {module rest : List String} {start : PathStart}

theorem mem_leadingWords (start : PathStart) : ∀ word ∈ start.words, word ∈ leadingWords := by
  intro word present
  cases start with
  | crate =>
      rw [List.mem_singleton.mp present]
      decide
  | module written climbs =>
      rcases List.mem_append.mp present with isSelf | isSuper
      · cases written with
        | false => cases isSelf
        | true =>
            rw [List.mem_singleton.mp isSelf]
            decide
      · rw [List.eq_of_mem_replicate isSuper]
        decide

theorem eq_of_climbsFromSelf (climbs : start.climbsFromSelf = true) :
    ∃ count, start = .module true (count + 1) := by
  cases start with
  | crate => cases climbs
  | module written count =>
      obtain ⟨rfl, positive⟩ := Bool.and_eq_true_iff.mp climbs
      obtain ⟨fewer, rfl⟩ := Nat.exists_eq_succ_of_ne_zero (bne_iff_ne.mp positive)
      exact ⟨fewer, rfl⟩

/-! ### Paths that start with them -/

theorem denotes_words (legal : start.IsLegal module) (stays : start.climbsFromSelf = false)
    (rest : List String) : Denotes module (start.words ++ rest) (start.place module ++ rest) := by
  cases start with
  | crate => exact .fromCrate rest
  | module written climbs =>
      cases climbs with
      | zero =>
          rw [place, Nat.sub_zero, List.take_length]
          cases written with
          | false => exact .fromHere rest
          | true => exact .fromSelf rest
      | succ climbs =>
          cases written with
          | false => exact .fromAbove (climbs + 1) rest (Nat.le_add_left 1 climbs) legal
          | true => cases stays

/-- Of the words only the `self` is read. -/
theorem resolveFrom_words_of_climbs (climbs : start.climbsFromSelf = true)
    (module rest : List String) :
    resolveFrom module (start.words ++ rest) = module ++ (start.words.tail ++ rest) := by
  obtain ⟨count, rfl⟩ := eq_of_climbsFromSelf climbs
  rfl

theorem super_mem_resolveFrom (climbs : start.climbsFromSelf = true) (module rest : List String) :
    "super" ∈ resolveFrom module (start.words ++ rest) := by
  rw [resolveFrom_words_of_climbs climbs]
  obtain ⟨count, rfl⟩ := eq_of_climbsFromSelf climbs
  exact List.mem_append_right _ (List.mem_append_left _ (List.Mem.head _))

section

variable (moduleNames : ∀ segment ∈ module, IsName segment)
  (names : ∀ segment ∈ rest, IsName segment)

include moduleNames names

theorem isName_of_mem_meaning (start : PathStart) :
    ∀ segment ∈ start.place module ++ rest, IsName segment := by
  intro segment present
  rcases List.mem_append.mp present with above | below
  · cases start with
    | crate => cases above
    | module _ _ => exact moduleNames segment (List.mem_of_mem_take above)
  · exact names segment below

theorem resolveFrom_words_of_stays (legal : start.IsLegal module)
    (stays : start.climbsFromSelf = false) :
    resolveFrom module (start.words ++ rest) = start.place module ++ rest := by
  have meant := isName_of_mem_meaning moduleNames names start
  exact resolveFrom_of_denotes (denotes_words legal stays rest)
    (fun segment present => (meant segment present).leadsNowhere)

theorem free_resolveFrom_words_iff (legal : start.IsLegal module) :
    (∀ segment ∈ resolveFrom module (start.words ++ rest), segment ∉ leadingWords) ↔
      start.climbsFromSelf = false := by
  constructor
  · intro free
    rw [Bool.eq_false_iff]
    intro climbs
    exact free "super" (super_mem_resolveFrom climbs module rest) (by decide)
  · intro stays segment present
    rw [resolveFrom_words_of_stays moduleNames names legal stays] at present
    exact (isName_of_mem_meaning moduleNames names start segment present).leadsNowhere

theorem resolveFrom_words_eq_iff (legal : start.IsLegal module) :
    resolveFrom module (start.words ++ rest) = start.place module ++ rest ↔
      start.climbsFromSelf = false := by
  constructor
  · intro same
    rw [← free_resolveFrom_words_iff moduleNames names legal, same]
    exact fun segment present =>
      (isName_of_mem_meaning moduleNames names start segment present).leadsNowhere
  · exact resolveFrom_words_of_stays moduleNames names legal

/-! ### Classes -/

theorem noColon_of_mem_resolveFrom (start : PathStart) :
    ∀ segment ∈ resolveFrom module (start.words ++ rest), ':' ∉ segment.toList := by
  have words : ∀ word ∈ leadingWords, ':' ∉ word.toList := by decide
  intro segment present
  rcases mem_of_mem_resolveFrom present with above | written
  · exact (moduleNames segment above).noColon
  · rcases List.mem_append.mp written with isWord | below
    · exact words segment (start.mem_leadingWords segment isWord)
    · exact (names segment below).noColon

theorem resolveFrom_words_ne_nil (legal : start.IsLegal module) (nonempty : rest ≠ []) :
    resolveFrom module (start.words ++ rest) ≠ [] := by
  cases climbs : start.climbsFromSelf with
  | false =>
      rw [resolveFrom_words_of_stays moduleNames names legal climbs]
      exact List.append_ne_nil_of_right_ne_nil _ nonempty
  | true =>
      rw [resolveFrom_words_of_climbs climbs, ← List.append_assoc]
      exact List.append_ne_nil_of_right_ne_nil _ nonempty

/-- What the path is resolved to has the name of a type only if this is the type it means. -/
theorem qualify_resolveFrom_words_eq_iff (legal : start.IsLegal module) (nonempty : rest ≠ [])
    {type : List String} (typeNonempty : type ≠ [])
    (typeNames : ∀ segment ∈ type, IsName segment) :
    Text.qualify (resolveFrom module (start.words ++ rest)) = Text.qualify type ↔
      type = start.place module ++ rest ∧ start.climbsFromSelf = false := by
  constructor
  · intro same
    have resolved : resolveFrom module (start.words ++ rest) = type :=
      Text.qualify_injective (resolveFrom_words_ne_nil moduleNames names legal nonempty)
        typeNonempty (noColon_of_mem_resolveFrom moduleNames names start)
        (fun segment present => (typeNames segment present).noColon) same
    have stays : start.climbsFromSelf = false := by
      rw [← free_resolveFrom_words_iff moduleNames names legal, resolved]
      exact fun segment present => (typeNames segment present).leadsNowhere
    exact ⟨resolved ▸ resolveFrom_words_of_stays moduleNames names legal stays, stays⟩
  · rintro ⟨rfl, stays⟩
    rw [resolveFrom_words_of_stays moduleNames names legal stays]

end

end PathStart

open ModuleScope (useLeaves ofItems)

/-- A path of the language is resolved to what it means, and to names alone, exactly if it has no
`super` after a written `self`; of the words in front of such a path only the `self` is read. Where
no import has a say, the class of a path is that of the type it means, or else that of no type. -/
theorem PathStart.resolveFrom_eq_place_iff {module rest : List String} (start : PathStart)
    (legal : start.IsLegal module) (moduleNames : ∀ segment ∈ module, IsName segment)
    (names : ∀ segment ∈ rest, IsName segment) (nonempty : rest ≠ []) :
    (resolveFrom module (start.words ++ rest) = start.place module ++ rest ↔
      start.climbsFromSelf = false) ∧
    ((∀ segment ∈ resolveFrom module (start.words ++ rest), segment ∉ leadingWords) ↔
      start.climbsFromSelf = false) ∧
    (start.climbsFromSelf = true →
      resolveFrom module (start.words ++ rest) = module ++ (start.words.tail ++ rest)) ∧
    ∀ items : List Item,
      (∀ first, (start.words ++ rest).head? = some first →
        ∀ leaf ∈ useLeaves items, leaf.bound? ≠ some first) →
      ∀ type, type ≠ [] → (∀ segment ∈ type, IsName segment) →
        ((ofItems module items).className (start.words ++ rest) = Text.qualify type ↔
          type = start.place module ++ rest ∧ start.climbsFromSelf = false) := by
  refine ⟨resolveFrom_words_eq_iff moduleNames names legal,
    free_resolveFrom_words_iff moduleNames names legal, ?_, ?_⟩
  · intro climbs
    exact resolveFrom_words_of_climbs climbs module rest
  · intro items unbound type typeNonempty typeNames
    rw [ModuleScope.className, ModuleScope.resolve_of_unbound module items unbound]
    exact qualify_resolveFrom_words_eq_iff moduleNames names legal nonempty typeNonempty typeNames

theorem gridPaths_resolved :
    resolveFrom ["shapes", "grid"] ["super", "super", "lines", "Row"] = ["lines", "Row"] ∧
    (ofItems ["shapes", "grid"] []).className ["super", "super", "lines", "Row"] =
      Text.qualify ["lines", "Row"] ∧
    ∀ type, type ≠ [] → (∀ segment ∈ type, IsName segment) →
      (ofItems ["shapes", "grid"] []).className ["self", "super", "lines", "Row"] ≠
        Text.qualify type := by
  have plain : ∀ segment ∈ ["shapes", "grid"] ++ ["lines", "Row"],
      segment ∉ leadingWords ∧ ':' ∉ segment.toList := by decide
  have moduleNames : ∀ segment ∈ ["shapes", "grid"], IsName segment := fun segment present =>
    ⟨(plain segment (List.mem_append_left _ present)).1,
      (plain segment (List.mem_append_left _ present)).2⟩
  have names : ∀ segment ∈ ["lines", "Row"], IsName segment := fun segment present =>
    ⟨(plain segment (List.mem_append_right _ present)).1,
      (plain segment (List.mem_append_right _ present)).2⟩
  have nonempty : ["lines", "Row"] ≠ [] := by decide
  have twoUp : (PathStart.module false 2).IsLegal ["shapes", "grid"] := Nat.le_refl 2
  have oneUp : (PathStart.module true 1).IsLegal ["shapes", "grid"] := Nat.le_succ 1
  obtain ⟨follows, -, -, classes⟩ :=
    (PathStart.module false 2).resolveFrom_eq_place_iff twoUp moduleNames names nonempty
  obtain ⟨-, -, -, noClasses⟩ :=
    (PathStart.module true 1).resolveFrom_eq_place_iff oneUp moduleNames names nonempty
  refine ⟨follows.mpr rfl, ?_, ?_⟩
  · exact (classes [] (fun _ _ _ impossible => nomatch impossible) _ nonempty names).mpr ⟨rfl, rfl⟩
  · intro type typeNonempty typeNames same
    have found := noClasses [] (fun _ _ _ impossible => nomatch impossible) type typeNonempty
      typeNames
    exact Bool.noConfusion (found.mp same).2

/-- A file that declares a type, and that of a module in it with a path to this type. -/
def upwardUnits : List SourceUnit :=
  [{ name := "src/lib.rs", source := "struct Cell;" },
    { name := "src/shapes.rs", source := "impl self::super::Cell {}", module := ["shapes"] }]

/-- The language allows the path and reads it as one to the declared type, but it is resolved to
another one, and so the `impl` block is counted for another class than the declaration. -/
theorem upwardUnits_part_cell :
    (PathStart.module true 1).IsLegal ["shapes"] ∧
    (PathStart.module true 1).words ++ ["Cell"] = ["self", "super", "Cell"] ∧
    (PathStart.module true 1).place ["shapes"] ++ ["Cell"] = ["Cell"] ∧
    resolveFrom ["shapes"] ["self", "super", "Cell"] = ["shapes", "super", "Cell"] ∧
    resolveFrom ["shapes"] ["self", "super", "Cell"] ≠ ["Cell"] ∧
    ¬ (∀ segment ∈ resolveFrom ["shapes"] ["self", "super", "Cell"], segment ∉ leadingWords) ∧
    upwardUnits.map (fun unit => unit.tree.toOption.map (fun file => file.walk unit.module)) =
      [some [.enterClass "Cell", .exitClass "Cell"],
        some [.enterClass "shapes::super::Cell", .exitClass "shapes::super::Cell"]] :=
  ⟨Nat.le_refl 1, rfl, rfl, rfl, by decide, by decide, by decide +kernel⟩

end CrateMetrics.Rust
