/-
The class that an `impl` block is counted for. Paths are read by the rules of the language: from the
root of the crate, from the module or from those around it, or by the one import of their first
segment. Whichever way the path of a type is written, the block is counted for the class under which
the declaration of this type is known, and for no other one.
-/

import CrateMetrics.Proofs.QualifiedNames
import CrateMetrics.Proofs.Walk.Placement
import CrateMetrics.Proofs.Walk.UseLeaves

namespace CrateMetrics.Rust

/-- The words that lead a path to a module. -/
def leadingWords : List String :=
  ["crate", "self", "super"]

/-- The segment names a module or a type. -/
structure IsName (segment : String) : Prop where
  leadsNowhere : segment ∉ leadingWords
  noColon : ':' ∉ segment.toList

/-! ### Paths without imports -/

/-- What a path means that is written in the module, as long as no import has a say in it. -/
inductive Denotes (module : List String) : List String → List String → Prop
  | fromCrate (rest : List String) : Denotes module ("crate" :: rest) rest
  | fromAbove (count : ℕ) (rest : List String) (climbs : 1 ≤ count)
      (within : count ≤ module.length) :
      Denotes module (List.replicate count "super" ++ rest)
        (module.take (module.length - count) ++ rest)
  | fromSelf (rest : List String) : Denotes module ("self" :: rest) (module ++ rest)
  | fromHere (rest : List String) : Denotes module rest (module ++ rest)

/-- Nothing is dropped for a path that does not lead upwards. -/
private theorem ascend_of_names (module : List String) {rest : List String}
    (names : ∀ segment ∈ rest, segment ∉ leadingWords) : ascend module rest = module ++ rest := by
  cases rest with
  | nil => exact (ascend_nil module).trans (List.append_nil module).symm
  | cons head tail =>
      have stays : "super" ≠ head :=
        ne_of_mem_of_not_mem (by decide) (names head (List.Mem.head tail))
      exact ascend_cons stays.symm tail

private theorem ascend_replicate (module : List String) (count : ℕ) {rest : List String}
    (names : ∀ segment ∈ rest, segment ∉ leadingWords) :
    ascend module (List.replicate count "super" ++ rest) =
      module.take (module.length - count) ++ rest := by
  induction count generalizing module with
  | zero =>
      rw [Nat.sub_zero, List.take_length]
      exact ascend_of_names module names
  | succ count ih =>
      rw [List.replicate_succ, List.cons_append, ascend, ih, List.length_dropLast,
        List.dropLast_eq_take, List.take_take]
      congr 2
      omega

theorem resolveFrom_of_denotes {module path type : List String}
    (denotes : Denotes module path type) (names : ∀ segment ∈ type, segment ∉ leadingWords) :
    resolveFrom module path = type := by
  cases denotes with
  | fromCrate => rfl
  | fromSelf => rfl
  | fromAbove count rest climbs _ =>
      have isSuper : resolveFrom module (List.replicate count "super" ++ rest) =
          ascend module (List.replicate count "super" ++ rest) := by
        obtain ⟨fewer, rfl⟩ := Nat.exists_eq_add_of_le' climbs
        rfl
      rw [isSuper]
      exact ascend_replicate module count
        (fun segment present => names segment (List.mem_append_right _ present))
  | fromHere =>
      have later (segment : String) (present : segment ∈ path) : segment ∉ leadingWords :=
        names segment (List.mem_append_right _ present)
      cases path with
      | nil => rfl
      | cons head tail =>
          have named := later head (List.Mem.head tail)
          have notCrate : "crate" ≠ head := ne_of_mem_of_not_mem (by decide) named
          have notSelf : "self" ≠ head := ne_of_mem_of_not_mem (by decide) named
          rw [resolveFrom_cons notCrate.symm notSelf.symm]
          exact ascend_of_names module later

/-! ### Paths in modules with imports -/

open ModuleScope (useLeaves)

/-- What a path means that is written in the module with these items. A first segment that is not
imported means what is there; one that is imported once means what the import says. The meaning of
`self as name` is left open. -/
inductive Means (module : List String) (items : List Item) : List String → List String → Prop
  | written {path type : List String} (denotes : Denotes module path type)
      (unbound : ∀ first, path.head? = some first → first ∉ leadingWords →
        ∀ leaf ∈ useLeaves items, leaf.bound? ≠ some first) :
      Means module items path type
  | imported {first : String} {rest meaning : List String} {leaf : UseLeaf}
      (isLeaf : leaf ∈ useLeaves items) (bound : leaf.bound? = some first)
      (plain : leaf.name = "self" → leaf.rename = none)
      (only : ∀ other ∈ useLeaves items, other.bound? = some first → other = leaf)
      (denotes : Denotes module leaf.target meaning) :
      Means module items (first :: rest) (meaning ++ rest)

/-- Paths are resolved to what they mean. -/
theorem ModuleScope.resolve_of_means {module path type : List String} {items : List Item}
    (means : Means module items path type) (names : ∀ segment ∈ type, segment ∉ leadingWords)
    (free : ∀ leaf ∈ useLeaves items, ∀ word ∈ leadingWords, leaf.bound? ≠ some word) :
    (ofItems module items).resolve path = type := by
  cases means with
  | written denotes unbound =>
      rw [← resolveFrom_of_denotes denotes names]
      refine resolve_of_unbound module items (fun first isFirst leaf isLeaf => ?_)
      by_cases leads : first ∈ leadingWords
      · exact free leaf isLeaf first leads
      · exact unbound first isFirst leads leaf isLeaf
  | @imported first rest meaning leaf isLeaf bound plain only denotes =>
      have target : resolveFrom module leaf.target = meaning :=
        resolveFrom_of_denotes denotes
          (fun segment present => names segment (List.mem_append_left _ present))
      rw [resolve, imported?_of_only module items isLeaf bound plain only, target]

/-! ### Classes -/

/-- The events hold, one after the other, those of the class with what is inside. -/
def Visits (events : List Event) (className : String) (inside : List Event) : Prop :=
  .enterClass className :: (inside ++ [.exitClass className]) <:+: events

/-- The name of the type or trait that the item declares. -/
def Item.declared? : Item → Option String
  | .typeDeclaration _ name _ => some name
  | .traitDeclaration _ name _ => some name
  | _ => none

/-- Declared types are known by their path. -/
theorem Item.visits_of_declared {item : Item} {name : String} (declares : item.declared? = some name)
    (counted : isTestCode item.attributes = false) (path : List String) (items : List Item) :
    ∃ inside, Visits (item.walk (.ofItems path items)) (Text.qualify (path ++ [name])) inside := by
  cases item with
  | typeDeclaration attributes own fields =>
      cases declares
      refine ⟨fields.map .field, ?_⟩
      rw [Item.walk, show isTestCode attributes = false from counted]
      exact List.infix_refl _
  | traitDeclaration attributes own methods =>
      cases declares
      refine ⟨Method.walkDeclared (.ofItems path items) methods, ?_⟩
      rw [Item.walk, show isTestCode attributes = false from counted]
      exact List.infix_refl _
  | _ => cases declares

/-- An `impl` block whose path means a type is counted for the class of this type: the one under
which its declaration is found, in any file that has it, and under which no other type is found. -/
theorem SourceFile.walk_counts_impl {file : SourceFile} {root path : List String}
    {siblings : List Item} {attributes : List Attribute} {segments : List String}
    {traitName : Option String} {methods : List Method}
    (lies : Item.LiesIn root file.items path siblings
      (.implementation attributes (some segments) traitName methods))
    (fileCounted : isTestCode file.attributes = false) (counted : isTestCode attributes = false)
    (free : ∀ leaf ∈ useLeaves siblings, ∀ word ∈ leadingWords, leaf.bound? ≠ some word)
    {home : List String} {name : String} (means : Means path siblings segments (home ++ [name]))
    (names : ∀ segment ∈ home ++ [name], IsName segment) :
    Visits (file.walk root) (Text.qualify (home ++ [name]))
        (Method.walkImplemented (.ofItems path siblings) traitName methods) ∧
      (∀ (other : SourceFile) (otherRoot : List String) (items : List Item) (item : Item),
        isTestCode other.attributes = false → isTestCode item.attributes = false →
        Item.LiesIn otherRoot other.items home items item → item.declared? = some name →
          ∃ inside, Visits (other.walk otherRoot) (Text.qualify (home ++ [name])) inside) ∧
      ∀ (otherHome : List String) (otherName : String),
        (∀ segment ∈ otherHome ++ [otherName], IsName segment) →
        otherHome ++ [otherName] ≠ home ++ [name] →
          Text.qualify (otherHome ++ [otherName]) ≠ Text.qualify (home ++ [name]) := by
  refine ⟨?_, ?_, ?_⟩
  · have resolved := ModuleScope.resolve_of_means means
      (fun segment present => (names segment present).leadsNowhere) free
    have within := SourceFile.infix_walk fileCounted lies
    rw [Item.walk, counted, ModuleScope.className, resolved] at within
    exact within
  · intro other otherRoot items item otherCounted itemCounted lies declares
    obtain ⟨inside, visits⟩ := item.visits_of_declared declares itemCounted home items
    exact ⟨inside, visits.trans (SourceFile.infix_walk otherCounted lies)⟩
  · intro otherHome otherName otherNames different same
    apply different
    refine Text.qualify_injective ?_ ?_ ?_ ?_ same
    · exact List.append_ne_nil_of_right_ne_nil _ (List.cons_ne_nil otherName [])
    · exact List.append_ne_nil_of_right_ne_nil _ (List.cons_ne_nil name [])
    · exact fun segment present => (otherNames segment present).noColon
    · exact fun segment present => (names segment present).noColon

/-- A module that imports a type from the one next to it, under another name. -/
def shapeItems : List Item :=
  [.use [] (.path "super" (.path "colors" (.group [.name "self", .rename "Color" "Paint"]))),
    .implementation [] (some ["Paint"]) none []]

def shapesFile : SourceFile :=
  { attributes := [], items := [.inlineModule [] "shapes" (some shapeItems)] }

def colorsFile : SourceFile :=
  { attributes := [], items := [.typeDeclaration [] "Color" ["red"]] }

theorem shapesFile_counts_paint :
    Visits (shapesFile.walk ["drawing"]) (Text.qualify ["drawing", "colors", "Color"]) [] ∧
      ∃ inside, Visits (colorsFile.walk ["drawing", "colors"])
        (Text.qualify ["drawing", "colors", "Color"]) inside := by
  have lies : Item.LiesIn ["drawing"] shapesFile.items ["drawing", "shapes"] shapeItems
      (.implementation [] (some ["Paint"]) none []) :=
    .inside (.direct (List.Mem.head [])) rfl (List.Mem.tail _ (List.Mem.head []))
  let paint : UseLeaf := { above := ["super", "colors"], name := "Color", rename := some "Paint" }
  have isLeaf : paint ∈ useLeaves shapeItems := by decide
  have only : ∀ other ∈ useLeaves shapeItems, other.bound? = some "Paint" → other = paint := by
    decide
  have within : 1 ≤ ["drawing", "shapes"].length := by decide
  have denotes : Denotes ["drawing", "shapes"] paint.target ["drawing", "colors", "Color"] :=
    .fromAbove 1 ["colors", "Color"] (Nat.le_refl 1) within
  have means : Means ["drawing", "shapes"] shapeItems ["Paint"]
      (["drawing", "colors"] ++ ["Color"]) :=
    .imported isLeaf rfl (fun isSelf => absurd isSelf (by decide)) only denotes
  have names : ∀ segment ∈ ["drawing", "colors"] ++ ["Color"],
      segment ∉ leadingWords ∧ ':' ∉ segment.toList := by decide
  have free : ∀ leaf ∈ useLeaves shapeItems, ∀ word ∈ leadingWords, leaf.bound? ≠ some word := by
    decide
  obtain ⟨counts, declared, _⟩ := SourceFile.walk_counts_impl lies rfl rfl free means
    (fun segment present => ⟨(names segment present).1, (names segment present).2⟩)
  exact ⟨counts, declared colorsFile ["drawing", "colors"] _ _ rfl rfl
    (.direct (List.Mem.head [])) rfl⟩

end CrateMetrics.Rust
