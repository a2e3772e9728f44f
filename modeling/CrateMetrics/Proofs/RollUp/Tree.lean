/-
Trees of measurements as tables. A node is found by the path of names that leads to it.
Putting a value or a part into a node replaces the one with its name, or adds it.
-/

import CrateMetrics.Measurement
import Mathlib.Data.List.Nodup

namespace CrateMetrics

variable {α β κ : Type}

/-! ### Lists whose elements are told apart by a key -/

section

variable [DecidableEq κ]

/-- Puts an element in the place of the first one with its key, or behind all others. -/
def put (key : β → κ) (new : β) : List β → List β
  | [] => [new]
  | head :: rest => if key head = key new then new :: rest else head :: put key new rest

theorem mem_of_mem_put {key : β → κ} {new item : β} {items : List β}
    (present : item ∈ put key new items) : item = new ∨ item ∈ items := by
  induction items with
  | nil => exact Or.inl (List.mem_singleton.mp present)
  | cons head rest ih =>
      unfold put at present
      by_cases same : key head = key new
      · rw [if_pos same] at present
        cases present with
        | head => exact Or.inl rfl
        | tail _ later => exact Or.inr (List.Mem.tail head later)
      · rw [if_neg same] at present
        cases present with
        | head => exact Or.inr (List.Mem.head rest)
        | tail _ later =>
            rcases ih later with isNew | old
            · exact Or.inl isNew
            · exact Or.inr (List.Mem.tail head old)

theorem mem_keys_of_mem_keys_put {key : β → κ} {new : β} {items : List β} {other : κ}
    (present : other ∈ (put key new items).map key) :
    other = key new ∨ other ∈ items.map key := by
  obtain ⟨item, inPut, isKey⟩ := List.mem_map.mp present
  rcases mem_of_mem_put inPut with isNew | old
  · exact Or.inl (by rw [← isKey, isNew])
  · exact Or.inr (List.mem_map.mpr ⟨item, old, isKey⟩)

theorem nodup_keys_put {key : β → κ} (new : β) {items : List β}
    (distinct : (items.map key).Nodup) : ((put key new items).map key).Nodup := by
  induction items with
  | nil => exact List.nodup_singleton (key new)
  | cons head rest ih =>
      rw [List.map_cons, List.nodup_cons] at distinct
      unfold put
      by_cases same : key head = key new
      · rw [if_pos same, List.map_cons, List.nodup_cons, ← same]
        exact distinct
      · rw [if_neg same, List.map_cons, List.nodup_cons]
        refine ⟨fun later => ?_, ih distinct.2⟩
        rcases mem_keys_of_mem_keys_put later with isNew | old
        · exact same isNew
        · exact distinct.1 old

theorem find?_put (key : β → κ) (new : β) (items : List β) (wanted : κ) :
    (put key new items).find? (fun item => key item == wanted) =
      if key new = wanted then some new else items.find? (fun item => key item == wanted) := by
  induction items with
  | nil =>
      by_cases isWanted : key new = wanted
      · simp [put, isWanted]
      · simp [put, isWanted]
  | cons head rest ih =>
      unfold put
      by_cases same : key head = key new
      · rw [if_pos same, List.find?_cons, List.find?_cons, same]
        by_cases isWanted : key new = wanted
        · simp [isWanted]
        · have passed : (key new == wanted) = false := beq_false_of_ne isWanted
          rw [passed, if_neg isWanted]
      · rw [if_neg same, List.find?_cons, ih, List.find?_cons]
        by_cases isWanted : key new = wanted
        · have passed : (key head == wanted) = false := by
            rw [← isWanted]
            exact beq_false_of_ne same
          simp [isWanted, passed]
        · simp [isWanted]

theorem find?_key_of_mem {key : β → κ} {items : List β}
    (distinct : (items.map key).Nodup) {item : β} (present : item ∈ items) :
    items.find? (fun other => key other == key item) = some item := by
  induction items with
  | nil => cases present
  | cons head rest ih =>
      rw [List.map_cons, List.nodup_cons] at distinct
      cases present with
      | head => simp
      | tail _ later =>
          have different : key head ≠ key item := by
            intro same
            exact distinct.1 (List.mem_map.mpr ⟨item, later, same.symm⟩)
          have passed : (key head == key item) = false := beq_false_of_ne different
          rw [List.find?_cons, passed]
          exact ih distinct.2 later

theorem put_put {key : β → κ} {first second : β} (same : key first = key second)
    (items : List β) : put key second (put key first items) = put key second items := by
  induction items with
  | nil => simp [put, same]
  | cons head rest ih =>
      by_cases here : key head = key first
      · have there : key head = key second := here.trans same
        simp [put, here, same]
      · have elsewhere : ¬ key head = key second := fun equal => here (equal.trans same.symm)
        simp [put, here, elsewhere, ih]

theorem put_eq_append {key : β → κ} {new : β} {items : List β}
    (absent : items.find? (fun item => key item == key new) = none) :
    put key new items = items ++ [new] := by
  induction items with
  | nil => rfl
  | cons head rest ih =>
      rw [List.find?_eq_none] at absent
      have different : key head ≠ key new := by
        intro same
        exact absent head (List.Mem.head rest) (beq_iff_eq.mpr same)
      have later : put key new rest = rest ++ [new] := by
        apply ih
        rw [List.find?_eq_none]
        exact fun item present => absent item (List.Mem.tail head present)
      rw [put, if_neg different, later, List.cons_append]

theorem put_eq_replaceFirst {key : β → κ} {new : β} {items : List β}
    (present : (items.find? (fun item => key item == key new)).isSome) :
    put key new items =
      Measurement.replaceFirst (fun item => key item == key new) new items := by
  induction items with
  | nil => cases present
  | cons head rest ih =>
      unfold put Measurement.replaceFirst
      by_cases same : key head = key new
      · rw [if_pos same, if_pos (beq_iff_eq.mpr same)]
      · rw [if_neg same, if_neg (fun equal => same (beq_iff_eq.mp equal))]
        have passed : (key head == key new) = false := beq_false_of_ne same
        rw [List.find?_cons, passed] at present
        rw [ih present]

end

def Scope.height : Scope → Nat
  | .method => 0
  | .type => 1
  | .package => 2
  | .project => 3

theorem Scope.height_finer {scope part : Scope} (finer : scope.finer = some part) :
    scope.height = part.height + 1 := by
  cases scope with
  | method => cases finer
  | _ =>
      cases finer
      rfl

namespace Measurement

theorem replaceFirst_congr {here there : β → Bool} {new : β} {items : List β}
    (same : ∀ item, item ∈ items → here item = there item) :
    replaceFirst here new items = replaceFirst there new items := by
  induction items with
  | nil => rfl
  | cons head rest ih =>
      rw [replaceFirst, replaceFirst, same head (List.Mem.head rest),
        ih (fun item present => same item (List.Mem.tail head present))]

theorem mem_of_mem_replaceFirst {here : β → Bool} {new item : β} {items : List β}
    (present : item ∈ replaceFirst here new items) : item = new ∨ item ∈ items := by
  induction items with
  | nil => cases present
  | cons head rest ih =>
      unfold replaceFirst at present
      split at present
      · cases present with
        | head => exact Or.inl rfl
        | tail _ later => exact Or.inr (List.Mem.tail head later)
      · cases present with
        | head => exact Or.inr (List.Mem.head rest)
        | tail _ later => exact (ih later).imp_right (List.Mem.tail head)

/-- A replacement with the key of what it replaces leaves the keys as they are. -/
theorem keys_replaceFirst {here : β → Bool} {new : β} {key : β → κ}
    (same : ∀ item, here item = true → key item = key new) (items : List β) :
    (replaceFirst here new items).map key = items.map key := by
  induction items with
  | nil => rfl
  | cons head rest ih =>
      unfold replaceFirst
      cases isHere : here head with
      | true => exact congrArg (· :: rest.map key) (same head isHere).symm
      | false => exact congrArg (key head :: ·) ih

/-! ### Nodes and values by path -/

def part? (tree : Measurement α) (name : String) : Option (Measurement α) :=
  tree.children.find? (fun child => child.name == name)

/-- The node that a path of names leads to. -/
def node? (tree : Measurement α) : List String → Option (Measurement α)
  | [] => some tree
  | name :: rest => (tree.part? name).bind (fun part => part.node? rest)

def lookup (metric : String) (tree : Measurement α) (path : List String) :
    Option (MetricValue α) :=
  (tree.node? path).bind (fun node => node.value? metric)

theorem lookup_nil (metric : String) (tree : Measurement α) :
    tree.lookup metric [] = tree.value? metric := rfl

theorem lookup_cons (metric : String) (tree : Measurement α) (name : String)
    (rest : List String) :
    tree.lookup metric (name :: rest) =
      (tree.part? name).bind (fun part => part.lookup metric rest) := by
  unfold lookup
  rw [node?]
  cases tree.part? name with
  | none => rfl
  | some part => rfl

theorem name_of_value? {tree : Measurement α} {metric : String} {value : MetricValue α}
    (found : tree.value? metric = some value) : value.name = metric := by
  have isNamed := List.find?_some found
  exact eq_of_beq isNamed

theorem name_of_lookup {tree : Measurement α} {metric : String} {path : List String}
    {value : MetricValue α} (found : tree.lookup metric path = some value) :
    value.name = metric := by
  obtain ⟨node, _, isValue⟩ := Option.bind_eq_some_iff.mp found
  exact name_of_value? isValue

theorem name_of_part? {tree part : Measurement α} {name : String}
    (found : tree.part? name = some part) : part.name = name := by
  have isNamed := List.find?_some found
  exact eq_of_beq isNamed

theorem mem_of_part? {tree part : Measurement α} {name : String}
    (found : tree.part? name = some part) : part ∈ tree.children :=
  List.mem_of_find?_eq_some found

theorem anyViolatedIn_iff (children : List (Measurement α)) :
    anyViolatedIn children = true ↔ ∃ child ∈ children, child.anyViolated = true := by
  induction children with
  | nil => simp [anyViolatedIn]
  | cons head rest ih => simp [anyViolatedIn, ih]

theorem anyViolated_iff (tree : Measurement α) :
    tree.anyViolated = true ↔ (∃ value ∈ tree.values, value.violated = true) ∨
      ∃ child ∈ tree.children, child.anyViolated = true := by
  obtain ⟨scope, name, values, children⟩ := tree
  rw [anyViolated, Bool.or_eq_true, List.any_eq_true, anyViolatedIn_iff]

/-- The node lies at the end of the path of names, below the tree. -/
inductive At : Measurement α → List String → Measurement α → Prop
  | here (tree : Measurement α) : At tree [] tree
  | inside {tree child node : Measurement α} {path : List String}
      (present : child ∈ tree.children) (rest : At child path node) :
      At tree (child.name :: path) node

theorem At.child {tree node child : Measurement α} {path : List String}
    (lies : tree.At path node) (present : child ∈ node.children) :
    tree.At (path ++ [child.name]) child := by
  induction lies with
  | here => exact inside present (here child)
  | inside isPart _ ih => exact inside isPart (ih present)

/-- Everywhere in the tree, names tell apart the values of a node and its parts, and the
parts lie one scope below the node. -/
inductive Tidy : Measurement α → Prop
  | intro {tree : Measurement α} (values : (tree.values.map MetricValue.name).Nodup)
      (parts : (tree.children.map Measurement.name).Nodup)
      (finer : ∀ child, child ∈ tree.children → tree.scope.finer = some child.scope)
      (below : ∀ child, child ∈ tree.children → Tidy child) : Tidy tree

namespace Tidy

variable {tree : Measurement α}

theorem values_nodup (tidy : tree.Tidy) : (tree.values.map MetricValue.name).Nodup := by
  cases tidy with
  | intro values parts finer below => exact values

theorem parts_nodup (tidy : tree.Tidy) : (tree.children.map Measurement.name).Nodup := by
  cases tidy with
  | intro values parts finer below => exact parts

theorem finer (tidy : tree.Tidy) {child : Measurement α} (present : child ∈ tree.children) :
    tree.scope.finer = some child.scope := by
  cases tidy with
  | intro values parts finer below => exact finer child present

theorem child (tidy : tree.Tidy) {child : Measurement α} (present : child ∈ tree.children) :
    child.Tidy := by
  cases tidy with
  | intro values parts finer below => exact below child present

end Tidy

theorem Tidy.value?_of_mem {tree : Measurement α} (tidy : tree.Tidy) {value : MetricValue α}
    (present : value ∈ tree.values) : tree.value? value.name = some value :=
  find?_key_of_mem tidy.values_nodup present

theorem Tidy.part?_of_mem {tree child : Measurement α} (tidy : tree.Tidy)
    (present : child ∈ tree.children) : tree.part? child.name = some child :=
  find?_key_of_mem tidy.parts_nodup present

theorem Tidy.at_iff {tree : Measurement α} (tidy : tree.Tidy) (path : List String)
    (node : Measurement α) : tree.At path node ↔ tree.node? path = some node := by
  induction path generalizing tree with
  | nil =>
      constructor
      · intro lies
        cases lies
        rfl
      · intro found
        cases found
        exact At.here _
  | cons name rest ih =>
      constructor
      · intro lies
        cases lies with
        | inside present lower =>
            rw [node?, tidy.part?_of_mem present]
            exact (ih (tidy.child present)).mp lower
      · intro found
        rw [node?] at found
        obtain ⟨part, isPart, later⟩ := Option.bind_eq_some_iff.mp found
        have lower : part.At rest node := (ih (tidy.child (mem_of_part? isPart))).mpr later
        have lies := At.inside (mem_of_part? isPart) lower
        rwa [name_of_part? isPart] at lies

theorem Tidy.lookup_of_at {tree node : Measurement α} (tidy : tree.Tidy) {path : List String}
    (lies : tree.At path node) (metric : String) :
    tree.lookup metric path = node.value? metric := by
  rw [lookup, (tidy.at_iff path node).mp lies]
  rfl

theorem Tidy.of_at {tree node : Measurement α} (tidy : tree.Tidy) {path : List String}
    (lies : tree.At path node) : node.Tidy := by
  induction lies with
  | here => exact tidy
  | inside present _ ih => exact ih (tidy.child present)

/-- Each name of a path leads one scope down. -/
theorem Tidy.height_of_at {tree node : Measurement α} (tidy : tree.Tidy) {path : List String}
    (lies : tree.At path node) : tree.scope.height = node.scope.height + path.length := by
  induction lies with
  | here => rfl
  | inside present _ ih =>
      have lower := ih (tidy.child present)
      have step := Scope.height_finer (tidy.finer present)
      rw [List.length_cons]
      omega

end Measurement

end CrateMetrics
