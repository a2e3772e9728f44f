/-
The nodes of a package. A node below the package is there because some metric has a value for
it, so nodes are found by their values. Methods are not merged: where several units measure a
method, its node shows what the last of them says.
-/

import CrateMetrics.Proofs.RollUp.PackageTree

namespace CrateMetrics

open Measurement

variable {α β κ : Type}

theorem put_ne_nil [DecidableEq κ] (key : β → κ) (new : β) (items : List β) :
    put key new items ≠ [] := by
  cases items with
  | nil => exact List.cons_ne_nil new []
  | cons head rest =>
      unfold put
      split
      · exact List.cons_ne_nil new rest
      · exact List.cons_ne_nil head _

namespace Measurement

/-! ### Nodes with values -/

/-- The node and all nodes below it have values. -/
inductive Valued : Measurement α → Prop
  | intro {tree : Measurement α} (values : tree.values ≠ [])
      (parts : ∀ child, child ∈ tree.children → Valued child) : Valued tree

theorem Valued.values_ne_nil {tree : Measurement α} (valued : tree.Valued) : tree.values ≠ [] := by
  cases valued with
  | intro values parts => exact values

theorem Valued.part {tree child : Measurement α} (valued : tree.Valued)
    (present : child ∈ tree.children) : child.Valued := by
  cases valued with
  | intro values parts => exact parts child present

theorem Valued.of_at {tree node : Measurement α} (valued : tree.Valued) {path : List String}
    (lies : tree.At path node) : node.Valued := by
  induction lies with
  | here => exact valued
  | inside present _ ih => exact ih (valued.part present)

theorem valued_putValue {tree : Measurement α}
    (parts : ∀ child, child ∈ tree.children → child.Valued) (value : MetricValue α) :
    (tree.putValue value).Valued :=
  Valued.intro (put_ne_nil MetricValue.name value tree.values) parts

theorem parts_putPart {tree part : Measurement α}
    (parts : ∀ child, child ∈ tree.children → child.Valued) (valued : part.Valued)
    (child : Measurement α) (present : child ∈ (tree.putPart part).children) : child.Valued := by
  rcases mem_of_mem_put present with isPart | old
  · rw [isPart]
    exact valued
  · exact parts child old

/-! ### Adding children -/

/-- Adding a child of the one scope that all children have: it is found by its name, unless there
was one with this name. -/
theorem find?_addNew {children : List (Measurement α)} {child : Measurement α}
    (sameScope : ∀ other, other ∈ children → other.scope = child.scope) (name : String) :
    (addNew children child).find? (fun other => other.name == name) =
      (children.find? (fun other => other.name == name)).or
        (if child.name = name then some child else none) := by
  have known : children.any (isNamed child.scope child.name) = true ↔
      (children.find? (fun other => other.name == child.name)).isSome = true := by
    simp only [List.any_eq_true, List.find?_isSome, isNamed, Bool.and_eq_true, beq_iff_eq]
    constructor
    · rintro ⟨other, inside, _, same⟩
      exact ⟨other, inside, same⟩
    · rintro ⟨other, inside, same⟩
      exact ⟨other, inside, sameScope other inside, same⟩
  have alone : [child].find? (fun other => other.name == name) =
      if child.name = name then some child else none := by
    by_cases same : child.name = name
    · simp [same]
    · simp [same]
  unfold addNew
  by_cases present : children.any (isNamed child.scope child.name) = true
  · rw [if_pos present]
    by_cases same : child.name = name
    · obtain ⟨other, found⟩ := Option.isSome_iff_exists.mp (known.mp present)
      rw [same] at found
      rw [found, Option.some_or]
    · rw [if_neg same, Option.or_none]
  · rw [if_neg present, List.find?_append, alone]

theorem mem_of_mem_addNew {children : List (Measurement α)}
    {child other : Measurement α} (present : other ∈ addNew children child) :
    other ∈ children ∨ other = child := by
  unfold addNew at present
  split at present
  · exact Or.inl present
  · rcases List.mem_append.mp present with old | isNew
    · exact Or.inl old
    · exact Or.inr (List.mem_singleton.mp isNew)

end Measurement

/-! ### What units say about methods -/

namespace ClassValue

/-- What a unit says about a method of the class; of two methods with one name the first counts. -/
def method? (measured : ClassValue α) (name : String) : Option α :=
  (measured.methods.find? (fun method => method.1 == name)).map Prod.snd

/-- What classes of that name say about the method, one after the other. -/
def methodValues (classes : List (ClassValue α))
    (className method : String) : List α :=
  (classes.filter (fun measured => measured.name == className)).filterMap
    (fun measured => measured.method? method)

theorem methodValues_cons (head : ClassValue α) (rest : List (ClassValue α))
    (className method : String) :
    methodValues (head :: rest) className method =
      (if head.name = className then (head.method? method).toList else []) ++
        methodValues rest className method := by
  unfold methodValues
  rw [List.filter_cons]
  by_cases here : head.name = className
  · rw [if_pos (beq_iff_eq.mpr here), if_pos here, List.filterMap_cons]
    cases head.method? method with
    | none => rfl
    | some value => rfl
  · rw [if_neg (fun same => here (beq_iff_eq.mp same)), if_neg here, List.nil_append]

end ClassValue

variable [Scalar α]

/-! ### Where nodes are -/

namespace Meter

variable (meter : Meter α)

theorem valued_methodMeasurement (name : String) (value : α) :
    (meter.methodMeasurement name value).Valued :=
  Valued.intro (List.cons_ne_nil _ _) (fun _ present => nomatch present)

theorem valued_classMeasurement (measured : ClassValue α) :
    (meter.classMeasurement measured).Valued := by
  refine Valued.intro (List.cons_ne_nil _ _) ?_
  intro child present
  obtain ⟨name, value, rfl⟩ :=
    (meter.measuredMethods_classMeasurement measured).measured child present
  exact meter.valued_methodMeasurement name value

private theorem valued_overlay {tree : Measurement α} (valued : tree.Valued) (name : String)
    (value : α) : (meter.overlay tree (meter.methodMeasurement name value)).Valued := by
  have method : (((tree.part? name).getD (meter.methodMeasurement name value)).putValue
      (meter.finalValue value 1)).Valued := by
    apply valued_putValue
    intro child present
    cases found : tree.part? name with
    | none =>
        rw [found] at present
        cases present
    | some known =>
        rw [found] at present
        exact (valued.part (mem_of_part? found)).part present
  rw [overlay_methodMeasurement]
  exact Valued.intro valued.values_ne_nil (parts_putPart (fun _ inside => valued.part inside) method)

private theorem valued_updatedClass (measured : ClassValue α) {package : Measurement α}
    (parts : ∀ child, child ∈ package.children → child.Valued) :
    (meter.updatedClass measured (package.part? measured.name)).Valued := by
  cases found : package.part? measured.name with
  | none => exact meter.valued_classMeasurement measured
  | some known =>
      have valued := parts known (mem_of_part? found)
      refine List.foldlRecOn (motive := Valued) (meter.classMeasurement measured).children _
        (valued_putValue (fun _ inside => valued.part inside) _) ?_
      intro tree valuedTree method present
      obtain ⟨name, value, rfl⟩ :=
        (meter.measuredMethods_classMeasurement measured).measured method present
      exact meter.valued_overlay valuedTree name value

end Meter

namespace Analysis

variable (meters : List (Meter α)) (name : String) (units : List (List Event))

theorem valued_of_mem_packageTree {child : Measurement α}
    (present : child ∈ (packageTree meters name units).children) : child.Valued := by
  rw [packageTree, children_finalizedTree] at present
  refine (foldedUnits_keeps
    (fun package : Measurement α => ∀ child, child ∈ package.children → child.Valued)
    ?_ (fun _ inside => absurd inside List.not_mem_nil) units).2 child present
  intro meter _ measured _ package _ parts
  exact parts_putPart parts (meter.valued_updatedClass measured parts)

/-- Below a package there is a node exactly where some metric has a value. -/
theorem exists_at_packageTree_iff {path : List String} (below : path ≠ []) :
    (∃ node, (packageTree meters name units).At path node) ↔
      ∃ metric value, (packageTree meters name units).lookup metric path = some value := by
  have tidy := (finished_packageTree name units meters).tidy
  constructor
  · rintro ⟨node, lies⟩
    have valued : node.Valued := by
      cases lies with
      | here => exact absurd rfl below
      | inside present rest =>
          exact (valued_of_mem_packageTree meters name units present).of_at rest
    obtain ⟨value, present⟩ := List.exists_mem_of_ne_nil _ valued.values_ne_nil
    refine ⟨value.name, value, ?_⟩
    rw [tidy.lookup_of_at lies]
    exact (tidy.of_at lies).value?_of_mem present
  · rintro ⟨metric, value, found⟩
    obtain ⟨node, leads, _⟩ := Option.bind_eq_some_iff.mp found
    exact ⟨node, (tidy.at_iff path node).mpr leads⟩

end Analysis

/-! ### Values of methods -/

namespace Meter

variable (meter : Meter α)

private theorem part?_classMeasurement (measured : ClassValue α) (name : String) :
    (meter.classMeasurement measured).part? name =
      (measured.methods.find? (fun method => method.1 == name)).map
        (fun method => meter.methodMeasurement method.1 method.2) := by
  have adds (methods : List (String × α)) (children : List (Measurement α))
      (areMethods : ∀ child, child ∈ children → child.scope = .method) :
      (methods.foldl (fun children method =>
          addNew children (meter.methodMeasurement method.1 method.2)) children).find?
          (fun child => child.name == name) =
        (children.find? (fun child => child.name == name)).or
          ((methods.find? (fun method => method.1 == name)).map
            (fun method => meter.methodMeasurement method.1 method.2)) := by
    induction methods generalizing children with
    | nil => exact Option.or_none.symm
    | cons head rest ih =>
        have stillMethods (child : Measurement α)
            (present : child ∈ addNew children (meter.methodMeasurement head.1 head.2)) :
            child.scope = .method := by
          rcases mem_of_mem_addNew present with old | rfl
          · exact areMethods child old
          · rfl
        rw [List.foldl_cons, ih _ stillMethods, find?_addNew areMethods, Option.or_assoc,
          List.find?_cons]
        by_cases same : head.1 = name
        · simp [methodMeasurement, same]
        · simp [methodMeasurement, same, beq_false_of_ne same]
  exact (adds measured.methods [] (fun _ inside => absurd inside List.not_mem_nil)).trans
    Option.none_or

theorem lookup_classMeasurement_method (measured : ClassValue α) (method : String) :
    (meter.classMeasurement measured).lookup meter.metric.name [method] =
      (measured.method? method).map (fun value => meter.finalValue value 1) := by
  rw [lookup_cons, part?_classMeasurement, ClassValue.method?, Option.map_map]
  cases measured.methods.find? (fun known => known.1 == method) with
  | none => rfl
  | some known => exact meter.value?_methodMeasurement known.1 known.2

theorem lookup_classMeasurement_below (measured : ClassValue α) (method part : String)
    (rest : List String) :
    (meter.classMeasurement measured).lookup meter.metric.name (method :: part :: rest) = none := by
  rw [lookup_cons, part?_classMeasurement]
  cases measured.methods.find? (fun known => known.1 == method) with
  | none => rfl
  | some known =>
      change (meter.methodMeasurement known.1 known.2).lookup meter.metric.name (part :: rest) = none
      rw [lookup_methodMeasurement, if_neg (fun both => List.cons_ne_nil _ _ both.1)]

/-- The cell of a method receives one value after the other, and the last one stays. -/
theorem receivedAll_method (classes : List (ClassValue α)) (className method : String)
    (cell : Option (MetricValue α)) :
    meter.receivedAll [className, method] classes cell =
      ((ClassValue.methodValues classes className method).getLast?.map
        (fun value => meter.finalValue value 1)).or cell := by
  induction classes generalizing cell with
  | nil => exact Option.none_or.symm
  | cons head rest ih =>
      have step : meter.receivedAll [className, method] (head :: rest) cell =
          meter.receivedAll [className, method] rest
            (meter.received head [className, method] cell) := rfl
      rw [step, ih, received, ClassValue.methodValues_cons, List.getLast?_append]
      by_cases here : head.name = className
      · rw [if_pos here, if_pos here, classReceived, lookup_classMeasurement_method]
        cases head.method? method with
        | none => simp
        | some value =>
            cases (ClassValue.methodValues rest className method).getLast? with
            | none => simp
            | some last => simp
      · rw [if_neg here, if_neg here]
        simp

theorem receivedAll_below (classes : List (ClassValue α)) (className method part : String)
    (rest : List String) (cell : Option (MetricValue α)) :
    meter.receivedAll (className :: method :: part :: rest) classes cell = cell := by
  induction classes generalizing cell with
  | nil => rfl
  | cons head others ih =>
      have unchanged :
          meter.received head (className :: method :: part :: rest) cell = cell := by
        rw [received, classReceived, lookup_classMeasurement_below, Option.none_or, ite_self]
      exact (congrArg _ unchanged).trans (ih cell)

end Meter

namespace Analysis

variable {meters : List (Meter α)} (distinct : (metricNames meters).Nodup) {meter : Meter α}
  (present : meter ∈ meters) (name : String) (units : List (List Event))

include distinct present

theorem lookup_packageTree_methodValues (className method : String) :
    (packageTree meters name units).lookup meter.metric.name [className, method] =
      (ClassValue.methodValues (units.flatMap meter.kind.classValues) className
        method).getLast?.map (fun value => meter.finalValue value 1) := by
  rw [lookup_packageTree_cons distinct _ _ present, Meter.receivedAll_method, Option.or_none]

theorem lookup_packageTree_below (className method part : String)
    (rest : List String) :
    (packageTree meters name units).lookup meter.metric.name
      (className :: method :: part :: rest) = none := by
  rw [lookup_packageTree_cons distinct _ _ present, Meter.receivedAll_below]

end Analysis

end CrateMetrics
