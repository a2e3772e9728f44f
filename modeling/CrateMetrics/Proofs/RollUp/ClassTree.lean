/-
The measurement of a class, and what becomes of it when another unit tells more about the
class: its values are merged, and the incoming methods replace those with their names.
-/

import CrateMetrics.Proofs.ClassMeasurement
import CrateMetrics.Proofs.RollUp.Rules
import CrateMetrics.Proofs.RollUp.TreeEdits

namespace CrateMetrics.Meter

open Edit Measurement

variable {α : Type}

theorem takes_overwrite (value : MetricValue α) (tree : Measurement α) :
    Takes (overwrite value) tree () (tree.putValue value) := by
  unfold overwrite
  cases found : tree.value? value.name with
  | none =>
      exact (takes_editValue_none (set value) found).bind (takes_insertValue found)
  | some old =>
      exact (takes_editValue found (takes_set old value) rfl).bind (takes_pure () _)

variable (meter : Meter α)

/-- The class with a method on top of the one with its name. -/
def overlay (tree method : Measurement α) : Measurement α :=
  match method.value? meter.metric.name with
  | none => tree
  | some value => tree.putPart (((tree.part? method.name).getD method).putValue value)

private theorem foldl_overlay_keeps (methods : List (Measurement α)) (tree : Measurement α) :
    (methods.foldl meter.overlay tree).name = tree.name ∧
      (methods.foldl meter.overlay tree).values = tree.values := by
  induction methods generalizing tree with
  | nil => exact ⟨rfl, rfl⟩
  | cons head rest ih =>
      have same : (meter.overlay tree head).name = tree.name ∧
          (meter.overlay tree head).values = tree.values := by
        unfold overlay
        cases head.value? meter.metric.name with
        | none => exact ⟨rfl, rfl⟩
        | some value => exact ⟨rfl, rfl⟩
      rw [List.foldl_cons, (ih _).1, (ih _).2, same.1, same.2]
      exact ⟨rfl, rfl⟩

variable [Scalar α]

/-! ### Methods -/

theorem lookup_methodMeasurement (name : String) (value : α) (metric : String)
    (path : List String) :
    (meter.methodMeasurement name value).lookup metric path =
      if path = [] ∧ meter.metric.name = metric then some (meter.finalValue value 1)
      else none := by
  cases path with
  | nil =>
      rw [lookup_nil]
      by_cases same : meter.metric.name = metric
      · simp [value?, methodMeasurement, finalValue, MetricValue.final, same]
      · simp [value?, methodMeasurement, finalValue, MetricValue.final, same]
  | cons head rest =>
      rw [if_neg (fun both => List.cons_ne_nil head rest both.1), lookup_cons]
      rfl

theorem tidy_methodMeasurement (name : String) (value : α) :
    (meter.methodMeasurement name value).Tidy :=
  Tidy.intro (List.nodup_singleton _) List.nodup_nil (fun _ present => by cases present)
    (fun _ present => by cases present)

theorem value?_methodMeasurement (name : String) (value : α) :
    (meter.methodMeasurement name value).value? meter.metric.name =
      some (meter.finalValue value 1) := by
  rw [← lookup_nil, lookup_methodMeasurement, if_pos ⟨rfl, rfl⟩]

theorem overlay_methodMeasurement (tree : Measurement α) (name : String) (value : α) :
    meter.overlay tree (meter.methodMeasurement name value) =
      tree.putPart (((tree.part? name).getD (meter.methodMeasurement name value)).putValue
        (meter.finalValue value 1)) := by
  unfold overlay
  rw [value?_methodMeasurement]
  rfl

theorem lookup_overlay (tree : Measurement α) (name : String) (value : α) (metric : String)
    (path : List String) :
    (meter.overlay tree (meter.methodMeasurement name value)).lookup metric path =
      if path = [name] ∧ meter.metric.name = metric then some (meter.finalValue value 1)
      else tree.lookup metric path := by
  rw [overlay_methodMeasurement]
  cases path with
  | nil => rfl
  | cons head rest =>
      rw [lookup_putPart_cons]
      have sameName : ((tree.part? name).getD (meter.methodMeasurement name value)).name =
          name := by
        cases found : tree.part? name with
        | none => rfl
        | some known => exact name_of_part? found
      rw [name_putValue, sameName]
      by_cases here : name = head
      · subst here
        rw [if_pos rfl, lookup_putValue]
        change (if rest = [] ∧ meter.metric.name = metric then _ else _) = _
        by_cases replaced : rest = [] ∧ meter.metric.name = metric
        · rw [if_pos replaced, if_pos ⟨by rw [replaced.1], replaced.2⟩]
        · have untouched : ¬(name :: rest = [name] ∧ meter.metric.name = metric) :=
            fun both => replaced ⟨(List.cons.inj both.1).2, both.2⟩
          rw [if_neg replaced, if_neg untouched, lookup_cons]
          cases tree.part? name with
          | none =>
              change (meter.methodMeasurement name value).lookup metric rest = none
              rw [lookup_methodMeasurement, if_neg replaced]
          | some known => rfl
      · have elsewhere : ¬(head :: rest = [name] ∧ meter.metric.name = metric) :=
          fun both => here (List.cons.inj both.1).1.symm
        rw [if_neg here, if_neg elsewhere]

def overlayEdit (method : Measurement α) : Edit (Measurement α) Unit := do
  let _ ← addChild method
  match method.value? meter.metric.name with
  | none => pure ()
  | some value => editChild method.scope method.name (overwrite value)

private theorem takes_overlayEdit {tree : Measurement α} (tidy : tree.Tidy)
    (isType : tree.scope = .type) (name : String) (value : α) :
    Takes (meter.overlayEdit (meter.methodMeasurement name value)) tree ()
      (meter.overlay tree (meter.methodMeasurement name value)) := by
  let method := meter.methodMeasurement name value
  have finer : tree.scope.finer = some method.scope := by rw [isType]; rfl
  unfold overlayEdit
  rw [overlay_methodMeasurement, value?_methodMeasurement]
  cases found : tree.part? name with
  | none =>
      have tidyAdded : (tree.putPart method).Tidy :=
        tidy.putPart finer (meter.tidy_methodMeasurement name value)
      have added : (tree.putPart method).part? name = some method := by
        rw [part?_putPart]
        exact if_pos rfl
      have edited := takes_editChild (method.putValue (meter.finalValue value 1)) tidyAdded
        finer added (takes_overwrite (meter.finalValue value 1) method)
      rw [putPart_putPart] at edited
      · exact (takes_addChild_new tidy finer found).bind edited
      · rfl
  | some known =>
      have isKnown : tree.child? method.scope method.name = some known := by
        rw [tidy.child?_eq_part? finer]
        exact found
      have sameName : (known.putValue (meter.finalValue value 1)).name = name :=
        (name_putValue known _).trans (name_of_part? found)
      have edited := takes_editChild (known.putValue (meter.finalValue value 1)) tidy finer
        (sameName ▸ found) (takes_overwrite (meter.finalValue value 1) known)
      rw [sameName] at edited
      exact (takes_addChild_known finer isKnown).bind edited

private theorem keeps_overlay {tree : Measurement α} (tidy : tree.Tidy)
    (isType : tree.scope = .type) (name : String) (value : α) :
    (meter.overlay tree (meter.methodMeasurement name value)).Tidy ∧
      (meter.overlay tree (meter.methodMeasurement name value)).scope = .type := by
  have kept : ((tree.part? name).getD (meter.methodMeasurement name value)).Tidy ∧
      ((tree.part? name).getD (meter.methodMeasurement name value)).scope = .method := by
    cases found : tree.part? name with
    | none => exact ⟨meter.tidy_methodMeasurement name value, rfl⟩
    | some known =>
        have finer := tidy.finer (mem_of_part? found)
        rw [isType] at finer
        exact ⟨tidy.child (mem_of_part? found), (Option.some.inj finer).symm⟩
  rw [overlay_methodMeasurement]
  refine ⟨tidy.putPart ?_ (kept.1.putValue _), isType⟩
  rw [isType]
  exact congrArg some kept.2.symm

/-- Methods that the meter measured, told apart by their names. -/
structure MeasuredMethods (methods : List (Measurement α)) : Prop where
  measured : ∀ method, method ∈ methods →
    ∃ name value, method = meter.methodMeasurement name value
  distinct : (methods.map Measurement.name).Nodup

theorem lookup_foldl_overlay {methods : List (Measurement α)}
    (isMeasured : meter.MeasuredMethods methods) (tree : Measurement α) (metric name : String)
    (rest : List String) :
    (methods.foldl meter.overlay tree).lookup metric (name :: rest) =
      ((methods.find? (fun method => method.name == name)).bind
        (fun method => method.lookup metric rest)).or (tree.lookup metric (name :: rest)) := by
  obtain ⟨measured, distinct⟩ := isMeasured
  induction methods generalizing tree with
  | nil => rfl
  | cons head others ih =>
      rw [List.map_cons, List.nodup_cons] at distinct
      have later := ih (meter.overlay tree head)
        (fun method present => measured method (List.Mem.tail head present)) distinct.2
      rw [List.foldl_cons, later]
      obtain ⟨own, value, rfl⟩ := measured head (List.Mem.head others)
      rw [lookup_overlay, List.find?_cons]
      by_cases here : own = name
      · subst here
        have absent : others.find? (fun method => method.name == own) = none := by
          rw [List.find?_eq_none]
          intro method present sameName
          exact distinct.1 (List.mem_map.mpr ⟨method, present, eq_of_beq sameName⟩)
        have isHead : ((meter.methodMeasurement own value).name == own) = true :=
          beq_self_eq_true own
        rw [absent, isHead, Option.bind_none, Option.none_or, Option.bind_some,
          lookup_methodMeasurement]
        by_cases replaced : rest = [] ∧ meter.metric.name = metric
        · rw [if_pos replaced, if_pos ⟨by rw [replaced.1], replaced.2⟩, Option.some_or]
        · have untouched : ¬(own :: rest = [own] ∧ meter.metric.name = metric) :=
            fun both => replaced ⟨(List.cons.inj both.1).2, both.2⟩
          rw [if_neg replaced, if_neg untouched, Option.none_or]
      · have passed : ((meter.methodMeasurement own value).name == name) = false :=
          beq_false_of_ne here
        have elsewhere : ¬(name :: rest = [own] ∧ meter.metric.name = metric) :=
          fun both => here (List.cons.inj both.1).1.symm
        rw [passed, if_neg elsewhere]

/-! ### Merging -/

/-- The value of a class after another unit gave one, on top of the one that is known. -/
def joined (incoming : MetricValue α) : Option (MetricValue α) → MetricValue α
  | none => incoming
  | some known => meter.policy.merged meter.metric known incoming

def mergedClass (incoming : MetricValue α) (methods : List (Measurement α))
    (tree : Measurement α) : Measurement α :=
  methods.foldl meter.overlay
    (tree.putValue (meter.joined incoming (tree.value? meter.metric.name)))

section

variable {tree : Measurement α} (tidy : tree.Tidy) (isType : tree.scope = .type)
  {methods : List (Measurement α)} (isMeasured : meter.MeasuredMethods methods)
  (incoming : MetricValue α)

include tidy isType isMeasured

theorem takes_mergeClass (named : incoming.name = meter.metric.name)
    (isFinal : incoming.Final)
    (finals : ∀ known, tree.value? meter.metric.name = some known → known.Final) :
    Takes (meter.mergeClass incoming methods) tree () (meter.mergedClass incoming methods tree) ∧
      (meter.mergedClass incoming methods tree).Tidy ∧
      (meter.mergedClass incoming methods tree).scope = .type := by
  have overlaid := takes_forM (fun tree => tree.Tidy ∧ tree.scope = .type) meter.overlay
    meter.overlayEdit methods
    (fun method present state kept => by
      obtain ⟨name, value, rfl⟩ := isMeasured.measured method present
      exact ⟨meter.takes_overlayEdit kept.1 kept.2 name value,
        meter.keeps_overlay kept.1 kept.2 name value⟩)
    (tree.putValue (meter.joined incoming (tree.value? meter.metric.name)))
    ⟨tidy.putValue _, isType⟩
  refine ⟨?_, overlaid.2⟩
  have takes := overlaid.1
  unfold mergeClass mergedClass
  cases found : tree.value? meter.metric.name with
  | none =>
      rw [found] at takes
      have absent : tree.value? incoming.name = none := by rw [named, found]
      exact (takes_editValue_none _ found).bind ((takes_insertValue absent).bind takes)
  | some known =>
      rw [found] at takes
      have merges := meter.policy.takes_merge meter.metric (finals known found) isFinal
      have sameName : (meter.policy.merged meter.metric known incoming).name =
          meter.metric.name := by
        rw [Policy.name_merged]
        exact name_of_value? found
      exact (takes_editValue found merges sameName).bind takes

end

theorem name_mergedClass (incoming : MetricValue α) (methods : List (Measurement α))
    (tree : Measurement α) : (meter.mergedClass incoming methods tree).name = tree.name := by
  rw [mergedClass, (meter.foldl_overlay_keeps methods _).1, name_putValue]

theorem name_joined {incoming : MetricValue α} (named : incoming.name = meter.metric.name)
    {tree : Measurement α} :
    (meter.joined incoming (tree.value? meter.metric.name)).name = meter.metric.name := by
  cases found : tree.value? meter.metric.name with
  | none => exact named
  | some known =>
      rw [joined, Policy.name_merged]
      exact name_of_value? found

theorem lookup_mergedClass_nil {incoming : MetricValue α}
    (named : incoming.name = meter.metric.name) (methods : List (Measurement α))
    (tree : Measurement α) (metric : String) :
    (meter.mergedClass incoming methods tree).lookup metric [] =
      if meter.metric.name = metric then
        some (meter.joined incoming (tree.lookup metric []))
      else tree.lookup metric [] := by
  have sameValues : (meter.mergedClass incoming methods tree).lookup metric [] =
      (tree.putValue (meter.joined incoming (tree.value? meter.metric.name))).lookup metric [] := by
    rw [lookup_nil, lookup_nil, value?, mergedClass, (meter.foldl_overlay_keeps methods _).2]
    rfl
  rw [sameValues, lookup_putValue, name_joined meter named]
  by_cases same : meter.metric.name = metric
  · subst same
    rw [if_pos ⟨rfl, rfl⟩, if_pos rfl, lookup_nil]
  · rw [if_neg (fun both => same both.2), if_neg same]

theorem lookup_mergedClass_cons (incoming : MetricValue α) {methods : List (Measurement α)}
    (isMeasured : meter.MeasuredMethods methods) (tree : Measurement α) (metric name : String)
    (rest : List String) :
    (meter.mergedClass incoming methods tree).lookup metric (name :: rest) =
      ((methods.find? (fun method => method.name == name)).bind
        (fun method => method.lookup metric rest)).or (tree.lookup metric (name :: rest)) := by
  rw [mergedClass, meter.lookup_foldl_overlay isMeasured, lookup_putValue,
    if_neg (fun both => List.cons_ne_nil name rest both.1)]

/-! ### The measurement of a class in one unit -/

private theorem measuredMethods_addNew {children : List (Measurement α)}
    (isMeasured : meter.MeasuredMethods children) (name : String) (value : α) :
    meter.MeasuredMethods (addNew children (meter.methodMeasurement name value)) := by
  obtain ⟨measured, distinct⟩ := isMeasured
  unfold addNew
  by_cases known : children.any (isNamed .method name)
  · exact (if_pos known).symm ▸ ⟨measured, distinct⟩
  · have absent : name ∉ children.map Measurement.name := by
      intro present
      obtain ⟨child, inside, sameName⟩ := List.mem_map.mp present
      obtain ⟨own, ownValue, rfl⟩ := measured child inside
      have sameOwn : own = name := sameName
      apply known
      rw [List.any_eq_true]
      refine ⟨_, inside, ?_⟩
      simp [isNamed, methodMeasurement, sameOwn]
    refine (if_neg known).symm ▸ ⟨?_, ?_⟩
    · intro method present
      rcases List.mem_append.mp present with old | isNew
      · exact measured method old
      · exact ⟨name, value, List.mem_singleton.mp isNew⟩
    · rw [List.map_append, List.map_singleton]
      refine List.Nodup.append distinct (List.nodup_singleton _) ?_
      intro other inside isNew
      rw [List.mem_singleton.mp isNew] at inside
      exact absent inside

theorem measuredMethods_classMeasurement (measured : ClassValue α) :
    meter.MeasuredMethods (meter.classMeasurement measured).children := by
  have all (methods : List (String × α)) (children : List (Measurement α))
      (isMeasured : meter.MeasuredMethods children) :
      meter.MeasuredMethods (methods.foldl (fun children method =>
        addNew children (meter.methodMeasurement method.1 method.2)) children) := by
    induction methods generalizing children with
    | nil => exact isMeasured
    | cons head rest ih =>
        exact ih _ (meter.measuredMethods_addNew isMeasured head.1 head.2)
  exact all measured.methods [] ⟨(fun _ present => nomatch present), List.nodup_nil⟩

variable (measured : ClassValue α)

theorem tidy_classMeasurement : (meter.classMeasurement measured).Tidy := by
  have methods := meter.measuredMethods_classMeasurement measured
  refine Tidy.intro (List.nodup_singleton _) methods.distinct ?_ ?_
  · intro child present
    obtain ⟨name, value, rfl⟩ := methods.measured child present
    rfl
  · intro child present
    obtain ⟨name, value, rfl⟩ := methods.measured child present
    exact meter.tidy_methodMeasurement name value

theorem value?_classMeasurement (metric : String) :
    (meter.classMeasurement measured).value? metric =
      if meter.metric.name = metric then some (meter.finalValue measured.value measured.count)
      else none := by
  by_cases same : meter.metric.name = metric
  · simp [value?, classMeasurement, finalValue, MetricValue.final, same]
  · simp [value?, classMeasurement, finalValue, MetricValue.final, same]

theorem lookup_classMeasurement_cons (metric name : String) (rest : List String) :
    (meter.classMeasurement measured).lookup metric (name :: rest) =
      ((meter.classMeasurement measured).children.find? (fun method => method.name == name)).bind
        (fun method => method.lookup metric rest) :=
  lookup_cons metric _ name rest

theorem lookup_classMeasurement_of_ne {metric : String} (different : meter.metric.name ≠ metric)
    (path : List String) : (meter.classMeasurement measured).lookup metric path = none := by
  cases path with
  | nil => rw [lookup_nil, value?_classMeasurement, if_neg different]
  | cons name rest =>
      rw [lookup_cons]
      cases found : (meter.classMeasurement measured).part? name with
      | none => rfl
      | some method =>
          obtain ⟨own, value, rfl⟩ :=
            (meter.measuredMethods_classMeasurement measured).measured method (mem_of_part? found)
          rw [Option.bind_some, lookup_methodMeasurement, if_neg (fun both => different both.2)]

theorem final_of_lookup_classMeasurement (covers : 1 ≤ measured.count) {metric : String}
    {path : List String} {value : MetricValue α}
    (found : (meter.classMeasurement measured).lookup metric path = some value) :
    value.Final := by
  cases path with
  | nil =>
      rw [lookup_nil, value?_classMeasurement] at found
      split at found
      · cases found
        exact ⟨rfl, covers⟩
      · cases found
  | cons name rest =>
      rw [lookup_cons] at found
      obtain ⟨method, isPart, later⟩ := Option.bind_eq_some_iff.mp found
      obtain ⟨own, ownValue, rfl⟩ :=
        (meter.measuredMethods_classMeasurement measured).measured method (mem_of_part? isPart)
      rw [lookup_methodMeasurement] at later
      split at later
      · cases later
        exact ⟨rfl, Nat.le_refl 1⟩
      · cases later

end CrateMetrics.Meter
