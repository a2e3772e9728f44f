/-
The components of a class, once every related pair is placed and every method left over
has become a component of its own. They are disjoint, hold every method, and keep related
methods together with all that they refer to.
-/

import CrateMetrics.Proofs.Cohesion.Clustering
import Mathlib.Data.Fintype.Card

namespace CrateMetrics.Cohesion.ClassMembers

/-- The components after every related pair is placed. -/
def clusters (members : ClassMembers) : List Component :=
  members.relatedPairs.foldl members.place []

/-- The methods that are in none of these components. -/
def loners (members : ClassMembers) : List Nat :=
  members.methods.filter (fun method =>
    !members.clusters.any (fun component => component.contains method))

theorem clusters_clustering (members : ClassMembers) :
    Clustering members members.relatedPairs members.clusters := by
  have clustering := (Clustering.empty members).placeAll members.relatedPairs
  rwa [List.nil_append] at clustering

private theorem foldl_addAlone (methods : List Nat) (distinct : methods.Nodup)
    (components : List Component) :
    methods.foldl addAlone components =
      components ++ (methods.filter (fun method =>
        !components.any (fun component => component.contains method))).map (fun method => [method]) := by
  induction methods generalizing components with
  | nil => simp only [List.foldl_nil, List.filter_nil, List.map_nil, List.append_nil]
  | cons head rest ih =>
      obtain ⟨fresh, restDistinct⟩ := List.nodup_cons.mp distinct
      rw [List.foldl_cons, ih restDistinct, addAlone]
      cases known : components.any (fun component => component.contains head) with
      | true => simp only [if_true, List.filter_cons, known, Bool.not_true, Bool.false_eq_true,
          if_false]
      | false =>
          have sameLoners :
              rest.filter (fun method => !(components ++ [[head]]).any (fun component =>
                component.contains method)) =
              rest.filter (fun method => !components.any (fun component =>
                component.contains method)) := by
            apply List.filter_congr
            intro method present
            have different : method ≠ head := by
              intro same
              exact fresh (same ▸ present)
            simp [different]
          simp only [Bool.false_eq_true, if_false, List.filter_cons, known, Bool.not_false, if_true,
            List.map_cons, sameLoners, List.append_assoc, List.singleton_append]

theorem components_eq (members : ClassMembers) :
    members.components = members.clusters ++ members.loners.map (fun method => [method]) :=
  foldl_addAlone members.methods members.methods_nodup members.clusters

theorem mem_loners_iff (members : ClassMembers) (method : Nat) :
    method ∈ members.loners ↔
      method ∈ members.methods ∧ ∀ component ∈ members.clusters, method ∉ component := by
  unfold loners
  rw [List.mem_filter, Bool.not_eq_true', List.any_eq_false]
  simp only [List.contains_iff_mem]

theorem mem_components_iff (members : ClassMembers) (component : Component) :
    component ∈ members.components ↔
      component ∈ members.clusters ∨ ∃ method ∈ members.loners, component = [method] := by
  rw [components_eq, List.mem_append, List.mem_map]
  simp only [eq_comm]

theorem components_disjoint (members : ClassMembers) :
    members.components.Pairwise List.Disjoint := by
  rw [components_eq, List.pairwise_append]
  refine ⟨members.clusters_clustering.disjoint, ?_, ?_⟩
  · rw [List.pairwise_map]
    have distinct : members.loners.Nodup := List.Nodup.filter _ members.methods_nodup
    refine distinct.imp ?_
    intro left right different index atLeft atRight
    exact different ((List.mem_singleton.mp atLeft).symm.trans (List.mem_singleton.mp atRight))
  · intro component present single isSingle index inside atSingle
    obtain ⟨method, isLoner, rfl⟩ := List.mem_map.mp isSingle
    rw [List.mem_singleton.mp atSingle] at inside
    exact ((members.mem_loners_iff method).mp isLoner).2 component present inside

theorem exists_component (members : ClassMembers) {method : Nat}
    (isMethod : method ∈ members.methods) :
    ∃ component ∈ members.components, method ∈ component := by
  by_cases loner : method ∈ members.loners
  · exact ⟨[method], (members.mem_components_iff _).mpr (Or.inr ⟨method, loner, rfl⟩),
      List.mem_singleton_self method⟩
  · rw [mem_loners_iff] at loner
    push Not at loner
    obtain ⟨component, present, inside⟩ := loner isMethod
    exact ⟨component, (members.mem_components_iff _).mpr (Or.inl present), inside⟩

/-- Whatever two related methods reach is in one cluster. -/
theorem exists_cluster_of_related {members : ClassMembers} {left right : Nat}
    (leftMethod : left ∈ members.methods) (rightMethod : right ∈ members.methods)
    (different : left ≠ right) (related : members.Related left right) :
    ∃ component ∈ members.clusters, ∀ index,
      members.Reaches left index ∨ members.Reaches right index → index ∈ component := by
  rcases mem_relatedPairs_or_swap leftMethod rightMethod different related with ahead | behind
  · exact members.clusters_clustering.covered _ ahead
  · obtain ⟨component, present, holds⟩ := members.clusters_clustering.covered _ behind
    exact ⟨component, present, fun index reached => holds index reached.symm⟩

/-- A component that holds a method holds the methods related to it, and all they reach. -/
theorem mem_component_of_related {members : ClassMembers} {left right : Nat}
    (leftMethod : left ∈ members.methods) (rightMethod : right ∈ members.methods)
    (different : left ≠ right) (related : members.Related left right)
    {component : Component} (present : component ∈ members.components)
    (inside : left ∈ component) (index : Nat)
    (reached : members.Reaches left index ∨ members.Reaches right index) :
    index ∈ component := by
  obtain ⟨cluster, isCluster, holds⟩ :=
    exists_cluster_of_related leftMethod rightMethod different related
  have isComponent := (members.mem_components_iff cluster).mpr (Or.inl isCluster)
  have leftInCluster : left ∈ cluster := holds left (Or.inl (Or.inl rfl))
  rw [eq_of_mem_of_mem members.components_disjoint present isComponent inside leftInCluster]
  exact holds index reached

/-- Every component holds a method. -/
theorem exists_method_of_mem_components {members : ClassMembers} {component : Component}
    (present : component ∈ members.components) :
    ∃ method ∈ members.methods, method ∈ component := by
  rcases (members.mem_components_iff component).mp present with isCluster | ⟨method, loner, rfl⟩
  · have clustering := members.clusters_clustering
    obtain ⟨index, inside⟩ :=
      List.exists_mem_of_ne_nil component (clustering.nonempty component isCluster)
    obtain ⟨pair, placed, _, holds⟩ := clustering.founded component isCluster index inside
    exact ⟨pair.1, (of_mem_relatedPairs placed).1, holds pair.1 (Or.inl (Or.inl rfl))⟩
  · exact ⟨method, ((members.mem_loners_iff method).mp loner).1, List.mem_singleton_self method⟩

/-! ### Dividing the methods -/

/-- The components divide the methods of a class among them and keep related ones together. -/
structure Divides (members : ClassMembers) (components : List Component) : Prop where
  disjoint : components.Pairwise List.Disjoint
  populated : ∀ component ∈ components, ∃ method ∈ members.methods, method ∈ component
  once : ∀ method ∈ members.methods,
    ∃! position : Fin components.length, method ∈ components[position]
  together : ∀ left ∈ members.methods, ∀ right ∈ members.methods, members.Related left right →
    ∀ component ∈ components, left ∈ component ↔ right ∈ component

/-- An index lies at one position at most. -/
theorem position_unique (members : ClassMembers) {index : Nat}
    {first second : Fin members.components.length}
    (inFirst : index ∈ members.components.get first)
    (inSecond : index ∈ members.components.get second) : first = second := by
  have disjoint := List.pairwise_iff_getElem.mp members.components_disjoint
  rcases Nat.lt_trichotomy first.val second.val with before | same | after
  · exact absurd inSecond (disjoint first.val second.val first.isLt second.isLt before inFirst)
  · exact Fin.ext same
  · exact absurd inFirst (disjoint second.val first.val second.isLt first.isLt after inSecond)

private theorem mem_component_iff_of_related {members : ClassMembers} {left right : Nat}
    (leftMethod : left ∈ members.methods) (rightMethod : right ∈ members.methods)
    (related : members.Related left right) {component : Component}
    (present : component ∈ members.components) : left ∈ component ↔ right ∈ component := by
  by_cases same : left = right
  · rw [same]
  · constructor
    · intro inside
      exact mem_component_of_related leftMethod rightMethod same related present inside right
        (Or.inr (Or.inl rfl))
    · intro inside
      exact mem_component_of_related rightMethod leftMethod (Ne.symm same) related.symm present
        inside left (Or.inr (Or.inl rfl))

/-- There are no more components than methods, for each holds one of its own. -/
theorem length_components_le (members : ClassMembers) :
    members.components.length ≤ members.methods.length := by
  choose method isMethod inside using fun position : Fin members.components.length =>
    exists_method_of_mem_components (List.getElem_mem position.isLt)
  have injective : Function.Injective method := by
    intro first second same
    exact members.position_unique (inside first) (same ▸ inside second)
  have among : Finset.univ.image method ⊆ members.methods.toFinset := by
    intro index present
    obtain ⟨position, _, rfl⟩ := Finset.mem_image.mp present
    exact List.mem_toFinset.mpr (isMethod position)
  calc members.components.length
      = (Finset.univ.image method).card := by
        rw [Finset.card_image_of_injective _ injective, Finset.card_fin]
    _ ≤ members.methods.toFinset.card := Finset.card_le_card among
    _ ≤ members.methods.length := List.toFinset_card_le _

/-- Whatever refers to what, fields included, the components divide the methods; so the value of a
class is at least one, and at most the number of its methods if there are any. -/
theorem components_divide (members : ClassMembers) :
    members.Divides members.components ∧
      1 ≤ members.lcom4 ∧ members.lcom4 ≤ max 1 members.methods.length := by
  have divides : members.Divides members.components := by
    refine ⟨members.components_disjoint, ?_, ?_, ?_⟩
    · exact fun component present => exists_method_of_mem_components present
    · intro method isMethod
      obtain ⟨component, present, inside⟩ := members.exists_component isMethod
      obtain ⟨position, bound, rfl⟩ := List.mem_iff_getElem.mp present
      exact ⟨⟨position, bound⟩, inside, fun other inOther => members.position_unique inOther inside⟩
    · intro left leftMethod right rightMethod related component present
      exact mem_component_iff_of_related leftMethod rightMethod related present
  have few := members.length_components_le
  refine ⟨divides, ?_⟩
  unfold lcom4
  by_cases single : members.methods.length ≤ 1
  · rw [if_pos single]
    exact ⟨Nat.le_refl 1, Nat.le_max_left _ _⟩
  · rw [if_neg single]
    obtain ⟨method, isMethod⟩ :=
      List.exists_mem_of_length_pos (show 0 < members.methods.length by omega)
    obtain ⟨component, present, _⟩ := members.exists_component isMethod
    exact ⟨List.length_pos_of_mem present, few.trans (Nat.le_max_right _ _)⟩

/-- The first two methods use one field and the last two another one, to which the first refers. -/
def chainedFields : ClassMembers :=
  let fields : ClassMembers := ["head", "tail"].foldl
    (fun members name => (members.add name .field).1) ⟨"Chained", []⟩
  let methods := ["first", "second", "third", "fourth"].foldl
    (fun members name => (members.add name .method).1) fields
  [(0, 1), (2, 0), (3, 0), (4, 1), (5, 1)].foldl
    (fun members (source, target) => members.reference source target) methods

/-- A reference from a field joins what no chain of related methods does. -/
example : chainedFields.components = [[0, 1, 2, 3, 4, 5]] := by decide

end CrateMetrics.Cohesion.ClassMembers
