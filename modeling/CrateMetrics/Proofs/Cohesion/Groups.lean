/-
The groups that the methods of a class fall into: methods are linked when a chain of
related methods joins them. Where only methods refer to other members, the components are
these groups, each with all that its methods refer to.
-/

import CrateMetrics.Proofs.Cohesion.Partition
import Mathlib.Logic.Relation
import Mathlib.SetTheory.Cardinal.Finite

namespace CrateMetrics.Cohesion.ClassMembers

/-- A method of the class, by its index. -/
abbrev Method (members : ClassMembers) : Type :=
  { index : Nat // index ∈ members.methods }

/-- A chain of related methods joins the two. -/
def Linked {members : ClassMembers} (left right : Method members) : Prop :=
  Relation.ReflTransGen
    (fun earlier later : Method members => members.Related earlier.val later.val) left right

theorem Linked.symm {members : ClassMembers} {left right : Method members}
    (linked : Linked left right) : Linked right left := by
  unfold Linked at linked ⊢
  induction linked with
  | refl => exact Relation.ReflTransGen.refl
  | tail _ step ih => exact Relation.ReflTransGen.head step.symm ih

/-- Being linked as an equivalence of methods. -/
def links (members : ClassMembers) : Setoid (Method members) where
  r := Linked
  iseqv :=
    { refl := fun _ => Relation.ReflTransGen.refl
      symm := fun linked => linked.symm
      trans := fun first second => Relation.ReflTransGen.trans first second }

/-- A class of linked methods. -/
abbrev Group (members : ClassMembers) : Type :=
  Quotient members.links

/-- What makes up a group: its methods and, unless it is a single method, all members that
they refer to. -/
def Group.Holds {members : ClassMembers} (group : Group members) (index : Nat) : Prop :=
  (∃ method : Method members, Quotient.mk members.links method = group ∧ method.val = index) ∨
    ∃ method other : Method members, method ≠ other ∧
      Quotient.mk members.links method = group ∧ Quotient.mk members.links other = group ∧
        index ∈ members.references method.val

/-! ### Methods of one component are linked -/

/-- Methods that reach a common member are linked. -/
theorem linked_of_reaches {members : ClassMembers} {left right : Method members} {index : Nat}
    (byLeft : members.Reaches left.val index) (byRight : members.Reaches right.val index) :
    Linked left right := by
  rcases byLeft with rfl | leftRefers
  · rcases byRight with same | rightRefers
    · rw [Subtype.ext same]
      exact Relation.ReflTransGen.refl
    · exact Relation.ReflTransGen.single (Or.inr (Or.inl rightRefers))
  · rcases byRight with rfl | rightRefers
    · exact Relation.ReflTransGen.single (Or.inl leftRefers)
    · exact Relation.ReflTransGen.single (Or.inr (Or.inr ⟨index, leftRefers, rightRefers⟩))

/-- The methods of each component are linked. -/
def Connected (members : ClassMembers) (components : List Component) : Prop :=
  ∀ component ∈ components, ∀ left right : Method members,
    left.val ∈ component → right.val ∈ component → Linked left right

/-- A method of a related pair that reaches an index is linked to the first of the pair. -/
private theorem linked_of_spans {members : ClassMembers} {pair : Nat × Nat}
    (isRelated : pair ∈ members.relatedPairs) {method : Method members} {index : Nat}
    (spanned : members.Spans pair index) (reached : members.Reaches method.val index) :
    Linked ⟨pair.1, (of_mem_relatedPairs isRelated).1⟩ method := by
  obtain ⟨firstMethod, secondMethod, _, related⟩ := of_mem_relatedPairs isRelated
  let first : Method members := ⟨pair.1, firstMethod⟩
  let second : Method members := ⟨pair.2, secondMethod⟩
  change Linked first method
  rcases spanned with byFirst | bySecond
  · exact linked_of_reaches byFirst reached
  · have step : Linked first second := Relation.ReflTransGen.single related
    have rest : Linked second method := linked_of_reaches bySecond reached
    exact step.trans rest

/-- Only methods refer to members, so a component is touched because a method of it is
linked to the pair. -/
private theorem exists_linked_of_touches {members : ClassMembers}
    (proper : Proper (· = .method) members) {placed : List (Nat × Nat)}
    {components : List Component} (clustering : Clustering members placed components)
    (placedRelated : ∀ pair ∈ placed, pair ∈ members.relatedPairs) {pair : Nat × Nat}
    (isRelated : pair ∈ members.relatedPairs) {component : Component}
    (present : component ∈ components) (touched : members.touches pair component = true) :
    ∃ method : Method members, method.val ∈ component ∧
      Linked ⟨pair.1, (of_mem_relatedPairs isRelated).1⟩ method := by
  obtain ⟨inside, isInside, spanned | ⟨shared, byInside, byPair⟩⟩ :=
    (members.touches_iff pair component).mp touched
  · obtain ⟨source, sourcePlaced, sourceSpans, holds⟩ :=
      clustering.founded component present inside isInside
    obtain ⟨firstMethod, secondMethod, _, _⟩ :=
      of_mem_relatedPairs (placedRelated source sourcePlaced)
    rcases sourceSpans with byFirst | bySecond
    · exact ⟨⟨source.1, firstMethod⟩, holds source.1 (Or.inl (Or.inl rfl)),
        linked_of_spans isRelated spanned byFirst⟩
    · exact ⟨⟨source.2, secondMethod⟩, holds source.2 (Or.inr (Or.inl rfl)),
        linked_of_spans isRelated spanned bySecond⟩
  · have insideMethod : inside ∈ members.methods := by
      rw [mem_methods_iff, isMethod_iff]
      exact proper.allowed inside shared byInside
    exact ⟨⟨inside, insideMethod⟩, isInside,
      linked_of_spans isRelated (byPair.imp Or.inr Or.inr) (Or.inr byInside)⟩

private theorem Connected.place {members : ClassMembers}
    (proper : Proper (· = .method) members) {placed : List (Nat × Nat)}
    {components : List Component} (clustering : Clustering members placed components)
    (placedRelated : ∀ pair ∈ placed, pair ∈ members.relatedPairs)
    (connected : Connected members components) {pair : Nat × Nat}
    (isRelated : pair ∈ members.relatedPairs) :
    Connected members (members.place components pair) := by
  obtain ⟨merged, inMerged, perm⟩ := members.place_perm components pair
  have toFirst (method : Method members) (inside : method.val ∈ merged) :
      Linked ⟨pair.1, (of_mem_relatedPairs isRelated).1⟩ method := by
    rcases (inMerged method.val).mp inside with spanned | ⟨component, present, touched, insideOld⟩
    · exact linked_of_spans isRelated spanned (Or.inl rfl)
    · obtain ⟨bridge, bridgeInside, linked⟩ :=
        exists_linked_of_touches proper clustering placedRelated isRelated present touched
      exact linked.trans (connected component present bridge method bridgeInside insideOld)
  intro component present left right leftInside rightInside
  rcases List.mem_cons.mp (perm.mem_iff.mp present) with rfl | untouched
  · exact (toFirst left leftInside).symm.trans (toFirst right rightInside)
  · exact connected component (List.mem_filter.mp untouched).1 left right leftInside rightInside

private theorem Connected.placeAll {members : ClassMembers}
    (proper : Proper (· = .method) members) {placed : List (Nat × Nat)}
    {components : List Component} (clustering : Clustering members placed components)
    (placedRelated : ∀ pair ∈ placed, pair ∈ members.relatedPairs)
    (connected : Connected members components) (later : List (Nat × Nat))
    (laterRelated : ∀ pair ∈ later, pair ∈ members.relatedPairs) :
    Connected members (later.foldl members.place components) := by
  induction later generalizing placed components with
  | nil => exact connected
  | cons pair rest ih =>
      have isRelated := laterRelated pair List.mem_cons_self
      refine ih (clustering.place pair) ?_
        (connected.place proper clustering placedRelated isRelated) ?_
      · intro other present
        rcases List.mem_append.mp present with earlier | last
        · exact placedRelated other earlier
        · exact (List.mem_singleton.mp last) ▸ isRelated
      · intro other present
        exact laterRelated other (List.mem_cons_of_mem pair present)

theorem components_connected {members : ClassMembers}
    (proper : Proper (· = .method) members) : Connected members members.components := by
  have clusters : Connected members members.clusters :=
    Connected.placeAll proper (Clustering.empty members) (fun _ present => by cases present)
      (fun _ present => by cases present) members.relatedPairs (fun _ present => present)
  intro component present left right leftInside rightInside
  rcases (members.mem_components_iff component).mp present with isCluster | ⟨method, _, rfl⟩
  · exact clusters component isCluster left right leftInside rightInside
  · have same : left = right := Subtype.ext
      ((List.mem_singleton.mp leftInside).trans (List.mem_singleton.mp rightInside).symm)
    rw [same]
    exact Relation.ReflTransGen.refl

/-! ### Linked methods are in one component -/

theorem mem_component_of_linked {members : ClassMembers} {left right : Method members}
    (linked : Linked left right) {component : Component}
    (present : component ∈ members.components) (inside : left.val ∈ component) :
    right.val ∈ component := by
  induction linked with
  | refl => exact inside
  | @tail middle last _ step ih =>
      by_cases same : middle = last
      · exact same ▸ ih
      · have different : middle.val ≠ last.val := fun equal => same (Subtype.ext equal)
        exact mem_component_of_related middle.property last.property different step present ih
          last.val (Or.inr (Or.inl rfl))

/-- A method linked to another one is related to another one. -/
theorem exists_related_of_linked {members : ClassMembers} {left right : Method members}
    (linked : Linked left right) (different : left ≠ right) :
    ∃ next : Method members, left ≠ next ∧ members.Related left.val next.val := by
  induction linked with
  | refl => exact absurd rfl different
  | @tail middle last _ step ih =>
      by_cases same : left = middle
      · subst middle
        exact ⟨last, different, step⟩
      · exact ih same

/-! ### Components are groups -/

theorem Group.mk_eq_of_holds {members : ClassMembers} {group : Group members}
    {method : Method members} (holds : group.Holds method.val) :
    Quotient.mk members.links method = group := by
  rcases holds with ⟨other, inGroup, same⟩ | ⟨other, _, _, inGroup, _, referred⟩
  · rw [← inGroup, Subtype.ext same]
  · rw [← inGroup]
    exact Quotient.sound (linked_of_reaches (Or.inl rfl) (Or.inr referred))

/-- A component is the group of any method in it. -/
theorem mem_component_iff_holds {members : ClassMembers} (proper : Proper (· = .method) members)
    {component : Component} (present : component ∈ members.components)
    (method : Method members) (inside : method.val ∈ component) (index : Nat) :
    index ∈ component ↔ Group.Holds (Quotient.mk members.links method) index := by
  have linkedInside {other : Method members}
      (inGroup : Quotient.mk members.links other = Quotient.mk members.links method) :
      other.val ∈ component := by
    have linked : Linked other method := Quotient.exact inGroup
    exact mem_component_of_linked linked.symm present inside
  constructor
  · intro member
    rcases (members.mem_components_iff component).mp present with isCluster | ⟨alone, _, rfl⟩
    · obtain ⟨pair, placed, spanned, holds⟩ :=
        members.clusters_clustering.founded component isCluster index member
      obtain ⟨firstMethod, secondMethod, different, _⟩ := of_mem_relatedPairs placed
      have connected := components_connected proper component present
      let first : Method members := ⟨pair.1, firstMethod⟩
      let second : Method members := ⟨pair.2, secondMethod⟩
      have apart : first ≠ second := fun same => different (congrArg Subtype.val same)
      have firstInGroup : Quotient.mk members.links first = Quotient.mk members.links method :=
        Quotient.sound (connected first method (holds pair.1 (Or.inl (Or.inl rfl))) inside)
      have secondInGroup : Quotient.mk members.links second = Quotient.mk members.links method :=
        Quotient.sound (connected second method (holds pair.2 (Or.inr (Or.inl rfl))) inside)
      rcases spanned with (rfl | byFirst) | (rfl | bySecond)
      · exact Or.inl ⟨first, firstInGroup, rfl⟩
      · exact Or.inr ⟨first, second, apart, firstInGroup, secondInGroup, byFirst⟩
      · exact Or.inl ⟨second, secondInGroup, rfl⟩
      · exact Or.inr ⟨second, first, apart.symm, secondInGroup, firstInGroup, bySecond⟩
    · refine Or.inl ⟨method, rfl, ?_⟩
      rw [List.mem_singleton.mp inside, List.mem_singleton.mp member]
  · rintro (⟨other, inGroup, rfl⟩ | ⟨holder, other, different, inGroup, otherInGroup, referred⟩)
    · exact linkedInside inGroup
    · have linked : Linked holder other := Quotient.exact (inGroup.trans otherInGroup.symm)
      obtain ⟨next, apart, related⟩ := exists_related_of_linked linked different
      have valuesApart : holder.val ≠ next.val := fun same => apart (Subtype.ext same)
      exact mem_component_of_related holder.property next.property valuesApart related present
        (linkedInside inGroup) index (Or.inl (Or.inr referred))

theorem exists_group_of_component {members : ClassMembers}
    (proper : Proper (· = .method) members) {component : Component}
    (present : component ∈ members.components) :
    ∃ group : Group members, ∀ index, index ∈ component ↔ group.Holds index := by
  obtain ⟨method, isMethod, inside⟩ := exists_method_of_mem_components present
  exact ⟨_, mem_component_iff_holds proper present ⟨method, isMethod⟩ inside⟩

/-- Positions of components and groups correspond to each other. -/
theorem exists_equiv_group {members : ClassMembers} (proper : Proper (· = .method) members) :
    ∃ group : Fin members.components.length ≃ Group members,
      ∀ position index, index ∈ members.components[position] ↔ (group position).Holds index := by
  choose group holds using fun position : Fin members.components.length =>
    exists_group_of_component proper (List.getElem_mem position.isLt)
  have holdsMethod {position : Fin members.components.length} {method : Method members}
      (inGroup : Quotient.mk members.links method = group position) :
      method.val ∈ members.components[position.val] :=
    (holds position method.val).mpr (Or.inl ⟨method, inGroup, rfl⟩)
  have injective : Function.Injective group := by
    intro left right same
    obtain ⟨method, inLeft⟩ := Quotient.exists_rep (group left)
    have atLeft := holdsMethod inLeft
    have atRight := holdsMethod (inLeft.trans same)
    exact members.position_unique atLeft atRight
  have surjective : Function.Surjective group := by
    intro wanted
    obtain ⟨method, inWanted⟩ := Quotient.exists_rep wanted
    obtain ⟨component, present, inside⟩ := members.exists_component method.property
    obtain ⟨position, bound, rfl⟩ := List.mem_iff_getElem.mp present
    refine ⟨⟨position, bound⟩, ?_⟩
    rw [← inWanted]
    exact (Group.mk_eq_of_holds ((holds ⟨position, bound⟩ method.val).mp inside)).symm
  exact ⟨Equiv.ofBijective group ⟨injective, surjective⟩, holds⟩

theorem Proper.length_components {members : ClassMembers}
    (proper : Proper (· = .method) members) :
    members.components.length = Nat.card (Group members) := by
  obtain ⟨group, _⟩ := exists_equiv_group proper
  rw [← Nat.card_congr group, Nat.card_fin]

theorem card_group_le (members : ClassMembers) :
    Nat.card (Group members) ≤ members.methods.length := by
  let groupAt (position : Fin members.methods.length) : Group members :=
    Quotient.mk members.links ⟨members.methods[position.val], List.getElem_mem position.isLt⟩
  have surjective : Function.Surjective groupAt := by
    intro group
    obtain ⟨⟨method, isMethod⟩, rfl⟩ := Quotient.exists_rep group
    obtain ⟨position, bound, rfl⟩ := List.mem_iff_getElem.mp isMethod
    exact ⟨⟨position, bound⟩, rfl⟩
  have bound := Nat.card_le_card_of_surjective groupAt surjective
  rwa [Nat.card_fin] at bound

theorem lcom4_eq_card_group {members : ClassMembers} (proper : Proper (· = .method) members) :
    members.lcom4 = max 1 (Nat.card (Group members)) := by
  unfold lcom4
  by_cases few : members.methods.length ≤ 1
  · rw [if_pos few]
    have bound := members.card_group_le
    omega
  · rw [if_neg few]
    have counted := proper.length_components
    obtain ⟨method, isMethod⟩ :=
      List.exists_mem_of_length_pos (show 0 < members.methods.length by omega)
    obtain ⟨component, present, _⟩ := members.exists_component isMethod
    have positive := List.length_pos_of_mem present
    omega

/-- The components are the groups of linked methods: each position holds one group with all
that its methods refer to, and every group stands at one position. -/
theorem components_are_groups {members : ClassMembers} (built : Built (· = .method) members) :
    (∃ group : Fin members.components.length ≃ Group members,
      ∀ position index,
        index ∈ members.components[position] ↔ (group position).Holds index) ∧
    members.lcom4 = max 1 (Nat.card (Group members)) :=
  ⟨exists_equiv_group built.proper, lcom4_eq_card_group built.proper⟩

/-- Two calls make two components, which the calls of `third` and `fourth` join; the last
method stays alone. -/
def bridged : ClassMembers :=
  let named : ClassMembers := ["first", "second", "third", "fourth", "fifth", "sixth",
    "alone"].foldl (fun members name => (members.add name .method).1) ⟨"Bridged", []⟩
  [(4, 0), (5, 1), (2, 4), (3, 5), (2, 3)].foldl
    (fun members (source, target) => members.reference source target) named

theorem bridged_components_are_groups :
    Built (· = .method) bridged ∧
    bridged.components.length = 2 ∧
    (∃ group : Fin bridged.components.length ≃ Group bridged,
      ∀ position index,
        index ∈ bridged.components[position] ↔ (group position).Holds index) ∧
    bridged.lcom4 = max 1 (Nat.card (Group bridged)) := by
  have built : Built (· = .method) bridged := by
    have start : Built (· = .method) ⟨"Bridged", []⟩ := Built.new "Bridged"
    have named := (((start.add "first" .method).add "second" .method).add "third" .method).add
      "fourth" .method
    have all := ((named.add "fifth" .method).add "sixth" .method).add "alone" .method
    have split := (all.reference 4 0 rfl rfl (by decide)).reference 5 1 rfl rfl (by decide)
    have called := (split.reference 2 4 rfl rfl (by decide)).reference 3 5 rfl rfl (by decide)
    exact called.reference 2 3 rfl rfl (by decide)
  exact ⟨built, by decide, components_are_groups built⟩

end CrateMetrics.Cohesion.ClassMembers
