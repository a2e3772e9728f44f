/-
How the components of a class change while it grows. A field changes nothing, and a method that
refers to nothing stays alone. A reference joins two components at most, since all methods that
reach its target were together before.
-/

import CrateMetrics.Proofs.Cohesion.Groups
import Mathlib.Data.Setoid.Basic
import Mathlib.SetTheory.Cardinal.NatCard

namespace CrateMetrics.Cohesion.ClassMembers

/-! ### More members -/

section

variable {members grown : ClassMembers} (references : grown.references = members.references)

include references

theorem related_congr : grown.related = members.related := by
  funext left right
  rw [related, related, references]

theorem place_congr : grown.place = members.place := by
  have shared : grown.pairReferences = members.pairReferences := by
    funext pair
    rw [pairReferences, pairReferences, references]
  have touches : grown.touches = members.touches := by
    funext pair component
    rw [touches, touches, shared, references]
  have absorb : grown.absorb = members.absorb := by
    funext pair component
    rw [absorb, absorb, shared]
  funext components pair
  rw [place, place, touches, absorb]

/-- The methods and what they refer to settle the components. -/
theorem components_congr (methods : grown.methods = members.methods) :
    grown.components = members.components := by
  rw [components, components, relatedPairs, relatedPairs, methods, related_congr references,
    place_congr references]

end

theorem components_add_field (members : ClassMembers) (name : String) :
    (members.add name .field).1.components = members.components := by
  rcases members.add_cases name .field with ⟨_, same⟩ | ⟨_, _, appended⟩
  · rw [same]
  · refine components_congr (funext (members.references_add name .field)) ?_
    rw [methods_append appended]
    exact List.append_nil _

/-- Pairs that are not wanted need not be looked for. -/
private theorem filter_pairs_concat {items : List Nat} {last : Nat} {wanted : Nat × Nat → Bool}
    (alone : ∀ earlier ∈ items, wanted (earlier, last) = false) :
    (pairs (items ++ [last])).filter wanted = (pairs items).filter wanted := by
  induction items with
  | nil => rfl
  | cons head rest ih =>
      have later := ih (fun earlier present => alone earlier (List.mem_cons_of_mem head present))
      rw [List.cons_append, pairs, pairs, List.map_append, List.filter_append, List.filter_append,
        List.filter_append, later, List.map_singleton, List.filter_singleton,
        alone head List.mem_cons_self, cond_false, List.append_nil]

theorem Proper.lt_of_reaches {refers : MemberKind → Prop} {members : ClassMembers}
    (proper : Proper refers members) {method index : Nat} (isMethod : method ∈ members.methods)
    (reaches : members.Reaches method index) : index < members.members.length := by
  rcases reaches with rfl | referred
  · exact lt_of_mem_methods isMethod
  · exact proper.inside method index referred

theorem Proper.lt_of_mem_component {refers : MemberKind → Prop} {members : ClassMembers}
    (proper : Proper refers members) {component : Component}
    (present : component ∈ members.components) {index : Nat} (inside : index ∈ component) :
    index < members.members.length := by
  rcases (members.mem_components_iff component).mp present with isCluster | ⟨method, loner, rfl⟩
  · obtain ⟨pair, placed, spanned, _⟩ :=
      members.clusters_clustering.founded component isCluster index inside
    obtain ⟨firstMethod, secondMethod, _⟩ := of_mem_relatedPairs placed
    rcases spanned with byFirst | bySecond
    · exact proper.lt_of_reaches firstMethod byFirst
    · exact proper.lt_of_reaches secondMethod bySecond
  · rw [List.mem_singleton.mp inside]
    exact lt_of_mem_methods ((members.mem_loners_iff method).mp loner).1

/-- A method that was not there is related to none. -/
theorem Proper.not_related_length {refers : MemberKind → Prop} {members : ClassMembers}
    (proper : Proper refers members) (method : Nat) :
    ¬ members.Related method members.members.length := by
  have noReferences : members.references members.members.length = [] := by
    rw [references, List.getElem?_eq_none (Nat.le_refl _)]
  rintro (forth | back | ⟨shared, _, byLast⟩)
  · exact Nat.lt_irrefl _ (proper.inside method _ forth)
  · rw [noReferences] at back
    cases back
  · rw [noReferences] at byLast
    cases byLast

/-- A new method is a component of its own, after those that were there. -/
theorem Proper.components_add_method {refers : MemberKind → Prop} {members : ClassMembers}
    (proper : Proper refers members) {name : String}
    (fresh : members.find? name .method = none) :
    (members.add name .method).1.components =
      members.components ++ [[members.members.length]] := by
  let grown : ClassMembers := (members.add name .method).1
  have references : grown.references = members.references :=
    funext (members.references_add name .method)
  have methods : grown.methods = members.methods ++ [members.members.length] := by
    rcases members.add_cases name .method with ⟨has, _⟩ | ⟨_, _, appended⟩
    · exact absurd has (not_has_of_find? fresh _)
    · rw [methods_append appended]
      rfl
  have relatedPairs : grown.relatedPairs = members.relatedPairs := by
    rw [ClassMembers.relatedPairs, ClassMembers.relatedPairs, methods, related_congr references]
    apply filter_pairs_concat
    intro earlier _
    rw [Bool.eq_false_iff]
    intro isRelated
    exact proper.not_related_length earlier ((members.related_iff _ _).mp isRelated)
  have alone : members.components.any
      (fun component => component.contains members.members.length) = false := by
    rw [List.any_eq_false]
    intro component present inside
    rw [List.contains_iff_mem] at inside
    exact Nat.lt_irrefl _ (proper.lt_of_mem_component present inside)
  calc grown.components
      = (members.methods ++ [members.members.length]).foldl addAlone
          (members.relatedPairs.foldl members.place []) := by
        rw [components, relatedPairs, methods, place_congr references]
    _ = addAlone members.components members.members.length := by
        rw [List.foldl_append]
        rfl
    _ = members.components ++ [[members.members.length]] := by
        rw [addAlone, alone]
        rfl

/-! ### More references -/

section

variable {members : ClassMembers} (source : Method members) (target : Nat)

/-- The methods are the same ones as before the reference. -/
def sameMethods : Method members ≃ Method (members.reference source.val target) :=
  Equiv.subtypeEquivRight (fun index => by rw [methods_reference])

variable {source target}

theorem mem_references_grown (different : source.val ≠ target) (method : Method members)
    (index : Nat) :
    index ∈ (members.reference source.val target).references method.val ↔
      index ∈ members.references method.val ∨ method = source ∧ index = target := by
  rw [members.mem_references_reference source.val target method.val index
    (lt_of_mem_methods source.property)]
  simp only [ne_eq, different, not_false_eq_true, and_true, Subtype.ext_iff]

/-- The reference relates its source to the methods that reach its target, and no others. -/
theorem related_of_related_grown (different : source.val ≠ target) {left right : Method members}
    (related : (members.reference source.val target).Related left.val right.val) :
    members.Related left.val right.val ∨ left = right ∨
      left = source ∧ members.Reaches right.val target ∨
      right = source ∧ members.Reaches left.val target := by
  unfold Related at related
  simp only [mem_references_grown different] at related
  rcases related with (forth | ⟨isSource, isTarget⟩) | (back | ⟨isSource, isTarget⟩) |
    ⟨shared, byLeft | ⟨leftSource, isTarget⟩, byRight | ⟨rightSource, alsoTarget⟩⟩
  · exact Or.inl (Or.inl forth)
  · exact Or.inr (Or.inr (Or.inl ⟨isSource, Or.inl isTarget.symm⟩))
  · exact Or.inl (Or.inr (Or.inl back))
  · exact Or.inr (Or.inr (Or.inr ⟨isSource, Or.inl isTarget.symm⟩))
  · exact Or.inl (Or.inr (Or.inr ⟨shared, byLeft, byRight⟩))
  · exact Or.inr (Or.inr (Or.inr ⟨rightSource, Or.inr (alsoTarget ▸ byLeft)⟩))
  · exact Or.inr (Or.inr (Or.inl ⟨leftSource, Or.inr (isTarget ▸ byRight)⟩))
  · exact Or.inr (Or.inl (leftSource.trans rightSource.symm))

theorem related_grown_of_related (different : source.val ≠ target) {left right : Method members}
    (related : members.Related left.val right.val) :
    (members.reference source.val target).Related left.val right.val := by
  have kept {method : Method members} {index : Nat}
      (referred : index ∈ members.references method.val) :
      index ∈ (members.reference source.val target).references method.val :=
    (mem_references_grown different method index).mpr (Or.inl referred)
  rcases related with forth | back | ⟨shared, byLeft, byRight⟩
  · exact Or.inl (kept forth)
  · exact Or.inr (Or.inl (kept back))
  · exact Or.inr (Or.inr ⟨shared, kept byLeft, kept byRight⟩)

theorem related_grown_of_reaches (different : source.val ≠ target) {method : Method members}
    (reaches : members.Reaches method.val target) :
    (members.reference source.val target).Related source.val method.val := by
  have referred : target ∈ (members.reference source.val target).references source.val :=
    (mem_references_grown different source target).mpr (Or.inr ⟨rfl, rfl⟩)
  rcases reaches with isTarget | byMethod
  · exact Or.inl (isTarget ▸ referred)
  · exact Or.inr (Or.inr ⟨target, referred,
      (mem_references_grown different method target).mpr (Or.inl byMethod)⟩)

/-! ### Groups that a reference joins -/

theorem linked_grown_of_linked (different : source.val ≠ target) {left right : Method members}
    (linked : Linked left right) :
    Linked (sameMethods source target left) (sameMethods source target right) :=
  Relation.ReflTransGen.lift (sameMethods source target)
    (fun _ _ related => related_grown_of_related different related) left right linked

open Classical in
/-- The group of a method after the group of `pivot` has joined that of `source`. -/
noncomputable def joinedGroup (source pivot method : Method members) : Group members :=
  if Quotient.mk members.links method = Quotient.mk members.links pivot then
    Quotient.mk members.links source
  else Quotient.mk members.links method

variable {pivot : Method members}

theorem joinedGroup_congr {left right : Method members} (linked : Linked left right) :
    joinedGroup source pivot left = joinedGroup source pivot right := by
  have same : Quotient.mk members.links left = Quotient.mk members.links right :=
    Quotient.sound linked
  rw [joinedGroup, joinedGroup, same]

theorem joinedGroup_source :
    joinedGroup source pivot source = Quotient.mk members.links source := by
  unfold joinedGroup
  split
  · rfl
  · rfl

theorem joinedGroup_pivot :
    joinedGroup source pivot pivot = Quotient.mk members.links source :=
  if_pos rfl

/-- Where `pivot` stands for all methods that reach the target, the methods that the reference links
are those of one joined group. -/
theorem linked_grown_iff (different : source.val ≠ target)
    (reached : pivot = source ∨ members.Reaches pivot.val target)
    (gathers : ∀ method : Method members, members.Reaches method.val target → Linked pivot method)
    (left right : Method members) :
    Linked (sameMethods source target left) (sameMethods source target right) ↔
      joinedGroup source pivot left = joinedGroup source pivot right := by
  constructor
  · have toSource {method : Method members} (reaches : members.Reaches method.val target) :
        joinedGroup source pivot method = joinedGroup source pivot source := by
      rw [← joinedGroup_congr (gathers method reaches), joinedGroup_pivot, joinedGroup_source]
    have step {earlier later : Method members}
        (related : (members.reference source.val target).Related earlier.val later.val) :
        joinedGroup source pivot earlier = joinedGroup source pivot later := by
      rcases related_of_related_grown different related with
        before | rfl | ⟨rfl, reaches⟩ | ⟨rfl, reaches⟩
      · exact joinedGroup_congr (Relation.ReflTransGen.single before)
      · rfl
      · exact (toSource reaches).symm
      · exact toSource reaches
    have along {first last : Method (members.reference source.val target)}
        (linked : Linked first last) :
        joinedGroup source pivot ((sameMethods source target).symm first) =
          joinedGroup source pivot ((sameMethods source target).symm last) := by
      unfold Linked at linked
      induction linked with
      | refl => rfl
      | tail _ related ih => exact ih.trans (step related)
    intro linked
    exact along linked
  · have kept {first last : Method members}
        (same : Quotient.mk members.links first = Quotient.mk members.links last) :
        Linked (sameMethods source target first) (sameMethods source target last) :=
      linked_grown_of_linked different (Quotient.exact same)
    have bridge : Linked (sameMethods source target source) (sameMethods source target pivot) := by
      rcases reached with rfl | reaches
      · exact Relation.ReflTransGen.refl
      · exact Relation.ReflTransGen.single (related_grown_of_reaches different reaches)
    intro same
    unfold joinedGroup at same
    by_cases leftJoins : Quotient.mk members.links left = Quotient.mk members.links pivot
    · by_cases rightJoins : Quotient.mk members.links right = Quotient.mk members.links pivot
      · exact kept (leftJoins.trans rightJoins.symm)
      · rw [if_pos leftJoins, if_neg rightJoins] at same
        exact (kept leftJoins).trans (bridge.symm.trans (kept same))
    · by_cases rightJoins : Quotient.mk members.links right = Quotient.mk members.links pivot
      · rw [if_neg leftJoins, if_pos rightJoins] at same
        exact (kept same).trans (bridge.trans (kept rightJoins.symm))
      · rw [if_neg leftJoins, if_neg rightJoins] at same
        exact kept same

/-- The groups with the reference are the joined groups without it. -/
noncomputable def joinedGroups (different : source.val ≠ target)
    (reached : pivot = source ∨ members.Reaches pivot.val target)
    (gathers : ∀ method : Method members, members.Reaches method.val target → Linked pivot method) :
    Group (members.reference source.val target) ≃ Set.range (joinedGroup source pivot) :=
  (Quotient.congr (sameMethods source target)
    (fun left right => (linked_grown_iff different reached gathers left right).symm)).symm.trans
    (Setoid.quotientKerEquivRange (joinedGroup source pivot))

theorem range_joinedGroup (apart : ¬ Linked source pivot) :
    Set.range (joinedGroup source pivot) =
      { group : Group members | group ≠ Quotient.mk members.links pivot } := by
  ext group
  obtain ⟨method, rfl⟩ := Quotient.exists_rep group
  constructor
  · rintro ⟨other, same⟩ joins
    rw [joins, joinedGroup] at same
    split at same
    · exact apart (Quotient.exact same)
    · exact absurd same ‹_›
  · intro different
    exact ⟨method, if_neg different⟩

theorem range_joinedGroup_of_linked (linked : Linked source pivot) :
    Set.range (joinedGroup source pivot) = Set.univ := by
  ext group
  obtain ⟨method, rfl⟩ := Quotient.exists_rep group
  refine iff_of_true ⟨method, ?_⟩ (Set.mem_univ _)
  unfold joinedGroup
  split
  · rename_i joins
    rw [joins]
    exact Quotient.sound linked
  · rfl

end

/-! ### Counting components -/

/-- A reference leaves the number of components as it is or lowers it by one. -/
theorem Proper.length_components_reference {members : ClassMembers}
    (proper : Proper (· = .method) members) (source : Method members) {target : Nat}
    (inside : target < members.members.length) :
    (members.reference source.val target).components.length = members.components.length ∨
      (members.reference source.val target).components.length + 1 = members.components.length := by
  by_cases same : source.val = target
  · rw [ClassMembers.reference, if_pos same]
    exact Or.inl rfl
  · obtain ⟨name, has⟩ := (members.mem_methods_iff_has source.val).mp source.property
    have grown : Proper (· = .method) (members.reference source.val target) :=
      proper.reference has rfl inside
    -- all methods that reach the target are linked, so any one of them stands for them
    obtain ⟨pivot, reached, gathers⟩ : ∃ pivot : Method members,
        (pivot = source ∨ members.Reaches pivot.val target) ∧
          ∀ method : Method members, members.Reaches method.val target → Linked pivot method := by
      by_cases found : ∃ pivot : Method members, members.Reaches pivot.val target
      · obtain ⟨pivot, reaches⟩ := found
        exact ⟨pivot, Or.inr reaches,
          fun method alsoReaches => linked_of_reaches reaches alsoReaches⟩
      · exact ⟨source, Or.inl rfl, fun method reaches => absurd ⟨method, reaches⟩ found⟩
    have joined : (members.reference source.val target).components.length =
        Nat.card (Set.range (joinedGroup source pivot)) := by
      rw [grown.length_components, Nat.card_congr (joinedGroups same reached gathers)]
    rw [joined, proper.length_components]
    by_cases linked : Linked source pivot
    · rw [range_joinedGroup_of_linked linked, Nat.card_univ]
      exact Or.inl rfl
    · classical
      rw [range_joinedGroup linked, ← Finite.card_option]
      exact Or.inr (Nat.card_congr (Equiv.optionSubtypeNe _))

/-- Where only methods refer to members, one more reference of a method joins two components at
most, a new method without references is one more component, and a field makes no difference. -/
theorem length_components_grown {members : ClassMembers} (built : Built (· = .method) members) :
    (∀ source ∈ members.methods, ∀ target < members.members.length,
      (members.reference source target).components.length = members.components.length ∨
        (members.reference source target).components.length + 1 = members.components.length) ∧
    (∀ name, members.find? name .method = none →
      (members.add name .method).1.components.length = members.components.length + 1) ∧
    ∀ name, (members.add name .field).1.components.length = members.components.length := by
  refine ⟨?_, ?_, ?_⟩
  · intro source isMethod target inside
    exact built.proper.length_components_reference ⟨source, isMethod⟩ inside
  · intro name fresh
    rw [built.proper.components_add_method fresh, List.length_append, List.length_singleton]
  · intro name
    rw [components_add_field]

/-- Two methods that use a field, and one that does not. -/
def sheet : ClassMembers :=
  let field : ClassMembers := ((⟨"Sheet", []⟩ : ClassMembers).add "cells" .field).1
  let methods := ["sum", "mean", "title"].foldl
    (fun members name => (members.add name .method).1) field
  [(1, 0), (2, 0)].foldl (fun members (source, target) => members.reference source target) methods

theorem sheet_grown :
    Built (· = .method) sheet ∧ sheet.components.length = 2 ∧
    (1 ∈ sheet.methods ∧ 2 < sheet.members.length ∧
      (sheet.reference 1 2).components.length = 2) ∧
    (3 ∈ sheet.methods ∧ 0 < sheet.members.length ∧
      (sheet.reference 3 0).components.length + 1 = 2) ∧
    (sheet.find? "cells" .method = none ∧
      (sheet.add "cells" .method).1.components.length = 3) ∧
    (sheet.add "title" .field).1.components.length = 2 := by
  have built : Built (· = .method) sheet := by
    have start : Built (· = .method) ⟨"Sheet", []⟩ := Built.new "Sheet"
    have named := (((start.add "cells" .field).add "sum" .method).add "mean" .method).add
      "title" .method
    exact (named.reference 1 0 rfl rfl (by decide)).reference 2 0 rfl rfl (by decide)
  obtain ⟨reference, method, field⟩ := length_components_grown built
  have unrelated : (sheet.reference 3 0).components.length ≠ sheet.components.length := by decide
  have together : (sheet.reference 1 2).components.length + 1 ≠ sheet.components.length := by decide
  refine ⟨built, rfl, ⟨by decide, by decide, ?_⟩, ⟨by decide, by decide, ?_⟩, ⟨by decide, ?_⟩, ?_⟩
  · exact (reference 1 (by decide) 2 (by decide)).resolve_right together
  · exact (reference 3 (by decide) 0 (by decide)).resolve_left unrelated
  · exact method "cells" (by decide)
  · exact field "title"

end CrateMetrics.Cohesion.ClassMembers
