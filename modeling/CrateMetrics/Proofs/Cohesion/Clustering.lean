/-
How related pairs of methods are clustered, whatever the graph of references. After any
number of pairs the components are disjoint, hold every pair placed so far together with
all that it refers to, and hold nothing else. The methods that no pair touches are added
as components of their own.
-/

import CrateMetrics.Proofs.Cohesion.Members
import Mathlib.Data.List.Pairwise
import Mathlib.Data.List.Perm.Basic

namespace CrateMetrics.Cohesion.ClassMembers

/-! ### Related pairs -/

/-- One method refers to the other, or both refer to a common member. -/
def Related (members : ClassMembers) (left right : Nat) : Prop :=
  right ∈ members.references left ∨ left ∈ members.references right ∨
    ∃ shared, shared ∈ members.references left ∧ shared ∈ members.references right

theorem related_iff (members : ClassMembers) (left right : Nat) :
    members.related left right = true ↔ members.Related left right := by
  unfold related Related
  rw [Bool.or_eq_true, Bool.or_eq_true, List.contains_iff_mem, List.contains_iff_mem,
    haveCommon_iff, or_assoc]

theorem Related.symm {members : ClassMembers} {left right : Nat}
    (related : members.Related left right) : members.Related right left := by
  rcases related with forth | back | ⟨shared, byLeft, byRight⟩
  · exact Or.inr (Or.inl forth)
  · exact Or.inl back
  · exact Or.inr (Or.inr ⟨shared, byRight, byLeft⟩)

theorem mem_of_mem_pairs {items : List Nat} (distinct : items.Nodup) {pair : Nat × Nat}
    (member : pair ∈ pairs items) :
    pair.1 ∈ items ∧ pair.2 ∈ items ∧ pair.1 ≠ pair.2 := by
  induction items with
  | nil => cases member
  | cons head rest ih =>
      obtain ⟨fresh, restDistinct⟩ := List.nodup_cons.mp distinct
      rw [pairs, List.mem_append] at member
      rcases member with withHead | later
      · obtain ⟨second, present, rfl⟩ := List.mem_map.mp withHead
        refine ⟨List.mem_cons_self, List.mem_cons_of_mem head present, ?_⟩
        intro same
        exact fresh ((show head = second from same) ▸ present)
      · obtain ⟨first, second, different⟩ := ih restDistinct later
        exact ⟨List.mem_cons_of_mem head first, List.mem_cons_of_mem head second, different⟩

/-- Of two different elements one comes before the other. -/
theorem mem_pairs_or_swap {items : List Nat} {left right : Nat} (leftMember : left ∈ items)
    (rightMember : right ∈ items) (different : left ≠ right) :
    (left, right) ∈ pairs items ∨ (right, left) ∈ pairs items := by
  induction items with
  | nil => cases leftMember
  | cons head rest ih =>
      simp only [pairs, List.mem_append, List.mem_map, Prod.mk.injEq]
      rcases List.mem_cons.mp leftMember with rfl | leftLater
      · rcases List.mem_cons.mp rightMember with rfl | rightLater
        · exact absurd rfl different
        · exact Or.inl (Or.inl ⟨right, rightLater, rfl, rfl⟩)
      · rcases List.mem_cons.mp rightMember with rfl | rightLater
        · exact Or.inr (Or.inl ⟨left, leftLater, rfl, rfl⟩)
        · rcases ih leftLater rightLater with ahead | behind
          · exact Or.inl (Or.inr ahead)
          · exact Or.inr (Or.inr behind)

theorem of_mem_relatedPairs {members : ClassMembers} {pair : Nat × Nat}
    (member : pair ∈ members.relatedPairs) :
    pair.1 ∈ members.methods ∧ pair.2 ∈ members.methods ∧ pair.1 ≠ pair.2 ∧
      members.Related pair.1 pair.2 := by
  unfold relatedPairs at member
  obtain ⟨isPair, isRelated⟩ := List.mem_filter.mp member
  obtain ⟨first, second, different⟩ := mem_of_mem_pairs members.methods_nodup isPair
  exact ⟨first, second, different, (members.related_iff pair.1 pair.2).mp isRelated⟩

theorem mem_relatedPairs_or_swap {members : ClassMembers} {left right : Nat}
    (leftMethod : left ∈ members.methods) (rightMethod : right ∈ members.methods)
    (different : left ≠ right) (related : members.Related left right) :
    (left, right) ∈ members.relatedPairs ∨ (right, left) ∈ members.relatedPairs := by
  unfold relatedPairs
  rw [List.mem_filter, List.mem_filter]
  rcases mem_pairs_or_swap leftMethod rightMethod different with ahead | behind
  · exact Or.inl ⟨ahead, (members.related_iff left right).mpr related⟩
  · exact Or.inr ⟨behind, (members.related_iff right left).mpr related.symm⟩

/-! ### Placing one pair -/

/-- The index is that of the method, or of a member it refers to. -/
def Reaches (members : ClassMembers) (method index : Nat) : Prop :=
  index = method ∨ index ∈ members.references method

/-- One of the two methods reaches the index. -/
def Spans (members : ClassMembers) (pair : Nat × Nat) (index : Nat) : Prop :=
  members.Reaches pair.1 index ∨ members.Reaches pair.2 index

theorem mem_absorb (members : ClassMembers) (pair : Nat × Nat) (component : Component)
    (index : Nat) :
    index ∈ members.absorb pair component ↔
      members.Spans pair index ∨ index ∈ component := by
  unfold absorb pairReferences Spans Reaches
  rw [mem_unionIndices, mem_insertIndex, mem_insertIndex, mem_unionIndices]
  tauto

theorem touches_iff (members : ClassMembers) (pair : Nat × Nat) (component : Component) :
    members.touches pair component = true ↔
      ∃ inside ∈ component, members.Spans pair inside ∨
        ∃ shared, shared ∈ members.references inside ∧
          (shared ∈ members.references pair.1 ∨ shared ∈ members.references pair.2) := by
  unfold touches pairReferences Spans Reaches
  simp only [Bool.or_eq_true, List.contains_iff_mem, List.any_eq_true, haveCommon_iff,
    mem_unionIndices]
  constructor
  · rintro (((first | second) | ⟨index, referred, inside⟩) | ⟨inside, present, shared⟩)
    · exact ⟨pair.1, first, Or.inl (Or.inl (Or.inl rfl))⟩
    · exact ⟨pair.2, second, Or.inl (Or.inr (Or.inl rfl))⟩
    · exact ⟨index, inside, Or.inl (referred.imp Or.inr Or.inr)⟩
    · exact ⟨inside, present, Or.inr shared⟩
  · rintro ⟨inside, present, ((rfl | byFirst) | (rfl | bySecond)) | shared⟩
    · exact Or.inl (Or.inl (Or.inl present))
    · exact Or.inl (Or.inr ⟨inside, Or.inl byFirst, present⟩)
    · exact Or.inl (Or.inl (Or.inr present))
    · exact Or.inl (Or.inr ⟨inside, Or.inr bySecond, present⟩)
    · exact Or.inr ⟨inside, present, shared⟩

private theorem map_touched_perm (components : List Component) (touched : Component → Bool)
    (change : Component → Component) :
    (components.map (fun component => if touched component then change component else component)).Perm
      ((components.filter touched).map change ++
        components.filter (fun component => !touched component)) := by
  induction components with
  | nil => exact List.Perm.refl _
  | cons head rest ih =>
      cases here : touched head with
      | true => simpa [here] using ih
      | false =>
          simp only [List.map_cons, here, Bool.false_eq_true, if_false, List.filter_cons,
            Bool.not_false, if_true]
          exact (ih.cons head).trans List.perm_middle.symm

/-- Placing a pair replaces the components it touches by a single one, which holds them, the
pair and what the pair refers to. -/
theorem place_perm (members : ClassMembers) (components : List Component) (pair : Nat × Nat) :
    ∃ merged : Component,
      (∀ index, index ∈ merged ↔ members.Spans pair index ∨
        ∃ component ∈ components, members.touches pair component = true ∧ index ∈ component) ∧
      (members.place components pair).Perm
        (merged :: components.filter (fun component => !members.touches pair component)) := by
  have touchedMem (index : Nat) :
      (∃ component ∈ components, members.touches pair component = true ∧ index ∈ component) ↔
        ∃ component ∈ components.filter (members.touches pair), index ∈ component := by
    simp only [List.mem_filter, and_assoc]
  unfold place
  cases found : components.filter (members.touches pair) with
  | nil =>
      refine ⟨members.absorb pair [], ?_, ?_⟩
      · intro index
        rw [mem_absorb, touchedMem, found]
        simp only [List.not_mem_nil, false_and, exists_false]
      · have untouched :
            components.filter (fun component => !members.touches pair component) = components := by
          rw [List.filter_eq_self]
          intro component present
          rw [Bool.not_eq_true']
          exact Bool.eq_false_iff.mpr (List.filter_eq_nil_iff.mp found component present)
        rw [untouched]
        exact List.perm_append_singleton _ _
  | cons first others =>
      cases others with
      | nil =>
          refine ⟨members.absorb pair first, ?_, ?_⟩
          · intro index
            rw [mem_absorb, touchedMem, found]
            simp only [List.mem_singleton, exists_eq_left]
          · have replaced := map_touched_perm components (members.touches pair)
              (members.absorb pair)
            rw [found] at replaced
            exact replaced
      | cons second rest =>
          refine ⟨_, ?_, List.perm_append_singleton _ _⟩
          intro index
          rw [mem_absorb, touchedMem, found, mem_foldl_unionIndices]
          simp only [List.not_mem_nil, false_or]

/-! ### Placing all pairs -/

/-- What holds of the components after the pairs in `placed`. -/
structure Clustering (members : ClassMembers) (placed : List (Nat × Nat))
    (components : List Component) : Prop where
  disjoint : components.Pairwise List.Disjoint
  nonempty : ∀ component ∈ components, component ≠ []
  /-- A placed pair lies in one component with all that it refers to. -/
  covered : ∀ pair ∈ placed, ∃ component ∈ components,
    ∀ index, members.Spans pair index → index ∈ component
  /-- Whatever is in a component came with a placed pair. -/
  founded : ∀ component ∈ components, ∀ index ∈ component, ∃ pair ∈ placed,
    members.Spans pair index ∧ ∀ other, members.Spans pair other → other ∈ component

theorem Clustering.empty (members : ClassMembers) : Clustering members [] [] where
  disjoint := List.Pairwise.nil
  nonempty := by
    intro component present
    cases present
  covered := by
    intro pair present
    cases present
  founded := by
    intro component present
    cases present

instance : Std.Symm (@List.Disjoint Nat) where
  symm := by
    intro left right apart index inRight inLeft
    exact apart inLeft inRight

/-- Disjoint components with an index in common are one component. -/
theorem eq_of_mem_of_mem {components : List Component}
    (disjoint : components.Pairwise List.Disjoint) {first second : Component} {index : Nat}
    (firstPresent : first ∈ components) (secondPresent : second ∈ components)
    (inFirst : index ∈ first) (inSecond : index ∈ second) : first = second := by
  by_contra different
  exact disjoint.forall firstPresent secondPresent different inFirst inSecond

theorem Clustering.place {members : ClassMembers} {placed : List (Nat × Nat)}
    {components : List Component} (clustering : Clustering members placed components)
    (pair : Nat × Nat) :
    Clustering members (placed ++ [pair]) (members.place components pair) := by
  obtain ⟨merged, inMerged, perm⟩ := members.place_perm components pair
  have cases {component : Component} :
      component ∈ members.place components pair ↔
        component = merged ∨
          component ∈ components ∧ members.touches pair component = false := by
    rw [perm.mem_iff, List.mem_cons, List.mem_filter, Bool.not_eq_true']
  refine ⟨?_, ?_, ?_, ?_⟩
  · refine (perm.pairwise_iff symm).mpr (List.pairwise_cons.mpr ⟨?_, ?_⟩)
    · -- A component that shares an index with the new one would have been touched.
      intro other present index atMerged atOther
      obtain ⟨otherPresent, notTouched⟩ := List.mem_filter.mp present
      rw [Bool.not_eq_true'] at notTouched
      rcases (inMerged index).mp atMerged with spanned | ⟨component, inList, touched, inside⟩
      · have touchedOther : members.touches pair other = true :=
          (members.touches_iff pair other).mpr ⟨index, atOther, Or.inl spanned⟩
        rw [notTouched] at touchedOther
        cases touchedOther
      · rw [eq_of_mem_of_mem clustering.disjoint inList otherPresent inside atOther, notTouched]
          at touched
        cases touched
    · exact clustering.disjoint.filter _
  · intro component present
    rcases cases.mp present with rfl | ⟨earlier, _⟩
    · have first : pair.1 ∈ component := (inMerged pair.1).mpr (Or.inl (Or.inl (Or.inl rfl)))
      exact List.ne_nil_of_mem first
    · exact clustering.nonempty component earlier
  · intro other present
    rcases List.mem_append.mp present with earlier | last
    · obtain ⟨component, inList, holds⟩ := clustering.covered other earlier
      cases touched : members.touches pair component with
      | true =>
          refine ⟨merged, cases.mpr (Or.inl rfl), ?_⟩
          intro index spanned
          exact (inMerged index).mpr (Or.inr ⟨component, inList, touched, holds index spanned⟩)
      | false => exact ⟨component, cases.mpr (Or.inr ⟨inList, touched⟩), holds⟩
    · have same := List.mem_singleton.mp last
      subst other
      refine ⟨merged, cases.mpr (Or.inl rfl), ?_⟩
      intro index spanned
      exact (inMerged index).mpr (Or.inl spanned)
  · intro component present index inside
    rcases cases.mp present with rfl | ⟨earlier, _⟩
    · rcases (inMerged index).mp inside with spanned | ⟨old, inList, touched, insideOld⟩
      · refine ⟨pair, List.mem_append_right placed (List.mem_singleton_self pair), spanned, ?_⟩
        intro other otherSpanned
        exact (inMerged other).mpr (Or.inl otherSpanned)
      · obtain ⟨source, sourcePlaced, spanned, holds⟩ :=
          clustering.founded old inList index insideOld
        refine ⟨source, List.mem_append_left [pair] sourcePlaced, spanned, ?_⟩
        intro other otherSpanned
        exact (inMerged other).mpr (Or.inr ⟨old, inList, touched, holds other otherSpanned⟩)
    · obtain ⟨source, sourcePlaced, spanned, holds⟩ :=
        clustering.founded component earlier index inside
      exact ⟨source, List.mem_append_left [pair] sourcePlaced, spanned, holds⟩

theorem Clustering.placeAll {members : ClassMembers} {placed : List (Nat × Nat)}
    {components : List Component} (clustering : Clustering members placed components)
    (later : List (Nat × Nat)) :
    Clustering members (placed ++ later) (later.foldl members.place components) := by
  induction later generalizing placed components with
  | nil => simpa using clustering
  | cons pair rest ih =>
      have next := ih (clustering.place pair)
      rwa [List.append_assoc, List.singleton_append] at next

end CrateMetrics.Cohesion.ClassMembers
