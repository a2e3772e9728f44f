/-
What a class can come to look like while its members are discovered. Every reference leads
to another member that is there, and only members of the kinds that are allowed to refer
do so. Sets of members are ascending lists; here they are read as sets.
-/

import CrateMetrics.Cohesion.Components
import Mathlib.Data.List.Nodup

namespace CrateMetrics.Cohesion

/-! ### Lists of indices as sets -/

@[simp]
theorem mem_insertIndex (index other : Nat) (indices : List Nat) :
    other ∈ insertIndex index indices ↔ other = index ∨ other ∈ indices := by
  induction indices with
  | nil => simp only [insertIndex, List.mem_cons]
  | cons head rest ih =>
      unfold insertIndex
      by_cases below : index < head
      · rw [if_pos below, List.mem_cons]
      · rw [if_neg below]
        by_cases same : index = head
        · subst index
          rw [if_pos rfl, List.mem_cons]
          tauto
        · rw [if_neg same, List.mem_cons, List.mem_cons, ih]
          tauto

@[simp]
theorem mem_unionIndices (left right : List Nat) (index : Nat) :
    index ∈ unionIndices left right ↔ index ∈ left ∨ index ∈ right := by
  unfold unionIndices
  induction right generalizing left with
  | nil => simp only [List.foldl_nil, List.not_mem_nil, or_false]
  | cons head rest ih =>
      rw [List.foldl_cons, ih, mem_insertIndex, List.mem_cons]
      tauto

theorem mem_foldl_unionIndices (sets : List (List Nat)) (start : List Nat) (index : Nat) :
    index ∈ sets.foldl unionIndices start ↔ index ∈ start ∨ ∃ set ∈ sets, index ∈ set := by
  induction sets generalizing start with
  | nil => simp only [List.foldl_nil, List.not_mem_nil, false_and, exists_false, or_false]
  | cons head rest ih =>
      rw [List.foldl_cons, ih, mem_unionIndices]
      simp only [List.mem_cons, exists_eq_or_imp, or_assoc]

theorem haveCommon_iff (left right : List Nat) :
    haveCommon left right = true ↔ ∃ index, index ∈ left ∧ index ∈ right := by
  simp only [haveCommon, List.any_eq_true, List.contains_iff_mem]

namespace ClassMembers

/-! ### Looking up members -/

theorem mem_references_iff (members : ClassMembers) (source target : Nat) :
    target ∈ members.references source ↔
      ∃ member, members.members[source]? = some member ∧ target ∈ member.references := by
  unfold references
  cases found : members.members[source]? with
  | none => simp only [List.not_mem_nil, reduceCtorEq, false_and, exists_false]
  | some member => simp only [Option.some.injEq, exists_eq_left']

theorem isMethod_iff (members : ClassMembers) (index : Nat) :
    members.isMethod index = true ↔
      ∃ member, members.members[index]? = some member ∧ member.kind = .method := by
  unfold isMethod
  cases found : members.members[index]? with
  | none => simp only [Bool.false_eq_true, reduceCtorEq, false_and, exists_false]
  | some member => simp only [beq_iff_eq, Option.some.injEq, exists_eq_left']

theorem mem_methods_iff (members : ClassMembers) (index : Nat) :
    index ∈ members.methods ↔ members.isMethod index = true := by
  unfold methods
  rw [List.mem_filter, List.mem_range]
  constructor
  · exact And.right
  · intro isMethod
    obtain ⟨member, found, _⟩ := (members.isMethod_iff index).mp isMethod
    exact ⟨(List.getElem?_eq_some_iff.mp found).1, isMethod⟩

theorem methods_nodup (members : ClassMembers) : members.methods.Nodup :=
  List.Nodup.filter _ List.nodup_range

/-- The member at the index has the name and kind. -/
def Has (members : ClassMembers) (index : Nat) (name : String) (kind : MemberKind) : Prop :=
  ∃ member, members.members[index]? = some member ∧ member.name = name ∧ member.kind = kind

theorem Has.inside {members : ClassMembers} {index : Nat} {name : String} {kind : MemberKind}
    (has : members.Has index name kind) : index < members.members.length := by
  obtain ⟨member, found, _⟩ := has
  exact (List.getElem?_eq_some_iff.mp found).1

theorem mem_methods_iff_has (members : ClassMembers) (index : Nat) :
    index ∈ members.methods ↔ ∃ name, members.Has index name .method := by
  rw [mem_methods_iff, isMethod_iff]
  constructor
  · rintro ⟨member, found, isMethod⟩
    exact ⟨member.name, member, found, rfl, isMethod⟩
  · rintro ⟨_, member, found, _, isMethod⟩
    exact ⟨member, found, isMethod⟩

theorem lt_of_mem_methods {members : ClassMembers} {index : Nat}
    (isMethod : index ∈ members.methods) : index < members.members.length := by
  obtain ⟨name, has⟩ := (members.mem_methods_iff_has index).mp isMethod
  exact has.inside

theorem Has.nameOf {members : ClassMembers} {index : Nat} {name : String} {kind : MemberKind}
    (has : members.Has index name kind) : members.nameOf index = name := by
  obtain ⟨member, found, named, _⟩ := has
  unfold ClassMembers.nameOf
  rw [found]
  exact named

theorem has_of_find? {members : ClassMembers} {name : String} {kind : MemberKind} {index : Nat}
    (found : members.find? name kind = some index) : members.Has index name kind := by
  unfold find? at found
  obtain ⟨bound, here, _⟩ := List.findIdx?_eq_some_iff_getElem.mp found
  rw [Bool.and_eq_true, beq_iff_eq, beq_iff_eq] at here
  exact ⟨members.members[index], List.getElem?_eq_getElem bound, here.2, here.1⟩

theorem not_has_of_find? {members : ClassMembers} {name : String} {kind : MemberKind}
    (missing : members.find? name kind = none) (index : Nat) : ¬ members.Has index name kind := by
  rintro ⟨member, found, named, ofKind⟩
  unfold find? at missing
  have differs := List.findIdx?_eq_none_iff.mp missing member (List.mem_of_getElem? found)
  rw [named, ofKind, beq_self_eq_true, beq_self_eq_true] at differs
  cases differs

/-! ### Discovering members -/

/-- The members that can be made by adding members and references, where only members of
the kinds in `refers` refer to others. -/
inductive Built (refers : MemberKind → Prop) : ClassMembers → Prop
  | new (className : String) : Built refers { className }
  | add {members : ClassMembers} (name : String) (kind : MemberKind)
      (built : Built refers members) : Built refers (members.add name kind).1
  | reference {members : ClassMembers} {member : Member} (source target : Nat)
      (built : Built refers members) (found : members.members[source]? = some member)
      (allowed : refers member.kind) (inside : target < members.members.length) :
      Built refers (members.reference source target)

/-- Members that are told apart by name and kind, and whose references lead to other members
that are there, from members of the kinds in `refers`. -/
structure Proper (refers : MemberKind → Prop) (members : ClassMembers) : Prop where
  distinct : ∀ left right name kind,
    members.Has left name kind → members.Has right name kind → left = right
  inside : ∀ source target, target ∈ members.references source →
    target < members.members.length
  irreflexive : ∀ source, source ∉ members.references source
  allowed : ∀ source target, target ∈ members.references source →
    ∃ member, members.members[source]? = some member ∧ refers member.kind

theorem Proper.find?_eq_some_iff {refers : MemberKind → Prop} {members : ClassMembers}
    (proper : Proper refers members) (name : String) (kind : MemberKind) (index : Nat) :
    members.find? name kind = some index ↔ members.Has index name kind := by
  constructor
  · exact has_of_find?
  · intro has
    cases found : members.find? name kind with
    | none => exact absurd has (not_has_of_find? found index)
    | some other => rw [proper.distinct other index name kind (has_of_find? found) has]

/-- A member that is there is found; another one is added at the end. -/
theorem add_cases (members : ClassMembers) (name : String) (kind : MemberKind) :
    (members.Has (members.add name kind).2 name kind ∧ (members.add name kind).1 = members) ∨
      ((∀ index, ¬ members.Has index name kind) ∧
        (members.add name kind).2 = members.members.length ∧
        (members.add name kind).1.members = members.members ++ [⟨name, kind, []⟩]) := by
  unfold add
  cases found : members.find? name kind with
  | some index =>
      left
      exact ⟨has_of_find? found, rfl⟩
  | none =>
      right
      exact ⟨not_has_of_find? found, rfl, rfl⟩

theorem has_append {members grown : ClassMembers} {fresh : Member}
    (appended : grown.members = members.members ++ [fresh]) (index : Nat) (name : String)
    (kind : MemberKind) :
    grown.Has index name kind ↔ members.Has index name kind ∨
      (index = members.members.length ∧ fresh.name = name ∧ fresh.kind = kind) := by
  unfold Has
  rw [appended]
  rcases Nat.lt_trichotomy index members.members.length with before | last | after
  · rw [List.getElem?_append_left before]
    have notLast : index ≠ members.members.length := by omega
    simp only [notLast, false_and, or_false]
  · subst index
    rw [List.getElem?_concat_length, List.getElem?_eq_none (Nat.le_refl _)]
    simp
  · rw [List.getElem?_eq_none (by simp; omega), List.getElem?_eq_none (by omega)]
    have notLast : index ≠ members.members.length := by omega
    simp [notLast]

theorem methods_append {members grown : ClassMembers} {fresh : Member}
    (appended : grown.members = members.members ++ [fresh]) :
    grown.methods =
      members.methods ++ if fresh.kind = .method then [members.members.length] else [] := by
  have earlier : (List.range members.members.length).filter grown.isMethod = members.methods := by
    apply List.filter_congr
    intro index present
    unfold isMethod
    rw [appended, List.getElem?_append_left (List.mem_range.mp present)]
  have last : grown.isMethod members.members.length = decide (fresh.kind = .method) := by
    unfold isMethod
    rw [appended, List.getElem?_concat_length]
    rfl
  rw [methods, appended, List.length_append, List.length_singleton, List.range_succ,
    List.filter_append, earlier, List.filter_singleton, last, Bool.cond_decide]

theorem Has.add {members : ClassMembers} {index : Nat} {name : String} {kind : MemberKind}
    (has : members.Has index name kind) (other : String) (otherKind : MemberKind) :
    (members.add other otherKind).1.Has index name kind := by
  rcases members.add_cases other otherKind with ⟨_, same⟩ | ⟨_, _, appended⟩
  · rw [same]
    exact has
  · exact (has_append appended index name kind).mpr (Or.inl has)

theorem has_add_self (members : ClassMembers) (name : String) (kind : MemberKind) :
    (members.add name kind).1.Has (members.add name kind).2 name kind := by
  rcases members.add_cases name kind with ⟨has, same⟩ | ⟨_, last, appended⟩
  · rw [same]
    exact has
  · rw [last]
    exact (has_append appended _ name kind).mpr (Or.inr ⟨rfl, rfl, rfl⟩)

theorem references_add (members : ClassMembers) (name : String) (kind : MemberKind)
    (source : Nat) :
    (members.add name kind).1.references source = members.references source := by
  rcases members.add_cases name kind with ⟨_, same⟩ | ⟨_, _, appended⟩
  · rw [same]
  · unfold references
    rw [appended]
    rcases Nat.lt_trichotomy source members.members.length with before | last | after
    · rw [List.getElem?_append_left before]
    · subst source
      rw [List.getElem?_concat_length, List.getElem?_eq_none (Nat.le_refl _)]
    · rw [List.getElem?_eq_none (by simp; omega), List.getElem?_eq_none (by omega)]

/-- Members keep their index, name and kind when a reference is recorded. -/
theorem getElem?_reference (members : ClassMembers) (source target index : Nat) :
    (members.reference source target).members[index]? =
      (members.members[index]?).map (fun member =>
        if source = index ∧ source ≠ target then
          { member with references := insertIndex target member.references }
        else member) := by
  unfold reference
  by_cases same : source = target
  · rw [if_pos same]
    simp only [same, ne_eq, not_true_eq_false, and_false, if_false, Option.map_id_fun', id_eq]
  · rw [if_neg same]
    simp only [List.getElem?_modify, ne_eq, same, not_false_eq_true, and_true]
    rfl

theorem length_reference (members : ClassMembers) (source target : Nat) :
    (members.reference source target).members.length = members.members.length := by
  unfold reference
  split
  · rfl
  · exact List.length_modify _ _ _

theorem has_reference (members : ClassMembers) (source target index : Nat) (name : String)
    (kind : MemberKind) :
    (members.reference source target).Has index name kind ↔ members.Has index name kind := by
  unfold Has
  rw [getElem?_reference]
  cases members.members[index]? with
  | none => simp only [Option.map_none, reduceCtorEq, false_and, exists_false]
  | some member =>
      simp only [Option.map_some, Option.some.injEq, exists_eq_left']
      split
      · rfl
      · rfl

theorem methods_reference (members : ClassMembers) (source target : Nat) :
    (members.reference source target).methods = members.methods := by
  have isMethod : (members.reference source target).isMethod = members.isMethod := by
    funext index
    rw [Bool.eq_iff_iff, ← mem_methods_iff, ← mem_methods_iff, mem_methods_iff_has,
      mem_methods_iff_has]
    simp only [has_reference]
  rw [methods, methods, length_reference, isMethod]

theorem mem_references_reference (members : ClassMembers) (source target other index : Nat)
    (inside : source < members.members.length) :
    index ∈ (members.reference source target).references other ↔
      index ∈ members.references other ∨
        (other = source ∧ index = target ∧ source ≠ target) := by
  rw [mem_references_iff, mem_references_iff, getElem?_reference]
  by_cases here : source = other
  · subst other
    rw [List.getElem?_eq_getElem inside]
    by_cases same : source = target
    · simp [same]
    · simp [same, or_comm]
  · simp only [here, false_and, if_false, Option.map_id_fun', id_eq, Ne.symm here, or_false]

theorem Proper.new (refers : MemberKind → Prop) (className : String) :
    Proper refers { className } where
  distinct := by
    intro left right name kind has
    cases has.inside
  inside := by
    intro source target member
    cases member
  irreflexive := by
    intro source member
    cases member
  allowed := by
    intro source target member
    cases member

theorem Proper.add {refers : MemberKind → Prop} {members : ClassMembers}
    (proper : Proper refers members) (name : String) (kind : MemberKind) :
    Proper refers (members.add name kind).1 := by
  rcases members.add_cases name kind with ⟨_, same⟩ | ⟨absent, _, appended⟩
  · rw [same]
    exact proper
  · refine ⟨?_, ?_, ?_, ?_⟩
    · intro left right other otherKind hasLeft hasRight
      rcases (has_append appended left other otherKind).mp hasLeft
        with leftOld | ⟨leftLast, rfl, rfl⟩
      · rcases (has_append appended right other otherKind).mp hasRight
          with rightOld | ⟨_, rfl, rfl⟩
        · exact proper.distinct left right other otherKind leftOld rightOld
        · exact absurd leftOld (absent left)
      · rcases (has_append appended right _ _).mp hasRight with rightOld | ⟨rightLast, _⟩
        · exact absurd rightOld (absent right)
        · exact leftLast.trans rightLast.symm
    · intro source target member
      rw [references_add] at member
      rw [appended, List.length_append]
      have bound := proper.inside source target member
      omega
    · intro source
      rw [references_add]
      exact proper.irreflexive source
    · intro source target member
      rw [references_add] at member
      obtain ⟨holder, found, allowed⟩ := proper.allowed source target member
      refine ⟨holder, ?_, allowed⟩
      rw [appended, List.getElem?_append_left (List.getElem?_eq_some_iff.mp found).1]
      exact found

theorem Proper.reference {refers : MemberKind → Prop} {members : ClassMembers}
    (proper : Proper refers members) {source target : Nat} {name : String} {kind : MemberKind}
    (has : members.Has source name kind) (allowed : refers kind)
    (inside : target < members.members.length) :
    Proper refers (members.reference source target) := by
  refine ⟨?_, ?_, ?_, ?_⟩
  · intro left right other otherKind hasLeft hasRight
    rw [has_reference] at hasLeft hasRight
    exact proper.distinct left right other otherKind hasLeft hasRight
  · intro other index present
    rw [length_reference]
    rcases (members.mem_references_reference source target other index has.inside).mp present
      with earlier | ⟨_, isTarget, _⟩
    · exact proper.inside other index earlier
    · exact isTarget ▸ inside
  · intro other present
    rcases (members.mem_references_reference source target other other has.inside).mp present
      with earlier | ⟨isSource, isTarget, different⟩
    · exact proper.irreflexive other earlier
    · exact different (isSource.symm.trans isTarget)
  · intro other index present
    rw [getElem?_reference]
    rcases (members.mem_references_reference source target other index has.inside).mp present
      with earlier | ⟨isSource, _, _⟩
    · obtain ⟨holder, holderFound, holderAllowed⟩ := proper.allowed other index earlier
      rw [holderFound]
      refine ⟨_, rfl, ?_⟩
      split
      · exact holderAllowed
      · exact holderAllowed
    · subst other
      obtain ⟨member, found, _, rfl⟩ := has
      rw [found]
      refine ⟨_, rfl, ?_⟩
      split
      · exact allowed
      · exact allowed

/-- Discovery only ever makes proper members. -/
theorem Built.proper {refers : MemberKind → Prop} {members : ClassMembers}
    (built : Built refers members) : Proper refers members := by
  induction built with
  | new className => exact Proper.new refers className
  | add name kind _ ih => exact ih.add name kind
  | @reference _ member source target _ found allowed inside ih =>
      exact ih.reference ⟨member, found, rfl, rfl⟩ allowed inside

end ClassMembers

end CrateMetrics.Cohesion
