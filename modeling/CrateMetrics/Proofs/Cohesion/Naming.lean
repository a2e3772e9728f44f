/-
The members and references that follow from how the methods of a class use its members. A
method refers to the fields it accesses and to the methods, other than itself, whose bare
name it calls.
-/

import CrateMetrics.Cohesion.Usage
import CrateMetrics.Proofs.Cohesion.Members

namespace CrateMetrics.Cohesion

namespace ClassMembers

/-! ### Recording many references -/

/-- Records references in order. -/
def recordAll (members : ClassMembers) (links : List (Nat × Nat)) : ClassMembers :=
  links.foldl (fun members link => members.reference link.1 link.2) members

theorem recordAll_append (members : ClassMembers) (first second : List (Nat × Nat)) :
    members.recordAll (first ++ second) = (members.recordAll first).recordAll second :=
  List.foldl_append

theorem has_recordAll (members : ClassMembers) (links : List (Nat × Nat)) (index : Nat)
    (name : String) (kind : MemberKind) :
    (members.recordAll links).Has index name kind ↔ members.Has index name kind := by
  induction links generalizing members with
  | nil => exact Iff.rfl
  | cons link rest ih => exact (ih _).trans (has_reference members link.1 link.2 index name kind)

private theorem className_reference (members : ClassMembers) (source target : Nat) :
    (members.reference source target).className = members.className := by
  unfold reference
  split
  · rfl
  · rfl

theorem className_recordAll (members : ClassMembers) (links : List (Nat × Nat)) :
    (members.recordAll links).className = members.className := by
  induction links generalizing members with
  | nil => rfl
  | cons link rest ih => exact (ih _).trans (className_reference members link.1 link.2)

theorem mem_references_recordAll (members : ClassMembers) (links : List (Nat × Nat))
    (inside : ∀ link ∈ links, link.1 < members.members.length) (source target : Nat) :
    target ∈ (members.recordAll links).references source ↔
      target ∈ members.references source ∨ ((source, target) ∈ links ∧ source ≠ target) := by
  induction links generalizing members with
  | nil =>
      simp only [List.not_mem_nil, false_and, or_false]
      exact Iff.rfl
  | cons link rest ih =>
      obtain ⟨first, second⟩ := link
      have firstInside := inside (first, second) List.mem_cons_self
      have restInside : ∀ link ∈ rest, link.1 < (members.reference first second).members.length := by
        intro link present
        rw [length_reference]
        exact inside link (List.mem_cons_of_mem _ present)
      have step := members.mem_references_reference first second source target firstInside
      refine (ih _ restInside).trans ?_
      rw [step, List.mem_cons, Prod.mk.injEq]
      constructor
      · rintro ((earlier | ⟨rfl, rfl, different⟩) | ⟨later, different⟩)
        · exact Or.inl earlier
        · exact Or.inr ⟨Or.inl ⟨rfl, rfl⟩, different⟩
        · exact Or.inr ⟨Or.inr later, different⟩
      · rintro (earlier | ⟨⟨rfl, rfl⟩ | later, different⟩)
        · exact Or.inl (Or.inl earlier)
        · exact Or.inl (Or.inr ⟨rfl, rfl, different⟩)
        · exact Or.inr ⟨later, different⟩

theorem Proper.recordAll {refers : MemberKind → Prop} {members : ClassMembers}
    (proper : Proper refers members) (links : List (Nat × Nat))
    (sources : ∀ link ∈ links, ∃ name kind, members.Has link.1 name kind ∧ refers kind)
    (targets : ∀ link ∈ links, link.2 < members.members.length) :
    Proper refers (members.recordAll links) := by
  induction links generalizing members with
  | nil => exact proper
  | cons link rest ih =>
      obtain ⟨name, kind, has, allowed⟩ := sources link List.mem_cons_self
      refine ih (proper.reference has allowed (targets link List.mem_cons_self)) ?_ ?_
      · intro other present
        obtain ⟨otherName, otherKind, otherHas, otherAllowed⟩ :=
          sources other (List.mem_cons_of_mem link present)
        exact ⟨otherName, otherKind, (has_reference members _ _ _ _ _).mpr otherHas, otherAllowed⟩
      · intro other present
        rw [length_reference]
        exact targets other (List.mem_cons_of_mem link present)

/-! ### Names are found regardless of references -/

private theorem findIdx?_modify (all : List Member) (index : Nat) (change : Member → Member)
    (wanted : Member → Bool) (kept : ∀ member, wanted (change member) = wanted member) :
    (all.modify index change).findIdx? wanted = all.findIdx? wanted := by
  induction all generalizing index with
  | nil => rw [List.modify_nil]
  | cons head rest ih =>
      cases index with
      | zero => rw [List.modify_zero_cons, List.findIdx?_cons, List.findIdx?_cons, kept]
      | succ index => rw [List.modify_succ_cons, List.findIdx?_cons, List.findIdx?_cons, ih]

private theorem find?_reference (members : ClassMembers) (source target : Nat) (name : String)
    (kind : MemberKind) :
    (members.reference source target).find? name kind = members.find? name kind := by
  unfold reference
  split
  · rfl
  · exact findIdx?_modify members.members source _ _ (fun _ => rfl)

theorem find?_recordAll (members : ClassMembers) (links : List (Nat × Nat)) (name : String)
    (kind : MemberKind) :
    (members.recordAll links).find? name kind = members.find? name kind := by
  induction links generalizing members with
  | nil => rfl
  | cons link rest ih => exact (ih _).trans (find?_reference members link.1 link.2 name kind)

private theorem methods_recordAll (members : ClassMembers) (links : List (Nat × Nat)) :
    (members.recordAll links).methods = members.methods := by
  induction links generalizing members with
  | nil => rfl
  | cons link rest ih => exact (ih _).trans (methods_reference members link.1 link.2)

theorem mem_methodsNamed_iff (members : ClassMembers) (bare : String) (index : Nat) :
    index ∈ members.methodsNamed bare ↔
      ∃ name, members.Has index name .method ∧ Text.bareName name = bare := by
  unfold methodsNamed
  rw [List.mem_filter, mem_methods_iff_has, beq_iff_eq]
  constructor
  · rintro ⟨⟨name, has⟩, matched⟩
    rw [has.nameOf] at matched
    exact ⟨name, has, matched⟩
  · rintro ⟨name, has, matched⟩
    refine ⟨⟨name, has⟩, ?_⟩
    rw [has.nameOf]
    exact matched

private theorem nameOf_recordAll (members : ClassMembers) (links : List (Nat × Nat))
    {index : Nat} (isMethod : index ∈ members.methods) :
    (members.recordAll links).nameOf index = members.nameOf index := by
  obtain ⟨name, has⟩ := (members.mem_methods_iff_has index).mp isMethod
  rw [has.nameOf, ((has_recordAll members links index name .method).mpr has).nameOf]

theorem methodsNamed_recordAll (members : ClassMembers) (links : List (Nat × Nat))
    (bare : String) : (members.recordAll links).methodsNamed bare = members.methodsNamed bare := by
  unfold methodsNamed
  rw [methods_recordAll]
  apply List.filter_congr
  intro index isMethod
  rw [nameOf_recordAll members links isMethod]

end ClassMembers

namespace ClassUsage

open ClassMembers

/-! ### Adding members -/

private theorem proper_addFields {refers : MemberKind → Prop} {members : ClassMembers}
    (proper : Proper refers members) (fields : List String) :
    Proper refers (addFields fields members) := by
  unfold addFields
  induction fields generalizing members with
  | nil => exact proper
  | cons field rest ih => exact ih (proper.add field .field)

private theorem has_addFields {members : ClassMembers} {index : Nat} {name : String}
    {kind : MemberKind} (has : members.Has index name kind) (fields : List String) :
    (addFields fields members).Has index name kind := by
  unfold addFields
  induction fields generalizing members with
  | nil => exact has
  | cons field rest ih => exact ih (has.add field .field)

private theorem exists_has_addFields (members : ClassMembers) (fields : List String)
    {field : String} (present : field ∈ fields) :
    ∃ index, (addFields fields members).Has index field .field := by
  induction fields generalizing members with
  | nil => cases present
  | cons head rest ih =>
      rcases List.mem_cons.mp present with rfl | later
      · exact ⟨_, has_addFields (members.has_add_self field .field) rest⟩
      · exact ih (members.add head .field).1 later

/-- Fields are no methods. -/
private theorem has_method_of_addFields {members : ClassMembers} {fields : List String}
    {index : Nat} {name : String} (has : (addFields fields members).Has index name .method) :
    members.Has index name .method := by
  unfold addFields at has
  induction fields generalizing members with
  | nil => exact has
  | cons field rest ih =>
      have earlier : (members.add field .field).1.Has index name .method := ih has
      rcases members.add_cases field .field with ⟨_, same⟩ | ⟨_, _, appended⟩
      · rwa [same] at earlier
      · rcases (has_append appended index name .method).mp earlier with old | ⟨_, _, isField⟩
        · exact old
        · cases isField

private theorem references_addFields (members : ClassMembers) (fields : List String)
    (source : Nat) : (addFields fields members).references source = members.references source := by
  unfold addFields
  induction fields generalizing members with
  | nil => rfl
  | cons field rest ih => exact (ih _).trans (members.references_add field .field source)

private theorem proper_addMethods {refers : MemberKind → Prop} {members : ClassMembers}
    (proper : Proper refers members) (methods : List MethodUsage) :
    Proper refers (addMethods methods members).1 := by
  induction methods generalizing members with
  | nil => exact proper
  | cons method rest ih => exact ih (proper.add method.name .method)

private theorem has_addMethods {members : ClassMembers} {index : Nat} {name : String}
    {kind : MemberKind} (has : members.Has index name kind) (methods : List MethodUsage) :
    (addMethods methods members).1.Has index name kind := by
  induction methods generalizing members with
  | nil => exact has
  | cons method rest ih => exact ih (has.add method.name .method)

/-- Every method that is listed gets the index of a method with its name. -/
private theorem has_of_mem_zip {methods : List MethodUsage} {members : ClassMembers}
    {method : MethodUsage} {index : Nat}
    (listed : (method, index) ∈ methods.zip (addMethods methods members).2) :
    (addMethods methods members).1.Has index method.name .method := by
  induction methods generalizing members with
  | nil => cases listed
  | cons head rest ih =>
      rcases List.mem_cons.mp listed with same | later
      · obtain ⟨rfl, rfl⟩ := Prod.mk.inj same
        exact has_addMethods (members.has_add_self method.name .method) rest
      · exact ih later

private theorem exists_mem_zip {methods : List MethodUsage} (members : ClassMembers)
    {method : MethodUsage} (present : method ∈ methods) :
    ∃ index, (method, index) ∈ methods.zip (addMethods methods members).2 := by
  induction methods generalizing members with
  | nil => cases present
  | cons head rest ih =>
      rcases List.mem_cons.mp present with rfl | later
      · exact ⟨_, List.mem_cons_self⟩
      · obtain ⟨index, listed⟩ := ih (members.add head.name .method).1 later
        exact ⟨index, List.mem_cons_of_mem _ listed⟩

private theorem mem_methods_of_has {methods : List MethodUsage} {members : ClassMembers}
    {index : Nat} {name : String} (has : (addMethods methods members).1.Has index name .method) :
    members.Has index name .method ∨ ∃ method ∈ methods, method.name = name := by
  induction methods generalizing members with
  | nil => exact Or.inl has
  | cons method rest ih =>
      have split : (members.add method.name .method).1.Has index name .method ∨
          ∃ method ∈ rest, method.name = name := ih has
      rcases split with earlier | ⟨later, present, named⟩
      · rcases members.add_cases method.name .method with ⟨_, same⟩ | ⟨_, _, appended⟩
        · rw [same] at earlier
          exact Or.inl earlier
        · rcases (has_append appended index name .method).mp earlier with old | ⟨_, named, _⟩
          · exact Or.inl old
          · exact Or.inr ⟨method, List.mem_cons_self, named⟩
      · exact Or.inr ⟨later, List.mem_cons_of_mem method present, named⟩

private theorem references_addMethods (members : ClassMembers) (methods : List MethodUsage)
    (source : Nat) :
    (addMethods methods members).1.references source = members.references source := by
  induction methods generalizing members with
  | nil => rfl
  | cons method rest ih => exact (ih _).trans (members.references_add method.name .method source)

/-! ### Resolving names -/

/-- What a method refers to by the fields and calls in it. -/
def targets (members : ClassMembers) (method : MethodUsage) : List Nat :=
  method.fields.filterMap (fun field => members.find? field .field) ++
    method.calls.flatMap members.methodsNamed

theorem mem_targets_iff {refers : MemberKind → Prop} {members : ClassMembers}
    (proper : Proper refers members) (method : MethodUsage) (target : Nat) :
    target ∈ targets members method ↔
      (∃ field ∈ method.fields, members.Has target field .field) ∨
        ∃ name, members.Has target name .method ∧ Text.bareName name ∈ method.calls := by
  unfold targets
  rw [List.mem_append, List.mem_filterMap, List.mem_flatMap]
  simp only [proper.find?_eq_some_iff, mem_methodsNamed_iff]
  constructor
  · rintro (byField | ⟨call, called, name, has, rfl⟩)
    · exact Or.inl byField
    · exact Or.inr ⟨name, has, called⟩
  · rintro (byField | ⟨name, has, called⟩)
    · exact Or.inl byField
    · exact Or.inr ⟨_, called, name, has, rfl⟩

private theorem foldl_fields (members : ClassMembers) (index : Nat) (fields : List String)
    (links : List (Nat × Nat)) :
    fields.foldl
      (fun members field =>
        match members.find? field .field with
        | some target => members.reference index target
        | none => members) (members.recordAll links) =
      members.recordAll (links ++
        (fields.filterMap (fun field => members.find? field .field)).map (fun target =>
          (index, target))) := by
  induction fields generalizing links with
  | nil => rw [List.filterMap_nil, List.map_nil, List.append_nil, List.foldl_nil]
  | cons field rest ih =>
      rw [List.foldl_cons, find?_recordAll]
      cases found : members.find? field .field with
      | none =>
          simp only [List.filterMap_cons, found]
          exact ih links
      | some target =>
          have recorded : (members.recordAll links).reference index target =
              members.recordAll (links ++ [(index, target)]) :=
            (recordAll_append members links [(index, target)]).symm
          simp only [recorded, List.filterMap_cons, found]
          rw [ih, List.map_cons, List.append_assoc, List.singleton_append]

private theorem foldl_calls (members : ClassMembers) (index : Nat) (calls : List String)
    (links : List (Nat × Nat)) :
    calls.foldl
      (fun members call =>
        (members.methodsNamed call).foldl (fun members target => members.reference index target)
          members) (members.recordAll links) =
      members.recordAll (links ++
        (calls.flatMap members.methodsNamed).map (fun target => (index, target))) := by
  induction calls generalizing links with
  | nil => rw [List.flatMap_nil, List.map_nil, List.append_nil, List.foldl_nil]
  | cons call rest ih =>
      have recorded :
          (members.methodsNamed call).foldl (fun members target => members.reference index target)
              (members.recordAll links) =
            members.recordAll (links ++
              (members.methodsNamed call).map (fun target => (index, target))) := by
        rw [recordAll_append]
        unfold recordAll
        rw [List.foldl_map]
      rw [List.foldl_cons, methodsNamed_recordAll, recorded, ih, List.flatMap_cons,
        List.map_append, List.append_assoc]

private theorem addReferences_recordAll (members : ClassMembers) (links : List (Nat × Nat))
    (method : MethodUsage) (index : Nat) :
    addReferences (members.recordAll links) method index =
      members.recordAll (links ++
        (targets members method).map (fun target => (index, target))) := by
  have afterFields := foldl_fields members index method.fields links
  have afterCalls := foldl_calls members index method.calls (links ++
    (method.fields.filterMap (fun field => members.find? field .field)).map (fun target =>
      (index, target)))
  rw [targets, List.map_append, ← List.append_assoc, ← afterCalls, ← afterFields]
  rfl

/-! ### The members of a class -/

/-- The members of a class before references are recorded, and the index of each method. -/
def discovered (usage : ClassUsage) (className : String) : ClassMembers × List Nat :=
  addMethods usage.methods
    (addFields (usage.methods.flatMap (·.fields)) (addFields usage.fields { className }))

/-- All references of a class. -/
def links (usage : ClassUsage) (className : String) : List (Nat × Nat) :=
  (usage.methods.zip (usage.discovered className).2).flatMap (fun (method, index) =>
    (targets (usage.discovered className).1 method).map (fun target => (index, target)))

theorem toMembers_eq (usage : ClassUsage) (className : String) :
    usage.toMembers className =
      (usage.discovered className).1.recordAll (usage.links className) := by
  have fold (listed : List (MethodUsage × Nat)) (members : ClassMembers)
      (earlier : List (Nat × Nat)) :
      listed.foldl (fun members (method, index) => addReferences members method index)
          (members.recordAll earlier) =
        members.recordAll (earlier ++ listed.flatMap (fun (method, index) =>
          (targets members method).map (fun target => (index, target)))) := by
    induction listed generalizing earlier with
    | nil => rw [List.flatMap_nil, List.append_nil, List.foldl_nil]
    | cons head rest ih =>
        obtain ⟨method, index⟩ := head
        change rest.foldl _ (addReferences (members.recordAll earlier) method index) = _
        rw [addReferences_recordAll, ih, List.flatMap_cons, List.append_assoc]
  exact fold _ (usage.discovered className).1 []

private theorem proper_discovered (usage : ClassUsage) (className : String) :
    Proper (· = .method) (usage.discovered className).1 :=
  proper_addMethods (proper_addFields (proper_addFields (Proper.new _ className) _) _) _

private theorem references_discovered (usage : ClassUsage) (className : String) (source : Nat) :
    (usage.discovered className).1.references source = [] := by
  unfold discovered
  rw [references_addMethods, references_addFields, references_addFields]
  rfl

private theorem mem_links_iff (usage : ClassUsage) (className : String) (source target : Nat) :
    (source, target) ∈ usage.links className ↔
      ∃ method ∈ usage.methods, (usage.discovered className).1.Has source method.name .method ∧
        target ∈ targets (usage.discovered className).1 method := by
  unfold links
  simp only [List.mem_flatMap, List.mem_map, Prod.mk.injEq, Prod.exists]
  constructor
  · rintro ⟨method, index, listed, other, isTarget, rfl, rfl⟩
    exact ⟨method, (List.of_mem_zip listed).1, has_of_mem_zip listed, isTarget⟩
  · rintro ⟨method, present, has, isTarget⟩
    obtain ⟨index, listed⟩ := exists_mem_zip
      (addFields (usage.methods.flatMap (·.fields)) (addFields usage.fields { className })) present
    have same : index = source :=
      (usage.proper_discovered className).distinct index source method.name .method
        (has_of_mem_zip listed) has
    exact ⟨method, index, listed, target, isTarget, same, rfl⟩

/-- A method named in the class stands among the members, and no other method does. -/
theorem exists_has_toMembers_iff (usage : ClassUsage) (className name : String) :
    (∃ index, (usage.toMembers className).Has index name .method) ↔
      ∃ method ∈ usage.methods, method.name = name := by
  rw [toMembers_eq]
  simp only [has_recordAll]
  constructor
  · rintro ⟨index, has⟩
    rcases mem_methods_of_has has with earlier | named
    · have fromStart := has_method_of_addFields (has_method_of_addFields earlier)
      cases fromStart.inside
    · exact named
  · rintro ⟨method, present, rfl⟩
    obtain ⟨index, listed⟩ := exists_mem_zip
      (addFields (usage.methods.flatMap (·.fields)) (addFields usage.fields { className })) present
    exact ⟨index, has_of_mem_zip listed⟩

/-- A field that a method accesses stands among the members. -/
theorem exists_has_field_toMembers (usage : ClassUsage) (className : String)
    {method : MethodUsage} (present : method ∈ usage.methods) {field : String}
    (accessed : field ∈ method.fields) :
    ∃ index, (usage.toMembers className).Has index field .field := by
  obtain ⟨index, has⟩ := exists_has_addFields (addFields usage.fields { className })
    (usage.methods.flatMap (·.fields)) (List.mem_flatMap.mpr ⟨method, present, accessed⟩)
  refine ⟨index, ?_⟩
  rw [toMembers_eq, has_recordAll]
  exact has_addMethods has usage.methods

/-- A method refers to the fields it accesses and to the other methods whose bare name it
calls, and to nothing else. -/
theorem mem_references_toMembers_iff (usage : ClassUsage) (className : String)
    (source target : Nat) :
    target ∈ (usage.toMembers className).references source ↔
      source ≠ target ∧ ∃ method ∈ usage.methods,
        (usage.toMembers className).Has source method.name .method ∧
          ((∃ field ∈ method.fields, (usage.toMembers className).Has target field .field) ∨
            ∃ name, (usage.toMembers className).Has target name .method ∧
              Text.bareName name ∈ method.calls) := by
  have sourcesInside : ∀ link ∈ usage.links className,
      link.1 < (usage.discovered className).1.members.length := by
    intro link present
    obtain ⟨_, _, has, _⟩ := (usage.mem_links_iff className link.1 link.2).mp present
    exact has.inside
  rw [toMembers_eq, mem_references_recordAll _ _ sourcesInside, references_discovered,
    mem_links_iff]
  simp only [has_recordAll, List.not_mem_nil, false_or,
    mem_targets_iff (usage.proper_discovered className)]
  exact And.comm

theorem proper_toMembers (usage : ClassUsage) (className : String) :
    Proper (· = .method) (usage.toMembers className) := by
  rw [toMembers_eq]
  refine (usage.proper_discovered className).recordAll _ ?_ ?_
  · intro link present
    obtain ⟨method, _, has, _⟩ := (usage.mem_links_iff className link.1 link.2).mp present
    exact ⟨method.name, .method, has, rfl⟩
  · intro link present
    obtain ⟨method, _, _, isTarget⟩ := (usage.mem_links_iff className link.1 link.2).mp present
    rcases (mem_targets_iff (usage.proper_discovered className) method link.2).mp isTarget
      with ⟨_, _, has⟩ | ⟨_, has, _⟩
    · exact has.inside
    · exact has.inside

private theorem className_add (members : ClassMembers) (name : String) (kind : MemberKind) :
    (members.add name kind).1.className = members.className := by
  unfold add
  split
  · rfl
  · rfl

theorem className_toMembers (usage : ClassUsage) (className : String) :
    (usage.toMembers className).className = className := by
  have ofFields (fields : List String) (members : ClassMembers) :
      (addFields fields members).className = members.className := by
    induction fields generalizing members with
    | nil => rfl
    | cons field rest ih => exact (ih _).trans (className_add members field .field)
  have ofMethods (methods : List MethodUsage) (members : ClassMembers) :
      (addMethods methods members).1.className = members.className := by
    induction methods generalizing members with
    | nil => rfl
    | cons method rest ih => exact (ih _).trans (className_add members method.name .method)
  rw [toMembers_eq, className_recordAll, discovered, ofMethods, ofFields, ofFields]

end ClassUsage

end CrateMetrics.Cohesion
