/-
Cohesion over names. The methods of a class, as a stream of events tells of them, form a
graph: two methods are joined when both access a field, or one calls the other on the own
type. The value of the class is the number of connected components of this graph.
-/

import CrateMetrics.Proofs.Cohesion.Collecting
import CrateMetrics.Proofs.Cohesion.Groups
import CrateMetrics.Proofs.Cohesion.Naming
import Mathlib.Combinatorics.SimpleGraph.Connectivity.Connected

namespace CrateMetrics

namespace Stream

/-- The names of the methods in the brackets of a class. -/
def methodNames (stream : Stream) (className : String) : List String :=
  (stream.methodSpans className).map MethodSpan.name

/-- The field is accessed in a bracket of the method. -/
def Accesses (stream : Stream) (className method field : String) : Prop :=
  ∃ span ∈ stream.methodSpans className, span.name = method ∧ Event.access field ∈ span.body

/-- The name is called on the own type in a bracket of the method. -/
def CallsOwn (stream : Stream) (className method callee : String) : Prop :=
  ∃ span ∈ stream.methodSpans className,
    span.name = method ∧ Event.call ⟨.ownType, callee⟩ ∈ span.body

/-- Two different methods share a field, or one calls the other by its bare name. -/
def methodGraph (stream : Stream) (className : String) :
    SimpleGraph { name // name ∈ stream.methodNames className } where
  Adj left right := left ≠ right ∧
    ((∃ field, stream.Accesses className left field ∧ stream.Accesses className right field) ∨
      stream.CallsOwn className left (Text.bareName right) ∨
      stream.CallsOwn className right (Text.bareName left))
  symm := ⟨by
    rintro left right ⟨different, ⟨field, byLeft, byRight⟩ | forth | back⟩
    · exact ⟨different.symm, Or.inl ⟨field, byRight, byLeft⟩⟩
    · exact ⟨different.symm, Or.inr (Or.inr forth)⟩
    · exact ⟨different.symm, Or.inr (Or.inl back)⟩⟩
  loopless := ⟨fun _ joined => joined.1 rfl⟩

theorem accesses_iff (stream : Stream) (className method field : String) :
    stream.Accesses className method field ↔
      ∃ usage ∈ (stream.methodSpans className).map MethodSpan.usage,
        usage.name = method ∧ field ∈ usage.fields := by
  have inBody (body : List Event) :
      field ∈ body.filterMap Event.accessed? ↔ Event.access field ∈ body := by
    rw [List.mem_filterMap]
    constructor
    · rintro ⟨event, present, accessed⟩
      cases event with
      | access name =>
          cases accessed
          exact present
      | _ => cases accessed
    · intro present
      exact ⟨_, present, rfl⟩
  simp only [Accesses, List.mem_map, exists_exists_and_eq_and, MethodSpan.usage, inBody]

theorem callsOwn_iff (stream : Stream) (className method callee : String) :
    stream.CallsOwn className method callee ↔
      ∃ usage ∈ (stream.methodSpans className).map MethodSpan.usage,
        usage.name = method ∧ callee ∈ usage.calls := by
  have inBody (body : List Event) :
      callee ∈ body.filterMap Event.ownCall? ↔ Event.call ⟨.ownType, callee⟩ ∈ body := by
    rw [List.mem_filterMap]
    constructor
    · rintro ⟨event, present, called⟩
      cases event with
      | call invocation =>
          obtain ⟨receiver, name⟩ := invocation
          cases receiver with
          | ownType =>
              cases called
              exact present
          | _ => cases called
      | _ => cases called
    · intro present
      exact ⟨_, present, rfl⟩
  simp only [CallsOwn, List.mem_map, exists_exists_and_eq_and, MethodSpan.usage, inBody]

end Stream

namespace Cohesion

open ClassMembers

variable {stream : Stream} {className : String} {usage : ClassUsage}

/-- What a method refers to, in terms of the stream. -/
private theorem mem_references_iff_stream
    (collected : usage.methods = (stream.methodSpans className).map MethodSpan.usage)
    {source : Nat} {method : String}
    (has : (usage.toMembers className).Has source method .method) (target : Nat) :
    target ∈ (usage.toMembers className).references source ↔
      source ≠ target ∧
        ((∃ field, stream.Accesses className method field ∧
            (usage.toMembers className).Has target field .field) ∨
          ∃ name, (usage.toMembers className).Has target name .method ∧
            stream.CallsOwn className method (Text.bareName name)) := by
  rw [ClassUsage.mem_references_toMembers_iff, collected]
  simp only [Stream.accesses_iff, Stream.callsOwn_iff]
  constructor
  · rintro ⟨different, user, present, hasUser, uses⟩
    have named : user.name = method := hasUser.nameOf.symm.trans has.nameOf
    refine ⟨different, ?_⟩
    rcases uses with ⟨field, accessed, isField⟩ | ⟨name, isMethod, called⟩
    · exact Or.inl ⟨field, ⟨user, present, named, accessed⟩, isField⟩
    · exact Or.inr ⟨name, isMethod, user, present, named, called⟩
  · rintro ⟨different, ⟨field, ⟨user, present, rfl, accessed⟩, isField⟩ |
      ⟨name, isMethod, user, present, rfl, called⟩⟩
    · exact ⟨different, user, present, has, Or.inl ⟨field, accessed, isField⟩⟩
    · exact ⟨different, user, present, has, Or.inr ⟨name, isMethod, called⟩⟩

/-- The indices of the methods of a class correspond to the names in the stream. -/
private theorem exists_equiv_names
    (collected : usage.methods = (stream.methodSpans className).map MethodSpan.usage) :
    ∃ named : Method (usage.toMembers className) ≃ { name // name ∈ stream.methodNames className },
      ∀ method, (usage.toMembers className).Has method.val (named method).val .method := by
  have inStream (name : String) :
      (∃ index, (usage.toMembers className).Has index name .method) ↔
        name ∈ stream.methodNames className := by
    rw [ClassUsage.exists_has_toMembers_iff, collected]
    simp only [Stream.methodNames, List.mem_map, exists_exists_and_eq_and, MethodSpan.usage]
  choose nameAt hasName using fun method : Method (usage.toMembers className) =>
    (mem_methods_iff_has _ method.val).mp method.property
  let named (method : Method (usage.toMembers className)) :
      { name // name ∈ stream.methodNames className } :=
    ⟨nameAt method, (inStream _).mp ⟨method.val, hasName method⟩⟩
  have injective : Function.Injective named := by
    intro left right same
    have sameName : nameAt left = nameAt right := congrArg Subtype.val same
    apply Subtype.ext
    exact (usage.proper_toMembers className).distinct left.val right.val (nameAt right) .method
      (sameName ▸ hasName left) (hasName right)
  have surjective : Function.Surjective named := by
    rintro ⟨name, present⟩
    obtain ⟨index, has⟩ := (inStream name).mpr present
    let method : Method (usage.toMembers className) :=
      ⟨index, (mem_methods_iff_has _ index).mpr ⟨name, has⟩⟩
    refine ⟨method, Subtype.ext ?_⟩
    exact (hasName method).nameOf.symm.trans has.nameOf
  exact ⟨Equiv.ofBijective named ⟨injective, surjective⟩, hasName⟩

section

variable (collected : usage.methods = (stream.methodSpans className).map MethodSpan.usage)
  {named : Method (usage.toMembers className) ≃ { name // name ∈ stream.methodNames className }}
  (hasName : ∀ method, (usage.toMembers className).Has method.val (named method).val .method)

include collected hasName

private theorem related_of_adj (left right : Method (usage.toMembers className))
    (joined : (stream.methodGraph className).Adj (named left) (named right)) :
    (usage.toMembers className).Related left.val right.val := by
  obtain ⟨different, shared⟩ := joined
  have apart : left.val ≠ right.val := fun same => different (congrArg named (Subtype.ext same))
  have refersLeft := mem_references_iff_stream collected (hasName left)
  have refersRight := mem_references_iff_stream collected (hasName right)
  rcases shared with ⟨field, byLeft, byRight⟩ | forth | back
  · obtain ⟨user, present, _, accessed⟩ := (stream.accesses_iff className _ field).mp byLeft
    obtain ⟨target, isField⟩ :=
      usage.exists_has_field_toMembers className (collected ▸ present) accessed
    have notMethod (method : Method (usage.toMembers className)) : method.val ≠ target := by
      intro same
      obtain ⟨member, found, _, isMethod⟩ := hasName method
      obtain ⟨other, foundOther, _, isFieldKind⟩ := isField
      rw [same, foundOther] at found
      rw [Option.some.inj found, isMethod] at isFieldKind
      cases isFieldKind
    exact Or.inr (Or.inr ⟨target,
      (refersLeft target).mpr ⟨notMethod left, Or.inl ⟨field, byLeft, isField⟩⟩,
      (refersRight target).mpr ⟨notMethod right, Or.inl ⟨field, byRight, isField⟩⟩⟩)
  · exact Or.inl ((refersLeft right.val).mpr ⟨apart, Or.inr ⟨_, hasName right, forth⟩⟩)
  · exact Or.inr (Or.inl ((refersRight left.val).mpr ⟨apart.symm, Or.inr ⟨_, hasName left, back⟩⟩))

/-- A method that refers to another one calls it. -/
private theorem adj_of_refers {left right : Method (usage.toMembers className)}
    (refers : right.val ∈ (usage.toMembers className).references left.val) :
    (stream.methodGraph className).Adj (named left) (named right) := by
  obtain ⟨apart, uses⟩ := (mem_references_iff_stream collected (hasName left) _).mp refers
  have different : named left ≠ named right :=
    fun same => apart (congrArg Subtype.val (named.injective same))
  rcases uses with ⟨field, _, isField⟩ | ⟨name, isMethod, called⟩
  · obtain ⟨member, found, _, isMethodKind⟩ := hasName right
    obtain ⟨other, foundOther, _, isFieldKind⟩ := isField
    rw [foundOther] at found
    rw [Option.some.inj found, isMethodKind] at isFieldKind
    cases isFieldKind
  · have sameName : name = (named right).val := isMethod.nameOf.symm.trans (hasName right).nameOf
    exact ⟨different, Or.inr (Or.inl (sameName ▸ called))⟩

/-- Related methods are joined by a path: one edge, or two if both call a third method. -/
private theorem reachable_of_related {left right : Method (usage.toMembers className)}
    (related : (usage.toMembers className).Related left.val right.val) :
    (stream.methodGraph className).Reachable (named left) (named right) := by
  rcases related with forth | back | ⟨shared, byLeft, byRight⟩
  · exact (adj_of_refers collected hasName forth).reachable
  · exact (adj_of_refers collected hasName back).reachable.symm
  · obtain ⟨_, usesLeft⟩ := (mem_references_iff_stream collected (hasName left) _).mp byLeft
    rcases usesLeft with ⟨field, accessedLeft, isField⟩ | ⟨name, isMethod, _⟩
    · obtain ⟨_, usesRight⟩ := (mem_references_iff_stream collected (hasName right) _).mp byRight
      rcases usesRight with ⟨other, accessedRight, isOther⟩ | ⟨other, isMethod, _⟩
      · have sameField : other = field := isOther.nameOf.symm.trans isField.nameOf
        by_cases same : named left = named right
        · rw [same]
        · exact SimpleGraph.Adj.reachable
            ⟨same, Or.inl ⟨field, accessedLeft, sameField ▸ accessedRight⟩⟩
      · obtain ⟨member, found, _, isFieldKind⟩ := isField
        obtain ⟨_, foundOther, _, isMethodKind⟩ := isMethod
        rw [foundOther] at found
        rw [Option.some.inj found, isFieldKind] at isMethodKind
        cases isMethodKind
    · let between : Method (usage.toMembers className) :=
        ⟨shared, (mem_methods_iff_has _ shared).mpr ⟨name, isMethod⟩⟩
      have toShared : (stream.methodGraph className).Adj (named left) (named between) :=
        adj_of_refers collected hasName byLeft
      have fromShared : (stream.methodGraph className).Adj (named right) (named between) :=
        adj_of_refers collected hasName byRight
      exact toShared.reachable.trans fromShared.reachable.symm

private theorem linked_iff_reachable (left right : Method (usage.toMembers className)) :
    Linked left right ↔ (stream.methodGraph className).Reachable (named left) (named right) := by
  constructor
  · intro linked
    induction linked with
    | refl => exact SimpleGraph.Reachable.refl _
    | tail _ step ih => exact ih.trans (reachable_of_related collected hasName step)
  · intro reachable
    rw [SimpleGraph.reachable_iff_reflTransGen] at reachable
    have step (first second : { name // name ∈ stream.methodNames className })
        (joined : (stream.methodGraph className).Adj first second) :
        (usage.toMembers className).Related (named.symm first).val (named.symm second).val :=
      related_of_adj collected hasName _ _ (by simpa using joined)
    have lifted : Linked (named.symm (named left)) (named.symm (named right)) :=
      Relation.ReflTransGen.lift named.symm step _ _ reachable
    simpa using lifted

end

/-- The groups of methods are as many as the connected components of the graph. -/
private theorem card_group_eq
    (collected : usage.methods = (stream.methodSpans className).map MethodSpan.usage) :
    Nat.card (Group (usage.toMembers className)) =
      Nat.card (stream.methodGraph className).ConnectedComponent := by
  obtain ⟨named, hasName⟩ := exists_equiv_names collected
  exact Nat.card_congr (Quot.congr named (linked_iff_reachable collected hasName))

end Cohesion

end CrateMetrics
