/-
Signatures tell calls apart. A signature is what leads to the name and then the name; as no name
contains a colon or a dot, it can be split again in one way only. What leads to the name tells the
receiver, for no path is the word that stands for the own type.
-/

import CrateMetrics.Event
import Mathlib.Data.List.Basic
import Mathlib.Data.List.TakeWhile
import Mathlib.Data.Set.Function

namespace CrateMetrics

namespace Text

/-- The character separates the segments of a signature. -/
def isSeparator (c : Char) : Bool :=
  c == ':' || c == '.'

/-- The name can stand in a signature, as identifiers can. -/
def IsWord (name : String) : Prop :=
  ∀ c ∈ name.toList, isSeparator c = false

instance (name : String) : Decidable (IsWord name) :=
  List.decidableBAll (fun c => isSeparator c = false) name.toList

end Text

/-- What stands before the name in a signature. -/
def Receiver.lead : Receiver → List Char
  | .ownType => "Self".toList ++ [':', ':']
  | .path owner => if owner.isEmpty then [] else owner.toList ++ [':', ':']
  | .value => ['.']

namespace Invocation

/-- The call can be told from its signature: its name is a word, and a path is not the one that
stands for the own type. -/
structure Legible (call : Invocation) : Prop where
  word : Text.IsWord call.name
  notOwn : call.receiver ≠ .path "Self"

theorem toList_signature (call : Invocation) :
    call.signature.toList = call.receiver.lead ++ call.name.toList := by
  obtain ⟨receiver, name⟩ := call
  cases receiver with
  | ownType => exact String.toList_append
  | value => exact String.toList_append
  | path owner =>
      rw [signature, Receiver.lead]
      dsimp only
      split
      · rfl
      · exact String.toList_append.trans (congrArg (· ++ name.toList) String.toList_append)

end Invocation

namespace Receiver

/-- What leads to a name ends with a separator. -/
theorem isSeparator_of_getLast?_lead {receiver : Receiver} {c : Char}
    (last : receiver.lead.getLast? = some c) : Text.isSeparator c = true := by
  cases receiver with
  | ownType =>
      cases last
      rfl
  | value =>
      cases last
      rfl
  | path owner =>
      rw [lead] at last
      split at last
      · cases last
      · rw [List.getLast?_append_of_ne_nil _ (List.cons_ne_nil ':' [':'])] at last
        cases last
        rfl

private theorem lead_path_ne {owner : String} (notOwn : owner ≠ "Self") :
    (path owner).lead ≠ ownType.lead ∧ (path owner).lead ≠ value.lead := by
  unfold lead
  dsimp only
  split
  · exact ⟨by decide, by decide⟩
  · constructor
    · intro same
      have owners : owner.toList = "Self".toList :=
        List.append_cancel_right same
      exact notOwn (String.toList_inj.mp owners)
    · intro same
      have lengths := congrArg List.length same
      rw [List.length_append] at lengths
      change owner.toList.length + 2 = 1 at lengths
      omega

private theorem lead_path_injective {owner other : String}
    (same : (path owner).lead = (path other).lead) : owner = other := by
  rw [lead, lead] at same
  split at same <;> split at same
  · rename_i isEmpty otherIsEmpty
    rw [String.isEmpty_iff.mp isEmpty, String.isEmpty_iff.mp otherIsEmpty]
  · exact absurd (List.append_eq_nil_iff.mp same.symm).2 (by decide)
  · exact absurd (List.append_eq_nil_iff.mp same).2 (by decide)
  · exact String.toList_inj.mp (List.append_cancel_right same)

/-- Different receivers lead differently, but for the path that is written like the own type. -/
theorem lead_injective {first second : Receiver} (firstNotOwn : first ≠ .path "Self")
    (secondNotOwn : second ≠ .path "Self") (same : first.lead = second.lead) : first = second := by
  have named {owner : String} (notOwn : path owner ≠ .path "Self") : owner ≠ "Self" :=
    fun equal => notOwn (congrArg path equal)
  cases first with
  | ownType =>
      cases second with
      | ownType => rfl
      | value => cases same
      | path owner => exact absurd same.symm (lead_path_ne (named secondNotOwn)).1
  | value =>
      cases second with
      | ownType => cases same
      | value => rfl
      | path owner => exact absurd same.symm (lead_path_ne (named secondNotOwn)).2
  | path owner =>
      cases second with
      | ownType => exact absurd same (lead_path_ne (named firstNotOwn)).1
      | value => exact absurd same (lead_path_ne (named firstNotOwn)).2
      | path other => exact congrArg path (lead_path_injective same)

end Receiver

/-- The name is what follows the last separator. -/
private theorem takeWhile_reverse {lead name : List Char}
    (leadEnds : ∀ c, lead.getLast? = some c → Text.isSeparator c = true)
    (isName : ∀ c ∈ name, Text.isSeparator c = false) :
    (lead ++ name).reverse.takeWhile (fun c => !Text.isSeparator c) = name.reverse := by
  rw [List.reverse_append, List.takeWhile_append_of_pos]
  · rcases List.eq_nil_or_concat' lead with rfl | ⟨front, c, rfl⟩
    · exact List.append_nil _
    · have ends := leadEnds c List.getLast?_concat
      rw [List.reverse_append, List.reverse_singleton,
        List.singleton_append, List.takeWhile_cons, ends]
      exact List.append_nil _
  · intro c present
    rw [isName c (List.mem_reverse.mp present)]
    rfl

private theorem split_unique {lead other name word : List Char}
    (leadEnds : ∀ c, lead.getLast? = some c → Text.isSeparator c = true)
    (otherEnds : ∀ c, other.getLast? = some c → Text.isSeparator c = true)
    (isName : ∀ c ∈ name, Text.isSeparator c = false)
    (isWord : ∀ c ∈ word, Text.isSeparator c = false)
    (same : lead ++ name = other ++ word) : lead = other ∧ name = word := by
  have names : name = word := by
    rw [← List.reverse_inj, ← takeWhile_reverse leadEnds isName, same,
      takeWhile_reverse otherEnds isWord]
  rw [names] at same
  exact ⟨List.append_cancel_right same, names⟩

namespace Invocation

/-- Legible calls with the same signature are the same. -/
theorem signature_injOn : Set.InjOn signature { call | call.Legible } := by
  intro first firstLegible second secondLegible same
  have texts := congrArg String.toList same
  rw [toList_signature, toList_signature] at texts
  obtain ⟨leads, names⟩ := split_unique
    (fun _ last => Receiver.isSeparator_of_getLast?_lead last)
    (fun _ last => Receiver.isSeparator_of_getLast?_lead last)
    firstLegible.word secondLegible.word texts
  have sameReceiver : first.receiver = second.receiver :=
    Receiver.lead_injective firstLegible.notOwn secondLegible.notOwn leads
  have sameName : first.name = second.name := String.toList_inj.mp names
  exact (mk.injEq ..).mpr ⟨sameReceiver, sameName⟩

end Invocation

end CrateMetrics
