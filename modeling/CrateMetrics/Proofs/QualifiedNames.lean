/-
Qualified names can be split again. Segments without colons are found between the double colons of
their qualified name, so different paths have different names.
-/

import CrateMetrics.Text.Qualified
import Mathlib.Data.List.Basic

namespace CrateMetrics.Text

/-- Characters that are no colons are part of the piece that is being read. -/
private theorem splitColons_append {piece : List Char} (noColon : ':' ∉ piece)
    (current rest : List Char) :
    splitColons current (piece ++ rest) = splitColons (piece.reverse ++ current) rest := by
  induction piece generalizing current with
  | nil => rfl
  | cons c tail ih =>
      rw [List.mem_cons, not_or] at noColon
      have step : splitColons current (c :: (tail ++ rest)) =
          splitColons (c :: current) (tail ++ rest) := by
        rw [splitColons]
        rintro later rfl
        exact absurd rfl noColon.1
      rw [List.cons_append, step, ih noColon.2, List.reverse_cons, List.append_assoc]
      rfl

private theorem splitColons_piece {segment : String} (noColon : ':' ∉ segment.toList)
    (rest : List Char) :
    splitColons [] (segment.toList ++ rest) = splitColons segment.toList.reverse rest := by
  rw [splitColons_append noColon, List.append_nil]

theorem splitColons_qualify {segments : List String} (nonempty : segments ≠ [])
    (noColons : ∀ segment ∈ segments, ':' ∉ segment.toList) :
    splitColons [] (qualify segments).toList = segments := by
  rw [qualify, String.toList_intercalate]
  induction segments with
  | nil => exact absurd rfl nonempty
  | cons head rest ih =>
      have noColon := noColons head (List.Mem.head rest)
      cases rest with
      | nil =>
          have split := splitColons_piece noColon []
          rw [List.append_nil] at split
          rw [List.map_singleton, List.intercalate_singleton, split, splitColons,
            List.reverse_reverse, String.ofList_toList]
      | cons second others =>
          have later := ih (List.cons_ne_nil second others)
            (fun segment present => noColons segment (List.Mem.tail head present))
          rw [List.map_cons, List.map_cons, List.intercalate_cons_cons, ← List.map_cons,
            List.append_assoc, splitColons_piece noColon]
          change splitColons _ (':' :: ':' :: _) = _
          rw [splitColons, List.reverse_reverse, String.ofList_toList]
          exact congrArg (head :: ·) later

/-- Different paths have different names. -/
theorem qualify_injective {first second : List String} (nonemptyFirst : first ≠ [])
    (nonemptySecond : second ≠ []) (noColonsFirst : ∀ segment ∈ first, ':' ∉ segment.toList)
    (noColonsSecond : ∀ segment ∈ second, ':' ∉ segment.toList)
    (same : qualify first = qualify second) : first = second := by
  rw [← splitColons_qualify nonemptyFirst noColonsFirst, same,
    splitColons_qualify nonemptySecond noColonsSecond]

/-! ### Last segments -/

private theorem afterLastColons_eq_none {text : List Char} (noColon : ':' ∉ text) :
    afterLastColons text = none := by
  induction text with
  | nil => rfl
  | cons c rest ih =>
      rw [List.mem_cons, not_or] at noColon
      rw [afterLastColons, ih noColon.2]
      intro _ isColon _
      exact noColon.1 isColon.symm

private theorem afterLastColons_append {last : List Char} (noColon : ':' ∉ last)
    (first : List Char) : afterLastColons (first ++ ':' :: ':' :: last) = some last := by
  induction first with
  | nil =>
      have later : afterLastColons (':' :: last) = none := by
        rw [afterLastColons, afterLastColons_eq_none noColon]
        rintro tail _ rfl
        exact noColon (List.Mem.head tail)
      rw [List.nil_append, afterLastColons, later]
  | cons c rest ih =>
      rw [List.cons_append, afterLastColons.eq_def]
      dsimp only
      rw [ih]

theorem bareName_of_noColon {name : String} (noColon : ':' ∉ name.toList) :
    bareName name = name := by
  rw [bareName, afterLastColons_eq_none noColon]

/-- A name without colons is the last segment of what is qualified by it. -/
theorem bareName_qualify (owner : String) {name : String} (noColon : ':' ∉ name.toList) :
    bareName (qualify [owner, name]) = name := by
  have text : (qualify [owner, name]).toList = owner.toList ++ ':' :: ':' :: name.toList := by
    rw [qualify, String.toList_intercalate, List.map_cons, List.map_singleton,
      List.intercalate_cons_cons, List.intercalate_singleton, List.append_assoc]
    rfl
  rw [bareName, text, afterLastColons_append noColon]
  exact String.ofList_toList

end CrateMetrics.Text
