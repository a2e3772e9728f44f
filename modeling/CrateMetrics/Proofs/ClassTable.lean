/-
What class tables hold after classes were visited one after the other: one entry for each
name, in the order of first visit, with the changes of all visits under that name.
-/

import CrateMetrics.ClassTable
import Mathlib.Data.List.Induction
import Mathlib.Data.List.Nodup

namespace CrateMetrics.ClassTable

variable {β : Type}

theorem modify_modify (first second : β → β) (table : ClassTable β) :
    (table.modify first).modify second = table.modify (second ∘ first) := by
  unfold modify
  cases current : table.current with
  | none => simp only [current]
  | some index =>
      simp only [List.modify_modify_eq, ClassTable.mk.injEq]
      exact ⟨rfl, trivial⟩

theorem modify_id (table : ClassTable β) : table.modify id = table := by
  obtain ⟨entries, current⟩ := table
  cases current with
  | none => rfl
  | some index =>
      have same : entries.modify index (fun entry => (entry.1, id entry.2)) = entries :=
        List.modify_id index entries
      simp only [modify, same]

theorem current_modify (change : β → β) (table : ClassTable β) :
    (table.modify change).current = table.current := by
  obtain ⟨entries, current⟩ := table
  cases current with
  | none => rfl
  | some index => rfl

theorem exists_current_enter (fresh : β) (name : String) (table : ClassTable β) :
    ∃ index, (table.enter fresh name).current = some index := by
  unfold enter
  split
  · exact ⟨_, rfl⟩
  · exact ⟨_, rfl⟩

/-- Enters a class, changes its data, and leaves it. -/
def visit (fresh : β) (name : String) (change : β → β) (table : ClassTable β) : ClassTable β :=
  ((table.enter fresh name).modify change).exit

/-- An entry for each name with the data that belongs to it. -/
def tabulate (names : List String) (data : String → β) : List (String × β) :=
  names.map (fun name => (name, data name))

theorem modify_tabulate (names : List String) (distinct : names.Nodup)
    (data : String → β) (change : β → β) (index : Nat) (bound : index < names.length) :
    (tabulate names data).modify index (fun entry => (entry.1, change entry.2)) =
      tabulate names (fun name => if name = names[index] then change (data name) else data name) := by
  apply List.ext_getElem?
  intro other
  rw [List.getElem?_modify, tabulate, tabulate, List.getElem?_map, List.getElem?_map]
  by_cases inside : other < names.length
  · rw [List.getElem?_eq_getElem inside]
    by_cases same : index = other
    · subst other
      simp only [Option.map_some, if_true, Option.map_eq_map]
    · have different : names[other] ≠ names[index] := by
        intro equal
        exact same ((List.Nodup.getElem_inj_iff distinct).mp equal).symm
      simp only [Option.map_some, if_neg same, if_neg different, Option.map_eq_map]
  · rw [List.getElem?_eq_none (Nat.le_of_not_lt inside)]
    rfl

theorem eraseDups_concat (names : List String) (name : String) :
    (names ++ [name]).eraseDups =
      if name ∈ names then names.eraseDups else names.eraseDups ++ [name] := by
  rw [List.eraseDups_append]
  by_cases known : name ∈ names
  · simp [List.removeAll, known]
  · simp [List.removeAll, known, List.eraseDups_cons]

theorem findIdx?_tabulate (names : List String) (data : String → β) (name : String) :
    (tabulate names data).findIdx? (fun entry => entry.1 == name) =
      names.findIdx? (fun other => other == name) := by
  rw [tabulate, List.findIdx?_map]
  rfl

theorem nodup_eraseDups (names : List String) : names.eraseDups.Nodup := by
  induction names using List.reverseRecOn with
  | nil => exact List.nodup_nil
  | append_singleton names name ih =>
      rw [eraseDups_concat]
      by_cases known : name ∈ names
      · rw [if_pos known]
        exact ih
      · rw [if_neg known]
        refine List.Nodup.append ih (List.nodup_singleton name) ?_
        intro other inNames isName
        rw [List.mem_singleton.mp isName] at inNames
        exact known (List.mem_eraseDups.mp inNames)

/-- One visit of a table with an entry for each of `names`. -/
theorem entries_visit (names : List String) (data : String → β) (fresh : β)
    (unknown : ∀ name, name ∉ names → data name = fresh) (name : String) (change : β → β)
    (table : ClassTable β) (entries : table.entries = tabulate names.eraseDups data) :
    (table.visit fresh name change).entries =
      tabulate (names ++ [name]).eraseDups
        (fun other => if other = name then change (data other) else data other) := by
  rw [eraseDups_concat]
  unfold visit exit enter
  rw [entries, findIdx?_tabulate]
  cases found : names.eraseDups.findIdx? (fun other => other == name) with
  | some index =>
      obtain ⟨bound, here, _⟩ := List.findIdx?_eq_some_iff_getElem.mp found
      have same : names.eraseDups[index] = name := eq_of_beq here
      have known : name ∈ names := List.mem_eraseDups.mp (same ▸ List.getElem_mem bound)
      have modified := modify_tabulate names.eraseDups (nodup_eraseDups names) data change index
        bound
      rw [same] at modified
      rw [if_pos known]
      exact modified
  | none =>
      have absent : name ∉ names := by
        intro known
        have missing := List.findIdx?_eq_none_iff.mp found name (List.mem_eraseDups.mpr known)
        rw [beq_self_eq_true] at missing
        cases missing
      rw [if_neg absent]
      have grown : tabulate names.eraseDups data ++ [(name, fresh)] =
          tabulate (names.eraseDups ++ [name]) data := by
        rw [tabulate, tabulate, List.map_append, List.map_singleton, unknown name absent]
      have distinct : (names.eraseDups ++ [name]).Nodup := by
        have all := nodup_eraseDups (names ++ [name])
        rwa [eraseDups_concat, if_neg absent] at all
      have bound : names.eraseDups.length < (names.eraseDups ++ [name]).length := by simp
      have modified := modify_tabulate (names.eraseDups ++ [name]) distinct data change
        names.eraseDups.length bound
      rw [List.getElem_concat_length rfl] at modified
      rw [← modified, ← grown]
      unfold modify tabulate
      simp only [List.length_map]

/-- The changes that visits make under one name, one after the other. -/
def changed (fresh : β) (visits : List (String × (β → β))) (name : String) : β :=
  visits.foldl (fun data visit => if name = visit.1 then visit.2 data else data) fresh

/-- The table after visits to classes: one entry for each name in the order of first visit,
with all changes made under that name. -/
theorem entries_foldl_visit (fresh : β) (visits : List (String × (β → β))) :
    (visits.foldl (fun table visit => table.visit fresh visit.1 visit.2)
        ({} : ClassTable β)).entries =
      tabulate (visits.map Prod.fst).eraseDups (changed fresh visits) := by
  induction visits using List.reverseRecOn with
  | nil => rfl
  | append_singleton visits last ih =>
      have unknown (name : String) (absent : name ∉ visits.map Prod.fst) :
          changed fresh visits name = fresh := by
        unfold changed
        clear ih
        induction visits with
        | nil => rfl
        | cons head rest restIh =>
            rw [List.map_cons, List.mem_cons, not_or] at absent
            rw [List.foldl_cons, if_neg absent.1]
            exact restIh absent.2
      rw [List.foldl_append, List.map_append]
      have visited := entries_visit (visits.map Prod.fst) (changed fresh visits) fresh unknown
        last.1 last.2 _ ih
      have next : changed fresh (visits ++ [last]) = fun name =>
          if name = last.1 then last.2 (changed fresh visits name) else changed fresh visits name := by
        funext name
        unfold changed
        rw [List.foldl_append]
        rfl
      rw [next]
      exact visited

end CrateMetrics.ClassTable
