/-
Tables of lists under any sequence of operations. Classes are entered and left in any order, also
twice or without the other, and items are appended to whatever class is current. The table groups
the whole history by class: it has one entry for each class in the order of first entry, with the
items that were appended while the class was open.
-/

import CrateMetrics.Proofs.ClassTable

namespace CrateMetrics.ClassTable

variable {α : Type}

inductive Operation (α : Type) where
  | enter (name : String)
  | exit
  | append (item : α)

namespace Operation

def entered? : Operation α → Option String
  | .enter name => some name
  | .exit | .append _ => none

def item? : Operation α → Option α
  | .append item => some item
  | .enter _ | .exit => none

def apply (table : ClassTable (List α)) : Operation α → ClassTable (List α)
  | .enter name => table.enter [] name
  | .exit => table.exit
  | .append item => table.modify (fun items => items ++ [item])

end Operation

def run (operations : List (Operation α)) : ClassTable (List α) :=
  operations.foldl Operation.apply {}

/-! ### Histories -/

/-- The class that was entered last, if there was no exit since. -/
def openClass? (history : List (Operation α)) : Option String :=
  (history.reverse.find? (fun operation => operation.item?.isNone)).bind Operation.entered?

/-- The classes of a history in the order of first entry. -/
def classesOf (history : List (Operation α)) : List String :=
  (history.filterMap Operation.entered?).eraseDups

/-- The items that were appended while the class was open, in order. -/
def itemsOf (history : List (Operation α)) (name : String) : List α :=
  history.zipIdx.filterMap (fun step =>
    if openClass? (history.take step.2) = some name then step.1.item? else none)

theorem openClass?_concat (history : List (Operation α)) (last : Operation α) :
    openClass? (history ++ [last]) =
      match last with
      | .enter name => some name
      | .exit => none
      | .append _ => openClass? history := by
  unfold openClass?
  rw [List.reverse_concat]
  cases last with
  | _ => rfl

theorem classesOf_concat (history : List (Operation α)) (last : Operation α) :
    classesOf (history ++ [last]) =
      match last with
      | .enter name =>
          if name ∈ classesOf history then classesOf history else classesOf history ++ [name]
      | .exit | .append _ => classesOf history := by
  unfold classesOf
  rw [List.filterMap_append]
  cases last with
  | enter name =>
      change (history.filterMap Operation.entered? ++ [name]).eraseDups = _
      rw [eraseDups_concat]
      simp only [List.mem_eraseDups]
  | exit | append _ => exact congrArg List.eraseDups (List.append_nil _)

theorem itemsOf_concat (history : List (Operation α)) (last : Operation α) (name : String) :
    itemsOf (history ++ [last]) name =
      itemsOf history name ++
        if openClass? history = some name then last.item?.toList else [] := by
  unfold itemsOf
  rw [List.zipIdx_append, List.filterMap_append]
  congr 1
  · refine List.filterMap_congr (fun step present => ?_)
    have before : step.2 ≤ history.length := Nat.le_of_lt (List.snd_lt_of_mem_zipIdx present)
    simp only [List.take_append_of_le_length before]
  · rw [Nat.zero_add, List.zipIdx_singleton, List.filterMap_cons]
    dsimp only
    rw [List.take_left]
    by_cases isOpen : openClass? history = some name
    · rw [if_pos isOpen, if_pos isOpen]
      cases last.item? with
      | none => rfl
      | some item => rfl
    · rw [if_neg isOpen, if_neg isOpen]
      rfl

/-- A class is open exactly if nothing but items came after its last entry. -/
theorem openClass?_eq_some_iff (history : List (Operation α)) (name : String) :
    openClass? history = some name ↔
      ∃ (earlier : List (Operation α)) (items : List α),
        history = earlier ++ .enter name :: items.map .append := by
  induction history using List.reverseRecOn with
  | nil =>
      refine iff_of_false (fun impossible => nomatch impossible) ?_
      rintro ⟨earlier, items, impossible⟩
      exact List.append_ne_nil_of_right_ne_nil earlier (List.cons_ne_nil _ _) impossible.symm
  | append_singleton history last ih =>
      rw [openClass?_concat]
      constructor
      · intro isOpen
        cases last with
        | enter entered =>
            obtain rfl := Option.some.inj isOpen
            exact ⟨history, [], rfl⟩
        | exit => cases isOpen
        | append item =>
            obtain ⟨earlier, items, rfl⟩ := ih.mp isOpen
            refine ⟨earlier, items ++ [item], ?_⟩
            rw [List.map_append, List.append_assoc]
            rfl
      · rintro ⟨earlier, items, same⟩
        obtain rfl | ⟨front, item, rfl⟩ := List.eq_nil_or_concat' items
        · obtain ⟨_, isEntry⟩ := List.append_inj' same rfl
          obtain rfl := List.singleton_inj.mp isEntry
          rfl
        · rw [List.map_append, ← List.cons_append, ← List.append_assoc] at same
          obtain ⟨sameFront, isItem⟩ := List.append_inj' same rfl
          obtain rfl := List.singleton_inj.mp isItem
          exact ih.mpr ⟨earlier, front, sameFront⟩

theorem mem_classesOf_of_open {history : List (Operation α)} {name : String}
    (isOpen : openClass? history = some name) : name ∈ classesOf history := by
  obtain ⟨earlier, items, rfl⟩ := (openClass?_eq_some_iff history name).mp isOpen
  rw [classesOf, List.mem_eraseDups, List.mem_filterMap]
  exact ⟨.enter name, List.mem_append_right earlier (List.Mem.head _), rfl⟩

/-- A class that was never entered has no items. -/
theorem itemsOf_eq_nil {history : List (Operation α)} {name : String}
    (unknown : name ∉ classesOf history) : itemsOf history name = [] := by
  rw [itemsOf, List.filterMap_eq_nil_iff]
  intro step _
  have closed : openClass? (history.take step.2) ≠ some name := by
    intro isOpen
    have entered := mem_classesOf_of_open isOpen
    rw [classesOf, List.mem_eraseDups] at unknown entered
    exact unknown (((List.take_sublist step.2 history).filterMap _).subset entered)
  exact if_neg closed

/-! ### Tables -/

/-- The table groups the history: it has the classes with their items, and the open class is the
current one. -/
structure Groups (history : List (Operation α)) (table : ClassTable (List α)) : Prop where
  entries : table.entries = tabulate (classesOf history) (itemsOf history)
  current : table.current = (openClass? history).map (classesOf history).idxOf

namespace Groups

variable {history : List (Operation α)} {table : ClassTable (List α)}

theorem enter (groups : Groups history table) (name : String) :
    Groups (history ++ [.enter name]) (table.enter [] name) := by
  have items : itemsOf (history ++ [.enter name]) = itemsOf history := by
    funext other
    rw [itemsOf_concat]
    exact (congrArg (itemsOf history other ++ ·) (ite_self [])).trans (List.append_nil _)
  have isOpen : openClass? (history ++ [.enter name]) = some name := openClass?_concat history _
  by_cases known : name ∈ classesOf history
  · have classes : classesOf (history ++ [.enter name]) = classesOf history :=
      (classesOf_concat history _).trans (if_pos known)
    have found : table.entries.findIdx? (fun entry => entry.1 == name) =
        some ((classesOf history).idxOf name) := by
      rw [groups.entries, findIdx?_tabulate]
      exact List.findIdx?_eq_some_iff_findIdx_eq.mpr ⟨List.idxOf_lt_length_iff.mpr known, rfl⟩
    unfold ClassTable.enter
    rw [found]
    exact
      { entries := by rw [classes, items, groups.entries]
        current := by rw [classes, isOpen, Option.map_some] }
  · have classes : classesOf (history ++ [.enter name]) = classesOf history ++ [name] :=
      (classesOf_concat history _).trans (if_neg known)
    have missing : table.entries.findIdx? (fun entry => entry.1 == name) = none := by
      rw [groups.entries, findIdx?_tabulate, List.findIdx?_eq_none_iff]
      intro other present
      exact beq_false_of_ne (fun same => known (same ▸ present))
    have length : table.entries.length = (classesOf history).length := by
      rw [groups.entries, tabulate, List.length_map]
    unfold ClassTable.enter
    rw [missing]
    exact
      { entries := by
          rw [classes, items, groups.entries, tabulate, tabulate, List.map_append,
            List.map_singleton, itemsOf_eq_nil known]
        current := by
          rw [classes, isOpen, Option.map_some, List.idxOf_append_of_notMem known,
            List.idxOf_cons_self, Nat.add_zero, length] }

theorem exit (groups : Groups history table) : Groups (history ++ [.exit]) table.exit where
  entries := by
    have items : itemsOf (history ++ [.exit]) = itemsOf history := by
      funext name
      rw [itemsOf_concat]
      exact (congrArg (itemsOf history name ++ ·) (ite_self [])).trans (List.append_nil _)
    rw [classesOf_concat, items]
    exact groups.entries
  current := by
    rw [openClass?_concat]
    rfl

theorem append (groups : Groups history table) (item : α) :
    Groups (history ++ [.append item]) (table.modify (fun items => items ++ [item])) := by
  have classes : classesOf (history ++ [.append item]) = classesOf history :=
    classesOf_concat history _
  have isOpen : openClass? (history ++ [.append item]) = openClass? history :=
    openClass?_concat history _
  have current : (table.modify (fun items => items ++ [item])).current =
      (openClass? history).map (classesOf history).idxOf := by
    rw [current_modify, groups.current]
  refine { entries := ?_, current := by rw [classes, isOpen, current] }
  rw [classes]
  unfold modify
  rw [groups.current]
  cases opened : openClass? history with
  | none =>
      have items : itemsOf (history ++ [.append item]) = itemsOf history := by
        funext name
        rw [itemsOf_concat, opened]
        exact List.append_nil _
      rw [items]
      exact groups.entries
  | some name =>
      have bound : (classesOf history).idxOf name < (classesOf history).length :=
        List.idxOf_lt_length_iff.mpr (mem_classesOf_of_open opened)
      have items : itemsOf (history ++ [.append item]) = fun other =>
          if other = name then itemsOf history other ++ [item] else itemsOf history other := by
        funext other
        rw [itemsOf_concat, opened]
        by_cases same : other = name
        · rw [if_pos same, if_pos (congrArg some same.symm)]
          rfl
        · rw [if_neg same, if_neg (fun equal => same (Option.some.inj equal).symm), List.append_nil]
      have modified := modify_tabulate (classesOf history) (nodup_eraseDups _) (itemsOf history)
        (fun items => items ++ [item]) _ bound
      rw [List.getElem_idxOf bound] at modified
      rw [items, groups.entries]
      exact modified

theorem apply (groups : Groups history table) (operation : Operation α) :
    Groups (history ++ [operation]) (operation.apply table) := by
  cases operation with
  | enter name => exact groups.enter name
  | exit => exact groups.exit
  | append item => exact groups.append item

end Groups

theorem groups_run (operations : List (Operation α)) : Groups operations (run operations) := by
  induction operations using List.reverseRecOn with
  | nil => exact { entries := rfl, current := rfl }
  | append_singleton history last ih =>
      rw [run, List.foldl_append]
      exact ih.apply last

/-- Whatever is done to a table, the current index is that of an entry, the entries have different
names, in the order of first entry, and each holds the items that were appended while its class was
open. -/
theorem run_groups_items (operations : List (Operation α)) :
    (∀ index, (run operations).current = some index → index < (run operations).entries.length) ∧
    ((run operations).entries.map Prod.fst).Nodup ∧
    (run operations).entries.map Prod.fst = (operations.filterMap Operation.entered?).eraseDups ∧
    ∀ entry ∈ (run operations).entries, entry.2 = itemsOf operations entry.1 := by
  have groups := groups_run operations
  have names : (run operations).entries.map Prod.fst = classesOf operations := by
    rw [groups.entries, tabulate, List.map_map]
    exact List.map_id _
  refine ⟨?_, ?_, names, ?_⟩
  · intro index isCurrent
    rw [groups.current] at isCurrent
    obtain ⟨name, isOpen, rfl⟩ := Option.map_eq_some_iff.mp isCurrent
    rw [← List.length_map Prod.fst, names]
    exact List.idxOf_lt_length_iff.mpr (mem_classesOf_of_open isOpen)
  · rw [names]
    exact nodup_eraseDups _
  · intro entry present
    rw [groups.entries] at present
    obtain ⟨name, _, rfl⟩ := List.mem_map.mp present
    rfl

end CrateMetrics.ClassTable
