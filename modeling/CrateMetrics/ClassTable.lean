/-
Data collected class by class. Entering a class by its name makes its entry the current
one, an old entry if the class was entered before; leaving makes no entry current.
-/

namespace CrateMetrics

structure ClassTable (β : Type) where
  entries : List (String × β) := []
  /-- The index of the class that was entered last and not left. -/
  current : Option Nat := none
  deriving Repr

namespace ClassTable

variable {β : Type}

def enter (fresh : β) (name : String) (table : ClassTable β) : ClassTable β :=
  match table.entries.findIdx? (fun entry => entry.1 == name) with
  | some index => { table with current := some index }
  | none =>
      { entries := table.entries ++ [(name, fresh)], current := some table.entries.length }

def exit (table : ClassTable β) : ClassTable β :=
  { table with current := none }

/-- Changes the data of the current class; without one nothing happens. -/
def modify (change : β → β) (table : ClassTable β) : ClassTable β :=
  match table.current with
  | none => table
  | some index =>
      { table with
        entries := table.entries.modify index (fun entry => (entry.1, change entry.2)) }

end ClassTable

end CrateMetrics
