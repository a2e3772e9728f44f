/-
The remarks a run leaves behind: what it is working on, what it found, what failed.
-/

import CrateMetrics.Event
import CrateMetrics.Fault

namespace CrateMetrics

inductive Note (α : Type) where
  | analysingPackages (count : Nat)
  | measuringPackage (name : String) (units : Nat)
  | readingPackage (name : String)
  | readingFile (path : String)
  | measuringUnit (name : String)
  | failed (fault : Fault)
  | decided (kind : Decision) (method : String)
  | classMeasured (metric className : String) (value : α) (count : Nat)
  | related (className left right : String)
  | componentOpened (members : List String)
  | componentJoined (members : List String)
  | componentsMerged (count : Nat) (members : List String)
  deriving Repr

end CrateMetrics
