/-
Values of TOML documents, and the tables of a document while it is read. A table remembers
how it came about, because that decides what may still be added to it.
-/

namespace CrateMetrics.Toml

inductive Value where
  | text (text : String)
  | integer (number : Int)
  | float (number : Float)
  | boolean (value : Bool)
  /-- A date, a time or both; which one does not matter here. -/
  | moment
  | array (elements : List Value)
  | table (entries : List (String × Value))
  deriving Repr

inductive Origin where
  /-- By its own header, or as a table in braces. -/
  | explicit
  /-- By the header of a table inside of it. -/
  | implicit
  /-- By a dotted key. -/
  | dotted
  deriving DecidableEq, Repr

inductive Node where
  | value (value : Value)
  | table (origin : Origin) (entries : List (String × Node))
  /-- Tables with the same header in double brackets. -/
  | tables (elements : List (List (String × Node)))

mutual

def Node.toValue : Node → Value
  | .value content => content
  | .table _ entries => .table (Node.entryValues entries)
  | .tables elements => .array (Node.elementValues elements)

def Node.entryValues : List (String × Node) → List (String × Value)
  | [] => []
  | (key, node) :: rest => (key, node.toValue) :: Node.entryValues rest

def Node.elementValues : List (List (String × Node)) → List Value
  | [] => []
  | entries :: rest => .table (Node.entryValues entries) :: Node.elementValues rest

end

abbrev Entries := List (String × Node)

namespace Entries

def node? (entries : Entries) (key : String) : Option Node :=
  (List.find? (fun entry => entry.1 == key) entries).map (·.2)

def set (key : String) (node : Node) (entries : Entries) : Entries :=
  if entries.any (fun entry => entry.1 == key) then
    entries.map (fun entry => if entry.1 == key then (key, node) else entry)
  else entries ++ [(key, node)]

/-- Adds a value under a dotted key, given as the keys of the tables that it leads through
and the key in the last one. Only tables made by dotted keys can be added to this way, and
no key is set twice. `here` is where the table itself came from, if a dotted key led to it. -/
def assign (here : Option Origin) (key : String) (value : Value) :
    List String → Entries → Option Entries
  | [], entries =>
      match here with
      | some .dotted | none =>
          if (entries.node? key).isSome then none else some (entries ++ [(key, .value value)])
      | some .explicit | some .implicit => none
  | first :: path, entries =>
      match entries.node? first with
      | none => do
          let inner ← assign (some .dotted) key value path []
          return entries ++ [(first, .table .dotted inner)]
      | some (.value _) | some (.table .explicit _) => none
      | some (.tables elements) =>
          match elements.getLast? with
          | none => none
          | some last => do
              let last ← assign (some .explicit) key value path last
              return entries.set first (.tables (elements.dropLast ++ [last]))
      | some (.table origin inner) => do
          let inner ← assign (some origin) key value path inner
          return entries.set first (.table origin inner)

/-- Changes the table that the keys lead to; missing tables on the way are made. In a list
of tables the last one is meant. -/
def descend (change : Entries → Option Entries) : List String → Entries → Option Entries
  | [], entries => change entries
  | first :: path, entries =>
      match entries.node? first with
      | none => do
          let inner ← descend change path []
          return entries ++ [(first, .table .implicit inner)]
      | some (.value _) => none
      | some (.table origin inner) => do
          let inner ← descend change path inner
          return entries.set first (.table origin inner)
      | some (.tables elements) =>
          match elements.getLast? with
          | none => none
          | some last => do
              let last ← descend change path last
              return entries.set first (.tables (elements.dropLast ++ [last]))

/-- Opens the table with the key by its header. A table has one header at most. -/
def openTable (key : String) (entries : Entries) : Option Entries :=
  match entries.node? key with
  | none => some (entries ++ [(key, .table .explicit [])])
  | some (.table .implicit inner) => some (entries.set key (.table .explicit inner))
  | some _ => none

/-- Opens one more table in a list of tables. -/
def openElement (key : String) (entries : Entries) : Option Entries :=
  match entries.node? key with
  | none => some (entries ++ [(key, .tables [[]])])
  | some (.tables elements) => some (entries.set key (.tables (elements ++ [[]])))
  | some _ => none

end Entries

end CrateMetrics.Toml
