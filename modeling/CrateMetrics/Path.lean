/-
Paths as they are written. The pieces between the slashes are kept as they stand, because
messages repeat them; the names among them say where a path leads, and two paths are taken
for the same if their names are.
-/

namespace CrateMetrics

structure Path where
  pieces : List String
  deriving DecidableEq, Repr

namespace Path

def root : Path :=
  { pieces := [] }

/-- Whether a piece of a path stands for nothing: that before a doubled or final slash, or a
dot. -/
def isBlank (piece : String) : Bool :=
  piece == "" || piece == "."

/-- The path as it is written, piece by piece. -/
def text (path : Path) : String :=
  "/" ++ "/".intercalate path.pieces

/-- The names that the path leads through. Two dots are a name too. -/
def names (path : Path) : List String :=
  path.pieces.filter (fun piece => !isBlank piece)

/-- The last name. Two dots name nothing. -/
def fileName? (path : Path) : Option String :=
  path.names.getLast?.filter (fun name => name != "..")

def openPieces (path : Path) : List String :=
  if path.pieces.getLast? == some "" then path.pieces.dropLast else path.pieces

def below (path : Path) (names : List String) : Path :=
  { pieces := path.openPieces ++ names }

/-- Where a written text leads from a path. Text that starts with a slash starts over from
the root, and the empty text closes the path with a slash. -/
def join (path : Path) (written : String) : Path :=
  match written.splitOn "/" with
  | "" :: piece :: pieces => { pieces := piece :: pieces }
  | pieces => path.below pieces

def trimmed (path : Path) : Path :=
  { pieces := (path.pieces.reverse.dropWhile isBlank).reverse }

/-- The path without its last name. The root has none. -/
def parent? (path : Path) : Option Path :=
  match path.trimmed.pieces with
  | [] => none
  | pieces => some (Path.trimmed { pieces := pieces.dropLast })

def nameComesBefore (left right : String) : Bool :=
  match left == "..", right == ".." with
  | true, other => !other
  | false, true => false
  | false, false => left < right

/-- Whether the first list of names comes before the second, or is the same. Lists are
compared name by name, so everything in a directory stands where the directory itself
would. -/
def namesPrecede : List String → List String → Bool
  | [], _ => true
  | _ :: _, [] => false
  | left :: leftRest, right :: rightRest =>
      nameComesBefore left right || (left == right && namesPrecede leftRest rightRest)

def isSame (left right : Path) : Bool :=
  left.names == right.names

def insert (path : Path) : List Path → List Path
  | [] => [path]
  | head :: rest =>
      if path.isSame head then head :: rest
      else if namesPrecede path.names head.names then path :: head :: rest
      else head :: insert path rest

end Path

end CrateMetrics
