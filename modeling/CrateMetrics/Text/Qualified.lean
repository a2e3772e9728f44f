/-
Qualified names: segments joined by double colons, the last segment of a qualified name,
and the split of a name into its segments.
-/

namespace CrateMetrics.Text

def qualify (segments : List String) : String :=
  "::".intercalate segments

/-- What follows the last double colon, if there is one. -/
def afterLastColons : List Char → Option (List Char)
  | [] => none
  | c :: rest =>
      match afterLastColons rest with
      | some tail => some tail
      | none =>
          match c, rest with
          | ':', ':' :: tail => some tail
          | _, _ => none

/-- The last segment of a qualified name: `fmt` for `Display::fmt`. -/
def bareName (qualified : String) : String :=
  match afterLastColons qualified.toList with
  | some tail => String.ofList tail
  | none => qualified

/-- The pieces between double colons, found from the left. `current` holds the characters
of the piece being read, last one first. -/
def splitColons (current : List Char) : List Char → List String
  | [] => [String.ofList current.reverse]
  | ':' :: ':' :: rest => String.ofList current.reverse :: splitColons [] rest
  | c :: rest => splitColons (c :: current) rest

def segments (qualified : String) : List String :=
  (splitColons [] qualified.toList).filter (fun segment => !segment.isEmpty)

end CrateMetrics.Text
