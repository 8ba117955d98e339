import SlideContract.Edit.Fault
import SlideContract.Json.Basic

/-!
# Removing fields

Properties of given names are removed at every depth of a document, and so are these names from the
lists of required ones. A list that is left without names goes. What stands under the names of
properties is searched, but those names themselves are no keywords.
-/

namespace SlideContract.Edit

/-- The required names without the removed ones, unless a list or an object is among them. -/
def keepRequired (fields : List String) : List Json → Except Fault (List Json)
  | [] => .ok []
  | .str name :: rest => do
    let kept ← keepRequired fields rest
    return if fields.contains name then kept else .str name :: kept
  | .arr _ :: _ | .obj _ :: _ => .error .compoundRequired
  | item :: rest => do return item :: (← keepRequired fields rest)

mutual

/-- The document without the fields. -/
def prune (fields : List String) : Json → Except Fault Json
  | .arr items => .arr <$> pruneItems fields items
  | .obj members => .obj <$> pruneMembers fields members
  | value => .ok value

/-- The items, each without the fields. -/
def pruneItems (fields : List String) : List Json → Except Fault (List Json)
  | [] => .ok []
  | item :: rest => do return (← prune fields item) :: (← pruneItems fields rest)

/-- The properties that are not removed, each without the fields. -/
def pruneProperties (fields : List String) :
    List (String × Json) → Except Fault (List (String × Json))
  | [] => .ok []
  | (name, value) :: rest =>
    if fields.contains name then pruneProperties fields rest
    else do return (name, ← prune fields value) :: (← pruneProperties fields rest)

/-- The members of a schema without the fields. -/
def pruneMembers (fields : List String) :
    List (String × Json) → Except Fault (List (String × Json))
  | [] => .ok []
  | (name, value) :: rest => do
    let kept : List (String × Json) ←
      match value with
      | .obj properties =>
        if name = "properties" then do
          pure [(name, .obj (← pruneProperties fields properties))]
        else if name = "required" then pure [(name, value)]
        else do pure [(name, .obj (← pruneMembers fields properties))]
      | .arr items =>
        if name = "required" then do
          match ← keepRequired fields items with
          | [] => pure []
          | names => pure [(name, .arr names)]
        else do pure [(name, .arr (← pruneItems fields items))]
      | value => pure [(name, value)]
    return kept ++ (← pruneMembers fields rest)

end

end SlideContract.Edit
