import Recurrence.Value

namespace Recurrence.Value

/-- Puts a value under a name, in the place of the one that was there. -/
def put (name : String) (value : Value) : List (Value × Value) → List (Value × Value)
  | [] => [(.text name, value)]
  | (key, old) :: rest =>
    if key.isText name then (key, value) :: rest.filter (!·.1.isText name)
    else (key, old) :: put name value rest

mutual

/-- A value put over another: two maps are merged, and otherwise the one put over stands. -/
def overlay (base : Value) : Value → Value
  | .map entries =>
    match base with
    | .map old => .map (overlayEntries old entries)
    | _ => .map entries
  | value => value

/-- Entries put over others, one after the other. -/
def overlayEntries (old : List (Value × Value)) : List (Value × Value) → List (Value × Value)
  | [] => old
  | (key, value) :: rest =>
    match key with
    | .text name => overlayEntries (put name (overlay ((lookup? name old).getD .null) value) old) rest
    | _ => overlayEntries old rest

end

/-- Puts a value at the end of a path of names, through maps that are made where they are missing. What
    is no map on the way stays as it is, and then the value is lost. -/
def putAt (value : Value) : List String → List (Value × Value) → List (Value × Value)
  | [], entries => entries
  | [name], entries => put name value entries
  | name :: path, entries =>
    match (lookup? name entries).getD (.map []) with
    | .map inner => put name (.map (putAt value path inner)) entries
    | _ => entries

end Recurrence.Value
