import EnumText.Setting

/-!
Tables of settings: finding an entry, and adding one at the end of a chain of keys.
-/

namespace EnumText

/-- The entries of a table, in the order in which they were added. -/
abbrev Table := List (Text × Setting)

namespace Table

/-- The value of a key. -/
def get? (t : Table) (key : Text) : Option Setting := t.lookup key

/-- The table with a new value for a key, in place of the one it had. -/
def put (key : Text) (value : Setting) : Table → Table
  | [] => [(key, value)]
  | (k, v) :: rest => if k = key then (k, value) :: rest else (k, v) :: put key value rest

/-- The table with a value for a key that has none. -/
def add? (key : Text) (value : Setting) (t : Table) : Option Table :=
  if (t.get? key).isSome then none else some (t ++ [(key, value)])

/-- The table with a change to the inner table that a chain of keys leads to. Tables that are
missing on the way are added. Where a key has a list, the way goes on in its last element. -/
def alter? (change : Table → Option Table) : List Text → Table → Option Table
  | [], t => change t
  | key :: rest, t =>
    match t.get? key with
    | none => (alter? change rest []).map fun inner => t ++ [(key, .table inner)]
    | some (.table inner) => (alter? change rest inner).map fun inner => put key (.table inner) t
    | some (.list items) =>
      match items.getLast? with
      | some (.table inner) =>
        (alter? change rest inner).map fun inner =>
          put key (.list (items.dropLast ++ [.table inner])) t
      | _ => none
    | some _ => none

/-- The table with one more table in the list of a key. -/
def append? (key : Text) (t : Table) : Option Table :=
  match t.get? key with
  | none => some (t ++ [(key, .list [.table []])])
  | some (.list items) => some (put key (.list (items ++ [.table []])) t)
  | some _ => none

end Table

end EnumText
