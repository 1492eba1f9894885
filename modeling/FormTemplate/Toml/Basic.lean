/-!
# TOML tables

A table remembers how it came about, because that decides what may be added to it. A header adds to a table that
a longer header has implied, and makes it a table of its own. A dotted key adds only to tables that dotted keys
have made, or passes through tables that no header has stated.

* `Toml`, `Table` : values, and tables with their origin.
* `Table.within` : an addition somewhere below a table.
* `Draft` : the tables of a text up to a line of it.
-/

set_option autoImplicit false

namespace FormTemplate

/-- How a table came about. -/
inductive TableOrigin where
  /-- By a header of its own. -/
  | stated
  /-- By a header below it. -/
  | implied
  /-- By a dotted key. -/
  | dotted
  /-- Between braces. -/
  | braced
  deriving DecidableEq, Repr

/-- A TOML value. Numbers with a fraction, dates and times are kept as they are written. -/
inductive Toml where
  | string (s : String)
  | integer (n : Int)
  | float (text : String)
  | boolean (b : Bool)
  | dateTime (text : String)
  | array (items : List Toml)
  | table (origin : TableOrigin) (entries : List (String × Toml))
  /-- The tables of headers in double brackets. -/
  | tables (items : List (TableOrigin × List (String × Toml)))

namespace Toml

/-- A table with its origin. -/
abbrev Table : Type := TableOrigin × List (String × Toml)

namespace Table

/-- The value of a key. -/
def get? (t : Table) (key : String) : Option Toml := (t.2.find? (·.1 == key)).map (·.2)

/-- Gives a key a value, in place of the one that it has. -/
def put (t : Table) (key : String) (value : Toml) : Table := (t.1, t.2.filter (·.1 != key) ++ [(key, value)])

/-- Removes a key. -/
def erase (t : Table) (key : String) : Table := (t.1, t.2.filter (·.1 != key))

/-- Changes the table that a path leads to, and makes the tables that are missing on the way. A path of a dotted
key does not lead through a stated or braced table. -/
def within {α : Type} (dotted : Bool) (act : Table → Option (α × Table)) : List String → Table → Option (α × Table)
  | [], t => act t
  | key :: rest, t =>
    match t.get? key with
    | none =>
      (within dotted act rest (if dotted then .dotted else .implied, [])).map fun (a, u) =>
        (a, t.put key (.table u.1 u.2))
    | some (.table .braced _) => none
    | some (.table origin entries) =>
      if dotted && origin == .stated then none
      else (within dotted act rest (origin, entries)).map fun (a, u) => (a, t.put key (.table u.1 u.2))
    | some (.tables items) =>
      match items.getLast? with
      | none => none
      | some last =>
        (within dotted act rest last).map fun (a, u) => (a, t.put key (.tables (items.dropLast ++ [u])))
    | some _ => none

/-- Adds a value under a key. Each path of a key makes tables of its own, so a path that ends in a table of
another origin is refused, and so is a key that has a value. -/
def add (path : List String) (key : String) (value : Toml) (t : Table) : Option Table :=
  (within true (fun u =>
    if (u.1 == .dotted) == path.isEmpty || (u.get? key).isSome then none
    else some ((), u.put key value)) path t).map (·.2)

end Table

/-- The tables of a text up to a line of it: the table of the last header stands apart from all others. -/
structure Draft where
  root : Table := (.stated, [])
  /-- The path of the last header. -/
  path : List String := []
  /-- Whether the last header has double brackets. -/
  repeated : Bool := false
  current : Table := (.stated, [])

namespace Draft

/-- All tables, with the last one in its place. -/
def close (d : Draft) : Option Table :=
  match d.path.getLast? with
  | none => some d.current
  | some key =>
    (Table.within false (fun t =>
      if d.repeated then
        match t.get? key with
        | none => some ((), t.put key (.tables [d.current]))
        | some (.tables items) => some ((), t.put key (.tables (items ++ [d.current])))
        | some _ => none
      else some ((), t.put key (.table d.current.1 d.current.2))) d.path.dropLast d.root).map (·.2)

/-- Starts the table of a header. The table is new, or a longer header has implied it. -/
def startTable (d : Draft) (parents : List String) (key : String) : Option Draft := do
  let root ← d.close
  let (entries, root) ← Table.within false (fun t =>
    match t.get? key with
    | none => some ([], t)
    | some (.table .implied entries) => some (entries, t.erase key)
    | some _ => none) parents root
  return ⟨root, parents ++ [key], false, (.stated, entries)⟩

/-- Starts the next of the tables of a header in double brackets. -/
def startItem (d : Draft) (parents : List String) (key : String) : Option Draft := do
  let root ← d.close
  let (_, root) ← Table.within false (fun t =>
    match t.get? key with
    | none => some ((), t)
    | some (.tables _) => some ((), t)
    | some _ => none) parents root
  return ⟨root, parents ++ [key], true, (.stated, [])⟩

/-- Adds a value to the table of the last header. -/
def add (d : Draft) (parents : List String) (key : String) (value : Toml) : Option Draft :=
  (d.current.add parents key value).map fun t => { d with current := t }

end Draft

end Toml

end FormTemplate
