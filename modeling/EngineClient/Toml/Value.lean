/-!
# TOML values

Documents as trees of values, and the rules by which a line of a document may add to the tree.
-/

namespace EngineClient.Toml

/-- How a table came to be, which decides what may be added to it. -/
structure TableForm where
  /-- Written in braces: complete as it stands. -/
  inline : Bool
  /-- Not defined by a header of its own so far. -/
  implied : Bool
  /-- Made by a dotted key. -/
  dotted : Bool
deriving Repr, DecidableEq

namespace TableForm

/-- A table in braces. -/
def braces : TableForm := ⟨true, false, false⟩
/-- A table defined by a header. -/
def headed : TableForm := ⟨false, false, false⟩
/-- A table that a longer header, or a dotted key, goes through. -/
def through (dotted : Bool) : TableForm := ⟨false, true, dotted⟩

end TableForm

/-- A value. -/
inductive Value where
  | text (content : String)
  | integer (value : Int)
  | float
  | boolean (value : Bool)
  | dateTime
  /-- A list; `ofTables` tells that it was made by headers in double brackets. -/
  | array (elements : List Value) (ofTables : Bool)
  | table (form : TableForm) (entries : List (String × Value))
deriving Repr

/-- The entries of a table. -/
abbrev Entries := List (String × Value)

namespace Entries

/-- The entries with one replaced, or put at the end. -/
def put (entries : Entries) (key : String) (value : Value) : Entries :=
  match entries with
  | [] => [(key, value)]
  | (other, old) :: rest =>
    if other = key then (key, value) :: rest else (other, old) :: put rest key value

/-- A change of the table that a value is, or of the last table of a list made by headers. -/
def changeTable (change : TableForm → Entries → Option (TableForm × Entries)) (dotted : Bool) :
    Value → Option Value
  | .table form entries =>
    if form.inline || (dotted && !form.implied) then none
    else (change form entries).map fun (form, entries) => .table form entries
  | .array elements true =>
    if dotted then none
    else
      match elements.reverse with
      | .table form entries :: before =>
        (change form entries).map fun (form, entries) =>
          .array (before.reverse ++ [.table form entries]) true
      | _ => none
  | _ => none

/-- A change of the table the keys lead to; tables that are missing on the way are made. -/
def changeAt (dotted : Bool) (change : TableForm → Entries → Option (TableForm × Entries)) :
    (path : List String) → TableForm → Entries → Option (TableForm × Entries)
  | [], form, entries => change form entries
  | key :: path, form, entries =>
    let inner := changeAt dotted change path
    let changed := match entries.lookup key with
      | none => (inner (.through dotted) []).map fun (form, entries) => Value.table form entries
      | some value => changeTable inner dotted value
    changed.map fun value => (form, entries.put key value)

/-- Adding a value under a dotted key. The table it goes to must be made by dotted keys too, unless the key
is a plain one. -/
def insert (path : List String) (key : String) (value : Value) :
    TableForm → Entries → Option (TableForm × Entries) :=
  changeAt true
    (fun form entries =>
      if form.dotted == path.isEmpty then none
      else if (entries.lookup key).isSome then none
      else some (form, entries.put key value))
    path

/-- Defining a table by a header: it must be new, or have been gone through only by longer headers. -/
def define (key : String) (form : TableForm) (entries : Entries) : Option (TableForm × Entries) :=
  match entries.lookup key with
  | none => some (form, entries.put key (.table .headed []))
  | some (.table old inner) =>
    if old.implied && !old.dotted then some (form, entries.put key (.table .headed inner)) else none
  | some _ => none

/-- Adding a table to a list by a header in double brackets. -/
def extend (key : String) (form : TableForm) (entries : Entries) : Option (TableForm × Entries) :=
  match entries.lookup key with
  | none => some (form, entries.put key (.array [.table .headed []] true))
  | some (.array elements true) =>
    some (form, entries.put key (.array (elements ++ [.table .headed []]) true))
  | some _ => none

end Entries

/-- One line of a document. -/
inductive Line where
  | blank
  | pair (path : List String) (key : String) (value : Value)
  | header (path : List String) (key : String)
  | listHeader (path : List String) (key : String)
deriving Repr

/-- A document in the making: the tree so far and the table the next pairs go to. -/
structure Draft where
  root : Entries
  current : List String
deriving Repr

namespace Draft

/-- The empty document. -/
def empty : Draft := ⟨[], []⟩

/-- A change of the table the keys lead to from the root. -/
def changeAt (draft : Draft) (path : List String)
    (change : TableForm → Entries → Option (TableForm × Entries)) : Option Entries :=
  (Entries.changeAt false change path .headed draft.root).map (·.2)

/-- The document with one more line, if the line may follow. -/
def add (draft : Draft) : Line → Option Draft
  | .blank => some draft
  | .pair path key value =>
    (draft.changeAt draft.current (Entries.insert path key value)).map fun root => { draft with root }
  | .header path key =>
    (draft.changeAt path (Entries.define key)).map fun root => ⟨root, path ++ [key]⟩
  | .listHeader path key =>
    (draft.changeAt path (Entries.extend key)).map fun root => ⟨root, path ++ [key]⟩

end Draft

end EngineClient.Toml
