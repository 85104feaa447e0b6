import FeatureAudit.Toml.Text

/-!
# Tables under construction

A document is a table that statements add to. Tables that have been declared cannot be declared
again, and values written in one piece cannot be added to.
-/

set_option autoImplicit false

namespace FeatureAudit.Toml

/-- Changes the table at a path; tables that are not there are created. On the way an array of
tables stands for its last table, if `throughArrays` is set. -/
def within (throughArrays : Bool) (change : Entries → Option Entries) :
    Path → Entries → Option Entries
  | [], table => change table
  | name :: path, table =>
    match Entries.get? table name with
    | none => (within throughArrays change path []).map fun t => Entries.put table name (.table t)
    | some (.table inner) =>
      (within throughArrays change path inner).map fun t => Entries.put table name (.table t)
    | some (.list items) =>
      match throughArrays, items.getLast? with
      | true, some (.table inner) =>
        (within throughArrays change path inner).map fun t =>
          Entries.put table name (.list (items.dropLast ++ [.table t]))
      | _, _ => none
    | some _ => none

/-- Adds an entry under a name that is free. -/
def addEntry (name : String) (v : Value) (table : Entries) : Option Entries :=
  if (Entries.get? table name).isSome then none else some (Entries.put table name v)

/-- Adds an empty table to an array of tables. -/
def addTable (name : String) (table : Entries) : Option Entries :=
  match Entries.get? table name with
  | none => some (Entries.put table name (.list [.table []]))
  | some (.list items) => some (Entries.put table name (.list (items ++ [.table []])))
  | some _ => none

/-- A path without its last name, and that name. -/
def splitKey? (key : Path) : Option (Path × String) :=
  key.getLast?.map fun name => (key.dropLast, name)

/-- Whether a value is written in one piece and closed to additions. -/
def isCompound : Value → Bool
  | .list _ => true
  | .table _ => true
  | _ => false

/-- A document under construction. -/
structure Draft where
  /-- The table so far. -/
  root : Entries
  /-- The path of the table that entries go to. -/
  header : Path
  /-- Tables that have been declared. -/
  declared : List Path
  /-- Values that are closed to additions. -/
  closed : List Path
  /-- Tables that dotted keys have opened; they are declared at the next header. -/
  opened : List Path

namespace Draft

/-- The empty document. -/
def empty : Draft := ⟨[], [], [], [], []⟩

/-- Whether a path is closed or within something closed. -/
def isClosed (d : Draft) (path : Path) : Bool := d.closed.any fun p => p.isPrefixOf path

/-- Declares what dotted keys have opened. -/
def settle (d : Draft) : Draft := { d with declared := d.declared ++ d.opened, opened := [] }

/-- Opens a table by its header. -/
def openTable (d : Draft) (key : Path) : Option Draft :=
  if d.declared.contains key || d.isClosed key then none
  else (within true some key d.root).map fun root =>
    { d with root, header := key, declared := key :: d.declared }

/-- Opens a new table of an array by its header. What was declared below the path belonged to the
table before. -/
def openArrayTable (d : Draft) (key : Path) : Option Draft :=
  if d.isClosed key then none
  else (splitKey? key).bind fun (parent, name) =>
    (within true (addTable name) parent d.root).map fun root =>
      { d with
        root
        header := key
        declared := key :: d.declared.filter fun p => !key.isPrefixOf p
        closed := d.closed.filter fun p => !key.isPrefixOf p }

/-- The paths that a dotted key passes through, below a header. -/
def passed (header key : Path) : List Path :=
  (List.range key.length).tail.map fun i => header ++ key.take i

/-- Adds an entry to the open table. -/
def assign (d : Draft) (key : Path) (v : Value) : Option Draft :=
  (splitKey? key).bind fun (parent, name) =>
    let opened := passed d.header key
    if opened.any (fun p => d.declared.contains p) || d.isClosed (d.header ++ parent) then none
    else (within true (addEntry name v) (d.header ++ parent) d.root).map fun root =>
      { d with
        root
        opened := d.opened ++ opened
        closed := if isCompound v then (d.header ++ key) :: d.closed else d.closed }

end Draft

/-- An inline table under construction, with what is closed to additions. -/
structure InlineDraft where
  /-- The table so far. -/
  root : Entries
  /-- Values that are closed to additions. -/
  closed : List Path

namespace InlineDraft

/-- Adds an entry. -/
def assign (d : InlineDraft) (key : Path) (v : Value) : Option InlineDraft :=
  (splitKey? key).bind fun (parent, name) =>
    if d.closed.any fun p => p.isPrefixOf key then none
    else (within false (addEntry name v) parent d.root).map fun root =>
      { root, closed := if isCompound v then key :: d.closed else d.closed }

end InlineDraft

end FeatureAudit.Toml
