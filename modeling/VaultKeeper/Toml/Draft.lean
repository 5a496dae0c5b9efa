import VaultKeeper.Toml.Basic

/-! # Tables under construction

A document adds to its tables line by line: a header opens a table, and every pair goes into the
table of the header before it. A draft remembers how each table came about, since that decides what
may still be added: no table is opened twice, and a dotted key goes through tables that no header
has opened.
-/

namespace VaultKeeper.Toml

/-- A line of a document. -/
inductive Statement where
  /-- `[path.key]` opens a table. -/
  | header (path : List String) (key : String)
  /-- `[[path.key]]` opens the next table of a list. -/
  | item (path : List String) (key : String)
  /-- `path.key = value`. -/
  | pair (path : List String) (key : String) (value : Toml)
deriving Repr

/-- How a table came about. -/
inductive Origin where
  /-- On the way to the table of a header. -/
  | passed
  | header
  | dottedKey
deriving DecidableEq, Repr

/-- A value, a table, or a list of tables that headers open. -/
inductive Draft where
  | leaf (value : Toml)
  | table (origin : Origin) (entries : List (String × Draft))
  | tables (items : List (List (String × Draft)))
deriving Repr

namespace Draft

/-- The entries of a table. -/
abbrev Entries := List (String × Draft)

/-- Put an entry in the place of one with the same key, or else at the end. -/
def put (key : String) (draft : Draft) : Entries → Entries
  | [] => [(key, draft)]
  | entry :: rest => if entry.1 = key then (key, draft) :: rest else entry :: put key draft rest

/-- Change the table at a path, making the tables on the way that are missing. In a list of tables
the way leads through the last one. -/
def descend (step : Origin) (change : Origin → Entries → Option Entries) :
    (path : List String) → Origin → Entries → Option Entries
  | [], origin, entries => change origin entries
  | key :: path, _, entries =>
    match entries.lookup key with
    | none => do
      let inner ← descend step change path step []
      pure (put key (table step inner) entries)
    | some (leaf _) => none
    | some (table origin inner) =>
      if step = .dottedKey ∧ origin = .header then none
      else do
        let inner ← descend step change path origin inner
        pure (put key (table origin inner) entries)
    | some (tables items) => do
      let last ← items.getLast?
      let last ← descend step change path .header last
      pure (put key (tables (items.dropLast ++ [last])) entries)

/-- Open a table. One that was passed on the way to another may still be opened. -/
def openTable (key : String) (_ : Origin) (entries : Entries) : Option Entries :=
  match entries.lookup key with
  | none => some (put key (table .header []) entries)
  | some (table .passed inner) => some (put key (table .header inner) entries)
  | some _ => none

/-- Open the next table of a list. -/
def openItem (key : String) (_ : Origin) (entries : Entries) : Option Entries :=
  match entries.lookup key with
  | none => some (put key (tables [[]]) entries)
  | some (tables items) => some (put key (tables (items ++ [[]])) entries)
  | some _ => none

/-- Add a value. A pair with a dotted key adds to tables made by dotted keys only. -/
def addValue (isDotted : Bool) (key : String) (new : Toml) (origin : Origin) (entries : Entries) :
    Option Entries :=
  if isDotted = decide (origin = .dottedKey) ∧ (entries.lookup key).isNone then
    some (put key (leaf new) entries)
  else none

/-- Add a pair to a table. -/
def addPair (path : List String) (key : String) (new : Toml) (origin : Origin) (entries : Entries) :
    Option Entries :=
  descend .dottedKey (addValue (!path.isEmpty) key new) path origin entries

/-- A document as far as it was read, and the path of its last header. -/
structure State where
  current : List String
  root : Entries

/-- Add a line to a document. -/
def add (state : State) : Statement → Option State
  | .header path key => do
    let root ← descend .passed (openTable key) path .header state.root
    pure ⟨path ++ [key], root⟩
  | .item path key => do
    let root ← descend .passed (openItem key) path .header state.root
    pure ⟨path ++ [key], root⟩
  | .pair path key new => do
    let root ← descend .passed (addPair path key new) state.current .header state.root
    pure { state with root }

mutual

/-- The value that a draft stands for. -/
def toToml : Draft → Toml
  | leaf value => value
  | table _ entries => .table (entriesToToml entries)
  | tables items => .array (itemsToToml items)

def entriesToToml : List (String × Draft) → List (String × Toml)
  | [] => []
  | (key, draft) :: rest => (key, draft.toToml) :: entriesToToml rest

def itemsToToml : List (List (String × Draft)) → List Toml
  | [] => []
  | entries :: rest => .table (entriesToToml entries) :: itemsToToml rest

end

end Draft

/-- The document that lines make up, unless one of them contradicts those before it. -/
def ofStatements (statements : List Statement) : Option Toml := do
  let state ← statements.foldlM Draft.add ⟨[], []⟩
  pure (.table (Draft.entriesToToml state.root))

/-- The table that the pairs of an inline table make up. -/
def ofPairs (pairs : List (List String × String × Toml)) : Option Toml := do
  let entries ← pairs.foldlM (fun entries (path, key, value) =>
    Draft.addPair path key value .header entries) []
  pure (.table (Draft.entriesToToml entries))

end VaultKeeper.Toml
