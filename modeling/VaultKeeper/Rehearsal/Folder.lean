import VaultKeeper.Settings.Load

/-! # A folder for a rehearsal

A folder holds nothing but the given files. The folder itself and those above it exist as well,
though they cannot be read as files.
-/

namespace VaultKeeper.Rehearsal

/-- Files with their contents. -/
abbrev Folder := List (String × String)

/-- The parts of a path between slashes. -/
def pathParts (path : String) : List String :=
  path.splitOn "/"

/-- What is at a path. -/
def Folder.look (folder : Folder) (path : String) : FileState :=
  if path.isEmpty then .missing
  else
    match (pathParts path).dropWhile (· == ".") with
    | [name] =>
      if name.isEmpty || name == ".." then .unreadable
      else match folder.lookup name with
        | some text => .content text
        | none => .missing
    | parts => if parts.all fun part => ["", ".", ".."].contains part then .unreadable else .missing

end VaultKeeper.Rehearsal
