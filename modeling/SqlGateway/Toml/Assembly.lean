import SqlGateway.Toml

/-!
# Assembling a document

A document is made up by its headers and assignments in order, one change of the root table each.
Every change walks down a path and makes the tables that are missing. A walk down the dots of a
key may not enter a table that has a header; a walk down a header may enter any table, and enters
an array of tables at its last member.
-/

namespace SqlGateway.Toml

/-- Change the entry of a key, which may be missing. -/
def alter (key : String) (change : Option Item → Option Item) : Entries → Option Entries
  | [] => (change none).map fun item ↦ [(key, item)]
  | (name, item) :: rest =>
    if name = key then (change (some item)).map fun item ↦ (name, item) :: rest
    else (alter key change rest).map ((name, item) :: ·)

/-- Change the last member of a list. -/
def alterLast {α : Type} (change : α → Option α) : List α → Option (List α)
  | [] => none
  | [last] => (change last).map ([·])
  | first :: rest => (alterLast change rest).map (first :: ·)

/-- Change the table at the end of a path. Tables that are missing come to be as `made` says. -/
def within (made : Origin) (change : Origin → Entries → Option Entries) :
    List String → Origin → Entries → Option Entries
  | [], origin, entries => change origin entries
  | key :: path, _, entries =>
    alter key (fun found ↦ match found with
      | none => (within made change path made []).map (.table made)
      | some (.table origin below) =>
        if made = .dotted ∧ origin = .header then none
        else (within made change path origin below).map (.table origin)
      | some (.tables members) =>
        (alterLast (within made change path .header) members).map .tables
      | some _ => none) entries

/-- Give a key that has no entry yet its item. -/
def define (key : String) (item : Item) : Entries → Option Entries :=
  alter key fun found ↦ match found with
    | none => some item
    | some _ => none

/-- Give the key at the end of a path its item. If there are dots before it, then the table that
it belongs to must have come to be by dots, too. -/
def assign (path : List String) (key : String) (item : Item) (origin : Origin)
    (entries : Entries) : Option Entries :=
  within .dotted (fun origin entries ↦
    if origin = .dotted ↔ path.isEmpty then none else define key item entries) path origin entries

/-- Open the table that a header names. It may be there already if only headers below it have
implied it. -/
def openTable (path : List String) (key : String) (root : Entries) : Option Entries :=
  within .implied (fun _ entries ↦ alter key (fun found ↦ match found with
    | none => some (.table .header [])
    | some (.table .implied below) => some (.table .header below)
    | some _ => none) entries) path .header root

/-- Begin another member of the array of tables that a header names. -/
def openMember (path : List String) (key : String) (root : Entries) : Option Entries :=
  within .implied (fun _ entries ↦ alter key (fun found ↦ match found with
    | none => some (.tables [[]])
    | some (.tables members) => some (.tables (members ++ [[]]))
    | some _ => none) entries) path .header root

/-- Make an assignment in the table of the last header. -/
def assignIn (header path : List String) (key : String) (item : Item) (root : Entries) :
    Option Entries :=
  within .implied (assign path key item) header .header root

/-- The entries of a table between braces. -/
def closedEntries (pairs : List ((List String × String) × Item)) : Option Entries :=
  pairs.foldlM (fun entries (place, item) ↦ assign place.1 place.2 item .header entries) []

end SqlGateway.Toml
