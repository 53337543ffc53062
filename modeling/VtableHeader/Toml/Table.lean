import VtableHeader.Toml.Value

/-!
# Growing a document

Headers and keys add to the tree of tables one after another.  A table is found
by walking down from the root; tables that are missing on the way are created.
What the walk may pass depends on who walks: a header may pass anything but a
complete value, while a dotted key must not reach into a table that has a header
of its own.
-/

namespace VtableHeader.Toml

/-- Change the table that `path` names below a table with the given origin and
entries.  An array of tables is entered at its last element. -/
def changeAt (byDots : Bool) (change : Origin → Entries → Option Entries) :
    List String → Origin → Entries → Option Entries
  | [], origin, entries => change origin entries
  | key :: path, _, entries =>
      match entries.lookup key with
      | none => do
          let origin := if byDots then Origin.dotted else Origin.implied
          let inner ← changeAt byDots change path origin []
          some (entries ++ [(key, .table origin inner)])
      | some (.table origin inner) =>
          if origin = .inline ∨ (byDots ∧ origin = .header) then none
          else do
            let inner ← changeAt byDots change path origin inner
            some (entries.replace key (.table origin inner))
      | some (.tables elements) => do
          let last ← elements.getLast?
          let last ← changeAt byDots change path .header last
          some (entries.replace key (.tables (elements.dropLast ++ [last])))
      | some _ => none

/-- Add a new key to the table that a dotted key leads to.  The way there decides
whether that table must have come about by dotted keys as well. -/
def addKey (viaDots : Bool) (key : String) (value : Toml) (origin : Origin) (entries : Entries) :
    Option Entries :=
  if decide (origin = .dotted) != viaDots then none
  else if (entries.lookup key).isSome then none
  else some (entries ++ [(key, value)])

/-- Insert a value under a dotted key, given as its leading parts and its last
part. -/
def insertDotted (lead : List String) (key : String) (value : Toml) (origin : Origin)
    (entries : Entries) : Option Entries :=
  changeAt true (addKey (!lead.isEmpty) key value) lead origin entries

/-- Split the last part off a key. -/
def splitLast (keys : List String) : Option (List String × String) :=
  keys.getLast?.map fun last => (keys.dropLast, last)

/-- Insert a value under a key of one or more parts, in the table at `place`. -/
def insertValue (place : List String) (keys : List String) (value : Toml) (root : Entries) :
    Option Entries := do
  let (lead, key) ← splitLast keys
  changeAt false (insertDotted lead key value) place .header root

/-- Open the table of a header.  It must be new, or only implied so far. -/
def openTable (keys : List String) (root : Entries) : Option Entries := do
  let (lead, key) ← splitLast keys
  let settle (_ : Origin) (entries : Entries) : Option Entries :=
    match entries.lookup key with
    | none => some (entries ++ [(key, .table .header [])])
    | some (.table .implied inner) => some (entries.replace key (.table .header inner))
    | some _ => none
  changeAt false settle lead .header root

/-- Append an empty table to the array of tables of a header. -/
def appendTable (keys : List String) (root : Entries) : Option Entries := do
  let (lead, key) ← splitLast keys
  let grow (_ : Origin) (entries : Entries) : Option Entries :=
    match entries.lookup key with
    | none => some (entries ++ [(key, .tables [[]])])
    | some (.tables elements) => some (entries.replace key (.tables (elements ++ [[]])))
    | some _ => none
  changeAt false grow lead .header root

/-- The inline table with the given keys and values. -/
def inlineTable (pairs : List (List String × Toml)) : Option Toml := do
  let entries ← pairs.foldlM (fun entries pair => do
    let (lead, key) ← splitLast pair.1
    insertDotted lead key pair.2 .inline entries) ([] : Entries)
  some (.table .inline entries)

end VtableHeader.Toml
