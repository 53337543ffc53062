/-!
# TOML values

A configuration document is a tree of tables.  While the document is read, each
table remembers how it came about, because that decides what may still be added
to it: an inline table is complete, a table with a header may gain subtables but
no second header, and so on.  Floats and dates keep their spelling; nothing
computes with them.
-/

namespace VtableHeader

/-- How a table came about. -/
inductive Toml.Origin where
  /-- Written between braces. -/
  | inline
  /-- Opened by a header of its own. -/
  | header
  /-- Only named on the way to a deeper header. -/
  | implied
  /-- Only named in a dotted key. -/
  | dotted
  deriving DecidableEq, Repr

/-- A TOML value. -/
inductive Toml where
  | string (text : String)
  | integer (value : Int)
  | float (literal : String)
  | boolean (value : Bool)
  | dateTime (literal : String)
  | array (items : List Toml)
  | table (origin : Toml.Origin) (entries : List (String × Toml))
  /-- Tables that headers in double brackets append one by one. -/
  | tables (elements : List (List (String × Toml)))
  deriving Repr

namespace Toml

/-- The keys and values of a table, in the order of the document. -/
abbrev Entries := List (String × Toml)

/-- Put another value under a key that is there. -/
def Entries.replace (entries : Entries) (key : String) (value : Toml) : Entries :=
  entries.map fun entry => if entry.1 = key then (key, value) else entry

/-- The text of a string. -/
def string? : Toml → Option String
  | .string text => some text
  | _ => none

/-- A whole number that is not negative. -/
def nat? : Toml → Option Nat
  | .integer (.ofNat value) => some value
  | _ => none

/-- The items of an array, each of them decoded. -/
def arrayOf? {α : Type} (decode : Toml → Option α) : Toml → Option (List α)
  | .array items => items.mapM decode
  | .tables elements => (elements.map (.table .header)).mapM decode
  | _ => none

/-- The leading values, one for each key; surplus ones are dropped. -/
def positional (keys : List String) (items : List Toml) : List (Option Toml) :=
  (items.take keys.length).map some ++ List.replicate (keys.length - items.length) none

/-- The values of a record with the given keys, one for each key.  A record is a
table, which may have other keys too, or an array of its leading values.  A date
counts as a record without values. -/
def record? (keys : List String) : Toml → Option (List (Option Toml))
  | .table _ entries => some (keys.map fun key => entries.lookup key)
  | .array items => some (positional keys items)
  | .tables elements => some (positional keys (elements.map (.table .header)))
  | .dateTime _ => some (keys.map fun _ => none)
  | _ => none

/-- Decode a value that must be there. -/
def required {α : Type} (decode : Toml → Option α) : Option Toml → Option α
  | some value => decode value
  | none => none

/-- Decode a value that stands for `default` when it is missing. -/
def defaulting {α : Type} (default : α) (decode : Toml → Option α) : Option Toml → Option α
  | some value => decode value
  | none => some default

/-- Decode a value that may be missing. -/
def optional {α : Type} (decode : Toml → Option α) : Option Toml → Option (Option α)
  | some value => (decode value).map some
  | none => some none

end Toml

end VtableHeader
