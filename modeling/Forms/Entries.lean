/-!
# Entries by key

A finite map is kept as the list of its entries, by ascending key and each key once.  Keys compare
by code points, which is the order of their encoded bytes.  The operations keep the order, so a map
has one list.
-/

namespace Forms

abbrev Entries (α : Type) := List (String × α)

namespace Entries

variable {α : Type}

/-- Writes a key; a key that is there already gets the new value. -/
def insert (key : String) (value : α) : Entries α → Entries α
  | [] => [(key, value)]
  | (other, held) :: rest =>
    if key < other then (key, value) :: (other, held) :: rest
    else if key = other then (key, value) :: rest
    else (other, held) :: insert key value rest

/-- The map that a sequence of writes leaves; the last write of a key wins. -/
def ofWrites (writes : List (String × α)) : Entries α :=
  writes.foldl (fun entries entry => insert entry.1 entry.2 entries) []

def get? (entries : Entries α) (key : String) : Option α := entries.lookup key

def erase (key : String) (entries : Entries α) : Entries α :=
  entries.filter fun entry => entry.1 != key

/-- All entries of one map written over another. -/
def merge (entries changes : Entries α) : Entries α :=
  changes.foldl (fun entries entry => insert entry.1 entry.2 entries) entries

end Entries

end Forms
