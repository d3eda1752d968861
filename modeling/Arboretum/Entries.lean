/-!
Entries in the order in which their keys first came. Putting a value under a key that is already
there replaces the value and keeps the place.
-/

namespace Arboretum

set_option autoImplicit false

/-- Keys with one value each, in order of first appearance. -/
abbrev Entries (κ ν : Type) : Type := List (κ × ν)

namespace Entries

variable {κ ν : Type} [DecidableEq κ]

def find? (key : κ) : Entries κ ν → Option ν
  | [] => none
  | (other, value) :: rest => if other = key then some value else find? key rest

def put (key : κ) (value : ν) : Entries κ ν → Entries κ ν
  | [] => [(key, value)]
  | (other, old) :: rest =>
      if other = key then (key, value) :: rest else (other, old) :: put key value rest

def erase (key : κ) (entries : Entries κ ν) : Entries κ ν :=
  entries.filter fun entry => entry.1 ≠ key

def ofPairs (pairs : List (κ × ν)) : Entries κ ν :=
  pairs.foldl (fun entries pair => entries.put pair.1 pair.2) []

theorem find?_put (key other : κ) (value : ν) (entries : Entries κ ν) :
    (entries.put key value).find? other =
      if key = other then some value else entries.find? other := by
  induction entries with
  | nil => simp [put, find?]
  | cons head rest induction => grind [put, find?]

end Entries

end Arboretum
