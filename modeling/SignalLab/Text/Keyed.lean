import SignalLab.Text.Basic

/-!
# Keyed values — values under names, in the order of their first assignment

Assigning to a name that is there changes its value in place; a new name goes to the end.  Removing
a name and assigning to it again therefore moves it to the end.
-/

namespace SignalLab

/-- Values under names; the first entry of a name counts. -/
abbrev Keyed (α : Type) := List (Text × α)

namespace Keyed

variable {α β : Type}

/-- The value under a name. -/
def find? (name : Text) : Keyed α → Option α
  | [] => none
  | (key, value) :: rest => if key = name then some value else find? name rest

/-- The entries with the given value under a name. -/
def assign (name : Text) (value : α) : Keyed α → Keyed α
  | [] => [(name, value)]
  | (key, old) :: rest =>
    if key = name then (key, value) :: rest else (key, old) :: assign name value rest

/-- The entries without a name. -/
def remove (name : Text) (entries : Keyed α) : Keyed α :=
  entries.filter fun entry => entry.1 ≠ name

/-- The names in order. -/
def names (entries : Keyed α) : List Text :=
  entries.map (·.1)

/-- The entries of which `f` keeps something. -/
def collect (f : α → Option β) (entries : Keyed α) : Keyed β :=
  entries.filterMap fun entry => (f entry.2).map (entry.1, ·)

end Keyed

end SignalLab
