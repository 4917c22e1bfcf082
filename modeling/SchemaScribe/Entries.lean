/-!
Keyed entries in order of first mention. `List.lookup` reads them.
-/

namespace SchemaScribe.Entries

variable {κ α : Type} [DecidableEq κ]

/-- Sets the value of a key: a key that is already there keeps its place. -/
def set (key : κ) (value : α) : List (κ × α) → List (κ × α)
  | [] => [(key, value)]
  | (k, v) :: entries => if k = key then (k, value) :: entries else (k, v) :: set key value entries

/-- The keys in order of first mention, each with the value mentioned last. -/
def ofList (entries : List (κ × α)) : List (κ × α) :=
  entries.foldl (fun acc entry => set entry.1 entry.2 acc) []

end SchemaScribe.Entries
