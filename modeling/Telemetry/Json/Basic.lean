/-! JSON values. Whole numbers and floats are told apart, and an object keeps its entries in the
order in which they are to be written. -/

namespace Telemetry

/-- A JSON value. -/
inductive Json where
  | null
  | bool (b : Bool)
  | int (n : Int)
  | float (x : Float)
  | str (s : String)
  | arr (items : List Json)
  | obj (entries : List (String × Json))

instance : Inhabited Json := ⟨.null⟩

/-- Puts an entry into a list sorted by key, in place of one with the same key. -/
def insertSorted {α : Type} (k : String) (v : α) : List (String × α) → List (String × α)
  | [] => [(k, v)]
  | (k', v') :: rest =>
    if k < k' then (k, v) :: (k', v') :: rest
    else if k = k' then (k, v) :: rest
    else (k', v') :: insertSorted k v rest

/-- Entries sorted by key; of several with one key the last counts. -/
def sortedEntries {α : Type} (entries : List (String × α)) : List (String × α) :=
  entries.foldl (fun acc e => insertSorted e.1 e.2 acc) []

namespace Json

/-- The value of an object's field. -/
def field? (j : Json) (name : String) : Option Json :=
  match j with
  | .obj entries => entries.lookup name
  | _ => none

/-- An object without the entries that are absent. -/
def object (fields : List (Option (String × Json))) : Json := .obj (fields.filterMap id)

/-- An entry that is written only if there is a value. -/
def optional {α : Type} (name : String) (f : α → Json) (v : Option α) : Option (String × Json) :=
  v.map fun a => (name, f a)

/-- An entry that is written only if the list is not empty. -/
def nonEmpty {α : Type} (name : String) (f : List α → Json) (xs : List α) :
    Option (String × Json) :=
  if xs.isEmpty then none else some (name, f xs)

/-- An array of what `f` makes of the items. -/
def array {α : Type} (f : α → Json) (xs : List α) : Json := .arr (xs.map f)

/-- An object of what `f` makes of the values. -/
def entries {α : Type} (f : α → Json) (xs : List (String × α)) : Json :=
  .obj (xs.map fun e => (e.1, f e.2))

end Json

end Telemetry
