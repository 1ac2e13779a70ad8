import OptionBindings.Scope

/-!
# Catalogs of options

The options of each scope under their names. A table keeps its entries in the order in which their
keys came first.
-/

namespace OptionBindings

structure Parameter where
  type : String
  description : Option String := none
  deriving DecidableEq, Repr

structure ClientOption where
  name : String
  code : String
  description : Option String := none
  parameter : Option Parameter := none
  deriving DecidableEq, Repr

/-- The words of a text that tells of no more than deprecation. -/
def marksDeprecation (text : String) : Bool :=
  Text.lower text.toList = "deprecated".toList

def ClientOption.isDeprecated (option : ClientOption) : Bool :=
  option.description.any marksDeprecation

/-- Options under keys, each key once. -/
structure OptionTable where
  entries : List (String × ClientOption) := []
  nodup : (entries.map (·.1)).Nodup := by decide
  deriving DecidableEq, Repr

namespace OptionTable

def put (key : String) (option : ClientOption) :
    List (String × ClientOption) → List (String × ClientOption)
  | [] => [(key, option)]
  | entry :: rest =>
    if entry.1 = key then (key, option) :: rest else entry :: put key option rest

theorem map_fst_put (key : String) (option : ClientOption)
    (entries : List (String × ClientOption)) :
    (put key option entries).map (·.1) =
      if key ∈ entries.map (·.1) then entries.map (·.1) else entries.map (·.1) ++ [key] := by
  induction entries with
  | nil => simp [put]
  | cons entry rest ih => grind [put]

theorem nodup_put (key : String) (option : ClientOption)
    {entries : List (String × ClientOption)} (h : (entries.map (·.1)).Nodup) :
    ((put key option entries).map (·.1)).Nodup := by
  rw [map_fst_put]
  split
  · exact h
  · rename_i hkey
    exact List.nodup_append.2 ⟨h, by simp, fun a ha b hb => by grind⟩

def empty : OptionTable :=
  ⟨[], List.nodup_nil⟩

def insert (table : OptionTable) (key : String) (option : ClientOption) : OptionTable :=
  ⟨put key option table.entries, nodup_put key option table.nodup⟩

def ofList (entries : List (String × ClientOption)) : OptionTable :=
  entries.foldl (fun table (key, option) => table.insert key option) .empty

def get? (table : OptionTable) (key : String) : Option ClientOption :=
  table.entries.lookup key

def keys (table : OptionTable) : List String :=
  table.entries.map (·.1)

def size (table : OptionTable) : Nat :=
  table.entries.length

theorem lookup_put (key other : String) (option : ClientOption)
    (entries : List (String × ClientOption)) :
    (put key option entries).lookup other =
      if other = key then some option else entries.lookup other := by
  induction entries with
  | nil => grind [put]
  | cons entry rest ih => grind [put]

theorem get?_insert (table : OptionTable) (key other : String) (option : ClientOption) :
    (table.insert key option).get? other = if other = key then some option else table.get? other :=
  lookup_put key other option table.entries

/-- A key that is there keeps its place, and a new one comes last. -/
theorem keys_insert (table : OptionTable) (key : String) (option : ClientOption) :
    (table.insert key option).keys =
      if key ∈ table.keys then table.keys else table.keys ++ [key] :=
  map_fst_put key option table.entries

def sorted (table : OptionTable) : List ClientOption :=
  (table.entries.mergeSort fun a b => a.1 ≤ b.1).map (·.2)

end OptionTable

structure Catalog where
  network : OptionTable := .empty
  database : OptionTable := .empty
  transaction : OptionTable := .empty
  deriving DecidableEq, Repr

namespace Catalog

def table (catalog : Catalog) : Scope → OptionTable
  | .network => catalog.network
  | .database => catalog.database
  | .transaction => catalog.transaction

def insert (catalog : Catalog) (scope : Scope) (option : ClientOption) : Catalog :=
  match scope with
  | .network => { catalog with network := catalog.network.insert option.name option }
  | .database => { catalog with database := catalog.database.insert option.name option }
  | .transaction => { catalog with transaction := catalog.transaction.insert option.name option }

theorem table_insert (catalog : Catalog) (scope other : Scope) (option : ClientOption) :
    (catalog.insert scope option).table other =
      if other = scope then (catalog.table scope).insert option.name option
      else catalog.table other := by
  cases scope <;> cases other <;> rfl

def size (catalog : Catalog) : Nat :=
  catalog.network.size + catalog.database.size + catalog.transaction.size

end Catalog
end OptionBindings
