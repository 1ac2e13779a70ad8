import OptionBindings.Text.Case

/-!
# Scopes

The three kinds of options that bindings are made for.
-/

namespace OptionBindings

inductive Scope
  | network
  | database
  | transaction
  deriving DecidableEq, Repr

namespace Scope

def all : List Scope :=
  [network, database, transaction]

/-- The name of a scope's element in an options document, and of the type its constants extend. -/
def typeName : Scope → String
  | network => "NetworkOption"
  | database => "DatabaseOption"
  | transaction => "TransactionOption"

def flag : Scope → String
  | network => "network"
  | database => "database"
  | transaction => "transaction"

def ofMarker? (marker : Option String) : Option Scope :=
  all.find? fun scope => marker == some scope.typeName

theorem ofMarker?_eq_some_iff {marker : Option String} {scope : Scope} :
    ofMarker? marker = some scope ↔ marker = some scope.typeName := by
  constructor
  · intro h
    unfold ofMarker? at h
    simpa using List.find?_some h
  · rintro rfl
    cases scope <;> rfl

def symbolPart : Scope → String
  | network => "NET_OPTION"
  | database => "DB_OPTION"
  | transaction => "TR_OPTION"

def symbol (scope : Scope) (name : List Char) : List Char :=
  "FDB_".toList ++ scope.symbolPart.toList ++ '_' :: Text.upper name

def fileName (scope : Scope) : String :=
  String.ofList (Text.capitalize scope.flag.toList) ++ "Option.gen.swift"

def distinct (scopes : List Scope) : List Scope :=
  scopes.foldl (fun seen scope => if scope ∈ seen then seen else seen ++ [scope]) []

end Scope

end OptionBindings
