/-!
# Values of a settings document

Tables remember how they came to be, which decides who may still add to them: a table under a header
is closed to dotted keys and to a second header, a table implied by a longer header may get one
header of its own, a table made by dotted keys grows by dotted keys only, and an inline table is
complete.
-/
namespace CredentialWatch.Toml

inductive Origin where
  | header
  | implied
  | dotted
  | inline
  deriving DecidableEq, Repr

inductive Value where
  | text (value : String)
  | integer (value : Int)
  | boolean (value : Bool)
  /-- A number with a fraction or an exponent. -/
  | decimal
  /-- A date, a time or both. -/
  | moment
  | list (items : List Value)
  /-- Tables that share one header, in order. -/
  | tables (items : List Value)
  | table (origin : Origin) (fields : List (String × Value))

namespace Value

/-- The table without fields. -/
def emptyTable (origin : Origin) : Value := table origin []

/-- Replace the value of a key that is there. -/
def replace (fields : List (String × Value)) (key : String) (value : Value) :
    List (String × Value) :=
  fields.map fun (other, old) => if other = key then (other, value) else (other, old)

/-- Change the table that a path of keys leads to. Missing tables are made on the way; `dotted` says
whether the path belongs to a dotted key or to a header. -/
def modifyAt (dotted : Bool) (change : Value → Option Value) : List String → Value → Option Value
  | [], value => change value
  | key :: rest, table origin fields =>
    match fields.lookup key with
    | none => do
      let made ← modifyAt dotted change rest (emptyTable (if dotted then .dotted else .implied))
      return table origin (fields ++ [(key, made)])
    | some (table childOrigin childFields) =>
      if childOrigin = .inline ∨ (dotted ∧ childOrigin = .header) then none
      else do
        let changed ← modifyAt dotted change rest (table childOrigin childFields)
        return table origin (replace fields key changed)
    | some (tables items) =>
      match items.getLast? with
      | none => none
      | some last => do
        let changed ← modifyAt dotted change rest last
        return table origin (replace fields key (tables (items.dropLast ++ [changed])))
    | some _ => none
  | _, _ => none

/-- Add a field to a table. A table made by dotted keys takes fields of dotted keys only, and a
dotted key adds to no other one. -/
def addField (dotted : Bool) (key : String) (value : Value) : Value → Option Value
  | table origin fields =>
    if (origin == .dotted) != dotted then none
    else if (fields.lookup key).isSome then none
    else some (table origin (fields ++ [(key, value)]))
  | _ => none

/-- Add what a key, perhaps a dotted one, is set to. -/
def assign (path : List String) (key : String) (value : Value) (into : Value) : Option Value :=
  modifyAt true (addField (!path.isEmpty) key value) path into

/-- Open a table under a header: a new one, or one that a longer header has implied. -/
def openTable (key : String) : Value → Option Value
  | table origin fields =>
    match fields.lookup key with
    | none => some (table origin (fields ++ [(key, emptyTable .header)]))
    | some (table .implied inner) => some (table origin (replace fields key (table .header inner)))
    | some _ => none
  | _ => none

/-- Open one more table of those that share a header. -/
def openItem (key : String) : Value → Option Value
  | table origin fields =>
    match fields.lookup key with
    | none => some (table origin (fields ++ [(key, tables [emptyTable .header])]))
    | some (tables items) =>
      some (table origin (replace fields key (tables (items ++ [emptyTable .header]))))
    | some _ => none
  | _ => none

end Value

end CredentialWatch.Toml
