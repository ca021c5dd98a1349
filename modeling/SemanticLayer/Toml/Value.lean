import SemanticLayer.Number.Binary64
namespace SemanticLayer.Toml

/-! The tables of a TOML text, and what may be added to a table after its creation. -/

/-- How a table came about, which decides who may add to it. -/
inductive Origin where
  /-- On the way to a table further down in a header. -/
  | implicit
  /-- On the way of a dotted key. -/
  | dotted
  /-- Named by a header of its own. -/
  | explicit
  /-- Written as a value; nothing can be added. -/
  | inline
deriving DecidableEq, Repr, Inhabited

inductive Value where
  | text (value : String)
  | integer (value : Int)
  | float (value : Binary64)
  | bool (value : Bool)
  | dateTime (written : String)
  /-- An array of tables grows with every header that names it. -/
  | array (isOfTables : Bool) (items : List Value)
  | table (origin : Origin) (entries : List (String × Value))
deriving Repr, Inhabited

abbrev Entries := List (String × Value)

inductive Problem where
  | unexpected (expectation : String)
  | duplicateKey (key : String)
  | closed (key : String)
  | shape (expectation : String)
deriving Repr

def Problem.message : Problem → String
  | .unexpected expectation => s!"expected {expectation}"
  | .duplicateKey key => s!"duplicate key {key}"
  | .closed key => s!"cannot extend the value of {key}"
  | .shape expectation => s!"invalid type: expected {expectation}"

namespace Entries

def value? (entries : Entries) (key : String) : Option Value := entries.lookup key

/-- Give `key` a value, in place of the one it has. -/
def put (key : String) (value : Value) : Entries → Entries
  | [] => [(key, value)]
  | entry :: rest => if entry.1 == key then (key, value) :: rest else entry :: put key value rest

/-- Change the last table of an array. -/
def changeLast (key : String) (change : Entries → Except Problem Entries) :
    List Value → Except Problem (List Value)
  | [] => .error (.closed key)
  | [.table origin entries] => return [.table origin (← change entries)]
  | [_] => .error (.closed key)
  | item :: rest => return item :: (← changeLast key change rest)

/-- Add the entry of a dotted key. Its way must not lead into tables that have been
closed, and only a dotted key may add to the table of another one. -/
def insert (key : String) (value : Value) : List String → Entries → Except Problem Entries
  | [], entries =>
      if (entries.value? key).isSome then .error (.duplicateKey key)
      else .ok (entries ++ [(key, value)])
  | name :: path, entries =>
      match entries.value? name with
      | none => do
          return entries ++ [(name, .table .dotted (← insert key value path []))]
      | some (.table origin inner) =>
          if origin = .dotted || (origin = .implicit && !path.isEmpty) then do
            return entries.put name (.table origin (← insert key value path inner))
          else .error (.duplicateKey name)
      | some (.array true items) =>
          if path.isEmpty then .error (.duplicateKey name)
          else do
            return entries.put name
              (.array true (← changeLast name (insert key value path) items))
      | some _ => .error (.closed name)

/-- Change the table that a header leads to, making the tables on its way. -/
def changeAt (change : Entries → Except Problem Entries) :
    List String → Entries → Except Problem Entries
  | [], entries => change entries
  | name :: path, entries =>
      match entries.value? name with
      | none => do return entries ++ [(name, .table .implicit (← changeAt change path []))]
      | some (.table .inline _) => .error (.closed name)
      | some (.table origin inner) => do
          return entries.put name (.table origin (← changeAt change path inner))
      | some (.array true items) => do
          return entries.put name
            (.array true (← changeLast name (changeAt change path) items))
      | some _ => .error (.closed name)

/-- A header may name a table once, and before that it may be on the way of others. -/
def openTable (key : String) (fill : Entries → Except Problem Entries) (entries : Entries) :
    Except Problem Entries :=
  match entries.value? key with
  | none => do return entries ++ [(key, .table .explicit (← fill []))]
  | some (.table .implicit inner) => do
      return entries.put key (.table .explicit (← fill inner))
  | some _ => .error (.duplicateKey key)

def appendTable (key : String) (fill : Entries → Except Problem Entries) (entries : Entries) :
    Except Problem Entries := do
  let table : Value := .table .explicit (← fill [])
  match entries.value? key with
  | none => return entries ++ [(key, .array true [table])]
  | some (.array true items) => return entries.put key (.array true (items ++ [table]))
  | some _ => throw (.duplicateKey key)

end Entries

end SemanticLayer.Toml
