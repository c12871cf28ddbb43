import KarelBuild.Toml.Key

/-!
# Building tables

A table is defined once. A dotted key adds only to tables that dotted keys made, and a header may
take over a table that so far was only part of longer headers.
-/

namespace KarelBuild.Toml

namespace Fields

/-- Give a dotted key a value. -/
def assign (v : Value) : Text → List Text → Fields → Option Fields
  | name, [], fields =>
    match fields.lookup name with
    | none => some (fields.add name v)
    | some _ => none
  | name, next :: more, fields =>
    match fields.lookup name with
    | none => (assign v next more []).map fun sub => fields.add name (.table .dotted sub)
    | some (.table origin sub) =>
      if origin = .dotted ∨ (origin = .implied ∧ more ≠ []) then
        (assign v next more sub).map fun sub => fields.change name (.table origin sub)
      else none
    | some (.tables members) =>
      if more = [] then none
      else (assign v next more (members.getLastD [])).map fun sub =>
        fields.change name (.tables (members.dropLast ++ [sub]))
    | some _ => none

/-- Change the table that a chain of names leads to; a table that is not there is implied. The last
one of an array of tables is meant. -/
def within (f : Fields → Option Fields) : List Text → Fields → Option Fields
  | [], fields => f fields
  | name :: names, fields =>
    match fields.lookup name with
    | none => (within f names []).map fun sub => fields.add name (.table .implied sub)
    | some (.table origin sub) =>
      if origin = .inline then none
      else (within f names sub).map fun sub => fields.change name (.table origin sub)
    | some (.tables members) =>
      (within f names (members.getLastD [])).map fun sub =>
        fields.change name (.tables (members.dropLast ++ [sub]))
    | some _ => none

def openTable (name : Text) (fields : Fields) : Option Fields :=
  match fields.lookup name with
  | none => some (fields.add name (.table .header []))
  | some (.table .implied sub) => some (fields.change name (.table .header sub))
  | some _ => none

def openMember (name : Text) (fields : Fields) : Option Fields :=
  match fields.lookup name with
  | none => some (fields.add name (.tables [[]]))
  | some (.tables members) => some (fields.change name (.tables (members ++ [[]])))
  | some _ => none

/-- The fields that pairs of keys and values make. -/
def ofPairs? (pairs : List (Key × Value)) : Option Fields :=
  pairs.foldlM (fun fields (k, v) => assign v k.first k.rest fields) []

end Fields

end KarelBuild.Toml
