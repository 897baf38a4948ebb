import SchemaDrift.Catalog.Builtin
/-!
# The registry of dialects

A registry knows catalogues by their names in lower case. It starts with the built-in dialects;
a name that is taken is given to another catalogue only on request.
-/

namespace SchemaDrift

/-- The catalogues that can be asked for by name. The keys are in lower case. -/
structure Registry where
  catalogs : OrderedMap String Catalog
  deriving Repr, DecidableEq

namespace Registry

def initial : Registry := ⟨⟨[("access", .access), ("mssql", .mssql)], by decide⟩⟩

instance : Inhabited Registry := ⟨initial⟩

/-- The names that catalogues can be asked for, in ascending order. -/
def available (r : Registry) : List String := r.catalogs.keys.mergeSort fun a b => decide (a ≤ b)

/-- The catalogue of a dialect, whose name may be given in any case. -/
def get (r : Registry) (dialect : String) : Except Fault Catalog :=
  match r.catalogs.get? (Text.lower dialect) with
  | some catalog => .ok catalog
  | none => .error (.unknownDialect dialect r.available)

/--
Adds a catalogue, whose name has to be a text; one of the same name gives way only if `replace`
is set.
-/
def register (r : Registry) (catalog : Catalog) (replace : Bool := false) :
    Except Fault Registry :=
  match catalog.name with
  | .text name =>
    let key := Text.lower name
    if r.catalogs.contains key && !replace then .error (.dialectTaken name)
    else .ok ⟨r.catalogs.insert key catalog⟩
  | _ => .error .unsupported

end Registry

end SchemaDrift
