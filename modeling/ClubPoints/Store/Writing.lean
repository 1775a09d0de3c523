import ClubPoints.Store.Columns

/-!
# Writing rows by column

A new row is given as values by column, of which some may be left out. A row is changed by values for
some of its columns; a value that equals the old one changes nothing, not even its kind, and what is
no column is passed over.
-/

namespace ClubPoints

namespace NamedColumns

/-- The values of the columns of a table, in their order, as the columns keep them. All are prepared
before the first of them is checked. -/
def taken (c : NamedColumns) (layout : List (String × ColumnKind)) :
    Except StoreFault NamedColumns := do
  let given := layout.filterMap fun (name, kind) => (c.lookup name).map fun v => (name, kind, v)
  let prepared ← given.mapM fun (name, kind, v) => return (name, kind, ← kind.prepare v)
  (prepared.zipIdx 1).forM fun ((_, kind, v), place) => kind.check place v
  return prepared.map fun (name, kind, v) => (name, kind.keep v)

def number (c : NamedColumns) : Except StoreFault Int :=
  match c.value "id" with
  | .whole n => .ok n
  | _ => .error .unfitNumber

end NamedColumns

namespace Columns

/-- The columns of a new row before any are given: null except for the number, which is chosen
later, and the defaults. -/
def blank (R : Type) [Columns R] : NamedColumns :=
  NamedColumns.overlay
    (((layout R).filter fun (name, _) => name ≠ "id").map fun (name, _) => (name, .null))
    (defaults R)

def isDocument (R : Type) [Columns R] (name : String) : Bool :=
  (layout R).lookup name == some .document

def looseKeys (R : Type) [Columns R] (c : NamedColumns) : List String :=
  ((layout R).filter fun (name, kind) => kind == .key && match c.value name with
    | .null | .whole _ => false
    | _ => true).map Prod.fst

/-- A row with loose keys refers to no row and shares those columns with none, so it is refused for
that unless something else is wrong with it. -/
def refuseLoose {α : Type} (loose : List String) (outcome : Except StoreFault α) :
    Except StoreFault α :=
  if loose.isEmpty then outcome
  else
    match outcome with
    | .ok _ => .error .danglingReference
    | .error (.repeated table columns) =>
      .error (if loose.any columns.contains then .danglingReference else .repeated table columns)
    | .error fault => .error fault

end Columns

namespace Store

variable {R : Type} [Columns R]

def dump (s : Store) (R : Type) [Columns R] : List NamedColumns :=
  (Table.rows s : List R).map Columns.columns

def insertColumns (s : Store) (R : Type) [Columns R] (given : NamedColumns) :
    Except StoreFault (Store × Int) := do
  match given.find? fun (name, _) => ((Columns.layout R).lookup name).isNone with
  | some (name, _) => throw (.unknownColumn name (Columns.record R))
  | none =>
    let chosen : NamedColumns := given.filter fun (name, v) =>
      !v.isNull || Columns.isDocument R name
    let c ← ((Columns.blank R).overlay chosen).taken (Columns.layout R)
    let id ← if (c.value "id").isNull then .ok (s.nextId R) else c.number
    let r : R ← Columns.ofColumns c
    Columns.refuseLoose (Columns.looseKeys R c) do
      let (s, r) ← s.insertNumbered (Table.setId r id)
      return (s, Table.id r)

/-- Changes some columns of a row; the answer is its number afterwards. There is none when there is
no such row. -/
def updateColumns (s : Store) (R : Type) [Columns R] (id : Int) (changes : NamedColumns) :
    Except StoreFault (Option (Store × Int)) :=
  match (s.find? id : Option R) with
  | none => .ok none
  | some old => do
    let c := Columns.columns old
    let changed : NamedColumns := changes.filter fun (name, v) => !v.equals (c.value name)
    let c := c.overlay (← changed.taken (Columns.layout R))
    let newId ← c.number
    let r : R ← Columns.ofColumns c
    Columns.refuseLoose (Columns.looseKeys R c) do
      let s ← s.renumber id (Table.setId r newId)
      return some (s, newId)

end Store

end ClubPoints
