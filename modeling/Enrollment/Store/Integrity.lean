import Enrollment.Store.Basic

/-! # Integrity

A statement on the store adds, replaces or removes rows, and the schema says what it may leave. Each
row that is written has to meet the conditions of its columns, then share no unique index with
another row, then, at the end of the statement, refer to rows that exist. A row that is removed may
not be referred to, except by rows that go with it. A statement that breaches the schema does
nothing at all.

A statement may find that another writer came first, and then it changes no row and breaches
nothing: that is what `Conditions.overtaken` decides.

* `insert_nil`: a statement that adds nothing changes nothing. -/

namespace Enrollment.Store

/-- What a statement does to rows that are stored. -/
inductive Event where
  | update
  | delete
deriving DecidableEq, Repr

/-- What holds while statements run: whether references are looked at, and for which stored rows
another writer came first. -/
structure Conditions where
  referencesHold : Bool := true
  overtaken : Event → Row → Bool := fun _ _ => false

/-- How a statement breaches the schema. -/
inductive Breach where
  /-- A value does not meet the condition of its column. -/
  | condition (column : Column)
  /-- Two rows of a table agree on the columns of a unique index. -/
  | duplicate (table : Table) (columns : List Column)
  /-- A row refers to one that does not exist. -/
  | dangling
  /-- A row that would be removed is referred to. -/
  | restricted
deriving DecidableEq, Repr

/-! ### What the schema asks of a row -/

/-- The first column whose condition a row does not meet. -/
def Row.unmet (r : Row) : Option Column :=
  ((Schema.migrated.columns r.table).find? fun c =>
    c.condition.any fun condition => !condition.admits (r.cell c.column)).map (·.column)

/-- The lists of columns on which no two rows of a table agree; the key comes last. -/
def keys (t : Table) : List (List Column) :=
  ((Schema.migrated.indexesOf t).filter (·.unique)).map (·.columns) ++ [[.id]]

/-- Two rows of one table agree on columns, none of which is null. -/
def Row.agrees (r q : Row) (columns : List Column) : Bool :=
  r.table = q.table && columns.all fun c => r.cell c ≠ .null && r.cell c = q.cell c

/-- The columns of a unique index on which a row agrees with one of others. -/
def Row.duplicated (r : Row) (others : List Row) : Option (List Column) :=
  (keys r.table).find? fun columns => others.any (r.agrees · columns)

/-- The row refers to the row of a table under an identifier, in a column whose references are of
the given sort. -/
def Row.refersTo (r : Row) (t : Table) (key : Uuid) (sort : OnDelete) : Bool :=
  (Schema.migrated.references r.table).any fun ref =>
    ref.target = t && ref.onDelete = sort && r.cell ref.column = .uuid key

/-- The row refers to one that is not among the given rows. -/
def Row.dangles (r : Row) (rows : List Row) : Bool :=
  (Schema.migrated.references r.table).any fun ref =>
    r.cell ref.column ≠ .null &&
      !rows.any fun q => q.table = ref.target && q.cell .id = r.cell ref.column

/-- A row may stand beside others, its references apart. -/
def Row.check (r : Row) (others : List Row) : Except Breach Unit :=
  match r.unmet with
  | some column => .error (.condition column)
  | none =>
    match r.duplicated others with
    | some columns => .error (.duplicate r.table columns)
    | none => .ok ()

/-! ### Statements -/

/-- The rows with one more. -/
def append (rows : List Row) (r : Row) : Except Breach (List Row) :=
  (r.check rows).map fun _ => rows ++ [r.settled]

/-- Rows are added by one statement. -/
def insert (c : Conditions) (new : List Row) (s : Store) : Except Breach Store := do
  let rows ← new.foldlM append s.rows
  if c.referencesHold && new.any (·.dangles rows) then .error .dangling else .ok ⟨rows⟩

/-- The row of its table and its identifier that is stored in a version gives way to another; none
if there is no such row. -/
def replace (c : Conditions) (key : Uuid) (version : Int32) (new : Row) (s : Store) :
    Except Breach (Option Store) :=
  let isOld (q : Row) : Bool := q.isAt new.table key && q.version = some version
  if s.rows.any fun q => isOld q && !c.overtaken .update q then do
    new.check (s.rows.filter (!isOld ·))
    let rows := s.rows.map fun q => if isOld q then new.settled else q
    if c.referencesHold && new.dangles rows then .error .dangling else .ok (some ⟨rows⟩)
  else .ok none

/-- The row of a table under an identifier is removed, and what goes with it; none if there is no
such row. -/
def remove (c : Conditions) (t : Table) (key : Uuid) (s : Store) : Except Breach (Option Store) :=
  if s.rows.any fun q => q.isAt t key && !c.overtaken .delete q then
    let others := s.rows.filter (!·.isAt t key)
    if c.referencesHold then
      let rows := others.filter fun q => !(q.refersTo t key .cascade && !c.overtaken .delete q)
      if others.any (·.refersTo t key .restrict) then .error .restricted
      else if rows.any (·.refersTo t key .cascade) then .error .dangling
      else .ok (some ⟨rows⟩)
    else .ok (some ⟨others⟩)
  else .ok none

theorem insert_nil (c : Conditions) (s : Store) : s.insert c [] = .ok s := by
  simp [insert, bind, Except.bind, pure, Except.pure]

end Enrollment.Store
