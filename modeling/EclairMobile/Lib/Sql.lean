import EclairMobile.Lib.Except
import Mathlib.Data.Int.Order.Basic
import Mathlib.Data.List.Nodup
import Mathlib.Logic.Function.Basic

/-!
# SQL tables to which columns are added

A table has typed columns with distinct names, and in each row a cell for every column, which may be
`NULL`.  `ALTER TABLE ... ADD COLUMN` refuses a name that is taken; otherwise the new column stands
behind the others and is `NULL` in every row.  `Extends` says what a list of such statements does to
a table.
-/

namespace EclairMobile.Lib

inductive SqlType
  | TEXT
  | INTEGER
  deriving DecidableEq, Repr

inductive SqlValue
  | text (s : String)
  | integer (n : ℤ)
  deriving DecidableEq, Repr

def SqlValue.type : SqlValue → SqlType
  | .text _ => .TEXT
  | .integer _ => .INTEGER

/-- A cell of a row; `none` is `NULL`. -/
abbrev Cell := Option SqlValue

structure Column where
  name : String
  type : SqlType
  deriving DecidableEq, Repr

/-- The cell may stand in the column. -/
def Column.Fits (c : Column) (cell : Cell) : Prop := ∀ v ∈ cell, v.type = c.type

instance (c : Column) (cell : Cell) : Decidable (c.Fits cell) :=
  inferInstanceAs (Decidable (∀ v ∈ cell, _))

inductive SqlException
  | duplicateColumn (name : String)
  | noSuchTable (name : String)
  deriving DecidableEq, Repr

structure SqlTable where
  columns : List Column
  rows : List (List Cell)
  names_nodup : (columns.map Column.name).Nodup
  fits : ∀ row ∈ rows, List.Forall₂ Column.Fits columns row

namespace SqlTable

def names (t : SqlTable) : List String := t.columns.map Column.name

/-- The cell of a row under a name, if the table has such a column. -/
def cell? (t : SqlTable) (row : List Cell) (name : String) : Option Cell := row[t.names.idxOf name]?

theorem length_row (t : SqlTable) {row : List Cell} (h : row ∈ t.rows) :
    row.length = t.names.length := by
  rw [names, List.length_map]
  exact (t.fits row h).length_eq.symm

/-- The table without rows. -/
def create (columns : List Column) (h : (columns.map Column.name).Nodup) : SqlTable :=
  ⟨columns, [], h, by simp⟩

/-! ### Adding columns -/

theorem fits_append {columns : List Column} {row : List Cell}
    (h : List.Forall₂ Column.Fits columns row) (c : Column) :
    List.Forall₂ Column.Fits (columns ++ [c]) (row ++ [none]) := by
  refine List.rel_append h (List.Forall₂.cons ?_ List.Forall₂.nil)
  rintro v ⟨⟩

/-- The table with a column behind the others. -/
def extend (t : SqlTable) (c : Column) (h : c.name ∉ t.names) : SqlTable where
  columns := t.columns ++ [c]
  rows := t.rows.map (· ++ [none])
  names_nodup := by
    rw [List.map_append]
    exact t.names_nodup.append (List.nodup_singleton _) (List.disjoint_singleton.mpr h)
  fits := by
    intro row hrow
    obtain ⟨r, hr, rfl⟩ := List.mem_map.mp hrow
    exact fits_append (t.fits r hr) c

/-- `ALTER TABLE ... ADD COLUMN`. -/
def addColumn (t : SqlTable) (c : Column) : Except SqlException SqlTable :=
  if h : c.name ∈ t.names then .error (.duplicateColumn c.name) else .ok (t.extend c h)

def addColumns (t : SqlTable) : List Column → Except SqlException SqlTable
  | [] => .ok t
  | c :: cs => t.addColumn c >>= fun t => t.addColumns cs

/-- `t'` is `t` with the columns `cs` behind its own, all `NULL`. -/
structure Extends (t : SqlTable) (cs : List Column) (t' : SqlTable) : Prop where
  columns_eq : t'.columns = t.columns ++ cs
  rows_eq : t'.rows = t.rows.map (· ++ List.replicate cs.length none)

section

variable {t t' : SqlTable} {cs : List Column}

/-- **Columns of other names can be added, and nothing else changes.** -/
theorem exists_addColumns (hnd : (t.names ++ cs.map Column.name).Nodup) :
    ∃ t', t.addColumns cs = .ok t' ∧ t.Extends cs t' := by
  induction cs generalizing t with
  | nil => exact ⟨t, rfl, by simp, by simp⟩
  | cons c cs ih =>
    have hc : c.name ∉ t.names := by
      intro hmem
      have hdis := (List.nodup_append.mp hnd).2.2
      exact hdis c.name hmem c.name (by simp) rfl
    have hadd : t.addColumn c = .ok (t.extend c hc) := dif_neg hc
    have hnext : ((t.extend c hc).names ++ cs.map Column.name).Nodup := by
      simpa [names, extend] using hnd
    obtain ⟨t', hok, hcols, hrows⟩ := ih hnext
    refine ⟨t', ?_, ?_, ?_⟩
    · exact bind_eq_ok_iff.mpr ⟨_, hadd, hok⟩
    · rw [hcols]
      simp [extend]
    · rw [hrows]
      simp [extend, List.replicate_succ]

theorem Extends.names_eq (h : t.Extends cs t') : t'.names = t.names ++ cs.map Column.name := by
  rw [names, h.columns_eq, List.map_append]
  rfl

/-- Every row keeps the values of its old columns. -/
theorem Extends.cell?_old (h : t.Extends cs t') {row : List Cell} (hrow : row ∈ t.rows)
    {name : String} (hname : name ∈ t.names) :
    t'.cell? (row ++ List.replicate cs.length none) name = t.cell? row name := by
  have hlt : t.names.idxOf name < row.length := by
    rw [t.length_row hrow]
    exact List.idxOf_lt_length_iff.mpr hname
  unfold cell?
  rw [h.names_eq, List.idxOf_append_of_mem hname, List.getElem?_append_left hlt]

theorem Extends.cell?_new (h : t.Extends cs t') {row : List Cell} (hrow : row ∈ t.rows)
    {name : String} (hname : name ∈ cs.map Column.name) :
    t'.cell? (row ++ List.replicate cs.length none) name = some none := by
  have hnd : (t.names ++ cs.map Column.name).Nodup := h.names_eq ▸ t'.names_nodup
  have hold : name ∉ t.names := fun hmem => (List.nodup_append.mp hnd).2.2 name hmem name hname rfl
  have hlt : (cs.map Column.name).idxOf name < cs.length := by
    rw [← List.length_map (f := Column.name)]
    exact List.idxOf_lt_length_iff.mpr hname
  unfold cell?
  rw [h.names_eq, List.idxOf_append_of_notMem hold, ← t.length_row hrow,
    List.getElem?_append_right (Nat.le_add_right _ _), Nat.add_sub_cancel_left,
    List.getElem?_replicate, if_pos hlt]

end

end SqlTable

/-! ### Databases -/

/-- The tables of a database, by their names. -/
abbrev SqlDatabase := String → Option SqlTable

namespace SqlDatabase

/-- `ALTER TABLE name ADD COLUMN c`. -/
def alterTable (name : String) (c : Column) (db : SqlDatabase) : Except SqlException SqlDatabase :=
  match db name with
  | none => .error (.noSuchTable name)
  | some t => t.addColumn c >>= fun t => .ok (Function.update db name (some t))

/-- `CREATE TABLE IF NOT EXISTS name`. -/
def createTable (name : String) (t : SqlTable) (db : SqlDatabase) : SqlDatabase :=
  match db name with
  | none => Function.update db name (some t)
  | some _ => db

/-- One `ALTER TABLE` after another. -/
def alterTables (name : String) (db : SqlDatabase) : List Column → Except SqlException SqlDatabase
  | [] => .ok db
  | c :: cs => db.alterTable name c >>= fun db => db.alterTables name cs

theorem alterTables_append (name : String) (db : SqlDatabase) (cs ds : List Column) :
    db.alterTables name (cs ++ ds) =
      db.alterTables name cs >>= fun db => db.alterTables name ds := by
  induction cs generalizing db with
  | nil => rfl
  | cons c cs ih =>
    simp only [List.cons_append, alterTables, bind_assoc]
    congr 1
    funext db
    exact ih db

@[simp] theorem alterTables_singleton (name : String) (db : SqlDatabase) (c : Column) :
    db.alterTables name [c] = db.alterTable name c := bind_pure _

@[simp] theorem alterTables_pair (name : String) (db : SqlDatabase) (c d : Column) :
    db.alterTables name [c, d] = db.alterTable name c >>= alterTable name d := by
  have h : [c, d] = [c] ++ [d] := rfl
  rw [h, alterTables_append]
  simp only [alterTables_singleton]

theorem alterTables_ok {name : String} {db : SqlDatabase} {t t' : SqlTable} {cs : List Column}
    (ht : db name = some t) (h : t.addColumns cs = .ok t') :
    db.alterTables name cs = .ok (Function.update db name (some t')) := by
  induction cs generalizing db t with
  | nil =>
    obtain rfl := Except.ok.inj h
    rw [← ht, Function.update_eq_self]
    rfl
  | cons c cs ih =>
    obtain ⟨u, hu, h⟩ := bind_eq_ok_iff.mp h
    refine bind_eq_ok_iff.mpr ⟨Function.update db name (some u), ?_, ?_⟩
    · unfold alterTable
      rw [ht]
      exact bind_eq_ok_iff.mpr ⟨u, hu, rfl⟩
    · rw [ih (Function.update_self _ _ _) h, Function.update_idem]

end SqlDatabase

end EclairMobile.Lib
