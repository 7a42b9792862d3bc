import EclairMobile.Models.Daos

/-!
# The migration of the database

`onUpgrade` applies the patches that are missing, in their order.  From every old version it runs to
its end, the tables get the columns of the current entities, and every row keeps its values.  The
column `DIRECTION` of the third version is `NULL` in the rows of the versions before, and a payment
without a direction cannot be read.
-/

namespace EclairMobile

namespace DBMigrationHelper

open Lib

/-! ### The patches -/

/-- The statements of a patch, if it is required. -/
def patch (required : Prop) [Decidable required]
    (execSQL : SqlDatabase → Except SqlException SqlDatabase) (db : SqlDatabase) :
    Except SqlException SqlDatabase := if required then execSQL db else .ok db

/-- `ALTER TABLE PAYMENT ADD COLUMN`. -/
def addPaymentColumn (p : PaymentDao.Properties) (type : SqlType) :
    SqlDatabase → Except SqlException SqlDatabase :=
  SqlDatabase.alterTable PaymentDao.TABLENAME ⟨p.columnName, type⟩

/-- The last two patches.  The second is for version 7 only: before it, the table is created with
the column. -/
def upgradeLocalChannel (db : SqlDatabase) (oldVersion : ℤ) : Except SqlException SqlDatabase := do
  let db ← patch (oldVersion < 7) (fun db => .ok (LocalChannelDao.createTable db)) db
  patch (6 < oldVersion ∧ oldVersion < 8)
    (SqlDatabase.alterTable LocalChannelDao.TABLENAME
      ⟨LocalChannelDao.Properties.RefundAtBlock.columnName, .INTEGER⟩) db

def onUpgrade (db : SqlDatabase) (oldVersion _newVersion : ℤ) :
    Except SqlException SqlDatabase := do
  -- order of patches matters!
  let db ← patch (oldVersion < 3) (addPaymentColumn .Direction .TEXT) db
  let db ← patch (oldVersion < 4)
    (fun db => addPaymentColumn .Preimage .TEXT db >>= addPaymentColumn .Recipient .TEXT) db
  let db ← patch (oldVersion < 5) (addPaymentColumn .AmountSentMsat .INTEGER) db
  let db ← patch (oldVersion < 6)
    (fun db => addPaymentColumn .LocalChannelId .TEXT db >>=
      addPaymentColumn .SerializedRoute .TEXT) db
  upgradeLocalChannel db oldVersion

/-! ### The tables of a version -/

/-- The columns of `PAYMENT` that are younger than a version, by the version that added them. -/
def addedSince (v : ℤ) : List PaymentDao.Properties :=
  (if v < 3 then [.Direction] else []) ++
    ((if v < 4 then [.Preimage, .Recipient] else []) ++
      ((if v < 5 then [.AmountSentMsat] else []) ++
        (if v < 6 then [.LocalChannelId, .SerializedRoute] else [])))

/-- The columns of `PAYMENT` in a version. -/
def paymentColumns (v : ℤ) : List Column :=
  (PaymentDao.Properties.all.filter (· ∉ addedSince v)).map PaymentDao.Properties.column

/-- The columns of `LOCAL_CHANNEL` in version 7. -/
def localChannelColumns : List Column :=
  (LocalChannelDao.Properties.all.filter (· ≠ .RefundAtBlock)).map LocalChannelDao.Properties.column

/-- A database of a version from 1 to 7, whatever its tables contain. -/
structure OfVersion (v : ℤ) (db : SqlDatabase) : Prop where
  payment : ∃ t ∈ db PaymentDao.TABLENAME, t.columns.Perm (paymentColumns v)
  localChannel_none : v < 7 → db LocalChannelDao.TABLENAME = none
  localChannel_some :
    7 ≤ v → ∃ t ∈ db LocalChannelDao.TABLENAME, t.columns.Perm localChannelColumns

/-- The row can be read in a version, by every property that the version has. -/
def LoadableAt (v : ℤ) (t : SqlTable) (row : List Cell) : Prop :=
  ∀ p : PaymentDao.Properties, p ∉ addedSince v →
    ∀ cell ∈ t.cell? row p.columnName, p.Readable cell

/-! ### What a migration preserves -/

/-- Each row is kept, with the values of all its old columns. -/
def Keeps (t t' : SqlTable) : Prop :=
  List.Forall₂ (fun row row' => ∀ name ∈ t.names, t'.cell? row' name = t.cell? row name)
    t.rows t'.rows

structure Preserves (v : ℤ) (db db' : SqlDatabase) : Prop where
  payment : ∀ t ∈ db PaymentDao.TABLENAME, ∃ t' ∈ db' PaymentDao.TABLENAME,
    t'.columns.Perm PaymentDao.columns ∧ Keeps t t' ∧
      List.Forall₂
        (fun row row' => LoadableAt v t row → ∃ payment, PaymentDao.load t' row' = .ok payment)
        t.rows t'.rows
  localChannel : ∃ t' ∈ db' LocalChannelDao.TABLENAME,
    t'.columns.Perm LocalChannelDao.columns ∧ ∀ t ∈ db LocalChannelDao.TABLENAME, Keeps t t'

theorem keeps_of_extends {t t' : SqlTable} {cs : List Column} (h : t.Extends cs t') :
    Keeps t t' := by
  unfold Keeps
  rw [h.rows_eq, List.forall₂_map_right_iff, List.forall₂_same]
  exact fun row hrow name hname => h.cell?_old hrow hname

/-! ### Payments -/

theorem addedSince_nodup (v : ℤ) : (addedSince v).Nodup := by
  unfold addedSince
  split_ifs <;> decide

theorem perm_all (v : ℤ) :
    (PaymentDao.Properties.all.filter (· ∉ addedSince v) ++ addedSince v).Perm
      PaymentDao.Properties.all := by
  have hall : PaymentDao.Properties.all.Nodup := by decide
  rw [List.perm_ext_iff_of_nodup _ hall]
  · intro p
    simp only [List.mem_append, List.mem_filter, PaymentDao.Properties.mem_all, true_and,
      decide_eq_true_eq, iff_true]
    exact (em _).symm
  · refine (hall.filter _).append (addedSince_nodup v) ?_
    intro p hp hadded
    exact absurd hadded (by simpa using (List.mem_filter.mp hp).2)

theorem perm_columns {v : ℤ} {columns : List Column} (h : columns.Perm (paymentColumns v)) :
    (columns ++ (addedSince v).map PaymentDao.Properties.column).Perm PaymentDao.columns := by
  have hall := (perm_all v).map PaymentDao.Properties.column
  rw [List.map_append] at hall
  exact (h.append_right _).trans hall

theorem exists_extends {v : ℤ} {t : SqlTable} (h : t.columns.Perm (paymentColumns v)) :
    ∃ t', t.addColumns ((addedSince v).map PaymentDao.Properties.column) = .ok t' ∧
      t.Extends ((addedSince v).map PaymentDao.Properties.column) t' := by
  apply SqlTable.exists_addColumns
  have hnames := (perm_columns h).map Column.name
  rw [List.map_append] at hnames
  exact hnames.nodup_iff.mpr (by decide)

section

variable {v : ℤ} {t t' : SqlTable}

theorem mem_names (h : t.columns.Perm (paymentColumns v)) {p : PaymentDao.Properties}
    (hp : p ∉ addedSince v) : p.columnName ∈ t.names := by
  have hmem : p.column ∈ paymentColumns v :=
    List.mem_map_of_mem (List.mem_filter.mpr ⟨PaymentDao.Properties.mem_all p, by simpa using hp⟩)
  exact List.mem_map_of_mem (h.mem_iff.mpr hmem)

theorem cell?_isSome (h : t.columns.Perm (paymentColumns v)) {p : PaymentDao.Properties}
    (hp : p ∉ addedSince v) {row : List Cell} (hrow : row ∈ t.rows) :
    ∃ cell, t.cell? row p.columnName = some cell := by
  have hlt : t.names.idxOf p.columnName < row.length := by
    rw [t.length_row hrow]
    exact List.idxOf_lt_length_iff.mpr (mem_names h hp)
  exact ⟨_, List.getElem?_eq_getElem hlt⟩

/-- `TYPE` was always there, and `DIRECTION` came with version 3. -/
theorem readable_added_iff :
    (∀ p ∈ addedSince v, PaymentDao.Properties.Readable p none) ↔ 3 ≤ v := by
  constructor
  · intro h
    by_contra hv
    have hmem : PaymentDao.Properties.Direction ∈ addedSince v := by
      simp [addedSince, not_le.mp hv]
    exact ((PaymentDao.readable_null_iff _).mp (h _ hmem)).2 rfl
  · intro hv p hp
    rw [PaymentDao.readable_null_iff]
    unfold addedSince at hp
    rw [if_neg (not_lt.mpr hv)] at hp
    constructor
    · rintro rfl
      revert hp
      split_ifs <;> decide
    · rintro rfl
      revert hp
      split_ifs <;> decide

/-- **A migrated row can be read if it could be read before and had a direction.** -/
theorem load_ok_iff (h : t.columns.Perm (paymentColumns v))
    (hext : t.Extends ((addedSince v).map PaymentDao.Properties.column) t') {row : List Cell}
    (hrow : row ∈ t.rows) :
    (∃ payment, PaymentDao.load t' (row ++ List.replicate
      ((addedSince v).map PaymentDao.Properties.column).length none) = .ok payment) ↔
      LoadableAt v t row ∧ 3 ≤ v := by
  have hnew : ∀ p ∈ addedSince v, t'.cell? (row ++ List.replicate
      ((addedSince v).map PaymentDao.Properties.column).length none) p.columnName = some none := by
    intro p hp
    apply hext.cell?_new hrow
    rw [List.map_map]
    exact List.mem_map_of_mem hp
  have hold : ∀ p ∉ addedSince v, t'.cell? (row ++ List.replicate
      ((addedSince v).map PaymentDao.Properties.column).length none) p.columnName =
        t.cell? row p.columnName := fun p hp => hext.cell?_old hrow (mem_names h hp)
  rw [PaymentDao.load_ok_iff
    fun p => if p ∈ addedSince v then none else (t.cell? row p.columnName).join]
  · rw [← readable_added_iff]
    constructor
    · intro hread
      refine ⟨fun p hp cell hcell => ?_, fun p hp => ?_⟩
      · have := hread p
        rwa [if_neg hp, hcell] at this
      · have := hread p
        rwa [if_pos hp] at this
    · rintro ⟨hread, hadded⟩ p
      split_ifs with hp
      · exact hadded p hp
      · obtain ⟨cell, hcell⟩ := cell?_isSome h hp hrow
        rw [hcell]
        exact hread p hp cell hcell
  · intro p
    split_ifs with hp
    · exact hnew p hp
    · obtain ⟨cell, hcell⟩ := cell?_isSome h hp hrow
      rw [hold p hp, hcell]
      rfl

end

/-! ### The whole upgrade -/

/-- The patches of `PAYMENT` are one list of columns. -/
theorem onUpgrade_eq (db : SqlDatabase) (v w : ℤ) : onUpgrade db v w =
    db.alterTables PaymentDao.TABLENAME ((addedSince v).map PaymentDao.Properties.column) >>=
      fun db => upgradeLocalChannel db v := by
  have hite : ∀ (c : Prop) [Decidable c] (ps : List PaymentDao.Properties) (db : SqlDatabase),
      db.alterTables PaymentDao.TABLENAME
        ((if c then ps else []).map PaymentDao.Properties.column) =
          if c then db.alterTables PaymentDao.TABLENAME (ps.map PaymentDao.Properties.column)
          else .ok db := by
    intro c _ ps db
    split_ifs <;> rfl
  simp only [addedSince, List.map_append, SqlDatabase.alterTables_append, hite, List.map_cons,
    List.map_nil, SqlDatabase.alterTables_singleton, SqlDatabase.alterTables_pair, bind_assoc]
  rfl

/-- The last two patches give `LOCAL_CHANNEL` its columns and leave the other tables alone. -/
theorem upgradeLocalChannel_ok {v : ℤ} {db : SqlDatabase} (h7 : v ≤ 7)
    (hnone : v < 7 → db LocalChannelDao.TABLENAME = none)
    (hsome : 7 ≤ v → ∃ t ∈ db LocalChannelDao.TABLENAME, t.columns.Perm localChannelColumns) :
    ∃ t', t'.columns.Perm LocalChannelDao.columns ∧
      (∀ t ∈ db LocalChannelDao.TABLENAME, Keeps t t') ∧
        upgradeLocalChannel db v =
          .ok (Function.update db LocalChannelDao.TABLENAME (some t')) := by
  unfold upgradeLocalChannel
  by_cases hv : v < 7
  · refine ⟨SqlTable.create LocalChannelDao.columns LocalChannelDao.names_nodup, List.Perm.refl _,
      ?_, ?_⟩
    · rw [hnone hv]
      rintro t ⟨⟩
    · have hpatch : ¬(6 < v ∧ v < 8) := by omega
      refine bind_eq_ok_iff.mpr ⟨_, if_pos hv, ?_⟩
      refine (if_neg hpatch).trans ?_
      simp only [LocalChannelDao.createTable, SqlDatabase.createTable, hnone hv]
  · obtain ⟨t, ht, hperm⟩ := hsome (not_lt.mp hv)
    have hcols : (t.columns ++ [LocalChannelDao.Properties.RefundAtBlock.column]).Perm
        LocalChannelDao.columns := (hperm.append_right _).trans (by decide)
    have hnames := hcols.map Column.name
    rw [List.map_append] at hnames
    have hnodup : (t.names ++
        [LocalChannelDao.Properties.RefundAtBlock.column].map Column.name).Nodup :=
      hnames.nodup_iff.mpr LocalChannelDao.names_nodup
    obtain ⟨t', hok, hext⟩ := SqlTable.exists_addColumns hnodup
    refine ⟨t', hext.columns_eq ▸ hcols, ?_, ?_⟩
    · rintro u hu
      obtain rfl : t = u := Option.some.inj (ht.symm.trans hu)
      exact keeps_of_extends hext
    · have hpatch : 6 < v ∧ v < 8 := by omega
      have halter := SqlDatabase.alterTables_ok ht hok
      rw [SqlDatabase.alterTables_singleton] at halter
      exact bind_eq_ok_iff.mpr ⟨_, if_neg hv, (if_pos hpatch).trans halter⟩

/-- The upgrade runs to its end, and what it leaves of the payments is known row by row. -/
theorem onUpgrade_ok {v w : ℤ} {db : SqlDatabase} (h7 : v ≤ 7) (hdb : OfVersion v db)
    {t : SqlTable} (ht : t ∈ db PaymentDao.TABLENAME) :
    ∃ db' t', onUpgrade db v w = .ok db' ∧ t' ∈ db' PaymentDao.TABLENAME ∧
      t.columns.Perm (paymentColumns v) ∧
        t.Extends ((addedSince v).map PaymentDao.Properties.column) t' ∧
          ∃ l' ∈ db' LocalChannelDao.TABLENAME, l'.columns.Perm LocalChannelDao.columns ∧
            ∀ l ∈ db LocalChannelDao.TABLENAME, Keeps l l' := by
  have hname : LocalChannelDao.TABLENAME ≠ PaymentDao.TABLENAME := by decide
  obtain ⟨u, hu, hperm⟩ := hdb.payment
  obtain rfl : t = u := Option.some.inj ((Eq.symm ht).trans hu)
  obtain ⟨t', hok, hext⟩ := exists_extends hperm
  have hother : Function.update db PaymentDao.TABLENAME (some t') LocalChannelDao.TABLENAME =
      db LocalChannelDao.TABLENAME := Function.update_of_ne hname _ _
  have hnone : v < 7 → Function.update db PaymentDao.TABLENAME (some t')
      LocalChannelDao.TABLENAME = none := fun hv => hother.trans (hdb.localChannel_none hv)
  have hsome : 7 ≤ v → ∃ l ∈ Function.update db PaymentDao.TABLENAME (some t')
      LocalChannelDao.TABLENAME, l.columns.Perm localChannelColumns := by
    intro hv
    rw [hother]
    exact hdb.localChannel_some hv
  obtain ⟨l', hcols, hkeeps, hlocal⟩ := upgradeLocalChannel_ok h7 hnone hsome
  rw [hother] at hkeeps
  refine ⟨Function.update (Function.update db PaymentDao.TABLENAME (some t'))
    LocalChannelDao.TABLENAME (some l'), t', ?_, ?_, hperm, hext, l', ?_, hcols, hkeeps⟩
  · rw [onUpgrade_eq]
    exact bind_eq_ok_iff.mpr ⟨_, SqlDatabase.alterTables_ok ht hok, hlocal⟩
  · rw [Function.update_of_ne hname.symm, Function.update_self]
    rfl
  · rw [Function.update_self]
    rfl

section

variable {v : ℤ} {db : SqlDatabase} {t : SqlTable}

/-- The upgrade preserves a database if no payment that could be read is older than version 3. -/
theorem preserves_iff_forall (h7 : v ≤ 7) (hdb : OfVersion v db)
    (ht : t ∈ db PaymentDao.TABLENAME) :
    (∃ db', onUpgrade db v 8 = .ok db' ∧ Preserves v db db') ↔
      ∀ row ∈ t.rows, LoadableAt v t row → 3 ≤ v := by
  obtain ⟨db', t', hok, ht', hperm, hext, hlocal⟩ := onUpgrade_ok (w := 8) h7 hdb ht
  constructor
  · rintro ⟨db'', hok', hpres⟩ row hrow hload
    obtain rfl := Except.ok.inj (hok.symm.trans hok')
    obtain ⟨u, hu, -, -, hreads⟩ := hpres.payment t ht
    obtain rfl : t' = u := Option.some.inj ((Eq.symm ht').trans hu)
    rw [hext.rows_eq, List.forall₂_map_right_iff, List.forall₂_same] at hreads
    exact ((load_ok_iff hperm hext hrow).mp (hreads row hrow hload)).2
  · intro h
    refine ⟨db', hok, ?_, hlocal⟩
    rintro u hu
    obtain rfl : t = u := Option.some.inj ((Eq.symm ht).trans hu)
    refine ⟨t', ht', hext.columns_eq ▸ perm_columns hperm, keeps_of_extends hext, ?_⟩
    rw [hext.rows_eq, List.forall₂_map_right_iff, List.forall₂_same]
    exact fun row hrow hload => (load_ok_iff hperm hext hrow).mpr ⟨hload, h row hrow hload⟩

/-- **The upgrade to version 8 preserves a database of any old version if and only if that is
version 3 or later, or no payment in it could be read.** -/
theorem onUpgrade_preserves_iff (h7 : v ≤ 7) (hdb : OfVersion v db)
    (ht : t ∈ db PaymentDao.TABLENAME) :
    (∃ db', onUpgrade db v 8 = .ok db' ∧ Preserves v db db') ↔
      3 ≤ v ∨ ∀ row ∈ t.rows, ¬LoadableAt v t row := by
  rw [preserves_iff_forall h7 hdb ht]
  constructor
  · intro h
    by_cases hv : 3 ≤ v
    · exact Or.inl hv
    · exact Or.inr fun row hrow hload => hv (h row hrow hload)
  · rintro (hv | hnone) row hrow hload
    · exact hv
    · exact absurd hload (hnone row hrow)

end

/-! ### Two old databases -/

/-- A database with payments only. -/
def withPayments (t : SqlTable) : SqlDatabase :=
  Function.update (fun _ => none) PaymentDao.TABLENAME (some t)

theorem ofVersion_withPayments {v : ℤ} {t : SqlTable} (hv : v < 7)
    (h : t.columns.Perm (paymentColumns v)) : OfVersion v (withPayments t) where
  payment := ⟨t, Function.update_self _ _ _, h⟩
  localChannel_none _ := Function.update_of_ne (by decide) _ _
  localChannel_some h7 := absurd hv (not_lt.mpr h7)

/-- A payment of version 2, which has no direction. -/
def payments2 : SqlTable where
  columns := paymentColumns 2
  rows :=
    [[some (.integer 1), some (.text "BTC_LN"), some (.text "9f86d081"), none, none,
      some (.integer 0), some (.integer 0), none, some (.text "PAID"),
      some (.integer 1548000000000), none, none, some (.integer 1000), some (.integer 1000),
      some (.integer 0)]]
  names_nodup := by decide
  fits := by decide

/-- The same payment in version 3. -/
def payments3 : SqlTable where
  columns := paymentColumns 3
  rows :=
    [[some (.integer 1), some (.text "BTC_LN"), some (.text "SENT"), some (.text "9f86d081"), none,
      none, some (.integer 0), some (.integer 0), none, some (.text "PAID"),
      some (.integer 1548000000000), none, none, some (.integer 1000), some (.integer 1000),
      some (.integer 0)]]
  names_nodup := by decide
  fits := by decide

theorem onUpgrade_preserves_payments3 :
    ∃ db', onUpgrade (withPayments payments3) 3 8 = .ok db' ∧
      Preserves 3 (withPayments payments3) db' :=
  (onUpgrade_preserves_iff (by decide) (ofVersion_withPayments (by decide) (List.Perm.refl _))
    (Function.update_self _ _ _)).mpr (Or.inl le_rfl)

theorem loadableAt_payments2 : ∀ row ∈ payments2.rows, LoadableAt 2 payments2 row := by
  intro row hrow p hp cell hcell
  obtain rfl := List.mem_singleton.mp hrow
  cases p <;>
    first
    | trivial
    | exact absurd (by decide) hp
    | exact (Option.some.inj hcell) ▸ ⟨_, rfl⟩

/-- A payment of version 2 is lost to the application: its direction is `NULL`. -/
theorem not_onUpgrade_preserves : OfVersion 2 (withPayments payments2) ∧
    ¬∃ db', onUpgrade (withPayments payments2) 2 8 = .ok db' ∧
      Preserves 2 (withPayments payments2) db' := by
  have hdb : OfVersion 2 (withPayments payments2) :=
    ofVersion_withPayments (by decide) (List.Perm.refl _)
  refine ⟨hdb, ?_⟩
  rw [preserves_iff_forall (by decide) hdb (Function.update_self _ _ _)]
  intro h
  exact absurd (h _ List.mem_cons_self (loadableAt_payments2 _ List.mem_cons_self)) (by decide)

end DBMigrationHelper

end EclairMobile
