import Mathlib.Algebra.Order.Group.Unbundled.Abs
import Mathlib.Tactic.Linarith
import Mathlib.Tactic.Ring
import EclairMobile.Actors.ElectrumSupervisor

/-!
# The on-chain ledger

What the on-chain rows are for: the database should hold, of every transaction, what the wallet last
said of it.  `Ledger` is that record by itself, a partial function of transaction ids, and `Agrees`
relates it to the rows.  Every operation on the rows refines one on the ledger, so after any history
the balance is a sum over the ledger. -/

namespace EclairMobile

open Lib ElectrumSupervisor

namespace OnchainLedger

/-- What the wallet last said of a transaction, in satoshis and blocks. -/
structure Tally where
  received : ℤ
  sent : ℤ
  depth : ℤ

namespace Tally

def net (t : Tally) : ℤ := t.received - t.sent

/-- The columns of the row of a transaction. -/
def columns (t : Tally) : PaymentDirection × ℤ × ℤ :=
  (directionOf t.received t.sent, toMilliSatoshi (amountOf t.received t.sent), t.depth)

end Tally

abbrev Ledger := String → Option Tally

/-- Everything that touches the on-chain rows. -/
inductive Event
  | wallet (message : Message) (now : Date)
  | cleanUpZeroConfs
  | deleteAllOnchainTxs

/-- The database after an event. -/
def next (db : DBHelper) : Event → DBHelper
  | .wallet message now => (onReceive db message now).1
  | .cleanUpZeroConfs => db.cleanUpZeroConfs
  | .deleteAllOnchainTxs => db.deleteAllOnchainTxs

namespace Ledger

/-- The ledger after an event: the last `TransactionReceived` counts, until a deletion. -/
def next (l : Ledger) : Event → Ledger
  | .wallet (.transactionReceived tx depth received sent _ _) _ =>
    Function.update l tx.txid (some ⟨received, sent, toInt depth⟩)
  | .wallet (.transactionConfidenceChanged txid depth) _ =>
    Function.update l txid ((l txid).map fun t => { t with depth := toInt depth })
  | .wallet _ _ => l
  | .cleanUpZeroConfs => fun txid => (l txid).filter fun t => t.depth ≠ 0
  | .deleteAllOnchainTxs => fun _ => none

def net (l : Ledger) (txid : String) : ℤ := ((l txid).map Tally.net).getD 0

end Ledger

/-- The columns that the ledger determines. -/
def columns (p : Payment) : PaymentDirection × ℤ × ℤ :=
  (p.direction, p.amountPaidMsat, p.confidenceBlocks)

/-- The rows are those of the ledger. -/
def Agrees (db : DBHelper) (l : Ledger) : Prop :=
  ∀ txid, (db.getPayment txid .BTC_ONCHAIN).map columns = (l txid).map Tally.columns

/-! ### One event -/

section Step

variable {db : DBHelper} {l : Ledger}

theorem getPayment_onTransactionReceived (tx : Tx) (depth received sent : ℤ)
    (feeOpt timestamp : Option ℤ) (now : Date) (txid : String) :
    ((onTransactionReceived db tx depth received sent feeOpt timestamp now).getPayment txid
      .BTC_ONCHAIN).map columns =
      if txid = tx.txid then some (Tally.columns ⟨received, sent, toInt depth⟩)
      else (db.getPayment txid .BTC_ONCHAIN).map columns := by
  have hfit := fits_paymentReceived db tx depth received sent feeOpt timestamp now
  obtain ⟨-, ht, hr, hd, ha, hc⟩ := paymentReceived_spec
    (db.getPaymentInDirection tx.txid .BTC_ONCHAIN (directionOf received sent))
    tx depth received sent feeOpt timestamp now
  simp only [onTransactionReceived]
  revert hfit ht hr hd ha hc
  generalize paymentReceived (db.getPaymentInDirection tx.txid .BTC_ONCHAIN
    (directionOf received sent)) tx depth received sent feeOpt timestamp now = p
  intro hfit ht hr hd ha hc
  by_cases he : txid = tx.txid
  · have hself : (db.insertOrUpdatePayment p).getPayment p.reference p.type =
        some (db.payments.stored p) := DBHelper.getPayment_insert_self p
    rw [ht, hr] at hself
    rw [if_pos he, he, hself]
    simp [columns, Tally.columns, hd, ha, hc]
  · have hne : (PaymentType.BTC_ONCHAIN, txid) ≠ (p.type, p.reference) := fun h =>
      he ((Prod.mk.inj h).2.trans hr)
    rw [if_neg he, DBHelper.getPayment_insert hfit, if_neg hne]

theorem getPayment_onTransactionConfidenceChanged (id : String) (depth : ℤ) (txid : String) :
    (onTransactionConfidenceChanged db id depth).getPayment txid .BTC_ONCHAIN =
      if txid = id then
        (db.getPayment id .BTC_ONCHAIN).map fun p => { p with confidenceBlocks := toInt depth }
      else db.getPayment txid .BTC_ONCHAIN := by
  unfold onTransactionConfidenceChanged
  cases hp : db.getPayment id .BTC_ONCHAIN with
  | none =>
    by_cases he : txid = id
    · simp [he, hp]
    · simp [he]
  | some p =>
    have hget := hp
    rw [DBHelper.getPayment_eq] at hget
    have hkey : (p.type, p.reference) = (.BTC_ONCHAIN, id) := Table.key_of_get? hget
    rw [DBHelper.getPayment_eq]
    by_cases he : txid = id
    · rw [if_pos he, he]
      exact Table.get?_update_self hget rfl hkey
    · rw [if_neg he, DBHelper.getPayment_eq]
      exact Table.get?_update_of_ne hget rfl hkey fun h => he (Prod.mk.inj h).2

theorem getPayment_deleteWhere (f : Payment → Bool) (txid : String) :
    (DBHelper.clear { db with payments := db.payments.deleteWhere f }).getPayment txid
        .BTC_ONCHAIN =
      (db.getPayment txid .BTC_ONCHAIN).filter fun p => !f p := by
  rw [DBHelper.getPayment_eq, DBHelper.getPayment_eq]
  exact Table.get?_deleteWhere db.payments f _

/-- **Every event on the rows refines the event on the ledger.** -/
theorem Agrees.next (h : Agrees db l) (e : Event) : Agrees (next db e) (l.next e) := by
  intro txid
  have htx := h txid
  cases e with
  | wallet m now =>
    cases m with
    | transactionReceived tx depth received sent feeOpt timestamp =>
      show ((onTransactionReceived db tx depth received sent feeOpt timestamp now).getPayment txid
        .BTC_ONCHAIN).map columns = _
      rw [getPayment_onTransactionReceived]
      by_cases he : txid = tx.txid
      · simp [Ledger.next, he]
      · simp [Ledger.next, he, htx]
    | transactionConfidenceChanged id depth =>
      show ((onTransactionConfidenceChanged db id depth).getPayment txid .BTC_ONCHAIN).map
        columns = _
      rw [getPayment_onTransactionConfidenceChanged]
      by_cases he : txid = id
      · subst he
        cases hp : db.getPayment txid .BTC_ONCHAIN with
        | none =>
          have hl : l txid = none := by simpa [hp] using htx.symm
          simp [Ledger.next, hl]
        | some p =>
          obtain ⟨t, hl, ht⟩ : ∃ t, l txid = some t ∧ t.columns = columns p := by
            simpa [hp, eq_comm] using htx
          simp only [Tally.columns, columns, Prod.mk.injEq] at ht
          simp [Ledger.next, hl, columns, Tally.columns, ht.1, ht.2.1]
      · simp [Ledger.next, he, htx]
    | walletReady | newWalletReceiveAddress | electrumDisconnected | electrumReady => exact htx
  | cleanUpZeroConfs =>
    show ((DBHelper.cleanUpZeroConfs db).getPayment txid .BTC_ONCHAIN).map columns = _
    unfold DBHelper.cleanUpZeroConfs
    rw [getPayment_deleteWhere]
    cases hp : db.getPayment txid .BTC_ONCHAIN with
    | none =>
      have hl : l txid = none := by simpa [hp] using htx.symm
      simp [Ledger.next, hl]
    | some p =>
      have hpt := (DBHelper.key_of_getPayment hp).1
      obtain ⟨t, hl, ht⟩ : ∃ t, l txid = some t ∧ t.columns = columns p := by
        simpa [hp, eq_comm] using htx
      have hdepth : t.depth = p.confidenceBlocks := congrArg (fun c => c.2.2) ht
      by_cases hz : p.confidenceBlocks = 0
      · simp [Ledger.next, hl, Option.filter, hdepth, hz, hpt]
      · simp [Ledger.next, hl, Option.filter, hdepth, hz, ht]
  | deleteAllOnchainTxs =>
    show ((DBHelper.deleteAllOnchainTxs db).getPayment txid .BTC_ONCHAIN).map columns = _
    unfold DBHelper.deleteAllOnchainTxs
    rw [getPayment_deleteWhere]
    cases hp : db.getPayment txid .BTC_ONCHAIN with
    | none => rfl
    | some p =>
      have hpt := (DBHelper.key_of_getPayment hp).1
      simp [Ledger.next, Option.filter, hpt]

theorem lightning_deleteWhere {f : Payment → Bool}
    (hf : ∀ p : Payment, p.type = .BTC_LN → f p = false) :
    (db.payments.deleteWhere f).rows.filter (fun p => p.type = .BTC_LN) =
      db.payments.rows.filter (fun p => p.type = .BTC_LN) := by
  simp only [Table.deleteWhere, List.filter_filter]
  refine List.filter_congr fun p _ => ?_
  by_cases hp : p.type = .BTC_LN
  · simp [hp, hf p hp]
  · simp [hp]

theorem lightning_next (e : Event) :
    (next db e).payments.rows.filter (fun p => p.type = .BTC_LN) =
      db.payments.rows.filter (fun p => p.type = .BTC_LN) := by
  cases e with
  | wallet m now => exact lightning_onReceive m now
  | cleanUpZeroConfs => exact lightning_deleteWhere fun p hp => by simp [hp]
  | deleteAllOnchainTxs => exact lightning_deleteWhere fun p hp => by simp [hp]

end Step

/-! ### Whole histories -/

/-- The database and the ledger after a history. -/
def dbAfter (db : DBHelper) (history : List Event) : DBHelper := history.foldl next db
def Ledger.after (l : Ledger) (history : List Event) : Ledger := history.foldl Ledger.next l

theorem Agrees.after {db : DBHelper} {l : Ledger} (h : Agrees db l) (history : List Event) :
    Agrees (dbAfter db history) (l.after history) := by
  induction history generalizing db l with
  | nil => exact h
  | cons e es ih => exact ih (h.next e)

theorem lightning_after (db : DBHelper) (history : List Event) :
    (dbAfter db history).payments.rows.filter (fun p => p.type = .BTC_LN) =
      db.payments.rows.filter (fun p => p.type = .BTC_LN) := by
  induction history generalizing db with
  | nil => rfl
  | cons e es ih => exact (ih (next db e)).trans (lightning_next e)

/-! ### The balance -/

/-- The on-chain rows. -/
def onchainRows (db : DBHelper) : List Payment :=
  db.payments.rows.filter fun p => p.type = .BTC_ONCHAIN

section Rows

variable {db : DBHelper} {l : Ledger}

theorem Agrees.row (h : Agrees db l) {p : Payment} (hp : p ∈ onchainRows db) :
    ∃ t, l p.reference = some t ∧ columns p = t.columns := by
  obtain ⟨hmem, ht⟩ := List.mem_filter.mp hp
  have hget : db.getPayment p.reference .BTC_ONCHAIN = some p :=
    DBHelper.getPayment_eq_some_iff.mpr ⟨hmem, by simpa using ht, rfl⟩
  have := h p.reference
  rw [hget] at this
  simpa [eq_comm] using this

theorem Agrees.tally (h : Agrees db l) {txid : String} {t : Tally} (ht : l txid = some t) :
    ∃ p ∈ onchainRows db, p.reference = txid := by
  have := h txid
  rw [ht] at this
  obtain ⟨p, hp, -⟩ : ∃ p, db.getPayment txid .BTC_ONCHAIN = some p ∧ columns p = t.columns := by
    simpa using this
  obtain ⟨hmem, hpt, hpr⟩ := DBHelper.getPayment_eq_some_iff.mp hp
  exact ⟨p, List.mem_filter.mpr ⟨hmem, by simpa using hpt⟩, hpr⟩

theorem amountOf_eq (received sent : ℤ) : amountOf received sent = |received - sent| := by
  unfold amountOf
  split
  · next h => rw [abs_of_nonneg (by omega)]
  · next h => rw [abs_of_neg (by omega)]; omega

theorem onchainRows_unique (db : DBHelper) (txid : String) :
    ((onchainRows db).filter fun p => p.reference = txid).length ≤ 1 := by
  have hrows : ((onchainRows db).filter fun p => p.reference = txid) =
      db.payments.rows.filter fun p => Entity.key p = (PaymentType.BTC_ONCHAIN, txid) := by
    simp only [onchainRows, List.filter_filter]
    refine List.filter_congr fun p _ => ?_
    simp [Bool.and_comm]
  rw [hrows]
  exact db.payments.length_filter_key_le _

/-- Received rows minus sent rows, as one sum over the ledger. -/
theorem sum_rows {f : String → ℤ} (rows : List Payment)
    (h : ∀ p ∈ rows, p.type = .BTC_ONCHAIN →
      (p.direction = .RECEIVED ∧ p.amountPaidMsat = 1000 * f p.reference) ∨
        (p.direction = .SENT ∧ p.amountPaidMsat = - (1000 * f p.reference))) :
    ((rows.filter fun p => p.type = .BTC_ONCHAIN ∧ p.direction = .RECEIVED).map
        Payment.amountPaidMsat).sum -
      ((rows.filter fun p => p.type = .BTC_ONCHAIN ∧ p.direction = .SENT).map
        Payment.amountPaidMsat).sum =
    1000 * ((rows.filter fun p => p.type = .BTC_ONCHAIN).map fun p => f p.reference).sum := by
  induction rows with
  | nil => rfl
  | cons p ps ih =>
    have ihs := ih fun q hq => h q (List.mem_cons_of_mem _ hq)
    by_cases ht : p.type = .BTC_ONCHAIN
    · rcases h p List.mem_cons_self ht with ⟨hd, ha⟩ | ⟨hd, ha⟩
      · simp only [List.filter_cons, ht, hd, ha, List.map_cons, List.sum_cons, decide_true,
          decide_false, true_and, if_true, reduceCtorEq, and_false, Bool.false_eq_true, if_false]
        linarith
      · simp only [List.filter_cons, ht, hd, ha, List.map_cons, List.sum_cons, decide_true,
          decide_false, true_and, if_true, reduceCtorEq, and_false, Bool.false_eq_true, if_false]
        linarith
    · simp only [List.filter_cons, ht, false_and, decide_false, Bool.false_eq_true, if_false]
      exact ihs

theorem Agrees.balance (h : Agrees db l) :
    db.getOnchainBalanceMsat =
      max 0 (1000 * ((onchainRows db).map fun p => l.net p.reference).sum) := by
  unfold DBHelper.getOnchainBalanceMsat DBHelper.rawQueryOnchain
  rw [sum_rows (f := l.net) db.payments.rows, max_comm]
  · rfl
  · intro p hp ht
    obtain ⟨t, hl, hc⟩ := h.row (List.mem_filter.mpr ⟨hp, by simpa using ht⟩)
    simp only [columns, Tally.columns, Prod.mk.injEq] at hc
    have hnet : l.net p.reference = t.received - t.sent := by simp [Ledger.net, hl, Tally.net]
    rw [hc.1, hc.2.1, hnet]
    unfold directionOf toMilliSatoshi amountOf
    by_cases hge : t.received ≥ t.sent
    · simp only [if_pos hge]
      exact Or.inl ⟨trivial, by ring⟩
    · simp only [if_neg hge]
      exact Or.inr ⟨trivial, by ring⟩

end Rows

/-- **The on-chain rows after any history are the last tallies of the wallet**: one row for each
transaction, with the direction and the amount of the last message that was not deleted, and a
balance that is their sum; the Lightning rows are untouched. -/
theorem onchain_after {db : DBHelper} {l : Ledger} (h : Agrees db l) (history : List Event) :
    let db' := dbAfter db history
    let l' := l.after history
    (∀ txid, ((onchainRows db').filter fun p => p.reference = txid).length ≤ 1) ∧
    (∀ p ∈ onchainRows db', ∃ t, l' p.reference = some t ∧
      p.direction = (if t.received - t.sent ≥ 0 then .RECEIVED else .SENT) ∧
      p.amountPaidMsat = 1000 * |t.received - t.sent|) ∧
    (∀ txid t, l' txid = some t → ∃ p ∈ onchainRows db', p.reference = txid) ∧
    db'.payments.rows.filter (fun p => p.type = .BTC_LN) =
      db.payments.rows.filter (fun p => p.type = .BTC_LN) ∧
    db'.getOnchainBalanceMsat =
      max 0 (1000 * ((onchainRows db').map fun p => l'.net p.reference).sum) := by
  have hafter := h.after history
  refine ⟨onchainRows_unique _, ?_, fun txid t ht => hafter.tally ht, lightning_after db history,
    hafter.balance⟩
  intro p hp
  obtain ⟨t, hl, hc⟩ := hafter.row hp
  simp only [columns, Tally.columns, Prod.mk.injEq] at hc
  refine ⟨t, hl, ?_, ?_⟩
  · rw [hc.1]
    unfold directionOf
    by_cases hge : t.received ≥ t.sent
    · rw [if_pos hge, if_pos (by omega)]
    · rw [if_neg hge, if_neg (by omega)]
  · rw [hc.2.1, toMilliSatoshi, amountOf_eq]
    ring

/-- A transaction that is first reported as sent and then as received. -/
def flips : List Event :=
  [.wallet (.transactionReceived ⟨"t", "00"⟩ 0 2 5 (some 1) none) 7,
    .wallet (.transactionReceived ⟨"t", "00"⟩ 1 9 2 none none) 8]

theorem tally_of_flips {txid : String} {t : Tally}
    (h : Ledger.after (fun _ => none) flips txid = some t) : t.received - t.sent = 7 := by
  simp only [Ledger.after, flips, List.foldl_cons, List.foldl_nil, Ledger.next,
    Function.update_apply] at h
  split_ifs at h
  obtain rfl := Option.some.inj h
  rfl

theorem onchain_after_flip :
    (∀ txid, ((onchainRows (dbAfter .empty flips)).filter
      fun p => p.reference = txid).length ≤ 1) ∧
    (∀ p ∈ onchainRows (dbAfter .empty flips),
      p.direction = .RECEIVED ∧ p.amountPaidMsat = 7000) ∧
    (∃ p ∈ onchainRows (dbAfter .empty flips), p.reference = "t") ∧
    (dbAfter .empty flips).payments.rows.filter (fun p => p.type = .BTC_LN) = [] ∧
    (dbAfter .empty flips).getOnchainBalanceMsat = 7000 := by
  have hempty : Agrees .empty fun _ => none := fun _ => rfl
  obtain ⟨hunique, hrows, hkept, hlightning, hbalance⟩ := onchain_after hempty flips
  refine ⟨hunique, ?_, hkept "t" ⟨9, 2, 1⟩ rfl, hlightning, hbalance.trans (by decide)⟩
  intro p hp
  obtain ⟨t, ht, hdirection, hamount⟩ := hrows p hp
  rw [tally_of_flips ht] at hdirection hamount
  exact ⟨hdirection, hamount⟩

end OnchainLedger

end EclairMobile
