import InfinityRadius.Core.Notes
import InfinityRadius.Core.UniqueIndexes
import InfinityRadius.Services.Wallet

/-!
# Transactions on a wallet

Transactions that each run one operation of `services/wallet.py`, beside others.  A wallet is read
before its row is locked, and the session keeps the object of that first read: the first bucket an
operation moves goes by the balance it had then.
-/

namespace InfinityRadius.Services.ConcurrentWallets

open Amounts Database Interleaving Models Payload Program Sql

/-! ## Balances -/

/-- The balances of a wallet. -/
abbrev Holdings := WalletBucket → Numeric

/-- The wallets, by tenant; a tenant without one holds nothing. -/
abbrev Wallets := ℕ → Holdings

def holdingsOf : Option TenantWallet → Holdings
  | some wallet => balance wallet
  | none => fun _ => 0

def holdings (tables : Tables Row) : Wallets := fun tenantId =>
  holdingsOf ((tables .tenantWallets).find? fun wallet => wallet.tenantId == tenantId)

/-- The buckets an operation moves, one after the other. -/
structure Moves where
  first : WalletBucket
  delta : Decimal
  second : Option (WalletBucket × Decimal) := none

/-- What the column holds after a move. -/
def movedTo (value : Numeric) (delta : Decimal) : Numeric :=
  toNumeric (context (ofNumeric value + delta))

theorem movedTo_nonneg {value : Numeric} {delta : Decimal}
    (h : 0 ≤ context (ofNumeric value + delta)) : 0 ≤ movedTo value delta :=
  roundHalfUp_nonneg (by linarith)

namespace Moves

/-- The second bucket moves by what is stored, the first one by what was read. -/
def land (moves : Moves) (seen before : Holdings) : Holdings :=
  let middle := Function.update before moves.first (movedTo (seen moves.first) moves.delta)
  match moves.second with
  | none => middle
  | some (bucket, delta) => Function.update middle bucket (movedTo (middle bucket) delta)

/-- The first bucket is not taken below zero, nor anything out of the second one. -/
structure Sound (moves : Moves) (seen : Holdings) : Prop where
  first : 0 ≤ movedTo (seen moves.first) moves.delta
  second : ∀ other ∈ moves.second, 0 ≤ other.2

theorem Sound.nonneg {moves : Moves} {seen before : Holdings} (h : moves.Sound seen)
    (hbefore : ∀ bucket, 0 ≤ before bucket) (bucket : WalletBucket) :
    0 ≤ moves.land seen before bucket := by
  have hmiddle : ∀ bucket, 0 ≤ Function.update before moves.first
      (movedTo (seen moves.first) moves.delta) bucket := by
    intro bucket
    rw [Function.update_apply]
    split
    · exact h.first
    · exact hbefore bucket
  have hsecond := h.second
  unfold land
  cases hmoves : moves.second with
  | none => exact hmiddle bucket
  | some other =>
    simp only [Function.update_apply _ other.1]
    split
    · apply movedTo_nonneg
      apply context_nonneg
      exact add_nonneg (zero_le_ofNumeric.mpr (hmiddle other.1)) (hsecond other hmoves)
    · exact hmiddle bucket

end Moves

/-- What a transaction did to the wallet of its tenant, and the balances it read at first. -/
structure Posting where
  tenantId : ℕ
  seen : Holdings
  moves : Moves

namespace Posting

def land (wallets : Wallets) (posting : Posting) : Wallets :=
  Function.update wallets posting.tenantId
    (posting.moves.land posting.seen (wallets posting.tenantId))

/-- The same where it is the only transaction. -/
def alone (wallets : Wallets) (posting : Posting) : Wallets :=
  Function.update wallets posting.tenantId
    (posting.moves.land (wallets posting.tenantId) (wallets posting.tenantId))

/-- The bucket that moves first still is as it was read. -/
def Fresh (wallets : Wallets) (posting : Posting) : Prop :=
  posting.seen posting.moves.first = wallets posting.tenantId posting.moves.first

theorem land_of_fresh {wallets : Wallets} {posting : Posting} (h : posting.Fresh wallets) :
    posting.land wallets = posting.alone wallets := by
  rw [land, alone, Moves.land, Moves.land, h]

theorem land_nonneg {wallets : Wallets} {posting : Posting}
    (h : posting.moves.Sound posting.seen)
    (hwallets : ∀ tenantId bucket, 0 ≤ wallets tenantId bucket)
    (tenantId : ℕ) (bucket : WalletBucket) : 0 ≤ posting.land wallets tenantId bucket := by
  by_cases htenant : tenantId = posting.tenantId
  · rw [land, htenant, Function.update_self]
    exact h.nonneg (hwallets _) bucket
  · rw [land, Function.update_of_ne htenant]
    exact hwallets tenantId bucket

end Posting

/-- Every posting is fresh where it is committed. -/
def AllFresh : List Posting → Wallets → Prop
  | [], _ => True
  | posting :: postings, wallets =>
    posting.Fresh wallets ∧ AllFresh postings (posting.alone wallets)

instance AllFresh.decidable : ∀ postings wallets, Decidable (AllFresh postings wallets)
  | [], _ => .isTrue trivial
  | posting :: postings, wallets =>
    have := AllFresh.decidable postings (posting.alone wallets)
    inferInstanceAs (Decidable (_ = _ ∧ _))

theorem AllFresh.foldl {postings : List Posting} {wallets : Wallets}
    (h : AllFresh postings wallets) :
    postings.foldl Posting.land wallets = postings.foldl Posting.alone wallets := by
  induction postings generalizing wallets with
  | nil => rfl
  | cons posting postings ih =>
    rw [List.foldl_cons, List.foldl_cons, Posting.land_of_fresh h.1]
    exact ih h.2

/-! ## Operations -/

inductive WalletCall
  | getOrCreateWallet (tenantId : ℕ)
  | processCollection (tenantId : ℕ) (grossAmount : Decimal) (referenceType : String)
      (referenceId : Option ℕ) (description : Option String)
  | createAdjustment (tenantId : ℕ) (walletBucket : WalletBucket) (direction : LedgerDirection)
      (amount : Decimal) (reason : String) (actorId : ℕ) (referenceType : Option String)
      (referenceId : Option ℕ)
  | settlePending (tenantId : ℕ) (amount : Option Decimal) (batchReference : String)
  | reserveForWithdrawal (tenantId : ℕ) (amount : Decimal)
  | releaseReservation (tenantId : ℕ) (amount : Decimal)
  | completeDisbursement (tenantId : ℕ) (amount : Decimal) (referenceId : Option ℕ)
      (description : Option String)
  | reverseDisbursement (tenantId : ℕ) (amount : Decimal) (referenceId : Option ℕ)
      (description : Option String)
  | recordRefund (tenantId : ℕ) (amount : Decimal) (referenceType : String)
      (referenceId : Option ℕ) (description : Option String)
  | recordReversal (tenantId : ℕ) (amount : Decimal) (referenceType : String)
      (referenceId : Option ℕ) (description : Option String)

namespace WalletCall

def tenantId : WalletCall → ℕ
  | getOrCreateWallet tenantId => tenantId
  | processCollection tenantId _ _ _ _ => tenantId
  | createAdjustment tenantId _ _ _ _ _ _ _ => tenantId
  | settlePending tenantId _ _ => tenantId
  | reserveForWithdrawal tenantId _ => tenantId
  | releaseReservation tenantId _ => tenantId
  | completeDisbursement tenantId _ _ _ => tenantId
  | reverseDisbursement tenantId _ _ _ => tenantId
  | recordRefund tenantId _ _ _ _ => tenantId
  | recordReversal tenantId _ _ _ _ => tenantId

abbrev Result : WalletCall → Type
  | getOrCreateWallet _ => TenantWallet
  | processCollection _ _ _ _ _ => WalletService.CollectionResult
  | createAdjustment _ _ _ _ _ _ _ _ => LedgerEntry
  | settlePending _ _ _ => SettlementLog
  | reserveForWithdrawal _ _ => TenantWallet
  | releaseReservation _ _ => TenantWallet
  | completeDisbursement _ _ _ _ => LedgerEntry
  | reverseDisbursement _ _ _ _ => LedgerEntry
  | recordRefund _ _ _ _ _ => LedgerEntry
  | recordReversal _ _ _ _ _ => LedgerEntry

def program : (call : WalletCall) → Tx call.Result
  | getOrCreateWallet tenantId => WalletService.getOrCreateWallet tenantId
  | processCollection tenantId grossAmount referenceType referenceId description =>
    WalletService.processCollection tenantId grossAmount referenceType referenceId description
  | createAdjustment tenantId walletBucket direction amount reason actorId referenceType
      referenceId =>
    WalletService.createAdjustment tenantId walletBucket direction amount reason actorId
      referenceType referenceId
  | settlePending tenantId amount batchReference =>
    WalletService.settlePending tenantId amount batchReference
  | reserveForWithdrawal tenantId amount => WalletService.reserveForWithdrawal tenantId amount
  | releaseReservation tenantId amount => WalletService.releaseReservation tenantId amount
  | completeDisbursement tenantId amount referenceId description =>
    WalletService.completeDisbursement tenantId amount referenceId description
  | reverseDisbursement tenantId amount referenceId description =>
    WalletService.reverseDisbursement tenantId amount referenceId description
  | recordRefund tenantId amount referenceType referenceId description =>
    WalletService.recordRefund tenantId amount referenceType referenceId description
  | recordReversal tenantId amount referenceType referenceId description =>
    WalletService.recordReversal tenantId amount referenceType referenceId description

/-- What the operation moves, given what it returned and the balances it read at first: without
an amount, `settle_pending` settles what it read. -/
def moves : (call : WalletCall) → call.Result → Holdings → Option Moves
  | getOrCreateWallet _, _, _ => none
  | processCollection _ _ _ _ _, result, _ => some { first := .pending, delta := result.tenantShare }
  | createAdjustment _ walletBucket direction amount _ _ _ _, _, _ =>
    some { first := walletBucket, delta := if direction = .credit then amount else negate amount }
  | settlePending _ amount _, _, seen =>
    let settleAmount := amount.getD (ofNumeric (seen .pending))
    some ⟨.pending, negate settleAmount, some (.available, settleAmount)⟩
  | reserveForWithdrawal _ amount, _, _ =>
    some ⟨.available, negate amount, some (.reserved, amount)⟩
  | releaseReservation _ amount, _, _ =>
    some ⟨.reserved, negate amount, some (.available, amount)⟩
  | completeDisbursement _ amount _ _, _, _ =>
    some ⟨.reserved, negate amount, some (.totalDisbursed, amount)⟩
  | reverseDisbursement _ amount _ _, _, _ =>
    some ⟨.totalDisbursed, negate amount, some (.available, amount)⟩
  | recordRefund _ amount _ _ _, _, _ => some { first := .available, delta := negate amount }
  | recordReversal _ amount _ _ _, _, _ => some { first := .pending, delta := negate amount }

end WalletCall

/-! ## Transactions -/

/-- A statement that neither writes the table nor reads objects of it. -/
def Leaves (t : Table) : Stmt Table Row Ask Request → Prop
  | .select t' _ => t' ≠ t
  | .selectForUpdate t' _ => t' ≠ t
  | .insert t' _ => t' ≠ t
  | .update t' _ _ => t' ≠ t
  | _ => True

/-- An operation, and what its transaction does after it. -/
structure Undertaking where
  call : WalletCall
  rest : call.Result → Tx Unit
  sparing : ∀ result, (rest result).All
    (sparing .tenantWallets : Footprint Table Row Request).Allows

/-- A transaction that may run one operation, which it need not know beforehand. -/
structure WalletTransaction where
  choose : Tx (Option Undertaking)
  leaving : choose.All (Leaves .tenantWallets)

/-- The operation a transaction ran, and what it moves by the balances read at first. -/
structure Ran where
  tenantId : ℕ
  moves : Holdings → Option Moves

def WalletTransaction.program (transaction : WalletTransaction) : Tx (Option Ran) := do
  let undertaking ← transaction.choose
  match undertaking with
  | none => pure none
  | some undertaking =>
    let result ← undertaking.call.program
    undertaking.rest result
    pure (some ⟨undertaking.call.tenantId, undertaking.call.moves result⟩)

/-- The balances of the first wallet that is read. -/
def firstRead : (s : Stmt Table Row Ask Request) → Reply Answer HttpResult s →
    Option Holdings → Option Holdings
  | .select .tenantWallets _, rows, none => some (holdingsOf rows.head?)
  | _, _, seen => seen

/-- What is posted where the moves are these. -/
abbrev posted (tenantId : ℕ) (seen : Holdings) (moves : Option Moves) : Option Posting :=
  moves.map fun moves => ⟨tenantId, seen, moves⟩

/-- What a transaction posted that ran so, having read the balances. -/
def posting (ran : Option Ran × Option Holdings) : Option Posting :=
  ran.1.bind fun operation => ran.2.bind fun seen =>
    posted operation.tenantId seen (operation.moves seen)

/-! ## A wallet in hand -/

/-- Who holds a wallet relies on it to stay as it is. -/
def banking : Discipline Row where
  inv tables := (tables .tenantWallets).Pairwise (schema.Apart .tenantWallets)
  rely locked before after :=
    ∀ key ∈ locked, key.1 = .tenantWallets → SameAt schema before after key
  refl _ _ := fun _ _ _ => rfl
  trans h h' := fun key hkey ht => (h' key hkey ht).trans (h key hkey ht)
  mono hsub h := fun key hkey => h key (hsub hkey)

section Sessions

variable {own own' : Own Row} {committed later : Tables Row} {tenantId : ℕ} {α β : Type}
  {prior : Option TenantWallet} {wallet current : TenantWallet} {bucket : WalletBucket}
  {delta : Decimal}

theorem balance_setBalance_eq (wallet : TenantWallet) (bucket : WalletBucket) (value : Numeric) :
    balance (setBalance wallet bucket value) =
      Function.update (balance wallet) bucket value := by
  funext other
  by_cases hother : other = bucket
  · rw [hother, Function.update_self, WalletService.balance_setBalance]
  · rw [Function.update_of_ne hother, WalletService.balance_setBalance_of_ne _ _ hother]

/-- The transaction has nothing to do with wallets yet. -/
structure Idle (own : Own Row) : Prop where
  written : own.written .tenantWallets = []
  loaded : own.loaded .tenantWallets = []

/-- The transaction holds a wallet: as it was committed, if it was, and as it sees it now. -/
structure Holding (prior : Option TenantWallet) (current : TenantWallet) (own : Own Row)
    (committed : Tables Row) : Prop where
  locked : (.tenantWallets, current.id) ∈ own.locked
  stored : ((committed .tenantWallets).filter fun wallet => wallet.id == current.id) =
    prior.toList
  tenant : ∀ wallet ∈ prior, wallet.tenantId = current.tenantId
  written : own.written .tenantWallets = [current] ∨
    own.written .tenantWallets = [] ∧ prior = some current

theorem Holding.stable (h : Holding prior current own committed)
    (hrely : banking.rely own.locked committed later) : Holding prior current own later where
  locked := h.locked
  stored := (hrely _ h.locked rfl).trans h.stored
  tenant := h.tenant
  written := h.written

theorem Holding.of_own (h : Holding prior current own committed)
    (hwritten : own'.written .tenantWallets = own.written .tenantWallets)
    (hlocked : own.locked ⊆ own'.locked) : Holding prior current own' committed where
  locked := hlocked h.locked
  stored := h.stored
  tenant := h.tenant
  written := by
    rw [hwritten]
    exact h.written

theorem Holding.mem_prior_iff (h : Holding prior current own committed) :
    wallet ∈ prior ↔ wallet ∈ committed .tenantWallets ∧ wallet.id = current.id := by
  rw [Option.mem_def, ← Option.mem_toList, ← h.stored, List.mem_filter, beq_iff_eq]

/-- The row is seen as it is in hand. -/
theorem Holding.eq_of_mem (h : Holding prior current own committed)
    (hwallet : wallet ∈ overlay schema committed own.written .tenantWallets)
    (hid : wallet.id = current.id) : wallet = current := by
  rcases h.written with hwritten | ⟨hwritten, rfl⟩
  · rw [overlay_of_written hwritten] at hwallet
    rcases mem_storeRow.mp hwallet with rfl | ⟨-, hne⟩
    · rfl
    · exact absurd hid hne
  · rw [overlay_of_unwritten hwritten] at hwallet
    exact (Option.mem_some.mp (h.mem_prior_iff.mpr ⟨hwallet, hid⟩)).symm

theorem Holding.write (h : Holding prior current own committed) (hid : wallet.id = current.id)
    (htenant : wallet.tenantId = current.tenantId) :
    Holding prior wallet (own.write schema .tenantWallets wallet) committed where
  locked := List.mem_append_right _ (List.mem_singleton_self _)
  stored := by
    rw [hid]
    exact h.stored
  tenant other hother := (h.tenant other hother).trans htenant.symm
  written := by
    left
    rw [Own.written_write]
    rcases h.written with hwritten | ⟨hwritten, -⟩
    · rw [hwritten]
      exact storeRow_singleton hid.symm
    · rw [hwritten]
      exact storeRow_nil

variable {held : Held Row} {draw : Draw Ask Answer HttpResult} {keys : List (Key Table)}
  {s : Stmt Table Row Ask Request} {answer : Reply Answer HttpResult s}

theorem Holding.reply (hs : (sparing .tenantWallets).Allows s)
    (h : Holding prior current own committed)
    (hreply : own.reply schema committed held draw keys s = some (answer, own')) :
    Holding prior current own' committed :=
  h.of_own (Own.reply_spares hs hreply) (Own.locked_subset hreply)

theorem sparing_of_leaves {t : Table} (hs : Leaves t s) : (sparing t).Allows s := by
  cases s with
  | insert t' build => exact fun _ => hs
  | update t' id write => exact hs
  | _ => trivial

theorem Idle.reply (hs : Leaves .tenantWallets s) (h : Idle own)
    (hreply : own.reply schema committed held draw keys s = some (answer, own')) : Idle own' where
  written := (Own.reply_spares (sparing_of_leaves hs) hreply).trans h.written
  loaded := by
    have hwrite : ∀ {t : Table} {row : Row t}, t ≠ .tenantWallets →
        (own.write schema t row).loaded .tenantWallets = [] := by
      intro t row ht
      exact (Function.update_of_ne ht.symm _ _).trans h.loaded
    cases s with
    | select t p =>
      obtain ⟨-, rfl⟩ := Prod.mk.inj (Option.some.inj hreply)
      exact (Function.update_of_ne (Ne.symm hs) _ _).trans h.loaded
    | selectForUpdate t p =>
      obtain ⟨-, rfl⟩ := Prod.mk.inj (Option.some.inj hreply)
      exact (Function.update_of_ne (Ne.symm hs) _ _).trans h.loaded
    | insert t build =>
      simp only [Own.reply] at hreply
      split at hreply
      · rcases Own.tryWrite_eq_some hreply with ⟨-, rfl⟩ | ⟨-, rfl, -, -⟩
        · exact h.loaded
        · exact hwrite hs
      · cases hreply
    | update t id write =>
      rcases Own.reply_update hreply with ⟨-, rfl⟩ | ⟨old, -, -, -, -, rfl⟩
      · exact h.loaded
      · exact hwrite hs
    | _ =>
      obtain ⟨-, rfl⟩ := Prod.mk.inj (Option.some.inj hreply)
      exact h.loaded

/-! ## Programs -/

/-- What the transaction ensures of what it goes on with. -/
abbrev Ends (returns : α → Own Row → Tables Row → Prop) (x : Tx α) (own : Own Row)
    (committed : Tables Row) : Prop :=
  Ensures schema banking returns x own committed

variable {x : Tx α} {f : α → Tx β} {returns : β → Own Row → Tables Row → Prop}

/-- Statements on other tables come first. -/
theorem ends_idle (hinv : banking.inv committed) (h : Idle own)
    (hall : x.All (Leaves .tenantWallets))
    (hf : ∀ a own' later, banking.inv later → Idle own' → Ends returns (f a) own' later) :
    Ends returns (x >>= f) own committed := by
  have hkept : Ends (fun _ own' _ => Idle own') x own committed :=
    Ensures.kept (P := fun own _ => Idle own) (fun h _ => h)
      (fun hs _ h hreply => h.reply hs hreply) hall h
  exact Ensures.bind hinv hkept hf

/-- A bucket moves by the balance the object has, whatever is stored. -/
theorem ends_moveBucket (h : Holding prior current own committed)
    (hid : wallet.id = current.id) :
    Ends (fun move own' later => 0 ≤ WalletService.movedValue wallet bucket delta ∧
        move.wallet = setBalance current bucket (movedTo (balance wallet bucket) delta) ∧
          Holding prior move.wallet own' later)
      (WalletService.moveBucket wallet bucket delta) own committed := by
  unfold WalletService.moveBucket
  simp only
  by_cases hvalue : 0 ≤ context (ofNumeric (balance wallet bucket) + delta)
  · rw [Prog.require_true hvalue]
    intro later hrely _ held draw keys stored own' hreply
    have hlater := h.stable hrely
    rcases Own.reply_update hreply with ⟨rfl, -⟩ | ⟨old, hold, holdId, -, rfl, rfl⟩
    · trivial
    · have hsame := hlater.eq_of_mem hold (holdId.trans hid)
      subst hsame
      have hwritten := hlater.write
        (WalletService.setBalance_id old bucket (movedTo (balance wallet bucket) delta))
        (WalletService.setBalance_tenantId old bucket _)
      exact fun last hlast _ => ⟨hvalue, rfl, hwritten.stable hlast⟩
  · rw [Prog.require_false hvalue]
    trivial

/-! ### The first read -/

/-- What is noted is noted for good. -/
theorem noting_some (x : Tx α) (seen : Holdings) :
    noting firstRead x (some seen) = x >>= fun a => pure (a, some seen) := by
  apply noting_of_quiet
  apply Prog.All.of_forall
  intro s reply
  cases s with
  | select t p => cases t <;> rfl
  | _ => rfl

theorem noting_leaving (h : x.All (Leaves .tenantWallets)) (f : α → Tx β) :
    noting firstRead (x >>= f) none = x >>= fun a => noting firstRead (f a) none := by
  have hquiet : x.All fun s => ∀ reply, firstRead s reply none = none := by
    apply h.mono
    intro s hs _
    cases s with
    | select t p =>
      cases t with
      | tenantWallets => exact absurd rfl hs
      | _ => rfl
    | _ => rfl
  rw [noting_bind, noting_of_quiet hquiet, Prog.bind_assoc]
  rfl

/-- The wallet of the tenant is in hand, and `wallet` is the object of it. -/
def InHand (tenantId : ℕ) (wallet : TenantWallet) (own : Own Row) (committed : Tables Row) :
    Prop :=
  ∃ prior current, Holding prior current own committed ∧ wallet.id = current.id ∧
    current.tenantId = tenantId ∧ balance current = holdingsOf prior

theorem InHand.stable (h : InHand tenantId wallet own committed)
    (hrely : banking.rely own.locked committed later) : InHand tenantId wallet own later := by
  obtain ⟨prior, current, hholding, hrest⟩ := h
  exact ⟨prior, current, hholding.stable hrely, hrest⟩

/-- The session has the object of a wallet, which it read or has just created. -/
structure Opened (tenantId : ℕ) (wallet : TenantWallet) (own : Own Row) (committed : Tables Row) :
    Prop where
  loaded : own.loaded .tenantWallets = [wallet]
  written : own.written .tenantWallets = [] ∨ Holding none wallet own committed ∧
    wallet.tenantId = tenantId ∧ balance wallet = holdingsOf none

theorem Opened.stable (h : Opened tenantId wallet own committed)
    (hrely : banking.rely own.locked committed later) : Opened tenantId wallet own later where
  loaded := h.loaded
  written := h.written.imp_right fun hcreated => ⟨hcreated.1.stable hrely, hcreated.2⟩

/-- Once the row of the wallet is locked, it is in hand. -/
theorem Opened.inHand {row : TenantWallet} (h : Opened tenantId wallet own committed)
    (hinv : banking.inv committed)
    (hrow : row ∈ overlay schema committed own.written .tenantWallets)
    (htenant : row.tenantId = tenantId) (hid : row.id = wallet.id)
    (hwritten : own'.written .tenantWallets = own.written .tenantWallets)
    (hlocked : own.locked ⊆ own'.locked) (hkey : (.tenantWallets, row.id) ∈ own'.locked) :
    InHand tenantId wallet own' committed := by
  rcases h.written with hunwritten | ⟨hholding, hwalletTenant, hzero⟩
  · rw [overlay_of_unwritten hunwritten] at hrow
    have hkeys := (pairwise_apart_iff.mp hinv).1
    refine ⟨some row, row, ⟨hkey, filter_key_of_mem hkeys hrow, ?_, Or.inr ⟨?_, rfl⟩⟩,
      hid.symm, htenant, rfl⟩
    · intro other hother
      rw [Option.mem_some.mp hother]
    · rw [hwritten]
      exact hunwritten
  · exact ⟨none, wallet, hholding.of_own hwritten hlocked, rfl, hwalletTenant, hzero⟩

theorem ends_createWallet (hloaded : own.loaded .tenantWallets = [])
    (hwritten : own.written .tenantWallets = []) :
    Ends (fun wallet own' later => balance wallet = holdingsOf none ∧
        Opened tenantId wallet own' later)
      (create .tenantWallets fun id => { id, tenantId, currency := defaultCurrency }) own
      committed := by
  intro later _ _ held draw keys stored own' hreply
  simp only [Own.reply] at hreply
  split at hreply
  · rename_i hid
    rcases Own.tryWrite_eq_some hreply with ⟨rfl, -⟩ | ⟨rfl, rfl, -, -⟩
    · trivial
    · rw [overlay_of_unwritten hwritten] at hid
      have hzero : balance { id := draw.id, tenantId, currency := defaultCurrency } =
          holdingsOf none := by
        funext bucket
        cases bucket <;> rfl
      have hholding : Holding none { id := draw.id, tenantId, currency := defaultCurrency }
          (own.write schema .tenantWallets
            { id := draw.id, tenantId, currency := defaultCurrency }) later := by
        constructor
        · exact List.mem_append_right _ (List.mem_singleton_self _)
        · apply List.filter_eq_nil_iff.mpr
          intro wallet hwallet
          rw [beq_iff_eq]
          exact hid.2 wallet hwallet
        · intro wallet hwallet
          cases hwallet
        · left
          rw [Own.written_write, hwritten]
          exact storeRow_nil
      intro last hlast _
      refine ⟨hzero, ?_, Or.inr ⟨hholding.stable hlast, rfl, hzero⟩⟩
      rw [Own.loaded_write, hloaded]
      exact storeRow_nil
  · cases hreply

/-- The wallet that was found, or a new one. -/
def foundOrCreated (tenantId : ℕ) : Option TenantWallet → Tx TenantWallet
  | some wallet => pure wallet
  | none => create .tenantWallets fun id => { id, tenantId, currency := defaultCurrency }

theorem noting_getOrCreateWallet :
    noting firstRead (WalletService.getOrCreateWallet tenantId) none =
      .step (.select .tenantWallets fun wallet => wallet.tenantId == tenantId) fun rows =>
        scalarOneOrNone rows >>= foundOrCreated tenantId >>= fun wallet =>
          pure (wallet, some (holdingsOf rows.head?)) := by
  apply congrArg (Prog.step _)
  funext rows
  exact noting_some (scalarOneOrNone rows >>= foundOrCreated tenantId) _

theorem ends_getOrCreateWallet (h : Idle own) :
    Ends (fun ran own' later => ran.2 = some (balance ran.1) ∧ Opened tenantId ran.1 own' later)
      (noting firstRead (WalletService.getOrCreateWallet tenantId) none) own committed := by
  rw [noting_getOrCreateWallet]
  intro later _ hinv held draw keys rows own' hreply
  obtain ⟨hrows, hown⟩ := Prod.mk.inj (Option.some.inj hreply)
  have hobject : own.object schema .tenantWallets = id := by
    funext row
    rw [Own.object, h.loaded]
    rfl
  rw [overlay_of_unwritten h.written, hobject, List.map_id] at hrows
  have hwritten : own'.written .tenantWallets = [] := by
    rw [← hown]
    exact h.written
  have hloaded : own'.loaded .tenantWallets = rows := by
    rw [← hown, overlay_of_unwritten h.written, hrows, h.loaded]
    show Function.update own.loaded Table.tenantWallets ([] ++ rows) Table.tenantWallets = rows
    rw [Function.update_self, List.nil_append]
  clear hrows hown hreply
  rcases rows with _ | ⟨wallet, _ | ⟨other, rest⟩⟩
  · show Ends _ (foundOrCreated tenantId none >>= _) own' later
    apply Ensures.bind hinv (ends_createWallet hloaded hwritten)
    rintro wallet own'' later' _ ⟨hzero, hopened⟩ last hlast _
    exact ⟨congrArg some hzero.symm, hopened.stable hlast⟩
  · intro last _ _
    exact ⟨rfl, hloaded, Or.inl hwritten⟩
  · trivial

/-- The row that is locked is read again, but not into the object the session has of it. -/
theorem ends_lockWallet (h : Opened tenantId wallet own committed) :
    Ends (fun locked own' later => locked = wallet ∧ InHand tenantId locked own' later)
      (getByIdForUpdate .tenantWallets (some tenantId) wallet.id >>= fun locked =>
        Prog.orRaise locked (.runtimeError
          s!"Wallet {wallet.id} vanished between create and lock")) own committed := by
  intro later hrely hlater held draw keys rows own' hreply
  have hopened := h.stable hrely
  obtain ⟨hrows, hown⟩ := Prod.mk.inj (Option.some.inj hreply)
  rcases rows with _ | ⟨locked, _ | ⟨other, rest⟩⟩
  · trivial
  · have hlocked : locked ∈ ([locked] : List TenantWallet) := List.mem_singleton_self _
    rw [← hrows] at hlocked
    obtain ⟨row, hrow, hobject⟩ := List.mem_map.mp hlocked
    obtain ⟨hvisible, hmatch⟩ := List.mem_filter.mp hrow
    simp only [Bool.and_eq_true, List.contains_iff_mem, ofTenant, Option.all_some, rowTenant,
      beq_iff_eq, Option.some.injEq] at hmatch
    obtain ⟨hkey, htenant, hid⟩ := hmatch
    have hsame : locked = wallet := by
      rw [← hobject]
      exact Own.object_of_loaded hopened.loaded hid.symm
    have hinhand : InHand tenantId locked own' later := by
      rw [hsame]
      apply hopened.inHand hlater hvisible htenant hid
      · rw [← hown]
        rfl
      · rw [← hown]
        exact List.subset_append_left _ _
      · rw [← hown]
        exact List.mem_append_right _ hkey
    exact fun last hlast _ => ⟨hsame, hinhand.stable hlast⟩
  · trivial

theorem ends_lockedWallet (hinv : banking.inv committed) (h : Idle own) :
    Ends (fun ran own' later => ran.2 = some (balance ran.1) ∧ InHand tenantId ran.1 own' later)
      (noting firstRead (WalletService.lockedWallet tenantId) none) own committed := by
  unfold WalletService.lockedWallet
  rw [noting_bind]
  apply Ensures.bind hinv (ends_getOrCreateWallet h)
  rintro ⟨wallet, seen⟩ own₁ later₁ hinv₁ ⟨hseen, hopened⟩
  rw [hseen, noting_some]
  apply Ensures.bind hinv₁ (ends_lockWallet hopened)
  rintro locked own₂ later₂ _ ⟨rfl, hinhand⟩ last hlast _
  exact ⟨rfl, hinhand.stable hlast⟩

/-! ### Moves -/

/-- The wallet has been moved so, by the balances read. -/
def Moved (tenantId : ℕ) (seen : Holdings) (moves : Moves) (now : TenantWallet) (own : Own Row)
    (committed : Tables Row) : Prop :=
  moves.Sound seen ∧ ∃ prior, Holding prior now own committed ∧ now.tenantId = tenantId ∧
    balance now = moves.land seen (holdingsOf prior)

variable {seen : Holdings} {moves : Moves} {now : TenantWallet} {first : WalletBucket}
  {firstDelta : Decimal}

theorem Moved.stable (h : Moved tenantId seen moves now own committed)
    (hrely : banking.rely own.locked committed later) :
    Moved tenantId seen moves now own later := by
  obtain ⟨hsound, prior, hholding, hrest⟩ := h
  exact ⟨hsound, prior, hholding.stable hrely, hrest⟩

theorem ends_firstMove (h : InHand tenantId wallet own committed) :
    Ends (fun move own' later =>
        Moved tenantId (balance wallet) ⟨bucket, delta, none⟩ move.wallet own' later)
      (WalletService.moveBucket wallet bucket delta) own committed := by
  obtain ⟨prior, current, hholding, hid, htenant, hprior⟩ := h
  apply (ends_moveBucket hholding hid).mono
  rintro move own' later ⟨hvalue, hmove, hholding'⟩
  refine ⟨⟨movedTo_nonneg hvalue, fun _ hnone => by cases hnone⟩, prior, hholding', ?_, ?_⟩
  · rw [hmove, WalletService.setBalance_tenantId, htenant]
  · rw [hmove, balance_setBalance_eq, hprior]
    rfl

theorem ends_secondMove
    (h : Moved tenantId seen ⟨first, firstDelta, none⟩ now own committed) (hdelta : 0 ≤ delta) :
    Ends (fun move own' later =>
        Moved tenantId seen ⟨first, firstDelta, some (bucket, delta)⟩ move.wallet own' later)
      (WalletService.moveBucket now bucket delta) own committed := by
  obtain ⟨hsound, prior, hholding, htenant, hnow⟩ := h
  apply (ends_moveBucket hholding rfl).mono
  rintro move own' later ⟨-, hmove, hholding'⟩
  refine ⟨⟨hsound.first, fun other hother => ?_⟩, prior, hholding', ?_, ?_⟩
  · rw [← Option.some.inj hother]
    exact hdelta
  · rw [hmove, WalletService.setBalance_tenantId, htenant]
  · rw [hmove, balance_setBalance_eq, hnow]
    rfl

theorem Moved.reply (hs : (sparing .tenantWallets).Allows s)
    (h : Moved tenantId seen moves now own committed)
    (hreply : own.reply schema committed held draw keys s = some (answer, own')) :
    Moved tenantId seen moves now own' committed := by
  obtain ⟨hsound, prior, hholding, hrest⟩ := h
  exact ⟨hsound, prior, hholding.reply hs hreply, hrest⟩

/-- Statements that spare wallets keep the moves. -/
theorem ends_kept (h : Moved tenantId seen moves now own committed)
    (hall : x.All (sparing .tenantWallets : Footprint Table Row Request).Allows) :
    Ends (fun _ own' later => Moved tenantId seen moves now own' later) x own committed :=
  Ensures.kept Moved.stable (fun hs _ h hreply => h.reply hs hreply) hall h

/-- What a transaction leaves behind: no wallet or an empty one where it posts nothing, and
otherwise what it posts. -/
def Banked : Option Posting → Own Row → Tables Row → Prop
  | none, own, committed => own.written .tenantWallets = [] ∨
    ∃ current, Holding none current own committed ∧ balance current = holdingsOf none
  | some posting, own, committed =>
    ∃ now, Moved posting.tenantId posting.seen posting.moves now own committed

theorem Banked.stable {posting : Option Posting} (h : Banked posting own committed)
    (hrely : banking.rely own.locked committed later) : Banked posting own later := by
  cases posting with
  | none =>
    rcases h with hwritten | ⟨current, hholding, hzero⟩
    · exact Or.inl hwritten
    · exact Or.inr ⟨current, hholding.stable hrely, hzero⟩
  | some posting =>
    obtain ⟨now, hmoved⟩ := h
    exact ⟨now, hmoved.stable hrely⟩

theorem Banked.reply {posting : Option Posting} (hs : (sparing .tenantWallets).Allows s)
    (h : Banked posting own committed)
    (hreply : own.reply schema committed held draw keys s = some (answer, own')) :
    Banked posting own' committed := by
  cases posting with
  | none =>
    rcases h with hwritten | ⟨current, hholding, hzero⟩
    · exact Or.inl ((Own.reply_spares hs hreply).trans hwritten)
    · exact Or.inr ⟨current, hholding.reply hs hreply, hzero⟩
  | some posting =>
    obtain ⟨now, hmoved⟩ := h
    exact ⟨now, hmoved.reply hs hreply⟩

/-- What a program noted is what it read before it locked the wallet. -/
theorem ends_afterLock {g : TenantWallet → Tx α} {moves : α → Holdings → Option Moves}
    (hinv : banking.inv committed) (h : Idle own)
    (hg : ∀ wallet own' later, banking.inv later → InHand tenantId wallet own' later →
      Ends (fun a => Banked (posted tenantId (balance wallet) (moves a (balance wallet))))
        (g wallet) own' later) :
    Ends (fun ran own' later => ∃ seen, ran.2 = some seen ∧
        Banked (posted tenantId seen (moves ran.1 seen)) own' later)
      (noting firstRead (WalletService.lockedWallet tenantId >>= g) none) own committed := by
  rw [noting_bind]
  apply Ensures.bind hinv (ends_lockedWallet hinv h)
  rintro ⟨wallet, seen⟩ own₁ later₁ hinv₁ ⟨hseen, hinhand⟩
  rw [hseen, noting_some]
  apply Ensures.bind hinv₁ (hg wallet own₁ later₁ hinv₁ hinhand)
  intro a own₂ later₂ _ hbanked last hlast _
  exact ⟨balance wallet, rfl, hbanked.stable hlast⟩

theorem ends_oneMove {rest : WalletService.Move → Tx α} (hinv : banking.inv committed)
    (h : InHand tenantId wallet own committed) (hrest : ∀ move, (rest move).All
      (sparing .tenantWallets : Footprint Table Row Request).Allows) :
    Ends (fun _ => Banked (some ⟨tenantId, balance wallet, bucket, delta, none⟩))
      (WalletService.moveBucket wallet bucket delta >>= rest) own committed := by
  apply Ensures.bind hinv (ends_firstMove h)
  intro move own₁ later₁ hinv₁ h₁
  apply (ends_kept h₁ (hrest move)).mono
  exact fun _ own' later hmoved => ⟨move.wallet, hmoved⟩

theorem ends_twoMoves {rest : WalletService.Move → Tx α} {other : WalletBucket}
    {amount : Decimal} (hinv : banking.inv committed) (h : InHand tenantId wallet own committed)
    (hamount : 0 ≤ amount) (hrest : ∀ move, (rest move).All
      (sparing .tenantWallets : Footprint Table Row Request).Allows) :
    Ends (fun _ => Banked (some ⟨tenantId, balance wallet, bucket, delta, some (other, amount)⟩))
      (do
        let debit ← WalletService.moveBucket wallet bucket delta
        let credit ← WalletService.moveBucket debit.wallet other amount
        rest credit) own committed := by
  apply Ensures.bind hinv (ends_firstMove h)
  intro debit own₁ later₁ hinv₁ h₁
  apply Ensures.bind hinv₁ (ends_secondMove h₁ hamount)
  intro credit own₂ later₂ hinv₂ h₂
  apply (ends_kept h₂ (hrest credit)).mono
  exact fun _ own' later hmoved => ⟨credit.wallet, hmoved⟩

/-! ### Operations -/

theorem all_sparing_create {t : Table} (ht : t ≠ .tenantWallets) (build : ℕ → Row t) :
    (create t build).All (sparing .tenantWallets : Footprint Table Row Request).Allows :=
  all_create fun _ => ht

/-- What the operation leaves behind, where a transaction runs it. -/
abbrev Operates (call : WalletCall) (x : Tx (call.Result × Option Holdings)) (own : Own Row)
    (committed : Tables Row) : Prop :=
  Ends (fun ran own' later => ∃ seen, ran.2 = some seen ∧
    Banked (posted call.tenantId seen (call.moves ran.1 seen)) own' later) x own committed

theorem noting_require {condition : Prop} [Decidable condition] {failure : Failure}
    (f : Unit → Tx α) : noting firstRead (Prog.require condition failure >>= f) none =
      Prog.require condition failure >>= fun a => noting firstRead (f a) none :=
  noting_leaving (Prog.all_require _ _) f

theorem operates_getOrCreateWallet (h : Idle own) :
    Operates (.getOrCreateWallet tenantId)
      (noting firstRead (WalletCall.getOrCreateWallet tenantId).program none) own committed := by
  apply (ends_getOrCreateWallet h).mono
  rintro ⟨wallet, seen⟩ own' later ⟨hseen, hopened⟩
  refine ⟨balance wallet, hseen, hopened.written.imp_right fun hcreated => ?_⟩
  exact ⟨wallet, hcreated.1, hcreated.2.2⟩

theorem operates_processCollection {grossAmount : Decimal} {referenceType : String}
    {referenceId : Option ℕ} {description : Option String} (hinv : banking.inv committed)
    (h : Idle own) :
    Operates (.processCollection tenantId grossAmount referenceType referenceId description)
      (noting firstRead (WalletCall.processCollection tenantId grossAmount referenceType
        referenceId description).program none) own committed := by
  have hterms : (CommercialTermsService.requireActive tenantId).All (Leaves .tenantWallets) :=
    .bind ⟨show Table.tenantCommercialTerms ≠ .tenantWallets by decide, fun _ => trivial⟩
      fun _ => Prog.all_orRaise _ _
  simp only [WalletCall.program, WalletService.processCollection]
  rw [noting_require]
  apply Ensures.required
  intro _
  rw [noting_leaving hterms]
  apply ends_idle hinv h hterms
  intro terms own₁ later₁ hinv₁ h₁
  rw [noting_leaving (Prog.all_orRaise _ _)]
  apply ends_idle hinv₁ h₁ (Prog.all_orRaise _ _)
  intro platformFee own₂ later₂ hinv₂ h₂
  apply ends_afterLock hinv₂ h₂
  intro wallet own₃ later₃ hinv₃ h₃
  apply Ensures.bind hinv₃ (ends_firstMove h₃)
  intro credit own₄ later₄ hinv₄ h₄
  apply Ensures.bind hinv₄ (ends_kept h₄ (all_sparing_create (by decide) _))
  intro _ own₅ later₅ hinv₅ h₅
  apply Ensures.bind hinv₅ (ends_kept h₅ (all_sparing_create (by decide) _))
  intro _ own₆ later₆ hinv₆ h₆
  apply Ensures.bind hinv₆ (ends_kept h₆ (all_sparing_create (by decide) _))
  intro _ own₇ later₇ _ h₇
  exact fun last hlast _ => ⟨credit.wallet, h₇.stable hlast⟩

theorem operates_settlePending {amount : Option Decimal} {batchReference : String}
    (hinv : banking.inv committed) (h : Idle own) :
    Operates (.settlePending tenantId amount batchReference)
      (noting firstRead (WalletCall.settlePending tenantId amount batchReference).program none)
      own committed := by
  apply ends_afterLock hinv h
  intro wallet own₁ later₁ hinv₁ h₁
  apply Ensures.required
  intro hamount
  apply Ensures.required
  intro _
  exact ends_twoMoves hinv₁ h₁ hamount.le fun _ => all_sparing_create (by decide) _

/-- An operation that checks its amount, locks the wallet and goes on. -/
theorem ends_checked {condition : Prop} [Decidable condition] {failure : Failure}
    {g : TenantWallet → Tx α} {moves : α → Holdings → Option Moves} (hinv : banking.inv committed)
    (h : Idle own) (hg : ∀ wallet own' later, condition → banking.inv later →
      InHand tenantId wallet own' later →
        Ends (fun a => Banked (posted tenantId (balance wallet) (moves a (balance wallet))))
          (g wallet) own' later) :
    Ends (fun ran own' later => ∃ seen, ran.2 = some seen ∧
        Banked (posted tenantId seen (moves ran.1 seen)) own' later)
      (noting firstRead (do
        Prog.require condition failure
        let wallet ← WalletService.lockedWallet tenantId
        g wallet) none) own committed := by
  rw [noting_require]
  apply Ensures.required
  intro hcondition
  apply ends_afterLock hinv h
  intro wallet own' later
  exact hg wallet own' later hcondition

theorem operates_program (call : WalletCall) (hinv : banking.inv committed) (h : Idle own) :
    Operates call (noting firstRead call.program none) own committed := by
  cases call with
  | getOrCreateWallet tenantId => exact operates_getOrCreateWallet h
  | processCollection => exact operates_processCollection hinv h
  | createAdjustment tenantId walletBucket direction amount reason actorId =>
    simp only [WalletCall.program, WalletService.createAdjustment]
    rw [noting_require]
    apply Ensures.required
    intro _
    apply ends_checked hinv h
    intro wallet own' later _ hinv' h'
    exact ends_oneMove hinv' h' fun _ => all_sparing_create (by decide) _
  | settlePending => exact operates_settlePending hinv h
  | reserveForWithdrawal tenantId amount =>
    apply ends_checked hinv h
    intro wallet own' later hamount hinv' h'
    exact ends_twoMoves hinv' h' hamount.le fun _ => trivial
  | releaseReservation tenantId amount =>
    apply ends_checked hinv h
    intro wallet own' later hamount hinv' h'
    exact ends_twoMoves hinv' h' hamount.le fun _ => trivial
  | completeDisbursement tenantId amount =>
    apply ends_checked hinv h
    intro wallet own' later hamount hinv' h'
    exact ends_twoMoves hinv' h' hamount.le fun _ => all_sparing_create (by decide) _
  | reverseDisbursement tenantId amount =>
    apply ends_checked hinv h
    intro wallet own' later hamount hinv' h'
    exact ends_twoMoves hinv' h' hamount.le fun _ => all_sparing_create (by decide) _
  | recordRefund tenantId amount =>
    apply ends_checked hinv h
    intro wallet own' later _ hinv' h'
    exact ends_oneMove hinv' h' fun _ => all_sparing_create (by decide) _
  | recordReversal tenantId amount =>
    apply ends_checked hinv h
    intro wallet own' later _ hinv' h'
    exact ends_oneMove hinv' h' fun _ => all_sparing_create (by decide) _

/-- A transaction raises, or leaves behind what it posts. -/
theorem ends_program (transaction : WalletTransaction) (hinv : banking.inv committed)
    (h : Idle own) :
    Ends (fun ran => Banked (posting ran)) (noting firstRead transaction.program none) own
      committed := by
  unfold WalletTransaction.program
  rw [noting_leaving transaction.leaving]
  apply ends_idle hinv h transaction.leaving
  intro undertaking own₁ later₁ hinv₁ h₁
  cases undertaking with
  | none => exact fun _ _ _ => Or.inl h₁.written
  | some undertaking =>
    simp only
    rw [noting_bind]
    apply Ensures.bind hinv₁ (operates_program undertaking.call hinv₁ h₁)
    rintro ⟨result, note⟩ own₂ later₂ hinv₂ ⟨seen, rfl, h₂⟩
    rw [noting_some, Prog.bind_assoc]
    apply Ensures.bind hinv₂ (Ensures.kept Banked.stable
      (fun hs _ h hreply => h.reply hs hreply) (undertaking.sparing result) h₂)
    intro _ own₃ later₃ _ h₃
    exact fun last hlast _ => h₃.stable hlast

end Sessions

end InfinityRadius.Services.ConcurrentWallets
