import InfinityRadius.Services.WalletTransactions

/-!
# Wallets side by side

The same transactions interleaved statement by statement: what is committed is what they posted, one
after the other.
-/

namespace InfinityRadius.Services.ConcurrentWallets

open Amounts Database Interleaving Models Payload Program Sql

/-! ## What is committed -/

section Commits

variable {own : Own Row} {committed : Tables Row} {tenantId : ℕ} {prior : Option TenantWallet}
  {wallet current : TenantWallet}

theorem eq_of_tenantId_eq {tables : Tables Row} {other : TenantWallet}
    (hinv : banking.inv tables) (hwallet : wallet ∈ tables .tenantWallets)
    (hother : other ∈ tables .tenantWallets) (htenant : wallet.tenantId = other.tenantId) :
    wallet = other := by
  by_contra hne
  have : Std.Symm (schema.Apart .tenantWallets) := ⟨fun _ _ hapart => hapart.symm⟩
  have hapart := hinv.forall hwallet hother hne
  simp [Schema.Apart, rowConflict, htenant] at hapart

theorem holdings_of_mem {tables : Tables Row} (hinv : banking.inv tables)
    (hwallet : wallet ∈ tables .tenantWallets) :
    holdings tables wallet.tenantId = balance wallet := by
  unfold holdings
  cases hfind : (tables .tenantWallets).find? fun other => other.tenantId == wallet.tenantId with
  | none =>
    have hnone := List.find?_eq_none.mp hfind wallet hwallet
    simp at hnone
  | some other =>
    have htenant : other.tenantId = wallet.tenantId := by
      simpa using List.find?_some hfind
    rw [eq_of_tenantId_eq hinv (List.mem_of_find?_eq_some hfind) hwallet htenant]
    rfl

theorem holdings_of_none {tables : Tables Row}
    (h : ∀ wallet ∈ tables .tenantWallets, wallet.tenantId ≠ tenantId) :
    holdings tables tenantId = holdingsOf none := by
  unfold holdings
  rw [List.find?_eq_none.mpr]
  intro wallet hwallet
  simpa using h wallet hwallet

theorem Holding.mem_overlay_self (h : Holding prior current own committed) :
    current ∈ overlay schema committed own.written .tenantWallets := by
  rcases h.written with hwritten | ⟨hwritten, rfl⟩
  · rw [overlay_of_written hwritten]
    exact mem_storeRow.mpr (Or.inl rfl)
  · rw [overlay_of_unwritten hwritten]
    exact (h.mem_prior_iff.mp rfl).1

/-- The wallets of other tenants are seen as they are committed. -/
theorem Holding.mem_overlay_iff (h : Holding prior current own committed)
    (htenant : wallet.tenantId ≠ current.tenantId) :
    wallet ∈ overlay schema committed own.written .tenantWallets ↔
      wallet ∈ committed .tenantWallets := by
  rcases h.written with hwritten | ⟨hwritten, -⟩
  · rw [overlay_of_written hwritten, mem_storeRow]
    constructor
    · rintro (rfl | ⟨hwallet, -⟩)
      · exact absurd rfl htenant
      · exact hwallet
    · refine fun hwallet => Or.inr ⟨hwallet, fun hid => htenant ?_⟩
      exact h.tenant wallet (h.mem_prior_iff.mpr ⟨hwallet, hid⟩)
  · rw [overlay_of_unwritten hwritten]

/-- What the tenant held before. -/
theorem Holding.holdings_prior (h : Holding prior current own committed)
    (hinv : banking.inv committed)
    (hvisible : banking.inv (overlay schema committed own.written)) :
    holdings committed current.tenantId = holdingsOf prior := by
  cases prior with
  | some wallet =>
    rw [← h.tenant wallet rfl]
    exact holdings_of_mem hinv (h.mem_prior_iff.mp rfl).1
  | none =>
    apply holdings_of_none
    intro wallet hwallet htenant
    have hfresh : wallet.id ≠ current.id := fun hid => by
      cases h.mem_prior_iff.mpr ⟨hwallet, hid⟩
    have hother : wallet ∈ overlay schema committed own.written .tenantWallets := by
      rcases h.written with hwritten | ⟨-, hnone⟩
      · rw [overlay_of_written hwritten]
        exact mem_storeRow.mpr (Or.inr ⟨hwallet, hfresh⟩)
      · cases hnone
    exact hfresh (congrArg TenantWallet.id
      (eq_of_tenantId_eq hvisible hother h.mem_overlay_self htenant))

/-- What every tenant holds once the transaction is committed. -/
theorem Holding.holdings_commit (h : Holding prior current own committed)
    (hinv : banking.inv committed)
    (hvisible : banking.inv (overlay schema committed own.written)) :
    holdings (overlay schema committed own.written) =
      Function.update (holdings committed) current.tenantId (balance current) := by
  funext other
  by_cases hother : other = current.tenantId
  · rw [hother, Function.update_self]
    exact holdings_of_mem hvisible h.mem_overlay_self
  · rw [Function.update_of_ne hother]
    by_cases hexists : ∃ wallet ∈ committed .tenantWallets, wallet.tenantId = other
    · obtain ⟨wallet, hwallet, rfl⟩ := hexists
      rw [holdings_of_mem hinv hwallet]
      exact holdings_of_mem hvisible ((h.mem_overlay_iff hother).mpr hwallet)
    · have hnone : ∀ wallet ∈ committed .tenantWallets, wallet.tenantId ≠ other :=
        fun wallet hwallet htenant => hexists ⟨wallet, hwallet, htenant⟩
      rw [holdings_of_none hnone]
      apply holdings_of_none
      rintro wallet hwallet rfl
      exact hnone wallet ((h.mem_overlay_iff hother).mp hwallet) rfl

/-- A transaction that is committed lands what it posts. -/
theorem Banked.holdings_commit {posting : Option Posting} (h : Banked posting own committed)
    (hinv : banking.inv committed)
    (hvisible : banking.inv (overlay schema committed own.written)) :
    holdings (overlay schema committed own.written) =
      posting.toList.foldl Posting.land (holdings committed) := by
  cases posting with
  | none =>
    rcases h with hwritten | ⟨current, hholding, hzero⟩
    · show (fun _ => _) = _
      unfold holdings
      rw [overlay_of_unwritten hwritten]
      rfl
    · rw [hholding.holdings_commit hinv hvisible, hzero,
        ← hholding.holdings_prior hinv hvisible, Function.update_eq_self]
      rfl
  | some posting =>
    obtain ⟨now, -, prior, hholding, htenant, hnow⟩ := h
    rw [hholding.holdings_commit hinv hvisible, hnow, ← hholding.holdings_prior hinv hvisible,
      htenant]
    rfl

end Commits

/-! ## Every interleaving -/

/-- Only these transactions write wallets. -/
def shared (t : Table) : Bool := decide (t ≠ .tenantWallets)

section Interleavings

variable {own : Own Row} {committed : Tables Row}

/-- The program of a transaction, with the balances it reads at first. -/
def noted (transaction : WalletTransaction) : Tx (Option Ran × Option Holdings) :=
  noting firstRead transaction.program none

theorem commits_banking (hadmitted : own.Admitted schema .tenantWallets committed) :
    Commits schema banking own committed := by
  refine ⟨hadmitted.visible, fun locked hdisjoint => ?_⟩
  rintro ⟨t, id⟩ hkey rfl
  apply sameAt_overlay
  intro row hrow hid
  have hlocked := hadmitted.locked row hrow
  rw [hid] at hlocked
  exact hdisjoint hkey hlocked

theorem keeps_banking : KeepsIndexed schema banking (fun ran => Banked (posting ran)) noted
    shared where
  call transaction committed hinv := ends_program transaction hinv ⟨rfl, rfl⟩
  commits _ _ _ _ _ hadmitted := commits_banking (hadmitted _ rfl)
  elsewhere t rows committed ht hinv := by
    have hne : Table.tenantWallets ≠ t := (of_decide_eq_true ht).symm
    have hsame : Function.update committed t rows .tenantWallets = committed .tenantWallets :=
      Function.update_of_ne hne _ _
    constructor
    · show (Function.update committed t rows .tenantWallets).Pairwise _
      rw [hsame]
      exact hinv
    · rintro locked ⟨t', id⟩ _ rfl
      rw [SameAt, hsame]

abbrev Banks := System schema Ask Request Answer HttpResult Failure (Option Ran)

abbrev WalletEvent := Event Row Ask Answer HttpResult WalletTransaction

/-- The same with what the transactions read. -/
abbrev NotedBanks := System schema Ask Request Answer HttpResult Failure
  (Option Ran × Option Holdings)

def Banks.next (event : WalletEvent) (system : Banks) : Banks :=
  System.next WalletTransaction.program shared event system

/-- What the transactions of a run posted, in the order they were committed. -/
def postings (start : Tables Row) (events : List WalletEvent) : List Posting :=
  (System.values noted shared events (⟨start, []⟩ : NotedBanks)).filterMap posting

theorem foldl_filterMap_posting (rans : List (Option Ran × Option Holdings)) (wallets : Wallets) :
    rans.foldl (fun wallets ran => (posting ran).toList.foldl Posting.land wallets) wallets =
      (rans.filterMap posting).foldl Posting.land wallets := by
  induction rans generalizing wallets with
  | nil => rfl
  | cons ran rans ih =>
    rw [List.foldl_cons, ih]
    cases hposting : posting ran with
    | none => rw [List.filterMap_cons_none hposting, Option.toList_none, List.foldl_nil]
    | some posting =>
      rw [List.filterMap_cons_some hposting, List.foldl_cons, Option.toList_some,
        List.foldl_cons, List.foldl_nil]

theorem land_nonneg_of_all {postings : List Posting} {wallets : Wallets}
    (h : ∀ posting ∈ postings, posting.moves.Sound posting.seen)
    (hwallets : ∀ tenantId bucket, 0 ≤ wallets tenantId bucket) (tenantId : ℕ)
    (bucket : WalletBucket) : 0 ≤ postings.foldl Posting.land wallets tenantId bucket := by
  induction postings generalizing wallets with
  | nil => exact hwallets tenantId bucket
  | cons posting postings ih =>
    apply ih (fun other hother => h other (List.mem_cons_of_mem _ hother))
    exact Posting.land_nonneg (h posting List.mem_cons_self) hwallets

/-- In every interleaving of transactions that each run one operation on a wallet: every tenant
holds what they posted, one after the other in the order they were committed, where the bucket that
moves first is set from the balance that was read before the lock.  Where it still was as it was
read, no update is lost; and no bucket is ever taken below zero. -/
theorem banked_of_interleaving (start : PlatformDb) (events : List WalletEvent) :
    holdings (Runs.run Banks.next events ⟨start.rows, []⟩).committed =
        (postings start.rows events).foldl Posting.land (holdings start.rows) ∧
      (AllFresh (postings start.rows events) (holdings start.rows) →
        holdings (Runs.run Banks.next events ⟨start.rows, []⟩).committed =
          (postings start.rows events).foldl Posting.alone (holdings start.rows)) ∧
      ((∀ tenantId bucket, 0 ≤ holdings start.rows tenantId bucket) → ∀ tenantId bucket,
        0 ≤ holdings (Runs.run Banks.next events ⟨start.rows, []⟩).committed tenantId bucket) := by
  have hindexed : System.Indexed banking (fun ran => Banked (posting ran)) shared
      (⟨start.rows, []⟩ : NotedBanks) :=
    System.indexed_start (start.apart _) fun t _ => start.apart t
  have hforget : (Runs.run (System.next noted shared) events
      (⟨start.rows, []⟩ : NotedBanks)).forget = Runs.run Banks.next events ⟨start.rows, []⟩ :=
    System.forget_run events ⟨start.rows, []⟩
  have hlanded : holdings (Runs.run (System.next noted shared) events
      (⟨start.rows, []⟩ : NotedBanks)).committed =
        (postings start.rows events).foldl Posting.land (holdings start.rows) := by
    rw [postings, ← foldl_filterMap_posting]
    apply hindexed.view_run keeps_banking
    · intro ran own committed hinv hbanked hadmitted
      exact hbanked.holdings_commit hinv (hadmitted .tenantWallets rfl).visible
    · intro t rows committed ht
      have hne : Table.tenantWallets ≠ t := (of_decide_eq_true ht).symm
      unfold holdings
      rw [Function.update_of_ne hne]
  have hreturns : ∀ (ran : Option Ran × Option Holdings) own committed,
      Banked (posting ran) own committed → ∀ p ∈ posting ran, p.moves.Sound p.seen := by
    intro ran own committed hbanked p hp
    rw [hp] at hbanked
    obtain ⟨now, hmoved⟩ := hbanked
    exact hmoved.1
  have hsound : ∀ p ∈ postings start.rows events, p.moves.Sound p.seen := by
    intro p hp
    obtain ⟨ran, hran, hposting⟩ := List.mem_filterMap.mp hp
    exact hindexed.values_run keeps_banking hreturns events ran hran p hposting
  rw [← hforget]
  show holdings (Runs.run (System.next noted shared) events _).committed = _ ∧ _
  refine ⟨hlanded, fun hfresh => hlanded.trans hfresh.foldl, fun hnonneg tenantId bucket => ?_⟩
  show 0 ≤ holdings (Runs.run (System.next noted shared) events _).committed tenantId bucket
  rw [hlanded]
  exact land_nonneg_of_all hsound hnonneg tenantId bucket

end Interleavings

/-! ## Two reservations at once -/

def fundedRows : (t : Table) → List (Row t)
  | .tenants => [{ id := 1, status := .active }]
  | .tenantWallets =>
    [{ id := 0, tenantId := 1, currency := "TZS", availableBalanceTzs := 10000 }]
  | _ => []

def fundedStart : PlatformDb where
  rows := fundedRows
  valid t := by cases t <;> decide +kernel
  apart t := by cases t <;> decide +kernel

def reserving (amount : Decimal) : WalletTransaction where
  choose := pure (some ⟨.reserveForWithdrawal 1 amount, fun _ => pure (), fun _ => trivial⟩)
  leaving := trivial

def drawn (id : ℕ) : Draw Ask Answer HttpResult :=
  ⟨silentOutside.answer 0, .transportError "", id⟩

/-- The second reservation begins when the first one is committed. -/
def reservedInTurn : List WalletEvent :=
  .call (reserving 40) :: (List.range 10).map (fun id => .advance 0 (drawn id)) ++
    [.finish 0, .call (reserving 50)] ++
    (List.range 10).map (fun id => .advance 0 (drawn id)) ++ [.finish 0]

/-- The second one reads the wallet before the first one is committed, and waits for its lock. -/
def reservedTogether : List WalletEvent :=
  [.call (reserving 40), .call (reserving 50)] ++
    (List.range 10).flatMap (fun id => [.advance 0 (drawn id), .advance 1 (drawn id)]) ++
    [.finish 0] ++ (List.range 10).map (fun id => .advance 0 (drawn id)) ++ [.finish 0]

/-- Nothing is lost. -/
theorem banked_reservedInTurn :
    holdings (Runs.run Banks.next reservedInTurn ⟨fundedStart.rows, []⟩).committed 1 .available =
      1000 ∧
    holdings (Runs.run Banks.next reservedInTurn ⟨fundedStart.rows, []⟩).committed =
      (postings fundedStart.rows reservedInTurn).foldl Posting.alone (holdings fundedStart.rows) ∧
    ∀ tenantId bucket,
      0 ≤ holdings (Runs.run Banks.next reservedInTurn ⟨fundedStart.rows, []⟩).committed
        tenantId bucket := by
  obtain ⟨-, halone, hnonneg⟩ := banked_of_interleaving fundedStart reservedInTurn
  have hfunded : ∀ tenantId bucket, 0 ≤ holdings fundedStart.rows tenantId bucket := by
    intro tenantId bucket
    by_cases htenant : tenantId = 1
    · rw [htenant]
      cases bucket <;> decide
    · have hother : ∀ wallet ∈ fundedStart.rows .tenantWallets, wallet.tenantId ≠ tenantId := by
        intro wallet hwallet
        rw [List.mem_singleton.mp hwallet]
        exact Ne.symm htenant
      rw [holdings_of_none hother]
      exact le_rfl
  exact ⟨by decide +kernel, halone (by decide +kernel), hnonneg hfunded⟩

/-- Of 100 shillings 90 are reserved, and 50 are left. -/
example : (holdings (Runs.run Banks.next reservedTogether ⟨fundedStart.rows, []⟩).committed 1
      .available,
    holdings (Runs.run Banks.next reservedTogether ⟨fundedStart.rows, []⟩).committed 1
      .reserved) = (5000, 9000) := by decide +kernel

end InfinityRadius.Services.ConcurrentWallets
