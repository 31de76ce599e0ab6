import InfinityRadius.Services.PayoutRules

/-!
# Submission to Selcom

What `_submit_to_selcom` does after each answer of the provider, and the answers
after which it raises although the transfer has been sent.
-/

namespace InfinityRadius.Services.PayoutService

open Amounts Database Payload Program Sql Models Integrations.SelcomBusiness

/-- The withdrawal a request asks to transfer, by its idempotency key. -/
def processKey : Request → Option String
  | .transactionProcess transId _ _ _ _ _ _ => some transId
  | _ => none

/-- The withdrawal a transfer or a query is about. -/
def aboutKey : Request → Option String
  | .transactionProcess transId _ _ _ _ _ _ => some transId
  | .transactionQuery transId => some transId
  | _ => none

theorem processKey_of_aboutKey {request : Request} (h : aboutKey request = none) :
    processKey request = none := by
  cases request <;> first | rfl | cases h

/-- The charge `account_lookup` reported. -/
def chargeOf (lookup : HttpResult) : Option Numeric :=
  match validated accountLookupResponse lookup with
  | .ok response =>
    (response.data.bind fun data => moneyFromProvider data.totalCharges).map toNumeric
  | .error _ => none

/-- The answers to `transaction_process`, and to the query that follows a
transport error, leave the submitted withdrawal as `w'`. -/
def Settled (w : Withdrawal) (db : PlatformDb) (process : HttpResult)
    (queries : List HttpResult) (w' : Withdrawal) (db' : PlatformDb) : Prop :=
  match validated transactionProcessResponse process with
  | .ok response => queries = [] ∧ Carried (decision w (processResult w response)) w db w' db'
  | .error (.selcomBusiness (.transport _)) => ∃ query, queries = [query] ∧
    match validated transactionQueryResponse query with
    | .ok response => Carried (decision w (queryResult w response)) w db w' db'
    | .error (.selcomBusiness _) => w' = w ∧ db' = db
    | .error _ => False
  | .error (.selcomBusiness _) => queries = [] ∧ Carried .fail w db w' db'
  | .error _ => False

/-- Each answer fits its response model, and what it says can be recorded. -/
def Keepable (w : Withdrawal) (db : PlatformDb) (process query : HttpResult) : Prop :=
  match validated transactionProcessResponse process with
  | .ok response => storableOpt response.resultcode = true ∧
      storableOpt response.message = true ∧ Recordable w db (processResult w response)
  | .error (.selcomBusiness (.transport _)) =>
    match validated transactionQueryResponse query with
    | .ok response => Recordable w db (queryResult w response)
    | .error (.selcomBusiness _) => True
    | .error _ => False
  | .error (.selcomBusiness _) =>
    WalletService.Movable WalletService.released db w.tenantId (ofNumeric w.amount)
  | .error _ => False

/-- The answers to a transfer cannot be kept, whether or not a query was sent. -/
def Unkept (w : Withdrawal) (db : PlatformDb) (process : HttpResult) :
    List HttpResult → Prop
  | [] => ∀ query, ¬Keepable w db process query
  | [query] => ¬Keepable w db process query
  | _ => False

/-- The request `submit_to_selcom` sends for a withdrawal. -/
def transferRequest (w : Withdrawal) (destinationCode accountNumber verifiedName : String) :
    Request :=
  .transactionProcess w.idempotencyKey destinationCode accountNumber verifiedName
    (ofNumeric w.amount) "FT" (some ("Infinity Radius withdrawal " ++ w.idempotencyKey))

/-- No transfer was requested, and none queried. -/
def Unsent (world world' : PlatformWorld) : Prop :=
  ∃ more, world'.sent = world.sent ++ more ∧
    ∀ exchange ∈ more, aboutKey exchange.1 = none

/-- The submission of an approved withdrawal gets as far as the lookup of its account. -/
def LooksUp (settings : Settings) (w : Withdrawal) (db : PlatformDb) : Prop :=
  settings.selcomDisbursementEnabled = true ∧
  (settings.selcomBusinessEnvironment = .production →
    settings.selcomProductionPayoutsEnabled = true) ∧
  (∃ destination ∈ db.rows .withdrawalDestinations, destination.id = w.destinationId ∧
    destination.tenantId = w.tenantId ∧ destination.destinationCode.getD "" ≠ "" ∧
    destination.accountNumber.getD "" ≠ "") ∧
  Ready settings

/-- The lookup of the account got no answer. -/
def Unanswered (settings : Settings) (w : Withdrawal) (world world' : PlatformWorld) : Prop :=
  LooksUp settings w world.db ∧ ∃ request detail,
    world'.sent = world.sent ++ [(request, .transportError detail)]

/-- The lookup was answered by `lookup` and the transfer of `w` by `process`, the
row and the database being `submitted` and `db` when it was sent. -/
structure Sent (world : PlatformWorld) (w submitted : Withdrawal) (db : PlatformDb)
    (lookup process : HttpResult) (queries : List HttpResult)
    (sent : List (Request × HttpResult)) : Prop where
  same : w.SameRequest submitted
  status : submitted.status = .processing
  charge : submitted.providerCharge = chargeOf lookup
  effect : Effect world.db db w submitted id []
  sent : ∃ lookupRequest transfer, aboutKey lookupRequest = none ∧
    aboutKey transfer = some w.idempotencyKey ∧
    processKey transfer = some w.idempotencyKey ∧
    sent = world.sent ++ (lookupRequest, lookup) :: (transfer, process) ::
      queries.map fun query => (.transactionQuery w.idempotencyKey, query)

/-- The withdrawal was not submitted: it is still approved, or failed with its
reservation released. -/
def NotSubmitted (w : Withdrawal) (db : PlatformDb) (w' : Withdrawal) (db' : PlatformDb) :
    Prop :=
  (w' = w ∧ db' = db) ∨ Carried .fail w db w' db'

theorem Unsent.refl (world : PlatformWorld) : Unsent world world :=
  ⟨[], (List.append_nil _).symm, by simp⟩

/-! ## Rows that decide alike -/

/-- Two rows a result is applied to in the same way. -/
structure Alike (w w' : Withdrawal) : Prop where
  same : w.SameRequest w'
  status : w'.status = w.status
  providerCharge : w'.providerCharge = w.providerCharge

variable {w w' : Withdrawal} {db db' : PlatformDb} {result : ProviderResult}

theorem Alike.decision (h : Alike w w') : decision w' result = decision w result := by
  unfold PayoutService.decision resultMismatch
  rw [h.status, h.same.idempotencyKey, h.same.currency, h.same.amount, h.providerCharge]

theorem Alike.recordable (h : Alike w w')
    (hwallets : db'.rows .tenantWallets = db.rows .tenantWallets) :
    Recordable w' db' result ↔ Recordable w db result := by
  unfold Recordable WalletService.Movable
  rw [h.decision, h.same.tenantId, h.same.amount, hwallets]

theorem Alike.receiptOr (h : Alike w w') (receipt : Option String) :
    receiptOr receipt w' = receiptOr receipt w := by
  unfold PayoutService.receiptOr
  rw [h.same.idempotencyKey]

theorem Alike.processResult (h : Alike w w') (response : TransactionProcessResponse) :
    processResult w' response = processResult w response := by
  unfold PayoutService.processResult
  rw [h.receiptOr]

theorem Alike.queryResult (h : Alike w w') (response : TransactionQueryResponse) :
    queryResult w' response = queryResult w response := by
  unfold PayoutService.queryResult
  rw [h.receiptOr]

theorem Alike.keepable (h : Alike w w')
    (hwallets : db'.rows .tenantWallets = db.rows .tenantWallets)
    (process query : HttpResult) :
    Keepable w' db' process query ↔ Keepable w db process query := by
  unfold Keepable
  simp only [h.processResult, h.queryResult, h.recordable hwallets, WalletService.Movable,
    h.same.tenantId, h.same.amount, hwallets]

/-- A move made after the row was rewritten is a move of the row. -/
theorem Moved.of_prior {move : Decimal → TenantWallet → Option TenantWallet}
    {middle : PlatformDb} {final : Withdrawal} {entries : List LedgerEntry}
    (heffect : Effect db middle w w' id []) (hmoved : Moved move w' middle final db' entries) :
    Moved move w db final db' entries := by
  obtain ⟨wallet, wallet', hmoved⟩ := hmoved
  have hwallets : middle.rows .tenantWallets = db.rows .tenantWallets := heffect.wallets
  refine ⟨wallet, wallet', hwallets ▸ hmoved.stored,
    hmoved.tenant.trans heffect.same.tenantId, ?_, hmoved.balances, heffect.trans hmoved.effect⟩
  rw [← heffect.same.amount]
  exact hmoved.moved

/-- What is carried out on a row rewritten alike is carried out on the row. -/
theorem Alike.carried (h : Alike w w') {middle : PlatformDb} {final : Withdrawal}
    {choice : Decision} (hchoice : choice ≠ .ignored) (heffect : Effect db middle w w' id [])
    (hcarried : Carried choice w' middle final db') : Carried choice w db final db' := by
  obtain ⟨hsame, hrest⟩ := hcarried
  refine ⟨h.same.trans hsame, ?_⟩
  cases choice with
  | ignored => exact absurd rfl hchoice
  | keep => exact ⟨hrest.1.trans h.status, heffect.trans hrest.2⟩
  | mismatched mismatch => exact ⟨hrest.1, heffect.trans hrest.2⟩
  | ambiguous => exact ⟨hrest.1, heffect.trans hrest.2⟩
  | complete =>
    obtain ⟨hstatus, entry, hentry, hmoved⟩ := hrest
    rw [h.same.tenantId, h.same.amount, h.same.id] at hentry
    exact ⟨hstatus, entry, hentry, hmoved.of_prior heffect⟩
  | fail => exact ⟨hrest.1, hrest.2.of_prior heffect⟩

theorem decision_ne_ignored (hpending : w.status.pending = true) :
    decision w result ≠ .ignored := by
  unfold PayoutService.decision
  rw [if_neg (by rw [hpending]; decide)]
  split
  · split <;> simp
  all_goals simp

/-! ## After the transfer was sent -/

section Rules

variable {aside : Table → Bool} (haside : ∀ t, aside t = true → t = .paymentWebhooks)
  {returns : Withdrawal → PlatformWorld → Prop} {raises : Failure → PlatformWorld → Prop}
  {world : PlatformWorld} {settings : Settings} {actorId : Option ℕ}

include haside

theorem always_applyProcessResponse {response : TransactionProcessResponse}
    (hw : w ∈ world.db.rows .withdrawals) (hpending : w.status.pending = true)
    (hreturns : ∀ w' db, Carried (decision w (processResult w response)) w world.db w' db →
      returns w' { world with db })
    (hraises : ¬(storableOpt response.resultcode = true ∧
        storableOpt response.message = true ∧
        Recordable w world.db (processResult w response)) →
      ∀ e db, raises e { world with db }) :
    Always aside returns raises
      (applyProcessAnswer settings w (.ok response) actorId) world := by
  have hkey : storableOpt (some w.idempotencyKey) = true := by
    have hvalid := rowValid_withdrawal hw
    simp only [rowValid, textsStorable, List.all_cons, Bool.and_eq_true] at hvalid
    exact hvalid.2.2.1
  refine always_bind.mpr (always_updateWithdrawal (not_aside haside (by decide)) hw
    (by constructor <;> rfl) (fun middle _ hwritten => ?_) (fun hinvalid => ?_))
  · have halike : Alike w
        { w with
          providerReference := some w.idempotencyKey
          providerResultCode := response.resultcode
          providerMessage := response.message } :=
      ⟨by constructor <;> rfl, rfl, rfl⟩
    refine always_applyProviderResult haside (hwritten.mem hw rfl) (fun w' db hcarried => ?_)
      (fun hrefused => hraises fun h => hrefused ?_)
    · rw [halike.decision, halike.processResult] at hcarried
      exact hreturns w' db (halike.carried (decision_ne_ignored hpending)
        (.of_written w hwritten (by constructor <;> rfl) rfl rfl rfl rfl) hcarried)
    · rw [halike.processResult]
      exact (halike.recordable (hwritten.rows_of_ne (by decide))).mpr h.2.2
  · refine hraises (fun h => ?_) _ world.db
    rw [rowValid_reported (rowValid_withdrawal hw) hkey h.1 h.2.1] at hinvalid
    cases hinvalid

/-- Whatever is answered to the transfer, the withdrawal ends as `Settled` says,
unless an answer cannot be kept. -/
theorem always_settle {request : Request} (hready : Ready settings)
    (hw : w ∈ world.db.rows .withdrawals) (hpending : w.status.pending = true)
    (hreturns : ∀ process queries w' db, Settled w world.db process queries w' db →
      returns w'
        { db
          sent := world.sent ++ (request, process) ::
            queries.map fun query => (.transactionQuery w.idempotencyKey, query) })
    (hraises : ∀ process queries, Unkept w world.db process queries →
      ∀ e db, raises e
        { db
          sent := world.sent ++ (request, process) ::
            queries.map fun query => (.transactionQuery w.idempotencyKey, query) }) :
    Always aside returns raises (do
      let answer ← attempt (call settings transactionProcessResponse request)
      applyProcessAnswer settings w answer actorId) world := by
  have hdecoded : settings.selcomBusinessPrivateKey ≠ .notBase64 := by
    rw [hready.2.2]
    decide
  refine always_bind.mpr (always_attempt hdecoded (fun _ process => ?_)
    (fun h => absurd hready h))
  cases hprocess : validated transactionProcessResponse process with
  | ok response =>
    refine always_applyProcessResponse haside hw hpending (fun w' db hcarried => ?_)
      (fun hrefused e db => ?_)
    · exact hreturns process [] w' db (by simpa only [Settled, hprocess, true_and])
    · exact hraises process [] (fun query => by simpa only [Keepable, hprocess]) e db
  | error failure =>
    rcases validated_error hprocess with ⟨message, rfl⟩ | ⟨message, statusCode, rfl⟩ | rfl
    · refine always_reconcileLocked haside hw (fun query => ?_) (fun h => absurd hready h)
      simp only [List.append_assoc, List.singleton_append]
      cases hquery : validated transactionQueryResponse query with
      | ok response =>
        refine ⟨fun w' db hcarried => ?_, fun hrefused e db => ?_⟩
        · exact hreturns process [query] w' db (by
            simp only [Settled, hprocess]
            exact ⟨query, rfl, by simpa only [hquery]⟩)
        · exact hraises process [query] (by simpa only [Unkept, Keepable, hprocess, hquery]) e db
      | error failure =>
        rcases validated_error hquery with ⟨message, rfl⟩ | ⟨message, statusCode, rfl⟩ | rfl
        · exact hreturns process [query] w world.db (by
            simp only [Settled, hprocess]
            exact ⟨query, rfl, by simp only [hquery, and_self]⟩)
        · exact hreturns process [query] w world.db (by
            simp only [Settled, hprocess]
            exact ⟨query, rfl, by simp only [hquery, and_self]⟩)
        · exact hraises process [query]
            (by simp only [Unkept, Keepable, hprocess, hquery, not_false_eq_true]) _ world.db
    · have hfrom : w.status ∈ [.approved, .processing, .ambiguous] := by
        revert hpending
        cases w.status <;> decide
      refine always_failWithdrawal haside hw hfrom ?_ (fun hrefused e db => ?_)
      · intro wallet hwallet htenant wallet' time db hreleased heffect
        refine hreturns process [] _ db ?_
        simp only [Settled, hprocess, true_and]
        exact ⟨by constructor <;> rfl, rfl, wallet, wallet', hwallet, htenant, hreleased,
          by simp, heffect⟩
      · refine hraises process [] (fun query => ?_) e db
        simp only [Keepable, hprocess]
        exact fun hmovable => hrefused ⟨hmovable, storable_apiMessage hprocess⟩
    · exact hraises process [] (fun query => by simp only [Keepable, hprocess, not_false_eq_true])
        _ world.db

theorem always_submitTransfer {destinationCode accountNumber verifiedName : String}
    (hready : Ready settings) (hw : w ∈ world.db.rows .withdrawals)
    (happroved : w.status = .approved)
    (hreturns : ∀ submitted db process queries w' db', w.SameRequest submitted →
      submitted.status = .processing → submitted.providerCharge = w.providerCharge →
      Effect world.db db w submitted id [] → Settled submitted db process queries w' db' →
      returns w' ⟨db', world.sent ++
        (transferRequest w destinationCode accountNumber verifiedName, process) ::
          queries.map fun query => (.transactionQuery w.idempotencyKey, query)⟩)
    (hraises : ∀ submitted db process queries, w.SameRequest submitted →
      submitted.status = .processing → submitted.providerCharge = w.providerCharge →
      Effect world.db db w submitted id [] →
      Unkept submitted db process queries →
      ∀ e db', raises e ⟨db', world.sent ++
        (transferRequest w destinationCode accountNumber verifiedName, process) ::
          queries.map fun query => (.transactionQuery w.idempotencyKey, query)⟩) :
    Always aside returns raises
      (submitTransfer settings w destinationCode accountNumber verifiedName actorId) world := by
  have hedge : WithdrawalStatus.processing ∈ successors w.status := by
    rw [happroved]
    decide
  have hauthorised : Authorised w → Authorised { w with status := .processing } := by
    intro h
    apply h.transition <;> rw [happroved] <;> decide
  refine always_bind.mpr (always_transition haside hw hedge hauthorised (fun moved hmoved => ?_)
    (fun h => by cases h))
  have hstored := hmoved.mem hw
  refine always_bind.mpr (always_now.mpr fun time => ?_)
  refine always_bind.mpr (always_updateWithdrawal (not_aside haside (by decide)) hstored
    (by constructor <;> rfl) (fun stamped _ hstamped => ?_) (fun hinvalid => ?_))
  · let submitted := { w with status := .processing, submittedAt := some time }
    have heffect : Effect world.db stamped w submitted id [] :=
      hmoved.trans (.of_written _ hstamped (by constructor <;> rfl) rfl rfl rfl rfl)
    refine always_settle haside hready (hstamped.mem hstored rfl) rfl
      (fun process queries w' db hsettled => ?_) (fun process queries hunkept e db => ?_)
    · exact hreturns submitted stamped process queries w' db (by constructor <;> rfl) rfl rfl
        heffect hsettled
    · exact hraises submitted stamped process queries (by constructor <;> rfl) rfl rfl heffect
        hunkept e db
  · exact absurd ((rowValid_withdrawal hstored).symm.trans hinvalid) (by decide)

/-- A submission given up before the transfer. -/
theorem always_failUnsent (start : PlatformWorld) {reason : String}
    (hw : w ∈ world.db.rows .withdrawals) (happroved : w.status = .approved)
    (hdb : world.db = start.db)
    (hunsent : Unsent start world)
    (hreturns : ∀ w' world', Unsent start world' → Carried .fail w start.db w' world'.db →
      returns w' world')
    (hraises : ∀ e world', Unsent start world' → raises e world') :
    Always aside returns raises (failWithdrawal w reason actorId) world := by
  have hfrom : w.status ∈ [.approved, .processing, .ambiguous] := by
    rw [happroved]
    decide
  refine always_failWithdrawal haside hw hfrom ?_ (fun _ e db => hraises e _ hunsent)
  intro wallet hwallet htenant wallet' time db hreleased heffect
  rw [hdb] at hwallet heffect
  exact hreturns _ _ hunsent ⟨by constructor <;> rfl, rfl, wallet, wallet', hwallet, htenant,
    hreleased, by simp, heffect⟩

theorem submitToSelcom_always (hw : w ∈ world.db.rows .withdrawals) :
    Always aside
      (fun w' world' =>
        (Unsent world world' ∧ NotSubmitted w world.db w' world'.db ∧
          (w.status = .approved → w'.status = .approved → Unanswered settings w world world')) ∨
        ∃ submitted db lookup process queries,
          Sent world w submitted db lookup process queries world'.sent ∧
          Settled submitted db process queries w' world'.db)
      (fun _ world' => Unsent world world' ∨
        ∃ submitted db lookup process queries,
          Sent world w submitted db lookup process queries world'.sent ∧
          Unkept submitted db process queries)
      (submitToSelcom settings w actorId) world := by
  have hfailed : ∀ w' (world' : PlatformWorld), Unsent world world' →
      Carried .fail w world.db w' world'.db →
      (Unsent world world' ∧ NotSubmitted w world.db w' world'.db ∧
        (w.status = .approved → w'.status = .approved → Unanswered settings w world world')) ∨
      ∃ submitted db lookup process queries,
        Sent world w submitted db lookup process queries world'.sent ∧
        Settled submitted db process queries w' world'.db := by
    intro w' world' hunsent hfailed
    refine Or.inl ⟨hunsent, Or.inr hfailed, fun _ happroved => ?_⟩
    rw [hfailed.2.1] at happroved
    cases happroved
  unfold submitToSelcom
  split
  · rename_i hstatus
    exact Or.inl ⟨.refl world, Or.inl ⟨rfl, rfl⟩, fun happroved => absurd happroved hstatus⟩
  rename_i hstatus
  have happroved : w.status = .approved := not_not.mp hstatus
  split
  · exact always_failUnsent haside world hw happroved rfl (.refl world)
      hfailed (fun e world' h => Or.inl h)
  rename_i henabled
  split
  · exact always_failUnsent haside world hw happroved rfl (.refl world)
      hfailed (fun e world' h => Or.inl h)
  rename_i hproduction
  refine always_bind.mpr (always_getById_found (not_aside haside (by decide))
    fun destination hdestination => ?_)
  dsimp only
  split
  · exact always_failUnsent haside world hw happroved rfl (.refl world)
      hfailed (fun e world' h => Or.inl h)
  rename_i hcomplete
  have hlooksUp : Ready settings → LooksUp settings w world.db := by
    intro hready
    refine ⟨Bool.eq_true_of_not_eq_false henabled, fun h =>
      Bool.eq_true_of_not_eq_false fun h' => hproduction ⟨h, h'⟩, ?_, hready⟩
    rw [not_or] at hcomplete
    cases destination with
    | none => exact absurd rfl hcomplete.1
    | some destination =>
      obtain ⟨hstored, htenant, hid⟩ := hdestination destination rfl
      exact ⟨destination, hstored, hid, by simpa [ofTenant, rowTenant] using htenant,
        hcomplete.1, hcomplete.2⟩
  refine always_bind.mpr (always_configFromSettings (fun hdecoded => ?_)
    (fun _ e => Or.inl (.refl world)))
  refine always_bind.mpr (always_attempt hdecoded (fun hready lookup => ?_)
    (fun _ => ⟨fun error hsendable => ?_, fun e => Or.inl (.refl world)⟩))
  · have hlooked : ∀ request, aboutKey request = none →
        Unsent world { world with sent := world.sent ++ [(request, lookup)] } :=
      fun request h => ⟨[(request, lookup)], rfl, by simpa using h⟩
    cases hlookup : validated accountLookupResponse lookup with
    | ok response =>
      dsimp only
      split
      · exact always_failUnsent haside world hw happroved rfl (hlooked _ rfl)
          hfailed (fun e world' h => Or.inl h)
      · refine always_bind.mpr (always_updateWithdrawal (not_aside haside (by decide)) hw
          (by constructor <;> rfl) (fun named _ hnamed => ?_)
          (fun _ => Or.inl (hlooked _ rfl)))
        have hcharge : chargeOf lookup =
            (response.data.bind fun data => moneyFromProvider data.totalCharges).map
              toNumeric := by
          simp only [chargeOf, hlookup]
        refine always_submitTransfer haside hready (hnamed.mem hw rfl) happroved ?_ ?_
        · intro submitted db process queries w' db' hsame hstatus hcharged heffect hsettled
          refine Or.inr ⟨submitted, db, lookup, process, queries, ⟨?_, hstatus, ?_, ?_, ?_⟩,
            hsettled⟩
          · exact Withdrawal.SameRequest.trans (by constructor <;> rfl) hsame
          · rw [hcharged, hcharge]
          · exact (Effect.of_written w hnamed (by constructor <;> rfl) rfl rfl rfl rfl).trans heffect
          · exact ⟨_, _, rfl, rfl, rfl, by rw [List.append_assoc]; rfl⟩
        · intro submitted db process queries hsame hstatus hcharged heffect hunkept e db'
          refine Or.inr ⟨submitted, db, lookup, process, queries, ⟨?_, hstatus, ?_, ?_, ?_⟩,
            hunkept⟩
          · exact Withdrawal.SameRequest.trans (by constructor <;> rfl) hsame
          · rw [hcharged, hcharge]
          · exact (Effect.of_written w hnamed (by constructor <;> rfl) rfl rfl rfl rfl).trans heffect
          · exact ⟨_, _, rfl, rfl, rfl, by rw [List.append_assoc]; rfl⟩
    | error failure =>
      rcases validated_error hlookup with ⟨message, rfl⟩ | ⟨message, statusCode, rfl⟩ | rfl
      · obtain ⟨detail, rfl⟩ := transportError_of_validated hlookup
        exact Or.inl ⟨hlooked _ rfl, Or.inl ⟨rfl, rfl⟩,
          fun _ _ => ⟨hlooksUp hready, _, detail, rfl⟩⟩
      · exact always_failUnsent haside world hw happroved rfl (hlooked _ rfl)
          hfailed (fun e world' h => Or.inl h)
      · exact Or.inl (hlooked _ rfl)
  · cases error with
    | transport message => exact absurd rfl (hsendable message)
    | _ =>
      exact always_failUnsent haside world hw happroved rfl (.refl world)
        hfailed (fun e world' h => Or.inl h)

end Rules

end InfinityRadius.Services.PayoutService
