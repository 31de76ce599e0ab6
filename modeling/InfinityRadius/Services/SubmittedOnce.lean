import InfinityRadius.Services.PayoutRuns

/-!
# A transfer is requested at most once

As long as every answer to a transfer can be kept, a withdrawal whose transfer was
requested has left the statuses a transfer starts from for good.
-/

namespace InfinityRadius.Services.PayoutService

open Amounts Database Payload Program Sql Models Integrations.SelcomBusiness

/-- How often the transfer under a key was requested. -/
def transfers (sent : List (Request × HttpResult)) (key : String) : ℕ :=
  sent.countP fun exchange => processKey exchange.1 == some key

/-- The operation would close the withdrawal and release its reservation. -/
def Operation.Closes (withdrawalId : ℕ) : Operation → Prop
  | .cancelWithdrawal _ id _ _ => id = withdrawalId
  | .rejectWithdrawal id _ _ => id = withdrawalId
  | _ => False

/-- The withdrawal under the key has left the statuses a transfer starts from. -/
def Past (db : PlatformDb) (key : String) : Prop :=
  ∃ w ∈ db.rows .withdrawals, w.idempotencyKey = key ∧ w.status.early = false

/-- No transfer was requested twice, and a withdrawal whose transfer was requested
can neither be submitted again nor be cancelled or rejected. -/
structure SubmittedOnce (world : PlatformWorld) : Prop where
  once : ∀ key, transfers world.sent key ≤ 1
  notEarly : ∀ w ∈ world.db.rows .withdrawals, transfers world.sent w.idempotencyKey ≠ 0 →
    w.status.early = false
  notClosed : ∀ w ∈ world.db.rows .withdrawals, transfers world.sent w.idempotencyKey ≠ 0 →
    ∀ step : Step, step.operation.Closes w.id → (step.next world).db = world.db

/-- Where the step requests the transfer of a withdrawal, the answer to it, and to the
query after a transport error, fits its response model and can be recorded. -/
def AnswersKept (step : Step) (world : PlatformWorld) : Prop :=
  ∀ w ∈ world.db.rows .withdrawals, transfers (step.exchanges world.db) w.idempotencyKey ≠ 0 →
    Keepable { w with
        status := .processing
        providerCharge := chargeOf (step.outside.respond 0) } world.db
      (step.outside.respond 1) (step.outside.respond 2)

/-! ## Requests -/

@[simp]
theorem transfers_nil (key : String) : transfers [] key = 0 := rfl

@[simp]
theorem transfers_append (sent more : List (Request × HttpResult)) (key : String) :
    transfers (sent ++ more) key = transfers sent key + transfers more key :=
  List.countP_append

theorem transfers_eq_zero {sent : List (Request × HttpResult)} {key : String} :
    transfers sent key = 0 ↔ ∀ exchange ∈ sent, processKey exchange.1 ≠ some key := by
  simp [transfers, List.countP_eq_zero]

theorem Unsent.transfers {db : PlatformDb} {world' : PlatformWorld}
    (h : Unsent ⟨db, []⟩ world') (key : String) : transfers world'.sent key = 0 := by
  obtain ⟨more, hmore, hnone⟩ := h
  rw [hmore]
  refine transfers_eq_zero.mpr fun exchange hexchange => ?_
  rw [processKey_of_aboutKey (hnone exchange hexchange)]
  exact nofun

theorem Sent.transfers {db middle : PlatformDb} {w submitted : Withdrawal}
    {lookup process : HttpResult} {queries : List HttpResult}
    {sent : List (Request × HttpResult)}
    (h : Sent ⟨db, []⟩ w submitted middle lookup process queries sent) (key : String) :
    transfers sent key = if w.idempotencyKey = key then 1 else 0 := by
  obtain ⟨lookupRequest, transfer, hlookup, -, htransfer, rfl⟩ := h.sent
  have hlookup := processKey_of_aboutKey hlookup
  have hqueries : PayoutService.transfers
      (queries.map fun query => (Request.transactionQuery w.idempotencyKey, query)) key = 0 := by
    refine transfers_eq_zero.mpr fun exchange hexchange => ?_
    obtain ⟨query, -, rfl⟩ := List.mem_map.mp hexchange
    exact nofun
  unfold PayoutService.transfers at hqueries ⊢
  simp only [List.nil_append, List.countP_cons, hlookup, htransfer, hqueries]
  by_cases hkey : w.idempotencyKey = key <;> simp [hkey]

/-! ## Statuses -/

theorem not_early_of_pending {status : WithdrawalStatus} (h : status.pending = true) :
    status.early = false := by
  cases status <;> first | rfl | cases h

variable {db db' : PlatformDb} {w w' : Withdrawal}

/-- What a result decides never returns a withdrawal to an early status. -/
theorem Carried.early {result : ProviderResult} (h : Carried (decision w result) w db w' db')
    (hearly : w.status.early = false) : w'.status.early = false := by
  obtain ⟨-, h⟩ := h
  cases hdecision : decision w result <;> rw [hdecision] at h
  · rw [h.1]
    exact hearly
  all_goals
    rw [h.1]
    first | rfl | exact hearly

theorem Carried.rows {choice : Decision} (h : Carried choice w db w' db')
    (hw : w ∈ db.rows .withdrawals) :
    db'.rows .withdrawals = replaceRow schema .withdrawals w' (db.rows .withdrawals) := by
  obtain ⟨-, h⟩ := h
  cases choice with
  | ignored =>
    obtain ⟨rfl, rfl⟩ := h
    exact (db'.replaceRow_of_mem hw).symm
  | keep => exact h.2.withdrawals
  | mismatched mismatch => exact h.2.withdrawals
  | ambiguous => exact h.2.withdrawals
  | complete =>
    obtain ⟨-, entry, -, wallet, wallet', hmoved⟩ := h
    exact hmoved.effect.withdrawals
  | fail =>
    obtain ⟨-, wallet, wallet', hmoved⟩ := h
    exact hmoved.effect.withdrawals

/-- `w` was rewritten as `w'`, past submission if it was. -/
structure Rewritten (w : Withdrawal) (db : PlatformDb) (w' : Withdrawal) (db' : PlatformDb) :
    Prop where
  same : w.SameRequest w'
  early : w.status.early = false → w'.status.early = false
  rows : db'.rows .withdrawals = replaceRow schema .withdrawals w' (db.rows .withdrawals)

theorem Rewritten.refl (hw : w ∈ db.rows .withdrawals) : Rewritten w db w db :=
  ⟨.refl w, id, (db.replaceRow_of_mem hw).symm⟩

theorem Carried.rewritten {result : ProviderResult}
    (h : Carried (decision w result) w db w' db') (hw : w ∈ db.rows .withdrawals) :
    Rewritten w db w' db' :=
  ⟨h.1, h.early, h.rows hw⟩

theorem Settled.rewritten {process : HttpResult} {queries : List HttpResult}
    (h : Settled w db process queries w' db') (hw : w ∈ db.rows .withdrawals) :
    Rewritten w db w' db' := by
  unfold Settled at h
  split at h
  · exact h.2.rewritten hw
  · obtain ⟨query, -, h⟩ := h
    split at h
    · exact h.rewritten hw
    · rw [h.1, h.2]
      exact .refl hw
    · exact h.elim
  · exact ⟨h.2.1, fun _ => by rw [h.2.2.1]; rfl, h.2.rows hw⟩
  · exact h.elim

theorem Resolved.rewritten {query : HttpResult} (h : Resolved w db query w' db')
    (hw : w ∈ db.rows .withdrawals) : Rewritten w db w' db' := by
  unfold Resolved at h
  split at h
  · exact h.rewritten hw
  · rw [h.1, h.2]
    exact .refl hw

theorem Past.rewritten {key : String} (h : Past db key) (hw : w ∈ db.rows .withdrawals)
    (hwritten : Rewritten w db w' db') : Past db' key := by
  obtain ⟨v, hv, hkey, hvearly⟩ := h
  by_cases hid : v.id = w.id
  · obtain rfl := db.id_injOn (t := .withdrawals) hv hw hid
    refine ⟨w', ?_, hwritten.same.idempotencyKey.trans hkey, hwritten.early hvearly⟩
    rw [hwritten.rows]
    exact mem_replaceRow_self hv hwritten.same.id.symm
  · refine ⟨v, ?_, hkey, hvearly⟩
    rw [hwritten.rows]
    exact List.mem_map.mpr ⟨v, hv, if_neg fun h => hid (h.trans hwritten.same.id)⟩

/-! ## Steps -/

variable {world : PlatformWorld} {more : List (Request × HttpResult)} {key : String}

variable {runtime : Runtime} {operation : Operation}

theorem early_of_mem {status : WithdrawalStatus} (h : status ∈ [.draft, .pendingApproval]) :
    status.early = true := by
  revert h
  cases status <;> decide

/-- The transfer requested last, where one was. -/
theorem Outcome.sent (h : Outcome runtime operation ⟨db, []⟩ ⟨db', more⟩)
    (hkey : transfers more key ≠ 0) :
    ∃ w ∈ db.rows .withdrawals, w.idempotencyKey = key ∧ w.status.early = true ∧
      operation.Grants runtime w .approved ∧
      ∃ submitted middle lookup process queries w',
        Sent ⟨db, []⟩ w submitted middle lookup process queries more ∧
        Settled submitted middle process queries w' db' := by
  cases h with
  | requested _ h =>
    obtain ⟨w, wallet, wallet', h⟩ := h
    exact absurd (h.unsent.transfers key) hkey
  | reissued _ h => exact absurd (h.1.transfers key) hkey
  | reversed _ h => exact absurd (h.1.transfers key) hkey
  | reconciled h =>
    rcases h with heq | ⟨w, hw, query, w', hsent, -⟩
    · cases heq
      exact absurd rfl hkey
    · have hmore : more = [(.transactionQuery w.idempotencyKey, query)] := hsent
      rw [hmore] at hkey
      exact absurd rfl hkey
  | advanced h =>
    obtain ⟨w, hw, hstatus, w', ⟨hunsent, -⟩ |
      ⟨hgranted, submitted, middle, lookup, process, queries, hsent, hsettled⟩⟩ := h
    · exact absurd (hunsent.transfers key) hkey
    · refine ⟨w, hw, ?_, early_of_mem hstatus, hgranted, submitted, middle, lookup, process,
        queries, w', hsent, hsettled⟩
      by_contra hne
      exact hkey (by rw [hsent.transfers, if_neg hne])

/-- The row of a submitted withdrawal once its answers are settled. -/
theorem Sent.rewritten {submitted : Withdrawal} {middle : PlatformDb}
    {lookup process : HttpResult} {queries : List HttpResult}
    (hsent : Sent world w submitted middle lookup process queries more)
    (hw : w ∈ world.db.rows .withdrawals)
    (hsettled : Settled submitted middle process queries w' db') :
    Rewritten w world.db w' db' ∧ w'.status.early = false := by
  have hsettled := hsettled.rewritten (hsent.effect.mem hw)
  have hearly : w'.status.early = false := hsettled.early (by rw [hsent.status]; rfl)
  refine ⟨⟨hsent.same.trans hsettled.same, fun _ => hearly, ?_⟩, hearly⟩
  rw [hsettled.rows, hsent.effect.withdrawals]
  exact replaceRow_replaceRow hsettled.same.id.symm

/-- What is past submission stays so. -/
theorem Outcome.past (h : Outcome runtime operation ⟨db, []⟩ ⟨db', more⟩) (hpast : Past db key) :
    Past db' key := by
  cases h with
  | requested _ h =>
    obtain ⟨w, wallet, wallet', h⟩ := h
    obtain ⟨v, hv, hkey, hearly⟩ := hpast
    refine ⟨v, ?_, hkey, hearly⟩
    rw [h.withdrawals]
    exact List.mem_append_left _ hv
  | reissued _ h =>
    obtain ⟨-, w, hw, -, -, w', code, hissued, hreplaced⟩ := h
    refine hpast.rewritten hw ⟨hissued.same, fun hearly => ?_, hreplaced.rows_self⟩
    rwa [hissued.status]
  | reversed _ h =>
    obtain ⟨-, w, hw, -, w', entry, hstatus, -, wallet, wallet', hmoved⟩ := h
    exact hpast.rewritten hw ⟨hmoved.effect.same, fun _ => by rw [hstatus]; rfl,
      hmoved.effect.withdrawals⟩
  | reconciled h =>
    rcases h with heq | ⟨w, hw, query, w', -, hresolved⟩
    · cases heq
      exact hpast
    · exact hpast.rewritten hw (hresolved.rewritten hw)
  | advanced h =>
    obtain ⟨w, hw, hstatus, w', ⟨-, hrest⟩ |
      ⟨-, submitted, middle, lookup, process, queries, hsent, hsettled⟩⟩ := h
    · have hwritten := hrest.1.written
      refine hpast.rewritten hw ⟨hwritten.1, fun hnot => ?_, hwritten.2⟩
      rw [early_of_mem hstatus] at hnot
      cases hnot
    · exact hpast.rewritten hw (hsent.rewritten hw hsettled).1

/-- What every step keeps: a transfer was requested at most once, for a withdrawal
that is past submission. -/
structure Tracked (world : PlatformWorld) : Prop where
  once : ∀ key, transfers world.sent key ≤ 1
  past : ∀ key, transfers world.sent key ≠ 0 → Past world.db key

theorem withdrawal_unique (db : PlatformDb) {left right : Withdrawal}
    (hleft : left ∈ db.rows .withdrawals) (hright : right ∈ db.rows .withdrawals)
    (hkey : left.idempotencyKey = right.idempotencyKey) : left = right := by
  by_contra hne
  have hconflict := (db.apart_of_ne (t := .withdrawals) hleft hright hne).2
  simp [rowConflict, hkey] at hconflict

/-- An early withdrawal has not been submitted. -/
theorem Tracked.transfers_early (h : Tracked world) (hw : w ∈ world.db.rows .withdrawals)
    (hearly : w.status.early = true) : transfers world.sent w.idempotencyKey = 0 := by
  by_contra hsent
  obtain ⟨v, hv, hkey, hvearly⟩ := h.past _ hsent
  rw [withdrawal_unique world.db hv hw hkey, hearly] at hvearly
  cases hvearly

theorem Tracked.unsent (h : Tracked world) (hnone : ∀ key, transfers more key = 0) :
    Tracked { world with sent := world.sent ++ more } where
  once key := by
    rw [transfers_append, hnone, Nat.add_zero]
    exact h.once key
  past key hkey := by
    rw [transfers_append, hnone, Nat.add_zero] at hkey
    exact h.past key hkey

theorem Tracked.outcome (h : Tracked world)
    (hstep : Outcome runtime operation ⟨world.db, []⟩ ⟨db', more⟩) :
    Tracked ⟨db', world.sent ++ more⟩ := by
  refine ⟨fun key => ?_, fun key hkey => ?_⟩
  · rw [transfers_append]
    by_cases hmore : transfers more key = 0
    · rw [hmore, Nat.add_zero]
      exact h.once key
    · obtain ⟨w, hw, rfl, hearly, -, submitted, middle, lookup, process, queries, w', hsent, -⟩ :=
        hstep.sent hmore
      rw [h.transfers_early hw hearly, hsent.transfers, if_pos rfl]
  · rw [transfers_append] at hkey
    by_cases hmore : transfers more key = 0
    · rw [hmore, Nat.add_zero] at hkey
      exact hstep.past (h.past key hkey)
    · obtain ⟨w, hw, rfl, -, -, submitted, middle, lookup, process, queries, w', hsent, hsettled⟩ :=
        hstep.sent hmore
      obtain ⟨hwritten, hearly⟩ := hsent.rewritten hw hsettled
      refine ⟨w', ?_, hwritten.same.idempotencyKey, hearly⟩
      rw [hwritten.rows]
      exact mem_replaceRow_self hw hwritten.same.id.symm

/-- An operation raised after it requested a transfer only where an answer could not
be kept. -/
theorem not_abandoned {step : Step} (hkept : AnswersKept step world) {w submitted : Withdrawal}
    {middle : PlatformDb} {lookup process : HttpResult} {queries : List HttpResult}
    (hw : w ∈ world.db.rows .withdrawals)
    (hsent : Sent ⟨world.db, []⟩ w submitted middle lookup process queries
      (step.exchanges world.db)) :
    ¬Unkept submitted middle process queries := by
  obtain ⟨lookupRequest, transfer, -, -, -, hexchanges⟩ := hsent.sent
  have hanswer : ∀ i exchange, (step.exchanges world.db)[i]? = some exchange →
      exchange.2 = step.outside.respond i := fun i exchange => exchanges_respond
  rw [hexchanges] at hanswer
  have hlookup : lookup = step.outside.respond 0 := hanswer 0 _ rfl
  have hprocess : process = step.outside.respond 1 := hanswer 1 _ rfl
  have halike : Alike { w with
      status := .processing
      providerCharge := chargeOf (step.outside.respond 0) } submitted :=
    ⟨.trans (by constructor <;> rfl) hsent.same, hsent.status, by rw [hsent.charge, hlookup]⟩
  have hkeep := hkept w hw (by rw [hsent.transfers]; simp)
  rw [← hprocess, ← halike.keepable hsent.effect.wallets] at hkeep
  match queries, hanswer with
  | [], _ => exact fun h => h _ hkeep
  | [query], hanswer =>
    have hquery : query = step.outside.respond 2 := hanswer 2 _ rfl
    rw [hquery]
    exact fun h => h hkeep
  | _ :: _ :: _, _ => exact id

theorem Tracked.next {step : Step} (hkept : AnswersKept step world) (h : Tracked world) :
    Tracked (step.next world) := by
  rcases step.next_outcome world with ⟨db, hnext, -, houtcome⟩ | ⟨e, hnext, -, db, habandoned⟩
  · rw [hnext]
    exact h.outcome houtcome
  · rw [hnext]
    rcases habandoned with hunsent | ⟨v, -, query, hqueried⟩ |
      ⟨w, hw, -, -, submitted, middle, lookup, process, queries, hsent, hunkept⟩
    · exact h.unsent hunsent.transfers
    · have hqueried : step.exchanges world.db = [(.transactionQuery v.idempotencyKey, query)] :=
        hqueried
      rw [hqueried]
      exact h.unsent fun _ => rfl
    · exact absurd hunkept (not_abandoned hkept hw hsent)

/-- An operation that would close a withdrawal past submission raises. -/
theorem db_next_of_closes {step : Step} (hw : w ∈ world.db.rows .withdrawals)
    (hearly : w.status.early = false) (hcloses : step.operation.Closes w.id) :
    (step.next world).db = world.db := by
  have haside : ∀ t : Table, (fun _ => false) t = true → t = .paymentWebhooks :=
    fun _ h => by cases h
  have hraises : Always (fun _ => false) (fun _ _ => False) (fun _ _ => True) step.program
      ⟨world.db, []⟩ := by
    rcases step with ⟨operation, runtime, outside⟩
    cases operation with
    | cancelWithdrawal tenantId withdrawalId actorId reason =>
      obtain rfl : withdrawalId = w.id := hcloses
      refine always_bind.mpr (always_lockWithdrawal haside (fun v hv hid _ => ?_) trivial)
      obtain rfl := world.db.id_injOn (t := .withdrawals) hv hw hid
      refine always_bind.mpr (always_require (fun _ => ?_) fun _ => trivial)
      refine always_bind.mpr (always_require (fun hopen => ?_) fun _ => trivial)
      rcases hopen with h | h <;> rw [h] at hearly <;> cases hearly
    | rejectWithdrawal withdrawalId actorId reason =>
      obtain rfl : withdrawalId = w.id := hcloses
      refine always_bind.mpr (always_bind.mpr (always_require (fun _ => ?_) fun _ => trivial))
      refine always_lockWithdrawal haside (fun v hv hid _ => ?_) trivial
      obtain rfl := world.db.id_injOn (t := .withdrawals) hv hw hid
      refine always_bind.mpr (always_require (fun hopen => ?_) fun _ => trivial)
      rw [hopen] at hearly
      cases hearly
    | _ => exact hcloses.elim
  rcases Step.next_cases hraises with ⟨db, -, -, h⟩ | ⟨e, db, hnext, -, -⟩
  · exact h.elim
  · rw [hnext]

theorem Tracked.submittedOnce (h : Tracked world) : SubmittedOnce world where
  once := h.once
  notEarly w hw hsent := by
    by_contra hearly
    exact hsent (h.transfers_early hw (Bool.eq_true_of_not_eq_false hearly))
  notClosed w hw hsent step hcloses := by
    refine db_next_of_closes hw ?_ hcloses
    by_contra hearly
    exact hsent (h.transfers_early hw (Bool.eq_true_of_not_eq_false hearly))

def sampleSettings : Settings where
  selcomDisbursementEnabled := true
  selcomBusinessEnvironment := .sandbox
  selcomBusinessBaseUrl := some ⟨"https://sandbox.selcom.business", "sandbox.selcom.business"⟩
  selcomBusinessApiKey := some "key"
  selcomBusinessPrivateKey := .rsa
  selcomProductionPayoutsEnabled := false
  selcomWithdrawalApprovalThresholdTzs := 1000000
  withdrawalMinAmountTzs := none
  withdrawalMaxSingleAmountTzs := none
  withdrawalDailyLimitTzs := none
  withdrawalDailyCountLimit := none
  otpVerificationSecret := some "secret"
  withdrawalOtpTtlSeconds := 600
  withdrawalOtpMaxAttempts := 5
  withdrawalOtpResendCooldownSeconds := 60
  withdrawalOtpMaxSends := 5
  superAdminReviewEmail := none
  publicApiDomain := none
  apiV1Prefix := "/api/v1"
  selcomCollectionEnabled := false
  selcomCollectionProductionEnabled := false
  selcomCollectionBaseUrl := none
  selcomCollectionApiKey := none
  selcomCollectionApiSecret := none
  selcomCollectionPrivateKey := .unset
  selcomCollectionDigestMethod := none
  selcomCollectionVendor := none
  selcomCollectionPendingReviewMinutes := 30
  transactionTokenKeyIsFernet := true
  captiveIntentTokenSigningKey := .fernet
  captiveIntentTokenTtlSeconds := 900
  secretsEncryptionKey := "secrets"
  networkAgentBaseUrl := some "https://agent.example.com"
  networkAgentApiKey := some "agent"
  radiusDatabaseUrl := none

def sampleRuntime : Runtime where
  settings := sampleSettings
  -- of the message "0:123456" under the key "secret"
  hmacSha256 _ _ := "8858ccea84c2c9c96b9c6c4756b0a5ed94cc32c5d70fb680f1aa7bc2eec1db77"
  transactionTime := 0
  intentSession _ := none
  tokenTransaction _ := none

/-- A tenant that can withdraw, with 10000 TZS available. -/
def openingRows : (t : Table) → List (Row t)
  | .tenantWallets =>
    [{ id := 0, tenantId := 1, currency := "TZS", availableBalanceTzs := 1000000 }]
  | .withdrawalDestinations =>
    [{ id := 0, tenantId := 1, channel := "MOBILE_MONEY", destinationCode := some "VMCASHIN",
       accountNumber := some "255700000000" }]
  | .tenantSettlementConfig =>
    [{ id := 0, tenantId := 1, mode := .platformManagedWallet, isActive := true }]
  | .tenantFeatureFlags => [{ id := 0, tenantId := 1, payoutEnabled := true }]
  | .tenantVerifications => [{ id := 0, tenantId := 1, emailVerifiedAt := some 0 }]
  | .profiles => [{ id := 5, tenantId := some 1, email := some "owner@example.com" }]
  | _ => []

def openingDb : PlatformDb where
  rows := openingRows
  valid t := by cases t <;> decide +kernel
  apart t := by cases t <;> decide +kernel

def sampleAnswer : ℕ → (question : Ask) → Answer question
  | _, .now => 0
  | _, .uuidHex => "4f1c"
  | _, .randomCode => "123456"
  | _, .customerNumber => "1000"
  | _, .sendEmail _ => true
  | _, .captiveLimiter _ _ _ => none
  | _, .nonce => "nonce"
  | _, .intentToken _ => "intent"
  | _, .fernetToken _ => "token"
  | _, .verifyWebhook _ _ => .verified
  | _, .responseText => ""
  | _, .roleCodes _ => ["TENANT_OWNER"]

/-- The given answers, and timeouts after them. -/
def answering (answers : List HttpResult) : Outside where
  answer := sampleAnswer
  respond i := answers.getD i (.transportError "timed out")

/-- A name was found for the destination. -/
def lookupFound : HttpResult :=
  .response 200 (some (.obj [("success", .bool true), ("data", .obj [("accountName", .str "ASHA")])]))

def requestStep : Step := ⟨.requestWithdrawal 1 5 0 5000, sampleRuntime, answering []⟩

/-- The requester confirms; the lookup finds a name and the transfer is answered so. -/
def confirmStep (answers : List HttpResult) : Step :=
  ⟨.confirmTwoFactor 1 0 5 "123456", sampleRuntime, answering (lookupFound :: answers)⟩

/-- A success without the field `success`, which the response model requires. -/
def unreadable : HttpResult := .response 200 (some (.obj [("resultcode", .str "000")]))

end InfinityRadius.Services.PayoutService
