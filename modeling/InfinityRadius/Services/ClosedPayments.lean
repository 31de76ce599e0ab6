import InfinityRadius.Services.AccessRuns
import InfinityRadius.Tasks.Reconciliation

/-!
# How payments are closed

A payment is decided by the answer to a status query, unless its initiation failed.  An
initiation counts a prompt as failed whose answer did not come, or is not JSON.
-/

namespace InfinityRadius.Models

/-- The reference a prompt is sent for. -/
def Request.prompted : Request → Option String
  | .walletPayment _ reference _ => some reference
  | _ => none

/-- The reference a status is asked for. -/
def Request.queried : Request → Option String
  | .orderStatus reference => some reference
  | _ => none

/-- No answer came, or one that is not JSON or reports an error. -/
def HttpResult.Failed : HttpResult → Prop
  | .transportError _ => True
  | .response _ none => True
  | .response statusCode (some _) => 400 ≤ statusCode

end InfinityRadius.Models

namespace InfinityRadius.Services

open Database Payload Program Sql Models Integrations.SelcomCollection

/-! ## Status queries -/

namespace SelcomPaymentProvider

/-- The data of an order names the status. -/
def Names (statusData : OrderStatusData) (status : CollectionStatus) : Prop :=
  (normalizedStatus statusData = "COMPLETED" ∧ status = .completed) ∨
    paymentStatusToCollectionStatus.lookup (normalizedStatus statusData) = some status

/-- The answer to a status query names the status. -/
def Reports (answer : HttpResult) (status : CollectionStatus) : Prop :=
  ∃ response statusData, validated orderStatusResponse answer = .ok response ∧
    response.first = some statusData ∧ Names statusData status

/-- At most the row of the transaction changed, and it is decided only as the data says. -/
inductive Decides (t : Transaction) (statusData : OrderStatusData) (db db' : PlatformDb) : Prop
  | kept (h : db'.rows .transactions = db.rows .transactions)
  | written {t' : Transaction} (hid : t.id = t'.id) (hreference : t'.reference = t.reference)
      (hnamed : t'.status.terminal = true → Names statusData t'.status)
      (hrows : db'.rows .transactions =
        replaceRow schema .transactions t' (db.rows .transactions))

/-- A payment that is decided was so before, or the answer to a query for it names its status. -/
def Backed (db db' : PlatformDb) (more : List (Request × HttpResult)) : Prop :=
  ∀ t' ∈ db'.rows .transactions, t'.status.terminal = true →
    (∃ t ∈ db.rows .transactions, t.id = t'.id ∧ t.status.terminal = true) ∨
    ∃ exchange ∈ more, exchange.1.queried = some t'.reference ∧ Reports exchange.2 t'.status

section Queries

variable {settings : Settings} {provider : SelcomPaymentProvider} {world : PlatformWorld}
  {db db' : PlatformDb} {t : Transaction} {statusData : OrderStatusData}
  {resultcode : Option String} {more : List (Request × HttpResult)}

theorem Backed.of_rows (h : db'.rows .transactions = db.rows .transactions) :
    Backed db db' more := by
  intro t ht hterminal
  rw [h] at ht
  exact Or.inl ⟨t, ht, rfl, hterminal⟩

theorem Backed.congr {start final : PlatformDb} (h : Backed start final more)
    (hbefore : start.rows .transactions = db.rows .transactions)
    (hafter : db'.rows .transactions = final.rows .transactions) : Backed db db' more := by
  rw [Backed, hafter, ← hbefore]
  exact h

theorem Decides.backed {answer : HttpResult} {response : OrderStatusResponse}
    (h : Decides t statusData db db') (hvalid : validated orderStatusResponse answer = .ok response)
    (hfirst : response.first = some statusData) :
    Backed db db' [(.orderStatus t.reference, answer)] := by
  cases h with
  | kept h => exact .of_rows h
  | @written written hid hreference hnamed hrows =>
    intro other hother hterminal
    rw [hrows] at hother
    rcases mem_replaceRow hother with rfl | ⟨hold, -⟩
    · right
      use (.orderStatus t.reference, answer), List.mem_singleton_self _
      constructor
      · rw [hreference]
        rfl
      · exact ⟨response, statusData, hvalid, hfirst, hnamed hterminal⟩
    · exact Or.inl ⟨other, hold, rfl, hterminal⟩

theorem always_written {toStatus : CollectionStatus} {metadata : List (Option String)}
    {extraColumns : Transaction → Transaction} (ht : t ∈ world.db.rows .transactions)
    (hset : t.SameOrder { extraColumns t with status := toStatus })
    (hnamed : toStatus.terminal = true → Names statusData toStatus) :
    Always (fun _ => false) (fun _ world' => Decides t statusData world.db world'.db)
      (fun _ _ => True) (transition t toStatus metadata extraColumns) world := by
  apply always_transition ht hset
  · intro db hreplaced
    exact .written hset.id.symm hset.reference hnamed hreplaced.rows_self
  · exact fun _ _ => trivial

theorem always_applyCompleted_decides (hfinalises : provider.Finalises)
    (ht : t ∈ world.db.rows .transactions)
    (htype : t.transactionType = some provider.flow.transactionType)
    (hcompleted : normalizedStatus statusData = "COMPLETED") :
    Always (fun _ => false) (fun _ world' => Decides t statusData world.db world'.db)
      (fun _ _ => True) (applyCompleted provider t statusData resultcode) world := by
  rw [applyCompleted]
  split
  · apply always_written ht
    · constructor <;> rfl
    · exact fun h => by cases h
  · apply always_bind.mpr
    apply (hfinalises t statusData world ht htype).mono
    · rintro finalised ⟨middle, sent⟩ ⟨hfinalised, -⟩
      have hmem : finalised ∈ middle.rows .transactions := by
        rw [hfinalised.transactions]
        exact mem_replaceRow_self ht hfinalised.sameOrder.id.symm
      apply always_bind.mpr
      apply always_now.mpr
      intro time
      apply always_transition hmem
      · constructor <;> rfl
      · intro db hreplaced
        have hrows := hreplaced.rows_self
        rw [hfinalised.transactions, replaceRow_replaceRow (by rfl)] at hrows
        apply Decides.written _ _ _ hrows
        · exact hfinalised.sameOrder.id.symm
        · exact hfinalised.sameOrder.reference
        · exact fun _ => Or.inl ⟨hcompleted, rfl⟩
      · exact fun _ _ => trivial
    · exact fun _ _ _ => trivial

theorem always_applyMapped_decides (ht : t ∈ world.db.rows .transactions) :
    Always (fun _ => false) (fun _ world' => Decides t statusData world.db world'.db)
      (fun _ _ => True)
      (applyMapped settings t statusData (normalizedStatus statusData) resultcode) world := by
  rw [applyMapped]
  split
  · apply always_written ht
    · constructor <;> rfl
    · exact fun h => by cases h
  · rename_i mapped hmapped
    split
    · apply always_bind.mpr
      apply always_now.mpr
      intro time
      apply always_written ht
      · constructor <;> rfl
      · exact fun _ => Or.inr hmapped
    · split
      · exact .kept rfl
      · apply always_bind.mpr
        apply always_isStalePending
        intro stale
        split
        · apply always_written ht
          · constructor <;> rfl
          · exact fun h => by cases h
        · apply always_written ht
          · constructor <;> rfl
          · exact fun _ => Or.inr hmapped

theorem always_applyOrderStatus_decides (hfinalises : provider.Finalises)
    (ht : t ∈ world.db.rows .transactions) :
    Always (fun _ => false) (fun _ world' => Decides t statusData world.db world'.db)
      (fun _ _ => True) (applyOrderStatus settings provider t statusData resultcode) world := by
  apply always_bind.mpr
  apply always_require
  · intro htype
    split
    · exact .kept rfl
    · split
      · rename_i hcompleted
        exact always_applyCompleted_decides hfinalises ht htype hcompleted
      · exact always_applyMapped_decides ht
  · exact fun _ => trivial

/-- What is committed is backed by what was asked. -/
def BackedBy (world world' : PlatformWorld) : Prop :=
  ∃ more, world'.sent = world.sent ++ more ∧ Backed world.db world'.db more

theorem BackedBy.refl {world' : PlatformWorld} (hsent : world'.sent = world.sent)
    (hrows : world'.db.rows .transactions = world.db.rows .transactions) :
    BackedBy world world' :=
  ⟨[], by rw [hsent, List.append_nil], .of_rows hrows⟩

theorem BackedBy.congr {start final world' : PlatformWorld} (h : BackedBy start final)
    (hbefore : start.sent = world.sent ∧
      start.db.rows .transactions = world.db.rows .transactions)
    (hafter : world'.sent = final.sent ∧
      world'.db.rows .transactions = final.db.rows .transactions) : BackedBy world world' := by
  obtain ⟨more, hsent, hbacked⟩ := h
  use more
  constructor
  · rw [hafter.1, hsent, hbefore.1]
  · exact hbacked.congr hbefore.2 hafter.2

/-- One query decides one payment at most. -/
theorem always_queryAndApply_backed (hfinalises : provider.Finalises)
    (ht : t ∈ world.db.rows .transactions) :
    Always (fun _ => false) (fun _ => BackedBy world) (fun _ _ => True)
      (queryAndApply settings provider t) world := by
  apply always_bind.mpr
  apply always_newClient
  swap
  · exact fun _ => trivial
  intro _
  apply always_bind.mpr
  apply always_attempt
  · intro _ answer response hvalid
    dsimp only
    split
    · exact ⟨_, rfl, .of_rows rfl⟩
    · rename_i statusData hfirst
      apply ((always_applyOrderStatus_decides hfinalises ?_).and
        (always_applyOrderStatus hfinalises ?_)).mono
      · rintro _ final ⟨hdecides, -, hsent⟩
        exact ⟨_, hsent, hdecides.backed hvalid hfirst⟩
      · exact fun _ _ _ => trivial
      · exact ht
      · exact ht
  · exact fun _ answer _ _ => ⟨_, rfl, .of_rows rfl⟩
  · exact fun _ _ => trivial
  · exact fun _ => ⟨fun _ => .refl rfl rfl, fun _ => trivial⟩

theorem always_reconcile_backed {providers : PaymentProviders} {transactionId : ℕ}
    (hall : AllFinalise providers provider) :
    Always (fun _ => false) (fun _ => BackedBy world) (fun _ _ => True)
      (reconcile settings providers provider transactionId) world := by
  apply always_bind.mpr
  apply always_getByIdForUpdate rfl
  · intro t ht _ _
    rw [Prog.orRaise_some, Prog.pure_bind]
    apply always_bind.mpr
    apply always_providerFor hall
    · exact fun target htarget => always_queryAndApply_backed htarget ht
    · exact fun _ => trivial
  · exact fun _ => trivial

theorem always_acknowledge_backed {providers : PaymentProviders} {webhook : PaymentWebhook}
    {payload : Json} (hall : AllFinalise providers provider) :
    Always (fun _ => false) (fun _ => BackedBy world) (fun _ _ => True)
      (acknowledge settings providers provider webhook payload) world := by
  have hkept : ∀ world' : PlatformWorld, Within (· = .paymentWebhooks) world world' →
      BackedBy world world' := fun _ h => .refl h.2 (h.1 _ (by decide))
  apply always_bind.mpr
  apply always_orRaise
  swap
  · exact fun _ => trivial
  intro parsed _
  split
  · apply always_bind.mpr
    apply always_markProcessed
    · exact fun _ => hkept
    · trivial
  · apply always_bind.mpr
    apply always_selectOneForUpdate_found rfl
    · intro t ht _
      apply always_bind.mpr
      apply always_updateRow_within rfl
      · intro stored middle hstored
        have htransactions : middle.db.rows .transactions = world.db.rows .transactions :=
          hstored.1 .transactions (by decide)
        apply always_bind.mpr
        apply always_providerFor hall
        · intro target htarget
          apply always_bind.mpr
          apply (always_queryAndApply_backed htarget (htransactions ▸ ht)).mono
          · intro _ applied hbacked
            apply always_bind.mpr
            apply always_markProcessed
            · intro _ world' hmarked
              exact hbacked.congr ⟨hstored.2, htransactions⟩
                ⟨hmarked.2, hmarked.1 .transactions (by decide)⟩
            · trivial
          · exact fun _ _ _ => trivial
        · exact fun _ => trivial
      · trivial
    · apply always_bind.mpr
      apply always_markProcessed
      · exact fun _ => hkept
      · trivial
    · trivial

theorem always_processWebhook_backed {providers : PaymentProviders}
    {headers : List (String × String)} {body : WebhookBody}
    (hall : AllFinalise providers provider) :
    Always (fun _ => false) (fun _ => BackedBy world) (fun _ _ => True)
      (processWebhook settings providers provider headers body) world := by
  apply always_bind.mpr
  apply always_verifySignature
  swap
  · exact fun _ => trivial
  intro verified
  apply always_bind.mpr
  apply always_create_within rfl
  swap
  · trivial
  intro webhook stored hstored
  have htransactions : stored.db.rows .transactions = world.db.rows .transactions :=
    hstored.1 .transactions (by decide)
  split
  · apply (always_acknowledge_backed hall).mono
    · exact fun _ _ hbacked => hbacked.congr ⟨hstored.2, htransactions⟩ ⟨rfl, rfl⟩
    · exact fun _ _ _ => trivial
  · apply always_bind.mpr
    apply always_markProcessed
    · intro _ world' hmarked
      apply BackedBy.refl (hmarked.2.trans hstored.2)
      rw [hmarked.1 .transactions (by decide), htransactions]
    · trivial

end Queries

end SelcomPaymentProvider

/-! ## Steps -/

/-- A payment that is closed was so before; or it is new, and no prompt was sent for it; or the
answer to a query for it names its status; or its prompt failed. -/
def ClosedBy (db db' : PlatformDb) (more : List (Request × HttpResult)) : Prop :=
  ∀ t' ∈ db'.rows .transactions, t'.status.terminal = true →
    (∃ t ∈ db.rows .transactions, t.id = t'.id ∧ t.status.terminal = true) ∨
    ((∀ t ∈ db.rows .transactions, t.id ≠ t'.id) ∧
      ∀ exchange ∈ more, exchange.1.prompted ≠ some t'.reference) ∨
    (∃ exchange ∈ more, exchange.1.queried = some t'.reference ∧
      SelcomPaymentProvider.Reports exchange.2 t'.status) ∨
    ∃ exchange ∈ more, exchange.1.prompted = some t'.reference ∧ exchange.2.Failed

/-- Payments are closed as they may be, and the others are reconciled later. -/
structure Closes (db db' : PlatformDb) (more : List (Request × HttpResult)) : Prop where
  closed : ClosedBy db db' more
  listed : ∀ t ∈ db'.rows .transactions, t.status.terminal = false →
    Tasks.reconcilableCollection t = true

/-- Every payment goes through Selcom. -/
def ThroughSelcom (db : PlatformDb) : Prop :=
  ∀ t ∈ db.rows .transactions, t.paymentProvider = some .selcomCollection

section Steps

variable {db db' : PlatformDb} {more : List (Request × HttpResult)} {t t' : Transaction}

theorem ThroughSelcom.listed (h : ThroughSelcom db) (ht : t ∈ db.rows .transactions)
    (hopen : t.status.terminal = false) : Tasks.reconcilableCollection t = true := by
  simp [Tasks.reconcilableCollection, h t ht, hopen]

theorem ThroughSelcom.worked (h : ThroughSelcom db) (hworked : Worked db db') :
    ThroughSelcom db' := by
  intro t' ht'
  rcases hworked.origin ht' with ⟨t, ht, horder⟩ | ⟨_, _, _, _, _, hstarted⟩ | ⟨_, _, hstarted⟩
  · rw [horder.paymentProvider]
    exact h t ht
  · exact hstarted.paymentProvider
  · exact hstarted.paymentProvider

theorem ClosedBy.of_rows (h : db'.rows .transactions = db.rows .transactions) :
    ClosedBy db db' more := by
  intro t ht hterminal
  rw [h] at ht
  exact Or.inl ⟨t, ht, rfl, hterminal⟩

theorem SelcomPaymentProvider.Backed.closedBy (h : SelcomPaymentProvider.Backed db db' more) :
    ClosedBy db db' more := by
  intro t' ht' hterminal
  rcases h t' ht' hterminal with hbefore | hqueried
  · exact Or.inl hbefore
  · exact Or.inr (Or.inr (Or.inl hqueried))

/-- The row at the end is a new one. -/
theorem ne_of_appended (hrows : db'.rows .transactions = db.rows .transactions ++ [t'])
    (ht : t ∈ db.rows .transactions) : t.id ≠ t'.id := by
  have hids := db'.nodup_map_id .transactions
  rw [hrows, List.map_append, List.nodup_append] at hids
  exact hids.2.2 _ (List.mem_map_of_mem ht) _ (List.mem_singleton_self _)

/-- What `_parse` raises on. -/
theorem failed_of_parse {answer : HttpResult} {error : SelcomCollectionError}
    (h : parse answer = .error error) : answer.Failed := by
  rcases answer with detail | ⟨statusCode, _ | body⟩
  · trivial
  · trivial
  · change 400 ≤ statusCode
    by_contra hnot
    rw [parse, if_neg hnot] at h
    cases h

/-- An attempt closes its payment where no prompt was sent, or where it failed. -/
theorem SelcomPaymentProvider.Pushed.closedBy {msisdn : String}
    (h : SelcomPaymentProvider.Pushed t msisdn more t')
    (hrows : db'.rows .transactions = db.rows .transactions ++ [t']) :
    ClosedBy db db' more := by
  intro other hother hterminal
  rw [hrows] at hother
  rcases List.mem_append.mp hother with hold | hnew
  · exact Or.inl ⟨other, hold, rfl, hterminal⟩
  · obtain rfl := List.mem_singleton.mp hnew
    have hreference := h.attempted.sameOrder.reference
    have hattempted := h.attempted
    right
    cases hattempted with
    | notOrdered _ _ hmore =>
      left
      use fun _ ht => ne_of_appended hrows ht
      intro exchange hexchange hprompted
      have horders := hmore exchange hexchange
      revert horders hprompted
      cases exchange.1 <;> simp [Request.Orders, Request.prompted]
    | notPrompted order transid answer _ error _ hparse =>
      right
      right
      use (.walletPayment transid t.reference msisdn, answer), by simp
      constructor
      · rfl
      · exact failed_of_parse hparse
    | prompted => cases hterminal

/-- An activation decides nothing about the payment. -/
theorem CaptivePortalActivationService.Activated.sameStatus {runtime : Runtime}
    {transactionId : ℕ} {first : Outside} {landed : ℕ → Bool} {radius radius' : RadiusDb}
    (h : Activated runtime transactionId first landed db db' radius radius')
    (ht' : t' ∈ db'.rows .transactions) :
    ∃ t ∈ db.rows .transactions, t.SameOrder t' ∧ t'.status = t.status := by
  cases h with
  | unchanged hsame _ _ => exact ⟨t', hsame ▸ ht', .refl t', rfl⟩
  | granted hpurchase _ hgranted _ =>
    obtain ⟨time, htransactions⟩ := hgranted.transactions
    rw [htransactions] at ht'
    rcases mem_replaceRow ht' with rfl | ⟨hother, -⟩
    · exact ⟨_, hpurchase.stored, by constructor <;> rfl, rfl⟩
    · exact ⟨t', hother, .refl t', rfl⟩
  | failed hpurchase _ hwritten _ =>
    rcases hwritten with hsame | hrecorded
    · exact ⟨t', hsame ▸ ht', .refl t', rfl⟩
    · rw [hrecorded.rows_self] at ht'
      rcases mem_replaceRow ht' with rfl | ⟨hother, -⟩
      · exact ⟨_, hpurchase.stored, by constructor <;> rfl, rfl⟩
      · exact ⟨t', hother, .refl t', rfl⟩

end Steps

/-! ## Operations -/

section Operations

variable {runtime : Runtime} {outside : Outside} {world : PlatformWorld}

theorem closedBy_initiate {initiation : Initiation} :
    ClosedBy world.db (transact outside (initiation.program runtime) world).2.db
      (exchanges outside (initiation.program runtime) world.db) := by
  have hidle : (transact outside (initiation.program runtime) world).2.db = world.db →
      ClosedBy world.db (transact outside (initiation.program runtime) world).2.db
        (exchanges outside (initiation.program runtime) world.db) :=
    fun hsame => .of_rows (by rw [hsame])
  cases initiation with
  | captive intentToken packageId phone =>
    rcases CaptivePortalService.run_initiatePayment runtime outside world.db intentToken packageId
      phone with ⟨session, package, normalizedPhone, -, hrun⟩ | ⟨result, tick, hrun⟩
    · rcases transact_discard hrun CaptivePortalService.always_startAttempt with
        ⟨_, _, _, t, t', more, hstarted, hpushed, hmore⟩ | ⟨hdb, -⟩
      · have hmore : exchanges outside (Initiation.program runtime
            (.captive intentToken packageId phone)) world.db = more := hmore
        rw [hmore]
        exact hpushed.closedBy hstarted.transactions
      · exact hidle hdb
    · apply hidle
      rw [Initiation.program]
      exact (transact_idle (by rw [run_discard, hrun])).1
  | collection userId amount currency phone customerId description =>
    rcases CollectionService.run_initiateRoute runtime.settings outside world.db userId amount
      currency phone customerId description with
      ⟨tenantId, normalizedPhone, customer, -, hrun⟩ | ⟨result, tick, hrun⟩
    · rcases transact_discard hrun CollectionService.always_startCollection with
        ⟨t', t, more, hstarted, hpushed, hmore⟩ | ⟨hdb, -⟩
      · have hmore : exchanges outside (Initiation.program runtime
            (.collection userId amount currency phone customerId description)) world.db =
              more := hmore
        rw [hmore]
        exact hpushed.closedBy hstarted.transactions
      · exact hidle hdb
    · apply hidle
      rw [Initiation.program]
      exact (transact_idle (by rw [run_discard, hrun])).1

/-- An operation that writes what its queries back. -/
theorem closedBy_of_backed {α : Type} {x : Tx α} {work : PaymentOperation}
    (hprogram : work.program runtime = (do let _ ← x; pure () : Tx Unit))
    (h : Always (fun _ => false) (fun _ => SelcomPaymentProvider.BackedBy ⟨world.db, []⟩)
      (fun _ _ => True) x ⟨world.db, []⟩) :
    ClosedBy world.db (transact outside (work.program runtime) world).2.db
      (exchanges outside (work.program runtime) world.db) := by
  have hrun : run (exec outside) x ⟨⟨world.db, []⟩, 0⟩ = run (exec outside) x ⟨⟨world.db, []⟩, 0⟩ :=
    rfl
  rw [hprogram]
  rcases transact_discard hrun h with ⟨_, more, hmore, hbacked⟩ | ⟨hdb, -⟩
  · have hmore : exchanges outside (do let _ ← x; pure () : Tx Unit) world.db = more := hmore
    rw [hmore]
    exact hbacked.closedBy
  · exact .of_rows (congrArg (fun db : PlatformDb => db.rows .transactions) hdb)

end Operations

/-! ## Runs -/

namespace AccessStep

/-- What the step asks of Selcom. -/
def asks (step : AccessStep) (state : AccessState) : List (Request × HttpResult) :=
  match step with
  | payment work runtime outside => exchanges outside (work.program runtime) state.world.db
  | activation .. => []

/-- Something calls the operation: `finalize_payment` has no caller. -/
def Routed : AccessStep → Prop
  | payment (.finalizePayment _) _ _ => False
  | _ => True

theorem closes {step : AccessStep} {state : AccessState} (hrouted : step.Routed)
    (h : ThroughSelcom state.world.db) :
    Closes state.world.db (step.next state).world.db (step.asks state) ∧
      ThroughSelcom (step.next state).world.db := by
  have hcloses : ClosedBy state.world.db (step.next state).world.db (step.asks state) →
      ThroughSelcom (step.next state).world.db →
      Closes state.world.db (step.next state).world.db (step.asks state) ∧
        ThroughSelcom (step.next state).world.db :=
    fun hclosed hthrough => ⟨⟨hclosed, fun _ ht => hthrough.listed ht⟩, hthrough⟩
  cases step with
  | payment work runtime outside =>
    apply hcloses _ (h.worked (works runtime outside state.world work).1)
    cases work with
    | issueSession routerId macAddress =>
      have halways := @CaptivePortalSessionService.always_issueSession runtime ⟨state.world.db, []⟩
        routerId macAddress
      have hrun : run (exec outside) (CaptivePortalSessionService.issueSession runtime routerId
          macAddress) ⟨⟨state.world.db, []⟩, 0⟩ = run (exec outside) _ ⟨⟨state.world.db, []⟩, 0⟩ :=
        rfl
      rcases transact_discard hrun halways with ⟨_, hwithin, -⟩ | ⟨hdb, -⟩
      · exact .of_rows (hwithin .transactions (by decide))
      · exact .of_rows (congrArg (fun db : PlatformDb => db.rows .transactions) hdb)
    | initiate initiation => exact closedBy_initiate
    | processWebhook service headers body =>
      exact closedBy_of_backed rfl
        (SelcomPaymentProvider.always_processWebhook_backed (allFinalise service))
    | reconcile service transactionId =>
      exact closedBy_of_backed rfl
        (SelcomPaymentProvider.always_reconcile_backed (allFinalise service))
    | finalizePayment transactionId => exact hrouted.elim
  | activation runtime transactionId first second landed =>
    have heffect := CaptivePortalActivationService.activated runtime transactionId first second
      landed state.radius state.world
    apply hcloses
    · intro t' ht' hterminal
      obtain ⟨t, ht, horder, hstatus⟩ := heffect.sameStatus ht'
      exact Or.inl ⟨t, ht, horder.id.symm, by rw [← hstatus, hterminal]⟩
    · intro t' ht'
      obtain ⟨t, ht, horder, -⟩ := heffect.sameStatus ht'
      rw [horder.paymentProvider]
      exact h t ht

end AccessStep

/-- In every run from a platform without payments on, a payment is closed by the answer to a
query for it or by an initiation that failed, and is reconciled until it is. -/
theorem closes_of_run {steps : List AccessStep} {state : AccessState}
    (hempty : state.world.db.rows .transactions = []) (hrouted : ∀ step ∈ steps, step.Routed) :
    Runs.All AccessStep.next
      (fun step state => Closes state.world.db (step.next state).world.db (step.asks state)) steps
      state := by
  apply @Runs.All.of_invariant _ _ _ _ _ _ (fun state => ThroughSelcom state.world.db) _ _
    (Runs.All.of_forall (fun step hstep _ => hrouted step hstep) state)
  · simp [ThroughSelcom, hempty]
  · exact fun step state hrouted h => step.closes hrouted h

/-- A visitor's payment, whose prompt is not answered. -/
def unansweredSteps : List AccessStep :=
  [.payment (.issueSession 0 none) portalRuntime (PayoutService.answering []),
   .payment (.initiate (.captive "intent" 0 "0712345678")) portalRuntime
     (PayoutService.answering [accepted, .transportError "timeout"]),
   .payment (.reconcile .captivePortal 0) portalRuntime (PayoutService.answering [])]

theorem closes_unanswered : Runs.All AccessStep.next
    (fun step state => Closes state.world.db (step.next state).world.db (step.asks state))
    unansweredSteps ⟨⟨portalDb, []⟩, ⟨[], [], [], []⟩⟩ := by
  apply closes_of_run rfl
  intro step hstep
  simp only [unansweredSteps, List.mem_cons, List.not_mem_nil, or_false] at hstep
  rcases hstep with rfl | rfl | rfl <;> trivial

end InfinityRadius.Services
