import InfinityRadius.Core.Frames
import InfinityRadius.Services.CollectionGate
import InfinityRadius.Services.Statements

/-!
# Callbacks

`api/v1/webhooks.py`: the routes that the servers of the two Selcom APIs call.  A callback is
written into a row of its own and then acted on in the same transaction, so that what raises on
the way takes the row with it.
-/

namespace InfinityRadius.Api

open Database Payload Program Sql Models Services Integrations.SelcomCollection

/-! ## Routes -/

/-- What `json.loads` makes of a request body. -/
inductive Loaded
  | value (json : Json)
  /-- a value with a lone surrogate in one of its texts, which no `JSONB` column takes -/
  | surrogates (isObject : Bool)
  | valueError
  | recursionError

/-- A request body: its text, with U+FFFD for what is no UTF-8, and what it is loaded as; an empty
body is taken for `{}`. -/
structure RequestBody where
  text : String
  loaded : Loaded

/-- `{"_unparsable_body": ...}`. -/
def unparsableBody (body : RequestBody) : Json := .obj [("_unparsable_body", .str body.text)]

/-- The name of the type of a value. -/
def typeName : Json → String
  | .null => "NoneType"
  | .bool _ => "bool"
  | .int _ => "int"
  | .float _ | .nonFinite => "float"
  | .str _ => "str"
  | .arr _ => "list"
  | .obj _ => "dict"

/-- The `reference_id` of a payload, where it is a text that is not empty. -/
def referenceOf (fields : List (String × Json)) : Option String :=
  match lookup fields "reference_id" with
  | some (.str reference) => if reference = "" then none else some reference
  | _ => none

def referenceId : Json → Tx (Option String)
  | .obj fields => pure (referenceOf fields)
  | payload =>
    throw (.attributeError ("'" ++ typeName payload ++ "' object has no attribute 'get'"))

/-- `get_by_idempotency_key(...) or get_by_provider_reference(...)`. -/
def findWithdrawal (reference : String) : Tx (Option Withdrawal) := do
  let withdrawal ← selectOne .withdrawals fun w => w.idempotencyKey == reference
  match withdrawal with
  | some withdrawal => pure (some withdrawal)
  | none => selectOne .withdrawals fun w => w.providerReference == some reference

/-- `with contextlib.suppress(NotFoundError)`. -/
def suppressNotFound {α : Type} (x : Tx α) : Tx Unit :=
  tryCatch (do let _ ← x; pure ()) fun failure =>
    match failure with
    | .notFound _ => pure ()
    | failure => throw failure

section Routes

variable (runtime : Runtime)

/-- What is done about a disbursement callback once it has its row. -/
def actOnDisbursement (webhook : PaymentWebhook) (payload : Json) : Tx String := do
  let reference ← referenceId payload
  match reference with
  | none => do
    let _ ← SelcomPaymentProvider.markProcessed webhook
    pure "malformed"
  | some reference => do
    let found ← findWithdrawal reference
    match found with
    | none => do
      let _ ← SelcomPaymentProvider.markProcessed webhook
      pure "unknown_reference"
    | some withdrawal => do
      let webhook ← updateRow .paymentWebhooks webhook.id fun stored =>
        { stored with tenantId := some withdrawal.tenantId }
      suppressNotFound (PayoutService.reconcileWithdrawal runtime withdrawal.id)
      let _ ← SelcomPaymentProvider.markProcessed webhook
      pure "acknowledged"

def saveDisbursement (payload : Json) : Tx String := do
  let webhook ← create .paymentWebhooks fun id =>
    { id, tenantId := none, provider := "selcom_business_disbursement", payload,
      signatureVerified := false, processed := false }
  actOnDisbursement runtime webhook payload

def selcomBusinessDisbursementWebhook (body : RequestBody) : Tx String :=
  match body.loaded with
  | .value payload => saveDisbursement runtime payload
  | .surrogates _ => throw .database
  | .valueError => saveDisbursement runtime (unparsableBody body)
  | .recursionError => throw (.runtimeError "maximum recursion depth exceeded")

def processCheckout (headers : List (String × String)) (body : SelcomPaymentProvider.WebhookBody) :
    Tx String :=
  SelcomPaymentProvider.processWebhook runtime.settings paymentProviders
    CollectionService.provider headers body

/-- `process_webhook` raises on a surrogate before it writes the row, or when it does. -/
def selcomCollectionCheckoutWebhook (headers : List (String × String)) (body : RequestBody) :
    Tx String :=
  match body.loaded with
  | .value payload => processCheckout runtime headers ⟨body.text, some payload⟩
  | .surrogates true => throw .database
  | .surrogates false | .valueError => processCheckout runtime headers ⟨body.text, none⟩
  | .recursionError => throw (.runtimeError "maximum recursion depth exceeded")

end Routes

/-- A callback at one of the two routes. -/
inductive Delivery
  | disbursement (runtime : Runtime) (body : RequestBody)
  | checkout (runtime : Runtime) (headers : List (String × String)) (body : RequestBody)

namespace Delivery

def program : Delivery → Tx String
  | disbursement runtime body => selcomBusinessDisbursementWebhook runtime body
  | checkout runtime headers body => selcomCollectionCheckoutWebhook runtime headers body

/-- Only the route of the collections catches what is raised, to roll back and answer. -/
def answer : Delivery → Except Failure String → Except Failure String
  | checkout _ _ _, .error _ => .ok "error"
  | _, result => result

/-- The answer of the route, and what it leaves committed. -/
def receive (delivery : Delivery) (outside : Outside) (world : PlatformWorld) :
    Except Failure String × PlatformWorld :=
  let ended := transact outside delivery.program world
  (delivery.answer ended.1, ended.2)

/-- The payload to keep, where the body comes to one. -/
def payload : Delivery → Option Json
  | disbursement _ body =>
    match body.loaded with
    | .value payload => some payload
    | .valueError => some (unparsableBody body)
    | _ => none
  | checkout _ _ body =>
    match body.loaded with
    | .value (.obj fields) => some (.obj fields)
    | .value _ | .surrogates false | .valueError => some (unparsableBody body)
    | _ => none

end Delivery

/-- The payload is in the one row that was added. -/
def Kept (payload : Option Json) (db db' : PlatformDb) : Prop :=
  ∃ webhook : PaymentWebhook, some webhook.payload = payload ∧
    db'.rows .paymentWebhooks = db.rows .paymentWebhooks ++ [webhook]

/-! ## Callbacks that are acted on without an exception -/

section Conditions

variable (outside : Outside) (db : PlatformDb)

/-- The program returns when it is run on this database, after so many questions. -/
def Returns {α : Type} (x : Tx α) (tick : ℕ) : Prop := ∃ a, endsAs outside x db tick = .ok a

/-- The withdrawals a reference is looked up in. -/
def matching (reference : String) : List Withdrawal :=
  match (db.rows .withdrawals).filter fun w => w.idempotencyKey == reference with
  | [] => (db.rows .withdrawals).filter fun w => w.providerReference == some reference
  | byKey => byKey

/-- There is no row, or a single one that has the property. -/
def AtMostOne {α : Type} (property : α → Prop) : List α → Prop
  | [] => True
  | [row] => property row
  | _ => False

/-- The query of a withdrawal raises nothing but a `NotFoundError`. -/
def Reconciles (runtime : Runtime) (w : Withdrawal) : Prop :=
  Returns outside db (suppressNotFound (PayoutService.reconcileWithdrawal runtime w.id)) 0

/-- The payload of a disbursement callback is an object, and what it refers to reconciles. -/
def ActedOn (runtime : Runtime) : Json → Prop
  | .obj fields =>
    ∀ reference, referenceOf fields = some reference →
      AtMostOne (Reconciles outside db runtime) (matching db reference)
  | _ => False

/-- A payment is queried by the service it belongs to. -/
def requery (settings : Settings) (transaction : Transaction) : Tx Transaction := do
  let target ← SelcomPaymentProvider.providerFor paymentProviders CollectionService.provider
    transaction
  SelcomPaymentProvider.queryAndApply settings target transaction

/-- The query of a payment raises nothing. -/
def Requeries (settings : Settings) (t : Transaction) : Prop :=
  Returns outside db (requery settings t) 1

/-- The payload of a verified callback is valid, and the order it names can be queried. -/
def Acknowledged (settings : Settings) (payload : Json) : Prop :=
  ∃ parsed, webhookPayload payload = some parsed ∧
    (given parsed.orderId = true → AtMostOne (Requeries outside db settings)
      ((db.rows .transactions).filter fun t => some t.reference == parsed.orderId))

/-- The signature is refused, or verified and the callback acknowledged. -/
def Verified (settings : Settings) (payload : Json) : CallbackCheck → Prop
  | .verified => Acknowledged outside db settings payload
  | .refused => True
  | .raised => False

/-- The configuration loads, and the signature is checked where there is one. -/
def Checked (settings : Settings) (headers : List (String × String)) (payload : Json) : Prop :=
  settings.selcomCollectionPrivateKey ≠ .notBase64 ∧
    (isConfigured settings = true →
      Verified outside db settings payload (outside.answer 0 (.verifyWebhook headers payload)))

/-- Nothing raises while the callback is acted on. -/
def Delivery.Handled : Delivery → Json → Prop
  | disbursement runtime _ => ActedOn outside db runtime
  | checkout runtime headers _ => Checked outside db runtime.settings headers

end Conditions

/-! ## What a run keeps -/

/-- A run that keeps the callback where the condition holds, and raises where it does not. -/
inductive Ends (payload : Json) (db : PlatformDb) (condition : Prop) :
    Except Failure String × State schema Request HttpResult → Prop
  | kept {status : String} {state : State schema Request HttpResult} (h : condition)
      (hkept : Kept (some payload) db state.db) : Ends payload db condition (.ok status, state)
  | raised {e : Failure} {state : State schema Request HttpResult} (h : ¬condition) :
      Ends payload db condition (.error e, state)

section Runs

variable {outside : Outside} {db : PlatformDb} {payload : Json} {condition : Prop}
  {state : State schema Request HttpResult} {webhook : PaymentWebhook} {status : String}

theorem Ends.congr {condition' : Prop} {ended : Except Failure String × State schema Request
    HttpResult} (h : Ends payload db condition ended) (hiff : condition' ↔ condition) :
    Ends payload db condition' ended := by
  cases h with
  | kept h hkept => exact .kept (hiff.mpr h) hkept
  | raised h => exact .raised fun h' => h (hiff.mp h')

/-- The databases agree but for one callback, and nothing was sent yet. -/
structure Saved (db : PlatformDb) (webhook : PaymentWebhook)
    (state : State schema Request HttpResult) : Prop where
  rows : state.db.rows .paymentWebhooks = db.rows .paymentWebhooks ++ [webhook]
  agree : AgreeOff .paymentWebhooks db state.db
  sent : state.sent = []

/-- A callback that is written over keeps its row. -/
theorem run_updateWebhook {write : PaymentWebhook → PaymentWebhook}
    (hrows : state.db.rows .paymentWebhooks = db.rows .paymentWebhooks ++ [webhook])
    (hid : (write webhook).id = webhook.id)
    (hprovider : (write webhook).provider = webhook.provider)
    (hpayload : (write webhook).payload = webhook.payload) :
    ∃ db', db'.rows .paymentWebhooks = db.rows .paymentWebhooks ++ [write webhook] ∧
      AgreeOff .paymentWebhooks state.db db' ∧
      run (exec outside) (updateRow .paymentWebhooks webhook.id write) state =
        (.ok (write webhook), { state with db := db' }) := by
  have hmem : webhook ∈ state.db.rows .paymentWebhooks := by
    rw [hrows]
    exact List.mem_append_right _ List.mem_cons_self
  have hvalid : rowValid .paymentWebhooks (write webhook) = true := by
    rw [← state.db.valid .paymentWebhooks webhook hmem]
    simp only [rowValid, hprovider, hpayload]
  obtain ⟨db', hreplaced, hrun⟩ := run_updateRow outside state hmem hid hvalid fun _ => rfl
  refine ⟨db', ?_, fun t ht => (hreplaced.rows_of_ne ht).symm, hrun⟩
  rw [hreplaced.rows_self, hrows]
  apply replaceRow_concat
  · intro old hold heq
    have hapart := state.db.apart .paymentWebhooks
    rw [hrows, List.pairwise_append] at hapart
    exact (hapart.2.2 old hold webhook List.mem_cons_self).1 (heq.trans hid)
  · exact hid.symm

theorem ends_marked (hrows : state.db.rows .paymentWebhooks =
    db.rows .paymentWebhooks ++ [webhook]) (hpayload : webhook.payload = payload)
    (h : condition) :
    Ends payload db condition (run (exec outside) (do
      let _ ← SelcomPaymentProvider.markProcessed webhook
      pure status) state) := by
  have hasked : (⟨⟨state.db, state.sent⟩, state.tick + 1⟩ :
      State schema Request HttpResult).db.rows .paymentWebhooks =
        db.rows .paymentWebhooks ++ [webhook] := hrows
  let time : Timestamp := outside.answer state.tick .now
  obtain ⟨db', hkept, -, hrun⟩ := @run_updateWebhook outside db _ webhook
    (fun stored => { stored with processed := true, processedAt := some time })
    hasked rfl rfl rfl
  have hmarked : run (exec outside) (SelcomPaymentProvider.markProcessed webhook) state =
      (.ok { webhook with processed := true, processedAt := some time },
        ⟨⟨db', state.sent⟩, state.tick + 1⟩) := hrun
  rw [run_bind, hmarked]
  exact .kept h ⟨{ webhook with processed := true, processedAt := some time },
    congrArg some hpayload, hkept⟩

/-- A program that avoids the callbacks, run once the callback has its row. -/
theorem ends_processed {α : Type} {x : Tx α} (havoids : x.All (Stmt.Avoids .paymentWebhooks))
    (hsaved : Saved db webhook state) (hpayload : webhook.payload = payload) :
    Ends payload db (Returns outside db x state.tick) (run (exec outside) (do
      let _ ← x
      let _ ← SelcomPaymentProvider.markProcessed webhook
      pure status) state) := by
  have hends : endsAs outside x db state.tick = (run (exec outside) x state).1 := by
    have hstates : StatesAgreeOff .paymentWebhooks ⟨⟨db, []⟩, state.tick⟩ state :=
      ⟨hsaved.agree, hsaved.sent.symm, rfl⟩
    exact (run_agreeOff outside havoids hstates).1
  have hrows := (run_rows_of_avoids outside havoids state).trans hsaved.rows
  rw [run_bind]
  rcases hrun : run (exec outside) x state with ⟨result, state'⟩
  rw [hrun] at hends hrows
  cases result with
  | ok a => exact ends_marked hrows hpayload ⟨a, hends⟩
  | error e =>
    apply Ends.raised
    rintro ⟨a, ha⟩
    rw [hends] at ha
    cases ha

/-- The same once the callback got its tenant. -/
theorem ends_attributed {α : Type} {x : Tx α} {tenantId : ℕ}
    (havoids : x.All (Stmt.Avoids .paymentWebhooks)) (hsaved : Saved db webhook state)
    (hpayload : webhook.payload = payload) :
    Ends payload db (Returns outside db x state.tick) (run (exec outside) (do
      let webhook ← updateRow .paymentWebhooks webhook.id fun stored =>
        { stored with tenantId := some tenantId }
      let _ ← x
      let _ ← SelcomPaymentProvider.markProcessed webhook
      pure status) state) := by
  obtain ⟨db', hrows, hagree, hrun⟩ := @run_updateWebhook outside db state webhook
    (fun stored => { stored with tenantId := some tenantId }) hsaved.rows rfl rfl rfl
  rw [run_bind, hrun]
  have hsaved' : Saved db { webhook with tenantId := some tenantId } { state with db := db' } := by
    constructor
    · exact hrows
    · exact fun t ht => (hsaved.agree t ht).trans (hagree t ht)
    · exact hsaved.sent
  exact ends_processed havoids hsaved' hpayload

/-- A callback that is written at all is acted on. -/
theorem ends_created {provider : String} {verified : Bool} {f : PaymentWebhook → Tx String}
    (hprovider : storable provider = true) (hsent : state.sent = [])
    (hf : ∀ webhook state', webhook.payload = payload → Saved state.db webhook state' →
      state'.tick = state.tick →
      Ends payload state.db condition (run (exec outside) (f webhook) state')) :
    Ends payload state.db (payload.storable = true ∧ condition) (run (exec outside) (do
      let webhook ← create .paymentWebhooks fun id =>
        { id, tenantId := none, provider, payload, signatureVerified := verified,
          processed := false }
      f webhook) state) := by
  let build : ℕ → PaymentWebhook := fun id =>
    { id, tenantId := none, provider, payload, signatureVerified := verified,
      processed := false }
  have hvalid : ∀ id, rowValid .paymentWebhooks (build id) = payload.storable := by
    intro id
    simp [rowValid, textsStorable, hprovider, build]
  rw [run_bind]
  cases @run_create outside state .paymentWebhooks build (fun _ => rfl) fun _ _ => rfl with
  | inl hstored =>
    obtain ⟨webhook, db', hstorable, hbuild, happended, hrun⟩ := hstored
    have hpayload : webhook.payload = payload := by rw [hbuild]
    rw [hrun]
    apply (hf webhook ⟨⟨db', state.sent⟩, state.tick⟩ hpayload ?_ rfl).congr
    · rw [hbuild, hvalid] at hstorable
      exact and_iff_right hstorable
    · constructor
      · exact happended.rows_self
      · exact fun t ht => (happended.rows_of_ne ht).symm
      · exact hsent
  | inr hrefused =>
    obtain ⟨⟨id, hinvalid⟩, hrun⟩ := hrefused
    rw [hrun]
    apply Ends.raised
    rintro ⟨hstorable, -⟩
    rw [hvalid, hstorable] at hinvalid
    cases hinvalid

/-! ## The two routes -/

theorem run_findWithdrawal (reference : String) :
    run (exec outside) (findWithdrawal reference) state =
      run (exec outside) (scalarOneOrNone (matching state.db reference)) state := by
  rw [findWithdrawal, selectOne, issue, Prog.bind_assoc, Prog.issue_bind, run_step, exec, matching]
  dsimp only
  generalize (state.db.rows .withdrawals).filter
    (fun w : Withdrawal => w.idempotencyKey == reference) = byKey
  cases byKey with
  | nil => rfl
  | cons first rest => cases rest <;> rfl

/-- What is done with the one row that was found, if any. -/
theorem ends_found {α : Type} {rows : List α} {f : Option α → Tx String}
    {property : α → Prop}
    (hnone : Ends payload db True (run (exec outside) (f none) state))
    (hone : ∀ row, rows = [row] →
      Ends payload db (property row) (run (exec outside) (f (some row)) state)) :
    Ends payload db (AtMostOne property rows)
      (run (exec outside) (scalarOneOrNone rows >>= f) state) := by
  match rows with
  | [] => exact hnone
  | [row] => exact hone row rfl
  | _ :: _ :: _ => exact .raised fun h => h

theorem avoids_webhooks : Lets (Stmt.Avoids (Table.paymentWebhooks)) where
  select _ _ ht := ht
  selectForUpdate _ _ ht := ht
  scan _ _ ht := ht
  insert _ _ ht := by
    rintro rfl
    exact ht List.mem_cons_self
  update _ _ _ ht := by
    rintro rfl
    exact ht List.mem_cons_self
  rewrite _ _ _ := Table.noConfusion
  ask _ := trivial
  send _ := trivial

theorem avoids_suppressNotFound {α : Type} {x : Tx α}
    (h : x.All (Stmt.Avoids .paymentWebhooks)) :
    (suppressNotFound x).All (Stmt.Avoids .paymentWebhooks) := by
  apply Prog.All.tryCatch
  · exact .bind h fun _ => trivial
  · intro failure
    cases failure <;> trivial

theorem avoids_requery (settings : Settings) (transaction : Transaction) :
    (requery settings transaction).All (Stmt.Avoids .paymentWebhooks) := by
  rw [requery, SelcomPaymentProvider.providerFor]
  have hcollection := CollectionService.lets_finalise avoids_webhooks
  have hcaptive := CaptivePortalService.lets_finalise avoids_webhooks
  split
  · exact SelcomPaymentProvider.lets_queryAndApply avoids_webhooks _ hcollection
  · split
    · exact SelcomPaymentProvider.lets_queryAndApply avoids_webhooks _ hcollection
    · exact SelcomPaymentProvider.lets_queryAndApply avoids_webhooks _ hcaptive
    · trivial

theorem ends_actOnDisbursement {runtime : Runtime} (hsaved : Saved db webhook state)
    (hpayload : webhook.payload = payload) (htick : state.tick = 0) :
    Ends payload db (ActedOn outside db runtime payload)
      (run (exec outside) (actOnDisbursement runtime webhook payload) state) := by
  rw [actOnDisbursement]
  cases payload with
  | obj fields =>
    rw [referenceId, Prog.pure_bind]
    cases hreference : referenceOf fields with
    | none =>
      refine (ends_marked hsaved.rows hpayload trivial).congr (iff_true_intro fun reference h => ?_)
      rw [hreference] at h
      cases h
    | some reference =>
      have hmatching : matching state.db reference = matching db reference := by
        have hrows := hsaved.agree .withdrawals (by decide)
        rw [matching, matching, hrows]
      dsimp only
      rw [run_bind, run_findWithdrawal, ← run_bind, hmatching]
      have hiff : ActedOn outside db runtime (.obj fields) ↔
          AtMostOne (Reconciles outside db runtime) (matching db reference) := by
        rw [ActedOn, hreference]
        exact ⟨fun h => h reference rfl, fun h other heq => Option.some.inj heq ▸ h⟩
      refine Ends.congr ?_ hiff
      apply ends_found
      · exact ends_marked hsaved.rows hpayload trivial
      · intro w _
        have havoids := PayoutService.lets_reconcileWithdrawal avoids_webhooks runtime w.id
        rw [Reconciles, ← htick]
        exact ends_attributed (avoids_suppressNotFound havoids) hsaved hpayload
  | _ => exact .raised fun h => h

theorem ends_acknowledge {settings : Settings} (hsaved : Saved db webhook state)
    (hpayload : webhook.payload = payload) (htick : state.tick = 1) :
    Ends payload db (Acknowledged outside db settings payload)
      (run (exec outside) (SelcomPaymentProvider.acknowledge settings paymentProviders
        CollectionService.provider webhook payload) state) := by
  rw [SelcomPaymentProvider.acknowledge]
  cases hparsed : webhookPayload payload with
  | none =>
    apply Ends.raised
    rintro ⟨parsed, h, -⟩
    rw [hparsed] at h
    cases h
  | some parsed =>
    rw [Prog.orRaise_some, Prog.pure_bind]
    have hiff : Acknowledged outside db settings payload ↔
        (given parsed.orderId = true → AtMostOne (Requeries outside db settings)
          ((db.rows .transactions).filter fun t => some t.reference == parsed.orderId)) := by
      rw [Acknowledged, hparsed]
      exact ⟨fun ⟨_, heq, h⟩ => Option.some.inj heq ▸ h, fun h => ⟨parsed, rfl, h⟩⟩
    refine Ends.congr ?_ hiff
    cases hgiven : given parsed.orderId with
    | false => exact ends_marked hsaved.rows hpayload Bool.noConfusion
    | true =>
      have hrows := hsaved.agree .transactions (by decide)
      rw [if_neg (by decide), selectOneForUpdate, issue, Prog.bind_assoc, Prog.issue_bind,
        run_step, exec, ← hrows]
      refine Ends.congr ?_ (forall_prop_of_true rfl)
      apply ends_found
      · exact ends_marked hsaved.rows hpayload trivial
      · intro t _
        rw [Requeries, ← htick]
        have hattributed := @ends_attributed outside db payload state webhook "acknowledged" _
          _ t.tenantId (avoids_requery settings t) hsaved hpayload
        simpa only [requery, Prog.bind_assoc] using hattributed

/-- A callback whose signature was refused is kept, another one acknowledged. -/
theorem ends_checked {settings : Settings} {verified : Bool} {tick : ℕ}
    (htick : verified = true → tick = 1) :
    Ends payload db
      (payload.storable = true ∧ (verified = true → Acknowledged outside db settings payload))
      (run (exec outside) (do
        let webhook ← create .paymentWebhooks fun id =>
          { id, tenantId := none, provider := "selcom_collection", payload,
            signatureVerified := verified, processed := false }
        if verified then
          SelcomPaymentProvider.acknowledge settings paymentProviders CollectionService.provider
            webhook payload
        else do
          let _ ← SelcomPaymentProvider.markProcessed webhook
          pure "rejected") ⟨⟨db, []⟩, tick⟩) := by
  have hprovider : storable "selcom_collection" = true := by decide
  apply @ends_created outside payload _ ⟨⟨db, []⟩, tick⟩ _ verified _ hprovider rfl
  intro webhook state' hpayload hsaved hasked
  cases verified with
  | false => exact ends_marked hsaved.rows hpayload Bool.noConfusion
  | true =>
    refine Ends.congr ?_ (forall_prop_of_true rfl)
    exact ends_acknowledge hsaved hpayload (hasked.trans (htick rfl))

theorem ends_processCheckout {runtime : Runtime} {headers : List (String × String)}
    {body : SelcomPaymentProvider.WebhookBody}
    (hpayload : SelcomPaymentProvider.rawPayload body = payload) :
    Ends payload db
      (payload.storable = true ∧ Checked outside db runtime.settings headers payload)
      (run (exec outside) (processCheckout runtime headers body) ⟨⟨db, []⟩, 0⟩) := by
  rw [processCheckout, SelcomPaymentProvider.processWebhook, hpayload,
    SelcomPaymentProvider.verifySignature, configFromSettings]
  by_cases hkey : runtime.settings.selcomCollectionPrivateKey ≠ .notBase64
  · rw [Prog.require_true hkey, Prog.pure_bind]
    cases hconfigured : isConfigured runtime.settings with
    | false =>
      rw [if_neg Bool.false_ne_true, Prog.pure_bind]
      refine (ends_checked Bool.noConfusion).congr (and_congr_right fun _ => ?_)
      exact iff_of_true ⟨hkey, fun h => by rw [hconfigured] at h; cases h⟩ Bool.noConfusion
    | true =>
      have hiff : Checked outside db runtime.settings headers payload ↔
          Verified outside db runtime.settings payload
            (outside.answer 0 (.verifyWebhook headers payload)) :=
        ⟨fun h => h.2 hconfigured, fun h => ⟨hkey, fun _ => h⟩⟩
      rw [if_pos rfl, issue, Prog.bind_assoc, Prog.issue_bind, run_step, exec, hiff]
      dsimp only
      cases outside.answer 0 (.verifyWebhook headers payload) with
      | verified =>
        refine (ends_checked fun _ => rfl).congr (and_congr_right fun _ => ?_)
        exact ⟨fun h _ => h, fun h => h rfl⟩
      | refused =>
        refine (ends_checked Bool.noConfusion).congr (and_congr_right fun _ => ?_)
        exact iff_of_true trivial Bool.noConfusion
      | raised => exact .raised fun h => h.2
  · rw [Prog.require_false hkey]
    exact .raised fun h => hkey h.2.1

theorem ends_saveDisbursement {runtime : Runtime} :
    Ends payload db (payload.storable = true ∧ ActedOn outside db runtime payload)
      (run (exec outside) (saveDisbursement runtime payload) ⟨⟨db, []⟩, 0⟩) := by
  have hprovider : storable "selcom_business_disbursement" = true := by decide
  apply @ends_created outside payload _ ⟨⟨db, []⟩, 0⟩ _ false _ hprovider rfl
  intro webhook state' hpayload hsaved hasked
  exact ends_actOnDisbursement hsaved hpayload hasked

end Runs

/-! ## Callbacks that are kept -/

section Receive

variable {outside : Outside} {world : PlatformWorld} {payload : Json} {condition : Prop}

theorem kept_transact {x : Tx String}
    (h : Ends payload world.db condition (run (exec outside) x ⟨⟨world.db, []⟩, 0⟩)) :
    Kept (some payload) world.db (transact outside x world).2.db ↔ condition := by
  rw [transact]
  generalize run (exec outside) x ⟨⟨world.db, []⟩, 0⟩ = ended at h ⊢
  cases h with
  | kept h hkept => exact iff_of_true hkept h
  | raised h =>
    refine iff_of_false ?_ h
    rintro ⟨webhook, -, hrows⟩
    exact List.cons_ne_nil _ _ (List.append_right_eq_self.mp hrows.symm)

theorem Delivery.ends_program {delivery : Delivery} {db : PlatformDb}
    (h : delivery.payload = some payload) :
    Ends payload db (payload.storable = true ∧ delivery.Handled outside db payload)
      (run (exec outside) delivery.program ⟨⟨db, []⟩, 0⟩) := by
  cases delivery with
  | disbursement runtime body =>
    obtain ⟨text, loaded⟩ := body
    cases loaded with
    | value json =>
      obtain rfl := Option.some.inj h
      exact ends_saveDisbursement
    | valueError =>
      obtain rfl := Option.some.inj h
      exact ends_saveDisbursement
    | surrogates isObject => cases h
    | recursionError => cases h
  | checkout runtime headers body =>
    obtain ⟨text, loaded⟩ := body
    cases loaded with
    | value json =>
      apply ends_processCheckout
      cases json <;> exact Option.some.inj h
    | valueError => exact ends_processCheckout (Option.some.inj h)
    | surrogates isObject =>
      cases isObject with
      | true => cases h
      | false => exact ends_processCheckout (Option.some.inj h)
    | recursionError => cases h

end Receive

/-! ## Callbacks that are lost -/

/-- A disbursement callback whose body is a JSON array. -/
def arrayCallback : Delivery := .disbursement portalRuntime ⟨"[1]", .value (.arr [.int 1])⟩

/-- A signed checkout callback whose `order_id` is a number. -/
def numberedCallback : Delivery :=
  .checkout portalRuntime [] ⟨"\x7b\"order_id\": 7\x7d", .value (.obj [("order_id", .int 7)])⟩

theorem not_kept_of_rows {payload : Option Json} {db db' : PlatformDb}
    (h : db'.rows .paymentWebhooks = []) : ¬Kept payload db db' := by
  rintro ⟨webhook, -, hrows⟩
  rw [h, eq_comm, List.append_eq_nil_iff] at hrows
  exact List.cons_ne_nil _ _ hrows.2

end InfinityRadius.Api
