import InfinityRadius.Services.OrderStatus

/-!
# The outcome of a prompt

`create_order_and_send_stk` on every answer of Selcom: when it ends with an honest record, the
prompt sent after both requests were accepted or the payment failed.
-/

namespace InfinityRadius.Services.SelcomPaymentProvider

open Amounts Database Payload Program Sql Models Integrations.SelcomCollection

/-! ## Answers -/

/-- The result codes Selcom takes a request with. -/
def acceptedCodes : List (Option String) := [some "000", some "111"]

/-- The answer says that the request was taken. -/
def Accepts : HttpResult → Prop
  | .response statusCode (some body) =>
    statusCode < 400 ∧ lenientField (bodyFields body) "resultcode" optStr ∈ acceptedCodes
  | _ => False

/-- A failure that is caught, and whose text can be stored. -/
def Refusable : Failure → Prop
  | .selcomCollection error => storable error.message = true
  | _ => False

section Outcome

variable (outside : Outside) (state : State schema Request HttpResult) (settings : Settings)

/-- The prompt is refused, or accepted after an order that was. -/
def PromptHandled (ordered : HttpResult) : Prop :=
  match validated walletPaymentResponse (outside.respond state.sent.length) with
  | .error failure => Refusable failure
  | .ok response =>
    textsStorable [some ("txn-" ++ outside.answer state.tick .uuidHex), response.resultcode,
        response.message] = true ∧
      Accepts ordered ∧ Accepts (outside.respond state.sent.length)

/-- The order is refused, or what follows it is as it should be. -/
def OrderHandled (request : Request) : Prop :=
  match validated createOrderMinimalResponse (outside.respond state.sent.length) with
  | .error failure => Refusable failure
  | .ok _ => PromptHandled outside (after outside state request)
    (outside.respond state.sent.length)

end Outcome

/-- The run returned with the stored row, failed or prompted, and prompted only if so. -/
def Ended (accepted : Prop) : Except Failure Transaction × State schema Request HttpResult → Prop
  | (.ok t, final) => t ∈ final.db.rows .transactions ∧
      (t.status = .failed ∨ (t.status = .stkSent ∧ accepted))
  | (.error _, _) => False

section Ended

variable {outside : Outside} {state : State schema Request HttpResult} {settings : Settings}
  {t : Transaction} {accepted : Prop}

theorem ended_transition {toStatus : CollectionStatus} {metadata : List (Option String)}
    {extraColumns : Transaction → Transaction} (ht : t ∈ state.db.rows .transactions)
    (hset : t.SameOrder { extraColumns t with status := toStatus }) :
    Ended accepted (run (exec outside) (transition t toStatus metadata extraColumns) state) ↔
      (rowValid .transactions { extraColumns t with status := toStatus } = true ∧
        textsStorable metadata = true) ∧
      (toStatus = .failed ∨ (toStatus = .stkSent ∧ accepted)) := by
  rcases @run_transition t outside state toStatus metadata extraColumns ht hset with
    ⟨hstorable, db, hreplaced, hrun⟩ | ⟨hunstorable, db, hrun⟩
  · rw [hrun, and_iff_right hstorable]
    exact and_iff_right (hreplaced.mem ht hset.id.symm)
  · rw [hrun]
    exact iff_of_false not_false fun h => hunstorable h.1

/-- A payment that failed is on record exactly if the reason can be stored. -/
theorem ended_fail {reason : String} (ht : t ∈ state.db.rows .transactions) :
    Ended accepted (run (exec outside) (fail t reason) state) ↔ storable reason = true := by
  have hended := @ended_transition outside { state with tick := state.tick + 1 } t accepted .failed
    [some reason] (fun t => { t with failedAt := some (outside.answer state.tick .now) }) ht
    (by constructor <;> rfl)
  have hvalid : rowValid .transactions t = true := state.db.valid .transactions t ht
  refine hended.trans ?_
  rw [rowValid_answered hvalid (by constructor <;> rfl), ← rowValid_answered hvalid (.refl t)]
  simp [hvalid, textsStorable]

/-- What follows a request that is attempted, where it raised. -/
theorem ended_attempt {α : Type} {request : Tx α} {failure : Failure}
    {state' : State schema Request HttpResult}
    (hrun : run (exec outside) request state = (.error failure, state'))
    (ht : t ∈ state'.db.rows .transactions) {doing : String} (hdoing : storable doing = true)
    {f : Except SelcomCollectionError α → Tx Transaction}
    (hf : ∀ error, f (.error error) = fail t (doing ++ error.message)) :
    Ended accepted (run (exec outside) (attempt request >>= f) state) ↔ Refusable failure := by
  rw [run_bind, run_attempt, hrun]
  cases failure with
  | selcomCollection error =>
    dsimp only [caught]
    rw [hf, ended_fail ht, storable_append, hdoing, Bool.true_and]
    exact Iff.rfl
  | _ => exact Iff.rfl

theorem run_attempt_ok {α : Type} {request : Tx α} {response : α}
    {state' : State schema Request HttpResult}
    (hrun : run (exec outside) request state = (.ok response, state'))
    {f : Except SelcomCollectionError α → Tx Transaction} :
    run (exec outside) (attempt request >>= f) state =
      run (exec outside) (f (.ok response)) state' := by
  rw [run_bind, run_attempt, hrun]
  rfl

/-- What is done about the answer to a prompt. -/
def recordPrompt (t : Transaction) (transid : String) (response : WalletPaymentResponse) :
    Tx Transaction := do
  let time ← now
  transition t .stkSent [response.message] fun t =>
    { t with
      collectionTransid := some transid
      stkRequestedAt := some time
      providerResultcode := response.resultcode
      providerMessage := response.message }

theorem run_sendStk {msisdn : String} :
    run (exec outside) (sendStk settings t msisdn) state =
      run (exec outside) (do
        let answer ← attempt (walletPayment settings
          ("txn-" ++ outside.answer state.tick .uuidHex) t.reference msisdn)
        match answer with
        | .error error => fail t ("STK request failed: " ++ error.message)
        | .ok response =>
          recordPrompt t ("txn-" ++ outside.answer state.tick .uuidHex) response)
        { state with tick := state.tick + 1 } := rfl

/-- The texts of a stored row that a prompt does not write. -/
theorem ended_recordPrompt {transid : String} {response : WalletPaymentResponse}
    (ht : t ∈ state.db.rows .transactions) :
    Ended accepted (run (exec outside) (recordPrompt t transid response) state) ↔
      textsStorable [some transid, response.resultcode, response.message] = true ∧ accepted := by
  have hvalid : rowValid .transactions t = true := state.db.valid .transactions t ht
  have htexts := hvalid
  rw [rowValid_answered hvalid (.refl t)] at htexts
  have hended := @ended_transition outside { state with tick := state.tick + 1 } t accepted .stkSent
    [response.message] (fun t =>
      { t with
        collectionTransid := some transid
        stkRequestedAt := some (outside.answer state.tick .now)
        providerResultcode := response.resultcode
        providerMessage := response.message }) ht (by constructor <;> rfl)
  refine hended.trans ?_
  rw [rowValid_answered hvalid (by constructor <;> rfl)]
  simp only [textsStorable, List.all_cons, List.all_nil, Bool.and_eq_true, Bool.and_true,
    reduceCtorEq, false_or, true_and] at htexts ⊢
  tauto

theorem ended_sendStk {msisdn : String} {ordered : HttpResult}
    (hsigned : signed settings = .ok ()) (ht : t ∈ state.db.rows .transactions) :
    Ended (Accepts ordered ∧ Accepts (outside.respond state.sent.length))
      (run (exec outside) (sendStk settings t msisdn) state) ↔
        PromptHandled outside state ordered := by
  have hdoing : storable "STK request failed: " = true := by decide
  have hrun := run_call outside { state with tick := state.tick + 1 } hsigned walletPaymentResponse
    (.walletPayment ("txn-" ++ outside.answer state.tick .uuidHex) t.reference msisdn)
  rw [PromptHandled, run_sendStk, walletPayment]
  cases hvalidated : validated walletPaymentResponse (outside.respond state.sent.length) with
  | error failure =>
    rw [hvalidated] at hrun
    exact ended_attempt hrun ht hdoing fun _ => rfl
  | ok response =>
    rw [hvalidated] at hrun
    rw [run_attempt_ok hrun]
    exact ended_recordPrompt ht

/-! ## Both requests -/

/-- The order, with its amount in whole shillings. -/
def orderRequest (settings : Settings) (t : Transaction)
    (buyerName buyerEmail msisdn : String) (amount : Decimal) (currency : String)
    (description : Option String) : Request :=
  .createOrderMinimal (settings.selcomCollectionVendor.getD "") t.reference buyerEmail buyerName
    msisdn (toString amount.num) currency 1 (webhookB64 settings) description

/-- The request can be signed, and what Selcom answers leaves an honest record. -/
def SignedHandled (outside : Outside) (state : State schema Request HttpResult)
    (settings : Settings) (request : Request) : Prop :=
  match signed settings with
  | .error failure => Refusable failure
  | .ok _ => OrderHandled outside state request

theorem ended_createOrderAndSendStk {buyerName buyerEmail msisdn currency : String}
    {amount : Decimal} {description : Option String}
    (hkey : settings.selcomCollectionPrivateKey ≠ .notBase64)
    (hconfigured : isConfigured settings = true) (hwhole : amount.den = 1)
    (ht : t ∈ state.db.rows .transactions) :
    Ended (Accepts (outside.respond state.sent.length) ∧
        Accepts (outside.respond (state.sent.length + 1)))
      (run (exec outside) (createOrderAndSendStk settings t buyerName buyerEmail msisdn amount
        currency description) state) ↔
      SignedHandled outside state settings
        (orderRequest settings t buyerName buyerEmail msisdn amount currency description) := by
  have hdoing : storable "Order creation failed: " = true := by decide
  rw [createOrderAndSendStk, newClient_of_configured hkey hconfigured, Prog.pure_bind,
    createOrderMinimal, wholeTzsAmount, if_pos hwhole, Prog.pure_bind, SignedHandled, OrderHandled]
  cases hsigned : signed settings with
  | error failure =>
    exact ended_attempt (run_call_unsigned outside state hsigned _ _) ht hdoing fun _ => rfl
  | ok _ =>
    have hrun := run_call outside state hsigned createOrderMinimalResponse
      (orderRequest settings t buyerName buyerEmail msisdn amount currency description)
    dsimp only
    cases hvalidated : validated createOrderMinimalResponse (outside.respond state.sent.length) with
    | error failure =>
      rw [hvalidated] at hrun
      exact ended_attempt hrun ht hdoing fun _ => rfl
    | ok order =>
      rw [hvalidated] at hrun
      rw [← orderRequest, run_attempt_ok hrun]
      have hlength : (after outside state (orderRequest settings t buyerName buyerEmail msisdn
          amount currency description)).sent.length = state.sent.length + 1 :=
        List.length_append
      rw [← hlength]
      exact ended_sendStk hsigned ht

/-- An amount that is not whole raises what is not caught. -/
theorem not_ended_of_fraction {buyerName buyerEmail msisdn currency : String}
    {amount : Decimal} {description : Option String}
    (hkey : settings.selcomCollectionPrivateKey ≠ .notBase64)
    (hconfigured : isConfigured settings = true) (hfraction : amount.den ≠ 1) :
    ¬Ended accepted (run (exec outside) (createOrderAndSendStk settings t buyerName buyerEmail
      msisdn amount currency description) state) := by
  rw [createOrderAndSendStk, newClient_of_configured hkey hconfigured, Prog.pure_bind,
    createOrderMinimal, wholeTzsAmount, if_neg hfraction]
  exact not_false

/-- The initiation returns with the stored row, failed, or prompted once Selcom took both
requests. -/
def PromptsHonestly (outside : Outside) (state : State schema Request HttpResult)
    (settings : Settings) (t : Transaction) (buyerName buyerEmail msisdn : String)
    (amount : Decimal) (currency : String) (description : Option String) : Prop :=
  Ended (Accepts (outside.respond state.sent.length) ∧
      Accepts (outside.respond (state.sent.length + 1)))
    (run (exec outside) (createOrderAndSendStk settings t buyerName buyerEmail msisdn amount
      currency description) state)

end Ended

/-! ## Records that are not honest -/

/-- An answer of status 200 with a result code. -/
def coded (resultcode : Json) : HttpResult := .response 200 (some (.obj [("resultcode", resultcode)]))

/-- A prompt for an order of the portal that is answered so. -/
def Prompted (amount : Decimal) (order prompt : HttpResult) : Prop :=
  PromptsHonestly (PayoutService.answering [order, prompt]) ⟨⟨promptedDb, []⟩, 0⟩
    portalRuntime.settings promptedPayment "0712345678" "0712345678@customer.invalid" "255712345678"
    amount "TZS" none

theorem portal_configured : portalRuntime.settings.selcomCollectionPrivateKey ≠ .notBase64 ∧
    isConfigured portalRuntime.settings = true := ⟨by decide, by decide⟩

end InfinityRadius.Services.SelcomPaymentProvider
