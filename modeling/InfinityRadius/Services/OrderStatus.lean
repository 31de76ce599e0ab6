import InfinityRadius.Core.Frames
import InfinityRadius.Integrations.CollectionAnswers
import InfinityRadius.Services.CollectionGate
import InfinityRadius.Services.PaymentRuns
import InfinityRadius.Services.Statements

/-!
# The answer to an order-status query

`query_and_apply` on every JSON body a query can be answered with: when it returns, and that what
it could not read credits nothing.
-/

namespace InfinityRadius.Services.SelcomPaymentProvider

open Amounts Database Payload Program Sql Models Integrations.SelcomCollection

/-! ## Answers that can be applied -/

section Applicable

variable {outside : Outside} {state : State schema Request HttpResult} {settings : Settings}
  {provider : SelcomPaymentProvider} {t : Transaction} {statusData : OrderStatusData}
  {resultcode : Option String}

/-- The status means that the payment is still waited for. -/
def Waiting (paymentStatus : String) : Prop :=
  (paymentStatusToCollectionStatus.lookup paymentStatus).any nonTerminalMappedTargets.contains =
    true

instance (paymentStatus : String) : Decidable (Waiting paymentStatus) :=
  inferInstanceAs (Decidable (_ = true))

/-- The texts of an answer can be stored where they go, and a payment that it completes can be
credited. -/
structure Applicable (outside : Outside) (state : State schema Request HttpResult)
    (provider : SelcomPaymentProvider) (t : Transaction) (statusData : OrderStatusData)
    (resultcode : Option String) : Prop where
  flow : t.transactionType = some provider.flow.transactionType
  mismatched : t.status.terminal = false → normalizedStatus statusData = "COMPLETED" →
    ∀ reason, mismatchReason t statusData = some reason → storable reason = true
  matched : t.status.terminal = false → normalizedStatus statusData = "COMPLETED" →
    mismatchReason t statusData = none →
      textsStorable [statusData.transid, statusData.reference, statusData.channel, resultcode] =
          true ∧
        Succeeds (exec outside) (provider.finalizePayment t statusData) state
  mapped : t.status.terminal = false → normalizedStatus statusData ≠ "COMPLETED" →
    (t.status = .requiresReview ∧ Waiting (normalizedStatus statusData)) ∨
      storableOpt resultcode = true

/-- A stored row that only gets other texts of an answer. -/
theorem succeeds_answered {toStatus : CollectionStatus} {metadata : List (Option String)}
    {extraColumns : Transaction → Transaction} (ht : t ∈ state.db.rows .transactions)
    (hset : t.SameOrder { extraColumns t with status := toStatus }) :
    Succeeds (exec outside) (transition t toStatus metadata extraColumns) state ↔
      textsStorable [(extraColumns t).providerReference, (extraColumns t).collectionTransid,
        (extraColumns t).channel, (extraColumns t).providerResultcode,
        (extraColumns t).providerMessage] = true ∧ textsStorable metadata = true := by
  rw [succeeds_transition outside state ht hset,
    rowValid_answered (state.db.valid .transactions t ht) hset]

/-- The texts of a stored row that an answer can write over. -/
theorem storable_of_stored (ht : t ∈ state.db.rows .transactions) :
    storableOpt t.providerReference = true ∧ storableOpt t.collectionTransid = true ∧
      storableOpt t.channel = true ∧ storableOpt t.providerResultcode = true ∧
      storableOpt t.providerMessage = true := by
  have hvalid : rowValid .transactions t = true := state.db.valid .transactions t ht
  rw [rowValid_answered hvalid (.refl t)] at hvalid
  simpa [textsStorable] using hvalid

theorem storableOpt_given_orElse {text : Option String} {default : String}
    (hdefault : storable default = true) :
    storableOpt (orElse text (some default)) = storableOpt text := by
  rw [orElse]
  cases text with
  | none => exact hdefault
  | some text =>
    by_cases hempty : given (some text) = true
    · rw [if_pos hempty]
    · rw [if_neg hempty]
      have htext : text = "" := by simpa [given] using hempty
      rw [htext]
      exact hdefault.trans (by decide)

variable (outside state) in
/-- The payment that was credited is completed exactly if the texts can be stored. -/
theorem succeeds_completed (ht : t ∈ state.db.rows .transactions) {time : Timestamp} :
    Succeeds (exec outside)
      (transition t .completed [statusData.transid, statusData.reference, t.collectionTransid]
        fun t =>
          { t with
            providerReference :=
              orElse (orElse statusData.transid statusData.reference) t.providerReference
            channel := statusData.channel
            providerResultcode := orElse resultcode (some "000")
            providerMessage := some "COMPLETED"
            completedAt := some time }) state ↔
      textsStorable [statusData.transid, statusData.reference, statusData.channel, resultcode] =
        true := by
  obtain ⟨hreference, htransid, -, -, -⟩ := storable_of_stored ht
  rw [succeeds_answered ht (by constructor <;> rfl)]
  simp only [textsStorable, List.all_cons, List.all_nil, Bool.and_eq_true, Bool.and_true,
    storableOpt_given_orElse (show storable "000" = true by decide), htransid]
  constructor
  · rintro ⟨⟨-, -, hchannel, hresultcode, -⟩, hgiven, hother⟩
    exact ⟨hgiven, hother, hchannel, hresultcode⟩
  · rintro ⟨hgiven, hother, hchannel, hresultcode⟩
    refine ⟨⟨?_, trivial, hchannel, hresultcode, by decide⟩, hgiven, hother⟩
    exact storableOpt_orElse (storableOpt_orElse hgiven hother) hreference

theorem succeeds_applyCompleted (hfinalises : provider.Finalises)
    (ht : t ∈ state.db.rows .transactions)
    (htype : t.transactionType = some provider.flow.transactionType) :
    Succeeds (exec outside) (applyCompleted provider t statusData resultcode) state ↔
      (∀ reason, mismatchReason t statusData = some reason → storable reason = true) ∧
      (mismatchReason t statusData = none →
        textsStorable [statusData.transid, statusData.reference, statusData.channel, resultcode] =
            true ∧
          Succeeds (exec outside) (provider.finalizePayment t statusData) state) := by
  rw [applyCompleted]
  cases hreason : mismatchReason t statusData with
  | some reason =>
    dsimp only
    rw [succeeds_answered ht (by constructor <;> rfl)]
    have hstored := storable_of_stored ht
    simpa [textsStorable] using fun _ => hstored
  | none =>
    dsimp only
    rw [succeeds_bind]
    have hcompleted : ∀ finalised middle,
        run (exec outside) (provider.finalizePayment t statusData) state =
          (.ok finalised, middle) → finalised ∈ middle.db.rows .transactions := by
      intro finalised middle hrun
      have hfinalised := (hfinalises t statusData state.toWorld ht htype).run outside
      rw [hrun] at hfinalised
      rw [hfinalised.1.transactions]
      exact mem_replaceRow_self ht hfinalised.1.sameOrder.id.symm
    constructor
    · rintro ⟨finalised, middle, hrun, hsucceeds⟩
      constructor
      · rintro _ ⟨⟩
      · rintro -
        refine ⟨?_, finalised, congrArg Prod.fst hrun⟩
        exact (succeeds_completed outside { middle with tick := middle.tick + 1 }
          (hcompleted finalised middle hrun)).mp hsucceeds
    · rintro ⟨-, h⟩
      obtain ⟨hstorable, finalised, hresult⟩ := h rfl
      rcases hrun : run (exec outside) (provider.finalizePayment t statusData) state with
        ⟨result, middle⟩
      rw [hrun] at hresult
      obtain rfl : result = .ok finalised := hresult
      refine ⟨finalised, middle, rfl, ?_⟩
      exact (succeeds_completed outside { middle with tick := middle.tick + 1 }
        (hcompleted finalised middle hrun)).mpr hstorable

theorem storable_of_lookup {paymentStatus : String} {mapped : CollectionStatus}
    (h : paymentStatusToCollectionStatus.lookup paymentStatus = some mapped) :
    storable paymentStatus = true := by
  have hall : ∀ entry ∈ paymentStatusToCollectionStatus, storable entry.1 = true := by decide
  obtain ⟨before, after, heq, -⟩ := List.lookup_eq_some_iff.mp h
  apply hall (paymentStatus, mapped)
  rw [heq]
  exact List.mem_append_right _ List.mem_cons_self

/-- Whether a payment is late plays no part where both ways return alike. -/
theorem succeeds_isStalePending_bind {f : Bool → Tx Transaction} {condition : Prop}
    (h : ∀ stale tick, Succeeds (exec outside) (f stale) { state with tick } ↔ condition) :
    Succeeds (exec outside) (isStalePending settings t >>= f) state ↔ condition := by
  rw [isStalePending]
  cases t.stkRequestedAt with
  | none => exact h false state.tick
  | some requestedAt =>
    dsimp only
    split
    · exact h false state.tick
    · exact h _ (state.tick + 1)

variable (outside state) in
/-- A row that gets the status of an answer, its code and a text of the code's own. -/
theorem succeeds_mapped {toStatus : CollectionStatus} {reason message : String}
    {failedAt : Option Timestamp} (ht : t ∈ state.db.rows .transactions)
    (hreason : storable reason = true) (hmessage : storable message = true) :
    Succeeds (exec outside) (transition t toStatus [some reason] fun t =>
      { t with providerMessage := some message, providerResultcode := resultcode, failedAt }) state ↔
        storableOpt resultcode = true := by
  obtain ⟨hreference, htransid, hchannel, -, -⟩ := storable_of_stored ht
  rw [succeeds_answered ht (by constructor <;> rfl)]
  simp [textsStorable, hreference, htransid, hchannel, hreason, hmessage]

theorem succeeds_applyMapped {paymentStatus : String} (ht : t ∈ state.db.rows .transactions) :
    Succeeds (exec outside) (applyMapped settings t statusData paymentStatus resultcode) state ↔
      (t.status = .requiresReview ∧ Waiting paymentStatus) ∨ storableOpt resultcode = true := by
  rw [applyMapped, Waiting]
  cases hlookup : paymentStatusToCollectionStatus.lookup paymentStatus with
  | none =>
    obtain ⟨hreference, htransid, hchannel, -, hmessage⟩ := storable_of_stored ht
    have hreason : storable ("Unrecognized payment_status: "
        ++ (statusData.paymentStatus.map reprText).getD "None") = true := by
      rw [storable_append, Bool.and_eq_true]
      refine ⟨by decide, storable_getD ?_ (by decide)⟩
      cases statusData.paymentStatus with
      | none => rfl
      | some text => exact storable_reprText text
    dsimp only
    rw [succeeds_answered ht (by constructor <;> rfl)]
    simp [textsStorable, hreference, htransid, hchannel, hmessage, hreason]
  | some mapped =>
    have hstorable := storable_of_lookup hlookup
    have hreason : storable ("Selcom order-status: " ++ paymentStatus) = true := by
      rw [storable_append, Bool.and_eq_true]
      exact ⟨by decide, hstorable⟩
    dsimp only
    rw [Option.any_some, List.contains_iff_mem]
    by_cases hterminal : mapped ∉ nonTerminalMappedTargets
    · rw [if_pos hterminal, or_iff_right fun h => hterminal h.2]
      exact succeeds_mapped outside { state with tick := state.tick + 1 } ht hreason hstorable
    · rw [if_neg hterminal]
      by_cases hreview : t.status = .requiresReview
      · rw [if_pos hreview]
        exact iff_of_true (succeeds_pure _ t state) (Or.inl ⟨hreview, not_not.mp hterminal⟩)
      · rw [if_neg hreview, or_iff_right fun h => hreview h.1]
        apply succeeds_isStalePending_bind
        intro stale tick
        cases stale with
        | true =>
          apply succeeds_mapped outside { state with tick } ht _ hstorable
          rw [storable_append, storable_append, storable_reprText]
          decide +kernel
        | false => exact succeeds_mapped outside { state with tick } ht hreason hstorable

theorem succeeds_applyOrderStatus (hfinalises : provider.Finalises)
    (ht : t ∈ state.db.rows .transactions) :
    Succeeds (exec outside) (applyOrderStatus settings provider t statusData resultcode) state ↔
      Applicable outside state provider t statusData resultcode := by
  rw [applyOrderStatus, succeeds_require_bind]
  constructor
  · rintro ⟨hflow, h⟩
    refine ⟨hflow, fun hundecided hcompleted => ?_, fun hundecided hcompleted => ?_,
      fun hundecided hmapped => ?_⟩
    · rw [if_neg (Bool.eq_false_iff.mp hundecided), if_pos hcompleted,
        succeeds_applyCompleted hfinalises ht hflow] at h
      exact h.1
    · rw [if_neg (Bool.eq_false_iff.mp hundecided), if_pos hcompleted,
        succeeds_applyCompleted hfinalises ht hflow] at h
      exact h.2
    · rw [if_neg (Bool.eq_false_iff.mp hundecided), if_neg hmapped, succeeds_applyMapped ht] at h
      exact h
  · intro h
    use h.flow
    cases hterminal : t.status.terminal with
    | true => exact succeeds_pure _ t state
    | false =>
      rw [if_neg Bool.false_ne_true]
      by_cases hcompleted : normalizedStatus statusData = "COMPLETED"
      · rw [if_pos hcompleted, succeeds_applyCompleted hfinalises ht h.flow]
        exact ⟨h.mismatched hterminal hcompleted, h.matched hterminal hcompleted⟩
      · rw [if_neg hcompleted, succeeds_applyMapped ht]
        exact h.mapped hterminal hcompleted

end Applicable

/-! ## Answers that credit nothing -/

section Uncredited

variable {table : Table} {settings : Settings} {provider : SelcomPaymentProvider}
  {t : Transaction} {statusData : OrderStatusData} {resultcode : Option String}

theorem avoids_transition (htable : table ≠ .transactions) (toStatus : CollectionStatus)
    (metadata : List (Option String)) (extraColumns : Transaction → Transaction) :
    (transition t toStatus metadata extraColumns).All (Stmt.Avoids table) :=
  .bind ⟨htable.symm, fun _ => Prog.all_orRaise _ _⟩ fun _ =>
    .bind (Prog.all_require _ _) fun _ => trivial

theorem avoids_applyMapped (htable : table ≠ .transactions) (paymentStatus : String) :
    (applyMapped settings t statusData paymentStatus resultcode).All (Stmt.Avoids table) := by
  rw [applyMapped]
  split
  · exact avoids_transition htable _ _ _
  · apply Prog.All.ite
    · exact fun _ => .bind ⟨trivial, fun _ => trivial⟩ fun _ => avoids_transition htable _ _ _
    · refine fun _ => .ite (fun _ => trivial) fun _ => .bind ?_ fun stale => .ite ?_ ?_
      · rw [isStalePending]
        split
        · trivial
        · exact .ite (fun _ => trivial) fun _ => ⟨trivial, fun _ => trivial⟩
      · exact fun _ => avoids_transition htable _ _ _
      · exact fun _ => avoids_transition htable _ _ _

/-- What an answer has to say before its payment is credited. -/
structure Matches (t : Transaction) (statusData : OrderStatusData) : Prop where
  completed : normalizedStatus statusData = "COMPLETED"
  order : given statusData.orderId = true → statusData.orderId = some t.reference
  amount : statusData.amount = some (ofNumeric t.amount)
  currency : given statusData.currency = true → statusData.currency = some t.currency

theorem mismatchReason_eq_none (hcompleted : normalizedStatus statusData = "COMPLETED") :
    mismatchReason t statusData = none ↔ Matches t statusData := by
  rw [mismatchReason]
  split_ifs with horder hamount hcurrency
  · exact iff_of_false nofun fun h => horder.2 (h.order horder.1)
  · exact iff_of_false nofun fun h => hamount h.amount
  · exact iff_of_false nofun fun h => hcurrency.2 (h.currency hcurrency.1)
  · apply iff_of_true rfl
    constructor
    · exact hcompleted
    · exact fun hgiven => not_not.mp fun hne => horder ⟨hgiven, hne⟩
    · exact not_not.mp hamount
    · exact fun hgiven => not_not.mp fun hne => hcurrency ⟨hgiven, hne⟩

theorem avoids_applyOrderStatus (htable : table ≠ .transactions) (h : ¬Matches t statusData) :
    (applyOrderStatus settings provider t statusData resultcode).All (Stmt.Avoids table) := by
  refine .bind (Prog.all_require _ _) fun _ => .ite (fun _ => trivial) fun _ => .ite ?_ ?_
  · intro hcompleted
    rw [applyCompleted]
    cases hreason : mismatchReason t statusData with
    | none => exact absurd ((mismatchReason_eq_none hcompleted).mp hreason) h
    | some reason => exact avoids_transition htable _ _ _
  · exact fun _ => avoids_applyMapped htable _

/-- The answer lacks what a payment is credited for. -/
def Lacks (statusData : OrderStatusData) : Prop :=
  statusData.paymentStatus = none ∨ statusData.amount = none

theorem Lacks.not_matches (h : Lacks statusData) : ¬Matches t statusData := by
  intro hmatches
  rcases h with hstatus | hamount
  · have hcompleted := hmatches.completed
    rw [normalizedStatus, hstatus, Option.getD_none, strip] at hcompleted
    exact absurd hcompleted (by decide)
  · have hsome := hmatches.amount
    rw [hamount] at hsome
    cases hsome

end Uncredited

/-! ## Queries -/

section Query

variable {outside : Outside} {state : State schema Request HttpResult} {settings : Settings}
  {provider : SelcomPaymentProvider} {t : Transaction} {statusCode : ℕ} {body : Json}

/-- What is done about a response that was read. -/
def applyRead (settings : Settings) (provider : SelcomPaymentProvider) (transaction : Transaction)
    (response : OrderStatusResponse) : Tx Transaction :=
  match response.first with
  | none => pure transaction
  | some statusData =>
    applyOrderStatus settings provider transaction statusData response.resultcode

/-- The query sent for this payment is answered with a body that is JSON, and no error status. -/
structure Answered (outside : Outside) (state : State schema Request HttpResult)
    (settings : Settings) (statusCode : ℕ) (body : Json) : Prop where
  reaches : Reaches settings
  answer : outside.respond state.sent.length = .response statusCode (some body)
  accepted : statusCode < 400

variable (provider t) in
/-- Where the model rejects the body, the query raises; else what was read is applied. -/
theorem run_queryAndApply (h : Answered outside state settings statusCode body) :
    run (exec outside) (queryAndApply settings provider t) state =
      match orderStatusResponse body with
      | some response => run (exec outside) (applyRead settings provider t response)
          (after outside state (.orderStatus t.reference))
      | none => (.error .pydanticValidation, after outside state (.orderStatus t.reference)) := by
  have hparsed : parse (outside.respond state.sent.length) = .ok body := by
    rw [h.answer, parse, if_neg (Nat.not_le.mpr h.accepted)]
  rw [queryAndApply, newClient_of_configured h.reaches.key h.reaches.configured, Prog.pure_bind,
    run_bind, run_attempt, orderStatus, run_call outside state (signed_of_signs h.reaches.signs),
    validated, hparsed]
  dsimp only
  cases orderStatusResponse body with
  | none => rfl
  | some response => rfl

/-- The query returns, what is of another type than expected is taken for absent, and nothing is
credited where what a payment is credited for is absent. -/
structure ReadDefensively (outside : Outside) (state : State schema Request HttpResult)
    (settings : Settings) (provider : SelcomPaymentProvider) (t : Transaction) (body : Json) :
    Prop where
  returns : Succeeds (exec outside) (queryAndApply settings provider t) state
  lenient : run (exec outside) (queryAndApply settings provider t) state =
    run (exec outside) (applyRead settings provider t (defensive body))
      (after outside state (.orderStatus t.reference))
  uncredited : (∀ statusData, (defensive body).first = some statusData → Lacks statusData) →
    ∀ table ∈ moneyTables,
      (run (exec outside) (queryAndApply settings provider t) state).2.db.rows table =
        state.db.rows table

theorem run_applyRead_uncredited {response : OrderStatusResponse}
    (h : ∀ statusData, response.first = some statusData → Lacks statusData) {table : Table}
    (htable : table ∈ moneyTables) :
    (run (exec outside) (applyRead settings provider t response) state).2.db.rows table =
      state.db.rows table := by
  have hne : table ≠ .transactions := by
    rintro rfl
    exact absurd htable (by decide)
  apply run_rows_of_avoids
  rw [applyRead]
  cases hfirst : response.first with
  | none => trivial
  | some statusData => exact avoids_applyOrderStatus hne (h statusData hfirst).not_matches

/-- The item that was read, if any, can be applied. -/
def Applies (outside : Outside) (state : State schema Request HttpResult)
    (provider : SelcomPaymentProvider) (t : Transaction) (response : OrderStatusResponse) : Prop :=
  ∀ statusData, response.first = some statusData →
    Applicable outside state provider t statusData response.resultcode

variable (outside state settings) in
theorem succeeds_applyRead (hfinalises : provider.Finalises)
    (ht : t ∈ state.db.rows .transactions) (response : OrderStatusResponse) :
    Succeeds (exec outside) (applyRead settings provider t response) state ↔
      Applies outside state provider t response := by
  rw [applyRead, Applies]
  cases response.first with
  | none =>
    apply iff_of_true (succeeds_pure _ t state)
    rintro _ ⟨⟩
  | some statusData =>
    dsimp only
    rw [succeeds_applyOrderStatus hfinalises ht]
    exact ⟨fun h _ heq => Option.some.inj heq ▸ h, fun h => h statusData rfl⟩

/-- A query whose answer the model rejects raises. -/
theorem wellTyped_of_succeeds (h : Answered outside state settings statusCode body)
    (hsucceeds : Succeeds (exec outside) (queryAndApply settings provider t) state) :
    WellTyped body := by
  obtain ⟨finalised, hresult⟩ := hsucceeds
  rw [run_queryAndApply provider t h] at hresult
  cases hresponse : orderStatusResponse body with
  | none =>
    rw [hresponse] at hresult
    cases hresult
  | some response => exact (orderStatusResponse_eq_some.mp hresponse).1

end Query

/-! ## A code that is a number -/

/-- A payment through the portal whose prompt was sent. -/
def promptedPayment : Transaction :=
  { id := 0, tenantId := 1, customerId := none, transactionType := some .captivePortal,
    reference := "cap-1", payerPhone := none, amount := 100000, currency := "TZS",
    status := .stkSent, paymentProvider := some .selcomCollection }

def promptedDb : PlatformDb where
  rows
    | .transactions => [promptedPayment]
    | t => portalRows true t
  valid t := by cases t <;> decide +kernel
  apart t := by cases t <;> decide +kernel

/-- An answer that says so of the payment. -/
def orderAnswer (resultcode : Json) (paymentStatus : String) : Json :=
  .obj [("resultcode", resultcode), ("data", .arr [.obj [("order_id", .str "cap-1"),
    ("payment_status", .str paymentStatus), ("amount", .int 1000), ("currency", .str "TZS")]])]

theorem answered_portal (body : Json) :
    Answered (PayoutService.answering [.response 200 (some body)]) ⟨⟨promptedDb, []⟩, 0⟩
      portalRuntime.settings 200 body where
  reaches := ⟨by decide, by decide, fun h => absurd h (by decide)⟩
  answer := rfl
  accepted := by decide

end InfinityRadius.Services.SelcomPaymentProvider
