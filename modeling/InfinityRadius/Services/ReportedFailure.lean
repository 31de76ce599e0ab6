import InfinityRadius.Services.SubmittedOnce

/-!
# A submitted withdrawal fails only where a failure was reported

Once the transfer of a withdrawal was requested in a committed operation, its
reservation is released only after an answer the code takes for a failure.
-/

namespace InfinityRadius.Services.PayoutService

open Amounts Database Payload Program Sql Models Integrations.SelcomBusiness

/-! ## What an answer reports -/

/-- A JSON answer with a status below 500 that fits its response model. -/
def reported {α : Type} (model : Validator α) : HttpResult → Option α
  | .response statusCode (some body) => if 500 ≤ statusCode then none else model body
  | _ => none

/-- An answer that is not JSON, or has a status of at least 500. -/
def Unparsed : HttpResult → Prop
  | .transportError _ => False
  | .response _ none => True
  | .response statusCode (some _) => 500 ≤ statusCode

instance : DecidablePred Unparsed
  | .transportError _ => isFalse id
  | .response _ none => isTrue trivial
  | .response statusCode (some _) => inferInstanceAs (Decidable (500 ≤ statusCode))

/-- A code outside the documented ones, and also none or a blank one. -/
def FailureCode (resultcode : Option String) : Prop :=
  strip (resultcode.getD "") ∉ ["000", "111", "927", "999"]

def SuccessCode (resultcode : Option String) : Prop := strip (resultcode.getD "") = "000"

instance (resultcode : Option String) : Decidable (SuccessCode resultcode) :=
  inferInstanceAs (Decidable (_ = _))

/-- The transfer was answered with a failure, or not understood at all. -/
def TransferFailed (answer : HttpResult) : Prop :=
  Unparsed answer ∨
    ∃ response, reported transactionProcessResponse answer = some response ∧
      FailureCode response.resultcode

/-- The query was answered with a failure. -/
def QueryFailed (answer : HttpResult) : Prop :=
  ∃ response, reported transactionQueryResponse answer = some response ∧
    FailureCode (queryResultcode response)

/-- The transfer was answered with a success. -/
def TransferSucceeded (answer : HttpResult) : Prop :=
  ∃ response, reported transactionProcessResponse answer = some response ∧
    SuccessCode response.resultcode

/-- The query was answered with a success. -/
def QuerySucceeded (answer : HttpResult) : Prop :=
  ∃ response, reported transactionQueryResponse answer = some response ∧
    SuccessCode (queryResultcode response)

/-- The exchange reports a failure of the transfer under the key. -/
def ReportsFailure (key : String) : Request × HttpResult → Prop
  | (.transactionProcess transId _ _ _ _ _ _, answer) => transId = key ∧ TransferFailed answer
  | (.transactionQuery transId, answer) => transId = key ∧ QueryFailed answer
  | _ => False

/-- The exchange reports a success of the transfer under the key. -/
def ReportsSuccess (key : String) : Request × HttpResult → Prop
  | (.transactionProcess transId _ _ _ _ _ _, answer) =>
    transId = key ∧ TransferSucceeded answer
  | (.transactionQuery transId, answer) => transId = key ∧ QuerySucceeded answer
  | _ => False

theorem validated_eq_ok {α : Type} {model : Validator α} {answer : HttpResult} {response : α}
    (h : validated model answer = .ok response) : reported model answer = some response := by
  unfold validated parse at h
  rcases answer with detail | ⟨status, _ | body⟩
  · cases h
  · cases h
  · by_cases hstatus : 500 ≤ status
    · simp [hstatus] at h
    · simp only [hstatus, if_false] at h
      rw [reported, if_neg hstatus]
      split at h
      · rename_i hmodel
        rw [hmodel, Except.ok.inj h]
      · cases h

theorem unparsed_of_api {α : Type} {model : Validator α} {answer : HttpResult}
    {message : String} {statusCode : Option ℕ}
    (h : validated model answer = .error (.selcomBusiness (.api message statusCode))) :
    Unparsed answer := by
  unfold validated parse at h
  rcases answer with detail | ⟨status, _ | body⟩
  · simp at h
  · trivial
  · by_cases hstatus : 500 ≤ status
    · exact hstatus
    · simp only [hstatus, if_false] at h
      split at h <;> simp at h

variable {db db' : PlatformDb} {w w' : Withdrawal}

/-! ## What a result changes -/

/-- The withdrawal is still unresolved, and no wallet was touched. -/
def Held (db : PlatformDb) (w' : Withdrawal) (db' : PlatformDb) : Prop :=
  w'.status.pending = true ∧ db'.rows .tenantWallets = db.rows .tenantWallets

/-- What is reported decides whether the withdrawal fails, and whether it is resolved
at all. -/
structure Follows (failure success : Prop) (w' : Withdrawal) (db db' : PlatformDb) : Prop where
  failed : w'.status = .failed → failure
  held : ¬failure → ¬success → Held db w' db'

theorem Follows.mono {failure failure' success success' : Prop}
    (h : Follows failure success w' db db') (hfailure : failure → failure')
    (hsuccess : success → success') : Follows failure' success' w' db db' :=
  ⟨fun hfailed => hfailure (h.failed hfailed),
    fun hfailure' hsuccess' => h.held (fun h => hfailure' (hfailure h))
      (fun h => hsuccess' (hsuccess h))⟩

/-- A result fails the withdrawal only by a failure code, and resolves it only by a
failure or a success. -/
theorem Carried.follows {result : ProviderResult} (hpending : w.status.pending = true)
    (h : Carried (decision w result) w db w' db') :
    Follows (FailureCode result.resultcode) (SuccessCode result.resultcode) w' db db' := by
  obtain ⟨-, h⟩ := h
  have hcode := interpretResultcode_outcome result.resultcode result.message
  unfold decision at h
  rw [if_neg (by rw [hpending]; decide), hcode] at h
  rcases outcomeOfCode_cases (strip (result.resultcode.getD "")) with
    ⟨houtcome, hsuccess⟩ | ⟨houtcome, -⟩ | ⟨houtcome, -⟩ | ⟨houtcome, h0, h1, h2, h9⟩
  · rw [houtcome] at h
    refine ⟨fun hfailed => ?_, fun _ hnot => absurd hsuccess hnot⟩
    cases hmismatch : resultMismatch w result with
    | some mismatch =>
      rw [hmismatch] at h
      exact absurd (h.1.symm.trans hfailed) (by decide)
    | none =>
      rw [hmismatch] at h
      exact absurd (h.1.symm.trans hfailed) (by decide)
  · rw [houtcome] at h
    obtain ⟨hstatus, heffect⟩ := h
    refine ⟨fun hfailed => ?_, fun _ _ => ⟨by rw [hstatus, hpending], heffect.wallets⟩⟩
    rw [← hstatus, hfailed] at hpending
    cases hpending
  · rw [houtcome] at h
    obtain ⟨hstatus, heffect⟩ := h
    refine ⟨fun hfailed => ?_, fun _ _ => ⟨by rw [hstatus]; rfl, heffect.wallets⟩⟩
    rw [hfailed] at hstatus
    cases hstatus
  · have hfailure : FailureCode result.resultcode := by
      simp only [FailureCode, List.mem_cons, List.not_mem_nil, not_or, or_false]
      exact ⟨h0, h1, h2, h9⟩
    exact ⟨fun _ => hfailure, fun hnot => absurd hfailure hnot⟩

theorem Resolved.follows {query : HttpResult} (hpending : w.status.pending = true)
    (h : Resolved w db query w' db') :
    Follows (QueryFailed query) (QuerySucceeded query) w' db db' := by
  unfold Resolved at h
  split at h
  · rename_i response hresponse
    have hreported := validated_eq_ok hresponse
    exact (h.follows hpending).mono (fun hcode => ⟨response, hreported, hcode⟩)
      (fun hcode => ⟨response, hreported, hcode⟩)
  · obtain ⟨rfl, rfl⟩ := h
    exact ⟨fun h => absurd hpending (by rw [h]; decide), fun _ _ => ⟨hpending, rfl⟩⟩

/-- A resolved withdrawal is left alone. -/
theorem Resolved.ignored {query : HttpResult} (hresolved : w.status.pending = false)
    (h : Resolved w db query w' db') : w' = w ∧ db' = db := by
  unfold Resolved at h
  split at h
  · rw [decision, if_pos hresolved] at h
    exact h.2
  · exact h

theorem Settled.follows {process : HttpResult} {queries : List HttpResult}
    (hpending : w.status.pending = true) (h : Settled w db process queries w' db') :
    Follows (TransferFailed process ∨ ∃ query ∈ queries, QueryFailed query)
      (TransferSucceeded process ∨ ∃ query ∈ queries, QuerySucceeded query) w' db db' := by
  unfold Settled at h
  split at h
  · rename_i response hresponse
    have hreported := validated_eq_ok hresponse
    exact (h.2.follows hpending).mono
      (fun hcode => Or.inl (Or.inr ⟨response, hreported, hcode⟩))
      (fun hcode => Or.inl ⟨response, hreported, hcode⟩)
  · obtain ⟨query, rfl, h⟩ := h
    have hresolved : Resolved w db query w' db' := by
      unfold Resolved
      split at h
      · rename_i response hresponse
        rw [hresponse]
        exact h
      · rename_i error hresponse
        rw [hresponse]
        exact h
      · exact h.elim
    exact (hresolved.follows hpending).mono
      (fun hfailed => Or.inr ⟨query, List.mem_cons_self, hfailed⟩)
      (fun hsucceeded => Or.inr ⟨query, List.mem_cons_self, hsucceeded⟩)
  · rename_i error hnot hresponse
    have hunparsed : Unparsed process := by
      rcases validated_error hresponse with ⟨message, heq⟩ | ⟨message, statusCode, heq⟩ | heq
      · cases heq
        exact absurd rfl (hnot message)
      · cases heq
        exact unparsed_of_api hresponse
      · cases heq
    exact ⟨fun _ => Or.inl (Or.inl hunparsed),
      fun hfailure => absurd (Or.inl (Or.inl hunparsed)) hfailure⟩
  · exact h.elim

/-! ## Steps -/

/-- The step fails the withdrawal under the key only where it is told of a failure,
and where it is told of neither failure nor success it leaves the withdrawal
unresolved and, if it asked, every wallet alone. -/
structure FollowsReports (key : String) (step : Step) (world : PlatformWorld) : Prop where
  failed : ∀ w' ∈ (step.next world).db.rows .withdrawals, w'.idempotencyKey = key →
    w'.status = .failed →
    (∃ exchange ∈ step.exchanges world.db, ReportsFailure key exchange) ∨
      ∃ w ∈ world.db.rows .withdrawals, w.idempotencyKey = key ∧ w.status = .failed
  held : (∀ exchange ∈ step.exchanges world.db,
      ¬ReportsFailure key exchange ∧ ¬ReportsSuccess key exchange) →
    ∀ w ∈ world.db.rows .withdrawals, ∀ w' ∈ (step.next world).db.rows .withdrawals,
      w.idempotencyKey = key → w'.idempotencyKey = key →
      (w.status.early = true ∨ w.status.pending = true) →
      w'.status.pending = true ∧
        ((∃ exchange ∈ step.exchanges world.db, aboutKey exchange.1 = some key) →
          (step.next world).db.rows .tenantWallets = world.db.rows .tenantWallets)

/-- The withdrawal keeps its status, or its successful payout is taken back, or one
query is answered. -/
inductive Followed (w : Withdrawal) (db : PlatformDb) (w' : Withdrawal) (db' : PlatformDb)
    (sent : List (Request × HttpResult)) : Prop
  | kept (hstatus : w'.status = w.status)
      (hwallets : (∃ exchange ∈ sent, aboutKey exchange.1 = some w.idempotencyKey) →
        db'.rows .tenantWallets = db.rows .tenantWallets)
  | reversed (hfrom : w.status = .success) (hto : w'.status = .reversed)
  | queried (query : HttpResult) (hsent : sent = [(.transactionQuery w.idempotencyKey, query)])
      (hresolved : Resolved w db query w' db')

variable {key : String} {more : List (Request × HttpResult)}

theorem Unsent.not_about (h : Unsent ⟨db, []⟩ ⟨db', more⟩) :
    ¬∃ exchange ∈ more, aboutKey exchange.1 = some key := by
  obtain ⟨sent, hsent, hnone⟩ := h
  obtain rfl : more = sent := hsent
  rintro ⟨exchange, hexchange, habout⟩
  rw [hnone exchange hexchange] at habout
  cases habout

section Sent

variable {submitted : Withdrawal} {middle : PlatformDb} {lookup process : HttpResult}
  {queries : List HttpResult}

/-- Every request of a submission is about the submitted withdrawal. -/
theorem Sent.about (h : Sent ⟨db, []⟩ w submitted middle lookup process queries more)
    {exchange : Request × HttpResult} (hexchange : exchange ∈ more)
    (habout : aboutKey exchange.1 = some key) : key = w.idempotencyKey := by
  obtain ⟨lookupRequest, transfer, hlookup, htransfer, -, rfl⟩ := h.sent
  rw [List.nil_append] at hexchange
  rcases List.mem_cons.mp hexchange with rfl | hexchange
  · rw [hlookup] at habout
    cases habout
  · rcases List.mem_cons.mp hexchange with rfl | hexchange
    · exact Option.some.inj (habout.symm.trans htransfer)
    · obtain ⟨query, -, rfl⟩ := List.mem_map.mp hexchange
      exact (Option.some.inj habout).symm

theorem Sent.mem_transfer (h : Sent ⟨db, []⟩ w submitted middle lookup process queries more) :
    ∃ recipientFiCode recipientAccount recipientName amount purpose remarks,
      (.transactionProcess w.idempotencyKey recipientFiCode recipientAccount recipientName amount
        purpose remarks, process) ∈ more := by
  obtain ⟨lookupRequest, transfer, -, -, htransfer, rfl⟩ := h.sent
  cases transfer with
  | transactionProcess transId recipientFiCode recipientAccount recipientName amount purpose
      remarks =>
    obtain rfl : transId = w.idempotencyKey := Option.some.inj htransfer
    exact ⟨recipientFiCode, recipientAccount, recipientName, amount, purpose, remarks, by simp⟩
  | _ => cases htransfer

theorem Sent.mem_query (h : Sent ⟨db, []⟩ w submitted middle lookup process queries more)
    {query : HttpResult} (hquery : query ∈ queries) :
    (.transactionQuery w.idempotencyKey, query) ∈ more := by
  obtain ⟨lookupRequest, transfer, -, -, -, rfl⟩ := h.sent
  simp [hquery]

/-- The answers of a submission decide what becomes of the withdrawal. -/
theorem Sent.follows (h : Sent ⟨db, []⟩ w submitted middle lookup process queries more)
    (hsettled : Settled submitted middle process queries w' db') :
    Follows (∃ exchange ∈ more, ReportsFailure w.idempotencyKey exchange)
      (∃ exchange ∈ more, ReportsSuccess w.idempotencyKey exchange) w' db db' := by
  have hfollows := hsettled.follows (by rw [h.status]; rfl)
  have hwallets : middle.rows .tenantWallets = db.rows .tenantWallets := h.effect.wallets
  obtain ⟨_, _, _, _, _, _, htransfer⟩ := h.mem_transfer
  have hfailure : (TransferFailed process ∨ ∃ query ∈ queries, QueryFailed query) →
      ∃ exchange ∈ more, ReportsFailure w.idempotencyKey exchange := by
    rintro (hfailed | ⟨query, hquery, hfailed⟩)
    · exact ⟨_, htransfer, rfl, hfailed⟩
    · exact ⟨_, h.mem_query hquery, rfl, hfailed⟩
  have hsuccess : (TransferSucceeded process ∨ ∃ query ∈ queries, QuerySucceeded query) →
      ∃ exchange ∈ more, ReportsSuccess w.idempotencyKey exchange := by
    rintro (hsucceeded | ⟨query, hquery, hsucceeded⟩)
    · exact ⟨_, htransfer, rfl, hsucceeded⟩
    · exact ⟨_, h.mem_query hquery, rfl, hsucceeded⟩
  refine ⟨fun hfailed => hfailure (hfollows.failed hfailed), fun hnot hnot' => ?_⟩
  obtain ⟨hpending, hheld⟩ := hfollows.held (fun h => hnot (hfailure h))
    (fun h => hnot' (hsuccess h))
  exact ⟨hpending, hheld.trans hwallets⟩

end Sent

/-- What a returning step does to one withdrawal past submission. -/
theorem Outcome.followed {runtime : Runtime} {operation : Operation}
    (h : Outcome runtime operation ⟨db, []⟩ ⟨db', more⟩) (hw : w ∈ db.rows .withdrawals)
    (hearly : w.status.early = false) :
    ∃ w' ∈ db'.rows .withdrawals, w'.idempotencyKey = w.idempotencyKey ∧
      Followed w db w' db' more := by
  have hother : ∀ v ∈ db.rows .withdrawals, v.status ∈ [.draft, .pendingApproval] →
      w.id ≠ v.id := by
    intro v hv hstatus hid
    obtain rfl := db.id_injOn (t := .withdrawals) hw hv hid
    rw [early_of_mem hstatus] at hearly
    cases hearly
  cases h with
  | requested _ h =>
    obtain ⟨v, wallet, wallet', h⟩ := h
    refine ⟨w, ?_, rfl, .kept rfl fun habout => absurd habout h.unsent.not_about⟩
    rw [h.withdrawals]
    exact List.mem_append_left _ hw
  | reissued _ h =>
    obtain ⟨hunsent, v, hv, -, hdraft, v', code, hissued, hreplaced⟩ := h
    refine ⟨w, ?_, rfl, .kept rfl fun habout => absurd habout hunsent.not_about⟩
    rw [hreplaced.rows_self]
    exact mem_replaceRow_of_ne hw fun h =>
      hother v hv (by simp [hdraft]) (h.trans hissued.same.id)
  | reversed _ h =>
    obtain ⟨hunsent, v, hv, hreverses, v', entry, hstatus, -, wallet, wallet', hmoved⟩ := h
    have heffect := hmoved.effect
    by_cases hid : w.id = v.id
    · obtain rfl := db.id_injOn (t := .withdrawals) hw hv hid
      exact ⟨v', heffect.mem hw, heffect.same.idempotencyKey, .reversed hreverses.status hstatus⟩
    · refine ⟨w, ?_, rfl, .kept rfl fun habout => absurd habout hunsent.not_about⟩
      rw [heffect.withdrawals]
      exact mem_replaceRow_of_ne hw fun h => hid (h.trans heffect.same.id)
  | reconciled h =>
    rcases h with heq | ⟨v, hv, query, v', hsent, hresolved⟩
    · cases heq
      exact ⟨w, hw, rfl, .kept rfl fun _ => rfl⟩
    · obtain rfl : more = [(.transactionQuery v.idempotencyKey, query)] := hsent
      have hwritten := hresolved.rewritten hv
      by_cases hid : w.id = v.id
      · obtain rfl := db.id_injOn (t := .withdrawals) hw hv hid
        refine ⟨v', ?_, hwritten.same.idempotencyKey, .queried query rfl hresolved⟩
        rw [hwritten.rows]
        exact mem_replaceRow_self hw hwritten.same.id.symm
      · refine ⟨w, ?_, rfl, .kept rfl ?_⟩
        · rw [hwritten.rows]
          exact mem_replaceRow_of_ne hw fun h => hid (h.trans hwritten.same.id)
        · rintro ⟨exchange, hexchange, habout⟩
          rw [List.mem_singleton.mp hexchange] at habout
          have hkey : v.idempotencyKey = w.idempotencyKey := by simpa [aboutKey] using habout
          exact absurd (congrArg Withdrawal.id (withdrawal_unique db hw hv hkey.symm)) hid
  | advanced h =>
    obtain ⟨v, hv, hvstatus, v', ⟨hunsent, hrest⟩ |
      ⟨-, submitted, middle, lookup, process, queries, hsent, hsettled⟩⟩ := h
    · refine ⟨w, ?_, rfl, .kept rfl fun habout => absurd habout hunsent.not_about⟩
      have hwritten := hrest.1.written
      rw [hwritten.2]
      exact mem_replaceRow_of_ne hw fun h => hother v hv hvstatus (h.trans hwritten.1.id)
    · have hwritten := (hsent.rewritten hv hsettled).1
      refine ⟨w, ?_, rfl, .kept rfl ?_⟩
      · rw [hwritten.rows]
        exact mem_replaceRow_of_ne hw fun h => hother v hv hvstatus (h.trans hwritten.same.id)
      · rintro ⟨exchange, hexchange, habout⟩
        have hkey := hsent.about hexchange habout
        exact absurd (congrArg Withdrawal.id (withdrawal_unique db hw hv hkey))
          (hother v hv hvstatus)

/-- A step after the submission. -/
theorem followsReports_of_past {world : PlatformWorld} (step : Step)
    (hpast : Past world.db key) : FollowsReports key step world := by
  obtain ⟨w, hw, rfl, hearly⟩ := hpast
  have hfollowed : ∃ w' ∈ (step.next world).db.rows .withdrawals,
      w'.idempotencyKey = w.idempotencyKey ∧
        Followed w world.db w' (step.next world).db (step.exchanges world.db) := by
    rcases step.next_outcome world with ⟨db, hnext, -, houtcome⟩ | ⟨e, hnext, -, -⟩
    · rw [hnext]
      exact houtcome.followed hw hearly
    · rw [hnext]
      exact ⟨w, hw, rfl, .kept rfl fun _ => rfl⟩
  obtain ⟨w', hw', hkey', hfollowed⟩ := hfollowed
  refine ⟨fun v hv hkey hfailed => ?_, fun hnone v hv v' hv' hkey hvkey' hopen => ?_⟩
  · obtain rfl := withdrawal_unique _ hv hw' (hkey.trans hkey'.symm)
    cases hfollowed with
    | kept hstatus _ => exact Or.inr ⟨w, hw, rfl, by rw [← hstatus, hfailed]⟩
    | reversed _ hto =>
      rw [hfailed] at hto
      cases hto
    | queried query hsent hresolved =>
      cases hpending : w.status.pending with
      | true =>
        have hreport : ReportsFailure w.idempotencyKey
            (.transactionQuery w.idempotencyKey, query) :=
          ⟨rfl, (hresolved.follows hpending).failed hfailed⟩
        exact Or.inl ⟨_, by rw [hsent]; exact List.mem_cons_self, hreport⟩
      | false =>
        rw [(hresolved.ignored hpending).1] at hfailed
        exact Or.inr ⟨w, hw, rfl, hfailed⟩
  · obtain rfl := withdrawal_unique _ hv hw hkey
    obtain rfl := withdrawal_unique _ hv' hw' (hvkey'.trans hkey'.symm)
    have hpending : v.status.pending = true := by
      rcases hopen with h | h
      · rw [h] at hearly
        cases hearly
      · exact h
    cases hfollowed with
    | kept hstatus hwallets => exact ⟨by rw [hstatus, hpending], hwallets⟩
    | reversed hfrom _ =>
      rw [hfrom] at hpending
      cases hpending
    | queried query hsent hresolved =>
      rw [hsent] at hnone
      have hnone := hnone _ List.mem_cons_self
      have hheld := (hresolved.follows hpending).held (fun h => hnone.1 ⟨rfl, h⟩)
        (fun h => hnone.2 ⟨rfl, h⟩)
      exact ⟨hheld.1, fun _ => hheld.2⟩

/-- The step the transfer was requested in. -/
theorem followsReports_of_submission {world : PlatformWorld} {step : Step}
    (hreturned : step.result world = .ok ())
    (hsubmitted : transfers (step.exchanges world.db) key ≠ 0) :
    FollowsReports key step world ∧ Past (step.next world).db key := by
  rcases step.next_outcome world with ⟨db, hnext, -, houtcome⟩ | ⟨e, -, hraised, -⟩
  · obtain ⟨w, hw, rfl, hearly, -, submitted, middle, lookup, process, queries, w', hsent,
      hsettled⟩ := houtcome.sent hsubmitted
    obtain ⟨hwritten, hpast⟩ := hsent.rewritten hw hsettled
    have hfollows := hsent.follows hsettled
    have hw' : w' ∈ db.rows .withdrawals := by
      rw [hwritten.rows]
      exact mem_replaceRow_self hw hwritten.same.id.symm
    have hkey' := hwritten.same.idempotencyKey
    rw [hnext]
    refine ⟨⟨fun v hv hkey hfailed => ?_, fun hnone v hv v' hv' hkey hvkey' _ => ?_⟩,
      w', hw', hkey', hpast⟩
    · rw [hnext] at hv
      obtain rfl := withdrawal_unique _ hv hw' (hkey.trans hkey'.symm)
      exact Or.inl (hfollows.failed hfailed)
    · rw [hnext] at hv' ⊢
      obtain rfl := withdrawal_unique _ hv' hw' (hvkey'.trans hkey'.symm)
      obtain ⟨hpending, hheld⟩ := hfollows.held
        (fun ⟨exchange, hexchange, h⟩ => (hnone exchange hexchange).1 h)
        (fun ⟨exchange, hexchange, h⟩ => (hnone exchange hexchange).2 h)
      exact ⟨hpending, fun _ => hheld⟩
  · rw [hreturned] at hraised
    cases hraised

theorem Past.next {world : PlatformWorld} (step : Step) (h : Past world.db key) :
    Past (step.next world).db key := by
  rcases step.next_outcome world with ⟨db, hnext, -, houtcome⟩ | ⟨e, hnext, -, -⟩
  · rw [hnext]
    exact houtcome.past h
  · rw [hnext]
    exact h

/-- In every run, the operation that requests a transfer and returns, and every step
after it, follows what is reported of the transfer. -/
theorem followsReports_of_committed {db : PlatformDb} {before after : List Step}
    {submission step : Step}
    (hreturned : submission.result (runSteps before ⟨db, []⟩) = .ok ())
    (hsubmitted :
      transfers (submission.exchanges (runSteps before ⟨db, []⟩).db) key ≠ 0) :
    FollowsReports key submission (runSteps before ⟨db, []⟩) ∧
      FollowsReports key step (runSteps (before ++ submission :: after) ⟨db, []⟩) := by
  obtain ⟨hsubmission, hpast⟩ := followsReports_of_submission hreturned hsubmitted
  refine ⟨hsubmission, followsReports_of_past step ?_⟩
  rw [runSteps_append, runSteps_cons]
  have hkept : ∀ (step : Step) world, Past world.db key → Past (step.next world).db key :=
    fun step _ h => h.next step
  exact runSteps_kept hkept after hpast

/-- A sweep of the sample withdrawal, its query answered so. -/
def reconcileStep (answer : HttpResult) : Step :=
  ⟨.reconcileIfPending 0, sampleRuntime,
    { answer := sampleAnswer, respond := fun _ => answer }⟩

/-- The sample withdrawal is requested, confirmed and submitted. -/
def submittedRun (answers : List HttpResult) : PlatformWorld :=
  runSteps [requestStep, confirmStep answers] ⟨openingDb, []⟩

/-- An answer that names no result code. -/
def codeless (fields : List (String × Json)) : HttpResult :=
  .response 200 (some (.obj (("success", .bool true) :: fields)))

/-- The withdrawal of the sample run once its transfer timed out and a query was
answered with the code `999`. -/
theorem followsReports_timedOut :
    FollowsReports "4f1c" (confirmStep []) (runSteps [requestStep] ⟨openingDb, []⟩) ∧
      FollowsReports "4f1c" (reconcileStep (.response 200 (some (.obj [("success", .bool true),
          ("resultcode", .str "999")]))))
        (runSteps ([requestStep] ++ [confirmStep []]) ⟨openingDb, []⟩) :=
  followsReports_of_committed (by decide +kernel) (by decide +kernel)

/-- After an answer of `502`, and after JSON answers that name no code, the withdrawal
is `FAILED` and its reservation released. -/
theorem failed_without_code :
    (∀ exchange ∈ (submittedRun [.response 502 none]).sent,
      aboutKey exchange.1 = some "4f1c" → Unparsed exchange.2) ∧
    ∀ answers ∈ [[.response 502 none], [codeless []],
        [.transportError "timed out", codeless [("data", .obj [("status", .str "REVIEW")])]]],
      (∃ w ∈ (submittedRun answers).db.rows .withdrawals,
        w.idempotencyKey = "4f1c" ∧ w.status = .failed) ∧
      ∃ wallet ∈ (submittedRun answers).db.rows .tenantWallets,
        wallet.reservedBalanceTzs = 0 ∧ wallet.availableBalanceTzs = 1000000 := by
  decide +kernel

end InfinityRadius.Services.PayoutService
