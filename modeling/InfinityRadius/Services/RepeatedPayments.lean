import InfinityRadius.Services.CollectionGate

/-!
# Repeated payments

A captive payment that is posted again.  The session behind an intent token is consumed with the
first attempt, so that the token opens nothing any more: the search for an attempt under way is not
reached.
-/

namespace InfinityRadius.Services

open Amounts Database Payload Phone Program Sql Models SelcomPaymentProvider

namespace CaptivePortalService

/-! ## Consumed sessions -/

/-- The session is consumed. -/
def Spent (sessionId : ℕ) (db : PlatformDb) : Prop :=
  ∃ session ∈ db.rows .captiveSessions, session.id = sessionId ∧ session.consumedAt ≠ none

/-- The session was consumed, and no other one was written. -/
def Consumed (session : CaptiveSession) (db db' : PlatformDb) : Prop :=
  ∃ time, db'.rows .captiveSessions =
    replaceRow schema .captiveSessions { session with consumedAt := some time }
      (db.rows .captiveSessions)

section Spent

variable {sessionId : ℕ} {session : CaptiveSession} {db db' : PlatformDb}

theorem Spent.of_rows (h : Spent sessionId db)
    (hrows : db'.rows .captiveSessions = db.rows .captiveSessions) : Spent sessionId db' := by
  rw [Spent, hrows]
  exact h

theorem Spent.of_append (h : Spent sessionId db) {more : List CaptiveSession}
    (hrows : db'.rows .captiveSessions = db.rows .captiveSessions ++ more) :
    Spent sessionId db' := by
  obtain ⟨spent, hspent, hid, hconsumed⟩ := h
  refine ⟨spent, ?_, hid, hconsumed⟩
  rw [hrows]
  exact List.mem_append_left _ hspent

theorem Consumed.spent (h : Consumed session db db')
    (hsession : session ∈ db.rows .captiveSessions) : Spent session.id db' := by
  obtain ⟨time, hrows⟩ := h
  refine ⟨{ session with consumedAt := some time }, ?_, rfl, Option.some_ne_none time⟩
  rw [hrows]
  exact mem_replaceRow_self hsession rfl

theorem Spent.consumed (h : Spent sessionId db) (hconsumed : Consumed session db db')
    (hsession : session ∈ db.rows .captiveSessions) : Spent sessionId db' := by
  by_cases hid : session.id = sessionId
  · exact hid ▸ hconsumed.spent hsession
  · obtain ⟨spent, hspent, rfl, hnot⟩ := h
    obtain ⟨time, hrows⟩ := hconsumed
    refine ⟨spent, ?_, rfl, hnot⟩
    rw [hrows]
    exact mem_replaceRow_of_ne hspent fun heq => hid heq.symm

end Spent

/-! ## The first attempt -/

section First

variable {runtime : Runtime} {world : PlatformWorld} {session : CaptiveSession}
  {package : Package} {phone intentToken : String} {packageId : ℕ}

theorem always_startAttempt_consumed (hsession : session ∈ world.db.rows .captiveSessions) :
    Always (fun _ => false) (fun _ world' => Consumed session world.db world'.db)
      (fun _ _ => True) (startAttempt runtime session package phone) world := by
  apply always_bind.mpr
  apply always_getOrCreateByPhone.mono
  · rintro customer ⟨enrolled, sent⟩ ⟨-, -, -, henrolled⟩
    apply always_bind.mpr
    apply always_createAwaitingPayment.mono
    · rintro subscription ⟨subscribed, sent'⟩ ⟨-, -, hsubscribed⟩
      apply always_bind.mpr
      apply always_uuidHex.mpr
      intro hex
      apply always_bind.mpr
      apply always_create rfl
      · intro t created _ _ hcreated
        have hsame : created.rows .captiveSessions = world.db.rows .captiveSessions := by
          rw [hcreated.rows_of_ne (by decide), hsubscribed.rows_of_ne (by decide),
            henrolled.rows_of_ne (by decide)]
        apply always_bind.mpr
        apply always_bind.mpr
        apply always_now.mpr
        intro time
        apply always_updateRow rfl (hsame ▸ hsession) rfl
        · exact fun _ => rfl
        · intro consumed _ hreplaced
          apply always_bind.mpr
          have hmem : t ∈ consumed.rows .transactions := by
            rw [hreplaced.rows_of_ne (by decide)]
            exact hcreated.mem
          apply (always_createOrderAndSendStk hmem).mono
          · rintro t' final ⟨more, -, -, hfinal⟩
            have hconsumed : Consumed session world.db final.db := by
              use time
              rw [hfinal.rows_of_ne (by decide), hreplaced.rows_self, hsame]
            apply always_bind.mpr
            apply always_createTransactionToken
            · intro token
              split <;> exact hconsumed
            · exact fun _ => trivial
          · exact fun _ _ _ => trivial
        · exact fun _ => trivial
      · exact fun _ => trivial
    · exact fun _ _ _ => trivial
  · exact fun _ _ _ => trivial

theorem always_requireSession {returns : CaptiveSession → PlatformWorld → Prop}
    (hreturns : ∀ session ∈ world.db.rows .captiveSessions,
      CaptivePortalSessionService.resolveIntentToken runtime intentToken = some session.id →
      returns session world) :
    Always (fun _ => false) returns (fun _ _ => True) (requireSession runtime intentToken)
      world := by
  apply always_tryCatch.mpr
  have hresolved : Always (fun _ => false) returns (fun _ _ => True)
      (CaptivePortalSessionService.resolve runtime intentToken) world := by
    apply always_bind.mpr
    apply always_orRaise
    · intro sessionId htoken
      apply always_bind.mpr
      apply always_selectOne_found rfl
      · intro session hsession hid
        rw [beq_iff_eq] at hid
        apply always_bind.mpr
        apply always_bind.mpr
        apply always_require
        · intro _
          apply always_bind.mpr
          apply always_now.mpr
          intro time
          apply always_bind.mpr
          apply always_require
          · exact fun _ => hreturns session hsession (hid ▸ htoken)
          · exact fun _ => trivial
        · exact fun _ => trivial
      · trivial
      · trivial
    · exact fun _ => trivial
  apply hresolved.mono
  · exact fun _ _ h => h
  · intro e _ _
    cases e <;> trivial

theorem always_requirePackage {returns : Package → PlatformWorld → Prop}
    (hreturns : ∀ package, returns package world) :
    Always (fun _ => false) returns (fun _ _ => True) (requirePackage session packageId)
      world := by
  apply always_bind.mpr
  apply always_getById_any rfl
  intro found
  apply always_bind.mpr
  apply always_orRaise
  · intro package _
    apply always_bind.mpr
    apply always_require
    · intro _
      apply always_bind.mpr
      apply always_require
      · exact fun _ => hreturns package
      · exact fun _ => trivial
    · exact fun _ => trivial
  · exact fun _ => trivial

theorem always_findActiveCaptiveAttempt {sessionId : ℕ}
    {returns : Option Transaction → PlatformWorld → Prop}
    (hreturns : ∀ found, returns found world) :
    Always (fun _ => false) returns (fun _ _ => True)
      (findActiveCaptiveAttempt sessionId packageId phone) world :=
  always_bind.mpr (always_select rfl (hreturns _))

theorem intentSession_of_resolve {sessionId : ℕ}
    (h : CaptivePortalSessionService.resolveIntentToken runtime intentToken = some sessionId) :
    runtime.intentSession intentToken = some sessionId := by
  rw [CaptivePortalSessionService.resolveIntentToken] at h
  split at h
  · exact h
  · cases h

/-- What an initiation leaves of the sessions, and whose session an attempt consumed. -/
structure Initiated (runtime : Runtime) (intentToken : String) (result : PaymentInitiateResult)
    (db db' : PlatformDb) : Prop where
  keeps : ∀ sessionId, Spent sessionId db → Spent sessionId db'
  pending : result.status = "pending" → ∃ sessionId,
    CaptivePortalSessionService.resolveIntentToken runtime intentToken = some sessionId ∧
      Spent sessionId db'

theorem always_initiatePayment :
    Always (fun _ => false)
      (fun result world' => Initiated runtime intentToken result world.db world'.db)
      (fun _ _ => True) (initiatePayment runtime intentToken packageId phone) world := by
  have hidle : ∀ result : PaymentInitiateResult, result.status ≠ "pending" →
      Initiated runtime intentToken result world.db world.db :=
    fun _ hstatus => ⟨fun _ h => h, fun h => absurd h hstatus⟩
  rw [initiatePayment]
  split
  · exact hidle _ (by decide)
  · apply always_bind.mpr
    apply always_requireSession
    intro session hsession htoken
    apply always_bind.mpr
    apply always_requirePackage
    intro package
    apply always_bind.mpr
    apply always_requirePhone
    · intro normalized _
      apply always_bind.mpr
      apply always_ask.mpr
      intro dimension
      cases dimension with
      | some dimension => exact hidle _ (by decide)
      | none =>
        apply always_bind.mpr
        apply always_findActiveCaptiveAttempt
        intro existing
        cases existing with
        | some attempt =>
          apply always_bind.mpr
          apply always_createTransactionToken
          · exact fun _ => hidle _ (by simp)
          · exact fun _ => trivial
        | none =>
          apply (always_startAttempt_consumed hsession).mono
          · intro result final hconsumed
            constructor
            · exact fun _ hspent => hspent.consumed hconsumed hsession
            · exact fun _ => ⟨session.id, htoken, hconsumed.spent hsession⟩
          · exact fun _ _ _ => trivial
    · exact fun _ => trivial

end First

/-! ## The same token again -/

/-- A session that is consumed resolves no more. -/
theorem run_requireSession_spent {runtime : Runtime} {outside : Outside} {db : PlatformDb}
    {intentToken : String}
    (hspent : ∀ sessionId, CaptivePortalSessionService.resolveIntentToken runtime intentToken =
      some sessionId → Spent sessionId db) :
    run (exec outside) (requireSession runtime intentToken) ⟨⟨db, []⟩, 0⟩ =
      (.error (.domainValidation "This payment session has expired. Please start again."),
        ⟨⟨db, []⟩, 0⟩) := by
  rw [requireSession, run_tryCatch, CaptivePortalSessionService.resolve]
  cases htoken : CaptivePortalSessionService.resolveIntentToken runtime intentToken with
  | none => rfl
  | some sessionId =>
    obtain ⟨session, hsession, hid, hconsumed⟩ := hspent sessionId htoken
    have hunique : ∀ row ∈ db.rows .captiveSessions, ∀ other ∈ db.rows .captiveSessions,
        (row.id == sessionId) = true → (other.id == sessionId) = true → row = other := by
      intro row hrow other hother h h'
      exact db.id_injOn hrow hother ((beq_iff_eq.mp h).trans (beq_iff_eq.mp h').symm)
    rcases run_selectOne outside ⟨⟨db, []⟩, 0⟩ hunique with
      ⟨found, hfound, hfoundId, hrun⟩ | hrun
    · obtain rfl : found = session :=
        db.id_injOn hfound hsession ((beq_iff_eq.mp hfoundId).trans hid.symm)
      simp only [Prog.orRaise_some, Prog.pure_bind]
      rw [run_bind, hrun]
      simp only [Prog.orRaise_some, Prog.pure_bind]
      rw [Prog.require_false hconsumed]
      rfl
    · simp only [Prog.orRaise_some, Prog.pure_bind]
      rw [run_bind, hrun]
      rfl

/-! ## Runs -/

theorem always_issueSession_spent {runtime : Runtime} {world : PlatformWorld} {routerId : ℕ}
    {macAddress : Option String} {sessionId : ℕ} (hspent : Spent sessionId world.db) :
    Always (fun _ => false) (fun _ world' => Spent sessionId world'.db) (fun _ _ => True)
      (CaptivePortalSessionService.issueSession runtime routerId macAddress) world := by
  apply always_bind.mpr
  apply always_getById_any rfl
  intro router
  apply always_bind.mpr
  apply always_orRaise
  · intro router _
    apply always_bind.mpr
    apply always_now.mpr
    intro time
    apply always_bind.mpr
    apply always_ask.mpr
    intro nonce
    apply always_bind.mpr
    apply always_create rfl
    · intro session db _ _ happended
      apply always_bind.mpr
      rw [CaptivePortalSessionService.createIntentToken]
      split
      · trivial
      · trivial
      · apply always_ask.mpr
        exact fun _ => hspent.of_append happended.rows_self
    · exact fun _ => trivial
  · exact fun _ => trivial

/-- A session for a visitor, the start of a payment, or whatever else writes to the database; the
sessions are written by the first two only. -/
inductive PortalStep
  | issueSession (routerId : ℕ) (macAddress : Option String) (runtime : Runtime)
      (outside : Outside)
  | initiatePayment (intentToken : String) (packageId : ℕ) (phone : String) (runtime : Runtime)
      (outside : Outside)
  | elsewhere (change : PlatformDb → PlatformDb)
      (h : ∀ db, (change db).rows .captiveSessions = db.rows .captiveSessions)

namespace PortalStep

def next : PortalStep → PlatformWorld → PlatformWorld
  | issueSession routerId macAddress runtime outside, world =>
    (transact outside (CaptivePortalSessionService.issueSession runtime routerId macAddress)
      world).2
  | initiatePayment intentToken packageId phone runtime outside, world =>
    (transact outside (CaptivePortalService.initiatePayment runtime intentToken packageId phone)
      world).2
  | elsewhere change _, world => { world with db := change world.db }

/-- No step takes a consumed session back. -/
theorem spent {sessionId : ℕ} {step : PortalStep} {world : PlatformWorld}
    (h : Spent sessionId world.db) : Spent sessionId (step.next world).db := by
  cases step with
  | issueSession routerId macAddress runtime outside =>
    have halways := @always_issueSession_spent runtime ⟨world.db, []⟩ routerId macAddress
      sessionId h
    rcases transact_db outside halways with ⟨_, hspent⟩ | hsame
    · exact hspent
    · exact hsame ▸ h
  | initiatePayment intentToken packageId phone runtime outside =>
    have halways := @always_initiatePayment runtime ⟨world.db, []⟩ phone intentToken packageId
    rcases transact_db outside halways with ⟨result, hinitiated⟩ | hsame
    · exact hinitiated.keeps sessionId h
    · exact hsame ▸ h
  | elsewhere change hkept => exact h.of_rows (hkept world.db)

end PortalStep

/-- Nothing is written or sent, and the answer is that the session has expired; or that payments
are unavailable, where a kill switch is off. -/
structure Refused (settings : Settings) (world : PlatformWorld)
    (ended : Except Failure PaymentInitiateResult × PlatformWorld) : Prop where
  unchanged : ended.2 = world
  expired : settings.selcomCollectionEnabled = true →
    settings.selcomCollectionProductionEnabled = true →
    ended.1 = .error (.domainValidation "This payment session has expired. Please start again.")
  unavailable : ¬(settings.selcomCollectionEnabled = true ∧
      settings.selcomCollectionProductionEnabled = true) →
    ∃ result, ended.1 = .ok result ∧ result.status = "unavailable"

theorem refused_of_spent {runtime : Runtime} {outside : Outside} {world : PlatformWorld}
    {intentToken phone : String} {packageId : ℕ}
    (hspent : ∀ sessionId, CaptivePortalSessionService.resolveIntentToken runtime intentToken =
      some sessionId → Spent sessionId world.db) :
    Refused runtime.settings world
      (transact outside (initiatePayment runtime intentToken packageId phone) world) := by
  have hrun := @run_requireSession_spent runtime outside world.db intentToken hspent
  have hidle : (⟨world.db, world.sent ++ []⟩ : PlatformWorld) = world := by
    rw [List.append_nil]
  by_cases hopen : runtime.settings.selcomCollectionEnabled = true ∧
      runtime.settings.selcomCollectionProductionEnabled = true
  · have hrefused : transact outside (initiatePayment runtime intentToken packageId phone) world =
        (.error (.domainValidation "This payment session has expired. Please start again."),
          ⟨world.db, world.sent ++ []⟩) := by
      rw [transact, initiatePayment, hopen.1, hopen.2, Bool.not_true, Bool.or_self,
        if_neg Bool.false_ne_true, run_bind, hrun]
    rw [hrefused]
    exact ⟨hidle, fun _ _ => rfl, fun h => absurd hopen h⟩
  · have hswitches : (!runtime.settings.selcomCollectionEnabled ||
        !runtime.settings.selcomCollectionProductionEnabled) = true := by
      simp only [Bool.or_eq_true, Bool.not_eq_true', ← Bool.not_eq_true]
      exact Decidable.not_and_iff_not_or_not.mp hopen
    rw [transact, initiatePayment, if_pos hswitches]
    exact ⟨hidle, fun h h' => absurd ⟨h, h'⟩ hopen, fun _ => ⟨_, rfl, rfl⟩⟩

/-- A visitor has a session. -/
def visitedWorld : PlatformWorld := sessionStep.next ⟨portalDb, []⟩

/-- The payment of a package, with the phone spelled so. -/
def portalPayment (phone : String) (world : PlatformWorld) :
    Except Failure PaymentInitiateResult × PlatformWorld :=
  transact (PayoutService.answering [accepted, accepted])
    (initiatePayment portalRuntime "intent" 0 phone) world

/-- The status a payment is answered with. -/
def answered (ended : Except Failure PaymentInitiateResult × PlatformWorld) : Option String :=
  ended.1.toOption.map PaymentInitiateResult.status

end CaptivePortalService

end InfinityRadius.Services
