import InfinityRadius.Services.PaymentTokens
import InfinityRadius.Web.Phone

/-!
# The portal page

`lib/captive-portal/flow.ts` and `app/captive-portal/page.tsx`: what a visitor's browser makes of
the answers of the portal's API.  Requests and answers are on their way for some time and may be
lost, and meanwhile the visitor goes on using the page and the platform goes on working.
-/

namespace InfinityRadius.Web

open Database Program Sql Models Services

/-! ## The flow -/

inductive ScreenState
  | waiting | underReview | activating | active | activationFailed | failed
deriving DecidableEq

def screenStateFor (result : PaymentStatusResult) : ScreenState :=
  if result.underReview = true then .underReview
  else if result.status = "failed" ∨ result.status = "not_found" then .failed
  else if result.status ≠ "completed" then .waiting
  else if result.activationStatus = some "active" then .active
  else if result.activationStatus = some "failed" then .activationFailed
  else .activating

def canRetryPayment (state : ScreenState) : Bool := state = .failed

def isTerminalState (state : ScreenState) : Bool :=
  state = .active || state = .failed || state = .activationFailed

def isPlausibleTzSubscriberNumber (digits : String) : Bool := isSubscriber digits.toList

def sanitizeSubscriberInput (raw : String) : String :=
  String.ofList ((raw.toList.filter Char.isDigit).take 9)

/-! ## The page -/

inductive PageStep
  | selectPackage | enterPhone | confirm | waiting | unavailable
deriving DecidableEq

/-- What the page keeps; `submitted` is `submittedRef.current`. -/
structure Page where
  step : PageStep := .selectPackage
  selectedPackage : Option ℕ := none
  subscriberNumber : String := ""
  submitting : Bool := false
  transactionToken : Option String := none
  statusResult : Option PaymentStatusResult := none
  submitted : Bool := false

namespace Page

variable (page : Page)

def screen : Option ScreenState := page.statusResult.map screenStateFor

/-- `onSelect`. -/
def select (packageId : ℕ) : Page :=
  if page.step = .selectPackage then { page with selectedPackage := some packageId } else page

def handleChoosePackage : Page :=
  if page.step = .selectPackage ∧ page.selectedPackage ≠ none then { page with step := .enterPhone }
  else page

/-- `onChange` of the phone field. -/
def type (raw : String) : Page :=
  if page.step = .enterPhone ∧ page.selectedPackage ≠ none then
    { page with subscriberNumber := sanitizeSubscriberInput raw }
  else page

def handleConfirmPhone : Page :=
  if page.step = .enterPhone ∧ page.selectedPackage ≠ none ∧ 9 ≤ page.subscriberNumber.length ∧
      isPlausibleTzSubscriberNumber page.subscriberNumber = true then
    { page with step := .confirm }
  else page

/-- The button "Back to plans". -/
def backToPlans : Page :=
  if page.step = .enterPhone ∧ page.selectedPackage ≠ none then { page with step := .selectPackage }
  else page

/-- The button "Change number". -/
def changeNumber : Page :=
  if page.step = .confirm ∧ page.selectedPackage ≠ none then { page with step := .enterPhone }
  else page

/-- `handlePay` up to its first request, for the package and the phone it returns. -/
def handlePay : Option (Page × ℕ × String) :=
  match page.selectedPackage with
  | none => none
  | some packageId =>
    if page.step = .confirm ∧ page.submitting = false ∧ page.submitted = false then
      some ({ page with submitted := true, submitting := true }, packageId,
        "255" ++ page.subscriberNumber)
    else none

/-- `handlePay` once it has an answer. -/
def initiated (result : PaymentInitiateResult) : Page :=
  if result.status ∈ ["unavailable", "provider_not_configured", "rate_limited"] then
    { page with step := .unavailable, submitting := false }
  else
    { page with
      transactionToken := result.transactionToken, step := .waiting, submitting := false }

/-- The `catch` of `handlePay`. -/
def couldNotStart : Page :=
  { page with submitted := false, step := .enterPhone, submitting := false }

/-- The page shows the button "Try again". -/
def OffersRetry : Prop :=
  page.step = .waiting ∧ ∃ screen, page.screen = some screen ∧ screen = .failed ∧
    canRetryPayment screen = true

instance : Decidable page.OffersRetry :=
  decidable_of_iff (page.step = .waiting ∧ page.screen = some .failed) <| by
    simp [OffersRetry, canRetryPayment]

def handleDeliberateRetry : Page :=
  { page with
    submitted := false, transactionToken := none, statusResult := none, step := .selectPackage }

/-- The payment `poll` would ask for next, as long as it goes on. -/
def polled : Option String :=
  if page.step = .waiting ∧ (page.screen.map isTerminalState).getD false = false then
    page.transactionToken
  else none

end Page

/-! ## The network -/

/-- The requests of `handlePay`, and their answers on the way back; a request that is refused is
answered with `none`. -/
inductive Paying
  | idle
  | opening (packageId : ℕ) (phone : String)
  | opened (answer : Option String) (packageId : ℕ) (phone : String)
  | starting (intentToken : String) (packageId : ℕ) (phone : String)
  | started (answer : Option PaymentInitiateResult)

/-- The request of `poll`, and its answer on the way back. -/
inductive Polling
  | idle
  | asking (token : String)
  | answered (answer : Option PaymentStatusResult)

/-- The page as it was loaded, and the API it talks to. -/
structure Portal where
  runtime : Runtime
  routerToken : Option String
  mac : Option String
  /-- `resolve_router_token` -/
  resolveRouterToken : String → Option ℕ

/-- A page, what is on its way to it and from it, and the platform.  `handed` records the tokens
the page was handed, the last one first. -/
structure PortalState where
  access : AccessState
  page : Page := {}
  paying : Paying := .idle
  polling : Polling := .idle
  handed : List String := []

inductive PortalEvent
  | select (packageId : ℕ)
  | choosePackage
  | type (raw : String)
  | confirmPhone
  | backToPlans
  | changeNumber
  | pay
  | retry
  | serveSession (outside : Outside)
  | sessionArrives
  | servePayment (outside : Outside)
  | paymentArrives
  | paymentLost
  | poll
  | serveStatus (outside : Outside)
  | statusArrives
  | statusLost
  | elsewhere (step : AccessStep)

namespace Portal

variable (portal : Portal)

/-- `POST /captive-portal/session`. -/
def serveSession (outside : Outside) (world : PlatformWorld) : Option String × PlatformWorld :=
  match portal.routerToken.bind portal.resolveRouterToken with
  | none => (none, world)
  | some routerId =>
    match transact outside (CaptivePortalSessionService.issueSession portal.runtime routerId
      portal.mac) world with
    | (.ok (token, _), world') => (some token, world')
    | (.error _, world') => (none, world')

/-- `POST /captive-portal/payments/initiate`. -/
def servePayment (outside : Outside) (intentToken : String) (packageId : ℕ) (phone : String)
    (world : PlatformWorld) : Option PaymentInitiateResult × PlatformWorld :=
  match transact outside (CaptivePortalService.initiatePayment portal.runtime intentToken packageId
    phone) world with
  | (.ok result, world') => (some result, world')
  | (.error _, world') => (none, world')

/-- `GET /captive-portal/payments/status`. -/
def serveStatus (outside : Outside) (token : String) (world : PlatformWorld) :
    Option PaymentStatusResult × PlatformWorld :=
  match transact outside (CaptivePortalService.getPaymentStatus portal.runtime token) world with
  | (.ok result, world') => (some result, world')
  | (.error _, world') => (none, world')

def next (event : PortalEvent) (state : PortalState) : PortalState :=
  match event with
  | .select packageId => { state with page := state.page.select packageId }
  | .choosePackage => { state with page := state.page.handleChoosePackage }
  | .type raw => { state with page := state.page.type raw }
  | .confirmPhone => { state with page := state.page.handleConfirmPhone }
  | .backToPlans => { state with page := state.page.backToPlans }
  | .changeNumber => { state with page := state.page.changeNumber }
  | .pay =>
    match portal.routerToken, state.page.handlePay with
    | some _, some (page, packageId, phone) =>
      { state with page, paying := .opening packageId phone }
    | _, _ => state
  | .retry =>
    if state.page.OffersRetry then
      { state with page := state.page.handleDeliberateRetry, polling := .idle }
    else state
  | .serveSession outside =>
    match state.paying with
    | .opening packageId phone =>
      let (answer, world) := portal.serveSession outside state.access.world
      { state with
        access := { state.access with world }, paying := .opened answer packageId phone }
    | _ => state
  | .sessionArrives =>
    match state.paying with
    | .opened (some intentToken) packageId phone =>
      { state with paying := .starting intentToken packageId phone }
    | .opened none _ _ => { state with page := state.page.couldNotStart, paying := .idle }
    | _ => state
  | .servePayment outside =>
    match state.paying with
    | .starting intentToken packageId phone =>
      let (answer, world) :=
        portal.servePayment outside intentToken packageId phone state.access.world
      { state with access := { state.access with world }, paying := .started answer }
    | _ => state
  | .paymentArrives =>
    match state.paying with
    | .started (some result) =>
      let page := state.page.initiated result
      { state with
        page, paying := .idle, handed := page.transactionToken.toList ++ state.handed }
    | .started none => { state with page := state.page.couldNotStart, paying := .idle }
    | _ => state
  | .paymentLost =>
    match state.paying with
    | .idle => state
    | _ => { state with page := state.page.couldNotStart, paying := .idle }
  | .poll =>
    match state.polling, state.page.polled with
    | .idle, some token => { state with polling := .asking token }
    | _, _ => state
  | .serveStatus outside =>
    match state.polling with
    | .asking token =>
      let (answer, world) := portal.serveStatus outside token state.access.world
      { state with access := { state.access with world }, polling := .answered answer }
    | _ => state
  | .statusArrives =>
    match state.polling with
    | .answered (some result) =>
      { state with page := { state.page with statusResult := some result }, polling := .idle }
    | .answered none => { state with polling := .idle }
    | _ => state
  | .statusLost => { state with polling := .idle }
  | .elsewhere step => { state with access := step.next state.access }

end Portal

/-! ## What the page shows -/

/-- The screen for a stored payment. -/
def screenOf (t : Transaction) : ScreenState :=
  if t.status = .requiresReview ∨ t.status = .ambiguous then .underReview
  else if t.status.terminal = true ∧ t.status ≠ .completed then .failed
  else if t.status ≠ .completed then .waiting
  else if publicActivation t.activationStatus = "active" then .active
  else if publicActivation t.activationStatus = "failed" then .activationFailed
  else .activating

/-- "Payment not completed" is shown for a payment that is decided and was not completed, and for
no other. -/
theorem screenOf_eq_failed {t : Transaction} :
    screenOf t = .failed ↔ t.status.terminal = true ∧ t.status ≠ .completed := by
  rw [screenOf]
  split
  · rename_i hreview
    rcases hreview with hreview | hreview <;> simp [hreview, CollectionStatus.terminal]
  · split
    · rename_i hdecided
      exact iff_of_true rfl hdecided
    · rename_i hdecided
      refine iff_of_false ?_ hdecided
      split
      · decide
      · split
        · decide
        · split <;> decide

section Shown

variable {runtime : Runtime} {world : PlatformWorld} {token : String} {t : Transaction}

theorem always_connected_screen :
    Always (fun _ => false)
      (fun (result : PaymentStatusResult) world' =>
        world' = world ∧ screenStateFor result = .active)
      (fun _ world' => world' = world) (CaptivePortalService.connected runtime t) world := by
  rw [CaptivePortalService.connected]
  split
  · apply always_bind.mpr
    apply always_selectById (t := .customers) rfl
    · exact fun _ _ _ => ⟨rfl, rfl⟩
    · exact fun _ => ⟨rfl, rfl⟩
  · exact ⟨rfl, rfl⟩

theorem always_getPaymentStatus_screen (h : TokenOf runtime world.db token t) :
    Always (fun _ => false)
      (fun (result : PaymentStatusResult) world' =>
        world' = world ∧ screenStateFor result = screenOf t)
      (fun _ world' => world' = world) (CaptivePortalService.getPaymentStatus runtime token)
      world := by
  have hresolves := h.resolves
  rw [resolveTransactionToken] at hresolves
  rw [CaptivePortalService.getPaymentStatus, hresolves]
  apply always_bind.mpr
  apply always_getById rfl
  · intro row hrow _ hid
    obtain rfl : row = t := world.db.id_injOn hrow h.stored hid
    rw [screenOf]
    dsimp only
    split
    · exact ⟨rfl, rfl⟩
    · split
      · exact ⟨rfl, rfl⟩
      · split
        · exact ⟨rfl, rfl⟩
        · split
          · exact always_connected_screen
          · rename_i hactive
            refine ⟨rfl, ?_⟩
            simp [screenStateFor, hactive]
  · exact fun hnone => absurd rfl (hnone t h.stored rfl)

end Shown

/-! ## Live payments -/

/-- The payment of the token is undecided, or was completed. -/
def Live (runtime : Runtime) (db : PlatformDb) (token : String) : Prop :=
  ∃ t, TokenOf runtime db token t ∧ (t.status.terminal = false ∨ t.status = .completed)

/-- The payment of the token is decided, and was not completed. -/
def Dead (runtime : Runtime) (db : PlatformDb) (token : String) : Prop :=
  ∃ t, TokenOf runtime db token t ∧ t.status.terminal = true ∧ t.status ≠ .completed

/-- Every payment is still there, and the decided ones are as they were. -/
def Outlast (db db' : PlatformDb) : Prop := ∀ t ∈ db.rows .transactions, Lasting db' t

section Live

variable {runtime : Runtime} {db db' : PlatformDb} {token : String} {t : Transaction}

theorem Dead.not_live (h : Dead runtime db token) : ¬Live runtime db token := by
  rintro ⟨live, hlive, hstatus⟩
  obtain ⟨dead, hdead, hterminal, hne⟩ := h
  obtain rfl : live = dead := db.id_injOn hlive.stored hdead.stored
    (Option.some.inj (hlive.resolves.symm.trans hdead.resolves))
  rcases hstatus with hopen | hcompleted
  · rw [hterminal] at hopen
    cases hopen
  · exact hne hcompleted

theorem Outlast.of_rows (h : db'.rows .transactions = db.rows .transactions) : Outlast db db' :=
  fun _ ht => .of_mem (h ▸ ht)

theorem Outlast.tokenOf (h : Outlast db db') (htoken : TokenOf runtime db token t) :
    ∃ t', TokenOf runtime db' token t' ∧ (t.status.terminal = true → t'.status = t.status) := by
  obtain ⟨t', ht', hid, hstatus⟩ := h t htoken.stored
  exact ⟨t', ⟨ht', by rw [htoken.resolves, hid]⟩, hstatus⟩

theorem Dead.outlast (h : Dead runtime db token) (houtlast : Outlast db db') :
    Dead runtime db' token := by
  obtain ⟨t, htoken, hterminal, hne⟩ := h
  obtain ⟨t', htoken', hstatus⟩ := houtlast.tokenOf htoken
  refine ⟨t', htoken', ?_⟩
  rw [hstatus hterminal]
  exact ⟨hterminal, hne⟩

end Live

/-! ### The requests -/

section Requests

variable {portal : Portal} {outside : Outside} {world : PlatformWorld} {token : String}

theorem outlast_serveSession :
    Outlast world.db (portal.serveSession outside world).2.db := by
  rw [Portal.serveSession]
  split
  · exact .of_rows rfl
  · rename_i routerId _
    have hworked := (works portal.runtime outside world (.issueSession routerId portal.mac)).1
    rw [PaymentOperation.program, transact_discard_eq] at hworked
    split
    · rename_i heq
      rw [heq] at hworked
      exact fun _ ht => hworked.lasts ht
    · rename_i heq
      rw [heq] at hworked
      exact fun _ ht => hworked.lasts ht

theorem outlast_servePayment {intentToken : String} {packageId : ℕ} {phone : String} :
    Outlast world.db (portal.servePayment outside intentToken packageId phone world).2.db := by
  have hworked := (works portal.runtime outside world
    (.initiate (.captive intentToken packageId phone))).1
  rw [PaymentOperation.program, Initiation.program, transact_discard_eq] at hworked
  rw [Portal.servePayment]
  split
  · rename_i heq
    rw [heq] at hworked
    exact fun _ ht => hworked.lasts ht
  · rename_i heq
    rw [heq] at hworked
    exact fun _ ht => hworked.lasts ht

/-- The token in an answer names a stored payment. -/
theorem tokenOf_servePayment {intentToken : String} {packageId : ℕ} {phone : String}
    {result : PaymentInitiateResult} (hmints : Mints portal.runtime outside)
    (hanswer : (portal.servePayment outside intentToken packageId phone world).1 = some result)
    (htoken : result.transactionToken = some token) :
    ∃ t, TokenOf portal.runtime
      (portal.servePayment outside intentToken packageId phone world).2.db token t := by
  rw [Portal.servePayment, transact] at hanswer ⊢
  rcases hrun : run (exec outside) (CaptivePortalService.initiatePayment portal.runtime intentToken
    packageId phone) ⟨⟨world.db, []⟩, 0⟩ with ⟨answer | answer, final⟩
  · rw [hrun] at hanswer
    cases hanswer
  · rw [hrun] at hanswer
    cases hanswer
    exact CaptivePortalService.tokenOf_initiatePayment hmints hrun htoken

/-- An answer about a stored payment shows what it is, and changes nothing. -/
theorem serveStatus_screen {t : Transaction} (h : TokenOf portal.runtime world.db token t) :
    (portal.serveStatus outside token world).2.db = world.db ∧
      ∀ result, (portal.serveStatus outside token world).1 = some result →
        screenStateFor result = screenOf t := by
  have halways := @always_getPaymentStatus_screen portal.runtime ⟨world.db, []⟩ token t
    ⟨h.stored, h.resolves⟩
  have hcases : (∃ result db, transact outside (CaptivePortalService.getPaymentStatus
      portal.runtime token) world = (.ok result, ⟨db, _⟩) ∧ _) ∨ _ := transact_cases halways
  rw [Portal.serveStatus]
  rcases hcases with ⟨result, db, heq, hsame, hscreen⟩ | ⟨e, db, heq, -⟩
  · have hdb : db = world.db := congrArg (fun w : PlatformWorld => w.db) hsame
    rw [heq, hdb]
    exact ⟨rfl, fun _ hanswer => Option.some.inj hanswer ▸ hscreen⟩
  · rw [heq]
    exact ⟨rfl, fun _ hanswer => by cases hanswer⟩

end Requests

/-! ## Runs -/

/-- What the page is at: between two payments, or watching the one it was handed last. -/
inductive Stage (runtime : Runtime) (state : PortalState) : Prop
  | between (htoken : state.page.transactionToken = none)
      (hresult : state.page.statusResult = none) (hpolling : state.polling = .idle)
      (hdead : ∀ token ∈ state.handed, Dead runtime state.access.world.db token)
  | watching {token : String} {rest : List String}
      (htoken : state.page.transactionToken = some token) (hhanded : state.handed = token :: rest)
      (hstep : state.page.step = .waiting) (hpaying : state.paying = .idle)
      (hdead : ∀ other ∈ rest, Dead runtime state.access.world.db other)
      (hscreen : state.page.screen = some .failed → Dead runtime state.access.world.db token)
      (hasking : ∀ asked, state.polling = .asking asked → asked = token)
      (hanswered : ∀ result, state.polling = .answered (some result) →
        screenStateFor result = .failed → Dead runtime state.access.world.db token)

/-- What the page has from the platform is genuine. -/
structure Sound (runtime : Runtime) (state : PortalState) : Prop where
  known : ∀ token ∈ state.handed, ∃ t, TokenOf runtime state.access.world.db token t
  offered : ∀ result, state.paying = .started (some result) →
    ∀ token, result.transactionToken = some token →
      ∃ t, TokenOf runtime state.access.world.db token t
  stage : Stage runtime state

section Sound

variable {portal : Portal} {runtime : Runtime} {state : PortalState}

theorem Sound.dead_of_step (h : Sound runtime state) (hstep : state.page.step ≠ .waiting) :
    ∀ token ∈ state.handed, Dead runtime state.access.world.db token := by
  cases h.stage with
  | between _ _ _ hdead => exact hdead
  | watching _ _ hwaiting => exact absurd hwaiting hstep

theorem Sound.dead_of_failed (h : Sound runtime state)
    (hscreen : state.page.screen = some .failed) :
    ∀ token ∈ state.handed, Dead runtime state.access.world.db token := by
  cases h.stage with
  | between _ _ _ hdead => exact hdead
  | watching _ hhanded _ _ hdead hfailed =>
    rw [hhanded]
    intro token htoken
    rcases List.mem_cons.mp htoken with rfl | hrest
    · exact hfailed hscreen
    · exact hdead token hrest

/-- A page that waits offers nothing to select or to type. -/
theorem Sound.edited (h : Sound runtime state) {visible : Prop} [Decidable visible] {page : Page}
    (hvisible : visible → state.page.step ≠ .waiting)
    (htoken : page.transactionToken = state.page.transactionToken)
    (hresult : page.statusResult = state.page.statusResult) :
    Sound runtime { state with page := if visible then page else state.page } := by
  split
  · rename_i hmet
    use h.known, h.offered
    cases h.stage with
    | between hnone hempty hpolling hdead =>
      exact .between (htoken.trans hnone) (hresult.trans hempty) hpolling hdead
    | watching _ _ hwaiting => exact absurd hwaiting (hvisible hmet)
  · exact h

/-- The platform works on. -/
theorem Sound.outlast (h : Sound runtime state) {access : AccessState}
    (houtlast : Outlast state.access.world.db access.world.db) :
    Sound runtime { state with access } := by
  constructor
  · intro token htoken
    obtain ⟨t, ht⟩ := h.known token htoken
    obtain ⟨t', ht', -⟩ := houtlast.tokenOf ht
    exact ⟨t', ht'⟩
  · intro result hpaying token htoken
    obtain ⟨t, ht⟩ := h.offered result hpaying token htoken
    obtain ⟨t', ht', -⟩ := houtlast.tokenOf ht
    exact ⟨t', ht'⟩
  · cases h.stage with
    | between hnone hempty hpolling hdead =>
      exact .between hnone hempty hpolling fun token htoken => (hdead token htoken).outlast houtlast
    | watching hsome hhanded hstep hpaying hdead hscreen hasking hanswered =>
      exact .watching hsome hhanded hstep hpaying
        (fun other hother => (hdead other hother).outlast houtlast)
        (fun hfailed => (hscreen hfailed).outlast houtlast) hasking
        fun result hpolling hfailed => (hanswered result hpolling hfailed).outlast houtlast

/-- A request of `handlePay` is under way only while the page watches no payment. -/
theorem Sound.between_of_paying (h : Sound runtime state) (hpaying : state.paying ≠ .idle) :
    state.page.transactionToken = none ∧ state.page.statusResult = none ∧
      state.polling = .idle ∧ ∀ token ∈ state.handed, Dead runtime state.access.world.db token := by
  cases h.stage with
  | between hnone hempty hpolling hdead => exact ⟨hnone, hempty, hpolling, hdead⟩
  | watching _ _ _ hidle => exact absurd hidle hpaying

/-- `handlePay` goes on or gives up. -/
theorem Sound.advanced (h : Sound runtime state) (hpaying : state.paying ≠ .idle) {page : Page}
    {paying : Paying} (htoken : page.transactionToken = state.page.transactionToken)
    (hresult : page.statusResult = state.page.statusResult)
    (hstarted : ∀ result, paying ≠ .started (some result)) :
    Sound runtime { state with page, paying } := by
  obtain ⟨hnone, hempty, hpolling, hdead⟩ := h.between_of_paying hpaying
  use h.known, fun result hresult => absurd hresult (hstarted result)
  exact .between (htoken.trans hnone) (hresult.trans hempty) hpolling hdead

/-- The page is handed the payment of an answer. -/
theorem Sound.handed (h : Sound runtime state) {result : PaymentInitiateResult}
    (hpaying : state.paying = .started (some result)) :
    Sound runtime { state with
      page := state.page.initiated result, paying := .idle,
      handed := (state.page.initiated result).transactionToken.toList ++ state.handed } := by
  obtain ⟨hnone, hempty, hpolling, hdead⟩ :=
    h.between_of_paying (by rw [hpaying]; exact fun h => by cases h)
  rw [Page.initiated]
  split
  · have hhanded : state.page.transactionToken.toList ++ state.handed = state.handed := by
      rw [hnone]
      rfl
    constructor
    · exact hhanded.symm ▸ h.known
    · exact fun _ hstarted => by cases hstarted
    · exact .between hnone hempty hpolling (hhanded.symm ▸ hdead)
  · cases htoken : result.transactionToken with
    | none =>
      use h.known, fun _ hstarted => by cases hstarted
      exact .between rfl hempty hpolling hdead
    | some token =>
      constructor
      · intro other hother
        rcases List.mem_cons.mp hother with rfl | hrest
        · exact h.offered result hpaying _ htoken
        · exact h.known other hrest
      · exact fun _ hstarted => by cases hstarted
      · refine @Stage.watching runtime _ token state.handed rfl rfl rfl rfl hdead ?_ ?_ ?_
        · intro hfailed
          rw [Page.screen, hempty] at hfailed
          cases hfailed
        · intro asked hasked
          rw [hpolling] at hasked
          cases hasked
        · intro other hother
          rw [hpolling] at hother
          cases hother

end Sound

namespace PortalEvent

/-- The tokens the API issues name the payments they are issued for. -/
def Mints (runtime : Runtime) : PortalEvent → Prop
  | servePayment outside => Services.Mints runtime outside
  | _ => True

/-- The visitor starts an attempt. -/
def Starts (portal : Portal) (event : PortalEvent) (state : PortalState) : Prop :=
  event = .pay ∧ portal.routerToken ≠ none ∧ state.page.handlePay ≠ none

variable {portal : Portal} {event : PortalEvent} {state : PortalState}

theorem Starts.step (h : event.Starts portal state) : state.page.step ≠ .waiting := by
  obtain ⟨-, -, hpay⟩ := h
  intro hwaiting
  apply hpay
  rw [Page.handlePay, hwaiting]
  cases state.page.selectedPackage with
  | none => rfl
  | some packageId => exact if_neg fun h => by cases h.1

end PortalEvent

section Sound

variable {portal : Portal} {state : PortalState}

theorem Sound.pay (h : Sound portal.runtime state) :
    Sound portal.runtime (portal.next .pay state) := by
  rw [Portal.next]
  split
  · rename_i page packageId phone _ hpay
    rw [Page.handlePay] at hpay
    split at hpay
    · cases hpay
    · split at hpay
      · rename_i hconfirm
        cases hpay
        cases h.stage with
        | between hnone hempty hpolling hdead =>
          use h.known, fun _ hstarted => by cases hstarted
          exact .between hnone hempty hpolling hdead
        | watching _ _ hwaiting =>
          rw [hwaiting] at hconfirm
          cases hconfirm.1
      · cases hpay
  · exact h

theorem Sound.retry (h : Sound portal.runtime state) :
    Sound portal.runtime (portal.next .retry state) := by
  rw [Portal.next]
  split
  · rename_i hoffers
    obtain ⟨-, screen, hscreen, rfl, -⟩ := hoffers
    have hdead := h.dead_of_failed hscreen
    use h.known, h.offered
    exact .between rfl rfl rfl hdead
  · exact h

theorem Sound.serveSession (h : Sound portal.runtime state) {outside : Outside} :
    Sound portal.runtime (portal.next (.serveSession outside) state) := by
  rw [Portal.next]
  split
  · rename_i packageId phone hopening
    have hpaying : state.paying ≠ .idle := by
      rw [hopening]
      exact fun h => by cases h
    have hserved := @Sound.outlast _ _ h
      { state.access with world := (portal.serveSession outside state.access.world).2 }
      outlast_serveSession
    apply hserved.advanced hpaying rfl rfl
    exact fun _ hstarted => by cases hstarted
  · exact h

theorem Sound.servePayment (h : Sound portal.runtime state) {outside : Outside}
    (hmints : Mints portal.runtime outside) :
    Sound portal.runtime (portal.next (.servePayment outside) state) := by
  rw [Portal.next]
  split
  · rename_i intentToken packageId phone hstarting
    have hpaying : state.paying ≠ .idle := by
      rw [hstarting]
      exact fun h => by cases h
    have hserved := @Sound.outlast _ _ h
      { state.access with
        world := (portal.servePayment outside intentToken packageId phone state.access.world).2 }
      outlast_servePayment
    obtain ⟨hnone, hempty, hpolling, hdead⟩ := hserved.between_of_paying hpaying
    constructor
    · exact hserved.known
    · intro result hstarted token htoken
      exact tokenOf_servePayment hmints (Paying.started.inj hstarted) htoken
    · exact .between hnone hempty hpolling hdead
  · exact h

theorem Sound.poll (h : Sound portal.runtime state) :
    Sound portal.runtime (portal.next .poll state) := by
  rw [Portal.next]
  split
  · rename_i token _ hpolled
    have htoken : state.page.transactionToken = some token := by
      rw [Page.polled] at hpolled
      split at hpolled
      · exact hpolled
      · cases hpolled
    use h.known, h.offered
    cases h.stage with
    | between hnone =>
      rw [hnone] at htoken
      cases htoken
    | watching hsome hhanded hstep hpaying hdead hscreen _ _ =>
      refine .watching hsome hhanded hstep hpaying hdead hscreen ?_ ?_
      · intro asked hasked
        cases hasked
        exact Option.some.inj (htoken.symm.trans hsome)
      · exact fun _ hanswered => by cases hanswered
  · exact h

theorem Sound.serveStatus (h : Sound portal.runtime state) {outside : Outside} :
    Sound portal.runtime (portal.next (.serveStatus outside) state) := by
  rw [Portal.next]
  split
  · rename_i token hasking
    cases h.stage with
    | between _ _ hpolling =>
      rw [hasking] at hpolling
      cases hpolling
    | @watching watched _ hsome hhanded hstep hpaying hdead hscreen hasked _ =>
      obtain rfl : token = watched := hasked token hasking
      obtain ⟨t, ht⟩ := h.known token (hhanded ▸ List.mem_cons_self)
      obtain ⟨hdb, hanswer⟩ := @serveStatus_screen portal outside _ _ _ ht
      have hserved := @Sound.outlast _ _ h
        { state.access with world := (portal.serveStatus outside token state.access.world).2 }
        (.of_rows (by rw [hdb]))
      use hserved.known, hserved.offered
      refine .watching hsome hhanded hstep hpaying ?_ ?_ ?_ ?_
      · exact fun other hother => hdb.symm ▸ hdead other hother
      · exact fun hfailed => hdb.symm ▸ hscreen hfailed
      · exact fun _ h => by cases h
      · intro result hanswered hfailed
        rw [hanswer result (Polling.answered.inj hanswered), screenOf_eq_failed] at hfailed
        exact hdb.symm ▸ ⟨t, ht, hfailed⟩
  · exact h

theorem Sound.statusArrives (h : Sound portal.runtime state) :
    Sound portal.runtime (portal.next .statusArrives state) := by
  rw [Portal.next]
  split
  · rename_i result hpolling
    cases h.stage with
    | between _ _ hidle =>
      rw [hidle] at hpolling
      cases hpolling
    | watching hsome hhanded hstep hpaying hdead _ _ hanswered =>
      use h.known, h.offered
      refine .watching hsome hhanded hstep hpaying hdead ?_ ?_ ?_
      · intro hfailed
        exact hanswered result hpolling (Option.some.inj hfailed)
      · exact fun _ h => by cases h
      · exact fun _ h => by cases h
  · rename_i hpolling
    cases h.stage with
    | between _ _ hidle =>
      rw [hidle] at hpolling
      cases hpolling
    | watching hsome hhanded hstep hpaying hdead hscreen _ _ =>
      use h.known, h.offered
      refine .watching hsome hhanded hstep hpaying hdead hscreen ?_ ?_
      · exact fun _ h => by cases h
      · exact fun _ h => by cases h
  · exact h

theorem Sound.lost (h : Sound portal.runtime state) :
    Sound portal.runtime (portal.next .paymentLost state) := by
  rw [Portal.next]
  split
  · exact h
  · rename_i hpaying
    exact h.advanced hpaying rfl rfl fun _ hstarted => by cases hstarted

theorem Sound.arrives (h : Sound portal.runtime state) :
    Sound portal.runtime (portal.next .sessionArrives state) ∧
      Sound portal.runtime (portal.next .paymentArrives state) := by
  have hbusy : ∀ {paying : Paying}, state.paying = paying → paying ≠ .idle →
      state.paying ≠ .idle := fun heq hne => heq ▸ hne
  have hstarting : ∀ {intentToken : String} {packageId : ℕ} {phone : String}
      (result : PaymentInitiateResult),
      Paying.starting intentToken packageId phone ≠ .started (some result) :=
    fun _ h => by cases h
  have hidle : ∀ result : PaymentInitiateResult, Paying.idle ≠ .started (some result) :=
    fun _ h => by cases h
  constructor
  · rw [Portal.next]
    split
    · rename_i hpaying
      exact h.advanced (hbusy hpaying fun h => by cases h) rfl rfl hstarting
    · rename_i hpaying
      exact h.advanced (hbusy hpaying fun h => by cases h) rfl rfl hidle
    · exact h
  · rw [Portal.next]
    split
    · rename_i hpaying
      exact h.handed hpaying
    · rename_i hpaying
      exact h.advanced (hbusy hpaying fun h => by cases h) rfl rfl hidle
    · exact h

theorem Sound.step {event : PortalEvent} (hmints : event.Mints portal.runtime)
    (h : Sound portal.runtime state) : Sound portal.runtime (portal.next event state) := by
  have hshown : ∀ {step : PageStep} {rest : Prop}, step ≠ .waiting →
      state.page.step = step ∧ rest → state.page.step ≠ .waiting :=
    fun hne hstep => hstep.1.symm ▸ hne
  cases event with
  | select packageId => exact h.edited (fun hstep => by rw [hstep]; decide) rfl rfl
  | choosePackage => exact h.edited (hshown (by decide)) rfl rfl
  | type raw => exact h.edited (hshown (by decide)) rfl rfl
  | confirmPhone => exact h.edited (hshown (by decide)) rfl rfl
  | backToPlans => exact h.edited (hshown (by decide)) rfl rfl
  | changeNumber => exact h.edited (hshown (by decide)) rfl rfl
  | pay => exact h.pay
  | retry => exact h.retry
  | serveSession outside => exact h.serveSession
  | sessionArrives => exact h.arrives.1
  | servePayment outside => exact h.servePayment hmints
  | paymentArrives => exact h.arrives.2
  | paymentLost => exact h.lost
  | poll => exact h.poll
  | serveStatus outside => exact h.serveStatus
  | statusArrives => exact h.statusArrives
  | statusLost =>
    use h.known, h.offered
    cases h.stage with
    | between hnone hempty _ hdead => exact .between hnone hempty rfl hdead
    | watching hsome hhanded hstep hpaying hdead hscreen _ _ =>
      exact .watching hsome hhanded hstep hpaying hdead hscreen (fun _ h => by cases h)
        fun _ h => by cases h
  | elsewhere step => exact h.outlast fun _ ht => step.lasts ht

theorem Sound.pairwise {runtime : Runtime} (h : Sound runtime state) :
    state.handed.Pairwise fun _ earlier => ¬Live runtime state.access.world.db earlier := by
  have hlist : ∀ {tokens : List String},
      (∀ token ∈ tokens, Dead runtime state.access.world.db token) →
        tokens.Pairwise fun _ earlier => ¬Live runtime state.access.world.db earlier := by
    intro tokens hdead
    apply List.pairwise_of_forall_mem_list
    exact fun _ _ earlier hearlier => (hdead earlier hearlier).not_live
  cases h.stage with
  | between _ _ _ hdead => exact hlist hdead
  | watching _ hhanded _ _ hdead =>
    rw [hhanded]
    exact List.pairwise_cons.mpr ⟨fun other hother => (hdead other hother).not_live, hlist hdead⟩

end Sound

/-- However the visitor uses a page, whatever is lost on the way and whatever happens elsewhere,
all payments the page was handed but the last one are decided and were not completed.  A new
attempt is offered, and starts, only once the last one is decided and was not completed either. -/
theorem one_live_payment (portal : Portal) {events : List PortalEvent} {access : AccessState}
    (hmints : ∀ event ∈ events, event.Mints portal.runtime) :
    Runs.All portal.next
      (fun event state =>
        (event.Starts portal state ∨ state.page.OffersRetry →
          ∀ token ∈ state.handed, ¬Live portal.runtime state.access.world.db token) ∧
        (portal.next event state).handed.Pairwise
          fun _ earlier => ¬Live portal.runtime (portal.next event state).access.world.db earlier)
      events { access } := by
  apply @Runs.All.of_invariant _ _ _ _ _ _ (Sound portal.runtime) _ _
    (Runs.All.of_forall (fun event hevent _ => hmints event hevent) _)
  · constructor
    · exact fun _ h => absurd h List.not_mem_nil
    · exact fun _ h => by cases h
    · exact .between rfl rfl rfl fun _ h => absurd h List.not_mem_nil
  · intro event state hmints h
    have hnext := h.step hmints
    refine ⟨⟨?_, hnext.pairwise⟩, hnext⟩
    rintro (hstarts | ⟨-, screen, hscreen, rfl, -⟩) token htoken
    · exact (h.dead_of_step hstarts.step token htoken).not_live
    · exact (h.dead_of_failed hscreen token htoken).not_live

/-! ## A visit -/

/-- A token is as long as the number it stands for says. -/
def pagePortal : Portal where
  runtime :=
    { portalRuntime with
      intentSession := fun token => some token.length
      tokenTransaction := fun token => some token.length }
  routerToken := some "router"
  mac := none
  resolveRouterToken _ := some 0

/-- The random texts of one request to `pagePortal`. -/
def minting (text : String) (answers : List HttpResult) : Outside :=
  { PayoutService.answering answers with
    answer := fun i question =>
      match question with
      | .uuidHex => text
      | .nonce => text
      | .intentToken sessionId => String.ofList (List.replicate sessionId 'x')
      | .fernetToken transactionId => String.ofList (List.replicate transactionId 'x')
      | other => PayoutService.sampleAnswer i other }

theorem mints_minting {text : String} {answers : List HttpResult} :
    Mints pagePortal.runtime (minting text answers) := by
  intro i transactionId
  change some (String.ofList (List.replicate transactionId 'x')).length = some transactionId
  rw [String.length_ofList, List.length_replicate]

/-- One attempt, from the confirmation on. -/
def attempt (text : String) (answers : List HttpResult) : List PortalEvent :=
  [.pay, .serveSession (minting text []), .sessionArrives,
   .servePayment (minting text answers), .paymentArrives]

/-- The order of a first attempt is refused, so that the visitor is offered a second one. -/
def visit : List PortalEvent :=
  [.select 0, .choosePackage, .type "712 345 678", .confirmPhone] ++
    attempt "first" [.transportError "timeout"] ++
    [.poll, .serveStatus (minting "" []), .statusArrives, .retry, .choosePackage, .confirmPhone] ++
    attempt "second" [accepted, accepted]

/-- The first payment is dead by the time the second one is handed over. -/
theorem one_live_visit :
    (Runs.run pagePortal.next visit { access := ⟨⟨portalDb, []⟩, ⟨[], [], [], []⟩⟩ }).handed =
      ["x", ""] ∧
    Runs.All pagePortal.next
      (fun event state =>
        (event.Starts pagePortal state ∨ state.page.OffersRetry →
          ∀ token ∈ state.handed, ¬Live pagePortal.runtime state.access.world.db token) ∧
        (pagePortal.next event state).handed.Pairwise fun _ earlier =>
          ¬Live pagePortal.runtime (pagePortal.next event state).access.world.db earlier)
      visit { access := ⟨⟨portalDb, []⟩, ⟨[], [], [], []⟩⟩ } := by
  constructor
  · decide +kernel
  · apply one_live_payment
    simp [visit, attempt, PortalEvent.Mints, mints_minting]

end InfinityRadius.Web
