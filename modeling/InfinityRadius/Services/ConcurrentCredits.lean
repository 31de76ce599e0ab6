import InfinityRadius.Services.OrderStatus
import InfinityRadius.Services.PaymentFlows
import InfinityRadius.Services.PaymentLocks
import InfinityRadius.Services.Statements

/-!
# Credits side by side

Whatever writes a payment, interleaved statement by statement: initiations, callbacks,
reconciliations and activations.  However they meet, a payment is credited once.
-/

namespace InfinityRadius.Services.ConcurrentCredits

open Amounts Database Interleaving Models Payload Program Sql Integrations.SelcomCollection

/-! ## Statements beside the payment -/

theorem all_sendRequest {request : Request} : (sendRequest request).All beside.Allows :=
  ⟨trivial, fun _ => trivial⟩

theorem all_ask {question : Ask} :
    (issue (.ask question) : Tx (Reply Answer HttpResult (.ask question))).All beside.Allows :=
  ⟨trivial, fun _ => trivial⟩

theorem all_createTransactionToken {runtime : Runtime} {transactionId : ℕ} :
    (CaptivePortalService.createTransactionToken runtime transactionId).All beside.Allows := by
  rw [CaptivePortalService.createTransactionToken]
  split
  · exact all_ask
  · trivial

theorem all_call {α : Type} {settings : Settings} {model : Validator α} {request : Request} :
    (call settings model request).All beside.Allows := by
  apply Prog.All.bind
  · rw [signRequest]
    split
    · split <;> trivial
    · trivial
  · intro _
    apply Prog.All.bind all_sendRequest
    intro answer
    cases validated model answer <;> trivial

theorem all_newClient {settings : Settings} : (newClient settings).All beside.Allows :=
  .bind (Prog.all_require _ _) fun _ => .bind (Prog.all_require _ _) fun _ => Prog.all_require _ _

theorem all_create_beside {t : Table} (ht : t ≠ .transactions) (ht' : t ≠ .ledgerEntries)
    {build : ℕ → Row t} : (create t build).All beside.Allows := by
  apply all_create
  intro id
  cases t with
  | transactions => exact absurd rfl ht
  | ledgerEntries => exact absurd rfl ht'
  | _ => trivial

theorem all_lockedWallet_beside {tenantId : ℕ} :
    (WalletService.lockedWallet tenantId).All beside.Allows :=
  WalletService.all_lockedWallet (fun _ => trivial) (fun _ => trivial) (fun _ _ => trivial) _

theorem all_moveBucket_beside {wallet : TenantWallet} {bucket : WalletBucket} {delta : Decimal} :
    (WalletService.moveBucket wallet bucket delta).All beside.Allows :=
  WalletService.all_moveBucket (fun _ _ => ⟨by decide, by decide⟩) _ _ _

section Sessions

variable {payments : List Transaction} {entries : List LedgerEntry} {before : Option Transaction}
  {payment old : Transaction} {own own' : Own Row} {committed later : Tables Row} {α β : Type}
  {x : Tx α} {f : α → Tx β} {returns : β → Own Row → Tables Row → Prop}

/-- Statements beside the payment come first. -/
theorem ends_beside (hinv : crediting.inv committed)
    (h : Holds before payment entries own committed) (hall : x.All beside.Allows)
    (hf : ∀ a own' later, crediting.inv later → Holds before payment entries own' later →
      Ends returns (f a) own' later) : Ends returns (x >>= f) own committed :=
  Ensures.bind hinv (ends_holds hall h) hf

theorem ends_before (hinv : crediting.inv committed) (h : Books payments entries own committed)
    (hall : x.All beside.Allows)
    (hf : ∀ a own' later, crediting.inv later → Books payments entries own' later →
      Ends returns (f a) own' later) : Ends returns (x >>= f) own committed :=
  Ensures.bind hinv (ends_books hall h) hf

theorem ends_require {condition : Prop} [Decidable condition] {failure : Failure}
    (h : Holds before payment entries own committed) :
    Ends (fun _ own' later => condition ∧ Holds before payment entries own' later)
      (Prog.require condition failure) own committed := by
  by_cases hcondition : condition
  · rw [Prog.require_true hcondition]
    exact fun later hrely _ => ⟨hcondition, h.stable hrely⟩
  · rw [Prog.require_false hcondition]
    trivial

/-! ## Finalising -/

/-- The payment gets the three entries of its credit. -/
theorem ends_processCollection {tenantId : ℕ} {referenceType : String}
    {description : Option String} (hinv : crediting.inv committed)
    (h : Holds before payment [] own committed) :
    Ends (fun _ own' later => ∃ entries, EnteredOnce payment.amount entries ∧
        (∀ entry ∈ entries, entry.referenceId = some payment.id) ∧
          Holds before payment entries own' later)
      (WalletService.processCollection tenantId (ofNumeric payment.amount) referenceType
        (some payment.id) description) own committed := by
  apply ends_beside hinv h (Prog.all_require _ _)
  intro _ own₁ later₁ hinv₁ h₁
  apply ends_beside hinv₁ h₁ (.bind (all_selectFirst _) fun _ => Prog.all_orRaise _ _)
  intro terms own₂ later₂ hinv₂ h₂
  apply ends_beside hinv₂ h₂ (Prog.all_orRaise _ _)
  intro platformFee own₃ later₃ hinv₃ h₃
  apply ends_beside hinv₃ h₃ all_lockedWallet_beside
  intro wallet own₄ later₄ hinv₄ h₄
  apply ends_beside hinv₄ h₄ all_moveBucket_beside
  intro credit own₅ later₅ hinv₅ h₅
  apply Ensures.bind hinv₅ (ends_createEntry h₅ fun _ => rfl)
  rintro collection own₆ later₆ hinv₆ ⟨⟨id, rfl⟩, h₆⟩
  apply Ensures.bind hinv₆ (ends_createEntry h₆ fun _ => rfl)
  rintro fee own₇ later₇ hinv₇ ⟨⟨id', rfl⟩, h₇⟩
  apply Ensures.bind hinv₇ (ends_createEntry h₇ fun _ => rfl)
  rintro share own₈ later₈ hinv₈ ⟨⟨id'', rfl⟩, h₈⟩
  intro last hlast _
  refine ⟨_, ⟨_, _, _, rfl, rfl, rfl, rfl, toNumeric_ofNumeric _⟩, ?_, h₈.stable hlast⟩
  intro entry hentry
  simp only [List.mem_cons, List.not_mem_nil, or_false] at hentry
  rcases hentry with rfl | rfl | rfl <;> rfl

/-- The transaction wrote no payment, or holds one that it closes. -/
inductive Settles (own : Own Row) (committed : Tables Row) : Prop
  | untouched (h : Books [] [] own committed)
  | closed {before : Option Transaction} {payment : Transaction} {entries : List LedgerEntry}
      (hclose : Closes before payment entries)
      (h : Holds before payment entries own committed)

theorem Settles.stable (h : Settles own committed)
    (hrely : crediting.rely own.locked committed later) : Settles own later := by
  cases h with
  | untouched h => exact .untouched (h.stable hrely)
  | closed hclose h => exact .closed hclose (h.stable hrely)

theorem Settles.reply {held : Held Row} {draw : Draw Ask Answer HttpResult}
    {keys : List (Key Table)} {s : Stmt Table Row Ask Request}
    {reply : Reply Answer HttpResult s} (hs : beside.Allows s) (h : Settles own committed)
    (hreply : own.reply schema committed held draw keys s = some (reply, own')) :
    Settles own' committed := by
  cases h with
  | untouched h => exact .untouched (h.reply hs hreply)
  | closed hclose h => exact .closed hclose (h.reply hs hreply)

theorem Settles.commits (h : Settles own committed) (hinv : crediting.inv committed) :
    Commits schema crediting own committed := by
  cases h with
  | untouched h => exact h.commits hinv
  | closed hclose h => exact h.commits hclose hinv

theorem ends_settles (hall : x.All beside.Allows) (h : Settles own committed) :
    Ends (fun _ own' later => Settles own' later) x own committed :=
  ends_kept Settles.stable Settles.reply hall h

theorem ends_transition {toStatus : CollectionStatus} {metadata : List (Option String)}
    {extraColumns : Transaction → Transaction} (hinv : crediting.inv committed)
    (h : Holds before payment entries own committed)
    (hset : payment.SameOrder { extraColumns payment with status := toStatus }) :
    Ends (fun t own' later => t = { extraColumns payment with status := toStatus } ∧
        Holds before t entries own' later)
      (SelcomPaymentProvider.transition payment toStatus metadata extraColumns) own committed := by
  apply Ensures.bind hinv (ends_updateTransaction h hset)
  rintro t own₁ later₁ hinv₁ ⟨rfl, h₁⟩
  apply ends_beside hinv₁ h₁ (Prog.all_require _ _)
  intro _ own₂ later₂ _ h₂
  exact fun last hlast _ => ⟨rfl, h₂.stable hlast⟩

/-- An open payment gets a status that does not complete it. -/
theorem settles_transition {toStatus : CollectionStatus} {metadata : List (Option String)}
    {extraColumns : Transaction → Transaction} (hinv : crediting.inv committed)
    (h : Holds (some old) old [] own committed) (hopen : old.status.terminal = false)
    (hstatus : toStatus ≠ .completed)
    (hset : old.SameOrder { extraColumns old with status := toStatus }) :
    Ends (fun _ own' later => Settles own' later)
      (SelcomPaymentProvider.transition old toStatus metadata extraColumns) own committed := by
  apply (ends_transition hinv h hset).mono
  rintro t own' last ⟨rfl, hholds⟩
  exact .closed (.moved hopen hstatus) hholds

theorem settles_kept (h : Holds (some old) payment [] own committed)
    (hamount : payment.amount = old.amount) (hstatus : payment.status = old.status) :
    Settles own committed :=
  .closed (.kept hamount hstatus) h

theorem settles_unchanged (h : Holds (some old) old [] own committed) :
    Settles own committed :=
  settles_kept h rfl rfl

/-- What a flow does with a payment that was verified: it enters the credit, and leaves what was
ordered and the status alone. -/
def FinalisesHeld (provider : SelcomPaymentProvider) : Prop :=
  ∀ {old : Transaction} {statusData : OrderStatusData} {own : Own Row} {committed : Tables Row},
    crediting.inv committed → Holds (some old) old [] own committed →
      Ends (fun t own' later => ∃ entries, EnteredOnce old.amount entries ∧
          (∀ entry ∈ entries, entry.referenceId = some old.id) ∧ old.SameOrder t ∧
            Holds (some old) t entries own' later)
        (provider.finalizePayment old statusData) own committed

theorem finalisesHeld_collection : FinalisesHeld CollectionService.provider := by
  intro old statusData own committed hinv h
  apply Ensures.bind hinv (ends_processCollection hinv h)
  rintro result own₁ later₁ _ ⟨entries, hentered, hreference, h₁⟩
  exact fun last hlast _ => ⟨entries, hentered, hreference, .refl old, h₁.stable hlast⟩

theorem finalisesHeld_captive : FinalisesHeld CaptivePortalService.provider := by
  intro old statusData own committed hinv h
  apply Ensures.bind hinv (ends_processCollection hinv h)
  rintro result own₁ later₁ _ ⟨entries, hentered, hreference, h₁⟩
  have hset : old.SameOrder { old with activationStatus := some .pending } := by
    constructor <;> rfl
  apply (ends_updateTransaction h₁ hset).mono
  rintro t own' last ⟨rfl, hholds⟩
  exact ⟨entries, hentered, hreference, hset, hholds⟩

/-! ## What an answer does to a payment -/

section Answers

open SelcomPaymentProvider

variable {settings : Settings} {provider : SelcomPaymentProvider} {statusData : OrderStatusData}

theorem settles_applyCompleted {providerResultcode : Option String}
    (hfinalises : FinalisesHeld provider) (hinv : crediting.inv committed)
    (h : Holds (some old) old [] own committed) (hopen : old.status.terminal = false) :
    Ends (fun _ own' later => Settles own' later)
      (applyCompleted provider old statusData providerResultcode) own committed := by
  rw [applyCompleted]
  split
  · apply settles_transition hinv h hopen
    · decide
    · constructor <;> rfl
  · apply Ensures.bind hinv (hfinalises hinv h)
    rintro t own₁ later₁ hinv₁ ⟨entries, hentered, hreference, horder, h₁⟩
    apply ends_beside hinv₁ h₁ all_now
    intro time own₂ later₂ hinv₂ h₂
    have hset : ∀ set : Transaction → Transaction,
        t.SameOrder { set t with status := .completed } →
          Ends (fun _ own' later => Settles own' later)
            (transition t .completed
              [statusData.transid, statusData.reference, t.collectionTransid] set)
            own₂ later₂ := by
      intro set hset
      apply (ends_transition hinv₂ h₂ hset).mono
      rintro t' own' last ⟨rfl, hholds⟩
      refine .closed (.credited hopen rfl ?_ ?_) hholds
      · rwa [hset.amount, horder.amount]
      · intro entry hentry
        rw [hreference entry hentry, hset.id, horder.id]
    apply hset
    constructor <;> rfl

theorem settles_applyMapped {paymentStatus : String} {providerResultcode : Option String}
    (hinv : crediting.inv committed) (h : Holds (some old) old [] own committed)
    (hopen : old.status.terminal = false) :
    Ends (fun _ own' later => Settles own' later)
      (applyMapped settings old statusData paymentStatus providerResultcode) own committed := by
  rw [applyMapped]
  split
  · apply settles_transition hinv h hopen
    · decide
    · constructor <;> rfl
  · rename_i mapped hmapped
    have hne := mapped_ne_completed hmapped
    split
    · apply ends_beside hinv h all_now
      intro time own₁ later₁ hinv₁ h₁
      apply settles_transition hinv₁ h₁ hopen hne
      constructor <;> rfl
    · split
      · exact fun last hlast _ => settles_unchanged (h.stable hlast)
      · apply ends_beside hinv h
        · rw [isStalePending]
          split
          · trivial
          · exact .ite (fun _ => trivial) fun _ => .bind all_now fun _ => trivial
        · intro stale own₁ later₁ hinv₁ h₁
          split
          · apply settles_transition hinv₁ h₁ hopen
            · decide
            · constructor <;> rfl
          · apply settles_transition hinv₁ h₁ hopen hne
            constructor <;> rfl

theorem settles_applyOrderStatus {providerResultcode : Option String}
    (hfinalises : FinalisesHeld provider) (hinv : crediting.inv committed)
    (h : Holds (some old) old [] own committed) :
    Ends (fun _ own' later => Settles own' later)
      (applyOrderStatus settings provider old statusData providerResultcode) own committed := by
  apply ends_beside hinv h (Prog.all_require _ _)
  intro _ own₁ later₁ hinv₁ h₁
  split
  · exact fun last hlast _ => settles_unchanged (h₁.stable hlast)
  · rename_i hterminal
    have hopen := Bool.eq_false_iff.mpr hterminal
    split
    · exact settles_applyCompleted hfinalises hinv₁ h₁ hopen
    · exact settles_applyMapped hinv₁ h₁ hopen

theorem settles_queryAndApply (hfinalises : FinalisesHeld provider)
    (hinv : crediting.inv committed) (h : Holds (some old) old [] own committed) :
    Ends (fun _ own' later => Settles own' later)
      (queryAndApply settings provider old) own committed := by
  apply ends_beside hinv h all_newClient
  intro _ own₁ later₁ hinv₁ h₁
  apply ends_beside hinv₁ h₁ (lets_attempt all_call)
  intro answer own₂ later₂ hinv₂ h₂
  cases answer with
  | error e => exact fun last hlast _ => settles_unchanged (h₂.stable hlast)
  | ok response =>
    dsimp only
    split
    · exact fun last hlast _ => settles_unchanged (h₂.stable hlast)
    · exact settles_applyOrderStatus hfinalises hinv₂ h₂

end Answers

/-! ## Calls -/

section Calls

open SelcomPaymentProvider

variable {settings : Settings} {service : TransactionType}

theorem finalisesHeld (service : TransactionType) : FinalisesHeld (providerOf service) := by
  cases service with
  | collection => exact finalisesHeld_collection
  | captivePortal => exact finalisesHeld_captive

/-- Whichever flow the payment is passed on to, it finalises the payment it holds. -/
theorem ends_providerFor {returns : α → Own Row → Tables Row → Prop}
    {f : SelcomPaymentProvider → Tx α}
    (h : ∀ target, FinalisesHeld target → Ends returns (f target) own committed) :
    Ends returns (providerFor paymentProviders (providerOf service) payment >>= f) own
      committed := by
  rw [providerFor]
  split
  · exact h _ (finalisesHeld service)
  · split
    · exact h _ finalisesHeld_collection
    · exact h _ finalisesHeld_captive
    · trivial

/-- Nothing was written, and no payment was read. -/
structure Unread (own : Own Row) (committed : Tables Row) : Prop where
  books : Books [] [] own committed
  loaded : own.loaded .transactions = []

/-- Statements that do not even read payments. -/
def avoids : Stmt Table Row Ask Request → Prop
  | .select t _ => t ≠ .transactions
  | .selectForUpdate t _ => t ≠ .transactions
  | .insert t _ => t ≠ .transactions ∧ t ≠ .ledgerEntries
  | .update t _ _ => t ≠ .transactions ∧ t ≠ .ledgerEntries
  | _ => True

theorem Unread.stable (h : Unread own committed)
    (hrely : crediting.rely own.locked committed later) : Unread own later where
  books := h.books.stable hrely
  loaded := h.loaded

theorem beside_of_avoids {s : Stmt Table Row Ask Request} (h : avoids s) : beside.Allows s := by
  cases s with
  | insert t build =>
    obtain ⟨ht, ht'⟩ : t ≠ .transactions ∧ t ≠ .ledgerEntries := h
    intro id
    cases t with
    | transactions => exact absurd rfl ht
    | ledgerEntries => exact absurd rfl ht'
    | _ => trivial
  | update t id write => exact h
  | _ => trivial

theorem Unread.reply {held : Held Row} {draw : Draw Ask Answer HttpResult}
    {keys : List (Key Table)} {s : Stmt Table Row Ask Request}
    {reply : Reply Answer HttpResult s} (hs : avoids s) (h : Unread own committed)
    (hreply : own.reply schema committed held draw keys s = some (reply, own')) :
    Unread own' committed where
  books := h.books.reply (beside_of_avoids hs) hreply
  loaded := by
    cases s with
    | select t p =>
      obtain ⟨-, rfl⟩ := Prod.mk.inj (Option.some.inj hreply)
      exact (Function.update_of_ne (Ne.symm hs) _ _).trans h.loaded
    | selectForUpdate t p =>
      obtain ⟨-, rfl⟩ := Prod.mk.inj (Option.some.inj hreply)
      exact (Function.update_of_ne (Ne.symm hs) _ _).trans h.loaded
    | scan t p =>
      obtain ⟨-, rfl⟩ := Prod.mk.inj (Option.some.inj hreply)
      exact h.loaded
    | insert t build =>
      simp only [Own.reply] at hreply
      split at hreply
      · rcases Own.tryWrite_eq_some hreply with ⟨-, rfl⟩ | ⟨-, rfl, -, -⟩
        · exact h.loaded
        · exact (Function.update_of_ne (Ne.symm hs.1) _ _).trans h.loaded
      · cases hreply
    | update t id write =>
      rcases Own.reply_update hreply with ⟨-, rfl⟩ | ⟨old, -, -, -, -, rfl⟩
      · exact h.loaded
      · exact (Function.update_of_ne (Ne.symm hs.1) _ _).trans h.loaded
    | ask question =>
      obtain ⟨-, rfl⟩ := Prod.mk.inj (Option.some.inj hreply)
      exact h.loaded
    | send request =>
      obtain ⟨-, rfl⟩ := Prod.mk.inj (Option.some.inj hreply)
      exact h.loaded

theorem ends_unread {β : Type} {f : α → Tx β} {returns : β → Own Row → Tables Row → Prop}
    (hinv : crediting.inv committed) (h : Unread own committed) (hall : x.All avoids)
    (hf : ∀ a own' later, crediting.inv later → Unread own' later →
      Ends returns (f a) own' later) : Ends returns (x >>= f) own committed :=
  Ensures.bind hinv (ends_kept Unread.stable Unread.reply hall h) hf

theorem unread_empty : Unread {} committed where
  books := ⟨rfl, rfl, List.Pairwise.nil, by simp⟩
  loaded := rfl

theorem ends_lockById {transactionId : ℕ} {failure : Failure} {f : Transaction → Tx α}
    {returns : α → Own Row → Tables Row → Prop} (hinv : crediting.inv committed)
    (hf : ∀ payment own' later, crediting.inv later → Holds (some payment) payment [] own' later →
      Ends returns (f payment) own' later) :
    Ends returns (do
        let found ← getByIdForUpdate .transactions none transactionId
        let payment ← Prog.orRaise found failure
        f payment) {} committed := by
  have hunread : Unread {} committed := unread_empty
  apply Ensures.bind hinv (ends_lockPayment hunread.books hunread.loaded)
  rintro found own₁ later₁ hinv₁ ⟨-, hfound⟩
  cases found with
  | none => trivial
  | some payment =>
    rw [Prog.orRaise_some, Prog.pure_bind]
    exact hf payment own₁ later₁ hinv₁ (hfound payment rfl)

theorem ends_reconcile {transactionId : ℕ} (hinv : crediting.inv committed) :
    Ends (fun _ own' later => Settles own' later)
      (reconcile settings paymentProviders (providerOf service) transactionId) {} committed := by
  apply ends_lockById hinv
  intro payment own₁ later₁ hinv₁ h₁
  apply ends_providerFor
  intro target htarget
  exact settles_queryAndApply htarget hinv₁ h₁

/-- What a callback says once its signature was verified. -/
theorem ends_acknowledge {webhook : PaymentWebhook} {payload : Json}
    (hinv : crediting.inv committed) (h : Unread own committed) :
    Ends (fun _ own' later => Settles own' later)
      (acknowledge settings paymentProviders (providerOf service) webhook payload) own
      committed := by
  have hmarks : ∀ webhook, (markProcessed webhook).All beside.Allows := fun _ =>
    .bind all_now fun _ => all_updateRow ⟨by decide, by decide⟩
  rw [acknowledge]
  cases webhookPayload payload with
  | none => trivial
  | some parsed =>
    rw [Prog.orRaise_some, Prog.pure_bind]
    split
    · exact ends_settles (.bind (hmarks _) fun _ => trivial) (.untouched h.books)
    · apply Ensures.bind hinv (ends_lockPayment h.books h.loaded)
      rintro found own₁ later₁ hinv₁ ⟨hbooks, hfound⟩
      cases found with
      | none => exact ends_settles (.bind (hmarks _) fun _ => trivial) (.untouched hbooks)
      | some payment =>
        apply ends_beside hinv₁ (hfound payment rfl) (all_updateRow ⟨by decide, by decide⟩)
        intro webhook own₂ later₂ hinv₂ h₂
        apply ends_providerFor
        intro target htarget
        apply Ensures.bind hinv₂ (settles_queryAndApply htarget hinv₂ h₂)
        intro _ own₃ later₃ _ h₃
        exact ends_settles (.bind (hmarks _) fun _ => trivial) h₃

theorem ends_processWebhook {headers : List (String × String)} {body : WebhookBody}
    (hinv : crediting.inv committed) :
    Ends (fun _ own' later => Settles own' later)
      (processWebhook settings paymentProviders (providerOf service) headers body) {}
      committed := by
  have hverifies : (verifySignature settings headers (rawPayload body)).All avoids := by
    refine .bind (Prog.all_require _ _) fun _ => ?_
    split
    · refine .bind ⟨trivial, fun _ => trivial⟩ fun check => ?_
      cases check <;> trivial
    · trivial
  have hcreates : ∀ build, (create .paymentWebhooks build).All avoids := fun _ =>
    ⟨⟨by decide, by decide⟩, fun _ => Prog.all_orRaise _ _⟩
  apply ends_unread hinv unread_empty hverifies
  intro verified own₁ later₁ hinv₁ h₁
  apply ends_unread hinv₁ h₁ (hcreates _)
  intro webhook own₂ later₂ hinv₂ h₂
  split
  · exact ends_acknowledge hinv₂ h₂
  · apply ends_settles _ (.untouched h₂.books)
    exact .bind (.bind all_now fun _ => all_updateRow ⟨by decide, by decide⟩) fun _ => trivial

theorem ends_finalizePayment {transactionId : ℕ} (hinv : crediting.inv committed) :
    Ends (fun _ own' later => Settles own' later)
      (CaptivePortalService.finalizePayment transactionId) {} committed := by
  apply ends_lockById hinv
  intro payment own₁ later₁ hinv₁ h₁
  split
  · exact fun last hlast _ => settles_unchanged (h₁.stable hlast)
  · apply Ensures.bind hinv₁ (ends_require h₁)
    rintro _ own₂ later₂ hinv₂ ⟨hopen, h₂⟩
    apply ends_beside hinv₂ h₂ (Prog.all_require _ _)
    intro _ own₃ later₃ hinv₃ h₃
    apply ends_beside hinv₃ h₃ all_now
    intro time own₄ later₄ hinv₄ h₄
    have hset : payment.SameOrder { payment with
        status := .completed, completedAt := some time, activationStatus := some .pending } := by
      constructor <;> rfl
    apply Ensures.bind hinv₄ (ends_updateTransaction h₄ hset)
    rintro t own₅ later₅ hinv₅ ⟨rfl, h₅⟩
    apply Ensures.bind hinv₅ (ends_processCollection hinv₅ h₅)
    rintro result own₆ later₆ _ ⟨entries, hentered, hreference, h₆⟩
    exact fun last hlast _ => .closed (.credited hopen rfl hentered hreference) (h₆.stable hlast)

/-! ### Initiations -/

/-- An order and a prompt for a payment that is new. -/
theorem ends_createOrderAndSendStk {buyerName buyerEmail msisdn currency : String}
    {amount : Decimal} {description : Option String} (hinv : crediting.inv committed)
    (h : Holds none payment [] own committed) :
    Ends (fun _ own' later => Settles own' later)
      (createOrderAndSendStk settings payment buyerName buyerEmail msisdn amount currency
        description) own committed := by
  have hmoved : ∀ {toStatus : CollectionStatus} {metadata} {extraColumns} {own : Own Row}
      {committed : Tables Row}, crediting.inv committed → Holds none payment [] own committed →
        toStatus ≠ .completed →
          payment.SameOrder { extraColumns payment with status := toStatus } →
            Ends (fun _ own' later => Settles own' later)
              (transition payment toStatus metadata extraColumns) own committed := by
    intro toStatus metadata extraColumns own committed hinv h hstatus hset
    apply (ends_transition hinv h hset).mono
    rintro t own' last ⟨rfl, hholds⟩
    exact .closed (.started hstatus) hholds
  have hfails : ∀ {reason} {own : Own Row} {committed : Tables Row}, crediting.inv committed →
      Holds none payment [] own committed →
        Ends (fun _ own' later => Settles own' later) (fail payment reason) own committed := by
    intro reason own committed hinv h
    apply ends_beside hinv h all_now
    intro time own₁ later₁ hinv₁ h₁
    apply hmoved hinv₁ h₁
    · decide
    · constructor <;> rfl
  apply ends_beside hinv h all_newClient
  intro _ own₁ later₁ hinv₁ h₁
  apply ends_beside hinv₁ h₁
  · apply lets_attempt
    apply Prog.All.bind
    · rw [wholeTzsAmount]
      split <;> trivial
    · exact fun _ => all_call
  · intro order own₂ later₂ hinv₂ h₂
    cases order with
    | error e => exact hfails hinv₂ h₂
    | ok response =>
      apply ends_beside hinv₂ h₂ all_uuidHex
      intro hex own₃ later₃ hinv₃ h₃
      apply ends_beside hinv₃ h₃ (lets_attempt all_call)
      intro answer own₄ later₄ hinv₄ h₄
      cases answer with
      | error e => exact hfails hinv₄ h₄
      | ok response =>
        apply ends_beside hinv₄ h₄ all_now
        intro time own₅ later₅ hinv₅ h₅
        apply hmoved hinv₅ h₅
        · decide
        · constructor <;> rfl

/-- A collection a member of the tenant asks for. -/
theorem ends_initiateRoute {userId : ℕ} {amount : Decimal} {currency phone : String}
    {customerId : Option ℕ} {description : Option String} (hinv : crediting.inv committed) :
    Ends (fun _ own' later => Settles own' later)
      (CollectionService.initiateRoute settings userId amount currency phone customerId
        description) {} committed := by
  have hrole : (requireTenantRole frontlineRoles userId).All beside.Allows := by
    refine .bind (all_getById _ _) fun _ => .bind (Prog.all_orRaise _ _) fun profile =>
      .bind ⟨trivial, fun _ => trivial⟩ fun roles => ?_
    cases profile.tenantId with
    | none => trivial
    | some tenantId =>
      exact .bind (all_getById _ _) fun _ => .bind (Prog.all_require _ _) fun _ =>
        .bind (Prog.all_require _ _) fun _ => trivial
  have hcustomer : ∀ tenantId, (CollectionService.requireCustomer tenantId customerId).All
      beside.Allows := by
    intro tenantId
    cases customerId with
    | none => trivial
    | some id =>
      exact .bind (all_getById _ _) fun _ => .bind (Prog.all_orRaise _ _) fun _ => trivial
  have hunread : Unread {} committed := unread_empty
  apply ends_before hinv hunread.books hrole
  intro tenantId own₁ later₁ hinv₁ h₁
  apply ends_before hinv₁ h₁ (Prog.all_require _ _)
  intro _ own₂ later₂ hinv₂ h₂
  apply ends_before hinv₂ h₂ (Prog.all_require _ _)
  intro _ own₃ later₃ hinv₃ h₃
  apply ends_before hinv₃ h₃ (Prog.all_require _ _)
  intro _ own₄ later₄ hinv₄ h₄
  apply ends_before hinv₄ h₄ (Prog.all_require _ _)
  intro _ own₅ later₅ hinv₅ h₅
  apply ends_before hinv₅ h₅ (Prog.all_orRaise _ _)
  intro normalizedPhone own₆ later₆ hinv₆ h₆
  apply ends_before hinv₆ h₆ (hcustomer tenantId)
  intro customer own₇ later₇ hinv₇ h₇
  apply ends_before hinv₇ h₇ all_uuidHex
  intro hex own₈ later₈ hinv₈ h₈
  apply Ensures.bind hinv₈ (ends_createTransaction h₈)
  rintro payment own₉ later₉ hinv₉ ⟨⟨id, rfl⟩, h₉⟩
  exact ends_createOrderAndSendStk hinv₉ h₉

/-- A payment a visitor starts. -/
theorem ends_startAttempt {runtime : Runtime} {session : CaptiveSession} {package : Package}
    {phone : String} (hinv : crediting.inv committed) (h : Books [] [] own committed) :
    Ends (fun _ own' later => Settles own' later)
      (CaptivePortalService.startAttempt runtime session package phone) own committed := by
  have hcustomer : (CustomerService.getOrCreateByPhone session.tenantId phone).All
      beside.Allows := by
    refine .bind (Prog.all_orRaise _ _) fun _ => .bind (all_selectOne _) fun customer => ?_
    cases customer with
    | some customer => trivial
    | none =>
      exact .bind ⟨trivial, fun _ => trivial⟩ fun _ => all_create_beside (by decide) (by decide)
  have hsubscription : ∀ customerId, (SubscriptionService.createAwaitingPayment session.tenantId
      customerId package.id).All beside.Allows := fun _ =>
    .bind (.bind (all_getById _ _) fun _ => .bind (Prog.all_orRaise _ _) fun _ =>
      .bind (all_getById _ _) fun _ => .bind (Prog.all_orRaise _ _) fun _ =>
        .bind (Prog.all_require _ _) fun _ => trivial) fun _ =>
          all_create_beside (by decide) (by decide)
  apply ends_before hinv h hcustomer
  intro customer own₁ later₁ hinv₁ h₁
  apply ends_before hinv₁ h₁ (hsubscription _)
  intro subscription own₂ later₂ hinv₂ h₂
  apply ends_before hinv₂ h₂ all_uuidHex
  intro hex own₃ later₃ hinv₃ h₃
  apply Ensures.bind hinv₃ (ends_createTransaction h₃)
  rintro payment own₄ later₄ hinv₄ ⟨⟨id, rfl⟩, h₄⟩
  apply ends_beside hinv₄ h₄ (.bind all_now fun _ => all_updateRow ⟨by decide, by decide⟩)
  intro _ own₅ later₅ hinv₅ h₅
  apply Ensures.bind hinv₅ (ends_createOrderAndSendStk hinv₅ h₅)
  intro payment own₆ later₆ _ h₆
  apply ends_settles _ h₆
  exact .bind all_createTransactionToken fun _ => .ite (fun _ => trivial) fun _ => trivial

theorem ends_initiatePayment {runtime : Runtime} {intentToken phone : String} {packageId : ℕ}
    (hinv : crediting.inv committed) :
    Ends (fun _ own' later => Settles own' later)
      (CaptivePortalService.initiatePayment runtime intentToken packageId phone) {}
      committed := by
  have hsession : (CaptivePortalService.requireSession runtime intentToken).All
      beside.Allows := by
    apply Prog.All.tryCatch
    · exact .bind (Prog.all_orRaise _ _) fun _ => .bind (all_selectOne _) fun _ =>
        .bind (Prog.all_orRaise _ _) fun _ => .bind (Prog.all_require _ _) fun _ =>
          .bind all_now fun _ => .bind (Prog.all_require _ _) fun _ => trivial
    · intro failure
      cases failure <;> trivial
  have hpackage : ∀ session, (CaptivePortalService.requirePackage session packageId).All
      beside.Allows := fun _ =>
    .bind (all_getById _ _) fun _ => .bind (Prog.all_orRaise _ _) fun _ =>
      .bind (Prog.all_require _ _) fun _ => .bind (Prog.all_require _ _) fun _ => trivial
  have hempty : Books [] [] {} committed := unread_empty.books
  rw [CaptivePortalService.initiatePayment]
  split
  · exact fun last hlast _ => .untouched (hempty.stable hlast)
  · apply ends_before hinv hempty hsession
    intro session own₁ later₁ hinv₁ h₁
    apply ends_before hinv₁ h₁ (hpackage session)
    intro package own₂ later₂ hinv₂ h₂
    apply ends_before hinv₂ h₂ (Prog.all_orRaise _ _)
    intro normalizedPhone own₃ later₃ hinv₃ h₃
    apply ends_before hinv₃ h₃ all_ask
    intro dimension own₄ later₄ hinv₄ h₄
    cases dimension with
    | some dimension => exact fun last hlast _ => .untouched (h₄.stable hlast)
    | none =>
      apply ends_before hinv₄ h₄ (all_selectFirst _)
      intro existing own₅ later₅ hinv₅ h₅
      cases existing with
      | none => exact ends_startAttempt hinv₅ h₅
      | some attempt =>
        apply ends_settles _ (.untouched h₅)
        exact .bind all_createTransactionToken fun _ => trivial

/-! ### Activations -/

open CaptivePortalActivationService

theorem all_requireAccess {access : Access} :
    (requireAccess settings access).All beside.Allows := by
  have hagent : ∀ request, (agentRequest request).All beside.Allows := by
    intro request
    apply Prog.All.bind all_sendRequest
    intro answer
    cases answer with
    | transportError detail => trivial
    | response statusCode body =>
      refine .ite (fun _ => trivial) fun _ =>
        .ite (fun _ => .bind all_ask fun _ => trivial) fun _ => ?_
      cases body <;> trivial
  have hdirect : ∀ request, (directRequest request).All beside.Allows := by
    intro request
    apply Prog.All.bind all_sendRequest
    intro answer
    cases answer <;> trivial
  apply Prog.All.tryCatch
  · rw [provisionAccess]
    split
    · refine .bind ?_ fun _ => trivial
      apply Prog.All.tryCatch (.bind (hagent _) fun _ => hagent _)
      intro failure
      cases failure <;> trivial
    · split
      · exact .bind (hdirect _) fun _ => .bind (hdirect _) fun _ => trivial
      · trivial
  · exact fun _ => trivial

theorem ends_activate {runtime : Runtime} {transactionId : ℕ} (hinv : crediting.inv committed) :
    Ends (fun _ own' later => Settles own' later)
      (CaptivePortalActivationService.activate runtime transactionId) {} committed := by
  have hload : ∀ subscriptionId customerId, (loadPurchase subscriptionId customerId).All
      beside.Allows := fun _ _ =>
    .bind (all_selectOne _) fun _ => .bind (Prog.all_orRaise _ _) fun _ =>
      .bind (all_selectOne _) fun _ => .bind (Prog.all_orRaise _ _) fun _ =>
        .bind (all_selectOne _) fun _ => .bind (Prog.all_orRaise _ _) fun _ => trivial
  have hstart : ∀ tenantId subscription, (startPending tenantId subscription).All
      beside.Allows := by
    intro tenantId subscription
    refine .ite (fun _ => ?_) fun _ => trivial
    exact .bind (all_getByIdForUpdate _ _) fun _ => .bind (Prog.all_orRaise _ _) fun _ =>
      .bind (Prog.all_require _ _) fun _ => .bind (all_getById _ _) fun _ =>
        .bind (Prog.all_orRaise _ _) fun _ => .bind all_now fun _ =>
          all_updateRow ⟨by decide, by decide⟩
  apply ends_lockById hinv
  intro payment own₁ later₁ hinv₁ h₁
  apply ends_beside hinv₁ h₁ (Prog.all_require _ _)
  intro _ own₂ later₂ hinv₂ h₂
  split
  · exact fun last hlast _ => settles_unchanged (h₂.stable hlast)
  · split
    · apply ends_beside hinv₂ h₂ (hload _ _)
      rintro ⟨subscription, customer, package⟩ own₃ later₃ hinv₃ h₃
      apply Ensures.bind hinv₃ (ends_updateTransaction h₃ _)
      swap
      · constructor <;> rfl
      rintro activating own₄ later₄ hinv₄ ⟨rfl, h₄⟩
      apply ends_beside hinv₄ h₄ (hstart _ _)
      intro subscription own₅ later₅ hinv₅ h₅
      apply ends_beside hinv₅ h₅ all_requireAccess
      intro transport own₆ later₆ hinv₆ h₆
      apply ends_beside hinv₆ h₆ all_now
      intro time own₇ later₇ hinv₇ h₇
      apply Ensures.bind hinv₇ (ends_updateTransaction h₇ _)
      swap
      · constructor <;> rfl
      rintro active own₈ later₈ _ ⟨rfl, h₈⟩
      exact fun last hlast _ => settles_kept (h₈.stable hlast) rfl rfl
    · trivial

theorem ends_recordFailure {transactionId : ℕ} {reason : String}
    (hinv : crediting.inv committed) :
    Ends (fun _ own' later => Settles own' later)
      (CaptivePortalActivationService.recordFailure transactionId reason) {} committed := by
  apply ends_lockById hinv
  intro payment own₁ later₁ hinv₁ h₁
  apply Ensures.bind hinv₁ (ends_updateTransaction h₁ _)
  swap
  · constructor <;> rfl
  rintro failed own₂ later₂ hinv₂ ⟨rfl, h₂⟩
  apply ends_beside hinv₂ h₂ (Prog.all_require _ _)
  intro _ own₃ later₃ _ h₃
  exact fun last hlast _ => settles_kept (h₃.stable hlast) rfl rfl

end Calls

end Sessions

/-! ## Every interleaving -/

/-- A call that opens a transaction: an operation on payments, one of the two transactions of an
activation, or any program beside the payments. -/
inductive PaymentCall
  | payment (runtime : Runtime) (operation : PaymentOperation)
  | activate (runtime : Runtime) (transactionId : ℕ)
  | recordFailure (transactionId : ℕ) (reason : String)
  | other (program : Tx Unit) (h : program.All beside.Allows)

def PaymentCall.program : PaymentCall → Tx Unit
  | payment runtime operation => operation.program runtime
  | activate runtime transactionId => do
    let _ ← CaptivePortalActivationService.activate runtime transactionId
    pure ()
  | recordFailure transactionId reason => do
    let _ ← CaptivePortalActivationService.recordFailure transactionId reason
    pure ()
  | other program _ => program

/-- Other programs may change everything but payments and the ledger. -/
def shared (t : Table) : Bool := decide (t ≠ .transactions ∧ t ≠ .ledgerEntries)

section Interleavings

variable {own : Own Row} {committed : Tables Row}

theorem ends_discard {α : Type} {x : Tx α}
    (h : Ends (fun _ own' later => Settles own' later) x own committed)
    (hinv : crediting.inv committed) :
    Ends (fun _ own' later => Settles own' later) (do let _ ← x; pure () : Tx Unit) own
      committed := by
  apply Ensures.bind hinv h
  intro _ own' later _ h'
  exact fun last hlast _ => h'.stable hlast

theorem ends_program (call : PaymentCall) (hinv : crediting.inv committed) :
    Ends (fun _ own' later => Settles own' later) call.program {} committed := by
  have hempty : Settles {} committed := .untouched unread_empty.books
  cases call with
  | payment runtime operation =>
    cases operation with
    | issueSession routerId macAddress =>
      apply ends_settles _ hempty
      refine Prog.All.bind ?_ fun _ => trivial
      refine .bind (all_getById _ _) fun _ => .bind (Prog.all_orRaise _ _) fun _ =>
        .bind all_now fun _ => .bind all_ask fun _ =>
          .bind (all_create_beside (by decide) (by decide)) fun _ => .bind ?_ fun _ => trivial
      rw [CaptivePortalSessionService.createIntentToken]
      split
      · trivial
      · trivial
      · exact all_ask
    | initiate initiation =>
      cases initiation with
      | captive => exact ends_discard (ends_initiatePayment hinv) hinv
      | collection => exact ends_discard (ends_initiateRoute hinv) hinv
    | processWebhook => exact ends_discard (ends_processWebhook hinv) hinv
    | reconcile => exact ends_discard (ends_reconcile hinv) hinv
    | finalizePayment => exact ends_finalizePayment hinv
  | activate => exact ends_discard (ends_activate hinv) hinv
  | recordFailure => exact ends_discard (ends_recordFailure hinv) hinv
  | other program h => exact ends_settles h hempty

/-- What settles may be committed. -/
theorem ends_commits {x : Tx Unit}
    (h : Ends (fun _ own' later => Settles own' later) x own committed) :
    Ends (fun _ own' later => Commits schema crediting own' later) x own committed := by
  induction x generalizing own committed with
  | done result =>
    cases result with
    | ok a => exact fun later hrely hinv => (h later hrely hinv).commits hinv
    | error e => trivial
  | step s next ih =>
    intro later hrely hinv held draw keys reply own' hreply
    exact ih reply (h later hrely hinv held draw keys reply own' hreply)

theorem keeps_crediting : Keeps schema crediting PaymentCall.program shared where
  call call _ hinv := ends_commits (ends_program call hinv)
  elsewhere t rows committed ht hinv := by
    obtain ⟨htransactions, hledger⟩ : t ≠ .transactions ∧ t ≠ .ledgerEntries := of_decide_eq_true ht
    have hpayments : Function.update committed t rows .transactions = committed .transactions :=
      Function.update_of_ne htransactions.symm _ _
    have hcredits : ∀ id, creditsOf (Function.update committed t rows) id =
        creditsOf committed id := by
      intro id
      rw [creditsOf, Function.update_of_ne hledger.symm, creditsOf]
    constructor
    · simp only [crediting, hpayments, hcredits]
      exact hinv
    · intro locked
      refine ⟨fun key _ hkey => ?_, fun id _ => hcredits id, fun old hold _ => ?_⟩
      · have hne : key.1 ≠ t := by
          rintro rfl
          exact hkey.elim htransactions hledger
        rw [SameAt, Function.update_of_ne hne]
      · rw [hpayments]
        exact ⟨old, hold, rfl, rfl, hcredits _⟩

abbrev Payments := System schema Ask Request Answer HttpResult Failure Unit

abbrev PaymentEvent := Event Row Ask Answer HttpResult PaymentCall

def Payments.next (event : PaymentEvent) (system : Payments) : Payments :=
  System.next PaymentCall.program shared event system

/-- In every interleaving of initiations, callbacks, reconciliations and activations of both
flows, beside whatever leaves payments and credits alone: a completed payment has the three
entries of one credit, for its amount, any other payment has none, and a payment that is decided
keeps its status and its entries, whatever happens next. -/
theorem credited_once_of_interleaving {start : PlatformDb}
    (hstart : ∀ payment ∈ start.rows .transactions,
      Accounted payment (creditsOf start.rows payment.id))
    (hcredits : ∀ id, creditsOf start.rows id ≠ [] →
      ∃ payment ∈ start.rows .transactions, payment.id = id)
    (events : List PaymentEvent) :
    (∀ payment ∈ (Runs.run Payments.next events ⟨start.rows, []⟩).committed .transactions,
      Accounted payment
        (creditsOf (Runs.run Payments.next events ⟨start.rows, []⟩).committed payment.id)) ∧
    Runs.All Payments.next (fun event system =>
      DecidedStay system.committed (Payments.next event system).committed)
      events ⟨start.rows, []⟩ := by
  have hkept : System.Kept crediting (⟨start.rows, []⟩ : Payments) := by
    constructor
    · exact ⟨(start.apart .transactions).imp And.left, hstart, hcredits⟩
    · simp
    · simp
  have hevents : Runs.All Payments.next (fun _ _ => True) events ⟨start.rows, []⟩ :=
    .of_forall (fun _ _ _ => trivial) _
  constructor
  · exact (inv_of_run keeps_crediting events hkept.inv).2.1
  · exact Runs.All.of_invariant
      (fun event (system : Payments) _ (h : system.Kept crediting) =>
        ⟨(h.rely_next keeps_crediting event).2.2, h.next keeps_crediting event⟩) hevents hkept

end Interleavings

/-! ## A payment two sweeps reconcile at once -/

def promptedRows : (t : Table) → List (Row t)
  | .transactions => [SelcomPaymentProvider.promptedPayment]
  | .tenantCommercialTerms =>
    [{ id := 0, tenantId := 1, commissionRatePercent := 500, isActive := true, notes := none,
       createdBy := none }]
  | t => portalRows true t

def promptedStart : PlatformDb where
  rows := promptedRows
  valid t := by cases t <;> decide +kernel
  apart t := by cases t <;> decide +kernel

/-- Everyone is told the payment is completed. -/
def toldCompleted (id : ℕ) : Draw Ask Answer HttpResult :=
  ⟨silentOutside.answer 0, completedAnswer, id⟩

/-- The steps of both alternate until the first is done; the second then goes on alone. -/
def reconciledTwice : List PaymentEvent :=
  List.replicate 2 (.call (.payment portalRuntime (.reconcile .captivePortal 0))) ++
    (List.range 60).flatMap (fun id =>
      [.advance 0 (toldCompleted id), .advance 1 (toldCompleted id)]) ++
    [.finish 0] ++ (List.range 60).map (fun id => .advance 0 (toldCompleted (100 + id))) ++
    [.finish 0]

/-- One of them credits the payment. -/
theorem credited_once_reconciled :
    ((Runs.run Payments.next reconciledTwice ⟨promptedStart.rows, []⟩).committed
      .ledgerEntries).map LedgerEntry.amount = [100000, 5000, 95000] ∧
    Runs.All Payments.next (fun event system =>
      DecidedStay system.committed (Payments.next event system).committed)
      reconciledTwice ⟨promptedStart.rows, []⟩ := by
  have hstart : ∀ payment ∈ promptedStart.rows .transactions,
      Accounted payment (creditsOf promptedStart.rows payment.id) := by
    intro payment hpayment
    obtain rfl := List.mem_singleton.mp hpayment
    rw [Accounted, if_neg (by decide)]
    rfl
  have hcredits : ∀ id, creditsOf promptedStart.rows id ≠ [] →
      ∃ payment ∈ promptedStart.rows .transactions, payment.id = id :=
    fun id hid => absurd rfl hid
  exact ⟨by decide +kernel,
    (@credited_once_of_interleaving promptedStart hstart hcredits reconciledTwice).2⟩

end InfinityRadius.Services.ConcurrentCredits
