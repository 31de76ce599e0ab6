import InfinityRadius.Services.AccessRuns
import InfinityRadius.Services.OrderStatus

/-!
# What an order status may do

The answers to an order-status query, the statuses a payment can have and the listing of those
that are still waited for: a payment is credited for an answer that matches it only, and none that
is undecided is lost sight of.
-/

namespace InfinityRadius.Services

open Amounts Database Payload Program Sql Models Integrations.SelcomCollection

namespace SelcomPaymentProvider

/-! ## Where an answer leaves a payment -/

/-- The texts of an answer that are written can be stored. -/
def StorableAnswer (statusData : OrderStatusData) (resultcode : Option String) : Prop :=
  textsStorable [statusData.orderId, statusData.transid, statusData.reference, statusData.channel,
    statusData.currency, resultcode] = true

instance (statusData : OrderStatusData) (resultcode : Option String) :
    Decidable (StorableAnswer statusData resultcode) := inferInstanceAs (Decidable (_ = true))

/-- The run returns with the payment stored, and the property holds of it. -/
def Leaves (outside : Outside) (state : State schema Request HttpResult) (x : Tx Transaction)
    (property : Transaction → PlatformDb → Prop) : Prop :=
  ∃ t' final, run (exec outside) x state = (.ok t', final) ∧ t' ∈ final.db.rows .transactions ∧
    property t' final.db

section Leaves

variable {outside : Outside} {state : State schema Request HttpResult} {settings : Settings}
  {provider : SelcomPaymentProvider} {t : Transaction} {statusData : OrderStatusData}
  {resultcode : Option String} {property : Transaction → PlatformDb → Prop}

theorem storable_decimalText (amount : Decimal) : storable (decimalText amount) = true := by
  rw [decimalText]
  simp only [storable_append, storable_toString, Bool.and_true]
  split <;> decide

theorem storable_mismatch {reason : String} (hstorable : StorableAnswer statusData resultcode)
    (h : mismatchReason t statusData = some reason) : storable reason = true := by
  simp only [StorableAnswer, textsStorable, List.all_cons, List.all_nil, Bool.and_eq_true] at hstorable
  obtain ⟨horder, -, -, -, hcurrency, -⟩ := hstorable
  rw [mismatchReason] at h
  split_ifs at h with hid hamount hother
  · rw [← Option.some.inj h, storable_append, storable_getD horder (by decide)]
    decide
  · rw [← Option.some.inj h, storable_append, Bool.and_eq_true]
    refine ⟨by decide, ?_⟩
    cases statusData.amount with
    | none => decide
    | some amount => exact storable_decimalText amount
  · rw [← Option.some.inj h, storable_append, storable_getD hcurrency (by decide)]
    decide

/-- What a run always ends with, where it returns. -/
theorem leaves_of_always {x : Tx Transaction} {returns : Transaction → PlatformWorld → Prop}
    (h : Always (fun _ => false) returns (fun _ _ => True) x state.toWorld)
    (hsucceeds : Succeeds (exec outside) x state)
    (himp : ∀ (t' : Transaction) world', returns t' world' →
      t' ∈ world'.db.rows .transactions ∧ property t' world'.db) :
    Leaves outside state x property := by
  obtain ⟨t', hresult⟩ := hsucceeds
  have hrun := h.run outside
  rcases hran : run (exec outside) x state with ⟨result, final⟩
  rw [hran] at hresult hrun
  obtain rfl : result = .ok t' := hresult
  exact ⟨t', final, hran, himp t' final.toWorld hrun⟩

/-- The status an answer leaves a payment in that is undecided. -/
inductive Becomes (t : Transaction) (statusData : OrderStatusData) : CollectionStatus → Prop
  | completed (h : Matches t statusData) : Becomes t statusData .completed
  | mismatched (hcompleted : normalizedStatus statusData = "COMPLETED")
      (h : ¬Matches t statusData) : Becomes t statusData .ambiguous
  | unknown (hcompleted : normalizedStatus statusData ≠ "COMPLETED")
      (h : paymentStatusToCollectionStatus.lookup (normalizedStatus statusData) = none) :
      Becomes t statusData .ambiguous
  | closed {mapped : CollectionStatus} (hcompleted : normalizedStatus statusData ≠ "COMPLETED")
      (h : paymentStatusToCollectionStatus.lookup (normalizedStatus statusData) = some mapped)
      (hterminal : mapped ∉ nonTerminalMappedTargets) : Becomes t statusData mapped
  | waiting {status : CollectionStatus} (hcompleted : normalizedStatus statusData ≠ "COMPLETED")
      (h : Waiting (normalizedStatus statusData)) (hopen : status.terminal = false)
      (hreview : t.status = .requiresReview → status = .requiresReview) :
      Becomes t statusData status

/-- The payment is stored with such a status, and was credited if it is completed. -/
structure Applied (t : Transaction) (statusData : OrderStatusData) (world : PlatformWorld)
    (t' : Transaction) (world' : PlatformWorld) : Prop where
  stored : t' ∈ world'.db.rows .transactions
  becomes : Becomes t statusData t'.status
  credited : t'.status = .completed → Credited world.db world'.db t

variable {world : PlatformWorld}

/-- A payment with the status an answer leaves it in. -/
theorem always_becomes {toStatus : CollectionStatus} {metadata : List (Option String)}
    {extraColumns : Transaction → Transaction} (ht : t ∈ world.db.rows .transactions)
    (hset : t.SameOrder { extraColumns t with status := toStatus })
    (hbecomes : Becomes t statusData toStatus) (hne : toStatus ≠ .completed) :
    Always (fun _ => false) (Applied t statusData world) (fun _ _ => True)
      (transition t toStatus metadata extraColumns) world := by
  apply always_transition ht hset
  · exact fun db hreplaced => ⟨hreplaced.mem ht hset.id.symm, hbecomes, fun h => absurd h hne⟩
  · exact fun _ _ => trivial

theorem always_becomes_completed (hfinalises : provider.Finalises)
    (ht : t ∈ world.db.rows .transactions)
    (htype : t.transactionType = some provider.flow.transactionType)
    (hcompleted : normalizedStatus statusData = "COMPLETED") :
    Always (fun _ => false) (Applied t statusData world) (fun _ _ => True)
      (applyCompleted provider t statusData resultcode) world := by
  rw [applyCompleted]
  cases hreason : mismatchReason t statusData with
  | some reason =>
    have hunmatched : ¬Matches t statusData := by
      intro hmatches
      rw [(mismatchReason_eq_none hcompleted).mpr hmatches] at hreason
      cases hreason
    exact always_becomes ht (by constructor <;> rfl) (.mismatched hcompleted hunmatched)
      (by decide)
  | none =>
    have hmatches := (mismatchReason_eq_none hcompleted).mp hreason
    apply always_bind.mpr
    apply (hfinalises t statusData world ht htype).mono
    · rintro finalised middle ⟨hfinalised, -⟩
      have hmem : finalised ∈ middle.db.rows .transactions := by
        rw [hfinalised.transactions]
        exact mem_replaceRow_self ht hfinalised.sameOrder.id.symm
      apply always_bind.mpr
      apply always_now.mpr
      intro time
      apply always_transition hmem
      · constructor <;> rfl
      · intro db hreplaced
        refine ⟨hreplaced.mem hmem rfl, .completed hmatches, fun _ => ?_⟩
        apply hfinalised.credited.congr (fun _ _ => rfl)
        intro table htable
        apply hreplaced.rows_of_ne
        rintro rfl
        exact absurd htable (by decide)
      · exact fun _ _ => trivial
    · exact fun _ _ _ => trivial

theorem waiting_of_lookup {paymentStatus : String} {mapped : CollectionStatus}
    (hlookup : paymentStatusToCollectionStatus.lookup paymentStatus = some mapped)
    (hmapped : mapped ∈ nonTerminalMappedTargets) : Waiting paymentStatus := by
  rw [Waiting, hlookup, Option.any_some, List.contains_iff_mem]
  exact hmapped

theorem open_of_mem {mapped : CollectionStatus} (h : mapped ∈ nonTerminalMappedTargets) :
    mapped.terminal = false := by
  revert h
  cases mapped <;> decide

theorem always_becomes_mapped (ht : t ∈ world.db.rows .transactions)
    (hundecided : t.status.terminal = false)
    (hcompleted : normalizedStatus statusData ≠ "COMPLETED") :
    Always (fun _ => false) (Applied t statusData world) (fun _ _ => True)
      (applyMapped settings t statusData (normalizedStatus statusData) resultcode) world := by
  rw [applyMapped]
  split
  · rename_i hlookup
    exact always_becomes ht (by constructor <;> rfl) (.unknown hcompleted hlookup) (by decide)
  · rename_i mapped hlookup
    have hne := mapped_ne_completed hlookup
    split
    · rename_i hterminal
      apply always_bind.mpr
      apply always_now.mpr
      intro time
      exact always_becomes ht (by constructor <;> rfl) (.closed hcompleted hlookup hterminal) hne
    · rename_i hmapped
      have hmapped := not_not.mp hmapped
      have hwaiting := waiting_of_lookup hlookup hmapped
      split
      · refine ⟨ht, .waiting hcompleted hwaiting hundecided id, fun h => ?_⟩
        rw [h] at hundecided
        cases hundecided
      · rename_i hreview
        apply always_bind.mpr
        apply always_isStalePending
        intro stale
        split
        · exact always_becomes ht (by constructor <;> rfl)
            (.waiting hcompleted hwaiting rfl fun _ => rfl) (by decide)
        · exact always_becomes ht (by constructor <;> rfl)
            (.waiting hcompleted hwaiting (open_of_mem hmapped) fun h => absurd h hreview) hne

theorem always_applyOrderStatus_becomes (hfinalises : provider.Finalises)
    (ht : t ∈ world.db.rows .transactions)
    (htype : t.transactionType = some provider.flow.transactionType)
    (hundecided : t.status.terminal = false) :
    Always (fun _ => false) (Applied t statusData world) (fun _ _ => True)
      (applyOrderStatus settings provider t statusData resultcode) world := by
  rw [applyOrderStatus, Prog.require_true htype, Prog.pure_bind,
    if_neg (Bool.eq_false_iff.mp hundecided)]
  split
  · rename_i hcompleted
    exact always_becomes_completed hfinalises ht htype hcompleted
  · rename_i hcompleted
    exact always_becomes_mapped ht hundecided hcompleted

/-- An answer whose texts can be stored is applied, unless it matches a payment that cannot be
credited. -/
theorem succeeds_of_storable (hfinalises : provider.Finalises)
    (ht : t ∈ state.db.rows .transactions)
    (htype : t.transactionType = some provider.flow.transactionType)
    (hstorable : StorableAnswer statusData resultcode)
    (hcredit : Matches t statusData →
      Succeeds (exec outside) (provider.finalizePayment t statusData) state) :
    Succeeds (exec outside) (applyOrderStatus settings provider t statusData resultcode) state := by
  apply (succeeds_applyOrderStatus hfinalises ht).mpr
  constructor
  · exact htype
  · exact fun _ _ reason hreason => storable_mismatch hstorable hreason
  · intro _ hcompleted hreason
    refine ⟨?_, hcredit ((mismatchReason_eq_none hcompleted).mp hreason)⟩
    simp only [StorableAnswer, textsStorable, List.all_cons, List.all_nil, Bool.and_eq_true]
      at hstorable ⊢
    tauto
  · rintro _ _
    simp only [StorableAnswer, textsStorable, List.all_cons, List.all_nil, Bool.and_eq_true]
      at hstorable
    tauto

end Leaves

/-! ## Sound answers -/

section Sound

variable {outside : Outside} {state : State schema Request HttpResult} {settings : Settings}
  {provider : SelcomPaymentProvider} {t : Transaction} {statusData : OrderStatusData}
  {resultcode : Option String}

/-- What an answer does about a payment that is undecided. -/
structure Sound (outside : Outside) (state : State schema Request HttpResult) (settings : Settings)
    (provider : SelcomPaymentProvider) (t : Transaction) (statusData : OrderStatusData)
    (resultcode : Option String) : Prop where
  /-- Nothing is credited or completed for an answer that does not match. -/
  uncredited : ¬Matches t statusData →
    (∀ table ∈ moneyTables, (run (exec outside)
      (applyOrderStatus settings provider t statusData resultcode) state).2.db.rows table =
        state.db.rows table) ∧
    ¬Leaves outside state (applyOrderStatus settings provider t statusData resultcode)
      fun t' _ => t'.status = .completed
  /-- An answer that says so without a match, or something unknown, is ambiguous. -/
  ambiguous : (normalizedStatus statusData = "COMPLETED" ∧ ¬Matches t statusData) ∨
      (normalizedStatus statusData ≠ "COMPLETED" ∧
        paymentStatusToCollectionStatus.lookup (normalizedStatus statusData) = none) →
    Leaves outside state (applyOrderStatus settings provider t statusData resultcode)
      fun t' _ => t'.status = .ambiguous
  /-- A match completes what can be credited, and what cannot is rolled back. -/
  completed : Matches t statusData →
    (Succeeds (exec outside) (provider.finalizePayment t statusData) state →
      Leaves outside state (applyOrderStatus settings provider t statusData resultcode)
        fun t' db' => t'.status = .completed ∧ Credited state.db db' t) ∧
    (¬Succeeds (exec outside) (provider.finalizePayment t statusData) state →
      ¬Succeeds (exec outside) (applyOrderStatus settings provider t statusData resultcode) state)
  /-- A failure closes the payment. -/
  closed : ∀ mapped,
    paymentStatusToCollectionStatus.lookup (normalizedStatus statusData) = some mapped →
    mapped ∉ nonTerminalMappedTargets →
      Leaves outside state (applyOrderStatus settings provider t statusData resultcode)
        fun t' _ => t'.status = mapped ∧ t'.status.terminal = true
  /-- A payment that is waited for stays open, and flagged where it was. -/
  waiting : Waiting (normalizedStatus statusData) →
    Leaves outside state (applyOrderStatus settings provider t statusData resultcode)
      fun t' _ => t'.status.terminal = false ∧
        (t.status = .requiresReview → t'.status = .requiresReview)

theorem ne_completed_of_lookup {paymentStatus : String} {mapped : CollectionStatus}
    (h : paymentStatusToCollectionStatus.lookup paymentStatus = some mapped) :
    paymentStatus ≠ "COMPLETED" := by
  rintro rfl
  exact absurd h (by decide +revert)

theorem Waiting.ne_completed {paymentStatus : String} (h : Waiting paymentStatus) :
    paymentStatus ≠ "COMPLETED" := by
  rintro rfl
  exact absurd h (by decide)

theorem terminal_of_lookup {paymentStatus : String} {mapped : CollectionStatus}
    (h : paymentStatusToCollectionStatus.lookup paymentStatus = some mapped)
    (hterminal : mapped ∉ nonTerminalMappedTargets) : mapped.terminal = true := by
  have hall : ∀ entry ∈ paymentStatusToCollectionStatus,
      entry.2 ∉ nonTerminalMappedTargets → entry.2.terminal = true := by decide
  obtain ⟨before, after, heq, -⟩ := List.lookup_eq_some_iff.mp h
  apply hall (paymentStatus, mapped)
  · rw [heq]
    exact List.mem_append_right _ List.mem_cons_self
  · exact hterminal

section Becomes

variable {status : CollectionStatus}

theorem Becomes.matches (h : Becomes t statusData status) (hstatus : status = .completed) :
    Matches t statusData := by
  cases h with
  | completed h => exact h
  | mismatched _ _ => cases hstatus
  | unknown _ _ => cases hstatus
  | closed _ h _ => exact absurd hstatus (mapped_ne_completed h)
  | waiting _ _ hopen _ =>
    rw [hstatus] at hopen
    cases hopen

theorem Becomes.eq_completed (h : Becomes t statusData status) (hmatches : Matches t statusData) :
    status = .completed := by
  cases h with
  | completed _ => rfl
  | mismatched _ h => exact absurd hmatches h
  | unknown hcompleted _ => exact absurd hmatches.completed hcompleted
  | closed hcompleted _ _ => exact absurd hmatches.completed hcompleted
  | waiting hcompleted _ _ _ => exact absurd hmatches.completed hcompleted

theorem Becomes.eq_ambiguous (h : Becomes t statusData status) (hunmatched : ¬Matches t statusData)
    (hanswer : normalizedStatus statusData = "COMPLETED" ∨
      paymentStatusToCollectionStatus.lookup (normalizedStatus statusData) = none) :
    status = .ambiguous := by
  cases h with
  | completed h => exact absurd h hunmatched
  | mismatched _ _ => rfl
  | unknown _ _ => rfl
  | closed hcompleted h _ =>
    rw [hanswer.resolve_left hcompleted] at h
    cases h
  | waiting hcompleted h _ _ =>
    rw [Waiting, hanswer.resolve_left hcompleted] at h
    cases h

theorem Becomes.eq_closed {mapped : CollectionStatus} (h : Becomes t statusData status)
    (hlookup : paymentStatusToCollectionStatus.lookup (normalizedStatus statusData) = some mapped)
    (hterminal : mapped ∉ nonTerminalMappedTargets) : status = mapped := by
  have hcompleted := ne_completed_of_lookup hlookup
  cases h with
  | completed h => exact absurd h.completed hcompleted
  | mismatched h _ => exact absurd h hcompleted
  | unknown _ h =>
    rw [hlookup] at h
    cases h
  | closed _ h _ => exact Option.some.inj (h.symm.trans hlookup)
  | waiting _ h _ _ =>
    rw [Waiting, hlookup, Option.any_some, List.contains_iff_mem] at h
    exact absurd h hterminal

theorem Becomes.still (h : Becomes t statusData status)
    (hwaiting : Waiting (normalizedStatus statusData)) :
    status.terminal = false ∧ (t.status = .requiresReview → status = .requiresReview) := by
  have hcompleted := hwaiting.ne_completed
  cases h with
  | completed h => exact absurd h.completed hcompleted
  | mismatched h _ => exact absurd h hcompleted
  | unknown _ h =>
    rw [Waiting, h] at hwaiting
    cases hwaiting
  | closed _ h hterminal =>
    rw [Waiting, h, Option.any_some, List.contains_iff_mem] at hwaiting
    exact absurd hwaiting hterminal
  | waiting _ _ hopen hreview => exact ⟨hopen, hreview⟩

end Becomes

theorem sound (hfinalises : provider.Finalises) (ht : t ∈ state.db.rows .transactions)
    (htype : t.transactionType = some provider.flow.transactionType)
    (hundecided : t.status.terminal = false) (hstorable : StorableAnswer statusData resultcode) :
    Sound outside state settings provider t statusData resultcode := by
  have halways : Always (fun _ => false) (Applied t statusData state.toWorld) (fun _ _ => True)
      (applyOrderStatus settings provider t statusData resultcode) state.toWorld :=
    always_applyOrderStatus_becomes hfinalises ht htype hundecided
  have hunmatched : ¬Matches t statusData → Succeeds (exec outside)
      (applyOrderStatus settings provider t statusData resultcode) state := fun h =>
    succeeds_of_storable hfinalises ht htype hstorable fun hmatches => absurd hmatches h
  constructor
  · intro hmatches
    constructor
    · intro table htable
      apply run_rows_of_avoids
      apply avoids_applyOrderStatus _ hmatches
      rintro rfl
      exact absurd htable (by decide)
    · rintro ⟨t', final, hrun, -, hcompleted⟩
      have happlied := halways.run outside
      rw [hrun] at happlied
      exact hmatches (happlied.becomes.matches hcompleted)
  · intro hanswer
    have hmatches : ¬Matches t statusData := by
      rcases hanswer with ⟨-, h⟩ | ⟨hcompleted, -⟩
      · exact h
      · exact fun h => hcompleted h.completed
    apply leaves_of_always halways (hunmatched hmatches)
    intro t' world' happlied
    exact ⟨happlied.stored, happlied.becomes.eq_ambiguous hmatches
      (hanswer.imp And.left And.right)⟩
  · intro hmatches
    constructor
    · intro hcredit
      apply leaves_of_always halways
      · exact succeeds_of_storable hfinalises ht htype hstorable fun _ => hcredit
      · intro t' world' happlied
        have hcompleted := happlied.becomes.eq_completed hmatches
        exact ⟨happlied.stored, hcompleted, happlied.credited hcompleted⟩
    · intro hcredit hsucceeds
      have happlicable := (succeeds_applyOrderStatus hfinalises ht).mp hsucceeds
      apply hcredit
      exact (happlicable.matched hundecided hmatches.completed
        ((mismatchReason_eq_none hmatches.completed).mpr hmatches)).2
  · intro mapped hlookup hterminal
    apply leaves_of_always halways
    · exact hunmatched fun h => ne_completed_of_lookup hlookup h.completed
    · intro t' world' happlied
      have hstatus := happlied.becomes.eq_closed hlookup hterminal
      exact ⟨happlied.stored, hstatus, hstatus ▸ terminal_of_lookup hlookup hterminal⟩
  · intro hwaiting
    apply leaves_of_always halways
    · exact hunmatched fun h => hwaiting.ne_completed h.completed
    · exact fun t' world' happlied => ⟨happlied.stored, happlied.becomes.still hwaiting⟩

end Sound

/-! ## Payments that are waited for -/

/-- The payment is one of those a sweep asks for. -/
def Listed (outside : Outside) (state : State schema Request HttpResult)
    (provider : SelcomPaymentProvider) (t : Transaction) : Prop :=
  ∃ rows, run (exec outside) (listReconcilable provider) state = (.ok rows, state) ∧ t ∈ rows

theorem listed {outside : Outside} {state : State schema Request HttpResult}
    {provider : SelcomPaymentProvider} {t : Transaction} (ht : t ∈ state.db.rows .transactions)
    (hprovider : t.paymentProvider = some provider.flow.paymentProvider)
    (hundecided : t.status.terminal = false) : Listed outside state provider t := by
  refine ⟨_, rfl, List.mem_filter.mpr ⟨ht, ?_⟩⟩
  rw [hprovider, hundecided]
  exact Bool.and_eq_true_iff.mpr ⟨beq_self_eq_true _, rfl⟩

end SelcomPaymentProvider

/-! ## Runs -/

/-- The payment is of one of the two flows, and Selcom settles it. -/
def Owned (t : Transaction) : Prop :=
  t.paymentProvider = some .selcomCollection ∧ t.transactionType ≠ none

theorem Owned.sameOrder {t t' : Transaction} (h : Owned t) (horder : t.SameOrder t') : Owned t' := by
  rw [Owned, horder.paymentProvider, horder.transactionType]
  exact h

theorem Worked.owned {db db' : PlatformDb} (h : Worked db db')
    (hdb : ∀ t ∈ db.rows .transactions, Owned t) : ∀ t ∈ db'.rows .transactions, Owned t := by
  intro t' ht'
  rcases h.origin ht' with ⟨t, ht, horder⟩ | ⟨_, _, _, _, _, hstarted⟩ | ⟨_, _, hstarted⟩
  · exact (hdb t ht).sameOrder horder
  · exact ⟨hstarted.paymentProvider, by rw [hstarted.transactionType]; exact nofun⟩
  · exact ⟨hstarted.paymentProvider, by rw [hstarted.transactionType]; exact nofun⟩

theorem AccessStep.owned (step : AccessStep) (state : AccessState)
    (hstate : ∀ t ∈ state.world.db.rows .transactions, Owned t) :
    ∀ t ∈ (step.next state).world.db.rows .transactions, Owned t := by
  cases step with
  | payment work runtime outside => exact (works runtime outside state.world work).1.owned hstate
  | activation runtime transactionId first second landed =>
    intro t' ht'
    have heffect := CaptivePortalActivationService.activated runtime transactionId first second
      landed state.radius state.world
    obtain ⟨t, ht, horder⟩ := heffect.origin ht'
    exact (hstate t ht).sameOrder horder

section Runs

variable {start : AccessState} {state : State schema Request HttpResult} {t : Transaction}
  {statusData : OrderStatusData} {resultcode : Option String}

/-- After every run every undecided payment is listed for its next query, and whatever the query
answers is sound. -/
theorem crediting_sound (steps : List AccessStep) (outside : Outside) (settings : Settings)
    (hstart : ∀ t ∈ start.world.db.rows .transactions, Owned t)
    (hstate : state.db = (Runs.run AccessStep.next steps start).world.db)
    (ht : t ∈ state.db.rows .transactions) (hundecided : t.status.terminal = false)
    (hstorable : SelcomPaymentProvider.StorableAnswer statusData resultcode) :
    (∀ lister, SelcomPaymentProvider.Listed outside state (providerOf lister) t) ∧
    ∃ service, t.transactionType = some service ∧
      SelcomPaymentProvider.Sound outside state settings (providerOf service) t statusData
        resultcode := by
  have howned : Owned t := by
    refine @Runs.run_kept _ _ AccessStep.next _
      (fun state : AccessState => ∀ t ∈ state.world.db.rows .transactions, Owned t)
      AccessStep.owned steps hstart t ?_
    rw [← hstate]
    exact ht
  constructor
  · rintro (_ | _)
    · exact SelcomPaymentProvider.listed ht howned.1 hundecided
    · exact SelcomPaymentProvider.listed ht howned.1 hundecided
  · obtain ⟨service, htype⟩ := Option.ne_none_iff_exists'.mp howned.2
    refine ⟨service, htype, ?_⟩
    apply SelcomPaymentProvider.sound (allFinalise service).own ht _ hundecided hstorable
    cases service <;> exact htype

end Runs

/-! ## A tenant without commercial terms -/

/-- What is reported of the payment of `promptedDb`. -/
def promptedStatus (paymentStatus : String) : OrderStatusData :=
  { orderId := some "cap-1", creationDate := none, amount := some 1000,
    paymentStatus := some paymentStatus, transid := some "DIK1X2R6BW", channel := some "MPESA",
    reference := none, phone := none, currency := some "TZS" }

def promptedState : State schema Request HttpResult := ⟨⟨SelcomPaymentProvider.promptedDb, []⟩, 0⟩

/-- A pending payment that is asked for again. -/
theorem crediting_sound_prompted :
    (∀ lister, SelcomPaymentProvider.Listed (PayoutService.answering []) promptedState
      (providerOf lister) SelcomPaymentProvider.promptedPayment) ∧
    ∃ service, SelcomPaymentProvider.promptedPayment.transactionType = some service ∧
      SelcomPaymentProvider.Sound (PayoutService.answering []) promptedState portalRuntime.settings
        (providerOf service) SelcomPaymentProvider.promptedPayment (promptedStatus "COMPLETED")
        (some "000") := by
  apply @crediting_sound ⟨⟨SelcomPaymentProvider.promptedDb, []⟩, ⟨[], [], [], []⟩⟩ _ _ _ _
    [] (PayoutService.answering []) portalRuntime.settings
  · intro t ht
    rw [List.mem_singleton.mp ht]
    exact ⟨rfl, nofun⟩
  · rfl
  · exact List.mem_cons_self
  · rfl
  · decide

/-- An answer that matches completes nothing where the tenant has no commercial terms. -/
theorem not_completed_without_terms :
    SelcomPaymentProvider.Matches SelcomPaymentProvider.promptedPayment
        (promptedStatus "COMPLETED") ∧
      ¬SelcomPaymentProvider.Leaves (PayoutService.answering []) promptedState
        (SelcomPaymentProvider.applyOrderStatus portalRuntime.settings
          CaptivePortalService.provider SelcomPaymentProvider.promptedPayment
          (promptedStatus "COMPLETED") (some "000"))
        fun t' _ => t'.status = .completed := by
  have hmatches : SelcomPaymentProvider.Matches SelcomPaymentProvider.promptedPayment
      (promptedStatus "COMPLETED") := by
    constructor
    · rw [SelcomPaymentProvider.normalizedStatus, strip]
      decide
    · exact fun _ => rfl
    · decide +kernel
    · exact fun _ => rfl
  use hmatches
  rintro ⟨t', final, hrun, -⟩
  have hsound := @SelcomPaymentProvider.sound (PayoutService.answering []) promptedState
    portalRuntime.settings CaptivePortalService.provider _ (promptedStatus "COMPLETED")
    (some "000") CaptivePortalService.finalises List.mem_cons_self rfl rfl (by decide)
  apply (hsound.completed hmatches).2
  · rintro ⟨credited, hcredited⟩
    have hrefused : (run (exec (PayoutService.answering []))
        (CaptivePortalService.provider.finalizePayment SelcomPaymentProvider.promptedPayment
          (promptedStatus "COMPLETED")) promptedState).1.isOk = false := by
      decide +kernel
    rw [hcredited] at hrefused
    cases hrefused
  · exact ⟨t', by rw [hrun]⟩

end InfinityRadius.Services
