import InfinityRadius.Core.Runs
import InfinityRadius.Services.SubmittedOnce

/-!
# What a payout step changes

Whatever it sends, a step leaves the database alone, adds a withdrawal, issues a
code, or handles one withdrawal: it keeps its amount reserved, releases it, pays it
out or takes the payout back.
-/

namespace InfinityRadius.Services.PayoutService

open Amounts Database Payload Program Sql Models Integrations.SelcomBusiness

/-- The withdrawal `w` was rewritten as `w'`, and its amount moved as its status was. -/
inductive Handled (db db' : PlatformDb) (w w' : Withdrawal) : Prop
  | kept (hfrom : w.status.held = true) (hto : w'.status.held = true)
      (h : Effect db db' w w' id [])
  | released (hfrom : w.status.held = true) (hto : w'.status.closed = true)
      (h : Moved WalletService.released w db w' db' [])
  | disbursed {entry : LedgerEntry} (hfrom : w.status.held = true) (hto : w'.status = .success)
      (hentry : WalletService.IsDisbursement w.tenantId w.amount (some w.id) entry)
      (h : Moved WalletService.disbursed w db w' db' [entry])
  | returned {entry : LedgerEntry} (hfrom : w.status = .success) (hto : w'.status = .reversed)
      (hentry : WalletService.IsDisbursementReversal w.tenantId w.amount (some w.id) entry)
      (h : Moved WalletService.returned w db w' db' [entry])

/-- What an operation that returned changed. -/
inductive Change (runtime : Runtime) (operation : Operation) (world world' : PlatformWorld) :
    Prop
  | unchanged (h : world'.db = world.db)
  | requested {tenantId actorId destinationId : ℕ} {amount : Decimal}
      (hoperation : operation = .requestWithdrawal tenantId actorId destinationId amount)
      {w : Withdrawal} {wallet wallet' : TenantWallet}
      (h : RequestedAs runtime tenantId actorId amount world world' w wallet wallet')
  | reissued {tenantId actorId : ℕ} {w w' : Withdrawal} {code : String}
      (hoperation : operation = .resendOtp tenantId w.id actorId)
      (hw : w ∈ world.db.rows .withdrawals) (hdraft : w.status = .draft)
      (hissued : Issued runtime w w' code) (h : Db.Replaced .withdrawals w' world.db world'.db)
  | handled {w w' : Withdrawal} (hw : w ∈ world.db.rows .withdrawals)
      (hfrom : w.status ≠ .approved)
      (hreverses : w'.status = .reversed → operation.Reverses w)
      (hgranted : w'.status ∈ [.pendingApproval, .approved] →
        w'.status = w.status ∨ operation.Grants runtime w w'.status)
      (hunanswered : w'.status = .approved → Unanswered runtime.settings w world world')
      (h : Handled world.db world'.db w w')

variable {db db' middle : PlatformDb} {w w' submitted : Withdrawal}

theorem Handled.effect (h : Handled db db' w w') :
    ∃ wallets entries, Effect db db' w w' wallets entries := by
  cases h with
  | kept _ _ h => exact ⟨_, _, h⟩
  | released _ _ h =>
    obtain ⟨wallet, wallet', h⟩ := h
    exact ⟨_, _, h.effect⟩
  | disbursed _ _ _ h =>
    obtain ⟨wallet, wallet', h⟩ := h
    exact ⟨_, _, h.effect⟩
  | returned _ _ _ h =>
    obtain ⟨wallet, wallet', h⟩ := h
    exact ⟨_, _, h.effect⟩

/-- Only a successful withdrawal is reversed. -/
theorem Handled.success_of_reversed (h : Handled db db' w w') (hto : w'.status = .reversed) :
    w.status = .success := by
  cases h with
  | kept _ hheld _ =>
    rw [hto] at hheld
    cases hheld
  | released _ hclosed _ =>
    rw [hto] at hclosed
    cases hclosed
  | disbursed _ hsuccess _ _ =>
    rw [hto] at hsuccess
    cases hsuccess
  | returned hfrom _ _ _ => exact hfrom

/-- A withdrawal whose amount is reserved is not reversed. -/
theorem Handled.not_reversed (h : Handled db db' w w') (hheld : w.status.held = true) :
    w'.status ≠ .reversed := by
  intro hto
  rw [h.success_of_reversed hto] at hheld
  cases hheld

theorem not_mem_of_closed {status : WithdrawalStatus} (h : status.closed = true) :
    status ∉ [.pendingApproval, .approved] := by
  revert h
  cases status <;> decide

theorem not_mem_of_not_held {status : WithdrawalStatus} (h : status.held = false) :
    status ∉ [.pendingApproval, .approved] := by
  revert h
  cases status <;> decide

theorem not_mem_of_not_early {status : WithdrawalStatus} (h : status.early = false) :
    status ∉ [.pendingApproval, .approved] := by
  revert h
  cases status <;> decide

theorem held_of_pending {status : WithdrawalStatus} (h : status.pending = true) :
    status.held = true := by
  cases status <;> first | rfl | cases h

/-- A decision carried out on the withdrawal as it was submitted. -/
theorem Carried.handled {choice : Decision} (hheld : w.status.held = true)
    (heffect : Effect db middle w submitted id []) (hpending : submitted.status.pending = true)
    (h : Carried choice submitted middle w' db') : Handled db db' w w' := by
  have hsubmitted := held_of_pending hpending
  have hsame := heffect.same
  obtain ⟨-, h⟩ := h
  cases choice with
  | ignored =>
    obtain ⟨rfl, rfl⟩ := h
    exact .kept hheld hsubmitted heffect
  | keep => exact .kept hheld (h.1 ▸ hsubmitted) (heffect.trans h.2)
  | mismatched mismatch => exact .kept hheld (by rw [h.1]; rfl) (heffect.trans h.2)
  | ambiguous => exact .kept hheld (by rw [h.1]; rfl) (heffect.trans h.2)
  | complete =>
    obtain ⟨hstatus, entry, hentry, hmoved⟩ := h
    rw [hsame.tenantId, hsame.amount, hsame.id] at hentry
    exact .disbursed hheld hstatus hentry (hmoved.of_prior heffect)
  | fail => exact .released hheld (by rw [h.1]; rfl) (h.2.of_prior heffect)

theorem Settled.handled {process : HttpResult} {queries : List HttpResult}
    (hheld : w.status.held = true) (heffect : Effect db middle w submitted id [])
    (hpending : submitted.status.pending = true)
    (h : Settled submitted middle process queries w' db') : Handled db db' w w' := by
  unfold Settled at h
  split at h
  · exact h.2.handled hheld heffect hpending
  · obtain ⟨query, -, h⟩ := h
    split at h
    · exact h.handled hheld heffect hpending
    · obtain ⟨rfl, rfl⟩ := h
      exact .kept hheld (held_of_pending hpending) heffect
    · exact h.elim
  · exact h.2.handled hheld heffect hpending
  · exact h.elim

/-- The answer of a query changes an unresolved withdrawal only. -/
theorem Resolved.handled {query : HttpResult} (hw : w ∈ db.rows .withdrawals)
    (h : Resolved w db query w' db') :
    db' = db ∨ (w.status.pending = true ∧ Handled db db' w w') := by
  unfold Resolved at h
  split at h
  · rename_i response _
    by_cases hpending : w.status.pending = true
    · exact Or.inr ⟨hpending, h.handled (held_of_pending hpending) (.refl hw) hpending⟩
    · have hdecision : decision w (queryResult w response) = .ignored :=
        if_pos (Bool.eq_false_iff.mpr hpending)
      rw [hdecision] at h
      exact Or.inl h.2.2
  · exact Or.inl h.2

theorem Unsubmitted.handled {grants : Grants} (hheld : w.status.held = true)
    (h : Unsubmitted grants w db w' db') : Handled db db' w w' := by
  rcases h with ⟨hstatus, h⟩ | ⟨hstatus, -, h⟩ | ⟨hclosed, h⟩
  · exact .kept hheld (hstatus ▸ hheld) h
  · refine .kept hheld ?_ h
    revert hstatus
    cases w'.status <;> decide
  · exact .released hheld hclosed h

theorem Outcome.change {runtime : Runtime} {operation : Operation} {world world' : PlatformWorld}
    (h : Outcome runtime operation world world') : Change runtime operation world world' := by
  cases h with
  | requested hoperation h =>
    obtain ⟨w, wallet, wallet', h⟩ := h
    exact .requested hoperation h
  | reissued hoperation h =>
    obtain ⟨-, w, hw, rfl, hdraft, w', code, hissued, h⟩ := h
    exact .reissued hoperation hw hdraft hissued h
  | advanced h =>
    obtain ⟨w, hw, hstatus, w', h⟩ := h
    have hheld : w.status.held = true := by
      revert hstatus
      cases w.status <;> decide
    have hfrom : w.status ≠ .approved := by
      intro happroved
      rw [happroved] at hstatus
      simp at hstatus
    rcases h with ⟨-, h, hunanswered⟩ |
      ⟨-, submitted, middle, lookup, process, queries, hsent, hsettled⟩
    · have hhandled := h.handled hheld
      refine .handled hw hfrom (fun hto => absurd hto (hhandled.not_reversed hheld))
        (fun hto => ?_) hunanswered hhandled
      rcases h with ⟨hsame, -⟩ | ⟨-, hgranted, -⟩ | ⟨hclosed, -⟩
      · exact Or.inl hsame
      · exact Or.inr hgranted
      · exact absurd hto (not_mem_of_closed hclosed)
    · have hhandled := hsettled.handled hheld hsent.effect (by rw [hsent.status]; rfl)
      have hearly := (hsent.rewritten hw hsettled).2
      refine .handled hw hfrom (fun hto => absurd hto (hhandled.not_reversed hheld))
        (fun hto => absurd hto (not_mem_of_not_early hearly)) (fun hto => ?_) hhandled
      rw [hto] at hearly
      cases hearly
  | reversed hoperation h =>
    obtain ⟨-, w, hw, hreverses, w', entry, hreversed, hentry, h⟩ := h
    refine .handled hw (by rw [hreverses.status]; decide) (fun _ => ?_) (fun hto => ?_)
      (fun hto => ?_) (.returned hreverses.status hreversed hentry h)
    · rw [hoperation]
      exact hreverses
    · rw [hreversed] at hto
      simp at hto
    · rw [hreversed] at hto
      cases hto
  | reconciled h =>
    rcases h with rfl | ⟨w, hw, query, w', -, h⟩
    · exact .unchanged rfl
    · rcases h.handled hw with hsame | ⟨hpending, hhandled⟩
      · exact .unchanged hsame
      · have hearly := (h.rewritten hw).early (not_early_of_pending hpending)
        refine .handled hw (fun happroved => ?_)
          (fun hto => absurd hto (hhandled.not_reversed (held_of_pending hpending)))
          (fun hto => absurd hto (not_mem_of_not_early hearly)) (fun hto => ?_) hhandled
        · rw [happroved] at hpending
          cases hpending
        · rw [hto] at hearly
          cases hearly

/-- A verified callback handles the withdrawal, or finds it resolved. -/
theorem applyDisbursementResult_always {world : PlatformWorld} {withdrawalId : ℕ}
    {providerSucceeded : Bool} {providerReference : String} {detail : Option String} :
    Always (fun _ => false)
      (fun _ world' => (world'.db = world.db ∨
        ∃ w ∈ world.db.rows .withdrawals, w.status = .processing ∧
          ∃ w', w'.status.held = false ∧ Handled world.db world'.db w w') ∧
        world'.sent = world.sent)
      (fun _ world' => world'.sent = world.sent)
      (applyDisbursementResult withdrawalId providerSucceeded providerReference detail)
      world := by
  have haside : ∀ t : Table, (fun _ => false) t = true → t = .paymentWebhooks :=
    fun _ h => by cases h
  refine always_lockWithdrawal haside (fun w hw _ _ => ?_) rfl
  split
  · exact ⟨Or.inl rfl, rfl⟩
  rename_i hstatus
  have hprocessing : w.status = .processing := not_not.mp hstatus
  have hheld : w.status.held = true := by rw [hprocessing]; rfl
  split
  · refine always_bind.mpr (WalletService.always_completeDisbursement rfl rfl ?_
      fun _ _ _ => rfl)
    intro wallet hwallet htenant wallet' entry moved db hdisbursed hreplaced hentry hbalance
      happended
    have hmoved : w ∈ moved.rows .withdrawals := by
      rw [hreplaced.rows_of_ne (by decide)]
      exact hw
    have hentered : w ∈ db.rows .withdrawals := by
      rw [happended.rows_of_ne (by decide)]
      exact hmoved
    rw [toNumeric_ofNumeric] at hentry
    refine always_bind.mpr (always_now.mpr fun time => ?_)
    refine always_bind.mpr (always_updateWithdrawal rfl hentered (by constructor <;> rfl)
      (fun stamped _ hwritten => ?_) fun _ => rfl)
    have heffect := Effect.of_written w hwritten (by constructor <;> rfl) rfl rfl rfl rfl
    refine always_transition haside (heffect.mem hentered)
      (by dsimp only; rw [hprocessing]; decide) (.of_pending _ (by dsimp only; rw [hprocessing]; rfl))
      (fun final hfinal => ?_) fun _ _ _ => rfl
    have hpaid : Moved WalletService.disbursed w world.db w db [entry] :=
      ⟨wallet, wallet', hwallet, htenant, hdisbursed, by simpa using hbalance,
        (Effect.of_wallet hw hreplaced).trans (Effect.of_entry hmoved happended)⟩
    exact ⟨Or.inr ⟨w, hw, hprocessing, _, rfl, .disbursed hheld rfl hentry
      ((hpaid.trans heffect).trans hfinal)⟩, rfl⟩
  · refine always_failWithdrawal haside hw (by rw [hprocessing]; decide) ?_
      fun _ _ _ => rfl
    intro wallet hwallet htenant wallet' time db hreleased heffect
    exact ⟨Or.inr ⟨w, hw, hprocessing, _, rfl, .released hheld rfl
      ⟨wallet, wallet', hwallet, htenant, hreleased, by simp, heffect⟩⟩, rfl⟩

/-- What a committed step changed; one that raised changed nothing. -/
theorem Step.change (step : Step) (world : PlatformWorld) :
    (step.result world = .ok () ∧ Change step.runtime step.operation ⟨world.db, []⟩
      ⟨(step.next world).db, step.exchanges world.db⟩) ∨ (step.next world).db = world.db := by
  rcases step.next_outcome world with ⟨db, hnext, hresult, h⟩ | ⟨e, hnext, -, -⟩
  · rw [hnext]
    exact Or.inl ⟨hresult, h.change⟩
  · rw [hnext]
    exact Or.inr rfl

/-- Payouts leave the other tables alone. -/
theorem Step.others (step : Step) (world : PlatformWorld) {table : Table}
    (htable : table ∉ [.withdrawals, .withdrawalEvents, .tenantWallets, .ledgerEntries]) :
    (step.next world).db.rows table = world.db.rows table := by
  rcases step.change world with ⟨-, hchange⟩ | hsame
  · cases hchange with
    | unchanged h => exact congrArg (fun db : PlatformDb => db.rows table) h
    | requested _ h =>
      apply h.others
      intro hmem
      exact htable (by revert hmem; cases table <;> decide)
    | reissued _ _ _ _ h => exact h.rows_of_ne fun heq => htable (heq ▸ List.mem_cons_self)
    | handled _ _ _ _ _ h =>
      obtain ⟨wallets, entries, heffect⟩ := h.effect
      exact heffect.others table htable
  · rw [hsame]

/-! ## Steps of the service -/

/-- A request that reaches the service, or a change that leaves the tables it keeps
alone. -/
inductive PayoutStep (kept : List Table)
  | operation (step : Step)
  | disbursementResult (withdrawalId : ℕ) (providerSucceeded : Bool)
      (providerReference : String) (detail : Option String) (outside : Outside)
  | elsewhere (change : PlatformDb → PlatformDb)
      (h : ∀ db, ∀ t ∈ kept, (change db).rows t = db.rows t)

namespace PayoutStep

variable {kept : List Table}

def next : PayoutStep kept → PlatformWorld → PlatformWorld
  | operation step, world => step.next world
  | disbursementResult withdrawalId providerSucceeded providerReference detail outside, world =>
    (transact outside (applyDisbursementResult withdrawalId providerSucceeded providerReference
      detail) world).2
  | elsewhere change _, world => { world with db := change world.db }

/-- The requests the step sends from a database, with their answers. -/
def exchanges : PayoutStep kept → PlatformDb → List (Request × HttpResult)
  | operation step, db => step.exchanges db
  | disbursementResult withdrawalId providerSucceeded providerReference detail outside, db =>
    Sql.exchanges outside (applyDisbursementResult withdrawalId providerSucceeded
      providerReference detail) db
  | elsewhere _ _, _ => []

/-- What the step changed. -/
inductive Changed (step : PayoutStep kept) (world : PlatformWorld) : Prop
  | unchanged (h : ∀ t ∈ kept, (step.next world).db.rows t = world.db.rows t)
  | operated {own : Step} (hstep : step = .operation own) (hresult : own.result world = .ok ())
      (h : Change own.runtime own.operation ⟨world.db, []⟩
        ⟨(own.next world).db, own.exchanges world.db⟩)
  | resulted {w w' : Withdrawal} (hw : w ∈ world.db.rows .withdrawals)
      (hprocessing : w.status = .processing) (hto : w'.status.held = false)
      (h : Handled world.db (step.next world).db w w')

theorem changed (step : PayoutStep kept) (world : PlatformWorld) : step.Changed world := by
  cases step with
  | operation own =>
    rcases own.change world with ⟨hresult, h⟩ | h
    · exact .operated rfl hresult h
    · exact .unchanged fun t _ => congrFun (congrArg Db.rows h) t
  | disbursementResult withdrawalId providerSucceeded providerReference detail outside =>
    rcases transact_db outside applyDisbursementResult_always with ⟨-, h | h, -⟩ | h
    · exact .unchanged fun t _ => congrFun (congrArg Db.rows h) t
    · obtain ⟨w, hw, hprocessing, w', hto, h⟩ := h
      exact .resulted hw hprocessing hto h
    · exact .unchanged fun t _ => congrFun (congrArg Db.rows h) t
  | elsewhere change h => exact .unchanged fun t ht => h world.db t ht

/-! ## One withdrawal -/

/-- What became of a withdrawal in a step. -/
inductive Became (step : PayoutStep kept) (world : PlatformWorld) (w w' : Withdrawal) : Prop
  | same (h : w' = w)
  | reissued {own : Step} {tenantId actorId : ℕ} {code : String}
      (hstep : step = .operation own) (hresult : own.result world = .ok ())
      (hoperation : own.operation = .resendOtp tenantId w.id actorId)
      (hdraft : w.status = .draft) (hissued : Issued own.runtime w w' code)
  | handled (hfrom : w.status ≠ .approved)
      (hgranted : w'.status ∈ [.pendingApproval, .approved] → w'.status = w.status ∨
        ∃ own, step = .operation own ∧ own.operation.Grants own.runtime w w'.status)
      (hunanswered : w'.status = .approved → ∃ own, step = .operation own ∧
        Unanswered own.runtime.settings w ⟨world.db, []⟩
          ⟨(step.next world).db, own.exchanges world.db⟩)
      (h : Handled world.db (step.next world).db w w')

variable {step : PayoutStep kept} {world : PlatformWorld}

/-- The rows of the withdrawals after a step: nothing was written, one was added in
`DRAFT`, or one was rewritten. -/
theorem rows_cases (step : PayoutStep kept) (world : PlatformWorld)
    (hkept : Table.withdrawals ∈ kept) :
    (step.next world).db.rows .withdrawals = world.db.rows .withdrawals ∨
    (∃ own tenantId actorId destinationId amount w wallet wallet',
      step = .operation own ∧ own.result world = .ok () ∧
      own.operation = .requestWithdrawal tenantId actorId destinationId amount ∧
      RequestedAs own.runtime tenantId actorId amount ⟨world.db, []⟩
        ⟨(step.next world).db, own.exchanges world.db⟩ w wallet wallet') ∨
    ∃ w ∈ world.db.rows .withdrawals, ∃ w', w.SameRequest w' ∧ Became step world w w' ∧
      (step.next world).db.rows .withdrawals =
        replaceRow schema .withdrawals w' (world.db.rows .withdrawals) := by
  cases step.changed world with
  | unchanged h => exact Or.inl (h _ hkept)
  | operated hstep hresult h =>
    subst hstep
    cases h with
    | unchanged h => exact Or.inl (congrFun (congrArg Db.rows h) _)
    | requested hoperation h =>
      exact Or.inr (Or.inl ⟨_, _, _, _, _, _, _, _, rfl, hresult, hoperation, h⟩)
    | reissued hoperation hw hdraft hissued h =>
      exact Or.inr (Or.inr ⟨_, hw, _, hissued.same,
        .reissued rfl hresult hoperation hdraft hissued, h.rows_self⟩)
    | handled hw hfrom _ hgranted hunanswered h =>
      obtain ⟨wallets, entries, heffect⟩ := h.effect
      refine Or.inr (Or.inr ⟨_, hw, _, heffect.same, .handled hfrom (fun hto => ?_)
        (fun hto => ⟨_, rfl, hunanswered hto⟩) h, heffect.withdrawals⟩)
      exact (hgranted hto).imp_right fun hgranted => ⟨_, rfl, hgranted⟩
  | @resulted w w' hw hprocessing hto h =>
    obtain ⟨wallets, entries, heffect⟩ := h.effect
    refine Or.inr (Or.inr ⟨_, hw, _, heffect.same, .handled (by rw [hprocessing]; decide)
      (fun hearly => absurd hearly (not_mem_of_not_held hto)) (fun happroved => ?_) h,
      heffect.withdrawals⟩)
    rw [happroved] at hto
    cases hto

/-- Every withdrawal is still there after a step. -/
theorem became (step : PayoutStep kept) (hkept : Table.withdrawals ∈ kept) {w : Withdrawal}
    (hw : w ∈ world.db.rows .withdrawals) :
    ∃ w' ∈ (step.next world).db.rows .withdrawals, w.SameRequest w' ∧ Became step world w w' := by
  rcases step.rows_cases world hkept with h | ⟨_, _, _, _, _, _, _, _, -, -, -, h⟩ |
    ⟨v, hv, v', hsame, hbecame, h⟩
  · exact ⟨w, by rw [h]; exact hw, .refl w, .same rfl⟩
  · have hrows : (step.next world).db.rows .withdrawals = _ := h.withdrawals
    exact ⟨w, by rw [hrows]; exact List.mem_append_left _ hw, .refl w, .same rfl⟩
  · rw [h]
    by_cases hid : w.id = v.id
    · obtain rfl := world.db.id_injOn (t := .withdrawals) hw hv hid
      exact ⟨v', mem_replaceRow_self hw hsame.id.symm, hsame, hbecame⟩
    · exact ⟨w, mem_replaceRow_of_ne hw fun h => hid (h.trans hsame.id), .refl w, .same rfl⟩

/-- Every withdrawal after a step was there before it, or was requested in it. -/
theorem came (step : PayoutStep kept) (hkept : Table.withdrawals ∈ kept) {w' : Withdrawal}
    (hw' : w' ∈ (step.next world).db.rows .withdrawals) :
    (∃ w ∈ world.db.rows .withdrawals, w.SameRequest w' ∧ Became step world w w') ∨
    ∃ own tenantId actorId destinationId amount wallet wallet',
      step = .operation own ∧ own.result world = .ok () ∧
      own.operation = .requestWithdrawal tenantId actorId destinationId amount ∧
      RequestedAs own.runtime tenantId actorId amount ⟨world.db, []⟩
        ⟨(step.next world).db, own.exchanges world.db⟩ w' wallet wallet' := by
  rcases step.rows_cases world hkept with h | ⟨own, tenantId, actorId, destinationId, amount, w,
    wallet, wallet', hstep, hresult, hoperation, h⟩ | ⟨v, hv, v', hsame, hbecame, h⟩
  · exact Or.inl ⟨w', h ▸ hw', .refl w', .same rfl⟩
  · have hrows : (step.next world).db.rows .withdrawals = _ := h.withdrawals
    rw [hrows] at hw'
    rcases List.mem_append.mp hw' with hold | hnew
    · exact Or.inl ⟨w', hold, .refl w', .same rfl⟩
    · obtain rfl := List.mem_singleton.mp hnew
      exact Or.inr ⟨own, tenantId, actorId, destinationId, amount, wallet, wallet', hstep,
        hresult, hoperation, h⟩
  · rw [h] at hw'
    rcases mem_replaceRow hw' with rfl | ⟨hold, -⟩
    · exact Or.inl ⟨v, hv, hsame, hbecame⟩
    · exact Or.inl ⟨w', hold, .refl w', .same rfl⟩

end PayoutStep

/-- The world after a run. -/
def runPayouts {kept : List Table} (steps : List (PayoutStep kept)) (world : PlatformWorld) :
    PlatformWorld :=
  Runs.run PayoutStep.next steps world

end InfinityRadius.Services.PayoutService
