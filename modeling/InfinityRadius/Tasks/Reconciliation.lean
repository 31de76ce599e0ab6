import InfinityRadius.Core.OrmSession
import InfinityRadius.Core.Program
import InfinityRadius.Services.TwoFactor

/-!
# Reconciliation sweeps

`tasks/reconciliation.py` and `tasks/collections.py`: the worker lists what is pending in
a session of its own, asks the web process about each row, and writes one audit entry.
-/

namespace InfinityRadius.Tasks

open Database Program Models Services

/-! ## The worker's session -/

/-- `withdrawal_processing_alert_minutes` and the two settings beside it. -/
structure AlertSettings where
  processingAlertMinutes : ℤ
  ambiguousAlertMinutes : ℤ
  staleAlertCooldownMinutes : ℤ

/-- What `maybe_alert_stale` meets for one withdrawal.  `lastAlertAt` is nothing where the
query raises, `emailSent` where the tenant lookup, the email or the audit row raises. -/
structure AlertAnswers where
  now : Timestamp
  lastAlertAt : Option (Option Timestamp)
  nowAfter : Timestamp
  emailSent : Option Bool

/-- Everything outside the worker.  `reconcile` is the status the web process reports for
a row, nothing where the call raises. -/
structure WorkerEnv where
  internalWebConfigured : Bool
  reconcile : ℕ → Option String
  alert : ℕ → AlertAnswers

/-- The metadata of the audit entry. -/
structure SweptEntry where
  action : String
  scanned : ℕ
  resolved : ℕ
  stillPending : ℕ
  failed : ℕ
  alerted : Option ℕ
  error : Option String := none
deriving DecidableEq

/-- The local variables of a sweep. -/
structure Counts where
  scanned : ℕ := 0
  resolved : ℕ := 0
  stillPending : ℕ := 0
  failed : ℕ := 0
  alerted : ℕ := 0

/-- `attempted` lists the rows the web process was asked about. -/
structure WorkerState (Row : Type) where
  session : Orm.Session ℕ Row SweptEntry
  counts : Counts
  attempted : List ℕ

inductive Action (Row : Type) : Type
  | list (p : Row → Bool)
  | query
  | attributes (id : ℕ)
  | write (entry : SweptEntry)
  | commit
  | rollback
  | count (update : Counts → Counts)
  | readCounts
  | internalWebConfigured
  | reconcile (id : ℕ)
  | alertAnswers (id : ℕ)

abbrev ActionReply {Row : Type} : Action Row → Type
  | .list _ => List ℕ
  | .attributes _ => Option Row
  | .readCounts => Counts
  | .internalWebConfigured => Bool
  | .reconcile _ => Option String
  | .alertAnswers _ => AlertAnswers
  | _ => Unit

/-- `MissingGreenlet` is what SQLAlchemy raises where an expired attribute is read outside
an awaited call. -/
inductive WorkerFailure
  | missingGreenlet
  | internalWeb
  | alert
deriving DecidableEq

abbrev Worker (Row α : Type) := Prog (Action Row) ActionReply WorkerFailure α

section Semantics

variable {Row : Type} (key : Row → ℕ) (table : List Row) (env : WorkerEnv)

def perform : (a : Action Row) → WorkerState Row → ActionReply a × WorkerState Row
  | .list p, state =>
    let rows := table.filter p
    (rows.map key, { state with
      session := state.session.load fun id => rows.find? fun row => key row == id })
  | .query, state => ((), { state with session := state.session.query })
  | .attributes id, state => (state.session.attributes id, state)
  | .write entry, state => ((), { state with session := state.session.add entry })
  | .commit, state => ((), { state with session := state.session.commit })
  | .rollback, state => ((), { state with session := state.session.rollback })
  | .count update, state => ((), { state with counts := update state.counts })
  | .readCounts, state => (state.counts, state)
  | .internalWebConfigured, state => (env.internalWebConfigured, state)
  | .reconcile id, state =>
    (env.reconcile id, { state with attempted := state.attempted ++ [id] })
  | .alertAnswers id, state => (env.alert id, state)

end Semantics

/-! ## The sweeps -/

section Sweep

variable {Row : Type}

def act (a : Action Row) : Worker Row (ActionReply a) := Prog.issue a

/-- An attribute of a listed object. -/
def readAttribute {α : Type} (id : ℕ) (f : Row → α) : Worker Row α := do
  let loaded ← act (.attributes id)
  let row ← Prog.orRaise loaded .missingGreenlet
  pure (f row)

/-- The `try` block of the loop.  `afterSame` is what follows where the status is the old
one. -/
def attemptRow (statusBefore : String) (afterSame : ℕ → Worker Row Unit) (id : ℕ) :
    Worker Row Unit := do
  let answer ← act (.reconcile id)
  let reported ← Prog.orRaise answer .internalWeb
  if reported ≠ statusBefore then
    act (.count fun counts => { counts with resolved := counts.resolved + 1 })
  else do
    act (.count fun counts => { counts with stillPending := counts.stillPending + 1 })
    afterSame id
  act .commit

/-- Its `except` block. -/
def rowFailed (id : ℕ) : Worker Row Unit := do
  act .rollback
  act (.count fun counts => { counts with failed := counts.failed + 1 })
  -- the warning names the row, whose key is an attribute like any other
  readAttribute id fun _ => ()

def sweepRow (status : Row → String) (afterSame : ℕ → Worker Row Unit) (id : ℕ) :
    Worker Row Unit := do
  let statusBefore ← readAttribute id status
  tryCatch (attemptRow statusBefore afterSame id) fun _ => rowFailed id

def sweepRows (status : Row → String) (afterSame : ℕ → Worker Row Unit) :
    List ℕ → Worker Row Unit
  | [] => pure ()
  | id :: rest => do
    sweepRow status afterSame id
    sweepRows status afterSame rest

/-- What the two sweeps share; `entry` is the audit entry made of the counts. -/
def sweep (pending : Row → Bool) (status : Row → String) (afterSame : ℕ → Worker Row Unit)
    (entry : Counts → Option String → SweptEntry) : Worker Row ℕ := do
  let ids ← act (.list pending)
  let scanned := ids.length
  act (.count fun counts => { counts with scanned })
  let configured ← act .internalWebConfigured
  if configured then do
    sweepRows status afterSame ids
    let counts ← act .readCounts
    act (.write (entry counts none))
    act .commit
    pure scanned
  else do
    act (.count fun counts => { counts with failed := scanned })
    let counts ← act .readCounts
    act (.write (entry counts (some "internal_web_not_configured")))
    act .commit
    pure scanned

end Sweep

def microsPerMinute : ℤ := 60 * microsPerSecond

/-- The age in minutes from which a withdrawal is stale. -/
def alertThreshold (settings : AlertSettings) : WithdrawalStatus → Option ℤ
  | .processing => some settings.processingAlertMinutes
  | .ambiguous => some settings.ambiguousAlertMinutes
  | _ => none

def recentlyAlerted (settings : AlertSettings) (answers : AlertAnswers)
    (lastAlertAt : Option Timestamp) : Bool :=
  lastAlertAt.any fun time =>
    decide (answers.nowAfter - time < settings.staleAlertCooldownMinutes * microsPerMinute)

/-- The second half of `PayoutService.maybe_alert_stale`. -/
def alertOnce (settings : AlertSettings) (answers : AlertAnswers) : Worker Withdrawal Bool := do
  act .query
  let lastAlertAt ← Prog.orRaise answers.lastAlertAt .alert
  if recentlyAlerted settings answers lastAlertAt then pure false
  else Prog.orRaise answers.emailSent .alert

/-- `PayoutService.maybe_alert_stale`. -/
def maybeAlertStale (settings : AlertSettings) (id : ℕ) : Worker Withdrawal Bool := do
  let status ← readAttribute id Withdrawal.status
  match alertThreshold settings status with
  | none => pure false
  | some thresholdMinutes => do
    let referenceTime ← readAttribute id fun w => w.submittedAt.getD w.createdAt
    let answers ← act (.alertAnswers id)
    if answers.now - referenceTime < thresholdMinutes * microsPerMinute then pure false
    else alertOnce settings answers

/-- What `_reconcile_pending_withdrawals` does where the status is the old one. -/
def alertIfStale (settings : AlertSettings) (id : ℕ) : Worker Withdrawal Unit := do
  let alerted ← maybeAlertStale settings id
  if alerted then act (.count fun counts => { counts with alerted := counts.alerted + 1 })
  else pure ()

/-- `list_reconcilable_withdrawals`. -/
def reconcilableWithdrawal (w : Withdrawal) : Bool := w.status.pending

/-- `list_reconcilable` of the provider. -/
def reconcilableCollection (t : Transaction) : Bool :=
  t.paymentProvider == some .selcomCollection && !t.status.terminal

def withdrawalEntry (counts : Counts) (error : Option String) : SweptEntry where
  action := "withdrawal.reconciliation_swept"
  scanned := counts.scanned
  resolved := counts.resolved
  stillPending := counts.stillPending
  failed := counts.failed
  alerted := some counts.alerted
  error

def collectionEntry (counts : Counts) (error : Option String) : SweptEntry where
  action := "collection.reconciliation_swept"
  scanned := counts.scanned
  resolved := counts.resolved
  stillPending := counts.stillPending
  failed := counts.failed
  alerted := none
  error

/-- `_reconcile_pending_withdrawals`. -/
def reconcilePendingWithdrawals (settings : AlertSettings) : Worker Withdrawal ℕ :=
  sweep reconcilableWithdrawal (fun w => w.status.value) (alertIfStale settings) withdrawalEntry

/-- `_reconcile_pending_collections`. -/
def reconcilePendingCollections : Worker Transaction ℕ :=
  sweep reconcilableCollection (fun t => t.status.value) (fun _ => pure ()) collectionEntry

end InfinityRadius.Tasks
