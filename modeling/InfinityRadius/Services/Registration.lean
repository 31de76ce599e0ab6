import InfinityRadius.Services.Onboarding

/-!
# All or nothing

A registration that fails leaves neither rows nor an account behind, and one that is committed
keeps its account: when this holds depends on what became of the account and of the commit where
their awaits did not return.
-/

namespace InfinityRadius.Services.OnboardingRegistration

open Phone

/-! ## The property -/

/-- The local commit of the registration was carried out. -/
def Stored (env : Env) (world : World) : Prop :=
  .tenant env.tenantId "PENDING_VERIFICATION" ∈ world.committed

/-- What becomes of a registration, in its result and in the world it leaves. -/
structure AllOrNothing (env : Env) (outcome : Except Raised OnboardingResult × World) : Prop where
  rows : (∃ raised, outcome.1 = .error raised) → ¬Stored env outcome.2 →
    ∀ row ∈ outcome.2.committed, row.tenantId ≠ env.tenantId
  account : (∃ raised, outcome.1 = .error raised) → ¬Stored env outcome.2 →
    ∀ account, env.createUser.account = some account → account ∈ outcome.2.accounts →
      (account, false) ∈ outcome.2.deletions
  kept : Stored env outcome.2 → ∀ account, env.createUser.account = some account →
    account ∈ outcome.2.accounts ∧ ∀ deletion ∈ outcome.2.deletions, deletion.1 ≠ account

/-- The tenant and the account are new, and nothing is written yet. -/
structure Fresh (env : Env) (world : World) : Prop where
  written : world.written = []
  tenant : ∀ row ∈ world.committed, row.tenantId ≠ env.tenantId
  account : ∀ account, env.createUser.account = some account →
    account ∉ world.accounts ∧ ∀ deletion ∈ world.deletions, deletion.1 ≠ account

/-! ## The condition -/

/-- The first ending that is not a return. -/
def firstFailure : List Ending → Ending
  | [] => .returned
  | .returned :: endings => firstFailure endings
  | ending :: _ => ending

/-- How the local records end; a missing profile and a missing role raise. -/
def recordsEnding (env : Env) : Ending :=
  firstFailure
    [env.recordStep .flushTenant, env.recordStep .loadProfile,
      if env.profileExists then .returned else .raised, env.recordStep .loadRole,
      if env.ownerRole.isSome then .returned else .raised, env.recordStep .loadWallet,
      env.recordStep .insertWallet, env.recordStep .auditTenant, env.recordStep .auditProfile]

/-- Nothing ends the registration before its account is asked for. -/
structure Reaches (env : Env) (payload : Registration) : Prop where
  lookup : env.lookup = .returned
  emailFree : env.emailInUse = false
  phone : (normalizeTzPhone payload.phone).isSome = true
  businessPhone : (normalizeTzPhone payload.businessPhone).isSome = true
  authorizedPhone : ∀ phone, payload.authorizedContactPhone = some phone → phone ≠ "" →
    (normalizeTzPhone phone).isSome = true
  secretKey : env.secretKeyConfigured = true

def Reported (env : Env) : Prop := ∃ id, env.createUser.answer = .accepted (some id)

/-- An account that was made is reported, the local records are not cancelled, and a commit that
raises was not carried out, while a cancelled one was. -/
structure Recoverable (env : Env) : Prop where
  account : env.createUser.account.isSome = true → Reported env
  records : Reported env → recordsEnding env ≠ .cancelled
  raised : Reported env → recordsEnding env = .returned → env.commit.ending = .raised →
    env.commit.applied = false
  cancelled : Reported env → recordsEnding env = .returned → env.commit.ending = .cancelled →
    env.commit.applied = true

/-! ## Single steps -/

section Steps

variable {α β : Type} {world : World}

@[simp]
theorem pure_run (a : α) : (pure a : Onboarding α) world = (.ok a, world) := rfl

@[simp]
theorem throw_run (raised : Raised) :
    (throw raised : Onboarding α) world = (.error raised, world) := rfl

theorem bind_run (x : Onboarding α) (f : α → Onboarding β) :
    (x >>= f) world = match x world with
      | (.ok a, world') => f a world'
      | (.error raised, world') => (.error raised, world') := rfl

theorem tryCatch_run (x : Onboarding α) (handler : Raised → Onboarding α) :
    (tryCatch x handler) world = match x world with
      | (.ok a, world') => (.ok a, world')
      | (.error raised, world') => handler raised world' := rfl

@[simp]
theorem write_bind (row : LocalRow) (f : Unit → Onboarding β) :
    (write row >>= f) world = f () { world with written := world.written ++ [row] } := rfl

/-- An await that does not return ends what it is part of. -/
theorem await_bind (ending : Ending) (f : Unit → Onboarding β) :
    (await ending >>= f) world = match ending with
      | .returned => f () world
      | .raised => (.error .other, world)
      | .cancelled => (.error .cancelled, world) := by
  cases ending <;> rfl

/-- How a result ended. -/
def endingOf : Except Raised α → Ending
  | .ok _ => .returned
  | .error .cancelled => .cancelled
  | .error _ => .raised

end Steps

/-! ## The local records -/

section Records

variable {α β : Type} {env : Env}

/-- The program writes rows of the tenant and ends so. -/
def Records (env : Env) (x : Onboarding α) (ending : Ending) : Prop :=
  ∀ world, ∃ rows, (∀ row ∈ rows, LocalRow.tenantId row = env.tenantId) ∧
    endingOf (x world).1 = ending ∧ (x world).2 = { world with written := world.written ++ rows }

theorem records_pure (a : α) : Records env (pure a) .returned := by
  intro world
  exact ⟨[], nofun, rfl, by rw [List.append_nil]; rfl⟩

theorem records_throw {raised : Raised} (h : raised ≠ .cancelled) :
    Records env (throw raised : Onboarding α) .raised := by
  intro world
  refine ⟨[], nofun, ?_, by rw [List.append_nil]; rfl⟩
  cases raised <;> first | rfl | exact absurd rfl h

theorem records_write_bind {row : LocalRow} {f : Unit → Onboarding β} {ending : Ending}
    (hrow : row.tenantId = env.tenantId) (h : Records env (f ()) ending) :
    Records env (write row >>= f) ending := by
  intro world
  obtain ⟨rows, hrows, hending, hworld⟩ := h { world with written := world.written ++ [row] }
  refine ⟨row :: rows, ?_, hending, ?_⟩
  · intro other hother
    rcases List.mem_cons.mp hother with rfl | hother
    · exact hrow
    · exact hrows other hother
  · rw [write_bind, hworld, List.append_assoc]
    rfl

theorem records_await_bind {ending : Ending} {endings : List Ending} {f : Unit → Onboarding β}
    (h : Records env (f ()) (firstFailure endings)) :
    Records env (await ending >>= f) (firstFailure (ending :: endings)) := by
  intro world
  rw [await_bind]
  cases ending with
  | returned => exact h world
  | raised => exact ⟨[], nofun, rfl, by rw [List.append_nil]⟩
  | cancelled => exact ⟨[], nofun, rfl, by rw [List.append_nil]⟩

theorem records_require_bind {condition : Bool} {endings : List Ending} {raised : Raised}
    {f : Unit → Onboarding β} (hraised : raised ≠ .cancelled)
    (h : Records env (f ()) (firstFailure endings)) :
    Records env (require condition raised >>= f)
      (firstFailure ((if condition then .returned else .raised) :: endings)) := by
  cases condition with
  | true => exact h
  | false => exact records_throw hraised

theorem records_orRaise_bind {value : Option α} {endings : List Ending} {raised : Raised}
    {f : α → Onboarding β} (hraised : raised ≠ .cancelled)
    (h : ∀ a, Records env (f a) (firstFailure endings)) :
    Records env (orRaise value raised >>= f)
      (firstFailure ((if value.isSome then .returned else .raised) :: endings)) := by
  cases value with
  | some a => exact h a
  | none => exact records_throw hraised

/-- After the tenant's row the local records write other rows of the tenant, and end as their
steps do. -/
theorem records_createLocalRecords (ownerId : ℕ) :
    ∃ rest : Unit → Onboarding OnboardingResult,
      createLocalRecords env ownerId =
        (write (.tenant env.tenantId "PENDING_VERIFICATION") >>= rest) ∧
      Records env (rest ()) (recordsEnding env) := by
  refine ⟨_, rfl, ?_⟩
  unfold recordsEnding
  apply records_await_bind
  apply records_await_bind
  refine records_require_bind ?_ ?_
  · nofun
  apply records_write_bind rfl
  apply records_await_bind
  refine records_orRaise_bind ?_ fun ownerRoleId => ?_
  · nofun
  apply records_write_bind rfl
  apply records_write_bind rfl
  apply records_write_bind rfl
  apply records_write_bind rfl
  apply records_await_bind
  apply records_write_bind rfl
  apply records_await_bind
  apply records_write_bind rfl
  apply records_await_bind
  apply records_write_bind rfl
  apply records_await_bind
  exact records_pure _

theorem createLocalRecords_run (ownerId : ℕ) (world : World) :
    ∃ rows, (∀ row ∈ rows, LocalRow.tenantId row = env.tenantId) ∧
      .tenant env.tenantId "PENDING_VERIFICATION" ∈ rows ∧
      endingOf (createLocalRecords env ownerId world).1 = recordsEnding env ∧
      (createLocalRecords env ownerId world).2 =
        { world with written := world.written ++ rows } := by
  obtain ⟨rest, heq, hrest⟩ := @records_createLocalRecords env ownerId
  obtain ⟨rows, hrows, hending, hworld⟩ := hrest
    { world with written := world.written ++ [.tenant env.tenantId "PENDING_VERIFICATION"] }
  refine ⟨.tenant env.tenantId "PENDING_VERIFICATION" :: rows, ?_, List.mem_cons_self, ?_, ?_⟩
  · intro row hrow
    rcases List.mem_cons.mp hrow with rfl | hrow
    · rfl
    · exact hrows row hrow
  · rw [heq, write_bind]
    exact hending
  · rw [heq, write_bind, hworld, List.append_assoc]
    rfl

end Records

/-! ## The mails -/

section Mails

variable {α β : Type}

/-- The program only adds committed rows. -/
def Adds (x : Onboarding α) : Prop := ∀ world,
  (x world).2.accounts = world.accounts ∧ (x world).2.deletions = world.deletions ∧
    world.committed <+: (x world).2.committed

theorem adds_pure (a : α) : Adds (pure a : Onboarding α) :=
  fun _ => ⟨rfl, rfl, List.prefix_rfl⟩

theorem adds_throw (raised : Raised) : Adds (throw raised : Onboarding α) :=
  fun _ => ⟨rfl, rfl, List.prefix_rfl⟩

theorem Adds.bind {x : Onboarding α} {f : α → Onboarding β} (hx : Adds x)
    (hf : ∀ a, Adds (f a)) : Adds (x >>= f) := by
  intro world
  obtain ⟨haccounts, hdeletions, hcommitted⟩ := hx world
  rw [bind_run]
  generalize x world = result at haccounts hdeletions hcommitted ⊢
  obtain ⟨raised | a, middle⟩ := result
  · exact ⟨haccounts, hdeletions, hcommitted⟩
  · obtain ⟨haccounts', hdeletions', hcommitted'⟩ := hf a middle
    exact ⟨haccounts'.trans haccounts, hdeletions'.trans hdeletions,
      hcommitted.trans hcommitted'⟩

theorem adds_write (row : LocalRow) : Adds (write row) :=
  fun _ => ⟨rfl, rfl, List.prefix_rfl⟩

theorem adds_ofExcept (result : Except Raised α) : Adds (ofExcept result) := by
  cases result with
  | ok a => exact adds_pure a
  | error raised => exact adds_throw raised

theorem adds_await (ending : Ending) : Adds (await ending) := by
  cases ending with
  | returned => exact adds_pure ()
  | raised => exact adds_throw _
  | cancelled => exact adds_throw _

theorem adds_commit (fate : Commit) : Adds (commit fate) := by
  apply Adds.bind _ fun _ => adds_await fate.ending
  intro world
  unfold modify
  simp only
  split
  · exact ⟨rfl, rfl, List.prefix_append _ _⟩
  · exact ⟨rfl, rfl, List.prefix_rfl⟩

theorem adds_sendVerificationEmail (env : Env) (payload : Registration) :
    Adds (sendVerificationEmail env payload) := by
  unfold sendVerificationEmail
  split
  · exact (adds_write _).bind fun _ => (adds_commit _).bind fun _ => adds_pure _
  · exact adds_throw _
  · apply (adds_ofExcept _).bind
    intro result
    apply (adds_write _).bind
    intro _
    exact (adds_write _).bind fun _ => (adds_commit _).bind fun _ => adds_pure _

theorem adds_sendOnboardingEmails (env : Env) (payload : Registration) :
    Adds (sendOnboardingEmails env payload) := by
  unfold sendOnboardingEmails
  apply (adds_sendVerificationEmail env payload).bind
  intro _
  apply (adds_ofExcept _).bind
  intro result
  exact (adds_write _).bind fun _ => adds_commit _

end Mails

/-! ## The account -/

section Account

variable {env : Env} {payload : Registration} {world : World}

/-- The world after Supabase was asked for the account. -/
def created (env : Env) (world : World) : World :=
  { world with accounts := world.accounts ++ env.createUser.account.toList }

theorem requireSecretKey_bind {β : Type} (hkey : env.secretKeyConfigured = true)
    (f : Unit → Onboarding β) : (requireSecretKey env >>= f) = f () := by
  rw [requireSecretKey, require, if_pos hkey]
  rfl

theorem createUser_run (hkey : env.secretKeyConfigured = true) (world : World) :
    (∃ id, env.createUser.answer = .accepted (some id) ∧
      createUser env world = (.ok id, created env world)) ∨
    (¬Reported env ∧ ∃ raised, createUser env world = (.error raised, created env world)) := by
  unfold createUser
  rw [requireSecretKey_bind hkey, bind_run]
  unfold modify Reported
  simp only
  cases env.createUser.answer with
  | unanswered ending hending =>
    refine Or.inr ⟨nofun, ?_⟩
    cases ending with
    | returned => exact absurd rfl hending
    | raised => exact ⟨_, rfl⟩
    | cancelled => exact ⟨_, rfl⟩
  | refused message =>
    refine Or.inr ⟨nofun, ?_⟩
    cases message with
    | none => exact ⟨_, rfl⟩
    | some message => exact ⟨_, rfl⟩
  | accepted id =>
    cases id with
    | none =>
      refine Or.inr ⟨?_, _, rfl⟩
      rintro ⟨id, hid⟩
      cases hid
    | some id => exact Or.inl ⟨id, rfl, rfl⟩

/-- The account is returned where it is reported. -/
theorem createAccount_run (hkey : env.secretKeyConfigured = true) (world : World) :
    (∃ id, env.createUser.answer = .accepted (some id) ∧
      createAccount env world = (.ok id, created env world)) ∨
    (¬Reported env ∧ ∃ raised, createAccount env world = (.error raised, created env world)) := by
  unfold createAccount
  rw [tryCatch_run]
  rcases createUser_run hkey world with ⟨id, hanswer, hrun⟩ | ⟨hnot, raised, hrun⟩
  · left
    use id, hanswer
    rw [hrun]
  · right
    refine ⟨hnot, ?_⟩
    rw [hrun]
    cases raised with
    | supabaseAdmin message =>
      simp only
      split
      · exact ⟨_, rfl⟩
      · exact ⟨_, rfl⟩
    | conflict message => exact ⟨_, rfl⟩
    | domainValidation message => exact ⟨_, rfl⟩
    | other => exact ⟨_, rfl⟩
    | cancelled => exact ⟨_, rfl⟩

/-- The world after the account was asked to be deleted. -/
def compensated (env : Env) (ownerId : ℕ) (world : World) : World where
  committed := world.committed
  written := []
  accounts := if env.deleteUser.applied then world.accounts.filter (· ≠ ownerId) else world.accounts
  deletions := world.deletions ++ [(ownerId, env.deleteUser.applied)]

/-- The compensation asks for the account to be deleted, and raises. -/
theorem compensate_run (hkey : env.secretKeyConfigured = true) (ownerId : ℕ) (raised : Raised)
    (world : World) :
    ∃ last, compensate env ownerId raised world =
      (.error last, compensated env ownerId world) := by
  unfold compensate deleteUser
  rw [requireSecretKey_bind hkey, bind_run]
  unfold rollback modify
  simp only
  rw [bind_run, tryCatch_run, bind_run]
  simp only
  cases env.deleteUser.ending <;> exact ⟨_, rfl⟩

/-- The world after the commit of these rows. -/
def settled (env : Env) (rows : List LocalRow) (world : World) : World :=
  if env.commit.applied then { world with committed := world.committed ++ rows, written := [] }
  else { world with written := rows }

theorem commit_bind {β : Type} (f : Unit → Onboarding β) (rows : List LocalRow) (world : World) :
    (commit env.commit >>= f) { world with written := rows } = match env.commit.ending with
      | .returned => f () (settled env rows world)
      | .raised => (.error .other, settled env rows world)
      | .cancelled => (.error .cancelled, settled env rows world) := by
  unfold commit modify settled
  rw [bind_run, bind_run]
  simp only
  cases env.commit.ending <;> rfl

/-- A failure is compensated unless it is a cancellation. -/
theorem recordTenant_run (hkey : env.secretKeyConfigured = true) (ownerId : ℕ) (world : World)
    (hwritten : world.written = []) :
    ∃ rows, (∀ row ∈ rows, LocalRow.tenantId row = env.tenantId) ∧
      .tenant env.tenantId "PENDING_VERIFICATION" ∈ rows ∧
      match recordsEnding env, env.commit.ending with
      | .cancelled, _ => ∃ raised, recordTenant env ownerId world =
          (.error raised, { world with written := rows })
      | .raised, _ => ∃ raised, recordTenant env ownerId world =
          (.error raised, compensated env ownerId { world with written := rows })
      | .returned, .returned => ∃ result, recordTenant env ownerId world =
          (.ok result, settled env rows world)
      | .returned, .raised => ∃ raised, recordTenant env ownerId world =
          (.error raised, compensated env ownerId (settled env rows world))
      | .returned, .cancelled => ∃ raised, recordTenant env ownerId world =
          (.error raised, settled env rows world) := by
  obtain ⟨rows, hrows, htenant, hending, hworld⟩ := @createLocalRecords_run env ownerId world
  rw [hwritten, List.nil_append] at hworld
  refine ⟨rows, hrows, htenant, ?_⟩
  unfold recordTenant
  rw [tryCatch_run, bind_run]
  generalize createLocalRecords env ownerId world = outcome at hending hworld ⊢
  obtain ⟨result, middle⟩ := outcome
  obtain rfl : middle = { world with written := rows } := hworld
  cases result with
  | ok result =>
    rw [show recordsEnding env = .returned from hending.symm]
    simp only
    rw [commit_bind]
    cases env.commit.ending with
    | returned => exact ⟨result, rfl⟩
    | raised => exact compensate_run hkey ownerId _ _
    | cancelled => exact ⟨_, rfl⟩
  | error raised =>
    rw [← hending]
    cases raised with
    | cancelled => exact ⟨_, rfl⟩
    | conflict message => exact compensate_run hkey ownerId _ _
    | domainValidation message => exact compensate_run hkey ownerId _ _
    | supabaseAdmin message => exact compensate_run hkey ownerId _ _
    | other => exact compensate_run hkey ownerId _ _

end Account

/-! ## Every registration -/

section Register

variable {env : Env} {payload : Registration} {world : World}

theorem orRaise_bind {α β : Type} (value : Option α) (raised : Raised) (f : α → Onboarding β) :
    (orRaise value raised >>= f) world = match value with
      | some a => f a world
      | none => (.error raised, world) := by
  cases value <;> rfl

/-- The check of the phones changes nothing, and passes where all of them are valid. -/
theorem checkPhones_run (world : World) :
    (checkPhones payload world = (.ok (), world) ∧
      (normalizeTzPhone payload.phone).isSome = true ∧
      (normalizeTzPhone payload.businessPhone).isSome = true ∧
      ∀ phone, payload.authorizedContactPhone = some phone → phone ≠ "" →
        (normalizeTzPhone phone).isSome = true) ∨
    ((∃ raised, checkPhones payload world = (.error raised, world)) ∧
      ¬((normalizeTzPhone payload.phone).isSome = true ∧
        (normalizeTzPhone payload.businessPhone).isSome = true ∧
        ∀ phone, payload.authorizedContactPhone = some phone → phone ≠ "" →
          (normalizeTzPhone phone).isSome = true)) := by
  unfold checkPhones requirePhone
  rw [orRaise_bind]
  cases normalizeTzPhone payload.phone with
  | none => exact Or.inr ⟨⟨_, rfl⟩, fun h => by cases h.1⟩
  | some owner =>
    simp only
    rw [orRaise_bind]
    cases normalizeTzPhone payload.businessPhone with
    | none => exact Or.inr ⟨⟨_, rfl⟩, fun h => by cases h.2.1⟩
    | some business =>
      simp only
      cases hfilter : payload.authorizedContactPhone.filter fun phone => !phone.isEmpty with
      | none =>
        left
        refine ⟨rfl, rfl, rfl, fun phone hphone hne => ?_⟩
        rw [Option.filter_eq_none_iff] at hfilter
        have hempty := hfilter phone hphone
        simp at hempty
        exact absurd hempty hne
      | some phone =>
        simp only
        rw [orRaise_bind]
        obtain ⟨hphone, hne⟩ := Option.filter_eq_some_iff.mp hfilter
        have hne : phone ≠ "" := by simpa using hne
        cases hvalid : normalizeTzPhone phone with
        | none =>
          right
          refine ⟨⟨_, rfl⟩, fun h => ?_⟩
          have hsome := h.2.2 phone hphone hne
          rw [hvalid] at hsome
          cases hsome
        | some authorized =>
          left
          refine ⟨rfl, rfl, rfl, fun other hother _ => ?_⟩
          obtain rfl := Option.some.inj (hphone.symm.trans hother)
          rw [hvalid]
          rfl

theorem createAccount_noKey (hkey : env.secretKeyConfigured = false) (world : World) :
    ∃ raised, createAccount env world = (.error raised, world) := by
  unfold createAccount createUser requireSecretKey require
  rw [tryCatch_run, hkey, bind_run]
  simp only [Bool.false_eq_true, if_false, throw_run]
  split
  · exact ⟨_, rfl⟩
  · exact ⟨_, rfl⟩

/-- Nothing happens before the account is asked for. -/
theorem register_run (world : World) :
    (Reaches env payload ∧ register env payload world = (do
      let ownerId ← createAccount env
      let result ← recordTenant env ownerId
      sendOnboardingEmails env payload
      pure result : Onboarding OnboardingResult) world) ∨
    (¬Reaches env payload ∧ ∃ raised, register env payload world = (.error raised, world)) := by
  unfold register
  rw [await_bind]
  cases hlookup : env.lookup with
  | raised => exact Or.inr ⟨fun h => absurd (h.lookup.symm.trans hlookup) nofun, _, rfl⟩
  | cancelled => exact Or.inr ⟨fun h => absurd (h.lookup.symm.trans hlookup) nofun, _, rfl⟩
  | returned =>
    simp only
    cases hemail : env.emailInUse with
    | true =>
      exact Or.inr ⟨fun h => absurd (h.emailFree.symm.trans hemail) nofun, _, rfl⟩
    | false =>
      have hrequire : ∀ f : Unit → Onboarding OnboardingResult,
          (require (!false) (.conflict "An account with this email already exists") >>= f) =
            f () := fun _ => rfl
      rw [hrequire, bind_run]
      rcases @checkPhones_run payload world with ⟨hrun, hphone, hbusiness, hauthorized⟩ |
        ⟨⟨raised, hrun⟩, hinvalid⟩
      · rw [hrun]
        cases hkey : env.secretKeyConfigured with
        | true => exact Or.inl ⟨⟨hlookup, hemail, hphone, hbusiness, hauthorized, hkey⟩, rfl⟩
        | false =>
          right
          obtain ⟨raised, hraised⟩ := createAccount_noKey hkey world
          refine ⟨fun h => absurd (h.secretKey.symm.trans hkey) nofun, raised, ?_⟩
          simp only [bind_run, hraised]
      · right
        rw [hrun]
        exact ⟨fun h => hinvalid ⟨h.phone, h.businessPhone, h.authorizedPhone⟩, raised, rfl⟩

/-- Where nothing of the registration is committed, its account must not stay behind. -/
theorem allOrNothing_of_unstored {raised : Raised} {final : World} (hfresh : Fresh env world)
    (hcommitted : final.committed = world.committed) :
    AllOrNothing env (.error raised, final) ↔ ∀ account,
      env.createUser.account = some account → account ∈ final.accounts →
        (account, false) ∈ final.deletions := by
  have hnone : ∀ row ∈ final.committed, row.tenantId ≠ env.tenantId := by
    rw [hcommitted]
    exact hfresh.tenant
  have hnot : ¬Stored env final := fun h => hnone _ h rfl
  constructor
  · exact fun h => h.account ⟨raised, rfl⟩ hnot
  · exact fun h => ⟨fun _ _ => hnone, fun _ _ => h, fun hstored => absurd hstored hnot⟩

/-- Where it is committed, its account must stay. -/
theorem allOrNothing_of_stored {outcome : Except Raised OnboardingResult × World}
    (hstored : Stored env outcome.2) :
    AllOrNothing env outcome ↔ ∀ account, env.createUser.account = some account →
      account ∈ outcome.2.accounts ∧ ∀ deletion ∈ outcome.2.deletions, deletion.1 ≠ account :=
  ⟨fun h => h.kept hstored,
    fun h => ⟨fun _ hnot => absurd hstored hnot, fun _ hnot => absurd hstored hnot, fun _ => h⟩⟩

/-- After the compensation the account is gone, or its deletion failed. -/
theorem compensated_account (id : ℕ) (middle : World)
    (hmem : id ∈ (compensated env id middle).accounts) :
    (id, false) ∈ (compensated env id middle).deletions := by
  unfold compensated at hmem ⊢
  cases happlied : env.deleteUser.applied with
  | true =>
    rw [happlied] at hmem
    simp at hmem
  | false =>
    exact List.mem_append_right _ (List.mem_singleton.mpr rfl)

/-- A commit that was not carried out leaves no row, one that was leaves those of the tenant. -/
theorem settled_applied (rows : List LocalRow) (happlied : env.commit.applied = true)
    (middle : World) :
    settled env rows middle =
      { middle with committed := middle.committed ++ rows, written := [] } := by
  rw [settled, if_pos happlied]

theorem settled_notApplied (rows : List LocalRow) (happlied : env.commit.applied = false)
    (middle : World) : settled env rows middle = { middle with written := rows } := by
  rw [settled, happlied]
  rfl

/-- Once the account is known, the local records decide. -/
theorem recordTenant_bind_allOrNothing_iff {id : ℕ}
    {f : OnboardingResult → Onboarding OnboardingResult} (hfresh : Fresh env world)
    (hkey : env.secretKeyConfigured = true) (haccount : env.createUser.account = some id)
    (hf : ∀ result, Adds (f result)) :
    AllOrNothing env ((recordTenant env id >>= f) (created env world)) ↔
      recordsEnding env ≠ .cancelled ∧
      (recordsEnding env = .returned → env.commit.ending = .raised →
        env.commit.applied = false) ∧
      (recordsEnding env = .returned → env.commit.ending = .cancelled →
        env.commit.applied = true) := by
  have hmade : id ∈ (created env world).accounts := by
    rw [created, haccount]
    exact List.mem_append_right _ (List.mem_singleton.mpr rfl)
  have hunasked : ∀ deletion ∈ world.deletions, deletion.1 ≠ id := (hfresh.account id haccount).2
  have honly : ∀ account, env.createUser.account = some account → account = id := by
    intro account h
    exact Option.some.inj (h.symm.trans haccount)
  -- Nothing is committed and nobody asks for the account to be deleted.
  have hleft : ∀ (raised : Raised) (final : World), final.committed = world.committed →
      final.accounts = (created env world).accounts → final.deletions = world.deletions →
      ¬AllOrNothing env (.error raised, final) := by
    intro raised final hcommitted haccounts hdeletions h
    have hmem := (allOrNothing_of_unstored hfresh hcommitted).mp h id haccount (haccounts ▸ hmade)
    rw [hdeletions] at hmem
    exact hunasked _ hmem rfl
  -- Nothing is committed and the account is compensated.
  have hcompensated : ∀ (raised : Raised) (middle : World),
      middle.committed = world.committed →
      AllOrNothing env (.error raised, compensated env id middle) := by
    intro raised middle hcommitted
    have hfinal : (compensated env id middle).committed = world.committed := hcommitted
    rw [allOrNothing_of_unstored hfresh hfinal]
    intro account h hmem
    obtain rfl := honly account h
    exact compensated_account _ middle hmem
  obtain ⟨rows, -, htenant, hcase⟩ := recordTenant_run hkey id (created env world) hfresh.written
  -- The rows are committed, and nobody asks for the account to be deleted.
  have hkept : ∀ outcome : Except Raised OnboardingResult × World,
      world.committed ++ rows <+: outcome.2.committed →
      outcome.2.accounts = (created env world).accounts →
      outcome.2.deletions = world.deletions → AllOrNothing env outcome := by
    intro outcome hcommitted haccounts hdeletions
    rw [allOrNothing_of_stored (hcommitted.subset (List.mem_append_right _ htenant))]
    intro account h
    obtain rfl := honly account h
    rw [haccounts, hdeletions]
    exact ⟨hmade, hunasked⟩
  rw [bind_run]
  cases hrecords : recordsEnding env with
  | cancelled =>
    rw [hrecords] at hcase
    obtain ⟨raised, hrun⟩ := hcase
    rw [hrun]
    apply iff_of_false
    · exact hleft raised _ rfl rfl rfl
    · exact fun h => h.1 rfl
  | raised =>
    rw [hrecords] at hcase
    obtain ⟨raised, hrun⟩ := hcase
    rw [hrun]
    apply iff_of_true
    · exact hcompensated raised _ rfl
    · exact ⟨nofun, nofun, nofun⟩
  | returned =>
    rw [hrecords] at hcase
    cases hcommit : env.commit.ending with
    | returned =>
      rw [hcommit] at hcase
      obtain ⟨result, hrun⟩ := hcase
      rw [hrun, settled_applied rows (env.commit.honest hcommit)]
      apply iff_of_true
      · obtain ⟨haccounts, hdeletions, hcommitted⟩ := hf result
          { created env world with committed := world.committed ++ rows, written := [] }
        exact hkept _ hcommitted haccounts hdeletions
      · exact ⟨nofun, nofun, nofun⟩
    | raised =>
      rw [hcommit] at hcase
      obtain ⟨raised, hrun⟩ := hcase
      rw [hrun]
      cases happlied : env.commit.applied with
      | false =>
        rw [settled_notApplied rows happlied]
        apply iff_of_true
        · exact hcompensated raised _ rfl
        · exact ⟨nofun, fun _ _ => rfl, nofun⟩
      | true =>
        rw [settled_applied rows happlied]
        apply iff_of_false
        · intro h
          have hstored : Stored env (compensated env id
              { created env world with committed := world.committed ++ rows, written := [] }) :=
            List.mem_append_right _ htenant
          have hasked := (h.kept hstored id haccount).2
          exact hasked (id, env.deleteUser.applied)
            (List.mem_append_right _ (List.mem_singleton.mpr rfl)) rfl
        · exact fun h => absurd (h.2.1 rfl rfl) nofun
    | cancelled =>
      rw [hcommit] at hcase
      obtain ⟨raised, hrun⟩ := hcase
      rw [hrun]
      cases happlied : env.commit.applied with
      | false =>
        rw [settled_notApplied rows happlied]
        apply iff_of_false
        · exact hleft raised _ rfl rfl rfl
        · exact fun h => absurd (h.2.2 rfl rfl) nofun
      | true =>
        rw [settled_applied rows happlied]
        apply iff_of_true
        · exact hkept _ List.prefix_rfl rfl rfl
        · exact ⟨nofun, nofun, fun _ _ => rfl⟩

/-- A registration is all or nothing exactly where, once the account was asked for, what does not
return can be told from what was not done. -/
theorem register_allOrNothing_iff (hfresh : Fresh env world) :
    AllOrNothing env (register env payload world) ↔ (Reaches env payload → Recoverable env) := by
  rcases @register_run env payload world with ⟨hreaches, hrun⟩ | ⟨hnot, raised, hrun⟩
  · rw [hrun, forall_prop_of_true hreaches, bind_run]
    rcases createAccount_run hreaches.secretKey world with ⟨id, hanswer, haccount⟩ |
      ⟨hnot, raised, haccount⟩
    · have hmade : env.createUser.account = some id := env.createUser.honest id hanswer
      have hreported : Reported env := ⟨id, hanswer⟩
      have hmails : ∀ result, Adds (do
          sendOnboardingEmails env payload
          pure result : Onboarding OnboardingResult) :=
        fun result => (adds_sendOnboardingEmails env payload).bind fun _ => adds_pure result
      rw [haccount]
      simp only
      rw [recordTenant_bind_allOrNothing_iff hfresh hreaches.secretKey hmade hmails]
      constructor
      · rintro ⟨hrecords, hraised, hcancelled⟩
        exact ⟨fun _ => hreported, fun _ => hrecords, fun _ => hraised, fun _ => hcancelled⟩
      · exact fun h => ⟨h.records hreported, h.raised hreported, h.cancelled hreported⟩
    · have hfinal : (created env world).committed = world.committed := rfl
      rw [haccount, allOrNothing_of_unstored hfresh hfinal]
      constructor
      · intro h
        refine ⟨fun hsome => ?_, fun hr => absurd hr hnot, fun hr => absurd hr hnot,
          fun hr => absurd hr hnot⟩
        obtain ⟨account, hmade⟩ := Option.isSome_iff_exists.mp hsome
        have hmem : account ∈ (created env world).accounts := by
          rw [created, hmade]
          exact List.mem_append_right _ (List.mem_singleton.mpr rfl)
        exact absurd rfl ((hfresh.account account hmade).2 _ (h account hmade hmem))
      · intro h account hmade
        have hreported := h.account (Option.isSome_iff_exists.mpr ⟨account, hmade⟩)
        exact absurd hreported hnot
  · rw [hrun, allOrNothing_of_unstored hfresh rfl]
    apply iff_of_true
    · exact fun account haccount hmem => absurd hmem (hfresh.account account haccount).1
    · exact fun h => absurd h hnot

/-- A registration in an empty database where every step returns, up to what becomes of the
account. -/
def sampleEnv (createUser : Creation) : Env where
  lookup := .returned
  emailInUse := false
  secretKeyConfigured := true
  createUser := createUser
  tenantId := 1
  profileExists := true
  ownerRole := some 3
  recordStep := fun _ => .returned
  commit := ⟨.returned, true, fun _ => rfl⟩
  deleteUser := ⟨.returned, true⟩
  generateLink := .ok "https://auth.example/verify"
  sendVerification := .ok ⟨true⟩
  verificationCommit := ⟨.returned, true, fun _ => rfl⟩
  sendAdmin := .ok ⟨true⟩
  adminCommit := ⟨.returned, true, fun _ => rfl⟩

def samplePayload : Registration := ⟨"owner@example.com", "0712345678", "0712345678", none⟩

/-- Supabase makes account 7 and reports it. -/
def reportedAccount : Creation where
  account := some 7
  answer := .accepted (some 7)
  honest := by
    intro id h
    cases h
    rfl

/-- Supabase makes account 7, but its answer does not arrive. -/
def unansweredAccount : Creation where
  account := some 7
  answer := .unanswered .raised nofun
  honest := nofun

/-- The world before the first registration. -/
def emptyWorld : World := ⟨[], [], [], []⟩

theorem fresh_emptyWorld (env : Env) : Fresh env emptyWorld :=
  ⟨rfl, nofun, fun _ _ => ⟨nofun, nofun⟩⟩

theorem register_allOrNothing_reported :
    AllOrNothing (sampleEnv reportedAccount)
      (register (sampleEnv reportedAccount) samplePayload emptyWorld) := by
  rw [register_allOrNothing_iff (fresh_emptyWorld _)]
  exact fun _ => ⟨fun _ => ⟨7, rfl⟩, nofun, nofun, nofun⟩

/-- A request that times out leaves the account it made behind. -/
theorem register_allOrNothing_unanswered :
    (∃ raised, (register (sampleEnv unansweredAccount) samplePayload emptyWorld).1 =
      .error raised) ∧
    (register (sampleEnv unansweredAccount) samplePayload emptyWorld).2.committed = [] ∧
    (register (sampleEnv unansweredAccount) samplePayload emptyWorld).2.accounts = [7] ∧
    (register (sampleEnv unansweredAccount) samplePayload emptyWorld).2.deletions = [] ∧
    ¬AllOrNothing (sampleEnv unansweredAccount)
      (register (sampleEnv unansweredAccount) samplePayload emptyWorld) := by
  have hrun : register (sampleEnv unansweredAccount) samplePayload emptyWorld =
      (.error .other, ⟨[], [], [7], []⟩) := by
    rfl
  rw [hrun]
  refine ⟨⟨.other, rfl⟩, rfl, rfl, rfl, fun h => ?_⟩
  have hmem := h.account ⟨.other, rfl⟩ nofun 7 rfl (List.mem_singleton.mpr rfl)
  cases hmem

end Register

end InfinityRadius.Services.OnboardingRegistration
