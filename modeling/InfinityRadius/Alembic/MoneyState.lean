import InfinityRadius.Alembic.TenantIsolation

/-!
# Approval and money state

The rows and columns that the payment and payout services rely on, and how far the
policies keep clients away from them.
-/

namespace InfinityRadius.Alembic

open RowSecurity

variable {uid : ℕ} {db snapshot current : PublicDb} {table : PublicTable}
  {change : Change PublicTable String Value}

/-! ## What only the API should write -/

def moneyTables : List PublicTable :=
  [.tenants, .transactions, .withdrawals, .tenantWallets, .ledgerEntries] ++ openTables

/-- The columns of a table of which some are the clients' to write. -/
def guardedColumns : PublicTable → Option (List String)
  | .tenants => some ["id", "status"]
  | .transactions => some ["id", "status", "amount", "transaction_type", "activation_status"]
  | .withdrawals => some ["id", "status", "amount", "destination_id", "approval_required",
      "requested_by", "reviewed_by", "two_factor_code_hash", "two_factor_expires_at",
      "two_factor_attempts", "two_factor_confirmed_at"]
  | _ => none

def guarded (table : PublicTable) (column : String) : Bool :=
  (guardedColumns table).all (·.contains column)

def moneyView (table : PublicTable) (row : Cells) : Cells := fun column =>
  if guarded table column then row column else none

/-- The approval and money state is the same in both databases. -/
def SameMoney (before after : PublicDb) : Prop :=
  ∀ table ∈ moneyTables, (after table).map (moneyView table) = (before table).map (moneyView table)

/-! ## One change -/

/-- The tables of `moneyTables` that the policies let clients write. -/
def clientWritable : List PublicTable := [.transactions, .withdrawals] ++ openTables

/-- The change stores no row and assigns no other value where only the API should. -/
def LeavesMoney (uid : ℕ) (snapshot : PublicDb) :
    Change PublicTable String Value → PublicDb → Prop
  | .insert table _ rows, _ => table ∈ clientWritable → rows = []
  | .update table reading picked assign, current => table ∈ .tenants :: clientWritable →
      ∀ row ∈ current table,
        taken publicSchema uid snapshot (.update table reading picked assign) row →
          moneyView table (assign row) = moneyView table row
  | .delete table reading picked, current => table ∈ openTables →
      ∀ row ∈ current table,
        taken publicSchema uid snapshot (.delete table reading picked) row = false

/-- The tables that deletions of clients reach, tables without row level security apart. -/
def deletable : List PublicTable := .profileRoles :: .captiveSessions :: fullCrudTables

theorem not_permits_tenants {access : Access} {row : Cells} (hadmin : isSuperAdmin uid db = false)
    (haccess : access = .insert ∨ access = .delete) :
    ¬ permits publicSchema uid db access .tenants row := by
  intro hpermits
  obtain ⟨condition, hguard, hholds⟩ := guard_of_permits rfl hpermits
  cases hguard with
  | reference hreference _ => exact absurd hreference (by decide)
  | superAdmin _ _ =>
    rw [superAdmin_iff, hadmin] at hholds
    cases hholds
  | tenant _ _ hnot => exact haccess.elim (hnot rfl).1 (hnot rfl).2
  | profile htable => cases htable
  | role htable _ => cases htable

theorem writable_of_covers_insert (htable : table ∈ moneyTables)
    (h : covers publicSchema .insert table) : table = .tenants ∨ table ∈ clientWritable := by
  revert htable h
  cases table <;> decide

theorem writable_of_covers_update (htable : table ∈ moneyTables)
    (h : covers publicSchema .update table) : table ∈ .tenants :: clientWritable := by
  revert htable h
  cases table <;> decide

theorem deletable_of_covers (h : covers publicSchema .delete table) :
    table = .tenants ∨ table ∈ openTables ∨ table ∈ deletable := by
  revert h
  cases table <;> decide

theorem closed_deletable : Closed publicSchema (· ∈ deletable) := by
  rw [Closed]
  decide

/-- What clients' deletions can clear in these tables is not guarded. -/
theorem not_guarded_of_clears {column : String} (htable : table ∈ moneyTables)
    (h : Clears publicSchema (· ∈ deletable) table column) : ¬ guarded table column := by
  obtain ⟨key, hkey, rfl, rfl, hnull, hparent⟩ := h
  revert key
  decide

theorem sameMoney_perform (hadmin : isSuperAdmin uid snapshot = false)
    (hadmitted : admitted publicSchema uid snapshot change current)
    (hleaves : LeavesMoney uid snapshot change current) :
    SameMoney current (perform publicSchema uid snapshot change current) := by
  intro table htable
  cases change with
  | insert inserted reading rows =>
    apply map_perform_insert
    rintro rfl
    by_cases hwritable : inserted ∈ clientWritable
    · exact hleaves hwritable
    rw [List.eq_nil_iff_forall_not_mem]
    intro row hrow
    have hpermits := permits_of_permitsSeen (checked_of_admitted hadmitted hrow)
    rcases writable_of_covers_insert htable (covers_of_permits hpermits) with rfl | hmem
    · exact not_permits_tenants hadmin (.inl rfl) hpermits
    · exact hwritable hmem
  | update updated reading picked assign =>
    apply map_perform_update
    rintro rfl row hrow htaken
    have hpermits := permits_of_permitsSeen (Bool.and_eq_true_iff.1 htaken).1
    exact hleaves (writable_of_covers_update htable (covers_of_permits hpermits)) row hrow htaken
  | delete deleted reading picked =>
    apply map_perform_delete closed_deletable
    · intro row hrow htaken
      have hpermits := permits_of_permitsSeen (Bool.and_eq_true_iff.1 htaken).1
      rcases deletable_of_covers (covers_of_permits hpermits) with rfl | hopen | hdeletable
      · exact absurd hpermits (not_permits_tenants hadmin (.inr rfl))
      · rw [hleaves hopen row hrow] at htaken
        cases htaken
      · exact hdeletable
    · revert htable
      cases table <;> decide
    · intro row row' hrows
      funext column
      rw [moneyView, moneyView]
      split
      · next hguarded => exact hrows column fun hclears =>
          not_guarded_of_clears htable hclears hguarded
      · rfl

/-! ## Runs -/

/-- A step of the API's, which may change the database in any way, or a client's statement. -/
inductive Step
  | backend (operation : PublicDb → PublicDb)
  | client (request : Request ℕ PublicTable String Value)

def Step.next : Step → PublicDb → PublicDb
  | .backend operation, db => operation db
  | .client request, db => execute publicSchema request db

/-- A property of the steps that clients take. -/
def Step.OfClient (property : Request ℕ PublicTable String Value → PublicDb → Prop) :
    Step → PublicDb → Prop
  | .backend _, _ => True
  | .client request, db => property request db

theorem sameMoney_execute {request : Request ℕ PublicTable String Value}
    (hadmin : isSuperAdmin request.user db = false)
    (hleaves : Accepted publicSchema request db →
      EachChange publicSchema (LeavesMoney request.user db) request db) :
    SameMoney db (execute publicSchema request db) := by
  apply execute_invariant (SameMoney db) _ hleaves fun _ _ => rfl
  intro change current hadmitted hchange hcurrent table htable
  rw [sameMoney_perform hadmin hadmitted hchange table htable, hcurrent table htable]

/-- In a run in which no accepted statement of a client writes the approval and money state
where the policies let it, that state changes only in the steps of the API. -/
theorem sameMoney_of_run {steps : List Step}
    (hmembers : Runs.All Step.next (Step.OfClient fun request db =>
      isSuperAdmin request.user db = false) steps db)
    (hleaves : Runs.All Step.next (Step.OfClient fun request db =>
      Accepted publicSchema request db →
        EachChange publicSchema (LeavesMoney request.user db) request db) steps db) :
    Runs.All Step.next (Step.OfClient fun request db =>
      SameMoney db (execute publicSchema request db)) steps db := by
  apply (hmembers.and hleaves).mono
  rintro (operation | request) db ⟨hadmin, hchanges⟩
  · trivial
  · exact sameMoney_execute hadmin hchanges

/-! ## A payment that a client completes -/

/-- A tenant with one member and a payment that was not confirmed. -/
def paymentDb : PublicDb
  | .tenants => [cells [("id", .uuid 10), ("status", .text "ACTIVE")]]
  | .profiles => [cells [("id", .uuid 1), ("tenant_id", .uuid 10)]]
  | .transactions => [cells [("id", .uuid 40), ("tenant_id", .uuid 10),
      ("transaction_type", .text "COLLECTION"), ("status", .text "PENDING")]]
  | _ => []

/-- `UPDATE transactions SET column = value WHERE id = …`. -/
def updatePayment (column value : String) : Request ℕ PublicTable String Value where
  user := 1
  statement := {
    reads := fun _ _ => false
    changes := fun _ => [.update .transactions true
      (fun row => equal (row "id") (some (.uuid 40)))
      fun row => Function.update row column (some (.text value))] }
  refused := false

/-- The policies let the member mark the payment `COMPLETED`. -/
theorem not_sameMoney_completed :
    isSuperAdmin 1 paymentDb = false ∧
      ¬ Runs.All Step.next (Step.OfClient fun request db =>
        SameMoney db (execute publicSchema request db))
        [.client (updatePayment "status" "COMPLETED")] paymentDb := by
  refine ⟨by decide, ?_⟩
  rintro ⟨hsame, -⟩
  have hstatus := congrArg (List.map (· "status")) (hsame .transactions (by decide))
  revert hstatus
  decide

/-- Of a payment the member may write other columns. -/
theorem sameMoney_described :
    Runs.All Step.next (Step.OfClient fun request db =>
      SameMoney db (execute publicSchema request db))
      [.backend id, .client (updatePayment "payment_provider" "cash")] paymentDb := by
  apply sameMoney_of_run
  · exact ⟨trivial, by rw [Step.OfClient]; decide, trivial⟩
  · refine ⟨trivial, fun _ => ⟨fun _ row _ _ => ?_, trivial⟩, trivial⟩
    funext column
    by_cases hcolumn : column = "payment_provider"
    · subst hcolumn
      rfl
    · simp only [moneyView, Function.update_of_ne hcolumn]

end InfinityRadius.Alembic
