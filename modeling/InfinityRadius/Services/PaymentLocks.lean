import InfinityRadius.Core.Endings
import InfinityRadius.Core.SerialOrders
import InfinityRadius.Services.CaptiveActivation
import InfinityRadius.Services.CreditedOnce

/-!
# Payments that are locked

What a transaction may rely on while it holds the row of a payment, what it has written of the
payment and of the ledger by then, and what it may commit: the payment as it was, or the
payment completed and credited at once.
-/

namespace InfinityRadius.Services.ConcurrentCredits

open Amounts Database Interleaving Models Payload Program Sql

/-! ## Credits -/

/-- One of the entries a collected payment is entered as. -/
def collected (entry : LedgerEntry) : Bool := decide (entry.entryType ∈ collectedTypes)

def creditsOf (tables : Tables Row) (transactionId : ℕ) : List LedgerEntry :=
  (tables .ledgerEntries).filter fun entry =>
    collected entry && entry.referenceId == some transactionId

def paymentAt (tables : Tables Row) (transactionId : ℕ) : List Transaction :=
  (tables .transactions).filter fun payment => payment.id == transactionId

/-- The entries of one credit, for what was paid. -/
def EnteredOnce (amount : Numeric) (entries : List LedgerEntry) : Prop :=
  ∃ collection fee share, entries = [collection, fee, share] ∧
    collection.entryType = .collection ∧ fee.entryType = .platformFee ∧
      share.entryType = .tenantShare ∧ collection.amount = amount

/-- A completed payment has been credited once, any other has not. -/
def Accounted (payment : Transaction) (entries : List LedgerEntry) : Prop :=
  if payment.status = .completed then EnteredOnce payment.amount entries else entries = []

/-- A payment that is decided stays so, with the credits it has. -/
def DecidedStay (before after : Tables Row) : Prop :=
  ∀ old ∈ before .transactions, old.status.terminal = true →
    ∃ payment ∈ after .transactions, payment.id = old.id ∧ payment.status = old.status ∧
      creditsOf after old.id = creditsOf before old.id

theorem DecidedStay.refl (tables : Tables Row) : DecidedStay tables tables :=
  fun old hold _ => ⟨old, hold, rfl, rfl, rfl⟩

theorem DecidedStay.trans {first second third : Tables Row} (h : DecidedStay first second)
    (h' : DecidedStay second third) : DecidedStay first third := by
  intro old hold hterminal
  obtain ⟨middle, hmiddle, hid, hstatus, hcredits⟩ := h old hold hterminal
  obtain ⟨payment, hpayment, hid', hstatus', hcredits'⟩ :=
    h' middle hmiddle (by rw [hstatus, hterminal])
  rw [hid] at hcredits'
  exact ⟨payment, hpayment, hid'.trans hid, hstatus'.trans hstatus, hcredits'.trans hcredits⟩

/-- Between transactions every payment is accounted for, and nothing else is credited.  Who holds
the row of a payment relies on it, and on its credits, to stay as they are. -/
def crediting : Discipline Row where
  inv tables := (tables .transactions).Pairwise (fun left right => left.id ≠ right.id) ∧
    (∀ payment ∈ tables .transactions, Accounted payment (creditsOf tables payment.id)) ∧
      ∀ id, creditsOf tables id ≠ [] → ∃ payment ∈ tables .transactions, payment.id = id
  rely locked before after :=
    (∀ key ∈ locked, key.1 = .transactions ∨ key.1 = .ledgerEntries →
      SameAt schema before after key) ∧
    (∀ id, (Table.transactions, id) ∈ locked → creditsOf after id = creditsOf before id) ∧
      DecidedStay before after
  refl _ tables := ⟨fun _ _ _ => rfl, fun _ _ => rfl, .refl tables⟩
  trans h h' := ⟨fun key hkey ht => (h'.1 key hkey ht).trans (h.1 key hkey ht),
    fun id hid => (h'.2.1 id hid).trans (h.2.1 id hid), h.2.2.trans h'.2.2⟩
  mono hsub h := ⟨fun key hkey => h.1 key (hsub hkey), fun id hid => h.2.1 id (hsub hid), h.2.2⟩

/-! ## A transaction under way -/

/-- What a transaction has written of payments and of collected entries, all of it its own. -/
structure Books (payments : List Transaction) (entries : List LedgerEntry) (own : Own Row)
    (committed : Tables Row) : Prop where
  payments : own.written .transactions = payments
  entries : (own.written .ledgerEntries).filter collected = entries
  distinct : (own.written .ledgerEntries).Pairwise fun left right => left.id ≠ right.id
  keyed : ∀ entry ∈ own.written .ledgerEntries, (Table.ledgerEntries, entry.id) ∈ own.locked ∧
    ∀ old ∈ committed .ledgerEntries, old.id ≠ entry.id

/-- The transaction holds a payment: `before` is what is committed of it, and `payment` what the
transaction itself reads. -/
structure Holds (before : Option Transaction) (payment : Transaction) (entries : List LedgerEntry)
    (own : Own Row) (committed : Tables Row) : Prop where
  books : Books [] entries own committed ∧ before = some payment ∨
    Books [payment] entries own committed
  locked : (Table.transactions, payment.id) ∈ own.locked
  stored : paymentAt committed payment.id = before.toList

section Sessions

variable {payments : List Transaction} {entries : List LedgerEntry} {before : Option Transaction}
  {payment : Transaction} {own own' : Own Row} {committed later : Tables Row}
  {held : Held Row} {draw : Draw Ask Answer HttpResult} {keys : List (Key Table)}

theorem Books.stable (h : Books payments entries own committed)
    (hrely : crediting.rely own.locked committed later) : Books payments entries own later where
  payments := h.payments
  entries := h.entries
  distinct := h.distinct
  keyed entry hentry := by
    obtain ⟨hlocked, hfresh⟩ := h.keyed entry hentry
    exact ⟨hlocked, (hrely.1 _ hlocked (Or.inr rfl)).fresh hfresh⟩

theorem Holds.stable (h : Holds before payment entries own committed)
    (hrely : crediting.rely own.locked committed later) :
    Holds before payment entries own later where
  books := by
    rcases h.books with ⟨hbooks, hbefore⟩ | hbooks
    · exact Or.inl ⟨hbooks.stable hrely, hbefore⟩
    · exact Or.inr (hbooks.stable hrely)
  locked := h.locked
  stored := by
    have hsame : SameAt schema committed later (Table.transactions, payment.id) :=
      hrely.1 _ h.locked (Or.inl rfl)
    exact Eq.trans hsame h.stored

/-- Reading and locking more changes nothing of it. -/
theorem Books.of_own (h : Books payments entries own committed)
    (hpayments : own'.written .transactions = own.written .transactions)
    (hentries : own'.written .ledgerEntries = own.written .ledgerEntries)
    (hlocked : own.locked ⊆ own'.locked) : Books payments entries own' committed where
  payments := hpayments.trans h.payments
  entries := by rw [hentries, h.entries]
  distinct := by
    rw [hentries]
    exact h.distinct
  keyed := by
    rw [hentries]
    intro entry hentry
    obtain ⟨hkey, hfresh⟩ := h.keyed entry hentry
    exact ⟨hlocked hkey, hfresh⟩

/-- The ledger as the transaction sees it. -/
theorem Books.overlay_ledger (h : Books payments entries own committed) :
    overlay schema committed own.written .ledgerEntries =
      committed .ledgerEntries ++ own.written .ledgerEntries := by
  have hdistinct := h.distinct
  have hfresh : ∀ entry ∈ own.written .ledgerEntries, ∀ old ∈ committed .ledgerEntries,
      old.id ≠ entry.id := fun entry hentry => (h.keyed entry hentry).2
  rw [overlay]
  generalize committed .ledgerEntries = rows at hfresh
  generalize own.written .ledgerEntries = written at hdistinct hfresh
  induction written generalizing rows with
  | nil => rw [List.foldl_nil, List.append_nil]
  | cons first rest ih =>
    obtain ⟨hfirst, hrest⟩ := List.pairwise_cons.mp hdistinct
    have hstored : storeRow schema .ledgerEntries first rows = rows ++ [first] :=
      storeRow_of_fresh (hfresh first List.mem_cons_self)
    rw [List.foldl_cons, hstored, ih _ hrest]
    · rw [List.append_assoc, List.singleton_append]
    · intro entry hentry old hold
      rcases List.mem_append.mp hold with hold | hold
      · exact hfresh entry (List.mem_cons_of_mem _ hentry) old hold
      · rw [List.mem_singleton.mp hold]
        exact hfirst entry hentry

/-! ### Statements on anything else -/

/-- Writes that change no payment and enter nothing that was collected. -/
def beside : Footprint Table Row Request where
  inserts
    | .transactions, _ => False
    | .ledgerEntries, entry => collected entry = false
    | _, _ => True
  updates t _ _ := t ≠ .transactions ∧ t ≠ .ledgerEntries
  sends _ := True

/-- An entry that is new in the ledger. -/
theorem Books.enter {entry : LedgerEntry} (h : Books payments entries own committed)
    (hfresh : ∀ old ∈ overlay schema committed own.written .ledgerEntries, old.id ≠ entry.id) :
    Books payments (entries ++ [entry].filter collected) (own.write schema .ledgerEntries entry)
      committed := by
  rw [h.overlay_ledger] at hfresh
  have hwritten : (own.write schema .ledgerEntries entry).written .ledgerEntries =
      own.written .ledgerEntries ++ [entry] := by
    rw [Own.written_write]
    exact storeRow_of_fresh fun old hold => hfresh old (List.mem_append_right _ hold)
  constructor
  · rw [Own.written_write_of_ne (by decide), h.payments]
  · rw [hwritten, List.filter_append, h.entries]
  · rw [hwritten]
    apply List.pairwise_append.mpr
    refine ⟨h.distinct, List.pairwise_singleton _ _, fun old hold new hnew => ?_⟩
    rw [List.mem_singleton.mp hnew]
    exact hfresh old (List.mem_append_right _ hold)
  · rw [hwritten]
    intro other hother
    rcases List.mem_append.mp hother with hother | hother
    · obtain ⟨hlocked, hother⟩ := h.keyed other hother
      exact ⟨List.mem_append_left _ hlocked, hother⟩
    · obtain rfl := List.mem_singleton.mp hother
      exact ⟨List.mem_append_right _ (List.mem_singleton_self _),
        fun old hold => hfresh old (List.mem_append_left _ hold)⟩

theorem Books.write_beside {t : Table} {row : Row t} (h : Books payments entries own committed)
    (ht : t ≠ .transactions) (ht' : t ≠ .ledgerEntries) :
    Books payments entries (own.write schema t row) committed := by
  apply h.of_own
  · exact Own.written_write_of_ne ht.symm
  · exact Own.written_write_of_ne ht'.symm
  · exact List.subset_append_left _ _

theorem Books.reply {s : Stmt Table Row Ask Request} {reply : Reply Answer HttpResult s}
    (hs : beside.Allows s) (h : Books payments entries own committed)
    (hreply : own.reply schema committed held draw keys s = some (reply, own')) :
    Books payments entries own' committed := by
  cases s with
  | select t p =>
    obtain ⟨-, rfl⟩ := Prod.mk.inj (Option.some.inj hreply)
    exact h.of_own rfl rfl (List.Subset.refl _)
  | selectForUpdate t p =>
    obtain ⟨-, rfl⟩ := Prod.mk.inj (Option.some.inj hreply)
    exact h.of_own rfl rfl (List.subset_append_left _ _)
  | scan t p =>
    obtain ⟨-, rfl⟩ := Prod.mk.inj (Option.some.inj hreply)
    exact h
  | insert t build =>
    simp only [Own.reply] at hreply
    split at hreply
    · rename_i hfresh
      obtain ⟨hid, hfresh⟩ := hfresh
      rcases Own.tryWrite_eq_some hreply with ⟨-, rfl⟩ | ⟨-, rfl, -, -⟩
      · exact h
      · by_cases hledger : t = .ledgerEntries
        · subst hledger
          have hcollected : collected (build draw.id) = false := hs draw.id
          have hother : ∀ old ∈ overlay schema committed own.written .ledgerEntries,
              old.id ≠ (build draw.id).id := fun old hold heq => hfresh old hold (heq.trans hid)
          have hentered := h.enter hother
          rwa [List.filter_singleton, hcollected, cond_false, List.append_nil] at hentered
        · apply h.write_beside _ hledger
          rintro rfl
          exact hs 0
    · cases hreply
  | update t id write =>
    obtain ⟨ht, ht'⟩ : t ≠ .transactions ∧ t ≠ .ledgerEntries := hs
    rcases Own.reply_update hreply with ⟨-, rfl⟩ | ⟨old, -, -, -, -, rfl⟩
    · exact h
    · exact h.write_beside ht ht'
  | ask question =>
    obtain ⟨-, rfl⟩ := Prod.mk.inj (Option.some.inj hreply)
    exact h
  | send request =>
    obtain ⟨-, rfl⟩ := Prod.mk.inj (Option.some.inj hreply)
    exact h

theorem locked_reply {s : Stmt Table Row Ask Request} {reply : Reply Answer HttpResult s}
    (hreply : own.reply schema committed held draw keys s = some (reply, own')) :
    own.locked ⊆ own'.locked := by
  have hwrite : ∀ {t : Table} {row : Row t} {stored : Option (Row t)},
      own.tryWrite schema committed held t row = some (stored, own') →
        own.locked ⊆ own'.locked := by
    intro t row stored h
    rcases Own.tryWrite_eq_some h with ⟨-, rfl⟩ | ⟨-, rfl, -, -⟩
    · exact List.Subset.refl _
    · exact List.subset_append_left _ _
  cases s with
  | select t p =>
    obtain ⟨-, rfl⟩ := Prod.mk.inj (Option.some.inj hreply)
    exact List.Subset.refl _
  | selectForUpdate t p =>
    obtain ⟨-, rfl⟩ := Prod.mk.inj (Option.some.inj hreply)
    exact List.subset_append_left _ _
  | scan t p =>
    obtain ⟨-, rfl⟩ := Prod.mk.inj (Option.some.inj hreply)
    exact List.Subset.refl _
  | insert t build =>
    simp only [Own.reply] at hreply
    split at hreply
    · exact hwrite hreply
    · cases hreply
  | update t id write =>
    rcases Own.reply_update hreply with ⟨-, rfl⟩ | ⟨old, -, -, -, -, rfl⟩
    · exact List.Subset.refl _
    · exact List.subset_append_left _ _
  | ask question =>
    obtain ⟨-, rfl⟩ := Prod.mk.inj (Option.some.inj hreply)
    exact List.Subset.refl _
  | send request =>
    obtain ⟨-, rfl⟩ := Prod.mk.inj (Option.some.inj hreply)
    exact List.Subset.refl _

theorem Holds.reply {s : Stmt Table Row Ask Request} {reply : Reply Answer HttpResult s}
    (hs : beside.Allows s) (h : Holds before payment entries own committed)
    (hreply : own.reply schema committed held draw keys s = some (reply, own')) :
    Holds before payment entries own' committed where
  books := by
    rcases h.books with ⟨hbooks, hbefore⟩ | hbooks
    · exact Or.inl ⟨hbooks.reply hs hreply, hbefore⟩
    · exact Or.inr (hbooks.reply hs hreply)
  locked := locked_reply hreply h.locked
  stored := h.stored

/-- What the transaction ensures of what it goes on with. -/
abbrev Ends {α : Type} (returns : α → Own Row → Tables Row → Prop) (x : Tx α) (own : Own Row)
    (committed : Tables Row) : Prop :=
  Ensures schema crediting returns x own committed

variable {α : Type} {x : Tx α}

/-- What others leave alone and every statement keeps holds where the program returns. -/
theorem ends_kept {P : Own Row → Tables Row → Prop} {Q : Stmt Table Row Ask Request → Prop}
    (hstable : ∀ {own committed later}, P own committed →
      crediting.rely own.locked committed later → P own later)
    (hreply : ∀ {own own' committed held draw keys} {s : Stmt Table Row Ask Request}
      {reply : Reply Answer HttpResult s}, Q s → P own committed →
        own.reply schema committed held draw keys s = some (reply, own') → P own' committed)
    (hall : x.All Q) (h : P own committed) :
    Ends (fun _ own' later => P own' later) x own committed := by
  induction x generalizing own committed with
  | done result =>
    cases result with
    | ok a => exact fun later hrely _ => hstable h hrely
    | error e => trivial
  | step s next ih =>
    intro later hrely _ held draw keys reply own' hstep
    exact ih reply (hall.2 reply) (hreply hall.1 (hstable h hrely) hstep)

theorem ends_books (hall : x.All beside.Allows) (h : Books payments entries own committed) :
    Ends (fun _ own' later => Books payments entries own' later) x own committed :=
  ends_kept Books.stable Books.reply hall h

theorem ends_holds (hall : x.All beside.Allows)
    (h : Holds before payment entries own committed) :
    Ends (fun _ own' later => Holds before payment entries own' later) x own committed :=
  ends_kept Holds.stable Holds.reply hall h

theorem ends_pure {a : α} {returns : α → Own Row → Tables Row → Prop}
    (h : ∀ later, crediting.rely own.locked committed later → crediting.inv later →
      returns a own later) : Ends returns (pure a) own committed := h

/-! ### The payment that is held -/

/-- The transaction reads the payment as it holds it. -/
theorem Holds.visible (h : Holds before payment entries own committed) {row : Transaction}
    (hrow : row ∈ overlay schema committed own.written .transactions)
    (hid : row.id = payment.id) : row = payment := by
  rcases h.books with ⟨hbooks, hbefore⟩ | hbooks
  · rw [overlay_of_unwritten hbooks.payments] at hrow
    have hmem : row ∈ paymentAt committed payment.id :=
      List.mem_filter.mpr ⟨hrow, beq_iff_eq.mpr hid⟩
    rw [h.stored, hbefore] at hmem
    exact List.mem_singleton.mp hmem
  · rw [overlay_of_written hbooks.payments] at hrow
    rcases mem_storeRow.mp hrow with heq | ⟨-, hne⟩
    · exact heq
    · exact absurd hid hne

/-- The payment is written. -/
theorem Holds.write {set : Transaction} (h : Holds before payment entries own committed)
    (hid : set.id = payment.id) :
    Holds before set entries (own.write schema .transactions set) committed where
  books := by
    right
    have hwritten : (own.write schema .transactions set).written .transactions = [set] := by
      rw [Own.written_write]
      rcases h.books with ⟨hbooks, -⟩ | hbooks
      · rw [hbooks.payments]
        exact storeRow_nil
      · rw [hbooks.payments]
        exact @storeRow_singleton _ _ schema .transactions _ _ hid.symm
    have hledger : (own.write schema .transactions set).written .ledgerEntries =
        own.written .ledgerEntries := Own.written_write_of_ne (by decide)
    obtain ⟨payments, hbooks⟩ : ∃ payments, Books payments entries own committed := by
      rcases h.books with ⟨hbooks, -⟩ | hbooks
      · exact ⟨_, hbooks⟩
      · exact ⟨_, hbooks⟩
    constructor
    · exact hwritten
    · rw [hledger, hbooks.entries]
    · rw [hledger]
      exact hbooks.distinct
    · rw [hledger]
      intro entry hentry
      obtain ⟨hlocked, hfresh⟩ := hbooks.keyed entry hentry
      exact ⟨List.mem_append_left _ hlocked, hfresh⟩
  locked := by
    rw [hid]
    exact List.mem_append_left _ h.locked
  stored := by
    rw [hid]
    exact h.stored

theorem ends_updateTransaction {set : Transaction → Transaction}
    (h : Holds before payment entries own committed) (hset : payment.SameOrder (set payment)) :
    Ends (fun updated own' later => updated = set payment ∧
        Holds before (set payment) entries own' later)
      (updateTransaction payment set) own committed := by
  intro later hrely _ held draw keys reply own' hreply
  have hlater := h.stable hrely
  rcases Own.reply_update hreply with ⟨rfl, -⟩ | ⟨old, hold, hid, -, rfl, rfl⟩
  · trivial
  · obtain rfl : old = payment := hlater.visible hold hid
    rw [Transaction.flush_loaded hset]
    exact fun last hlast _ => ⟨rfl, (hlater.write hset.id).stable hlast⟩

theorem ends_createTransaction {build : ℕ → Transaction} (h : Books [] [] own committed) :
    Ends (fun created own' later => (∃ id, created = build id) ∧ Holds none created [] own' later)
      (create .transactions build) own committed := by
  intro later hrely _ held draw keys reply own' hreply
  have hlater := h.stable hrely
  simp only [Own.reply] at hreply
  split at hreply
  · rename_i hfresh
    obtain ⟨hid, hfresh⟩ := hfresh
    rw [overlay_of_unwritten hlater.payments] at hfresh
    rcases Own.tryWrite_eq_some hreply with ⟨rfl, rfl⟩ | ⟨rfl, rfl, -, -⟩
    · trivial
    · have hledger : (own.write schema .transactions (build draw.id)).written .ledgerEntries =
          own.written .ledgerEntries := Own.written_write_of_ne (by decide)
      have hholds : Holds none (build draw.id) []
          (own.write schema .transactions (build draw.id)) later :=
        { books := by
            right
            constructor
            · rw [Own.written_write, hlater.payments]
              exact storeRow_nil
            · rw [hledger, hlater.entries]
            · rw [hledger]
              exact hlater.distinct
            · rw [hledger]
              intro entry hentry
              obtain ⟨hlocked, hnew⟩ := hlater.keyed entry hentry
              exact ⟨List.mem_append_left _ hlocked, hnew⟩
          locked := List.mem_append_right _ (List.mem_singleton_self _)
          stored := by
            apply List.filter_eq_nil_iff.mpr
            intro old hold
            rw [show (build draw.id).id = draw.id from hid, beq_iff_eq]
            exact hfresh old hold }
      exact fun last hlast _ => ⟨⟨_, rfl⟩, hholds.stable hlast⟩
  · cases hreply

theorem ends_createEntry {build : ℕ → LedgerEntry}
    (h : Holds before payment entries own committed)
    (hbuild : ∀ id, collected (build id) = true) :
    Ends (fun created own' later => (∃ id, created = build id) ∧
        Holds before payment (entries ++ [created]) own' later)
      (create .ledgerEntries build) own committed := by
  intro later hrely _ held draw keys reply own' hreply
  have hlater := h.stable hrely
  simp only [Own.reply] at hreply
  split at hreply
  · rename_i hfresh
    obtain ⟨hid, hfresh⟩ := hfresh
    rcases Own.tryWrite_eq_some hreply with ⟨rfl, rfl⟩ | ⟨rfl, rfl, -, -⟩
    · trivial
    · have henter : ∀ payments, Books payments entries own later →
          Books payments (entries ++ [build draw.id])
            (own.write schema .ledgerEntries (build draw.id)) later := by
        intro payments hbooks
        have hother : ∀ old ∈ overlay schema later own.written .ledgerEntries,
            old.id ≠ (build draw.id).id := fun old hold heq => hfresh old hold (heq.trans hid)
        have hentered := hbooks.enter hother
        rwa [List.filter_singleton, hbuild, cond_true] at hentered
      have hholds : Holds before payment (entries ++ [build draw.id])
          (own.write schema .ledgerEntries (build draw.id)) later :=
        { books := by
            rcases hlater.books with ⟨hbooks, hbefore⟩ | hbooks
            · exact Or.inl ⟨henter _ hbooks, hbefore⟩
            · exact Or.inr (henter _ hbooks)
          locked := List.mem_append_left _ hlater.locked
          stored := hlater.stored }
      exact fun last hlast _ => ⟨⟨_, rfl⟩, hholds.stable hlast⟩
  · cases hreply

/-- Of a stored payment there is one row. -/
theorem paymentAt_of_mem (hinv : crediting.inv committed)
    (hpayment : payment ∈ committed .transactions) :
    paymentAt committed payment.id = [payment] := by
  have hnodup : (committed .transactions).Nodup :=
    hinv.1.imp fun hne heq => hne (congrArg Transaction.id heq)
  have hsymm : Std.Symm fun left right : Transaction => left.id ≠ right.id :=
    ⟨fun _ _ h => h.symm⟩
  have hunique : ∀ row ∈ committed .transactions, ∀ other ∈ committed .transactions,
      (row.id == payment.id) = true → (other.id == payment.id) = true → row = other := by
    intro row hrow other hother hid hid'
    by_contra hne
    exact hinv.1.forall hrow hother hne ((beq_iff_eq.mp hid).trans (beq_iff_eq.mp hid').symm)
  rcases Db.filter_cases hnodup hunique with ⟨-, hnone⟩ | ⟨row, hrow, hid, hone⟩
  · exact absurd (beq_self_eq_true payment.id) (by simpa using hnone payment hpayment)
  · rw [paymentAt, hone]
    rw [hunique row hrow payment hpayment hid (beq_self_eq_true _)]

theorem ends_scalarOneOrNone {rows : List α} {returns : Option α → Own Row → Tables Row → Prop}
    (h : ∀ found later, crediting.rely own.locked committed later →
      (∀ a, found = some a → a ∈ rows) → returns found own later) :
    Ends returns (scalarOneOrNone rows) own committed := by
  match rows with
  | [] => exact fun later hrely _ => h none later hrely (by simp)
  | [row] => exact fun later hrely _ => h (some row) later hrely (by simp)
  | _ :: _ :: _ => trivial

/-- A payment that is locked before anything was read of it is held as it is committed. -/
theorem ends_lockPayment {p : Transaction → Bool} (h : Books [] [] own committed)
    (hunread : own.loaded .transactions = []) :
    Ends (fun found own' later => Books [] [] own' later ∧
        ∀ payment, found = some payment → Holds (some payment) payment [] own' later)
      (selectOneForUpdate .transactions p) own committed := by
  intro later hrely hinv held draw keys reply own' hreply
  have hlater := h.stable hrely
  obtain ⟨rfl, hown⟩ := Prod.mk.inj (Option.some.inj hreply)
  have hbooks : Books [] [] own' later := by
    apply hlater.of_own
    · rw [← hown]
      rfl
    · rw [← hown]
      rfl
    · rw [← hown]
      exact List.subset_append_left _ _
  have hholds : ∀ payment ∈ ((own.lock keys).load schema .transactions
      ((overlay schema later own.written .transactions).filter fun row =>
        keys.contains (Table.transactions, row.id) && p row)).1,
      Holds (some payment) payment [] own' later := by
    intro payment hpayment
    obtain ⟨row, hrow, rfl⟩ := List.mem_map.mp hpayment
    obtain ⟨hstored, hmatches⟩ := List.mem_filter.mp hrow
    rw [overlay_of_unwritten hlater.payments] at hstored
    have hobject : (own.lock keys).object schema .transactions row = row := by
      rw [Own.object, show (own.lock keys).loaded .transactions = [] from hunread]
      rfl
    rw [hobject]
    refine ⟨Or.inl ⟨hbooks, rfl⟩, ?_, paymentAt_of_mem hinv hstored⟩
    rw [← hown]
    apply List.mem_append_right
    simpa using (Bool.and_eq_true_iff.mp hmatches).1
  apply ends_scalarOneOrNone
  intro found last hlast hfound
  exact ⟨hbooks.stable hlast, fun payment heq => (hholds payment (hfound payment heq)).stable hlast⟩

/-! ### The commit -/

/-- What may be committed of a payment that was `before`: it is new and not completed, it has the
status it had, it was open and is not completed, or it was open, is completed and credited. -/
inductive Closes : Option Transaction → Transaction → List LedgerEntry → Prop
  | started {payment : Transaction} (hstatus : payment.status ≠ .completed) :
      Closes none payment []
  | kept {old payment : Transaction} (hamount : payment.amount = old.amount)
      (hstatus : payment.status = old.status) : Closes (some old) payment []
  | moved {old payment : Transaction} (hopen : old.status.terminal = false)
      (hstatus : payment.status ≠ .completed) : Closes (some old) payment []
  | credited {old payment : Transaction} {entries : List LedgerEntry}
      (hopen : old.status.terminal = false) (hstatus : payment.status = .completed)
      (hcredited : EnteredOnce payment.amount entries)
      (hreference : ∀ entry ∈ entries, entry.referenceId = some payment.id) :
      Closes (some old) payment entries

/-- Whatever the transaction entered, it entered for the payment. -/
theorem Closes.reference (h : Closes before payment entries) :
    ∀ entry ∈ entries, entry.referenceId = some payment.id := by
  cases h with
  | started hstatus => simp
  | kept hamount hstatus => simp
  | moved hopen hstatus => simp
  | credited hopen hstatus hcredited hreference => exact hreference

theorem Books.creditsOf_overlay (h : Books payments entries own committed) (id : ℕ) :
    creditsOf (overlay schema committed own.written) id =
      creditsOf committed id ++ entries.filter fun entry => entry.referenceId == some id := by
  rw [creditsOf, h.overlay_ledger, List.filter_append, ← h.entries, List.filter_filter, creditsOf]
  congr 2
  funext entry
  exact Bool.and_comm _ _

theorem pairwise_storeRow {rows : List Transaction} {row : Transaction}
    (h : rows.Pairwise fun left right => left.id ≠ right.id) :
    (storeRow schema .transactions row rows).Pairwise fun left right => left.id ≠ right.id := by
  by_cases hfresh : ∀ old ∈ rows, rowId .transactions old ≠ row.id
  · rw [show storeRow schema .transactions row rows = rows ++ [row] from storeRow_of_fresh hfresh]
    apply List.pairwise_append.mpr
    refine ⟨h, List.pairwise_singleton _ _, fun old hold new hnew => ?_⟩
    rw [List.mem_singleton.mp hnew]
    exact hfresh old hold
  · push Not at hfresh
    obtain ⟨old, hold, hid⟩ := hfresh
    rw [show storeRow schema .transactions row rows = replaceRow schema .transactions row rows from
      storeRow_of_mem hold hid, replaceRow, List.pairwise_map]
    have hids : ∀ old : Transaction,
        (if rowId .transactions old = row.id then row else old).id = old.id := by
      intro old
      split
      · rename_i heq
        exact heq.symm
      · rfl
    refine h.imp fun {left right} hne => ?_
    exact fun heq => hne ((hids left).symm.trans (heq.trans (hids right)))

/-- A transaction that wrote no payment may be committed. -/
theorem Books.commits (h : Books [] [] own committed) (hinv : crediting.inv committed) :
    Commits schema crediting own committed := by
  have hcredits : ∀ id, creditsOf (overlay schema committed own.written) id =
      creditsOf committed id := by
    intro id
    rw [h.creditsOf_overlay, List.filter_nil, List.append_nil]
  constructor
  · refine ⟨?_, ?_, ?_⟩
    · rw [overlay_of_unwritten h.payments]
      exact hinv.1
    · rw [overlay_of_unwritten h.payments]
      intro payment hpayment
      rw [hcredits]
      exact hinv.2.1 payment hpayment
    · rw [overlay_of_unwritten h.payments]
      intro id hid
      rw [hcredits] at hid
      exact hinv.2.2 id hid
  · intro locked hdisjoint
    constructor
    · rintro ⟨t, id⟩ hkey ht
      apply sameAt_overlay
      intro row hrow heq
      rcases ht with rfl | rfl
      · rw [h.payments] at hrow
        cases hrow
      · have hlocked := (h.keyed row hrow).1
        rw [show row.id = id from heq] at hlocked
        exact hdisjoint hkey hlocked
    · refine ⟨fun id _ => hcredits id, fun old hold _ => ⟨old, ?_, rfl, rfl, hcredits _⟩⟩
      rwa [overlay_of_unwritten h.payments]

/-- The payment is among the rows the transaction leaves. -/
theorem Holds.mem_overlay (h : Holds before payment entries own committed) :
    payment ∈ overlay schema committed own.written .transactions ∧
      ∀ row ∈ committed .transactions, row.id ≠ payment.id →
        row ∈ overlay schema committed own.written .transactions := by
  rcases h.books with ⟨hbooks, hbefore⟩ | hbooks
  · rw [overlay_of_unwritten hbooks.payments]
    have hmem : payment ∈ paymentAt committed payment.id := by
      rw [h.stored, hbefore]
      exact List.mem_singleton_self _
    exact ⟨(List.mem_filter.mp hmem).1, fun row hrow _ => hrow⟩
  · rw [overlay_of_written hbooks.payments]
    exact ⟨mem_storeRow.mpr (Or.inl rfl), fun row hrow hid => mem_storeRow.mpr (Or.inr ⟨hrow, hid⟩)⟩

/-- What is committed of the payment, and of its credits. -/
theorem Holds.before_mem (h : Holds before payment entries own committed)
    (hinv : crediting.inv committed) : ∀ old ∈ before, old.id = payment.id ∧
      Accounted old (creditsOf committed payment.id) := by
  rintro old rfl
  have hold : old ∈ paymentAt committed payment.id := by
    rw [h.stored]
    exact List.mem_singleton_self _
  obtain ⟨hstored, hid⟩ := List.mem_filter.mp hold
  have hid := beq_iff_eq.mp hid
  rw [← hid]
  exact ⟨rfl, hinv.2.1 old hstored⟩

theorem ne_completed_of_open {status : CollectionStatus} (h : status.terminal = false) :
    status ≠ .completed := by
  rintro rfl
  cases h

/-- A payment that is closed is accounted for. -/
theorem Closes.accounted (hclose : Closes before payment entries)
    (h : Holds before payment entries own committed) (hinv : crediting.inv committed) :
    Accounted payment (creditsOf committed payment.id ++ entries) := by
  have hbefore := h.before_mem hinv
  cases hclose with
  | started hstatus =>
    rw [Accounted, if_neg hstatus, List.append_nil]
    by_contra hcredits
    obtain ⟨old, hold, hid⟩ := hinv.2.2 _ hcredits
    have hmem : old ∈ paymentAt committed payment.id :=
      List.mem_filter.mpr ⟨hold, beq_iff_eq.mpr hid⟩
    rw [h.stored] at hmem
    cases hmem
  | @kept old _ hamount hstatus =>
    obtain ⟨-, haccounted⟩ := hbefore old rfl
    rw [List.append_nil, Accounted, hstatus, hamount]
    exact haccounted
  | @moved old _ hopen hstatus =>
    obtain ⟨-, haccounted⟩ := hbefore old rfl
    rw [Accounted, if_neg (ne_completed_of_open hopen)] at haccounted
    rw [Accounted, if_neg hstatus, haccounted, List.append_nil]
  | @credited old _ _ hopen hstatus hcredited =>
    obtain ⟨-, haccounted⟩ := hbefore old rfl
    rw [Accounted, if_neg (ne_completed_of_open hopen)] at haccounted
    rw [Accounted, if_pos hstatus, haccounted, List.nil_append]
    exact hcredited

/-- A payment that was decided is closed as it was. -/
theorem Closes.decided (hclose : Closes before payment entries) {old : Transaction}
    (hold : before = some old) (hterminal : old.status.terminal = true) :
    payment.status = old.status ∧ entries = [] := by
  cases hclose with
  | started hstatus => cases hold
  | kept hamount hstatus =>
    obtain rfl := Option.some.inj hold
    exact ⟨hstatus, rfl⟩
  | moved hopen hstatus =>
    obtain rfl := Option.some.inj hold
    cases hopen.symm.trans hterminal
  | credited hopen hstatus =>
    obtain rfl := Option.some.inj hold
    cases hopen.symm.trans hterminal

/-- A transaction that holds a payment may be committed where it closes it. -/
theorem Holds.commits (h : Holds before payment entries own committed)
    (hclose : Closes before payment entries) (hinv : crediting.inv committed) :
    Commits schema crediting own committed := by
  obtain ⟨payments, hbooks, hpayments⟩ : ∃ payments, Books payments entries own committed ∧
      ∀ row ∈ payments, row.id = payment.id := by
    rcases h.books with ⟨hbooks, -⟩ | hbooks
    · exact ⟨_, hbooks, by simp⟩
    · exact ⟨_, hbooks, by simp⟩
  -- the credits of any other payment stay
  have hcredits : ∀ id, id ≠ payment.id →
      creditsOf (overlay schema committed own.written) id = creditsOf committed id := by
    intro id hid
    rw [hbooks.creditsOf_overlay, List.filter_eq_nil_iff.mpr, List.append_nil]
    intro entry hentry heq
    rw [hclose.reference entry hentry, beq_iff_eq] at heq
    exact hid (Option.some.inj heq).symm
  have hself : creditsOf (overlay schema committed own.written) payment.id =
      creditsOf committed payment.id ++ entries := by
    rw [hbooks.creditsOf_overlay, List.filter_eq_self.mpr]
    intro entry hentry
    rw [hclose.reference entry hentry]
    exact beq_self_eq_true _
  have hothers : ∀ row ∈ overlay schema committed own.written .transactions,
      row.id ≠ payment.id → row ∈ committed .transactions := by
    intro row hrow hid
    rcases Interleaving.mem_overlay hrow with hrow | hrow
    · exact hrow
    · rw [hbooks.payments] at hrow
      exact absurd (hpayments row hrow) hid
  constructor
  · refine ⟨?_, ?_, ?_⟩
    · rcases h.books with ⟨hnone, -⟩ | hone
      · rw [overlay_of_unwritten hnone.payments]
        exact hinv.1
      · rw [overlay_of_written hone.payments]
        exact pairwise_storeRow hinv.1
    · intro row hrow
      by_cases hid : row.id = payment.id
      · rw [h.visible hrow hid, hself]
        exact hclose.accounted h hinv
      · rw [hcredits _ hid]
        exact hinv.2.1 row (hothers row hrow hid)
    · intro id hid
      by_cases heq : id = payment.id
      · exact ⟨payment, h.mem_overlay.1, heq.symm⟩
      · rw [hcredits id heq] at hid
        obtain ⟨row, hrow, rfl⟩ := hinv.2.2 id hid
        exact ⟨row, h.mem_overlay.2 row hrow heq, rfl⟩
  · intro locked hdisjoint
    constructor
    · rintro ⟨t, id⟩ hkey ht
      apply sameAt_overlay
      intro row hrow heq
      rcases ht with rfl | rfl
      · rw [hbooks.payments] at hrow
        obtain rfl : payment.id = id := (hpayments row hrow).symm.trans heq
        exact hdisjoint hkey h.locked
      · have hlocked := (hbooks.keyed row hrow).1
        rw [show row.id = id from heq] at hlocked
        exact hdisjoint hkey hlocked
    · refine ⟨fun id hkey => hcredits id ?_, fun old hold hterminal => ?_⟩
      · rintro rfl
        exact hdisjoint hkey h.locked
      · by_cases hid : old.id = payment.id
        · have hbefore : before = some old := by
            have hmem : old ∈ paymentAt committed payment.id :=
              List.mem_filter.mpr ⟨hold, beq_iff_eq.mpr hid⟩
            rw [h.stored] at hmem
            exact Option.mem_toList.mp hmem
          obtain ⟨hstatus, rfl⟩ := hclose.decided hbefore hterminal
          refine ⟨payment, h.mem_overlay.1, hid.symm, hstatus, ?_⟩
          rw [hid, hself, List.append_nil]
        · exact ⟨old, h.mem_overlay.2 old hold hid, rfl, rfl, hcredits _ hid⟩


end Sessions

end InfinityRadius.Services.ConcurrentCredits
