import InfinityRadius.Core.Joins
import InfinityRadius.Services.PaidAccess
import Mathlib.Data.List.Sort

/-!
# Packages sold

`package_performance` of `services/dashboard.py` joins packages with their subscriptions and those
with their payments, and counts the joined rows.  A subscription is paid for once at most, so
nothing is counted twice, and what the report calls revenue is what the ledger collected.
-/

namespace InfinityRadius.Services

open Amounts Database Joins Payload Program Sql Models CaptivePortalActivationService WalletService

structure PackagePerformanceRow where
  packageId : ℕ
  packageName : String
  totalSubscriptions : ℕ
  activeSubscriptions : ℕ
  revenueTzs : Numeric
deriving DecidableEq

/-- A package with one of its subscriptions, if there is one, and a payment for that. -/
abbrev Sale := (Package × Option Subscription) × Option Transaction

namespace DashboardService

/-- The subscription is one of the package. -/
def sellsPackage (package : Package) (subscription : Subscription) : Bool :=
  subscription.packageId == package.id && subscription.tenantId == package.tenantId

/-- The transaction is a payment for the subscription, where the row has one. -/
def paysFor (row : Package × Option Subscription) (t : Transaction) : Bool :=
  (row.2.any fun subscription => t.subscriptionId == some subscription.id) &&
    t.tenantId == row.1.tenantId

/-- The joined rows, of the packages of the tenant. -/
def sales (db : PlatformDb) (tenantId : ℕ) : List Sale :=
  (leftJoin paysFor (leftJoin sellsPackage (db.rows .packages) (db.rows .subscriptions))
    (db.rows .transactions)).filter fun row => row.1.1.tenantId == tenantId

/-- What a joined row adds to the revenue. -/
def revenueOf (row : Sale) : Numeric :=
  (row.2.filter fun t => t.status = .completed).elim 0 Transaction.amount

theorem revenueOf_some {row : Package × Option Subscription} {t : Transaction} :
    revenueOf (row, some t) = if t.status = .completed then t.amount else 0 := by
  by_cases hcompleted : t.status = .completed
  · simp [revenueOf, Option.filter, hcompleted]
  · simp [revenueOf, Option.filter, hcompleted]

/-- A line of the report. -/
def performance (name : ℕ → String) (packageId : ℕ) (rows : List Sale) : PackagePerformanceRow where
  packageId
  packageName := name packageId
  totalSubscriptions := rows.countP fun row => row.1.2.isSome
  activeSubscriptions := rows.countP fun row => row.1.2.any (·.status = .active)
  revenueTzs := sumOf revenueOf rows

/-- `package_performance`, where `name` tells the names of the packages.  The lines come with
the highest revenue first. -/
def packagePerformance (name : ℕ → String) (db : PlatformDb) (tenantId : ℕ) :
    List PackagePerformanceRow :=
  let groups := groupBy (fun row => row.1.1.id) (sales db tenantId)
  let lines := groups.map fun group => performance name group.1 group.2
  let lines := lines.insertionSort fun line other => other.revenueTzs ≤ line.revenueTzs
  if sumOf PackagePerformanceRow.totalSubscriptions lines = 0 then [] else lines

end DashboardService

/-! ## What was sold -/

/-- Every subscription is for a package of its tenant, and every payment for a subscription is
its tenant's, and the only one. -/
structure Sold (db : PlatformDb) : Prop where
  offered : ∀ subscription ∈ db.rows .subscriptions, ∃ package ∈ db.rows .packages,
    package.id = subscription.packageId ∧ package.tenantId = subscription.tenantId
  bought : ∀ t ∈ db.rows .transactions, ∀ id, t.subscriptionId = some id →
    ∃ subscription ∈ db.rows .subscriptions, subscription.id = id ∧
      subscription.tenantId = t.tenantId
  sole : ∀ t ∈ db.rows .transactions, ∀ t' ∈ db.rows .transactions, ∀ id,
    t.subscriptionId = some id → t'.subscriptionId = some id → t = t'

/-- The subscriptions of a package. -/
def subscriptionsOf (db : PlatformDb) (packageId : ℕ) : List Subscription :=
  (db.rows .subscriptions).filter fun subscription => subscription.packageId = packageId

/-- What the completed payments come to that a condition holds of. -/
def takings (db : PlatformDb) (p : Transaction → Bool) : Numeric :=
  sumOf (fun t => if t.status = .completed ∧ p t = true then t.amount else 0)
    (db.rows .transactions)

/-- The payment is for a subscription of the package. -/
def buys (db : PlatformDb) (packageId : ℕ) (t : Transaction) : Bool :=
  (subscriptionsOf db packageId).any fun subscription => t.subscriptionId = some subscription.id

section Report

open DashboardService

variable {db : PlatformDb} {package : Package} {tenantId : ℕ}

/-- A row is paid for once. -/
theorem Sold.paysFor_unique (h : Sold db) (row : Package × Option Subscription) :
    ∀ t ∈ db.rows .transactions, ∀ t' ∈ db.rows .transactions,
      paysFor row t = true → paysFor row t' = true → t = t' := by
  intro t ht t' ht' hpays hpays'
  simp only [paysFor, Bool.and_eq_true, Option.any_eq_true, beq_iff_eq] at hpays hpays'
  obtain ⟨⟨subscription, hrow, hlink⟩, -⟩ := hpays
  obtain ⟨⟨subscription', hrow', hlink'⟩, -⟩ := hpays'
  obtain rfl := Option.some.inj (hrow.symm.trans hrow')
  exact h.sole t ht t' ht' subscription.id hlink hlink'

/-- The subscriptions of a package are its tenant's. -/
theorem Sold.sellsPackage_iff (h : Sold db) (hpackage : package ∈ db.rows .packages)
    {subscription : Subscription} (hmem : subscription ∈ db.rows .subscriptions) :
    sellsPackage package subscription = decide (subscription.packageId = package.id) := by
  obtain ⟨other, hother, hid, htenant⟩ := h.offered subscription hmem
  rw [sellsPackage, Bool.eq_iff_iff, Bool.and_eq_true, beq_iff_eq, beq_iff_eq, decide_eq_true_eq]
  constructor
  · exact fun hsame => hsame.1
  · intro hsame
    obtain rfl : other = package := db.id_injOn hother hpackage (hid.trans hsame)
    exact ⟨hsame, htenant.symm⟩

/-- The joined rows of one package. -/
def salesOf (db : PlatformDb) (package : Package) : List Sale :=
  leftJoin paysFor (leftJoin sellsPackage [package] (db.rows .subscriptions))
    (db.rows .transactions)

theorem filter_id (hpackage : package ∈ db.rows .packages) :
    ((db.rows .packages).filter fun other => decide (other.id = package.id)) = [package] := by
  have hunique : ∀ other ∈ db.rows .packages, ∀ another ∈ db.rows .packages,
      decide (other.id = package.id) = true → decide (another.id = package.id) = true →
        other = another := by
    intro other hother another hanother hid hid'
    exact db.id_injOn hother hanother
      ((of_decide_eq_true hid).trans (of_decide_eq_true hid').symm)
  rcases Db.filter_cases (db.nodup .packages) hunique with ⟨-, hnone⟩ | ⟨other, hother, hid, hone⟩
  · exact absurd rfl (of_decide_eq_false (hnone package hpackage))
  · rw [hone, db.id_injOn hother hpackage (of_decide_eq_true hid)]

/-- The group of a package. -/
theorem filter_sales (hpackage : package ∈ db.rows .packages)
    (htenant : package.tenantId = tenantId) :
    (sales db tenantId).filter (fun row => row.1.1.id = package.id) = salesOf db package := by
  rw [sales, List.filter_filter, salesOf, ← filter_id hpackage, ← filter_leftJoin, ← filter_leftJoin]
  apply List.filter_congr
  intro row hrow
  have hlisted : row.1.1 ∈ db.rows .packages := (mem_leftJoin (mem_leftJoin hrow).1).1
  by_cases hid : row.1.1.id = package.id
  · rw [db.id_injOn hlisted hpackage hid, htenant, beq_self_eq_true, Bool.and_true]
  · rw [decide_eq_false hid, Bool.false_and]

/-- A subscription is counted once, paid for or not. -/
theorem Sold.countP_salesOf (h : Sold db) (hpackage : package ∈ db.rows .packages)
    (p : Subscription → Bool) : (salesOf db package).countP (fun row => row.1.2.any p) =
      (subscriptionsOf db package.id).countP p := by
  calc (salesOf db package).countP (fun row => row.1.2.any p)
    _ = sumOf (fun row : Sale => if row.1.2.any p then 1 else 0) (salesOf db package) :=
      countP_eq_sumOf
    _ = sumOf (fun row => if row.2.any p then 1 else 0)
          (leftJoin sellsPackage [package] (db.rows .subscriptions)) :=
      @sumOf_leftJoin_left _ _ ℕ _ paysFor _ _ (fun row => if row.2.any p then 1 else 0)
        (db.nodup .transactions) fun row _ => h.paysFor_unique row
    _ = sumOf (fun subscription => if sellsPackage package subscription then
          if p subscription then 1 else 0 else 0) (db.rows .subscriptions) := by
      rw [sumOf_leftJoin_right fun _ _ => rfl, sumOf_cons, sumOf_nil, add_zero]
      rfl
    _ = (subscriptionsOf db package.id).countP p := by
      rw [countP_eq_sumOf, subscriptionsOf, sumOf_filter]
      apply sumOf_congr
      intro subscription hmem
      rw [h.sellsPackage_iff hpackage hmem]

/-- Which payments the lines of a package count. -/
theorem Sold.buys_eq (h : Sold db) (hpackage : package ∈ db.rows .packages) {t : Transaction}
    (ht : t ∈ db.rows .transactions) : buys db package.id t =
      (db.rows .subscriptions).any fun subscription =>
        sellsPackage package subscription && paysFor (package, some subscription) t := by
  rw [buys, subscriptionsOf, List.any_filter, Bool.eq_iff_iff, List.any_eq_true, List.any_eq_true]
  apply exists_congr
  intro subscription
  apply and_congr_right
  intro hmem
  rw [h.sellsPackage_iff hpackage hmem, paysFor, Option.any_some]
  simp only [Bool.and_eq_true, decide_eq_true_eq, beq_iff_eq]
  apply and_congr_right
  intro hsold
  constructor
  · intro hlink
    use hlink
    obtain ⟨other, hother, hid, htenant⟩ := h.bought t ht _ hlink
    obtain rfl : other = subscription := db.id_injOn hother hmem hid
    have hsells := h.sellsPackage_iff hpackage hmem
    rw [decide_eq_true hsold, sellsPackage, Bool.and_eq_true, beq_iff_eq, beq_iff_eq] at hsells
    exact htenant.symm.trans hsells.2
  · exact fun hpays => hpays.1

/-- A payment is counted once, by its package. -/
theorem Sold.revenue_salesOf (h : Sold db) (hpackage : package ∈ db.rows .packages) :
    sumOf revenueOf (salesOf db package) = takings db (buys db package.id) := by
  have hunpaid : ∀ row ∈ leftJoin sellsPackage [package] (db.rows .subscriptions),
      revenueOf (row, none) = 0 := fun _ _ => rfl
  have hunsold : ∀ other ∈ [package], sumOf (fun t => if paysFor (other, none) t then
      revenueOf ((other, none), some t) else 0) (db.rows .transactions) = 0 :=
    fun other _ => sumOf_eq_zero fun t _ => rfl
  have hinside : ∀ subscription, (if sellsPackage package subscription then
        sumOf (fun t => if paysFor (package, some subscription) t then
          revenueOf ((package, some subscription), some t) else 0) (db.rows .transactions) else 0) =
      sumOf (fun t => if sellsPackage package subscription && paysFor (package, some subscription) t
        then revenueOf ((package, some subscription), some t) else 0) (db.rows .transactions) := by
    intro subscription
    by_cases hsells : sellsPackage package subscription = true
    · simp only [hsells, if_true, Bool.true_and]
    · simp only [eq_false_of_ne_true hsells, Bool.false_and, Bool.false_eq_true, if_false]
      exact (sumOf_eq_zero fun _ _ => rfl).symm
  rw [salesOf, sumOf_leftJoin_right hunpaid, sumOf_leftJoin_right hunsold, sumOf_cons, sumOf_nil,
    add_zero, sumOf_congr fun subscription _ => hinside subscription, sumOf_comm, takings]
  apply sumOf_congr
  intro t ht
  have hunique : ∀ subscription ∈ db.rows .subscriptions, ∀ other ∈ db.rows .subscriptions,
      (sellsPackage package subscription && paysFor (package, some subscription) t) = true →
      (sellsPackage package other && paysFor (package, some other) t) = true →
        subscription = other := by
    intro subscription hmem other hother hpays hpays'
    simp only [paysFor, Option.any_some, Bool.and_eq_true, beq_iff_eq] at hpays hpays'
    apply db.id_injOn hmem hother
    exact Option.some.inj (hpays.2.1.symm.trans hpays'.2.1)
  have hsum := @sumOf_of_unique _ _ _
    (fun subscription => revenueOf ((package, some subscription), some t)) _
    (fun subscription => sellsPackage package subscription && paysFor (package, some subscription) t)
    (revenueOf ((package, none), some t)) (fun _ _ _ => rfl) (db.nodup .subscriptions) hunique
  rw [hsum, ← h.buys_eq hpackage ht, revenueOf_some, ite_and]
  split
  · rfl
  · exact (ite_self _).symm

/-- The payment is for a subscription, and made to the tenant. -/
def subscribes (tenantId : ℕ) (t : Transaction) : Bool :=
  t.tenantId == tenantId && t.subscriptionId.isSome

theorem buys_eq_true {packageId : ℕ} {t : Transaction} : buys db packageId t = true ↔
    ∃ subscription ∈ db.rows .subscriptions, subscription.packageId = packageId ∧
      t.subscriptionId = some subscription.id := by
  rw [buys, subscriptionsOf, List.any_filter, List.any_eq_true]
  simp only [Bool.and_eq_true, decide_eq_true_eq]

/-- A payment for a subscription is one for a package of the tenant it is made to. -/
theorem Sold.any_buys (h : Sold db) {t : Transaction} (ht : t ∈ db.rows .transactions) :
    ((db.rows .packages).any fun package => package.tenantId == tenantId && buys db package.id t) =
      subscribes tenantId t := by
  rw [Bool.eq_iff_iff, List.any_eq_true, subscribes, Bool.and_eq_true, beq_iff_eq,
    Option.isSome_iff_exists]
  constructor
  · rintro ⟨package, hpackage, hbuys⟩
    rw [Bool.and_eq_true, beq_iff_eq, buys_eq_true] at hbuys
    obtain ⟨htenant, subscription, hmem, hid, hlink⟩ := hbuys
    refine ⟨?_, subscription.id, hlink⟩
    obtain ⟨other, hother, hsame, hpaid⟩ := h.bought t ht _ hlink
    obtain rfl : other = subscription := db.id_injOn hother hmem hsame
    obtain ⟨offered, hoffered, hpackageId, hoffers⟩ := h.offered other hother
    obtain rfl : offered = package := db.id_injOn hoffered hpackage (hpackageId.trans hid)
    rw [← hpaid, ← hoffers, htenant]
  · rintro ⟨htenant, id, hlink⟩
    obtain ⟨subscription, hmem, rfl, hpaid⟩ := h.bought t ht id hlink
    obtain ⟨package, hpackage, hpackageId, hoffers⟩ := h.offered subscription hmem
    use package, hpackage
    rw [Bool.and_eq_true, beq_iff_eq, buys_eq_true]
    exact ⟨hoffers.trans (hpaid.trans htenant), subscription, hmem, hpackageId.symm, hlink⟩

/-- The packages of a tenant take in what is paid to it for subscriptions. -/
theorem Sold.revenue_sales (h : Sold db) :
    sumOf revenueOf (sales db tenantId) = takings db (subscribes tenantId) := by
  have hsales : sales db tenantId =
      ((db.rows .packages).filter fun package => package.tenantId == tenantId).flatMap
        (salesOf db) := by
    rw [sales]
    have hjoin := @filter_leftJoin _ _ paysFor
      (leftJoin sellsPackage (db.rows .packages) (db.rows .subscriptions)) (db.rows .transactions)
      fun row => row.1.tenantId == tenantId
    have hpick := @filter_leftJoin _ _ sellsPackage (db.rows .packages) (db.rows .subscriptions)
      fun package => package.tenantId == tenantId
    rw [hjoin, hpick, @leftJoin_eq _ _ sellsPackage, leftJoin_flatMap]
    rfl
  rw [hsales, sumOf_flatMap]
  calc sumOf (fun package => sumOf revenueOf (salesOf db package))
        ((db.rows .packages).filter fun package => package.tenantId == tenantId)
    _ = sumOf (fun package => sumOf (fun t => if package.tenantId == tenantId then
          if t.status = .completed ∧ buys db package.id t = true then t.amount else 0 else 0)
            (db.rows .transactions)) (db.rows .packages) := by
      rw [sumOf_filter]
      apply sumOf_congr
      intro package hpackage
      split
      · exact h.revenue_salesOf hpackage
      · exact (sumOf_eq_zero fun _ _ => rfl).symm
    _ = takings db (subscribes tenantId) := by
      rw [sumOf_comm, takings]
      apply sumOf_congr
      intro t ht
      have hunique : ∀ package ∈ db.rows .packages, ∀ other ∈ db.rows .packages,
          (package.tenantId == tenantId && buys db package.id t) = true →
          (other.tenantId == tenantId && buys db other.id t) = true → package = other := by
        intro package hpackage other hother hbuys hbuys'
        rw [Bool.and_eq_true] at hbuys hbuys'
        apply db.id_injOn hpackage hother
        obtain ⟨subscription, hmem, hid, hlink⟩ := buys_eq_true.mp hbuys.2
        obtain ⟨subscription', hmem', hid', hlink'⟩ := buys_eq_true.mp hbuys'.2
        obtain rfl : subscription = subscription' :=
          db.id_injOn hmem hmem' (Option.some.inj (hlink.symm.trans hlink'))
        exact hid.symm.trans hid'
      have hsum := @sumOf_of_unique _ _ _ (fun _ : Package => t.amount) _
        (fun package => package.tenantId == tenantId && buys db package.id t) t.amount
        (fun _ _ _ => rfl) (db.nodup .packages) hunique
      rw [h.any_buys ht] at hsum
      by_cases hcompleted : t.status = .completed
      · simpa only [hcompleted, true_and, Bool.and_eq_true, ite_and] using hsum
      · simp only [hcompleted, false_and, if_false, ite_self]
        exact sumOf_eq_zero fun _ _ => rfl

end Report

/-! ## What was collected -/

/-- What the ledger collected for payments that a condition holds of. -/
def collectedFor (db : PlatformDb) (p : Transaction → Bool) : Numeric :=
  sumOf (fun entry => if entry.entryType = .collection ∧ ((db.rows .transactions).any fun t =>
    decide (entry.referenceId = some t.id) && p t) = true then entry.amount else 0)
      (db.rows .ledgerEntries)

/-- The collection entries of a payment. -/
theorem Accounted.collections {db : PlatformDb} {t : Transaction} (h : Accounted db t) :
    sumOf LedgerEntry.amount (referring db t.id .collection) =
      if t.status = .completed then t.amount else 0 := by
  rw [Accounted] at h
  split at h
  · rename_i hcompleted
    obtain ⟨collection, fee, share, hentered⟩ := h
    rw [hentered.collections, sumOf_cons, sumOf_nil, add_zero, hentered.collected, if_pos hcompleted]
  · rename_i hopen
    rw [h .collection (by decide), sumOf_nil, if_neg hopen]

/-- The ledger collected the payments that are completed. -/
theorem Ledgered.collectedFor_eq {db : PlatformDb} (h : Ledgered db) (p : Transaction → Bool) :
    collectedFor db p = takings db p := by
  calc collectedFor db p
    _ = sumOf (fun entry => sumOf (fun t => if decide (entry.entryType = .collection) &&
          (decide (entry.referenceId = some t.id) && p t) then entry.amount else 0)
            (db.rows .transactions)) (db.rows .ledgerEntries) := by
      apply sumOf_congr
      intro entry _
      have hunique : ∀ t ∈ db.rows .transactions, ∀ t' ∈ db.rows .transactions,
          (decide (entry.entryType = .collection) &&
            (decide (entry.referenceId = some t.id) && p t)) = true →
          (decide (entry.entryType = .collection) &&
            (decide (entry.referenceId = some t'.id) && p t')) = true → t = t' := by
        intro t ht t' ht' hrefers hrefers'
        simp only [Bool.and_eq_true, decide_eq_true_eq] at hrefers hrefers'
        exact db.id_injOn ht ht' (Option.some.inj (hrefers.2.1.symm.trans hrefers'.2.1))
      have hsum := @sumOf_of_unique _ _ _ (fun _ : Transaction => entry.amount) _
        (fun t => decide (entry.entryType = .collection) &&
          (decide (entry.referenceId = some t.id) && p t)) entry.amount (fun _ _ _ => rfl)
        (db.nodup .transactions) hunique
      rw [hsum]
      by_cases htype : entry.entryType = .collection
      · simp only [htype, decide_true, true_and, Bool.true_and]
      · simp [htype]
    _ = takings db p := by
      rw [sumOf_comm, takings]
      apply sumOf_congr
      intro t ht
      have haccounted := (h.accounted t ht).collections
      rw [referring, sumOf_filter] at haccounted
      by_cases hp : p t = true
      · simp only [hp, and_true, Bool.and_true]
        rw [← haccounted]
        apply sumOf_congr
        intro entry _
        simp only [Bool.and_eq_true, beq_iff_eq, decide_eq_true_eq]
      · simp only [eq_false_of_ne_true hp, Bool.false_eq_true, and_false, Bool.and_false, if_false]
        exact sumOf_eq_zero fun _ _ => rfl

/-! ## The report -/

/-- The line tells what was sold of the package. -/
structure Line (name : ℕ → String) (db : PlatformDb) (package : Package)
    (line : PackagePerformanceRow) : Prop where
  packageId : line.packageId = package.id
  packageName : line.packageName = name package.id
  total : line.totalSubscriptions = (subscriptionsOf db package.id).length
  active : line.activeSubscriptions = (subscriptionsOf db package.id).countP (·.status = .active)
  revenue : line.revenueTzs = takings db (buys db package.id)

/-- The report has a line for each package of the tenant, in order, unless it has no
subscriptions; and together they come to what the ledger collected for subscriptions. -/
structure Reported (name : ℕ → String) (db : PlatformDb) (tenantId : ℕ)
    (lines : List PackagePerformanceRow) : Prop where
  each : ∀ line ∈ lines, ∃ package ∈ db.rows .packages, package.tenantId = tenantId ∧
    Line name db package line
  complete : ∀ subscription ∈ db.rows .subscriptions, subscription.tenantId = tenantId →
    ∀ package ∈ db.rows .packages, package.tenantId = tenantId →
      ∃ line ∈ lines, line.packageId = package.id
  once : (lines.map PackagePerformanceRow.packageId).Nodup
  sorted : lines.Pairwise fun line other => other.revenueTzs ≤ line.revenueTzs
  revenue : sumOf PackagePerformanceRow.revenueTzs lines = collectedFor db (subscribes tenantId)

section Reported

open DashboardService

variable {db : PlatformDb} {tenantId : ℕ} {name : ℕ → String}

/-- The lines before they are sorted. -/
theorem Sold.line (h : Sold db) {group : ℕ × List Sale}
    (hgroup : group ∈ groupBy (fun row => row.1.1.id) (sales db tenantId)) :
    ∃ package ∈ db.rows .packages, package.tenantId = tenantId ∧
      Line name db package (performance name group.1 group.2) := by
  obtain ⟨⟨row, hrow, hid⟩, hrows⟩ := mem_groupBy.mp hgroup
  obtain ⟨hjoined, htenant⟩ := List.mem_filter.mp hrow
  have hpackage : row.1.1 ∈ db.rows .packages := (mem_leftJoin (mem_leftJoin hjoined).1).1
  have htenant : row.1.1.tenantId = tenantId := beq_iff_eq.mp htenant
  use row.1.1, hpackage, htenant
  rw [← hid, filter_sales hpackage htenant] at hrows
  rw [← hid, hrows]
  constructor
  · rfl
  · rfl
  · have hcount := h.countP_salesOf hpackage fun _ => true
    rw [List.countP_true] at hcount
    rw [← hcount]
    apply List.countP_congr
    intro sale _
    rw [Option.any_true]
  · exact h.countP_salesOf hpackage _
  · exact h.revenue_salesOf hpackage

/-- The report is true to the tables. -/
theorem Sold.reported (h : Sold db) (hledgered : Ledgered db) :
    Reported name db tenantId (packagePerformance name db tenantId) := by
  have hcollected := hledgered.collectedFor_eq (subscribes tenantId)
  generalize hgroups : groupBy (fun row : Sale => row.1.1.id) (sales db tenantId) = groups
  generalize hunsorted : (groups.map fun group => performance name group.1 group.2) = unsorted
  have hlines : ∀ line ∈ unsorted, ∃ package ∈ db.rows .packages,
      package.tenantId = tenantId ∧ Line name db package line := by
    intro line hline
    rw [← hunsorted] at hline
    obtain ⟨group, hgroup, rfl⟩ := List.mem_map.mp hline
    exact h.line (hgroups ▸ hgroup)
  have hrevenue : sumOf PackagePerformanceRow.revenueTzs unsorted =
      takings db (subscribes tenantId) := by
    rw [← hunsorted, sumOf_map, ← h.revenue_sales,
      ← @sumOf_groupBy _ _ _ _ _ fun row : Sale => row.1.1.id, hgroups]
    rfl
  have hcomplete : ∀ package ∈ db.rows .packages, package.tenantId = tenantId →
      ∃ line ∈ unsorted, line.packageId = package.id := by
    intro package hpackage htenant
    obtain ⟨joined, hjoined, hsame⟩ := @exists_mem_leftJoin _ _ sellsPackage _
      (db.rows .subscriptions) _ hpackage
    obtain ⟨row, hrow, hfirst⟩ := @exists_mem_leftJoin _ _ paysFor _ (db.rows .transactions) _
      hjoined
    use performance name package.id ((sales db tenantId).filter fun row => row.1.1.id = package.id)
    refine ⟨?_, rfl⟩
    rw [← hunsorted, ← hgroups]
    apply List.mem_map.mpr
    refine ⟨(package.id, _), mem_groupBy.mpr ⟨⟨row, ?_, ?_⟩, rfl⟩, rfl⟩
    · apply List.mem_filter.mpr ⟨hrow, _⟩
      rw [hfirst, hsame, htenant, beq_self_eq_true]
    · rw [hfirst, hsame]
  have hperm := List.perm_insertionSort
    (fun line other : PackagePerformanceRow => other.revenueTzs ≤ line.revenueTzs) unsorted
  rw [packagePerformance, hgroups]
  simp only [hunsorted]
  split
  · rename_i hnone
    -- a subscription of the tenant would be counted
    have hunsold : ∀ subscription ∈ db.rows .subscriptions, subscription.tenantId ≠ tenantId := by
      intro subscription hmem htenant
      obtain ⟨package, hpackage, hid, hoffers⟩ := h.offered subscription hmem
      obtain ⟨line, hline, hlineId⟩ := hcomplete package hpackage (hoffers.trans htenant)
      obtain ⟨other, hother, -, hsold⟩ := hlines line hline
      obtain rfl : other = package :=
        db.id_injOn hother hpackage (hsold.packageId.symm.trans hlineId)
      have hcounted := @le_sumOf _ _ _ PackagePerformanceRow.totalSubscriptions hline
      rw [← sumOf_perm hperm, hnone, hsold.total, Nat.le_zero, List.length_eq_zero_iff,
        subscriptionsOf, List.filter_eq_nil_iff] at hcounted
      exact hcounted subscription hmem (decide_eq_true hid.symm)
    constructor
    · simp
    · exact fun subscription hmem htenant => absurd htenant (hunsold subscription hmem)
    · exact List.nodup_nil
    · exact List.Pairwise.nil
    · rw [sumOf_nil, hcollected, takings, sumOf_eq_zero]
      intro t ht
      apply if_neg
      rintro ⟨-, hsubscribes⟩
      simp only [subscribes, Bool.and_eq_true, beq_iff_eq, Option.isSome_iff_exists] at hsubscribes
      obtain ⟨htenant, id, hlink⟩ := hsubscribes
      obtain ⟨subscription, hmem, -, hpaid⟩ := h.bought t ht id hlink
      exact hunsold subscription hmem (hpaid.trans htenant)
  · constructor
    · exact fun line hline => hlines line (hperm.mem_iff.mp hline)
    · intro _ _ _ package hpackage htenant
      obtain ⟨line, hline, hid⟩ := hcomplete package hpackage htenant
      exact ⟨line, hperm.mem_iff.mpr hline, hid⟩
    · rw [(hperm.map _).nodup_iff, ← hunsorted, List.map_map]
      exact hgroups ▸ nodup_keys
    · exact List.pairwise_insertionSort _ _
    · rw [sumOf_perm hperm, hrevenue, hcollected]

end Reported

end InfinityRadius.Services
