import InfinityRadius.Core.Interleaving
import InfinityRadius.Services.Subscriptions

/-!
# Redeeming a voucher once

Redemptions interleaved statement by statement.  The voucher is locked before it is read, so
nobody else can use it up between the check that it is unused and the commit: what a
redemption relies on from then on is that its voucher and the subscriptions with it stay as
they were.
-/

namespace InfinityRadius.Services.VoucherService

open Database Interleaving Models Program Sql

abbrev Rows := Tables Row

/-- One redemption and what its request asks for. -/
structure RedeemCall where
  tenantId : ℕ
  code : String
  customerId : ℕ

def RedeemCall.program (call : RedeemCall) : Tx (OfflineVoucher × Subscription) :=
  redeem call.tenantId call.code call.customerId

abbrev Redemptions :=
  System schema Ask Request Answer HttpResult Failure (OfflineVoucher × Subscription)

abbrev RedemptionEvent := Event Row Ask Answer HttpResult RedeemCall

/-- Other programs may change what a redemption reads beside its voucher. -/
def shared (t : Table) : Bool := decide (t ≠ .offlineVouchers ∧ t ≠ .subscriptions)

def Redemptions.next (event : RedemptionEvent) (system : Redemptions) : Redemptions :=
  System.next RedeemCall.program shared event system

/-! ## Vouchers and their subscriptions -/

def subscriptionsOf (tables : Rows) (voucherId : ℕ) : List Subscription :=
  (tables .subscriptions).filter fun subscription => subscription.voucherId == some voucherId

/-- The voucher is used and has the subscription it records, or has none. -/
def Accounted (tables : Rows) (voucher : OfflineVoucher) : Prop :=
  (voucher.status = .used ∧ ∃ subscription,
    subscriptionsOf tables voucher.id = [subscription] ∧
      voucher.redeemedSubscriptionId = some subscription.id) ∨
  (voucher.status ≠ .used ∧ subscriptionsOf tables voucher.id = [])

/-- What holds between redemptions, and what one that holds the key of a voucher relies on. -/
def redemption : Discipline Row where
  inv tables := ((tables .offlineVouchers).Pairwise fun left right => left.id ≠ right.id) ∧
    ∀ voucher ∈ tables .offlineVouchers, Accounted tables voucher
  rely locked before after :=
    (∀ key ∈ locked, shared key.1 = false → SameAt schema before after key) ∧
    ∀ id, (Table.offlineVouchers, id) ∈ locked → subscriptionsOf after id = subscriptionsOf before id
  refl _ _ := ⟨fun _ _ _ => rfl, fun _ _ => rfl⟩
  trans h h' := ⟨fun key hkey hshared => (h'.1 key hkey hshared).trans (h.1 key hkey hshared),
    fun id hid => (h'.2 id hid).trans (h.2 id hid)⟩
  mono hsub h := ⟨fun key hkey => h.1 key (hsub hkey), fun id hid => h.2 id (hsub hid)⟩

/-! ## A redemption under way -/

/-- The redemption holds an unused voucher without subscription, and wrote what is listed. -/
structure Redeeming (voucher : OfflineVoucher) (vouchers : List OfflineVoucher)
    (subscriptions : List Subscription) (own : Own Row) (committed : Rows) : Prop where
  writtenVouchers : own.written .offlineVouchers = vouchers
  writtenSubscriptions : own.written .subscriptions = subscriptions
  elsewhere : ∀ t, shared t = true → own.written t = []
  locked : (Table.offlineVouchers, voucher.id) ∈ own.locked
  stored : voucher ∈ committed .offlineVouchers
  unused : subscriptionsOf committed voucher.id = []
  created : ∀ subscription ∈ subscriptions, subscription.voucherId = some voucher.id ∧
    (Table.subscriptions, subscription.id) ∈ own.locked ∧
      ∀ row ∈ committed .subscriptions, row.id ≠ subscription.id

section Redeeming

variable {voucher : OfflineVoucher} {vouchers : List OfflineVoucher}
  {subscriptions : List Subscription} {own own' : Own Row} {committed later : Rows}

/-- Nobody else touches what the redemption holds. -/
theorem Redeeming.stable (h : Redeeming voucher vouchers subscriptions own committed)
    (hrely : redemption.rely own.locked committed later) :
    Redeeming voucher vouchers subscriptions own later where
  writtenVouchers := h.writtenVouchers
  writtenSubscriptions := h.writtenSubscriptions
  elsewhere := h.elsewhere
  locked := h.locked
  stored := (@SameAt.mem _ _ schema _ _ .offlineVouchers _ (hrely.1 _ h.locked rfl)).mpr h.stored
  unused := (hrely.2 _ h.locked).trans h.unused
  created subscription hsubscription := by
    obtain ⟨hvoucher, hlocked, hfresh⟩ := h.created subscription hsubscription
    exact ⟨hvoucher, hlocked, (hrely.1 _ hlocked rfl).fresh hfresh⟩

/-- Reading and locking more changes nothing of it. -/
theorem Redeeming.of_own (h : Redeeming voucher vouchers subscriptions own committed)
    (hwritten : own'.written = own.written) (hlocked : own.locked ⊆ own'.locked) :
    Redeeming voucher vouchers subscriptions own' committed where
  writtenVouchers := by rw [hwritten, h.writtenVouchers]
  writtenSubscriptions := by rw [hwritten, h.writtenSubscriptions]
  elsewhere := by
    rw [hwritten]
    exact h.elsewhere
  locked := hlocked h.locked
  stored := h.stored
  unused := h.unused
  created subscription hsubscription := by
    obtain ⟨hvoucher, hkey, hfresh⟩ := h.created subscription hsubscription
    exact ⟨hvoucher, hlocked hkey, hfresh⟩

/-- What a redemption ensures of a statement it goes on after. -/
abbrev Ends {α : Type} (returns : α → Own Row → Rows → Prop) (x : Tx α) (own : Own Row)
    (committed : Rows) : Prop :=
  Ensures schema redemption returns x own committed

variable {α : Type} {returns : α → Own Row → Rows → Prop}

theorem ends_pure {a : α} (h : Redeeming voucher vouchers subscriptions own committed)
    (hreturns : ∀ later, Redeeming voucher vouchers subscriptions own later →
      returns a own later) : Ends returns (pure a) own committed :=
  fun later hrely _ => hreturns later (h.stable hrely)

theorem ends_orRaise {value : Option α} {failure : Failure}
    (h : Redeeming voucher vouchers subscriptions own committed)
    (hreturns : ∀ a later, value = some a → Redeeming voucher vouchers subscriptions own later →
      returns a own later) : Ends returns (Prog.orRaise value failure) own committed := by
  cases value with
  | none => trivial
  | some a => exact ends_pure h fun later => hreturns a later rfl

theorem ends_require {condition : Prop} [Decidable condition] {failure : Failure}
    (h : Redeeming voucher vouchers subscriptions own committed) :
    Ends (fun _ own' later => Redeeming voucher vouchers subscriptions own' later)
      (Prog.require condition failure) own committed := by
  by_cases hcondition : condition
  · rw [Prog.require_true hcondition]
    exact ends_pure h fun _ h => h
  · rw [Prog.require_false hcondition]
    trivial

theorem ends_scalarOneOrNone {rows : List α} {returns : Option α → Own Row → Rows → Prop}
    (h : ∀ found later, redemption.rely own.locked committed later → redemption.inv later →
      (∀ a, found = some a → a ∈ rows) → returns found own later) :
    Ends returns (scalarOneOrNone rows) own committed := by
  match rows with
  | [] => exact fun later hrely hinv => h none later hrely hinv (by simp)
  | [row] => exact fun later hrely hinv => h (some row) later hrely hinv (by simp)
  | _ :: _ :: _ => trivial

/-- A row read while the redemption is under way, whatever is read. -/
theorem ends_getById {t : Table} {tenantId : Option ℕ} {id : ℕ}
    (h : Redeeming voucher vouchers subscriptions own committed) :
    Ends (fun _ own' later => Redeeming voucher vouchers subscriptions own' later)
      (getById t tenantId id) own committed := by
  intro later hrely _ held draw keys reply own' hreply
  obtain ⟨-, hown⟩ := Prod.mk.inj (Option.some.inj hreply)
  have hloaded : Redeeming voucher vouchers subscriptions own' later := by
    apply (h.stable hrely).of_own
    · rw [← hown]
    · rw [← hown]
      exact List.Subset.refl _
  exact ends_scalarOneOrNone fun _ _ hrely _ _ => hloaded.stable hrely

/-- A row locked while the redemption is under way: it has the key that was asked for. -/
theorem ends_getByIdForUpdate {t : Table} {tenantId : Option ℕ} {id : ℕ}
    (h : Redeeming voucher vouchers subscriptions own committed) :
    Ends (fun found own' later => (∀ row, found = some row → rowId t row = id) ∧
        Redeeming voucher vouchers subscriptions own' later)
      (getByIdForUpdate t tenantId id) own committed := by
  intro later hrely _ held draw keys reply own' hreply
  obtain ⟨rfl, hown⟩ := Prod.mk.inj (Option.some.inj hreply)
  have hloaded : Redeeming voucher vouchers subscriptions own' later := by
    apply (h.stable hrely).of_own
    · rw [← hown]
      rfl
    · rw [← hown]
      exact List.subset_append_left _ _
  refine ends_scalarOneOrNone fun found last hrely _ hfound =>
    ⟨fun row hrow => ?_, hloaded.stable hrely⟩
  obtain ⟨stored, hstored, rfl⟩ := List.mem_map.mp (hfound row hrow)
  have hid : rowId t stored = id := by
    have hmatches := (List.mem_filter.mp hstored).2
    simp only [Bool.and_eq_true, beq_iff_eq] at hmatches
    exact hmatches.2.2
  rw [← hid]
  exact @Own.id_object _ _ schema _ t stored

theorem ends_now (h : Redeeming voucher vouchers subscriptions own committed) :
    Ends (fun _ own' later => Redeeming voucher vouchers subscriptions own' later) now own
      committed := by
  intro later hrely _ held draw keys reply own' hreply
  obtain ⟨-, rfl⟩ := Prod.mk.inj (Option.some.inj hreply)
  exact ends_pure (h.stable hrely) fun _ hlater => hlater

/-! ### The statements that write -/

/-- A subscription the redemption writes for its voucher, over what it wrote before. -/
theorem Redeeming.write_subscription {subscription : Subscription}
    (h : Redeeming voucher [] subscriptions own committed)
    (hwritten : storeRow schema .subscriptions subscription subscriptions = [subscription])
    (hvoucher : subscription.voucherId = some voucher.id)
    (hfresh : ∀ row ∈ committed .subscriptions, row.id ≠ subscription.id) :
    Redeeming voucher [] [subscription] (own.write schema .subscriptions subscription)
      committed where
  writtenVouchers := by
    rw [Own.written_write_of_ne (by decide), h.writtenVouchers]
  writtenSubscriptions := by
    rw [Own.written_write, h.writtenSubscriptions, hwritten]
  elsewhere t ht := by
    rw [Own.written_write_of_ne (of_decide_eq_true ht).2, h.elsewhere t ht]
  locked := List.mem_append_left _ h.locked
  stored := h.stored
  unused := h.unused
  created other hother := by
    obtain rfl := List.mem_singleton.mp hother
    exact ⟨hvoucher, List.mem_append_right _ (List.mem_singleton_self _), hfresh⟩

/-- The subscription is created with a key nobody else has. -/
theorem ends_create {build : ℕ → Subscription}
    (h : Redeeming voucher [] [] own committed)
    (hbuild : ∀ id, (build id).voucherId = some voucher.id) :
    Ends (fun subscription own' later => Redeeming voucher [] [subscription] own' later)
      (create .subscriptions build) own committed := by
  intro later hrely _ held draw keys reply own' hreply
  have hlater := h.stable hrely
  simp only [Own.reply] at hreply
  split at hreply
  · rename_i hfresh
    obtain ⟨hid, hfresh⟩ := hfresh
    rw [overlay_of_unwritten hlater.writtenSubscriptions] at hfresh
    rcases Own.tryWrite_eq_some hreply with ⟨rfl, rfl⟩ | ⟨rfl, rfl, -, -⟩
    · trivial
    · have hwritten : Redeeming voucher [] [build draw.id]
          (own.write schema .subscriptions (build draw.id)) later := by
        apply hlater.write_subscription storeRow_nil (hbuild _)
        intro row hrow
        rw [show (build draw.id).id = draw.id from hid]
        exact hfresh row hrow
      exact ends_pure hwritten fun _ hlast => hlast
  · cases hreply

/-- The subscription the redemption created is the one it changes. -/
theorem ends_updateSubscription {subscription : Subscription} {set : Subscription → Subscription}
    (h : Redeeming voucher [] [subscription] own committed)
    (hset : ∀ stored, (set stored).id = stored.id ∧ (set stored).voucherId = stored.voucherId) :
    Ends (fun updated own' later => updated.id = subscription.id ∧
        Redeeming voucher [] [updated] own' later)
      (updateRow .subscriptions subscription.id set) own committed := by
  intro later hrely _ held draw keys reply own' hreply
  have hlater := h.stable hrely
  obtain ⟨hvoucher, -, hfresh⟩ := hlater.created subscription (List.mem_singleton_self _)
  simp only [Own.reply] at hreply
  split at hreply
  · obtain ⟨rfl, rfl⟩ := Prod.mk.inj (Option.some.inj hreply)
    trivial
  · rename_i old hold
    -- of all subscriptions with this key only the one just written is visible
    have hid : rowId .subscriptions old = subscription.id := by
      simpa using List.find?_some hold
    have hmem := List.mem_of_find?_eq_some hold
    rw [overlay_of_written hlater.writtenSubscriptions] at hmem
    have heq : old = subscription := by
      rcases mem_storeRow.mp hmem with heq | ⟨-, hne⟩
      · exact heq
      · exact absurd hid hne
    subst heq
    split at hreply
    · rcases Own.tryWrite_eq_some hreply with ⟨rfl, rfl⟩ | ⟨rfl, rfl, -, -⟩
      · trivial
      · have hwritten : Redeeming voucher [] [set old]
            (own.write schema .subscriptions (set old)) later := by
          apply hlater.write_subscription _ ((hset old).2.trans hvoucher)
          · rw [(hset old).1]
            exact hfresh
          · exact @storeRow_singleton _ _ schema .subscriptions _ _ (hset old).1.symm
        exact ends_pure hwritten fun _ hlast => ⟨(hset old).1, hlast⟩
    · obtain ⟨rfl, rfl⟩ := Prod.mk.inj (Option.some.inj hreply)
      trivial

/-- No other voucher has the key of a stored one. -/
theorem eq_of_id (hinv : redemption.inv committed) {left right : OfflineVoucher}
    (hleft : left ∈ committed .offlineVouchers) (hright : right ∈ committed .offlineVouchers)
    (hid : left.id = right.id) : left = right := by
  have hsymm : Std.Symm fun left right : OfflineVoucher => left.id ≠ right.id :=
    ⟨fun _ _ h => h.symm⟩
  by_contra hne
  exact hinv.1.forall hleft hright hne hid

/-- The voucher is changed as it was read. -/
theorem ends_updateVoucher {set : OfflineVoucher → OfflineVoucher}
    (h : Redeeming voucher [] subscriptions own committed) (hset : (set voucher).id = voucher.id) :
    Ends (fun updated own' later => updated = set voucher ∧
        Redeeming voucher [set voucher] subscriptions own' later)
      (updateRow .offlineVouchers voucher.id set) own committed := by
  intro later hrely hinv held draw keys reply own' hreply
  have hlater := h.stable hrely
  simp only [Own.reply, overlay_of_unwritten hlater.writtenVouchers] at hreply
  split at hreply
  · obtain ⟨rfl, rfl⟩ := Prod.mk.inj (Option.some.inj hreply)
    trivial
  · rename_i old hold
    have hid : rowId .offlineVouchers old = voucher.id := by simpa using List.find?_some hold
    obtain rfl := eq_of_id hinv (List.mem_of_find?_eq_some hold) hlater.stored hid
    split at hreply
    · rcases Own.tryWrite_eq_some hreply with ⟨rfl, rfl⟩ | ⟨rfl, rfl, -, -⟩
      · trivial
      · have hwritten : Redeeming old [set old] subscriptions
            (own.write schema .offlineVouchers (set old)) later :=
          { hlater with
            writtenVouchers := by
              rw [Own.written_write, hlater.writtenVouchers, storeRow_nil]
            writtenSubscriptions := by
              rw [Own.written_write_of_ne (by decide), hlater.writtenSubscriptions]
            elsewhere := fun t ht => by
              rw [Own.written_write_of_ne (of_decide_eq_true ht).1, hlater.elsewhere t ht]
            locked := List.mem_append_left _ hlater.locked
            created := fun subscription hsubscription => by
              obtain ⟨hvoucher, hlocked, hfresh⟩ := hlater.created subscription hsubscription
              exact ⟨hvoucher, List.mem_append_left _ hlocked, hfresh⟩ }
        exact ends_pure hwritten fun _ hlast => ⟨rfl, hlast⟩
    · obtain ⟨rfl, rfl⟩ := Prod.mk.inj (Option.some.inj hreply)
      trivial

/-! ### The commit -/

section Commit

variable {used : OfflineVoucher} {subscription : Subscription}

theorem Redeeming.overlay_subscriptions
    (h : Redeeming voucher vouchers [subscription] own committed) :
    overlay schema committed own.written .subscriptions =
      committed .subscriptions ++ [subscription] := by
  rw [overlay_of_written h.writtenSubscriptions]
  exact storeRow_of_fresh (h.created subscription (List.mem_singleton_self _)).2.2

/-- The commit adds one subscription, for the voucher. -/
theorem Redeeming.subscriptionsOf_overlay
    (h : Redeeming voucher vouchers [subscription] own committed) (id : ℕ) :
    subscriptionsOf (overlay schema committed own.written) id =
      if id = voucher.id then [subscription] else subscriptionsOf committed id := by
  obtain ⟨hvoucher, -, -⟩ := h.created subscription (List.mem_singleton_self _)
  rw [subscriptionsOf, h.overlay_subscriptions, List.filter_append, ← subscriptionsOf]
  by_cases hid : id = voucher.id
  · rw [if_pos hid, hid, h.unused, List.filter_singleton, hvoucher]
    simp
  · have hother : (some voucher.id == some id) = false := by simpa using Ne.symm hid
    rw [if_neg hid, List.filter_singleton, hvoucher, hother, cond_false, List.append_nil]

/-- A redemption that comes to its end may be committed. -/
theorem Redeeming.commits (h : Redeeming voucher [used] [subscription] own committed)
    (hinv : redemption.inv committed) (hid : used.id = voucher.id) (hstatus : used.status = .used)
    (hrecorded : used.redeemedSubscriptionId = some subscription.id) :
    Commits schema redemption own committed := by
  have hvouchers : overlay schema committed own.written .offlineVouchers =
      replaceRow schema .offlineVouchers used (committed .offlineVouchers) := by
    rw [overlay_of_written h.writtenVouchers]
    exact storeRow_of_mem h.stored hid.symm
  constructor
  · constructor
    · rw [hvouchers, replaceRow, List.pairwise_map]
      have hids : ∀ old : OfflineVoucher,
          (if rowId .offlineVouchers old = used.id then used else old).id = old.id := by
        intro old
        split
        · rename_i heq
          exact heq.symm
        · rfl
      refine hinv.1.imp fun {left right} hne => ?_
      exact fun heq => hne ((hids left).symm.trans (heq.trans (hids right)))
    · intro other hother
      rw [hvouchers] at hother
      rw [Accounted, h.subscriptionsOf_overlay]
      rcases mem_replaceRow hother with rfl | ⟨hother, hne⟩
      · rw [if_pos hid]
        exact Or.inl ⟨hstatus, subscription, rfl, hrecorded⟩
      · have hne : other.id ≠ voucher.id := fun heq => hne (heq.trans hid.symm)
        rw [if_neg hne]
        exact hinv.2 other hother
  · intro locked hdisjoint
    constructor
    · rintro ⟨t, id⟩ hkey -
      apply sameAt_overlay
      intro row hrow heq
      -- whatever it wrote, it holds the key of
      by_cases hvoucher : t = .offlineVouchers
      · subst hvoucher
        rw [h.writtenVouchers, List.mem_singleton] at hrow
        subst hrow
        obtain rfl : voucher.id = id := hid.symm.trans heq
        exact hdisjoint hkey h.locked
      · by_cases hsubscription : t = .subscriptions
        · subst hsubscription
          rw [h.writtenSubscriptions, List.mem_singleton] at hrow
          subst hrow
          have hkeyed : rowId .subscriptions row = id := heq
          rw [← hkeyed] at hkey
          exact hdisjoint hkey (h.created _ (List.mem_singleton_self _)).2.1
        · rw [h.elsewhere t (decide_eq_true ⟨hvoucher, hsubscription⟩)] at hrow
          cases hrow
    · intro id hkey
      rw [h.subscriptionsOf_overlay, if_neg]
      rintro rfl
      exact hdisjoint hkey h.locked

end Commit

/-! ### The whole redemption -/

theorem ends_activate {tenantId : ℕ} {subscription : Subscription}
    (hinv : redemption.inv committed)
    (h : Redeeming voucher [] [subscription] own committed) :
    Ends (fun activated own' later => Redeeming voucher [] [activated] own' later)
      (SubscriptionService.activate tenantId subscription.id) own committed := by
  apply Ensures.bind hinv (ends_getByIdForUpdate h)
  rintro found own₁ later₁ hinv₁ ⟨hfound, h₁⟩
  have hraised : Ends (fun row own' later => rowId .subscriptions row = subscription.id ∧
      Redeeming voucher [] [subscription] own' later)
      (Prog.orRaise found (.notFound "Subscription not found")) own₁ later₁ :=
    ends_orRaise h₁ fun row _ hrow h => ⟨hfound row hrow, h⟩
  apply Ensures.bind hinv₁ hraised
  rintro row own₂ later₂ hinv₂ ⟨hid, h₂⟩
  apply Ensures.bind hinv₂ (ends_require h₂)
  intro _ own₃ later₃ hinv₃ h₃
  apply Ensures.bind hinv₃ (ends_getById h₃)
  intro package own₄ later₄ hinv₄ h₄
  apply Ensures.bind hinv₄ (ends_orRaise h₄ fun _ _ _ h => h)
  intro package own₅ later₅ hinv₅ h₅
  apply Ensures.bind hinv₅ (ends_now h₅)
  intro activatedAt own₆ later₆ _ h₆
  have hid : row.id = subscription.id := hid
  rw [hid]
  exact Ensures.mono (ends_updateSubscription h₆ fun stored => ⟨rfl, rfl⟩) fun _ _ _ h => h.2

theorem ends_createFor {tenantId customerId : ℕ} {package : Package}
    (hinv : redemption.inv committed) (h : Redeeming voucher [] [] own committed) :
    Ends (fun subscription own' later => Redeeming voucher [] [subscription] own' later)
      (SubscriptionService.createFor tenantId customerId package (some voucher.id)) own
      committed := by
  apply Ensures.bind hinv (ends_create h fun _ => rfl)
  intro subscription own₁ later₁ hinv₁ h₁
  split
  · exact ends_activate hinv₁ h₁
  · exact ends_pure h₁ fun _ h => h

/-- The voucher the redemption starts from is locked, and stored as it was read. -/
theorem ends_lockVoucher {p : OfflineVoucher → Bool} :
    Ends (fun found own later => ∀ voucher, found = some voucher → voucher.status = .unused →
        Redeeming voucher [] [] own later)
      (selectOneForUpdate .offlineVouchers p) {} committed := by
  intro later _ hinv held draw keys reply own' hreply
  obtain ⟨rfl, hown⟩ := Prod.mk.inj (Option.some.inj hreply)
  apply ends_scalarOneOrNone
  rintro found last hrely hlast hfound voucher rfl hunused
  -- nothing was written or loaded before: what is read is what is committed
  obtain ⟨row, hrow, rfl⟩ := List.mem_map.mp (hfound voucher rfl)
  obtain ⟨hstored, hmatches⟩ := List.mem_filter.mp hrow
  rw [overlay_of_unwritten rfl] at hstored
  have hkey : (Table.offlineVouchers, rowId .offlineVouchers row) ∈ keys := by
    simpa using (Bool.and_eq_true_iff.mp hmatches).1
  have hlocked : Redeeming row [] [] (({} : Own Row).lock keys) later :=
    { writtenVouchers := rfl
      writtenSubscriptions := rfl
      elsewhere := fun _ _ => rfl
      locked := List.mem_append_right _ hkey
      stored := hstored
      unused := by
        rcases hinv.2 row hstored with ⟨hused, -⟩ | ⟨-, hnone⟩
        · cases hunused.symm.trans hused
        · exact hnone
      created := by simp }
  have hloaded : Redeeming row [] [] own' later := by
    apply hlocked.of_own
    · rw [← hown]
    · rw [← hown]
      exact List.Subset.refl _
  exact hloaded.stable hrely

end Redeeming

/-- A redemption raises, or may be committed. -/
theorem ends_redeem (call : RedeemCall) {committed : Rows} (hinv : redemption.inv committed) :
    Ends (fun _ own later => Commits schema redemption own later) call.program {} committed := by
  apply Ensures.bind hinv ends_lockVoucher
  intro found own₁ later₁ hinv₁ hfound
  cases found with
  | none => trivial
  | some voucher =>
    rw [Prog.orRaise_some, Prog.pure_bind]
    by_cases hstatus : voucher.status = .unused
    · have h₁ := hfound voucher rfl hstatus
      rw [Prog.require_true hstatus, Prog.pure_bind]
      apply Ensures.bind hinv₁ (ends_getById h₁)
      intro customer own₂ later₂ hinv₂ h₂
      apply Ensures.bind hinv₂ (ends_orRaise h₂ fun _ _ _ h => h)
      intro _ own₃ later₃ hinv₃ h₃
      apply Ensures.bind hinv₃ (ends_getById h₃)
      intro batch own₄ later₄ hinv₄ h₄
      apply Ensures.bind hinv₄ (ends_orRaise h₄ fun _ _ _ h => h)
      intro batch own₅ later₅ hinv₅ h₅
      apply Ensures.bind hinv₅ (ends_getById h₅)
      intro package own₆ later₆ hinv₆ h₆
      apply Ensures.bind hinv₆ (ends_orRaise h₆ fun _ _ _ h => h)
      intro package own₇ later₇ hinv₇ h₇
      apply Ensures.bind hinv₇ (ends_require h₇)
      intro _ own₈ later₈ hinv₈ h₈
      apply Ensures.bind hinv₈ (ends_createFor hinv₈ h₈)
      intro subscription own₉ later₉ hinv₉ h₉
      apply Ensures.bind hinv₉ (ends_now h₉)
      intro time own₁₀ later₁₀ hinv₁₀ h₁₀
      apply Ensures.bind hinv₁₀ (ends_updateVoucher h₁₀ rfl)
      rintro updated own₁₁ later₁₁ - ⟨-, h₁₁⟩
      intro last hrely hlast
      exact (h₁₁.stable hrely).commits hlast rfl rfl rfl
    · rw [Prog.require_false hstatus]
      trivial

/-! ## Every interleaving of redemptions -/

theorem keeps_redemption : Keeps schema redemption RedeemCall.program shared where
  call call _ hinv := ends_redeem call hinv
  elsewhere t rows committed ht hinv := by
    obtain ⟨hvouchers, hsubscriptions⟩ : t ≠ .offlineVouchers ∧ t ≠ .subscriptions :=
      of_decide_eq_true ht
    have hsubscriptionsOf : ∀ id,
        subscriptionsOf (Function.update committed t rows) id = subscriptionsOf committed id := by
      intro id
      rw [subscriptionsOf, Function.update_of_ne hsubscriptions.symm, subscriptionsOf]
    constructor
    · constructor
      · rw [Function.update_of_ne hvouchers.symm]
        exact hinv.1
      · intro voucher hvoucher
        rw [Function.update_of_ne hvouchers.symm] at hvoucher
        rw [Accounted, hsubscriptionsOf]
        exact hinv.2 voucher hvoucher
    · refine fun locked => ⟨fun key _ hshared => ?_, fun id _ => hsubscriptionsOf id⟩
      have hne : key.1 ≠ t := by
        rintro rfl
        exact Bool.noConfusion (hshared.symm.trans ht)
      rw [SameAt, Function.update_of_ne hne]

/-- The event commits a redemption that returned. -/
def Redemptions.Returns (event : RedemptionEvent) (system : Redemptions) : Prop :=
  ∃ index session redeemed, event = .finish index ∧ system.sessions[index]? = some session ∧
    session.program = .done (.ok redeemed)

/-- Whatever a redemption that has not returned does, the vouchers and subscriptions stay. -/
theorem Redemptions.next_eq_of_not_returns {event : RedemptionEvent} {system : Redemptions}
    (h : ¬Returns event system) {t : Table} (ht : shared t = false) :
    (next event system).committed t = system.committed t := by
  cases event with
  | call c => rfl
  | advance index draw =>
    simp only [next, System.next]
    split
    · rfl
    · rfl
  | finish index =>
    simp only [next, System.next]
    split
    · rfl
    · rename_i session after hdrop
      split
      · have hsession : system.sessions[index]? = some session := by
          rw [← List.head?_drop, hdrop, List.head?_cons]
        rw [Session.commit_of_not_ok fun redeemed hprogram =>
          h ⟨index, session, redeemed, rfl, hsession, hprogram⟩]
      · rfl
  | abort index => rfl
  | elsewhere t' rows =>
    simp only [next, System.next]
    split
    · rename_i hshared
      apply Function.update_of_ne
      rintro rfl
      exact Bool.noConfusion (ht.symm.trans hshared)
    · rfl

/-- In every interleaving of redemptions, of whatever codes, for whatever customers, and
whatever becomes of packages, batches and customers in between: a voucher is used exactly
where one subscription has it, the one it records, none has two, and only a redemption that
returns changes a voucher or a subscription. -/
theorem redeemed_once {start : PlatformDb}
    (hstart : ∀ voucher ∈ start.rows .offlineVouchers, Accounted start.rows voucher)
    (events : List RedemptionEvent) :
    (∀ voucher ∈ (Runs.run Redemptions.next events ⟨start.rows, []⟩).committed .offlineVouchers,
      (voucher.status = .used ↔ ∃ subscription,
        subscriptionsOf (Runs.run Redemptions.next events ⟨start.rows, []⟩).committed voucher.id =
          [subscription] ∧ voucher.redeemedSubscriptionId = some subscription.id) ∧
      (subscriptionsOf (Runs.run Redemptions.next events ⟨start.rows, []⟩).committed
        voucher.id).length ≤ 1) ∧
    Runs.All Redemptions.next (fun event system => ¬Redemptions.Returns event system →
      ∀ t, shared t = false →
        (Redemptions.next event system).committed t = system.committed t)
      events ⟨start.rows, []⟩ := by
  have hinv : redemption.inv start.rows :=
    ⟨(start.apart .offlineVouchers).imp And.left, hstart⟩
  constructor
  · intro voucher hvoucher
    have hlast : redemption.inv (Runs.run Redemptions.next events ⟨start.rows, []⟩).committed :=
      inv_of_run keeps_redemption events hinv
    rcases hlast.2 voucher hvoucher with ⟨hused, hone⟩ | ⟨hnot, hnone⟩
    · obtain ⟨subscription, hone, hrecorded⟩ := hone
      exact ⟨iff_of_true hused ⟨subscription, hone, hrecorded⟩, by rw [hone, List.length_singleton]⟩
    · constructor
      · apply iff_of_false hnot
        rintro ⟨subscription, hone, -⟩
        cases hnone.symm.trans hone
      · rw [hnone]
        exact Nat.zero_le 1
  · exact Runs.All.of_forall
      (fun event _ system h t ht => Redemptions.next_eq_of_not_returns h ht) _

/-! ## Two redemptions of one voucher -/

/-- A tenant with one voucher of an active package and two customers. -/
def voucherRows : (t : Table) → List (Row t)
  | .offlineVouchers => [{ id := 0, tenantId := 1, batchId := 2, code := "AB12CD34EF" }]
  | .voucherBatches => [{ id := 2, tenantId := 1, packageId := 3, quantity := 1 }]
  | .packages => [{ id := 3, tenantId := 1, priceTzs := 100000, status := .active }]
  | .customers =>
    [{ id := 4, tenantId := 1, customerNumber := "1000", firstName := none, lastName := none,
       phone := "255700000000", email := none, username := none },
     { id := 5, tenantId := 1, customerNumber := "1001", firstName := none, lastName := none,
       phone := "255700000001", email := none, username := none }]
  | _ => []

def voucherDb : PlatformDb where
  rows := voucherRows
  valid t := by cases t <;> decide +kernel
  apart t := by cases t <;> decide +kernel

def sampleDraw (id : ℕ) : Draw Ask Answer HttpResult :=
  ⟨silentOutside.answer 0, silentOutside.respond 0, id⟩

/-- The steps of both alternate until the first is done; the second then goes on alone. -/
def contendedEvents : List RedemptionEvent :=
  [.call ⟨1, "AB12CD34EF", 4⟩, .call ⟨1, "AB12CD34EF", 5⟩] ++
    (List.replicate 30 [.advance 0 (sampleDraw 8), .advance 1 (sampleDraw 9)]).flatten ++
    [.finish 0] ++ List.replicate 30 (.advance 0 (sampleDraw 9)) ++ [.finish 0]

/-- The first redemption uses the voucher up, and the second raises. -/
theorem redeemed_once_contended :
    ((Runs.run Redemptions.next contendedEvents ⟨voucherDb.rows, []⟩).committed
      .offlineVouchers).map OfflineVoucher.redeemedByCustomerId = [some 4] ∧
    ((Runs.run Redemptions.next contendedEvents ⟨voucherDb.rows, []⟩).committed
      .subscriptions).map Subscription.customerId = [4] ∧
    ∀ voucher ∈ (Runs.run Redemptions.next contendedEvents ⟨voucherDb.rows, []⟩).committed
      .offlineVouchers,
      (subscriptionsOf (Runs.run Redemptions.next contendedEvents ⟨voucherDb.rows, []⟩).committed
        voucher.id).length ≤ 1 := by
  have haccounted : ∀ voucher ∈ voucherDb.rows .offlineVouchers,
      Accounted voucherDb.rows voucher := by
    intro voucher hvoucher
    obtain rfl := List.mem_singleton.mp hvoucher
    exact Or.inr ⟨by decide, rfl⟩
  exact ⟨by decide +kernel, by decide +kernel, fun voucher hvoucher =>
    ((@redeemed_once voucherDb haccounted contendedEvents).1 voucher hvoucher).2⟩

end InfinityRadius.Services.VoucherService
