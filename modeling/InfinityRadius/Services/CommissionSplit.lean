import InfinityRadius.Services.SubmittedOnce
import InfinityRadius.Services.WalletRules

/-!
# Commission

What a history of commission rates leaves in the terms of a tenant, and how a collected
payment is split at the last of them.
-/

namespace InfinityRadius.Services

open Amounts Database Payload Program Sql Models

/-! ## The fee -/

/-- The fee of an amount at a rate in percent, all in hundredths: rounded half up to two
decimals. -/
def feeOf (gross rate : Numeric) : Numeric := toNumeric (ofNumeric gross * ofNumeric rate / 100)

theorem exact_fee_nonneg {gross rate : Numeric} (hgross : 0 ≤ gross) (hrate : 0 ≤ rate) :
    0 ≤ ofNumeric gross * ofNumeric rate / 100 :=
  div_nonneg (mul_nonneg (zero_le_ofNumeric.mpr hgross) (zero_le_ofNumeric.mpr hrate)) (by norm_num)

theorem feeOf_nonneg {gross rate : Numeric} (hgross : 0 ≤ gross) (hrate : 0 ≤ rate) :
    0 ≤ feeOf gross rate :=
  roundHalfUp_nonneg (mul_nonneg (by norm_num) (exact_fee_nonneg hgross hrate))

/-- No more than the amount is charged at a rate of at most 100 percent. -/
theorem feeOf_le {gross rate : Numeric} (hgross : 0 ≤ gross) (hrate : 0 ≤ rate)
    (hle : rate ≤ 10000) : feeOf gross rate ≤ gross := by
  apply roundHalfUp_le (mul_nonneg (by norm_num) (exact_fee_nonneg hgross hrate))
  have hcast : (rate : ℚ) ≤ 10000 := by exact_mod_cast hle
  have hpositive : (0 : ℚ) ≤ gross := by exact_mod_cast hgross
  calc 100 * (ofNumeric gross * ofNumeric rate / 100) = gross * (rate / 10000) := by
        unfold ofNumeric
        ring
    _ ≤ gross * 1 := mul_le_mul_of_nonneg_left (by linarith) hpositive
    _ = gross := mul_one _

/-- The fee grows with the amount and with the rate. -/
theorem feeOf_mono {gross gross' rate rate' : Numeric} (hgross : 0 ≤ gross)
    (hgross' : gross ≤ gross') (hrate : 0 ≤ rate) (hrate' : rate ≤ rate') :
    feeOf gross rate ≤ feeOf gross' rate' := by
  apply roundHalfUp_mono (mul_nonneg (by norm_num) (exact_fee_nonneg hgross hrate))
  have hcast : (gross : ℚ) * rate ≤ gross' * rate' := by
    exact_mod_cast mul_le_mul hgross' hrate' hrate (hgross.trans hgross')
  unfold ofNumeric
  linarith

/-- The fee is within half a hundredth of what the rate makes of the amount. -/
theorem abs_feeOf_sub_le (gross rate : Numeric) :
    |ofNumeric (feeOf gross rate) - ofNumeric gross * ofNumeric rate / 100| ≤ 1 / 200 := by
  have hround := abs_roundHalfUp_sub_le (100 * (ofNumeric gross * ofNumeric rate / 100))
  have hscale : ofNumeric (feeOf gross rate) - ofNumeric gross * ofNumeric rate / 100 =
      (feeOf gross rate - 100 * (ofNumeric gross * ofNumeric rate / 100)) / 100 := by
    rw [ofNumeric]
    ring
  rw [hscale, abs_div, abs_of_pos (by norm_num : (0 : ℚ) < 100)]
  exact (div_le_div_of_nonneg_right hround (by norm_num)).trans (by norm_num)

/-- The intermediate products are exact, so that only the quantization rounds. -/
theorem eq_feeOf_of_platformFeeOf {gross rate : Numeric} {fee : Decimal}
    (hgross : |gross| < 10 ^ 14) (hrate : |rate| ≤ 10000)
    (h : WalletService.platformFeeOf (ofNumeric gross) (ofNumeric rate) = some fee) :
    fee = ofNumeric (feeOf gross rate) := by
  have hdigits : |gross * rate| < 10 ^ 28 := by
    calc |gross * rate| = |gross| * |rate| := abs_mul _ _
      _ ≤ |gross| * 10000 := mul_le_mul_of_nonneg_left hrate (abs_nonneg _)
      _ < 10 ^ 28 := by linarith
  have hproduct : ofNumeric gross * ofNumeric rate = ((gross * rate : ℤ) : ℚ) / 10 ^ 4 := by
    unfold ofNumeric
    push_cast
    ring
  have hquotient : ((gross * rate : ℤ) : ℚ) / 10 ^ 4 / 100 = ((gross * rate : ℤ) : ℚ) / 10 ^ 6 := by
    ring
  rw [WalletService.platformFeeOf, hproduct, context_digits 4 hdigits, hquotient,
    context_digits 6 hdigits, ← hquotient, ← hproduct, quantize] at h
  split at h
  · exact (Option.some.inj h).symm
  · cases h

/-! ## The terms of a tenant -/

namespace CommercialTermsService

/-- In the order they were agreed on. -/
def termsOf (db : PlatformDb) (tenantId : ℕ) : List TenantCommercialTerms :=
  (db.rows .tenantCommercialTerms).filter fun terms => terms.tenantId == tenantId

def version (terms : TenantCommercialTerms) : Numeric × Bool :=
  (terms.commissionRatePercent, terms.isActive)

/-- Every rate of the history is kept, and the last of them is the active one. -/
def versions (rates : List Numeric) : List (Numeric × Bool) :=
  rates.dropLast.map (·, false) ++ rates.getLast?.toList.map (·, true)

theorem versions_concat (rates : List Numeric) (rate : Numeric) :
    versions (rates ++ [rate]) = rates.map (·, false) ++ [(rate, true)] := by
  simp [versions]

theorem map_fst_versions (rates : List Numeric) : (versions rates).map Prod.fst = rates := by
  rcases rates.eq_nil_or_concat with rfl | ⟨rest, last, rfl⟩
  · rfl
  · rw [List.concat_eq_append, versions_concat]
    simp [Function.comp_def]

variable {db db' : PlatformDb} {tenantId : ℕ} {terms : TenantCommercialTerms}

/-- A tenant has one active row at most. -/
theorem active_unique {other : TenantCommercialTerms}
    (hterms : terms ∈ db.rows .tenantCommercialTerms)
    (hother : other ∈ db.rows .tenantCommercialTerms) (htenant : other.tenantId = terms.tenantId)
    (hactive : terms.isActive = true) (hactive' : other.isActive = true) : other = terms := by
  by_contra hne
  have hconflict := (db.apart_of_ne hother hterms hne).2
  simp [rowConflict, htenant, hactive, hactive'] at hconflict

theorem mem_termsOf : terms ∈ termsOf db tenantId ↔
    terms ∈ db.rows .tenantCommercialTerms ∧ terms.tenantId = tenantId := by
  rw [termsOf, List.mem_filter, beq_iff_eq]

theorem termsOf_appended (h : Db.Appended .tenantCommercialTerms terms db db') (tenantId : ℕ) :
    termsOf db' tenantId =
      termsOf db tenantId ++ if terms.tenantId = tenantId then [terms] else [] := by
  rw [termsOf, h.rows_self, List.filter_append]
  by_cases htenant : terms.tenantId = tenantId <;> simp [termsOf, htenant]

/-- Where the active row is withdrawn, every row of the tenant is superseded. -/
theorem termsOf_withdrawn (hterms : terms ∈ db.rows .tenantCommercialTerms)
    (hactive : terms.isActive = true)
    (h : Db.Replaced .tenantCommercialTerms { terms with isActive := false } db db') :
    (termsOf db' terms.tenantId).map version =
        (termsOf db terms.tenantId).map (fun terms => (terms.commissionRatePercent, false)) ∧
      ∀ other, other ≠ terms.tenantId → termsOf db' other = termsOf db other := by
  let write (old : TenantCommercialTerms) : TenantCommercialTerms :=
    if old.id = terms.id then { terms with isActive := false } else old
  have hwrite : ∀ old ∈ db.rows .tenantCommercialTerms, old.id = terms.id → old = terms :=
    fun old hold hid => db.id_injOn hold hterms hid
  have hkept : ∀ tenantId,
      termsOf db' tenantId = (termsOf db tenantId).map write := by
    intro tenantId
    rw [termsOf, h.rows_self, replaceRow, List.filter_map, termsOf]
    congr 1
    apply List.filter_congr
    intro old hold
    rw [Function.comp_apply]
    split
    · rename_i hid
      rw [hwrite old hold hid]
    · rfl
  constructor
  · rw [hkept, List.map_map]
    apply List.map_congr_left
    intro old hold
    obtain ⟨hold, htenant⟩ := mem_termsOf.mp hold
    rw [Function.comp_apply]
    by_cases hid : old.id = terms.id
    · rw [hwrite old hold hid]
      simp [write, version]
    · have hold' : old.isActive = false := Bool.eq_false_iff.mpr fun hold' =>
        hid (congrArg TenantCommercialTerms.id (active_unique hterms hold htenant hactive hold'))
      simp [write, hid, version, hold']
  · intro other hother
    rw [hkept, List.map_congr_left, List.map_id]
    intro old hold
    obtain ⟨hold, htenant⟩ := mem_termsOf.mp hold
    have hid : old.id ≠ terms.id := fun hid => hother (htenant ▸ hwrite old hold hid ▸ rfl)
    exact if_neg hid

/-- The rate was agreed on with the tenant, in place of every earlier one. -/
structure Agreed (db db' : PlatformDb) (tenantId : ℕ) (rate : Numeric) : Prop where
  own : (termsOf db' tenantId).map version =
    (termsOf db tenantId).map (fun terms => (terms.commissionRatePercent, false)) ++
      [(rate, true)]
  others : ∀ other, other ≠ tenantId → termsOf db' other = termsOf db other

theorem agreed_of_withdrawn {middle : PlatformDb} {rate : Numeric}
    (hown : (termsOf middle tenantId).map version =
      (termsOf db tenantId).map fun terms => (terms.commissionRatePercent, false))
    (hothers : ∀ other, other ≠ tenantId → termsOf middle other = termsOf db other)
    (htenant : terms.tenantId = tenantId) (hversion : version terms = (rate, true))
    (h : Db.Appended .tenantCommercialTerms terms middle db') : Agreed db db' tenantId rate where
  own := by
    rw [termsOf_appended h, if_pos htenant, List.map_append, hown, List.map_singleton, hversion]
  others other hother := by
    rw [termsOf_appended h, if_neg (htenant ▸ hother.symm), List.append_nil, hothers other hother]

theorem always_setCommissionRate {world : PlatformWorld} {rate : Numeric}
    {actorId : Option ℕ} {notes : Option String} :
    Always (fun _ => false) (fun _ world' => Agreed world.db world'.db tenantId rate)
      (fun _ _ => True) (setCommissionRate tenantId (ofNumeric rate) actorId notes) world := by
  apply always_bind.mpr
  apply always_require (fun _ => ?_) fun _ => trivial
  apply always_bind.mpr
  apply WalletService.always_getActive
  cases hcurrent : WalletService.activeTerms world.db tenantId with
  | none =>
    have hinactive : (termsOf world.db tenantId).map version =
        (termsOf world.db tenantId).map fun terms => (terms.commissionRatePercent, false) := by
      apply List.map_congr_left
      intro terms hterms
      obtain ⟨hmem, htenant⟩ := mem_termsOf.mp hterms
      have h := List.filter_eq_nil_iff.mp (List.head?_eq_none_iff.mp hcurrent) terms hmem
      rw [version, show terms.isActive = false by simpa [htenant] using h]
    refine always_create rfl (fun created db hcreated _ happended => ?_) fun _ => trivial
    refine agreed_of_withdrawn hinactive (fun _ _ => rfl) (by rw [hcreated]) ?_ happended
    rw [hcreated, version, toNumeric_ofNumeric]
  | some terms =>
    have hfound := List.mem_of_head? hcurrent
    rw [List.mem_filter, Bool.and_eq_true, beq_iff_eq] at hfound
    obtain ⟨hmem, htenant, hactive⟩ := hfound
    apply always_bind.mpr
    refine always_update rfl (fun withdrawn middle hupdate => ?_) fun _ => trivial
    obtain ⟨old, hold, hid, rfl, -, -, hreplaced⟩ := Db.update_eq_some hupdate
    obtain rfl := world.db.id_injOn hold hmem hid
    obtain ⟨hown, hothers⟩ := termsOf_withdrawn hmem hactive hreplaced
    rw [htenant] at hown hothers
    refine always_create rfl (fun created db hcreated _ happended => ?_) fun _ => trivial
    refine agreed_of_withdrawn hown hothers (by rw [hcreated]) ?_ happended
    rw [hcreated, version, toNumeric_ofNumeric]

/-! ## Histories -/

/-- A call of `set_commission_rate` for some tenant, its rate in hundredths, or a change that
leaves the terms alone. -/
inductive TermsStep
  | setCommissionRate (tenantId : ℕ) (rate : Numeric) (actorId : Option ℕ)
      (notes : Option String) (outside : Outside)
  | elsewhere (change : PlatformDb → PlatformDb) (h : ∀ db : PlatformDb,
      (change db).rows .tenantCommercialTerms = db.rows .tenantCommercialTerms)

def TermsStep.next (step : TermsStep) (world : PlatformWorld) : PlatformWorld :=
  match step with
  | .setCommissionRate tenantId rate actorId notes outside =>
    (transact outside (CommercialTermsService.setCommissionRate tenantId (ofNumeric rate) actorId
      notes) world).2
  | .elsewhere change _ => { world with db := change world.db }

def runTerms : List TermsStep → PlatformWorld → PlatformWorld := Runs.run TermsStep.next

/-- The rate the step agrees on with the tenant: that of a call that returned. -/
def TermsStep.agreed (tenantId : ℕ) (step : TermsStep) (world : PlatformWorld) : List Numeric :=
  match step with
  | .setCommissionRate tenant rate actorId notes outside =>
    if tenant = tenantId ∧ (transact outside (CommercialTermsService.setCommissionRate tenant
        (ofNumeric rate) actorId notes) world).1.toBool = true then [rate]
    else []
  | .elsewhere _ _ => []

/-- The rates agreed on with the tenant, in order. -/
def agreedRates (tenantId : ℕ) : List TermsStep → PlatformWorld → List Numeric
  | [], _ => []
  | step :: steps, world =>
    step.agreed tenantId world ++ agreedRates tenantId steps (step.next world)

/-- One step adds the rate it agrees on. -/
theorem TermsStep.versioned (step : TermsStep) {world : PlatformWorld} {rates : List Numeric}
    (h : (termsOf world.db tenantId).map version = versions rates) :
    (termsOf (step.next world).db tenantId).map version =
      versions (rates ++ step.agreed tenantId world) := by
  cases step with
  | elsewhere change hchange =>
    rw [TermsStep.next, termsOf, hchange, TermsStep.agreed, List.append_nil]
    exact h
  | setCommissionRate tenant rate actorId notes outside =>
    have halways := @always_setCommissionRate tenant ⟨world.db, []⟩ rate actorId notes
    rcases @transact_cases _ _ _ _ _ _ _ _ _ _ outside _ _ _ world halways with
      ⟨created, db, heq, hagreed⟩ | ⟨e, db, heq, -⟩
    · rw [TermsStep.next, TermsStep.agreed, heq]
      by_cases htenant : tenant = tenantId
      · subst htenant
        have hrates := congrArg (List.map Prod.fst) h
        rw [map_fst_versions, List.map_map] at hrates
        rw [if_pos ⟨rfl, rfl⟩, versions_concat, ← hrates, List.map_map]
        exact hagreed.own
      · rw [if_neg fun h => htenant h.1, List.append_nil, hagreed.others _ (Ne.symm htenant), h]
    · rw [TermsStep.next, TermsStep.agreed, heq, if_neg (fun h => nomatch h.2), List.append_nil]
      exact h

/-- The terms of a tenant are the rates agreed on, in every state a history reaches. -/
theorem versioned_of_run {steps : List TermsStep} {world : PlatformWorld} {rates : List Numeric}
    (h : (termsOf world.db tenantId).map version = versions rates) :
    (termsOf (runTerms steps world).db tenantId).map version =
      versions (rates ++ agreedRates tenantId steps world) := by
  induction steps generalizing world rates with
  | nil =>
    rw [agreedRates, List.append_nil]
    exact h
  | cons step steps ih =>
    rw [agreedRates, ← List.append_assoc]
    exact ih (step.versioned h)

theorem activeTerms_eq : WalletService.activeTerms db tenantId =
    ((termsOf db tenantId).filter TenantCommercialTerms.isActive).head? := by
  rw [WalletService.activeTerms, termsOf, List.filter_filter]
  simp only [Bool.and_comm]

/-- The active terms are at the last rate agreed on. -/
theorem activeTerms_of_versions {rates : List Numeric}
    (h : (termsOf db tenantId).map version = versions rates) :
    (WalletService.activeTerms db tenantId).map TenantCommercialTerms.commissionRatePercent =
      rates.getLast? := by
  rw [activeTerms_eq]
  rcases rates.eq_nil_or_concat with rfl | ⟨rest, rate, rfl⟩
  · rw [List.map_eq_nil_iff.mp h]
    rfl
  · rw [List.concat_eq_append] at h ⊢
    rw [versions_concat] at h
    obtain ⟨earlier, last, hterms, hearlier, hlast⟩ := List.map_eq_append_iff.mp h
    obtain ⟨terms, rfl, hversion⟩ := List.map_eq_singleton_iff.mp hlast
    have hnone : earlier.filter TenantCommercialTerms.isActive = [] := by
      rw [List.filter_eq_nil_iff]
      intro other hother
      have hmem : version other ∈ rest.map (·, false) := hearlier ▸ List.mem_map_of_mem hother
      obtain ⟨_, -, heq⟩ := List.mem_map.mp hmem
      rw [← (Prod.mk.inj heq).2]
      decide
    obtain ⟨hrate, hactive⟩ := Prod.mk.inj hversion
    rw [hterms, List.filter_append, hnone, List.filter_singleton, hactive]
    simp [hrate]

end CommercialTermsService

/-! ## Collections -/

open CommercialTermsService

/-- A collected amount is split into the fee at the rate and the share, which is pending. -/
structure SplitAt (db db' : PlatformDb) (tenantId : ℕ) (gross rate : Numeric)
    (referenceId : Option ℕ) (result : WalletService.CollectionResult) : Prop where
  fee : result.platformFee = ofNumeric (feeOf gross rate)
  whole : result.platformFee + result.tenantShare = ofNumeric gross
  feeNonneg : 0 ≤ result.platformFee
  feeLe : result.platformFee ≤ ofNumeric gross
  shareNonneg : 0 ≤ result.tenantShare
  near : |result.platformFee - ofNumeric gross * ofNumeric rate / 100| ≤ 1 / 200
  recorded : ∃ prior wallet wallet' collection fee share,
    WalletService.Posted db prior db' tenantId wallet wallet' [collection, fee, share] [] ∧
    WalletService.Receipt gross referenceId collection fee share ∧
    fee.amount = feeOf gross rate ∧ share.amount = gross - feeOf gross rate ∧
    balance wallet' .pending = balance wallet .pending + (gross - feeOf gross rate)

section Collections

variable {world : PlatformWorld} {tenantId : ℕ} {referenceType : String} {referenceId : Option ℕ}
  {description : Option String}

/-- Without terms nothing is collected. -/
theorem always_processCollection_none {grossAmount : Decimal}
    (hnone : WalletService.activeTerms world.db tenantId = none) :
    Always (fun _ => false) (fun _ _ => False) (fun _ world' => world' = world)
      (WalletService.processCollection tenantId grossAmount referenceType referenceId description)
      world := by
  apply always_bind.mpr
  apply always_require
  swap
  · exact fun _ => rfl
  intro _
  apply always_bind.mpr
  apply WalletService.always_requireActive
  · intro terms hterms
    rw [hnone] at hterms
    cases hterms
  · exact fun _ _ => rfl

theorem always_processCollection_split {gross rate : Numeric}
    (hrate : (WalletService.activeTerms world.db tenantId).map
      TenantCommercialTerms.commissionRatePercent = some rate) :
    Always (fun _ => false)
      (fun result world' => SplitAt world.db world'.db tenantId gross rate referenceId result)
      (fun _ _ => True)
      (WalletService.processCollection tenantId (ofNumeric gross) referenceType referenceId
        description) world := by
  apply WalletService.always_processCollection_receipt.mono
  swap
  · exact fun _ _ _ => trivial
  rintro result world' ⟨-, prior, wallet, wallet', collection, fee, share, hposted, hexplained,
    ⟨⟨terms, hterms, hfee⟩, hrest, hfeeAmount, hshareAmount, ⟨hpositive, hfits⟩,
      ⟨hcollection, hfeeBucket⟩, hcredit⟩, hreceipt⟩
  have htwo := twoDecimals_ofNumeric gross
  have hreceipt := hreceipt htwo
  rw [toNumeric_ofNumeric] at hreceipt hfits
  rw [hterms, Option.map_some, Option.some.injEq] at hrate
  subst hrate
  have hvalid := world.db.valid .tenantCommercialTerms terms
    (List.mem_of_mem_filter (List.mem_of_head? hterms))
  simp only [rowValid, Bool.and_eq_true, decide_eq_true_eq] at hvalid
  obtain ⟨⟨hrate, hle⟩, -⟩ := hvalid
  have hgross : 0 < gross := zero_lt_ofNumeric.mp hpositive
  have hexact := eq_feeOf_of_platformFeeOf hfits (abs_le.mpr ⟨by linarith, hle⟩) hfee
  have hcharged := feeOf_le hgross.le hrate hle
  have hcharge := feeOf_nonneg hgross.le hrate
  have hshare : result.tenantShare =
      ofNumeric (gross - feeOf gross terms.commissionRatePercent) := by
    rw [hrest, hexact, sub_eq_add_neg, ofNumeric_neg, ofNumeric_add, ← sub_eq_add_neg]
    refine context_ofNumeric ?_
    rw [abs_of_nonneg (by linarith)]
    linarith [(abs_lt.mp hfits).2]
  rw [hexact, toNumeric_ofNumeric] at hfeeAmount
  rw [hshare, toNumeric_ofNumeric] at hshareAmount
  constructor
  case fee => exact hexact
  case whole =>
    rw [hexact, hshare, ofNumeric_add]
    congr 1
    ring
  case feeNonneg =>
    rw [hexact]
    exact zero_le_ofNumeric.mpr hcharge
  case feeLe =>
    have hnonneg := zero_le_ofNumeric.mpr (sub_nonneg.mpr hcharged)
    rw [sub_eq_add_neg, ← ofNumeric_add, ← ofNumeric_neg] at hnonneg
    rw [hexact]
    linarith
  case shareNonneg =>
    rw [hshare]
    exact zero_le_ofNumeric.mpr (sub_nonneg.mpr hcharged)
  case near =>
    rw [hexact]
    exact abs_feeOf_sub_le _ _
  case recorded =>
    refine ⟨prior, wallet, wallet', collection, fee, share, hposted, hreceipt, hfeeAmount,
      hshareAmount, ?_⟩
    have hcredited := hexplained .pending fun _ => htwo
    rw [WalletService.Explained] at hcredited
    rw [hcredited, WalletService.net_cons, WalletService.net_cons, WalletService.net_cons,
      WalletService.net_nil, WalletService.settledInto_nil, hcollection, hfeeBucket,
      hreceipt.shareBucket, if_neg (by decide), if_neg (by decide), if_pos rfl, WalletService.signed, hcredit,
      ← hshareAmount]
    ring

/-- A rate of 12.5 percent that is later lowered to 10, and one that is refused. -/
def sampleTerms : List TermsStep :=
  [.setCommissionRate 1 1250 none none (PayoutService.answering []),
    .setCommissionRate 1 1000 none none (PayoutService.answering []),
    .setCommissionRate 1 10001 none none (PayoutService.answering [])]

end Collections

end InfinityRadius.Services
