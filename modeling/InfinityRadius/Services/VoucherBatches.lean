import InfinityRadius.Core.Rejection
import InfinityRadius.Services.Redemption
import Mathlib.Data.Bool.AllAny

/-!
# Batches of vouchers

`generate_batch` of `services/vouchers.py`.  Codes are drawn until there are enough; one the
tenant already has, whether from before or from this batch, is passed over, and after
`5 * quantity + 20` draws the batch is given up.
-/

namespace InfinityRadius.Services.VoucherService

open Database Models Payload Program Rejection Sql

/-- `_CODE_ALPHABET`. -/
def codeAlphabet : List Char := "ABCDEFGHIJKLMNOPQRSTUVWXYZ0123456789".toList

/-- What `_generate_code` draws: `_CODE_LENGTH` characters of the alphabet. -/
structure CodeBody where
  chars : List Char
  length_eq : chars.length = 10
  mem_alphabet : ∀ char ∈ chars, char ∈ codeAlphabet

/-- `_generate_code`. -/
def generateCode (codePrefix : Option String) (body : CodeBody) : String :=
  match codePrefix with
  | none => String.ofList body.chars
  | some text => if text.isEmpty then String.ofList body.chars else text ++ String.ofList body.chars

/-- `_MAX_BATCH_QUANTITY`. -/
def maxBatchQuantity : ℤ := 5000

section Generate

variable (tenantId : ℕ) (codePrefix : Option String) (draws : ℕ → CodeBody)

/-- `exists_by_code`. -/
def existsByCode (code : String) : Tx Bool := do
  let rows ← issue (.scan .offlineVouchers fun voucher =>
    voucher.tenantId == tenantId && voucher.code == code)
  pure !rows.isEmpty

/-- The loop of `generate_batch`, from the attempts it has left. -/
def drawCodes (batchId : ℕ) (quantity : ℤ) :
    (remaining attempts : ℕ) → (created : ℤ) → Tx ℤ
  | 0, _, created => pure created
  | remaining + 1, attempts, created =>
    if created < quantity then do
      let code := generateCode codePrefix (draws attempts)
      let taken ← existsByCode tenantId code
      if taken then drawCodes batchId quantity remaining (attempts + 1) created
      else do
        let _ ← create .offlineVouchers fun id => { id, tenantId, batchId, code, status := .unused }
        drawCodes batchId quantity remaining (attempts + 1) (created + 1)
    else pure created

def generateBatch (actorId packageId : ℕ) (quantity : ℤ) : Tx VoucherBatch := do
  Prog.require (1 ≤ quantity ∧ quantity ≤ maxBatchQuantity) (.domainValidation
    ("quantity must be between 1 and " ++ toString maxBatchQuantity))
  let package ← getById .packages (some tenantId) packageId
  let _ ← Prog.orRaise package (.domainValidation "package_id does not belong to this tenant")
  let batch ← create .voucherBatches fun id =>
    { id, tenantId, packageId, quantity, codePrefix, createdBy := some actorId }
  let created ← drawCodes tenantId codePrefix draws batch.id quantity
    (quantity * 5 + 20).toNat 0 0
  Prog.require (quantity ≤ created) (.domainValidation
    "Could not generate enough unique voucher codes — try a shorter prefix")
  writeAuditLog []
  pure batch

end Generate

/-! ## Codes -/

/-- A code is the prefix followed by what was drawn. -/
theorem toList_generateCode (codePrefix : Option String) (body : CodeBody) :
    (generateCode codePrefix body).toList = (codePrefix.getD "").toList ++ body.chars := by
  unfold generateCode
  split
  · simp
  · split
    · rename_i text hempty
      simp [String.isEmpty_iff.mp hempty]
    · simp

theorem codeAlphabet_no_nul : Char.ofNat 0 ∉ codeAlphabet := by decide

/-- A code can be stored where its prefix can. -/
theorem storable_generateCode {codePrefix : Option String} (h : storableOpt codePrefix = true)
    (body : CodeBody) : storable (generateCode codePrefix body) = true := by
  have hbody : Char.ofNat 0 ∉ body.chars := fun hin =>
    codeAlphabet_no_nul (body.mem_alphabet _ hin)
  have htext : Char.ofNat 0 ∉ (codePrefix.getD "").toList := by
    cases codePrefix with
    | none => simp
    | some text => simpa [storableOpt, storable] using h
  rw [storable, toList_generateCode]
  simp [hbody, htext]

/-! ## The loop -/

/-- The codes of a tenant. -/
def codesOf (db : PlatformDb) (tenantId : ℕ) : List String :=
  ((db.rows .offlineVouchers).filter fun voucher => voucher.tenantId == tenantId).map
    OfflineVoucher.code

/-- The codes of `count` draws. -/
def drawn (codePrefix : Option String) (draws : ℕ → CodeBody) (attempts count : ℕ) :
    List String :=
  (List.range' attempts count).map fun attempt => generateCode codePrefix (draws attempt)

/-- Unused vouchers of the batch with these codes were added, and nothing else happened. -/
structure Filled (tenantId batchId : ℕ) (codes : List String) (db db' : PlatformDb)
    (vouchers : List OfflineVoucher) : Prop where
  rows : db'.rows .offlineVouchers = db.rows .offlineVouchers ++ vouchers
  codes : vouchers.map OfflineVoucher.code = codes
  each : ∀ voucher ∈ vouchers,
    voucher.tenantId = tenantId ∧ voucher.batchId = batchId ∧ voucher.status = .unused
  others : ∀ t, t ≠ .offlineVouchers → db'.rows t = db.rows t

theorem Filled.cons {tenantId batchId : ℕ} {code : String} {codes : List String}
    {db middle db' : PlatformDb} {voucher : OfflineVoucher} {vouchers : List OfflineVoucher}
    (h : Filled tenantId batchId [code] db middle [voucher])
    (hrest : Filled tenantId batchId codes middle db' vouchers) :
    Filled tenantId batchId (code :: codes) db db' (voucher :: vouchers) where
  rows := by rw [hrest.rows, h.rows, List.append_assoc, List.singleton_append]
  codes := by rw [List.map_cons, hrest.codes, List.singleton_inj.mp h.codes]
  each := List.forall_mem_cons.mpr ⟨h.each voucher (List.mem_singleton_self _), hrest.each⟩
  others t ht := (hrest.others t ht).trans (h.others t ht)

section Loop

variable {tenantId batchId : ℕ} {codePrefix : Option String} {draws : ℕ → CodeBody}
  (env : Outside) (state : State schema Request HttpResult)

theorem mem_codesOf {db : PlatformDb} {code : String} :
    code ∈ codesOf db tenantId ↔
      ∃ voucher ∈ db.rows .offlineVouchers, voucher.tenantId = tenantId ∧ voucher.code = code := by
  simp [codesOf, and_assoc]

theorem run_existsByCode (code : String) :
    run (exec env) (existsByCode tenantId code) state =
      (.ok (decide (code ∈ codesOf state.db tenantId)), state) := by
  have hrun : run (exec env) (existsByCode tenantId code) state =
      (.ok !((state.db.rows .offlineVouchers).filter fun voucher =>
        voucher.tenantId == tenantId && voucher.code == code).isEmpty, state) := rfl
  have hfound : (!((state.db.rows .offlineVouchers).filter fun voucher =>
        voucher.tenantId == tenantId && voucher.code == code).isEmpty) =
      decide (code ∈ codesOf state.db tenantId) := by
    rw [Bool.eq_iff_iff]
    simp [mem_codesOf]
  rw [hrun, hfound]

/-- A code the tenant does not have yet is stored. -/
theorem run_createVoucher {code : String} (hstorable : storable code = true)
    (hnew : code ∉ codesOf state.db tenantId) :
    ∃ voucher db, Filled tenantId batchId [code] state.db db [voucher] ∧
      run (exec env) (create .offlineVouchers fun id =>
        { id, tenantId, batchId, code, status := .unused }) state =
          (.ok voucher, { state with db }) := by
  let build : ℕ → OfflineVoucher := fun id =>
    { id, tenantId, batchId, code, status := .unused }
  let fresh := freshId schema .offlineVouchers (state.db.rows .offlineVouchers)
  have hadmits : state.db.admits .offlineVouchers (build fresh) = true := by
    apply Db.admits_iff.mpr
    constructor
    · change textsStorable [some code] = true
      simpa [textsStorable, storableOpt] using hstorable
    · intro other hother hne
      refine ⟨hne, Bool.eq_false_iff.mpr fun hconflict => hnew ?_⟩
      have hsame : other.tenantId = tenantId ∧ other.code = code := by
        simpa [rowConflict, build] using hconflict
      exact mem_codesOf.mpr ⟨other, hother, hsame⟩
  obtain ⟨db, hinsert⟩ : ∃ db, state.db.insert .offlineVouchers build = some (build fresh, db) :=
    Db.insert_of_admits (fun _ => rfl) hadmits
  obtain ⟨-, -, -, happended⟩ := Db.insert_eq_some hinsert
  use build fresh, db
  constructor
  · constructor
    · rw [happended, Function.update_self]
    · rfl
    · simp [build]
    · exact fun t ht => happended.rows_of_ne ht
  · rw [create, issue, Prog.issue_bind, run_step, exec, hinsert]
    rfl

/-- The tenant then has the code of the new voucher too. -/
theorem Filled.mem_codesOf {code : String} {db db' : PlatformDb} {voucher : OfflineVoucher}
    (h : Filled tenantId batchId [code] db db' [voucher]) (other : String) :
    other ∈ codesOf db' tenantId ↔ other ∈ code :: codesOf db tenantId := by
  obtain ⟨htenant, -, -⟩ := h.each voucher (List.mem_singleton_self _)
  have hcode : voucher.code = code := List.singleton_inj.mp h.codes
  rw [codesOf, h.rows, List.filter_append, List.map_append, ← codesOf, List.mem_append,
    List.mem_cons, List.filter_singleton, htenant, beq_self_eq_true, cond_true,
    List.map_singleton, hcode, List.mem_singleton]
  exact or_comm

/-- The loop stores the codes it keeps, and returns how many there are then. -/
theorem run_drawCodes (hstored : storableOpt codePrefix = true) (quantity : ℤ)
    (remaining attempts wanted : ℕ) (created : ℤ) (hwanted : created + wanted = quantity) :
    ∃ vouchers db,
      Filled tenantId batchId (pick wanted (codesOf state.db tenantId)
        (drawn codePrefix draws attempts remaining)) state.db db vouchers ∧
      run (exec env) (drawCodes tenantId codePrefix draws batchId quantity remaining attempts
        created) state = (.ok (created + vouchers.length), { state with db }) := by
  induction remaining generalizing attempts wanted created state with
  | zero =>
    use [], state.db
    exact ⟨⟨by simp, by simp [drawn], by simp, fun _ _ => rfl⟩, by simp [drawCodes]⟩
  | succ remaining ih =>
    rw [drawCodes]
    cases wanted with
    | zero =>
      use [], state.db
      have hdone : ¬created < quantity := by omega
      rw [if_neg hdone]
      exact ⟨⟨by simp, by simp, by simp, fun _ _ => rfl⟩, by simp⟩
    | succ wanted =>
      have hmore : created < quantity := by omega
      rw [if_pos hmore]
      have hdrawn : drawn codePrefix draws attempts (remaining + 1) =
          generateCode codePrefix (draws attempts) ::
            drawn codePrefix draws (attempts + 1) remaining := by
        rw [drawn, List.range'_succ, List.map_cons, drawn]
      simp only
      rw [run_bind, run_existsByCode, hdrawn]
      by_cases htaken : generateCode codePrefix (draws attempts) ∈ codesOf state.db tenantId
      · simp only [htaken, decide_true, if_true]
        rw [pick_cons_of_mem htaken]
        exact ih state (attempts + 1) (wanted + 1) created hwanted
      · simp only [htaken, decide_false, Bool.false_eq_true, if_false]
        rw [pick_cons_of_not_mem htaken]
        obtain ⟨voucher, db, hfirst, hrun⟩ := @run_createVoucher tenantId batchId env state _
          (storable_generateCode hstored (draws attempts)) htaken
        rw [run_bind, hrun]
        obtain ⟨vouchers, db', hrest, hrun'⟩ := ih { state with db } (attempts + 1) wanted
          (created + 1) (by omega)
        rw [pick_congr hfirst.mem_codesOf] at hrest
        use voucher :: vouchers, db', hfirst.cons hrest
        refine hrun'.trans ?_
        rw [List.length_cons, Nat.cast_add, Nat.cast_one, add_assoc, add_comm (1 : ℤ)]

/-- The loop looks at no further draw. -/
theorem drawCodes_congr {draws' : ℕ → CodeBody} {quantity created : ℤ} {remaining attempts : ℕ}
    (h : ∀ attempt, attempts ≤ attempt → attempt < attempts + remaining →
      draws' attempt = draws attempt) :
    drawCodes tenantId codePrefix draws' batchId quantity remaining attempts created =
      drawCodes tenantId codePrefix draws batchId quantity remaining attempts created := by
  induction remaining generalizing attempts created with
  | zero => rfl
  | succ remaining ih =>
    have hrest : ∀ attempt, attempts + 1 ≤ attempt → attempt < attempts + 1 + remaining →
        draws' attempt = draws attempt := by
      intro attempt hlow hhigh
      exact h attempt (by omega) (by omega)
    rw [drawCodes, drawCodes, h attempts (le_refl _) (by omega)]
    simp only [ih hrest]

end Loop

/-! ## The batch -/

section Batch

variable {tenantId actorId packageId quantity : ℕ} {codePrefix : Option String}
  {draws : ℕ → CodeBody}

/-- The draws a batch may make. -/
def maxAttempts (quantity : ℕ) : ℕ := 5 * quantity + 20

/-- The codes among them that the tenant does not have. -/
def freshCodes (db : PlatformDb) (tenantId : ℕ) (codePrefix : Option String)
    (draws : ℕ → CodeBody) (quantity : ℕ) : Finset String :=
  fresh (codesOf db tenantId) (drawn codePrefix draws 0 (maxAttempts quantity))

/-- The package is one of the tenant's. -/
def HasPackage (db : PlatformDb) (tenantId packageId : ℕ) : Prop :=
  ∃ package ∈ db.rows .packages, package.tenantId = tenantId ∧ package.id = packageId

/-- Exactly the vouchers that were asked for were added: unused, of the batch, with distinct
codes that carry the prefix and that the tenant did not have. -/
structure Delivered (tenantId quantity : ℕ) (codePrefix : Option String) (batch : VoucherBatch)
    (db db' : PlatformDb) (vouchers : List OfflineVoucher) : Prop where
  rows : db'.rows .offlineVouchers = db.rows .offlineVouchers ++ vouchers
  length : vouchers.length = quantity
  each : ∀ voucher ∈ vouchers,
    voucher.tenantId = tenantId ∧ voucher.batchId = batch.id ∧ voucher.status = .unused
  distinct : (vouchers.map OfflineVoucher.code).Nodup
  prefixed : ∀ voucher ∈ vouchers, (codePrefix.getD "").toList <+: voucher.code.toList
  fresh : ∀ voucher ∈ vouchers, voucher.code ∉ codesOf db tenantId

/-- What was filled with the codes that were kept is what was asked for, where enough of them
were new. -/
theorem Filled.delivered {batch : VoucherBatch} {db middle db' : PlatformDb}
    {vouchers : List OfflineVoucher}
    (h : Filled tenantId batch.id (pick quantity (codesOf middle tenantId)
      (drawn codePrefix draws 0 (maxAttempts quantity))) middle db' vouchers)
    (hmiddle : middle.rows .offlineVouchers = db.rows .offlineVouchers)
    (henough : quantity ≤ (freshCodes db tenantId codePrefix draws quantity).card) :
    Delivered tenantId quantity codePrefix batch db db' vouchers := by
  have hcodes : codesOf middle tenantId = codesOf db tenantId := by
    rw [codesOf, hmiddle, codesOf]
  rw [hcodes] at h
  obtain ⟨hnodup, hpicked⟩ := pick_spec quantity (codesOf db tenantId)
    (drawn codePrefix draws 0 (maxAttempts quantity))
  rw [← h.codes] at hnodup hpicked
  constructor
  · rw [h.rows, hmiddle]
  · have hlength := congrArg List.length h.codes
    rw [List.length_map, length_pick] at hlength
    rw [hlength]
    exact min_eq_left henough
  · exact h.each
  · exact hnodup
  · intro voucher hvoucher
    obtain ⟨attempt, -, hcode⟩ :=
      List.mem_map.mp (hpicked voucher.code (List.mem_map_of_mem hvoucher)).1
    rw [← hcode, toList_generateCode]
    exact List.prefix_append _ _
  · exact fun voucher hvoucher => (hpicked voucher.code (List.mem_map_of_mem hvoucher)).2

/-- The outcome of a batch: what was filled is committed where it is enough. -/
theorem run_generateBatch (env : Outside) (state : State schema Request HttpResult)
    (hlow : 1 ≤ quantity) (hhigh : quantity ≤ 5000) :
    (∃ batch final vouchers,
      run (exec env) (generateBatch tenantId codePrefix draws actorId packageId quantity) state =
        (.ok batch, final) ∧
      HasPackage state.db tenantId packageId ∧ storableOpt codePrefix = true ∧
      quantity ≤ (freshCodes state.db tenantId codePrefix draws quantity).card ∧
      Delivered tenantId quantity codePrefix batch state.db final.db vouchers) ∨
    (∃ failure final,
      run (exec env) (generateBatch tenantId codePrefix draws actorId packageId quantity) state =
        (.error failure, final) ∧
      ¬(HasPackage state.db tenantId packageId ∧ storableOpt codePrefix = true ∧
        quantity ≤ (freshCodes state.db tenantId codePrefix draws quantity).card)) := by
  have hrange : 1 ≤ (quantity : ℤ) ∧ (quantity : ℤ) ≤ maxBatchQuantity := by
    rw [maxBatchQuantity]
    omega
  rw [generateBatch, run_require_bind, if_pos hrange, run_bind]
  rcases run_getById env state .packages (some tenantId) packageId with
    ⟨package, hpackage, htenant, hid, hrun⟩ | hrun
  · have hhas : HasPackage state.db tenantId packageId :=
      ⟨package, hpackage, by simpa [ofTenant, rowTenant] using htenant, hid⟩
    rw [hrun]
    simp only [Prog.orRaise_some, Prog.pure_bind]
    rw [run_bind]
    rcases @run_create env state .voucherBatches (fun id => ⟨id, tenantId, packageId, quantity,
        codePrefix, some actorId⟩) (fun _ => rfl) (fun _ _ => rfl) with
      ⟨batch, middle, hvalid, hbatch, happended, hcreate⟩ | ⟨⟨id, hinvalid⟩, hcreate⟩
    · have hstored : storableOpt codePrefix = true := by
        rw [hbatch] at hvalid
        simpa [rowValid, textsStorable] using hvalid
      have hmiddle : middle.rows .offlineVouchers = state.db.rows .offlineVouchers :=
        happended.rows_of_ne (by decide)
      have hattempts : ((quantity : ℤ) * 5 + 20).toNat = maxAttempts quantity := by
        rw [maxAttempts]
        omega
      obtain ⟨vouchers, last, hfilled, hdrawn⟩ := @run_drawCodes tenantId batch.id codePrefix
        draws env { state with db := middle } hstored quantity (maxAttempts quantity) 0 quantity 0
        (by omega)
      have hlength : vouchers.length =
          min quantity (freshCodes state.db tenantId codePrefix draws quantity).card := by
        rw [← List.length_map OfflineVoucher.code, hfilled.codes, length_pick, freshCodes,
          codesOf, codesOf, hmiddle]
      rw [hcreate]
      simp only
      rw [run_bind, hattempts, hdrawn]
      simp only
      rw [run_require_bind]
      by_cases henough : quantity ≤ (freshCodes state.db tenantId codePrefix draws quantity).card
      · left
        rw [if_pos (by omega)]
        exact ⟨batch, _, vouchers, rfl, hhas, hstored, henough,
          hfilled.delivered hmiddle henough⟩
      · right
        rw [if_neg (by omega)]
        exact ⟨_, _, rfl, fun h => henough h.2.2⟩
    · right
      rw [hcreate]
      refine ⟨_, _, rfl, fun h => ?_⟩
      have hvalid : rowValid .voucherBatches
          (⟨id, tenantId, packageId, quantity, codePrefix, some actorId⟩ : VoucherBatch) = true := by
        simpa [rowValid, textsStorable] using h.2.1
      cases hinvalid.symm.trans hvalid
  · right
    rw [hrun]
    refine ⟨_, _, rfl, fun h => ?_⟩
    obtain ⟨package, hpackage, htenant, rfl⟩ := h.1
    have hfound := @run_getById_found env state .packages (some tenantId) package hpackage
      (by simpa [ofTenant, rowTenant] using htenant)
    cases hfound.symm.trans hrun

/-- The request: what the tenant asked for is there once it is committed, or nothing is.  It
raises exactly where the package is not the tenant's, the prefix cannot be stored, or too few
of the draws are new; and it looks at no more draws than it may. -/
theorem generateBatch_delivers (env : Outside) (world : PlatformWorld) (hlow : 1 ≤ quantity)
    (hhigh : quantity ≤ 5000) :
    ((∃ batch world' vouchers,
      transact env (generateBatch tenantId codePrefix draws actorId packageId quantity) world =
        (.ok batch, world') ∧
      HasPackage world.db tenantId packageId ∧ storableOpt codePrefix = true ∧
      quantity ≤ (freshCodes world.db tenantId codePrefix draws quantity).card ∧
      Delivered tenantId quantity codePrefix batch world.db world'.db vouchers) ∨
    (∃ failure world',
      transact env (generateBatch tenantId codePrefix draws actorId packageId quantity) world =
        (.error failure, world') ∧
      ¬(HasPackage world.db tenantId packageId ∧ storableOpt codePrefix = true ∧
        quantity ≤ (freshCodes world.db tenantId codePrefix draws quantity).card) ∧
      world'.db = world.db)) ∧
    ∀ draws' : ℕ → CodeBody, (∀ attempt < maxAttempts quantity, draws' attempt = draws attempt) →
      generateBatch tenantId codePrefix draws' actorId packageId quantity =
        generateBatch tenantId codePrefix draws actorId packageId quantity := by
  constructor
  · rcases run_generateBatch env ⟨⟨world.db, []⟩, 0⟩ hlow hhigh with
      ⟨batch, final, vouchers, hrun, hhas, hstored, henough, hdelivered⟩ |
      ⟨failure, final, hrun, hnot⟩
    · left
      use batch, ⟨final.db, world.sent ++ final.sent⟩, vouchers
      rw [transact, hrun]
      exact ⟨rfl, hhas, hstored, henough, hdelivered⟩
    · right
      use failure, ⟨world.db, world.sent ++ final.sent⟩
      rw [transact, hrun]
      exact ⟨rfl, hnot, rfl⟩
  · intro draws' h
    have hattempts : ((quantity : ℤ) * 5 + 20).toNat = maxAttempts quantity := by
      rw [maxAttempts]
      omega
    have hdraws : ∀ attempt, 0 ≤ attempt → attempt < 0 + maxAttempts quantity →
        draws' attempt = draws attempt := by
      intro attempt _ hattempt
      exact h attempt (by omega)
    simp only [generateBatch, hattempts, drawCodes_congr hdraws]

end Batch

/-! ## One voucher -/

/-- Every draw is the same. -/
def sampleBody : CodeBody where
  chars := "ZZZZZZZZZZ".toList
  length_eq := by decide
  mem_alphabet := List.all_iff_forall_prop.mp (by decide)

theorem generateBatch_delivers_one :
    ∃ batch world' vouchers,
      transact silentOutside (generateBatch 1 (some "WK") (fun _ => sampleBody) 5 3 1)
        ⟨voucherDb, []⟩ = (.ok batch, world') ∧
      Delivered 1 1 (some "WK") batch voucherDb world'.db vouchers := by
  rcases (@generateBatch_delivers 1 5 3 1 (some "WK") (fun _ => sampleBody) silentOutside
      ⟨voucherDb, []⟩ (by decide) (by decide)).1 with
    ⟨batch, world', vouchers, hrun, -, -, -, hdelivered⟩ | ⟨-, -, -, hnot, -⟩
  · exact ⟨batch, world', vouchers, hrun, hdelivered⟩
  · exact absurd ⟨⟨_, List.mem_singleton_self _, rfl, rfl⟩, by decide, by decide +kernel⟩ hnot

/-- A package of nobody: the batch is refused, although its one code is new. -/
theorem generateBatch_refused_foreignPackage :
    (transact silentOutside (generateBatch 1 none (fun _ => sampleBody) 5 9 1)
      ⟨voucherDb, []⟩).1.isOk = false ∧
    1 ≤ (freshCodes voucherDb 1 none (fun _ => sampleBody) 1).card :=
  ⟨by decide +kernel, by decide +kernel⟩

end InfinityRadius.Services.VoucherService
