import InfinityRadius.Core.SerialOrders
import InfinityRadius.Core.Versions
import InfinityRadius.Services.SettlementConfig

/-!
# Modes and commissions changed side by side

Concurrent changes take no lock: the unique index on active rows is all that puts them in order.
-/

namespace InfinityRadius.Services

open Amounts Database Interleaving Models Payload Program Sql

namespace ConcurrentVersions

/-! ## Versions -/

def settlementVersions : Versioning schema .tenantSettlementConfig SettlementMode where
  owner config := config.tenantId
  value config := config.mode
  active config := config.isActive
  retire config := { config with isActive := false }
  id_retire _ := rfl
  owner_retire _ := rfl
  value_retire _ := rfl
  active_retire _ := rfl
  exclusive howner hactive hactive' := by simp [rowConflict, howner, hactive, hactive']

def commissionVersions : Versioning schema .tenantCommercialTerms Numeric where
  owner terms := terms.tenantId
  value terms := terms.commissionRatePercent
  active terms := terms.isActive
  retire terms := { terms with isActive := false }
  id_retire _ := rfl
  owner_retire _ := rfl
  value_retire _ := rfl
  active_retire _ := rfl
  exclusive howner hactive hactive' := by simp [rowConflict, howner, hactive, hactive']

/-- The modes a tenant was settled in, the first one first. -/
def modesOf (tables : Tables Row) (tenantId : ℕ) : List SettlementMode :=
  settlementVersions.values (tables .tenantSettlementConfig) tenantId

/-- A super admin has put the tenant in the mode in which the platform holds its funds. -/
def Managed (tables : Tables Row) (tenantId : ℕ) : Prop :=
  .platformManagedWallet ∈ modesOf tables tenantId

/-- No version is gone, moved or changed in what it says. -/
structure Superseded (before after : Tables Row) : Prop where
  modes : ∀ tenantId, settlementVersions.labels (before .tenantSettlementConfig) tenantId <+:
    settlementVersions.labels (after .tenantSettlementConfig) tenantId
  rates : ∀ tenantId, commissionVersions.labels (before .tenantCommercialTerms) tenantId <+:
    commissionVersions.labels (after .tenantCommercialTerms) tenantId

theorem Superseded.refl (tables : Tables Row) : Superseded tables tables :=
  ⟨fun _ => List.prefix_refl _, fun _ => List.prefix_refl _⟩

theorem Superseded.trans {first second third : Tables Row} (h : Superseded first second)
    (h' : Superseded second third) : Superseded first third :=
  ⟨fun tenantId => (h.modes tenantId).trans (h'.modes tenantId),
    fun tenantId => (h.rates tenantId).trans (h'.rates tenantId)⟩

theorem Superseded.managed {before after : Tables Row} {tenantId : ℕ}
    (h : Superseded before after) (hmanaged : Managed before tenantId) :
    Managed after tenantId := by
  rw [Managed, modesOf, ← Versioning.map_snd_labels] at hmanaged ⊢
  exact ((h.modes tenantId).map Prod.snd).subset hmanaged

/-- Every tenant has the last of its modes and the last of its rates in force, no mode follows
itself, and nothing is withdrawn but from funds the platform was put in charge of. -/
structure Settled (tables : Tables Row) : Prop where
  modes : settlementVersions.InOrder (tables .tenantSettlementConfig)
  rates : commissionVersions.InOrder (tables .tenantCommercialTerms)
  switches : ∀ tenantId, (modesOf tables tenantId).IsChain (· ≠ ·)
  managed : ∀ withdrawal ∈ tables .withdrawals, Managed tables withdrawal.tenantId

/-! ## Changes side by side -/

/-- Versions have keys of their own, and who holds one relies on it to stay. -/
def settling : Discipline Row where
  inv tables := Settled tables ∧
    ((tables .tenantSettlementConfig).map (schema.id .tenantSettlementConfig)).Nodup ∧
      ((tables .tenantCommercialTerms).map (schema.id .tenantCommercialTerms)).Nodup
  rely locked before after :=
    (∀ key ∈ locked, key.1 = .tenantSettlementConfig ∨ key.1 = .tenantCommercialTerms →
      SameAt schema before after key) ∧ Superseded before after
  refl _ tables := ⟨fun _ _ _ => rfl, .refl tables⟩
  trans h h' := ⟨fun key hkey ht => (h'.1 key hkey ht).trans (h.1 key hkey ht), h.2.trans h'.2⟩
  mono hsub h := ⟨fun key hkey => h.1 key (hsub hkey), h.2⟩

theorem settlementVersions_tracked : settlementVersions.TrackedBy settling where
  keys _ hinv := hinv.2.1
  same hrely key hkey ht := hrely.1 key hkey (Or.inl ht)
  labels hrely := hrely.2.modes

theorem commissionVersions_tracked : commissionVersions.TrackedBy settling where
  keys _ hinv := hinv.2.2
  same hrely key hkey ht := hrely.1 key hkey (Or.inr ht)
  labels hrely := hrely.2.rates

section Sessions

variable {own own' : Own Row} {committed later : Tables Row} {tenantId : ℕ} {α β : Type}
  {retired added : Option TenantSettlementConfig}
  {retiredTerms addedTerms : Option TenantCommercialTerms}

/-- What a transaction has written of the versions of a tenant and of withdrawals. -/
structure Editing (tenantId : ℕ) (retired added : Option TenantSettlementConfig)
    (retiredTerms addedTerms : Option TenantCommercialTerms) (own : Own Row)
    (committed : Tables Row) : Prop where
  modes : settlementVersions.Draft tenantId retired added own committed
  rates : commissionVersions.Draft tenantId retiredTerms addedTerms own committed
  managed : ∀ withdrawal ∈ own.written .withdrawals, Managed committed withdrawal.tenantId

theorem Editing.stable
    (h : Editing tenantId retired added retiredTerms addedTerms own committed)
    (hrely : settling.rely own.locked committed later) :
    Editing tenantId retired added retiredTerms addedTerms own later where
  modes := h.modes.stable (settlementVersions_tracked.same hrely)
  rates := h.rates.stable (commissionVersions_tracked.same hrely)
  managed withdrawal hw := hrely.2.managed (h.managed withdrawal hw)

/-- Writes that leave the versions alone, and every withdrawal with its tenant. -/
def apart : Footprint Table Row Request where
  inserts t _ := t ≠ .tenantSettlementConfig ∧ t ≠ .tenantCommercialTerms ∧ t ≠ .withdrawals
  updates
    | .tenantSettlementConfig, _, _ => False
    | .tenantCommercialTerms, _, _ => False
    | .withdrawals, _, write => ∀ withdrawal, (write withdrawal).tenantId = withdrawal.tenantId
    | _, _, _ => True
  sends _ := True

theorem Editing.of_written
    (h : Editing tenantId retired added retiredTerms addedTerms own committed)
    (hwritten : ∀ t, t = .tenantSettlementConfig ∨ t = .tenantCommercialTerms ∨
      t = .withdrawals → own'.written t = own.written t) (hlocked : own.locked ⊆ own'.locked) :
    Editing tenantId retired added retiredTerms addedTerms own' committed where
  modes := h.modes.of_own (hwritten _ (Or.inl rfl)) hlocked
  rates := h.rates.of_own (hwritten _ (Or.inr (Or.inl rfl))) hlocked
  managed := by
    rw [hwritten _ (Or.inr (Or.inr rfl))]
    exact h.managed

/-- A withdrawal is written for a tenant whose funds the platform holds. -/
theorem Editing.write_withdrawal {withdrawal : Withdrawal}
    (h : Editing tenantId retired added retiredTerms addedTerms own committed)
    (hmanaged : Managed committed withdrawal.tenantId) :
    Editing tenantId retired added retiredTerms addedTerms
      (own.write schema .withdrawals withdrawal) committed where
  modes := h.modes.of_own (Own.written_write_of_ne (by decide)) (List.subset_append_left _ _)
  rates := h.rates.of_own (Own.written_write_of_ne (by decide)) (List.subset_append_left _ _)
  managed := by
    rw [Own.written_write]
    intro other hother
    rcases mem_storeRow.mp hother with rfl | ⟨hother, -⟩
    · exact hmanaged
    · exact h.managed other hother

theorem Editing.write_other {t : Table} {row : Row t}
    (h : Editing tenantId retired added retiredTerms addedTerms own committed)
    (ht : t ≠ .tenantSettlementConfig) (ht' : t ≠ .tenantCommercialTerms)
    (ht'' : t ≠ .withdrawals) :
    Editing tenantId retired added retiredTerms addedTerms (own.write schema t row) committed := by
  apply h.of_written _ (List.subset_append_left _ _)
  rintro t' (rfl | rfl | rfl)
  · exact Own.written_write_of_ne ht.symm
  · exact Own.written_write_of_ne ht'.symm
  · exact Own.written_write_of_ne ht''.symm

variable {held : Held Row} {draw : Draw Ask Answer HttpResult} {keys : List (Key Table)}

theorem Editing.reply {s : Stmt Table Row Ask Request} {reply : Reply Answer HttpResult s}
    (hs : apart.Allows s) (hinv : settling.inv committed)
    (h : Editing tenantId retired added retiredTerms addedTerms own committed)
    (hreply : own.reply schema committed held draw keys s = some (reply, own')) :
    Editing tenantId retired added retiredTerms addedTerms own' committed := by
  have hlocked := Own.locked_subset hreply
  cases s with
  | insert t build =>
    simp only [Own.reply] at hreply
    split at hreply
    · obtain ⟨ht, ht', ht''⟩ := hs 0
      rcases Own.tryWrite_eq_some hreply with ⟨-, rfl⟩ | ⟨-, rfl, -, -⟩
      · exact h
      · exact h.write_other ht ht' ht''
    · cases hreply
  | update t id write =>
    rcases Own.reply_update hreply with ⟨-, rfl⟩ | ⟨old, hold, -, -, -, rfl⟩
    · exact h
    · by_cases hwithdrawals : t = .withdrawals
      · subst hwithdrawals
        have htenant : (write old).tenantId = old.tenantId := hs old
        apply h.write_withdrawal
        rw [htenant]
        rcases mem_overlay hold with hold | hold
        · exact hinv.1.managed old hold
        · exact h.managed old hold
      · apply h.write_other _ _ hwithdrawals
        · rintro rfl
          exact hs
        · rintro rfl
          exact hs
  | selectForUpdate t p =>
    obtain ⟨-, rfl⟩ := Prod.mk.inj (Option.some.inj hreply)
    exact h.of_written (fun _ _ => rfl) hlocked
  | _ =>
    obtain ⟨-, rfl⟩ := Prod.mk.inj (Option.some.inj hreply)
    exact h.of_written (fun _ _ => rfl) hlocked

/-- The transaction has written no version, and what it loaded of them it still knows. -/
structure Idle (own : Own Row) (committed : Tables Row) : Prop where
  editing : ∀ tenantId, Editing tenantId none none none none own committed
  modes : ∀ config ∈ own.loaded .tenantSettlementConfig, settlementVersions.Known committed config
  rates : ∀ terms ∈ own.loaded .tenantCommercialTerms, commissionVersions.Known committed terms

theorem idle_empty : Idle {} committed where
  editing _ :=
    { modes := Versioning.draft_of_unwritten rfl
      rates := Versioning.draft_of_unwritten rfl
      managed := fun _ hw => by cases hw }
  modes _ hconfig := by cases hconfig
  rates _ hterms := by cases hterms

theorem Idle.stable (h : Idle own committed) (hrely : settling.rely own.locked committed later) :
    Idle own later where
  editing tenantId := (h.editing tenantId).stable hrely
  modes config hconfig := (h.modes config hconfig).stable settlementVersions_tracked hrely
  rates terms hterms := (h.rates terms hterms).stable commissionVersions_tracked hrely

theorem sparing_of_apart {s : Stmt Table Row Ask Request} {t : Table} (hs : apart.Allows s)
    (ht : t = .tenantSettlementConfig ∨ t = .tenantCommercialTerms) :
    (sparing t : Footprint Table Row Request).Allows s := by
  cases s with
  | insert t' build =>
    rintro - rfl
    obtain ⟨hmodes, hrates, -⟩ := hs 0
    exact ht.elim hmodes hrates
  | update t' id write =>
    rintro rfl
    rcases ht with rfl | rfl
    · exact hs
    · exact hs
  | _ => trivial

theorem Idle.reply {s : Stmt Table Row Ask Request} {reply : Reply Answer HttpResult s}
    (hs : apart.Allows s) (hinv : settling.inv committed) (h : Idle own committed)
    (hreply : own.reply schema committed held draw keys s = some (reply, own')) :
    Idle own' committed where
  editing tenantId := (h.editing tenantId).reply hs hinv hreply
  modes config hconfig := by
    rcases Own.mem_loaded_reply (sparing_of_apart hs (Or.inl rfl)) hreply hconfig with
      hloaded | hread
    · exact h.modes config hloaded
    · rw [overlay_of_unwritten (h.editing 0).modes.written] at hread
      exact Versioning.mem_labels hread
  rates terms hterms := by
    rcases Own.mem_loaded_reply (sparing_of_apart hs (Or.inr rfl)) hreply hterms with
      hloaded | hread
    · exact h.rates terms hloaded
    · rw [overlay_of_unwritten (h.editing 0).rates.written] at hread
      exact Versioning.mem_labels hread

/-! ## Whole changes -/

/-- Whoever retires a version stores the next one, and no mode follows itself. -/
structure Whole (own : Own Row) (committed : Tables Row) : Prop where
  edited : ∃ tenantId retired added retiredTerms addedTerms,
    Editing tenantId retired added retiredTerms addedTerms own committed ∧
      (added = none → retired = none) ∧ (addedTerms = none → retiredTerms = none) ∧
        ∀ old ∈ retired, ∀ new ∈ added, old.mode ≠ new.mode

theorem Idle.whole (h : Idle own committed) : Whole own committed :=
  ⟨0, none, none, none, none, h.editing 0, fun _ => rfl, fun _ => rfl, fun _ hold => by cases hold⟩

theorem Whole.stable (h : Whole own committed) (hrely : settling.rely own.locked committed later) :
    Whole own later := by
  obtain ⟨tenantId, retired, added, retiredTerms, addedTerms, hediting, hwhole⟩ := h.edited
  exact ⟨tenantId, retired, added, retiredTerms, addedTerms, hediting.stable hrely, hwhole⟩

/-- Only these programs write versions and withdrawals. -/
def shared (t : Table) : Bool :=
  decide (t ≠ .tenantSettlementConfig ∧ t ≠ .tenantCommercialTerms ∧ t ≠ .withdrawals)

theorem Whole.commits (h : Whole own committed) (hinv : settling.inv committed)
    (hadmitted : ∀ t, shared t = false → own.Admitted schema t committed) :
    Commits schema settling own committed := by
  obtain ⟨tenantId, retired, added, retiredTerms, addedTerms, hediting, hmode, hrate, hswitch⟩ :=
    h.edited
  obtain ⟨hsettled, hkeys, hkeys'⟩ := hinv
  obtain ⟨hmodes, hlabels, hlast⟩ := hediting.modes.commit_whole hmode hsettled.modes hkeys
    (hadmitted _ (by decide))
  obtain ⟨hrates, hlabels', -⟩ := hediting.rates.commit_whole hrate hsettled.rates hkeys'
    (hadmitted _ (by decide))
  have hsuperseded : Superseded committed (overlay schema committed own.written) := by
    constructor
    · intro tenant
      rw [hlabels]
      exact List.prefix_append _ _
    · intro tenant
      rw [hlabels']
      exact List.prefix_append _ _
  refine ⟨⟨⟨hmodes, hrates, fun tenant => ?_, fun withdrawal hw => ?_⟩, nodup_overlay hkeys,
    nodup_overlay hkeys'⟩, fun locked hdisjoint => ⟨fun key hkey ht => ?_, hsuperseded⟩⟩
  · have hvalues := congrArg (List.map Prod.snd) (hlabels tenant)
    rw [List.map_append, Versioning.map_snd_labels, Versioning.map_snd_labels] at hvalues
    rw [modesOf, hvalues]
    apply List.isChain_append.mpr
    refine ⟨hsettled.switches tenant, ?_, ?_⟩
    · split
      · cases added with
        | none => exact List.isChain_nil
        | some new => exact List.isChain_singleton _
      · exact List.isChain_nil
    · intro last hlast' next hnext
      split at hnext
      · rename_i htenant
        subst htenant
        cases added with
        | none => cases hnext
        | some new =>
          obtain rfl := Option.some.inj hnext
          rw [Versioning.values, List.getLast?_map, hlast rfl] at hlast'
          obtain ⟨old, hold, rfl⟩ := Option.map_eq_some_iff.mp hlast'
          exact hswitch old hold new rfl
      · cases hnext
  · rcases mem_overlay hw with hw | hw
    · exact hsuperseded.managed (hsettled.managed withdrawal hw)
    · exact hsuperseded.managed (hediting.managed withdrawal hw)
  · apply sameAt_overlay
    intro row hrow hid
    have hshared : shared key.1 = false := by
      rcases ht with ht | ht
      · rw [ht]
        decide
      · rw [ht]
        decide
    apply hdisjoint hkey
    have hlocked := (hadmitted key.1 hshared).locked row hrow
    rwa [hid] at hlocked

/-! ## Programs -/

/-- What the transaction ensures of what it goes on with. -/
abbrev Ends (returns : α → Own Row → Tables Row → Prop) (x : Tx α) (own : Own Row)
    (committed : Tables Row) : Prop :=
  Ensures schema settling returns x own committed

variable {x : Tx α} {f : α → Tx β} {returns : β → Own Row → Tables Row → Prop}

/-- Statements on anything else come first. -/
theorem ends_idle (hinv : settling.inv committed) (h : Idle own committed)
    (hall : x.All apart.Allows)
    (hf : ∀ a own' later, settling.inv later → Idle own' later → Ends returns (f a) own' later) :
    Ends returns (x >>= f) own committed :=
  Ensures.bind hinv (Ensures.kept Idle.stable (fun hs hinv h hreply => h.reply hs hinv hreply)
    hall h) hf

theorem ends_editing (hall : x.All apart.Allows)
    (h : Editing tenantId retired added retiredTerms addedTerms own committed) :
    Ends (fun _ own' later =>
      Editing tenantId retired added retiredTerms addedTerms own' later) x own committed :=
  Ensures.kept Editing.stable (fun hs hinv h hreply => h.reply hs hinv hreply) hall h

/-- The version in force is read, as it is or as it was. -/
theorem ends_current {t : Table} {γ : Type} {v : Versioning schema t γ} {p : Row t → Bool}
    (htracked : v.TrackedBy settling)
    (hidle : ∀ {own committed}, Idle own committed → own.written t = [] ∧
      ∀ row ∈ own.loaded t, v.Known committed row)
    (hp : ∀ row, p row = true → v.owner row = tenantId) (h : Idle own committed) :
    Ends (fun found own' later => Idle own' later ∧
        ∀ row ∈ found, v.owner row = tenantId ∧ v.Known later row)
      (selectFirst t p) own committed := by
  intro later hrely hinv held draw keys reply own' hreply
  have hlater := h.stable hrely
  have hread := hlater.reply (s := .select t p) trivial hinv hreply
  obtain ⟨rfl, rfl⟩ := Prod.mk.inj (Option.some.inj hreply)
  intro last hlast _
  refine ⟨hread.stable hlast, fun row hrow => ?_⟩
  obtain ⟨stored, hstored, rfl⟩ := List.mem_map.mp (List.mem_of_mem_head? hrow)
  obtain ⟨hwritten, hloaded⟩ := hidle hlater
  rw [overlay_of_unwritten hwritten] at hstored
  obtain ⟨hmem, hmatch⟩ := List.mem_filter.mp hstored
  obtain ⟨hknown, howner⟩ := Versioning.known_object (htracked.keys later hinv) hloaded hmem
  exact ⟨howner.trans (hp stored hmatch), hknown.stable htracked hlast⟩

theorem ends_activeMode (h : Idle own committed) :
    Ends (fun found own' later => Idle own' later ∧ ∀ config ∈ found,
        config.tenantId = tenantId ∧ settlementVersions.Known later config)
      (SettlementConfigService.getActive tenantId) own committed := by
  apply ends_current settlementVersions_tracked _ _ h
  · exact fun hidle => ⟨(hidle.editing 0).modes.written, hidle.modes⟩
  · intro config hconfig
    rw [Bool.and_eq_true, beq_iff_eq] at hconfig
    exact hconfig.1

theorem ends_activeTerms (h : Idle own committed) :
    Ends (fun found own' later => Idle own' later ∧ ∀ terms ∈ found,
        terms.tenantId = tenantId ∧ commissionVersions.Known later terms)
      (CommercialTermsService.getActive tenantId) own committed := by
  apply ends_current commissionVersions_tracked _ _ h
  · exact fun hidle => ⟨(hidle.editing 0).rates.written, hidle.rates⟩
  · intro terms hterms
    rw [Bool.and_eq_true, beq_iff_eq] at hterms
    exact hterms.1

theorem ends_orRaise {γ : Type} {stored : Option γ} {failure : Failure}
    {P : γ → Own Row → Tables Row → Prop}
    (h : ∀ row ∈ stored, ∀ later, settling.rely own.locked committed later →
      settling.inv later → P row own later) :
    Ends P (Prog.orRaise stored failure) own committed := by
  cases stored with
  | none => trivial
  | some row => exact h row rfl

/-! ### The mode -/

/-- What a change of the mode leaves alone. -/
structure BesideModes (tenantId : ℕ) (retiredTerms addedTerms : Option TenantCommercialTerms)
    (own : Own Row) (committed : Tables Row) : Prop where
  rates : commissionVersions.Draft tenantId retiredTerms addedTerms own committed
  managed : ∀ withdrawal ∈ own.written .withdrawals, Managed committed withdrawal.tenantId

theorem BesideModes.stable (h : BesideModes tenantId retiredTerms addedTerms own committed)
    (hrely : settling.rely own.locked committed later) :
    BesideModes tenantId retiredTerms addedTerms own later where
  rates := h.rates.stable (commissionVersions_tracked.same hrely)
  managed withdrawal hw := hrely.2.managed (h.managed withdrawal hw)

theorem BesideModes.write (h : BesideModes tenantId retiredTerms addedTerms own committed)
    (config : TenantSettlementConfig) : BesideModes tenantId retiredTerms addedTerms
      (own.write schema .tenantSettlementConfig config) committed where
  rates := h.rates.of_own (Own.written_write_of_ne (by decide)) (List.subset_append_left _ _)
  managed := by
    rw [Own.written_write_of_ne (by decide)]
    exact h.managed

theorem ends_retireMode {config : TenantSettlementConfig} (hinv : settling.inv committed)
    (h : Idle own committed) (htenant : config.tenantId = tenantId)
    (hknown : settlementVersions.Known committed config) :
    Ends (fun _ own' later => ∃ old : TenantSettlementConfig, old.mode = config.mode ∧
        Editing tenantId (some old) none none none own' later)
      (updateRow .tenantSettlementConfig config.id fun stored =>
        { stored with isActive := false }) own committed := by
  have hediting := h.editing tenantId
  have hbeside : BesideModes tenantId none none own committed :=
    ⟨hediting.rates, hediting.managed⟩
  apply Ensures.bind hinv (hediting.modes.ensures_retire hbeside settlementVersions_tracked
    BesideModes.stable (fun config h => h.write config) hknown htenant)
  intro stored own' later _ hstored
  apply ends_orRaise
  rintro row rfl last hrely _
  rcases hstored with hnone | ⟨old, hmode, hdraft, hrest⟩
  · cases hnone
  · exact ⟨old, hmode, Editing.stable ⟨hdraft, hrest.rates, hrest.managed⟩ hrely⟩

theorem ends_storeMode {build : ℕ → TenantSettlementConfig} (hinv : settling.inv committed)
    (h : Editing tenantId retired none retiredTerms addedTerms own committed)
    (htenant : ∀ id, (build id).tenantId = tenantId)
    (hactive : ∀ id, (build id).isActive = true) :
    Ends (fun _ own' later => ∃ id,
        Editing tenantId retired (some (build id)) retiredTerms addedTerms own' later)
      (create .tenantSettlementConfig build) own committed := by
  have hbeside : BesideModes tenantId retiredTerms addedTerms own committed :=
    ⟨h.rates, h.managed⟩
  apply Ensures.bind hinv (h.modes.ensures_store hbeside settlementVersions_tracked
    BesideModes.stable (fun config h => h.write config) htenant hactive)
  intro stored own' later _ hstored
  apply ends_orRaise
  rintro row rfl last hrely _
  rcases hstored with hnone | ⟨id, hdraft, hrest⟩
  · cases hnone
  · exact ⟨id, Editing.stable ⟨hdraft, hrest.rates, hrest.managed⟩ hrely⟩

theorem all_writeAuditLog {metadata : List (Option String)} :
    (writeAuditLog metadata).All apart.Allows := Prog.all_require _ _

/-- The rest of the change, once the mode in force is retired. -/
theorem ends_newMode {mode : SettlementMode} {notes : Option String}
    {metadata : List (Option String)} (hinv : settling.inv committed)
    (h : Editing tenantId retired none none none own committed)
    (hother : ∀ old ∈ retired, old.mode ≠ mode) :
    Ends (fun _ own' later => Whole own' later)
      (do
        Prog.require (textsStorable [notes] = true) .database
        let created ← create .tenantSettlementConfig fun id =>
          { id, tenantId, mode, isActive := true }
        writeAuditLog metadata
        pure created) own committed := by
  apply Ensures.bind hinv (ends_editing (Prog.all_require _ _) h)
  intro _ own₁ later₁ hinv₁ h₁
  apply Ensures.bind hinv₁ (ends_storeMode hinv₁ h₁ (fun _ => rfl) fun _ => rfl)
  rintro created own₂ later₂ hinv₂ ⟨id, h₂⟩
  apply Ensures.bind hinv₂ (ends_editing all_writeAuditLog h₂)
  intro _ own₃ later₃ _ h₃ last hlast _
  refine ⟨tenantId, retired, _, none, none, h₃.stable hlast, fun hnone => ?_, fun _ => rfl,
    fun old hold new hnew => ?_⟩
  · cases hnone
  · rw [← Option.some.inj hnew]
    exact hother old hold

theorem ends_setMode {mode : SettlementMode} {notes : Option String}
    (hinv : settling.inv committed) (h : Idle own committed) :
    Ends (fun _ own' later => Whole own' later)
      (SettlementConfigService.setMode tenantId mode notes) own committed := by
  apply Ensures.bind hinv (ends_activeMode h)
  rintro current own₁ later₁ hinv₁ ⟨h₁, hcurrent⟩
  apply Ensures.required
  intro hother
  cases current with
  | none => exact ends_newMode hinv₁ (h₁.editing tenantId) fun _ hold => by cases hold
  | some config =>
    obtain ⟨htenant, hknown⟩ := hcurrent config rfl
    apply Ensures.bind hinv₁ (ends_retireMode hinv₁ h₁ htenant hknown)
    rintro _ own₂ later₂ hinv₂ ⟨old, hmode, h₂⟩
    apply ends_newMode hinv₂ h₂
    intro old' hold'
    rw [← Option.some.inj hold', hmode]
    simpa using hother

/-! ### The commission -/

/-- What a change of the commission leaves alone. -/
structure BesideRates (tenantId : ℕ) (retired added : Option TenantSettlementConfig)
    (own : Own Row) (committed : Tables Row) : Prop where
  modes : settlementVersions.Draft tenantId retired added own committed
  managed : ∀ withdrawal ∈ own.written .withdrawals, Managed committed withdrawal.tenantId

theorem BesideRates.stable (h : BesideRates tenantId retired added own committed)
    (hrely : settling.rely own.locked committed later) :
    BesideRates tenantId retired added own later where
  modes := h.modes.stable (settlementVersions_tracked.same hrely)
  managed withdrawal hw := hrely.2.managed (h.managed withdrawal hw)

theorem BesideRates.write (h : BesideRates tenantId retired added own committed)
    (terms : TenantCommercialTerms) : BesideRates tenantId retired added
      (own.write schema .tenantCommercialTerms terms) committed where
  modes := h.modes.of_own (Own.written_write_of_ne (by decide)) (List.subset_append_left _ _)
  managed := by
    rw [Own.written_write_of_ne (by decide)]
    exact h.managed

theorem ends_retireTerms {terms : TenantCommercialTerms} (hinv : settling.inv committed)
    (h : Idle own committed) (htenant : terms.tenantId = tenantId)
    (hknown : commissionVersions.Known committed terms) :
    Ends (fun _ own' later => ∃ old, Editing tenantId none none (some old) none own' later)
      (updateRow .tenantCommercialTerms terms.id fun stored =>
        { stored with isActive := false }) own committed := by
  have hediting := h.editing tenantId
  have hbeside : BesideRates tenantId none none own committed :=
    ⟨hediting.modes, hediting.managed⟩
  apply Ensures.bind hinv (hediting.rates.ensures_retire hbeside commissionVersions_tracked
    BesideRates.stable (fun terms h => h.write terms) hknown htenant)
  intro stored own' later _ hstored
  apply ends_orRaise
  rintro row rfl last hrely _
  rcases hstored with hnone | ⟨old, -, hdraft, hrest⟩
  · cases hnone
  · exact ⟨old, Editing.stable ⟨hrest.modes, hdraft, hrest.managed⟩ hrely⟩

theorem ends_storeTerms {build : ℕ → TenantCommercialTerms} (hinv : settling.inv committed)
    (h : Editing tenantId retired added retiredTerms none own committed)
    (htenant : ∀ id, (build id).tenantId = tenantId)
    (hactive : ∀ id, (build id).isActive = true) :
    Ends (fun _ own' later => ∃ id,
        Editing tenantId retired added retiredTerms (some (build id)) own' later)
      (create .tenantCommercialTerms build) own committed := by
  have hbeside : BesideRates tenantId retired added own committed := ⟨h.modes, h.managed⟩
  apply Ensures.bind hinv (h.rates.ensures_store hbeside commissionVersions_tracked
    BesideRates.stable (fun terms h => h.write terms) htenant hactive)
  intro stored own' later _ hstored
  apply ends_orRaise
  rintro row rfl last hrely _
  rcases hstored with hnone | ⟨id, hdraft, hrest⟩
  · cases hnone
  · exact ⟨id, Editing.stable ⟨hrest.modes, hdraft, hrest.managed⟩ hrely⟩

theorem ends_newTerms {rate : Numeric} {actorId : Option ℕ} {notes : Option String}
    (hinv : settling.inv committed)
    (h : Editing tenantId none none retiredTerms none own committed) :
    Ends (fun _ own' later => Whole own' later)
      (create .tenantCommercialTerms fun id =>
        { id, tenantId, commissionRatePercent := rate, isActive := true, notes,
          createdBy := actorId }) own committed := by
  apply Ensures.mono (ends_storeTerms hinv h (fun _ => rfl) fun _ => rfl)
  rintro _ own' later ⟨id, h'⟩
  refine ⟨tenantId, none, none, retiredTerms, _, h', fun _ => rfl, fun hnone => ?_,
    fun _ hold => ?_⟩
  · cases hnone
  · cases hold

theorem ends_setCommissionRate {rate : Decimal} {actorId : Option ℕ} {notes : Option String}
    (hinv : settling.inv committed) (h : Idle own committed) :
    Ends (fun _ own' later => Whole own' later)
      (CommercialTermsService.setCommissionRate tenantId rate actorId notes) own committed := by
  apply ends_idle hinv h (Prog.all_require _ _)
  intro _ own₁ later₁ hinv₁ h₁
  apply Ensures.bind hinv₁ (ends_activeTerms h₁)
  rintro current own₂ later₂ hinv₂ ⟨h₂, hcurrent⟩
  cases current with
  | none => exact ends_newTerms hinv₂ (h₂.editing tenantId)
  | some terms =>
    obtain ⟨htenant, hknown⟩ := hcurrent terms rfl
    apply Ensures.bind hinv₂ (ends_retireTerms hinv₂ h₂ htenant hknown)
    rintro _ own₃ later₃ hinv₃ ⟨old, h₃⟩
    exact ends_newTerms hinv₃ h₃

/-! ### Withdrawals -/

/-- A tenant whose mode lets it withdraw has been put in that mode. -/
theorem ends_getMode (hinv : settling.inv committed) (h : Idle own committed) :
    Ends (fun mode own' later => Idle own' later ∧
        (mode = .platformManagedWallet → Managed later tenantId))
      (SettlementConfigService.getMode tenantId) own committed := by
  apply Ensures.bind hinv (ends_activeMode h)
  rintro current own' later _ ⟨h', hcurrent⟩ last hlast _
  refine ⟨h'.stable hlast, fun hmode => ?_⟩
  cases current with
  | none => cases hmode
  | some config =>
    obtain ⟨htenant, hknown⟩ := hcurrent config rfl
    apply hlast.2.managed
    rw [Managed, modesOf, ← Versioning.map_snd_labels, ← htenant]
    apply List.mem_map.mpr
    exact ⟨_, hknown, hmode⟩

/-- The transaction may withdraw from the funds of the tenant. -/
def MayWithdraw (tenantId : ℕ) (own : Own Row) (committed : Tables Row) : Prop :=
  Idle own committed ∧ Managed committed tenantId

theorem MayWithdraw.stable (h : MayWithdraw tenantId own committed)
    (hrely : settling.rely own.locked committed later) : MayWithdraw tenantId own later :=
  ⟨h.1.stable hrely, hrely.2.managed h.2⟩

theorem ends_mayWithdraw (hinv : settling.inv committed) (h : MayWithdraw tenantId own committed)
    (hall : x.All apart.Allows)
    (hf : ∀ a own' later, settling.inv later → MayWithdraw tenantId own' later →
      Ends returns (f a) own' later) : Ends returns (x >>= f) own committed :=
  Ensures.bind hinv (Ensures.kept MayWithdraw.stable
    (fun hs hinv h hreply => ⟨h.1.reply hs hinv hreply, h.2⟩) hall h) hf

theorem ends_createWithdrawal {build : ℕ → Withdrawal} (h : MayWithdraw tenantId own committed)
    (htenant : ∀ id, (build id).tenantId = tenantId) :
    Ends (fun _ own' later => Editing tenantId none none none none own' later)
      (create .withdrawals build) own committed := by
  intro later hrely _ held draw keys stored own' hreply
  obtain ⟨hidle, hmanaged⟩ := h.stable hrely
  have hediting := hidle.editing tenantId
  simp only [Own.reply] at hreply
  split at hreply
  · rcases Own.tryWrite_eq_some hreply with ⟨rfl, -⟩ | ⟨rfl, rfl, -, -⟩
    · trivial
    · have hwithdrawal : Managed later (build draw.id).tenantId := by
        rw [htenant]
        exact hmanaged
      have hwritten := hediting.write_withdrawal hwithdrawal
      exact fun last hlast _ => hwritten.stable hlast
  · cases hreply

theorem all_updateWithdrawal {w : Withdrawal} {set : Withdrawal → Withdrawal} :
    (updateWithdrawal w set).All apart.Allows := all_updateRow fun _ => rfl

theorem all_ask {question : Ask} :
    (issue (.ask question) : Tx (Reply Answer HttpResult (.ask question))).All apart.Allows :=
  ⟨trivial, fun _ => trivial⟩

theorem all_issueAndSendOtp {runtime : Runtime} {w : Withdrawal} {email : String} :
    (PayoutService.issueAndSendOtp runtime w email).All apart.Allows :=
  .bind (.bind all_ask fun _ => .bind (TwoFactorService.all_hashCode _ _ _) fun _ =>
    .bind all_now fun _ => .bind all_updateWithdrawal fun _ => trivial) fun _ =>
      .bind all_now fun _ => .bind all_updateWithdrawal fun _ => .bind all_ask fun _ => trivial

theorem all_reserveForWithdrawal {amount : Decimal} :
    (WalletService.reserveForWithdrawal tenantId amount).All apart.Allows := by
  have hmove : ∀ wallet bucket delta,
      (WalletService.moveBucket wallet bucket delta).All apart.Allows :=
    fun _ _ _ => WalletService.all_moveBucket (fun _ _ => trivial) _ _ _
  have hlocked : (WalletService.lockedWallet tenantId).All apart.Allows :=
    WalletService.all_lockedWallet (fun _ => trivial) (fun _ => trivial)
      (fun _ _ => ⟨by decide, by decide, by decide⟩) _
  exact .bind (Prog.all_require _ _) fun _ => .bind hlocked fun _ => .bind (hmove _ _ _) fun _ =>
    .bind (hmove _ _ _) fun _ => trivial

theorem all_resolveVerifiedEmail {actorId : ℕ} :
    (PayoutService.resolveVerifiedEmail tenantId actorId).All apart.Allows := by
  refine .bind (all_getById _ _) fun profile => .bind (all_selectOne _) fun verification => ?_
  split
  · exact .ite (fun _ => trivial) fun _ => trivial
  · trivial

theorem all_enforceWithdrawalLimits {settings : Settings} {amount : Decimal} :
    (PayoutService.enforceWithdrawalLimits settings tenantId amount).All apart.Allows := by
  refine .bind (Prog.all_require _ _) fun _ => .bind (Prog.all_require _ _) fun _ =>
    .ite (fun _ => trivial) fun _ => .bind all_now fun _ => .bind ?_ fun _ =>
      .bind (Prog.all_require _ _) fun _ => Prog.all_require _ _
  exact ⟨trivial, fun _ => trivial⟩

theorem ends_requestWithdrawal {runtime : Runtime} {actorId destinationId : ℕ} {amount : Decimal}
    (hinv : settling.inv committed) (h : Idle own committed) :
    Ends (fun _ own' later => Whole own' later)
      (PayoutService.requestWithdrawal runtime tenantId actorId destinationId amount) own
      committed := by
  apply ends_idle hinv h (Prog.all_require _ _)
  intro _ own₁ later₁ hinv₁ h₁
  apply ends_idle hinv₁ h₁ (all_getById _ _)
  intro _ own₂ later₂ hinv₂ h₂
  apply ends_idle hinv₂ h₂ (Prog.all_orRaise _ _)
  intro destination own₃ later₃ hinv₃ h₃
  apply Ensures.bind hinv₃ (ends_getMode hinv₃ h₃)
  rintro mode own₄ later₄ hinv₄ ⟨hidle, hmode⟩
  apply Ensures.required
  intro hplatform
  have h₄ : MayWithdraw tenantId own₄ later₄ := ⟨hidle, hmode hplatform⟩
  apply ends_mayWithdraw hinv₄ h₄ (Prog.all_require _ _)
  intro _ own₅ later₅ hinv₅ h₅
  apply ends_mayWithdraw hinv₅ h₅ (all_selectOne _)
  intro flags own₆ later₆ hinv₆ h₆
  apply ends_mayWithdraw hinv₆ h₆ (Prog.all_require _ _)
  intro _ own₇ later₇ hinv₇ h₇
  apply ends_mayWithdraw hinv₇ h₇ all_resolveVerifiedEmail
  intro email own₈ later₈ hinv₈ h₈
  apply ends_mayWithdraw hinv₈ h₈ all_enforceWithdrawalLimits
  intro _ own₉ later₉ hinv₉ h₉
  apply ends_mayWithdraw hinv₉ h₉ (Prog.All.tryCatch all_reserveForWithdrawal _)
  swap
  · intro failure
    cases failure <;> trivial
  intro wallet own₁₀ later₁₀ hinv₁₀ h₁₀
  apply ends_mayWithdraw hinv₁₀ h₁₀ all_uuidHex
  intro idempotencyKey own₁₁ later₁₁ hinv₁₁ h₁₁
  apply Ensures.bind hinv₁₁ (ends_createWithdrawal h₁₁ fun _ => rfl)
  intro withdrawal own₁₂ later₁₂ hinv₁₂ h₁₂
  have hrest : ∀ {γ : Type} {rest : Tx γ}, rest.All apart.Allows →
      Ends (fun _ own' later => Whole own' later) rest own₁₂ later₁₂ := by
    intro γ rest hall
    apply Ensures.mono (ends_editing hall h₁₂)
    intro _ own' later h'
    exact ⟨tenantId, none, none, none, none, h', fun _ => rfl, fun _ => rfl,
      fun _ hold => by cases hold⟩
  apply hrest
  exact .bind (all_create fun _ => ⟨by decide, by decide, by decide⟩) fun _ =>
    .bind all_issueAndSendOtp fun _ => trivial

end Sessions

/-! ## Every interleaving -/

/-- A call that opens a transaction: a super admin sets a mode or a rate, a tenant requests a
withdrawal, or any program runs that leaves versions alone and requests none. -/
inductive VersionCall
  | setSettlementConfig (tenantId : ℕ) (mode : SettlementMode) (notes : Option String)
  | setCommercialTerms (tenantId : ℕ) (rate : Decimal) (actorId : Option ℕ)
      (notes : Option String)
  | requestWithdrawal (runtime : Runtime) (tenantId actorId destinationId : ℕ) (amount : Decimal)
  | other (program : Tx Unit) (h : program.All apart.Allows)

def VersionCall.program : VersionCall → Tx Unit
  | setSettlementConfig tenantId mode notes => do
    let _ ← TenantRoutes.setSettlementConfig tenantId mode notes
    pure ()
  | setCommercialTerms tenantId rate actorId notes => do
    let _ ← TenantRoutes.setCommercialTerms tenantId rate actorId notes
    pure ()
  | requestWithdrawal runtime tenantId actorId destinationId amount => do
    let _ ← PayoutService.requestWithdrawal runtime tenantId actorId destinationId amount
    pure ()
  | other program _ => program

section Interleavings

variable {own : Own Row} {committed : Tables Row}

theorem ends_discard {α : Type} {x : Tx α}
    (h : Ends (fun _ own' later => Whole own' later) x own committed)
    (hinv : settling.inv committed) :
    Ends (fun _ own' later => Whole own' later) (do let _ ← x; pure () : Tx Unit) own
      committed := by
  apply Ensures.bind hinv h
  intro _ own' later _ h'
  exact fun last hlast _ => h'.stable hlast

theorem ends_program (call : VersionCall) (hinv : settling.inv committed) :
    Ends (fun _ own' later => Whole own' later) call.program {} committed := by
  have hexisting : ∀ tenantId, (TenantRoutes.requireExistingTenant tenantId).All apart.Allows :=
    fun _ => .bind (all_getById _ _) fun _ => Prog.all_require _ _
  cases call with
  | setSettlementConfig tenantId mode notes =>
    apply ends_discard _ hinv
    apply ends_idle hinv idle_empty (hexisting tenantId)
    intro _ own' later hinv' h'
    exact ends_setMode hinv' h'
  | setCommercialTerms tenantId rate actorId notes =>
    apply ends_discard _ hinv
    apply ends_idle hinv idle_empty (hexisting tenantId)
    intro _ own' later hinv' h'
    exact ends_setCommissionRate hinv' h'
  | requestWithdrawal => exact ends_discard (ends_requestWithdrawal hinv idle_empty) hinv
  | other program h =>
    apply Ensures.mono (Ensures.kept Idle.stable
      (fun hs hinv h hreply => h.reply hs hinv hreply) h idle_empty)
    intro _ own' later h'
    exact h'.whole

theorem keeps_settling :
    KeepsIndexed schema settling (fun _ => Whole) VersionCall.program shared where
  call call committed hinv := ends_program call hinv
  commits _ _ _ hinv h hadmitted := h.commits hinv hadmitted
  elsewhere t rows committed ht hinv := by
    obtain ⟨hmodes, hrates, hwithdrawals⟩ : t ≠ .tenantSettlementConfig ∧
      t ≠ .tenantCommercialTerms ∧ t ≠ .withdrawals := of_decide_eq_true ht
    have hsame : ∀ t', t' = .tenantSettlementConfig ∨ t' = .tenantCommercialTerms ∨
        t' = .withdrawals → Function.update committed t rows t' = committed t' := by
      rintro t' (rfl | rfl | rfl)
      · exact Function.update_of_ne hmodes.symm _ _
      · exact Function.update_of_ne hrates.symm _ _
      · exact Function.update_of_ne hwithdrawals.symm _ _
    have hmode := hsame _ (Or.inl rfl)
    have hrate := hsame _ (Or.inr (Or.inl rfl))
    have hsuperseded : Superseded committed (Function.update committed t rows) := by
      constructor
      · rw [hmode]
        exact fun _ => List.prefix_refl _
      · rw [hrate]
        exact fun _ => List.prefix_refl _
    obtain ⟨hsettled, hkeys, hkeys'⟩ := hinv
    refine ⟨⟨⟨?_, ?_, fun tenantId => ?_, ?_⟩, ?_, ?_⟩, fun locked =>
      ⟨fun key _ hkey => ?_, hsuperseded⟩⟩
    · rw [hmode]
      exact hsettled.modes
    · rw [hrate]
      exact hsettled.rates
    · rw [modesOf, hmode]
      exact hsettled.switches tenantId
    · rw [hsame _ (Or.inr (Or.inr rfl))]
      exact fun withdrawal hw => hsuperseded.managed (hsettled.managed withdrawal hw)
    · rw [hmode]
      exact hkeys
    · rw [hrate]
      exact hkeys'
    · rw [SameAt, hsame key.1 (hkey.imp_right Or.inl)]

abbrev Versions := System schema Ask Request Answer HttpResult Failure Unit

abbrev VersionEvent := Event Row Ask Answer HttpResult VersionCall

def Versions.next (event : VersionEvent) (system : Versions) : Versions :=
  System.next VersionCall.program shared event system

/-- In every interleaving of changes of modes and rates and requests of withdrawals, beside
whatever leaves these alone: every tenant has the last of its modes and of its rates in force, no
mode follows itself, no version that was ever stored is lost or edited, and whoever has a
withdrawal was put in the platform's hands by a super admin. -/
theorem settled_of_interleaving {start : PlatformDb} (hstart : Settled start.rows)
    (events : List VersionEvent) :
    Settled (Runs.run Versions.next events ⟨start.rows, []⟩).committed ∧
      Runs.All Versions.next (fun event system =>
        Superseded system.committed (Versions.next event system).committed)
        events ⟨start.rows, []⟩ := by
  have hindexed : System.Indexed settling (fun _ => Whole) shared
      (⟨start.rows, []⟩ : Versions) := by
    apply System.indexed_start
    · exact ⟨hstart, start.nodup_map_id _, start.nodup_map_id _⟩
    · exact fun t _ => start.apart t
  have hevents : Runs.All Versions.next (fun _ _ => True) events ⟨start.rows, []⟩ :=
    .of_forall (fun _ _ _ => trivial) _
  constructor
  · exact (Runs.run_kept (System.Indexed settling (fun _ => Whole) shared)
      (fun event (system : Versions) h => h.next keeps_settling event) events hindexed).inv.1
  · exact Runs.All.of_invariant
      (fun event (system : Versions) _ (h : system.Indexed settling (fun _ => Whole) shared) =>
        ⟨(h.rely_next keeps_settling event).2, h.next keeps_settling event⟩) hevents hindexed

end Interleavings

/-! ## Two super admins at once -/

def tenantRows : (t : Table) → List (Row t)
  | .tenants => [{ id := 1, status := .active }]
  | _ => []

def tenantStart : PlatformDb where
  rows := tenantRows
  valid t := by cases t <;> decide
  apart t := by cases t <;> decide

def drawn (id : ℕ) : Draw Ask Answer HttpResult :=
  ⟨silentOutside.answer 0, .transportError "", id⟩

/-- Both find no mode and set one; the second waits for the first and is refused.  A third change
comes later. -/
def switchedTwice : List VersionEvent :=
  [.call (.setSettlementConfig 1 .platformManagedWallet none),
    .call (.setSettlementConfig 1 .directMerchantSettlement none)] ++
  (List.range 10).flatMap (fun id => [.advance 0 (drawn id), .advance 1 (drawn (10 + id))]) ++
  [.finish 0] ++ (List.range 10).map (fun id => .advance 0 (drawn (20 + id))) ++
  [.finish 0, .call (.setSettlementConfig 1 .directMerchantSettlement none)] ++
  (List.range 20).map (fun id => .advance 0 (drawn (30 + id))) ++ [.finish 0]

theorem settled_switchedTwice :
    modesOf (Runs.run Versions.next switchedTwice ⟨tenantStart.rows, []⟩).committed 1 =
      [.platformManagedWallet, .directMerchantSettlement] ∧
    Runs.All Versions.next (fun event system =>
      Superseded system.committed (Versions.next event system).committed)
      switchedTwice ⟨tenantStart.rows, []⟩ := by
  have hstart : Settled tenantStart.rows := by
    constructor
    · exact fun _ => ⟨fun _ hrow => (List.not_mem_nil hrow).elim, fun _ hrow => by cases hrow⟩
    · exact fun _ => ⟨fun _ hrow => (List.not_mem_nil hrow).elim, fun _ hrow => by cases hrow⟩
    · exact fun _ => List.isChain_nil
    · exact fun _ hw => (List.not_mem_nil hw).elim
  exact ⟨by decide +kernel, (@settled_of_interleaving tenantStart hstart switchedTwice).2⟩

end ConcurrentVersions

end InfinityRadius.Services
