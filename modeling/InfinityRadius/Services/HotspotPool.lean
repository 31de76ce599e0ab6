import InfinityRadius.Services.RouterProvisioning

/-!
# The address pool of a hotspot

The pool runs from the second host to the last one, so the first host stays free for the
gateway, which may be any other address of the network too.
-/

namespace InfinityRadius.Services.RouterProvisioningService

open Database IpAddress Models Program Sql

/-! ## Pools -/

/-- DHCP may hand out the address. -/
def HotspotConfigResult.InPool (config : HotspotConfigResult) (address : Address) : Prop :=
  address.version = config.poolStart.version ∧ config.poolStart.value ≤ address.value ∧
    address.value ≤ config.poolEnd.value

/-- The pool has addresses, all of them hosts, and leaves out the gateway, the network's own
address and, where there is one, the broadcast address. -/
structure HotspotConfigResult.Usable (config : HotspotConfigResult) : Prop where
  nonempty : ∃ address, config.InPool address
  hosts : ∀ address, config.InPool address → address ∈ config.network.hosts
  gateway : ¬config.InPool config.gatewayIp
  network : ¬config.InPool (config.network.address 0)
  broadcast : config.network.version = .v4 → ¬config.InPool config.network.broadcastAddress

/-- The gateway is an address before the second host, or the broadcast address; and an IPv4
network has a host that is neither first nor broadcast. -/
def GatewayOutside (network : Network) (gateway : Address) : Prop :=
  match network.version with
  | .v4 => network.prefixlen ≤ 30 ∧ (gateway = network.address 0 ∨
      gateway = network.address 1 ∨ gateway = network.broadcastAddress)
  | .v6 => network.prefixlen ≤ 127 ∧ gateway = network.address 0 ∨
      network.prefixlen ≤ 126 ∧ gateway = network.address 1

instance (network : Network) (gateway : Address) : Decidable (GatewayOutside network gateway) := by
  unfold GatewayOutside
  split <;> infer_instance

/-! ## The places of a pool -/

/-- The places of the first and the last address of the pool. -/
def poolOffsets (network : Network) : ℕ × ℕ :=
  if network.size = 1 then (0, 0)
  else if network.size = 2 then (1, 1)
  else match network.version with
    | .v4 => (2, network.size - 2)
    | .v6 => (2, network.size - 1)

section Pool

variable {network : Network}

/-- The second and the last of consecutive places. -/
theorem poolRange_range' {count : ℕ} (h : 2 ≤ count) :
    poolRange ((List.range' 1 count).map network.address) =
      some (network.address 2, network.address count) := by
  obtain ⟨count, rfl⟩ := Nat.exists_eq_add_of_le' h
  rw [List.range'_succ, List.range'_succ, List.map_cons, List.map_cons, poolRange,
    List.getLastD_eq_getLast?, List.getLast?_map, List.getLast?_range']
  by_cases hzero : count = 0
  · simp [hzero]
  · rw [if_neg hzero, Option.map_some, Option.getD_some]
    congr 3
    omega

theorem poolRange_hosts : poolRange network.hosts =
    some (network.address (poolOffsets network).1, network.address (poolOffsets network).2) := by
  rw [Network.hosts, Network.hostOffsets, poolOffsets]
  rcases network.size_cases with hsize | hsize | hsize
  · rw [if_pos (by omega), if_pos hsize, hsize]
    rfl
  · rw [if_pos (by omega), if_neg (by omega), if_pos hsize, hsize]
    rfl
  · rw [if_neg (by omega), if_neg (by omega), if_neg (by omega)]
    cases network.version with
    | v4 => exact poolRange_range' (by omega)
    | v6 => exact poolRange_range' (by omega)

/-- The pool lies within the network. -/
theorem poolOffsets_lt : (poolOffsets network).1 ≤ (poolOffsets network).2 ∧
    (poolOffsets network).2 < network.size := by
  rw [poolOffsets]
  rcases network.size_cases with hsize | hsize | hsize
  · rw [if_pos hsize, hsize]
    decide
  · rw [if_neg (by omega), if_pos hsize, hsize]
    decide
  · rw [if_neg (by omega), if_neg (by omega)]
    cases network.version <;> simp only <;> omega

variable {config : HotspotConfigResult}

/-- The configuration the service makes of a network and a gateway. -/
structure HotspotConfigResult.Of (config : HotspotConfigResult) (network : Network)
    (gateway : Address) : Prop where
  poolStart : config.poolStart = network.address (poolOffsets network).1
  poolEnd : config.poolEnd = network.address (poolOffsets network).2
  network : config.network = network
  gateway : config.gatewayIp = gateway

/-- An address of the network is in the pool where its place is between the ends. -/
theorem HotspotConfigResult.Of.inPool {gateway : Address} (h : config.Of network gateway)
    {offset : ℕ} (hoffset : offset < network.size) :
    config.InPool (network.address offset) ↔
      (poolOffsets network).1 ≤ offset ∧ offset ≤ (poolOffsets network).2 := by
  obtain ⟨hle, hlt⟩ := @poolOffsets_lt network
  rw [HotspotConfigResult.InPool, h.poolStart, h.poolEnd, network.value_address hoffset,
    network.value_address hlt, network.value_address (hle.trans_lt hlt)]
  constructor
  · rintro ⟨-, hlow, hhigh⟩
    exact ⟨by omega, by omega⟩
  · rintro ⟨hlow, hhigh⟩
    exact ⟨rfl, by omega, by omega⟩

/-- Whatever is in the pool is an address of the network. -/
theorem HotspotConfigResult.Of.eq_address {gateway address : Address} (h : config.Of network gateway)
    (hpool : config.InPool address) :
    ∃ offset < network.size, address = network.address offset := by
  obtain ⟨hle, hlt⟩ := @poolOffsets_lt network
  obtain ⟨hversion, hlow, hhigh⟩ := hpool
  rw [h.poolStart] at hversion hlow
  rw [h.poolEnd] at hhigh
  rw [network.value_address (hle.trans_lt hlt)] at hlow
  rw [network.value_address hlt] at hhigh
  apply Network.contains_iff_exists.mp
  apply Network.contains_iff.mpr
  exact ⟨hversion, by omega, by omega⟩

/-- The conditions on a pool, as conditions on places. -/
theorem HotspotConfigResult.Of.usable_iff_offsets {offset : ℕ} (hoffset : offset < network.size)
    (h : config.Of network (network.address offset)) :
    config.Usable ↔
      (∀ place, (poolOffsets network).1 ≤ place → place ≤ (poolOffsets network).2 →
        place ∈ network.hostOffsets) ∧
      ¬((poolOffsets network).1 ≤ offset ∧ offset ≤ (poolOffsets network).2) ∧
      0 < (poolOffsets network).1 ∧
      (network.version = .v4 → (poolOffsets network).2 < network.size - 1) := by
  obtain ⟨hle, hlt⟩ := @poolOffsets_lt network
  have hpos := network.size_pos
  constructor
  · intro husable
    refine ⟨fun place hlow hhigh => ?_, ?_, ?_, fun hversion => ?_⟩
    · have hplace := hhigh.trans_lt hlt
      have hhost := husable.hosts _ ((h.inPool hplace).mpr ⟨hlow, hhigh⟩)
      rwa [h.network, Network.address_mem_hosts hplace] at hhost
    · rw [← h.inPool hoffset, ← h.gateway]
      exact husable.gateway
    · by_contra hzero
      have hpool := husable.network
      rw [h.network, h.inPool hpos] at hpool
      omega
    · by_contra hlast
      have hpool := husable.broadcast (by rw [h.network]; exact hversion)
      rw [h.network, Network.broadcastAddress, h.inPool (by omega)] at hpool
      omega
  · rintro ⟨hhosts, hgateway, hzero, hlast⟩
    constructor
    · exact ⟨_, (h.inPool (hle.trans_lt hlt)).mpr ⟨le_refl _, hle⟩⟩
    · intro address hpool
      obtain ⟨place, hplace, rfl⟩ := h.eq_address hpool
      obtain ⟨hlow, hhigh⟩ := (h.inPool hplace).mp hpool
      rw [h.network, Network.address_mem_hosts hplace]
      exact hhosts place hlow hhigh
    · rw [h.gateway, h.inPool hoffset]
      exact hgateway
    · rw [h.network, h.inPool hpos]
      omega
    · intro hversion
      rw [h.network] at hversion
      rw [h.network, Network.broadcastAddress, h.inPool (by omega)]
      have hless := hlast hversion
      omega

theorem address_eq_iff {offset place : ℕ} (h : offset < network.size) (h' : place < network.size) :
    network.address offset = network.address place ↔ offset = place :=
  ⟨network.address_injOn h h', congrArg _⟩

/-- The pool is usable exactly where the gateway is outside it. -/
theorem HotspotConfigResult.Of.usable_iff {gateway : Address} (h : config.Of network gateway)
    (hgateway : network.contains gateway = true) :
    config.Usable ↔ GatewayOutside network gateway := by
  obtain ⟨offset, hoffset, rfl⟩ := Network.contains_iff_exists.mp hgateway
  rw [h.usable_iff_offsets hoffset]
  have htwo : 2 ≤ network.size ↔ 1 ≤ network.version.width - network.prefixlen :=
    @Network.two_pow_le_size network 1
  have hfour : 4 ≤ network.size ↔ 2 ≤ network.version.width - network.prefixlen :=
    @Network.two_pow_le_size network 2
  have hpos := network.size_pos
  have hfirst := @address_eq_iff network _ _ hoffset hpos
  have hsecond : 2 ≤ network.size → (network.address offset = network.address 1 ↔ offset = 1) :=
    fun hsize => address_eq_iff hoffset hsize
  have hlast := @address_eq_iff network _ (network.size - 1) hoffset (by omega)
  rw [← Network.broadcastAddress] at hlast
  have hhosts : 0 < (poolOffsets network).1 →
      (network.version = .v4 → (poolOffsets network).2 < network.size - 1) →
      ∀ place, (poolOffsets network).1 ≤ place → place ≤ (poolOffsets network).2 →
        place ∈ network.hostOffsets := by
    intro hzero hbroadcast place hlow hhigh
    have hlt := (@poolOffsets_lt network).2
    exact Network.mem_hostOffsets.mpr ⟨by omega, fun _ => ⟨by omega, fun hversion =>
      hhigh.trans_lt (hbroadcast hversion)⟩⟩
  unfold GatewayOutside
  cases hversion : network.version with
  | v4 =>
    rw [hversion] at htwo hfour hhosts
    simp only [Version.width] at htwo hfour
    have hoffsets : poolOffsets network = if network.size = 1 then (0, 0)
        else if network.size = 2 then (1, 1) else (2, network.size - 2) := by
      rw [poolOffsets, hversion]
    rcases network.size_cases with hsize | hsize | hsize
    · rw [if_pos hsize] at hoffsets
      rw [hoffsets] at hhosts ⊢
      apply iff_of_false
      · exact fun h => lt_irrefl 0 h.2.2.1
      · rintro ⟨hlong, -⟩
        omega
    · rw [if_neg (by omega), if_pos hsize] at hoffsets
      rw [hoffsets] at hhosts ⊢
      apply iff_of_false
      · intro h
        have hless := h.2.2.2 rfl
        omega
      · rintro ⟨hlong, -⟩
        omega
    · rw [if_neg (by omega), if_neg (by omega)] at hoffsets
      rw [hoffsets] at hhosts ⊢
      rw [hfirst, hsecond (by omega), hlast]
      constructor
      · rintro ⟨-, hgateway, -, -⟩
        exact ⟨by omega, by omega⟩
      · rintro ⟨-, hgateway⟩
        have hbroadcast : network.size - 2 < network.size - 1 := by omega
        exact ⟨hhosts Nat.zero_lt_two fun _ => hbroadcast, by omega, Nat.zero_lt_two,
          fun _ => hbroadcast⟩
  | v6 =>
    rw [hversion] at htwo hfour hhosts
    simp only [Version.width] at htwo hfour
    have hoffsets : poolOffsets network = if network.size = 1 then (0, 0)
        else if network.size = 2 then (1, 1) else (2, network.size - 1) := by
      rw [poolOffsets, hversion]
    rcases network.size_cases with hsize | hsize | hsize
    · rw [if_pos hsize] at hoffsets
      rw [hoffsets] at hhosts ⊢
      apply iff_of_false
      · exact fun h => lt_irrefl 0 h.2.2.1
      · rintro (⟨hlong, -⟩ | ⟨hlong, -⟩) <;> omega
    · rw [if_neg (by omega), if_pos hsize] at hoffsets
      rw [hoffsets] at hhosts ⊢
      rw [hfirst, hsecond (by omega)]
      constructor
      · rintro ⟨-, hgateway, -, -⟩
        exact Or.inl ⟨by omega, by omega⟩
      · rintro (⟨-, hgateway⟩ | ⟨hlong, -⟩)
        · exact ⟨hhosts (by decide) (fun h => absurd h (by decide)), by omega, by decide,
            fun h => absurd h (by decide)⟩
        · omega
    · rw [if_neg (by omega), if_neg (by omega)] at hoffsets
      rw [hoffsets] at hhosts ⊢
      rw [hfirst, hsecond (by omega)]
      constructor
      · rintro ⟨-, hgateway, -, -⟩
        by_cases hzero : offset = 0
        · exact Or.inl ⟨by omega, hzero⟩
        · exact Or.inr ⟨by omega, by omega⟩
      · intro hgateway
        have hlow : offset ≤ 1 := by
          rcases hgateway with ⟨-, hzero⟩ | ⟨-, hone⟩ <;> omega
        exact ⟨hhosts Nat.zero_lt_two fun h => absurd h (by decide), by omega, Nat.zero_lt_two,
          fun h => absurd h (by decide)⟩

end Pool

/-! ## From the configuration of the network to the pool -/

section Generate

variable {tenantId routerId capacity : ℕ} {network : Network} {gateway : Address}
  {dnsServers : List Address} {read : NetworkConfigRead} (env : Outside)
  {state configured : State schema Request HttpResult}

/-- An `UPDATE` that returned wrote over the row with the key. -/
theorem run_updateRow_ok {t : Table} {id : ℕ} {write : Row t → Row t} {row : Row t}
    (h : run (exec env) (updateRow t id write) state = (.ok row, configured)) :
    ∃ old ∈ state.db.rows t, rowId t old = id ∧ row = write old ∧
      row ∈ configured.db.rows t := by
  rw [updateRow, issue, Prog.issue_bind, run_step, exec] at h
  cases hupdate : state.db.update t id write with
  | none =>
    rw [hupdate] at h
    cases h
  | some stored =>
    rw [hupdate] at h
    obtain ⟨hrow, rfl⟩ := Prod.mk.inj h
    obtain rfl : stored.1 = row := Except.ok.inj hrow
    obtain ⟨old, hold, hid, hwrite, hidrow, -, hreplaced⟩ := Db.update_eq_some hupdate
    refine ⟨old, hold, hid, hwrite, ?_⟩
    rw [hreplaced, Function.update_self]
    exact mem_replaceRow_self hold (hid.trans hidrow.symm)

/-- What a request to configure the network that returned stored. -/
theorem run_setNetworkConfig_ok
    (hset : run (exec env) (setNetworkConfig tenantId routerId network gateway dnsServers) state =
      (.ok read, configured)) :
    network.contains gateway = true ∧
      ∃ router ∈ configured.db.rows .routers, router.tenantId = tenantId ∧ router.id = routerId ∧
        router.hotspotNetworkCidr = some network ∧ router.hotspotGatewayIp = some gateway := by
  rw [setNetworkConfig, getRouter, Prog.bind_assoc, run_bind] at hset
  rcases run_getById env state .routers (some tenantId) routerId with
    ⟨router, hrouter, htenant, hid, hrun⟩ | hrun
  · rw [hrun] at hset
    simp only [Prog.orRaise_some, Prog.pure_bind] at hset
    rw [run_require_bind] at hset
    by_cases hcontains : network.contains gateway = true
    · rw [if_pos hcontains] at hset
      obtain ⟨updated, middle, hupdated, hset⟩ := (run_bind_ok _).mp hset
      obtain ⟨-, rfl⟩ := Prod.mk.inj hset
      obtain ⟨old, hold, hidold, rfl, hmem⟩ := run_updateRow_ok env hupdated
      have heq : old = router := state.db.id_injOn hold hrouter hidold
      subst heq
      exact ⟨hcontains, _, hmem, by simpa [ofTenant, rowTenant] using htenant, hid, rfl, rfl⟩
    · rw [if_neg hcontains] at hset
      cases hset
  · rw [hrun] at hset
    cases hset

/-- The pool of a network and a gateway that were accepted: it is usable exactly where the hosts
of the network fit into memory and the gateway is outside the pool. -/
theorem generateHotspotConfig_usable_iff
    (hset : run (exec env) (setNetworkConfig tenantId routerId network gateway dnsServers) state =
      (.ok read, configured)) :
    (∃ config final, run (exec env) (generateHotspotConfig tenantId routerId capacity) configured =
        (.ok config, final) ∧
      config.network = network ∧ config.gatewayIp = gateway ∧ config.Usable) ↔
      network.hosts.length ≤ capacity ∧ GatewayOutside network gateway := by
  obtain ⟨hcontains, router, hrouter, rfl, rfl, hnetwork, hgateway⟩ :=
    run_setNetworkConfig_ok env hset
  have hfound : run (exec env) (getById .routers (some router.tenantId) router.id) configured =
      (.ok (some router), configured) :=
    @run_getById_found env configured .routers (some router.tenantId) router hrouter
      (by simp [ofTenant, rowTenant])
  let config : HotspotConfigResult := ⟨network.address (poolOffsets network).1,
    network.address (poolOffsets network).2, gateway, network,
    router.hotspotDnsServers.getD []⟩
  have hof : config.Of network gateway := ⟨rfl, rfl, rfl, rfl⟩
  have hrun : run (exec env) (generateHotspotConfig router.tenantId router.id capacity) configured =
      if network.hosts.length ≤ capacity then (.ok config, configured)
      else (.error .memoryError, configured) := by
    rw [generateHotspotConfig, getRouter, Prog.bind_assoc, run_bind, hfound]
    simp only [Prog.orRaise_some, Prog.pure_bind, hnetwork, hgateway, Option.bind_some,
      Option.map_some]
    rw [run_require_bind, poolRange_hosts]
    rfl
  rw [hrun, ← hof.usable_iff hcontains]
  by_cases hcapacity : network.hosts.length ≤ capacity
  · rw [if_pos hcapacity, and_iff_right hcapacity]
    constructor
    · rintro ⟨other, final, heq, -, -, husable⟩
      obtain ⟨heq, -⟩ := Prod.mk.inj heq
      obtain rfl := Except.ok.inj heq
      exact husable
    · exact fun husable => ⟨config, configured, rfl, rfl, rfl, husable⟩
  · rw [if_neg hcapacity]
    apply iff_of_false
    · rintro ⟨other, final, heq, -⟩
      cases (Prod.mk.inj heq).1
    · exact fun h => hcapacity h.1

end Generate

/-! ## A network of six hosts -/

/-- `10.5.50.0/29`. -/
def sampleNetwork : Network where
  version := .v4
  networkAddress := 0x0A053200
  prefixlen := 29
  prefixlen_le := by decide
  aligned := by decide
  networkAddress_lt := by decide

def routerRows : (t : Table) → List (Row t)
  | .routers => [{ id := 0, tenantId := 1, name := "cafe" }]
  | _ => []

def routerDb : PlatformDb where
  rows := routerRows
  valid t := by cases t <;> decide +kernel
  apart t := by cases t <;> decide +kernel

/-- The router after its network was configured with this gateway. -/
def configuredWith (gateway : Address) : State schema Request HttpResult :=
  (run (exec silentOutside) (setNetworkConfig 1 0 sampleNetwork gateway []) ⟨⟨routerDb, []⟩, 0⟩).2

/-- With the first host as the gateway. -/
theorem generateHotspotConfig_usable_firstHost :
    ∃ config final, run (exec silentOutside) (generateHotspotConfig 1 0 6)
        (configuredWith (sampleNetwork.address 1)) = (.ok config, final) ∧
      config.network = sampleNetwork ∧ config.gatewayIp = sampleNetwork.address 1 ∧
      config.Usable := by
  have hset : run (exec silentOutside)
      (setNetworkConfig 1 0 sampleNetwork (sampleNetwork.address 1) []) ⟨⟨routerDb, []⟩, 0⟩ =
        (.ok ⟨sampleNetwork.text, (sampleNetwork.address 1).text, []⟩,
          configuredWith (sampleNetwork.address 1)) := rfl
  exact (generateHotspotConfig_usable_iff silentOutside hset).mpr
    ⟨by decide +kernel, by decide +kernel⟩

/-- With the last host as the gateway the pool ends with it. -/
theorem generateHotspotConfig_lastHost :
    sampleNetwork.contains (sampleNetwork.address 6) = true ∧
    ∃ config final, run (exec silentOutside) (generateHotspotConfig 1 0 6)
        (configuredWith (sampleNetwork.address 6)) = (.ok config, final) ∧
      config.gatewayIp = sampleNetwork.address 6 ∧ config.InPool config.gatewayIp := by
  let config : HotspotConfigResult :=
    ⟨sampleNetwork.address 2, sampleNetwork.address 6, sampleNetwork.address 6, sampleNetwork, []⟩
  have hpool : config.InPool config.gatewayIp := ⟨rfl, by decide +kernel, by decide +kernel⟩
  exact ⟨by decide +kernel, config, configuredWith (sampleNetwork.address 6), rfl, rfl, hpool⟩

end InfinityRadius.Services.RouterProvisioningService
