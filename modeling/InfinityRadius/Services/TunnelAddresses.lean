import InfinityRadius.Core.Runs
import InfinityRadius.Services.HotspotPool
import Mathlib.Data.Bool.AllAny

/-!
# Tunnel addresses

The WireGuard tunnel is one address space for the routers of all tenants.  Each configuration
takes the lowest host nobody has, never the first, which is the server.
-/

namespace InfinityRadius.Services.RouterProvisioningService

open Database IpAddress Models Payload Program Sql

/-! ## One call -/

/-- The hosts a call can take. -/
def FreeHost (db : PlatformDb) (subnet : Network) (host : Address) : Prop :=
  host ∈ subnet.hosts.tail ∧ host ∉ assigned (db.rows .routers)

/-- The host a call takes. -/
def nextHost (db : PlatformDb) (subnet : Network) : Option Address :=
  subnet.hosts.tail.find? fun host => !(assigned (db.rows .routers)).contains host

/-- The host a call takes is the lowest free one. -/
theorem nextHost_eq_some {db : PlatformDb} {subnet : Network} {host : Address}
    (h : nextHost db subnet = some host) :
    FreeHost db subnet host ∧ ∀ other, FreeHost db subnet other → host.value ≤ other.value := by
  have hfree : host ∉ assigned (db.rows .routers) := by simpa using List.find?_some h
  refine ⟨⟨List.mem_of_find?_eq_some h, hfree⟩, fun other hother => ?_⟩
  obtain ⟨-, before, after, hhosts, hbefore⟩ := List.find?_eq_some_iff_append.mp h
  have hsorted : subnet.hosts.tail.Pairwise fun left right => left.value < right.value :=
    subnet.hosts_sorted.sublist (List.tail_sublist _)
  rw [hhosts] at hsorted
  have hmem := hother.1
  rw [hhosts] at hmem
  rcases List.mem_append.mp hmem with hin | hin
  · have htaken := hbefore other hin
    simp only [Bool.not_not, List.contains_eq_mem, decide_eq_true_eq] at htaken
    exact absurd htaken hother.2
  · rcases List.mem_cons.mp hin with rfl | hin
    · exact le_refl _
    · exact ((List.pairwise_cons.mp (List.pairwise_append.mp hsorted).2.1).1 other hin).le

theorem nextHost_eq_none {db : PlatformDb} {subnet : Network} :
    nextHost db subnet = none ↔ ∀ host ∈ subnet.hosts.tail, host ∈ assigned (db.rows .routers) := by
  simp [nextHost]

theorem assigned_filter (routers : List Router) :
    assigned (routers.filter fun router => router.wireguardTunnelIp.isSome) = assigned routers := by
  unfold assigned
  rw [List.filterMap_filter]
  congr 1
  funext router
  cases router.wireguardTunnelIp <;> rfl

section Call

variable {tenantId routerId : ℕ} {settings : WireguardSettings} {keypair : Keypair}
  (env : Outside) (state : State schema Request HttpResult)

theorem run_nextWireguardTunnelIp (subnet : Network) :
    (∃ host, nextHost state.db subnet = some host ∧
      run (exec env) (nextWireguardTunnelIp subnet) state = (.ok host, state)) ∨
    (nextHost state.db subnet = none ∧
      ∃ failure, run (exec env) (nextWireguardTunnelIp subnet) state = (.error failure, state)) := by
  have hrun : run (exec env) (nextWireguardTunnelIp subnet) state =
      run (exec env) (do
        let hosts ← Prog.orRaise (tunnelHosts subnet) (.typeError "'list' object is not an iterator")
        Prog.orRaise (hosts.find? fun host => !(assigned (state.db.rows .routers)).contains host)
          (.valueError ("No free addresses left in " ++ subnet.text))) state := by
    rw [← assigned_filter (state.db.rows .routers)]
    rfl
  rw [hrun]
  unfold tunnelHosts
  by_cases hsize : subnet.size = 1
  · right
    have hhosts : subnet.hosts.tail = [] := by
      rw [Network.hosts, Network.hostOffsets, hsize]
      rfl
    rw [if_pos hsize]
    refine ⟨?_, _, rfl⟩
    rw [nextHost, hhosts]
    rfl
  · rw [if_neg hsize]
    simp only [Prog.orRaise_some, Prog.pure_bind]
    cases hnext : nextHost state.db subnet with
    | some host =>
      left
      unfold nextHost at hnext
      rw [hnext]
      exact ⟨host, rfl, rfl⟩
    | none =>
      right
      unfold nextHost at hnext
      rw [hnext]
      exact ⟨rfl, _, rfl⟩

/-- The router with its new address and keys. -/
def connected (keypair : Keypair) (host : Address) (router : Router) : Router :=
  { router with
    wireguardPublicKey := some keypair.publicKey.text
    wireguardTunnelIp := some host
    wireguardPrivateKeyEncrypted := some keypair.encrypted.text }

/-- The server and the key are configured and the router is one of the tenant's. -/
def Ready (settings : WireguardSettings) (tenantId routerId : ℕ) (db : PlatformDb) : Prop :=
  settings.server.isSome = true ∧ settings.secretsKeyIsFernet = true ∧
    ∃ router ∈ db.rows .routers, router.tenantId = tenantId ∧ router.id = routerId

theorem storable_text (address : Address) : storable address.text = true := by
  rw [storable, Bool.not_eq_true', List.contains_eq_mem, decide_eq_false_iff_not]
  intro hmem
  have hchar := Address.mem_text hmem
  revert hchar
  decide

/-- A row that held a router may hold it with an address nobody has. -/
theorem admits_connected {router : Router} {host : Address}
    (hrouter : router ∈ state.db.rows .routers) (hfree : host ∉ assigned (state.db.rows .routers)) :
    state.db.admits .routers (connected keypair host router) = true := by
  have hvalid := state.db.valid .routers router hrouter
  simp only [rowValid, textsStorable, List.all_cons, List.all_nil, Bool.and_true,
    Bool.and_eq_true] at hvalid
  apply Db.admits_iff.mpr
  constructor
  · simp only [rowValid, textsStorable, connected, List.all_cons, List.all_nil,
      Bool.and_true, Bool.and_eq_true, storableOpt_some]
    exact ⟨hvalid.1, keypair.publicKey.storable (by decide), keypair.encrypted.storable (by decide),
      hvalid.2.2.2⟩
  · intro other hother hne
    refine ⟨hne, ?_⟩
    have hother' : other.wireguardTunnelIp ≠ some host := by
      exact fun heq => hfree (List.mem_filterMap.mpr ⟨other, hother, heq⟩)
    simp [rowConflict, connected, hother']

/-- Where a host is free it is written to the router. -/
theorem run_connect {router : Router} {host : Address} (hrouter : router ∈ state.db.rows .routers)
    (hnext : nextHost state.db settings.serverSubnet = some host) :
    ∃ db, Db.Replaced .routers (connected keypair host router) state.db db ∧
      run (exec env) (updateRow .routers router.id (connected keypair host)) state =
        (.ok (connected keypair host router), { state with db }) :=
  @run_updateRow_of_admits env state .routers (connected keypair host) router hrouter rfl
    (admits_connected state hrouter (nextHost_eq_some hnext).1.2)

/-- A call raises, or writes the next host to the router it is about. -/
theorem run_generateWireguardConfig :
    (∃ failure final,
      run (exec env) (generateWireguardConfig tenantId routerId settings keypair) state =
        (.error failure, final) ∧
      (Ready settings tenantId routerId state.db →
        nextHost state.db settings.serverSubnet = none)) ∨
    ∃ result db host, ∃ router ∈ state.db.rows .routers,
      run (exec env) (generateWireguardConfig tenantId routerId settings keypair) state =
        (.ok result, { state with db }) ∧ Ready settings tenantId routerId state.db ∧
      nextHost state.db settings.serverSubnet = some host ∧ result.tunnelIp = host ∧
      router.tenantId = tenantId ∧ router.id = routerId ∧
      Db.Replaced .routers (connected keypair host router) state.db db := by
  unfold generateWireguardConfig
  cases hserver : settings.server with
  | none =>
    left
    refine ⟨_, _, rfl, fun hready => ?_⟩
    have hsome := hready.1
    rw [hserver] at hsome
    cases hsome
  | some server =>
    simp only [Prog.orRaise_some, Prog.pure_bind]
    rw [getRouter, Prog.bind_assoc, run_bind]
    rcases run_getById env state .routers (some tenantId) routerId with
      ⟨router, hrouter, htenant, rfl, hrun⟩ | hrun
    · have htenant : router.tenantId = tenantId := by simpa [ofTenant, rowTenant] using htenant
      rw [hrun]
      simp only [Prog.orRaise_some, Prog.pure_bind]
      rw [run_bind]
      rcases run_nextWireguardTunnelIp env state settings.serverSubnet with
        ⟨host, hnext, hhost⟩ | ⟨hnext, failure, hhost⟩
      · rw [hhost]
        simp only
        cases hkey : settings.secretsKeyIsFernet with
        | false =>
          left
          rw [encryptSecret, hkey]
          refine ⟨_, _, rfl, fun hready => ?_⟩
          have hfernet := hready.2.1
          rw [hkey] at hfernet
          cases hfernet
        | true =>
          right
          obtain ⟨db, hreplaced, hupdate⟩ :=
            @run_connect settings keypair env state router host hrouter hnext
          rw [encryptSecret, hkey, if_pos rfl, Prog.pure_bind, run_bind]
          have hwrite : (fun stored : Router => { stored with
              wireguardPublicKey := some keypair.publicKey.text
              wireguardTunnelIp := some host
              wireguardPrivateKeyEncrypted := some keypair.encrypted.text }) =
                connected keypair host := rfl
          simp only [hwrite]
          rw [hupdate]
          simp only
          rw [writeAuditLog, run_require_bind, if_pos]
          · refine ⟨_, db, host, router, hrouter, rfl, ⟨?_, hkey, router, hrouter, htenant, rfl⟩,
              hnext, rfl, htenant, rfl, hreplaced⟩
            rw [hserver]
            rfl
          · simp [textsStorable, storable_text]
      · left
        rw [hhost]
        exact ⟨_, _, rfl, fun _ => hnext⟩
    · left
      rw [hrun]
      refine ⟨_, _, rfl, fun hready => ?_⟩
      obtain ⟨-, -, router, hrouter, rfl, rfl⟩ := hready
      have hfound := @run_getById_found env state .routers (some router.tenantId) router hrouter
        (by simp [ofTenant, rowTenant])
      rw [show rowId .routers router = router.id from rfl] at hfound
      rw [hfound] at hrun
      cases hrun

end Call

/-! ## Runs of calls -/

/-- Tunnel addresses are hosts of the subnet, none of them the RADIUS server's, and no two routers
have the same. -/
structure Allocated (subnet : Network) (db : PlatformDb) : Prop where
  host : ∀ router ∈ db.rows .routers, ∀ address, router.wireguardTunnelIp = some address →
    address ∈ subnet.hosts
  server : ∀ router ∈ db.rows .routers, router.wireguardTunnelIp.isSome = true →
    router.wireguardTunnelIp ≠ radiusServerIp subnet
  distinct : ∀ left ∈ db.rows .routers, ∀ right ∈ db.rows .routers, left.id ≠ right.id →
    left.wireguardTunnelIp.isSome = true → left.wireguardTunnelIp ≠ right.wireguardTunnelIp

/-- One request for a configuration, and what the outside answers it. -/
structure Call where
  tenantId : ℕ
  routerId : ℕ
  keypair : Keypair
  env : Outside

section Runs

variable (settings : WireguardSettings)

def Call.transact (call : Call) (world : PlatformWorld) :
    Except Failure WireGuardConfigResult × PlatformWorld :=
  Sql.transact call.env
    (generateWireguardConfig call.tenantId call.routerId settings call.keypair) world

def next (call : Call) (world : PlatformWorld) : PlatformWorld := (call.transact settings world).2

/-- The call raises exactly where it is not ready or every host is taken.  Otherwise it takes the
lowest free host for its router, and leaves the other routers alone. -/
structure Call.Allocates (call : Call) (world : PlatformWorld) : Prop where
  raises : (∃ failure, (call.transact settings world).1 = .error failure) ↔
    ¬Ready settings call.tenantId call.routerId world.db ∨
      ∀ host ∈ settings.serverSubnet.hosts.tail, host ∈ assigned (world.db.rows .routers)
  lowest : ∀ result, (call.transact settings world).1 = .ok result →
    FreeHost world.db settings.serverSubnet result.tunnelIp ∧
      ∀ other, FreeHost world.db settings.serverSubnet other → result.tunnelIp.value ≤ other.value
  stores : ∀ result, (call.transact settings world).1 = .ok result →
    ∃ router ∈ world.db.rows .routers, router.tenantId = call.tenantId ∧
      router.id = call.routerId ∧
      Db.Replaced .routers (connected call.keypair result.tunnelIp router) world.db
        (next settings call world).db
  unchanged : ∀ failure, (call.transact settings world).1 = .error failure →
    (next settings call world).db = world.db

theorem Call.allocates (call : Call) (world : PlatformWorld) : call.Allocates settings world := by
  rcases @run_generateWireguardConfig call.tenantId call.routerId settings call.keypair call.env
    ⟨⟨world.db, []⟩, 0⟩ with ⟨failure, final, hrun, hfull⟩ |
      ⟨result, db, host, router, hrouter, hrun, hready, hnext, rfl, htenant, hid, hreplaced⟩
  · have hcall : call.transact settings world =
        (.error failure, ⟨world.db, world.sent ++ final.sent⟩) := by
      rw [transact, Sql.transact, hrun]
    constructor
    · rw [hcall, ← nextHost_eq_none]
      apply iff_of_true ⟨failure, rfl⟩
      by_cases hready : Ready settings call.tenantId call.routerId world.db
      · exact Or.inr (hfull hready)
      · exact Or.inl hready
    · intro result hresult
      rw [hcall] at hresult
      cases hresult
    · intro result hresult
      rw [hcall] at hresult
      cases hresult
    · intro _ _
      rw [next, hcall]
  · have hcall : call.transact settings world = (.ok result, ⟨db, world.sent ++ []⟩) := by
      rw [transact, Sql.transact, hrun]
    constructor
    · rw [hcall, ← nextHost_eq_none]
      apply iff_of_false
      · rintro ⟨failure, hfailure⟩
        cases hfailure
      · rintro (hnot | hnone)
        · exact hnot hready
        · have hnext : nextHost world.db settings.serverSubnet = some result.tunnelIp := hnext
          rw [hnone] at hnext
          cases hnext
    · intro other hother
      rw [hcall] at hother
      obtain rfl := Except.ok.inj hother
      exact nextHost_eq_some hnext
    · intro other hother
      rw [hcall] at hother
      obtain rfl := Except.ok.inj hother
      rw [next, hcall]
      exact ⟨router, hrouter, htenant, hid, hreplaced⟩
    · intro failure hfailure
      rw [hcall] at hfailure
      cases hfailure

/-- Whatever host but the first a router has, it is not the RADIUS server's. -/
theorem ne_radiusServerIp {subnet : Network} {host : Address} (h : host ∈ subnet.hosts.tail) :
    some host ≠ radiusServerIp subnet := by
  unfold radiusServerIp
  split
  · nofun
  · exact (Network.head?_ne_of_mem_tail h).symm

theorem Allocated.next {world : PlatformWorld} (h : Allocated settings.serverSubnet world.db)
    (call : Call) : Allocated settings.serverSubnet (next settings call world).db := by
  have hallocates := call.allocates settings world
  cases hresult : (call.transact settings world).1 with
  | error failure =>
    rw [hallocates.unchanged failure hresult]
    exact h
  | ok result =>
    have hfree := (hallocates.lowest result hresult).1
    obtain ⟨router, hrouter, -, -, hreplaced⟩ := hallocates.stores result hresult
    have hrows : ∀ other ∈ (RouterProvisioningService.next settings call world).db.rows .routers,
        other = connected call.keypair result.tunnelIp router ∨
          other ∈ world.db.rows .routers := by
      intro other hother
      rw [hreplaced.rows_self] at hother
      exact (mem_replaceRow hother).imp id And.left
    have hnew : ∀ other ∈ world.db.rows .routers, other.wireguardTunnelIp ≠ some result.tunnelIp :=
      fun other hother heq => hfree.2 (List.mem_filterMap.mpr ⟨other, hother, heq⟩)
    constructor
    · intro other hother address haddress
      rcases hrows other hother with rfl | hold
      · obtain rfl : result.tunnelIp = address := Option.some.inj haddress
        exact List.mem_of_mem_tail hfree.1
      · exact h.host other hold address haddress
    · intro other hother hsome
      rcases hrows other hother with rfl | hold
      · exact ne_radiusServerIp hfree.1
      · exact h.server other hold hsome
    · intro left hleft right hright hne hsome
      rcases hrows left hleft with rfl | hleft
      · rcases hrows right hright with rfl | hright
        · exact absurd rfl hne
        · exact (hnew right hright).symm
      · rcases hrows right hright with rfl | hright
        · exact hnew left hleft
        · exact h.distinct left hleft right hright hne hsome

/-- Along every run of calls each one takes the lowest free host or raises for want of one, and
at its end no two routers share an address and none has the server's. -/
theorem allocated_of_run (calls : List Call) (world : PlatformWorld)
    (h : Allocated settings.serverSubnet world.db) :
    Allocated settings.serverSubnet (Runs.run (next settings) calls world).db ∧
      Runs.All (next settings) (Call.Allocates settings) calls world := by
  constructor
  · apply Runs.run_kept (fun world : PlatformWorld => Allocated settings.serverSubnet world.db)
    · exact fun call world hworld => hworld.next settings call
    · exact h
  · exact Runs.All.of_forall (fun call _ world => call.allocates settings world) world

end Runs

def sampleSettings : WireguardSettings where
  serverPublicKey := some "c2VydmVy"
  serverEndpoint := some "vpn.example:51820"
  serverSubnet := sampleNetwork
  secretsKeyIsFernet := true

def sampleCall : Call where
  tenantId := 1
  routerId := 0
  keypair :=
    { privateKey := ⟨"cHJpdmF0ZQ==", by decide, List.all_iff_forall_prop.mp (by decide)⟩
      publicKey := ⟨"cHVibGlj", by decide, List.all_iff_forall_prop.mp (by decide)⟩
      encrypted := ⟨"gAAAAABl", by decide, List.all_iff_forall_prop.mp (by decide)⟩ }
  env := silentOutside

/-- A router is configured, and configured again. -/
theorem allocated_regenerated :
    Allocated sampleNetwork
        (Runs.run (next sampleSettings) [sampleCall, sampleCall] ⟨routerDb, []⟩).db ∧
      Runs.All (next sampleSettings) (Call.Allocates sampleSettings) [sampleCall, sampleCall]
        ⟨routerDb, []⟩ := by
  apply allocated_of_run sampleSettings
  have hnone : ∀ router ∈ routerDb.rows .routers, router.wireguardTunnelIp = none := by
    simp [routerDb, routerRows]
  constructor
  · intro router hrouter address haddress
    rw [hnone router hrouter] at haddress
    cases haddress
  · intro router hrouter hsome
    rw [hnone router hrouter] at hsome
    cases hsome
  · intro router hrouter _ _ _ hsome
    rw [hnone router hrouter] at hsome
    cases hsome

end InfinityRadius.Services.RouterProvisioningService
