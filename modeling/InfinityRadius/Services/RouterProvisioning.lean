import InfinityRadius.Models.Repository

/-!
# Provisioning of routers

`services/router_provisioning.py` and `next_wireguard_tunnel_ip` of `repositories/network.py`.
Addresses and networks are columns of text, written by `str` and read by `ip_address` and
`ip_network`; here they are the values these texts stand for.
-/

namespace InfinityRadius.Services.RouterProvisioningService

open IpAddress Models Payload Program

/-! ## Texts drawn at random -/

def base64Alphabet : List Char :=
  "ABCDEFGHIJKLMNOPQRSTUVWXYZabcdefghijklmnopqrstuvwxyz0123456789+/=".toList

/-- `token_urlsafe` leaves the padding out. -/
def urlsafeAlphabet : List Char :=
  "ABCDEFGHIJKLMNOPQRSTUVWXYZabcdefghijklmnopqrstuvwxyz0123456789-_".toList

def fernetAlphabet : List Char := '=' :: urlsafeAlphabet

/-- A text that is not empty, over an alphabet. -/
structure Token (alphabet : List Char) where
  text : String
  ne_empty : text ≠ ""
  mem_alphabet : ∀ char ∈ text.toList, char ∈ alphabet

/-- What `_generate_wireguard_keypair` returns, and what Fernet makes of the private key. -/
structure Keypair where
  privateKey : Token base64Alphabet
  publicKey : Token base64Alphabet
  encrypted : Token fernetAlphabet

/-- `secrets.token_urlsafe(24)`, and what Fernet makes of it. -/
structure RadiusSecret where
  secret : Token urlsafeAlphabet
  encrypted : Token fernetAlphabet

theorem Token.storable {alphabet : List Char} (token : Token alphabet)
    (h : Char.ofNat 0 ∉ alphabet) : storable token.text = true := by
  rw [Payload.storable, Bool.not_eq_true', List.contains_eq_mem, decide_eq_false_iff_not]
  exact fun hmem => h (token.mem_alphabet _ hmem)

/-! ## Settings -/

/-- `WIREGUARD_SERVER_*`, and whether `SECRETS_ENCRYPTION_KEY` is a Fernet key. -/
structure WireguardSettings where
  serverPublicKey : Option String
  serverEndpoint : Option String
  serverSubnet : Network
  secretsKeyIsFernet : Bool

/-- What `generate_wireguard_config` checks of its settings. -/
def WireguardSettings.server (settings : WireguardSettings) : Option (String × String) :=
  match settings.serverPublicKey, settings.serverEndpoint with
  | some publicKey, some endpoint =>
    if publicKey.isEmpty || endpoint.isEmpty then none else some (publicKey, endpoint)
  | _, _ => none

/-- `encrypt_secret`. -/
def encryptSecret {alphabet : List Char} (settings : WireguardSettings) (encrypted : Token alphabet) :
    Tx String :=
  if settings.secretsKeyIsFernet then pure encrypted.text
  else throw (.valueError "Fernet key must be 32 url-safe base64-encoded bytes.")

/-! ## Operations -/

section Operations

variable (tenantId routerId : ℕ)

/-- `_get_router`. -/
def getRouter : Tx Router := do
  let router ← getById .routers (some tenantId) routerId
  Prog.orRaise router (.notFound "Router not found")

structure NetworkConfigRead where
  networkCidr : String
  gatewayIp : String
  dnsServers : List String

def setNetworkConfig (network : Network) (gateway : Address) (dnsServers : List Address) :
    Tx NetworkConfigRead := do
  let router ← getRouter tenantId routerId
  Prog.require (network.contains gateway = true) (.domainValidation
    ("gateway_ip " ++ gateway.text ++ " is not inside network_cidr " ++ network.text))
  let _ ← updateRow .routers router.id fun stored =>
    { stored with
      hotspotNetworkCidr := some network
      hotspotGatewayIp := some gateway
      hotspotDnsServers := some dnsServers }
  writeAuditLog []
  pure ⟨network.text, gateway.text, dnsServers.map Address.text⟩

/-- The addresses of all routers. -/
def assigned (routers : List Router) : List Address := routers.filterMap Router.wireguardTunnelIp

/-- The hosts tunnel addresses are taken from: all but the first.  `hosts()` of a network of one
address is a list, which `next` refuses. -/
def tunnelHosts (subnet : Network) : Option (List Address) :=
  if subnet.size = 1 then none else some subnet.hosts.tail

def nextWireguardTunnelIp (subnet : Network) : Tx Address := do
  let routers ← issue (.scan .routers fun router => router.wireguardTunnelIp.isSome)
  let hosts ← Prog.orRaise (tunnelHosts subnet) (.typeError "'list' object is not an iterator")
  Prog.orRaise (hosts.find? fun host => !(assigned routers).contains host)
    (.valueError ("No free addresses left in " ++ subnet.text))

structure WireGuardConfigResult where
  tunnelIp : Address
  routerPrivateKey : String
  routerPublicKey : String
  serverPublicKey : String
  serverEndpoint : String
  allowedIps : String
  routerConfigScript : String
  serverPeerBlock : String

/-- Python's `text.split(":")`. -/
def splitColons (text : String) : List String := (text.splitToList (· == ':'))

/-- The lines for the router's terminal. -/
def wireguardScript (subnet : Network) (serverPublicKey endpoint privateKey : String)
    (tunnelIp : Address) : String :=
  "/interface/wireguard add name=wg-radius listen-port=51820 private-key=\"" ++ privateKey ++
  "\"\n/interface/wireguard/peers add interface=wg-radius \\\n    public-key=\"" ++
  serverPublicKey ++ "\" \\\n    endpoint-address=" ++ (splitColons endpoint).headD "" ++
  " endpoint-port=" ++ (splitColons endpoint).getLastD "" ++ " \\\n    allowed-address=" ++
  subnet.text ++ " persistent-keepalive=25s\n/ip/address add address=" ++ tunnelIp.text ++
  "/32 interface=wg-radius"

/-- The lines an operator appends to the server's `wg0.conf`. -/
def serverPeerBlock (name publicKey tunnelIp : String) : String :=
  "[Peer]\n# " ++ name ++ "\nPublicKey = " ++ publicKey ++ "\nAllowedIPs = " ++ tunnelIp ++ "/32"

def generateWireguardConfig (settings : WireguardSettings) (keypair : Keypair) :
    Tx WireGuardConfigResult := do
  let (serverPublicKey, endpoint) ← Prog.orRaise settings.server (.domainValidation
    ("WIREGUARD_SERVER_PUBLIC_KEY / WIREGUARD_SERVER_ENDPOINT are not configured — set them to " ++
      "the Network VPS's real wg0.conf values first."))
  let router ← getRouter tenantId routerId
  let tunnelIp ← nextWireguardTunnelIp settings.serverSubnet
  let encrypted ← encryptSecret settings keypair.encrypted
  let router ← updateRow .routers router.id fun stored =>
    { stored with
      wireguardPublicKey := some keypair.publicKey.text
      wireguardTunnelIp := some tunnelIp
      wireguardPrivateKeyEncrypted := some encrypted }
  writeAuditLog [some tunnelIp.text]
  pure
    { tunnelIp
      routerPrivateKey := keypair.privateKey.text
      routerPublicKey := keypair.publicKey.text
      serverPublicKey
      serverEndpoint := endpoint
      allowedIps := settings.serverSubnet.text
      routerConfigScript := wireguardScript settings.serverSubnet serverPublicKey endpoint
        keypair.privateKey.text tunnelIp
      serverPeerBlock := serverPeerBlock router.name keypair.publicKey.text tunnelIp.text }

structure RadiusConfigResult where
  secret : String
  routerConfigScript : String
  nasClientBlock : String

/-- The host that is the RADIUS server: the first one, where `hosts()` can be iterated. -/
def radiusServerIp (subnet : Network) : Option Address :=
  if subnet.size = 1 then none else subnet.hosts.head?

/-- The lines for FreeRADIUS' `clients.conf`. -/
def nasClientBlock (name tunnelIp secret : String) : String :=
  "client " ++ name ++ " \x7b\n    ipaddr     = " ++ tunnelIp ++ "\n    secret     = " ++ secret ++
  "\n    shortname  = " ++ name ++
  "\n    nas_type   = mikrotik\n    require_message_authenticator = yes\n\x7d"

def generateRadiusConfig (settings : WireguardSettings) (draw : RadiusSecret) :
    Tx RadiusConfigResult := do
  let router ← getRouter tenantId routerId
  let tunnelIp ← Prog.orRaise router.wireguardTunnelIp (.domainValidation
    ("Generate the WireGuard configuration first — the RADIUS server address is this router's " ++
      "own tunnel IP's gateway, and the NAS client entry needs this router's tunnel IP."))
  let serverIp ← Prog.orRaise (radiusServerIp settings.serverSubnet)
    (.typeError "'list' object is not an iterator")
  let encrypted ← encryptSecret settings draw.encrypted
  let router ← updateRow .routers router.id fun stored =>
    { stored with radiusSecretEncrypted := some encrypted }
  writeAuditLog []
  pure
    { secret := draw.secret.text
      routerConfigScript :=
        "/radius add service=hotspot address=" ++ serverIp.text ++ " secret=\"" ++
        draw.secret.text ++ "\" authentication-port=1812 accounting-port=1813\n" ++
        "/ip/hotspot/profile set [find] use-radius=yes"
      nasClientBlock := nasClientBlock router.name tunnelIp.text draw.secret.text }

/-- The range of the address pool, and what the script says around it. -/
structure HotspotConfigResult where
  poolStart : Address
  poolEnd : Address
  gatewayIp : Address
  network : Network
  dnsServers : List Address

def HotspotConfigResult.routerConfigScript (config : HotspotConfigResult) : String :=
  "/ip/pool add name=hotspot-pool ranges=" ++ config.poolStart.text ++ "-" ++
  config.poolEnd.text ++ "\n/ip/address add address=" ++ config.gatewayIp.text ++ "/" ++
  toString config.network.prefixlen ++
  " interface=bridge-hotspot\n/ip/dhcp-server/network add address=" ++ config.network.text ++
  " gateway=" ++ config.gatewayIp.text ++ " dns-server=" ++
  ",".intercalate (config.dnsServers.map Address.text) ++
  "\n/ip/hotspot/profile add name=infinity-radius hotspot-address=" ++ config.gatewayIp.text ++
  " dns-name=hotspot.local use-radius=yes\n/ip/hotspot add name=infinity-radius " ++
  "interface=bridge-hotspot address-pool=hotspot-pool profile=infinity-radius"

/-- `hosts[1] if len(hosts) > 1 else hosts[0]` and `hosts[-1]`. -/
def poolRange (hosts : List Address) : Option (Address × Address) :=
  match hosts with
  | [] => none
  | [only] => some (only, only)
  | _ :: second :: rest => some (second, rest.getLastD second)

/-- `list(network.hosts())` needs room for all of them. -/
def generateHotspotConfig (capacity : ℕ) : Tx HotspotConfigResult := do
  let router ← getRouter tenantId routerId
  let (network, gatewayIp) ← Prog.orRaise
    (router.hotspotNetworkCidr.bind fun network => router.hotspotGatewayIp.map (network, ·))
    (.domainValidation "Set the network configuration first (wizard step 3).")
  Prog.require (network.hosts.length ≤ capacity) .memoryError
  let (poolStart, poolEnd) ← Prog.orRaise (poolRange network.hosts)
    (.valueError "list index out of range")
  writeAuditLog []
  pure { poolStart, poolEnd, gatewayIp, network, dnsServers := router.hotspotDnsServers.getD [] }

end Operations

end InfinityRadius.Services.RouterProvisioningService
