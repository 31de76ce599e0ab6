import InfinityRadius.Core.Braces
import InfinityRadius.Services.TunnelAddresses

/-!
# Server blocks

What an operator appends to the server's configurations for a router.  The router's name stands
in a comment of the peer, and bare as the label of the client.
-/

namespace InfinityRadius.Services.RouterProvisioningService

open Database IpAddress Models Program Sql

/-! ## What the blocks should say -/

/-- The peer of a router. -/
def peerSection (publicKey tunnelIp : String) : SectionedLines.Section where
  name := "Peer"
  settings := [("PublicKey", publicKey), ("AllowedIPs", tunnelIp ++ "/32")]

/-- The RADIUS client of a router, under a label. -/
def clientSection (label tunnelIp secret : String) : Braces.Item :=
  .sect "client" (some label)
    [.setting "ipaddr" tunnelIp, .setting "secret" secret, .setting "shortname" label,
      .setting "nas_type" "mikrotik", .setting "require_message_authenticator" "yes"]

/-- The block adds this peer and nothing else. -/
def AddsPeer (block publicKey tunnelIp : String) : Prop :=
  SectionedLines.read block.toList = some [peerSection publicKey tunnelIp]

/-- The block adds one client with these settings and nothing else. -/
def AddsClient (block tunnelIp secret : String) : Prop :=
  ∃ label, Braces.read block.toList = some [clientSection label tunnelIp secret]

/-- The name is one word, bare or quoted. -/
def OneWord (name : String) : Prop := (Braces.oneWord name.toList).isSome = true

instance (name : String) : Decidable (OneWord name) := inferInstanceAs (Decidable (_ = true))

/-! ## The peer -/

section Peer

open SectionedLines

theorem toList_serverPeerBlock (name publicKey tunnelIp : String) :
    (serverPeerBlock name publicKey tunnelIp).toList =
      "[Peer]".toList ++ '\n' :: (('#' :: ' ' :: name.toList) ++ '\n' ::
        (("PublicKey = ".toList ++ publicKey.toList) ++ '\n' ::
          ("AllowedIPs = ".toList ++ (tunnelIp ++ "/32").toList))) := by
  simp [serverPeerBlock, String.toList_append]

theorem plain_base64 (token : Token base64Alphabet) :
    ∀ char ∈ token.text.toList, plain char = true := by
  have hall : ∀ char ∈ base64Alphabet, plain char = true :=
    List.all_iff_forall_prop.mp (by decide)
  exact fun char hchar => hall char (token.mem_alphabet char hchar)

theorem plain_host (address : Address) :
    ∀ char ∈ (address.text ++ "/32").toList, plain char = true := by
  have hall : ∀ char ∈ addressAlphabet, plain char = true :=
    List.all_iff_forall_prop.mp (by decide)
  intro char hchar
  rw [String.toList_append] at hchar
  rcases List.mem_append.mp hchar with hchar | hchar
  · exact hall char (Address.mem_text hchar)
  · have hlength : ∀ char ∈ "/32".toList, plain char = true :=
      List.all_iff_forall_prop.mp (by decide)
    exact hlength char hchar

variable (name : String) (publicKey : Token base64Alphabet) (address : Address)

/-- Beside the peer the block says what the name says after its first line. -/
theorem items_serverPeerBlock :
    items (serverPeerBlock name publicKey.text address.text).toList =
      (items ('#' :: ' ' :: name.toList)).map fun parts =>
        .header "Peer" :: (parts ++ [.setting "PublicKey" publicKey.text,
          .setting "AllowedIPs" (address.text ++ "/32")]) := by
  have hheader : items "[Peer]".toList = some [.header "Peer"] := by decide +kernel
  have hkey : items ("PublicKey = ".toList ++ publicKey.text.toList) =
      some [.setting "PublicKey" publicKey.text] := by
    have h := @items_setting "PublicKey".toList publicKey.text.toList (by decide)
      (List.all_iff_forall_prop.mp (by decide)) (plain_base64 publicKey)
    rwa [String.ofList_toList, String.ofList_toList] at h
  have hips : items ("AllowedIPs = ".toList ++ (address.text ++ "/32").toList) =
      some [.setting "AllowedIPs" (address.text ++ "/32")] := by
    have h := @items_setting "AllowedIPs".toList (address.text ++ "/32").toList (by decide)
      (List.all_iff_forall_prop.mp (by decide)) (plain_host address)
    rwa [String.ofList_toList, String.ofList_toList] at h
  rw [toList_serverPeerBlock, items_append_line, items_append_line, items_append_line, hheader,
    hkey, hips]
  cases items ('#' :: ' ' :: name.toList) <;> rfl

/-- The block adds the peer and nothing else exactly where the name says nothing after its first
line. -/
theorem addsPeer_iff :
    AddsPeer (serverPeerBlock name publicKey.text address.text) publicKey.text address.text ↔
      items ('#' :: ' ' :: name.toList) = some [] := by
  constructor
  · intro h
    have hitems := items_of_read h
    rw [items_serverPeerBlock] at hitems
    obtain ⟨parts, hparts, hlist⟩ := Option.map_eq_some_iff.mp hitems
    have hnil : parts = [] := by simpa [peerSection, Section.items] using hlist
    rw [hparts, hnil]
  · intro h
    unfold AddsPeer SectionedLines.read
    rw [items_serverPeerBlock, h]
    rfl

end Peer

/-! ## The client -/

section Client

open Braces

theorem toList_nasClientBlock (name tunnelIp secret : String) :
    (nasClientBlock name tunnelIp secret).toList =
      "client ".toList ++ ((name.toList ++ [' ']) ++ ("\x7b\n    ipaddr     = ".toList ++
        ((tunnelIp.toList ++ ['\n']) ++ ("    secret     = ".toList ++
          ((secret.toList ++ ['\n']) ++ ("    shortname  = ".toList ++
            ((name.toList ++ ['\n']) ++
              "    nas_type   = mikrotik\n    require_message_authenticator = yes\n\x7d".toList)))))))
    := by
  simp [nasClientBlock, String.toList_append]

theorem inWord_urlsafe (token : Token urlsafeAlphabet) :
    ∀ char ∈ token.text.toList, inWord char = true := by
  have hall : ∀ char ∈ urlsafeAlphabet, inWord char = true :=
    List.all_iff_forall_prop.mp (by decide)
  exact fun char hchar => hall char (token.mem_alphabet char hchar)

theorem inWord_address (address : Address) : ∀ char ∈ address.text.toList, inWord char = true := by
  have hall : ∀ char ∈ addressAlphabet, inWord char = true :=
    List.all_iff_forall_prop.mp (by decide)
  exact fun char hchar => hall char (Address.mem_text hchar)

variable (name : String) (address : Address) (secret : Token urlsafeAlphabet)

/-- The tokens from the address of the client to the name it is shown under. -/
def clientTokens (tunnelIp secret : String) : List Lexeme :=
  [.word "ipaddr", .equals, .word tunnelIp, .newline, .word "secret", .equals, .word secret,
    .newline, .word "shortname", .equals]

/-- The tokens after the name. -/
def typeTokens : List Lexeme :=
  [.word "nas_type", .equals, .word "mikrotik", .newline, .word "require_message_authenticator",
    .equals, .word "yes", .newline, .closing]

/-- The lines from the address on, up to the name the client is shown under. -/
theorem scan_settings (after : List Char) :
    scan .between ((address.text.toList ++ ['\n']) ++ ("    secret     = ".toList ++
        ((secret.text.toList ++ ['\n']) ++ ("    shortname  = ".toList ++ after)))) =
      (scan .between after).map fun rest =>
        ([.word address.text, .newline, .word "secret", .equals, .word secret.text, .newline,
          .word "shortname", .equals] ++ rest.1, rest.2) := by
  have haddress := scan_word_line (fun hnil => address.text_ne_empty (String.toList_eq_nil_iff.mp hnil))
    (inWord_address address)
  have hsecret := scan_word_line (fun hnil => secret.ne_empty (String.toList_eq_nil_iff.mp hnil))
    (inWord_urlsafe secret)
  rw [String.ofList_toList] at haddress hsecret
  have hname : scan .between "    secret     = ".toList =
      some ([.word "secret", .equals], .between) := by decide +kernel
  have hshort : scan .between "    shortname  = ".toList =
      some ([.word "shortname", .equals], .between) := by decide +kernel
  rw [scan_append_of _ haddress, scan_append_of _ hname, scan_append_of _ hsecret,
    scan_append_of _ hshort]
  cases scan .between after <;> rfl

/-- What the end of the first line is read as, by where the name leaves the reader: the brace
opens a section or is part of a comment, and a quoted word may not go on. -/
def braceTokens : Place → Option (List Lexeme)
  | .between => some [.opening, .newline]
  | .comment => some [.newline]
  | _ => none

theorem scan_brace {named : List Lexeme} {place : Place}
    (h : scan .between (name.toList ++ [' ']) = some (named, place)) :
    scan place "\x7b\n    ipaddr     = ".toList =
      (braceTokens place).map fun brace => (brace ++ [.word "ipaddr", .equals], .between) := by
  rcases scan_blank h with ⟨quote, read, rfl⟩ | ⟨rfl | rfl, -⟩
  · cases quote <;> simp [scan, step, Quote.mark, braceTokens]
  · decide +kernel
  · decide +kernel

/-- The tokens of the block. -/
theorem tokens_nasClientBlock {named : List Lexeme} {place : Place}
    (h : scan .between (name.toList ++ [' ']) = some (named, place)) :
    tokens (nasClientBlock name address.text secret.text).toList =
      (braceTokens place).map fun brace => .word "client" :: (named ++ brace ++
        clientTokens address.text secret.text ++ named ++ .newline :: typeTokens) := by
  have hclient : scan .between "client ".toList = some ([.word "client"], .between) := by
    decide +kernel
  have htype : scan .between
      "    nas_type   = mikrotik\n    require_message_authenticator = yes\n\x7d".toList =
        some (typeTokens, .between) := by decide +kernel
  have hbrace := scan_brace name h
  rw [toList_nasClientBlock, tokens, scan_append_of _ hclient, scan_append_of _ h]
  cases hplace : braceTokens place with
  | none =>
    rw [hplace] at hbrace
    rw [scan_append, hbrace]
    rfl
  | some brace =>
    rw [hplace] at hbrace
    have hline : scan .between (name.toList ++ ['\n']) = some (named ++ [.newline], .between) := by
      rcases scan_blank h with ⟨quote, read, rfl⟩ | ⟨-, hline⟩
      · cases hplace
      · exact hline
    rw [scan_append_of _ hbrace, scan_settings, scan_append_of _ hline, htype]
    simp [clientTokens, finish]

theorem tokens_nasClientBlock_none (h : scan .between (name.toList ++ [' ']) = none) :
    tokens (nasClientBlock name address.text secret.text).toList = none := by
  have hclient : scan .between "client ".toList = some ([.word "client"], .between) := by
    decide +kernel
  rw [toList_nasClientBlock, tokens, scan_append_of _ hclient, scan_append, h]
  rfl

/-- A name of one word labels the client. -/
theorem parse_nasClientBlock (label : String) :
    parse (.word "client" :: ([.word label] ++ [.opening, .newline] ++
        clientTokens address.text secret.text ++ [.word label] ++ .newline :: typeTokens)) [] [] =
      some [clientSection label address.text secret.text] := rfl

/-- Counted without line breaks, the tokens of a client leave room for one token of the name, and
only where the brace opens a section. -/
theorem named_of_spell {named brace : List Lexeme} {place : Place} {label : String}
    (hplace : braceTokens place = some brace)
    (h : solid (.word "client" :: (named ++ brace ++ clientTokens address.text secret.text ++
        named ++ .newline :: typeTokens)) = spell [clientSection label address.text secret.text]) :
    place = .between ∧ solid named = [.word label] := by
  have hlength := congrArg List.length h
  cases place with
  | between =>
    obtain rfl := Option.some.inj hplace
    simp [solid, clientTokens, typeTokens, clientSection, spell, Item.tokens] at hlength
    have hone : (named.filter fun token => token != .newline).length = 1 := by omega
    obtain ⟨only, honly⟩ := List.length_eq_one_iff.mp hone
    refine ⟨rfl, ?_⟩
    simp [solid, clientTokens, typeTokens, clientSection, spell, Item.tokens, honly] at h
    rw [solid, honly, h]
  | comment =>
    obtain rfl := Option.some.inj hplace
    simp [solid, clientTokens, typeTokens, clientSection, spell, Item.tokens] at hlength
    omega
  | bare => cases hplace
  | quoted => cases hplace
  | escaped => cases hplace

/-- A section opens in the line of its name and its label. -/
theorem named_of_parse {named rest : List Lexeme} {label : String} {result : List Item}
    (hnamed : solid named = [.word label])
    (h : parse (.word "client" :: (named ++ .opening :: rest)) [] [] = some result) :
    named = [.word label] := by
  match named with
  | [] => cases hnamed
  | .newline :: named => simp [parse] at h
  | .equals :: named => cases hnamed
  | .opening :: named => cases hnamed
  | .closing :: named => cases hnamed
  | [.word text] => simpa [solid] using hnamed
  | .word text :: .newline :: named => simp [parse] at h
  | .word text :: .word other :: named => simp [solid] at hnamed
  | .word text :: .equals :: named => simp [solid] at hnamed
  | .word text :: .opening :: named => simp [solid] at hnamed
  | .word text :: .closing :: named => simp [solid] at hnamed

/-- The block adds the client and nothing else exactly where the name is one word. -/
theorem addsClient_iff :
    AddsClient (nasClientBlock name address.text secret.text) address.text secret.text ↔
      OneWord name := by
  unfold AddsClient Braces.read OneWord
  constructor
  · rintro ⟨label, hread⟩
    cases hscan : scan .between (name.toList ++ [' ']) with
    | none =>
      rw [tokens_nasClientBlock_none name address secret hscan] at hread
      cases hread
    | some scanned =>
      obtain ⟨named, place⟩ := scanned
      rw [tokens_nasClientBlock name address secret hscan] at hread
      cases hbrace : braceTokens place with
      | none =>
        rw [hbrace] at hread
        cases hread
      | some brace =>
        rw [hbrace] at hread
        have hparse := hread
        obtain ⟨rfl, hsolid⟩ := named_of_spell address secret hbrace (spell_of_parse hread)
        obtain rfl := Option.some.inj hbrace
        have hnamed := named_of_parse hsolid (by simpa using hparse)
        rw [hnamed] at hscan
        rw [oneWord_eq_some.mpr hscan]
        rfl
  · intro hword
    obtain ⟨word, hword⟩ := Option.isSome_iff_exists.mp hword
    use word
    rw [tokens_nasClientBlock name address secret (oneWord_eq_some.mp hword)]
    exact parse_nasClientBlock address secret word

end Client

/-! ## The blocks of the service -/

section Service

variable {tenantId routerId : ℕ} {settings : WireguardSettings} {keypair : Keypair}
  {draw : RadiusSecret} {env env' : Outside}
  {state connected registered final : State schema Request HttpResult}

theorem run_getRouter_ok {router : Router}
    (h : run (exec env) (getRouter tenantId routerId) state = (.ok router, final)) :
    router ∈ state.db.rows .routers ∧ router.id = routerId ∧ state = final := by
  rw [getRouter, run_bind] at h
  rcases run_getById env state .routers (some tenantId) routerId with
    ⟨found, hfound, -, hid, hrun⟩ | hrun
  · rw [hrun] at h
    obtain ⟨hrouter, hfinal⟩ := (run_orRaise_ok _).mp h
    obtain rfl := Option.some.inj hrouter
    exact ⟨hfound, hid, hfinal⟩
  · rw [hrun] at h
    cases h

theorem run_encryptSecret_ok {alphabet : List Char} {encrypted : Token alphabet} {text : String}
    (h : run (exec env) (encryptSecret settings encrypted) state = (.ok text, final)) :
    state = final := by
  unfold encryptSecret at h
  split at h
  · exact (Prod.mk.inj h).2
  · cases h

/-- The block of a configuration that was returned. -/
theorem serverPeerBlock_of_run {peer : WireGuardConfigResult}
    (h : run (exec env) (generateWireguardConfig tenantId routerId settings keypair) state =
      (.ok peer, connected)) :
    ∃ router ∈ state.db.rows .routers, router.id = routerId ∧
      peer.routerPublicKey = keypair.publicKey.text ∧
      peer.serverPeerBlock =
        serverPeerBlock router.name keypair.publicKey.text peer.tunnelIp.text := by
  obtain ⟨server, afterServer, hserver, h⟩ := (run_bind_ok _).mp h
  obtain ⟨-, rfl⟩ := (run_orRaise_ok _).mp hserver
  obtain ⟨router, afterRouter, hrouter, h⟩ := (run_bind_ok _).mp h
  obtain ⟨hmem, rfl, rfl⟩ := run_getRouter_ok hrouter
  obtain ⟨host, afterHost, hhost, h⟩ := (run_bind_ok _).mp h
  obtain rfl : state = afterHost := by
    rcases run_nextWireguardTunnelIp env state settings.serverSubnet with
      ⟨_, -, hrun⟩ | ⟨-, _, hrun⟩
    · exact (Prod.mk.inj (hrun.symm.trans hhost)).2
    · cases hrun.symm.trans hhost
  obtain ⟨encrypted, afterKey, hkey, h⟩ := (run_bind_ok _).mp h
  obtain rfl := run_encryptSecret_ok hkey
  obtain ⟨updated, afterUpdate, hupdate, h⟩ := (run_bind_ok _).mp h
  obtain ⟨old, hold, hid, rfl, -⟩ := run_updateRow_ok env hupdate
  obtain ⟨_, afterAudit, -, h⟩ := (run_bind_ok _).mp h
  obtain ⟨hpeer, -⟩ := Prod.mk.inj h
  obtain rfl := Except.ok.inj hpeer
  exact ⟨old, hold, hid, rfl, rfl⟩

theorem nasClientBlock_of_run {client : RadiusConfigResult}
    (h : run (exec env) (generateRadiusConfig tenantId routerId settings draw) state =
      (.ok client, final)) :
    ∃ router ∈ state.db.rows .routers, router.id = routerId ∧
      ∃ address, router.wireguardTunnelIp = some address ∧ client.secret = draw.secret.text ∧
        client.nasClientBlock = nasClientBlock router.name address.text draw.secret.text := by
  obtain ⟨router, afterRouter, hrouter, h⟩ := (run_bind_ok _).mp h
  obtain ⟨hmem, rfl, rfl⟩ := run_getRouter_ok hrouter
  obtain ⟨address, afterAddress, hissued, h⟩ := (run_bind_ok _).mp h
  obtain ⟨haddress, rfl⟩ := (run_orRaise_ok _).mp hissued
  obtain ⟨server, afterServer, hserver, h⟩ := (run_bind_ok _).mp h
  obtain ⟨-, rfl⟩ := (run_orRaise_ok _).mp hserver
  obtain ⟨encrypted, afterKey, hkey, h⟩ := (run_bind_ok _).mp h
  obtain rfl := run_encryptSecret_ok hkey
  obtain ⟨updated, afterUpdate, hupdate, h⟩ := (run_bind_ok _).mp h
  obtain ⟨old, hold, hid, rfl, -⟩ := run_updateRow_ok env hupdate
  have hsame : old = router := state.db.id_injOn hold hmem hid
  obtain ⟨_, afterAudit, -, h⟩ := (run_bind_ok _).mp h
  obtain ⟨hclient, -⟩ := Prod.mk.inj h
  obtain rfl := Except.ok.inj hclient
  exact ⟨old, hold, hid, address, hsame ▸ haddress, rfl, rfl⟩

/-- A router has this name. -/
def Named (db : PlatformDb) (routerId : ℕ) (name : String) : Prop :=
  ∃ router ∈ db.rows .routers, router.id = routerId ∧ router.name = name

/-- The two blocks add the router's peer and its client and nothing else exactly where its name is
one word. -/
theorem blocks_add_iff {name : String} {peer : WireGuardConfigResult} {client : RadiusConfigResult}
    (hnamed : Named state.db routerId name)
    (hpeer : run (exec env) (generateWireguardConfig tenantId routerId settings keypair) state =
      (.ok peer, connected))
    (hstill : Named registered.db routerId name)
    (hclient : run (exec env') (generateRadiusConfig tenantId routerId settings draw) registered =
      (.ok client, final)) :
    (AddsPeer peer.serverPeerBlock peer.routerPublicKey peer.tunnelIp.text ∧
      ∃ router ∈ registered.db.rows .routers, router.id = routerId ∧
        ∃ address, router.wireguardTunnelIp = some address ∧
          AddsClient client.nasClientBlock address.text client.secret) ↔ OneWord name := by
  obtain ⟨router, hrouter, hid, rfl⟩ := hnamed
  obtain ⟨found, hfound, hfid, hkey, hpeerBlock⟩ := serverPeerBlock_of_run hpeer
  obtain rfl := state.db.id_injOn hfound hrouter (hfid.trans hid.symm)
  obtain ⟨again, hagain, haid, hname⟩ := hstill
  obtain ⟨holder, hholder, hhid, address, haddress, hsecret, hclientBlock⟩ :=
    nasClientBlock_of_run hclient
  obtain rfl := registered.db.id_injOn hholder hagain (hhid.trans haid.symm)
  rw [hname] at hclientBlock
  rw [hkey, hpeerBlock, hsecret, hclientBlock]
  constructor
  · rintro ⟨-, other, hother, hoid, otherAddress, hotherAddress, hadds⟩
    obtain rfl := registered.db.id_injOn hother hholder (hoid.trans hhid.symm)
    obtain rfl := Option.some.inj (haddress.symm.trans hotherAddress)
    exact (addsClient_iff found.name address draw.secret).mp hadds
  · intro hword
    constructor
    · obtain ⟨word, hword⟩ := Option.isSome_iff_exists.mp hword
      apply (addsPeer_iff found.name keypair.publicKey peer.tunnelIp).mpr
      exact SectionedLines.items_comment (by simpa using Braces.not_newline_mem_of_oneWord hword)
    · exact ⟨holder, hholder, hhid, address, haddress,
        (addsClient_iff found.name address draw.secret).mpr hword⟩

end Service

/-! ## Two names -/

/-- `RouterService.create`, of a name. -/
def createRouter (tenantId : ℕ) (name : String) : Tx Router := do
  let router ← create .routers fun id => { id, tenantId, name }
  writeAuditLog []
  pure router

/-- The state after a tenant created its first router. -/
def createdAs (name : String) : State schema Request HttpResult :=
  (run (exec silentOutside) (createRouter 1 name) ⟨⟨Db.empty, []⟩, 0⟩).2

/-- The state after its tunnel was configured. -/
def connectedAs (name : String) : State schema Request HttpResult :=
  (run (exec silentOutside) (generateWireguardConfig 1 0 sampleSettings sampleCall.keypair)
    (createdAs name)).2

def sampleSecret : RadiusSecret where
  secret := ⟨"c2hhcmVk", by decide, List.all_iff_forall_prop.mp (by decide)⟩
  encrypted := ⟨"gAAAAABs", by decide, List.all_iff_forall_prop.mp (by decide)⟩

theorem blocks_add_plainName :
    ∃ peer client final,
      run (exec silentOutside) (generateWireguardConfig 1 0 sampleSettings sampleCall.keypair)
        (createdAs "cafe-1") = (.ok peer, connectedAs "cafe-1") ∧
      run (exec silentOutside) (generateRadiusConfig 1 0 sampleSettings sampleSecret)
        (connectedAs "cafe-1") = (.ok client, final) ∧
      AddsPeer peer.serverPeerBlock peer.routerPublicKey peer.tunnelIp.text ∧
      ∃ router ∈ (connectedAs "cafe-1").db.rows .routers, router.id = 0 ∧
        ∃ address, router.wireguardTunnelIp = some address ∧
          AddsClient client.nasClientBlock address.text client.secret := by
  have hnamed : Named (createdAs "cafe-1").db 0 "cafe-1" :=
    ⟨{ id := 0, tenantId := 1, name := "cafe-1" }, List.mem_singleton.mpr rfl, rfl, rfl⟩
  have hstill : Named (connectedAs "cafe-1").db 0 "cafe-1" :=
    ⟨_, List.mem_singleton.mpr rfl, rfl, rfl⟩
  obtain ⟨peer, hpeer⟩ : ∃ peer,
      run (exec silentOutside) (generateWireguardConfig 1 0 sampleSettings sampleCall.keypair)
        (createdAs "cafe-1") = (.ok peer, connectedAs "cafe-1") := ⟨_, rfl⟩
  obtain ⟨client, final, hclient⟩ : ∃ client final,
      run (exec silentOutside) (generateRadiusConfig 1 0 sampleSettings sampleSecret)
        (connectedAs "cafe-1") = (.ok client, final) := ⟨_, _, rfl⟩
  exact ⟨peer, client, final, hpeer, hclient,
    (blocks_add_iff hnamed hpeer hstill hclient).mpr (by decide +kernel)⟩

/-- A name that ends the comment, and what it adds to the server. -/
def injectingName : String := "cafe\nPublicKey = ZXZpbA==\nAllowedIPs = 0.0.0.0/0\n[Peer]"

theorem blocks_add_injectingName :
    ∃ router peer,
      run (exec silentOutside) (createRouter 1 injectingName) ⟨⟨Db.empty, []⟩, 0⟩ =
        (.ok router, createdAs injectingName) ∧ router.name = injectingName ∧
      run (exec silentOutside) (generateWireguardConfig 1 0 sampleSettings sampleCall.keypair)
        (createdAs injectingName) = (.ok peer, connectedAs injectingName) ∧
      SectionedLines.read peer.serverPeerBlock.toList =
        some [⟨"Peer", [("PublicKey", "ZXZpbA=="), ("AllowedIPs", "0.0.0.0/0")]⟩,
          peerSection peer.routerPublicKey peer.tunnelIp.text] ∧
      ¬AddsPeer peer.serverPeerBlock peer.routerPublicKey peer.tunnelIp.text := by
  obtain ⟨peer, hpeer, hkey, hblock⟩ : ∃ peer,
      run (exec silentOutside) (generateWireguardConfig 1 0 sampleSettings sampleCall.keypair)
        (createdAs injectingName) = (.ok peer, connectedAs injectingName) ∧
      peer.routerPublicKey = sampleCall.keypair.publicKey.text ∧
      peer.serverPeerBlock = serverPeerBlock injectingName sampleCall.keypair.publicKey.text
        peer.tunnelIp.text := ⟨_, rfl, rfl, rfl⟩
  have hname : SectionedLines.items ('#' :: ' ' :: injectingName.toList) =
      some [.setting "PublicKey" "ZXZpbA==", .setting "AllowedIPs" "0.0.0.0/0",
        .header "Peer"] := by decide +kernel
  have hread : SectionedLines.read peer.serverPeerBlock.toList =
      some [⟨"Peer", [("PublicKey", "ZXZpbA=="), ("AllowedIPs", "0.0.0.0/0")]⟩,
        peerSection peer.routerPublicKey peer.tunnelIp.text] := by
    unfold SectionedLines.read
    rw [hblock, items_serverPeerBlock, hname, hkey]
    rfl
  refine ⟨_, peer, rfl, rfl, hpeer, hread, fun hadds => ?_⟩
  have hlength := congrArg List.length (Option.some.inj (hread.symm.trans hadds))
  cases hlength

end InfinityRadius.Services.RouterProvisioningService
