import Mathlib.Data.List.Range
import Mathlib.Tactic.Common
import Mathlib.Tactic.Ring

/-!
# Addresses and networks

What the services use of Python's `ipaddress`: networks are read with `strict=False`, so host
bits are cleared, and `hosts` leaves out the first address of a network, and the last one of an
IPv4 network, unless the network has at most two addresses.
-/

namespace InfinityRadius.IpAddress

inductive Version
  | v4 | v6
deriving DecidableEq

/-- `max_prefixlen`. -/
def Version.width : Version → ℕ
  | v4 => 32
  | v6 => 128

structure Address where
  version : Version
  value : ℕ
  value_lt : value < 2 ^ version.width
deriving DecidableEq

/-- The first address of a network, and the length of the part its addresses share. -/
structure Network where
  version : Version
  networkAddress : ℕ
  prefixlen : ℕ
  prefixlen_le : prefixlen ≤ version.width
  aligned : 2 ^ (version.width - prefixlen) ∣ networkAddress
  networkAddress_lt : networkAddress < 2 ^ version.width
deriving DecidableEq

namespace Network

variable (network : Network)

/-- `num_addresses`. -/
def size : ℕ := 2 ^ (network.version.width - network.prefixlen)

/-- The address that many places after the first. -/
def address (offset : ℕ) : Address where
  version := network.version
  value := (network.networkAddress + offset) % 2 ^ network.version.width
  value_lt := Nat.mod_lt _ (Nat.two_pow_pos _)

/-- `broadcast_address`, the last address. -/
def broadcastAddress : Address := network.address (network.size - 1)

/-- `address in network`. -/
def contains (address : Address) : Bool :=
  decide (address.version = network.version) &&
    address.value - address.value % network.size == network.networkAddress

/-- The places of the hosts.  With one or two addresses every address is a host. -/
def hostOffsets : List ℕ :=
  if network.size ≤ 2 then List.range network.size
  else match network.version with
    | .v4 => List.range' 1 (network.size - 2)
    | .v6 => List.range' 1 (network.size - 1)

def hosts : List Address := network.hostOffsets.map network.address

end Network

/-- `ip_network(…, strict=False)` of an address and a prefix length. -/
def Network.ofAddress (address : Address) (prefixlen : ℕ) (h : prefixlen ≤ address.version.width) :
    Network where
  version := address.version
  networkAddress := address.value - address.value % 2 ^ (address.version.width - prefixlen)
  prefixlen
  prefixlen_le := h
  aligned := Nat.dvd_sub_mod _
  networkAddress_lt := (Nat.sub_le _ _).trans_lt address.value_lt

/-! ## Addresses of a network -/

section Network

variable {network : Network} {address : Address} {offset offset' : ℕ}

theorem Network.size_pos : 0 < network.size := Nat.two_pow_pos _

theorem Network.size_cases : network.size = 1 ∨ network.size = 2 ∨ 4 ≤ network.size := by
  unfold Network.size
  match network.version.width - network.prefixlen with
  | 0 => exact Or.inl rfl
  | 1 => exact Or.inr (Or.inl rfl)
  | bits + 2 =>
    right
    right
    calc 4 = 2 ^ 2 := rfl
      _ ≤ 2 ^ (bits + 2) := Nat.pow_le_pow_right (by decide) (by omega)

/-- A prefix that leaves so many bits leaves so many addresses. -/
theorem Network.two_pow_le_size {bits : ℕ} :
    2 ^ bits ≤ network.size ↔ bits ≤ network.version.width - network.prefixlen :=
  Nat.pow_le_pow_iff_right (by decide)

/-- A network ends within the addresses of its version. -/
theorem Network.add_size_le : network.networkAddress + network.size ≤ 2 ^ network.version.width := by
  have hwidth : 2 ^ network.version.width =
      2 ^ (network.version.width - network.prefixlen) * 2 ^ network.prefixlen := by
    rw [← Nat.pow_add, Nat.sub_add_cancel network.prefixlen_le]
  obtain ⟨index, hindex⟩ := network.aligned
  have hlt := network.networkAddress_lt
  rw [hindex, hwidth] at hlt
  have hless : index < 2 ^ network.prefixlen := Nat.lt_of_mul_lt_mul_left hlt
  rw [hwidth, hindex, Network.size, ← Nat.mul_succ]
  exact Nat.mul_le_mul_left _ hless

@[simp]
theorem Network.value_address (h : offset < network.size) :
    (network.address offset).value = network.networkAddress + offset :=
  Nat.mod_eq_of_lt (lt_of_lt_of_le (Nat.add_lt_add_left h _) network.add_size_le)

theorem Network.address_injOn (h : offset < network.size) (h' : offset' < network.size)
    (heq : network.address offset = network.address offset') : offset = offset' := by
  have hvalue := congrArg Address.value heq
  rw [network.value_address h, network.value_address h'] at hvalue
  exact Nat.add_left_cancel hvalue

theorem Network.contains_iff :
    network.contains address = true ↔
      address.version = network.version ∧ network.networkAddress ≤ address.value ∧
        address.value < network.networkAddress + network.size := by
  rw [contains, Bool.and_eq_true, decide_eq_true_iff, beq_iff_eq]
  apply and_congr_right
  intro _
  obtain ⟨index, hindex⟩ := network.aligned
  have hpos := network.size_pos
  have hdiv := Nat.div_add_mod address.value network.size
  have hmod := Nat.mod_lt address.value hpos
  rw [← Network.size] at hindex
  constructor
  · intro heq
    omega
  · rintro ⟨hlow, hhigh⟩
    have hquotient : address.value / network.size = index := by
      rw [hindex] at hlow hhigh
      apply Nat.div_eq_of_lt_le
      · rwa [Nat.mul_comm]
      · rw [Nat.succ_mul, Nat.mul_comm]
        exact hhigh
    rw [hindex, ← hquotient]
    omega

/-- The addresses of a network are those at the places below its size. -/
theorem Network.contains_iff_exists :
    network.contains address = true ↔ ∃ offset < network.size, address = network.address offset := by
  rw [contains_iff]
  constructor
  · rintro ⟨hversion, hlow, hhigh⟩
    have hoffset : address.value - network.networkAddress < network.size := by omega
    refine ⟨address.value - network.networkAddress, hoffset, ?_⟩
    obtain ⟨version, value, hvalue⟩ := address
    subst hversion
    have heq := network.value_address hoffset
    simp only at heq hlow
    simp only [Network.address, Address.mk.injEq, true_and]
    simp only [Network.address] at heq
    omega
  · rintro ⟨offset, hoffset, rfl⟩
    rw [network.value_address hoffset]
    exact ⟨rfl, Nat.le_add_right _ _, Nat.add_lt_add_left hoffset _⟩

/-- The hosts of a network of more than two addresses leave out the first place, and with IPv4
the last one. -/
theorem Network.mem_hostOffsets : offset ∈ network.hostOffsets ↔ offset < network.size ∧
    (2 < network.size → 1 ≤ offset ∧ (network.version = .v4 → offset < network.size - 1)) := by
  unfold hostOffsets
  by_cases hsize : network.size ≤ 2
  · rw [if_pos hsize, List.mem_range]
    constructor
    · exact fun h => ⟨h, fun hless => by omega⟩
    · exact And.left
  · rw [if_neg hsize]
    cases hversion : network.version with
    | v4 =>
      simp only [List.mem_range'_1]
      constructor
      · exact fun h => ⟨by omega, fun _ => ⟨h.1, fun _ => by omega⟩⟩
      · intro ⟨_, h⟩
        obtain ⟨hlow, hhigh⟩ := h (by omega)
        have hless := hhigh trivial
        exact ⟨hlow, by omega⟩
    | v6 =>
      simp only [List.mem_range'_1]
      constructor
      · exact fun h => ⟨by omega, fun _ => ⟨h.1, fun heq => by cases heq⟩⟩
      · intro ⟨hoffset, h⟩
        obtain ⟨hlow, -⟩ := h (by omega)
        exact ⟨hlow, by omega⟩

theorem Network.mem_hostOffsets_lt (h : offset ∈ network.hostOffsets) : offset < network.size :=
  (mem_hostOffsets.mp h).1

theorem Network.mem_hosts : address ∈ network.hosts ↔
    ∃ offset ∈ network.hostOffsets, network.address offset = address := List.mem_map

theorem Network.address_mem_hosts (h : offset < network.size) :
    network.address offset ∈ network.hosts ↔ offset ∈ network.hostOffsets := by
  rw [mem_hosts]
  constructor
  · rintro ⟨offset', hoffset', heq⟩
    rwa [← network.address_injOn (mem_hostOffsets_lt hoffset') h heq]
  · exact fun hoffset => ⟨offset, hoffset, rfl⟩

end Network

/-! ## The order of hosts -/

/-- Hosts come in order. -/
theorem Network.hosts_sorted (network : Network) :
    network.hosts.Pairwise fun left right => left.value < right.value := by
  have hoffsets : network.hostOffsets.Pairwise fun left right => left < right := by
    unfold hostOffsets
    split
    · exact List.pairwise_lt_range
    · split <;> exact List.pairwise_lt_range'
  rw [hosts, List.pairwise_map]
  refine hoffsets.imp_of_mem fun {left right} hleft hright hless => ?_
  rw [network.value_address (mem_hostOffsets_lt hleft),
    network.value_address (mem_hostOffsets_lt hright)]
  omega

/-- The first host is none of the others. -/
theorem Network.head?_ne_of_mem_tail {network : Network} {address : Address}
    (h : address ∈ network.hosts.tail) : network.hosts.head? ≠ some address := by
  have hsorted := network.hosts_sorted
  cases hhosts : network.hosts with
  | nil => simp
  | cons first rest =>
    rw [hhosts] at h hsorted
    intro heq
    obtain rfl := Option.some.inj heq
    exact lt_irrefl _ ((List.pairwise_cons.mp hsorted).1 _ h)

/-! ## Texts -/

/-- The start and the length of the longest run of zeros, the first of them where there are
several; `start` and `length` are those of the run that is open, `best` the longest so far. -/
def longestZeros : (index start length : ℕ) → (best : ℕ × ℕ) → List String → ℕ × ℕ
  | _, _, _, best, [] => best
  | index, start, length, best, hextet :: rest =>
    if hextet = "0" then
      let start := if length = 0 then index else start
      let best := if best.2 < length + 1 then (start, length + 1) else best
      longestZeros (index + 1) start (length + 1) best rest
    else longestZeros (index + 1) 0 0 best rest

/-- `_compress_hextets`: the longest run of zeros, of at least two, becomes empty. -/
def compressHextets (hextets : List String) : List String :=
  let (start, length) := longestZeros 0 0 0 (0, 0) hextets
  if 1 < length then
    (if start = 0 then [""] else []) ++ hextets.take start ++ [""] ++
      hextets.drop (start + length) ++ (if start + length = hextets.length then [""] else [])
  else hextets

/-- The number of the group of digits at a position, counted from the left. -/
def group (base count value position : ℕ) : ℕ := value / base ^ (count - 1 - position) % base

/-- `str` of an address. -/
def Address.text (address : Address) : String :=
  match address.version with
  | .v4 => ".".intercalate ((List.range 4).map fun position =>
      toString (group 256 4 address.value position))
  | .v6 => ":".intercalate (compressHextets ((List.range 8).map fun position =>
      String.ofList (Nat.toDigits 16 (group 65536 8 address.value position))))

/-- `str` of a network. -/
def Network.text (network : Network) : String :=
  (network.address 0).text ++ "/" ++ toString network.prefixlen

example : (⟨.v4, 0x0A5A0002, by decide⟩ : Address).text = "10.90.0.2" := by decide +kernel

example : (⟨.v6, 0x20010db8000000000000ff0000428329, by decide⟩ : Address).text =
    "2001:db8::ff00:42:8329" := by decide +kernel

/-! ## The characters of an address -/

def addressAlphabet : List Char := "0123456789abcdef.:".toList

theorem digitChar_mem : ∀ digit < 16, digit.digitChar ∈ addressAlphabet := by decide

theorem mem_toDigits {base value : ℕ} (hbase : 1 < base) (hle : base ≤ 16) {char : Char}
    (h : char ∈ Nat.toDigits base value) : char ∈ addressAlphabet := by
  induction value using Nat.strong_induction_on with
  | _ value ih =>
    rw [Nat.toDigits_eq_if hbase] at h
    by_cases hlt : value < base
    · rw [if_pos hlt, List.mem_singleton] at h
      subst h
      exact digitChar_mem value (by omega)
    · rw [if_neg hlt] at h
      rcases List.mem_append.mp h with h | h
      · exact ih (value / base) (Nat.div_lt_self (by omega) hbase) h
      · rw [List.mem_singleton] at h
        subst h
        have hmod := Nat.mod_lt value (Nat.zero_lt_of_lt hbase)
        exact digitChar_mem _ (by omega)

theorem mem_intercalate {separator : String} {texts : List String} {char : Char}
    (h : char ∈ (separator.intercalate texts).toList) :
    char ∈ separator.toList ∨ ∃ text ∈ texts, char ∈ text.toList := by
  induction texts with
  | nil => simp at h
  | cons text texts ih =>
    by_cases hnil : texts = []
    · subst hnil
      rw [String.intercalate_singleton] at h
      exact Or.inr ⟨text, List.mem_cons_self, h⟩
    · rw [String.intercalate_cons_of_ne_nil hnil, String.toList_append, String.toList_append,
        List.mem_append, List.mem_append] at h
      rcases h with (h | h) | h
      · exact Or.inr ⟨text, List.mem_cons_self, h⟩
      · exact Or.inl h
      · rcases ih h with h | ⟨other, hother, h⟩
        · exact Or.inl h
        · exact Or.inr ⟨other, List.mem_cons_of_mem _ hother, h⟩

theorem intercalate_ne_empty {separator : String} {texts : List String} (hne : separator ≠ "")
    (h : 2 ≤ texts.length) : separator.intercalate texts ≠ "" := by
  match texts, h with
  | first :: second :: texts, _ =>
    rw [String.intercalate_cons_cons]
    intro heq
    rw [String.append_eq_empty_iff, String.append_eq_empty_iff] at heq
    exact hne heq.1.2

theorem mem_compressHextets {hextets : List String} {text : String}
    (h : text ∈ compressHextets hextets) : text = "" ∨ text ∈ hextets := by
  have hpad : ∀ {condition : Prop} [Decidable condition],
      text ∈ (if condition then [""] else []) → text = "" := by
    intro condition _ h
    split at h
    · exact List.mem_singleton.mp h
    · cases h
  unfold compressHextets at h
  simp only at h
  split at h
  · simp only [List.mem_append] at h
    rcases h with (((h | h) | h) | h) | h
    · exact Or.inl (hpad h)
    · exact Or.inr (List.mem_of_mem_take h)
    · exact Or.inl (List.mem_singleton.mp h)
    · exact Or.inr (List.mem_of_mem_drop h)
    · exact Or.inl (hpad h)
  · exact Or.inr h

theorem two_le_length_compressHextets {hextets : List String} (h : 2 ≤ hextets.length) :
    2 ≤ (compressHextets hextets).length := by
  unfold compressHextets
  simp only
  generalize longestZeros 0 0 0 (0, 0) hextets = best
  split
  · simp only [List.length_append, List.length_take, List.length_singleton]
    by_cases hstart : best.1 = 0
    · rw [if_pos hstart, List.length_singleton]
      omega
    · rw [if_neg hstart]
      omega
  · exact h

theorem Address.mem_text {address : Address} {char : Char} (h : char ∈ address.text.toList) :
    char ∈ addressAlphabet := by
  unfold Address.text at h
  split at h
  · rcases mem_intercalate h with h | ⟨text, htext, h⟩
    · rw [List.mem_singleton.mp h]
      decide
    · obtain ⟨position, -, rfl⟩ := List.mem_map.mp htext
      rw [Nat.toString_eq_ofList_toDigits, String.toList_ofList] at h
      exact mem_toDigits (by decide) (by decide) h
  · rcases mem_intercalate h with h | ⟨text, htext, h⟩
    · rw [List.mem_singleton.mp h]
      decide
    · rcases mem_compressHextets htext with rfl | htext
      · cases h
      · obtain ⟨position, -, rfl⟩ := List.mem_map.mp htext
        rw [String.toList_ofList] at h
        exact mem_toDigits (by decide) (by decide) h

theorem Address.text_ne_empty (address : Address) : address.text ≠ "" := by
  unfold Address.text
  split
  · exact intercalate_ne_empty (by decide) (by simp)
  · exact intercalate_ne_empty (by decide) (two_le_length_compressHextets (by simp))

end InfinityRadius.IpAddress
