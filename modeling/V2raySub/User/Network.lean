import V2raySub.Base.IpAddress
import V2raySub.User.Request

/-!
The network a device is known by (`utils/misc.py`, `network_key` and `device_fingerprint`), for
every spelling of its address.

* `netOrigin`: what an address stands for; an IPv4 address may come inside an IPv6 one.
* `fingerprint_eq_iff`: equal fingerprints are equal networks.
* `device_is_block_iff`: **a device is its network block** as long as no IPv4 address comes inside
  an IPv6 one; all of these share the block `::/48`.
-/

namespace V2raySub

open IpAddress

/-- `DEVICE_NETWORK_PREFIX_V4`. -/
def deviceNetworkPrefixV4 : ℕ := 24

/-- `DEVICE_NETWORK_PREFIX_V6`. -/
def deviceNetworkPrefixV6 : ℕ := 48

/-- `str(ip_network(…))` for the addresses that are read. -/
def deviceNetwork (a : Address) : String :=
  networkText deviceNetworkPrefixV4 deviceNetworkPrefixV6 a

/-- The libraries as they are, the hash apart. -/
def netLib (sha256Hex : String → String) : NetLib where
  ipNetwork := fun ip => (ipAddress ip).map deviceNetwork
  sha256Hex := sha256Hex

/-! ### What an address stands for -/

/-- Where a request comes from; `mapped` if an IPv6 address says so for an IPv4 one. -/
inductive NetOrigin where
  | ipv4 (mapped : Bool) (a : V4)
  | ipv6 (a : V6)

/-- The origin an address stands for. -/
def netOrigin : Address → NetOrigin
  | .v4 a => .ipv4 false a
  | .v6 a _ => match a.ipv4Mapped with
    | some x => .ipv4 true x
    | none => .ipv6 a

/-- Both are IPv4 with equal first 24 bits, or both native IPv6 with equal first 48 bits. -/
def SameBlock : NetOrigin → NetOrigin → Prop
  | .ipv4 _ a, .ipv4 _ b => a.groups.take 3 = b.groups.take 3
  | .ipv6 a, .ipv6 b => a.groups.take 3 = b.groups.take 3
  | _, _ => False

/-- The pairs that the networks tell apart as they should: those without a mapped address, two
mapped ones of one block, a mapped one and a dotted one of different blocks, and a mapped one
and a native one outside of `::/48`. -/
def Told : NetOrigin → NetOrigin → Prop
  | .ipv4 true a, .ipv4 true b => a.groups.take 3 = b.groups.take 3
  | .ipv4 true a, .ipv4 false b => a.groups.take 3 ≠ b.groups.take 3
  | .ipv4 false a, .ipv4 true b => a.groups.take 3 ≠ b.groups.take 3
  | .ipv4 true _, .ipv6 b => b.groups.take 3 ≠ [0, 0, 0]
  | .ipv6 a, .ipv4 true _ => a.groups.take 3 ≠ [0, 0, 0]
  | _, _ => True

lemma take_of_ipv4Mapped {a : V6} {x : V4} (h : a.ipv4Mapped = some x) :
    a.groups.take 3 = [0, 0, 0] := by
  rw [V6.ipv4Mapped] at h
  split_ifs at h with hprefix
  · have htake : (a.groups.take 6).take 3 = a.groups.take 3 := by rw [List.take_take]; rfl
    rw [← htake, hprefix]
    rfl

/-! ### The fingerprint -/

section

variable {sha256Hex : String → String} {s t : String} {a b : Address}

/-- The network of an address as it is written. -/
lemma networkKey_of_ipAddress (ha : ipAddress s = some a) (hs : '%' ∉ s.toList) :
    networkKey (netLib sha256Hex) (some s) = deviceNetwork a := by
  have hempty : ipAddress "" = none := by decide
  have hne : s ≠ "" := by
    rintro rfl
    rw [hempty] at ha
    cases ha
  rw [networkKey, if_neg hne, strip_of_ipAddress ha hs]
  simp only [netLib, ha, Option.map_some, Option.getD_some]

/-- As long as the digests of two networks are told apart, equal fingerprints are equal
networks. -/
lemma fingerprint_eq_iff (ha : ipAddress s = some a) (hb : ipAddress t = some b)
    (hs : '%' ∉ s.toList) (ht : '%' ∉ t.toList)
    (hdigest : (sha256Hex (deviceNetwork a)).toList.take 16
      = (sha256Hex (deviceNetwork b)).toList.take 16 → deviceNetwork a = deviceNetwork b) :
    (deviceFingerprint (netLib sha256Hex) (some s)).1
        = (deviceFingerprint (netLib sha256Hex) (some t)).1
      ↔ deviceNetwork a = deviceNetwork b := by
  simp only [deviceFingerprint, networkKey_of_ipAddress ha hs, networkKey_of_ipAddress hb ht,
    String.ofList_inj]
  exact ⟨hdigest, fun h => by rw [netLib, h]⟩

lemma deviceNetwork_v4_iff {x y : V4} :
    deviceNetwork (.v4 x) = deviceNetwork (.v4 y) ↔ x.groups.take 3 = y.groups.take 3 :=
  networkText_v4_inj (k := 3) (by decide)

lemma deviceNetwork_v6_iff {x y : V6} :
    deviceNetwork (.v6 x none) = deviceNetwork (.v6 y none)
      ↔ x.groups.take 3 = y.groups.take 3 :=
  networkText_v6_inj (k := 3) (by decide)

lemma deviceNetwork_v4_ne_v6 (x : V4) (y : V6) :
    deviceNetwork (.v4 x) ≠ deviceNetwork (.v6 y none) :=
  networkText_v4_ne_v6 (by decide) x y none

/-- **A device is its network block**: two fingerprints agree on the block of the addresses exactly
if no IPv4 address that comes inside an IPv6 one is in the way. -/
theorem device_is_block_iff (ha : ipAddress s = some a) (hb : ipAddress t = some b)
    (hs : '%' ∉ s.toList) (ht : '%' ∉ t.toList)
    (hdigest : (sha256Hex (deviceNetwork a)).toList.take 16
      = (sha256Hex (deviceNetwork b)).toList.take 16 → deviceNetwork a = deviceNetwork b) :
    (((deviceFingerprint (netLib sha256Hex) (some s)).1
          = (deviceFingerprint (netLib sha256Hex) (some t)).1)
        ↔ SameBlock (netOrigin a) (netOrigin b))
      ↔ Told (netOrigin a) (netOrigin b) := by
  rw [fingerprint_eq_iff ha hb hs ht hdigest]
  rcases ipAddress_cases ha hs with ⟨x, -, rfl⟩ | ⟨x, -, rfl⟩ <;>
    rcases ipAddress_cases hb ht with ⟨y, -, rfl⟩ | ⟨y, -, rfl⟩
  · rw [deviceNetwork_v4_iff]
    simp [netOrigin, SameBlock, Told]
  · have hne := deviceNetwork_v4_ne_v6 x y
    cases hy : y.ipv4Mapped <;> simp [netOrigin, SameBlock, Told, hne, hy]
  · have hne := (deviceNetwork_v4_ne_v6 y x).symm
    cases hx : x.ipv4Mapped <;> simp [netOrigin, SameBlock, Told, hne, hx]
  · rw [deviceNetwork_v6_iff]
    cases hx : x.ipv4Mapped with
    | none =>
        cases hy : y.ipv4Mapped with
        | none => simp [netOrigin, SameBlock, Told, hx, hy]
        | some v => simp [netOrigin, SameBlock, Told, hx, hy, take_of_ipv4Mapped hy]
    | some u =>
        have hzero := take_of_ipv4Mapped hx
        cases hy : y.ipv4Mapped with
        | none => simp [netOrigin, SameBlock, Told, hx, hy, hzero, eq_comm]
        | some v => simp [netOrigin, SameBlock, Told, hx, hy, hzero, take_of_ipv4Mapped hy]

end

/-- The digests of the networks below. -/
def sampleDigest (net : String) : String :=
  if net = "1.2.3.0/24" then "a776cf122ead1c77bdac5ef3d9826f9b1ddc2b0e67e116ca2101adda2fbb4eb4"
  else if net = "2001:db8::/48" then
    "b83f99cdea73ed3662d7a91af137d51ff725d0aaadcf039ff1016de1444790a2"
  else if net = "::/48" then "d78fed6a4000feff2009dd955d6ece838fc41e2f3b575d3725df4069dff6e6f4"
  else "b23a6a8439c0dde5515893e7c90c1e3233b8616e634470f20dc4928bcf3609bc"

/-- `1.2.3.4`. -/
def sampleV4 : V4 := ⟨[1, 2, 3, 4], rfl, by decide⟩

/-- `::ffff:1.2.3.4`. -/
def sampleMapped : V6 := ⟨[0, 0, 0, 0, 0, 0xffff, 0x102, 0x304], rfl, by decide⟩

/-- `2001:db8::1`. -/
def sampleV6 : V6 := ⟨[0x2001, 0xdb8, 0, 0, 0, 0, 0, 1], rfl, by decide⟩

theorem device_is_block_iff_sample :
    (((deviceFingerprint (netLib sampleDigest) (some "::FFFF:1.2.3.4")).1
          = (deviceFingerprint (netLib sampleDigest) (some "2001:0db8:0:0::0001")).1)
        ↔ SameBlock (netOrigin (.v6 sampleMapped none)) (netOrigin (.v6 sampleV6 none)))
      ↔ Told (netOrigin (.v6 sampleMapped none)) (netOrigin (.v6 sampleV6 none)) :=
  device_is_block_iff rfl rfl (by decide) (by decide) (by decide)

/-- One address in two spellings is two devices. -/
theorem mapped_is_another_device :
    ipAddress "1.2.3.4" = some (.v4 sampleV4)
      ∧ ipAddress "::ffff:1.2.3.4" = some (.v6 sampleMapped none)
      ∧ SameBlock (netOrigin (.v4 sampleV4)) (netOrigin (.v6 sampleMapped none))
      ∧ (deviceFingerprint (netLib sampleDigest) (some "1.2.3.4")).1
        ≠ (deviceFingerprint (netLib sampleDigest) (some "::ffff:1.2.3.4")).1 :=
  ⟨rfl, rfl, rfl, by decide⟩

end V2raySub
