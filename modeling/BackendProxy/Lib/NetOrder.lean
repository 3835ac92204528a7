import BackendProxy.Lib.Words

namespace BackendProxy.Lib

/-! Words of a little-endian host in the order of the network, highest byte first. -/

def htons (x : UInt16) : UInt16 := UInt16.ofNat (x.toNat % 256 * 256 + x.toNat / 256)

def ntohs (x : UInt16) : UInt16 := htons x

/-- The word with the given bytes, highest first. -/
def word32 (b0 b1 b2 b3 : UInt8) : UInt32 :=
  (b0.toUInt32 <<< 24) ||| (b1.toUInt32 <<< 16) ||| (b2.toUInt32 <<< 8) ||| b3.toUInt32

/-- The byte of a word that lies above `k` bits. -/
def byteAbove (k : UInt32) (x : UInt32) : UInt8 := ((x >>> k) &&& 0xFF).toUInt8

def htonl (x : UInt32) : UInt32 :=
  word32 (byteAbove 0 x) (byteAbove 8 x) (byteAbove 16 x) (byteAbove 24 x)

def ntohl (x : UInt32) : UInt32 := htonl x

theorem toNat_htons (x : UInt16) : (htons x).toNat = x.toNat % 256 * 256 + x.toNat / 256 := by
  have hx := UInt16.toNat_lt x
  unfold htons
  rw [UInt16.toNat_ofNat']
  omega

@[simp] theorem ntohs_htons (x : UInt16) : ntohs (htons x) = x := by
  have hx := UInt16.toNat_lt x
  rw [← UInt16.toNat_inj, ntohs, toNat_htons, toNat_htons]
  omega

@[simp] theorem htons_ntohs (x : UInt16) : htons (ntohs x) = x := ntohs_htons x

/-- In memory the bytes of a port come in the other order. -/
theorem le16_htons (x : UInt16) :
    le16 (htons x) = [UInt8.ofNat (x.toNat / 256), UInt8.ofNat (x.toNat % 256)] := by
  have hx := UInt16.toNat_lt x
  have hlow : (htons x).toNat % 256 = x.toNat / 256 := by
    rw [toNat_htons]
    omega
  have hhigh : (htons x).toNat / 256 = x.toNat % 256 := by
    rw [toNat_htons]
    omega
  rw [le16, hlow, hhigh]

/-- The number a word spells, byte by byte. -/
theorem toNat_word32 (b0 b1 b2 b3 : UInt8) :
    (word32 b0 b1 b2 b3).toNat =
      b0.toNat * 16777216 + b1.toNat * 65536 + b2.toNat * 256 + b3.toNat := by
  have h0 := UInt8.toNat_lt b0
  have h1 := UInt8.toNat_lt b1
  have h2 := UInt8.toNat_lt b2
  have h3 := UInt8.toNat_lt b3
  have hshift0 : (b0.toUInt32 <<< 24).toNat = b0.toNat <<< 24 := by
    rw [UInt32.toNat_shiftLeft, UInt8.toNat_toUInt32]
    simp only [UInt32.reduceToNat, Nat.reduceMod, Nat.shiftLeft_eq, Nat.reducePow]
    omega
  have hshift1 : (b1.toUInt32 <<< 16).toNat = b1.toNat <<< 16 := by
    rw [UInt32.toNat_shiftLeft, UInt8.toNat_toUInt32]
    simp only [UInt32.reduceToNat, Nat.reduceMod, Nat.shiftLeft_eq, Nat.reducePow]
    omega
  have hshift2 : (b2.toUInt32 <<< 8).toNat = b2.toNat <<< 8 := by
    rw [UInt32.toNat_shiftLeft, UInt8.toNat_toUInt32]
    simp only [UInt32.reduceToNat, Nat.reduceMod, Nat.shiftLeft_eq, Nat.reducePow]
    omega
  -- each byte fills the bits that the words above it leave
  have hlow : b2.toNat <<< 8 ||| b3.toNat = b2.toNat * 256 + b3.toNat := by
    rw [← Nat.shiftLeft_add_eq_or_of_lt (by omega), Nat.shiftLeft_eq]
  have hmid : b1.toNat <<< 16 ||| (b2.toNat * 256 + b3.toNat) =
      b1.toNat * 65536 + (b2.toNat * 256 + b3.toNat) := by
    rw [← Nat.shiftLeft_add_eq_or_of_lt (by omega), Nat.shiftLeft_eq]
  have hhigh : b0.toNat <<< 24 ||| (b1.toNat * 65536 + (b2.toNat * 256 + b3.toNat)) =
      b0.toNat * 16777216 + (b1.toNat * 65536 + (b2.toNat * 256 + b3.toNat)) := by
    rw [← Nat.shiftLeft_add_eq_or_of_lt (by omega), Nat.shiftLeft_eq]
  unfold word32
  rw [UInt32.toNat_or, UInt32.toNat_or, UInt32.toNat_or, hshift0, hshift1, hshift2,
    UInt8.toNat_toUInt32, Nat.or_assoc, Nat.or_assoc, hlow, hmid, hhigh]
  omega

theorem toNat_byteAbove (k x : UInt32) (hk : k.toNat < 32) :
    (byteAbove k x).toNat = x.toNat / 2 ^ k.toNat % 256 := by
  unfold byteAbove
  rw [UInt32.toNat_toUInt8, UInt32.toNat_and, UInt32.toNat_shiftRight, Nat.mod_eq_of_lt hk,
    Nat.shiftRight_eq_div_pow]
  have hmask : ∀ n : Nat, n &&& (0xFF : UInt32).toNat = n % 256 :=
    fun n => Nat.and_two_pow_sub_one_eq_mod n 8
  rw [hmask]
  omega

section Bytes

variable (b0 b1 b2 b3 : UInt8)

@[simp] theorem byteAbove_zero : byteAbove 0 (word32 b0 b1 b2 b3) = b3 := by
  have h3 := UInt8.toNat_lt b3
  rw [← UInt8.toNat_inj, toNat_byteAbove _ _ (by decide), toNat_word32]
  simp only [UInt32.reduceToNat, Nat.reducePow]
  omega

@[simp] theorem byteAbove_eight : byteAbove 8 (word32 b0 b1 b2 b3) = b2 := by
  have h2 := UInt8.toNat_lt b2
  have h3 := UInt8.toNat_lt b3
  rw [← UInt8.toNat_inj, toNat_byteAbove _ _ (by decide), toNat_word32]
  simp only [UInt32.reduceToNat, Nat.reducePow]
  omega

@[simp] theorem byteAbove_sixteen : byteAbove 16 (word32 b0 b1 b2 b3) = b1 := by
  have h1 := UInt8.toNat_lt b1
  have h2 := UInt8.toNat_lt b2
  have h3 := UInt8.toNat_lt b3
  rw [← UInt8.toNat_inj, toNat_byteAbove _ _ (by decide), toNat_word32]
  simp only [UInt32.reduceToNat, Nat.reducePow]
  omega

@[simp] theorem byteAbove_twentyfour : byteAbove 24 (word32 b0 b1 b2 b3) = b0 := by
  have h0 := UInt8.toNat_lt b0
  have h1 := UInt8.toNat_lt b1
  have h2 := UInt8.toNat_lt b2
  have h3 := UInt8.toNat_lt b3
  rw [← UInt8.toNat_inj, toNat_byteAbove _ _ (by decide), toNat_word32]
  simp only [UInt32.reduceToNat, Nat.reducePow]
  omega

@[simp] theorem htonl_word32 : htonl (word32 b0 b1 b2 b3) = word32 b3 b2 b1 b0 := by
  simp [htonl]

end Bytes

/-- A word is made of its bytes. -/
theorem word32_bytes (x : UInt32) :
    word32 (byteAbove 24 x) (byteAbove 16 x) (byteAbove 8 x) (byteAbove 0 x) = x := by
  have hx := UInt32.toNat_lt x
  rw [← UInt32.toNat_inj, toNat_word32, toNat_byteAbove _ _ (by decide),
    toNat_byteAbove _ _ (by decide), toNat_byteAbove _ _ (by decide),
    toNat_byteAbove _ _ (by decide)]
  simp only [UInt32.reduceToNat, Nat.reducePow]
  omega

@[simp] theorem ntohl_htonl (x : UInt32) : ntohl (htonl x) = x := by
  change htonl (word32 _ _ _ _) = x
  rw [htonl_word32]
  exact word32_bytes x

@[simp] theorem htonl_ntohl (x : UInt32) : htonl (ntohl x) = x := ntohl_htonl x

/-- In memory a word lies lowest byte first. -/
theorem leBytes_word32 (b0 b1 b2 b3 : UInt8) :
    leBytes 4 (word32 b0 b1 b2 b3).toNat = [b3, b2, b1, b0] := by
  have h0 := UInt8.toNat_lt b0
  have h1 := UInt8.toNat_lt b1
  have h2 := UInt8.toNat_lt b2
  have h3 := UInt8.toNat_lt b3
  have hbyte : ∀ (b : UInt8) (n : Nat), n % 256 = b.toNat → UInt8.ofNat (n % 256) = b := by
    intro b n hn
    rw [hn, UInt8.ofNat_toNat]
  simp only [leBytes, toNat_word32]
  rw [hbyte b3 _ (by omega), hbyte b2 _ (by omega), hbyte b1 _ (by omega), hbyte b0 _ (by omega)]

end BackendProxy.Lib
