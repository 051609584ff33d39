import TpmFido2.Lib.Cbor

/-!
# The packages the daemon is built on

Cryptography, the codecs of the stored blobs and CBOR reading and writing come from third-party
packages that are not part of the repository.  `Crates` holds one function for each call the
daemon makes to them.  Nothing is assumed about these functions except the lengths their Rust
types promise, which are fields; where a theorem needs more of a package — that a codec reads
back what it wrote, say — it says so in a hypothesis of its own.

`none` as the result of a reader is the package's error.
-/

set_option autoImplicit false

namespace TpmFido2

open Cbor

/-- What the daemon calls of its packages. -/
structure Crates where
  /-- `ciborium::from_reader::<Value, _>`. -/
  fromReader : List UInt8 → Option Value
  /-- `ciborium::into_writer` on a `Value`. -/
  intoWriter : Value → List UInt8
  /-- `ciborium::into_writer` on a `TpmKeyBlob`: private area, public area, auth value. -/
  writeKeyBlob : List UInt8 → List UInt8 → Option (List UInt8) → List UInt8
  /-- `ciborium::from_reader::<TpmKeyBlob, _>`. -/
  readKeyBlob : List UInt8 → Option (List UInt8 × List UInt8 × Option (List UInt8))
  /-- `ciborium::into_writer` on the daemon passphrase: hash, salt, memory, iterations,
  parallelism. -/
  writePassphrase : List UInt8 → List UInt8 → UInt32 → UInt32 → UInt32 → List UInt8
  /-- `ciborium::from_reader` on the daemon passphrase. -/
  readPassphrase : List UInt8 → Option (List UInt8 × List UInt8 × UInt32 × UInt32 × UInt32)
  /-- `ciborium::into_writer` on the default PCR indices. -/
  writeIndices : List UInt32 → List UInt8
  /-- `ciborium::from_reader::<Vec<u32>, _>`. -/
  readIndices : List UInt8 → Option (List UInt32)
  /-- Whether `PublicKey::from_sec1_bytes` takes `04 ‖ x ‖ y`. -/
  isPoint : List UInt8 → List UInt8 → Bool
  /-- `PublicKey::to_string`: the PEM text of the point. -/
  toPem : List UInt8 → List UInt8 → String
  /-- `str::parse::<PublicKey>` and the coordinates of the point. -/
  ofPem : String → Option (List UInt8 × List UInt8)
  /-- `EphemeralSecret::public_key().to_sec1_bytes()`. -/
  publicKey : List UInt8 → List UInt8
  /-- `EphemeralSecret::diffie_hellman` with the point `(x, y)`. -/
  diffieHellman : List UInt8 → List UInt8 → List UInt8 → List UInt8
  /-- `PasswordHash { .. }.to_string()` for `argon2id`: memory, iterations, parallelism, salt and
  hash; `none` when the package's constructors refuse a part. -/
  toPhc : UInt32 → UInt32 → UInt32 → List UInt8 → List UInt8 → Option String
  /-- `PasswordHash::new` and the parts read from it: salt, hash, memory, iterations,
  parallelism. -/
  ofPhc : String → Option (List UInt8 × List UInt8 × UInt32 × UInt32 × UInt32)
  /-- `Sha256::digest`. -/
  sha256 : List UInt8 → List UInt8
  /-- HMAC-SHA-256 of a message under a key. -/
  hmacSha256 : List UInt8 → List UInt8 → List UInt8
  /-- `pbkdf2_hmac::<Sha256>(password, salt, PIN_KDF_ROUNDS, 32 bytes)`. -/
  pbkdf2 : List UInt8 → List UInt8 → List UInt8
  /-- HKDF-SHA-256 with 32 bytes of output: salt, input key, info. -/
  hkdf : List UInt8 → List UInt8 → List UInt8 → List UInt8
  /-- AES-256-CBC encryption without padding: key, initialisation vector, plaintext. -/
  aesCbcEncrypt : List UInt8 → List UInt8 → List UInt8 → List UInt8
  /-- AES-256-CBC decryption without padding: key, initialisation vector, ciphertext. -/
  aesCbcDecrypt : List UInt8 → List UInt8 → List UInt8 → List UInt8
  length_publicKey : ∀ s, (publicKey s).length = 65
  length_sha256 : ∀ m, (sha256 m).length = 32
  length_hmacSha256 : ∀ k m, (hmacSha256 k m).length = 32
  length_pbkdf2 : ∀ p s, (pbkdf2 p s).length = 32
  length_hkdf : ∀ s k i, (hkdf s k i).length = 32
  length_aesCbcEncrypt : ∀ k iv m, (aesCbcEncrypt k iv m).length = m.length
  length_aesCbcDecrypt : ∀ k iv m, (aesCbcDecrypt k iv m).length = m.length

/-- The codecs of the stored key slots read back what they wrote. -/
structure Crates.ReadsBack (crates : Crates) : Prop where
  keyBlob : ∀ privateArea publicArea authValue,
    crates.readKeyBlob (crates.writeKeyBlob privateArea publicArea authValue) =
      some (privateArea, publicArea, authValue)
  pem : ∀ x y, crates.isPoint x y = true → (crates.ofPem (crates.toPem x y)).isSome = true
  phc : ∀ memoryKib iterations parallelism salt hash s,
    crates.toPhc memoryKib iterations parallelism salt hash = some s →
      crates.ofPhc s = some (salt, hash, memoryKib, iterations, parallelism)

/-- The same, and the coordinates of a point are those it was encoded from. -/
structure Crates.RoundTrips (crates : Crates) : Prop extends crates.ReadsBack where
  point : ∀ x y, crates.isPoint x y = true → x.length = 32 → y.length = 32 →
    crates.ofPem (crates.toPem x y) = some (x, y)

/-- The codec of the daemon passphrase reads back what it wrote. -/
def Crates.ReadsPassphrase (crates : Crates) : Prop :=
  ∀ hash salt memoryKib iterations parallelism,
    crates.readPassphrase (crates.writePassphrase hash salt memoryKib iterations parallelism) =
      some (hash, salt, memoryKib, iterations, parallelism)

/-- What the codecs read is something they write: a point is a point of P-256 with coordinates of 32
bytes, and a salt and a hash are not too long. -/
structure Crates.ReadsWritable (crates : Crates) : Prop where
  point : ∀ s x y, crates.ofPem s = some (x, y) →
    crates.isPoint x y = true ∧ x.length = 32 ∧ y.length = 32
  phc : ∀ s salt hash memoryKib iterations parallelism,
    crates.ofPhc s = some (salt, hash, memoryKib, iterations, parallelism) →
      (crates.toPhc memoryKib iterations parallelism salt hash).isSome = true

/-- `n` bytes of the kernel's random source, as `getrandom::fill` delivers them. -/
def fillRandom (n : Nat) (source : Nat → UInt8) : List UInt8 := (List.range n).map source

@[simp] theorem length_fillRandom (n : Nat) (source : Nat → UInt8) :
    (fillRandom n source).length = n := by
  simp [fillRandom]

end TpmFido2
