import TpmFido2.Ctap2.Commands

/-!
# A daemon to run

The theorems of this development are about all packages, devices and users.  A counterexample
needs one of each, and the smallest will do: this file has packages that read a given list of
CBOR values and are otherwise constant, a TPM that always answers, a user who always agrees, and
the requests the runs of the other files are made of.  None of those runs depends on what a hash
or a cipher computes.
-/

set_option autoImplicit false

namespace TpmFido2
namespace Ctap2
namespace Sample

open Bytes Cbor

/-! ## Codecs -/

/-- A byte string with an end mark. -/
def chunk : List UInt8 → List UInt8
  | [] => [0]
  | b :: bs => 1 :: b :: chunk bs

/-- Reading a byte string up to its end mark. -/
def unchunk : List UInt8 → Option (List UInt8 × List UInt8)
  | [] => none
  | mark :: rest =>
    if mark = 0 then some ([], rest)
    else
      match rest with
      | [] => none
      | b :: rest => (unchunk rest).map fun r ↦ (b :: r.1, r.2)

theorem unchunk_chunk (b rest : List UInt8) : unchunk (chunk b ++ rest) = some (b, rest) := by
  induction b with
  | nil => cases rest <;> simp [chunk, unchunk]
  | cons b bs ih => simp [chunk, unchunk, ih]

theorem unchunk_chunk_nil (b : List UInt8) : unchunk (chunk b) = some (b, []) := by
  simpa using unchunk_chunk b []

/-- Bytes as a text. -/
def text (b : List UInt8) : String := String.ofList (b.map fun x ↦ Char.ofNat x.toNat)

/-- The bytes of a text. -/
def untext (s : String) : List UInt8 := s.toList.map fun c ↦ UInt8.ofNat c.toNat

theorem untext_text (b : List UInt8) : untext (text b) = b := by
  have hchar : ∀ x : UInt8, UInt8.ofNat (Char.ofNat x.toNat).toNat = x := by
    intro x
    have hx := x.toNat_lt
    have hvalid : x.toNat.isValidChar := .inl (by omega)
    rw [Char.ofNat, dif_pos hvalid]
    exact UInt8.ofNat_toNat
  simp [untext, text, Function.comp_def, hchar]

/-- A number of 32 bits as a byte string. -/
def unary (n : UInt32) : List UInt8 := List.replicate n.toNat 0

/-- Packages that know the given CBOR values. -/
def packages (known : List Value) : Crates where
  fromReader b := known.find? fun v ↦ encode v = b
  intoWriter := encode
  writeKeyBlob privateArea publicArea authValue :=
    chunk privateArea ++ (chunk publicArea ++ (authValue.map chunk).getD [])
  readKeyBlob b := do
    let (privateArea, b) ← unchunk b
    let (publicArea, b) ← unchunk b
    return (privateArea, publicArea, (unchunk b).map Prod.fst)
  writePassphrase _ _ _ _ _ := []
  readPassphrase _ := some ([], [], 1, 1, 1)
  writeIndices _ := []
  readIndices _ := some [7]
  isPoint _ _ := true
  toPem x y := text (chunk x ++ y)
  ofPem s := unchunk (untext s)
  publicKey _ := List.replicate 65 0
  diffieHellman _ _ _ := []
  toPhc memoryKib iterations parallelism salt hash :=
    some (text (chunk salt ++ (chunk hash ++ (chunk (unary memoryKib) ++
      (chunk (unary iterations) ++ unary parallelism)))))
  ofPhc s := do
    let (salt, b) ← unchunk (untext s)
    let (hash, b) ← unchunk b
    let (memoryKib, b) ← unchunk b
    let (iterations, b) ← unchunk b
    return (salt, hash, .ofNat memoryKib.length, .ofNat iterations.length, .ofNat b.length)
  sha256 _ := List.replicate 32 0
  hmacSha256 _ _ := List.replicate 32 0
  pbkdf2 _ _ := List.replicate 32 0
  hkdf _ _ _ := List.replicate 32 0
  aesCbcEncrypt _ _ m := m
  aesCbcDecrypt _ _ m := m
  length_publicKey _ := List.length_replicate
  length_sha256 _ := List.length_replicate
  length_hmacSha256 _ _ := List.length_replicate
  length_pbkdf2 _ _ := List.length_replicate
  length_hkdf _ _ _ := List.length_replicate
  length_aesCbcEncrypt _ _ _ := rfl
  length_aesCbcDecrypt _ _ _ := rfl

/-- The first 32 bytes of a message stand for its hash, in the packages that must tell hashes
apart. -/
theorem length_firstBytes (b : List UInt8) : ((b ++ List.replicate 32 0).take 32).length = 32 := by
  simp

theorem packages_readsBack (known : List Value) : (packages known).ReadsBack where
  keyBlob privateArea publicArea authValue := by
    cases authValue with
    | none => simp [packages, unchunk_chunk, unchunk_chunk_nil, unchunk]
    | some authValue => simp [packages, unchunk_chunk, unchunk_chunk_nil]
  pem x y _ := by simp [packages, untext_text, unchunk_chunk]
  phc memoryKib iterations parallelism salt hash s h := by
    cases h
    simp [packages, untext_text, unchunk_chunk, unary]

theorem packages_roundTrips (known : List Value) : (packages known).RoundTrips :=
  ⟨packages_readsBack known, fun x y _ _ _ ↦ by simp [packages, untext_text, unchunk_chunk]⟩

/-- Packages that only take coordinates of 32 bytes. -/
def strictPackages (known : List Value) : Crates :=
  { packages known with
    isPoint := fun x y ↦ x.length = 32 && y.length = 32
    ofPem := fun s ↦ (unchunk (untext s)).filter fun p ↦ p.1.length = 32 && p.2.length = 32 }

theorem strictPackages_roundTrips (known : List Value) : (strictPackages known).RoundTrips where
  keyBlob := (packages_readsBack known).keyBlob
  pem x y h := by
    rw [strictPackages, Bool.and_eq_true, decide_eq_true_eq, decide_eq_true_eq] at h
    simp [strictPackages, packages, untext_text, unchunk_chunk, h]
  phc := (packages_readsBack known).phc
  point x y _ hx hy := by simp [strictPackages, packages, untext_text, unchunk_chunk, hx, hy]

theorem strictPackages_readsWritable (known : List Value) :
    (strictPackages known).ReadsWritable where
  point s x y h := by
    obtain ⟨-, hlength⟩ := Option.filter_eq_some_iff.mp h
    rw [Bool.and_eq_true, decide_eq_true_eq, decide_eq_true_eq] at hlength
    exact ⟨by simp [strictPackages, hlength], hlength⟩
  phc _ _ _ _ _ _ _ := rfl

/-- A salt, a hash and the parameters of Argon2id. -/
def writeArgon (salt hash : List UInt8) (memoryKib iterations parallelism : UInt32) : List UInt8 :=
  chunk salt ++ (chunk hash ++ (chunk (beBytes 4 memoryKib.toNat) ++
    (chunk (beBytes 4 iterations.toNat) ++ beBytes 4 parallelism.toNat)))

/-- Reading them. -/
def readArgon (b : List UInt8) : Option (List UInt8 × List UInt8 × UInt32 × UInt32 × UInt32) := do
  let (salt, b) ← unchunk b
  let (hash, b) ← unchunk b
  let (memoryKib, b) ← unchunk b
  let (iterations, b) ← unchunk b
  return (salt, hash, .ofNat (ofBeBytes memoryKib), .ofNat (ofBeBytes iterations),
    .ofNat (ofBeBytes b))

theorem readArgon_writeArgon (salt hash : List UInt8) (memoryKib iterations parallelism : UInt32) :
    readArgon (writeArgon salt hash memoryKib iterations parallelism) =
      some (salt, hash, memoryKib, iterations, parallelism) := by
  have hword : ∀ n : UInt32, UInt32.ofNat (ofBeBytes (beBytes 4 n.toNat)) = n := fun n ↦ by
    rw [ofBeBytes_beBytes_of_lt n.toNat_lt, UInt32.ofNat_toNat]
  simp [readArgon, writeArgon, unchunk_chunk, hword]

/-- Packages that keep the daemon passphrase they are given. -/
def keepingPackages (known : List Value) : Crates :=
  { packages known with
    writePassphrase := fun hash salt memoryKib iterations parallelism ↦
      writeArgon salt hash memoryKib iterations parallelism
    readPassphrase := fun b ↦ (readArgon b).map fun (salt, hash, parameters) ↦
      (hash, salt, parameters)
    toPhc := fun memoryKib iterations parallelism salt hash ↦
      some (text (writeArgon salt hash memoryKib iterations parallelism))
    ofPhc := fun s ↦ readArgon (untext s) }

theorem keepingPackages_readsBack (known : List Value) : (keepingPackages known).ReadsBack where
  keyBlob := (packages_readsBack known).keyBlob
  pem := (packages_readsBack known).pem
  phc memoryKib iterations parallelism salt hash s h := by
    cases h
    simp [keepingPackages, untext_text, readArgon_writeArgon]

theorem keepingPackages_readsPassphrase (known : List Value) :
    (keepingPackages known).ReadsPassphrase := by
  intro hash salt memoryKib iterations parallelism
  simp [keepingPackages, readArgon_writeArgon]

/-- A TPM that always answers; new policies get the given digest. -/
def device (digest : List UInt8) : TpmDevice where
  opens _ := true
  isPcrSlot _ := true
  buildsSelection _ := true
  createKey _ _ := some ([], [], [], [])
  remarshalPublic _ := some []
  pcrRead _ := some []
  policyPcr _ _ := some (List.replicate 32 0)
  signWithAuthority _ _ := some []
  readName _ := some []
  policyAuthorize _ _ _ _ _ := some digest
  sign _ _ _ _ _ := some ([], [])
  objectChangeAuth _ _ := some []

/-- A TPM that creates points with coordinates of 32 bytes. -/
def strictDevice : TpmDevice :=
  { device [] with
    createKey := fun _ _ ↦ some ([], [], List.replicate 32 0, List.replicate 32 0) }

theorem strictDevice_createsPoints (known : List Value) :
    strictDevice.CreatesPoints (strictPackages known) := by
  intro digest authValue privateArea publicArea x y h
  cases h
  exact ⟨rfl, rfl, rfl⟩

/-- A store without faults. -/
def noFault : StoreFault := ⟨false, false, fun _ ↦ false, fun _ ↦ 0⟩

/-- What a user with the given ID sees when nothing goes wrong; the random source only delivers
the byte given. -/
def session (uid : UInt32) (random : UInt8) : Env where
  detect _ := ⟨some uid, none⟩
  now _ := 0
  approve _ := true
  random _ _ := random
  ephemeral := []
  store _ := noFault
  tpm := device []

/-- The same, with the other TPM. -/
def strictSession (uid : UInt32) (random : UInt8) : Env :=
  { session uid random with tpm := strictDevice }

/-- What the user sees when the n-th access to the store fails. -/
def failingAt (n : Nat) : Env :=
  { session 1000 0 with store := fun m ↦ { noFault with statement := m = n } }

/-! ## Requests -/

/-- A CTAP2 request. -/
def request (e : Env) (command : UInt8) (v : Value) : Event := .cbor e (command :: encode v)

/-- The ID of a credential that is made in `session _ random`. -/
def credentialId (random : UInt8) : List UInt8 := List.replicate 32 random

/-- getKeyAgreement. -/
def getKeyAgreement : Value := .map [(.integer 1, .integer 2), (.integer 2, .integer 2)]

/-- The platform's key. -/
def platformKey : Value :=
  .map [(.integer 1, .integer 2), (.integer 3, .integer (-25)), (.integer (-1), .integer 1),
    (.integer (-2), .bytes (List.replicate 32 0)), (.integer (-3), .bytes (List.replicate 32 0))]

/-- setPIN, to the four bytes given. -/
def setPin (pin : List UInt8) : Value :=
  .map [(.integer 1, .integer 2), (.integer 2, .integer 3), (.integer 3, platformKey),
    (.integer 4, .bytes (List.replicate 16 0)),
    (.integer 5, .bytes (List.replicate 16 0 ++ pin ++ List.replicate 12 0))]

/-- A token for credential management. -/
def getToken : Value :=
  .map [(.integer 1, .integer 2), (.integer 2, .integer 9), (.integer 3, platformKey),
    (.integer 6, .bytes (List.replicate 32 0)), (.integer 9, .integer 4)]

/-- A registration of a discoverable credential. -/
def makeCredential (rpId : String) : Value :=
  .map [(.integer 1, .bytes (List.replicate 32 0)), (.integer 2, .map [(.text "id", .text rpId)]),
    (.integer 3, .map [(.text "id", .bytes [])]),
    (.integer 4, .array [.map [(.text "type", .text "public-key"), (.text "alg", .integer (-7))]]),
    (.integer 7, .map [(.text "rk", .bool true)])]

/-- An authentication. -/
def getAssertion (rpId : String) : Value :=
  .map [(.integer 1, .text rpId), (.integer 2, .bytes (List.replicate 32 0))]

/-- getCredsMetadata, with the code of the sample packages. -/
def getCredsMetadata : Value :=
  .map [(.integer 1, .integer 1), (.integer 3, .integer 2),
    (.integer 4, .bytes (List.replicate 16 0))]

/-- deleteCredential, without authentication. -/
def deleteCredential (id : List UInt8) : Value :=
  .map [(.integer 1, .integer 6),
    (.integer 2, .map [(.integer 2, .map [(.text "id", .bytes id)])])]

/-- deleteCredential, with the code of the sample packages. -/
def deleteCredentialWithToken (id : List UInt8) : Value :=
  .map [(.integer 1, .integer 6),
    (.integer 2, .map [(.integer 2, .map [(.text "id", .bytes id)])]),
    (.integer 3, .integer 2), (.integer 4, .bytes (List.replicate 16 0))]

/-- updateUserInformation, without authentication. -/
def updateUserInformation (id : List UInt8) : Value :=
  .map [(.integer 1, .integer 7),
    (.integer 2, .map [(.integer 2, .map [(.text "id", .bytes id)]), (.integer 3, .map [])])]

/-! ## Events -/

/-- The management thread sets a daemon passphrase. -/
def setPassphrase : Event := .setPassphrase noFault [] [] (.argon2id 1 1 1)

/-- The user sets a PIN. -/
def choosePin (uid : UInt32) : List Event :=
  [request (session uid 0) 0x06 getKeyAgreement, request (session uid 0) 0x06
    (setPin [49, 50, 51, 52])]

/-- The daemon of a user on a fresh store. -/
def start (known : List Value) (uid : UInt32) : World :=
  newAuthenticator (packages known) (session uid 0) (some "") Store.fresh

end Sample
end Ctap2
end TpmFido2
