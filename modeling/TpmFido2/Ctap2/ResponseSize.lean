import TpmFido2.Signature
import TpmFido2.CtapHid.Packet
import TpmFido2.Ctap2.StepEffects

/-!
# How long responses are

A response is a status byte and a CBOR map, so its length is a sum over the fields of the map.  Most
responses have fields of fixed length; three of them repeat what a credential was registered
with: the list of RPs, which has the RP ID twice, the list of credentials, and an assertion, which
have the user.

`Fits` is a condition on that data under which all responses fit into one CTAPHID message, and
`handleCbor_short` says so for every request to an authenticator all of whose credentials
meet it, in memory and in the store.
-/

set_option autoImplicit false

namespace TpmFido2

/-- `ciborium::into_writer` writes the preferred serialization of values without floats and
tags. -/
def Crates.WritesCbor (crates : Crates) : Prop :=
  ∀ v, Cbor.isPlain v = true → crates.intoWriter v = Cbor.encode v

/-- The device keeps to the size of P-256: the coordinates of a point and the two parts of a
signature have at most 32 bytes. -/
structure TpmDevice.IsP256 (device : TpmDevice) : Prop where
  createKey : ∀ digest authValue privateArea publicArea x y,
    device.createKey digest authValue = some (privateArea, publicArea, x, y) →
      x.length ≤ 32 ∧ y.length ≤ 32
  sign : ∀ tpm key policy authority digest r s,
    device.sign tpm key policy authority digest = some (r, s) → r.length ≤ 32 ∧ s.length ≤ 32

namespace Ctap2

open Bytes Cbor Handler CommandM

open CtapHid (maxPayloadSize)

variable {crates : Crates}

/-! ## Canonical order does not change the length -/

mutual

theorem isPlain_canonicalizeValue (crates : Crates) : ∀ v, isPlain v = true →
    isPlain (canonicalizeValue crates v) = true
  | .array vs, h => by
    rw [canonicalizeValue, isPlain]
    rw [isPlain] at h
    exact allPlain_canonicalizeAll crates vs h
  | .map entries, h => by
    rw [isPlain] at h
    have hplain := entriesPlain_canonicalizeEntries crates entries h
    rw [canonicalizeValue, isPlain, entriesPlain_iff]
    rw [entriesPlain_iff] at hplain
    intro e he
    exact hplain e ((List.perm_insertionSort _ _).mem_iff.mp he)
  | .integer _, _ => rfl
  | .bytes _, _ => rfl
  | .float _, h => h
  | .text _, _ => rfl
  | .bool _, _ => rfl
  | .null, _ => rfl
  | .tag _ _, h => h

theorem allPlain_canonicalizeAll (crates : Crates) : ∀ vs, allPlain vs = true →
    allPlain (canonicalizeAll crates vs) = true
  | [], _ => rfl
  | v :: vs, h => by
    rw [allPlain, Bool.and_eq_true] at h
    rw [canonicalizeAll, allPlain, Bool.and_eq_true]
    exact ⟨isPlain_canonicalizeValue crates v h.1, allPlain_canonicalizeAll crates vs h.2⟩

theorem entriesPlain_canonicalizeEntries (crates : Crates) : ∀ entries,
    entriesPlain entries = true → entriesPlain (canonicalizeEntries crates entries) = true
  | [], _ => rfl
  | (k, v) :: entries, h => by
    rw [entriesPlain, Bool.and_eq_true, Bool.and_eq_true] at h
    rw [canonicalizeEntries, entriesPlain, Bool.and_eq_true, Bool.and_eq_true]
    exact ⟨⟨h.1.1, isPlain_canonicalizeValue crates v h.1.2⟩,
      entriesPlain_canonicalizeEntries crates entries h.2⟩

end

mutual

theorem length_encode_canonicalizeValue (crates : Crates) : ∀ v,
    (encode (canonicalizeValue crates v)).length = (encode v).length
  | .array vs => by
    rw [canonicalizeValue, encode, encode, List.length_append, List.length_append, length_head,
      length_head, length_canonicalizeAll, length_encodeAll_canonicalizeAll crates vs]
  | .map entries => by
    have hperm := List.perm_insertionSort (keyLe crates) (canonicalizeEntries crates entries)
    rw [canonicalizeValue, length_encode_map, hperm.length_eq,
      (hperm.map _).sum_nat, ← length_encodeEntries, encode, List.length_append, length_head,
      length_canonicalizeEntries, length_encodeEntries_canonicalizeEntries crates entries]
  | .integer _ => rfl
  | .bytes _ => rfl
  | .float _ => rfl
  | .text _ => rfl
  | .bool _ => rfl
  | .null => rfl
  | .tag _ _ => rfl

theorem length_canonicalizeAll (crates : Crates) : ∀ vs,
    (canonicalizeAll crates vs).length = vs.length
  | [] => rfl
  | _ :: vs => by
    rw [canonicalizeAll, List.length_cons, List.length_cons, length_canonicalizeAll crates vs]

theorem length_encodeAll_canonicalizeAll (crates : Crates) : ∀ vs,
    (encodeAll (canonicalizeAll crates vs)).length = (encodeAll vs).length
  | [] => rfl
  | v :: vs => by
    rw [canonicalizeAll, encodeAll, encodeAll, List.length_append, List.length_append,
      length_encode_canonicalizeValue crates v, length_encodeAll_canonicalizeAll crates vs]

theorem length_canonicalizeEntries (crates : Crates) : ∀ entries,
    (canonicalizeEntries crates entries).length = entries.length
  | [] => rfl
  | (_, _) :: entries => by
    rw [canonicalizeEntries, List.length_cons, List.length_cons,
      length_canonicalizeEntries crates entries]

theorem length_encodeEntries_canonicalizeEntries (crates : Crates) : ∀ entries,
    (encodeEntries (canonicalizeEntries crates entries)).length = (encodeEntries entries).length
  | [] => rfl
  | (k, v) :: entries => by
    rw [canonicalizeEntries, encodeEntries, encodeEntries]
    simp only [List.length_append]
    rw [length_encode_canonicalizeValue crates v,
      length_encodeEntries_canonicalizeEntries crates entries]

end

/-- **The length of a response.** -/
theorem length_encodeResponse (hcrates : crates.WritesCbor) {v : Value} (h : isPlain v = true) :
    (encodeResponse crates v).length = 1 + (encode v).length := by
  rw [encodeResponse, List.length_cons, hcrates _ (isPlain_canonicalizeValue crates v h),
    length_encode_canonicalizeValue, Nat.add_comm]

/-! ## The parts of a response -/

/-- The labels of the responses. -/
theorem length_labels : (encode (.text "id")).length = 3 ∧ (encode (.text "name")).length = 5 ∧
    (encode (.text "displayName")).length = 12 ∧ (encode (.text "type")).length = 5 ∧
    (encode (.text "public-key")).length = 11 ∧ (encode (.text "none")).length = 5 ∧
    (encode (.text "credProps")).length = 10 ∧ (encode (.text "rk")).length = 3 := by
  decide

/-- Their number keys, and the numbers of a COSE key. -/
theorem length_numbers : (encode (.integer 1)).length = 1 ∧ (encode (.integer 2)).length = 1 ∧
    (encode (.integer 3)).length = 1 ∧ (encode (.integer 4)).length = 1 ∧
    (encode (.integer 5)).length = 1 ∧ (encode (.integer (-1))).length = 1 ∧
    (encode (.integer (-2))).length = 1 ∧ (encode (.integer (-3))).length = 1 ∧
    (encode (.integer coseAlgEs256)).length = 1 ∧ (encode (.integer (-25))).length = 2 := by
  decide

theorem length_coseKey {algorithm : Int} {x y : List UInt8} (hx : x.length ≤ 32)
    (hy : y.length ≤ 32) (h : (encode (.integer algorithm)).length ≤ 2) :
    isPlain (coseKey algorithm x y) = true ∧ (encode (coseKey algorithm x y)).length ≤ 80 := by
  refine ⟨by simp [coseKey, isPlain, entriesPlain], ?_⟩
  have hx' := length_encode_bytes_le (show x.length < 2 ^ 16 by omega)
  have hy' := length_encode_bytes_le (show y.length < 2 ^ 16 by omega)
  rw [coseKey, length_encode_small_map (by simp)]
  simp only [List.map_cons, List.map_nil, List.sum_cons, List.sum_nil, length_numbers]
  omega

theorem length_credentialDescriptor {id : List UInt8} (h : id.length < 2 ^ 16) :
    (encode (credentialDescriptor id)).length ≤ id.length + 23 := by
  have hid := length_encode_bytes_le h
  rw [credentialDescriptor, length_encode_small_map (by simp)]
  simp only [List.map_cons, List.map_nil, List.sum_cons, List.sum_nil, length_labels]
  omega

/-- The entry of a text that may be missing. -/
theorem sum_optionalEntry_text {label : Value} {s : Option String}
    (h : (s.getD "").utf8ByteSize < 2 ^ 16) :
    ((optionalEntry label (s.map .text)).map fun e ↦
      (encode e.1).length + (encode e.2).length).sum ≤
        (encode label).length + (s.getD "").utf8ByteSize + 3 := by
  cases s with
  | none => simp [optionalEntry]
  | some s =>
    have hs := length_encode_text_le h
    simp only [optionalEntry, Option.map_some, List.map_cons, List.map_nil, List.sum_cons,
      List.sum_nil, Option.getD_some] at hs ⊢
    omega

/-- What a response repeats of a credential leaves room for the rest of the response. -/
structure Fits (rpId : String) (id userHandle : List UInt8)
    (userName userDisplayName : Option String) : Prop where
  rp : 2 * rpId.utf8ByteSize + 63 ≤ maxPayloadSize
  user : id.length + userHandle.length + (userName.getD "").utf8ByteSize +
    (userDisplayName.getD "").utf8ByteSize + 182 ≤ maxPayloadSize

instance (rpId : String) (id userHandle : List UInt8) (userName userDisplayName : Option String) :
    Decidable (Fits rpId id userHandle userName userDisplayName) :=
  decidable_of_iff (_ ∧ _) ⟨fun h ↦ ⟨h.1, h.2⟩, fun h ↦ ⟨h.rp, h.user⟩⟩

/-- The same of a row. -/
def RowFits (row : CredentialRow) : Prop :=
  Fits row.rpId row.credentialId row.userHandle row.userName row.userDisplayName

instance (row : CredentialRow) : Decidable (RowFits row) :=
  inferInstanceAs (Decidable (Fits _ _ _ _ _))

/-- The same of a credential in memory, whose key is one of P-256. -/
structure CredentialFits (c : Credential) : Prop where
  data : Fits c.rpId c.id c.userHandle c.userName c.userDisplayName
  x : c.key.publicKeyX.length ≤ 32
  y : c.key.publicKeyY.length ≤ 32

instance (c : Credential) : Decidable (CredentialFits c) :=
  decidable_of_iff (_ ∧ _ ∧ _) ⟨fun h ↦ ⟨h.1, h.2.1, h.2.2⟩, fun h ↦ ⟨h.data, h.x, h.y⟩⟩

theorem length_userEntity {c : Credential} (withNames : Bool)
    (h : Fits c.rpId c.id c.userHandle c.userName c.userDisplayName) :
    isPlain (.map (userEntity c withNames)) = true ∧
      (encode (.map (userEntity c withNames))).length ≤ c.userHandle.length +
        (c.userName.getD "").utf8ByteSize + (c.userDisplayName.getD "").utf8ByteSize + 30 := by
  have huser := h.user
  have hmax : maxPayloadSize = 7609 := rfl
  have hhandle := length_encode_bytes_le (show c.userHandle.length < 2 ^ 16 by omega)
  have hname := @sum_optionalEntry_text (.text "name") c.userName (by omega)
  have hdisplay := @sum_optionalEntry_text (.text "displayName") c.userDisplayName (by omega)
  have hlength : (userEntity c withNames).length < 24 := by
    rw [userEntity]
    cases withNames <;> cases c.userName <;> cases c.userDisplayName <;> simp [optionalEntry]
  constructor
  · rw [userEntity]
    cases withNames <;> cases c.userName <;> cases c.userDisplayName <;>
      simp [optionalEntry, isPlain, entriesPlain]
  · rw [length_encode_small_map hlength, userEntity]
    cases withNames <;>
      simp only [List.map_append, List.sum_append, List.map_cons, List.map_nil, List.sum_cons,
        List.sum_nil, length_labels, Bool.false_eq_true, if_false, if_true] at hname hdisplay ⊢ <;>
      omega

/-- The entry with a total. -/
theorem length_totalEntry (key : Int) (total : Option Nat) :
    (totalEntry key total).length ≤ 1 ∧ entriesPlain (totalEntry key total) = true ∧
      ((totalEntry key total).map fun e ↦ (encode e.1).length + (encode e.2).length).sum ≤
        (encode (.integer key)).length + 9 := by
  cases total with
  | none => simp [totalEntry, optionalEntry, entriesPlain]
  | some n =>
    have hn := length_encode_integer_le n
    simpa [totalEntry, optionalEntry, entriesPlain, isPlain] using hn

/-- A response whose last entry may be a total. -/
theorem length_encodeResponse_total (hcrates : crates.WritesCbor) (entries : Entries) {key : Int}
    (total : Option Nat) (hplain : isPlain (.map entries) = true) (hlength : entries.length < 23)
    (hkey : (encode (.integer key)).length = 1) :
    (encodeResponse crates (.map (entries ++ totalEntry key total))).length ≤
      12 + (entries.map fun e ↦ (encode e.1).length + (encode e.2).length).sum := by
  obtain ⟨hshort, htotal, hsum⟩ := length_totalEntry key total
  have hplain' : isPlain (.map (entries ++ totalEntry key total)) = true := by
    rw [isPlain] at hplain
    rw [isPlain, entriesPlain_append, hplain, htotal]
    rfl
  rw [length_encodeResponse hcrates hplain', length_encode_small_map
    (by rw [List.length_append]; omega), List.map_append, List.sum_append]
  omega

/-! ## Responses about a credential -/

/-- The response is not longer than a message may be. -/
def Short (response : List UInt8) : Prop := response.length ≤ maxPayloadSize

variable {c : Credential}

/-- The list of RPs: the RP ID is there twice. -/
theorem encodeRpResponse_short (hcrates : crates.WritesCbor)
    (h : Fits c.rpId c.id c.userHandle c.userName c.userDisplayName) (total : Option Nat) :
    Short (encodeRpResponse crates c total) := by
  have hrp := h.rp
  have hmax : maxPayloadSize = 7609 := rfl
  have hid := length_encode_text_le (show c.rpId.utf8ByteSize < 2 ^ 16 by omega)
  have hhash := length_encode_bytes_of_le (le_of_eq (crates.length_sha256 (utf8 c.rpId)))
  have hhead : headSize 32 = 2 := by decide
  refine (length_encodeResponse_total hcrates [
    (.integer 1, .map [(.text "id", .text c.rpId), (.text "name", .text c.rpId)]),
    (.integer 2, .bytes (crates.sha256 (utf8 c.rpId)))] total (by simp [isPlain, entriesPlain])
    (by simp) length_numbers.2.2.1).trans ?_
  simp only [List.map_cons, List.map_nil, List.sum_cons, List.sum_nil, length_numbers]
  rw [length_encode_small_map (by simp)]
  simp only [List.map_cons, List.map_nil, List.sum_cons, List.sum_nil, length_labels]
  omega

/-- The list of credentials. -/
theorem encodeCredentialManagementResponse_short (hcrates : crates.WritesCbor)
    (h : CredentialFits c) (total : Option Nat) :
    Short (encodeCredentialManagementResponse crates c total) := by
  have huser := h.data.user
  have hmax : maxPayloadSize = 7609 := rfl
  obtain ⟨hplain, hentity⟩ := length_userEntity true h.data
  obtain ⟨hkey, hcose⟩ : isPlain (coseCredentialPublicKey c.key) = true ∧
      (encode (coseCredentialPublicKey c.key)).length ≤ 80 :=
    length_coseKey h.x h.y (by rw [length_numbers.2.2.2.2.2.2.2.2.1]; decide)
  have hdescriptor := length_credentialDescriptor (show c.id.length < 2 ^ 16 by omega)
  refine (length_encodeResponse_total hcrates [
    (.integer 1, .map (userEntity c true)), (.integer 2, credentialDescriptor c.id),
    (.integer 3, coseCredentialPublicKey c.key)] total ?_ (by simp) length_numbers.2.2.2.1).trans ?_
  · simp [isPlain, entriesPlain, credentialDescriptor] at hplain ⊢
    exact ⟨hplain, hkey⟩
  · simp only [List.map_cons, List.map_nil, List.sum_cons, List.sum_nil, length_numbers]
    omega

/-- An assertion, with a signature of P-256. -/
theorem encodeAssertionResponse_short (hcrates : crates.WritesCbor)
    (h : Fits c.rpId c.id c.userHandle c.userName c.userDisplayName)
    {authData signature : List UInt8}
    (hdata : authData.length ≤ 37) (hsignature : signature.length ≤ 72) (withNames : Bool)
    (total : Nat) :
    Short (encodeAssertionResponse crates c.id authData signature (userEntity c withNames)
      total) := by
  have huser := h.user
  have hmax : maxPayloadSize = 7609 := rfl
  obtain ⟨hplain, hentity⟩ := length_userEntity withNames h
  have hdescriptor := length_credentialDescriptor (show c.id.length < 2 ^ 16 by omega)
  have hdata' := length_encode_bytes_of_le hdata
  have hsignature' := length_encode_bytes_of_le hsignature
  have hhead : headSize 37 = 2 ∧ headSize 72 = 2 := by decide
  refine (length_encodeResponse_total hcrates [
    (.integer 1, credentialDescriptor c.id), (.integer 2, .bytes authData),
    (.integer 3, .bytes signature), (.integer 4, .map (userEntity c withNames))] _ ?_ (by simp)
    length_numbers.2.2.2.2.1).trans ?_
  · simp [isPlain, entriesPlain, credentialDescriptor] at hplain ⊢
    exact hplain
  · simp only [List.map_cons, List.map_nil, List.sum_cons, List.sum_nil, length_numbers]
    omega

/-! ## Signatures -/

theorem length_ecdsaDer {r s : List UInt8} (hr : r.length ≤ 32) (hs : s.length ≤ 32) :
    (ecdsaDer r s).length ≤ 72 := by
  have hr' := length_derInteger_le hr
  have hs' := length_derInteger_le hs
  simp only [ecdsaDer, List.length_append, List.length_cons, List.length_nil]
  omega

/-! ## Commands -/

/-- The credentials leave room for the responses, in memory and in the store. -/
structure WorldFits (w : World) : Prop where
  cached : ∀ c ∈ w.auth.credentials, CredentialFits c
  stored : ∀ row ∈ w.store.credentials.rows, RowFits row

instance (w : World) : Decidable (WorldFits w) :=
  decidable_of_iff (_ ∧ _) ⟨fun h ↦ ⟨h.1, h.2⟩, fun h ↦ ⟨h.cached, h.stored⟩⟩

variable {env : Env} {w : World}

theorem emptyResponse_short (hcrates : crates.WritesCbor) : Short (emptyResponse crates) := by
  rw [Short, emptyResponse, length_encodeResponse hcrates (by simp [isPlain, entriesPlain])]
  decide

theorem getInfoResponse_short (hcrates : crates.WritesCbor) (clientPin : Bool) :
    Short (getInfoResponse crates clientPin) := by
  rw [Short, getInfoResponse, length_encodeResponse hcrates
    (by simp [isPlain, entriesPlain, allPlain])]
  cases clientPin <;> decide +kernel

/-- A response with a small map of short values. -/
theorem encodeResponse_short (hcrates : crates.WritesCbor) {entries : Entries}
    (hplain : isPlain (.map entries) = true) (hlength : entries.length < 24)
    (hsum : (entries.map fun e ↦ (encode e.1).length + (encode e.2).length).sum ≤ 7000) :
    Short (encodeResponse crates (.map entries)) := by
  have hmax : maxPayloadSize = 7609 := rfl
  rw [Short, length_encodeResponse hcrates hplain, length_encode_small_map hlength]
  omega

/-! ### Registration -/

theorem length_makeAuthData {rpId : String} {flags : UInt8} {signCount : UInt32} :
    (makeAuthData crates rpId flags signCount none none).length = 37 := by
  simp [makeAuthData, crates.length_sha256]

theorem createCredentialMaterial_key {tpm : Tpm} {id : List UInt8} {owner : Option UInt32}
    {passphrase : Option (List UInt8 × List UInt8 × RecoveryKdf)} {key : TpmCredential}
    {policy : PcrPolicyBinding} {material : Option RecoveryMaterial} (htpm : env.tpm.IsP256)
    (h : createCredentialMaterial crates env tpm id owner passphrase =
      some (key, policy, material)) :
    key.publicKeyX.length ≤ 32 ∧ key.publicKeyY.length ≤ 32 := by
  obtain ⟨material', -, h₁⟩ := Option.bind_eq_some_iff.mp h
  obtain ⟨policy', -, h₂⟩ := Option.bind_eq_some_iff.mp h₁
  obtain ⟨key', hkey, h₃⟩ := Option.bind_eq_some_iff.mp h₂
  cases h₃
  obtain ⟨⟨privateArea, publicArea, x, y⟩, hcreate, rfl⟩ := Option.map_eq_some_iff.mp hkey
  exact htpm.createKey _ _ _ _ _ _ hcreate

/-- The authenticator data of a registration. -/
theorem length_makeAuthData_attested (hcrates : crates.WritesCbor) {rpId : String} {flags : UInt8}
    {signCount : UInt32} {id : List UInt8} {key : TpmCredential} (discoverable : Bool)
    (withExtension : Bool) (hid : id.length = 32) (hx : key.publicKeyX.length ≤ 32)
    (hy : key.publicKeyY.length ≤ 32) :
    (makeAuthData crates rpId flags signCount (some (id, coseCredentialPublicKey key))
      (if withExtension then some (credPropsExtension discoverable) else none)).length ≤ 1000 := by
  obtain ⟨hplain, hcose⟩ : isPlain (coseCredentialPublicKey key) = true ∧
      (encode (coseCredentialPublicKey key)).length ≤ 80 :=
    length_coseKey hx hy (by rw [length_numbers.2.2.2.2.2.2.2.2.1]; decide)
  have hextension : (crates.intoWriter (credPropsExtension discoverable)).length = 16 := by
    rw [hcrates _ (by simp [credPropsExtension, isPlain, entriesPlain])]
    cases discoverable <;> decide
  have haaguid : aaguid.length = 16 := by decide
  cases withExtension with
  | false =>
    simp only [makeAuthData, Bool.false_eq_true, if_false, List.length_append,
      crates.length_sha256, List.length_cons, List.length_nil, length_beBytes,
        hcrates _ hplain, hid,
      haaguid]
    omega
  | true =>
    simp only [makeAuthData, if_true, List.length_append, crates.length_sha256, List.length_cons,
      List.length_nil, length_beBytes, hcrates _ hplain, hid, haaguid, hextension]
    omega

/-- The response to a registration. -/
theorem attestation_short (hcrates : crates.WritesCbor) {authData : List UInt8}
    (h : authData.length ≤ 1000) :
    Short (encodeResponse crates (.map [(.integer 1, .text "none"), (.integer 2, .bytes authData),
      (.integer 3, .map [])])) := by
  have hdata := length_encode_bytes_of_le h
  have hhead : headSize 1000 = 3 := by decide
  have hempty : (encode (.map [])).length = 1 := by decide
  refine encodeResponse_short hcrates (by simp [isPlain, entriesPlain]) (by simp) ?_
  simp only [List.map_cons, List.map_nil, List.sum_cons, List.sum_nil, length_numbers,
    length_labels]
  omega

theorem makeCredential_short (hcrates : crates.WritesCbor) (htpm : env.tpm.IsP256)
    (body : List UInt8) : Returns (makeCredential crates env body) w Short := by
  refine .bind fun x w₁ e₁ ↦ .bind fun _ w₂ _ ↦ .bind fun _ w₃ _ ↦ .pure ?_
  have hprepare : Returns (prepareCredential crates env body) w fun r ↦ Short r.2 := by
    refine .bind fun request w₁ _ ↦ .bind fun r w₂ _ ↦ .bind fun userVerified w₃ _ ↦ ?_
    refine .bind fun _ w₄ _ ↦ .bind fun _ w₅ _ ↦ .bind fun a w₆ _ ↦ .bind fun _ w₇ _ ↦ ?_
    refine .bind fun _ w₈ _ ↦ .bind fun passphrase w₉ _ ↦ .bind fun tpm? w₁₀ _ ↦ ?_
    refine .bind fun tpm w₁₁ _ ↦ .bind fun x w₁₂ e₁₂ ↦ ?_
    obtain ⟨key, policy, material⟩ := x
    obtain ⟨hx, hy⟩ := createCredentialMaterial_key htpm (ofOption_ok e₁₂).1
    exact .pure (attestation_short hcrates (length_makeAuthData_attested hcrates _ _
      (length_fillRandom 32 _) hx hy))
  exact hprepare x w₁ e₁

/-! ### Assertions -/

theorem signCredential_length (htpm : env.tpm.IsP256) {key : TpmCredential}
    {policy : Option StoredPcrPolicy} {authority : Option StoredRecoverySlot}
    {signedData : List UInt8} :
    Returns (signCredential crates env key policy authority signedData) w fun s ↦
      s.length ≤ 72 := by
  refine .bind fun _ w₁ _ ↦ .bind fun tpm? w₂ _ ↦ .bind fun tpm w₃ _ ↦ ?_
  intro signature w₄ e₄
  obtain ⟨_, -, h₁⟩ := Option.bind_eq_some_iff.mp (ofOption_ok e₄).1
  obtain ⟨⟨r, s⟩, hsign, h₂⟩ := Option.bind_eq_some_iff.mp h₁
  cases h₂
  obtain ⟨hr, hs⟩ := htpm.sign _ _ _ _ _ _ _ hsign
  exact length_ecdsaDer hr hs

/-- What is let out is about a credential in memory, with a signature of P-256. -/
theorem releaseAssertion_returns (htpm : env.tpm.IsP256) (index : Nat)
    (clientDataHash : List UInt8) (userVerified : Bool) :
    Returns (releaseAssertion crates env index clientDataHash userVerified) w fun x ↦
      x.credential ∈ w.auth.credentials ∧ x.signature.length ≤ 72 := by
  refine .bind fun a w₁ e₁ ↦ .bind fun c w₂ e₂ ↦ .bind fun signature w₃ e₃ ↦ ?_
  refine .bind fun _ w₄ _ ↦ .bind fun _ w₅ _ ↦ .pure ⟨?_, signCredential_length htpm _ _ e₃⟩
  cases e₁
  exact List.mem_of_getElem? (expect_ok e₂).1

theorem Assertion.response_short (hcrates : crates.WritesCbor) {x : Assertion}
    (h : Fits x.credential.rpId x.credential.id x.credential.userHandle x.credential.userName
      x.credential.userDisplayName) (hsignature : x.signature.length ≤ 72) (total : Nat) :
    Short (x.response crates total) :=
  encodeAssertionResponse_short hcrates h (le_of_eq length_makeAuthData) hsignature _ total

/-- What is read from the store fits, too. -/
theorem Looked.fits {w' : World} (h : Looked crates w w') (hw : WorldFits w) :
    ∀ c ∈ w'.auth.credentials, Fits c.rpId c.id c.userHandle c.userName c.userDisplayName := by
  intro c hc
  rcases h.cached with hcached | hcached
  · rw [hcached] at hc
    exact (hw.cached c hc).data
  · obtain ⟨row, hrow, hdescribes⟩ := hcached.exists_row hc
    rw [hdescribes.rpId, hdescribes.id, hdescribes.userHandle, hdescribes.userName,
      hdescribes.userDisplayName]
    exact hw.stored row (Store.mem_selectCredentials.mp hrow).1

theorem getAssertion_short (hcrates : crates.WritesCbor) (htpm : env.tpm.IsP256)
    (hw : WorldFits w) (body : List UInt8) : Returns (getAssertion crates env body) w Short := by
  refine .bind fun x w₁ e₁ ↦ .pure ?_
  obtain ⟨⟨r, userVerified, first, remaining⟩, w₂, e₂, h₂⟩ := bind_ok e₁
  obtain ⟨_, w₃, e₃, h₃⟩ := bind_ok h₂
  obtain ⟨assertion, w₄, e₄, h₄⟩ := bind_ok h₃
  cases e₃
  cases h₄
  obtain ⟨hmem, hsignature⟩ := releaseAssertion_returns htpm _ _ _ _ _ e₄
  have hlooked := (selectAssertion_moves body).of_eq e₂
  exact Assertion.response_short hcrates (hlooked.fits hw _ hmem) hsignature _

theorem getNextAssertion_short (hcrates : crates.WritesCbor) (htpm : env.tpm.IsP256)
    (hw : WorldFits w) (body : List UInt8) :
    Returns (getNextAssertion crates env body) w Short := by
  refine .bind fun x w₁ e₁ ↦ .pure ?_
  obtain ⟨_, w₂, e₂, h₂⟩ := bind_ok e₁
  obtain ⟨-, rfl⟩ := throwIf_ok e₂
  obtain ⟨a, w₃, e₃, h₃⟩ := bind_ok h₂
  cases e₃
  obtain ⟨pending, w₄, e₄, h₄⟩ := bind_ok h₃
  obtain ⟨-, rfl⟩ := ofOption_ok e₄
  obtain ⟨_, w₅, e₅, h₅⟩ := bind_ok h₄
  cases e₅
  obtain ⟨_, w₆, e₆, h₆⟩ := bind_ok h₅
  obtain ⟨-, rfl⟩ := throwIf_ok e₆
  cases hindexes : pending.credentialIndexes with
  | nil =>
    simp only [hindexes] at h₆
    cases h₆
  | cons index remaining =>
    simp only [hindexes] at h₆
    obtain ⟨_, w₇, e₇, h₇⟩ := bind_ok h₆
    cases e₇
    obtain ⟨hmem, hsignature⟩ := releaseAssertion_returns htpm _ _ _ _ _ h₇
    exact Assertion.response_short hcrates (hw.cached _ hmem).data hsignature _

/-! ### The client PIN -/

theorem issueToken_short (hcrates : crates.WritesCbor) {aesKey macKey : List UInt8}
    {permissions : Ctap2PermissionFlags} {rpId : Option String} :
    Returns (issueToken crates env aesKey macKey permissions rpId) w Short := by
  refine .bind fun _ w₁ _ ↦ .pure (encodeResponse_short hcrates (by simp [isPlain, entriesPlain])
    (by simp) ?_)
  have htoken : (encryptAes crates aesKey (fillRandom 16 (env.random 1))
      (fillRandom 32 (env.random 0))).length ≤ 48 := by
    simp [encryptAes, crates.length_aesCbcEncrypt]
  have hparam : ((crates.hmacSha256 macKey (encryptAes crates aesKey (fillRandom 16 (env.random 1))
      (fillRandom 32 (env.random 0)))).take 16).length ≤ 16 := List.length_take_le 16 _
  have htoken' := length_encode_bytes_of_le htoken
  have hparam' := length_encode_bytes_of_le hparam
  have hhead : headSize 48 = 2 ∧ headSize 16 = 1 := by decide
  simp only [List.map_cons, List.map_nil, List.sum_cons, List.sum_nil, length_numbers]
  omega

theorem keyAgreementResponse_short (hcrates : crates.WritesCbor) (secret : List UInt8) :
    Short (keyAgreementResponse crates secret) := by
  obtain ⟨hplain, hcose⟩ : isPlain (coseKeyAgreementCoordinates
      (((crates.publicKey secret).drop 1).take 32) (((crates.publicKey secret).drop 33).take 32)) =
        true ∧ (encode (coseKeyAgreementCoordinates (((crates.publicKey secret).drop 1).take 32)
          (((crates.publicKey secret).drop 33).take 32))).length ≤ 80 :=
    length_coseKey (List.length_take_le 32 _) (List.length_take_le 32 _)
      (le_of_eq length_numbers.2.2.2.2.2.2.2.2.2)
  refine encodeResponse_short hcrates (by rw [isPlain, entriesPlain, hplain]; rfl) (by simp) ?_
  simp only [List.map_cons, List.map_nil, List.sum_cons, List.sum_nil, length_numbers]
  omega

theorem clientPin_short (hcrates : crates.WritesCbor) (body : List UInt8) :
    Returns (clientPin crates env body) w Short := by
  refine .bind fun x w₁ _ ↦ ?_
  obtain ⟨subCommand, request⟩ := x
  cases subCommand with
  | getRetries =>
    refine .bind fun _ w₂ _ ↦ .bind fun a w₃ _ ↦ .pure (encodeResponse_short hcrates
      (by simp [isPlain, entriesPlain]) (by simp) ?_)
    have hretries := length_encode_integer_le
      ((a.clientPin.map StoredClientPinState.retries).getD pinRetries : Nat)
    simp only [List.map_cons, List.map_nil, List.sum_cons, List.sum_nil, length_numbers]
    omega
  | getKeyAgreement =>
    exact .bind fun _ w₂ _ ↦ .bind fun _ w₃ _ ↦ .pure (keyAgreementResponse_short hcrates _)
  | setPin =>
    refine .bind fun newPinEnc w₂ _ ↦ .bind fun param w₃ _ ↦ ?_
    exact .bind fun a w₄ _ ↦ .bind fun newPin w₅ _ ↦ .bind fun _ w₆ _ ↦ .bind fun _ w₇ _ ↦
      .pure (emptyResponse_short hcrates)
  | changePin =>
    refine .bind fun newPinEnc w₂ _ ↦ .bind fun hashEnc w₃ _ ↦ .bind fun param w₄ _ ↦ ?_
    exact .bind fun a w₅ _ ↦ .bind fun r w₆ _ ↦ .bind fun _ w₇ _ ↦ .bind fun _ w₈ _ ↦
      .bind fun _ w₉ _ ↦ .pure (emptyResponse_short hcrates)
  | getPinUvAuthToken =>
    refine .bind fun hashEnc w₂ _ ↦ .bind fun permissions w₃ _ ↦ ?_
    exact .bind fun a w₄ _ ↦ .bind fun r w₅ _ ↦ .bind fun _ w₆ _ ↦ issueToken_short hcrates
  | getPinUvAuthTokenUsingUv =>
    refine .bind fun permissions w₂ _ ↦ .bind fun _ w₃ _ ↦ ?_
    exact .bind fun a w₄ _ ↦ .bind fun _ w₅ _ ↦ .bind fun r w₆ _ ↦ issueToken_short hcrates

/-! ### Credential management -/

theorem managementSubCommand_short (hcrates : crates.WritesCbor) (hw : WorldFits w)
    (subCommand : ManagementSubCommand) (params : Option Entries) :
    Returns (managementSubCommand crates env subCommand params) w Short := by
  have fits : ∀ {i : Nat} {c : Credential}, w.auth.credentials[i]? = some c → CredentialFits c :=
    fun hc ↦ hw.cached _ (List.mem_of_getElem? hc)
  cases subCommand with
  | getCredsMetadata =>
    refine .bind fun a w₁ _ ↦ .pure (encodeResponse_short hcrates (by simp [isPlain, entriesPlain])
      (by simp) ?_)
    have hcount := length_encode_integer_le (a.credentials.filter Credential.discoverable).length
    have hrest := length_encode_integer_le
      (maxResidentCredentials - (a.credentials.filter Credential.discoverable).length : Nat)
    simp only [List.map_cons, List.map_nil, List.sum_cons, List.sum_nil, length_numbers]
    omega
  | enumerateRpsBegin =>
    refine .bind fun a w₁ e₁ ↦ .bind fun first w₂ _ ↦ .bind fun _ w₃ _ ↦ .bind fun c w₄ e₄ ↦ ?_
    cases e₁
    exact .pure (encodeRpResponse_short hcrates (fits (expect_ok e₄).1).data _)
  | enumerateRpsNext =>
    refine .bind fun a w₁ e₁ ↦ .bind fun state w₂ _ ↦ .bind fun index w₃ _ ↦ .bind fun _ w₄ _ ↦
      .bind fun c w₅ e₅ ↦ ?_
    cases e₁
    exact .pure (encodeRpResponse_short hcrates (fits (expect_ok e₅).1).data _)
  | enumerateCredentialsBegin =>
    refine .bind fun params w₁ e₁ ↦ .bind fun rpHash w₂ e₂ ↦ .bind fun _ w₃ e₃ ↦
      .bind fun a w₄ e₄ ↦ .bind fun first w₅ _ ↦ .bind fun _ w₆ _ ↦ .bind fun c w₇ e₇ ↦ ?_
    obtain ⟨-, rfl⟩ := ofOption_ok e₁
    obtain ⟨-, rfl⟩ := ofOption_ok e₂
    obtain ⟨-, rfl⟩ := throwIf_ok e₃
    cases e₄
    exact .pure (encodeCredentialManagementResponse_short hcrates (fits (expect_ok e₇).1) _)
  | enumerateCredentialsNext =>
    refine .bind fun a w₁ e₁ ↦ .bind fun state w₂ _ ↦ .bind fun index w₃ _ ↦ .bind fun _ w₄ _ ↦
      .bind fun c w₅ e₅ ↦ ?_
    cases e₁
    exact .pure (encodeCredentialManagementResponse_short hcrates (fits (expect_ok e₅).1) _)
  | deleteCredential =>
    exact .bind fun id w₁ _ ↦ .bind fun a w₂ _ ↦ .bind fun index w₃ _ ↦ .bind fun _ w₄ _ ↦
      .bind fun _ w₅ _ ↦ .pure (emptyResponse_short hcrates)
  | updateUserInformation =>
    exact .bind fun a w₁ _ ↦ .bind fun x w₂ _ ↦ .bind fun _ w₃ _ ↦ .bind fun _ w₄ _ ↦
      .bind fun _ w₅ _ ↦ .pure (emptyResponse_short hcrates)

/-! ## Requests -/

theorem WorldFits.of_enter (hw : WorldFits w) (command : Ctap2Command) :
    WorldFits (w.enter command) := ⟨hw.cached, hw.stored⟩

theorem gatedCommand_short (hcrates : crates.WritesCbor) (htpm : env.tpm.IsP256)
    (hw : WorldFits w) (command : Ctap2Command) (body : List UInt8) :
    Returns (gatedCommand crates env command body) w Short := by
  refine .bind fun _ w₁ e₁ ↦ ?_
  obtain rfl : w = w₁ := (requirePassphrase_eq command).of_eq e₁
  have management : Returns (credentialManagement crates env body) w Short := by
    refine .bind fun x w₂ e₂ ↦ .bind fun subCommand w₃ e₃ ↦ ?_
    obtain ⟨-, rfl⟩ := ofOption_ok e₃
    have hworld := (authoriseManagement_ok e₂).world
    exact managementSubCommand_short hcrates (hworld ▸ ⟨hw.cached, hw.stored⟩) _ _
  cases command with
  | getInfo => exact .bind fun a w₂ _ ↦ .pure (getInfoResponse_short hcrates _)
  | clientPin => exact clientPin_short hcrates body
  | makeCredential => exact makeCredential_short hcrates htpm body
  | getAssertion => exact getAssertion_short hcrates htpm hw body
  | getNextAssertion => exact getNextAssertion_short hcrates htpm hw body
  | credentialManagement => exact management
  | credentialManagementPreview => exact management
  | reset =>
    exact .bind fun a w₂ _ ↦ .bind fun _ w₃ _ ↦ .bind fun _ w₄ _ ↦ .bind fun _ w₅ _ ↦
      .bind fun _ w₆ _ ↦ .pure (emptyResponse_short hcrates)
  | selection => exact .bind fun a w₂ _ ↦ .bind fun _ w₃ _ ↦ .pure (emptyResponse_short hcrates)
  | bioEnrollment => exact .panic
  | bioEnrollmentPreview => exact .panic
  | largeBlobs => exact .panic
  | config => exact .panic

theorem short_singleton (b : UInt8) : Short [b] := Nat.le_add_left 1 7608

/-- **Every response is short enough.**  On a world whose credentials fit, whatever is asked. -/
theorem handleCbor_short (hcrates : crates.WritesCbor) (htpm : env.tpm.IsP256) (hw : WorldFits w)
    (payload : List UInt8) : Returns (handleCbor crates env payload) w Short := by
  intro response w' h
  unfold handleCbor at h
  cases hp : parsePayload payload with
  | none =>
    simp only [hp] at h
    cases h
    exact short_singleton _
  | some x =>
    obtain ⟨command, body⟩ := x
    simp only [hp] at h
    cases hr : gatedCommand crates env command body { w with auth := w.auth.enter command } with
    | mk o w₁ =>
      rw [hr] at h
      cases o with
      | ok r =>
        cases h
        exact gatedCommand_short hcrates htpm (hw.of_enter command) command body _ _ hr
      | error e =>
        cases h
        exact short_singleton _
      | panicked => cases h

end Ctap2
end TpmFido2
