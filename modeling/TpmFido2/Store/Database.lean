import TpmFido2.Lib.Handler
import TpmFido2.Lib.Table
import TpmFido2.Tpm
import Mathlib.Data.List.Sort

/-!
# The credential store

`src/store.rs` and the schema its migrations build: a SQLite database and, beside it, the file
with the key of the integrity codes.

The three credential tables of the schema hang together by foreign keys and uniqueness — at most
one `primary` and one `recovery` key slot for a credential, at most one passphrase token for a key
slot, all deleted with the credential — so a credential is one `CredentialRow` here with its slots
inside.  Rows have no order of their own; a query that needs one sorts.

Each operation of the module opens the database anew, so each call can fail on its own.  A
`StoreFault` says how one call fails:

* `io` — the database cannot be opened or read; nothing happens;
* `statement` — a write statement or the commit fails; what the call wrote is rolled back;
* `key` — an access to the key file fails.

The key file is not part of the database, so a key generated by a call that is rolled back
stays.
-/

set_option autoImplicit false

namespace TpmFido2

open Bytes

/-! ## What is stored -/

/-- `StoredPcrPolicy`. -/
structure StoredPcrPolicy extends PcrPolicyBinding where
  policyVersion : UInt32
deriving DecidableEq, Repr

/-- `StoredPcrPolicy::current_version`. -/
def StoredPcrPolicy.currentVersion : UInt32 := 1

/-- `StoredPcrPolicy::is_version_supported`. -/
def StoredPcrPolicy.isVersionSupported (version : UInt32) : Bool := [(1 : UInt32)].contains version

/-- `StoredRecoverySlot`. -/
structure StoredRecoverySlot where
  label : Option String
  passphraseSalt : List UInt8
  passphraseHash : List UInt8
  kdf : RecoveryKdf
  key : TpmCredential
deriving DecidableEq, Repr

/-- `Credential` of `src/ctap2.rs`: what the authenticator keeps of a credential in memory. -/
structure Credential where
  id : List UInt8
  rpId : String
  discoverable : Bool
  userId : Option UInt32
  userHandle : List UInt8
  userName : Option String
  userDisplayName : Option String
  key : TpmCredential
  policy : Option StoredPcrPolicy
  recovery : Option StoredRecoverySlot
  signCount : UInt32
deriving DecidableEq, Repr

/-- `StoredCtap2Credential`: the same with the integrity code of its row. -/
structure StoredCtap2Credential extends Credential where
  integrityMac : Option (List UInt8)
deriving DecidableEq, Repr

/-- `StoredClientPinState`, without the integrity code, which no caller sets or reads. -/
structure StoredClientPinState where
  pinSalt : List UInt8
  pinVerifier : List UInt8
  retries : Nat
deriving DecidableEq, Repr

/-! ## Rows -/

/-- The policy columns of a key slot. -/
structure PolicyColumns where
  policySelection : Option String
  policyDigest : Option (List UInt8)
  policyRef : Option (List UInt8)
  authorityName : Option (List UInt8)
  authoritySignature : Option (List UInt8)
deriving DecidableEq, Repr

/-- The policy columns of a slot without a policy. -/
def PolicyColumns.null : PolicyColumns := ⟨none, none, none, none, none⟩

/-- A row of `credential_tokens`. -/
structure TokenRow where
  label : Option String
  kdfParams : String
deriving DecidableEq, Repr

/-- A row of `credential_keyslots`, with its passphrase token. -/
structure KeyslotRow where
  slotLabel : Option String
  policy : PolicyColumns
  policyVersion : Int
  tpmKey : List UInt8
  publicKey : String
  token : Option TokenRow
deriving DecidableEq, Repr

/-- A row of `credential_metadata`, with its key slots. -/
structure CredentialRow where
  credentialId : List UInt8
  rpId : String
  userHandle : List UInt8
  userName : Option String
  userDisplayName : Option String
  signCount : Nat
  userId : Option Int
  integrityMac : Option (List UInt8)
  discoverable : Bool
  primary : Option KeyslotRow
  recovery : Option KeyslotRow
deriving DecidableEq, Repr

/-- The row of `client_pin_state`, with its `CHECK` on the counter. -/
structure ClientPinRow where
  pinSalt : List UInt8
  pinVerifier : List UInt8
  retries : Nat
  integrityMac : Option (List UInt8)
  retries_le : retries ≤ 8
deriving DecidableEq

/-- The store directory: the tables, the two settings in `daemon_config`, and the key file. -/
structure Store where
  credentials : Table CredentialRow.credentialId
  clientPin : Option ClientPinRow
  daemonPassphrase : Option (List UInt8)
  defaultPcrPolicy : Option (List UInt8)
  hmacKey : Option (List UInt8)

/-- The store of a fresh installation. -/
def Store.fresh : Store := ⟨Table.empty _, none, none, none, none⟩

/-- How one call to the store fails, and the random bytes it draws for a new key file. -/
structure StoreFault where
  io : Bool
  statement : Bool
  /-- Whether the n-th access to the key file fails. -/
  key : Nat → Bool
  fresh : Nat → UInt8

/-- The errors of the store. -/
inductive StoreError where
  | io
  | constraint
  | decoding
  | hmacKey
  | integrity (rpId : String)
  | rowsAffected (n : Nat)
  | keyslotNotFound
  | invalidPinState
  | pinIntegrity
deriving DecidableEq, Repr

/-- An operation of the store. -/
abbrev StoreM := Handler Store StoreError

/-! ## Codecs of the columns -/

section
variable (crates : Crates)

/-- `sec1_encode_point`; `none` is the panic of `expect`. -/
def sec1EncodePoint (x y : List UInt8) : Option String :=
  if crates.isPoint x y then some (crates.toPem x y) else none

/-- `tpm_key_to_blob`. -/
def tpmKeyToBlob (key : TpmCredential) : List UInt8 :=
  crates.writeKeyBlob key.privateArea key.publicArea key.authValue

/-- `tpm_key_from_blob`. -/
def tpmKeyFromBlob (data : List UInt8) (publicKey : String) : Option TpmCredential := do
  let (privateArea, publicArea, authValue) ← crates.readKeyBlob data
  let (x, y) ← crates.ofPem publicKey
  return ⟨privateArea, publicArea, x, y, authValue⟩

/-- `kdf_params_to_string`; `none` is the panic of one of its `expect`s. -/
def kdfParamsToString (kdf : RecoveryKdf) (salt hash : List UInt8) : Option String :=
  match kdf with
  | .argon2id memoryKib iterations parallelism =>
    crates.toPhc memoryKib iterations parallelism salt hash

/-- `kdf_params_from_string`: salt, hash and parameters. -/
def kdfParamsFromString (s : String) : Option (List UInt8 × List UInt8 × RecoveryKdf) :=
  (crates.ofPhc s).map fun (salt, hash, memoryKib, iterations, parallelism) ↦
    (salt, hash, .argon2id memoryKib iterations parallelism)

/-! ## Integrity codes -/

/-- A byte string with its length in front, as it goes into the codes. -/
def lengthPrefixed (b : List UInt8) : List UInt8 := beBytes 8 b.length ++ b

/-- `compute_credential_mac`. -/
def computeCredentialMac (key : List UInt8) (c : Credential) : List UInt8 :=
  crates.hmacSha256 key (lengthPrefixed c.id ++ lengthPrefixed (utf8 c.rpId) ++
    [if c.discoverable then 1 else 0] ++ lengthPrefixed c.userHandle ++
    beBytes 4 (c.userId.getD 0).toNat ++ lengthPrefixed (utf8 (c.userName.getD "")) ++
    lengthPrefixed (utf8 (c.userDisplayName.getD "")))

/-- `compute_credential_mac_legacy`: the same without the discoverable flag. -/
def computeCredentialMacLegacy (key : List UInt8) (c : Credential) : List UInt8 :=
  crates.hmacSha256 key (lengthPrefixed c.id ++ lengthPrefixed (utf8 c.rpId) ++
    lengthPrefixed c.userHandle ++ beBytes 4 (c.userId.getD 0).toNat ++
    lengthPrefixed (utf8 (c.userName.getD "")) ++
    lengthPrefixed (utf8 (c.userDisplayName.getD "")))

/-- `compute_client_pin_mac`. -/
def computeClientPinMac (key pinSalt pinVerifier : List UInt8) (retries : Nat) : List UInt8 :=
  crates.hmacSha256 key (lengthPrefixed pinSalt ++ lengthPrefixed pinVerifier ++ beBytes 4 retries)

end

namespace Store

variable (crates : Crates) (fault : StoreFault)

/-- The n-th call to `load_or_generate_hmac_key` of an operation. -/
def loadOrGenerateHmacKey (n : Nat) : StoreM (List UInt8) := fun s ↦
  if fault.key n then (.error .hmacKey, s)
  else
    match s.hmacKey with
    | some raw => if raw.length = 32 then (.ok raw, s) else (.error .hmacKey, s)
    | none =>
      let key := fillRandom 32 fault.fresh
      (.ok key, { s with hmacKey := some key })

/-! ## Loading credentials -/

/-- The order of the query: by RP ID, then by credential ID. -/
def rowLe (a b : CredentialRow) : Prop :=
  (utf8 a.rpId ≠ utf8 b.rpId ∧ lexLe (utf8 a.rpId) (utf8 b.rpId)) ∨
    (utf8 a.rpId = utf8 b.rpId ∧ lexLe a.credentialId b.credentialId)

instance : DecidableRel rowLe := fun a b ↦ by unfold rowLe; infer_instance

/-- The `WHERE` clause: without a user every row, otherwise the user's and those of nobody. -/
def visibleTo (userId : Option UInt32) (row : CredentialRow) : Bool :=
  match userId, row.userId with
  | none, _ => true
  | _, none => true
  | some uid, some owner => owner = uid.toNat

/-- The rows `load_ctap2_credentials_async` selects. -/
def selectCredentials (userId : Option UInt32) (s : Store) : List CredentialRow :=
  (s.credentials.rows.filter fun row ↦ visibleTo userId row && row.primary.isSome).insertionSort
    rowLe

/-- `u32::try_from` on a column. -/
def toU32 (n : Int) : Option UInt32 :=
  if 0 ≤ n ∧ n < 2 ^ 32 then some (UInt32.ofNat n.toNat) else none

/-- The recovery slot a row describes: `none` unless key, point and token are all there. -/
def recoveryOfRow (slot : Option KeyslotRow) : Option (Option StoredRecoverySlot) :=
  match slot with
  | none => some none
  | some slot =>
    match slot.token with
    | none => some none
    | some token => do
      let (salt, hash, kdf) ← kdfParamsFromString crates token.kdfParams
      let key ← tpmKeyFromBlob crates slot.tpmKey slot.publicKey
      return some ⟨slot.slotLabel, salt, hash, kdf, key⟩

/-- The policy a row describes: there is one only with selection and digest. -/
def policyOfColumns (columns : PolicyColumns) (policyVersion : UInt32) : Option StoredPcrPolicy :=
  match columns.policySelection, columns.policyDigest with
  | some selection, some digest =>
    some ⟨⟨selection, digest, columns.policyRef, columns.authorityName,
      columns.authoritySignature⟩, policyVersion⟩
  | _, _ => none

/-- The owner a loaded credential gets: a row of nobody belongs to whoever loads it. -/
def ownerOfRow (userId : Option UInt32) (owner : Option Int) : Option (Option UInt32) :=
  match owner, userId with
  | some value, _ => (toU32 value).map some
  | none, uid => some uid

/-- The credential a row describes. -/
def credentialOfRow (userId : Option UInt32) (row : CredentialRow) :
    Option StoredCtap2Credential := do
  let slot ← row.primary
  let policyVersion ← toU32 slot.policyVersion
  let key ← tpmKeyFromBlob crates slot.tpmKey slot.publicKey
  let recovery ← recoveryOfRow crates row.recovery
  let owner ← ownerOfRow userId row.userId
  let signCount ← toU32 row.signCount
  return {
    id := row.credentialId
    rpId := row.rpId
    discoverable := row.discoverable
    userId := owner
    userHandle := row.userHandle
    userName := row.userName
    userDisplayName := row.userDisplayName
    key := key
    policy := policyOfColumns slot.policy policyVersion
    recovery := recovery
    signCount := signCount
    integrityMac := row.integrityMac }

/-- The integrity check of a loaded credential.  Without the key nothing is checked. -/
def verifyIntegrity (n : Nat) (stored : StoredCtap2Credential) : StoreM Unit :=
  match stored.integrityMac with
  | none => pure ()
  | some expected => do
    match ← Handler.attempt (loadOrGenerateHmacKey fault n) with
    | .error _ => pure ()
    | .ok key =>
      Handler.throwIf (computeCredentialMac crates key stored.toCredential ≠ expected ∧
        computeCredentialMacLegacy crates key stored.toCredential ≠ expected)
        (.integrity stored.rpId)

/-- The rows of the query, one after the other; the first that is refused ends it. -/
def loadRows (userId : Option UInt32) : Nat → List CredentialRow →
    StoreM (List StoredCtap2Credential)
  | _, [] => pure []
  | n, row :: rows => do
    let stored ← Handler.ofOption (credentialOfRow crates userId row) .decoding
    verifyIntegrity crates fault n stored
    let rest ← loadRows userId (n + 1) rows
    pure (stored :: rest)

/-- `load_ctap2_credentials_async`. -/
def loadCtap2Credentials (userId : Option UInt32) : StoreM (List StoredCtap2Credential) := do
  Handler.throwIf fault.io .io
  let rows ← Handler.gets (selectCredentials userId)
  loadRows crates fault userId 0 rows

/-! ## Saving credentials -/

/-- The policy columns of a credential. -/
def policyColumns (policy : Option StoredPcrPolicy) : PolicyColumns :=
  ⟨policy.map (·.selection), policy.map (·.digest), policy.bind (·.policyRef),
    policy.bind (·.authorityName), policy.bind (·.authoritySignature)⟩

/-- The primary slot of a credential. -/
def primarySlot (c : Credential) : Option KeyslotRow := do
  let publicKey ← sec1EncodePoint crates c.key.publicKeyX c.key.publicKeyY
  return ⟨none, policyColumns c.policy, 1, tpmKeyToBlob crates c.key, publicKey, none⟩

/-- A recovery slot with its token. -/
def recoverySlot (recovery : StoredRecoverySlot) : Option KeyslotRow := do
  let publicKey ← sec1EncodePoint crates recovery.key.publicKeyX recovery.key.publicKeyY
  let kdfParams ←
    kdfParamsToString crates recovery.kdf recovery.passphraseSalt recovery.passphraseHash
  return ⟨recovery.label, .null, 1, tpmKeyToBlob crates recovery.key, publicKey,
    some ⟨recovery.label, kdfParams⟩⟩

/-- The recovery slot of a credential, if it has one; the outer `none` is a panic. -/
def recoverySlotOf (recovery : Option StoredRecoverySlot) : Option (Option KeyslotRow) :=
  match recovery with
  | none => some none
  | some recovery => (recoverySlot crates recovery).map some

/-- The rows of a credential; `none` is a panic in one of the encoders. -/
def rowOfCredential (mac : Option (List UInt8)) (c : Credential) : Option CredentialRow := do
  let primary ← primarySlot crates c
  let recovery ← recoverySlotOf crates c.recovery
  return {
    credentialId := c.id
    rpId := c.rpId
    userHandle := c.userHandle
    userName := c.userName
    userDisplayName := c.userDisplayName
    signCount := c.signCount.toNat
    userId := c.userId.map fun uid ↦ (uid.toNat : Int)
    integrityMac := mac
    discoverable := c.discoverable
    primary := some primary
    recovery := recovery }

/-- One round of the loop of `save_ctap2_credentials_async`. -/
def insertCredential (n : Nat) (c : Credential) : StoreM Unit := do
  let mac ← Handler.attempt (loadOrGenerateHmacKey fault n)
  let s ← Handler.get
  -- the metadata row comes first, so a taken key is reported before the slots are encoded
  Handler.throwIf ((s.credentials.find c.id).isSome) .constraint
  let row ← Handler.expect (rowOfCredential crates
    (mac.toOption.map fun key ↦ computeCredentialMac crates key c) c)
  let table ← Handler.ofOption (s.credentials.insert row) .constraint
  Handler.modify fun s ↦ { s with credentials := table }

/-- The loop of `save_ctap2_credentials_async`. -/
def insertCredentials : Nat → List Credential → StoreM Unit
  | _, [] => pure ()
  | n, c :: cs => do
    insertCredential crates fault n c
    insertCredentials (n + 1) cs

/-- A transaction on the credential tables: unless it commits, they are as before. -/
def transaction (m : StoreM Unit) : StoreM Unit := fun s ↦
  match m s with
  | (.ok u, s') => (.ok u, s')
  | (.error e, s') => (.error e, { s' with credentials := s.credentials })
  | (.panicked, s') => (.panicked, { s' with credentials := s.credentials })

/-- `save_ctap2_credentials_async`: all rows out, then one row for each credential given. -/
def saveCtap2Credentials (credentials : List Credential) : StoreM Unit := do
  Handler.throwIf fault.io .io
  transaction do
    Handler.modify fun s ↦ { s with credentials := Table.empty _ }
    insertCredentials crates fault 0 credentials
    Handler.throwIf fault.statement .io

/-! ## Updating one credential -/

/-- A single-row statement on the credential tables, refused unless `applies` to the row. -/
def updateRow (id : List UInt8) (applies : CredentialRow → Bool)
    (f : CredentialRow → CredentialRow) (hf : ∀ r, (f r).credentialId = r.credentialId) :
    StoreM Unit := do
  Handler.throwIf (fault.io ∨ fault.statement) .io
  let s ← Handler.get
  let row ← Handler.ofOption (s.credentials.find id) (.rowsAffected 0)
  Handler.throwIf (¬ applies row) (.rowsAffected 0)
  Handler.modify fun s ↦ { s with credentials := s.credentials.update id f hf }

/-- The row with another counter. -/
def withSignCount (signCount : UInt32) (row : CredentialRow) : CredentialRow :=
  { row with signCount := signCount.toNat }

/-- `update_ctap2_sign_count_async`. -/
def updateCtap2SignCount (id : List UInt8) (signCount : UInt32) : StoreM Unit :=
  updateRow fault id (fun _ ↦ true) (withSignCount signCount) fun _ ↦ rfl

/-- The row with other policy columns.  The version column keeps its value. -/
def withPolicy (policy : StoredPcrPolicy) (row : CredentialRow) : CredentialRow :=
  { row with
    primary := row.primary.map fun slot ↦ { slot with policy := policyColumns (some policy) } }

/-- `update_ctap2_policy_async`. -/
def updateCtap2Policy (id : List UInt8) (policy : StoredPcrPolicy) : StoreM Unit :=
  updateRow fault id (fun row ↦ row.primary.isSome) (withPolicy policy) fun _ ↦ rfl

/-- The row with another recovery key blob and, if it has a token, other parameters in it. -/
def withRecovery (blob : List UInt8) (kdfParams : String) (row : CredentialRow) : CredentialRow :=
  { row with
    recovery := row.recovery.map fun slot ↦
      { slot with
        tpmKey := blob
        token := slot.token.map fun token ↦ { token with kdfParams := kdfParams } } }

/-- `update_recovery_slot_async`.  The statement on the token does not look at how many rows it
changed. -/
def updateRecoverySlot (id newPrivate newSalt newHash : List UInt8) (kdf : RecoveryKdf) :
    StoreM Unit := do
  Handler.throwIf fault.io .io
  let s ← Handler.get
  let slot ← Handler.ofOption ((s.credentials.find id).bind (·.recovery)) .keyslotNotFound
  let oldKey ← Handler.ofOption (tpmKeyFromBlob crates slot.tpmKey slot.publicKey) .decoding
  let newKey := { oldKey with privateArea := newPrivate, authValue := some newHash }
  let kdfParams ← Handler.expect (kdfParamsToString crates kdf newSalt newHash)
  Handler.throwIf fault.statement .io
  Handler.modify fun s ↦ { s with
    credentials :=
      s.credentials.update id (withRecovery (tpmKeyToBlob crates newKey) kdfParams) fun _ ↦ rfl }

/-- `delete_ctap2_credential_async`. -/
def deleteCtap2Credential (id : List UInt8) : StoreM Unit := do
  Handler.throwIf (fault.io ∨ fault.statement) .io
  let s ← Handler.get
  Handler.throwIf (s.credentials.find id = none) (.rowsAffected 0)
  Handler.modify fun s ↦ { s with credentials := s.credentials.delete id }

/-! ## The client PIN -/

/-- `constant_time_equal`. -/
def constantTimeEqual (left right : List UInt8) : Bool :=
  left.length = right.length &&
    (left.zip right).foldl (fun difference p ↦ difference ||| (p.1 ^^^ p.2)) 0 = 0

/-- The state a row describes. -/
def pinStateOfRow (row : ClientPinRow) : StoredClientPinState :=
  ⟨row.pinSalt, row.pinVerifier, row.retries⟩

/-- `load_client_pin_state_async`. -/
def loadClientPinState : StoreM (Option StoredClientPinState) := do
  Handler.throwIf fault.io .io
  let s ← Handler.get
  match s.clientPin with
  | none => pure none
  | some row =>
    match row.integrityMac with
    | none => pure (some (pinStateOfRow row))
    | some expected => do
      let key ← loadOrGenerateHmacKey fault 0
      Handler.throwIf (¬ constantTimeEqual
        (computeClientPinMac crates key row.pinSalt row.pinVerifier row.retries) expected)
        .pinIntegrity
      pure (some (pinStateOfRow row))

/-- The row `save_client_pin_state_async` writes, if it accepts the state. -/
def clientPinRow (state : StoredClientPinState) (mac : List UInt8) : Option ClientPinRow :=
  if h : state.pinSalt.length = 32 ∧ state.pinVerifier.length = 32 ∧ state.retries ≤ 8 then
    some ⟨state.pinSalt, state.pinVerifier, state.retries, some mac, h.2.2⟩
  else none

/-- `save_client_pin_state_async`. -/
def saveClientPinState (state : StoredClientPinState) : StoreM Unit := do
  -- the state is checked before the database is opened, with whatever code it will get
  Handler.throwIf (clientPinRow state [] = none) .invalidPinState
  Handler.throwIf fault.io .io
  let key ← loadOrGenerateHmacKey fault 0
  let row ← Handler.ofOption (clientPinRow state
    (computeClientPinMac crates key state.pinSalt state.pinVerifier state.retries)) .invalidPinState
  Handler.throwIf fault.statement .io
  Handler.modify fun s ↦ { s with clientPin := some row }

/-- `delete_client_pin_state_async`. -/
def deleteClientPinState : StoreM Unit := do
  Handler.throwIf (fault.io ∨ fault.statement) .io
  Handler.modify fun s ↦ { s with clientPin := none }

/-! ## Settings -/

/-- `load_daemon_passphrase_async`: salt, hash and parameters. -/
def loadDaemonPassphrase : StoreM (Option (List UInt8 × List UInt8 × RecoveryKdf)) := do
  Handler.throwIf fault.io .io
  let s ← Handler.get
  match s.daemonPassphrase with
  | none => pure none
  | some blob => do
    let (hash, salt, memoryKib, iterations, parallelism) ←
      Handler.ofOption (crates.readPassphrase blob) .decoding
    pure (some (salt, hash, .argon2id memoryKib iterations parallelism))

/-- `save_daemon_passphrase_async`. -/
def saveDaemonPassphrase (salt hash : List UInt8) (kdf : RecoveryKdf) : StoreM Unit := do
  Handler.throwIf (fault.io ∨ fault.statement) .io
  match kdf with
  | .argon2id memoryKib iterations parallelism =>
    Handler.modify fun s ↦ { s with
      daemonPassphrase :=
        some (crates.writePassphrase hash salt memoryKib iterations parallelism) }

/-- `load_default_pcr_policy_async`. -/
def loadDefaultPcrPolicy : StoreM (Option (List UInt32)) := do
  Handler.throwIf fault.io .io
  let s ← Handler.get
  match s.defaultPcrPolicy with
  | none => pure none
  | some blob => do
    let indices ← Handler.ofOption (crates.readIndices blob) .decoding
    pure (some indices)

/-- `save_default_pcr_policy_async`. -/
def saveDefaultPcrPolicy (indices : List UInt32) : StoreM Unit := do
  Handler.throwIf (fault.io ∨ fault.statement) .io
  Handler.modify fun s ↦ { s with defaultPcrPolicy := some (crates.writeIndices indices) }

end Store
end TpmFido2
