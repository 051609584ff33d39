import TpmFido2.Ctap2.Sample
import TpmFido2.Store.Effects

/-!
# Saving and loading

One credential is spread over a metadata row, one or two key slots and a passphrase token, with
CBOR, PEM and PHC texts in the columns and two levels of options in their nulls.  What saving writes
is read back by `credentialOfRow_rowOfCredential`, up to one column: the version of the policy is
always written as 1.  The integrity code is no obstacle, since the key it was made with is the one
in the key file, or there is no key to check it with (`verifyIntegrity_sealed`).

* **`roundTrip_iff_version`**: saving a list of credentials and loading all of them gives the list
  back, in the order of the query, if and only if the policies have version 1.
-/

set_option autoImplicit false

namespace TpmFido2
namespace Store

open Bytes Handler

/-! ## The property -/

section
variable (crates : Crates)

/-- A key with a point of P-256. -/
structure IsPoint (key : TpmCredential) : Prop where
  point : crates.isPoint key.publicKeyX key.publicKeyY
  lengthX : key.publicKeyX.length = 32
  lengthY : key.publicKeyY.length = 32

/-- A credential with points of P-256 as its public keys, and with a salt and a hash that PHC
strings have room for. -/
structure Storable (c : Credential) : Prop where
  key : IsPoint crates c.key
  recoveryKey : ∀ r, c.recovery = some r → IsPoint crates r.key
  phc : ∀ r, c.recovery = some r →
    (kdfParamsToString crates r.kdf r.passphraseSalt r.passphraseHash).isSome

/-- The order by RP ID and then by credential ID, as SQLite compares text and blobs. -/
def credentialLe (c d : Credential) : Prop :=
  (utf8 c.rpId ≠ utf8 d.rpId ∧ lexLe (utf8 c.rpId) (utf8 d.rpId)) ∨
    (utf8 c.rpId = utf8 d.rpId ∧ lexLe c.id d.id)

/-- Saving a list and loading everything gives the list back, sorted; the integrity codes are left
out. -/
structure RoundTrip (save load : StoreFault) (s : Store) (cs : List StoredCtap2Credential) :
    Prop where
  saved : (saveCtap2Credentials crates save (cs.map (·.toCredential)) s).1 = .ok ()
  loaded : ∃ loaded, (loadCtap2Credentials crates load none
      (saveCtap2Credentials crates save (cs.map (·.toCredential)) s).2).1 = .ok loaded ∧
    (loaded.map (·.toCredential)).Perm (cs.map (·.toCredential)) ∧
    (loaded.map (·.toCredential)).Pairwise credentialLe

end

variable {crates : Crates} {fault : StoreFault}

/-! ## One row -/

/-- The credential with the version its row gets. -/
def withVersion (c : Credential) : Credential :=
  { c with policy := c.policy.map fun p ↦ { p with policyVersion := 1 } }

theorem withVersion_eq_self {c : Credential} (h : ∀ p, c.policy = some p → p.policyVersion = 1) :
    withVersion c = c := by
  have hpolicy : c.policy.map (fun p ↦ { p with policyVersion := 1 }) = c.policy := by
    cases hp : c.policy with
    | none => rfl
    | some p => rw [Option.map_some, ← h p hp]
  rw [withVersion, hpolicy]

theorem tpmKeyFromBlob_tpmKeyToBlob (hcodecs : crates.RoundTrips) {key : TpmCredential}
    (hkey : IsPoint crates key) {publicKey : String}
    (h : sec1EncodePoint crates key.publicKeyX key.publicKeyY = some publicKey) :
    tpmKeyFromBlob crates (tpmKeyToBlob crates key) publicKey = some key := by
  rw [sec1EncodePoint, if_pos hkey.point] at h
  cases h
  have hpoint := hcodecs.point _ _ hkey.point hkey.lengthX hkey.lengthY
  simp [tpmKeyFromBlob, tpmKeyToBlob, hcodecs.keyBlob, hpoint]

theorem recoveryOfRow_recoverySlotOf (hcodecs : crates.RoundTrips)
    {recovery : Option StoredRecoverySlot} (hkey : ∀ r, recovery = some r → IsPoint crates r.key)
    {slot : Option KeyslotRow} (h : recoverySlotOf crates recovery = some slot) :
    recoveryOfRow crates slot = some recovery := by
  cases recovery with
  | none =>
    cases h
    rfl
  | some r =>
    obtain ⟨slot, hslot, rfl⟩ := Option.map_eq_some_iff.mp h
    obtain ⟨publicKey, hpoint, h₁⟩ := Option.bind_eq_some_iff.mp hslot
    obtain ⟨kdfParams, hkdf, h₂⟩ := Option.bind_eq_some_iff.mp h₁
    cases h₂
    have hread := tpmKeyFromBlob_tpmKeyToBlob hcodecs (hkey r rfl) hpoint
    obtain ⟨label, salt, hash, ⟨memoryKib, iterations, parallelism⟩, key⟩ := r
    have hphc := hcodecs.phc _ _ _ _ _ _ hkdf
    simp [recoveryOfRow, kdfParamsFromString, hphc, hread]

theorem policyOfColumns_policyColumns (policy : Option StoredPcrPolicy) (version : UInt32) :
    policyOfColumns (policyColumns policy) version =
      policy.map fun p ↦ { p with policyVersion := version } := by
  cases policy <;> rfl

theorem toU32_toNat (n : UInt32) : toU32 n.toNat = some n := by
  have hn := n.toNat_lt
  rw [toU32, if_pos (by omega)]
  simp

/-- **A row reads back as the credential it was written for**, but for the version. -/
theorem credentialOfRow_rowOfCredential (hcodecs : crates.RoundTrips) {c : Credential}
    (hc : Storable crates c) {mac : Option (List UInt8)} {row : CredentialRow}
    (h : rowOfCredential crates mac c = some row) {uid : Option UInt32}
    (howner : c.userId = none → uid = none) :
    credentialOfRow crates uid row = some ⟨withVersion c, mac⟩ := by
  obtain ⟨primary, hprimary, h₁⟩ := Option.bind_eq_some_iff.mp h
  obtain ⟨recovery, hrecovery, h₂⟩ := Option.bind_eq_some_iff.mp h₁
  cases h₂
  obtain ⟨publicKey, hpoint, h₃⟩ := Option.bind_eq_some_iff.mp hprimary
  cases h₃
  have hkey := tpmKeyFromBlob_tpmKeyToBlob hcodecs hc.key hpoint
  have hslot := recoveryOfRow_recoverySlotOf hcodecs hc.recoveryKey hrecovery
  have hversion : toU32 1 = some 1 := by decide
  have hown : ownerOfRow uid (c.userId.map fun uid ↦ (uid.toNat : Int)) = some c.userId := by
    cases hid : c.userId with
    | none => rw [howner hid]; rfl
    | some owner => simp [ownerOfRow, toU32_toNat]
  simp [credentialOfRow, hkey, hslot, hversion, hown, toU32_toNat, policyOfColumns_policyColumns,
    withVersion]

/-! ## Saving -/

/-- The encoders take what is storable. -/
theorem isSome_rowOfCredential {c : Credential} (hc : Storable crates c)
    (mac : Option (List UInt8)) : (rowOfCredential crates mac c).isSome := by
  obtain ⟨hkey, hrecoveryKey, hphc⟩ := hc
  have hpoint : ∀ key : TpmCredential, IsPoint crates key →
      ∃ s, sec1EncodePoint crates key.publicKeyX key.publicKeyY = some s := by
    intro key h
    exact ⟨_, by rw [sec1EncodePoint, if_pos h.point]⟩
  obtain ⟨primary, hprimary⟩ := hpoint _ hkey
  cases hrecovery : c.recovery with
  | none => simp [rowOfCredential, primarySlot, hprimary, recoverySlotOf, hrecovery]
  | some r =>
    obtain ⟨publicKey, hpublic⟩ := hpoint _ (hrecoveryKey r hrecovery)
    obtain ⟨kdfParams, hkdf⟩ := Option.isSome_iff_exists.mp (hphc r hrecovery)
    simp [rowOfCredential, primarySlot, hprimary, recoverySlotOf, hrecovery, recoverySlot, hpublic,
      hkdf]

/-- Inserting panics in an encoder only. -/
theorem insertCredential_safe {c : Credential}
    (hc : ∀ mac, (rowOfCredential crates mac c).isSome) (n : Nat) (s : Store) :
    Safe (insertCredential crates fault n c) s := by
  refine .bind (.attempt (loadOrGenerateHmacKey_safe n s)) fun mac s₁ _ ↦ ?_
  refine .bind (.get _) fun cur s₂ _ ↦ .bind (.throwIf _ _ _) fun _ s₃ _ ↦ ?_
  refine .bind (.expect (hc _) _) fun row s₄ _ ↦ ?_
  exact .bind (.ofOption _ _ _) fun table s₅ _ ↦ .modify _ _

theorem insertCredentials_safe {cs : List Credential}
    (hcs : ∀ c ∈ cs, ∀ mac, (rowOfCredential crates mac c).isSome) (n : Nat) (s : Store) :
    Safe (insertCredentials crates fault n cs) s := by
  induction cs generalizing n s with
  | nil => exact .pure _ _
  | cons c cs ih =>
    refine .bind (insertCredential_safe (hcs c List.mem_cons_self) n s) fun _ s₁ _ ↦ ?_
    exact ih (fun d hd ↦ hcs d (List.mem_cons_of_mem c hd)) (n + 1) s₁

theorem transaction_safe {m : StoreM Unit} {s : Store} (h : Safe m s) : Safe (transaction m) s := by
  rw [Safe] at h ⊢
  rw [transaction]
  split
  · exact Outcome.ok_ne_panicked _
  · exact Outcome.error_ne_panicked _
  · next e => exact absurd (by rw [e]) h

/-- **Saving does not panic** if the encoders take every credential. -/
theorem saveCtap2Credentials_safe {cs : List Credential}
    (hcs : ∀ c ∈ cs, ∀ mac, (rowOfCredential crates mac c).isSome) (s : Store) :
    Safe (saveCtap2Credentials crates fault cs) s := by
  refine .bind (.throwIf _ _ _) fun _ s₁ _ ↦ transaction_safe ?_
  refine .bind (.modify _ _) fun _ s₂ _ ↦ .bind (insertCredentials_safe hcs 0 s₂) fun _ s₃ _ ↦ ?_
  exact .throwIf _ _ _

/-- Inserting fails only on an ID that is taken. -/
theorem insertCredential_no_error {n : Nat} {c : Credential} {s : Store}
    (hnew : ∀ row ∈ s.credentials.rows, row.credentialId ≠ c.id) (e : StoreError) :
    (insertCredential crates fault n c s).1 ≠ .error e := by
  have hsafe : Safe (loadOrGenerateHmacKey fault n) s := loadOrGenerateHmacKey_safe n s
  obtain ⟨mac, hmac⟩ := hsafe.attempt_eq (ε := StoreError)
  have hmoves : Moves SameTables (loadOrGenerateHmacKey fault n) := loadOrGenerateHmacKey_moves n
  have hsame := (hmoves s).credentials
  generalize (loadOrGenerateHmacKey fault n s).2 = s₁ at hmac hsame
  have hfind : s₁.credentials.find c.id = none := by
    rw [hsame]
    exact (Table.find_eq_none_iff _ _).mpr hnew
  cases hrow : rowOfCredential crates
      (mac.toOption.map fun key ↦ computeCredentialMac crates key c) c with
  | none => simp [insertCredential, bind_def, hmac, hfind, throwIf, expect, hrow, Handler.panic]
  | some row =>
    have hid : row.credentialId = c.id := (show RowOf crates c row from ⟨_, hrow⟩).records.id
    obtain ⟨table, htable⟩ := Table.exists_insert (t := s₁.credentials) (r := row)
      (by rw [hsame, hid]; exact hnew)
    simp [insertCredential, bind_def, hmac, hfind, throwIf, expect, hrow, ofOption, htable]

theorem insertCredentials_no_error {cs : List Credential} {n : Nat} {s : Store}
    (hnodup : (cs.map Credential.id).Nodup)
    (hnew : ∀ c ∈ cs, ∀ row ∈ s.credentials.rows, row.credentialId ≠ c.id) (e : StoreError) :
    (insertCredentials crates fault n cs s).1 ≠ .error e := by
  induction cs generalizing n s with
  | nil => exact nofun
  | cons c cs ih =>
    rw [List.map_cons, List.nodup_cons] at hnodup
    have hfirst : ∀ e, (insertCredential crates fault n c s).1 ≠ .error e :=
      insertCredential_no_error (hnew c List.mem_cons_self)
    rw [insertCredentials, bind_def]
    cases h : insertCredential crates fault n c s with
    | mk o s₁ =>
      rw [h] at hfirst
      cases o with
      | error e' => exact absurd rfl (hfirst e')
      | panicked => exact nofun
      | ok _ =>
        obtain ⟨row, hrow, hrows⟩ := insertCredential_ok h
        refine ih hnodup.2 fun d hd row' hrow' ↦ ?_
        rw [hrows, List.mem_append, List.mem_singleton] at hrow'
        rcases hrow' with hrow' | rfl
        · exact hnew d (List.mem_cons_of_mem c hd) row' hrow'
        · rw [hrow.rowOf.records.id]
          exact fun hid ↦ hnodup.1 (List.mem_map.mpr ⟨d, hd, hid.symm⟩)

/-- **Saving does not fail** if the database works and the IDs are different. -/
theorem saveCtap2Credentials_no_error (hfault : ¬ (fault.io ∨ fault.statement))
    {cs : List Credential} (hnodup : (cs.map Credential.id).Nodup) (s : Store) (e : StoreError) :
    (saveCtap2Credentials crates fault cs s).1 ≠ .error e := by
  rw [not_or] at hfault
  have hinserts : ∀ e,
      (insertCredentials crates fault 0 cs { s with credentials := .empty _ }).1 ≠ .error e :=
    insertCredentials_no_error hnodup fun _ _ _ h ↦ nomatch h
  cases h : insertCredentials crates fault 0 cs { s with credentials := .empty _ } with
  | mk o s₁ =>
    rw [h] at hinserts
    cases o with
    | error e' => exact absurd rfl (hinserts e')
    | ok _ => simp [saveCtap2Credentials, bind_def, throwIf, hfault.1, hfault.2, transaction, h]
    | panicked => simp [saveCtap2Credentials, bind_def, throwIf, hfault.1, transaction, h]

theorem saveCtap2Credentials_succeeds (hfault : ¬ (fault.io ∨ fault.statement))
    {cs : List Credential} (hcs : ∀ c ∈ cs, ∀ mac, (rowOfCredential crates mac c).isSome)
    (hnodup : (cs.map Credential.id).Nodup) (s : Store) :
    (saveCtap2Credentials crates fault cs s).1 = .ok () := by
  have hsafe : Safe (saveCtap2Credentials crates fault cs) s := saveCtap2Credentials_safe hcs s
  cases h : (saveCtap2Credentials crates fault cs s).1 with
  | ok _ => rfl
  | error e => exact absurd h (saveCtap2Credentials_no_error hfault hnodup s e)
  | panicked => exact absurd h hsafe

/-! ## Loading -/

/-- The code of a sealed row is right, or cannot be checked. -/
theorem verifyIntegrity_sealed {n : Nat} {s : Store} {stored : StoredCtap2Credential}
    (h : ∀ m, stored.integrityMac = some m → ∃ key, s.hmacKey = some key ∧
      m = computeCredentialMac crates key stored.toCredential) :
    verifyIntegrity crates fault n stored s = (.ok (), s) := by
  rw [verifyIntegrity]
  cases hmac : stored.integrityMac with
  | none => rfl
  | some m =>
    obtain ⟨key, hkey, rfl⟩ := h m hmac
    by_cases hfault : fault.key n
    · simp [bind_def, attempt, zoom, loadOrGenerateHmacKey, hfault]
    · by_cases hlength : key.length = 32
      · simp [bind_def, attempt, zoom, loadOrGenerateHmacKey, hfault, hkey, hlength, throwIf]
      · simp [bind_def, attempt, zoom, loadOrGenerateHmacKey, hfault, hkey, hlength]

/-- Loading succeeds if every row can be read and is sealed. -/
theorem loadRows_succeeds {uid : Option UInt32} {rows : List CredentialRow} {n : Nat} {s : Store}
    (h : ∀ row ∈ rows, ∃ stored, credentialOfRow crates uid row = some stored ∧
      ∀ m, stored.integrityMac = some m → ∃ key, s.hmacKey = some key ∧
        m = computeCredentialMac crates key stored.toCredential) :
    loadRows crates fault uid n rows s = (.ok (rows.filterMap (credentialOfRow crates uid)),
      s) := by
  induction rows generalizing n with
  | nil => rfl
  | cons row rows ih =>
    obtain ⟨stored, hread, hsealed⟩ := h row List.mem_cons_self
    have hrest := ih (n := n + 1) fun r hr ↦ h r (List.mem_cons_of_mem row hr)
    have hverify : verifyIntegrity crates fault n stored s = (.ok (), s) :=
      verifyIntegrity_sealed hsealed
    simp [loadRows, bind_def, ofOption, hread, hverify, hrest]

/-! ## The order -/

instance : Std.Total rowLe where
  total a b := by
    by_cases h : utf8 a.rpId = utf8 b.rpId
    · exact (lexLe_total a.credentialId b.credentialId).imp (fun h' ↦ .inr ⟨h, h'⟩)
        fun h' ↦ .inr ⟨h.symm, h'⟩
    · exact (lexLe_total (utf8 a.rpId) (utf8 b.rpId)).imp (fun h' ↦ .inl ⟨h, h'⟩)
        fun h' ↦ .inl ⟨Ne.symm h, h'⟩

instance : IsTrans CredentialRow rowLe where
  trans a b c hab hbc := by
    rcases hab with ⟨hne, hab⟩ | ⟨heq, hab⟩
    · rcases hbc with ⟨-, hbc⟩ | ⟨heq, -⟩
      · refine .inl ⟨fun hac ↦ hne ?_, lexLe_trans hab hbc⟩
        rw [← hac] at hbc
        exact lexLe_antisymm hab hbc
      · rw [heq] at hne hab
        exact .inl ⟨hne, hab⟩
    · rcases hbc with ⟨hne, hbc⟩ | ⟨heq', hbc⟩
      · rw [← heq] at hne hbc
        exact .inl ⟨hne, hbc⟩
      · exact .inr ⟨heq.trans heq', lexLe_trans hab hbc⟩

/-- The rows of the query are in its order, and so are the credentials they describe. -/
theorem pairwise_selectCredentials (uid : Option UInt32) (s : Store) :
    (((selectCredentials uid s).filterMap (credentialOfRow crates uid)).map
      (·.toCredential)).Pairwise credentialLe := by
  rw [List.pairwise_map, List.pairwise_filterMap]
  refine (List.pairwise_insertionSort rowLe _).imp fun {row row'} hle x hx y hy ↦ ?_
  have hx := describes_of_credentialOfRow hx
  have hy := describes_of_credentialOfRow hy
  rw [credentialLe, hx.rpId, hx.id, hy.rpId, hy.id]
  exact hle

/-! ## Saving and loading -/

theorem visibleTo_none (row : CredentialRow) : visibleTo none row = true := by
  rw [visibleTo]

theorem primary_of_rowOf {c : Credential} {row : CredentialRow} (h : RowOf crates c row) :
    row.primary.isSome := by
  have hpolicy := h.records.policy
  cases hprimary : row.primary with
  | none => simp [hprimary] at hpolicy
  | some _ => rfl

/-- A sealed row reads back, with a code that is right. -/
theorem credentialOfRow_sealed (hcodecs : crates.RoundTrips) {s : Store} {c : Credential}
    (hc : Storable crates c) {row : CredentialRow} (hrow : SealedRow crates s c row) :
    ∃ mac, credentialOfRow crates none row = some ⟨withVersion c, mac⟩ ∧
      ∀ m, mac = some m → ∃ key, s.hmacKey = some key ∧
        m = computeCredentialMac crates key (withVersion c) := by
  obtain ⟨mac, hrow, hsealed⟩ := hrow
  exact ⟨mac, credentialOfRow_rowOfCredential hcodecs hc hrow fun _ ↦ rfl, hsealed⟩

/-- The query without a user selects all rows that were written by saving. -/
theorem selectCredentials_perm (crates : Crates) {s : Store}
    (hrows : ∀ row ∈ s.credentials.rows, ∃ c, RowOf crates c row) :
    (selectCredentials none s).Perm s.credentials.rows := by
  have hall : s.credentials.rows.filter (fun row ↦ visibleTo none row && row.primary.isSome) =
      s.credentials.rows := by
    rw [List.filter_eq_self]
    intro row hrow
    obtain ⟨c, hc⟩ := hrows row hrow
    rw [visibleTo_none, primary_of_rowOf hc]
    rfl
  rw [selectCredentials, hall]
  exact List.perm_insertionSort _ _

/-- **Loading a table of sealed rows** succeeds, and returns what the rows say. -/
theorem loadCtap2Credentials_sealed (hcodecs : crates.RoundTrips) {load : StoreFault}
    (hload : ¬ load.io) {s : Store} (hrows : ∀ row ∈ s.credentials.rows,
      ∃ c, Storable crates c ∧ SealedRow crates s c row) :
    loadCtap2Credentials crates load none s =
      (.ok ((selectCredentials none s).filterMap (credentialOfRow crates none)), s) := by
  have hloads : loadRows crates load none 0 (selectCredentials none s) s =
      (.ok ((selectCredentials none s).filterMap (credentialOfRow crates none)), s) := by
    refine loadRows_succeeds fun row hrow ↦ ?_
    obtain ⟨c, hc, hsealed⟩ := hrows row (mem_selectCredentials.mp hrow).1
    obtain ⟨mac, hstored, hmac⟩ := credentialOfRow_sealed hcodecs hc hsealed
    exact ⟨_, hstored, hmac⟩
  simp [loadCtap2Credentials, bind_def, throwIf, hload, hloads]

/-- **What is loaded after saving**: the credentials that were saved, with version 1. -/
theorem loadCtap2Credentials_saved (hcodecs : crates.RoundTrips) {save load : StoreFault}
    (hload : ¬ load.io) {cs : List Credential} (hcs : ∀ c ∈ cs, Storable crates c) {s : Store}
    (hsaved : (saveCtap2Credentials crates save cs s).1 = .ok ()) :
    ∃ loaded, (loadCtap2Credentials crates load none
        (saveCtap2Credentials crates save cs s).2).1 = .ok loaded ∧
      (loaded.map (·.toCredential)).Perm (cs.map withVersion) ∧
      (loaded.map (·.toCredential)).Pairwise credentialLe := by
  have hrows := sealedRows_of_saved hsaved
  generalize (saveCtap2Credentials crates save cs s).2 = s' at hrows
  have hsealed : ∀ row ∈ s'.credentials.rows, ∃ c, Storable crates c ∧
      SealedRow crates s' c row := by
    intro row hrow
    obtain ⟨c, hc, h⟩ := hrows.exists_left hrow
    exact ⟨c, hcs c hc, h⟩
  have hselect : (selectCredentials none s').Perm s'.credentials.rows := by
    refine selectCredentials_perm crates fun row hrow ↦ ?_
    obtain ⟨c, -, h⟩ := hsealed row hrow
    exact ⟨c, h.rowOf⟩
  refine ⟨(selectCredentials none s').filterMap (credentialOfRow crates none), ?_, ?_,
    pairwise_selectCredentials none s'⟩
  · rw [loadCtap2Credentials_sealed hcodecs hload hsealed]
  · refine ((hselect.filterMap _).map _).trans (List.Perm.of_eq ?_)
    rw [List.map_filterMap]
    refine hrows.filterMap_eq fun c hc row h ↦ ?_
    obtain ⟨mac, hstored, -⟩ := credentialOfRow_sealed hcodecs (hcs c hc) h
    rw [hstored]
    rfl

/-- **Saving and loading gives the list back** if and only if its policies have version 1. -/
theorem roundTrip_iff_version (crates : Crates) (hcodecs : crates.RoundTrips)
    (save load : StoreFault) (hsave : ¬ (save.io ∨ save.statement)) (hload : ¬ load.io) (s : Store)
    (cs : List StoredCtap2Credential) (hids : (cs.map (·.id)).Nodup)
    (hcs : ∀ c ∈ cs, Storable crates c.toCredential) :
    RoundTrip crates save load s cs ↔
      ∀ c ∈ cs, ∀ p, c.policy = some p → p.policyVersion = 1 := by
  have hstorable : ∀ c ∈ cs.map (·.toCredential), Storable crates c := by
    simpa using hcs
  have hsaved : (saveCtap2Credentials crates save (cs.map (·.toCredential)) s).1 = .ok () := by
    refine saveCtap2Credentials_succeeds hsave
      (fun c hc ↦ isSome_rowOfCredential (hstorable c hc)) ?_ s
    rw [List.map_map]
    exact hids
  obtain ⟨loaded, hloaded, hperm, hsorted⟩ :=
    loadCtap2Credentials_saved hcodecs hload hstorable hsaved
  constructor
  · rintro ⟨-, loaded', hloaded', hperm', -⟩ c hc p hp
    cases hloaded.symm.trans hloaded'
    -- the credential is one of those that were loaded, and these have version 1
    have hmem : c.toCredential ∈ (cs.map (·.toCredential)).map withVersion :=
      (hperm'.symm.trans hperm).mem_iff.mp (List.mem_map_of_mem hc)
    obtain ⟨d, -, hd⟩ := List.mem_map.mp hmem
    rw [← hd] at hp
    obtain ⟨q, -, rfl⟩ := Option.map_eq_some_iff.mp hp
    rfl
  · intro hversions
    refine ⟨hsaved, loaded, hloaded, hperm.trans (List.Perm.of_eq ?_), hsorted⟩
    rw [List.map_map]
    exact List.map_congr_left fun c hc ↦ withVersion_eq_self (hversions c hc)

namespace Sample

open Ctap2.Sample

/-- A key with everything that a key can have. -/
def key : TpmCredential := ⟨[1], [2], List.replicate 32 3, List.replicate 32 4, some [5]⟩

/-- A credential with everything that a credential can have. -/
def credential (id : UInt8) (rpId : String) (policyVersion : UInt32) : StoredCtap2Credential where
  id := [id]
  rpId := rpId
  discoverable := true
  userId := some 1000
  userHandle := [6]
  userName := some "name"
  userDisplayName := none
  key := key
  policy := some ⟨⟨"7", [7], some [8], none, some [9]⟩, policyVersion⟩
  recovery := some ⟨some "label", [10], [11], .argon2id 1 2 3, key⟩
  signCount := 12
  integrityMac := none

theorem storable_credential (id : UInt8) (rpId : String) (policyVersion : UInt32) :
    Storable (packages []) (credential id rpId policyVersion).toCredential where
  key := ⟨rfl, rfl, rfl⟩
  recoveryKey r h := by
    cases h
    exact ⟨rfl, rfl, rfl⟩
  phc r h := by
    cases h
    rfl

end Sample

open Sample Ctap2.Sample in
/-- Three credentials of version 1 are given back. -/
theorem roundTrip_iff_version_three :
    RoundTrip (packages []) noFault noFault .fresh
      [credential 2 "b" 1, credential 1 "b" 1, credential 3 "a" 1] := by
  refine (roundTrip_iff_version _ (packages_roundTrips []) _ _ (by decide) (by decide) _ _
    (by decide) fun c hc ↦ ?_).mpr (by decide)
  simp only [List.mem_cons, List.not_mem_nil, or_false] at hc
  rcases hc with rfl | rfl | rfl <;> exact storable_credential _ _ _

open Sample Ctap2.Sample in
/-- A policy of version 2 comes back with version 1. -/
theorem version_lost :
    (loadCtap2Credentials (packages []) noFault none
      (saveCtap2Credentials (packages []) noFault [(credential 1 "a" 2).toCredential]
        .fresh).2).1.toOption.map
        (fun loaded ↦ loaded.map fun c ↦ c.policy.map (·.policyVersion)) = some [some 1] ∧
      ¬ RoundTrip (packages []) noFault noFault .fresh [credential 1 "a" 2] := by
  have hloaded : (loadCtap2Credentials (packages []) noFault none
      (saveCtap2Credentials (packages []) noFault [(credential 1 "a" 2).toCredential]
        .fresh).2).1.toOption.map
        (fun loaded ↦ loaded.map fun c ↦ c.policy.map (·.policyVersion)) = some [some 1] := by
    decide +kernel
  refine ⟨hloaded, ?_⟩
  rintro ⟨-, loaded, hok, hperm, -⟩
  rw [show [credential 1 "a" 2].map (·.toCredential) = [(credential 1 "a" 2).toCredential] from rfl]
    at hok hperm
  rw [hok] at hloaded
  have hversions := hperm.map fun c ↦ c.policy.map (·.policyVersion)
  rw [List.map_map] at hversions
  have heq : loaded.map (fun c ↦ c.policy.map (·.policyVersion)) = [some 1] :=
    Option.some.inj hloaded
  have hcontra := List.perm_singleton.mp (heq ▸ hversions)
  exact absurd hcontra (by decide)

end Store
end TpmFido2
