import TpmFido2.Store.RoundTrip

/-!
# What the integrity code of a credential detects

Every row has a code over the metadata of its credential, made with a key that is not in the
database.  Loading recomputes it, and if it does not match, computes it again in the format of an
earlier version, which had no byte for whether the credential is discoverable.

Both formats are a row of fields with their lengths in front (`macMessage`, `legacyMacMessage`), so
neither has two readings (`lengthPrefixed_inj`).  But the byte that the new one has more stands
where the old one has the length of the user handle.  It pushes the fields after it one byte to the
right, and what is left can be the message of another record in the old format: `legacyReading`
tries to read it so.  As the two records are never the same (`legacy_differs`), the code detects
every change exactly if there is no such reading; this is **`detectsChanges_iff`**.

`changed_row_accepted` is a row with a reading.  All it takes is a user handle that ends in the
length of what follows it.
-/

set_option autoImplicit false

namespace TpmFido2
namespace Store

open Bytes Handler

/-! ## The two messages -/

/-- What follows the RP ID in the message of `compute_credential_mac`. -/
def macTail (c : Credential) : List UInt8 :=
  (if c.discoverable then 1 else 0) :: (lengthPrefixed c.userHandle ++
    (beBytes 4 (c.userId.getD 0).toNat ++ (lengthPrefixed (utf8 (c.userName.getD "")) ++
      lengthPrefixed (utf8 (c.userDisplayName.getD "")))))

/-- What follows the RP ID in the message of `compute_credential_mac_legacy`. -/
def legacyMacTail (c : Credential) : List UInt8 :=
  lengthPrefixed c.userHandle ++ (beBytes 4 (c.userId.getD 0).toNat ++
    (lengthPrefixed (utf8 (c.userName.getD "")) ++
      lengthPrefixed (utf8 (c.userDisplayName.getD ""))))

/-- The message of `compute_credential_mac`. -/
def macMessage (c : Credential) : List UInt8 :=
  lengthPrefixed c.id ++ (lengthPrefixed (utf8 c.rpId) ++ macTail c)

/-- The message of `compute_credential_mac_legacy`. -/
def legacyMacMessage (c : Credential) : List UInt8 :=
  lengthPrefixed c.id ++ (lengthPrefixed (utf8 c.rpId) ++ legacyMacTail c)

theorem computeCredentialMac_eq (crates : Crates) (key : List UInt8) (c : Credential) :
    computeCredentialMac crates key c = crates.hmacSha256 key (macMessage c) := by
  simp [computeCredentialMac, macMessage, macTail]

theorem computeCredentialMacLegacy_eq (crates : Crates) (key : List UInt8) (c : Credential) :
    computeCredentialMacLegacy crates key c = crates.hmacSha256 key (legacyMacMessage c) := by
  simp only [computeCredentialMacLegacy, legacyMacMessage, legacyMacTail, List.append_assoc]

/-- The fields have lengths that fit into 64 bits, as the lengths of a program do. -/
structure Fits (c : Credential) : Prop where
  id : c.id.length < 256 ^ 8
  rpId : (utf8 c.rpId).length < 256 ^ 8
  userHandle : c.userHandle.length < 256 ^ 8
  userName : (utf8 (c.userName.getD "")).length < 256 ^ 8
  userDisplayName : (utf8 (c.userDisplayName.getD "")).length < 256 ^ 8

/-! ## The property -/

/-- The metadata that the code is about. -/
structure SameMetadata (c c₀ : Credential) : Prop where
  id : c.id = c₀.id
  rpId : c.rpId = c₀.rpId
  discoverable : c.discoverable = c₀.discoverable
  userHandle : c.userHandle = c₀.userHandle
  userId : c.userId.getD 0 = c₀.userId.getD 0
  userName : c.userName.getD "" = c₀.userName.getD ""
  userDisplayName : c.userDisplayName.getD "" = c₀.userDisplayName.getD ""

section
variable (crates : Crates)

/-- The credential was saved, with a code, as the row. -/
structure SavedAs (key : List UInt8) (c₀ : Credential) (row₀ : CredentialRow) : Prop where
  saved : ∃ fault cs s, (saveCtap2Credentials crates fault cs s).1 = .ok () ∧ c₀ ∈ cs ∧
    row₀ ∈ (saveCtap2Credentials crates fault cs s).2.credentials.rows ∧
    row₀.credentialId = c₀.id ∧ (saveCtap2Credentials crates fault cs s).2.hmacKey = some key
  code : row₀.integrityMac ≠ none
  key : key.length = 32

/-- Loading, with the key, accepts the row as a credential. -/
def Accepts (key : List UInt8) (userId : Option UInt32) (row : CredentialRow)
    (stored : StoredCtap2Credential) : Prop :=
  ∃ fault n s s', s.hmacKey = some key ∧ fault.key n = false ∧
    loadRows crates fault userId n [row] s = (.ok [stored], s')

/-- **Changes are detected.**  Whatever is loaded from a row with this code is the credential that
was saved, as far as its metadata goes. -/
def DetectsChanges (key : List UInt8) (c₀ : Credential) (row₀ : CredentialRow) : Prop :=
  ∀ row userId stored, row.integrityMac = row₀.integrityMac → Accepts crates key userId row stored →
    Fits stored.toCredential → SameMetadata stored.toCredential c₀

/-- The code of a message is the code of no other message of a record. -/
def CodeApart (key : List UInt8) (c₀ : Credential) : Prop :=
  ∀ c, (crates.hmacSha256 key (macMessage c) = crates.hmacSha256 key (macMessage c₀) →
      macMessage c = macMessage c₀) ∧
    (crates.hmacSha256 key (legacyMacMessage c) = crates.hmacSha256 key (macMessage c₀) →
      legacyMacMessage c = macMessage c₀)

end

/-- The user handle, the user ID and the names that the message of a record has if it is read in
the old format, if it can be. -/
def legacyReading (c : Credential) : Option (List UInt8 × UInt32 × String × String) := do
  let (userHandle, rest) ← readPrefixed 8 (macTail c)
  guard (4 ≤ rest.length)
  let (userName, rest') ← readPrefixed 8 (rest.drop 4)
  let (userDisplayName, rest'') ← readPrefixed 8 rest'
  guard (rest'' = [])
  let userName ← ofUtf8? userName
  let userDisplayName ← ofUtf8? userDisplayName
  return (userHandle, UInt32.ofNat (ofBeBytes (rest.take 4)), userName, userDisplayName)

/-! ## Messages have one reading -/

theorem readPrefixed_lengthPrefixed {a : List UInt8} (ha : a.length < 256 ^ 8) (x : List UInt8) :
    readPrefixed 8 (lengthPrefixed a ++ x) = some (a, x) :=
  readPrefixed_eq_some.mpr ⟨rfl, ha⟩

theorem lengthPrefixed_inj {a b x y : List UInt8} (ha : a.length < 256 ^ 8)
    (hb : b.length < 256 ^ 8) (h : lengthPrefixed a ++ x = lengthPrefixed b ++ y) :
    a = b ∧ x = y := by
  have hread := readPrefixed_lengthPrefixed ha x
  rw [h, readPrefixed_lengthPrefixed hb y] at hread
  cases hread
  exact ⟨rfl, rfl⟩

theorem userId_inj {u v : UInt32} {x y : List UInt8}
    (h : beBytes 4 u.toNat ++ x = beBytes 4 v.toNat ++ y) : u = v ∧ x = y := by
  obtain ⟨hbytes, hrest⟩ := List.append_inj h (by simp)
  have hnumber := congrArg ofBeBytes hbytes
  have hu : u.toNat < 256 ^ 4 := u.toNat_lt
  have hv : v.toNat < 256 ^ 4 := v.toNat_lt
  rw [ofBeBytes_beBytes_of_lt hu, ofBeBytes_beBytes_of_lt hv] at hnumber
  exact ⟨UInt32.toNat_inj.mp hnumber, hrest⟩

/-- **Records with the same message** in the new format are the same. -/
theorem sameMetadata_of_macMessage {c c₀ : Credential} (hc : Fits c) (hc₀ : Fits c₀)
    (h : macMessage c = macMessage c₀) : SameMetadata c c₀ := by
  obtain ⟨hid, h₁⟩ := lengthPrefixed_inj hc.id hc₀.id h
  obtain ⟨hrp, h₂⟩ := lengthPrefixed_inj hc.rpId hc₀.rpId h₁
  obtain ⟨hflag, h₃⟩ := List.cons.inj h₂
  obtain ⟨hhandle, h₄⟩ := lengthPrefixed_inj hc.userHandle hc₀.userHandle h₃
  obtain ⟨huser, h₅⟩ := userId_inj h₄
  obtain ⟨hname, h₆⟩ := lengthPrefixed_inj hc.userName hc₀.userName h₅
  rw [← List.append_nil (lengthPrefixed (utf8 (c.userDisplayName.getD ""))),
    ← List.append_nil (lengthPrefixed (utf8 (c₀.userDisplayName.getD "")))] at h₆
  obtain ⟨hdisplay, -⟩ := lengthPrefixed_inj hc.userDisplayName hc₀.userDisplayName h₆
  refine ⟨hid, utf8_injective hrp, ?_, hhandle, huser, utf8_injective hname,
    utf8_injective hdisplay⟩
  revert hflag
  cases c.discoverable <;> cases c₀.discoverable <;> decide

/-- A record with a message of the old format is not the record with that message in the new one:
the new message is longer. -/
theorem legacy_differs {c c₀ : Credential} (h : legacyMacMessage c = macMessage c₀) :
    ¬ SameMetadata c c₀ := by
  intro hsame
  have hlength := congrArg List.length h
  simp only [legacyMacMessage, legacyMacTail, macMessage, macTail, hsame.id, hsame.rpId,
    hsame.userHandle, hsame.userId, hsame.userName, hsame.userDisplayName, List.length_append,
    List.length_cons] at hlength
  omega

/-! ## Reading one message in the other format -/

/-- **What can be read in the old format** was written so. -/
theorem tail_of_legacyReading {c : Credential} {userHandle : List UInt8} {userId : UInt32}
    {userName userDisplayName : String}
    (h : legacyReading c = some (userHandle, userId, userName, userDisplayName)) :
    macTail c = lengthPrefixed userHandle ++ (beBytes 4 userId.toNat ++
        (lengthPrefixed (utf8 userName) ++ lengthPrefixed (utf8 userDisplayName))) ∧
      userHandle.length < 256 ^ 8 ∧ (utf8 userName).length < 256 ^ 8 ∧
      (utf8 userDisplayName).length < 256 ^ 8 := by
  obtain ⟨⟨handle, rest⟩, hhandle, h₁⟩ := Option.bind_eq_some_iff.mp h
  obtain ⟨_, hlength, h₂⟩ := Option.bind_eq_some_iff.mp h₁
  obtain ⟨⟨name, rest'⟩, hname, h₃⟩ := Option.bind_eq_some_iff.mp h₂
  obtain ⟨⟨display, rest''⟩, hdisplay, h₄⟩ := Option.bind_eq_some_iff.mp h₃
  obtain ⟨_, hend, h₅⟩ := Option.bind_eq_some_iff.mp h₄
  obtain ⟨name', hname', h₆⟩ := Option.bind_eq_some_iff.mp h₅
  obtain ⟨display', hdisplay', h₇⟩ := Option.bind_eq_some_iff.mp h₆
  cases h₇
  have hlength' : 4 ≤ rest.length := by
    by_contra hshort
    simp [guard, hshort] at hlength
  have hend' : rest'' = [] := by
    by_contra hmore
    simp [guard, hmore] at hend
  obtain rfl := ofUtf8?_eq_some.mp hname'
  obtain rfl := ofUtf8?_eq_some.mp hdisplay'
  subst hend'
  have htake : (rest.take 4).length = 4 := by
    rw [List.length_take]
    omega
  have hlt : ofBeBytes (rest.take 4) < 2 ^ 32 :=
    (ofBeBytes_lt _).trans_eq (by rw [htake]; norm_num)
  have hafter : rest.drop 4 = lengthPrefixed (utf8 userName) ++ rest' :=
    (readPrefixed_eq_some.mp hname).1
  have hlast : rest' = lengthPrefixed (utf8 userDisplayName) ++ [] :=
    (readPrefixed_eq_some.mp hdisplay).1
  refine ⟨?_, (readPrefixed_eq_some.mp hhandle).2, (readPrefixed_eq_some.mp hname).2,
    (readPrefixed_eq_some.mp hdisplay).2⟩
  calc macTail c = lengthPrefixed userHandle ++ rest := (readPrefixed_eq_some.mp hhandle).1
    _ = lengthPrefixed userHandle ++ (rest.take 4 ++ rest.drop 4) := by rw [List.take_append_drop]
    _ = _ := by
      rw [hafter, hlast, List.append_nil, UInt32.toNat_ofNat_of_lt' hlt, beBytes_ofBeBytes htake]

/-- A message that is one of the old format can be read so. -/
theorem isSome_legacyReading {c r : Credential} (hr : Fits r) (h : macTail c = legacyMacTail r) :
    (legacyReading c).isSome := by
  have hend : readPrefixed 8 (lengthPrefixed (utf8 (r.userDisplayName.getD ""))) =
      some (utf8 (r.userDisplayName.getD ""), []) := by
    have hread := readPrefixed_lengthPrefixed hr.userDisplayName []
    rwa [List.append_nil] at hread
  have hname : ofUtf8? (utf8 (r.userName.getD "")) = some (r.userName.getD "") :=
    ofUtf8?_eq_some.mpr rfl
  have hdisplay : ofUtf8? (utf8 (r.userDisplayName.getD "")) = some (r.userDisplayName.getD "") :=
    ofUtf8?_eq_some.mpr rfl
  simp [legacyReading, h, legacyMacTail, readPrefixed_lengthPrefixed hr.userHandle,
    readPrefixed_lengthPrefixed hr.userName, hend, hname, hdisplay, List.drop_left']

/-! ## Saving and loading -/

section
variable {crates : Crates} {key : List UInt8} {c₀ : Credential} {row₀ : CredentialRow}

/-- The credential has one of the two codes, or none. -/
def Coded (crates : Crates) (key : List UInt8) (stored : StoredCtap2Credential) : Prop :=
  ∀ m, stored.integrityMac = some m →
    crates.hmacSha256 key (macMessage stored.toCredential) = m ∨
      crates.hmacSha256 key (legacyMacMessage stored.toCredential) = m

/-- The check, when there is something to check and the key to do it. -/
theorem verifyIntegrity_of_key {fault : StoreFault} {s : Store} (hs : s.hmacKey = some key)
    (hkey : key.length = 32) {n : Nat} (hfault : fault.key n = false)
    {stored : StoredCtap2Credential} {m : List UInt8} (hm : stored.integrityMac = some m) :
    verifyIntegrity crates fault n stored s =
      throwIf (computeCredentialMac crates key stored.toCredential ≠ m ∧
        computeCredentialMacLegacy crates key stored.toCredential ≠ m)
          (.integrity stored.rpId) s := by
  have hload : loadOrGenerateHmacKey fault n s = (.ok key, s) := by
    simp [loadOrGenerateHmacKey, hs, hfault, hkey]
  have hattempt : (attempt (loadOrGenerateHmacKey fault n) :
      StoreM (Except StoreError (List UInt8))) s = (.ok (.ok key), s) := by
    simp only [attempt, zoom, id]
    rw [hload]
  rw [verifyIntegrity, hm]
  exact bind_of_ok _ hattempt

theorem verifyIntegrity_ok_iff {fault : StoreFault} {s s' : Store} (hs : s.hmacKey = some key)
    (hkey : key.length = 32) {n : Nat} (hfault : fault.key n = false)
    {stored : StoredCtap2Credential} {u : Unit} :
    verifyIntegrity crates fault n stored s = (.ok u, s') ↔ s' = s ∧ Coded crates key stored := by
  cases hm : stored.integrityMac with
  | none =>
    have hcoded : Coded crates key stored := by
      intro m hsome
      cases hm.symm.trans hsome
    rw [verifyIntegrity, hm]
    constructor
    · rintro ⟨⟩
      exact ⟨rfl, hcoded⟩
    · rintro ⟨rfl, -⟩
      rfl
  | some m =>
    have hcoded : Coded crates key stored ↔
        ¬ (computeCredentialMac crates key stored.toCredential ≠ m ∧
          computeCredentialMacLegacy crates key stored.toCredential ≠ m) := by
      rw [Coded, hm, computeCredentialMac_eq, computeCredentialMacLegacy_eq, ← not_or, not_not]
      exact ⟨fun h ↦ h m rfl, by rintro h _ ⟨⟩; exact h⟩
    rw [verifyIntegrity_of_key hs hkey hfault hm, hcoded]
    constructor
    · intro h
      obtain ⟨hnot, rfl⟩ := throwIf_ok h
      exact ⟨rfl, hnot⟩
    · rintro ⟨rfl, hnot⟩
      exact throwIf_of_not hnot _

/-- **What loading accepts**, with the key: rows that can be read and have one of the codes. -/
theorem loadRows_ok_iff {fault : StoreFault} {s s' : Store} (hs : s.hmacKey = some key)
    (hkey : key.length = 32) {n : Nat} (hfault : ∀ i, n ≤ i → fault.key i = false)
    {userId : Option UInt32} {rows : List CredentialRow} {cs : List StoredCtap2Credential} :
    loadRows crates fault userId n rows s = (.ok cs, s') ↔ s' = s ∧
      List.Forall₂ (fun row c ↦ credentialOfRow crates userId row = some c ∧ Coded crates key c)
        rows cs := by
  constructor
  · intro h
    induction rows generalizing n cs with
    | nil =>
      cases h
      exact ⟨rfl, .nil⟩
    | cons row rows ih =>
      obtain ⟨stored, s₁, h₁, hafter⟩ := bind_ok h
      obtain ⟨hread, rfl⟩ := ofOption_ok h₁
      obtain ⟨_, s₂, h₂, hrows⟩ := bind_ok hafter
      obtain ⟨rfl, hcoded⟩ := (verifyIntegrity_ok_iff hs hkey (hfault n le_rfl)).mp h₂
      obtain ⟨rest, s₃, h₃, hend⟩ := bind_ok hrows
      cases hend
      obtain ⟨rfl, hrest⟩ := ih (fun i hi ↦ hfault i (Nat.le_of_succ_le hi)) h₃
      exact ⟨rfl, .cons ⟨hread, hcoded⟩ hrest⟩
  · rintro ⟨rfl, h⟩
    induction h generalizing n with
    | nil => rfl
    | @cons row stored rows cs hstored _ ih =>
      have hrest := ih fun i hi ↦ hfault i (Nat.le_of_succ_le hi)
      have hverify : verifyIntegrity crates fault n stored s' = (.ok (), s') :=
        (verifyIntegrity_ok_iff hs hkey (hfault n le_rfl)).mpr ⟨rfl, hstored.2⟩
      simp [loadRows, bind_def, ofOption, hstored.1, hverify, hrest]

/-- A row that is accepted has one of the two codes. -/
theorem accepts_iff (hkey : key.length = 32) {userId : Option UInt32} {row : CredentialRow}
    {stored : StoredCtap2Credential} :
    Accepts crates key userId row stored ↔
      credentialOfRow crates userId row = some stored ∧ Coded crates key stored := by
  constructor
  · rintro ⟨fault, n, s, s', hs, hfault, hloaded⟩
    obtain ⟨stored', s₁, h₁, h⟩ := bind_ok hloaded
    obtain ⟨hread, rfl⟩ := ofOption_ok h₁
    obtain ⟨_, s₂, h₂, h⟩ := bind_ok h
    obtain ⟨rest, s₃, h₃, h⟩ := bind_ok h
    cases h₃
    cases h
    exact ⟨hread, ((verifyIntegrity_ok_iff hs hkey hfault).mp h₂).2⟩
  · intro h
    have hload : loadRows crates ⟨false, false, fun _ ↦ false, fun _ ↦ 0⟩ userId 0 [row]
        { Store.fresh with hmacKey := some key } = (.ok [stored], _) :=
      (loadRows_ok_iff rfl hkey fun _ _ ↦ rfl).mpr ⟨rfl, .cons h .nil⟩
    exact ⟨_, 0, _, _, rfl, rfl, hload⟩

/-- **What was saved** has the code of its metadata. -/
theorem SavedAs.row (h : SavedAs crates key c₀ row₀) :
    rowOfCredential crates (some (crates.hmacSha256 key (macMessage c₀))) c₀ = some row₀ := by
  obtain ⟨fault, cs, s, hok, hmem, hrow, hid, hkey⟩ := h.saved
  obtain ⟨row, hrow', mac, hmac, hcode⟩ := (sealedRows_of_saved hok).exists_right hmem
  have hid' := (SealedRow.rowOf ⟨mac, hmac, hcode⟩).records.id
  obtain rfl := Table.eq_of_key_eq _ hrow hrow' (hid.trans hid'.symm)
  cases mac with
  | none => exact absurd (columns_of_rowOfCredential hmac).2.1 h.code
  | some m =>
    obtain ⟨key', hkey', rfl⟩ := hcode m rfl
    cases hkey.symm.trans hkey'
    rwa [computeCredentialMac_eq] at hmac

/-- The row with other user data. -/
def withUserData (row : CredentialRow) (userHandle : List UInt8) (userId : UInt32)
    (userName userDisplayName : String) : CredentialRow :=
  { row with
    userHandle := userHandle
    userId := some userId.toNat
    userName := some userName
    userDisplayName := some userDisplayName }

theorem credentialOfRow_withUserData {stored : StoredCtap2Credential} (userHandle : List UInt8)
    (userId : UInt32) (userName userDisplayName : String)
    (h : credentialOfRow crates none row₀ = some stored) :
    credentialOfRow crates none (withUserData row₀ userHandle userId userName userDisplayName) =
      some { stored with
        userHandle := userHandle
        userId := some userId
        userName := some userName
        userDisplayName := some userDisplayName } := by
  obtain ⟨slot, hslot, h₁⟩ := Option.bind_eq_some_iff.mp h
  obtain ⟨version, hversion, h₂⟩ := Option.bind_eq_some_iff.mp h₁
  obtain ⟨key, hkey, h₃⟩ := Option.bind_eq_some_iff.mp h₂
  obtain ⟨recovery, hrecovery, h₄⟩ := Option.bind_eq_some_iff.mp h₃
  obtain ⟨owner, -, h₅⟩ := Option.bind_eq_some_iff.mp h₄
  obtain ⟨count, hcount, h₆⟩ := Option.bind_eq_some_iff.mp h₅
  cases h₆
  simp [credentialOfRow, withUserData, hslot, hversion, hkey, hrecovery, ownerOfRow, toU32_toNat,
    hcount]

theorem integrityMac_of_credentialOfRow {userId : Option UInt32} {row : CredentialRow}
    {stored : StoredCtap2Credential} (h : credentialOfRow crates userId row = some stored) :
    stored.integrityMac = row.integrityMac := by
  obtain ⟨slot, -, h₁⟩ := Option.bind_eq_some_iff.mp h
  obtain ⟨version, -, h₂⟩ := Option.bind_eq_some_iff.mp h₁
  obtain ⟨key, -, h₃⟩ := Option.bind_eq_some_iff.mp h₂
  obtain ⟨recovery, -, h₄⟩ := Option.bind_eq_some_iff.mp h₃
  obtain ⟨owner, -, h₅⟩ := Option.bind_eq_some_iff.mp h₄
  obtain ⟨count, -, h₆⟩ := Option.bind_eq_some_iff.mp h₅
  cases h₆
  rfl

/-- **The code detects changes exactly if its message has no reading in the old format.** -/
theorem detectsChanges_iff (hsaved : SavedAs crates key c₀ row₀) (hfits : Fits c₀)
    (hcode : CodeApart crates key c₀) (hreads : (credentialOfRow crates none row₀).isSome) :
    DetectsChanges crates key c₀ row₀ ↔ legacyReading c₀ = none := by
  have hid₀ : row₀.credentialId = c₀.id :=
    (show RowOf crates c₀ row₀ from ⟨_, hsaved.row⟩).records.id
  obtain ⟨hrp₀, hmac₀, -⟩ := columns_of_rowOfCredential hsaved.row
  constructor
  · intro hdetects
    by_contra hreading
    obtain ⟨⟨userHandle, userId, userName, userDisplayName⟩, hreading⟩ :=
      Option.ne_none_iff_exists'.mp hreading
    obtain ⟨htail, hhandle, hname, hdisplay⟩ := tail_of_legacyReading hreading
    -- the row that says what the message says in the old format
    obtain ⟨stored, hstored⟩ := Option.isSome_iff_exists.mp hreads
    have hdescribes := describes_of_credentialOfRow hstored
    have hread := credentialOfRow_withUserData userHandle userId userName userDisplayName hstored
    generalize hchanged : ({ stored with
      userHandle := userHandle
      userId := some userId
      userName := some userName
      userDisplayName := some userDisplayName } : StoredCtap2Credential) = changed at hread
    have hid : changed.id = c₀.id := by
      rw [← hchanged]
      exact hdescribes.id.trans hid₀
    have hrp : changed.rpId = c₀.rpId := by
      rw [← hchanged]
      exact hdescribes.rpId.trans hrp₀
    have hlegacy : legacyMacMessage changed.toCredential = macMessage c₀ := by
      rw [macMessage, htail, legacyMacMessage, hid, hrp, ← hchanged]
      rfl
    have hfits' : Fits changed.toCredential := by
      refine ⟨hid ▸ hfits.id, hrp ▸ hfits.rpId, ?_, ?_, ?_⟩ <;> rw [← hchanged]
      · exact hhandle
      · exact hname
      · exact hdisplay
    refine legacy_differs hlegacy (hdetects (withUserData row₀ userHandle userId userName
      userDisplayName) none changed rfl ?_ hfits')
    refine (accepts_iff hsaved.key).mpr ⟨hread, fun m hm ↦ .inr ?_⟩
    rw [integrityMac_of_credentialOfRow hread, withUserData, hmac₀] at hm
    rw [hlegacy]
    exact Option.some.inj hm
  · intro hnone row userId stored hmac haccepts hstored
    obtain ⟨hread, hcodes⟩ := (accepts_iff hsaved.key).mp haccepts
    rw [Coded, integrityMac_of_credentialOfRow hread, hmac, hmac₀] at hcodes
    rcases hcodes _ rfl with hnew | hold
    · exact sameMetadata_of_macMessage hstored hfits ((hcode stored.toCredential).1 hnew)
    · have hlegacy := (hcode stored.toCredential).2 hold
      obtain ⟨-, hrest⟩ := lengthPrefixed_inj hstored.id hfits.id hlegacy
      obtain ⟨-, htail⟩ := lengthPrefixed_inj hstored.rpId hfits.rpId hrest
      have hreading := isSome_legacyReading hstored htail.symm
      rw [hnone] at hreading
      cases hreading

end

namespace Sample

open Ctap2.Sample

/-- Packages with a code that tells one message from all others. -/
def sealingPackages (message : List UInt8) : Crates :=
  { packages [] with
    hmacSha256 _ m := List.replicate 32 (if m = message then 1 else 0)
    length_hmacSha256 _ _ := List.length_replicate }

theorem codeApart_sealingPackages (key : List UInt8) (c₀ : Credential) :
    CodeApart (sealingPackages (macMessage c₀)) key c₀ := by
  have happart (m : List UInt8) : (sealingPackages (macMessage c₀)).hmacSha256 key m =
      (sealingPackages (macMessage c₀)).hmacSha256 key (macMessage c₀) → m = macMessage c₀ := by
    intro h
    by_contra hne
    simp [sealingPackages, hne] at h
  exact fun c ↦ ⟨happart _, happart _⟩

/-- A credential for a security key: its user handle ends in the length of what follows. -/
def shifted : Credential :=
  { (credential 1 "a" 1).toCredential with
    discoverable := false
    userId := some 0
    userHandle := [1, 2, 3] ++ beBytes 8 16 }

/-- The store once a credential has been saved. -/
def sealed (c₀ : Credential) : Store :=
  (saveCtap2Credentials (sealingPackages (macMessage c₀)) noFault [c₀] .fresh).2

/-- A row with the user data that the message of `shifted` has in the old format. -/
def changed (row : CredentialRow) : CredentialRow :=
  withUserData row [] 184615427 "\x00\x00\x00\x00\x00\x00\x00\x00\x00\x00\x00\x04name" ""

/-- The store with that row. -/
def changedStore : Store :=
  { sealed shifted with
    credentials := (sealed shifted).credentials.update [1] changed fun _ ↦ rfl }

theorem savedAs_of_sealed {c₀ : Credential} {row₀ : CredentialRow}
    (hok : (saveCtap2Credentials (sealingPackages (macMessage c₀)) noFault [c₀] .fresh).1 = .ok ())
    (hrow : (sealed c₀).credentials.rows.head? = some row₀)
    (hcode : ((sealed c₀).credentials.rows.head?.bind (·.integrityMac)).isSome)
    (hid : (sealed c₀).credentials.rows.head?.map (·.credentialId) = some c₀.id)
    (hkey : (sealed c₀).hmacKey = some (List.replicate 32 0)) :
    SavedAs (sealingPackages (macMessage c₀)) (List.replicate 32 0) c₀ row₀ := by
  rw [hrow] at hcode hid
  refine ⟨⟨noFault, [c₀], .fresh, hok, List.mem_singleton_self _, List.mem_of_head? hrow,
    Option.some.inj hid, hkey⟩, ?_, List.length_replicate⟩
  intro hnone
  rw [Option.bind_some, hnone] at hcode
  cases hcode

end Sample

open Sample Ctap2.Sample in
/-- A credential whose message cannot be read in the old format. -/
theorem detectsChanges_credential :
    ∃ row₀, (sealed (credential 1 "a" 1).toCredential).credentials.rows.head? = some row₀ ∧
      DetectsChanges (sealingPackages (macMessage (credential 1 "a" 1).toCredential))
        (List.replicate 32 0) (credential 1 "a" 1).toCredential row₀ := by
  have hreads : ((sealed (credential 1 "a" 1).toCredential).credentials.rows.head?.bind
      (credentialOfRow (sealingPackages (macMessage (credential 1 "a" 1).toCredential))
        none)).isSome := by
    decide +kernel
  have hreading : legacyReading (credential 1 "a" 1).toCredential = none := by decide +kernel
  obtain ⟨stored, hstored⟩ := Option.isSome_iff_exists.mp hreads
  obtain ⟨row₀, hrow, hread⟩ := Option.bind_eq_some_iff.mp hstored
  have hsaved := savedAs_of_sealed rfl hrow (by decide +kernel) (by decide +kernel)
    (by decide +kernel)
  refine ⟨row₀, hrow, (detectsChanges_iff hsaved ?_ (codeApart_sealingPackages _ _) ?_).mpr
    hreading⟩
  · constructor <;> decide +kernel
  · rw [hread]
    rfl

open Sample Ctap2.Sample in
/-- **A changed row is accepted.**  The row says the same in the old format as the credential that
was saved in the new one. -/
theorem changed_row_accepted :
    (loadCtap2Credentials (sealingPackages (macMessage shifted)) noFault none
        changedStore).1.toOption.map (·.map fun c ↦ (c.userHandle, c.userId)) =
      some [([], some 184615427)] ∧
    ∃ row₀, SavedAs (sealingPackages (macMessage shifted)) (List.replicate 32 0) shifted row₀ ∧
      CodeApart (sealingPackages (macMessage shifted)) (List.replicate 32 0) shifted ∧
      ¬ DetectsChanges (sealingPackages (macMessage shifted)) (List.replicate 32 0) shifted
        row₀ := by
  refine ⟨by decide +kernel, ?_⟩
  have hreads : ((sealed shifted).credentials.rows.head?.map changed).bind
      (credentialOfRow (sealingPackages (macMessage shifted)) none) = some
        { shifted with
          userHandle := []
          userId := some 184615427
          userName := some "\x00\x00\x00\x00\x00\x00\x00\x00\x00\x00\x00\x04name"
          userDisplayName := some ""
          integrityMac := some (List.replicate 32 1) } := by
    decide +kernel
  obtain ⟨row, hmap, hread⟩ := Option.bind_eq_some_iff.mp hreads
  obtain ⟨row₀, hrow, rfl⟩ := Option.map_eq_some_iff.mp hmap
  refine ⟨row₀, savedAs_of_sealed rfl hrow (by decide +kernel) (by decide +kernel)
    (by decide +kernel), codeApart_sealingPackages _ _, fun hdetects ↦ ?_⟩
  have hsame := hdetects (changed row₀) none _ rfl
    ((accepts_iff List.length_replicate).mpr ⟨hread, fun m hm ↦ .inr ?_⟩) ?_
  · exact absurd hsame.userHandle (by decide)
  · cases hm
    decide +kernel
  · constructor <;> decide +kernel

end Store
end TpmFido2
