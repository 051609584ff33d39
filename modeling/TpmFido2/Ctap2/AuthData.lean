import TpmFido2.Ctap2.Credentials
import TpmFido2.Ctap2.Sample

/-!
# Reading authenticator data

Authenticator data is a binary format with two optional parts, whose presence two bits of a flag
byte announce.  One of the bits is set by the caller of `make_auth_data` and the other by
`make_auth_data` itself, so nothing in the function keeps the first of them true.

`parseAuthData` is the reader of the WebAuthn specification.  It takes CBOR items off the front of a
message with a reader it is given, since how items are delimited is the business of the CBOR package
(`ReadsOff`).

* **`parseAuthData_authData`**: what `make_credential` and the two assertion commands write is read
  back as what was given, and nothing is left over.
* `prepareCredential_authData` and `Assertion.authData_eq` say that this is what the commands
  write.
-/

set_option autoImplicit false

namespace TpmFido2
namespace Ctap2

open Bytes Cbor Handler

/-! ## The reader -/

/-- The attested credential data of a registration. -/
structure AttestedCredentialData where
  aaguid : List UInt8
  credentialId : List UInt8
  publicKey : Value

/-- What authenticator data says. -/
structure AuthData where
  rpIdHash : List UInt8
  userPresent : Bool
  userVerified : Bool
  signCount : Nat
  attested : Option AttestedCredentialData
  extensions : Option Entries

section
variable (readItem : List UInt8 → Option (Value × List UInt8))

/-- Attested credential data, and what follows it. -/
def parseAttested (bs : List UInt8) : Option (AttestedCredentialData × List UInt8) := do
  guard (16 ≤ bs.length)
  let (credentialId, afterId) ← readPrefixed 2 (bs.drop 16)
  let (publicKey, rest) ← readItem afterId
  return (⟨bs.take 16, credentialId, publicKey⟩, rest)

/-- An extension map, and what follows it. -/
def parseExtensions (bs : List UInt8) : Option (Entries × List UInt8) := do
  let (value, rest) ← readItem bs
  let entries ← value.asMap
  return (entries, rest)

/-- A part that is there only if a bit says so. -/
def parseIf {α : Type} (present : Bool) (parse : List UInt8 → Option (α × List UInt8))
    (bs : List UInt8) : Option (Option α × List UInt8) :=
  if present then (parse bs).map fun (a, rest) ↦ (some a, rest) else some (none, bs)

/-- The parser of the WebAuthn specification; it refuses data with something after the end. -/
def parseAuthData (bs : List UInt8) : Option AuthData := do
  guard (37 ≤ bs.length)
  let flags := (bs.drop 32).headD 0
  let (attested, afterAttested) ← parseIf (flags &&& 0x40 ≠ 0) (parseAttested readItem) (bs.drop 37)
  let (extensions, rest) ← parseIf (flags &&& 0x80 ≠ 0) (parseExtensions readItem) afterAttested
  guard (rest = [])
  return {
    rpIdHash := bs.take 32
    userPresent := flags &&& 0x01 ≠ 0
    userVerified := flags &&& 0x04 ≠ 0
    signCount := ofBeBytes ((bs.drop 33).take 4)
    attested := attested
    extensions := extensions }

end

/-! ## The calls -/

/-- What the commands call `make_auth_data` with. -/
inductive AuthDataCall where
  /-- `make_credential`: a credential, and perhaps extensions. -/
  | registration (rpId : String) (userVerified : Bool) (signCount : UInt32)
      (credentialId : List UInt8) (key : TpmCredential) (extensions : Option Entries)
  /-- `get_assertion` and `get_next_assertion`. -/
  | assertion (rpId : String) (userVerified : Bool) (signCount : UInt32)

namespace AuthDataCall

/-- The authenticator data of a call, with the flags the commands set. -/
def authData (crates : Crates) : AuthDataCall → List UInt8
  | registration rpId userVerified signCount credentialId key extensions =>
    makeAuthData crates rpId (0x41 ||| if userVerified then 0x04 else 0) signCount
      (some (credentialId, coseCredentialPublicKey key)) (extensions.map .map)
  | assertion rpId userVerified signCount =>
    makeAuthData crates rpId (0x01 ||| if userVerified then 0x04 else 0) signCount none none

/-- What was given. -/
def given (crates : Crates) : AuthDataCall → AuthData
  | registration rpId userVerified signCount credentialId key extensions =>
    ⟨crates.sha256 (utf8 rpId), true, userVerified, signCount.toNat,
      some ⟨aaguid, credentialId, coseCredentialPublicKey key⟩, extensions⟩
  | assertion rpId userVerified signCount =>
    ⟨crates.sha256 (utf8 rpId), true, userVerified, signCount.toNat, none, none⟩

/-- The ID has a length that two bytes hold. -/
def Fits : AuthDataCall → Prop
  | registration _ _ _ credentialId _ _ => credentialId.length ≤ 65535
  | assertion .. => True

/-- The items that are written. -/
def items : AuthDataCall → List Value
  | registration _ _ _ _ key extensions =>
    coseCredentialPublicKey key :: (extensions.map Value.map).toList
  | assertion .. => []

end AuthDataCall

/-- An item is read off the front of a message as it was written. -/
def ReadsOff (crates : Crates) (readItem : List UInt8 → Option (Value × List UInt8)) (v : Value) :
    Prop :=
  ∀ rest, readItem (crates.intoWriter v ++ rest) = some (v, rest)

variable {crates : Crates} {readItem : List UInt8 → Option (Value × List UInt8)}

/-! ## Reading what was written -/

/-- The fixed part, and what the optional parts are read as. -/
theorem parseAuthData_of {hash counter body afterAttested : List UInt8} {flags : UInt8}
    {attested : Option AttestedCredentialData} {extensions : Option Entries}
    (hhash : hash.length = 32) (hcounter : counter.length = 4)
    (hattested : parseIf (flags &&& 0x40 ≠ 0) (parseAttested readItem) body =
      some (attested, afterAttested))
    (hextensions : parseIf (flags &&& 0x80 ≠ 0) (parseExtensions readItem) afterAttested =
      some (extensions, [])) :
    parseAuthData readItem (hash ++ [flags] ++ counter ++ body) =
      some ⟨hash, flags &&& 0x01 ≠ 0, flags &&& 0x04 ≠ 0, ofBeBytes counter, attested,
        extensions⟩ := by
  have hlength : 37 ≤ (hash ++ [flags] ++ counter ++ body).length := by
    simp only [List.length_append, List.length_singleton]
    omega
  have htake : (hash ++ [flags] ++ counter ++ body).take 32 = hash := by
    rw [List.append_assoc, List.append_assoc, List.take_left' hhash]
  have hflags : (hash ++ [flags] ++ counter ++ body).drop 32 = flags :: (counter ++ body) := by
    rw [List.append_assoc, List.append_assoc, List.drop_left' hhash]
    rfl
  have hfixed : (hash ++ [flags]).length = 33 := by
    rw [List.length_append, List.length_singleton, hhash]
  have hrest : (hash ++ [flags] ++ counter ++ body).drop 33 = counter ++ body := by
    rw [List.append_assoc, List.drop_left' hfixed]
  have hbody : (hash ++ [flags] ++ counter ++ body).drop 37 = body :=
    List.drop_left' (by rw [List.length_append, hfixed, hcounter])
  simp only [parseAuthData, htake, hflags, hrest, hbody, List.headD_cons,
    List.take_left' hcounter, hattested, guard, if_pos hlength, Option.pure_def,
    Option.bind_eq_bind, Option.bind_some, hextensions, if_true]

/-- The attested credential data of a registration. -/
theorem parseAttested_written {credentialId rest : List UInt8} {publicKey : Value}
    (hid : credentialId.length ≤ 65535) (hkey : ReadsOff crates readItem publicKey) :
    parseAttested readItem (aaguid ++ beBytes 2 credentialId.length ++ credentialId ++
        crates.intoWriter publicKey ++ rest) =
      some (⟨aaguid, credentialId, publicKey⟩, rest) := by
  have hread : readPrefixed 2 (beBytes 2 credentialId.length ++ credentialId ++
      (crates.intoWriter publicKey ++ rest)) =
        some (credentialId, crates.intoWriter publicKey ++ rest) :=
    readPrefixed_eq_some.mpr ⟨rfl, by omega⟩
  have hlength : aaguid.length = 16 := rfl
  have hsplit : aaguid ++ beBytes 2 credentialId.length ++ credentialId ++
      crates.intoWriter publicKey ++ rest = aaguid ++ (beBytes 2 credentialId.length ++
        credentialId ++ (crates.intoWriter publicKey ++ rest)) := by
    simp only [List.append_assoc]
  rw [hsplit, parseAttested, List.take_left' hlength, List.drop_left' hlength, hread]
  simp [guard, hkey rest, hlength]

theorem parseExtensions_written {entries : Entries} (h : ReadsOff crates readItem (.map entries)) :
    parseExtensions readItem (crates.intoWriter (.map entries)) = some (entries, []) := by
  have hread := h []
  rw [List.append_nil] at hread
  simp [parseExtensions, hread, Value.asMap]

/-- The bits of the flag byte of a registration. -/
theorem registration_flags : ∀ userVerified extended : Bool,
    let flags : UInt8 := (0x41 ||| if userVerified then 0x04 else 0) |||
      if extended then 0x80 else 0x00
    decide (flags &&& 0x40 ≠ 0) = true ∧ decide (flags &&& 0x80 ≠ 0) = extended ∧
      decide (flags &&& 0x01 ≠ 0) = true ∧ decide (flags &&& 0x04 ≠ 0) = userVerified := by
  decide

/-- **Authenticator data is read back as it was given**, to its last byte. -/
theorem parseAuthData_authData (crates : Crates)
    (readItem : List UInt8 → Option (Value × List UInt8)) (call : AuthDataCall) (hfits : call.Fits)
    (hitems : ∀ v ∈ call.items, ReadsOff crates readItem v) :
    parseAuthData readItem (call.authData crates) = some (call.given crates) := by
  have hcounter (n : UInt32) : ofBeBytes (beBytes 4 n.toNat) = n.toNat :=
    ofBeBytes_beBytes_of_lt n.toNat_lt
  cases call with
  | assertion rpId userVerified signCount =>
    have hdata : AuthDataCall.authData crates (.assertion rpId userVerified signCount) =
        crates.sha256 (utf8 rpId) ++ [0x01 ||| if userVerified then 0x04 else 0] ++
          beBytes 4 signCount.toNat ++ [] := by
      simp [AuthDataCall.authData, makeAuthData]
    -- neither of the two bits is set
    have hattested : parseIf ((0x01 ||| if userVerified then 0x04 else 0 : UInt8) &&& 0x40 ≠ 0)
        (parseAttested readItem) [] = some (none, []) := by
      cases userVerified <;> rfl
    have hextensions : parseIf ((0x01 ||| if userVerified then 0x04 else 0 : UInt8) &&& 0x80 ≠ 0)
        (parseExtensions readItem) [] = some (none, []) := by
      cases userVerified <;> rfl
    rw [hdata, parseAuthData_of (crates.length_sha256 _) (length_beBytes _ _) hattested hextensions,
      hcounter]
    cases userVerified <;> rfl
  | registration rpId userVerified signCount credentialId key extensions =>
    have hkey : ReadsOff crates readItem (coseCredentialPublicKey key) :=
      hitems _ List.mem_cons_self
    -- the flag byte, and what stands after the key
    obtain ⟨hattestedBit, hextensionBit, hup, huv⟩ :=
      registration_flags userVerified (extensions.map Value.map).isSome
    generalize hflags : (0x41 ||| if userVerified then 0x04 else 0 : UInt8) |||
      (if (extensions.map Value.map).isSome then 0x80 else 0x00) = flags
      at hattestedBit hextensionBit hup huv
    generalize htail : (extensions.map fun e ↦ crates.intoWriter (.map e)).getD [] = tail
    have hdata : AuthDataCall.authData crates
        (.registration rpId userVerified signCount credentialId key extensions) =
          crates.sha256 (utf8 rpId) ++ [flags] ++ beBytes 4 signCount.toNat ++
            (aaguid ++ beBytes 2 credentialId.length ++ credentialId ++
              crates.intoWriter (coseCredentialPublicKey key) ++ tail) := by
      rw [← hflags, ← htail]
      cases extensions <;> simp [AuthDataCall.authData, makeAuthData]
    have hattested : parseIf (flags &&& 0x40 ≠ 0) (parseAttested readItem)
        (aaguid ++ beBytes 2 credentialId.length ++ credentialId ++
          crates.intoWriter (coseCredentialPublicKey key) ++ tail) =
            some (some ⟨aaguid, credentialId, coseCredentialPublicKey key⟩, tail) := by
      rw [hattestedBit, parseIf, if_pos rfl, parseAttested_written hfits hkey]
      rfl
    have hextensions : parseIf (flags &&& 0x80 ≠ 0) (parseExtensions readItem) tail =
        some (extensions, []) := by
      rw [hextensionBit, ← htail]
      cases extensions with
      | none => rfl
      | some entries =>
        have hmap : ReadsOff crates readItem (.map entries) :=
          hitems _ (List.mem_cons_of_mem _ (List.mem_singleton_self _))
        simp only [Option.map_some, Option.getD_some, Option.isSome_some]
        rw [parseIf, if_pos rfl, parseExtensions_written hmap]
        rfl
    rw [hdata, parseAuthData_of (crates.length_sha256 _) (length_beBytes _ _) hattested hextensions,
      hcounter, hup, huv]
    rfl

namespace Sample

/-- A reader that knows some items. -/
def readOneOf (vs : List Value) (bs : List UInt8) : Option (Value × List UInt8) :=
  (vs.find? fun v ↦ (encode v).isPrefixOf bs).map fun v ↦ (v, bs.drop (encode v).length)

/-- A registration with extensions, of a user who was verified. -/
def registrationCall : AuthDataCall :=
  .registration "example.org" true 0 [1, 2, 3] ⟨[], [], [4, 5], [6, 7], none⟩
    (some [(.text "credProps", .map [(.text "rk", .bool true)])])

end Sample

open Sample in
/-- All parts are there. -/
theorem parseAuthData_authData_registration :
    parseAuthData (readOneOf registrationCall.items) (registrationCall.authData (packages [])) =
        some (registrationCall.given (packages [])) ∧
      (registrationCall.authData (packages [])).length = 89 := by
  refine ⟨parseAuthData_authData _ _ _ (show 3 ≤ 65535 by decide) fun v hv rest ↦ ?_,
    by decide +kernel⟩
  rcases List.mem_cons.mp hv with rfl | hv
  · rfl
  · rw [List.mem_singleton.mp hv]
    rfl

/-! ## The commands -/

/-- The authenticator data of both assertion commands. -/
theorem Assertion.authData_eq (x : Assertion) :
    x.authData crates =
      AuthDataCall.authData crates (.assertion x.credential.rpId x.userVerified x.signCount) := rfl

/-- **The authenticator data of a registration** is about the credential it creates. -/
theorem prepareCredential_authData {env : Env} {body : List UInt8} {w w' : World} {c : Credential}
    {response : List UInt8} (h : prepareCredential crates env body w = (.ok (c, response), w')) :
    ∃ userVerified extensions, response = encodeResponse crates (.map [
      (.integer 1, .text "none"),
      (.integer 2, .bytes (AuthDataCall.authData crates
        (.registration c.rpId userVerified c.signCount c.id c.key extensions))),
      (.integer 3, .map [])]) ∧ (AuthDataCall.registration c.rpId userVerified c.signCount c.id
        c.key extensions).Fits := by
  obtain ⟨request, w₁, -, h⟩ := bind_ok h
  obtain ⟨r, w₂, -, h⟩ := bind_ok h
  obtain ⟨userVerified, w₃, -, h⟩ := bind_ok h
  obtain ⟨_, w₄, -, h⟩ := bind_ok h
  obtain ⟨_, w₅, -, h⟩ := bind_ok h
  obtain ⟨a, w₆, -, h⟩ := bind_ok h
  obtain ⟨_, w₇, -, h⟩ := bind_ok h
  obtain ⟨_, w₈, -, h⟩ := bind_ok h
  obtain ⟨passphrase, w₉, -, h⟩ := bind_ok h
  obtain ⟨opened, w₁₀, -, h⟩ := bind_ok h
  obtain ⟨tpm, w₁₁, -, h⟩ := bind_ok h
  obtain ⟨⟨key, policy, material⟩, w₁₂, -, h⟩ := bind_ok h
  cases h
  refine ⟨userVerified || wantsUserVerification (mapMap request (.int 7)),
    if r.credPropsRequested then some [(.text "credProps",
      .map [(.text "rk", .bool (wantsDiscoverable (mapMap request (.int 7))))])] else none, ?_, ?_⟩
  · cases r.credPropsRequested <;> rfl
  · exact (length_fillRandom 32 (env.random 0)).le.trans (by decide)

end Ctap2
end TpmFido2
