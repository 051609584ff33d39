import TpmFido2.Ctap2.Validation

/-!
# What a step of the daemon does to the PIN and the token

The PIN state is in two places like the credentials: in the row of the store, and in memory, where
it is what requests are checked against.  The token is in memory only.  `PinEffect` lists
everything a step of the daemon can do to the three of them, and `step_pinEffect` shows that the
list is complete; every property of the PIN and of tokens is proved by going through it.

A PIN is compared in one place, and on the way there a request can fail in many.  `comparison`
says of a step whether it gets there, as a function of the step's start: it has the PIN state the
hash is compared with, and the hash.
-/

set_option autoImplicit false

namespace TpmFido2

/-- The PIN state with another counter. -/
def StoredClientPinState.withRetries (pin : StoredClientPinState) (retries : Nat) :
    StoredClientPinState := { pin with retries := retries }

@[simp] theorem StoredClientPinState.retries_withRetries (pin : StoredClientPinState) (n : Nat) :
    (pin.withRetries n).retries = n := rfl

namespace Ctap2

open Handler CommandM

open Store (pinWritable pinReadable)

/-! ## Made visible -/

section
variable (crates : Crates)

/-- The clientPIN request an event is: what it is handled in, its sub-command and its entries. -/
def pinRequest (event : Event) : Option (Env × ClientPinSubCommand × Entries) :=
  match event with
  | .cbor env payload =>
    match parsePayload payload with
    | some (.clientPin, body) =>
      match clientPinRequest crates body with
      | .ok (subCommand, request) => some (env, subCommand, request)
      | .error _ => none
    | _ => none
  | _ => none

/-- The PIN hash a request presents, when everything else about the request is right. -/
def presentedHash (a : Authenticator) (subCommand : ClientPinSubCommand) (request : Entries) :
    Option (List UInt8) :=
  match subCommand with
  | .changePin => do
    let newPinEnc ← newPinEncOf request
    let pinHashEnc ← changePinHashEncOf request
    let pinUvAuthParam ← changePinParamOf request
    let (_, pinHash) ← (changePinRequest crates a (mapMap request (.int 3)) newPinEnc pinHashEnc
      pinUvAuthParam).toOption
    return pinHash
  | .getPinUvAuthToken => do
    let pinHashEnc ← tokenPinHashEncOf request
    let permissions ← pinPermissions request
    let (_, pinHash) ← (tokenRequest crates a (mapMap request (.int 3)) pinHashEnc permissions
      (tokenRpIdOf request)).toOption
    return pinHash
  | _ => none

/-- The comparison a step makes: the PIN state, which must not be blocked, and the hash. -/
def comparison (w : World) (event : Event) : Option (StoredClientPinState × List UInt8) :=
  match pinRequest crates event, w.auth.clientPin with
  | some (_, subCommand, request), some pin =>
    if pin.retries = 0 then none
    else (presentedHash crates w.auth subCommand request).map fun pinHash ↦ (pin, pinHash)
  | _, _ => none

end

/-- The sub-commands that set a PIN or issue a token. -/
def ClientPinSubCommand.grants : ClientPinSubCommand → Bool
  | .getRetries | .getKeyAgreement => false
  | _ => true

/-- The row holds the state. -/
def RowHolds (state : StoredClientPinState) (s : Store) : Prop :=
  s.clientPin.map Store.pinStateOfRow = some state

/-! ## The effects -/

/-- Neither the PIN state in memory nor the row changed, and no token was issued. -/
structure PinKept (w w' : World) : Prop where
  memory : w'.auth.clientPin = w.auth.clientPin
  row : w'.store.clientPin = w.store.clientPin
  token : w'.auth.pinUvAuthToken = w.auth.pinUvAuthToken ∨ w'.auth.pinUvAuthToken = none

theorem PinKept.frame : Frame PinKept where
  refl _ := ⟨rfl, rfl, .inl rfl⟩
  trans h₁ h₂ := by
    refine ⟨h₂.memory.trans h₁.memory, h₂.row.trans h₁.row, ?_⟩
    rcases h₂.token with h | h
    · rw [h]
      exact h₁.token
    · exact .inr h

/-- After the write of a state: the row holds it, or the row is as it was and the write could not
succeed. -/
inductive RowAfter (fault : StoreFault) (state : StoredClientPinState) (s t : Store) : Prop where
  | saved (h : RowHolds state t) (hwritable : pinWritable fault s state)
  | failed (h : t.clientPin = s.clientPin) (hfault : ¬ pinWritable fault s state)

/-- After a correct PIN the counter is full, in the row as well. -/
inductive Restored (fault : StoreFault) (pin : StoredClientPinState) (s t : Store) : Prop where
  | full (h : pin.retries = 8) (row : t.clientPin = s.clientPin)
  | saved (h : RowHolds (pin.withRetries 8) t) (hwritable : pinWritable fault s (pin.withRetries 8))

/-- An approved reset. -/
def approvedReset (w : World) (event : Event) : Bool :=
  match event with
  | .cbor env payload => (parsePayload payload).any (fun x ↦ x.1 = .reset) &&
      w.auth.assertionApproved env 0 "reset"
  | _ => false

/-- Everything a step can do to the PIN and the token. -/
inductive PinEffect (crates : Crates) (w : World) (event : Event) : Reply → World → Prop where
  /-- Nothing, but that the token may be dropped. -/
  | kept {reply : Reply} {w' : World} (h : PinKept w w')
    (hcompare : comparison crates w event = none)
    (hgrants : ∀ x, pinRequest crates event = some x → x.2.1.grants → ¬ reply.succeeded)
    (hreset : event.hasCommand .reset → ¬ reply.succeeded) (happroved : ¬ approvedReset w event)
    (hstart : ∀ env p, event ≠ .start env p) : PinEffect crates w event reply w'
  /-- setPIN. -/
  | set {reply : Reply} {w' : World} {env : Env} {request : Entries} {state : StoredClientPinState}
    (hreq : pinRequest crates event = some (env, .setPin, request))
    (unset : w.auth.clientPin = none) (hcompare : comparison crates w event = none)
    (memory : w'.auth.clientPin = some state) (row : RowHolds state w'.store)
    (full : state.retries = 8) (token : w'.auth.pinUvAuthToken = w.auth.pinUvAuthToken)
    (hreply : reply.succeeded) : PinEffect crates w event reply w'
  /-- A wrong PIN. -/
  | wrong {reply : Reply} {w' : World} {x : Env × ClientPinSubCommand × Entries}
    {pin : StoredClientPinState} {pinHash : List UInt8}
    (hreq : pinRequest crates event = some x)
    (hcompare : comparison crates w event = some (pin, pinHash))
    (hmatch : ¬ pinMatches crates pin pinHash)
    (memory : w'.auth.clientPin = some (pin.withRetries (pin.retries - 1)))
    (row : RowAfter (x.1.store 0) (pin.withRetries (pin.retries - 1)) w.store w'.store)
    (token : w'.auth.pinUvAuthToken = w.auth.pinUvAuthToken) (hreply : ¬ reply.succeeded) :
    PinEffect crates w event reply w'
  /-- The right PIN, but the full counter could not be written. -/
  | unsaved {reply : Reply} {w' : World} {x : Env × ClientPinSubCommand × Entries}
    {pin : StoredClientPinState} {pinHash : List UInt8}
    (hreq : pinRequest crates event = some x)
    (hcompare : comparison crates w event = some (pin, pinHash))
    (hmatch : pinMatches crates pin pinHash) (hfull : pin.retries ≠ 8)
    (memory : w'.auth.clientPin = some (pin.withRetries 8))
    (row : w'.store.clientPin = w.store.clientPin)
    (hfault : ¬ pinWritable (x.1.store 0) w.store (pin.withRetries 8))
    (token : w'.auth.pinUvAuthToken = w.auth.pinUvAuthToken) (hreply : ¬ reply.succeeded) :
    PinEffect crates w event reply w'
  /-- The right PIN, but the new one could not be written. -/
  | unchanged {reply : Reply} {w' : World} {env : Env} {request : Entries}
    {pin : StoredClientPinState} {pinHash : List UInt8}
    (hreq : pinRequest crates event = some (env, .changePin, request))
    (hcompare : comparison crates w event = some (pin, pinHash))
    (hmatch : pinMatches crates pin pinHash) (memory : w'.auth.clientPin = some (pin.withRetries 8))
    (row : Restored (env.store 0) pin w.store w'.store)
    (token : w'.auth.pinUvAuthToken = w.auth.pinUvAuthToken) (hreply : ¬ reply.succeeded) :
    PinEffect crates w event reply w'
  /-- changePIN. -/
  | changed {reply : Reply} {w' : World} {env : Env} {request : Entries}
    {pin state : StoredClientPinState} {pinHash : List UInt8}
    (hreq : pinRequest crates event = some (env, .changePin, request))
    (hcompare : comparison crates w event = some (pin, pinHash))
    (hmatch : pinMatches crates pin pinHash)
    (counted : pin.retries = 8 ∨ pinWritable (env.store 0) w.store (pin.withRetries 8))
    (memory : w'.auth.clientPin = some state) (row : RowHolds state w'.store)
    (full : state.retries = 8)
    (token : w'.auth.pinUvAuthToken = w.auth.pinUvAuthToken) (hreply : reply.succeeded) :
    PinEffect crates w event reply w'
  /-- A token for the right PIN. -/
  | issued {reply : Reply} {w' : World} {env : Env} {request : Entries}
    {pin : StoredClientPinState} {pinHash : List UInt8} {permissions : Ctap2PermissionFlags}
    (hreq : pinRequest crates event = some (env, .getPinUvAuthToken, request))
    (hcompare : comparison crates w event = some (pin, pinHash))
    (hmatch : pinMatches crates pin pinHash) (memory : w'.auth.clientPin = some (pin.withRetries 8))
    (row : Restored (env.store 0) pin w.store w'.store)
    (hpermissions : pinPermissions request = some permissions)
    (token : w'.auth.pinUvAuthToken = some ⟨fillRandom 32 (env.random 0), permissions,
      tokenRpIdOf request, env.now 0⟩) (hreply : reply.succeeded) :
    PinEffect crates w event reply w'
  /-- A token for the approval of the user. -/
  | approved {reply : Reply} {w' : World} {env : Env} {request : Entries}
    {permissions : Ctap2PermissionFlags}
    (hreq : pinRequest crates event = some (env, .getPinUvAuthTokenUsingUv, request))
    (hcompare : comparison crates w event = none)
    (happroved : env.approve "Verify identity for a FIDO2 operation")
    (memory : w'.auth.clientPin = w.auth.clientPin) (row : w'.store.clientPin = w.store.clientPin)
    (hpermissions : pinPermissions request = some permissions)
    (token : w'.auth.pinUvAuthToken = some ⟨fillRandom 32 (env.random 0), permissions,
      tokenRpIdOf request, env.now 0⟩) (hreply : reply.succeeded) :
    PinEffect crates w event reply w'
  /-- An approved reset. -/
  | reset {reply : Reply} {w' : World} {env : Env} {payload body : List UInt8}
    (he : event = .cbor env payload) (hp : parsePayload payload = some (.reset, body))
    (happroved : w.auth.assertionApproved env 0 "reset")
    (hcompare : comparison crates w event = none)
    (h : w.auth.clientPin = none ∧ w'.store.clientPin = w.store.clientPin ∧
        w'.auth.pinUvAuthToken = w.auth.pinUvAuthToken ∧
        w'.auth.keyAgreement = w.auth.keyAgreement ∨
      w.auth.clientPin.isSome ∧ w'.auth.pinUvAuthToken = none ∧ w'.auth.keyAgreement = none ∧
        (w'.store.clientPin = none ∧ ¬ ((env.store 0).io ∨ (env.store 0).statement) ∨
          w'.store.clientPin = w.store.clientPin ∧ ((env.store 0).io ∨ (env.store 0).statement)))
    (memory : w'.auth.clientPin = none) (hreply : reply.succeeded) :
    PinEffect crates w event reply w'
  /-- A start. -/
  | started {reply : Reply} {w' : World} {env : Env} {tpmPath : Option String}
    (he : event = .start env tpmPath) (hcompare : comparison crates w event = none)
    (memory : w'.auth.clientPin = w.store.clientPin.map Store.pinStateOfRow ∨
      w'.auth.clientPin = none ∧ ¬ pinReadable crates (env.store 1) w.store)
    (row : w'.store.clientPin = w.store.clientPin) (token : w'.auth.pinUvAuthToken = none)
    (hreply : reply = .ok) : PinEffect crates w event reply w'
  /-- A change of the key file or of the integrity code from outside. -/
  | damaged {reply : Reply} {w' : World} {hmacKey pinMac : Option (List UInt8)}
    (he : event = .damage hmacKey pinMac) (hcompare : comparison crates w event = none)
    (memory : w'.auth.clientPin = w.auth.clientPin)
    (row : w'.store.clientPin = w.store.clientPin.map (ClientPinRow.withMac · pinMac))
    (token : w'.auth.pinUvAuthToken = w.auth.pinUvAuthToken) : PinEffect crates w event reply w'

/-! ## Writing and reading the row -/

variable {crates : Crates} {env : Env} {w : World} {event : Event}

/-- A write either leaves the state in the row, or could not succeed. -/
theorem persistClientPin_cases (crates : Crates) (env : Env) (n : Nat)
    (state : StoredClientPinState) (w : World) :
    (∃ t, persistClientPin crates env n state w = (.ok (), { w with store := t }) ∧
        RowHolds state t ∧ pinWritable (env.store n) w.store state) ∨
      ∃ o t, o.toOption = none ∧ persistClientPin crates env n state w =
        (o, { w with store := t }) ∧
        t.clientPin = w.store.clientPin ∧ ¬ pinWritable (env.store n) w.store state := by
  have hsave := Store.saveClientPinState_cases crates (env.store n) state w.store
  cases hr : Store.saveClientPinState crates (env.store n) state w.store with
  | mk o t =>
    rw [hr] at hsave
    cases hsave with
    | failed _ ho h =>
      obtain ⟨o', ho', he⟩ := storeOrDeny_of_none hr ho
      refine .inr ⟨o', t, ho', he, h.clientPin, fun hwritable ↦ ?_⟩
      obtain ⟨t', ht'⟩ := Store.saveClientPinState_of_writable crates hwritable
      rw [hr] at ht'
      cases ht'
      cases ho
    | done h _ _ hrow =>
      refine .inl ⟨_, storeOrDeny_of_ok hr, ?_, Store.pinWritable_of_save hr⟩
      rw [RowHolds, Option.map_some, Store.pinStateOfRow_clientPinRow hrow]

theorem Restored.congr {fault : StoreFault} {pin : StoredClientPinState} {s t u : Store}
    (h : Restored fault pin s t) (hrow : u.clientPin = t.clientPin) : Restored fault pin s u := by
  cases h with
  | full h row => exact .full h (hrow.trans row)
  | saved h hwritable => exact .saved (by rw [RowHolds, hrow]; exact h) hwritable

theorem Restored.full_or_writable {fault : StoreFault} {pin : StoredClientPinState} {s t : Store}
    (h : Restored fault pin s t) : pin.retries = 8 ∨ pinWritable fault s (pin.withRetries 8) := by
  cases h with
  | full h _ => exact .inl h
  | saved _ hwritable => exact .inr hwritable

/-! ## The comparison -/

/-- What `authenticatePin` can end in, for a hash of the right length. -/
inductive PinCheck (crates : Crates) (env : Env) (pinHash : List UInt8) (w : World) :
    Outcome ErrorStatus Unit × World → Prop where
  | refused {e : ErrorStatus}
    (h : ∀ pin, w.auth.clientPin = some pin → pin.retries = 0) :
    PinCheck crates env pinHash w (.error e, w)
  | wrong {o : Outcome ErrorStatus Unit} {t : Store} {pin : StoredClientPinState}
    (ho : o.toOption = none) (hpin : w.auth.clientPin = some pin) (hretries : pin.retries ≠ 0)
    (hmatch : ¬ pinMatches crates pin pinHash)
    (row : RowAfter (env.store 0) (pin.withRetries (pin.retries - 1)) w.store t) :
    PinCheck crates env pinHash w (o, ⟨t,
      { w.auth with clientPin := some (pin.withRetries (pin.retries - 1)) }⟩)
  | unsaved {o : Outcome ErrorStatus Unit} {t : Store} {pin : StoredClientPinState}
    (ho : o.toOption = none) (hpin : w.auth.clientPin = some pin) (hretries : pin.retries ≠ 0)
    (hmatch : pinMatches crates pin pinHash) (hfull : pin.retries ≠ 8)
    (row : t.clientPin = w.store.clientPin)
    (hfault : ¬ pinWritable (env.store 0) w.store (pin.withRetries 8)) :
    PinCheck crates env pinHash w (o, ⟨t, { w.auth with clientPin := some (pin.withRetries 8) }⟩)
  | right {t : Store} {pin : StoredClientPinState} (hpin : w.auth.clientPin = some pin)
    (hretries : pin.retries ≠ 0) (hmatch : pinMatches crates pin pinHash)
    (row : Restored (env.store 0) pin w.store t) :
    PinCheck crates env pinHash w (.ok (), ⟨t,
      { w.auth with clientPin := some (pin.withRetries 8) }⟩)

/-- The comparison itself, with a PIN that is not blocked. -/
def comparePin (crates : Crates) (env : Env) (pin : StoredClientPinState) (pinHash : List UInt8) :
    CommandM Unit :=
  if pinMatches crates pin pinHash then
    if pin.retries ≠ pinRetries then do
      setClientPin (some (pin.withRetries 8))
      persistClientPin crates env 0 (pin.withRetries 8)
    else pure ()
  else do
    setClientPin (some (pin.withRetries (pin.retries - 1)))
    persistClientPin crates env 0 (pin.withRetries (pin.retries - 1))
    throw (if pin.retries - 1 = 0 then .pinBlocked else .pinInvalid)

theorem comparePin_check (crates : Crates) (env : Env) (pinHash : List UInt8)
    {pin : StoredClientPinState} (hpin : w.auth.clientPin = some pin) (hretries : pin.retries ≠ 0) :
    PinCheck crates env pinHash w (comparePin crates env pin pinHash w) := by
  -- the world in which the counter is written
  let counted (retries : Nat) : World :=
    { w with auth := { w.auth with clientPin := some (pin.withRetries retries) } }
  rw [comparePin]
  by_cases hmatch : pinMatches crates pin pinHash
  · rw [if_pos hmatch]
    by_cases hfull : pin.retries = pinRetries
    · rw [if_neg (not_not.mpr hfull)]
      have hpin' : pin.withRetries 8 = pin :=
        congrArg (StoredClientPinState.mk pin.pinSalt pin.pinVerifier) hfull.symm
      have hw : w = counted 8 := by
        dsimp only [counted]
        rw [hpin', ← hpin]
      have hright : PinCheck crates env pinHash w (.ok (), counted 8) :=
        .right hpin hretries hmatch (.full hfull rfl)
      rwa [← hw] at hright
    · rw [if_pos hfull]
      change PinCheck crates env pinHash w
        (persistClientPin crates env 0 (pin.withRetries 8) (counted 8))
      rcases persistClientPin_cases crates env 0 (pin.withRetries 8) (counted 8)
        with ⟨t, he, hrow, hwritable⟩ | ⟨o, t, ho, he, hrow, hfault⟩
      · rw [he]
        exact .right hpin hretries hmatch (.saved hrow hwritable)
      · rw [he]
        exact .unsaved ho hpin hretries hmatch hfull hrow hfault
  · rw [if_neg hmatch]
    change PinCheck crates env pinHash w ((persistClientPin crates env 0
      (pin.withRetries (pin.retries - 1)) >>= fun _ ↦ throw _) (counted (pin.retries - 1)))
    rcases persistClientPin_cases crates env 0 (pin.withRetries (pin.retries - 1))
      (counted (pin.retries - 1)) with ⟨t, he, hrow, hwritable⟩ | ⟨o, t, ho, he, hrow, hfault⟩
    · rw [bind_of_ok _ he]
      exact .wrong rfl hpin hretries hmatch (.saved hrow hwritable)
    · obtain ⟨o', ho', he'⟩ := bind_of_none _ he ho
      rw [he']
      exact .wrong ho' hpin hretries hmatch (.failed hrow hfault)

theorem authenticatePin_check (crates : Crates) (env : Env) {pinHash : List UInt8}
    (hlength : pinHash.length = 16) (w : World) :
    PinCheck crates env pinHash w (authenticatePin crates env pinHash w) := by
  cases hpin : w.auth.clientPin with
  | none =>
    have he : authenticatePin crates env pinHash w = (.error .pinNotSet, w) := by
      simp [authenticatePin, bind_def, throwIf, auth, hlength, hpin]
    rw [he]
    exact .refused (by simp [hpin])
  | some pin =>
    by_cases hretries : pin.retries = 0
    · have he : authenticatePin crates env pinHash w = (.error .pinBlocked, w) := by
        simp [authenticatePin, bind_def, throwIf, auth, hlength, hpin, hretries]
      rw [he]
      exact .refused fun pin' h ↦ by cases hpin.symm.trans h; exact hretries
    · have he : authenticatePin crates env pinHash w = comparePin crates env pin pinHash w := by
        simp only [authenticatePin, bind_def, throwIf, auth, gets_apply, hpin, hlength, ne_eq,
          not_true_eq_false, if_false, pure_apply, if_neg hretries]
        rfl
      rw [he]
      exact comparePin_check crates env pinHash hpin hretries

/-! ## The sub-commands -/

/-- The end of setPIN and changePIN. -/
def storePin (crates : Crates) (env : Env) (newPin : List UInt8) : CommandM (List UInt8) := do
  let state := newPinState crates (fillRandom 32 (env.random 0)) newPin
  persistClientPin crates env 1 state
  setClientPin (some state)
  pure (emptyResponse crates)

/-- Either the new state is in the row and in memory, or neither changed and the write could not
succeed. -/
theorem storePin_cases (crates : Crates) (env : Env) (newPin : List UInt8) (w : World) :
    (∃ t, storePin crates env newPin w = (.ok (emptyResponse crates), ⟨t, { w.auth with
        clientPin := some (newPinState crates (fillRandom 32 (env.random 0)) newPin) }⟩) ∧
      RowHolds (newPinState crates (fillRandom 32 (env.random 0)) newPin) t ∧
      pinWritable (env.store 1) w.store (newPinState crates (fillRandom 32 (env.random 0))
        newPin)) ∨
    ∃ o t, o.toOption = none ∧ storePin crates env newPin w = (o, { w with store := t }) ∧
      t.clientPin = w.store.clientPin ∧
      ¬ pinWritable (env.store 1) w.store
        (newPinState crates (fillRandom 32 (env.random 0)) newPin) := by
  rcases persistClientPin_cases crates env 1
    (newPinState crates (fillRandom 32 (env.random 0)) newPin) w with
    ⟨t, he, hrow, hwritable⟩ | ⟨o, t, ho, he, hrow, hfault⟩
  · exact .inl ⟨t, bind_of_ok _ he, hrow, hwritable⟩
  · obtain ⟨o', ho', he'⟩ := bind_of_none _ he ho
    exact .inr ⟨o', t, ho', he', hrow, hfault⟩

theorem length_of_decryptPinHash {key encrypted pinHash : List UInt8}
    (h : decryptPinHash crates key encrypted = .ok pinHash) : pinHash.length = 16 := by
  rw [decryptPinHash] at h
  cases hd : decryptAes crates key encrypted with
  | error e => rw [hd] at h; cases h
  | ok decrypted =>
    rw [hd] at h
    change (if decrypted.length ≠ 16 then _ else _) = _ at h
    split at h
    · cases h
    · next hlength =>
      cases h
      exact not_not.mp hlength

theorem changePinRequest_ok {a : Authenticator} {keyAgreement : Option Entries}
    {newPinEnc pinHashEnc pinUvAuthParam newPin pinHash : List UInt8}
    (h : changePinRequest crates a keyAgreement newPinEnc pinHashEnc pinUvAuthParam =
      .ok (newPin, pinHash)) : pinHash.length = 16 := by
  rw [changePinRequest] at h
  split at h
  · cases h
  split at h
  · cases h
  obtain ⟨⟨aesKey, hmacKey⟩, -, h⟩ := except_bind_ok h
  obtain ⟨_, -, h⟩ := except_bind_ok h
  obtain ⟨_, -, h⟩ := except_bind_ok h
  obtain ⟨_, -, h⟩ := except_bind_ok h
  obtain ⟨_, hhash, h⟩ := except_bind_ok h
  cases h
  exact length_of_decryptPinHash hhash

theorem tokenRequest_ok {a : Authenticator} {keyAgreement : Option Entries}
    {pinHashEnc pinHash : List UInt8} {permissions : Ctap2PermissionFlags} {rpId : Option String}
    {keys : List UInt8 × List UInt8}
    (h : tokenRequest crates a keyAgreement pinHashEnc permissions rpId = .ok (keys, pinHash)) :
    pinHash.length = 16 := by
  obtain ⟨_, -, h⟩ := except_bind_ok h
  obtain ⟨_, -, h⟩ := except_bind_ok h
  obtain ⟨_, hhash, h⟩ := except_bind_ok h
  cases h
  exact length_of_decryptPinHash hhash

/-- changePIN fails before the comparison, or comes to it with the hash that is presented. -/
theorem changePin_cases (crates : Crates) (env : Env) (request : Entries) (w : World) :
    (presentedHash crates w.auth .changePin request = none ∧
      ∃ e, clientPinSubCommand crates env .changePin request w = (.error e, w)) ∨
    ∃ newPin pinHash, presentedHash crates w.auth .changePin request = some pinHash ∧
      pinHash.length = 16 ∧ clientPinSubCommand crates env .changePin request w =
        (authenticatePin crates env pinHash >>= fun _ ↦ storePin crates env newPin) w := by
  rw [presentedHash, clientPinSubCommand]
  cases newPinEncOf request with
  | none => exact .inl ⟨rfl, _, rfl⟩
  | some newPinEnc =>
  cases changePinHashEncOf request with
  | none => exact .inl ⟨rfl, _, rfl⟩
  | some pinHashEnc =>
  cases changePinParamOf request with
  | none => exact .inl ⟨rfl, _, rfl⟩
  | some pinUvAuthParam =>
  have hsplit : changePin crates env (mapMap request (.int 3)) newPinEnc pinHashEnc
      pinUvAuthParam w =
      (ofExcept (changePinRequest crates w.auth (mapMap request (.int 3)) newPinEnc pinHashEnc
        pinUvAuthParam) >>= fun x ↦ authenticatePin crates env x.2 >>= fun _ ↦
          storePin crates env x.1) w := rfl
  change ((changePinRequest crates w.auth (mapMap request (.int 3)) newPinEnc pinHashEnc
      pinUvAuthParam).toOption >>= fun x ↦ pure x.2) = none ∧
    (∃ e, changePin crates env (mapMap request (.int 3)) newPinEnc pinHashEnc pinUvAuthParam w =
      _) ∨
    ∃ newPin pinHash,
      ((changePinRequest crates w.auth (mapMap request (.int 3)) newPinEnc pinHashEnc
      pinUvAuthParam).toOption >>= fun x ↦ pure x.2) = some pinHash ∧ pinHash.length = 16 ∧
      changePin crates env (mapMap request (.int 3)) newPinEnc pinHashEnc pinUvAuthParam w = _
  rw [hsplit]
  cases hchecks : changePinRequest crates w.auth (mapMap request (.int 3)) newPinEnc pinHashEnc
    pinUvAuthParam with
  | error e => exact .inl ⟨rfl, e, rfl⟩
  | ok x => exact .inr ⟨x.1, x.2, rfl, changePinRequest_ok hchecks, rfl⟩

/-- So does a request for a token. -/
theorem getPinUvAuthToken_cases (crates : Crates) (env : Env) (request : Entries) (w : World) :
    (presentedHash crates w.auth .getPinUvAuthToken request = none ∧
      ∃ e, clientPinSubCommand crates env .getPinUvAuthToken request w = (.error e, w)) ∨
    ∃ permissions aesKey macKey pinHash, pinPermissions request = some permissions ∧
      presentedHash crates w.auth .getPinUvAuthToken request = some pinHash ∧
      pinHash.length = 16 ∧ clientPinSubCommand crates env .getPinUvAuthToken request w =
        (authenticatePin crates env pinHash >>= fun _ ↦
          issueToken crates env aesKey macKey permissions (tokenRpIdOf request)) w := by
  rw [presentedHash, clientPinSubCommand]
  cases tokenPinHashEncOf request with
  | none => exact .inl ⟨rfl, _, rfl⟩
  | some pinHashEnc =>
  cases pinPermissions request with
  | none => exact .inl ⟨rfl, _, rfl⟩
  | some permissions =>
  have hsplit : getPinUvAuthToken crates env (mapMap request (.int 3)) pinHashEnc permissions
      (tokenRpIdOf request) w =
      (ofExcept (tokenRequest crates w.auth (mapMap request (.int 3)) pinHashEnc permissions
        (tokenRpIdOf request)) >>= fun x ↦ authenticatePin crates env x.2 >>= fun _ ↦
          issueToken crates env x.1.1 x.1.2 permissions (tokenRpIdOf request)) w := rfl
  change ((tokenRequest crates w.auth (mapMap request (.int 3)) pinHashEnc permissions
      (tokenRpIdOf request)).toOption >>= fun x ↦ pure x.2) = none ∧
    (∃ e, getPinUvAuthToken crates env (mapMap request (.int 3)) pinHashEnc permissions
      (tokenRpIdOf request) w = _) ∨
    ∃ permissions' aesKey macKey pinHash, some permissions = some permissions' ∧
      ((tokenRequest crates w.auth (mapMap request (.int 3)) pinHashEnc permissions
        (tokenRpIdOf request)).toOption >>= fun x ↦ pure x.2) = some pinHash ∧
      pinHash.length = 16 ∧ getPinUvAuthToken crates env (mapMap request (.int 3)) pinHashEnc
        permissions (tokenRpIdOf request) w = _
  rw [hsplit]
  cases hchecks : tokenRequest crates w.auth (mapMap request (.int 3)) pinHashEnc permissions
    (tokenRpIdOf request) with
  | error e => exact .inl ⟨rfl, e, rfl⟩
  | ok x => exact .inr ⟨permissions, x.1.1, x.1.2, x.2, rfl, rfl, tokenRequest_ok hchecks, rfl⟩

/-- That a command which ends in `r` does one of the listed things. -/
def HasPinEffect (crates : Crates) (w : World) (event : Event)
    (r : Outcome ErrorStatus (List UInt8) × World) : Prop :=
  PinEffect crates w event (Reply.ofCbor (respond r).1) r.2

theorem not_succeeded_of_none {o : Outcome ErrorStatus (List UInt8)} (ho : o.toOption = none)
    (w : World) : ¬ (Reply.ofCbor (respond (o, w)).1).succeeded := by
  intro h
  have hsome : o.toOption.isSome := isSome_of_succeeded h
  rw [ho] at hsome
  cases hsome

theorem presentedHash_enter (crates : Crates) (w : World) (command : Ctap2Command)
    (subCommand : ClientPinSubCommand) (request : Entries) :
    presentedHash crates (w.enter command).auth subCommand request =
      presentedHash crates w.auth subCommand request := by
  cases subCommand <;> rfl

section
variable {payload body : List UInt8} {subCommand : ClientPinSubCommand} {request : Entries}

theorem pinRequest_cbor (env : Env) (hp : parsePayload payload = some (.clientPin, body))
    (hreq : clientPinRequest crates body = .ok (subCommand, request)) :
    pinRequest crates (.cbor env payload) = some (env, subCommand, request) := by
  simp only [pinRequest, hp, hreq]

theorem comparison_of_request (hreq : pinRequest crates event = some (env, subCommand, request)) :
    comparison crates w event = w.auth.clientPin.bind fun pin ↦ if pin.retries = 0 then none
      else (presentedHash crates w.auth subCommand request).map fun pinHash ↦ (pin, pinHash) := by
  rw [comparison, hreq]
  cases w.auth.clientPin <;> rfl

theorem comparison_of_hash_none
    (hreq : pinRequest crates event = some (env, subCommand, request))
    (h : presentedHash crates w.auth subCommand request = none) :
    comparison crates w event = none := by
  rw [comparison_of_request hreq, h]
  cases w.auth.clientPin with
  | none => rfl
  | some pin => simp

theorem comparison_of_blocked
    (hreq : pinRequest crates event = some (env, subCommand, request))
    (h : ∀ pin, w.auth.clientPin = some pin → pin.retries = 0) :
    comparison crates w event = none := by
  rw [comparison_of_request hreq]
  cases hpin : w.auth.clientPin with
  | none => rfl
  | some pin => simp [h pin hpin]

theorem comparison_of_hash (hreq : pinRequest crates event = some (env, subCommand, request))
    {pin : StoredClientPinState} (hpin : w.auth.clientPin = some pin) (hretries : pin.retries ≠ 0)
    {pinHash : List UInt8} (h : presentedHash crates w.auth subCommand request = some pinHash) :
    comparison crates w event = some (pin, pinHash) := by
  simp [comparison_of_request hreq, hpin, hretries, h]

/-- A request that fails and leaves the PIN and the token. -/
theorem HasPinEffect.of_none {o : Outcome ErrorStatus (List UInt8)} {w' : World}
    (ho : o.toOption = none) (h : PinKept w w') (hcompare : comparison crates w event = none)
    (happroved : ¬ approvedReset w event) (hstart : ∀ env p, event ≠ .start env p) :
    HasPinEffect crates w event (o, w') :=
  .kept h hcompare (fun _ _ _ ↦ not_succeeded_of_none ho w') (fun _ ↦ not_succeeded_of_none ho w')
    happroved hstart

theorem not_approvedReset (hreq : pinRequest crates event = some (env, subCommand, request)) :
    ¬ approvedReset w event := by
  cases event with
  | cbor env' payload =>
    rw [pinRequest] at hreq
    cases hp : parsePayload payload with
    | none => simp [approvedReset, hp]
    | some x =>
      obtain ⟨command, body⟩ := x
      cases command <;> simp_all [approvedReset]
  | _ => cases hreq

theorem not_approvedReset_of_ne {command : Ctap2Command} (env : Env)
    (hp : parsePayload payload = some (command, body)) (hc : command ≠ .reset) :
    ¬ approvedReset w (.cbor env payload) := by
  simp [approvedReset, hp, hc]

theorem pinKept_enter (w : World) (command : Ctap2Command) : PinKept w (w.enter command) :=
  ⟨rfl, rfl, .inl rfl⟩

/-- What is left of a sub-command when the comparison did not end well. -/
theorem HasPinEffect.of_check {payload : List UInt8}
    (hreq : pinRequest crates (.cbor env payload) = some (env, subCommand, request))
    {pinHash : List UInt8} (hlength : pinHash.length = 16)
    (hhash : presentedHash crates w.auth subCommand request = some pinHash)
    (f : Unit → CommandM (List UInt8))
    (hright : ∀ pin t, comparison crates w (.cbor env payload) = some (pin, pinHash) →
      pinMatches crates pin pinHash → Restored (env.store 0) pin w.store t →
      HasPinEffect crates w (.cbor env payload)
        (f () ⟨t, { (w.enter .clientPin).auth with clientPin := some (pin.withRetries 8) }⟩)) :
    HasPinEffect crates w (.cbor env payload)
      ((authenticatePin crates env pinHash >>= f) (w.enter .clientPin)) := by
  have hcheck := authenticatePin_check crates env hlength (w.enter .clientPin)
  cases he : authenticatePin crates env pinHash (w.enter .clientPin) with
  | mk o w₁ =>
    rw [he] at hcheck
    cases hcheck with
    | refused h =>
      obtain ⟨o', ho', he'⟩ := bind_of_none f he rfl
      rw [he']
      exact .of_none ho' (pinKept_enter w _) (comparison_of_blocked hreq h)
        (not_approvedReset hreq) nofun
    | wrong ho hpin hretries hmatch row =>
      obtain ⟨o', ho', he'⟩ := bind_of_none f he ho
      rw [he']
      exact .wrong hreq (comparison_of_hash hreq hpin hretries hhash) hmatch rfl row rfl
        (not_succeeded_of_none ho' _)
    | unsaved ho hpin hretries hmatch hfull row hfault =>
      obtain ⟨o', ho', he'⟩ := bind_of_none f he ho
      rw [he']
      exact .unsaved hreq (comparison_of_hash hreq hpin hretries hhash) hmatch hfull rfl row hfault
        rfl (not_succeeded_of_none ho' _)
    | right hpin hretries hmatch row =>
      rw [bind_of_ok f he]
      exact hright _ _ (comparison_of_hash hreq hpin hretries hhash) hmatch row

/-- changePIN. -/
theorem changePin_pinEffect
    (hreq : pinRequest crates (.cbor env payload) = some (env, .changePin, request)) :
    HasPinEffect crates w (.cbor env payload)
      (clientPinSubCommand crates env .changePin request (w.enter .clientPin)) := by
  rcases changePin_cases crates env request (w.enter .clientPin) with
    ⟨hhash, e, he⟩ | ⟨newPin, pinHash, hhash, hlength, he⟩
  · rw [he]
    exact .of_none rfl (pinKept_enter w _) (comparison_of_hash_none hreq hhash)
      (not_approvedReset hreq) nofun
  · rw [he]
    rw [presentedHash_enter] at hhash
    refine .of_check hreq hlength hhash _ fun pin t hcompare hmatch hrow ↦ ?_
    rcases storePin_cases crates env newPin
      ⟨t, { (w.enter .clientPin).auth with clientPin := some (pin.withRetries 8) }⟩ with
      ⟨t', he', hrow', -⟩ | ⟨o, t', ho, he', hrow', -⟩
    · rw [he']
      exact .changed hreq hcompare hmatch hrow.full_or_writable rfl hrow' rfl rfl rfl
    · rw [he']
      exact .unchanged hreq hcompare hmatch rfl (hrow.congr hrow') rfl (not_succeeded_of_none ho _)

/-- A request for a token with the PIN. -/
theorem getPinUvAuthToken_pinEffect
    (hreq : pinRequest crates (.cbor env payload) = some (env, .getPinUvAuthToken, request)) :
    HasPinEffect crates w (.cbor env payload)
      (clientPinSubCommand crates env .getPinUvAuthToken request (w.enter .clientPin)) := by
  rcases getPinUvAuthToken_cases crates env request (w.enter .clientPin) with
    ⟨hhash, e, he⟩ | ⟨permissions, aesKey, macKey, pinHash, hpermissions, hhash, hlength, he⟩
  · rw [he]
    exact .of_none rfl (pinKept_enter w _) (comparison_of_hash_none hreq hhash)
      (not_approvedReset hreq) nofun
  · rw [he]
    rw [presentedHash_enter] at hhash
    refine .of_check hreq hlength hhash _ fun pin t hcompare hmatch hrow ↦ ?_
    exact .issued hreq hcompare hmatch rfl hrow hpermissions rfl rfl

/-- A request that fails before it does anything. -/
theorem HasPinEffect.of_failed (hreq : pinRequest crates (.cbor env payload) =
      some (env, subCommand, request)) (hcompare : comparison crates w (.cbor env payload) = none)
    (o : Outcome ErrorStatus (List UInt8)) (w₁ : World) (ho : o.toOption = none)
    (h : w.enter .clientPin = w₁) : HasPinEffect crates w (.cbor env payload) (o, w₁) := by
  subst h
  exact .of_none ho (pinKept_enter w _) hcompare (not_approvedReset hreq) nofun

/-- A request for a token with the approval of the user. -/
theorem getPinUvAuthTokenUsingUv_pinEffect
    (hreq : pinRequest crates (.cbor env payload) =
      some (env, .getPinUvAuthTokenUsingUv, request)) :
    HasPinEffect crates w (.cbor env payload)
      (clientPinSubCommand crates env .getPinUvAuthTokenUsingUv request (w.enter .clientPin)) := by
  have hcompare := comparison_of_hash_none (w := w) hreq rfl
  have hF : Frame (Eq : World → World → Prop) := Frame.eq
  have fails := HasPinEffect.of_failed hreq hcompare
  refine Moves.bind_elim (motive := HasPinEffect crates w _) (hF.ofOption _ _) fails
    fun permissions w₁ e₁ h₁ ↦ ?_
  obtain ⟨hpermissions, rfl⟩ := ofOption_ok e₁
  refine Moves.bind_elim (motive := HasPinEffect crates w _) (hF.ofExcept _) fails
    fun _ w₂ e₂ h₂ ↦ ?_
  obtain ⟨-, rfl⟩ := ofExcept_ok e₂
  refine Moves.bind_elim (motive := HasPinEffect crates w _) (hF.gets _) fails
    fun a w₃ e₃ h₃ ↦ ?_
  cases e₃
  refine Moves.bind_elim (motive := HasPinEffect crates w _) (hF.throwIf _ _) fails
    fun _ w₄ e₄ h₄ ↦ ?_
  obtain ⟨happroved, rfl⟩ := throwIf_ok e₄
  refine Moves.bind_elim (motive := HasPinEffect crates w _) (hF.ofExcept _) fails
    fun keys w₅ e₅ h₅ ↦ ?_
  obtain ⟨-, rfl⟩ := ofExcept_ok e₅
  exact .approved hreq hcompare (not_not.mp happroved).2.1 rfl rfl hpermissions rfl rfl

theorem setPinRequest_ok {a : Authenticator} {keyAgreement : Option Entries}
    {newPinEnc pinUvAuthParam newPin : List UInt8}
    (h : setPinRequest crates a keyAgreement newPinEnc pinUvAuthParam = .ok newPin) :
    a.clientPin = none := by
  rw [setPinRequest] at h
  split at h
  · cases h
  · next hpin => simpa using hpin

/-- setPIN. -/
theorem setPin_pinEffect
    (hreq : pinRequest crates (.cbor env payload) = some (env, .setPin, request)) :
    HasPinEffect crates w (.cbor env payload)
      (clientPinSubCommand crates env .setPin request (w.enter .clientPin)) := by
  have hcompare := comparison_of_hash_none (w := w) hreq rfl
  have hF : Frame (Eq : World → World → Prop) := Frame.eq
  have fails := HasPinEffect.of_failed hreq hcompare
  refine Moves.bind_elim (motive := HasPinEffect crates w _) (hF.ofOption _ _) fails
    fun newPinEnc w₁ e₁ h₁ ↦ ?_
  obtain ⟨-, rfl⟩ := ofOption_ok e₁
  refine Moves.bind_elim (motive := HasPinEffect crates w _) (hF.ofOption _ _) fails
    fun pinUvAuthParam w₂ e₂ h₂ ↦ ?_
  obtain ⟨-, rfl⟩ := ofOption_ok e₂
  refine Moves.bind_elim (motive := HasPinEffect crates w _) (hF.gets _) fails
    fun a w₃ e₃ h₃ ↦ ?_
  cases e₃
  refine Moves.bind_elim (motive := HasPinEffect crates w _) (hF.ofExcept _) fails
    fun newPin w₄ e₄ h₄ ↦ ?_
  obtain ⟨hchecks, rfl⟩ := ofExcept_ok e₄
  change HasPinEffect crates w _ (storePin crates env newPin (w.enter .clientPin))
  rcases storePin_cases crates env newPin (w.enter .clientPin) with
    ⟨t, he, hrow, -⟩ | ⟨o, t, ho, he, hrow, -⟩
  · rw [he]
    exact .set hreq (setPinRequest_ok hchecks) hcompare rfl hrow rfl rfl rfl
  · rw [he]
    exact .of_none ho ⟨rfl, hrow, .inl rfl⟩ hcompare (not_approvedReset hreq) nofun

/-- clientPIN. -/
theorem clientPin_pinEffect (hp : parsePayload payload = some (.clientPin, body)) :
    HasPinEffect crates w (.cbor env payload)
      (gatedCommand crates env .clientPin body (w.enter .clientPin)) := by
  have hF := PinKept.frame
  change HasPinEffect crates w _ (clientPin crates env body (w.enter .clientPin))
  rw [clientPin]
  have hnoReset : ¬ (Event.cbor env payload).hasCommand .reset := not_hasCommand env hp (by decide)
  cases hchecks : clientPinRequest crates body with
  | error e =>
    have hreq : pinRequest crates (.cbor env payload) = none := by
      simp only [pinRequest, hp, hchecks]
    exact .of_none rfl (pinKept_enter w _) (by rw [comparison, hreq])
      (not_approvedReset_of_ne env hp (by decide)) nofun
  | ok x =>
    obtain ⟨subCommand, request⟩ := x
    have hreq := pinRequest_cbor env hp hchecks
    -- the two sub-commands that only look
    have looks {r : Outcome ErrorStatus (List UInt8) × World} (h : PinKept w r.2)
        (hgrants : subCommand.grants = false)
        (hhash : presentedHash crates w.auth subCommand request = none) :
        HasPinEffect crates w (.cbor env payload) r := by
      refine .kept h (comparison_of_hash_none hreq hhash) (fun x hx hg ↦ ?_)
        (fun hr ↦ absurd hr hnoReset) (not_approvedReset hreq) nofun
      cases hreq.symm.trans hx
      rw [hgrants] at hg
      cases hg
    change HasPinEffect crates w _
      (clientPinSubCommand crates env subCommand request (w.enter .clientPin))
    cases subCommand with
    | getRetries =>
      have h : Moves PinKept (clientPinSubCommand crates env .getRetries request) :=
        hF.bind (hF.throwIf _ _) fun _ ↦ hF.bind (hF.gets _) fun a ↦ hF.pure _
      exact looks (hF.trans (pinKept_enter w _) (h _)) rfl rfl
    | getKeyAgreement =>
      have h : Moves PinKept (clientPinSubCommand crates env .getKeyAgreement request) :=
        hF.bind (hF.throwIf _ _) fun _ ↦ hF.bind (Moves.modify fun _ ↦ ⟨rfl, rfl, .inl rfl⟩)
          fun _ ↦ hF.pure _
      exact looks (hF.trans (pinKept_enter w _) (h _)) rfl rfl
    | setPin => exact setPin_pinEffect hreq
    | changePin => exact changePin_pinEffect hreq
    | getPinUvAuthToken => exact getPinUvAuthToken_pinEffect hreq
    | getPinUvAuthTokenUsingUv => exact getPinUvAuthTokenUsingUv_pinEffect hreq

/-! ## The other commands -/

/-- The PIN, in memory and in the row, is as it was. -/
structure SamePin (w w' : World) : Prop where
  memory : w'.auth.clientPin = w.auth.clientPin
  row : w'.store.clientPin = w.store.clientPin

theorem SamePin.frame : Frame SamePin where
  refl _ := ⟨rfl, rfl⟩
  trans h₁ h₂ := ⟨h₂.memory.trans h₁.memory, h₂.row.trans h₁.row⟩

theorem Quiet.samePin {w w' : World} (h : Quiet w w') : SamePin w w' :=
  ⟨h.clientPin, h.tables.clientPin⟩

theorem Aside.samePin {w w' : World} (h : Aside w w') : SamePin w w' :=
  ⟨h.clientPin, h.settings.clientPin⟩

theorem TokenEffect.same_or_none {w' : World} (h : TokenEffect crates w event w') :
    w'.auth.pinUvAuthToken = w.auth.pinUvAuthToken ∨ w'.auth.pinUvAuthToken = none := by
  cases h with
  | unused _ token => exact .inl token
  | kept _ _ token => exact .inl token
  | revoked _ _ token => exact .inr token

/-- Every command but clientPIN and reset keeps to a frame that covers what only looks, what works
on credentials, and the two sub-commands of credential management that change one. -/
theorem gatedCommand_frame {R : World → World → Prop} (hF : Frame R)
    (quiet : ∀ {w w' : World}, Quiet w w' → R w w') (aside : ∀ {w w' : World}, Aside w w' → R w w')
    (deleted : ∀ params, Moves R (deleteCredential crates env params))
    (renamed : ∀ params, Moves R (updateUserInformation crates env params))
    {command : Ctap2Command} (hclient : command ≠ .clientPin) (hreset : command ≠ .reset) :
    Moves R (gatedCommand crates env command body) := by
  have managementSubCommand_frame (subCommand : ManagementSubCommand) (params : Option Entries) :
      Moves R (managementSubCommand crates env subCommand params) := by
    by_cases hlooks : subCommand.looks
    · exact (managementSubCommand_moves crates env hlooks params).mono fun _ _ h ↦ quiet h
    cases subCommand with
    | deleteCredential => exact deleted params
    | updateUserInformation => exact renamed params
    | _ => exact absurd rfl hlooks
  have gated (h : Moves R (runCommand crates env command body)) :
      Moves R (gatedCommand crates env command body) :=
    hF.bind ((requirePassphrase_moves command).mono fun _ _ h ↦ quiet h.quiet) fun _ ↦ h
  have managed (hc : command.isManagement) : Moves R (gatedCommand crates env command body) := by
    rw [gatedCommand_management hc]
    refine hF.bind ((authorisedRequest_moves crates env command body).mono fun _ _ h ↦ quiet h)
      fun x ↦ hF.bind (hF.ofOption _ _) fun _ ↦ managementSubCommand_frame _ _
  cases command with
  | clientPin => exact absurd rfl hclient
  | reset => exact absurd rfl hreset
  | makeCredential => exact gated ((makeCredential_moves body).mono fun _ _ h ↦ aside h)
  | getAssertion => exact gated ((getAssertion_moves body).mono fun _ _ h ↦ aside h)
  | getNextAssertion => exact gated ((getNextAssertion_moves body).mono fun _ _ h ↦ aside h)
  | credentialManagement => exact managed (.inl rfl)
  | credentialManagementPreview => exact managed (.inr rfl)
  | getInfo => exact gated (hF.bind (hF.gets _) fun a ↦ hF.pure _)
  | selection => exact gated (selection_moves.mono fun _ _ h ↦ quiet h)
  | bioEnrollment => exact gated hF.panic
  | bioEnrollmentPreview => exact gated hF.panic
  | largeBlobs => exact gated hF.panic
  | config => exact gated hF.panic

theorem gatedCommand_samePin {command : Ctap2Command} (hclient : command ≠ .clientPin)
    (hreset : command ≠ .reset) : Moves SamePin (gatedCommand crates env command body) := by
  refine gatedCommand_frame SamePin.frame (fun h ↦ h.samePin) (fun h ↦ h.samePin)
    (fun params w ↦ ?_) (fun params w ↦ ?_) hclient hreset
  · have h := deleteCredential_deletion crates env params w
    generalize deleteCredential crates env params w = r at h ⊢
    cases h with
    | failed _ _ => exact SamePin.frame.refl w
    | done _ _ => exact ⟨rfl, rfl⟩
  · have h := updateUserInformation_renaming crates env params w
    generalize updateUserInformation crates env params w = r at h ⊢
    cases h with
    | failed _ => exact SamePin.frame.refl w
    | done _ hauth _ hsettings _ => exact ⟨by rw [hauth], hsettings.clientPin⟩

theorem pinRequest_of_ne {command : Ctap2Command} (env : Env)
    (hp : parsePayload payload = some (command, body)) (hc : command ≠ .clientPin) :
    pinRequest crates (.cbor env payload) = none := by
  rw [pinRequest]
  cases command <;> simp_all

theorem comparison_of_no_request (h : pinRequest crates event = none) :
    comparison crates w event = none := by
  rw [comparison, h]

/-- Every command but clientPIN and reset. -/
theorem gatedCommand_pinEffect {command : Ctap2Command} (hclient : command ≠ .clientPin)
    (hreset : command ≠ .reset) (hp : parsePayload payload = some (command, body)) :
    HasPinEffect crates w (.cbor env payload)
      (gatedCommand crates env command body (w.enter command)) := by
  have hreq : pinRequest crates (.cbor env payload) = none := pinRequest_of_ne env hp hclient
  have hpin : SamePin (w.enter command)
      (gatedCommand crates env command body (w.enter command)).2 :=
    gatedCommand_samePin hclient hreset (w.enter command)
  have htoken : TokenEffect crates w (.cbor env payload)
      (gatedCommand crates env command body (w.enter command)).2 :=
    gatedCommand_tokenEffect hclient hreset hp
  refine .kept ⟨hpin.memory, hpin.row, htoken.same_or_none⟩ (comparison_of_no_request hreq)
    (fun x hx ↦ ?_) (fun hr ↦ absurd hr (not_hasCommand env hp hreset))
    (not_approvedReset_of_ne env hp hreset) nofun
  rw [hreq] at hx
  cases hx

/-! ## reset -/

theorem reset_pinEffect (hp : parsePayload payload = some (.reset, body)) :
    HasPinEffect crates w (.cbor env payload)
      (gatedCommand crates env .reset body (w.enter .reset)) := by
  have hcompare : comparison crates w (.cbor env payload) = none :=
    comparison_of_no_request (pinRequest_of_ne env hp (by decide))
  change HasPinEffect crates w _ (reset crates env (w.enter .reset))
  have h := reset_resetting crates env (w.enter .reset)
  generalize reset crates env (w.enter .reset) = r at h ⊢
  cases h with
  | refused happroved =>
    refine .of_none rfl (pinKept_enter w _) hcompare (fun h ↦ happroved ?_) nofun
    have hw : w.auth.assertionApproved env 0 "reset" := by simpa [approvedReset, hp] using h
    exact hw
  | done happroved hpin hrows =>
    have hrow := hrows.settings.clientPin
    have htoken := congrArg Authenticator.pinUvAuthToken hrows.auth
    have hkey := congrArg Authenticator.keyAgreement hrows.auth
    have hmemory := congrArg Authenticator.clientPin hrows.auth
    cases hpin with
    | unset hunset =>
      exact .reset rfl hp happroved hcompare (.inl ⟨hunset, hrow, htoken, hkey⟩)
        (hmemory.trans hunset) rfl
    | kept hset hfault =>
      exact .reset rfl hp happroved hcompare (.inr ⟨hset, htoken, hkey, .inr ⟨hrow, hfault⟩⟩)
        hmemory rfl
    | removed hset hfault =>
      exact .reset rfl hp happroved hcompare (.inr ⟨hset, htoken, hkey, .inl ⟨hrow, hfault⟩⟩)
        hmemory rfl

/-! ## Start -/

theorem loadCredentialsFromDisk_returns (crates : Crates) (fault : StoreFault)
    (uid : Option UInt32) (w : World) :
    ∃ cs t, loadCredentialsFromDisk crates fault uid w = (.ok cs, { w with store := t }) ∧
      Store.SameTables w.store t := by
  have hsafe : Safe (Store.loadCtap2Credentials crates fault uid) w.store :=
    Store.loadCtap2Credentials_safe uid w.store
  have hmoves : Store.SameTables w.store (Store.loadCtap2Credentials crates fault uid w.store).2 :=
    Store.loadCtap2Credentials_moves uid w.store
  cases he : Store.loadCtap2Credentials crates fault uid w.store with
  | mk o t =>
    rw [he] at hmoves
    rw [Safe, he] at hsafe
    cases o with
    | ok credentials =>
      exact ⟨_, t, by simp only [loadCredentialsFromDisk, bind_def, store, zoom, he]; rfl, hmoves⟩
    | error e =>
      exact ⟨_, t, by simp only [loadCredentialsFromDisk, bind_def, store, zoom, he]; rfl, hmoves⟩
    | panicked => exact absurd rfl hsafe

theorem loadClientPin_returns (crates : Crates) (env : Env) (w : World) :
    ∃ pin t, loadClientPin crates env w = (.ok pin, { w with store := t }) ∧
      Store.SameTables w.store t ∧ (pin = w.store.clientPin.map Store.pinStateOfRow ∨
        pin = none ∧ ¬ pinReadable crates (env.store 1) w.store) := by
  have hsafe : Safe (Store.loadClientPinState crates (env.store 1)) w.store :=
    Store.loadClientPinState_safe w.store
  have hcases := Store.loadClientPinState_cases crates (env.store 1) w.store
  have hreadable (h : pinReadable crates (env.store 1) w.store) :
      Store.loadClientPinState crates (env.store 1) w.store =
        (.ok (w.store.clientPin.map Store.pinStateOfRow), w.store) :=
    Store.loadClientPinState_of_readable h
  cases he : Store.loadClientPinState crates (env.store 1) w.store with
  | mk o t =>
    rw [he] at hcases hreadable
    rw [Safe, he] at hsafe
    cases hcases with
    | done h =>
      exact ⟨_, t, by simp only [loadClientPin, bind_def, store, zoom, he]; rfl, h, .inl rfl⟩
    | failed _ ho h =>
      cases o with
      | ok state => cases ho
      | panicked => exact absurd rfl hsafe
      | error e =>
        exact ⟨none, t, by simp only [loadClientPin, bind_def, store, zoom, he]; rfl, h,
          .inr ⟨rfl, fun hr ↦ by cases hreadable hr⟩⟩

/-- A start: an empty authenticator but for what was loaded. -/
theorem newAuthenticator_pin (crates : Crates) (env : Env) (tpmPath : Option String) (s : Store) :
    ∃ cs pin t, newAuthenticator crates env tpmPath s =
        ⟨t, { Authenticator.initial tpmPath (env.detect 0) with
          credentials := cs, clientPin := pin }⟩ ∧ Store.SameTables s t ∧
      (pin = s.clientPin.map Store.pinStateOfRow ∨
        pin = none ∧ ¬ pinReadable crates (env.store 1) s) := by
  obtain ⟨cs, t₁, he₁, h₁⟩ := loadCredentialsFromDisk_returns crates (env.store 0)
    (env.detect 0).uid ⟨s, .initial tpmPath (env.detect 0)⟩
  obtain ⟨pin, t₂, he₂, h₂, hpin⟩ := loadClientPin_returns crates env
    ⟨t₁, { Authenticator.initial tpmPath (env.detect 0) with credentials := cs }⟩
  refine ⟨cs, pin, t₂, ?_, Store.SameTables.frame.trans h₁ h₂, ?_⟩
  · have hload : loadAll crates env ⟨s, .initial tpmPath (env.detect 0)⟩ = (.ok (), ⟨t₂,
        { Authenticator.initial tpmPath (env.detect 0) with
          credentials := cs, clientPin := pin }⟩) := by
      change (loadCredentialsFromDisk crates (env.store 0) (env.detect 0).uid >>= fun cs ↦
        modifyAuth (fun a ↦ { a with credentials := cs }) >>= fun _ ↦
          loadClientPin crates env >>= setClientPin) _ = _
      rw [bind_of_ok _ he₁]
      exact bind_of_ok _ he₂
    rw [newAuthenticator, hload]
  · rcases hpin with hpin | ⟨hpin, hfault⟩
    · exact .inl (by rw [hpin, ← h₁.clientPin])
    · exact .inr ⟨hpin, fun hr ↦ hfault (Store.pinReadable_of_sameTables h₁ hr)⟩

/-! ## Every step -/

/-- **The list of what happens to the PIN and the token is complete.** -/
theorem step_pinEffect (crates : Crates) (w : World) (event : Event) :
    PinEffect crates w event (step crates w event).1 (step crates w event).2 := by
  -- the events that are no request
  have aside {reply : Reply} {w' : World} (hreq : pinRequest crates event = none)
      (hreset : ¬ event.hasCommand .reset) (happroved : ¬ approvedReset w event)
      (hstart : ∀ env p, event ≠ .start env p) (h : PinKept w w') :
      PinEffect crates w event reply w' :=
    .kept h (comparison_of_no_request hreq) (by simp [hreq]) (fun hr ↦ absurd hr hreset) happroved
      hstart
  cases event with
  | cbor env payload =>
    cases hp : parsePayload payload with
    | none =>
      have hstep : step crates w (.cbor env payload) =
          (.cbor [ErrorStatus.invalidCommand.byte], w) := by
        simp only [step, handleCbor, hp, Reply.ofCbor]
      rw [hstep]
      exact aside (by simp only [pinRequest, hp]) (by simp [Event.hasCommand, hp])
        (by simp [approvedReset, hp]) (by rintro _ _ ⟨⟩) (PinKept.frame.refl w)
    | some x =>
      obtain ⟨command, body⟩ := x
      rw [step_cbor hp]
      by_cases hclient : command = .clientPin
      · subst hclient
        exact clientPin_pinEffect hp
      by_cases hreset : command = .reset
      · subst hreset
        exact reset_pinEffect hp
      exact gatedCommand_pinEffect hclient hreset hp
  | cancel =>
    exact aside rfl Bool.false_ne_true Bool.false_ne_true (by rintro _ _ ⟨⟩) ⟨rfl, rfl, .inr rfl⟩
  | tpm env command =>
    have hpin : SamePin w (handleTpmCommand crates env command w).2 :=
      (handleTpmCommand_moves command w).samePin
    exact aside rfl Bool.false_ne_true Bool.false_ne_true (by rintro _ _ ⟨⟩)
      ⟨hpin.memory, hpin.row, .inl (handleTpmCommand_sameToken command w)⟩
  | setPassphrase fault salt hash kdf =>
    have h := Store.saveDaemonPassphrase_moves crates fault salt hash kdf w.store
    exact aside rfl Bool.false_ne_true Bool.false_ne_true (by rintro _ _ ⟨⟩)
      ⟨rfl, h.clientPin, .inl rfl⟩
  | setPcrPolicy fault indices =>
    have h := Store.saveDefaultPcrPolicy_moves crates fault indices w.store
    exact aside rfl Bool.false_ne_true Bool.false_ne_true (by rintro _ _ ⟨⟩)
      ⟨rfl, h.clientPin, .inl rfl⟩
  | start env tpmPath =>
    obtain ⟨cs, pin, t, he, htables, hpin⟩ := newAuthenticator_pin crates env tpmPath w.store
    change PinEffect crates w _ .ok (newAuthenticator crates env tpmPath w.store)
    rw [he]
    exact .started rfl rfl hpin htables.clientPin rfl rfl
  | damage hmacKey pinMac => exact .damaged rfl rfl rfl rfl rfl

end

end Ctap2
end TpmFido2
