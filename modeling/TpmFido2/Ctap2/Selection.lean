import TpmFido2.Ctap2.Safety

/-!
# What getAssertion chooses from

`get_assertion` checks the request, reads the credentials again, and looks for those that match.
What it finds out on the way is a function of the request and the world, and this file has it in
pieces that change nothing: the checks (`assertionChecks`), the world with the credentials read
again (`readAgain`), and with them the credentials that match.

`selectAssertion_of_checks` and `selectAssertion_of_refused` say that the command computes these
functions.  The choice is what several results about assertions start from.
-/

set_option autoImplicit false

namespace TpmFido2
namespace Ctap2

open Cbor Handler CommandM

section
variable (crates : Crates)

/-- Whether a daemon passphrase is there and can be read. -/
def passphraseSet (fault : StoreFault) (s : Store) : Bool :=
  (passphraseIn crates fault s).isSome

/-- Whether the user is verified, for a request that is let through. -/
def PinUvVerdict.accepted : PinUvVerdict → Option Bool
  | .absent => some false
  | .verified => some true
  | .rejected _ => none
  | .revoked => none

variable (env : Env)

/-- What the checks of an assertion request lead to: the request, its allow list, and whether the
user is verified.  A request that is refused leads to nothing. -/
def assertionChecks (w : World) (body : List UInt8) :
    Option (GetAssertionRequest × Option (List Value) × Bool) := do
  let request ← (decodeMap crates body).toOption
  let r ← (getAssertionRequest request).toOption
  let verified ← (w.auth.pinUvVerdict crates env 0 (mapInteger request (.int 7))
    (mapBytes request (.int 6)) r.clientDataHash .getAssertion (some r.rpId)).accepted
  let options := mapMap request (.int 5)
  let allowList := mapArray request (.int 3)
  let _ ← (validateGetAssertionOptions options).toOption
  let _ ← (validateCredentialDescriptorList allowList).toOption
  return (r, allowList, verified || wantsUserVerification options)

/-- The world once the credentials have been read again. -/
def readAgain (w : World) : World :=
  if w.auth.tpmPath.isSome then
    let r := Store.loadCtap2Credentials crates (env.store 1) w.auth.session.uid w.store
    ⟨r.2, { w.auth with
      credentials := (r.1.toOption.getD []).map StoredCtap2Credential.toCredential }⟩
  else w

end

variable {crates : Crates} {env : Env} {w w' : World} {body : List UInt8}

/-! ## The passphrase -/

/-- The check for the passphrase leaves the world alone, and says whether there is one. -/
theorem requirePassphrase_apply (command : Ctap2Command) (w : World) :
    requirePassphrase crates env command w =
      (if command.needsPassphrase && !passphraseSet crates (env.store 0) w.store then
        .error .operationDenied else .ok (), w) := by
  rw [requirePassphrase]
  split
  · next hneeds =>
    have hsafe : Safe (Store.loadDaemonPassphrase crates (env.store 0)) w.store :=
      Store.loadDaemonPassphrase_safe w.store
    have hsame : w.store = (Store.loadDaemonPassphrase crates (env.store 0) w.store).2 :=
      Store.loadDaemonPassphrase_moves w.store
    rw [Safe] at hsafe
    simp only [bind_def, storeOrDeny, store, zoom, hneeds, passphraseSet, passphraseIn]
    cases hload : Store.loadDaemonPassphrase crates (env.store 0) w.store with
    | mk o s =>
      rw [hload] at hsafe hsame
      obtain rfl : w.store = s := hsame
      cases o with
      | ok passphrase => cases passphrase <;> rfl
      | error e => rfl
      | panicked => exact absurd rfl hsafe
  · next hneeds => simp [hneeds]

theorem requirePassphrase_of_set (command : Ctap2Command)
    (h : passphraseSet crates (env.store 0) w.store) :
    requirePassphrase crates env command w = (.ok (), w) := by
  rw [requirePassphrase_apply, h, Bool.not_true, Bool.and_false]
  rfl

theorem requirePassphrase_of_unset {command : Ctap2Command} (hneeds : command.needsPassphrase)
    (h : passphraseSet crates (env.store 0) w.store = false) :
    requirePassphrase crates env command w = (.error .operationDenied, w) := by
  rw [requirePassphrase_apply, h, hneeds]
  rfl

/-! ## Reading again -/

theorem reloadCredentials_apply (w : World) :
    reloadCredentials crates env w = (.ok (), readAgain crates env w) := by
  rw [readAgain]
  cases hpath : w.auth.tpmPath.isSome with
  | false => simp [reloadCredentials, bind_def, auth, hpath]
  | true =>
    have hsafe : Safe (Store.loadCtap2Credentials crates (env.store 1) w.auth.session.uid)
        w.store :=
      Store.loadCtap2Credentials_safe _ _
    rw [Safe] at hsafe
    simp only [reloadCredentials, bind_def, auth, gets_apply, hpath, if_true,
      loadCredentialsFromDisk, store, zoom, modifyAuth, modify_apply]
    cases hload : Store.loadCtap2Credentials crates (env.store 1) w.auth.session.uid w.store with
    | mk o s =>
      rw [hload] at hsafe
      cases o with
      | ok credentials => rfl
      | error e => rfl
      | panicked => exact absurd rfl hsafe

/-- Reading again leaves everything but the credentials in memory. -/
theorem readAgain_looked (crates : Crates) (env : Env) (w : World) :
    Looked crates w (readAgain crates env w) := by
  have h : Looked crates w (reloadCredentials crates env w).2 := reloadCredentials_moves w
  rwa [reloadCredentials_apply] at h

theorem readAgain_auth (crates : Crates) (env : Env) (w : World) :
    (readAgain crates env w).auth =
      { w.auth with credentials := (readAgain crates env w).auth.credentials } := by
  rw [readAgain]
  split <;> rfl

@[simp] theorem readAgain_session (crates : Crates) (env : Env) (w : World) :
    (readAgain crates env w).auth.session = w.auth.session :=
  (readAgain_looked crates env w).session

/-! ## The choice -/

theorem validatePinUvAuth_of_accepted {n : Nat} {protocol : Option Int}
    {authParam : Option (List UInt8)} {message : List UInt8} {permission : Ctap2PermissionFlags}
    {rpId : Option String} {b : Bool}
    (h : (w.auth.pinUvVerdict crates env n protocol authParam message permission rpId).accepted =
      some b) :
    validatePinUvAuth crates env n protocol authParam message permission rpId w = (.ok b, w) := by
  simp only [validatePinUvAuth, bind_def, auth, gets_apply]
  revert h
  cases w.auth.pinUvVerdict crates env n protocol authParam message permission rpId with
  | absent => rintro ⟨⟩; rfl
  | verified => rintro ⟨⟩; rfl
  | rejected e => rintro ⟨⟩
  | revoked => rintro ⟨⟩

/-- **A request that is let through** gets as far as the user lets it. -/
theorem selectAssertion_of_checks {r : GetAssertionRequest} {allowList : Option (List Value)}
    {userVerified : Bool}
    (h : assertionChecks crates env w body = some (r, allowList, userVerified)) :
    selectAssertion crates env body w =
      match matchingCredentialIndexes (readAgain crates env w).auth.credentials r.rpId
        allowList with
      | [] => (.error .noCredentials, readAgain crates env w)
      | first :: remaining =>
        (if w.auth.assertionApproved env 1 r.rpId then .ok (r, userVerified, first, remaining)
          else .error .operationDenied, readAgain crates env w) := by
  obtain ⟨request, hrequest, h₁⟩ := Option.bind_eq_some_iff.mp h
  obtain ⟨r', hr, h₂⟩ := Option.bind_eq_some_iff.mp h₁
  obtain ⟨verified, hverified, h₃⟩ := Option.bind_eq_some_iff.mp h₂
  obtain ⟨_, hoptions, h₄⟩ := Option.bind_eq_some_iff.mp h₃
  obtain ⟨_, hlist, h₅⟩ := Option.bind_eq_some_iff.mp h₄
  cases h₅
  rw [selectAssertion, bind_of_ok _ (ofExcept_of_some hrequest w),
    bind_of_ok _ (ofExcept_of_some hr w), bind_of_ok _ (validatePinUvAuth_of_accepted hverified),
    bind_of_ok _ (ofExcept_of_some hoptions w), bind_of_ok _ (ofExcept_of_some hlist w),
    bind_of_ok _ (reloadCredentials_apply w), bind_def]
  simp only [auth, gets_apply]
  cases matchingCredentialIndexes (readAgain crates env w).auth.credentials r.rpId
      (mapArray request (.int 3)) with
  | nil => rfl
  | cons first remaining =>
    have happroved : (readAgain crates env w).auth.assertionApproved env 1 r.rpId =
        w.auth.assertionApproved env 1 r.rpId := by
      rw [Authenticator.assertionApproved, Authenticator.assertionApproved, readAgain_session]
    simp only [happroved, bind_def, throwIf]
    cases w.auth.assertionApproved env 1 r.rpId <;> rfl

/-- **A request that is refused** gets nowhere. -/
theorem selectAssertion_of_refused (h : assertionChecks crates env w body = none) :
    (selectAssertion crates env body w).1.toOption = none ∧
      Incidental w (selectAssertion crates env body w).2 := by
  have hF := Incidental.frame
  let Refused (r : Outcome ErrorStatus (GetAssertionRequest × Bool × Nat × List Nat) × World) :=
    r.1.toOption = none ∧ Incidental w r.2
  have fails : ∀ o w₁, o.toOption = none → Incidental w w₁ → Refused (o, w₁) :=
    fun _ _ ho h ↦ ⟨ho, h⟩
  refine Moves.bind_elim (motive := Refused) (hF.ofExcept _) fails fun request w₁ e₁ _ ↦ ?_
  obtain ⟨hrequest, rfl⟩ := ofExcept_ok e₁
  refine Moves.bind_elim (motive := Refused) (hF.ofExcept _) fails fun r w₂ e₂ _ ↦ ?_
  obtain ⟨hr, rfl⟩ := ofExcept_ok e₂
  refine Moves.bind_elim (motive := Refused) (validatePinUvAuth_moves _ _ _ _ _ _) fails
    fun verified w₃ e₃ _ ↦ ?_
  obtain ⟨rfl, hverdict⟩ := validatePinUvAuth_ok e₃
  refine Moves.bind_elim (motive := Refused) (hF.ofExcept _) fails fun _ w₄ e₄ _ ↦ ?_
  obtain ⟨hoptions, rfl⟩ := ofExcept_ok e₄
  refine Moves.bind_elim (motive := Refused) (hF.ofExcept _) fails fun _ w₅ e₅ _ ↦ ?_
  obtain ⟨hlist, rfl⟩ := ofExcept_ok e₅
  -- nothing has refused it
  rcases hverdict with hverdict | hverdict <;>
    simp [assertionChecks, hrequest, hr, hverdict, hoptions, hlist, Except.toOption,
      PinUvVerdict.accepted] at h

end Ctap2
end TpmFido2
