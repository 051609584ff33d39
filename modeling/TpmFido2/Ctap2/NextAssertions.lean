import TpmFido2.Ctap2.Durability
import TpmFido2.Ctap2.FailedAssertions

/-!
# Several accounts

If several credentials match, getAssertion answers with the first and says how many there are, and
each getNextAssertion answers with the next.  The two commands are two functions of the source that
do the same at their ends, and that only share what is pending.

Here nothing goes wrong: the checks pass, the user approves and stays, the TPM signs, the counters
can be written, and the requests come in time (`Undisturbed`).  Then the run can be computed.  A
`Turn` is a credential with the environment its request is handled in and the signature it gets
there.

* `getAssertion_step` and `getNextAssertion_step` — what one request answers, and the world it
  leaves.
* `Waiting` — what the requests for the credentials that remain depend on: it holds after the first
  request, and the next request keeps it with one credential less (`Waiting.next`).
* **`undisturbed_exact`** — the answers of the whole run, by induction over the turns that remain;
  and the answer that each credential would get from a getAssertion request of its own, at its turn.
-/

set_option autoImplicit false

namespace TpmFido2
namespace Ctap2

open Cbor Handler CommandM

/-! ## Signing -/

section
variable (crates : Crates)

/-- The TPM context a command works with: the one that is open, or one that it opens. -/
def currentTpm (env : Env) (w : World) : Option Tpm :=
  match w.auth.tpm, w.auth.tpmPath with
  | some tpm, _ => some tpm
  | none, none => none
  | none, some _ => Tpm.openPath env.tpm
      (Store.loadDefaultPcrPolicy crates (env.store 2) w.store).1.toOption.join

/-- The signature of a TPM over some data, with the key of a credential. -/
def signatureWith (device : TpmDevice) (tpm : Tpm) (c : Credential) (data : List UInt8) :
    Option (List UInt8) :=
  if c.policy.any fun p ↦ ¬ StoredPcrPolicy.isVersionSupported p.policyVersion then none
  else signDigestWithPolicy device tpm c.key (c.policy.map StoredPcrPolicy.toPcrPolicyBinding)
    (c.recovery.map StoredRecoverySlot.key) (crates.sha256 data)

/-- The credentials of the session's user can be read. -/
def loads (env : Env) (w : World) : Bool :=
  (Store.loadCtap2Credentials crates (env.store 1) w.auth.session.uid w.store).1.toOption.isSome

/-- The assertion a credential gets. -/
def assertionFor (c : Credential) (userVerified : Bool) (signature : List UInt8) : Assertion :=
  ⟨c, saturatingSucc c.signCount, userVerified, signature⟩

/-- The world once the assertion of a credential is let out. -/
def World.counted (tpm : Tpm) (index : Nat) (c : Credential) (w : World) : World :=
  ⟨{ w.store with
      credentials := w.store.credentials.update c.id
        (Store.withSignCount (saturatingSucc c.signCount)) fun _ ↦ rfl },
    { w.auth with
      tpm := some tpm
      credentials := w.auth.credentials.modify index
        fun c' ↦ { c' with signCount := saturatingSucc c.signCount } }⟩

/-! ## The property -/

/-- The turn of a credential. -/
structure Turn where
  env : Env
  credential : Credential
  signature : List UInt8

/-- What the credential of a turn signs. -/
def Turn.signedData (userVerified : Bool) (clientDataHash : List UInt8) (t : Turn) : List UInt8 :=
  (assertionFor t.credential userVerified t.signature).authData crates ++ clientDataHash

/-- The TPM signs and the counter can be written. -/
structure Turn.Succeeds (w : World) (tpm : Tpm) (clientDataHash : List UInt8) (userVerified : Bool)
    (t : Turn) : Prop where
  signs : signatureWith crates t.env.tpm tpm t.credential
    (t.signedData crates userVerified clientDataHash) = some t.signature
  writes : (Store.updateCtap2SignCount (t.env.store 3) t.credential.id
    (saturatingSucc t.credential.signCount) w.store).1.toOption.isSome

/-- The request comes in time, in the same session and while there is a passphrase. -/
structure Turn.Continues (w : World) (since : Nat) (t : Turn) : Prop where
  passphrase : passphraseSet crates (t.env.store 0) w.store
  session : w.auth.session.matchesCurrent t.env 0
  inTime : t.env.now 0 - since ≤ seconds 30

/-- The answer of a turn: descriptor, authenticator data, signature and user, and the number of
credentials where it is announced. -/
def Turn.answer (userVerified : Bool) (announced : Option Nat) (t : Turn) : Reply :=
  .cbor (encodeResponse crates (.map ([
    (.integer 1, credentialDescriptor t.credential.id),
    (.integer 2, .bytes (makeAuthData crates t.credential.rpId
      (0x01 ||| if userVerified then 0x04 else 0) (saturatingSucc t.credential.signCount)
      none none)),
    (.integer 3, .bytes t.signature),
    (.integer 4, .map (userEntity t.credential userVerified))] ++ totalEntry 5 announced)))

/-- An authentication in which nothing goes wrong: getAssertion with the body given at the first
turn, and getNextAssertion at all others. -/
structure Undisturbed (w : World) (body : List UInt8) (r : GetAssertionRequest)
    (allowList : Option (List Value)) (userVerified : Bool) (tpm : Tpm) (first : Turn)
    (rest : List Turn) : Prop where
  passphrase : passphraseSet crates (first.env.store 0) w.store
  checks : assertionChecks crates first.env w body = some (r, allowList, userVerified)
  approved : w.auth.assertionApproved first.env 1 r.rpId
  /-- There is one turn for each credential that matches, in the order of the list. -/
  matching : (first :: rest).map Turn.credential =
    (readAgain crates first.env w).auth.credentials.filter (matchesRequest r.rpId allowList)
  opened : currentTpm crates first.env w = some tpm
  succeeds : ∀ t ∈ first :: rest, t.Succeeds crates w tpm r.clientDataHash userVerified
  continues : ∀ t ∈ rest, t.Continues crates w (first.env.now 1)

/-- The requests of the turns after the first. -/
def nextEvents (turns : List Turn) : List Event := turns.map fun t ↦ .cbor t.env [0x08]

/-- The requests of an authentication. -/
def turnEvents (body : List UInt8) (first : Turn) (rest : List Turn) : List Event :=
  .cbor first.env (0x02 :: body) :: nextEvents rest

/-- The two requests are the same but for the allow list. -/
structure SameButAllowList (request request' : Entries) : Prop where
  rpId : mapText request' (.int 1) = mapText request (.int 1)
  clientDataHash : mapBytes request' (.int 2) = mapBytes request (.int 2)
  options : mapMap request' (.int 5) = mapMap request (.int 5)
  authParam : mapBytes request' (.int 6) = mapBytes request (.int 6)
  protocol : mapInteger request' (.int 7) = mapInteger request (.int 7)

/-- A getAssertion request for one credential of an authentication: the same request, with an allow
list that names no other credential.  It is let through, the user approves, the credentials can be
read, the TPM signs and the counter can be written. -/
structure Direct (w : World) (credentials : List Credential) (body body' : List UInt8)
    (rpId : String) (userVerified : Bool) (clientDataHash : List UInt8) (t : Turn) : Prop where
  passphrase : passphraseSet crates (t.env.store 0) w.store
  request : ∃ request request' list, decodeMap crates body = .ok request ∧
    decodeMap crates body' = .ok request' ∧ SameButAllowList request request' ∧
    mapArray request' (.int 3) = some list ∧
    credentials.filter (fun c ↦ credentialDescriptorListContains list c.id) = [t.credential]
  accepted : (assertionChecks crates t.env w body').isSome
  approved : w.auth.assertionApproved t.env 1 rpId
  loads : w.auth.tpmPath.isSome → loads crates t.env w
  succeeds : ∃ tpm, currentTpm crates t.env w = some tpm ∧
    t.Succeeds crates w tpm clientDataHash userVerified

/-- **The answers of an authentication.** -/
structure Exact (w : World) (body : List UInt8) (r : GetAssertionRequest) (userVerified : Bool)
    (first : Turn) (rest : List Turn) : Prop where
  /-- Each credential gets its answer, the first one with the number of credentials if there are
  several. -/
  answers : (run crates w (turnEvents body first rest)).map Run.Transition.output =
    first.answer crates userVerified
        (if 1 < (first :: rest).length then some (first :: rest).length else none) ::
      rest.map (Turn.answer crates userVerified none)
  /-- Then there are no more. -/
  finished : ∀ env, passphraseSet crates (env.store 0) w.store →
    (step crates (after crates w (turnEvents body first rest)) (.cbor env [0x08])).1 =
      .cbor [ErrorStatus.noCredentials.byte]
  /-- A request for the credential alone, instead of the one at its turn, gets the same answer but
  for the signature. -/
  direct : ∀ (n : Nat) (t t' : Turn) (body' : List UInt8), (first :: rest)[n]? = some t →
    t'.credential = t.credential →
    Direct crates (after crates w ((turnEvents body first rest).take n))
      (readAgain crates first.env w).auth.credentials body body' r.rpId userVerified
      r.clientDataHash t' →
    (step crates (after crates w ((turnEvents body first rest).take n))
      (.cbor t'.env (0x02 :: body'))).1 = t'.answer crates userVerified none

end

variable {crates : Crates} {env : Env} {w : World} {body : List UInt8} {c : Credential}
  {index : Nat} {tpm : Tpm} {clientDataHash signature : List UInt8} {userVerified : Bool}

/-! ## One signature -/

theorem ensureTpm_apply (crates : Crates) (env : Env) (w : World) :
    ensureTpm crates env w = (.ok (currentTpm crates env w),
      { w with auth := { w.auth with tpm := currentTpm crates env w } }) := by
  obtain ⟨s, tpmPath, tpm, session, credentials, pending, pin, agreement, token, management⟩ := w
  cases tpm with
  | some tpm => rfl
  | none =>
    cases tpmPath with
    | none => rfl
    | some path =>
      have hsafe : Safe (Store.loadDefaultPcrPolicy crates (env.store 2)) s :=
        Store.loadDefaultPcrPolicy_safe s
      have hsame : s = (Store.loadDefaultPcrPolicy crates (env.store 2) s).2 :=
        Store.loadDefaultPcrPolicy_moves s
      rw [Safe] at hsafe
      simp only [ensureTpm, bind_def, auth, gets_apply, currentTpm, CommandM.store, zoom]
      cases hload : Store.loadDefaultPcrPolicy crates (env.store 2) s with
      | mk o s' =>
        rw [hload] at hsafe hsame
        obtain rfl : s = s' := hsame
        cases o with
        | panicked => exact absurd rfl hsafe
        | ok indices =>
          simp only [Except.toOption, Outcome.toOption, Option.join_some]
          cases Tpm.openPath env.tpm indices <;> rfl
        | error e =>
          simp only [Except.toOption, Outcome.toOption, Option.join_none]
          cases Tpm.openPath env.tpm none <;> rfl

/-- Signing succeeds with the signature of the TPM. -/
theorem signCredential_of_signs {data : List UInt8} (hopened : currentTpm crates env w = some tpm)
    (hsigns : signatureWith crates env.tpm tpm c data = some signature) :
    signCredential crates env c.key c.policy c.recovery data w =
      (.ok signature, { w with auth := { w.auth with tpm := some tpm } }) := by
  rw [signatureWith] at hsigns
  split at hsigns
  · cases hsigns
  · next hversion =>
    rw [signCredential, bind_of_ok _ (throwIf_of_not hversion w),
      bind_of_ok _ (ensureTpm_apply crates env w), hopened]
    simp only [ofOption, pure_apply, bind_def, hsigns]

/-- A counter can be written as long as the store has the same credentials. -/
theorem updateCtap2SignCount_of_ids {fault : StoreFault} {id : List UInt8} {n : UInt32}
    {s s' : Store} (hids : s'.credentials.rows.map CredentialRow.credentialId =
      s.credentials.rows.map CredentialRow.credentialId)
    (h : (Store.updateCtap2SignCount fault id n s).1.toOption.isSome) :
    Store.updateCtap2SignCount fault id n s' = (.ok (), { s' with
      credentials := s'.credentials.update id (Store.withSignCount n) fun _ ↦ rfl }) := by
  have happly : Store.updateCtap2SignCount fault id n s = _ := Store.updateRow_apply fault id
    (fun _ ↦ true) (Store.withSignCount n) (fun _ ↦ rfl) s
  rw [happly] at h
  split at h
  · cases h
  · next hfault =>
    split at h
    · next hfind =>
      obtain ⟨row, hrow, -⟩ := (Option.any_eq_true _ _).mp hfind
      obtain ⟨hmem, rfl⟩ := (Table.find_eq_some_iff _ _ _).mp hrow
      have hid : row.credentialId ∈ s'.credentials.rows.map CredentialRow.credentialId := by
        rw [hids]
        exact List.mem_map_of_mem hmem
      obtain ⟨row', hrow', hid'⟩ := List.mem_map.mp hid
      rw [← hid']
      exact Store.updateRow_of_mem hfault hrow' rfl
    · cases h

/-- **Letting an assertion out**, where nothing goes wrong. -/
theorem releaseAssertion_of_succeeds (hc : w.auth.credentials[index]? = some c)
    (hopened : currentTpm crates env w = some tpm)
    (hsigns : signatureWith crates env.tpm tpm c
      ((assertionFor c userVerified signature).authData crates ++ clientDataHash) = some signature)
    (hwrites : Store.updateCtap2SignCount (env.store 3) c.id (saturatingSucc c.signCount) w.store =
      (.ok (), (w.counted tpm index c).store)) :
    releaseAssertion crates env index clientDataHash userVerified w =
      (.ok (assertionFor c userVerified signature), w.counted tpm index c) := by
  have hexpect : (expect w.auth.credentials[index]? : CommandM Credential) w = (.ok c, w) := by
    rw [hc]
    rfl
  have hsigns' : signatureWith crates env.tpm tpm c (makeAuthData crates c.rpId
      (0x01 ||| if userVerified then 0x04 else 0) (saturatingSucc c.signCount) none none ++
        clientDataHash) = some signature := hsigns
  let w₁ : World := { w with auth := { w.auth with tpm := some tpm } }
  have hstores : storeOrDeny (Store.updateCtap2SignCount (env.store 3) c.id
      (saturatingSucc c.signCount)) w₁ = (.ok (), { w₁ with store := _ }) :=
    storeOrDeny_of_ok hwrites
  rw [releaseAssertion, bind_of_ok _ (auth_apply w), bind_of_ok _ hexpect,
    bind_of_ok _ (signCredential_of_signs hopened hsigns')]
  exact bind_of_ok _ hstores

/-! ## One request -/

/-- The world in which getAssertion lets its assertion out. -/
def chosenWorld (crates : Crates) (env : Env) (w : World) (r : GetAssertionRequest)
    (userVerified : Bool) (remaining : List Nat) : World :=
  ⟨(readAgain crates env w).store, { (readAgain crates env w).auth with
    pendingAssertion := pendingFor ⟨r.rpId, r.clientDataHash, [], remaining.length + 1, env.now 1,
      w.auth.session.uid, userVerified⟩ remaining
    management := none }⟩

/-- Whether there is a passphrase depends on its row only. -/
theorem passphraseSet_congr {fault : StoreFault} {s s' : Store}
    (h : s'.daemonPassphrase = s.daemonPassphrase) :
    passphraseSet crates fault s' = passphraseSet crates fault s := by
  simp only [passphraseSet, passphraseIn, Store.loadDaemonPassphrase, bind_def, throwIf, get_apply]
  cases fault.io with
  | true => rfl
  | false =>
    simp only [Bool.false_eq_true, if_false, pure_apply, h]
    cases s.daemonPassphrase with
    | none => rfl
    | some blob =>
      cases hread : crates.readPassphrase blob <;>
        simp [hread, bind_def, ofOption, Outcome.toOption]

/-- Reading the credentials again leaves the rest of the store. -/
theorem readAgain_tables (crates : Crates) (env : Env) (w : World) :
    Store.SameTables w.store (readAgain crates env w).store := by
  rw [readAgain]
  split
  · exact Store.loadCtap2Credentials_moves _ w.store
  · exact Store.SameTables.frame.refl _

/-- It does not touch the TPM either. -/
theorem currentTpm_readAgain (crates : Crates) (env : Env) (w : World) :
    currentTpm crates env (readAgain crates env w) = currentTpm crates env w := by
  have hload : (Store.loadDefaultPcrPolicy crates (env.store 2) (readAgain crates env w).store).1 =
      (Store.loadDefaultPcrPolicy crates (env.store 2) w.store).1 :=
    Store.loadDefaultPcrPolicy_congr (readAgain_tables crates env w).defaultPcrPolicy
  rw [currentTpm, currentTpm, hload, readAgain_auth]

/-- **getAssertion**, where nothing goes wrong. -/
theorem getAssertion_step {r : GetAssertionRequest} {allowList : Option (List Value)}
    {remaining : List Nat} (hpassphrase : passphraseSet crates (env.store 0) w.store)
    (hchecks : assertionChecks crates env w body = some (r, allowList, userVerified))
    (hidx : matchingCredentialIndexes (readAgain crates env w).auth.credentials r.rpId allowList =
      index :: remaining)
    (happroved : w.auth.assertionApproved env 1 r.rpId)
    (hc : (readAgain crates env w).auth.credentials[index]? = some c)
    (hopened : currentTpm crates env w = some tpm)
    (hsigns : signatureWith crates env.tpm tpm c
      ((assertionFor c userVerified signature).authData crates ++ r.clientDataHash) =
        some signature)
    (hwrites : (Store.updateCtap2SignCount (env.store 3) c.id (saturatingSucc c.signCount)
      w.store).1.toOption.isSome) :
    step crates w (.cbor env (0x02 :: body)) =
      (.cbor ((assertionFor c userVerified signature).response crates (remaining.length + 1)),
        (chosenWorld crates env w r userVerified remaining).counted tpm index c) := by
  let w₁ : World := chosenWorld crates env w r userVerified remaining
  have hrelease : releaseAssertion crates env index r.clientDataHash userVerified w₁ =
      (.ok (assertionFor c userVerified signature), w₁.counted tpm index c) := by
    refine releaseAssertion_of_succeeds hc ?_ hsigns (updateCtap2SignCount_of_ids ?_ hwrites)
    · exact (currentTpm_readAgain crates env w).trans hopened
    · exact congrArg (fun t ↦ t.rows.map CredentialRow.credentialId)
        (readAgain_looked crates env w).stored
  have hfirst : firstAssertion crates env body (w.enter .getAssertion) =
      (.ok (assertionFor c userVerified signature, remaining.length + 1),
        w₁.counted tpm index c) := by
    have hstore : (w.enter .getAssertion).store = w.store := rfl
    rw [firstAssertion, bind_of_ok _ (requirePassphrase_of_set _ (hstore ▸ hpassphrase)),
      getAssertionReleased]
    have hselect : selectAssertion crates env body (w.enter .getAssertion) =
        (.ok (r, userVerified, index, remaining), (readAgain crates env w).enter
          .getAssertion) := by
      have happroved : (w.enter .getAssertion).auth.assertionApproved env 1 r.rpId = true :=
        happroved
      have hidx' : matchingCredentialIndexes ((readAgain crates env w).enter
        .getAssertion).auth.credentials r.rpId allowList = index :: remaining := hidx
      have h := selectAssertion_of_checks (w := w.enter .getAssertion) hchecks
      rwa [readAgain_enter, hidx', happroved] at h
    have hchosen : (⟨(readAgain crates env w).store, { ((readAgain crates env w).enter
        .getAssertion).auth with
          pendingAssertion := pendingFor ⟨r.rpId, r.clientDataHash, [], remaining.length + 1,
            env.now 1, (readAgain crates env w).auth.session.uid, userVerified⟩ remaining }⟩ :
        World) = w₁ := by
      rw [readAgain_session]
      rfl
    refine (bind_of_ok _ hselect).trans ((bind_of_ok _ (modifyAuth_apply _ _)).trans ?_)
    exact (congrArg (releaseAssertion crates env index r.clientDataHash userVerified >>=
      fun x ↦ pure (x, remaining.length + 1)) hchosen).trans (bind_of_ok _ hrelease)
  rw [step_cbor rfl, gatedCommand_getAssertion, bind_of_ok _ hfirst]
  rfl

/-- **getNextAssertion**, where nothing goes wrong. -/
theorem getNextAssertion_step {p : PendingAssertion} {remaining : List Nat}
    (hpending : w.auth.pendingAssertion = some p) (hidx : p.credentialIndexes = index :: remaining)
    (hpassphrase : passphraseSet crates (env.store 0) w.store)
    (hsession : w.auth.session.matchesCurrent env 0) (huid : p.sessionUid = w.auth.session.uid)
    (htime : env.now 0 - p.createdAt ≤ seconds 30) (hc : w.auth.credentials[index]? = some c)
    (hopened : w.auth.tpm = some tpm)
    (hsigns : signatureWith crates env.tpm tpm c
      ((assertionFor c p.userVerified signature).authData crates ++ p.clientDataHash) =
        some signature)
    (hwrites : (Store.updateCtap2SignCount (env.store 3) c.id (saturatingSucc c.signCount)
      w.store).1.toOption.isSome) :
    step crates w (.cbor env [0x08]) =
      (.cbor ((assertionFor c p.userVerified signature).response crates 0),
        ({ w with auth := { w.auth with
            pendingAssertion := pendingFor p remaining
            management := none } } : World).counted tpm index c) := by
  have hwrites' := updateCtap2SignCount_of_ids (s := w.store) rfl hwrites
  let w₁ : World := { w with auth := { w.auth with
    pendingAssertion := pendingFor p remaining, management := none } }
  have hrelease : releaseAssertion crates env index p.clientDataHash p.userVerified w₁ =
      (.ok (assertionFor c p.userVerified signature), w₁.counted tpm index c) := by
    refine releaseAssertion_of_succeeds hc ?_ hsigns hwrites'
    rw [currentTpm]
    simp only [w₁, hopened]
  have hnext : nextAssertion crates env [] (w.enter .getNextAssertion) =
      (.ok (assertionFor c p.userVerified signature), w₁.counted tpm index c) := by
    have hstore : (w.enter .getNextAssertion).store = w.store := rfl
    rw [nextAssertion, bind_of_ok _ (requirePassphrase_of_set _ (hstore ▸ hpassphrase)),
      getNextAssertionReleased, bind_of_ok _ (throwIf_of_not (by simp) _)]
    have htake : (ofOption (w.enter .getNextAssertion).auth.pendingAssertion .noCredentials :
        CommandM PendingAssertion) (w.enter .getNextAssertion) =
          (.ok p, w.enter .getNextAssertion) := by
      have hp : (w.enter .getNextAssertion).auth.pendingAssertion = some p := hpending
      rw [hp]
      rfl
    have hallowed : ¬ (seconds 30 < env.now 0 - p.createdAt ∨
        p.sessionUid ≠ (w.enter .getNextAssertion).auth.session.uid ∨
        ¬ (w.enter .getNextAssertion).auth.session.matchesCurrent env 0) := by
      rintro (h | h | h)
      · omega
      · exact h huid
      · exact h hsession
    rw [bind_of_ok _ (auth_apply _), bind_of_ok _ htake, bind_of_ok _ (modifyAuth_apply _ _),
      bind_of_ok _ (throwIf_of_not hallowed _), hidx]
    exact hrelease
  rw [step_cbor rfl, gatedCommand_getNextAssertion, bind_of_ok _ hnext]
  rfl

/-- **getNextAssertion**, after the last credential. -/
theorem getNextAssertion_finished (hpending : w.auth.pendingAssertion = none)
    (hpassphrase : passphraseSet crates (env.store 0) w.store) :
    (step crates w (.cbor env [0x08])).1 = .cbor [ErrorStatus.noCredentials.byte] := by
  have hstore : (w.enter .getNextAssertion).store = w.store := rfl
  have htake : (ofOption (w.enter .getNextAssertion).auth.pendingAssertion .noCredentials :
      CommandM PendingAssertion) (w.enter .getNextAssertion) =
        (.error .noCredentials, w.enter .getNextAssertion) := by
    have hp : (w.enter .getNextAssertion).auth.pendingAssertion = none := hpending
    rw [hp]
    rfl
  have hnext : nextAssertion crates env [] (w.enter .getNextAssertion) =
      (.error .noCredentials, w.enter .getNextAssertion) := by
    rw [nextAssertion, bind_of_ok _ (requirePassphrase_of_set _ (hstore ▸ hpassphrase)),
      getNextAssertionReleased, bind_of_ok _ (throwIf_of_not (by simp) _),
      bind_of_ok _ (auth_apply _), bind_of_error _ htake]
  rw [step_cbor rfl, gatedCommand_getNextAssertion, bind_of_error _ hnext]
  rfl

/-! ## Memory and store

A request for one credential reads the list again.  It gets the list that is in memory, if that was
loaded before and has followed the table since. -/

/-- The list in memory is what loading would give. -/
def Mirrors (crates : Crates) (w : World) : Prop :=
  List.Forall₂ (Holds crates w.auth.session.uid) (userRows w) w.auth.credentials

theorem Mirrors.distinctIds (h : Mirrors crates w) : DistinctIds w := by
  have hids : w.auth.credentials.map Credential.id =
      (userRows w).map CredentialRow.credentialId := by
    rw [eq_comm]
    exact h.map_eq_map fun row c hrow ↦ hrow.describes.id.symm
  rw [DistinctIds, hids]
  exact Store.nodup_selectCredentials _ _

/-- Letting an assertion out changes the list as it changes the table. -/
theorem Mirrors.counted (h : Mirrors crates w) (hc : w.auth.credentials[index]? = some c) :
    Mirrors crates (w.counted tpm index c) := by
  have hrows : userRows (w.counted tpm index c) = (userRows w).map fun row ↦
      if row.credentialId = c.id then Store.withSignCount (saturatingSucc c.signCount) row
        else row :=
    Store.selectCredentials_update _ _ _ (fun _ ↦ rfl) (fun _ ↦ rfl) fun _ ↦ rfl
  have hlist : (w.counted tpm index c).auth.credentials = _ := h.distinctIds.modify_eq hc _
  rw [Mirrors, hrows, hlist, List.forall₂_map_left_iff, List.forall₂_map_right_iff]
  refine h.imp fun row c' hrow ↦ ?_
  by_cases hid : row.credentialId = c.id
  · rw [if_pos hid, if_pos (hrow.describes.id.trans hid)]
    exact hrow.withSignCount _
  · rw [if_neg hid, if_neg (fun h ↦ hid (hrow.describes.id.symm.trans h))]
    exact hrow

/-- What is read is what the rows hold. -/
theorem forall₂_readAgain (hpath : w.auth.tpmPath.isSome) (hloads : loads crates env w) :
    List.Forall₂ (Holds crates w.auth.session.uid) (userRows w)
      (readAgain crates env w).auth.credentials := by
  rw [loads] at hloads
  rw [readAgain, if_pos hpath]
  cases hload : Store.loadCtap2Credentials crates (env.store 1) w.auth.session.uid w.store with
  | mk o s =>
    rw [hload] at hloads
    cases o with
    | ok stored =>
      change List.Forall₂ _ _ (stored.map StoredCtap2Credential.toCredential)
      rw [List.forall₂_map_right_iff]
      refine (Store.loadCtap2Credentials_ok hload).imp fun row c hrow ↦ ?_
      rw [Holds, hrow]
      rfl
    | error e => cases hloads
    | panicked => cases hloads

/-- What was read mirrors the table, unless nothing could be read. -/
theorem mirrors_readAgain (hpath : w.auth.tpmPath.isSome)
    (hsome : (readAgain crates env w).auth.credentials ≠ []) :
    Mirrors crates (readAgain crates env w) := by
  have hrows : userRows (readAgain crates env w) = userRows w := by
    rw [userRows, userRows, readAgain_session, Store.selectCredentials, Store.selectCredentials,
      (readAgain_tables crates env w).credentials]
  rw [Mirrors, hrows, readAgain_session]
  refine forall₂_readAgain hpath ?_
  by_contra hfails
  refine hsome ?_
  rw [readAgain, if_pos hpath]
  rw [loads, Option.not_isSome_iff_eq_none] at hfails
  simp [hfails]

/-- Reading again gives the list that mirrors the table. -/
theorem readAgain_of_mirrors {w' : World} (hmirrors : Mirrors crates w')
    (hsession : w'.auth.session = w.auth.session)
    (hstored : w'.store.credentials = w.store.credentials) (hpath : w.auth.tpmPath.isSome)
    (hloads : loads crates env w) :
    (readAgain crates env w).auth.credentials = w'.auth.credentials := by
  have hrows : userRows w' = userRows w := by
    rw [userRows, userRows, hsession, Store.selectCredentials, Store.selectCredentials, hstored]
  rw [Mirrors, hrows, hsession] at hmirrors
  refine (forall₂_readAgain hpath hloads).right_unique (fun row c c' h h' ↦ ?_) hmirrors
  exact Option.some.inj (h.symm.trans h')

/-- So does a list that mirrors it already, or that is never read. -/
theorem readAgain_kept (hmirrors : w.auth.tpmPath.isSome → Mirrors crates w)
    (hloads : w.auth.tpmPath.isSome → loads crates env w) :
    (readAgain crates env w).auth.credentials = w.auth.credentials := by
  by_cases hpath : w.auth.tpmPath.isSome
  · exact readAgain_of_mirrors (hmirrors hpath) rfl rfl hpath (hloads hpath)
  · rw [readAgain, if_neg hpath]

/-! ## Which credentials match -/

/-- What the choice looks at. -/
def lookedAt (c : Credential) : List UInt8 × String × Bool := (c.id, c.rpId, c.discoverable)

theorem matchingCredentialIndexes_congr {cs cs' : List Credential}
    (h : cs'.map lookedAt = cs.map lookedAt) (rpId : String) (allowList : Option (List Value)) :
    matchingCredentialIndexes cs' rpId allowList = matchingCredentialIndexes cs rpId allowList := by
  have hlength : cs'.length = cs.length := by
    rw [← List.length_map lookedAt, h, List.length_map]
  rw [matchingCredentialIndexes, matchingCredentialIndexes, hlength]
  refine List.filter_congr fun i _ ↦ ?_
  have hi : (cs'[i]?).map lookedAt = (cs[i]?).map lookedAt := by
    rw [← List.getElem?_map, h, List.getElem?_map]
  cases hc : cs[i]? with
  | none =>
    rw [hc, Option.map_none, Option.map_eq_none_iff] at hi
    rw [hi]
  | some c =>
    rw [hc] at hi
    obtain ⟨c', hc', hlooked⟩ := Option.map_eq_some_iff.mp hi
    rw [hc', Option.any_some, Option.any_some]
    -- whether a credential matches can be seen from what is looked at
    obtain ⟨hid, hother⟩ := Prod.mk.inj hlooked
    obtain ⟨hrp, hdisc⟩ := Prod.mk.inj hother
    unfold matchesRequest
    rw [hid, hrp, hdisc]

/-- **The credentials that match**, at their positions. -/
theorem forall₂_matchingCredentialIndexes (cs : List Credential) (rpId : String)
    (allowList : Option (List Value)) :
    List.Forall₂ (fun i c ↦ cs[i]? = some c) (matchingCredentialIndexes cs rpId allowList)
      (cs.filter (matchesRequest rpId allowList)) :=
  List.forall₂_filter_range cs _

theorem nodup_matchingCredentialIndexes (cs : List Credential) (rpId : String)
    (allowList : Option (List Value)) : (matchingCredentialIndexes cs rpId allowList).Nodup :=
  List.nodup_range.filter _

/-- An allow list that names one credential of the RP. -/
theorem matchingCredentialIndexes_eq_singleton {cs : List Credential} {rpId : String}
    {list : List Value} {i : Nat} (hi : cs[i]? = some c) (hrp : c.rpId = rpId)
    (hnames : cs.filter (fun c ↦ credentialDescriptorListContains list c.id) = [c]) :
    matchingCredentialIndexes cs rpId (some list) = [i] := by
  let named (c : Credential) : Bool := credentialDescriptorListContains list c.id
  have hnamed : named c := by
    have hmem : c ∈ cs.filter named := hnames ▸ List.mem_singleton_self c
    exact (List.mem_filter.mp hmem).2
  -- only one position has a credential that is named
  have hone : ∃ j, ∀ (k : Nat) c', cs[k]? = some c' → named c' → k = j := by
    have h := List.forall₂_filter_range cs named
    rw [hnames] at h
    cases hidx : (List.range cs.length).filter fun i ↦ (cs[i]?).any named with
    | nil =>
      rw [hidx] at h
      cases h
    | cons j js =>
      rw [hidx] at h
      cases h with
      | cons _ h =>
        cases h
        refine ⟨j, fun k c' hk hc' ↦ List.mem_singleton.mp ?_⟩
        rw [← hidx, List.mem_filter, hk]
        exact ⟨List.mem_range.mpr (List.getElem?_eq_some_iff.mp hk).1, hc'⟩
  obtain ⟨j, hj⟩ := hone
  have hmatches : ∀ c', matchesRequest rpId (some list) c' =
      (decide (c'.rpId = rpId) && named c') := by
    cases list with
    | nil => cases hnamed
    | cons entry list => exact fun c' ↦ rfl
  refine List.perm_singleton.mp ((List.perm_ext_iff_of_nodup
    (nodup_matchingCredentialIndexes cs rpId _) (List.nodup_singleton i)).mpr fun k ↦ ?_)
  rw [List.mem_singleton]
  constructor
  · intro hk
    obtain ⟨c', hc', hmatch⟩ := mem_matchingCredentialIndexes hk
    rw [hmatches, Bool.and_eq_true] at hmatch
    rw [hj k c' hc' hmatch.2, hj i c hi hnamed]
  · rintro rfl
    rw [matchingCredentialIndexes, List.mem_filter, hi]
    refine ⟨List.mem_range.mpr (List.getElem?_eq_some_iff.mp hi).1, ?_⟩
    rw [Option.any_some, hmatches, hnamed, Bool.and_true, decide_eq_true hrp]

/-! ## The credentials that remain -/

/-- What the requests for the credentials at some positions depend on is as it was in `w`, with the
list `cs`. -/
structure Keeps (crates : Crates) (w : World) (cs : List Credential) (positions : List Nat)
    (w' : World) : Prop where
  session : w'.auth.session = w.auth.session
  tpmPath : w'.auth.tpmPath = w.auth.tpmPath
  passphrase : w'.store.daemonPassphrase = w.store.daemonPassphrase
  ids : w'.store.credentials.rows.map CredentialRow.credentialId =
    w.store.credentials.rows.map CredentialRow.credentialId
  looked : w'.auth.credentials.map lookedAt = cs.map lookedAt
  cached : ∀ i ∈ positions, w'.auth.credentials[i]? = cs[i]?
  mirrors : w'.auth.tpmPath.isSome → Mirrors crates w'

/-- The assertion of one credential leaves what the others depend on. -/
theorem Keeps.counted {cs : List Credential} {positions : List Nat} {w' : World}
    (h : Keeps crates w cs (index :: positions) w') (hc : w'.auth.credentials[index]? = some c)
    (hnodup : index ∉ positions) : Keeps crates w cs positions (w'.counted tpm index c) where
  session := h.session
  tpmPath := h.tpmPath
  passphrase := h.passphrase
  ids := by
    rw [← h.ids]
    exact Table.map_key_update w'.store.credentials c.id
      (Store.withSignCount (saturatingSucc c.signCount)) fun _ ↦ rfl
  looked := by
    rw [← h.looked]
    exact List.map_modify_of_comp _ _ fun _ ↦ rfl
  cached i hi := by
    have hne : index ≠ i := fun h ↦ hnodup (h ▸ hi)
    rw [← h.cached i (List.mem_cons_of_mem _ hi)]
    change (w'.auth.credentials.modify index _)[i]? = _
    rw [List.getElem?_modify]
    simp [hne]
  mirrors hpath := (h.mirrors hpath).counted hc

/-- The daemon waits for the requests for the credentials at some positions. -/
structure Waiting (crates : Crates) (w : World) (cs : List Credential) (tpm : Tpm)
    (p : PendingAssertion) (positions : List Nat) (w' : World) : Prop
    extends Keeps crates w cs positions w' where
  pending : w'.auth.pendingAssertion = pendingFor p positions
  tpm : w'.auth.tpm = some tpm

/-- **The next request** gets its answer, and the daemon waits for those after it. -/
theorem Waiting.next {cs : List Credential} {p : PendingAssertion} {positions : List Nat}
    {w' : World} {t : Turn} (h : Waiting crates w cs tpm p (index :: positions) w')
    (hc : cs[index]? = some t.credential) (hnodup : index ∉ positions)
    (huid : p.sessionUid = w.auth.session.uid)
    (hsucceeds : t.Succeeds crates w tpm p.clientDataHash p.userVerified)
    (hcontinues : t.Continues crates w p.createdAt) :
    (step crates w' (.cbor t.env [0x08])).1 = t.answer crates p.userVerified none ∧
      Waiting crates w cs tpm p positions (step crates w' (.cbor t.env [0x08])).2 := by
  have hc' : w'.auth.credentials[index]? = some t.credential :=
    (h.cached index List.mem_cons_self).trans hc
  have hwrites : (Store.updateCtap2SignCount (t.env.store 3) t.credential.id
      (saturatingSucc t.credential.signCount) w'.store).1.toOption.isSome := by
    rw [updateCtap2SignCount_of_ids h.ids hsucceeds.writes]
    rfl
  rw [getNextAssertion_step h.pending rfl ((passphraseSet_congr h.passphrase).trans
    hcontinues.passphrase) (h.session ▸ hcontinues.session) (h.session ▸ huid) hcontinues.inTime hc'
    h.tpm hsucceeds.signs hwrites]
  refine ⟨rfl, ⟨?_, rfl, rfl⟩⟩
  have hkeeps : Keeps crates w cs (index :: positions) { w' with auth := { w'.auth with
      pendingAssertion := pendingFor p positions, management := none } } :=
    ⟨h.session, h.tpmPath, h.passphrase, h.ids, h.looked, h.cached, h.mirrors⟩
  exact hkeeps.counted hc' hnodup

section
variable {cs : List Credential} {p : PendingAssertion} {positions : List Nat} {w' : World}
  {turns : List Turn}

/-- **The requests that remain** get their answers, in order. -/
theorem Waiting.answers (h : Waiting crates w cs tpm p positions w')
    (hturns : List.Forall₂ (fun i t ↦ cs[i]? = some t.credential) positions turns)
    (hnodup : positions.Nodup) (huid : p.sessionUid = w.auth.session.uid)
    (hsucceeds : ∀ t ∈ turns, t.Succeeds crates w tpm p.clientDataHash p.userVerified)
    (hcontinues : ∀ t ∈ turns, t.Continues crates w p.createdAt) :
    (run crates w' (nextEvents turns)).map Run.Transition.output =
      turns.map (Turn.answer crates p.userVerified none) := by
  induction hturns generalizing w' with
  | nil => rfl
  | @cons index t positions turns hc _ ih =>
    rw [List.nodup_cons] at hnodup
    rw [List.forall_mem_cons] at hsucceeds hcontinues
    obtain ⟨hanswer, hnext⟩ := h.next hc hnodup.1 huid hsucceeds.1 hcontinues.1
    have hrest := ih hnext hnodup.2 hsucceeds.2 hcontinues.2
    rw [List.map_cons, ← hrest, ← hanswer]
    rfl

/-- Before each of the requests that remain, the daemon waits for it and those after it. -/
theorem Waiting.drop (h : Waiting crates w cs tpm p positions w')
    (hturns : List.Forall₂ (fun i t ↦ cs[i]? = some t.credential) positions turns)
    (hnodup : positions.Nodup) (huid : p.sessionUid = w.auth.session.uid)
    (hsucceeds : ∀ t ∈ turns, t.Succeeds crates w tpm p.clientDataHash p.userVerified)
    (hcontinues : ∀ t ∈ turns, t.Continues crates w p.createdAt) (n : Nat) :
    Waiting crates w cs tpm p (positions.drop n)
      (after crates w' ((nextEvents turns).take n)) := by
  induction hturns generalizing w' n with
  | nil => simpa [nextEvents, Run.final] using h
  | @cons index t positions turns hc _ ih =>
    cases n with
    | zero => exact h
    | succ n =>
      rw [List.nodup_cons] at hnodup
      rw [List.forall_mem_cons] at hsucceeds hcontinues
      obtain ⟨-, hnext⟩ := h.next hc hnodup.1 huid hsucceeds.1 hcontinues.1
      exact ih hnext hnodup.2 hsucceeds.2 hcontinues.2 n

end

/-! ## The whole authentication -/

section
variable {r : GetAssertionRequest} {allowList : Option (List Value)} {first : Turn}
  {rest : List Turn}

/-- What the daemon keeps for the requests after the first. -/
def firstPending (w : World) (r : GetAssertionRequest) (userVerified : Bool) (first : Turn)
    (total : Nat) : PendingAssertion :=
  ⟨r.rpId, r.clientDataHash, [], total, first.env.now 1, w.auth.session.uid, userVerified⟩

/-- **The first request** gets its answer, and the daemon waits for the others. -/
theorem Undisturbed.chosen
    (h : Undisturbed crates w body r allowList userVerified tpm first rest) :
    ∃ index positions, matchingCredentialIndexes (readAgain crates first.env w).auth.credentials
        r.rpId allowList = index :: positions ∧
      List.Forall₂ (fun i (t : Turn) ↦
        (readAgain crates first.env w).auth.credentials[i]? = some t.credential)
        (index :: positions) (first :: rest) ∧
      (step crates w (.cbor first.env (0x02 :: body))).1 = first.answer crates userVerified
        (if 1 < (first :: rest).length then some (first :: rest).length else none) ∧
      Waiting crates w (readAgain crates first.env w).auth.credentials tpm
        (firstPending w r userVerified first (first :: rest).length) positions
        (step crates w (.cbor first.env (0x02 :: body))).2 := by
  have hall := forall₂_matchingCredentialIndexes (readAgain crates first.env w).auth.credentials
    r.rpId allowList
  rw [← h.matching, List.forall₂_map_right_iff] at hall
  have hnodup := nodup_matchingCredentialIndexes (readAgain crates first.env w).auth.credentials
    r.rpId allowList
  cases hidx : matchingCredentialIndexes (readAgain crates first.env w).auth.credentials r.rpId
      allowList with
  | nil =>
    rw [hidx] at hall
    cases hall
  | cons index positions =>
    rw [hidx] at hall hnodup
    have hlength : positions.length + 1 = (first :: rest).length := hall.length_eq
    have hc := (List.forall₂_cons.mp hall).1
    have hsucceeds := h.succeeds first List.mem_cons_self
    rw [getAssertion_step h.passphrase h.checks hidx h.approved hc h.opened hsucceeds.signs
      hsucceeds.writes, hlength]
    refine ⟨index, positions, rfl, hall, rfl, ⟨?_, ?_, rfl⟩⟩
    · have hkeeps : Keeps crates w (readAgain crates first.env w).auth.credentials
          (index :: positions) (chosenWorld crates first.env w r userVerified positions) := by
        have htables := readAgain_tables crates first.env w
        have hlooked := readAgain_looked crates first.env w
        refine ⟨hlooked.session, hlooked.tpmPath, htables.daemonPassphrase, ?_, rfl, fun _ _ ↦ rfl,
          fun hpath ↦ mirrors_readAgain (hlooked.tpmPath ▸ hpath) ?_⟩
        · exact congrArg (fun t ↦ t.rows.map CredentialRow.credentialId) htables.credentials
        · exact List.ne_nil_of_mem (List.mem_of_getElem? hc)
      exact hkeeps.counted hc (List.nodup_cons.mp hnodup).1
    · change pendingFor ⟨_, _, _, positions.length + 1, _, _, _⟩ positions = _
      rw [hlength]
      rfl

/-! ## A request for one credential -/

/-- A user is verified by giving the right parameter. -/
theorem pinUvVerdict_accepted {n : Nat} {protocol : Option Int} {authParam : Option (List UInt8)}
    {message : List UInt8} {permission : Ctap2PermissionFlags} {rpId : Option String} {b : Bool}
    (h : (w.auth.pinUvVerdict crates env n protocol authParam message permission rpId).accepted =
      some b) : b = (protocol.isSome || authParam.isSome) := by
  unfold Authenticator.pinUvVerdict at h
  split at h
  · cases h
  · split at h
    · next habsent =>
      cases h
      simp [Option.isNone_iff_eq_none.mp habsent.1, Option.isNone_iff_eq_none.mp habsent.2]
    · split at h
      · cases h
      · cases h
      · split at h
        · cases h
        · split at h
          · cases h
            simp
          · cases h

/-- What a request that is let through leads to can be read off its entries. -/
theorem assertionChecks_eq_some
    (h : assertionChecks crates env w body = some (r, allowList, userVerified)) :
    ∃ request, decodeMap crates body = .ok request ∧ getAssertionRequest request = .ok r ∧
      allowList = mapArray request (.int 3) ∧
      userVerified = (((mapInteger request (.int 7)).isSome ||
        (mapBytes request (.int 6)).isSome) ||
        wantsUserVerification (mapMap request (.int 5))) := by
  obtain ⟨request, hrequest, h₁⟩ := Option.bind_eq_some_iff.mp h
  obtain ⟨r', hr, h₂⟩ := Option.bind_eq_some_iff.mp h₁
  obtain ⟨verified, hverified, h₃⟩ := Option.bind_eq_some_iff.mp h₂
  obtain ⟨_, hoptions, h₄⟩ := Option.bind_eq_some_iff.mp h₃
  obtain ⟨_, hlist, h₅⟩ := Option.bind_eq_some_iff.mp h₄
  cases h₅
  rw [pinUvVerdict_accepted hverified]
  exact ⟨request, except_eq_ok hrequest, except_eq_ok hr, rfl, rfl⟩

/-- A request that is the same but for the allow list leads to the same. -/
theorem assertionChecks_of_sameButAllowList {env' : Env} {w' : World} {body' : List UInt8}
    {request request' : Entries} {list : List Value}
    (h : assertionChecks crates env w body = some (r, allowList, userVerified))
    (hrequest : decodeMap crates body = .ok request)
    (hrequest' : decodeMap crates body' = .ok request') (hsame : SameButAllowList request request')
    (hlist : mapArray request' (.int 3) = some list)
    (haccepted : (assertionChecks crates env' w' body').isSome) :
    assertionChecks crates env' w' body' = some (r, some list, userVerified) := by
  obtain ⟨⟨r', allowList', userVerified'⟩, h'⟩ := Option.isSome_iff_exists.mp haccepted
  obtain ⟨request₁, hrequest₁, hr, -, rfl⟩ := assertionChecks_eq_some h
  obtain ⟨request₂, hrequest₂, hr', rfl, rfl⟩ := assertionChecks_eq_some h'
  cases hrequest.symm.trans hrequest₁
  cases hrequest'.symm.trans hrequest₂
  have hsame' : getAssertionRequest request' = getAssertionRequest request := by
    rw [getAssertionRequest, getAssertionRequest, hsame.rpId, hsame.clientDataHash]
  obtain rfl : r' = r := Except.ok.inj (hr'.symm.trans (hsame'.trans hr))
  rw [h', hlist, hsame.protocol, hsame.authParam, hsame.options]

/-- **A request for one credential**, where the list that is read has it at a position. -/
theorem direct_answer {cs : List Credential} {body' : List UInt8} {t : Turn} {w' : World}
    (hchecks : assertionChecks crates env w body = some (r, allowList, userVerified))
    (h : Direct crates w' cs body body' r.rpId userVerified r.clientDataHash t)
    (hmatch : matchesRequest r.rpId allowList t.credential) (hc : cs[index]? = some t.credential)
    (hread : (readAgain crates t.env w').auth.credentials[index]? = some t.credential)
    (hlooked : (readAgain crates t.env w').auth.credentials.map lookedAt = cs.map lookedAt) :
    (step crates w' (.cbor t.env (0x02 :: body'))).1 = t.answer crates userVerified none := by
  obtain ⟨request, request', list, hrequest, hrequest', hsame, hlist, hnames⟩ := h.request
  obtain ⟨tpm, hopened, hsucceeds⟩ := h.succeeds
  have hrp : t.credential.rpId = r.rpId := by
    unfold matchesRequest at hmatch
    rw [Bool.and_eq_true, decide_eq_true_eq] at hmatch
    exact hmatch.1
  have hidx : matchingCredentialIndexes (readAgain crates t.env w').auth.credentials r.rpId
      (some list) = [index] := by
    rw [matchingCredentialIndexes_congr hlooked]
    exact matchingCredentialIndexes_eq_singleton hc hrp hnames
  rw [getAssertion_step h.passphrase (assertionChecks_of_sameButAllowList hchecks hrequest hrequest'
    hsame hlist h.accepted) hidx h.approved hread hopened hsucceeds.signs hsucceeds.writes]
  rfl

/-- **Several accounts are answered exactly**, and as they would be one by one. -/
theorem undisturbed_exact (crates : Crates) (w : World) (body : List UInt8)
    (r : GetAssertionRequest) (allowList : Option (List Value)) (userVerified : Bool) (tpm : Tpm)
    (first : Turn) (rest : List Turn)
    (h : Undisturbed crates w body r allowList userVerified tpm first rest) :
    Exact crates w body r userVerified first rest := by
  obtain ⟨index, positions, hidx, hall, hanswer, hwaiting⟩ := h.chosen
  have hnodup : (index :: positions).Nodup := hidx ▸ nodup_matchingCredentialIndexes _ _ _
  have hrest := (List.forall₂_cons.mp hall).2
  have hsucceeds : ∀ t ∈ rest, t.Succeeds crates w tpm r.clientDataHash userVerified :=
    fun t ht ↦ h.succeeds t (List.mem_cons_of_mem _ ht)
  have hdrop := hwaiting.drop hrest (List.nodup_cons.mp hnodup).2 rfl hsucceeds h.continues
  constructor
  · have hanswers := hwaiting.answers hrest (List.nodup_cons.mp hnodup).2 rfl hsucceeds h.continues
    rw [← hanswer]
    exact congrArg (List.cons _) hanswers
  · intro env hpassphrase
    have hend := hdrop rest.length
    rw [List.drop_of_length_le hrest.length_eq.le,
      List.take_of_length_le (by rw [nextEvents, List.length_map])] at hend
    exact getNextAssertion_finished hend.pending
      ((passphraseSet_congr hend.passphrase).trans hpassphrase)
  · intro n t t' body' hn hcredential hdirect
    have hmem : t.credential ∈ (readAgain crates first.env w).auth.credentials.filter
        (matchesRequest r.rpId allowList) :=
      h.matching ▸ List.mem_map_of_mem (List.mem_of_getElem? hn)
    have hmatch := (List.mem_filter.mp hmem).2
    rw [← hcredential] at hmatch
    cases n with
    | zero =>
      cases hn
      have hc := (List.forall₂_cons.mp hall).1
      rw [← hcredential] at hc
      have hread : (readAgain crates t'.env w).auth.credentials =
          (readAgain crates first.env w).auth.credentials := by
        by_cases hpath : w.auth.tpmPath.isSome
        · exact readAgain_of_mirrors (mirrors_readAgain hpath
            (List.ne_nil_of_mem (List.mem_of_getElem? hc))) (readAgain_session _ _ _)
            (readAgain_tables _ _ _).credentials hpath (hdirect.loads hpath)
        · rw [readAgain, readAgain, if_neg hpath, if_neg hpath]
      exact direct_answer h.checks hdirect hmatch hc (hread ▸ hc)
        (congrArg (List.map lookedAt) hread)
    | succ n =>
      obtain ⟨i, hi, hc⟩ := hrest.exists_getElem? hn
      have hkept : Keeps crates w (readAgain crates first.env w).auth.credentials
          (positions.drop n) (after crates w ((turnEvents body first rest).take (n + 1))) :=
        (hdrop n).toKeeps
      have hread := readAgain_kept hkept.mirrors hdirect.loads
      rw [← hcredential] at hc
      refine direct_answer h.checks hdirect hmatch hc ?_ ?_
      · rw [hread, ← hc]
        refine hkept.cached i (List.mem_of_getElem? (i := 0) ?_)
        rw [List.getElem?_drop, Nat.add_zero, hi]
      · rw [hread]
        exact hkept.looked

end

namespace Sample

/-- An authentication with one credential. -/
def getAssertionOf (rpId : String) (id : List UInt8) : Value :=
  .map [(.integer 1, .text rpId), (.integer 2, .bytes (List.replicate 32 0)),
    (.integer 3, .array [credentialDescriptor id])]

/-- The packages of the run with two accounts. -/
def accountPackages : Crates :=
  packages [Sample.makeCredential "a", Sample.getAssertion "a", getAssertionOf "a" (credentialId 2)]

/-- A daemon with two accounts. -/
def twoAccounts : World :=
  after accountPackages
    (newAuthenticator accountPackages (session 1000 0) (some "") Store.fresh) (registered [1, 2])

/-- The turn of the account at a position. -/
def turnAt (i : Nat) : Turn :=
  ⟨session 1000 0, (twoAccounts.auth.credentials[i]?).getD
    (Store.Sample.credential 0 "" 0).toCredential,
    ecdsaDer [] []⟩

/-- The TPM context of the daemon with two accounts. -/
def accountTpm : Tpm := (currentTpm accountPackages (session 1000 0) twoAccounts).getD ⟨[], ""⟩

end Sample

open Sample in
/-- Two accounts, and the second by itself. -/
theorem undisturbed_exact_two_accounts :
    let body := encode (Sample.getAssertion "a")
    Exact accountPackages twoAccounts body ⟨"a", List.replicate 32 0⟩ false (turnAt 0) [turnAt 1] ∧
      ((turnAt 0).credential.id, (turnAt 1).credential.id) = (credentialId 1, credentialId 2) ∧
      (step accountPackages (after accountPackages twoAccounts
        [.cbor (session 1000 0) (0x02 :: body)])
        (.cbor (session 1000 0) (0x02 :: encode (getAssertionOf "a" (credentialId 2))))).1 =
        (turnAt 1).answer accountPackages false none := by
  intro body
  have hchecks : assertionChecks accountPackages (session 1000 0) twoAccounts body =
      some (⟨"a", List.replicate 32 0⟩, none, false) := by rfl
  have hexact : Exact accountPackages twoAccounts body ⟨"a", List.replicate 32 0⟩ false (turnAt 0)
      [turnAt 1] := by
    refine undisturbed_exact accountPackages twoAccounts body _ none false accountTpm (turnAt 0)
      [turnAt 1] ⟨by decide +kernel, hchecks, by decide +kernel, by decide +kernel,
        by decide +kernel, ?_, ?_⟩
    · rintro t ht
      rcases List.mem_pair.mp ht with rfl | rfl
      · exact ⟨by decide +kernel, by decide +kernel⟩
      · exact ⟨by decide +kernel, by decide +kernel⟩
    · rintro t ht
      obtain rfl := List.mem_singleton.mp ht
      exact ⟨by decide +kernel, by decide +kernel, by decide +kernel⟩
  refine ⟨hexact, by decide +kernel, ?_⟩
  refine hexact.direct 1 (turnAt 1) (turnAt 1) _ rfl rfl ⟨by decide +kernel, ?_, by decide +kernel,
    by decide +kernel, by decide +kernel, accountTpm, by decide +kernel, by decide +kernel,
    by decide +kernel⟩
  refine ⟨_, _, _, rfl, rfl, ⟨rfl, rfl, rfl, rfl, rfl⟩, rfl, by decide +kernel⟩

end Ctap2
end TpmFido2
