import Mathlib.Algebra.BigOperators.Group.List.Lemmas
import TpmFido2.Ctap2.Authorisation
import TpmFido2.Ctap2.CommandCodes
import TpmFido2.Ctap2.Pending

/-!
# Listing RPs and credentials

A platform lists what the daemon has in two ways: the RPs with discoverable credentials, and the
discoverable credentials of one RP.  Both work alike.  A request begins the listing, is answered
with the first item and the number of items, and leaves the positions of all items; each request
after it is answered with the item at the next position.  `Listing` stands for either of the two.

* `rpIndexesLoop_eq` — the loop that looks for RPs finds the first discoverable credential of each.
* `rpsBegin_step`, `credentialsBegin_step` and `Listing.next_step` — what one request answers, and
  the world it leaves; `Listing.answers` is about all requests after the first, by induction over
  them.
* `IndexesDenote` — in every reachable state the positions denote what they were computed for.
  Only credential management keeps them, and those of its sub-commands that change the list drop
  them.
* **`listings_complete`** puts these together.
-/

set_option autoImplicit false

namespace TpmFido2
namespace Ctap2

open Bytes Cbor Handler CommandM

/-! ## Requests -/

section
variable (crates : Crates)

/-- What the checks of a management request lead to: the number of its sub-command and its
parameters.  A request that is refused leads to nothing. -/
def managementChecks (env : Env) (w : World) (body : List UInt8) :
    Option (Int × Option Entries) := do
  guard (w.auth.session.matchesCurrent env 0)
  let request ← (decodeMap crates body).toOption
  let n ← mapInteger request (.int 1)
  let params := mapMap request (.int 2)
  guard w.auth.clientPin.isSome
  let _ ← (w.auth.pinUvVerdict crates env 1 (mapInteger request (.int 3))
    (mapBytes request (.int 4)) (managementAuthMessage crates n params) .credentialManagement
    none).accepted
  return (n, params)

/-- A management request with the environment it is handled in. -/
structure Ask where
  env : Env
  body : List UInt8
  subCommand : ManagementSubCommand
  params : Option Entries

/-- The request as an event, with the code 0x0a. -/
def Ask.event (a : Ask) : Event := .cbor a.env (0x0a :: a.body)

/-- The request is let through. -/
structure Ask.Granted (w : World) (a : Ask) : Prop where
  passphrase : passphraseSet crates (a.env.store 0) w.store
  checks : ∃ n, ManagementSubCommand.ofInteger n = some a.subCommand ∧
    managementChecks crates a.env w a.body = some (n, a.params)

/-! ## The two listings -/

/-- What can be listed. -/
inductive Listing where
  | rps
  | credentials
deriving DecidableEq, Repr

/-- The sub-command that begins a listing. -/
def Listing.beginning : Listing → ManagementSubCommand
  | .rps => .enumerateRpsBegin
  | .credentials => .enumerateCredentialsBegin

/-- The sub-command that goes on with it. -/
def Listing.next : Listing → ManagementSubCommand
  | .rps => .enumerateRpsNext
  | .credentials => .enumerateCredentialsNext

/-- The answer for an item. -/
def Listing.answer (l : Listing) (total : Option Nat) (c : Credential) : Reply :=
  match l with
  | .rps => .cbor (encodeRpResponse crates c total)
  | .credentials => .cbor (encodeCredentialManagementResponse crates c total)

/-- What the daemon keeps of a listing. -/
def Listing.state (l : Listing) (indexes : List Nat) (position : Nat) (uid : Option UInt32)
    (createdAt : Nat) : ManagementState :=
  match l with
  | .rps => ⟨indexes, position, [], 0, uid, createdAt⟩
  | .credentials => ⟨[], 0, indexes, position, uid, createdAt⟩

/-- The number of discoverable credentials, and of those that there is room for. -/
def metadataAnswer (w : World) : Reply :=
  .cbor (encodeResponse crates (.map [
    (.integer 1, .integer ((w.auth.credentials.filter Credential.discoverable).length : Nat)),
    (.integer 2, .integer
      (maxResidentCredentials -
        (w.auth.credentials.filter Credential.discoverable).length : Nat))]))

/-- The answer when there is nothing left. -/
def noMore : Reply := .cbor [ErrorStatus.noCredentials.byte]

/-- The answers to requests that go on with a listing or ask for the numbers, if the given answers
are left. -/
def answersTo (w : World) : List Reply → List Ask → List Reply
  | _, [] => []
  | left, a :: asks =>
    if a.subCommand = .getCredsMetadata then metadataAnswer crates w :: answersTo w left asks
    else left.headD noMore :: answersTo w left.tail asks

/-- The requests of a listing: the one that begins it, and others in the thirty seconds after it
that go on with it or ask for the numbers. -/
structure Listed (l : Listing) (w : World) (first : Ask) (asks : List Ask) : Prop where
  begins : first.subCommand = l.beginning
  granted : ∀ a ∈ first :: asks, a.Granted crates w
  continues : ∀ a ∈ asks, a.subCommand = l.next ∨ a.subCommand = .getCredsMetadata
  inTime : ∀ a ∈ asks, a.env.now 1 - first.env.now 2 ≤ seconds 30

/-- **A listing is exact**: it is answered with the items given and their number, and then with
nothing. -/
def ListsExactly (l : Listing) (w : World) (items : List Credential) (first : Ask)
    (asks : List Ask) : Prop :=
  match items with
  | [] => (step crates w first.event).1 = noMore
  | c :: cs =>
    (run crates w ((first :: asks).map Ask.event)).map Run.Transition.output =
      l.answer crates (some (c :: cs).length) c ::
        answersTo crates w (cs.map (l.answer crates none)) asks

/-- The discoverable credentials of an RP. -/
def credentialsOf (w : World) (rpId : String) : List Credential :=
  w.auth.credentials.filter fun c ↦ c.discoverable && c.rpId = rpId

/-- The hash tells the RPs of the credentials apart. -/
def HashesApart (w : World) : Prop :=
  ∀ c ∈ w.auth.credentials, ∀ c' ∈ w.auth.credentials,
    crates.sha256 (utf8 c.rpId) = crates.sha256 (utf8 c'.rpId) → c.rpId = c'.rpId

/-- The request that left the positions, and that they denote the same credentials as then. -/
def IndexesDenote (past : List Step) (w : World) : Prop :=
  ∀ state, w.auth.management = some state → ∃ b ∈ past, ∃ env request n,
    managementRequest crates b.input = some (env, request, n) ∧ b.output.succeeded ∧
    (n = 2 ∧ state.rpIndexes = rpIndexes b.after.auth.credentials ∧ state.credentialIndexes = [] ∨
      n = 4 ∧ state.rpIndexes = [] ∧
        ∃ hash, ((mapMap request (.int 2)).bind fun params ↦ mapBytes params (.int 1)) = some hash ∧
          state.credentialIndexes = credentialIndexesOf crates b.after.auth.credentials hash) ∧
    ∀ i ∈ state.rpIndexes ++ state.credentialIndexes, ∃ c₀ c,
      b.after.auth.credentials[i]? = some c₀ ∧ w.auth.credentials[i]? = some c ∧ c.id = c₀.id ∧
        c.rpId = c₀.rpId ∧ c.discoverable = c₀.discoverable

/-- **Listings are complete and free of duplicates**, in the world that a past leads to. -/
structure ListingsComplete (past : List Step) (w : World) : Prop where
  /-- Each RP is listed once, and the numbers of their credentials add up. -/
  rps : ∃ items : List Credential, (items.map Credential.rpId).Nodup ∧
    (∀ rpId, rpId ∈ items.map Credential.rpId ↔
      ∃ c ∈ w.auth.credentials, c.discoverable ∧ c.rpId = rpId) ∧
    (∀ first asks, Listed crates .rps w first asks →
      ListsExactly crates .rps w items first asks) ∧
    (items.map fun c ↦ (credentialsOf w c.rpId).length).sum =
      (w.auth.credentials.filter Credential.discoverable).length
  /-- For each RP, its discoverable credentials are listed. -/
  credentials : ∀ rpId, (∃ c ∈ w.auth.credentials, c.discoverable ∧ c.rpId = rpId) →
    ∀ first asks, Listed crates .credentials w first asks →
      (first.params.bind fun params ↦ mapBytes params (.int 1)) =
        some (crates.sha256 (utf8 rpId)) →
      ListsExactly crates .credentials w (credentialsOf w rpId) first asks
  indexes : IndexesDenote crates past w

end

variable {crates : Crates} {env : Env} {w : World} {body : List UInt8}

/-! ## One request -/

/-- The world with another listing. -/
def World.managing (w : World) (state : Option ManagementState) : World :=
  { w with auth := { w.auth with management := state } }

/-- The listing, unless it is too old or of another user. -/
def expired (env : Env) (w : World) : Option ManagementState :=
  w.auth.management.filter fun state ↦
    !(seconds 30 < env.now 1 - state.createdAt || state.sessionUid ≠ w.auth.session.uid)

/-- A request that the checks let through is authorised. -/
theorem authoriseManagement_of_checks {n : Int} {params : Option Entries}
    (hchecks : managementChecks crates env w body = some (n, params)) :
    authoriseManagement crates env body w = (.ok (n, params), w.managing (expired env w)) := by
  obtain ⟨_, hsession, h₁⟩ := Option.bind_eq_some_iff.mp hchecks
  obtain ⟨request, hrequest, h₂⟩ := Option.bind_eq_some_iff.mp h₁
  obtain ⟨n', hn, h₃⟩ := Option.bind_eq_some_iff.mp h₂
  obtain ⟨_, hpin, h₄⟩ := Option.bind_eq_some_iff.mp h₃
  obtain ⟨b, hverdict, h₅⟩ := Option.bind_eq_some_iff.mp h₄
  cases h₅
  have hsession' : ¬ ¬ w.auth.session.matchesCurrent env 0 = true := by
    intro hother
    simp [guard, hother] at hsession
  have hpin' : ¬ w.auth.clientPin.isNone = true := by
    intro hnone
    simp [guard, Option.isNone_iff_eq_none.mp hnone] at hpin
  have hnumber : (ofOption (mapInteger request (.int 1)) .missingParameter : CommandM Int) w =
      (.ok n, w) := by
    rw [hn]
    rfl
  rw [authoriseManagement, bind_of_ok _ (auth_apply w), bind_of_ok _ (throwIf_of_not hsession' w),
    bind_of_ok _ (ofExcept_of_some hrequest w), bind_of_ok _ hnumber,
    bind_of_ok _ (throwIf_of_not hpin' w), bind_of_ok _ (validatePinUvAuth_of_accepted hverdict)]
  rfl

theorem credentialManagement_of_checks {n : Int} {params : Option Entries}
    {subCommand : ManagementSubCommand}
    (hchecks : managementChecks crates env w body = some (n, params))
    (hsub : ManagementSubCommand.ofInteger n = some subCommand) :
    credentialManagement crates env body w =
      managementSubCommand crates env subCommand params (w.managing (expired env w)) := by
  rw [credentialManagement, bind_of_ok _ (authoriseManagement_of_checks hchecks)]
  dsimp only
  rw [hsub]
  rfl

theorem managementChecks_of_decodeMap {request : Entries} {n : Int}
    (hsession : w.auth.session.matchesCurrent env 0)
    (hrequest : (decodeMap crates body).toOption = some request)
    (hn : mapInteger request (.int 1) = some n) (hpin : w.auth.clientPin.isSome)
    (hverdict : (w.auth.pinUvVerdict crates env 1 (mapInteger request (.int 3))
      (mapBytes request (.int 4)) (managementAuthMessage crates n (mapMap request (.int 2)))
      .credentialManagement none).accepted.isSome) :
    managementChecks crates env w body = some (n, mapMap request (.int 2)) := by
  obtain ⟨b, hb⟩ := Option.isSome_iff_exists.mp hverdict
  simp [managementChecks, hsession, hrequest, hn, hpin, hb]

/-- A request that carries no authentication is not refused for it. -/
theorem accepted_of_absent {protocol : Option Int} {authParam : Option (List UInt8)}
    {message : List UInt8} {permission : Ctap2PermissionFlags} {n : Nat} {rpId : Option String}
    (hsession : w.auth.session.matchesCurrent env n) (hprotocol : protocol = none)
    (hparam : authParam = none) :
    (w.auth.pinUvVerdict crates env n protocol authParam message permission
      rpId).accepted.isSome := by
  subst hprotocol hparam
  unfold Authenticator.pinUvVerdict
  rw [if_neg (not_not.mpr hsession), if_pos ⟨rfl, rfl⟩]
  rfl

/-- **A request that is let through** is handled, once a listing that is too old is dropped. -/
theorem Ask.Granted.step {a : Ask} (h : a.Granted crates w) :
    step crates w a.event = (Reply.ofCbor (respond (managementSubCommand crates a.env a.subCommand
        a.params (w.managing (expired a.env w)))).1,
      (managementSubCommand crates a.env a.subCommand a.params
        (w.managing (expired a.env w))).2) := by
  obtain ⟨n, hsub, hchecks⟩ := h.checks
  rw [Ask.event, Ctap2.step, handleCbor_standard, if_pos h.passphrase,
    credentialManagement_of_checks hchecks hsub]
  simp only [respond_snd]

/-- Whether a request is let through does not depend on the listing. -/
theorem Ask.Granted.managing {a : Ask} (h : a.Granted crates w) (state : Option ManagementState) :
    a.Granted crates (w.managing state) :=
  ⟨h.passphrase, h.checks⟩

section
variable {a : Ask} {l : Listing} {c : Credential} {index position createdAt : Nat}
  {positions : List Nat}

/-- A listing that is not too old stays. -/
theorem expired_eq (htime : a.env.now 1 - createdAt ≤ seconds 30) :
    expired a.env (w.managing (some (l.state positions position w.auth.session.uid createdAt))) =
      some (l.state positions position w.auth.session.uid createdAt) := by
  have htime' : ¬ seconds 30 < a.env.now 1 - createdAt := by omega
  cases l <;> simp [expired, World.managing, Listing.state, htime']

/-- **Beginning to list RPs.** -/
theorem rpsBegin_step (h : a.Granted crates w) (hsub : a.subCommand = .enumerateRpsBegin)
    (hidx : rpIndexes w.auth.credentials = index :: positions)
    (hc : w.auth.credentials[index]? = some c) :
    step crates w a.event = (Listing.rps.answer crates (some (positions.length + 1)) c,
      w.managing (some (Listing.rps.state (index :: positions) 1 w.auth.session.uid
        (a.env.now 2)))) := by
  rw [h.step, hsub]
  have hcs : (w.managing (expired a.env w)).auth.credentials = w.auth.credentials := rfl
  simp only [managementSubCommand, enumerateRpsBegin, bind_def, auth_apply, hcs, hidx,
    List.head?_cons, ofOption, pure_apply, setManagement, modifyAuth_apply, hc, expect]
  rfl

/-- There may be none. -/
theorem rpsBegin_none (h : a.Granted crates w) (hsub : a.subCommand = .enumerateRpsBegin)
    (hidx : rpIndexes w.auth.credentials = []) : (step crates w a.event).1 = noMore := by
  rw [h.step, hsub]
  have hcs : (w.managing (expired a.env w)).auth.credentials = w.auth.credentials := rfl
  simp only [managementSubCommand, enumerateRpsBegin, bind_def, auth_apply, hcs, hidx,
    List.head?_nil, ofOption, throw_apply]
  rfl

/-- **Beginning to list the credentials** of an RP. -/
theorem credentialsBegin_step {hash : List UInt8} (h : a.Granted crates w)
    (hsub : a.subCommand = .enumerateCredentialsBegin)
    (hhash : (a.params.bind fun params ↦ mapBytes params (.int 1)) = some hash)
    (hlength : hash.length = 32)
    (hidx : credentialIndexesOf crates w.auth.credentials hash = index :: positions)
    (hc : w.auth.credentials[index]? = some c) :
    step crates w a.event = (Listing.credentials.answer crates (some (positions.length + 1)) c,
      w.managing (some (Listing.credentials.state (index :: positions) 1 w.auth.session.uid
        (a.env.now 2)))) := by
  rw [h.step, hsub]
  have hcs : (w.managing (expired a.env w)).auth.credentials = w.auth.credentials := rfl
  obtain ⟨params, hparams, hbytes⟩ := Option.bind_eq_some_iff.mp hhash
  simp only [managementSubCommand, enumerateCredentialsBegin, bind_def, auth_apply, hcs, hidx,
    List.head?_cons, ofOption, pure_apply, setManagement, modifyAuth_apply, hc, expect, hparams,
    hbytes, throwIf, hlength, ne_eq, not_true, if_false]
  rfl

/-- **Going on with a listing.** -/
theorem Listing.next_step (h : a.Granted crates w) (hsub : a.subCommand = l.next)
    (htime : a.env.now 1 - createdAt ≤ seconds 30) (hindex : positions[position]? = some index)
    (hc : w.auth.credentials[index]? = some c) :
    step crates (w.managing (some (l.state positions position w.auth.session.uid createdAt)))
        a.event =
      (l.answer crates none c,
        w.managing (some (l.state positions (position + 1) w.auth.session.uid createdAt))) := by
  rw [(h.managing _).step, hsub, expired_eq htime]
  cases l with
  | rps =>
    simp only [managementSubCommand, Listing.next, enumerateRpsNext, bind_def, auth_apply,
      World.managing, Listing.state, ofOption, pure_apply, hindex, setManagement, modifyAuth_apply,
      hc, expect]
    rfl
  | credentials =>
    simp only [managementSubCommand, Listing.next, enumerateCredentialsNext, bind_def, auth_apply,
      World.managing, Listing.state, ofOption, pure_apply, hindex, setManagement, modifyAuth_apply,
      hc, expect]
    rfl

/-- **At the end of a listing.** -/
theorem Listing.next_none (h : a.Granted crates w) (hsub : a.subCommand = l.next)
    (htime : a.env.now 1 - createdAt ≤ seconds 30) (hindex : positions[position]? = none) :
    step crates (w.managing (some (l.state positions position w.auth.session.uid createdAt)))
        a.event =
      (noMore, w.managing (some (l.state positions position w.auth.session.uid createdAt))) := by
  rw [(h.managing _).step, hsub, expired_eq htime]
  cases l with
  | rps =>
    simp only [managementSubCommand, Listing.next, enumerateRpsNext, bind_def, auth_apply,
      World.managing, Listing.state, ofOption, pure_apply, hindex, throw_apply]
    rfl
  | credentials =>
    simp only [managementSubCommand, Listing.next, enumerateCredentialsNext, bind_def, auth_apply,
      World.managing, Listing.state, ofOption, pure_apply, hindex, throw_apply]
    rfl

/-- **Asking for the numbers**, in the middle of a listing. -/
theorem Listing.metadata_step (h : a.Granted crates w) (hsub : a.subCommand = .getCredsMetadata)
    (htime : a.env.now 1 - createdAt ≤ seconds 30) :
    step crates (w.managing (some (l.state positions position w.auth.session.uid createdAt)))
        a.event =
      (metadataAnswer crates w,
        w.managing (some (l.state positions position w.auth.session.uid createdAt))) := by
  rw [(h.managing _).step, hsub, expired_eq htime]
  rfl

/-! ## All requests -/

/-- **The requests that go on with a listing** are answered with what is left of it. -/
theorem Listing.answers {asks : List Ask} {items : List Credential}
    (hitems : List.Forall₂ (fun i c ↦ w.auth.credentials[i]? = some c) (positions.drop position)
      items) (hgranted : ∀ a ∈ asks, a.Granted crates w)
    (hcontinues : ∀ a ∈ asks, a.subCommand = l.next ∨ a.subCommand = .getCredsMetadata)
    (htime : ∀ a ∈ asks, a.env.now 1 - createdAt ≤ seconds 30) :
    (run crates (w.managing (some (l.state positions position w.auth.session.uid createdAt)))
        (asks.map Ask.event)).map Run.Transition.output =
      answersTo crates w (items.map (l.answer crates none)) asks := by
  induction asks generalizing position items with
  | nil => rfl
  | cons a asks ih =>
    rw [List.forall_mem_cons] at hgranted hcontinues htime
    change (step crates _ a.event).1 ::
      (run crates (step crates _ a.event).2 (asks.map Ask.event)).map Run.Transition.output = _
    rcases hcontinues.1 with hsub | hsub
    · have hne : a.subCommand ≠ .getCredsMetadata := by
        rw [hsub]
        cases l <;> decide
      rw [answersTo, if_neg hne]
      cases hindex : positions[position]? with
      | none =>
        have hdrop := List.drop_of_length_le (List.getElem?_eq_none_iff.mp hindex)
        have hnone : items = [] := by
          rw [hdrop] at hitems
          exact List.forall₂_nil_left_iff.mp hitems
        subst hnone
        rw [Listing.next_none hgranted.1 hsub htime.1 hindex]
        exact congrArg (List.cons _) (ih hitems hgranted.2 hcontinues.2 htime.2)
      | some index =>
        obtain ⟨hlt, hget⟩ := List.getElem?_eq_some_iff.mp hindex
        rw [List.drop_eq_getElem_cons hlt, hget] at hitems
        cases hitems with
        | cons hc hitems =>
          rw [Listing.next_step hgranted.1 hsub htime.1 hindex hc]
          exact congrArg (List.cons _) (ih hitems hgranted.2 hcontinues.2 htime.2)
    · rw [answersTo, if_pos hsub, Listing.metadata_step hgranted.1 hsub htime.1]
      exact congrArg (List.cons _) (ih hitems hgranted.2 hcontinues.2 htime.2)

end

/-! ## Which RPs and credentials -/

/-- The test of the loop in `enumerate_rps_begin`, and what it does. -/
def pushRp (credentials : List Credential) (found : List Nat) (x : Credential × Nat) : List Nat :=
  if x.1.discoverable &&
      !found.any fun existing ↦ (credentials[existing]?).any fun e ↦ e.rpId = x.1.rpId then
    found ++ [x.2]
  else found

/-- The loop of `enumerate_rps_begin`. -/
def rpIndexesLoop (credentials : List Credential) : List Nat :=
  credentials.zipIdx.foldl (pushRp credentials) []

theorem lt_and_getElem?_of_take {α : Type} {l : List α} {j k : Nat} {a : α}
    (h : (l.take k)[j]? = some a) : j < k ∧ l[j]? = some a := by
  rw [List.getElem?_take] at h
  split at h
  · next hlt => exact ⟨hlt, h⟩
  · cases h

/-- The position has the first discoverable credential of its RP. -/
def isFirst (cs : List Credential) (i : Nat) : Bool :=
  (cs[i]?).any fun c ↦
    c.discoverable && !(cs.take i).any fun earlier ↦ earlier.discoverable && earlier.rpId = c.rpId

theorem isFirst_iff {cs : List Credential} {i : Nat} :
    isFirst cs i ↔ ∃ c, cs[i]? = some c ∧ c.discoverable ∧
      ∀ (j : Nat) e, j < i → cs[j]? = some e → e.discoverable → e.rpId ≠ c.rpId := by
  have hearlier (c : Credential) : (cs.take i).any (fun e ↦ e.discoverable && e.rpId = c.rpId) =
      false ↔
      ∀ (j : Nat) e, j < i → cs[j]? = some e → e.discoverable → e.rpId ≠ c.rpId := by
    rw [List.any_eq_false]
    constructor
    · intro h j e hj he hdisc hrp
      refine h e (List.mem_of_getElem? (i := j) ?_) (by simp [hdisc, hrp])
      rw [List.getElem?_take_of_lt hj, he]
    · intro h e he
      obtain ⟨j, hj⟩ := List.mem_iff_getElem?.mp he
      obtain ⟨hlt, he⟩ := lt_and_getElem?_of_take hj
      simpa using h j e hlt he
  rw [isFirst, Option.any_eq_true]
  constructor
  · rintro ⟨c, hc, h⟩
    rw [Bool.and_eq_true, Bool.not_eq_true', hearlier] at h
    exact ⟨c, hc, h⟩
  · rintro ⟨c, hc, h⟩
    exact ⟨c, hc, by rw [Bool.and_eq_true, Bool.not_eq_true', hearlier]; exact h⟩

/-- There is a first one of every RP that has any. -/
theorem exists_isFirst {cs : List Credential} {j : Nat} {e : Credential} (he : cs[j]? = some e)
    (hdisc : e.discoverable) : ∃ i ≤ j, ∃ c, cs[i]? = some c ∧ c.rpId = e.rpId ∧ isFirst cs i := by
  induction j using Nat.strongRecOn generalizing e with
  | ind j ih =>
    by_cases hfirst : isFirst cs j
    · exact ⟨j, le_rfl, e, he, rfl, hfirst⟩
    · -- one in front of it has the same RP
      rw [isFirst_iff] at hfirst
      push Not at hfirst
      obtain ⟨k, e', hk, he', hdisc', hrp⟩ := hfirst e he hdisc
      obtain ⟨i, hi, c, hc, hcrp, hc'⟩ := ih k hk he' hdisc'
      exact ⟨i, hi.trans hk.le, c, hc, hcrp.trans hrp, hc'⟩

/-- What the loop has found among the first credentials. -/
theorem foldl_pushRp (cs : List Credential) {k : Nat} (hk : k ≤ cs.length) :
    (cs.zipIdx.take k).foldl (pushRp cs) [] = (List.range k).filter (isFirst cs) := by
  induction k with
  | zero => simp
  | succ k ih =>
    obtain ⟨c, hc⟩ : ∃ c, cs[k]? = some c := ⟨_, List.getElem?_eq_getElem hk⟩
    have hlast : cs.zipIdx.take (k + 1) = cs.zipIdx.take k ++ [(c, k)] := by
      rw [List.take_add_one, List.getElem?_zipIdx, hc]
      simp
    rw [hlast, List.foldl_append, ih (by omega), List.range_succ, List.filter_append]
    -- the loop looks among what it has found, and that is enough
    have hsame : (((List.range k).filter (isFirst cs)).any fun existing ↦
        (cs[existing]?).any fun e ↦ e.rpId = c.rpId) =
        (cs.take k).any fun earlier ↦ earlier.discoverable && earlier.rpId = c.rpId := by
      rw [Bool.eq_iff_iff, List.any_eq_true, List.any_eq_true]
      constructor
      · rintro ⟨i, hi, hrp⟩
        obtain ⟨hlt, hfirst⟩ := List.mem_filter.mp hi
        obtain ⟨e, he, hdisc, -⟩ := isFirst_iff.mp hfirst
        rw [he, Option.any_some] at hrp
        refine ⟨e, List.mem_of_getElem? (i := i) ?_, by rw [hdisc, hrp]; rfl⟩
        rw [List.getElem?_take_of_lt (List.mem_range.mp hlt), he]
      · rintro ⟨e, he, h⟩
        rw [Bool.and_eq_true] at h
        obtain ⟨j, hj⟩ := List.mem_iff_getElem?.mp he
        obtain ⟨hlt, he⟩ := lt_and_getElem?_of_take hj
        obtain ⟨i, hi, c', hc', hrp, hfirst⟩ := exists_isFirst he h.1
        refine ⟨i, List.mem_filter.mpr ⟨List.mem_range.mpr (by omega), hfirst⟩, ?_⟩
        rw [hc', Option.any_some, hrp]
        exact h.2
    rw [List.foldl_cons, List.foldl_nil, pushRp, hsame]
    simp only [isFirst, List.filter_cons, List.filter_nil, hc, Option.any_some]
    split <;> simp

/-- **The loop** finds the first discoverable credential of each RP. -/
theorem rpIndexesLoop_eq (cs : List Credential) : rpIndexesLoop cs = rpIndexes cs := by
  have h := foldl_pushRp cs le_rfl
  rwa [List.take_of_length_le (by rw [List.length_zipIdx])] at h

/-- The first discoverable credential of each RP. -/
def rpItems (cs : List Credential) : List Credential := (rpIndexes cs).filterMap fun i ↦ cs[i]?

theorem forall₂_rpItems (cs : List Credential) :
    List.Forall₂ (fun i c ↦ cs[i]? = some c) (rpIndexes cs) (rpItems cs) :=
  List.forall₂_filterMap_getElem? cs fun _ hi ↦ lt_of_mem_filter_range hi

theorem isFirst_of_mem {cs : List Credential} {i : Nat} (h : i ∈ rpIndexes cs) : isFirst cs i :=
  (List.mem_filter.mp h).2

/-- No RP is there twice. -/
theorem nodup_rpItems (cs : List Credential) : ((rpItems cs).map Credential.rpId).Nodup := by
  -- the RPs at the positions differ, since a later one would not be the first
  have hpositions : ((rpIndexes cs).map fun i ↦ (cs[i]?).map Credential.rpId).Nodup := by
    refine List.pairwise_map.mpr ?_
    have hlt : (rpIndexes cs).Pairwise (· < ·) := List.pairwise_lt_range.filter _
    refine hlt.imp_of_mem fun {i j} hi hj hij heq ↦ ?_
    obtain ⟨c, hc, hdisc, -⟩ := isFirst_iff.mp (isFirst_of_mem hi)
    obtain ⟨c', hc', -, hfirst⟩ := isFirst_iff.mp (isFirst_of_mem hj)
    rw [hc, hc', Option.map_some, Option.map_some] at heq
    exact hfirst i c hij hc hdisc (Option.some.inj heq)
  have hsame : (rpIndexes cs).map (fun i ↦ (cs[i]?).map Credential.rpId) =
      ((rpItems cs).map Credential.rpId).map some := by
    rw [← List.forall₂_eq_eq_eq, List.map_map, List.forall₂_map_left_iff,
      List.forall₂_map_right_iff]
    refine (forall₂_rpItems cs).imp fun i c hc ↦ ?_
    rw [hc]
    rfl
  rw [hsame] at hpositions
  exact hpositions.of_map _

/-- Every RP with a discoverable credential is there, and no other. -/
theorem mem_rpItems {cs : List Credential} {rpId : String} :
    rpId ∈ (rpItems cs).map Credential.rpId ↔ ∃ c ∈ cs, c.discoverable ∧ c.rpId = rpId := by
  rw [List.mem_map]
  constructor
  · rintro ⟨c, hc, rfl⟩
    obtain ⟨i, hi, hget⟩ := (forall₂_rpItems cs).exists_left hc
    obtain ⟨c', hc', hdisc, -⟩ := isFirst_iff.mp (isFirst_of_mem hi)
    cases hget.symm.trans hc'
    exact ⟨c, List.mem_of_getElem? hget, hdisc, rfl⟩
  · rintro ⟨e, he, hdisc, rfl⟩
    obtain ⟨j, hj⟩ := List.mem_iff_getElem?.mp he
    obtain ⟨i, -, c, hc, hrp, hfirst⟩ := exists_isFirst hj hdisc
    have hi : i ∈ rpIndexes cs := List.mem_filter.mpr
      ⟨List.mem_range.mpr (List.getElem?_eq_some_iff.mp hc).1, hfirst⟩
    obtain ⟨c', hc', hget⟩ := (forall₂_rpItems cs).exists_right hi
    cases hc.symm.trans hget
    exact ⟨c, hc', hrp⟩

/-- **The numbers add up**: each discoverable credential belongs to one of the RPs. -/
theorem sum_credentialsOf (w : World) :
    ((rpItems w.auth.credentials).map fun c ↦ (credentialsOf w c.rpId).length).sum =
      (w.auth.credentials.filter Credential.discoverable).length := by
  let ids := (w.auth.credentials.filter Credential.discoverable).map Credential.rpId
  have hcount (rpId : String) : (credentialsOf w rpId).length = ids.count rpId := by
    rw [credentialsOf, List.count, List.countP_map, List.countP_filter,
      List.countP_eq_length_filter]
    congr 1
    refine List.filter_congr fun c _ ↦ ?_
    simp [Bool.and_comm, Bool.beq_eq_decide_eq]
  have hperm : ((rpItems w.auth.credentials).map Credential.rpId).Perm ids.dedup := by
    refine (List.perm_ext_iff_of_nodup (nodup_rpItems _) (List.nodup_dedup _)).mpr fun rpId ↦ ?_
    rw [mem_rpItems, List.mem_dedup, List.mem_map]
    simp [and_assoc]
  calc ((rpItems w.auth.credentials).map fun c ↦ (credentialsOf w c.rpId).length).sum
      = (((rpItems w.auth.credentials).map Credential.rpId).map fun rpId ↦ ids.count rpId).sum := by
        rw [List.map_map]
        exact congrArg List.sum (List.map_congr_left fun c _ ↦ hcount c.rpId)
    _ = (ids.dedup.map fun rpId ↦ ids.count rpId).sum := (hperm.map _).sum_eq
    _ = ids.length := List.sum_map_count_dedup_eq_length ids
    _ = (w.auth.credentials.filter Credential.discoverable).length := List.length_map _

/-- The positions of the credentials of an RP. -/
theorem forall₂_credentialsOf {rpId : String} (hhash : HashesApart crates w)
    (hrp : ∃ c ∈ w.auth.credentials, c.discoverable ∧ c.rpId = rpId) :
    List.Forall₂ (fun i c ↦ w.auth.credentials[i]? = some c)
      (credentialIndexesOf crates w.auth.credentials (crates.sha256 (utf8 rpId)))
      (credentialsOf w rpId) := by
  obtain ⟨c₀, hc₀, -, rfl⟩ := hrp
  have hsame : credentialsOf w c₀.rpId = w.auth.credentials.filter fun c ↦
      c.discoverable && crates.sha256 (utf8 c.rpId) = crates.sha256 (utf8 c₀.rpId) := by
    refine List.filter_congr fun c hc ↦ ?_
    have hiff : c.rpId = c₀.rpId ↔
        crates.sha256 (utf8 c.rpId) = crates.sha256 (utf8 c₀.rpId) :=
      ⟨fun h ↦ by rw [h], hhash c hc c₀ hc₀⟩
    simp [hiff]
  rw [hsame]
  exact List.forall₂_filter_range _ _

/-- A listing, from the request that begins it. -/
theorem Listing.exact {l : Listing} {first : Ask} {asks : List Ask} {positions : List Nat}
    {items : List Credential} {i : Nat} {c : Credential} (h : Listed crates l w first asks)
    (hitems : List.Forall₂ (fun i c ↦ w.auth.credentials[i]? = some c) positions items)
    (hbegin : step crates w first.event = (l.answer crates (some (positions.length + 1)) c,
      w.managing (some (l.state (i :: positions) 1 w.auth.session.uid (first.env.now 2))))) :
    ListsExactly crates l w (c :: items) first asks := by
  have hgranted := (List.forall_mem_cons.mp h.granted).2
  change (step crates w first.event).1 ::
    (run crates (step crates w first.event).2 (asks.map Ask.event)).map Run.Transition.output = _
  rw [hbegin, Listing.answers hitems hgranted h.continues h.inTime, hitems.length_eq]
  rfl

/-- **The RPs are listed.** -/
theorem rps_listsExactly {first : Ask} {asks : List Ask} (h : Listed crates .rps w first asks) :
    ListsExactly crates .rps w (rpItems w.auth.credentials) first asks := by
  have hgranted := (List.forall_mem_cons.mp h.granted).1
  have hitems := forall₂_rpItems w.auth.credentials
  generalize rpItems w.auth.credentials = items at hitems ⊢
  cases hidx : rpIndexes w.auth.credentials with
  | nil =>
    rw [hidx] at hitems
    cases hitems
    exact rpsBegin_none hgranted h.begins hidx
  | cons i positions =>
    rw [hidx] at hitems
    cases hitems with
    | cons hc hitems => exact Listing.exact h hitems (rpsBegin_step hgranted h.begins hidx hc)

/-- **The credentials of an RP are listed.** -/
theorem credentials_listsExactly {first : Ask} {asks : List Ask} {rpId : String}
    (hhash : HashesApart crates w)
    (hrp : ∃ c ∈ w.auth.credentials, c.discoverable ∧ c.rpId = rpId)
    (h : Listed crates .credentials w first asks)
    (hparams : (first.params.bind fun params ↦ mapBytes params (.int 1)) =
      some (crates.sha256 (utf8 rpId))) :
    ListsExactly crates .credentials w (credentialsOf w rpId) first asks := by
  have hgranted := (List.forall_mem_cons.mp h.granted).1
  have hitems := forall₂_credentialsOf hhash hrp
  -- there is one, so the listing begins
  obtain ⟨c₀, hc₀, hdisc, hid⟩ := hrp
  have hmem : c₀ ∈ credentialsOf w rpId := List.mem_filter.mpr ⟨hc₀, by simp [hdisc, hid]⟩
  generalize credentialsOf w rpId = items at hitems hmem ⊢
  cases hidx : credentialIndexesOf crates w.auth.credentials (crates.sha256 (utf8 rpId)) with
  | nil =>
    rw [hidx] at hitems
    cases hitems
    exact absurd hmem List.not_mem_nil
  | cons i positions =>
    rw [hidx] at hitems
    cases hitems with
    | cons hc hitems =>
      exact Listing.exact h hitems (credentialsBegin_step hgranted h.begins hparams
        (crates.length_sha256 _) hidx hc)

/-! ## The positions, over runs -/

/-- A sub-command that leaves a listing changes nothing the listing depends on. -/
theorem managementSubCommand_sameAt (subCommand : ManagementSubCommand) (params : Option Entries)
    (h : (managementSubCommand crates env subCommand params w).2.auth.management ≠ none) (i : Nat) :
    SameAt w.auth.credentials
      (managementSubCommand crates env subCommand params w).2.auth.credentials i := by
  by_cases hlooks : subCommand.looks
  · rw [(managementSubCommand_moves crates env hlooks params w).credentials]
    exact .refl _ i
  cases subCommand with
  | deleteCredential =>
    have hdeletion := deleteCredential_deletion crates env params w
    change (deleteCredential crates env params w).2.auth.management ≠ none at h
    change SameAt _ (deleteCredential crates env params w).2.auth.credentials i
    generalize deleteCredential crates env params w = r at hdeletion h ⊢
    cases hdeletion with
    | failed _ _ => exact .refl _ i
    | done _ _ => exact absurd rfl h
  | updateUserInformation =>
    have hrenaming := updateUserInformation_renaming crates env params w
    change SameAt _ (updateUserInformation crates env params w).2.auth.credentials i
    generalize updateUserInformation crates env params w = r at hrenaming ⊢
    cases hrenaming with
    | failed _ => exact .refl _ i
    | done _ hauth _ _ _ =>
      dsimp only
      rw [hauth]
      refine SameAt.modify _ _ ?_ i
      exact fun c ↦ ⟨rfl, rfl, rfl⟩
  | _ => exact absurd rfl hlooks

/-- **A step that leaves a listing** changes nothing the listing depends on. -/
theorem step_sameAt (event : Event) (h : (step crates w event).2.auth.management ≠ none) (i : Nat) :
    SameAt w.auth.credentials (step crates w event).2.auth.credentials i := by
  cases event with
  | cbor env payload =>
    cases hp : parsePayload payload with
    | none =>
      have hstep : (step crates w (.cbor env payload)).2 = w := by simp only [step, handleCbor, hp]
      rw [hstep]
      exact .refl _ i
    | some x =>
      obtain ⟨command, body⟩ := x
      rw [step_cbor hp] at h ⊢
      by_cases hc : command.isManagement
      · have hmanaged : Managed crates env body (w.enter command)
          (gatedCommand crates env command body (w.enter command)) := gatedCommand_managed hc _
        dsimp only at h ⊢
        generalize gatedCommand crates env command body (w.enter command) = r at h hmanaged ⊢
        cases hmanaged with
        | refused _ _ hinc =>
          dsimp only
          rw [hinc.credentials]
          exact .refl _ i
        | unknown hauth =>
          dsimp only
          rw [hauth.world]
          exact .refl _ i
        | ran hauth _ =>
          have hsame := managementSubCommand_sameAt _ _ h i
          rw [hauth.world] at hsame ⊢
          exact hsame
      · exact absurd (gatedCommand_management_none hc w) h
  | tpm env command =>
    have hcached : (handleTpmCommand crates env command w).2.auth.credentials =
        w.auth.credentials :=
      handleTpmCommand_credentials command w
    change SameAt _ (handleTpmCommand crates env command w).2.auth.credentials i
    rw [hcached]
    exact .refl _ i
  | start env tpmPath => exact absurd (newAuthenticator_idle crates env tpmPath w.store).1 h
  | cancel => exact .refl _ i
  | setPassphrase fault salt hash kdf => exact .refl _ i
  | setPcrPolicy fault indices => exact .refl _ i
  | damage hmacKey pinMac => exact .refl _ i

/-- A request that begins a listing computes the positions in the list it leaves. -/
theorem begun_of_succeeded {event : Event} {request : Entries} {n : Int}
    (hrequest : managementRequest crates event = some (env, request, n))
    (hok : (step crates w event).1.succeeded) {state : ManagementState}
    (hstate : (step crates w event).2.auth.management = some state) :
    (n = 2 → state.rpIndexes = rpIndexes (step crates w event).2.auth.credentials) ∧
      (n = 4 → ∃ hash,
        ((mapMap request (.int 2)).bind fun params ↦ mapBytes params (.int 1)) = some hash ∧
        state.credentialIndexes =
          credentialIndexesOf crates (step crates w event).2.auth.credentials hash) := by
  obtain ⟨_, _, _, w₁, subCommand, _, w', rfl, _, _, _, hn, hsub, hstep⟩ :=
    management_success hrequest hok
  rw [hstep] at hstate ⊢
  constructor
  · rintro rfl
    cases subCommand with
    | enumerateRpsBegin =>
      obtain ⟨a, w₂, e₂, h₂⟩ := bind_ok hsub
      cases e₂
      obtain ⟨first, w₃, e₃, h₃⟩ := bind_ok h₂
      obtain ⟨-, rfl⟩ := ofOption_ok e₃
      obtain ⟨_, w₄, e₄, h₄⟩ := bind_ok h₃
      cases e₄
      obtain ⟨c, w₅, e₅, h₅⟩ := bind_ok h₄
      obtain ⟨-, rfl⟩ := expect_ok e₅
      cases h₅
      cases hstate
      rfl
    | _ => cases hn
  · rintro rfl
    cases subCommand with
    | enumerateCredentialsBegin =>
      obtain ⟨params, w₂, e₂, h₂⟩ := bind_ok hsub
      obtain ⟨hparams, rfl⟩ := ofOption_ok e₂
      obtain ⟨hash, w₃, e₃, h₃⟩ := bind_ok h₂
      obtain ⟨hhash, rfl⟩ := ofOption_ok e₃
      obtain ⟨_, w₄, e₄, h₄⟩ := bind_ok h₃
      obtain ⟨-, rfl⟩ := throwIf_ok e₄
      obtain ⟨a, w₅, e₅, h₅⟩ := bind_ok h₄
      cases e₅
      obtain ⟨first, w₆, e₆, h₆⟩ := bind_ok h₅
      obtain ⟨-, rfl⟩ := ofOption_ok e₆
      obtain ⟨_, w₇, e₇, h₇⟩ := bind_ok h₆
      cases e₇
      obtain ⟨c, w₈, e₈, h₈⟩ := bind_ok h₇
      obtain ⟨-, rfl⟩ := expect_ok e₈
      cases h₈
      cases hstate
      exact ⟨hash, by rw [hparams]; exact hhash, rfl⟩
    | _ => cases hn

/-- **The step lemma.** -/
theorem IndexesDenote.step {past : List Step} {event : Event} (h : IndexesDenote crates past w) :
    IndexesDenote crates (past ++ [Run.transition (step crates) w event])
      (step crates w event).2 := by
  intro state hstate
  have henumeration := step_enumeration crates w event
  -- what a request that has just begun computed is in the list it leaves
  have hself : ∀ indexes : List Nat,
      (∀ i ∈ indexes, i < (Ctap2.step crates w event).2.auth.credentials.length) →
      ∀ i ∈ indexes, ∃ c₀ c,
        (Ctap2.step crates w event).2.auth.credentials[i]? = some c₀ ∧
        (Ctap2.step crates w event).2.auth.credentials[i]? = some c ∧ c.id = c₀.id ∧
        c.rpId = c₀.rpId ∧ c.discoverable = c₀.discoverable :=
    fun indexes hrange i hi ↦ ⟨_, _, List.getElem?_eq_getElem (hrange i hi),
      List.getElem?_eq_getElem (hrange i hi), rfl, rfl, rfl⟩
  have hlast : Run.transition (Ctap2.step crates) w event ∈
      past ++ [Run.transition (Ctap2.step crates) w event] :=
    List.mem_append_right _ (List.mem_singleton_self _)
  have hsome : (Ctap2.step crates w event).2.auth.management ≠ none := by
    rw [hstate]
    exact Option.some_ne_none _
  rw [hstate] at henumeration
  cases henumeration with
  | kept hbefore hrps hcredentials _ _ _ =>
    obtain ⟨b, hb, env, request, n, hrequest, hok, hcomputed, hdenotes⟩ := h _ hbefore
    rw [← hrps, ← hcredentials] at hcomputed hdenotes
    refine ⟨b, List.mem_append_left _ hb, env, request, n, hrequest, hok, hcomputed,
      fun i hi ↦ ?_⟩
    obtain ⟨c₀, c, hc₀, hc, hid, hrp, hdisc⟩ := hdenotes i hi
    obtain ⟨c', hc', hid', hrp', hdisc'⟩ := step_sameAt event hsome i c hc
    exact ⟨c₀, c', hc₀, hc', hid'.trans hid, hrp'.trans hrp, hdisc'.trans hdisc⟩
  | beganRps hrequest hok hcredentials hrange =>
    have hrps := (begun_of_succeeded hrequest hok hstate).1 rfl
    refine ⟨_, hlast, _, _, _, hrequest, hok, .inl ⟨rfl, hrps, hcredentials⟩, ?_⟩
    rw [hcredentials, List.append_nil]
    exact hself _ hrange
  | beganCredentials hrequest hok hrps hrange =>
    have hcomputed := (begun_of_succeeded hrequest hok hstate).2 rfl
    refine ⟨_, hlast, _, _, _, hrequest, hok, .inr ⟨rfl, hrps, hcomputed⟩, ?_⟩
    rw [hrps, List.nil_append]
    exact hself _ hrange

/-- **Listings are complete and free of duplicates** after every run, if the hash tells the RPs at
hand apart. -/
theorem listings_complete (crates : Crates) (env : Env) (tpmPath : Option String) (s : Store)
    (events : List Event)
    (hhash : HashesApart crates (after crates (newAuthenticator crates env tpmPath s) events)) :
    ListingsComplete crates (run crates (newAuthenticator crates env tpmPath s) events)
      (after crates (newAuthenticator crates env tpmPath s) events) := by
  refine ⟨⟨rpItems _, nodup_rpItems _, fun _ ↦ mem_rpItems, fun _ _ ↦ rps_listsExactly,
    sum_credentialsOf _⟩, fun _ hrp _ _ ↦ credentials_listsExactly hhash hrp, ?_⟩
  refine Run.history_invariant (H := IndexesDenote crates) (C := fun _ _ ↦ True) ?_
    (fun _ _ _ h _ ↦ h.step) _ fun _ _ ↦ trivial
  intro state hstate
  rw [(newAuthenticator_idle crates env tpmPath s).1] at hstate
  cases hstate

namespace Sample

/-- Packages whose hash tells short texts apart. -/
def listingPackages : Crates :=
  { packages [getKeyAgreement, Sample.setPin [49, 50, 51, 52], Sample.makeCredential "a",
      Sample.makeCredential "b", manage 1, manage 2, manage 3] with
    sha256 b := (b ++ List.replicate 32 0).take 32
    length_sha256 := length_firstBytes }

/-- The world once a user with a PIN has registered twice with one RP and once with another. -/
def listingWorld : World :=
  after listingPackages (newAuthenticator listingPackages (session 1000 0) (some "") Store.fresh)
    (setPassphrase :: choosePin 1000 ++ [request (session 1000 1) 0x01 (Sample.makeCredential "a"),
      request (session 1000 2) 0x01 (Sample.makeCredential "b"),
      request (session 1000 3) 0x01 (Sample.makeCredential "a")])

/-- A management request without parameters or authentication. -/
def plainAsk (subCommand : ManagementSubCommand) : Ask :=
  ⟨session 1000 0, Cbor.encode (manage subCommand.number), subCommand, none⟩

theorem granted_plainAsk (subCommand : ManagementSubCommand)
    (h : subCommand ∈ [.getCredsMetadata, .enumerateRpsBegin, .enumerateRpsNext]) :
    (plainAsk subCommand).Granted listingPackages listingWorld := by
  have hpassphrase :
      passphraseSet listingPackages ((session 1000 0).store 0) listingWorld.store := by
    decide +kernel
  have hsession : listingWorld.auth.session.matchesCurrent (session 1000 0) 0 := by decide +kernel
  have hsession' : listingWorld.auth.session.matchesCurrent (session 1000 0) 1 := by decide +kernel
  have hpin : listingWorld.auth.clientPin.isSome := by decide +kernel
  have hrequest : (decodeMap listingPackages (Cbor.encode (manage subCommand.number))).toOption =
      some [(.integer 1, .integer subCommand.number)] := by
    simp only [List.mem_cons, List.not_mem_nil, or_false] at h
    rcases h with rfl | rfl | rfl <;> rfl
  refine ⟨hpassphrase, subCommand.number, by cases subCommand <;> rfl, ?_⟩
  exact managementChecks_of_decodeMap hsession hrequest rfl hpin
    (accepted_of_absent hsession' rfl rfl)

end Sample

open Sample in
/-- Two RPs are listed, and then there is nothing left. -/
theorem listings_complete_two_rps :
    listingWorld.auth.credentials.map Credential.rpId = ["a", "b", "a"] ∧
      Listed listingPackages .rps listingWorld (plainAsk .enumerateRpsBegin)
        [plainAsk .enumerateRpsNext, plainAsk .getCredsMetadata, plainAsk .enumerateRpsNext] ∧
      ∃ past, ListingsComplete listingPackages past listingWorld := by
  have hhash : HashesApart listingPackages listingWorld := by
    unfold HashesApart
    decide +kernel
  refine ⟨by decide +kernel, ⟨rfl, ?_, by decide, ?_⟩, _,
    listings_complete listingPackages (session 1000 0) (some "") Store.fresh _ hhash⟩
  · intro a ha
    simp only [List.mem_cons, List.not_mem_nil, or_false] at ha
    rcases ha with rfl | rfl | rfl | rfl <;> exact granted_plainAsk _ (by decide)
  · decide

end Ctap2
end TpmFido2
