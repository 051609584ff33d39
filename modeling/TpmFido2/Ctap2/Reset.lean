import TpmFido2.Ctap2.Counters
import TpmFido2.Ctap2.PinEffects

/-!
# Complete resets

A reset deletes the PIN row and then the row of every credential in memory, one call to the store
each, and answers success whatever the calls came to.  It deletes the PIN row, and drops the key
agreement and the token, only if there is a PIN in memory.

`ResetComplete` is what the answer stands for: the calls have succeeded, nothing is left on disk or
in memory, and nothing that was there is ever used again, not even after the credentials are read
back or the daemon starts anew.  The last part is about all runs from where the reset ends, and is a
matter of where credential IDs come from: by `Effect.move` they are in memory or in a row, or have
been drawn.

* **`resetComplete_iff_covers`**: a reset is complete if and only if it reaches all there is
  (`ResetCovers`).
-/

set_option autoImplicit false

namespace TpmFido2
namespace Ctap2

open Handler

/-! ## The property -/

/-- The calls to the store in the loop of `reset` all succeed. -/
def deletionsSucceed (env : Env) : Nat → List Credential → Store → Bool
  | _, [], _ => true
  | n, c :: cs, s =>
    match Store.deleteCtap2Credential (env.store (n + 1)) c.id s with
    | (.ok _, s') => deletionsSucceed env (n + 1) cs s'
    | _ => false

/-- The ID of a credential of the session's user, on disk or in memory. -/
def InUse (w : World) (id : List UInt8) : Prop :=
  (∃ c ∈ w.auth.credentials, c.id = id) ∨
    ∃ row ∈ Store.selectCredentials w.auth.session.uid w.store, row.credentialId = id

/-- Authenticator memory without anything of the user in it. -/
structure Emptied (a : Authenticator) : Prop where
  credentials : a.credentials = []
  clientPin : a.clientPin = none
  keyAgreement : a.keyAgreement = none
  token : a.pinUvAuthToken = none
  pending : a.pendingAssertion = none
  management : a.management = none

/-- **What success of a reset stands for.** -/
structure ResetComplete (crates : Crates) (env : Env) (t : Step) : Prop where
  /-- The deletion of the PIN row did not fail. -/
  pinDeleted : t.before.auth.clientPin.isSome →
    (Store.deleteClientPinState (env.store 0) t.before.store).1 = .ok ()
  /-- No deletion of a credential failed. -/
  deleted : deletionsSucceed env 0 t.before.auth.credentials t.before.store
  pinRow : t.after.store.clientPin = none
  /-- There is nothing left to load. -/
  rows : Store.selectCredentials t.before.auth.session.uid t.after.store = []
  memory : Emptied t.after.auth
  /-- An assertion is let out later only for a credential that was registered later. -/
  unused : ∀ events past u later x, run crates t.after events = past ++ u :: later →
    released crates u.before u.input = some x → InUse t.before x.credential.id →
    ∃ v ∈ past, drawnId v.input = some x.credential.id

/-- **A reset reaches all there is.** -/
structure ResetCovers (env : Env) (w : World) : Prop where
  /-- The row of the PIN goes. -/
  pinFault : w.auth.clientPin.isSome → ¬ ((env.store 0).io ∨ (env.store 0).statement)
  /-- Without a PIN in memory there is nothing it would leave. -/
  pinUnset : w.auth.clientPin = none →
    w.store.clientPin = none ∧ w.auth.keyAgreement = none ∧ w.auth.pinUvAuthToken = none
  /-- The rows of the credentials in memory go. -/
  faults : ∀ i < w.auth.credentials.length,
    ¬ ((env.store (i + 1)).io ∨ (env.store (i + 1)).statement)
  stored : ∀ c ∈ w.auth.credentials, ∃ row ∈ w.store.credentials.rows, row.credentialId = c.id
  distinct : DistinctIds w
  /-- The credentials of the user are in memory. -/
  cached : ∀ row ∈ Store.selectCredentials w.auth.session.uid w.store,
    ∃ c ∈ w.auth.credentials, c.id = row.credentialId

variable {crates : Crates} {env : Env} {w w' : World} {payload body : List UInt8}

/-! ## The loop -/

/-- The calls that are left after one has succeeded. -/
theorem deletionsSucceed_cons {n : Nat} {c : Credential} {cs : List Credential} {s : Store} :
    deletionsSucceed env n (c :: cs) s ↔
      ¬ ((env.store (n + 1)).io ∨ (env.store (n + 1)).statement) ∧
        (∃ row ∈ s.credentials.rows, row.credentialId = c.id) ∧
        deletionsSucceed env (n + 1) cs { s with credentials := s.credentials.delete c.id } := by
  rw [deletionsSucceed, Store.deleteCtap2Credential_apply]
  by_cases hfault : (env.store (n + 1)).io ∨ (env.store (n + 1)).statement
  · simp [hfault]
  · by_cases hfind : s.credentials.find c.id = none
    · have hnone := (Table.find_eq_none_iff _ _).mp hfind
      simpa [hfault, hfind] using fun row hrow hid ↦ absurd hid (hnone row hrow)
    · obtain ⟨row, hrow⟩ := Option.ne_none_iff_exists'.mp hfind
      have hex : ∃ row ∈ s.credentials.rows, row.credentialId = c.id :=
        ⟨row, (Table.find_eq_some_iff _ _ _).mp hrow⟩
      simp only [hfault, if_false, if_neg hfind, not_false_eq_true, hex, true_and]

/-- **The calls succeed** where the store works, there is a row for each credential, and no
credential is there twice. -/
theorem deletionsSucceed_iff {n : Nat} {cs : List Credential} {s : Store} :
    deletionsSucceed env n cs s ↔
      (∀ i < cs.length, ¬ ((env.store (n + i + 1)).io ∨ (env.store (n + i + 1)).statement)) ∧
        (∀ c ∈ cs, ∃ row ∈ s.credentials.rows, row.credentialId = c.id) ∧
        (cs.map Credential.id).Nodup := by
  induction cs generalizing n s with
  | nil => simp [deletionsSucceed]
  | cons c cs ih =>
    -- a row that is there for another credential stays when the one of this credential goes
    have hrows : c.id ∉ cs.map Credential.id →
        ((∀ d ∈ cs, ∃ row ∈ (s.credentials.delete c.id).rows, row.credentialId = d.id) ↔
          ∀ d ∈ cs, ∃ row ∈ s.credentials.rows, row.credentialId = d.id) := by
      intro hnew
      refine forall₂_congr fun d hd ↦ exists_congr fun row ↦ ?_
      rw [Table.mem_delete]
      refine ⟨fun h ↦ ⟨h.1.1, h.2⟩, fun h ↦ ⟨⟨h.1, fun hid ↦ hnew ?_⟩, h.2⟩⟩
      exact List.mem_map.mpr ⟨d, hd, h.2.symm.trans hid⟩
    have hnew : (∀ d ∈ cs, ∃ row ∈ (s.credentials.delete c.id).rows, row.credentialId = d.id) →
        c.id ∉ cs.map Credential.id := by
      intro h hmem
      obtain ⟨d, hd, hid⟩ := List.mem_map.mp hmem
      obtain ⟨row, hrow, hrowid⟩ := h d hd
      exact (Table.mem_delete.mp hrow).2 (hrowid.trans hid)
    rw [deletionsSucceed_cons, ih, List.map_cons, List.nodup_cons, List.forall_mem_cons]
    constructor
    · rintro ⟨hfault, hrow, hfaults, hrest, hnodup⟩
      refine ⟨fun i hi ↦ ?_, ⟨hrow, (hrows (hnew hrest)).mp hrest⟩, hnew hrest, hnodup⟩
      cases i with
      | zero => exact hfault
      | succ i =>
        have hi' := hfaults i (by simpa using hi)
        rwa [show n + (i + 1) + 1 = n + 1 + i + 1 by omega]
    · rintro ⟨hfaults, ⟨hrow, hrest⟩, hc, hnodup⟩
      refine ⟨hfaults 0 (by simp), hrow, fun i hi ↦ ?_, (hrows hc).mpr hrest, hnodup⟩
      have hi' := hfaults (i + 1) (by simpa using hi)
      rwa [show n + 1 + i + 1 = n + (i + 1) + 1 by omega]

/-- The calls look at the table of the credentials only. -/
theorem deletionsSucceed_congr {n : Nat} {cs : List Credential} {s t : Store}
    (h : t.credentials = s.credentials) :
    deletionsSucceed env n cs t = deletionsSucceed env n cs s := by
  rw [Bool.eq_iff_iff, deletionsSucceed_iff, deletionsSucceed_iff, h]

/-- Where the calls succeed, none of the rows is left. -/
theorem deleteAll_complete {n : Nat} {cs : List Credential}
    (h : deleteAll env n cs w = (.ok (), w')) (hok : deletionsSucceed env n cs w.store)
    {c : Credential} (hc : c ∈ cs) : ∀ row ∈ w'.store.credentials.rows,
      row.credentialId ≠ c.id := by
  induction cs generalizing n w with
  | nil => cases hc
  | cons d cs ih =>
    obtain ⟨hfault, ⟨row, hrow, hid⟩, hrest⟩ := deletionsSucceed_cons.mp hok
    have hfind : w.store.credentials.find d.id ≠ none := by
      rw [(Table.find_eq_some_iff _ _ _).mpr ⟨hrow, hid⟩]
      exact nofun
    rw [deleteAll, bind_def] at h
    simp only [CommandM.store, zoom, Store.deleteCtap2Credential_apply, if_neg hfault,
      if_neg hfind] at h
    rcases List.mem_cons.mp hc with rfl | hc
    · have hremoves := Removes.of_deleteAll h
      exact fun row hrow ↦ (Table.mem_delete.mp (hremoves.stored row hrow)).2
    · exact ih h hrest hc

/-! ## An approved reset -/

/-- What the part about the PIN leaves. -/
theorem PinReset.complete_iff {w₁ : World} (h : PinReset env w w₁) :
    ((w.auth.clientPin.isSome → (Store.deleteClientPinState (env.store 0) w.store).1 = .ok ()) ∧
      w₁.store.clientPin = none ∧ w₁.auth.clientPin = none ∧ w₁.auth.keyAgreement = none ∧
      w₁.auth.pinUvAuthToken = none) ↔
    (w.auth.clientPin.isSome → ¬ ((env.store 0).io ∨ (env.store 0).statement)) ∧
      (w.auth.clientPin = none →
        w.store.clientPin = none ∧ w.auth.keyAgreement = none ∧ w.auth.pinUvAuthToken = none) := by
  rw [Store.deleteClientPinState_apply]
  cases h with
  | unset hunset => simp [hunset]
  | kept hset hfault => simp [hset, hfault]
  | removed hset hfault =>
    have hne : w.auth.clientPin ≠ none := Option.isSome_iff_ne_none.mp hset
    simp [hset, hfault, hne, Authenticator.withoutPin]

/-- What the part about the credentials leaves. -/
theorem deleteAll_complete_iff (uid : Option UInt32) {cs : List Credential}
    (h : deleteAll env 0 cs w = (.ok (), w')) :
    (deletionsSucceed env 0 cs w.store ∧ Store.selectCredentials uid w'.store = []) ↔
      deletionsSucceed env 0 cs w.store ∧
        ∀ row ∈ Store.selectCredentials uid w.store, ∃ c ∈ cs, c.id = row.credentialId := by
  have hremoves := Removes.of_deleteAll h
  refine and_congr_right fun hok ↦ ?_
  rw [List.eq_nil_iff_forall_not_mem]
  constructor
  · intro hnone row hrow
    obtain ⟨hmem, hvisible⟩ := Store.mem_selectCredentials.mp hrow
    by_contra hc
    exact hnone row (Store.mem_selectCredentials.mpr ⟨hremoves.others row hmem hc, hvisible⟩)
  · intro hcached row hrow
    obtain ⟨hmem, hvisible⟩ := Store.mem_selectCredentials.mp hrow
    have hbefore := Store.mem_selectCredentials.mpr ⟨hremoves.stored row hmem, hvisible⟩
    obtain ⟨c, hc, hid⟩ := hcached row hbefore
    exact deleteAll_complete h hok hc row hmem hid.symm

/-- The step of an approved reset. -/
theorem step_of_approvedReset (crates : Crates) (h : approvedReset w (.cbor env payload)) :
    ∃ w₁ w₂, PinReset env (w.enter .reset) w₁ ∧
      deleteAll env 0 w.auth.credentials w₁ = (.ok (), w₂) ∧
      step crates w (.cbor env payload) = (.cbor (emptyResponse crates), { w₂ with
        auth := { w₂.auth with
          credentials := [], pendingAssertion := none, management := none } }) := by
  rw [approvedReset, Bool.and_eq_true] at h
  obtain ⟨⟨command, body⟩, hp, hcommand⟩ := (Option.any_eq_true _ _).mp h.1
  cases of_decide_eq_true hcommand
  obtain ⟨w₁, w₂, hpin, hrows, hreset⟩ := reset_of_approved crates env (w.enter .reset) h.2
  refine ⟨w₁, w₂, hpin, hrows, ?_⟩
  rw [step_cbor hp w, show gatedCommand crates env .reset body (w.enter .reset) =
    reset crates env (w.enter .reset) from rfl, hreset]
  rfl

/-- A reset succeeds if and only if it is approved. -/
theorem succeeded_reset_iff (crates : Crates) (w : World) (env : Env) (payload : List UInt8) :
    (Event.cbor env payload).hasCommand .reset ∧ (step crates w (.cbor env payload)).1.succeeded ↔
      approvedReset w (.cbor env payload) := by
  constructor
  · rintro ⟨hreset, hok⟩
    by_contra hrefused
    obtain ⟨env, payload, body, ⟨⟩, hp⟩ := exists_payload_of_hasCommand hreset
    have hdenied : ¬ w.auth.assertionApproved env 0 "reset" := by
      simpa [approvedReset, hp] using hrefused
    rw [step_cbor hp w, show gatedCommand crates env .reset body (w.enter .reset) =
      reset crates env (w.enter .reset) from rfl, reset_of_refused crates env (w.enter .reset)
        hdenied] at hok
    exact not_succeeded_of_none (o := .error .operationDenied) rfl (w.enter .reset) hok
  · intro h
    obtain ⟨w₁, w₂, -, -, hstep⟩ := step_of_approvedReset crates h
    rw [approvedReset, Bool.and_eq_true] at h
    exact ⟨h.1, by rw [hstep]; rfl⟩

/-- **What is gone stays gone.** -/
theorem unused_of_deleted {events : List Event} {past later : List Step} {u : Step}
    (hsplit : run crates w' events = past ++ u :: later) (hmemory : w'.auth.credentials = [])
    (hsub : ∀ row ∈ w'.store.credentials.rows, row ∈ w.store.credentials.rows)
    (hdeleted : ∀ c ∈ w.auth.credentials, ∀ row ∈ w'.store.credentials.rows,
      row.credentialId ≠ c.id)
    (hrows : Store.selectCredentials w.auth.session.uid w'.store = []) {x : Assertion}
    (hx : released crates u.before u.input = some x) (huse : InUse w x.credential.id) :
    ∃ v ∈ past, drawnId v.input = some x.credential.id := by
  have hknown := Counter.issued_known (2 ^ 32 - 1) copies drawnId
    (fun w event ↦ (released crates w event).map issuedBy)
    (fun cur event ↦ (step_effect crates cur event).move) hsplit (by rw [hx]; rfl)
  rcases hknown with ⟨n, hn⟩ | hdrawn
  · exfalso
    rcases hn with ⟨c, hc, -⟩ | ⟨row, hrow, hid, -⟩
    · rw [hmemory] at hc
      cases hc
    · rcases huse with ⟨c, hc, hcid⟩ | ⟨row₀, hrow₀, hid₀⟩
      · exact hdeleted c hc row hrow (hid.trans hcid.symm)
      · obtain ⟨hmem, hvisible⟩ := Store.mem_selectCredentials.mp hrow₀
        cases w.store.credentials.eq_of_key_eq (hsub row hrow) hmem (hid.trans hid₀.symm)
        have hleft := Store.mem_selectCredentials.mpr ⟨hrow, hvisible⟩
        rw [hrows] at hleft
        cases hleft
  · obtain ⟨v, hv, hvid⟩ := List.mem_filterMap.mp hdrawn
    exact ⟨v, hv, hvid⟩

/-- **A reset that says so is complete** if and only if it reaches all there is. -/
theorem resetComplete_iff_covers (crates : Crates) (w : World) (env : Env) (payload : List UInt8) :
    ((Event.cbor env payload).hasCommand .reset →
      (step crates w (.cbor env payload)).1.succeeded →
      ResetComplete crates env (Run.transition (step crates) w (.cbor env payload))) ↔
    (approvedReset w (.cbor env payload) → ResetCovers env w) := by
  rw [← and_imp, succeeded_reset_iff]
  refine imp_congr_right fun happroved ↦ ?_
  obtain ⟨w₁, w₂, hpin, hrows, hstep⟩ := step_of_approvedReset crates happroved
  have hsame : w₁.store.credentials = w.store.credentials := hpin.sameCredentials.stored
  have hselect : ∀ uid, Store.selectCredentials uid w₁.store =
      Store.selectCredentials uid w.store := by
    intro uid
    rw [Store.selectCredentials, hsame, Store.selectCredentials]
  have hremoves := Removes.of_deleteAll hrows
  have hpinIff := hpin.complete_iff
  have hrowsIff := deleteAll_complete_iff w.auth.session.uid hrows
  rw [deletionsSucceed_congr hsame, hselect] at hrowsIff
  rw [Run.transition, hstep]
  constructor
  · rintro ⟨hpinDeleted, hdeleted, hpinRow, hleft, hmemory, -⟩
    have hauth := hremoves.auth
    have hpinParts := hpinIff.mp ⟨hpinDeleted, hremoves.settings.clientPin ▸ hpinRow,
      hauth ▸ hmemory.clientPin, hauth ▸ hmemory.keyAgreement, hauth ▸ hmemory.token⟩
    obtain ⟨hok, hcached⟩ := hrowsIff.mp ⟨hdeleted, hleft⟩
    obtain ⟨hfaults, hstored, hdistinct⟩ := deletionsSucceed_iff.mp hok
    simp only [Nat.zero_add] at hfaults
    exact ⟨hpinParts.1, hpinParts.2, hfaults, hstored, hdistinct, hcached⟩
  · intro h
    have hok : deletionsSucceed env 0 w.auth.credentials w.store :=
      deletionsSucceed_iff.mpr ⟨by simpa only [Nat.zero_add] using h.faults, h.stored, h.distinct⟩
    obtain ⟨-, hleft⟩ := hrowsIff.mpr ⟨hok, h.cached⟩
    obtain ⟨hpinDeleted, hpinRow, hunset, hkey, htoken⟩ := hpinIff.mpr ⟨h.pinFault, h.pinUnset⟩
    have hok₁ := hok
    rw [← deletionsSucceed_congr hsame] at hok₁
    refine ⟨hpinDeleted, hok, hremoves.settings.clientPin.trans hpinRow, hleft, ?_, ?_⟩
    · exact ⟨rfl, hremoves.auth ▸ hunset, hremoves.auth ▸ hkey, hremoves.auth ▸ htoken, rfl, rfl⟩
    · intro events past u later x hsplit hx huse
      refine unused_of_deleted hsplit rfl (fun row hrow ↦ ?_) (fun c hc ↦ ?_) hleft hx huse
      · exact hsame ▸ hremoves.stored row hrow
      · exact deleteAll_complete hrows hok₁ hc

namespace Sample

/-- The packages of the run about reset. -/
def resetPackages : Crates := packages [Sample.makeCredential "", Sample.getAssertion ""]

/-- The daemon of that run, with one credential. -/
def resetStart : World :=
  after resetPackages (newAuthenticator resetPackages (session 1000 0) (some "") Store.fresh)
    [setPassphrase, request (session 1000 1) 0x01 (Sample.makeCredential "")]

end Sample

open Sample in
/-- A reset succeeds although the deletion of the credential failed, and the credential is used by
the next getAssertion, which reads it back. -/
theorem credential_survives_reset :
    let t := Run.transition (step resetPackages) resetStart (.cbor (failingAt 1) [0x07])
    let next := request (session 1000 0) 0x02 (Sample.getAssertion "")
    t.output.succeeded ∧
      ¬ deletionsSucceed (failingAt 1) 0 resetStart.auth.credentials resetStart.store ∧
      resetStart.auth.credentials.map Credential.id = [credentialId 1] ∧
      t.after.auth.credentials = [] ∧ (step resetPackages t.after next).1.succeeded ∧
      (released resetPackages t.after next).map (fun x ↦ x.credential.id) = some (credentialId 1) ∧
      ¬ ResetComplete resetPackages (failingAt 1) t := by
  intro t next
  have hfailed : ¬ deletionsSucceed (failingAt 1) 0 resetStart.auth.credentials
      resetStart.store := by decide +kernel
  exact ⟨by decide +kernel, hfailed, by decide +kernel, by decide +kernel, by decide +kernel,
    by decide +kernel, fun h ↦ hfailed h.deleted⟩

end Ctap2
end TpmFido2
