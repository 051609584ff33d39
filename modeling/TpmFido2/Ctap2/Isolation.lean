import TpmFido2.Ctap2.Sample
import TpmFido2.Ctap2.StepEffects

/-!
# Users do not see each other's credentials

One store serves all users of a machine.  A daemon loads what belongs to its user, and what belongs
to nobody, so its commands on single credentials — a new counter, a deletion, a reset — cannot reach
the rows of another user: a row is found by its ID, and the IDs in memory are those of the user's
own rows.

Saving is different.  It replaces the whole table by what is in memory, and so removes the rows of
every other user.  `usersIsolated_of_not_savesAll` is what is left of the isolation: it holds as
long as a daemon that shares its store does not register and does not rename.
`makeCredential_removes_other_user` is a registration that removes another user's credential.
-/

set_option autoImplicit false

namespace TpmFido2
namespace Ctap2

/-! ## The property -/

/-- The row belongs to another user than `u`. -/
def isForeign (u : UInt32) (row : CredentialRow) : Bool :=
  match row.userId with
  | some owner => owner ≠ u.toNat
  | none => false

/-- A run of CTAP2 requests. -/
def requestEvents (requests : List (Env × List UInt8)) : List Event :=
  requests.map fun r ↦ .cbor r.1 r.2

/-- **Users are isolated.**  The rows of other users are in the store after the run as they were
before. -/
def UsersIsolated (crates : Crates) (env : Env) (tpmPath : Option String) (s : Store) (u : UInt32)
    (requests : List (Env × List UInt8)) : Prop :=
  ∀ row ∈ s.credentials.rows, isForeign u row →
    row ∈ (after crates (newAuthenticator crates env tpmPath s)
      (requestEvents requests)).store.credentials.rows

variable {crates : Crates} {u : UInt32}

/-! ## One step -/

/-- The row is in the store, and no credential in memory has its ID. -/
structure OutOfReach (row : CredentialRow) (w : World) : Prop where
  stored : row ∈ w.store.credentials.rows
  cached : ∀ c ∈ w.auth.credentials, c.id ≠ row.credentialId

/-- What is loaded for a user has none of the IDs of another user's rows. -/
theorem FromDisk.ne_of_isForeign {s : Store} {cs : List Credential}
    (h : FromDisk crates (some u) s cs) {row : CredentialRow} (hrow : row ∈ s.credentials.rows)
    (hforeign : isForeign u row) : ∀ c ∈ cs, c.id ≠ row.credentialId := by
  intro c hc hid
  obtain ⟨row', hrow', hdescribes⟩ := h.exists_row hc
  obtain ⟨hmem, hvisible, -⟩ := Store.mem_selectCredentials.mp hrow'
  obtain rfl := s.credentials.eq_of_key_eq hrow hmem (hid.symm.trans hdescribes.id)
  rw [isForeign] at hforeign
  cases howner : row.userId with
  | none =>
    rw [howner] at hforeign
    cases hforeign
  | some owner =>
    rw [howner] at hforeign
    simp only [Store.visibleTo, howner, decide_eq_true_eq] at hvisible hforeign
    exact hforeign hvisible

/-- A change of the list in memory that adds no ID. -/
theorem OutOfReach.of_modify {row : CredentialRow} {cs : List Credential} {i : Nat}
    {f : Credential → Credential} (hf : ∀ c, (f c).id = c.id)
    (h : ∀ c ∈ cs, c.id ≠ row.credentialId) : ∀ c ∈ cs.modify i f, c.id ≠ row.credentialId := by
  intro c hc
  obtain ⟨j, hj⟩ := List.mem_iff_getElem?.mp hc
  rw [List.getElem?_modify] at hj
  obtain ⟨c₀, hc₀, rfl⟩ := Option.map_eq_some_iff.mp hj
  have hne := h c₀ (List.mem_of_getElem? hc₀)
  split
  · rw [hf]
    exact hne
  · exact hne

theorem OutOfReach.release {row : CredentialRow} {w w' : World} {index : Nat}
    {x : Option Assertion} (h : OutOfReach row w) (hrel : Release w index x w') :
    OutOfReach row w' := by
  cases hrel with
  | failed hsame _ => exact ⟨hsame.stored ▸ h.stored, hsame.cached ▸ h.cached⟩
  | @done _ x _ credential _ _ stored cached _ =>
    constructor
    · rw [stored]
      exact (Table.mem_update_of_ne (h.cached _ (List.mem_of_getElem? credential)).symm).mpr
        h.stored
    · rw [cached]
      exact OutOfReach.of_modify (fun _ ↦ rfl) h.cached

/-- **The step lemma.**  A request that does not save everything leaves another user's row out of
reach. -/
theorem OutOfReach.step {row : CredentialRow} {w : World} {env : Env} {payload : List UInt8}
    (h : OutOfReach row w) (hforeign : isForeign u row) (hu : w.auth.session.uid = some u)
    (hsaves : ¬ savesAll crates (.cbor env payload)) :
    OutOfReach row (step crates w (.cbor env payload)).2 ∧
      (step crates w (.cbor env payload)).2.auth.session.uid = some u := by
  have heffect := step_effect crates w (.cbor env payload)
  generalize (Ctap2.step crates w (.cbor env payload)).2 = w' at heffect ⊢
  have reload : ∀ {cs : List Credential}, FromDisk crates w.auth.session.uid w.store cs →
      ∀ c ∈ cs, c.id ≠ row.credentialId := by
    intro cs hcs
    rw [hu] at hcs
    exact hcs.ne_of_isForeign h.stored hforeign
  -- only the two effects that save everything could remove the row, and they are excluded
  cases heffect with
  | kept hsame _ _ _ =>
    exact ⟨⟨hsame.stored ▸ h.stored, hsame.cached ▸ h.cached⟩, hsame.session ▸ hu⟩
  | reloaded hsame stored cached _ _ _ =>
    exact ⟨⟨stored ▸ h.stored, reload cached⟩, hsame.session ▸ hu⟩
  | @asserted w₁ _ _ _ _ _ _ _ _ _ _ _ _ hsame stored cached _ _ hrel _ =>
    have h₁ : OutOfReach row w₁ := by
      refine ⟨stored ▸ h.stored, ?_⟩
      rcases cached with hcached | hcached
      · exact hcached ▸ h.cached
      · exact reload hcached
    exact ⟨h₁.release hrel, by rw [hrel.sameContext.session, hsame.session, hu]⟩
  | @continued w₁ _ _ _ _ _ _ _ _ _ _ _ hsame stored cached _ hrel _ =>
    have h₁ : OutOfReach row w₁ := ⟨stored ▸ h.stored, cached ▸ h.cached⟩
    exact ⟨h₁.release hrel, by rw [hrel.sameContext.session, hsame.session, hu]⟩
  | created he hp _ _ _ _ _ _ =>
    refine absurd ?_ hsaves
    rw [he]
    simp [savesAll, Event.hasCommand, hp]
  | renamed _ hsaves' _ _ _ _ _ _ => exact absurd hsaves' hsaves
  | @deleted _ index id hsame _ position stored cached _ _ _ _ =>
    obtain ⟨c, hc, hid⟩ := exists_of_discoverablePosition position
    refine ⟨⟨?_, ?_⟩, hsame.session ▸ hu⟩
    · rw [stored, Table.mem_delete]
      exact ⟨h.stored, fun hrow ↦ h.cached c (List.mem_of_getElem? hc) (hid.trans hrow.symm)⟩
    · rw [cached]
      exact fun c hc ↦ h.cached c (List.eraseIdx_subset hc)
  | wiped _ hsame stored others cached _ _ _ =>
    refine ⟨⟨others row h.stored h.cached, ?_⟩, hsame.session ▸ hu⟩
    rw [cached]
    exact fun c hc ↦ absurd hc List.not_mem_nil
  | updated he _ _ _ _ _ _ _ _ => cases he
  | started he _ _ _ _ _ _ => cases he

/-! ## Runs -/

/-- A start keeps the store and loads nothing of another user's. -/
theorem OutOfReach.start {row : CredentialRow} {env : Env} {tpmPath : Option String} {s : Store}
    (hrow : row ∈ s.credentials.rows) (hforeign : isForeign u row)
    (hu : (env.detect 0).uid = some u) :
    OutOfReach row (newAuthenticator crates env tpmPath s) ∧
      (newAuthenticator crates env tpmPath s).auth.session.uid = some u := by
  have h := newAuthenticator_started crates env tpmPath s
  have hcached := h.cached
  rw [hu] at hcached
  exact ⟨⟨h.stored ▸ hrow, hcached.ne_of_isForeign hrow hforeign⟩, by rw [h.session, hu]⟩

/-- **Isolation without saving everything.**  If the store has rows of other users and no request
of the run is a makeCredential or an updateUserInformation, the rows of other users stay. -/
theorem usersIsolated_of_not_savesAll (env : Env) (tpmPath : Option String) (s : Store)
    (requests : List (Env × List UInt8)) (hu : (env.detect 0).uid = some u)
    (hsaves : (∃ row ∈ s.credentials.rows, isForeign u row) →
      ∀ event ∈ requestEvents requests, ¬ savesAll crates event) :
    UsersIsolated crates env tpmPath s u requests := by
  intro row hrow hforeign
  have hsaves := hsaves ⟨row, hrow, hforeign⟩
  refine (Run.state_invariant (I := fun w ↦ OutOfReach row w ∧ w.auth.session.uid = some u)
    (C := fun _ event ↦ event ∈ requestEvents requests) (OutOfReach.start hrow hforeign hu) ?_ _
    fun t ht ↦ Run.input_mem_of_mem_transitions ht).1.stored
  rintro w event ⟨h, hw⟩ hevent
  have hnot := hsaves event hevent
  obtain ⟨r, -, rfl⟩ := List.mem_map.mp hevent
  exact h.step hforeign hw hnot

/-! ## A registration on a shared store -/

namespace Sample

/-- The requests of the two users. -/
def sharedPackages : Crates := packages [makeCredential "a", getAssertion "a"]

/-- The store after user 1001 has registered. -/
def sharedStore : Store :=
  (after sharedPackages (newAuthenticator sharedPackages (session 1001 0) (some "") Store.fresh)
    [setPassphrase, request (session 1001 1) 0x01 (makeCredential "a")]).store

end Sample

open Sample in
/-- User 1000 can look for credentials on the store of user 1001 without harm. -/
theorem usersIsolated_of_not_savesAll_assertion :
    (∃ row ∈ sharedStore.credentials.rows, isForeign 1000 row) ∧
    UsersIsolated sharedPackages (session 1000 0) (some "") sharedStore 1000
      [(session 1000 0, 0x02 :: Cbor.encode (Sample.getAssertion "a"))] :=
  ⟨by decide +kernel, usersIsolated_of_not_savesAll (session 1000 0) (some "") sharedStore _ rfl
    fun _ ↦ by decide +kernel⟩

open Sample in
/-- But when user 1000 registers, the credential of user 1001 is gone. -/
theorem makeCredential_removes_other_user :
    let registration := (session 1000 2, 0x01 :: Cbor.encode (Sample.makeCredential "a"))
    sharedStore.credentials.rows.map (fun row ↦ (row.credentialId, row.userId)) =
        [(credentialId 1, some 1001)] ∧
      (after sharedPackages (newAuthenticator sharedPackages (session 1000 0) (some "") sharedStore)
        (requestEvents [registration])).store.credentials.rows.map
          (fun row ↦ (row.credentialId, row.userId)) = [(credentialId 2, some 1000)] ∧
      ¬ UsersIsolated sharedPackages (session 1000 0) (some "") sharedStore 1000
        [registration] := by
  refine ⟨by decide +kernel, by decide +kernel, ?_⟩
  unfold UsersIsolated
  decide +kernel

end Ctap2
end TpmFido2
