import TpmFido2.Ctap2.Counters
import TpmFido2.Ctap2.Memory

/-!
# Acknowledged changes

Three requests change a credential: makeCredential adds one, updateUserInformation changes one and
deleteCredential removes one.  The three keep the store in step with the list in memory in different
ways.  A deletion writes to the store first and stops if that fails.  The other two change the list
first and then write all of it over the table, and answer success whatever came of that.

`ChangeDurable` is what an answer should mean: with success, the change is in the store and the
store holds what the list holds; with an error, nothing has changed.  The second half is true of all
requests.  The first is not, for a write that fails, and also because the management thread changes
rows whose credential is in memory.

* **`changeDurable_of_works`**: in runs in which writes work and the management thread leaves alone
  what is in memory (`ChangeWorks`), every answer means what it says.

The invariant is `Settled`: store and list agree, unless the list is empty.  An empty list is what a
failed load leaves, and no credential can be changed before something is in it.
-/

set_option autoImplicit false

namespace TpmFido2
namespace Ctap2

open Handler

/-! ## The property -/

section
variable (crates : Crates)

/-- The row gives the credential when it is loaded for the user. -/
def Holds (uid : Option UInt32) (row : CredentialRow) (c : Credential) : Prop :=
  (Store.credentialOfRow crates uid row).map (·.toCredential) = some c

instance (uid : Option UInt32) (row : CredentialRow) (c : Credential) :
    Decidable (Holds crates uid row c) := inferInstanceAs (Decidable (_ = _))

/-- The rows of the session's user. -/
def userRows (w : World) : List CredentialRow :=
  Store.selectCredentials w.auth.session.uid w.store

/-- The store holds what is in memory, of the session's user, and nothing else of theirs. -/
structure Agrees (w : World) : Prop where
  stored : ∀ c ∈ w.auth.credentials, ∃ row ∈ userRows w, Holds crates w.auth.session.uid row c
  cached : ∀ row ∈ userRows w, ∃ c ∈ w.auth.credentials, Holds crates w.auth.session.uid row c

instance (w : World) : Decidable (Agrees crates w) :=
  decidable_of_iff (_ ∧ _) ⟨fun h ↦ ⟨h.1, h.2⟩, fun h ↦ ⟨h.stored, h.cached⟩⟩

/-- The request is one of the three. -/
def changesCredentials (event : Event) : Bool :=
  event.hasCommand .makeCredential ||
    (managementRequest crates event).any fun x ↦ x.2.2 = 6 || x.2.2 = 7

/-- The user data of a request, in a row. -/
structure HasUser (user : Entries) (row : CredentialRow) : Prop where
  name : row.userName = mapText user (.text "name")
  displayName : row.userDisplayName = mapText user (.text "displayName")
  handle : ∀ handle, mapBytes user (.text "id") = some handle → row.userHandle = handle

/-- **What an answer to one of the three requests means.** -/
structure ChangeDurable (t : Step) : Prop where
  /-- The new credential is in the store. -/
  created : t.input.hasCommand .makeCredential → t.output.succeeded →
    ∃ c, t.after.auth.credentials = t.before.auth.credentials ++ [c] ∧
      ∃ row ∈ userRows t.after, Holds crates t.after.auth.session.uid row c
  /-- The new user data is in the store. -/
  updated : ∀ env request, managementRequest crates t.input = some (env, request, 7) →
    t.output.succeeded → ∃ id user, descriptorId (mapMap request (.int 2)) = .ok id ∧
      ((mapMap request (.int 2)).bind fun params ↦ mapMap params (.int 3)) = some user ∧
      ∃ row ∈ userRows t.after, row.credentialId = id ∧ HasUser user row
  /-- The credential is not in the store any more. -/
  deleted : ∀ env request, managementRequest crates t.input = some (env, request, 6) →
    t.output.succeeded → ∃ id, descriptorId (mapMap request (.int 2)) = .ok id ∧
      ∀ row ∈ t.after.store.credentials.rows, row.credentialId ≠ id
  agrees : changesCredentials crates t.input → t.output.succeeded → Agrees crates t.after
  /-- With an error, nothing has changed. -/
  unchanged : changesCredentials crates t.input → t.output ≠ .panicked → ¬ t.output.succeeded →
    t.after.store = t.before.store ∧ t.after.auth.credentials = t.before.auth.credentials

/-- Writing over the table meets no error. -/
def Event.writes (event : Event) : Bool :=
  match event with
  | .cbor env _ => !((env.store 3).io || (env.store 3).statement)
  | _ => true

/-- **Writes work**, and the management thread leaves alone what is in memory. -/
structure ChangeWorks (w : World) (event : Event) : Prop where
  writes : savesAll crates event → event.writes
  fresh : ∀ c ∈ w.auth.credentials, drawnId event ≠ some c.id
  versions : savesAll crates event →
    ∀ c ∈ w.auth.credentials, c.policy.all fun p ↦ p.policyVersion = 1
  passphrase : event.hasCommand .makeCredential → passphraseFits crates w.store
  untouched : ∀ c ∈ w.auth.credentials, event.tpmTarget ≠ some c.id

instance (w : World) (event : Event) : Decidable (ChangeWorks crates w event) :=
  decidable_of_iff (_ ∧ _ ∧ _ ∧ _ ∧ _)
    ⟨fun h ↦ ⟨h.1, h.2.1, h.2.2.1, h.2.2.2.1, h.2.2.2.2⟩,
      fun h ↦ ⟨h.writes, h.fresh, h.versions, h.passphrase, h.untouched⟩⟩

end

variable {crates : Crates} {w w' : World} {event : Event} {payload body : List UInt8}

/-! ## The outcome of a request -/

/-- What one of the three requests can end in. -/
inductive ChangeResult (crates : Crates) (w : World) (event : Event) :
    Outcome ErrorStatus (List UInt8) × World → Prop where
  | refused {o : Outcome ErrorStatus (List UInt8)} {w' : World} (ho : o.toOption = none)
    (store : w'.store = w.store) (cached : w'.auth.credentials = w.auth.credentials) :
    ChangeResult crates w event (o, w')
  | panicked {w' : World} : ChangeResult crates w event (.panicked, w')
  | created {response : Cbor.Value} {w' : World} {c : Credential}
    (hcommand : event.hasCommand .makeCredential)
    (cached : w'.auth.credentials = w.auth.credentials ++ [c]) :
    ChangeResult crates w event (.ok (encodeResponse crates response), w')
  | renamed {env : Env} {request user : Entries} {id : List UInt8} {index : Nat} {w' : World}
    (hrequest : managementRequest crates event = some (env, request, 7))
    (hid : descriptorId (mapMap request (.int 2)) = .ok id)
    (huser : ((mapMap request (.int 2)).bind fun params ↦ mapMap params (.int 3)) = some user)
    (position : discoverablePosition w.auth.credentials id = some index)
    (cached : w'.auth.credentials = w.auth.credentials.modify index (withUser user)) :
    ChangeResult crates w event (.ok (emptyResponse crates), w')
  | deleted {env : Env} {request : Entries} {id : List UInt8} {index : Nat} {w' : World}
    (hrequest : managementRequest crates event = some (env, request, 6))
    (hid : descriptorId (mapMap request (.int 2)) = .ok id)
    (position : discoverablePosition w.auth.credentials id = some index)
    (session : w'.auth.session = w.auth.session)
    (stored : w'.store.credentials = w.store.credentials.delete id)
    (cached : w'.auth.credentials = w.auth.credentials.eraseIdx index) :
    ChangeResult crates w event (.ok (emptyResponse crates), w')

/-- The response to a registration is one of success. -/
theorem registration_returns {env : Env} (body : List UInt8) (w : World) :
    Returns (registration crates env body) w
      fun x ↦ ∃ response, x.2 = encodeResponse crates response := by
  refine .bind fun _ w₀ _ ↦ .bind fun request w₁ _ ↦ .bind fun r w₂ _ ↦ .bind fun verified w₃ _ ↦ ?_
  refine .bind fun _ w₄ _ ↦ .bind fun _ w₅ _ ↦ .bind fun a w₆ _ ↦ .bind fun _ w₇ _ ↦ ?_
  refine .bind fun _ w₈ _ ↦ .bind fun passphrase w₉ _ ↦ .bind fun tpm? w₁₀ _ ↦ ?_
  exact .bind fun tpm w₁₁ _ ↦ .bind fun x w₁₂ _ ↦ .pure ⟨_, rfl⟩

theorem makeCredential_changeResult {env : Env}
    (hp : parsePayload payload = some (.makeCredential, body)) :
    ChangeResult crates w (.cbor env payload)
      (gatedCommand crates env .makeCredential body (w.enter .makeCredential)) := by
  have hcached : (registration crates env body (w.enter .makeCredential)).2.auth.credentials =
      w.auth.credentials := (registration_moves body _).credentials
  have hstore : (registration crates env body (w.enter .makeCredential)).2.store = w.store :=
    registration_sameStore body _
  have hreturns : Returns (registration crates env body) (w.enter .makeCredential) _ :=
    registration_returns body _
  rw [gatedCommand_makeCredential, bind_def]
  cases e : registration crates env body (w.enter .makeCredential) with
  | mk o w₁ =>
    rw [e] at hcached hstore
    cases o with
    | error _ => exact .refused rfl hstore hcached
    | panicked => exact .panicked
    | ok x =>
      obtain ⟨c, response⟩ := x
      obtain ⟨response, rfl⟩ := hreturns _ _ e
      let w₂ : World := { w₁ with auth := { w₁.auth with
        credentials := w₁.auth.credentials ++ [c] } }
      have hno := saveCredentials_no_error crates env w₂
      have hauth := (saveCredentials_saved crates env w₂).auth
      change ChangeResult crates w _
        ((saveCredentials crates env >>= fun _ ↦ pure (encodeResponse crates response)) w₂)
      rw [bind_def]
      cases hsave : saveCredentials crates env w₂ with
      | mk o w₃ =>
        rw [hsave] at hno hauth
        cases o with
        | error status => exact absurd rfl (hno status)
        | panicked => exact .panicked
        | ok _ =>
          refine .created (c := c) (by simp [Event.hasCommand, hp]) ?_
          rw [show w₃.auth = w₂.auth from hauth]
          exact congrArg (· ++ [c]) hcached

theorem locateUser_ok {a : Authenticator} {params : Option Entries} {index : Nat} {user : Entries}
    (h : locateUser a params = .ok (index, user)) : ∃ id, descriptorId params = .ok id ∧
      (params.bind fun params ↦ mapMap params (.int 3)) = some user ∧
      discoverablePosition a.credentials id = some index := by
  obtain ⟨id, hid, h⟩ := except_bind_ok h
  refine ⟨id, hid, ?_⟩
  cases huser : params.bind fun params ↦ mapMap params (.int 3) with
  | none => rw [huser] at h; cases h
  | some user' =>
    rw [huser] at h
    cases hposition : discoverablePosition a.credentials id with
    | none => simp [hposition] at h
    | some index' =>
      simp only [hposition, Except.ok.injEq, Prod.mk.injEq] at h
      obtain ⟨rfl, rfl⟩ := h
      exact ⟨rfl, rfl⟩

theorem management_changeResult {env : Env} {command : Ctap2Command} (hc : command.isManagement)
    (hp : parsePayload payload = some (command, body)) {n : Int} {request : Entries}
    (hrequest : managementRequest crates (.cbor env payload) = some (env, request, n))
    (hn : n = 6 ∨ n = 7) :
    ChangeResult crates w (.cbor env payload)
      (gatedCommand crates env command body (w.enter command)) := by
  have hquiet := authorisedRequest_moves crates env command body (w.enter command)
  have hstore : (authorisedRequest crates env command body (w.enter command)).2.store = w.store :=
    authorisedRequest_sameStore command body _
  rw [gatedCommand_management hc, bind_def]
  cases e : authorisedRequest crates env command body (w.enter command) with
  | mk o w₁ =>
    rw [e] at hquiet hstore
    have hcached : w₁.auth.credentials = w.auth.credentials := hquiet.credentials
    cases o with
    | error _ => exact .refused rfl hstore hcached
    | panicked => exact .panicked
    | ok x =>
      obtain ⟨n', params⟩ := x
      obtain ⟨_, w₂, -, h₂⟩ := bind_ok e
      obtain ⟨request', hdecode, hn', hparams, -⟩ := (authoriseManagement_ok h₂).request
      -- the request that was authorised is the one of the event
      have hsame : managementRequest crates (.cbor env payload) = _ :=
        managementRequest_cbor hc hp hdecode hn'
      rw [hrequest, Option.some.injEq, Prod.mk.injEq, Prod.mk.injEq] at hsame
      obtain ⟨-, rfl, rfl⟩ := hsame
      subst hparams
      rcases hn with rfl | rfl
      · change ChangeResult crates w _
          (deleteCredential crates env (mapMap request (.int 2)) w₁)
        have hdel := deleteCredential_deletion crates env (mapMap request (.int 2)) w₁
        generalize deleteCredential crates env (mapMap request (.int 2)) w₁ = r at hdel ⊢
        cases hdel with
        | failed o ho => exact .refused ho hstore hcached
        | done hid position =>
          refine .deleted hrequest hid (hcached ▸ position) hquiet.session ?_ ?_
          · exact congrArg (fun s : Store ↦ s.credentials.delete _) hstore
          · exact congrArg (List.eraseIdx · _) hcached
      · change ChangeResult crates w _
          (updateUserInformation crates env (mapMap request (.int 2)) w₁)
        have hrenaming := updateUserInformation_renaming crates env (mapMap request (.int 2)) w₁
        generalize updateUserInformation crates env (mapMap request (.int 2)) w₁ = r at hrenaming ⊢
        cases hrenaming with
        | failed _ => exact .refused rfl hstore hcached
        | done hlocate hauth hended _ _ =>
          rcases hended with ⟨-, rfl⟩ | ⟨-, rfl⟩
          · obtain ⟨id, hid, huser, hposition⟩ := locateUser_ok hlocate
            refine .renamed hrequest hid huser (hcached ▸ hposition) ?_
            rw [hauth, ← hcached]
          · exact .panicked

/-- **What one of the three requests can end in.** -/
theorem step_changeResult {env : Env} (hchange : changesCredentials crates (.cbor env payload)) :
    ∃ command body, parsePayload payload = some (command, body) ∧
      ChangeResult crates w (.cbor env payload)
        (gatedCommand crates env command body (w.enter command)) := by
  rw [changesCredentials, Bool.or_eq_true] at hchange
  rcases hchange with hcommand | hmanage
  · obtain ⟨env, payload, body, ⟨⟩, hp⟩ := exists_payload_of_hasCommand hcommand
    exact ⟨_, _, hp, makeCredential_changeResult hp⟩
  · obtain ⟨⟨env', request, n⟩, hrequest, hn⟩ := (Option.any_eq_true _ _).mp hmanage
    have hsub : n = 6 ∨ n = 7 := by simpa using hn
    obtain ⟨_, command, body, ⟨⟩, hp, hc, -, -⟩ := managementRequest_eq_some hrequest
    exact ⟨command, body, hp, management_changeResult hc hp hrequest hsub⟩

/-! ## The rows of a user -/

theorem Holds.describes {uid : Option UInt32} {row : CredentialRow} {c : Credential}
    (h : Holds crates uid row c) : Store.Describes crates uid row c := by
  obtain ⟨stored, hstored, rfl⟩ := Option.map_eq_some_iff.mp h
  exact Store.describes_of_credentialOfRow hstored

/-- What a user loads is theirs. -/
theorem owner_of_visible {u : UInt32} {row : CredentialRow} {c : Credential}
    (hvisible : Store.visibleTo (some u) row) (h : Store.Describes crates (some u) row c) :
    c.userId = some u := by
  have howner := h.owner
  cases hrow : row.userId with
  | none =>
    rw [hrow] at howner
    exact (Option.some.inj howner).symm
  | some owner =>
    have howns : owner = u.toNat := by simpa [Store.visibleTo, hrow] using hvisible
    rw [hrow, howns, Store.ownerOfRow, Store.toU32_toNat] at howner
    exact (Option.some.inj howner).symm

/-- A user sees the rows of what is theirs. -/
theorem visible_of_owner {uid : Option UInt32} {row : CredentialRow} {c : Credential}
    (h : Store.Describes crates uid row c) (howned : ∀ u, uid = some u → c.userId = some u) :
    Store.visibleTo uid row := by
  cases uid with
  | none => exact Store.visibleTo_none row
  | some u =>
    have howner := h.owner
    rw [howned u rfl] at howner
    cases hrow : row.userId with
    | none => simp [Store.visibleTo, hrow]
    | some owner =>
      rw [hrow, Store.ownerOfRow] at howner
      obtain ⟨v, hv, heq⟩ := Option.map_eq_some_iff.mp howner
      cases heq
      rw [Store.toU32] at hv
      split at hv
      · next hrange =>
        have hnat : owner = u.toNat := by
          rw [← Option.some.inj hv]
          simp
          omega
        simp [Store.visibleTo, hrow, hnat]
      · cases hv

/-! ## Agreement -/

theorem Agrees.congr (h : Agrees crates w) (session : w'.auth.session = w.auth.session)
    (stored : w'.store.credentials = w.store.credentials)
    (cached : w'.auth.credentials = w.auth.credentials) : Agrees crates w' := by
  have hrows : userRows w' = userRows w := by
    rw [userRows, userRows, Store.selectCredentials, Store.selectCredentials, session, stored]
  constructor
  · rw [cached, hrows, session]
    exact h.stored
  · rw [cached, hrows, session]
    exact h.cached

/-- A list that was loaded is empty or agrees with the store. -/
theorem FromDisk.agrees (h : FromDisk crates w'.auth.session.uid w.store w'.auth.credentials)
    (stored : w'.store.credentials = w.store.credentials) :
    w'.auth.credentials = [] ∨ Agrees crates w' := by
  rcases h.congr stored with hempty | ⟨loaded, hcached, hrows⟩
  · exact .inl hempty
  · refine .inr ⟨fun c hc ↦ ?_, fun row hrow ↦ ?_⟩
    · rw [hcached] at hc
      obtain ⟨x, hx, rfl⟩ := List.mem_map.mp hc
      obtain ⟨row, hrow, hread⟩ := hrows.exists_left hx
      exact ⟨row, hrow, by rw [Holds, hread]; rfl⟩
    · obtain ⟨x, hx, hread⟩ := hrows.exists_right hrow
      refine ⟨x.toCredential, ?_, by rw [Holds, hread]; rfl⟩
      rw [hcached]
      exact List.mem_map_of_mem hx

/-- **A statement on one row**, and the same change of the credential with its ID. -/
theorem Agrees.update (h : Agrees crates w) (session : w'.auth.session = w.auth.session)
    {id : List UInt8} {f : CredentialRow → CredentialRow} {g : Credential → Credential}
    {hkey : ∀ row, (f row).credentialId = row.credentialId}
    (hvisible : ∀ row, (f row).userId = row.userId)
    (hprimary : ∀ row, (f row).primary.isSome = row.primary.isSome)
    (hholds : ∀ row, row.credentialId = id → ∀ c ∈ w.auth.credentials,
      Holds crates w.auth.session.uid row c → Holds crates w.auth.session.uid (f row) (g c))
    (stored : w'.store.credentials = w.store.credentials.update id f hkey)
    (cached : w'.auth.credentials = w.auth.credentials.map fun c ↦ if c.id = id then g c else c) :
    Agrees crates w' := by
  have hseen : ∀ row, Store.visibleTo w.auth.session.uid (f row) =
      Store.visibleTo w.auth.session.uid row := fun row ↦ by
    unfold Store.visibleTo
    rw [hvisible]
  -- a row and a credential that belong together still do
  have hpair : ∀ row c, c ∈ w.auth.credentials → Holds crates w.auth.session.uid row c →
      Holds crates w.auth.session.uid (if row.credentialId = id then f row else row)
        (if c.id = id then g c else c) := by
    intro row c hc hrow
    rw [hrow.describes.id]
    split
    · next hid => exact hholds row hid c hc hrow
    · exact hrow
  have hmem : ∀ row, row ∈ userRows w →
      (if row.credentialId = id then f row else row) ∈ userRows w' := by
    intro row hrow
    obtain ⟨hrow, hvis, hprim⟩ := Store.mem_selectCredentials.mp hrow
    rw [userRows, session, Store.mem_selectCredentials, stored]
    refine ⟨Table.mem_update.mpr ⟨row, hrow, rfl⟩, ?_⟩
    split
    · rw [hseen, hprimary]
      exact ⟨hvis, hprim⟩
    · exact ⟨hvis, hprim⟩
  constructor
  · intro c' hc'
    rw [cached] at hc'
    obtain ⟨c, hc, rfl⟩ := List.mem_map.mp hc'
    obtain ⟨row, hrow, hread⟩ := h.stored c hc
    rw [session]
    exact ⟨_, hmem row hrow, hpair row c hc hread⟩
  · intro row' hrow'
    rw [userRows, session, Store.mem_selectCredentials, stored] at hrow'
    obtain ⟨hrow', hseen', hprim'⟩ := hrow'
    obtain ⟨row, hrow, rfl⟩ := Table.mem_update.mp hrow'
    have hmine : row ∈ userRows w := by
      refine Store.mem_selectCredentials.mpr ⟨hrow, ?_⟩
      split at hseen'
      · next hid =>
        rw [if_pos hid, hprimary] at hprim'
        rw [hseen] at hseen'
        exact ⟨hseen', hprim'⟩
      · next hid =>
        rw [if_neg hid] at hprim'
        exact ⟨hseen', hprim'⟩
    obtain ⟨c, hc, hread⟩ := h.cached row hmine
    rw [session, cached]
    exact ⟨_, List.mem_map_of_mem hc, hpair row c hc hread⟩

/-- A change of one entry of the list is one of the credential with its ID. -/
theorem DistinctIds.modify_eq (h : DistinctIds w) {index : Nat} {x : Credential}
    (hx : w.auth.credentials[index]? = some x) (g : Credential → Credential) :
    w.auth.credentials.modify index g =
      w.auth.credentials.map fun c ↦ if c.id = x.id then g c else c := by
  refine List.ext_getElem? fun i ↦ ?_
  rw [List.getElem?_modify, List.getElem?_map]
  cases hi : w.auth.credentials[i]? with
  | none => rfl
  | some c =>
    by_cases hindex : index = i
    · subst hindex
      cases hx.symm.trans hi
      simp
    · have hne : c.id ≠ x.id := fun hid ↦ hindex (h.index_eq hx hi hid.symm)
      simp [hindex, hne]

theorem Holds.withSignCount {uid : Option UInt32} {row : CredentialRow} {c : Credential}
    (h : Holds crates uid row c) (n : UInt32) :
    Holds crates uid (Store.withSignCount n row) { c with signCount := n } := by
  obtain ⟨stored, hstored, rfl⟩ := Option.map_eq_some_iff.mp h
  obtain ⟨slot, hslot, h₁⟩ := Option.bind_eq_some_iff.mp hstored
  obtain ⟨version, hversion, h₂⟩ := Option.bind_eq_some_iff.mp h₁
  obtain ⟨key, hkey, h₃⟩ := Option.bind_eq_some_iff.mp h₂
  obtain ⟨recovery, hrecovery, h₄⟩ := Option.bind_eq_some_iff.mp h₃
  obtain ⟨owner, howner, h₅⟩ := Option.bind_eq_some_iff.mp h₄
  obtain ⟨signCount, hcount, h₆⟩ := Option.bind_eq_some_iff.mp h₅
  cases h₆
  simp [Holds, Store.credentialOfRow, Store.withSignCount, hslot, hversion, hkey, hrecovery, howner,
    Store.toU32_toNat]

/-- Letting an assertion out keeps store and list in step. -/
theorem Release.agrees {index : Nat} {x : Option Assertion} (h : Release w index x w')
    (hids : DistinctIds w) (hagrees : Agrees crates w) : Agrees crates w' := by
  cases h with
  | failed hsame _ => exact hagrees.congr hsame.session hsame.stored hsame.cached
  | @done _ x hsame credential _ _ stored cached _ =>
    rw [hids.modify_eq credential] at cached
    exact hagrees.update (f := Store.withSignCount x.signCount) hsame.session (fun _ ↦ rfl)
      (fun _ ↦ rfl) (fun row _ c _ hrow ↦ hrow.withSignCount x.signCount) stored cached

theorem Release.cached_eq_nil {index : Nat} {x : Option Assertion} (h : Release w index x w')
    (hempty : w.auth.credentials = []) : w'.auth.credentials = [] := by
  cases h with
  | failed hsame _ => exact hsame.cached.trans hempty
  | done _ credential _ _ _ _ _ => simp [hempty] at credential

/-- A statement on a row whose credential is not in memory. -/
theorem Agrees.update_other (h : Agrees crates w) (session : w'.auth.session = w.auth.session)
    {id : List UInt8} {f : CredentialRow → CredentialRow}
    {hkey : ∀ row, (f row).credentialId = row.credentialId}
    (hother : ∀ c ∈ w.auth.credentials, c.id ≠ id)
    (stored : w'.store.credentials = w.store.credentials.update id f hkey)
    (cached : w'.auth.credentials = w.auth.credentials)
    (hvisible : ∀ row, (f row).userId = row.userId)
    (hprimary : ∀ row, (f row).primary.isSome = row.primary.isSome) : Agrees crates w' := by
  refine h.update session hvisible hprimary (g := fun c ↦ c) (fun row hid c hc hrow ↦ ?_) stored ?_
  · exact absurd (hrow.describes.id.trans hid) (hother c hc)
  · simp [cached]

theorem Agrees.delete (h : Agrees crates w) (hids : DistinctIds w)
    (session : w'.auth.session = w.auth.session) {id : List UInt8} {index : Nat}
    (position : discoverablePosition w.auth.credentials id = some index)
    (stored : w'.store.credentials = w.store.credentials.delete id)
    (cached : w'.auth.credentials = w.auth.credentials.eraseIdx index) : Agrees crates w' := by
  obtain ⟨x, hx, rfl⟩ := exists_of_discoverablePosition position
  have hrows : ∀ row, row ∈ userRows w' ↔ row ∈ userRows w ∧ row.credentialId ≠ x.id := by
    intro row
    rw [userRows, userRows, session, Store.mem_selectCredentials, Store.mem_selectCredentials,
      stored, Table.mem_delete]
    tauto
  have hlist : ∀ c, c ∈ w'.auth.credentials ↔ c ∈ w.auth.credentials ∧ c.id ≠ x.id := by
    intro c
    rw [cached, List.mem_eraseIdx_iff_getElem?]
    constructor
    · rintro ⟨i, hne, hi⟩
      exact ⟨List.mem_of_getElem? hi, fun hid ↦ hne (hids.index_eq hi hx hid)⟩
    · rintro ⟨hc, hne⟩
      obtain ⟨i, hi⟩ := List.mem_iff_getElem?.mp hc
      refine ⟨i, ?_, hi⟩
      rintro rfl
      cases hx.symm.trans hi
      exact hne rfl
  constructor
  · intro c hc
    obtain ⟨hc, hne⟩ := (hlist c).mp hc
    obtain ⟨row, hrow, hread⟩ := h.stored c hc
    rw [session]
    exact ⟨row, (hrows row).mpr ⟨hrow, hread.describes.id ▸ hne⟩, hread⟩
  · intro row hrow
    obtain ⟨hrow, hne⟩ := (hrows row).mp hrow
    obtain ⟨c, hc, hread⟩ := h.cached row hrow
    rw [session]
    exact ⟨c, (hlist c).mpr ⟨hc, hread.describes.id ▸ hne⟩, hread⟩

/-! ## The invariant -/

/-- The list in memory can be saved, is the user's, has no credential twice, and agrees with the
store unless it is empty. -/
structure Settled (crates : Crates) (w : World) : Prop where
  storable : ∀ c ∈ w.auth.credentials, Store.Storable crates c
  owned : ∀ u, w.auth.session.uid = some u → ∀ c ∈ w.auth.credentials, c.userId = some u
  distinct : DistinctIds w
  agrees : w.auth.credentials = [] ∨ Agrees crates w

/-- **Writing the list over the table** works, and then the two agree. -/
theorem Saved.agrees (hcodecs : crates.RoundTrips) {fault : StoreFault}
    (hfault : ¬ (fault.io ∨ fault.statement))
    (hstorable : ∀ c ∈ w.auth.credentials, Store.Storable crates c)
    (howned : ∀ u, w.auth.session.uid = some u → ∀ c ∈ w.auth.credentials, c.userId = some u)
    (hdistinct : DistinctIds w)
    (hversions : ∀ c ∈ w.auth.credentials, ∀ p, c.policy = some p → p.policyVersion = 1)
    {t : Table CredentialRow.credentialId} {x : Option (List Credential)}
    (h : Saved crates fault w.auth.credentials t w.store.credentials x) : Agrees crates w := by
  generalize ht : w.store.credentials = t' at h
  cases h with
  | @kept s hfailed =>
    have hsaved := Store.saveCtap2Credentials_succeeds hfault
      (fun c hc ↦ Store.isSome_rowOfCredential (hstorable c hc)) hdistinct s
    rw [hsaved] at hfailed
    cases hfailed
  | committed hrows =>
    have hread : ∀ c ∈ w.auth.credentials, ∀ row, Store.RowOf crates c row →
        Holds crates w.auth.session.uid row c := by
      rintro c hc row ⟨mac, hrow⟩
      have howner : c.userId = none → w.auth.session.uid = none := by
        intro hnone
        cases huid : w.auth.session.uid with
        | none => rfl
        | some u => cases hnone.symm.trans (howned u huid c hc)
      rw [Holds, Store.credentialOfRow_rowOfCredential hcodecs (hstorable c hc) hrow howner,
        Store.withVersion_eq_self (hversions c hc)]
      rfl
    constructor
    · intro c hc
      obtain ⟨row, hrow, hof⟩ := hrows.exists_right hc
      have hholds := hread c hc row hof
      refine ⟨row, Store.mem_selectCredentials.mpr ⟨ht ▸ hrow, ?_, Store.primary_of_rowOf hof⟩,
        hholds⟩
      exact visible_of_owner hholds.describes fun u hu ↦ howned u hu c hc
    · intro row hrow
      have hrow := (Store.mem_selectCredentials.mp hrow).1
      rw [ht] at hrow
      obtain ⟨c, hc, hof⟩ := hrows.exists_left hrow
      exact ⟨c, hc, hread c hc row hof⟩

theorem Effect.owned (h : Effect crates w event w')
    (hw : ∀ u, w.auth.session.uid = some u → ∀ c ∈ w.auth.credentials, c.userId = some u) :
    ∀ u, w'.auth.session.uid = some u → ∀ c ∈ w'.auth.credentials, c.userId = some u := by
  intro u hu c hc
  cases h.cachedOrigin hc with
  | kept hc₀ same uid =>
    rw [same.userId]
    exact hw u (uid ▸ hu) _ hc₀
  | loaded hrow describes same =>
    rw [hu] at hrow describes
    rw [same.userId]
    exact owner_of_visible (Store.mem_selectCredentials.mp hrow).2.1 describes
  | made _ _ made _ uid =>
    rw [made.userId, ← uid]
    exact hu

/-- A policy that a save would write as it is. -/
theorem version_of_all {c : Credential} (h : c.policy.all fun p ↦ p.policyVersion = 1) :
    ∀ p, c.policy = some p → p.policyVersion = 1 := by
  intro p hp
  simpa [hp] using h

theorem not_fault_of_writes {env : Env} {payload : List UInt8}
    (h : (Event.cbor env payload).writes) : ¬ ((env.store 3).io ∨ (env.store 3).statement) := by
  simpa [Event.writes] using h

/-- **Every step that works keeps store and list in step.** -/
theorem Effect.settled (h : Effect crates w event w') (hcodecs : crates.RoundTrips)
    (hcrates : crates.ReadsWritable)
    (hdevice : ∀ device, event.device = some device → device.CreatesPoints crates)
    (hw : Settled crates w) (hworks : ChangeWorks crates w event) : Settled crates w' := by
  have hstorable := h.storable hcrates hdevice hworks.passphrase hw.storable
  have howned := h.owned hw.owned
  have hdistinct := h.distinctIds hw.distinct fun id hid c hc hcid ↦
    hworks.fresh c hc (hcid ▸ hid)
  refine ⟨hstorable, howned, hdistinct, ?_⟩
  -- what was read again, or not, before a release
  have looked {w₁ : World} (session : w₁.auth.session = w.auth.session)
      (stored : w₁.store.credentials = w.store.credentials)
      (cached : w₁.auth.credentials = w.auth.credentials ∨
        FromDisk crates w.auth.session.uid w.store w₁.auth.credentials) :
      w₁.auth.credentials = [] ∨ Agrees crates w₁ := by
    rcases cached with hcached | hcached
    · exact hw.agrees.imp hcached.trans fun ha ↦ ha.congr session stored hcached
    · rw [← session] at hcached
      exact hcached.agrees stored
  cases h with
  | kept hsame _ _ _ => exact looked hsame.session hsame.stored (.inl hsame.cached)
  | reloaded hsame stored cached _ _ _ => exact looked hsame.session stored (.inr cached)
  | asserted _ _ _ _ hsame stored cached _ _ hrel _ =>
    have hids := distinctIds_looked crates cached hw.distinct
    exact (looked hsame.session stored cached).imp hrel.cached_eq_nil (hrel.agrees hids)
  | continued _ _ _ _ hsame stored cached _ hrel _ =>
    have hids := distinctIds_looked crates (.inl cached) hw.distinct
    exact (looked hsame.session stored (.inl cached)).imp hrel.cached_eq_nil (hrel.agrees hids)
  | @created _ env payload body new he hp made _ cached _ saved _ =>
    subst he
    have hsaves : savesAll crates (.cbor env payload) := by simp [savesAll, Event.hasCommand, hp]
    refine .inr (saved.agrees hcodecs (not_fault_of_writes (hworks.writes hsaves)) hstorable howned
      hdistinct fun c hc ↦ ?_)
    rw [cached, List.mem_append, List.mem_singleton] at hc
    rcases hc with hc | rfl
    · exact version_of_all (hworks.versions hsaves c hc)
    · obtain ⟨_, policy, _, -, hpolicy, -⟩ := made.material
      rintro p hp
      cases hpolicy.symm.trans hp
      rfl
  | renamed he hsaves _ cached _ _ saved _ =>
    subst he
    refine .inr (saved.agrees hcodecs (not_fault_of_writes (hworks.writes hsaves)) hstorable howned
      hdistinct fun c hc ↦ ?_)
    rw [cached] at hc
    obtain ⟨c₀, hc₀, same⟩ := exists_of_mem_modify hc fun _ ↦ ⟨rfl, rfl, rfl, rfl, rfl⟩
    rw [same.policy]
    exact version_of_all (hworks.versions hsaves c₀ hc₀)
  | deleted hsame _ position stored cached _ _ _ _ =>
    rcases hw.agrees with hempty | hagrees
    · rw [cached, hempty]
      exact .inl rfl
    · exact .inr (hagrees.delete hw.distinct hsame.session position stored cached)
  | wiped _ _ _ _ cached _ _ _ => exact .inl cached
  | @updated _ _ _ id _ _ htarget hf hsame stored cached _ _ _ =>
    -- the credential of the row is not in memory
    have hother : ∀ c ∈ w.auth.credentials, c.id ≠ id := by
      rintro c hc rfl
      exact hworks.untouched c hc htarget
    exact hw.agrees.imp cached.trans fun hagrees ↦ hagrees.update_other hsame.session hother
      stored cached (fun row ↦ (hf row).userId) fun row ↦ (hf row).primary
  | started _ session stored cached _ _ _ =>
    rw [← session] at cached
    exact cached.agrees stored

theorem newAuthenticator_settled (hcodecs : crates.RoundTrips) (hcrates : crates.ReadsWritable)
    (env : Env) (tpmPath : Option String) (s : Store) :
    Settled crates (newAuthenticator crates env tpmPath s) := by
  -- a start is a step like any other, from a daemon that has nothing in memory
  let w₀ : World := ⟨s, .initial tpmPath (env.detect 0)⟩
  have hstart : Effect crates w₀ (.start env tpmPath) (newAuthenticator crates env tpmPath s) :=
    newAuthenticator_effect tpmPath
  have hempty : w₀.auth.credentials = [] := rfl
  refine hstart.settled hcodecs hcrates (by simp [Event.device]) ?_ ?_
  · exact ⟨by simp [hempty], by simp [hempty], by simp [DistinctIds, hempty], .inl hempty⟩
  · exact ⟨fun _ ↦ rfl, by simp [hempty], by simp [hempty], by simp [Event.hasCommand],
      by simp [hempty]⟩

/-! ## Runs -/

/-- makeCredential is not a management request. -/
theorem managementRequest_of_makeCredential (h : event.hasCommand .makeCredential) :
    managementRequest crates event = none := by
  obtain ⟨env, payload, body, rfl, hp⟩ := exists_payload_of_hasCommand h
  have hc : ¬ Ctap2Command.makeCredential.isManagement := by decide
  simp only [managementRequest, hp, if_neg hc]

/-- **What an outcome means**, between two worlds in which store and list are in step. -/
theorem ChangeResult.durable {o : Outcome ErrorStatus (List UInt8)}
    (h : ChangeResult crates w event (o, w')) (hw : Settled crates w) (hw' : Settled crates w') :
    ChangeDurable crates ⟨w, event, Reply.ofCbor (respond (o, w')).1, w'⟩ := by
  have agrees (hne : w'.auth.credentials ≠ []) : Agrees crates w' := hw'.agrees.resolve_left hne
  cases h with
  | refused ho store cached =>
    have hno : ¬ (Reply.ofCbor (respond (o, w')).1).succeeded := fun hok ↦ by
      have hsome : o.toOption.isSome := isSome_of_succeeded hok
      rw [ho] at hsome
      cases hsome
    exact ⟨fun _ hok ↦ absurd hok hno, fun _ _ _ hok ↦ absurd hok hno,
      fun _ _ _ hok ↦ absurd hok hno, fun _ hok ↦ absurd hok hno, fun _ _ _ ↦ ⟨store, cached⟩⟩
  | panicked =>
    exact ⟨fun _ ↦ nofun, fun _ _ _ ↦ nofun, fun _ _ _ ↦ nofun, fun _ ↦ nofun,
      fun _ hne ↦ absurd rfl hne⟩
  | @created response _ c hcommand cached =>
    have hnone : managementRequest crates event = none :=
      managementRequest_of_makeCredential hcommand
    have hagrees := agrees (by simp [cached])
    refine ⟨fun _ _ ↦ ⟨c, cached, hagrees.stored c (by simp [cached])⟩, fun _ _ hrequest ↦ ?_,
      fun _ _ hrequest ↦ ?_, fun _ _ ↦ hagrees, fun _ _ hno ↦ absurd rfl hno⟩
    · cases hnone.symm.trans hrequest
    · cases hnone.symm.trans hrequest
  | @renamed env request user id index _ hrequest hid huser position cached =>
    obtain ⟨c, hc, rfl⟩ := exists_of_discoverablePosition position
    have hmem : withUser user c ∈ w'.auth.credentials := by
      rw [cached]
      exact List.mem_of_getElem? (i := index) (by simp [hc])
    have hagrees := agrees (List.ne_nil_of_mem hmem)
    refine ⟨fun hcommand ↦ ?_, fun env' request' hrequest' _ ↦ ?_, fun env' request' hrequest' ↦ ?_,
      fun _ _ ↦ hagrees, fun _ _ hno ↦ absurd rfl hno⟩
    · cases hrequest.symm.trans (managementRequest_of_makeCredential hcommand)
    · cases hrequest.symm.trans hrequest'
      obtain ⟨row, hrow, hread⟩ := hagrees.stored _ hmem
      have hdescribes := hread.describes
      refine ⟨c.id, user, hid, huser, row, hrow, hdescribes.id.symm, hdescribes.userName.symm,
        hdescribes.userDisplayName.symm, fun handle hhandle ↦ ?_⟩
      rw [← hdescribes.userHandle, withUser, hhandle]
      rfl
    · cases hrequest.symm.trans hrequest'
  | @deleted env request id index _ hrequest hid position session stored cached =>
    have hagrees : Agrees crates w' := by
      refine (hw.agrees.resolve_left fun hempty ↦ ?_).delete hw.distinct session position
        stored cached
      simp [hempty, discoverablePosition] at position
    refine ⟨fun hcommand ↦ ?_, fun env' request' hrequest' ↦ ?_, fun env' request' hrequest' _ ↦ ?_,
      fun _ _ ↦ hagrees, fun _ _ hno ↦ absurd rfl hno⟩
    · cases hrequest.symm.trans (managementRequest_of_makeCredential hcommand)
    · cases hrequest.symm.trans hrequest'
    · cases hrequest.symm.trans hrequest'
      refine ⟨id, hid, fun row hrow ↦ ?_⟩
      rw [stored, Table.mem_delete] at hrow
      exact hrow.2

/-- One step, from a world in which store and list are in step to another. -/
theorem changeDurable_step (hw : Settled crates w) (hw' : Settled crates (step crates w event).2) :
    ChangeDurable crates (Run.transition (step crates) w event) := by
  by_cases hchange : changesCredentials crates event
  · cases event with
    | cbor env payload =>
      obtain ⟨command, body, hp, hresult⟩ := step_changeResult (w := w) hchange
      rw [step_cbor hp] at hw'
      rw [Run.transition, step_cbor hp]
      exact hresult.durable hw hw'
    | _ => cases hchange
  · have hcommand (h : event.hasCommand .makeCredential) : False :=
      hchange (by simp [changesCredentials, h])
    have hmanage {env : Env} {request : Entries} {n : Int} (hn : n = 6 ∨ n = 7)
        (h : managementRequest crates event = some (env, request, n)) : False :=
      hchange (by rcases hn with rfl | rfl <;> simp [changesCredentials, h])
    exact ⟨fun h ↦ (hcommand h).elim, fun _ _ h ↦ (hmanage (.inr rfl) h).elim,
      fun _ _ h ↦ (hmanage (.inl rfl) h).elim, fun h ↦ absurd h hchange, fun h ↦ absurd h hchange⟩

/-- **An answer means what it says** in every run whose steps work. -/
theorem changeDurable_of_works (crates : Crates) (hcodecs : crates.RoundTrips)
    (hcrates : crates.ReadsWritable) (env : Env) (tpmPath : Option String) (s : Store)
    (events : List Event)
    (hdevices : ∀ event ∈ events, ∀ device, event.device = some device →
      device.CreatesPoints crates)
    (hworks : ∀ t ∈ run crates (newAuthenticator crates env tpmPath s) events,
      ChangeWorks crates t.before t.input) :
    ∀ t ∈ run crates (newAuthenticator crates env tpmPath s) events, ChangeDurable crates t := by
  intro t ht
  have hstep : ∀ (past : List Step) (cur : World) (event : Event), Settled crates cur →
      (∀ device, event.device = some device → device.CreatesPoints crates) ∧
        ChangeWorks crates cur event → Settled crates (step crates cur event).2 :=
    fun _ cur event hcur ⟨hdevice, hworks⟩ ↦
      (step_effect crates cur event).settled hcodecs hcrates hdevice hcur hworks
  obtain ⟨pre, post, hsplit⟩ := List.append_of_mem ht
  obtain ⟨hbefore, hmet, heq⟩ := Run.history_invariant_before (H := fun _ ↦ Settled crates)
    (newAuthenticator_settled hcodecs hcrates env tpmPath s) hstep
    (fun u hu ↦ ⟨hdevices _ (Run.input_mem_of_mem_transitions hu), hworks u hu⟩) hsplit
  rw [heq]
  exact changeDurable_step hbefore (hstep [] _ _ hbefore hmet)

namespace Sample

/-- The packages of the runs about changes. -/
def changePackages : Crates :=
  strictPackages [getKeyAgreement, setPin [49, 50, 51, 52], Sample.makeCredential "",
    Sample.updateUserInformation (credentialId 1), Sample.deleteCredential (credentialId 1)]

/-- The daemon of those runs. -/
def changeStart : World :=
  newAuthenticator changePackages (strictSession 1000 0) (some "") Store.fresh

/-- A user with a PIN makes a credential, changes it and deletes it. -/
def changeEvents : List Event :=
  [setPassphrase, request (strictSession 1000 0) 0x06 getKeyAgreement,
    request (strictSession 1000 0) 0x06 (setPin [49, 50, 51, 52]),
    request (strictSession 1000 1) 0x01 (Sample.makeCredential ""),
    request (strictSession 1000 0) 0x0a (Sample.updateUserInformation (credentialId 1)),
    request (strictSession 1000 0) 0x0a (Sample.deleteCredential (credentialId 1))]

/-- What a user sees when the list cannot be written. -/
def unwritable : Env :=
  { strictSession 1000 1 with store := fun n ↦ { noFault with statement := n = 3 } }

end Sample

open Sample in
/-- In a run in which everything works, all requests succeed and their changes are in the store. -/
theorem changeDurable_works :
    (∀ t ∈ run changePackages changeStart changeEvents, t.output = .ok ∨ t.output.succeeded) ∧
      ∀ t ∈ run changePackages changeStart changeEvents, ChangeDurable changePackages t := by
  have hdevices : ∀ event ∈ changeEvents, ∀ device, event.device = some device →
      device = strictDevice := by
    simp [changeEvents, setPassphrase, request, Event.device, strictSession]
  refine ⟨by decide +kernel, changeDurable_of_works changePackages (strictPackages_roundTrips _)
    (strictPackages_readsWritable _) _ _ _ changeEvents (fun event hevent device hdevice ↦ ?_)
    (by decide +kernel)⟩
  rw [hdevices event hevent device hdevice]
  exact strictDevice_createsPoints _

open Sample in
/-- A registration succeeds and its credential is not in the store, because the list could not be
written. -/
theorem acknowledged_not_stored :
    let w := after changePackages changeStart [setPassphrase]
    let t := Run.transition (step changePackages) w
      (request unwritable 0x01 (Sample.makeCredential ""))
    t.output.succeeded ∧ t.after.auth.credentials.map Credential.id = [credentialId 1] ∧
      t.after.store.credentials.rows = [] ∧ ¬ ChangeDurable changePackages t := by
  intro w t
  have hok : t.output.succeeded := by decide +kernel
  have hrows : t.after.store.credentials.rows = [] := by decide +kernel
  refine ⟨hok, by decide +kernel, hrows, fun h ↦ ?_⟩
  obtain ⟨c, -, row, hrow, -⟩ := h.created (by decide +kernel) hok
  have hmem := (Store.mem_selectCredentials.mp hrow).1
  rw [hrows] at hmem
  cases hmem

end Ctap2
end TpmFido2
