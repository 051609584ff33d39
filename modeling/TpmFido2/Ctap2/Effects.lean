import TpmFido2.Ctap2.Frames

/-!
# What a step of the daemon does to the credentials

The credentials live in two places, the table of the store and the list in memory, and a pending
assertion points into that list.  `Effect` lists everything a step of the daemon can do to the
three of them, and `step_effect` shows that the list is complete.  Every property of the
credentials over whole runs is proved by going through this list, and none looks at a command
again.

Two things that happen inside a step are made visible by functions of the step's start:

* `released` — the assertion a step lets out, if it does;
* `rewritten` — the list of credentials a step writes over the whole table, if the write commits.
-/

set_option autoImplicit false

namespace TpmFido2
namespace Ctap2

open Handler CommandM

variable (crates : Crates)

/-! ## Made visible -/

/-- The assertion a step lets out. -/
def released (w : World) (event : Event) : Option Assertion :=
  match event with
  | .cbor env payload =>
    match parsePayload payload with
    | some (.getAssertion, body) =>
      (firstAssertion crates env body (w.enter .getAssertion)).1.toOption.map Prod.fst
    | some (.getNextAssertion, body) =>
      (nextAssertion crates env body (w.enter .getNextAssertion)).1.toOption
    | _ => none
  | _ => none

/-- The list given, if writing it over the table of the store commits. -/
def committed (env : Env) (s : Store) (cs : List Credential) : Option (List Credential) :=
  if (Store.saveCtap2Credentials crates (env.store 3) cs s).1.toOption.isSome then some cs else none

/-- What updateUserInformation writes over the table. -/
def rewrittenByUpdate (env : Env) (command : Ctap2Command) (body : List UInt8) (w : World) :
    Option (List Credential) :=
  match authorisedRequest crates env command body (w.enter command) with
  | (.ok (n, params), w₁) =>
    if ManagementSubCommand.ofInteger n = some .updateUserInformation then
      match locateUser w₁.auth params with
      | .ok (index, user) =>
        committed crates env w₁.store (w₁.auth.credentials.modify index (withUser user))
      | .error _ => none
    else none
  | _ => none

/-- The credentials a step writes over the whole table. -/
def rewritten (w : World) (event : Event) : Option (List Credential) :=
  match event with
  | .cbor env payload =>
    match parsePayload payload with
    | some (.makeCredential, body) =>
      match registration crates env body (w.enter .makeCredential) with
      | (.ok (c, _), w₁) => committed crates env w₁.store (w₁.auth.credentials ++ [c])
      | _ => none
    | some (.credentialManagement, body) =>
      rewrittenByUpdate crates env .credentialManagement body w
    | some (.credentialManagementPreview, body) =>
      rewrittenByUpdate crates env .credentialManagementPreview body w
    | _ => none
  | _ => none

/-- The two command codes of credential management. -/
def Ctap2Command.isManagement (command : Ctap2Command) : Prop :=
  command = .credentialManagement ∨ command = .credentialManagementPreview

instance (command : Ctap2Command) : Decidable command.isManagement :=
  inferInstanceAs (Decidable (_ ∨ _))

/-- The management request an event is: what it is handled in, its entries and its sub-command. -/
def managementRequest (event : Event) : Option (Env × Entries × Int) :=
  match event with
  | .cbor env payload =>
    match parsePayload payload with
    | some (command, body) =>
      if command.isManagement then
        match decodeMap crates body with
        | .ok request => (mapInteger request (.int 1)).map fun n ↦ (env, request, n)
        | .error _ => none
      else none
    | none => none
  | _ => none

/-- The position of the credential a deleteCredential request is about. -/
def deletionTarget (w : World) (event : Event) : Option Nat :=
  match managementRequest crates event with
  | some (_, request, n) =>
    if n = 6 then
      match descriptorId (mapMap request (.int 2)) with
      | .ok id => discoverablePosition w.auth.credentials id
      | .error _ => none
    else none
  | none => none

/-- The event is a request with the given command. -/
def Event.hasCommand (event : Event) (command : Ctap2Command) : Bool :=
  match event with
  | .cbor _ payload => (parsePayload payload).any fun x ↦ x.1 = command
  | _ => false

/-- The event is a request of one of the two kinds that save all credentials in memory:
makeCredential and updateUserInformation. -/
def savesAll (event : Event) : Bool :=
  event.hasCommand .makeCredential || (managementRequest crates event).any fun x ↦ x.2.2 = 7

/-- The ID a registration draws for its credential. -/
def drawnId (event : Event) : Option (List UInt8) :=
  match event with
  | .cbor env _ =>
    if event.hasCommand .makeCredential then some (fillRandom 32 (env.random 0)) else none
  | _ => none

/-- The credential whose row a command of the management thread changes. -/
def Event.tpmTarget (event : Event) : Option (List UInt8) :=
  match event with
  | .tpm _ (.pcrPolicyUpdate id _ _ _) => some id
  | .tpm _ (.passphraseChange id _ _ _ _) => some id
  | _ => none

/-- The rows differ in their slots alone, and either both have a primary one or neither has. -/
structure SameButSlots (row row' : CredentialRow) : Prop where
  id : row'.credentialId = row.credentialId
  userId : row'.userId = row.userId
  discoverable : row'.discoverable = row.discoverable
  signCount : row'.signCount = row.signCount
  primary : row'.primary.isSome = row.primary.isSome

theorem sameButSlots_withPolicy (policy : StoredPcrPolicy) (row : CredentialRow) :
    SameButSlots row (Store.withPolicy policy row) :=
  ⟨rfl, rfl, rfl, rfl, Option.isSome_map⟩

theorem sameButSlots_withRecovery (blob : List UInt8) (kdfParams : String)
    (row : CredentialRow) : SameButSlots row (Store.withRecovery blob kdfParams row) :=
  ⟨rfl, rfl, rfl, rfl, rfl⟩

/-! ## The effects -/

/-- The login session and the path of the TPM are fixed when the daemon starts. -/
structure SameContext (w w' : World) : Prop where
  session : w'.auth.session = w.auth.session
  tpmPath : w'.auth.tpmPath = w.auth.tpmPath

/-- Nothing happened to the credentials; the pending assertion may have been dropped. -/
structure SameCredentials (w w' : World) : Prop extends SameContext w w' where
  stored : w'.store.credentials = w.store.credentials
  cached : w'.auth.credentials = w.auth.credentials
  pending : w'.auth.pendingAssertion = none ∨
    w'.auth.pendingAssertion = w.auth.pendingAssertion

/-- The list is what loading gave: what the user's rows describe, or nothing. -/
def FromDisk (uid : Option UInt32) (s : Store) (cs : List Credential) : Prop :=
  cs = [] ∨ ∃ stored : List StoredCtap2Credential,
    cs = stored.map StoredCtap2Credential.toCredential ∧
    List.Forall₂ (fun row c ↦ Store.credentialOfRow crates uid row = some c)
      (Store.selectCredentials uid s) stored

/-- The outcome of `releaseAssertion` on the credential at an index. -/
inductive Release (w : World) (index : Nat) : Option Assertion → World → Prop where
  | failed {w' : World} (h : SameCredentials w w')
    (pending : w'.auth.pendingAssertion = w.auth.pendingAssertion) : Release w index none w'
  | done {w' : World} {x : Assertion} (h : SameContext w w')
    (credential : w.auth.credentials[index]? = some x.credential)
    (signCount : x.signCount = saturatingSucc x.credential.signCount)
    (row : ∃ row ∈ w.store.credentials.rows, row.credentialId = x.credential.id)
    (stored : w'.store.credentials = w.store.credentials.update x.credential.id
      (Store.withSignCount x.signCount) fun _ ↦ rfl)
    (cached : w'.auth.credentials =
      w.auth.credentials.modify index fun c ↦ { c with signCount := x.signCount })
    (pending : w'.auth.pendingAssertion = w.auth.pendingAssertion) : Release w index (some x) w'

/-- The outcome of writing a list over a table.  Whether it commits does not depend on the rest of
the store. -/
inductive Saved (fault : StoreFault) (cs : List Credential) (t : Table CredentialRow.credentialId) :
    Table CredentialRow.credentialId → Option (List Credential) → Prop where
  | kept {s : Store}
    (hfailed : (Store.saveCtap2Credentials crates fault cs s).1.toOption = none) :
    Saved fault cs t t none
  | committed {t' : Table CredentialRow.credentialId}
    (h : List.Forall₂ (Store.RowOf crates) cs t'.rows) : Saved fault cs t t' (some cs)

/-- Everything a step can do to the credentials. -/
inductive Effect (w : World) (event : Event) : World → Prop where
  /-- Nothing. -/
  | kept {w' : World} (h : SameCredentials w w')
    (fresh : event.hasCommand .getAssertion → w'.auth.pendingAssertion = none)
    (hrel : released crates w event = none) (hrew : rewritten crates w event = none) :
    Effect w event w'
  /-- getAssertion read the credentials again and got no further. -/
  | reloaded {w' : World} (h : SameContext w w')
    (stored : w'.store.credentials = w.store.credentials)
    (cached : FromDisk crates w.auth.session.uid w.store w'.auth.credentials)
    (pending : w'.auth.pendingAssertion = none) (hrel : released crates w event = none)
    (hrew : rewritten crates w event = none) : Effect w event w'
  /-- getAssertion chose among the credentials that match, in `w₁`, and tried the first. -/
  | asserted {w₁ w' : World} {env : Env} {payload body : List UInt8} {request : Entries}
    {first : Nat} {remaining : List Nat} {p : PendingAssertion}
    (he : event = .cbor env payload) (hp : parsePayload payload = some (.getAssertion, body))
    (hreq : decodeMap crates body = .ok request) (hrp : mapText request (.int 1) = some p.rpId)
    (h : SameContext w w₁) (stored : w₁.store.credentials = w.store.credentials)
    (cached : w₁.auth.credentials = w.auth.credentials ∨
      FromDisk crates w.auth.session.uid w.store w₁.auth.credentials)
    (hidx : matchingCredentialIndexes w₁.auth.credentials p.rpId (mapArray request (.int 3)) =
      first :: remaining)
    (pending : w₁.auth.pendingAssertion = pendingFor p remaining)
    (hrel : Release w₁ first (released crates w event) w')
    (hrew : rewritten crates w event = none) : Effect w event w'
  /-- getNextAssertion tried the next credential of the pending assertion. -/
  | continued {w₁ w' : World} {env : Env} {payload body : List UInt8} {index : Nat}
    {remaining : List Nat} {p : PendingAssertion}
    (he : event = .cbor env payload) (hp : parsePayload payload = some (.getNextAssertion, body))
    (hpending : w.auth.pendingAssertion = some p) (hidx : p.credentialIndexes = index :: remaining)
    (h : SameContext w w₁) (stored : w₁.store.credentials = w.store.credentials)
    (cached : w₁.auth.credentials = w.auth.credentials)
    (pending : w₁.auth.pendingAssertion = pendingFor p remaining)
    (hrel : Release w₁ index (released crates w event) w')
    (hrew : rewritten crates w event = none) : Effect w event w'
  /-- makeCredential added a credential and tried to save. -/
  | created {w' : World} {env : Env} {payload body : List UInt8} {c : Credential}
    (he : event = .cbor env payload) (hp : parsePayload payload = some (.makeCredential, body))
    (made : Made crates env w.store w.auth.session.uid c) (h : SameContext w w')
    (cached : w'.auth.credentials = w.auth.credentials ++ [c])
    (pending : w'.auth.pendingAssertion = none)
    (saved : Saved crates (env.store 3) w'.auth.credentials w.store.credentials
      w'.store.credentials
      (rewritten crates w event)) (hrel : released crates w event = none) : Effect w event w'
  /-- updateUserInformation changed the user of a credential and tried to save. -/
  | renamed {w' : World} {env : Env} {payload : List UInt8} {index : Nat} {user : Entries}
    (he : event = .cbor env payload) (hsaves : savesAll crates event)
    (h : SameContext w w')
    (cached : w'.auth.credentials = w.auth.credentials.modify index (withUser user))
    (pending : w'.auth.pendingAssertion = none ∨
      w'.auth.pendingAssertion = w.auth.pendingAssertion) (fresh : ¬ event.hasCommand .getAssertion)
    (saved : Saved crates (env.store 3) w'.auth.credentials w.store.credentials
      w'.store.credentials
      (rewritten crates w event)) (hrel : released crates w event = none) : Effect w event w'
  /-- deleteCredential removed a credential. -/
  | deleted {w' : World} {index : Nat} {id : List UInt8} (h : SameContext w w')
    (htarget : deletionTarget crates w event = some index)
    (position : discoverablePosition w.auth.credentials id = some index)
    (stored : w'.store.credentials = w.store.credentials.delete id)
    (cached : w'.auth.credentials = w.auth.credentials.eraseIdx index)
    (pending : w'.auth.pendingAssertion = none ∨
      w'.auth.pendingAssertion = w.auth.pendingAssertion) (fresh : ¬ event.hasCommand .getAssertion)
    (hrel : released crates w event = none) (hrew : rewritten crates w event = none) :
    Effect w event w'
  /-- reset removed all credentials of the list, as far as the store let it. -/
  | wiped {w' : World} (hreset : event.hasCommand .reset) (h : SameContext w w')
    (stored : ∀ row ∈ w'.store.credentials.rows, row ∈ w.store.credentials.rows)
    (others : ∀ row ∈ w.store.credentials.rows,
      (∀ c ∈ w.auth.credentials, c.id ≠ row.credentialId) → row ∈ w'.store.credentials.rows)
    (cached : w'.auth.credentials = []) (pending : w'.auth.pendingAssertion = none)
    (hrel : released crates w event = none) (hrew : rewritten crates w event = none) :
    Effect w event w'
  /-- The management thread changed a slot of a credential. -/
  | updated {w' : World} {env : Env} {command : TpmCommand} {id : List UInt8}
    {f : CredentialRow → CredentialRow} (he : event = .tpm env command)
    (htarget : event.tpmTarget = some id) (hf : ∀ row, SameButSlots row (f row))
    (h : SameContext w w')
    (stored : w'.store.credentials = w.store.credentials.update id f fun row ↦ (hf row).id)
    (cached : w'.auth.credentials = w.auth.credentials)
    (pending : w'.auth.pendingAssertion = w.auth.pendingAssertion)
    (hrel : released crates w event = none) (hrew : rewritten crates w event = none) :
    Effect w event w'
  /-- The daemon started. -/
  | started {w' : World} {env : Env} {tpmPath : Option String}
    (he : event = .start env tpmPath) (session : w'.auth.session = env.detect 0)
    (stored : w'.store.credentials = w.store.credentials)
    (cached : FromDisk crates (env.detect 0).uid w.store w'.auth.credentials)
    (pending : w'.auth.pendingAssertion = none) (hrel : released crates w event = none)
    (hrew : rewritten crates w event = none) : Effect w event w'

variable {crates}

/-! ## Frames -/

theorem SameCredentials.frame : Frame SameCredentials where
  refl _ := ⟨⟨rfl, rfl⟩, rfl, rfl, .inr rfl⟩
  trans h₁ h₂ := by
    refine ⟨⟨h₂.session.trans h₁.session, h₂.tpmPath.trans h₁.tpmPath⟩,
      h₂.stored.trans h₁.stored, h₂.cached.trans h₁.cached, ?_⟩
    rcases h₂.pending with h | h
    · exact .inl h
    · rw [h]
      exact h₁.pending

theorem Incidental.sameCredentials {w w' : World} (h : Incidental w w') : SameCredentials w w' :=
  ⟨⟨h.session, h.tpmPath⟩, h.tables.credentials, h.credentials, .inr h.pendingAssertion⟩

theorem Quiet.sameCredentials {w w' : World} (h : Quiet w w') : SameCredentials w w' :=
  ⟨⟨h.session, h.tpmPath⟩, h.tables.credentials, h.credentials, h.pendingAssertion⟩

theorem PinOnly.sameCredentials {w w' : World} (h : PinOnly w w') : SameCredentials w w' :=
  ⟨⟨h.session, h.tpmPath⟩, h.stored, h.credentials, .inr h.pendingAssertion⟩

/-- Reading the credentials again, besides incidental changes. -/
structure Looked (crates : Crates) (w w' : World) : Prop extends SameContext w w' where
  stored : w'.store.credentials = w.store.credentials
  cached : w'.auth.credentials = w.auth.credentials ∨
    FromDisk crates w.auth.session.uid w.store w'.auth.credentials
  pending : w'.auth.pendingAssertion = w.auth.pendingAssertion

theorem FromDisk.congr {uid : Option UInt32} {s t : Store} {cs : List Credential}
    (h : FromDisk crates uid s cs) (hst : t.credentials = s.credentials) :
    FromDisk crates uid t cs := by
  rw [FromDisk, Store.selectCredentials, hst]
  exact h

/-- What was loaded is described by rows of the user. -/
theorem FromDisk.exists_row {uid : Option UInt32} {s : Store} {cs : List Credential}
    (h : FromDisk crates uid s cs) {c : Credential} (hc : c ∈ cs) :
    ∃ row ∈ Store.selectCredentials uid s, Store.Describes crates uid row c := by
  rcases h with rfl | ⟨stored, rfl, hrows⟩
  · cases hc
  · obtain ⟨x, hx, rfl⟩ := List.mem_map.mp hc
    obtain ⟨row, hrow, hx⟩ := hrows.exists_left hx
    exact ⟨row, hrow, Store.describes_of_credentialOfRow hx⟩

theorem Looked.frame : Frame (Looked crates) where
  refl _ := ⟨⟨rfl, rfl⟩, rfl, .inl rfl, rfl⟩
  trans {w w₁ _} h₁ h₂ := by
    refine ⟨⟨h₂.session.trans h₁.session, h₂.tpmPath.trans h₁.tpmPath⟩,
      h₂.stored.trans h₁.stored, ?_, h₂.pending.trans h₁.pending⟩
    rcases h₂.cached with h | h
    · rw [h]
      exact h₁.cached
    · rw [h₁.session] at h
      exact .inr (h.congr h₁.stored.symm)

theorem Incidental.looked {w w' : World} (h : Incidental w w') : Looked crates w w' :=
  ⟨⟨h.session, h.tpmPath⟩, h.tables.credentials, .inl h.credentials, h.pendingAssertion⟩

/-! ## Letting an assertion out -/

variable {env : Env}

theorem CommandM.storeOrDeny_of_ok {α : Type} {m : StoreM α} {w : World} {a : α} {t : Store}
    (h : m w.store = (.ok a, t)) : storeOrDeny m w = (.ok a, { w with store := t }) := by
  simp only [storeOrDeny, bind_def, CommandM.store, zoom, h, pure_apply]

theorem CommandM.storeOrDeny_of_error {α : Type} {m : StoreM α} {w : World} {e : StoreError}
    {t : Store} (h : m w.store = (.error e, t)) :
    storeOrDeny m w = (.error .operationDenied, { w with store := t }) := by
  simp only [storeOrDeny, bind_def, CommandM.store, zoom, h, throw_apply]

theorem CommandM.storeOrDeny_of_none {α : Type} {m : StoreM α} {w : World}
    {o : Outcome StoreError α} {t : Store} (h : m w.store = (o, t)) (ho : o.toOption = none) :
    ∃ o' : Outcome ErrorStatus α, o'.toOption = none ∧
      storeOrDeny m w = (o', { w with store := t }) := by
  cases o with
  | ok a => cases ho
  | error e => exact ⟨_, rfl, storeOrDeny_of_error h⟩
  | panicked =>
    exact ⟨.panicked, rfl, by simp only [storeOrDeny, bind_def, CommandM.store, zoom, h]⟩

/-- **Signing and writing the counter.**  Whatever goes wrong, nothing changes; and what is let
out has the next counter, which is then in the store and in memory. -/
theorem releaseAssertion_release (w : World) (index : Nat) (clientDataHash : List UInt8)
    (userVerified : Bool) :
    Release w index
      (releaseAssertion crates env index clientDataHash userVerified w).1.toOption
      (releaseAssertion crates env index clientDataHash userVerified w).2 := by
  have fails : ∀ (o : Outcome ErrorStatus Assertion) w₁, o.toOption = none → Incidental w w₁ →
      Release w index (o, w₁).1.toOption (o, w₁).2 := by
    intro o w₁ ho h
    rw [show (o, w₁).1.toOption = none from ho]
    exact .failed h.sameCredentials h.pendingAssertion
  have hF := Incidental.frame
  refine Moves.bind_elim (motive := fun r ↦ Release w index r.1.toOption r.2) (hF.gets _) fails
    fun a w₁ e _ ↦ ?_
  cases e
  refine Moves.bind_elim (motive := fun r ↦ Release w index r.1.toOption r.2) (hF.expect _) fails
    fun c w₁ e _ ↦ ?_
  obtain ⟨hc, rfl⟩ := expect_ok e
  refine Moves.bind_elim (motive := fun r ↦ Release w₁ index r.1.toOption r.2)
    (signCredential_moves _ _ _ _) fails fun signature w₂ _ h₂ ↦ ?_
  rw [bind_def]
  rcases Store.updateRow_cases (env.store 3) c.id (fun _ ↦ true)
    (Store.withSignCount (saturatingSucc c.signCount)) (fun _ ↦ rfl) w₂.store with
    ⟨e, he⟩ | ⟨row, hrow, hid, -, he⟩
  · rw [Store.updateCtap2SignCount, storeOrDeny_of_error he]
    exact fails _ _ rfl h₂
  · rw [Store.updateCtap2SignCount, storeOrDeny_of_ok he]
    rw [h₂.tables.credentials] at hrow
    refine .done ⟨h₂.session, h₂.tpmPath⟩ hc rfl ⟨row, hrow, hid⟩ ?_ ?_ h₂.pendingAssertion
    · exact congrArg (fun t ↦ Table.update t c.id
        (Store.withSignCount (saturatingSucc c.signCount)) fun _ ↦ rfl) h₂.tables.credentials
    · exact congrArg (fun l ↦ List.modify l index
        fun c' ↦ { c' with signCount := saturatingSucc c.signCount }) h₂.credentials

theorem Release.sameContext {w w' : World} {index : Nat} {x : Option Assertion}
    (h : Release w index x w') : SameContext w w' := by
  cases h with
  | failed h _ => exact h.toSameContext
  | done h _ _ _ _ _ _ => exact h

/-! ## Looking for credentials -/

theorem loadCredentialsFromDisk_ok {fault : StoreFault} {uid : Option UInt32} {w w' : World}
    {cs : List Credential} (h : loadCredentialsFromDisk crates fault uid w = (.ok cs, w')) :
    FromDisk crates uid w.store cs := by
  obtain ⟨r, w₁, e₁, h₁⟩ := bind_ok h
  rw [CommandM.store, zoom] at e₁
  split at e₁
  · next stored t ht =>
    cases e₁
    cases h₁
    exact .inr ⟨stored, rfl, Store.loadCtap2Credentials_ok ht⟩
  · cases e₁
    cases h₁
    exact .inl rfl
  · cases e₁

theorem reloadCredentials_moves : Moves (Looked crates) (reloadCredentials crates env) := by
  intro w
  refine Moves.bind_elim (motive := fun r ↦ Looked crates w r.2) (Looked.frame.gets _)
    (fun _ _ _ h ↦ h) fun a w₁ e _ ↦ ?_
  cases e
  split
  · refine Moves.bind_elim (motive := fun r ↦ Looked crates w r.2)
      (loadCredentialsFromDisk_moves _ _) (fun _ _ _ h ↦ h.looked) fun cs w₁ e h ↦ ?_
    exact ⟨⟨h.session, h.tpmPath⟩, h.tables.credentials, .inr (loadCredentialsFromDisk_ok e),
      h.pendingAssertion⟩
  · exact Looked.frame.refl w

theorem selectAssertion_moves (body : List UInt8) :
    Moves (Looked crates) (selectAssertion crates env body) := by
  have hF : Frame (Looked crates) := Looked.frame
  refine hF.bind (hF.ofExcept _) fun request ↦ hF.bind (hF.ofExcept _) fun r ↦ ?_
  refine hF.bind ((validatePinUvAuth_moves _ _ _ _ _ _).mono fun _ _ h ↦ h.looked)
    fun verified ↦ ?_
  refine hF.bind (hF.ofExcept _) fun _ ↦ hF.bind (hF.ofExcept _) fun _ ↦ ?_
  refine hF.bind reloadCredentials_moves fun _ ↦ hF.bind (hF.gets _) fun a ↦ ?_
  split
  · exact hF.throw _
  · exact hF.bind (hF.throwIf _ _) fun _ ↦ hF.pure _

/-- What was chosen is what matches the request, in the list as it then is. -/
theorem selectAssertion_ok {body : List UInt8} {w w' : World} {r : GetAssertionRequest}
    {userVerified : Bool} {first : Nat} {remaining : List Nat}
    (h : selectAssertion crates env body w = (.ok (r, userVerified, first, remaining), w')) :
    ∃ request, decodeMap crates body = .ok request ∧
      mapText request (.int 1) = some r.rpId ∧
      matchingCredentialIndexes w'.auth.credentials r.rpId (mapArray request (.int 3)) =
        first :: remaining := by
  obtain ⟨request, w₁, e₁, h₁⟩ := bind_ok h
  obtain ⟨hrequest, rfl⟩ := ofExcept_ok e₁
  obtain ⟨r', w₂, e₂, h₂⟩ := bind_ok h₁
  obtain ⟨hr, rfl⟩ := ofExcept_ok e₂
  obtain ⟨verified, w₃, e₃, h₃⟩ := bind_ok h₂
  obtain ⟨_, w₄, e₄, h₄⟩ := bind_ok h₃
  obtain ⟨_, w₅, e₅, h₅⟩ := bind_ok h₄
  obtain ⟨_, w₆, e₆, h₆⟩ := bind_ok h₅
  obtain ⟨a, w₇, e₇, h₇⟩ := bind_ok h₆
  cases e₇
  refine ⟨request, hrequest, ?_⟩
  cases hidx : matchingCredentialIndexes w₆.auth.credentials r'.rpId
    (mapArray request (.int 3)) with
  | nil =>
    simp only [hidx] at h₇
    cases h₇
  | cons i is =>
    simp only [hidx] at h₇
    obtain ⟨_, w₈, e₈, h₈⟩ := bind_ok h₇
    obtain ⟨-, rfl⟩ := throwIf_ok e₈
    cases h₈
    refine ⟨?_, hidx⟩
    rw [getAssertionRequest] at hr
    split at hr
    · next hrp _ =>
      rw [hrp]
      revert hr
      cases validateClientDataHash _ with
      | error e => intro hr; cases hr
      | ok u => intro hr; cases hr; rfl
    · cases hr

end Ctap2
end TpmFido2
