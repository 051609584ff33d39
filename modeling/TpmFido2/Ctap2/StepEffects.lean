import TpmFido2.Ctap2.Effects

/-!
# Every step has one of the effects

`step_effect`: whatever happens to the daemon, what it does to the credentials is on the list
`Effect`.  The file goes through the commands; each part of a command that is not on the list is
a frame of `Ctap2/Frames.lean`.
-/

set_option autoImplicit false

namespace TpmFido2
namespace Ctap2

open Handler CommandM

variable {crates : Crates} {env : Env} {w : World} {payload body : List UInt8}

theorem SameContext.of_enter {w' : World} {command : Ctap2Command}
    (h : SameContext (w.enter command) w') : SameContext w w' := ⟨h.session, h.tpmPath⟩

theorem SameCredentials.of_enter {w' : World} {command : Ctap2Command}
    (h : SameCredentials (w.enter command) w') : SameCredentials w w' :=
  SameCredentials.frame.trans (quiet_enter w command).sameCredentials h

theorem not_hasCommand {command command' : Ctap2Command} (env : Env)
    (hp : parsePayload payload = some (command, body)) (hc : command ≠ command') :
    ¬ (Event.cbor env payload).hasCommand command' := by
  simpa [Event.hasCommand, hp] using hc

/-- The request behind an event with a given command. -/
theorem exists_payload_of_hasCommand {event : Event} {command : Ctap2Command}
    (h : event.hasCommand command) :
    ∃ env payload body, event = .cbor env payload ∧
      parsePayload payload = some (command, body) := by
  cases event with
  | cbor env payload =>
    rw [Event.hasCommand] at h
    cases hp : parsePayload payload with
    | none =>
      rw [hp] at h
      cases h
    | some x =>
      obtain ⟨command', body⟩ := x
      rw [hp] at h
      obtain rfl : command' = command := of_decide_eq_true h
      exact ⟨env, payload, body, rfl, hp⟩
  | _ => cases h

/-! ## Authentication -/

/-- That a command which ends in `r`, having let out `x`, has one of the effects. -/
def HasEffect {α : Type} (crates : Crates) (w : World) (event : Event)
    (x : Outcome ErrorStatus α → Option Assertion) (r : Outcome ErrorStatus α × World) : Prop :=
  released crates w event = x r.1 → Effect crates w event r.2

/-- getAssertion. -/
theorem firstAssertion_effect (hp : parsePayload payload = some (.getAssertion, body)) :
    Effect crates w (.cbor env payload)
      (firstAssertion crates env body (w.enter .getAssertion)).2 := by
  have hrew : rewritten crates w (.cbor env payload) = none := by simp only [rewritten, hp]
  have hrel : released crates w (.cbor env payload) =
      (firstAssertion crates env body (w.enter .getAssertion)).1.toOption.map Prod.fst := by
    simp only [released, hp]
  revert hrel
  have hpend : (w.enter .getAssertion).auth.pendingAssertion = none := rfl
  refine Moves.bind_elim (motive := HasEffect crates w _ fun o ↦ o.toOption.map Prod.fst)
    (requirePassphrase_moves _) (fun o w₁ ho h hrel ↦ ?_) fun _ w₁ _ h₁ ↦ ?_
  · exact .kept h.sameCredentials.of_enter (fun _ ↦ h.pendingAssertion.trans hpend)
      (by rw [hrel]; simp [ho]) hrew
  refine Moves.bind_elim (motive := HasEffect crates w _ fun o ↦ o.toOption.map Prod.fst)
    (selectAssertion_moves _) (fun o w₂ ho h hrel ↦ ?_) fun chosen w₂ e₂ h₂ ↦ ?_
  · have hrel' : released crates w (.cbor env payload) = none := by rw [hrel]; simp [ho]
    have h' := Looked.frame.trans h₁.looked h
    rcases h'.cached with hc | hc
    · exact .kept ⟨h'.toSameContext.of_enter, h'.stored, hc, .inl (h'.pending.trans hpend)⟩
        (fun _ ↦ h'.pending.trans hpend) hrel' hrew
    · exact .reloaded h'.toSameContext.of_enter h'.stored hc (h'.pending.trans hpend) hrel' hrew
  · obtain ⟨r, userVerified, first, remaining⟩ := chosen
    obtain ⟨request, hreq, hrp, hidx⟩ := selectAssertion_ok e₂
    have h' := Looked.frame.trans h₁.looked h₂
    intro hrel
    -- the world after the choice, with the pending assertion of this request
    let w₃ : World := { w₂ with auth := { w₂.auth with
      pendingAssertion := pendingFor ⟨r.rpId, r.clientDataHash, [], remaining.length + 1,
        env.now 1, w₂.auth.session.uid, userVerified⟩ remaining } }
    have h₃ : SameContext w w₃ := ⟨h'.session, h'.tpmPath⟩
    refine .asserted rfl hp hreq hrp h₃ h'.stored h'.cached hidx rfl ?_ hrew
    rw [hrel]
    change Release w₃ first (Option.map Prod.fst ((releaseAssertion crates env first
      r.clientDataHash userVerified >>= fun a ↦ pure (a, remaining.length + 1)) w₃).1.toOption)
      ((releaseAssertion crates env first r.clientDataHash userVerified >>=
        fun a ↦ pure (a, remaining.length + 1)) w₃).2
    rw [bind_snd fun _ _ ↦ rfl, map_toOption_bind_pure fun _ ↦ rfl]
    exact releaseAssertion_release w₃ first r.clientDataHash userVerified

/-- getNextAssertion. -/
theorem nextAssertion_effect (hp : parsePayload payload = some (.getNextAssertion, body)) :
    Effect crates w (.cbor env payload)
      (nextAssertion crates env body (w.enter .getNextAssertion)).2 := by
  have hrew : rewritten crates w (.cbor env payload) = none := by simp only [rewritten, hp]
  have hrel : released crates w (.cbor env payload) =
      (nextAssertion crates env body (w.enter .getNextAssertion)).1.toOption := by
    simp only [released, hp]
  revert hrel
  have hF := SameCredentials.frame
  have fails : ∀ (o : Outcome ErrorStatus Assertion) w₁, o.toOption = none →
      SameCredentials (w.enter .getNextAssertion) w₁ →
      HasEffect crates w (.cbor env payload) Outcome.toOption (o, w₁) :=
    fun o w₁ ho h hrel ↦ .kept h.of_enter
      (fun hget ↦ absurd hget (not_hasCommand env hp (by decide))) (hrel.trans ho) hrew
  refine Moves.bind_elim (motive := HasEffect crates w _ Outcome.toOption)
    (requirePassphrase_moves _) (fun o w₁ ho h ↦ fails o w₁ ho h.sameCredentials) fun _ w₁ _ h₁ ↦ ?_
  have fails₁ : ∀ (o : Outcome ErrorStatus Assertion) w₂, o.toOption = none →
      SameCredentials w₁ w₂ → HasEffect crates w (.cbor env payload) Outcome.toOption (o, w₂) :=
    fun o w₂ ho h ↦ fails o w₂ ho (hF.trans h₁.sameCredentials h)
  refine Moves.bind_elim (motive := HasEffect crates w _ Outcome.toOption)
    (hF.throwIf _ _) fails₁ fun _ w₂ e₂ _ ↦ ?_
  obtain ⟨-, rfl⟩ := throwIf_ok e₂
  refine Moves.bind_elim (motive := HasEffect crates w _ Outcome.toOption)
    (hF.gets _) fails₁ fun a w₃ e₃ _ ↦ ?_
  cases e₃
  refine Moves.bind_elim (motive := HasEffect crates w _ Outcome.toOption)
    (hF.ofOption _ _) fails₁ fun p w₄ e₄ _ ↦ ?_
  obtain ⟨hpending, rfl⟩ := ofOption_ok e₄
  -- from here on the pending assertion has been taken
  have hdropped : SameCredentials w₄
      { w₄ with auth := { w₄.auth with pendingAssertion := none } } :=
    ⟨⟨rfl, rfl⟩, rfl, rfl, .inl rfl⟩
  refine Moves.bind_elim (motive := HasEffect crates w _ Outcome.toOption) (hF.throwIf _ _)
    (fun o w₅ ho h ↦ fails₁ o w₅ ho (hF.trans hdropped h)) fun _ w₅ e₅ _ ↦ ?_
  obtain ⟨-, rfl⟩ := throwIf_ok e₅
  cases hidx : p.credentialIndexes with
  | nil => exact fails₁ _ _ rfl hdropped
  | cons index remaining =>
    intro hrel
    have h₆ : SameContext w { w₄ with auth := { w₄.auth with
      pendingAssertion := pendingFor p remaining } } := ⟨h₁.session, h₁.tpmPath⟩
    refine .continued rfl hp (h₁.pendingAssertion.symm.trans hpending) hidx h₆
      h₁.tables.credentials h₁.credentials rfl ?_ hrew
    rw [hrel]
    exact releaseAssertion_release _ _ _ _

/-! ## Saving -/

/-- What saving the list in memory leaves; `committed` says which way it went. -/
structure Saving (crates : Crates) (env : Env) (w w' : World) : Prop where
  auth : w'.auth = w.auth
  settings : Store.SameSettings w.store w'.store
  saved : Saved crates (env.store 3) w.auth.credentials w.store.credentials w'.store.credentials
    (committed crates env w.store w.auth.credentials)

theorem saveCredentials_saved (crates : Crates) (env : Env) (w : World) :
    Saving crates env w (saveCredentials crates env w).2 := by
  have h : (saveCredentials crates env w).2 = { w with
      store := (Store.saveCtap2Credentials crates (env.store 3) w.auth.credentials
        w.store).2 } := by
    have h' : (saveCredentials crates env w).2 =
        (store (Store.saveCtap2Credentials crates (env.store 3) w.auth.credentials) w).2 :=
      bind_snd (m := store _) fun _ _ ↦ rfl
    rw [h', store_snd]
  rw [h]
  refine ⟨rfl, Store.saveCtap2Credentials_moves _ _, ?_⟩
  rw [committed]
  rcases Store.saveCtap2Credentials_cases crates (env.store 3)
    w.auth.credentials w.store with ⟨hnone, hsame⟩ | ⟨hok, hrows⟩
  · have hsaved : Saved crates (env.store 3) w.auth.credentials w.store.credentials
        w.store.credentials none := .kept hnone
    rw [hnone, hsame]
    exact hsaved
  · rw [hok]
    exact .committed hrows

/-- Saving answers nothing: a write that fails is logged. -/
theorem saveCredentials_no_error (crates : Crates) (env : Env) (w : World) (status : ErrorStatus) :
    (saveCredentials crates env w).1 ≠ .error status := by
  have h : saveCredentials crates env w =
      (store (Store.saveCtap2Credentials crates (env.store 3) w.auth.credentials) >>=
        fun _ ↦ pure ()) w := rfl
  rw [h, bind_def, store, zoom]
  generalize Store.saveCtap2Credentials crates (env.store 3) w.auth.credentials w.store = r
  obtain ⟨o, s⟩ := r
  cases o <;> rintro ⟨⟩

theorem registration_moves (body : List UInt8) :
    Moves Incidental (registration crates env body) :=
  Incidental.frame.bind (requirePassphrase_moves _) fun _ ↦ prepareCredential_moves _

/-- makeCredential changes nothing until the credential is made. -/
theorem gatedCommand_makeCredential (body : List UInt8) :
    gatedCommand crates env .makeCredential body =
      registration crates env body >>= fun x ↦
        modifyAuth (fun a ↦ { a with credentials := a.credentials ++ [x.1] }) >>= fun _ ↦
          saveCredentials crates env >>= fun _ ↦ pure x.2 := by
  rw [registration, bind_assoc]
  rfl

/-- What is left of a registration whose credential is made is to save it. -/
theorem gatedCommand_makeCredential_snd {w₁ : World} {c : Credential} {response : List UInt8}
    (h : registration crates env body w = (.ok (c, response), w₁)) :
    (gatedCommand crates env .makeCredential body w).2 =
      (saveCredentials crates env { w₁ with auth := { w₁.auth with
        credentials := w₁.auth.credentials ++ [c] } }).2 := by
  have hsaves : ∀ w₂ : World, ((saveCredentials crates env >>= fun _ ↦ pure response) w₂).2 =
      (saveCredentials crates env w₂).2 := fun _ ↦ bind_snd fun _ _ ↦ rfl
  rw [gatedCommand_makeCredential, bind_of_ok _ h]
  exact hsaves _

/-- Adding a credential and saving. -/
theorem makeCredential_effect (hp : parsePayload payload = some (.makeCredential, body)) :
    Effect crates w (.cbor env payload)
      (gatedCommand crates env .makeCredential body (w.enter .makeCredential)).2 := by
  have hrel : released crates w (.cbor env payload) = none := by simp only [released, hp]
  have hpend : (w.enter .makeCredential).auth.pendingAssertion = none := rfl
  have hfresh : ¬ (Event.cbor env payload).hasCommand .getAssertion :=
    not_hasCommand env hp (by decide)
  have h : Incidental _ (registration crates env body (w.enter .makeCredential)).2 :=
    registration_moves body _
  cases e : registration crates env body (w.enter .makeCredential) with
  | mk o w₁ =>
    rw [e] at h
    cases o with
    | error _ =>
      rw [gatedCommand_makeCredential, bind_def, e]
      exact .kept h.sameCredentials.of_enter (fun hget ↦ absurd hget hfresh) hrel
        (by simp only [rewritten, hp, e])
    | panicked =>
      rw [gatedCommand_makeCredential, bind_def, e]
      exact .kept h.sameCredentials.of_enter (fun hget ↦ absurd hget hfresh) hrel
        (by simp only [rewritten, hp, e])
    | ok x =>
      obtain ⟨c, response⟩ := x
      rw [gatedCommand_makeCredential_snd e]
      obtain ⟨_, w₂, e₂, h₂⟩ := bind_ok e
      have hmade := prepareCredential_ok h₂
      cases (requirePassphrase_eq _).of_eq e₂
      -- the world the list is saved in
      let w₃ : World := { w₁ with auth := { w₁.auth with
        credentials := w₁.auth.credentials ++ [c] } }
      obtain ⟨hauth, -, hsaved⟩ := saveCredentials_saved crates env w₃
      change Effect crates w _ (saveCredentials crates env w₃).2
      have hcached : (saveCredentials crates env w₃).2.auth.credentials =
          w.auth.credentials ++ [c] := by
        rw [hauth]
        exact congrArg (· ++ [c]) h.credentials
      refine .created rfl hp hmade ⟨?_, ?_⟩ hcached ?_ ?_ hrel
      · rw [hauth]; exact h.session
      · rw [hauth]; exact h.tpmPath
      · rw [hauth]; exact h.pendingAssertion.trans hpend
      · have hrew : rewritten crates w (.cbor env payload) =
            committed crates env w₁.store (w₁.auth.credentials ++ [c]) := by
          simp only [rewritten, hp, e]
        rw [hrew, hauth]
        have ht : w₃.store.credentials = w.store.credentials := h.tables.credentials
        rw [ht] at hsaved
        exact hsaved

/-! ## Management -/

/-- What a request that got through to its sub-command said, and how it was authorised. -/
structure Authorised (crates : Crates) (env : Env) (body : List UInt8) (n : Int)
    (params : Option Entries) (w w' : World) : Prop where
  request : ∃ request, decodeMap crates body = .ok request ∧
    mapInteger request (.int 1) = some n ∧ params = mapMap request (.int 2) ∧
    (w.auth.pinUvVerdict crates env 1 (mapInteger request (.int 3)) (mapBytes request (.int 4))
        (managementAuthMessage crates n params) .credentialManagement none = .absent ∨
      w.auth.pinUvVerdict crates env 1 (mapInteger request (.int 3)) (mapBytes request (.int 4))
        (managementAuthMessage crates n params) .credentialManagement none = .verified)
  clientPin : w.auth.clientPin.isSome
  world : w' = (expireManagement env w).2

/-- The enumeration is left as it was, unless it has expired. -/
theorem Authorised.management {n : Int} {params : Option Entries} {w w' : World}
    (h : Authorised crates env body n params w w') :
    w'.auth.management = none ∨ w'.auth.management = w.auth.management := by
  rw [h.world, expireManagement, modifyAuth, modify_apply]
  cases w.auth.management with
  | none => exact .inl rfl
  | some state =>
    dsimp only [Option.filter]
    split
    · exact .inr rfl
    · exact .inl rfl

theorem authoriseManagement_ok {n : Int} {params : Option Entries} {w w' : World}
    (h : authoriseManagement crates env body w = (.ok (n, params), w')) :
    Authorised crates env body n params w w' := by
  obtain ⟨a, w₁, e₁, h₁⟩ := bind_ok h
  cases e₁
  obtain ⟨_, w₂, e₂, h₂⟩ := bind_ok h₁
  obtain ⟨-, rfl⟩ := throwIf_ok e₂
  obtain ⟨request, w₃, e₃, h₃⟩ := bind_ok h₂
  obtain ⟨hrequest, rfl⟩ := ofExcept_ok e₃
  obtain ⟨n', w₄, e₄, h₄⟩ := bind_ok h₃
  obtain ⟨hn, rfl⟩ := ofOption_ok e₄
  obtain ⟨_, w₅, e₅, h₅⟩ := bind_ok h₄
  obtain ⟨hpin, rfl⟩ := throwIf_ok e₅
  obtain ⟨b, w₆, e₆, h₆⟩ := bind_ok h₅
  obtain ⟨rfl, hverdict⟩ := validatePinUvAuth_ok e₆
  obtain ⟨_, w₇, e₇, h₇⟩ := bind_ok h₆
  cases h₇
  refine ⟨⟨request, hrequest, hn, rfl, hverdict⟩, ?_, (congrArg Prod.snd e₇).symm⟩
  exact Option.isSome_iff_ne_none.mpr (by simpa using hpin)

theorem managementRequest_cbor {command : Ctap2Command} (hc : command.isManagement)
    (hp : parsePayload payload = some (command, body)) {request : Entries}
    (hrequest : decodeMap crates body = .ok request) {n : Int}
    (hn : mapInteger request (.int 1) = some n) :
    managementRequest crates (.cbor env payload) = some (env, request, n) := by
  simp only [managementRequest, hp, if_pos hc, hrequest, hn, Option.map_some]

/-- A management request in parts. -/
theorem managementRequest_eq_some {event : Event} {request : Entries} {n : Int}
    (h : managementRequest crates event = some (env, request, n)) :
    ∃ payload command body, event = .cbor env payload ∧
      parsePayload payload = some (command, body) ∧ command.isManagement ∧
      decodeMap crates body = .ok request ∧ mapInteger request (.int 1) = some n := by
  unfold managementRequest at h
  split at h
  · next env' payload =>
    split at h
    · next command body hp =>
      split at h
      · next hc =>
        split at h
        · next request' hreq =>
          obtain ⟨n', hn, heq⟩ := Option.map_eq_some_iff.mp h
          cases heq
          exact ⟨payload, command, body, rfl, hp, hc, hreq, hn⟩
        · cases h
      · cases h
    · cases h
  · cases h

theorem Ctap2Command.isManagement.ne_getAssertion {command : Ctap2Command}
    (hc : command.isManagement) : command ≠ .getAssertion := by
  rcases hc with rfl | rfl <;> decide

theorem gatedCommand_management {command : Ctap2Command} (hc : command.isManagement) :
    gatedCommand crates env command body =
      authorisedRequest crates env command body >>= fun x ↦
        ofOption (ManagementSubCommand.ofInteger x.1) .invalidCommand >>= fun subCommand ↦
          managementSubCommand crates env subCommand x.2 := by
  rw [authorisedRequest, bind_assoc]
  rcases hc with rfl | rfl <;> rfl

theorem rewritten_management (crates : Crates) (env : Env) (w : World)
    {command : Ctap2Command} (hc : command.isManagement)
    (hp : parsePayload payload = some (command, body)) :
    rewritten crates w (.cbor env payload) = rewrittenByUpdate crates env command body w := by
  rcases hc with rfl | rfl <;> simp only [rewritten, hp]

/-- Only updateUserInformation writes the table. -/
theorem rewritten_of_ne_update {command : Ctap2Command} (hc : command.isManagement)
    (hp : parsePayload payload = some (command, body)) {n : Int} {params : Option Entries}
    {w₁ : World}
    (e : authorisedRequest crates env command body (w.enter command) = (.ok (n, params), w₁))
    (hn : ManagementSubCommand.ofInteger n ≠ some .updateUserInformation) :
    rewritten crates w (.cbor env payload) = none := by
  rw [rewritten_management crates env w hc hp]
  simp only [rewrittenByUpdate, e, if_neg hn]

/-- The number of a sub-command. -/
def ManagementSubCommand.number : ManagementSubCommand → Int
  | .getCredsMetadata => 1
  | .enumerateRpsBegin => 2
  | .enumerateRpsNext => 3
  | .enumerateCredentialsBegin => 4
  | .enumerateCredentialsNext => 5
  | .deleteCredential => 6
  | .updateUserInformation => 7

theorem ManagementSubCommand.number_of_ofInteger {n : Int} {subCommand : ManagementSubCommand}
    (h : ofInteger n = some subCommand) : n = subCommand.number := by
  rw [ofInteger] at h
  repeat' split at h
  all_goals cases h
  all_goals assumption

/-- What deleteCredential can end in: the row goes first, then the entry of the list. -/
inductive Deletion (crates : Crates) (params : Option Entries) (w : World) :
    Outcome ErrorStatus (List UInt8) × World → Prop where
  | failed (o : Outcome ErrorStatus (List UInt8)) (ho : o.toOption = none) :
    Deletion crates params w (o, w)
  | done {id : List UInt8} {index : Nat} (hid : descriptorId params = .ok id)
    (position : discoverablePosition w.auth.credentials id = some index) :
    Deletion crates params w (.ok (emptyResponse crates),
      ⟨{ w.store with credentials := w.store.credentials.delete id },
        { w.auth with credentials := w.auth.credentials.eraseIdx index, management := none }⟩)

theorem exists_of_discoverablePosition {cs : List Credential} {id : List UInt8} {index : Nat}
    (h : discoverablePosition cs id = some index) :
    ∃ c, cs[index]? = some c ∧ c.id = id := by
  obtain ⟨hlt, hc, -⟩ := List.findIdx?_eq_some_iff_getElem.mp h
  rw [Bool.and_eq_true, decide_eq_true_eq] at hc
  exact ⟨cs[index], List.getElem?_eq_getElem hlt, hc.2⟩

theorem deleteCredential_deletion (crates : Crates) (env : Env) (params : Option Entries)
    (w : World) :
    Deletion crates params w (deleteCredential crates env params w) := by
  have fails : ∀ (o : Outcome ErrorStatus (List UInt8)) w₁, o.toOption = none → w = w₁ →
      Deletion crates params w (o, w₁) := by
    rintro o _ ho rfl
    exact .failed o ho
  refine Moves.bind_elim (Frame.eq.ofExcept _) fails fun id w₁ e₁ _ ↦ ?_
  obtain ⟨hid, rfl⟩ := ofExcept_ok e₁
  refine Moves.bind_elim (Frame.eq.gets _) fails fun a w₂ e₂ _ ↦ ?_
  cases e₂
  refine Moves.bind_elim (Frame.eq.ofOption _ _) fails fun index w₃ e₃ _ ↦ ?_
  obtain ⟨hposition, rfl⟩ := ofOption_ok e₃
  rw [bind_def]
  rcases Store.deleteCtap2Credential_cases (env.store 1) id w₃.store with
    ⟨e, he⟩ | ⟨row, -, -, he⟩
  · rw [storeOrDeny_of_error he]
    exact .failed _ rfl
  · rw [storeOrDeny_of_ok he]
    exact .done hid hposition

/-- What updateUserInformation can end in: the entry of the list changes first, then it is
saved.  Saving can panic, and then the enumeration is not dropped. -/
inductive Renaming (crates : Crates) (env : Env) (params : Option Entries) (w : World) :
    Outcome ErrorStatus (List UInt8) × World → Prop where
  | failed {e : ErrorStatus} (he : locateUser w.auth params = .error e) :
    Renaming crates env params w (.error e, w)
  | done {o : Outcome ErrorStatus (List UInt8)} {w' : World} {index : Nat} {user : Entries}
    {management : Option ManagementState}
    (hlocate : locateUser w.auth params = .ok (index, user))
    (auth : w'.auth = { w.auth with
      credentials := w.auth.credentials.modify index (withUser user), management := management })
    (ended : management = none ∧ o = .ok (emptyResponse crates) ∨
      management = w.auth.management ∧ o = .panicked)
    (settings : Store.SameSettings w.store w'.store)
    (saved : Saved crates (env.store 3) w'.auth.credentials w.store.credentials
      w'.store.credentials (committed crates env w.store w'.auth.credentials)) :
    Renaming crates env params w (o, w')

theorem updateUserInformation_renaming (crates : Crates) (env : Env) (params : Option Entries)
    (w : World) :
    Renaming crates env params w (updateUserInformation crates env params w) := by
  have hsplit : updateUserInformation crates env params w =
      (ofExcept (locateUser w.auth params) >>= fun x ↦
        modifyAuth (fun a ↦ { a with
          credentials := a.credentials.modify x.1 (withUser x.2) }) >>= fun _ ↦
        saveCredentials crates env >>= fun _ ↦ setManagement none >>= fun _ ↦
          pure (emptyResponse crates)) w := rfl
  rw [hsplit]
  cases hlocate : locateUser w.auth params with
  | error e => exact .failed hlocate
  | ok x =>
    obtain ⟨index, user⟩ := x
    -- the world the list is saved in
    let w₁ : World := { w with auth := { w.auth with
      credentials := w.auth.credentials.modify index (withUser user) } }
    have hsaved := saveCredentials_saved crates env w₁
    have hno := saveCredentials_no_error crates env w₁
    change Renaming crates env params w ((saveCredentials crates env >>= fun _ ↦
      setManagement none >>= fun _ ↦ pure (emptyResponse crates)) w₁)
    rw [bind_def]
    cases e : saveCredentials crates env w₁ with
    | mk o w₂ =>
      rw [e] at hsaved hno
      have hauth : w₂.auth = w₁.auth := hsaved.auth
      have hrows : Saved crates (env.store 3) w₂.auth.credentials w.store.credentials
          w₂.store.credentials (committed crates env w.store w₂.auth.credentials) := by
        rw [hauth]
        exact hsaved.saved
      cases o with
      | ok _ =>
        exact .done hlocate (congrArg (fun a ↦ { a with management := none }) hauth)
          (.inl ⟨rfl, rfl⟩) hsaved.settings hrows
      | error status => exact absurd rfl (hno status)
      | panicked => exact .done hlocate hauth (.inr ⟨rfl, rfl⟩) hsaved.settings hrows

theorem renamed_effect {command : Ctap2Command} (hc : command.isManagement)
    (hp : parsePayload payload = some (command, body)) {n : Int} {params : Option Entries}
    {w₁ : World}
    (e : authorisedRequest crates env command body (w.enter command) = (.ok (n, params), w₁))
    (hn : ManagementSubCommand.ofInteger n = some .updateUserInformation)
    (h : Quiet (w.enter command) w₁) :
    Effect crates w (.cbor env payload) (updateUserInformation crates env params w₁).2 := by
  have hrel : released crates w (.cbor env payload) = none := by
    rcases hc with rfl | rfl <;> simp only [released, hp]
  have hfresh := not_hasCommand env hp hc.ne_getAssertion
  have hrew := rewritten_management crates env w hc hp
  have hq : Quiet w w₁ := Quiet.frame.trans (quiet_enter w command) h
  have hren := updateUserInformation_renaming crates env params w₁
  generalize updateUserInformation crates env params w₁ = r at hren ⊢
  cases hren with
  | failed he =>
    exact .kept hq.sameCredentials (fun hget ↦ absurd hget hfresh) hrel
      (by simp only [hrew, rewrittenByUpdate, e, hn, he, if_true])
  | @done o w' index user management hlocate hauth _ _ hsaved =>
    have hlist : w'.auth.credentials = w.auth.credentials.modify index (withUser user) := by
      rw [hauth, ← hq.credentials]
    obtain ⟨_, w₂, -, h₂⟩ := bind_ok e
    obtain ⟨request, hrequest, hn', -, -⟩ := (authoriseManagement_ok h₂).request
    rw [ManagementSubCommand.number_of_ofInteger hn, ManagementSubCommand.number] at hn'
    have hsaves : savesAll crates (.cbor env payload) := by
      simp [savesAll, managementRequest_cbor hc hp hrequest hn']
    refine .renamed rfl hsaves ⟨by rw [hauth]; exact hq.session, by rw [hauth]; exact hq.tpmPath⟩
      hlist (by rw [hauth]; exact hq.pendingAssertion) hfresh ?_ hrel
    rw [hq.tables.credentials] at hsaved
    have hcached : w₁.auth.credentials.modify index (withUser user) = w'.auth.credentials := by
      rw [hauth]
    simp only [hrew, rewrittenByUpdate, e, hn, hlocate, if_true, hcached]
    exact hsaved

theorem deleted_effect {command : Ctap2Command} (hc : command.isManagement)
    (hp : parsePayload payload = some (command, body)) {n : Int} {params : Option Entries}
    {w₁ : World}
    (e : authorisedRequest crates env command body (w.enter command) = (.ok (n, params), w₁))
    (hn : ManagementSubCommand.ofInteger n = some .deleteCredential)
    (h : Quiet (w.enter command) w₁) :
    Effect crates w (.cbor env payload) (deleteCredential crates env params w₁).2 := by
  have hrel : released crates w (.cbor env payload) = none := by
    rcases hc with rfl | rfl <;> simp only [released, hp]
  have hfresh := not_hasCommand env hp hc.ne_getAssertion
  have hrew : rewritten crates w (.cbor env payload) = none :=
    rewritten_of_ne_update hc hp e (by rw [hn]; exact nofun)
  have hq : Quiet w w₁ := Quiet.frame.trans (quiet_enter w command) h
  have hdel := deleteCredential_deletion crates env params w₁
  generalize deleteCredential crates env params w₁ = r at hdel ⊢
  cases hdel with
  | failed _ _ => exact .kept hq.sameCredentials (fun hget ↦ absurd hget hfresh) hrel hrew
  | @done id index hid hposition =>
    rw [hq.credentials] at hposition
    obtain ⟨_, w₂, -, h₂⟩ := bind_ok e
    obtain ⟨request, hrequest, hn', rfl, -⟩ := (authoriseManagement_ok h₂).request
    rw [ManagementSubCommand.number_of_ofInteger hn, ManagementSubCommand.number] at hn'
    have htarget : deletionTarget crates w (.cbor env payload) = some index := by
      simp only [deletionTarget, managementRequest_cbor hc hp hrequest hn', if_true, hid, hposition]
    refine .deleted ⟨hq.session, hq.tpmPath⟩ htarget hposition ?_ ?_ hq.pendingAssertion hfresh hrel
      hrew
    · exact congrArg (Table.delete · id) hq.tables.credentials
    · exact congrArg (List.eraseIdx · index) hq.credentials

/-- Credential management. -/
theorem management_effect {command : Ctap2Command} (hc : command.isManagement)
    (hp : parsePayload payload = some (command, body)) :
    Effect crates w (.cbor env payload)
      (gatedCommand crates env command body (w.enter command)).2 := by
  have hrel : released crates w (.cbor env payload) = none := by
    rcases hc with rfl | rfl <;> simp only [released, hp]
  have hfresh := not_hasCommand env hp hc.ne_getAssertion
  have hrew := rewritten_management crates env w hc hp
  have h := authorisedRequest_moves crates env command body (w.enter command)
  rw [gatedCommand_management hc, bind_def]
  cases e : authorisedRequest crates env command body (w.enter command) with
  | mk o w₁ =>
    rw [e] at h
    cases o with
    | error _ =>
      exact .kept h.sameCredentials.of_enter (fun hget ↦ absurd hget hfresh) hrel
        (by simp only [hrew, rewrittenByUpdate, e])
    | panicked =>
      exact .kept h.sameCredentials.of_enter (fun hget ↦ absurd hget hfresh) hrel
        (by simp only [hrew, rewrittenByUpdate, e])
    | ok x =>
      obtain ⟨n, params⟩ := x
      change Effect crates w _ ((ofOption (ManagementSubCommand.ofInteger n) .invalidCommand >>=
        fun subCommand ↦ managementSubCommand crates env subCommand params) w₁).2
      cases hsub : ManagementSubCommand.ofInteger n with
      | none =>
        exact .kept h.sameCredentials.of_enter (fun hget ↦ absurd hget hfresh) hrel
          (rewritten_of_ne_update hc hp e (by rw [hsub]; exact nofun))
      | some subCommand =>
        change Effect crates w _ (managementSubCommand crates env subCommand params w₁).2
        by_cases hlooks : subCommand.looks
        · have hmoves := managementSubCommand_moves crates env hlooks params w₁
          refine .kept (Quiet.frame.trans h hmoves).sameCredentials.of_enter
            (fun hget ↦ absurd hget hfresh) hrel (rewritten_of_ne_update hc hp e ?_)
          rw [hsub]
          rintro ⟨⟩
          cases hlooks
        · cases subCommand with
          | deleteCredential => exact deleted_effect hc hp e hsub h
          | updateUserInformation => exact renamed_effect hc hp e hsub h
          | _ => exact absurd rfl hlooks

/-! ## reset -/

/-- Rows may be gone, but only those with an ID in `ids`; the authenticator is as it was. -/
structure Removes (ids : List UInt8 → Prop) (w w' : World) : Prop where
  auth : w'.auth = w.auth
  settings : Store.SameSettings w.store w'.store
  stored : ∀ row ∈ w'.store.credentials.rows, row ∈ w.store.credentials.rows
  others : ∀ row ∈ w.store.credentials.rows, ¬ ids row.credentialId →
    row ∈ w'.store.credentials.rows

theorem Removes.frame (ids : List UInt8 → Prop) : Frame (Removes ids) where
  refl _ := ⟨rfl, Store.SameSettings.frame.refl _, fun _ h ↦ h, fun _ h _ ↦ h⟩
  trans h₁ h₂ := ⟨h₂.auth.trans h₁.auth, Store.SameSettings.frame.trans h₁.settings h₂.settings,
    fun row h ↦ h₁.stored row (h₂.stored row h),
    fun row h hid ↦ h₂.others row (h₁.others row h hid) hid⟩

/-- The loop of `reset` ends, and removes no other rows than it is told to. -/
theorem deleteAll_removes (env : Env) (ids : List UInt8 → Prop) {cs : List Credential}
    (hcs : ∀ c ∈ cs, ids c.id) (n : Nat) (w : World) :
    ∃ w', deleteAll env n cs w = (.ok (), w') ∧ Removes ids w w' := by
  induction cs generalizing n w with
  | nil => exact ⟨w, rfl, (Removes.frame ids).refl w⟩
  | cons c cs ih =>
    have hrest := fun w₁ ↦ ih (fun c' h ↦ hcs c' (List.mem_cons_of_mem c h)) (n + 1) w₁
    rw [deleteAll, bind_def]
    rcases Store.deleteCtap2Credential_cases (env.store (n + 1)) c.id w.store with
      ⟨e, he⟩ | ⟨row, -, -, he⟩
    · obtain ⟨w', h', hremoves⟩ := hrest w
      exact ⟨w', by simpa only [store, zoom, he] using h', hremoves⟩
    · obtain ⟨w', h', hremoves⟩ := hrest
        { w with store := { w.store with credentials := w.store.credentials.delete c.id } }
      refine ⟨w', by simpa only [store, zoom, he] using h', (Removes.frame ids).trans ?_ hremoves⟩
      refine ⟨rfl, ⟨rfl, rfl, rfl, .refl _⟩, fun row h ↦ (Table.mem_delete.mp h).1, ?_⟩
      intro row h hid
      refine Table.mem_delete.mpr ⟨h, fun hc ↦ hid ?_⟩
      rw [hc]
      exact hcs c List.mem_cons_self

/-- The same of a loop that has ended. -/
theorem Removes.of_deleteAll {n : Nat} {cs : List Credential} {w' : World}
    (h : deleteAll env n cs w = (.ok (), w')) :
    Removes (fun id ↦ ∃ c ∈ cs, c.id = id) w w' := by
  obtain ⟨w₁, h₁, hremoves⟩ := deleteAll_removes env (fun id ↦ ∃ c ∈ cs, c.id = id)
    (fun c hc ↦ ⟨c, hc, rfl⟩) n w
  cases (Prod.mk.inj (h.symm.trans h₁)).2
  exact hremoves

/-- The authenticator without a PIN. -/
def Authenticator.withoutPin (a : Authenticator) : Authenticator :=
  { a with clientPin := none, keyAgreement := none, pinUvAuthToken := none }

/-- What the part of `reset` about the PIN can end in. -/
inductive PinReset (env : Env) (w : World) : World → Prop where
  | unset (h : w.auth.clientPin = none) : PinReset env w w
  | kept (h : w.auth.clientPin.isSome) (hfault : (env.store 0).io ∨ (env.store 0).statement) :
    PinReset env w { w with auth := w.auth.withoutPin }
  | removed (h : w.auth.clientPin.isSome)
    (hfault : ¬ ((env.store 0).io ∨ (env.store 0).statement)) :
    PinReset env w ⟨{ w.store with clientPin := none }, w.auth.withoutPin⟩

theorem resetPin_reset (env : Env) (w : World) :
    ∃ w', resetPin env w = (.ok (), w') ∧ PinReset env w w' := by
  have hsplit : resetPin env w = (if w.auth.clientPin.isSome then
      store (Store.deleteClientPinState (env.store 0)) >>= fun _ ↦
        modifyAuth Authenticator.withoutPin
      else pure ()) w := rfl
  rw [hsplit]
  split
  · next h =>
    by_cases hfault : (env.store 0).io ∨ (env.store 0).statement
    · exact ⟨_, by simp only [bind_def, store, zoom, Store.deleteClientPinState_apply,
        if_pos hfault, modifyAuth, modify_apply], .kept h hfault⟩
    · exact ⟨_, by simp only [bind_def, store, zoom, Store.deleteClientPinState_apply,
        if_neg hfault, modifyAuth, modify_apply], .removed h hfault⟩
  · next h => exact ⟨w, rfl, .unset (by simpa using h)⟩

theorem PinReset.sameCredentials {w' : World} (h : PinReset env w w') : SameCredentials w w' := by
  cases h with
  | unset _ => exact SameCredentials.frame.refl w
  | kept _ _ => exact ⟨⟨rfl, rfl⟩, rfl, rfl, .inr rfl⟩
  | removed _ _ => exact ⟨⟨rfl, rfl⟩, rfl, rfl, .inr rfl⟩

/-- What `reset` can end in: it is refused, or the PIN goes, then the rows of the credentials in
memory, then what is in memory. -/
inductive Resetting (crates : Crates) (env : Env) (w : World) :
    Outcome ErrorStatus (List UInt8) × World → Prop where
  | refused (h : ¬ w.auth.assertionApproved env 0 "reset") :
    Resetting crates env w (.error .operationDenied, w)
  | done {w₁ w₂ : World} (h : w.auth.assertionApproved env 0 "reset") (pin : PinReset env w w₁)
    (rows : Removes (fun id ↦ ∃ c ∈ w.auth.credentials, c.id = id) w₁ w₂) :
    Resetting crates env w (.ok (emptyResponse crates), { w₂ with
      auth := { w₂.auth with credentials := [], pendingAssertion := none, management := none } })

/-- The rest of a reset the user approves. -/
theorem reset_of_approved (crates : Crates) (env : Env) (w : World)
    (h : w.auth.assertionApproved env 0 "reset") : ∃ w₁ w₂, PinReset env w w₁ ∧
      deleteAll env 0 w.auth.credentials w₁ = (.ok (), w₂) ∧
      reset crates env w = (.ok (emptyResponse crates), { w₂ with
        auth := { w₂.auth with
          credentials := [], pendingAssertion := none, management := none } }) := by
  obtain ⟨w₁, hpin, hreset⟩ := resetPin_reset env w
  obtain ⟨w₂, hrows, -⟩ := deleteAll_removes env (fun _ ↦ True) (fun _ _ ↦ trivial) 0 w₁
  refine ⟨w₁, w₂, hreset, hrows, ?_⟩
  have happroved : (throwIf (¬ w.auth.assertionApproved env 0 "reset") .operationDenied :
      CommandM Unit) w = (.ok (), w) := by
    rw [throwIf, if_neg (not_not.mpr h)]
    rfl
  change (throwIf (¬ w.auth.assertionApproved env 0 "reset") .operationDenied >>= fun _ ↦
    resetPin env >>= fun _ ↦ deleteAll env 0 w.auth.credentials >>= fun _ ↦
    modifyAuth (fun a ↦ { a with
      credentials := [], pendingAssertion := none, management := none }) >>= fun _ ↦
    pure (emptyResponse crates)) w = _
  simp only [bind_def, happroved, hpin, hrows, modifyAuth, modify_apply, pure_apply]

theorem reset_of_refused (crates : Crates) (env : Env) (w : World)
    (h : ¬ w.auth.assertionApproved env 0 "reset") :
    reset crates env w = (.error .operationDenied, w) := by
  change (throwIf (¬ w.auth.assertionApproved env 0 "reset") ErrorStatus.operationDenied >>=
    fun _ ↦ _) w = _
  rw [bind_def, throwIf, if_pos h]
  rfl

theorem reset_resetting (crates : Crates) (env : Env) (w : World) :
    Resetting crates env w (reset crates env w) := by
  by_cases h : w.auth.assertionApproved env 0 "reset"
  · obtain ⟨w₁, w₂, hpin, hrows, hreset⟩ := reset_of_approved crates env w h
    rw [hreset]
    exact .done h hpin (.of_deleteAll hrows)
  · rw [reset_of_refused crates env w h]
    exact .refused h

/-- reset. -/
theorem reset_effect (hp : parsePayload payload = some (.reset, body)) :
    Effect crates w (.cbor env payload)
      (gatedCommand crates env .reset body (w.enter .reset)).2 := by
  have hrel : released crates w (.cbor env payload) = none := by simp only [released, hp]
  have hrew : rewritten crates w (.cbor env payload) = none := by simp only [rewritten, hp]
  change Effect crates w _ (reset crates env (w.enter .reset)).2
  have h := reset_resetting crates env (w.enter .reset)
  generalize reset crates env (w.enter .reset) = r at h ⊢
  cases h with
  | refused _ =>
    exact .kept (quiet_enter w .reset).sameCredentials
      (fun hget ↦ absurd hget (not_hasCommand env hp (by decide))) hrel hrew
  | done _ hpin hrows =>
    have hsame := hpin.sameCredentials.of_enter
    refine .wiped (by simp [Event.hasCommand, hp]) ⟨?_, ?_⟩ ?_ ?_ rfl rfl hrel hrew
    · exact (congrArg Authenticator.session hrows.auth).trans hsame.session
    · exact (congrArg Authenticator.tpmPath hrows.auth).trans hsame.tpmPath
    · intro row hrow
      rw [← hsame.stored]
      exact hrows.stored row hrow
    · intro row hrow hid
      rw [← hsame.stored] at hrow
      refine hrows.others row hrow ?_
      rintro ⟨c, hc, hcid⟩
      exact hid c hc hcid

/-! ## TPM commands -/

/-- What a command of the management thread can end in. -/
inductive TpmResult (crates : Crates) (env : Env) (w : World) :
    TpmCommand → Outcome ErrorStatus Unit × World → Prop where
  | failed {command : TpmCommand} {w' : World} (o : Outcome ErrorStatus Unit)
    (ho : o.toOption = none) (h : Incidental w w') : TpmResult crates env w command (o, w')
  | checked {indices : List UInt32} {w' : World} (h : Incidental w w') :
    TpmResult crates env w (.pcrDigestCheck indices) (.ok (), w')
  | policyUpdated {w' : World} {id : List UInt8} {authority : TpmCredential}
    {authorityName policyRef : List UInt8} {policy : PcrPolicyBinding} {tpm : Tpm}
    (htpm : (requireTpm crates env w).1.toOption = some tpm)
    (hpolicy : updateAuthorizedPolicy crates env.tpm tpm authority authorityName policyRef =
      some policy)
    (row : ∃ row ∈ w.store.credentials.rows, row.credentialId = id ∧ row.primary.isSome = true)
    (h : SameContext w w')
    (stored : w'.store.credentials = w.store.credentials.update id
      (Store.withPolicy ⟨policy, StoredPcrPolicy.currentVersion⟩) fun _ ↦ rfl)
    (cached : w'.auth.credentials = w.auth.credentials)
    (pending : w'.auth.pendingAssertion = w.auth.pendingAssertion) :
    TpmResult crates env w (.pcrPolicyUpdate id authority authorityName policyRef) (.ok (), w')
  | recoveryUpdated {w' : World} {id newHash newSalt newPrivate : List UInt8}
    {recoveryKey : TpmCredential} {kdf : RecoveryKdf} {row : CredentialRow} {slot : KeyslotRow}
    {oldKey : TpmCredential} {kdfParams : String}
    (hprivate : env.tpm.objectChangeAuth recoveryKey newHash = some newPrivate)
    (hmem : row ∈ w.store.credentials.rows) (hid : row.credentialId = id)
    (hslot : row.recovery = some slot)
    (hkey : tpmKeyFromBlob crates slot.tpmKey slot.publicKey = some oldKey)
    (hkdf : kdfParamsToString crates kdf newSalt newHash = some kdfParams)
    (h : SameContext w w')
    (stored : w'.store.credentials = w.store.credentials.update id
      (Store.withRecovery (tpmKeyToBlob crates
        { oldKey with privateArea := newPrivate, authValue := some newHash }) kdfParams)
      fun _ ↦ rfl)
    (cached : w'.auth.credentials = w.auth.credentials)
    (pending : w'.auth.pendingAssertion = w.auth.pendingAssertion) :
    TpmResult crates env w (.passphraseChange id recoveryKey newHash newSalt kdf) (.ok (), w')

theorem handleTpmCommand_result (crates : Crates) (env : Env) (command : TpmCommand) (w : World) :
    TpmResult crates env w command (handleTpmCommand crates env command w) := by
  have hF := Incidental.frame
  have fails : ∀ (o : Outcome ErrorStatus Unit) w₁, o.toOption = none → Incidental w w₁ →
      TpmResult crates env w command (o, w₁) := fun o w₁ ho h ↦ .failed o ho h
  cases command with
  | pcrPolicyUpdate id authority authorityName policyRef =>
    refine Moves.bind_elim requireTpm_moves fails fun tpm w₁ e₁ h₁ ↦ ?_
    refine Moves.bind_elim (hF.ofOption _ _) (fun o w₂ ho h ↦ fails o w₂ ho (hF.trans h₁ h))
      fun policy w₂ e₂ _ ↦ ?_
    obtain ⟨hpolicy, rfl⟩ := ofOption_ok e₂
    rcases Store.updateRow_cases (env.store 3) id (fun row ↦ row.primary.isSome)
      (Store.withPolicy ⟨policy, StoredPcrPolicy.currentVersion⟩) (fun _ ↦ rfl) w₂.store with
      ⟨e, he⟩ | ⟨row, hrow, hid, hprimary, he⟩
    · rw [Store.updateCtap2Policy, storeOrDeny_of_error he]
      exact .failed _ rfl h₁
    · rw [Store.updateCtap2Policy, storeOrDeny_of_ok he]
      rw [h₁.tables.credentials] at hrow
      refine .policyUpdated (by rw [e₁]; rfl) hpolicy ⟨row, hrow, hid, hprimary⟩
        ⟨h₁.session, h₁.tpmPath⟩ ?_ h₁.credentials h₁.pendingAssertion
      exact congrArg (fun t ↦ Table.update t id
        (Store.withPolicy ⟨policy, StoredPcrPolicy.currentVersion⟩) fun _ ↦ rfl)
        h₁.tables.credentials
  | passphraseChange id recoveryKey newHash newSalt kdf =>
    refine Moves.bind_elim requireTpm_moves fails fun tpm w₁ e₁ h₁ ↦ ?_
    refine Moves.bind_elim (hF.ofOption _ _) (fun o w₂ ho h ↦ fails o w₂ ho (hF.trans h₁ h))
      fun updated w₂ e₂ _ ↦ ?_
    obtain ⟨hupdated, rfl⟩ := ofOption_ok e₂
    obtain ⟨newPrivate, hprivate, rfl⟩ := Option.map_eq_some_iff.mp hupdated
    have hcases := Store.updateRecoverySlot_cases crates (env.store 3) id
      newPrivate newSalt newHash kdf w₂.store
    cases hr : Store.updateRecoverySlot crates (env.store 3) id newPrivate newSalt newHash kdf
      w₂.store with
    | mk o t =>
      rw [hr] at hcases
      cases hcases with
      | failed o ho =>
        obtain ⟨o', ho', he⟩ := storeOrDeny_of_none hr ho
        rw [he]
        exact .failed o' ho' h₁
      | done hrow hid hslot hkey hkdf =>
        rw [storeOrDeny_of_ok hr]
        rw [h₁.tables.credentials] at hrow
        refine .recoveryUpdated hprivate hrow hid hslot hkey hkdf ⟨h₁.session, h₁.tpmPath⟩ ?_
          h₁.credentials h₁.pendingAssertion
        rw [← h₁.tables.credentials]
  | pcrDigestCheck indices =>
    refine Moves.bind_elim (hF.ofOption _ _) fails fun selection w₁ e₁ _ ↦ ?_
    obtain ⟨-, rfl⟩ := ofOption_ok e₁
    refine Moves.bind_elim requireTpm_moves fails fun tpm w₂ _ h₂ ↦ ?_
    refine Moves.bind_elim (hF.ofOption _ _) (fun o w₂ ho h ↦ fails o w₂ ho (hF.trans h₂ h))
      fun _ w₃ e₃ _ ↦ ?_
    obtain ⟨-, rfl⟩ := ofOption_ok e₃
    exact .checked h₂

/-- A command of the management thread. -/
theorem handleTpmCommand_effect (command : TpmCommand) :
    Effect crates w (.tpm env command) (handleTpmCommand crates env command w).2 := by
  have h := handleTpmCommand_result crates env command w
  generalize handleTpmCommand crates env command w = r at h ⊢
  cases h with
  | failed _ _ h => exact .kept h.sameCredentials nofun rfl rfl
  | checked h => exact .kept h.sameCredentials nofun rfl rfl
  | policyUpdated _ _ _ h stored cached pending =>
    exact .updated rfl rfl (sameButSlots_withPolicy _) h stored cached pending rfl rfl
  | recoveryUpdated _ _ _ _ _ _ h stored cached pending =>
    exact .updated rfl rfl (sameButSlots_withRecovery _ _) h stored cached pending rfl rfl

/-! ## Start -/

/-- What a start leaves: the store as it was, and in memory what belongs to the user. -/
structure Started (crates : Crates) (env : Env) (s : Store) (w : World) : Prop where
  session : w.auth.session = env.detect 0
  stored : w.store.credentials = s.credentials
  cached : FromDisk crates (env.detect 0).uid s w.auth.credentials
  pending : w.auth.pendingAssertion = none

theorem newAuthenticator_started (crates : Crates) (env : Env) (tpmPath : Option String)
    (s : Store) : Started crates env s (newAuthenticator crates env tpmPath s) := by
  let w₀ : World := ⟨s, .initial tpmPath (env.detect 0)⟩
  have fails : ∀ (o : Outcome ErrorStatus Unit) w₁, o.toOption = none → Incidental w₀ w₁ →
      Started crates env s (o, w₁).2 :=
    fun o w₁ _ h ↦ ⟨h.session, h.tables.credentials, .inl h.credentials, h.pendingAssertion⟩
  change Started crates env s (loadAll crates env w₀).2
  refine Moves.bind_elim (motive := fun r ↦ Started crates env s r.2) (Incidental.frame.gets _)
    fails fun a w₁ e₁ _ ↦ ?_
  cases e₁
  refine Moves.bind_elim (motive := fun r ↦ Started crates env s r.2)
    (loadCredentialsFromDisk_moves _ _) fails fun cs w₁ e₁ h₁ ↦ ?_
  have hcs := loadCredentialsFromDisk_ok e₁
  -- what is left only sets the PIN
  have hrest : Moves SameCredentials (do
      let pin ← loadClientPin crates env
      setClientPin pin) := by
    have hF := SameCredentials.frame
    refine hF.bind (hF.bind (store_moves ?_ fun w t h ↦ Incidental.sameCredentials (.of_tables h))
      fun r ↦ ?_) fun _ ↦ (setClientPin_moves _).mono fun _ _ h ↦ h.sameCredentials
    · intro s
      have h := Store.loadClientPinState_cases crates (env.store 1) s
      generalize Store.loadClientPinState crates (env.store 1) s = r at h ⊢
      cases h with
      | failed _ _ h => exact h
      | done h => exact h
    · cases r <;> exact hF.pure _
  have h := hrest { w₁ with auth := { w₁.auth with credentials := cs } }
  refine ⟨h.session.trans h₁.session, h.stored.trans h₁.tables.credentials, ?_, ?_⟩
  · rw [bind_def]
    dsimp only [modifyAuth, modify_apply]
    rw [h.cached]
    exact hcs
  · rcases h.pending with hp | hp
    · exact hp
    · exact hp.trans h₁.pendingAssertion

/-- `Authenticator::new`. -/
theorem newAuthenticator_effect (tpmPath : Option String) :
    Effect crates w (.start env tpmPath) (newAuthenticator crates env tpmPath w.store) :=
  have h := newAuthenticator_started crates env tpmPath w.store
  .started rfl h.session h.stored h.cached h.pending rfl rfl

/-! ## Steps -/

theorem respond_snd (r : Outcome ErrorStatus (List UInt8) × World) : (respond r).2 = r.2 := by
  obtain ⟨o, w⟩ := r
  cases o <;> rfl

/-- A command succeeds only by returning a response. -/
theorem isSome_of_succeeded {r : Outcome ErrorStatus (List UInt8) × World}
    (h : (Reply.ofCbor (respond r).1).succeeded) : r.1.toOption.isSome := by
  obtain ⟨o, w⟩ := r
  cases o with
  | ok response => rfl
  | error status => exact absurd (of_decide_eq_true h) status.byte_ne_zero
  | panicked => cases h

theorem step_cbor {command : Ctap2Command} (hp : parsePayload payload = some (command, body))
    (w : World) : step crates w (.cbor env payload) =
      (Reply.ofCbor (respond (gatedCommand crates env command body (w.enter command))).1,
        (gatedCommand crates env command body (w.enter command)).2) := by
  simp only [step, handleCbor, hp, respond_snd]
  rfl

theorem gatedCommand_getAssertion : gatedCommand crates env .getAssertion body =
    firstAssertion crates env body >>= fun x ↦ pure (x.1.response crates x.2) := by
  rw [firstAssertion, bind_assoc]
  rfl

theorem gatedCommand_getNextAssertion : gatedCommand crates env .getNextAssertion body =
    nextAssertion crates env body >>= fun x ↦ pure (x.response crates 0) := by
  rw [nextAssertion, bind_assoc]
  rfl

/-- A recognised command. -/
theorem gatedCommand_effect {command : Ctap2Command}
    (hp : parsePayload payload = some (command, body)) :
    Effect crates w (.cbor env payload)
      (gatedCommand crates env command body (w.enter command)).2 := by
  have hF := SameCredentials.frame
  -- the commands that do nothing to the credentials
  have quiet : command ≠ .getAssertion →
      Moves SameCredentials (runCommand crates env command body) →
      released crates w (.cbor env payload) = none →
      rewritten crates w (.cbor env payload) = none → Effect crates w (.cbor env payload)
        (gatedCommand crates env command body (w.enter command)).2 := by
    intro hne hmoves hrel hrew
    have h : Moves SameCredentials (gatedCommand crates env command body) :=
      hF.bind ((requirePassphrase_moves _).mono fun _ _ h ↦ h.sameCredentials) fun _ ↦ hmoves
    exact .kept (h (w.enter command)).of_enter
      (fun hget ↦ absurd hget (not_hasCommand env hp hne)) hrel hrew
  cases command with
  | getInfo =>
    exact quiet (by decide) (hF.bind (hF.gets _) fun a ↦ hF.pure _) (by simp only [released, hp])
      (by simp only [rewritten, hp])
  | clientPin =>
    exact quiet (by decide) ((clientPin_moves body).mono fun _ _ h ↦ h.sameCredentials)
      (by simp only [released, hp]) (by simp only [rewritten, hp])
  | selection =>
    exact quiet (by decide) (selection_moves.mono fun _ _ h ↦ h.sameCredentials)
      (by simp only [released, hp])
      (by simp only [rewritten, hp])
  | bioEnrollment =>
    exact quiet (by decide) hF.panic (by simp only [released, hp]) (by simp only [rewritten, hp])
  | bioEnrollmentPreview =>
    exact quiet (by decide) hF.panic (by simp only [released, hp]) (by simp only [rewritten, hp])
  | largeBlobs =>
    exact quiet (by decide) hF.panic (by simp only [released, hp]) (by simp only [rewritten, hp])
  | config =>
    exact quiet (by decide) hF.panic (by simp only [released, hp]) (by simp only [rewritten, hp])
  | makeCredential => exact makeCredential_effect hp
  | getAssertion =>
    rw [gatedCommand_getAssertion, bind_snd fun _ _ ↦ rfl]
    exact firstAssertion_effect hp
  | getNextAssertion =>
    rw [gatedCommand_getNextAssertion, bind_snd fun _ _ ↦ rfl]
    exact nextAssertion_effect hp
  | credentialManagement => exact management_effect (.inl rfl) hp
  | credentialManagementPreview => exact management_effect (.inr rfl) hp
  | reset => exact reset_effect hp

/-- **The list of effects is complete.** -/
theorem step_effect (crates : Crates) (w : World) (event : Event) :
    Effect crates w event (step crates w event).2 := by
  cases event with
  | cbor env payload =>
    change Effect crates w _ (handleCbor crates env payload w).2
    rw [handleCbor]
    cases hp : parsePayload payload with
    | none =>
      exact .kept (SameCredentials.frame.refl w) (by simp [Event.hasCommand, hp])
        (by simp only [released, hp])
        (by simp only [rewritten, hp])
    | some x =>
      dsimp only
      rw [respond_snd]
      exact gatedCommand_effect hp
  | cancel => exact .kept ⟨⟨rfl, rfl⟩, rfl, rfl, .inl rfl⟩ nofun rfl rfl
  | tpm env command => exact handleTpmCommand_effect command
  | setPassphrase fault salt hash kdf =>
    have h := Store.saveDaemonPassphrase_moves crates fault salt hash kdf w.store
    exact .kept ⟨⟨rfl, rfl⟩, h.credentials, rfl, .inr rfl⟩ nofun rfl rfl
  | setPcrPolicy fault indices =>
    have h := Store.saveDefaultPcrPolicy_moves crates fault indices w.store
    exact .kept ⟨⟨rfl, rfl⟩, h.credentials, rfl, .inr rfl⟩ nofun rfl rfl
  | start env tpmPath => exact newAuthenticator_effect tpmPath
  | damage hmacKey pinMac => exact .kept ⟨⟨rfl, rfl⟩, rfl, rfl, .inr rfl⟩ nofun rfl rfl

/-! ## What is let out is what is answered -/

/-- getAssertion succeeds with the assertion it lets out. -/
theorem released_of_getAssertion {event : Event} (h : event.hasCommand .getAssertion)
    (hok : (step crates w event).1.succeeded) :
    ∃ x total, released crates w event = some x ∧
      (step crates w event).1 = .cbor (x.response crates total) := by
  obtain ⟨env, payload, body, rfl, hp⟩ := exists_payload_of_hasCommand h
  rw [step_cbor hp] at hok ⊢
  replace hok := isSome_of_succeeded hok
  rw [gatedCommand_getAssertion, bind_def] at hok ⊢
  simp only [released, hp]
  cases e : firstAssertion crates env body (w.enter .getAssertion) with
  | mk o w₁ =>
    rw [e] at hok
    cases o with
    | ok x => exact ⟨x.1, x.2, rfl, rfl⟩
    | error _ => cases hok
    | panicked => cases hok

/-- So does getNextAssertion. -/
theorem released_of_getNextAssertion {event : Event} (h : event.hasCommand .getNextAssertion)
    (hok : (step crates w event).1.succeeded) :
    ∃ x, released crates w event = some x ∧
      (step crates w event).1 = .cbor (x.response crates 0) := by
  obtain ⟨env, payload, body, rfl, hp⟩ := exists_payload_of_hasCommand h
  rw [step_cbor hp] at hok ⊢
  replace hok := isSome_of_succeeded hok
  rw [gatedCommand_getNextAssertion, bind_def] at hok ⊢
  simp only [released, hp]
  cases e : nextAssertion crates env body (w.enter .getNextAssertion) with
  | mk o w₁ =>
    rw [e] at hok
    cases o with
    | ok x => exact ⟨x, rfl, rfl⟩
    | error _ => cases hok
    | panicked => cases hok

end Ctap2
end TpmFido2
