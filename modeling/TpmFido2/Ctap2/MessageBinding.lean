import TpmFido2.Ctap2.Canonical
import TpmFido2.Ctap2.Enumeration

/-!
# What the code of a management request binds

A management request carries a code over its sub-command and its parameters.  The code is computed
over `management_auth_message`, which brings the parameters into canonical order first, and writes
only one byte of the sub-command.  The handlers look at neither: they take the parameters as they
came, and from a map the first entry with the key they look for, in the map itself and in the maps
inside it.  So it is to be shown that the two views agree.

* `mapBytes_canonicalEntries`, `mapText_canonicalEntries`, `mapMap_canonicalEntries` — a lookup in
  a map finds what it finds in the canonical map, made canonical (`mapValue_canonicalEntries`).
* `SameParameters` — two requests whose parameters have one canonical form read the same
  (`SameParameters.parametersRead`) and do the same (`SameParameters.managementSubCommand`).
* **`message_binds`** — requests with the same message that get to their sub-commands are answered
  alike and leave the same world.
-/

set_option autoImplicit false

namespace TpmFido2
namespace Ctap2

open Bytes Cbor Handler CommandM

/-! ## Requests and what they read -/

section
variable (crates : Crates)

/-- The request gets to its sub-command, with the number and the parameters given. -/
structure Dispatched (env : Env) (w : World) (body : List UInt8) (n : Int)
    (params : Option Entries) : Prop where
  authorised : ∃ w', authoriseManagement crates env body w = (.ok (n, params), w')
  known : (ManagementSubCommand.ofInteger n).isSome

/-- The encoding of parameters: the two given are told apart, and something is written. -/
structure WritesApart (params params' : Option Entries) : Prop where
  injective : ∀ p ∈ params, ∀ p' ∈ params',
    crates.intoWriter (canonicalizeValue crates (.map p)) =
      crates.intoWriter (canonicalizeValue crates (.map p')) →
    canonicalizeValue crates (.map p) = canonicalizeValue crates (.map p')
  nonempty : ∀ v, crates.intoWriter v ≠ []

end

/-- What the sub-commands read of their parameters. -/
structure ParametersRead where
  rpIdHash : Option (List UInt8)
  credentialId : Option (List UInt8)
  hasUser : Bool
  userId : Option (List UInt8)
  name : Option String
  displayName : Option String
deriving DecidableEq, Repr

/-- What is read of given parameters. -/
def parametersRead (params : Option Entries) : ParametersRead where
  rpIdHash := params.bind fun params ↦ mapBytes params (.int 1)
  credentialId := (params.bind fun params ↦ mapMap params (.int 2)).bind
    fun descriptor ↦ mapBytes descriptor (.text "id")
  hasUser := (params.bind fun params ↦ mapMap params (.int 3)).isSome
  userId := (params.bind fun params ↦ mapMap params (.int 3)).bind
    fun user ↦ mapBytes user (.text "id")
  name := (params.bind fun params ↦ mapMap params (.int 3)).bind
    fun user ↦ mapText user (.text "name")
  displayName := (params.bind fun params ↦ mapMap params (.int 3)).bind
    fun user ↦ mapText user (.text "displayName")

variable {crates : Crates} {env : Env} {w : World} {body body' : List UInt8}

/-! ## Lookups and canonical order -/

theorem mapBytes_canonicalEntries (entries : Entries) (key : MapKey) :
    mapBytes (canonicalEntries crates entries) key = mapBytes entries key := by
  rw [mapBytes, mapValue_canonicalEntries, mapBytes, Option.bind_map]
  refine congrArg _ (funext fun v ↦ ?_)
  cases v <;> rfl

theorem mapText_canonicalEntries (entries : Entries) (key : MapKey) :
    mapText (canonicalEntries crates entries) key = mapText entries key := by
  rw [mapText, mapValue_canonicalEntries, mapText, Option.bind_map]
  refine congrArg _ (funext fun v ↦ ?_)
  cases v <;> rfl

theorem mapMap_canonicalEntries (entries : Entries) (key : MapKey) :
    mapMap (canonicalEntries crates entries) key =
      (mapMap entries key).map (canonicalEntries crates) := by
  rw [mapMap, mapValue_canonicalEntries, mapMap, Option.bind_map, Option.map_bind]
  refine congrArg _ (funext fun v ↦ ?_)
  cases v <;> rfl

/-! ## Parameters with one canonical form -/

/-- The parameters have the same canonical form. -/
def SameParameters (crates : Crates) (params params' : Option Entries) : Prop :=
  params.map (canonicalEntries crates) = params'.map (canonicalEntries crates)

section
variable {params params' : Option Entries}

theorem bind_mapBytes_canonical (params : Option Entries) (key : MapKey) :
    ((params.map (canonicalEntries crates)).bind fun p ↦ mapBytes p key) =
      params.bind fun p ↦ mapBytes p key := by
  simp only [Option.bind_map, Function.comp_def, mapBytes_canonicalEntries]

theorem bind_mapText_canonical (params : Option Entries) (key : MapKey) :
    ((params.map (canonicalEntries crates)).bind fun p ↦ mapText p key) =
      params.bind fun p ↦ mapText p key := by
  simp only [Option.bind_map, Function.comp_def, mapText_canonicalEntries]

theorem bind_mapMap_canonical (params : Option Entries) (key : MapKey) :
    ((params.map (canonicalEntries crates)).bind fun p ↦ mapMap p key) =
      (params.bind fun p ↦ mapMap p key).map (canonicalEntries crates) := by
  simp only [Option.bind_map, Function.comp_def, mapMap_canonicalEntries, Option.map_bind]

theorem SameParameters.mapBytes (h : SameParameters crates params params') (key : MapKey) :
    (params.bind fun p ↦ mapBytes p key) = params'.bind fun p ↦ mapBytes p key := by
  have hread := congrArg (fun q : Option Entries ↦ q.bind fun p ↦ Ctap2.mapBytes p key) h
  simpa only [bind_mapBytes_canonical] using hread

theorem SameParameters.mapText (h : SameParameters crates params params') (key : MapKey) :
    (params.bind fun p ↦ mapText p key) = params'.bind fun p ↦ mapText p key := by
  have hread := congrArg (fun q : Option Entries ↦ q.bind fun p ↦ Ctap2.mapText p key) h
  simpa only [bind_mapText_canonical] using hread

/-- The maps inside have one canonical form again. -/
theorem SameParameters.mapMap (h : SameParameters crates params params') (key : MapKey) :
    SameParameters crates (params.bind fun p ↦ mapMap p key)
      (params'.bind fun p ↦ mapMap p key) := by
  rw [SameParameters, ← bind_mapMap_canonical, h, bind_mapMap_canonical]

theorem SameParameters.isSome (h : SameParameters crates params params') :
    params.isSome = params'.isSome := by
  have hsome := congrArg Option.isSome h
  rwa [Option.isSome_map, Option.isSome_map] at hsome

/-- **What is read is the same.** -/
theorem SameParameters.parametersRead (h : SameParameters crates params params') :
    parametersRead params = parametersRead params' := by
  rw [Ctap2.parametersRead, Ctap2.parametersRead, h.mapBytes, (h.mapMap (.int 2)).mapBytes,
    (h.mapMap (.int 3)).isSome, (h.mapMap (.int 3)).mapBytes, (h.mapMap (.int 3)).mapText,
    (h.mapMap (.int 3)).mapText]

theorem enumerateCredentialsBegin_congr
    (h : (Ctap2.parametersRead params).rpIdHash = (Ctap2.parametersRead params').rpIdHash) :
    enumerateCredentialsBegin crates env params = enumerateCredentialsBegin crates env params' := by
  simp only [Ctap2.parametersRead] at h
  unfold enumerateCredentialsBegin
  rw [ofOption_bind_ofOption, ofOption_bind_ofOption, h]

theorem descriptorId_congr
    (h : (Ctap2.parametersRead params).credentialId = (Ctap2.parametersRead params').credentialId) :
    descriptorId params = descriptorId params' := by
  change (params.bind fun p ↦ Ctap2.mapMap p (.int 2)).bind _ =
    (params'.bind fun p ↦ Ctap2.mapMap p (.int 2)).bind _ at h
  rw [descriptorId, descriptorId, h]

/-- The credential and the change of it that a request is about. -/
theorem locateUser_congr (h : Ctap2.parametersRead params = Ctap2.parametersRead params')
    (a : Authenticator) :
    (locateUser a params).map (fun x ↦ (x.1, withUser x.2)) =
      (locateUser a params').map fun x ↦ (x.1, withUser x.2) := by
  have hid := descriptorId_congr (congrArg ParametersRead.credentialId h)
  have huser := congrArg ParametersRead.hasUser h
  have huserId := congrArg ParametersRead.userId h
  have hname := congrArg ParametersRead.name h
  have hdisplayName := congrArg ParametersRead.displayName h
  simp only [Ctap2.parametersRead] at huser huserId hname hdisplayName
  rw [locateUser, locateUser, hid]
  cases hp : params.bind fun p ↦ Ctap2.mapMap p (.int 3) with
  | none =>
    cases hp' : params'.bind fun p ↦ Ctap2.mapMap p (.int 3) with
    | none => rfl
    | some user' =>
      rw [hp, hp'] at huser
      cases huser
  | some user =>
    cases hp' : params'.bind fun p ↦ Ctap2.mapMap p (.int 3) with
    | none =>
      rw [hp, hp'] at huser
      cases huser
    | some user' =>
      rw [hp, hp', Option.bind_some, Option.bind_some] at huserId hname hdisplayName
      have hwith : withUser user = withUser user' := by
        funext c
        rw [withUser, withUser, huserId, hname, hdisplayName]
      cases descriptorId params' with
      | error e => rfl
      | ok id =>
        simp only [bind, Except.bind]
        cases discoverablePosition a.credentials id with
        | none => rfl
        | some index => exact congrArg (fun f ↦ Except.ok (index, f)) hwith

theorem updateUserInformation_congr
    (h : Ctap2.parametersRead params = Ctap2.parametersRead params') :
    updateUserInformation crates env params = updateUserInformation crates env params' := by
  -- after the lookup, only the position and the change are used
  let rename (x : Nat × (Credential → Credential)) : CommandM (List UInt8) := do
    modifyAuth fun a ↦ { a with credentials := a.credentials.modify x.1 x.2 }
    saveCredentials crates env
    setManagement none
    pure (emptyResponse crates)
  have hrename (params : Option Entries) : updateUserInformation crates env params =
      auth >>= fun a ↦
        ofExcept ((locateUser a params).map fun x ↦ (x.1, withUser x.2)) >>= rename :=
    congrArg (auth >>= ·) (funext fun a ↦
      ofExcept_bind_map (locateUser a params) (fun x ↦ (x.1, withUser x.2)) rename)
  rw [hrename, hrename]
  exact congrArg (auth >>= ·) (funext fun a ↦ by rw [locateUser_congr h])

/-- **The sub-commands depend on what they read only.** -/
theorem managementSubCommand_congr (subCommand : ManagementSubCommand)
    (h : Ctap2.parametersRead params = Ctap2.parametersRead params') :
    managementSubCommand crates env subCommand params =
      managementSubCommand crates env subCommand params' := by
  cases subCommand with
  | enumerateCredentialsBegin =>
    exact enumerateCredentialsBegin_congr (congrArg ParametersRead.rpIdHash h)
  | deleteCredential =>
    rw [managementSubCommand, managementSubCommand, deleteCredential, deleteCredential,
      descriptorId_congr (congrArg ParametersRead.credentialId h)]
  | updateUserInformation => exact updateUserInformation_congr h
  | getCredsMetadata => rfl
  | enumerateRpsBegin => rfl
  | enumerateRpsNext => rfl
  | enumerateCredentialsNext => rfl

end

/-! ## Messages -/

/-- The number of a sub-command is in its byte. -/
theorem ofInteger_congr {n n' : Int} {subCommand subCommand' : ManagementSubCommand}
    (h : ManagementSubCommand.ofInteger n = some subCommand)
    (h' : ManagementSubCommand.ofInteger n' = some subCommand')
    (hbyte : UInt8.ofInt n = UInt8.ofInt n') : subCommand = subCommand' := by
  rw [ManagementSubCommand.number_of_ofInteger h, ManagementSubCommand.number_of_ofInteger h']
    at hbyte
  cases subCommand <;> cases subCommand' <;> first | rfl | cases hbyte

/-- **The message has the sub-command and the canonical form of the parameters.** -/
theorem sameParameters_of_message {n n' : Int} {params params' : Option Entries}
    (hwrites : WritesApart crates params params')
    (h : managementAuthMessage crates n params = managementAuthMessage crates n' params') :
    UInt8.ofInt n = UInt8.ofInt n' ∧ SameParameters crates params params' := by
  unfold managementAuthMessage at h
  rw [List.cons.injEq] at h
  refine ⟨h.1, ?_⟩
  cases params with
  | none =>
    cases params' with
    | none => rfl
    | some p' => exact absurd h.2.symm (hwrites.nonempty _)
  | some p =>
    cases params' with
    | none => exact absurd h.2 (hwrites.nonempty _)
    | some p' =>
      have hvalue := hwrites.injective p rfl p' rfl h.2
      rw [canonicalizeValue, canonicalizeValue, Value.map.injEq] at hvalue
      exact congrArg some hvalue

theorem Dispatched.credentialManagement {n : Int} {params : Option Entries}
    {subCommand : ManagementSubCommand} (h : Dispatched crates env w body n params)
    (hsub : ManagementSubCommand.ofInteger n = some subCommand) :
    credentialManagement crates env body w =
      managementSubCommand crates env subCommand params (expireManagement env w).2 := by
  obtain ⟨w', hw'⟩ := h.authorised
  rw [Ctap2.credentialManagement, bind_of_ok _ hw', (authoriseManagement_ok hw').world]
  dsimp only
  rw [hsub]
  rfl

/-- A management command is its passphrase check and the function of both codes. -/
theorem step_congr {command : Ctap2Command} {payload payload' : List UInt8}
    (hc : command.isManagement) (hp : parsePayload payload = some (command, body))
    (hp' : parsePayload payload' = some (command, body'))
    (h : credentialManagement crates env body (w.enter command) =
      credentialManagement crates env body' (w.enter command)) :
    step crates w (.cbor env payload) = step crates w (.cbor env payload') := by
  have hrun (body : List UInt8) : gatedCommand crates env command body =
      requirePassphrase crates env command >>= fun _ ↦ credentialManagement crates env body := by
    rcases hc with rfl | rfl <;> rfl
  have hsame : gatedCommand crates env command body (w.enter command) =
      gatedCommand crates env command body' (w.enter command) := by
    have hworld : w.enter command = (requirePassphrase crates env command (w.enter command)).2 :=
      requirePassphrase_eq command (w.enter command)
    rw [hrun, hrun, bind_def, bind_def]
    generalize requirePassphrase crates env command (w.enter command) = r at hworld
    obtain ⟨o, w₁⟩ := r
    obtain rfl : w.enter command = w₁ := hworld
    cases o with
    | ok _ => exact h
    | error _ => rfl
    | panicked => rfl
  rw [step_cbor hp, step_cbor hp', hsame]

/-- **The message binds what is done.**  Of two requests with the same message that get to their
sub-commands in the same world, everything read is the same, and so are the answer and the world
they leave: as calls of the function, and as requests with the same command code. -/
theorem message_binds {n n' : Int} {params params' : Option Entries}
    (hwrites : WritesApart crates params params') (h : Dispatched crates env w body n params)
    (h' : Dispatched crates env w body' n' params')
    (hmessage : managementAuthMessage crates n params = managementAuthMessage crates n' params') :
    n = n' ∧ parametersRead params = parametersRead params' ∧
      credentialManagement crates env body w = credentialManagement crates env body' w ∧
      ∀ (w₀ : World) (command : Ctap2Command) (payload payload' : List UInt8),
        command.isManagement → w₀.enter command = w →
        parsePayload payload = some (command, body) →
        parsePayload payload' = some (command, body') →
        step crates w₀ (.cbor env payload) = step crates w₀ (.cbor env payload') := by
  obtain ⟨hbyte, hsame⟩ := sameParameters_of_message hwrites hmessage
  obtain ⟨subCommand, hsub⟩ := Option.isSome_iff_exists.mp h.known
  obtain ⟨subCommand', hsub'⟩ := Option.isSome_iff_exists.mp h'.known
  obtain rfl := ofInteger_congr hsub hsub' hbyte
  have hcalls : credentialManagement crates env body w =
      credentialManagement crates env body' w := by
    rw [h.credentialManagement hsub, h'.credentialManagement hsub',
      managementSubCommand_congr subCommand hsame.parametersRead]
  refine ⟨?_, hsame.parametersRead, hcalls, ?_⟩
  · rw [ManagementSubCommand.number_of_ofInteger hsub,
      ManagementSubCommand.number_of_ofInteger hsub']
  · rintro w₀ command payload payload' hc rfl hp hp'
    exact step_congr hc hp hp' hcalls

namespace Sample

/-- The parameters of a deletion, with two entries for the descriptor. -/
def removal : Entries :=
  [(.integer 2, .map [(.text "id", .bytes (credentialId 1)), (.text "type", .text "public-key")]),
    (.integer 2, .map []), (.integer 1, .bytes [])]

/-- The same in another order. -/
def reorderedRemoval : Entries :=
  [(.integer 1, .bytes []),
    (.integer 2, .map [(.text "type", .text "public-key"), (.text "id", .bytes (credentialId 1))]),
    (.integer 2, .map [])]

/-- A deletion without authentication. -/
def removalRequest (params : Entries) : Cbor.Value :=
  .map [(.integer 1, .integer 6), (.integer 2, .map params)]

/-- The packages of the two requests. -/
def bindingPackages : Crates :=
  packages [getKeyAgreement, Sample.setPin [49, 50, 51, 52], Sample.makeCredential "a",
    removalRequest removal, removalRequest reorderedRemoval]

/-- The world once a user with a PIN has registered a credential. -/
def bindingWorld : World :=
  after bindingPackages (newAuthenticator bindingPackages (session 1000 0) (some "") Store.fresh)
    (setPassphrase :: choosePin 1000 ++ [request (session 1000 1) 0x01 (Sample.makeCredential "a")])

theorem dispatched_removal {params : Entries}
    (hrequest : (decodeMap bindingPackages (Cbor.encode (removalRequest params))).toOption =
      some [(.integer 1, .integer 6), (.integer 2, .map params)]) :
    Dispatched bindingPackages (session 1000 0) bindingWorld
      (Cbor.encode (removalRequest params)) 6 (some params) := by
  have hsession : bindingWorld.auth.session.matchesCurrent (session 1000 0) 0 := by decide +kernel
  have hsession' : bindingWorld.auth.session.matchesCurrent (session 1000 0) 1 := by decide +kernel
  have hpin : bindingWorld.auth.clientPin.isSome := by decide +kernel
  have hchecks := managementChecks_of_decodeMap hsession hrequest rfl hpin
    (accepted_of_absent hsession' rfl rfl)
  exact ⟨⟨_, authoriseManagement_of_checks hchecks⟩, rfl⟩

end Sample

open Sample in
/-- The two deletions have the same message and remove the same credential. -/
theorem message_binds_deletion :
    managementAuthMessage bindingPackages 6 (some removal) =
        managementAuthMessage bindingPackages 6 (some reorderedRemoval) ∧
      bindingWorld.auth.credentials.length = 1 ∧
      (credentialManagement bindingPackages (session 1000 0)
        (Cbor.encode (removalRequest removal)) bindingWorld).2.auth.credentials = [] ∧
      credentialManagement bindingPackages (session 1000 0)
          (Cbor.encode (removalRequest removal)) bindingWorld =
        credentialManagement bindingPackages (session 1000 0)
          (Cbor.encode (removalRequest reorderedRemoval)) bindingWorld := by
  have hwrites : WritesApart bindingPackages (some removal) (some reorderedRemoval) := by
    refine ⟨?_, Cbor.encode_ne_nil⟩
    rintro _ ⟨⟩ _ ⟨⟩ _
    rfl
  have hmessage : managementAuthMessage bindingPackages 6 (some removal) =
      managementAuthMessage bindingPackages 6 (some reorderedRemoval) := by decide +kernel
  exact ⟨hmessage, by decide +kernel, by decide +kernel, (message_binds hwrites
    (dispatched_removal rfl) (dispatched_removal rfl) hmessage).2.2.1⟩

end Ctap2
end TpmFido2
