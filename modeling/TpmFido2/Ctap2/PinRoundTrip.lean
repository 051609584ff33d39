import Mathlib.Data.List.TakeWhile
import TpmFido2.Ctap2.PinState
import TpmFido2.Lib.Lists

/-!
# The PIN that was set is the PIN that authenticates

A platform that sets a PIN pads it with zeros, encrypts it, and authenticates what it sends; later
it sends the first half of a hash of the PIN.  Between the two are padding and its removal, the
checks on the PIN, two layouts of the parameters, a verifier that is made and stored, and restarts.

* `newPin_iff` — what the checks accept is a PIN of 4 to 63 bytes, none of them zero, followed by
  zeros only.  The result is the PIN.
* `step_newPin` — a request for a new PIN does these checks, has the current PIN compared if it
  is to be changed, and stores a verifier.
* `HoldsPin.step` — a step keeps the verifier, in memory and in the row, but for three: changePIN,
  reset, and a start that cannot read the row.  The last one leaves an authenticator without a PIN,
  which takes a new one from anybody.
* **`pin_authenticates`** — so after a run without these, a token is issued exactly for the hashes
  that give the verifier.

`pin_replaced` is a run with such a start: a second setPIN is accepted, and from then on the second
PIN authenticates and the first does not.
-/

set_option autoImplicit false

namespace TpmFido2

/-- AES-CBC decryption undoes encryption, on whole blocks. -/
def Crates.DecryptsAes (crates : Crates) : Prop :=
  ∀ key iv m, m.length % 16 = 0 → crates.aesCbcDecrypt key iv (crates.aesCbcEncrypt key iv m) = m

namespace Ctap2

open Handler
open Store (pinWritable)

/-! ## Requests for a new PIN -/

/-- The plaintext is a PIN that may be set, followed by zeros up to a whole number of blocks. -/
structure Padded (p plaintext : List UInt8) : Prop where
  padding : ∃ n, plaintext = p ++ List.replicate n 0
  length : 4 ≤ p.length ∧ p.length ≤ 63
  nonzero : 0 ∉ p
  blocks : plaintext.length % 16 = 0

section
variable (crates : Crates)

/-- An authentic request for a new PIN: the platform has encrypted the plaintext, and the hash of
the current PIN if it changes one, with the keys agreed on. -/
inductive AsksForPin (a : Authenticator) (request : Entries) (plaintext current : List UInt8) :
    ClientPinSubCommand → Prop where
  | set {iv aesKey hmacKey param : List UInt8} (unset : a.clientPin = none)
    (keys : a.pinUvKeys crates (mapMap request (.int 3)) = .ok (aesKey, hmacKey))
    (hiv : iv.length = 16)
    (newPin : newPinEncOf request = some (encryptAes crates aesKey iv plaintext))
    (hparam : setPinParamOf request = some param)
    (mac : isAuthParam crates hmacKey param (encryptAes crates aesKey iv plaintext)) :
    AsksForPin a request plaintext current .setPin
  | change {iv iv' aesKey hmacKey param : List UInt8} (set : a.clientPin.isSome)
    (keys : a.pinUvKeys crates (mapMap request (.int 3)) = .ok (aesKey, hmacKey))
    (hiv : iv.length = 16) (hiv' : iv'.length = 16) (hcurrent : current.length = 16)
    (newPin : newPinEncOf request = some (encryptAes crates aesKey iv plaintext))
    (pinHash : changePinHashEncOf request = some (encryptAes crates aesKey iv' current))
    (hparam : changePinParamOf request = some param)
    (mac : isAuthParam crates hmacKey param
      (encryptAes crates aesKey iv plaintext ++ encryptAes crates aesKey iv' current)) :
    AsksForPin a request plaintext current .changePin

/-- The PIN that the checks of a request leave. -/
def acceptedPin (a : Authenticator) (subCommand : ClientPinSubCommand) (request : Entries) :
    Option (List UInt8) :=
  match subCommand with
  | .setPin => do
    let newPinEnc ← newPinEncOf request
    let pinUvAuthParam ← setPinParamOf request
    (setPinRequest crates a (mapMap request (.int 3)) newPinEnc pinUvAuthParam).toOption
  | .changePin => do
    let newPinEnc ← newPinEncOf request
    let pinHashEnc ← changePinHashEncOf request
    let pinUvAuthParam ← changePinParamOf request
    (changePinRequest crates a (mapMap request (.int 3)) newPinEnc pinHashEnc
      pinUvAuthParam).toOption.map Prod.fst
  | _ => none

/-- The state that a request stores for a new PIN. -/
def stateFor (env : Env) (p : List UInt8) : StoredClientPinState :=
  newPinState crates (fillRandom 32 (env.random 0)) p

/-- The rest of a request works: the current PIN authenticates, if it is to be changed, and the new
state is written. -/
def RestWorks (env : Env) (w : World) (subCommand : ClientPinSubCommand)
    (current p : List UInt8) : Prop :=
  match subCommand with
  | .setPin => pinWritable (env.store 1) w.store (stateFor crates env p)
  | .changePin => ∃ w₁, authenticatePin crates env current (w.enter .clientPin) = (.ok (), w₁) ∧
      pinWritable (env.store 1) w₁.store (stateFor crates env p)
  | _ => False

/-- The state with the verifier given, in memory and in the row. -/
structure HoldsPin (salt verifier : List UInt8) (w : World) : Prop where
  memory : memoryPin w = some (salt, verifier)
  row : rowPin w.store = some (salt, verifier)

/-- A step neither changes the PIN nor resets. -/
structure KeepsPin (t : Step) : Prop where
  unchanged : ∀ env request, pinRequest crates t.input = some (env, .changePin, request) →
    ¬ t.output.succeeded
  noReset : ¬ approvedReset t.before t.input

end

variable {crates : Crates} {env : Env} {w w' : World} {event : Event} {request : Entries}
  {plaintext current p key iv : List UInt8} {subCommand : ClientPinSubCommand}

/-! ## Encryption and padding -/

theorem length_encryptAes (hiv : iv.length = 16) (key m : List UInt8) :
    (encryptAes crates key iv m).length = 16 + m.length := by
  rw [encryptAes, List.length_append, hiv, crates.length_aesCbcEncrypt]

theorem isBlocks_encryptAes (hiv : iv.length = 16) (key m : List UInt8) :
    isBlocks (encryptAes crates key iv m) ↔ m.length % 16 = 0 := by
  simp [isBlocks, length_encryptAes hiv]

theorem decryptAes_encryptAes (haes : crates.DecryptsAes) (hiv : iv.length = 16)
    {m : List UInt8} (hm : m.length % 16 = 0) :
    decryptAes crates key (encryptAes crates key iv m) = .ok m := by
  have hlength : (encryptAes crates key iv m).length = 16 + m.length := length_encryptAes hiv key m
  rw [decryptAes, if_neg (by omega), encryptAes, ← hiv, List.take_left, List.drop_left,
    haes key iv m hm]

theorem decryptPinHash_encryptAes (haes : crates.DecryptsAes) (hiv : iv.length = 16)
    (hcurrent : current.length = 16) :
    decryptPinHash crates key (encryptAes crates key iv current) = .ok current := by
  rw [decryptPinHash, decryptAes_encryptAes haes hiv (by omega)]
  exact if_neg (not_not.mpr hcurrent)

theorem takeWhile_padded (hp : 0 ∉ p) (n : Nat) :
    (p ++ List.replicate n 0).takeWhile (· ≠ 0) = p := by
  have hall : ∀ b ∈ p, decide (b ≠ 0) = true := by
    intro b hb
    refine decide_eq_true ?_
    rintro rfl
    exact hp hb
  rw [List.takeWhile_append_of_pos hall]
  cases n <;> simp [List.replicate_succ]

/-- Removing the padding. -/
theorem decryptPin_ok_iff (haes : crates.DecryptsAes) (hiv : iv.length = 16)
    (hblocks : plaintext.length % 16 = 0) :
    decryptPin crates key (encryptAes crates key iv plaintext) = .ok p ↔
      0 ∉ p ∧ ∃ n, plaintext = p ++ List.replicate n 0 := by
  rw [decryptPin, decryptAes_encryptAes haes hiv hblocks]
  show (if (plaintext.drop (plaintext.takeWhile (· ≠ 0)).length).any (· ≠ 0) then _ else _) = _ ↔ _
  constructor
  · intro h
    split at h
    · cases h
    · next hzeros =>
      cases h
      refine ⟨fun hmem ↦ ?_, (plaintext.drop (plaintext.takeWhile (· ≠ 0)).length).length, ?_⟩
      · simpa using List.mem_takeWhile_imp hmem
      · have hreplicate : plaintext.drop (plaintext.takeWhile (· ≠ 0)).length =
            List.replicate _ 0 :=
          List.eq_replicate_of_mem (by simpa using hzeros)
        rw [← hreplicate, List.takeWhile_append_drop_length]
  · rintro ⟨hnonzero, n, rfl⟩
    rw [takeWhile_padded hnonzero, List.drop_left, if_neg (by simp)]

theorem validateNewPin_ok_iff :
    validateNewPin p = .ok () ↔ (4 ≤ p.length ∧ p.length ≤ 63) ∧ 0 ∉ p := by
  have hvalid : validateNewPin p = .ok () ↔ ¬ (p.length < 4 ∨ 63 < p.length ∨ p.contains 0) := by
    rw [validateNewPin]
    split <;> simp_all
  rw [hvalid, List.contains_iff_mem]
  simp only [not_or, not_lt, and_assoc]

/-- **The PIN in a request.** -/
theorem newPin_iff (haes : crates.DecryptsAes) (hiv : iv.length = 16) (key : List UInt8) :
    (isBlocks (encryptAes crates key iv plaintext) ∧
      decryptPin crates key (encryptAes crates key iv plaintext) = .ok p ∧
      validateNewPin p = .ok ()) ↔ Padded p plaintext := by
  rw [isBlocks_encryptAes hiv]
  constructor
  · rintro ⟨hblocks, hdecrypt, hvalid⟩
    obtain ⟨hnonzero, hpadding⟩ := (decryptPin_ok_iff haes hiv hblocks).mp hdecrypt
    exact ⟨hpadding, (validateNewPin_ok_iff.mp hvalid).1, hnonzero, hblocks⟩
  · intro h
    exact ⟨h.blocks, (decryptPin_ok_iff haes hiv h.blocks).mpr ⟨h.nonzero, h.padding⟩,
      validateNewPin_ok_iff.mpr ⟨h.length, h.nonzero⟩⟩

/-- There is one PIN in a plaintext. -/
theorem Padded.unique {p' : List UInt8} (h : Padded p plaintext) (h' : Padded p' plaintext) :
    p = p' := by
  obtain ⟨n, hn⟩ := h.padding
  obtain ⟨n', hn'⟩ := h'.padding
  rw [← takeWhile_padded h.nonzero n, ← hn, hn', takeWhile_padded h'.nonzero]

/-! ## What the checks accept -/

/-- setPIN, with the keys agreed on and a valid code. -/
theorem setPinRequest_ok_iff (haes : crates.DecryptsAes) {a : Authenticator}
    {keyAgreement : Option Entries} {hmacKey param : List UInt8} (unset : a.clientPin = none)
    (keys : a.pinUvKeys crates keyAgreement = .ok (key, hmacKey)) (hiv : iv.length = 16)
    (mac : isAuthParam crates hmacKey param (encryptAes crates key iv plaintext)) :
    setPinRequest crates a keyAgreement (encryptAes crates key iv plaintext) param = .ok p ↔
      Padded p plaintext := by
  have hmac : verifyPinUvAuthParam crates hmacKey param (encryptAes crates key iv plaintext) =
    .ok () := if_pos mac
  rw [← newPin_iff haes hiv key, setPinRequest, unset, if_neg (by simp)]
  by_cases hblocks : isBlocks (encryptAes crates key iv plaintext)
  · rw [if_neg (not_not.mpr hblocks), keys]
    constructor
    · intro h
      obtain ⟨_, ⟨⟩, h⟩ := except_bind_ok h
      obtain ⟨_, -, h⟩ := except_bind_ok h
      obtain ⟨_, hdecrypt, h⟩ := except_bind_ok h
      obtain ⟨_, hvalid, h⟩ := except_bind_ok h
      cases h
      exact ⟨hblocks, hdecrypt, hvalid⟩
    · rintro ⟨-, hdecrypt, hvalid⟩
      simp only [bind, Except.bind, hmac, hdecrypt, hvalid]
      rfl
  · simp [hblocks]

/-- changePIN, with the keys agreed on and a valid code. -/
theorem changePinRequest_ok_iff (haes : crates.DecryptsAes) {a : Authenticator}
    {keyAgreement : Option Entries} {iv' hmacKey param pinHash : List UInt8}
    (set : a.clientPin.isSome) (keys : a.pinUvKeys crates keyAgreement = .ok (key, hmacKey))
    (hiv : iv.length = 16) (hiv' : iv'.length = 16) (hcurrent : current.length = 16)
    (mac : isAuthParam crates hmacKey param
      (encryptAes crates key iv plaintext ++ encryptAes crates key iv' current)) :
    changePinRequest crates a keyAgreement (encryptAes crates key iv plaintext)
        (encryptAes crates key iv' current) param = .ok (p, pinHash) ↔
      Padded p plaintext ∧ pinHash = current := by
  have hmac : verifyPinUvAuthParam crates hmacKey param
    (encryptAes crates key iv plaintext ++ encryptAes crates key iv' current) = .ok () := if_pos mac
  have hhash : decryptPinHash crates key (encryptAes crates key iv' current) = .ok current :=
    decryptPinHash_encryptAes haes hiv' hcurrent
  have hblocks' : isBlocks (encryptAes crates key iv' current) :=
    (isBlocks_encryptAes hiv' key current).mpr (by omega)
  have hsome : ¬ a.clientPin.isNone := by simpa using Option.isSome_iff_ne_none.mp set
  rw [← newPin_iff haes hiv key, changePinRequest, if_neg hsome]
  by_cases hblocks : isBlocks (encryptAes crates key iv plaintext)
  · rw [if_neg (by simp [hblocks, hblocks']), keys]
    constructor
    · intro h
      obtain ⟨_, ⟨⟩, h⟩ := except_bind_ok h
      obtain ⟨_, -, h⟩ := except_bind_ok h
      obtain ⟨_, hdecrypt, h⟩ := except_bind_ok h
      obtain ⟨_, hvalid, h⟩ := except_bind_ok h
      obtain ⟨_, hhash', h⟩ := except_bind_ok h
      cases h
      cases hhash.symm.trans hhash'
      exact ⟨⟨hblocks, hdecrypt, hvalid⟩, rfl⟩
    · rintro ⟨⟨-, hdecrypt, hvalid⟩, rfl⟩
      simp only [bind, Except.bind, hmac, hdecrypt, hvalid, hhash]
      rfl
  · simp [hblocks]

/-- **The checks accept exactly the padded PINs.** -/
theorem acceptedPin_eq_some_iff (haes : crates.DecryptsAes) {a : Authenticator}
    (h : AsksForPin crates a request plaintext current subCommand) :
    acceptedPin crates a subCommand request = some p ↔ Padded p plaintext := by
  cases h with
  | set unset keys hiv newPin hparam mac =>
    rw [← setPinRequest_ok_iff haes unset keys hiv mac, acceptedPin, newPin, hparam]
    exact ⟨except_eq_ok, fun hchecks ↦ congrArg Except.toOption hchecks⟩
  | change set keys hiv hiv' hcurrent newPin pinHash hparam mac =>
    rw [acceptedPin, newPin, pinHash, hparam]
    refine Option.map_eq_some_iff.trans ?_
    constructor
    · rintro ⟨⟨p', x⟩, hchecks, rfl⟩
      exact ((changePinRequest_ok_iff haes set keys hiv hiv' hcurrent mac).mp
        (except_eq_ok hchecks)).1
    · intro hp
      exact ⟨(p, current), congrArg Except.toOption
        ((changePinRequest_ok_iff haes set keys hiv hiv' hcurrent mac).mpr ⟨hp, rfl⟩), rfl⟩

/-! ## What a request does -/

/-- A clientPIN request, as a step. -/
theorem step_pinRequest (hreq : pinRequest crates event = some (env, subCommand, request)) :
    step crates w event = (Reply.ofCbor (respond
      (clientPinSubCommand crates env subCommand request (w.enter .clientPin))).1,
      (clientPinSubCommand crates env subCommand request (w.enter .clientPin)).2) := by
  cases event with
  | cbor env' payload =>
    rw [pinRequest] at hreq
    split at hreq
    · next body hp =>
      split at hreq
      · next hchecks =>
        cases hreq
        rw [step_cbor hp]
        change (Reply.ofCbor (respond (clientPin crates env body (w.enter .clientPin))).1,
          (clientPin crates env body (w.enter .clientPin)).2) = _
        rw [clientPin, hchecks]
        rfl
      · cases hreq
    · cases hreq
  | _ => cases hreq

section
variable (crates)

/-- The outcome of a request answers for a new PIN: it succeeds exactly if the PIN is padded and the
rest works, and then the state for it is stored. -/
structure Answers (env : Env) (w : World) (subCommand : ClientPinSubCommand)
    (plaintext current : List UInt8) (r : Outcome ErrorStatus (List UInt8) × World) : Prop where
  succeeded : (Reply.ofCbor (respond r).1).succeeded ↔
    ∃ p, Padded p plaintext ∧ RestWorks crates env w subCommand current p
  stored : ∀ p, Padded p plaintext → (Reply.ofCbor (respond r).1).succeeded →
    r.2.auth.clientPin = some (stateFor crates env p) ∧ RowHolds (stateFor crates env p) r.2.store

end

theorem Answers.of_none {o : Outcome ErrorStatus (List UInt8)} (ho : o.toOption = none)
    (h : ∀ p, Padded p plaintext → ¬ RestWorks crates env w subCommand current p) :
    Answers crates env w subCommand plaintext current (o, w') where
  succeeded := ⟨fun hok ↦ absurd hok (not_succeeded_of_none ho w'),
    fun ⟨p, hp, hrest⟩ ↦ absurd hrest (h p hp)⟩
  stored _ _ hok := absurd hok (not_succeeded_of_none ho w')

theorem Answers.of_storePin (hp : Padded p plaintext)
    (h : RestWorks crates env w subCommand current p ↔
      pinWritable (env.store 1) w'.store (stateFor crates env p)) :
    Answers crates env w subCommand plaintext current (storePin crates env p w') := by
  rcases storePin_cases crates env p w' with
    ⟨t, he, hrow, hwritable⟩ | ⟨o, t, ho, he, -, hfault⟩
  · rw [he]
    refine ⟨⟨fun _ ↦ ⟨p, hp, h.mpr hwritable⟩, fun _ ↦ rfl⟩, fun p' hp' _ ↦ ?_⟩
    rw [← hp.unique hp']
    exact ⟨rfl, hrow⟩
  · rw [he]
    refine .of_none ho fun p' hp' hrest ↦ hfault ?_
    rw [← hp.unique hp'] at hrest
    exact h.mp hrest

theorem setPin_answers (haes : crates.DecryptsAes)
    (h : AsksForPin crates w.auth request plaintext current .setPin) :
    Answers crates env w .setPin plaintext current
      (clientPinSubCommand crates env .setPin request (w.enter .clientPin)) := by
  cases h with
  | @set iv aesKey hmacKey param unset keys hiv newPin hparam mac =>
    have hchecks (p : List UInt8) := setPinRequest_ok_iff (p := p) haes unset keys hiv mac
    have hsub : clientPinSubCommand crates env .setPin request (w.enter .clientPin) =
        (ofExcept (setPinRequest crates w.auth (mapMap request (.int 3))
          (encryptAes crates aesKey iv plaintext) param) >>= fun p ↦ storePin crates env p)
          (w.enter .clientPin) := by
      rw [clientPinSubCommand, newPin, hparam]
      rfl
    rw [hsub]
    cases hr : setPinRequest crates w.auth (mapMap request (.int 3))
        (encryptAes crates aesKey iv plaintext) param with
    | error e => exact .of_none rfl fun p hp _ ↦ by cases hr.symm.trans ((hchecks p).mpr hp)
    | ok p => exact .of_storePin ((hchecks p).mp hr) Iff.rfl

theorem changePin_answers (haes : crates.DecryptsAes)
    (h : AsksForPin crates w.auth request plaintext current .changePin) :
    Answers crates env w .changePin plaintext current
      (clientPinSubCommand crates env .changePin request (w.enter .clientPin)) := by
  cases h with
  | @change iv iv' aesKey hmacKey param set keys hiv hiv' hcurrent newPin pinHash hparam mac =>
    have hchecks (p h : List UInt8) : changePinRequest crates w.auth (mapMap request (.int 3))
        (encryptAes crates aesKey iv plaintext) (encryptAes crates aesKey iv' current) param =
          .ok (p, h) ↔ Padded p plaintext ∧ h = current :=
      changePinRequest_ok_iff haes set keys hiv hiv' hcurrent mac
    have hsub : clientPinSubCommand crates env .changePin request (w.enter .clientPin) =
        (ofExcept (changePinRequest crates w.auth (mapMap request (.int 3))
          (encryptAes crates aesKey iv plaintext) (encryptAes crates aesKey iv' current) param) >>=
          fun x ↦ authenticatePin crates env x.2 >>= fun _ ↦ storePin crates env x.1)
          (w.enter .clientPin) := by
      rw [clientPinSubCommand, newPin, pinHash, hparam]
      rfl
    rw [hsub]
    cases hr : changePinRequest crates w.auth (mapMap request (.int 3))
        (encryptAes crates aesKey iv plaintext) (encryptAes crates aesKey iv' current) param with
    | error e =>
      exact .of_none rfl fun p hp _ ↦ by cases hr.symm.trans ((hchecks p current).mpr ⟨hp, rfl⟩)
    | ok x =>
      obtain ⟨p, h⟩ := x
      obtain ⟨hp, rfl⟩ := (hchecks p h).mp hr
      change Answers crates env w .changePin plaintext h ((authenticatePin crates env h >>= fun _ ↦
        storePin crates env p) (w.enter .clientPin))
      cases hauth : authenticatePin crates env h (w.enter .clientPin) with
      | mk o w₁ =>
        cases o with
        | ok _ =>
          rw [bind_of_ok _ hauth]
          refine .of_storePin hp ⟨?_, fun hwritable ↦ ⟨w₁, hauth, hwritable⟩⟩
          rintro ⟨w₂, hok, hwritable⟩
          cases hauth.symm.trans hok
          exact hwritable
        | _ =>
          obtain ⟨o', ho', he⟩ := bind_of_none (fun _ ↦ storePin crates env p) hauth rfl
          rw [he]
          refine .of_none ho' fun p' _ ↦ ?_
          rintro ⟨w₂, hok, -⟩
          cases hauth.symm.trans hok

/-- **What a request for a new PIN does.** -/
theorem step_newPin (haes : crates.DecryptsAes)
    (hreq : pinRequest crates event = some (env, subCommand, request))
    (hasks : AsksForPin crates w.auth request plaintext current subCommand) :
    ((step crates w event).1.succeeded ↔
      ∃ p, Padded p plaintext ∧ RestWorks crates env w subCommand current p) ∧
    ∀ p, Padded p plaintext → (step crates w event).1.succeeded →
      (step crates w event).2.auth.clientPin = some (stateFor crates env p) ∧
        RowHolds (stateFor crates env p) (step crates w event).2.store := by
  have hanswers : Answers crates env w subCommand plaintext current
      (clientPinSubCommand crates env subCommand request (w.enter .clientPin)) := by
    obtain rfl | rfl : subCommand = .setPin ∨ subCommand = .changePin := by
      cases hasks
      · exact .inl rfl
      · exact .inr rfl
    · exact setPin_answers haes hasks
    · exact changePin_answers haes hasks
  rw [step_pinRequest hreq]
  exact ⟨hanswers.succeeded, hanswers.stored⟩

/-! ## Later steps -/

/-- **A step keeps the PIN**, but for changePIN, reset, and a start that cannot read the row. -/
theorem HoldsPin.step {salt verifier : List UInt8} (h : HoldsPin salt verifier w)
    (hkeeps : KeepsPin crates (Run.transition (step crates) w event))
    (hloads : loadsPin crates w event) : HoldsPin salt verifier (step crates w event).2 := by
  have heffect := step_pinEffect crates w event
  have hsame : memoryPin w = rowPin w.store := h.memory.trans h.row.symm
  suffices hrow : rowPin (Ctap2.step crates w event).2.store = some (salt, verifier) from
    ⟨(heffect.samePin hloads (removesPin_of_not_approved hkeeps.noReset) hsame).trans hrow, hrow⟩
  obtain ⟨row, hstored, hpin⟩ := Option.map_eq_some_iff.mp h.row
  rcases (heffect.guarded hsame).kept row hstored with
    ⟨row', hrow', hsalt, hverifier⟩ | ⟨env, request, _, hreq, -, -, hok⟩ | ⟨hreset, -⟩
  · rw [rowPin, hrow', Option.map_some, hsalt, hverifier, hpin]
  · exact absurd hok (hkeeps.unchanged env request hreq)
  · exact absurd hreset hkeeps.noReset

theorem pinMatches_iff {pin : StoredClientPinState} {pinHash : List UInt8} :
    pinMatches crates pin pinHash ↔ crates.pbkdf2 pinHash pin.pinSalt = pin.pinVerifier :=
  Store.constantTimeEqual_iff

/-- A token is issued for the right PIN, if the counter can be written. -/
theorem token_issued_iff {pin : StoredClientPinState} {pinHash : List UInt8}
    (hreq : pinRequest crates event = some (env, .getPinUvAuthToken, request))
    (hcompare : comparison crates w event = some (pin, pinHash)) :
    (step crates w event).1.succeeded ↔
      pinMatches crates pin pinHash ∧ countsPin crates w event := by
  have heffect := step_pinEffect crates w event
  generalize step crates w event = r at heffect
  have counted (h : pin.retries = 8 ∨ pinWritable (env.store 0) w.store (pin.withRetries 8))
      (hmatch : pinMatches crates pin pinHash) : countsPin crates w event := by
    rw [countsPin_eq hreq hcompare, countedPin, if_pos hmatch]
    rcases h with h | h
    · rw [if_pos h]
      rfl
    · split
      · rfl
      · exact h
  cases heffect with
  | kept _ h _ _ _ _ => cases hcompare.symm.trans h
  | set _ _ h _ _ _ _ _ => cases hcompare.symm.trans h
  | wrong _ h hmatch _ _ _ hreply =>
    cases hcompare.symm.trans h
    exact ⟨fun hok ↦ absurd hok hreply, fun hboth ↦ absurd hboth.1 hmatch⟩
  | unsaved hreq' h hmatch hfull _ _ hfault _ hreply =>
    cases hcompare.symm.trans h
    refine ⟨fun hok ↦ absurd hok hreply, fun hboth ↦ ?_⟩
    have hcounts := hboth.2
    simp [countsPin_eq hreq' hcompare, countedPin, hmatch, hfull, hfault] at hcounts
  | unchanged hreq' _ _ _ _ _ _ => cases hreq.symm.trans hreq'
  | changed hreq' _ _ _ _ _ _ _ _ => cases hreq.symm.trans hreq'
  | issued hreq' h hmatch _ row _ _ hreply =>
    cases hcompare.symm.trans h
    cases hreq.symm.trans hreq'
    exact ⟨fun _ ↦ ⟨hmatch, counted row.full_or_writable hmatch⟩, fun _ ↦ hreply⟩
  | approved hreq' _ _ _ _ _ _ _ => cases hreq.symm.trans hreq'
  | reset _ _ _ h _ _ _ => cases hcompare.symm.trans h
  | started _ h _ _ _ _ => cases hcompare.symm.trans h
  | damaged _ h _ _ _ => cases hcompare.symm.trans h

section
variable (crates)

/-- The PIN authenticates: with retries left, a token is issued exactly for the hashes that give
its verifier, provided that the counter can be written. -/
def Authenticates (salt p : List UInt8) (w : World) : Prop :=
  ∀ event env request pin pinHash,
    pinRequest crates event = some (env, .getPinUvAuthToken, request) →
    w.auth.clientPin = some pin → pin.retries ≠ 0 →
    presentedHash crates w.auth .getPinUvAuthToken request = some pinHash →
    ((step crates w event).1.succeeded ↔
      crates.pbkdf2 pinHash salt = crates.pbkdf2 ((crates.sha256 p).take 16) salt ∧
        countsPin crates w event)

end

theorem HoldsPin.authenticates {salt : List UInt8}
    (h : HoldsPin salt (crates.pbkdf2 ((crates.sha256 p).take 16) salt) w) :
    Authenticates crates salt p w := by
  intro event env request pin pinHash hreq hpin hretries hhash
  have hcompare : comparison crates w event = some (pin, pinHash) := by
    simp only [comparison, hreq, hpin, if_neg hretries, hhash, Option.map_some]
  obtain ⟨hsalt, hverifier⟩ : pin.pinSalt = salt ∧ _ :=
    Prod.mk.inj (Option.some.inj ((memoryPin_of_comparison hcompare).symm.trans h.memory))
  rw [token_issued_iff hreq hcompare, pinMatches_iff, hsalt, hverifier]

/-- **The PIN that was set is the PIN that authenticates**, after any run without a changePIN and
without a reset in which every start can read the row. -/
theorem pin_authenticates (haes : crates.DecryptsAes)
    (hreq : pinRequest crates event = some (env, subCommand, request))
    (hasks : AsksForPin crates w.auth request plaintext current subCommand) :
    (∀ p, acceptedPin crates w.auth subCommand request = some p ↔ Padded p plaintext) ∧
    ((step crates w event).1.succeeded ↔
      ∃ p, Padded p plaintext ∧ RestWorks crates env w subCommand current p) ∧
    ∀ p, Padded p plaintext → (step crates w event).1.succeeded → ∀ events,
      (∀ t ∈ run crates (step crates w event).2 events,
        KeepsPin crates t ∧ loadsPin crates t.before t.input) →
      Authenticates crates (stateFor crates env p).pinSalt p
        (after crates (step crates w event).2 events) := by
  obtain ⟨hsucceeds, hstores⟩ := step_newPin haes hreq hasks
  refine ⟨fun p ↦ acceptedPin_eq_some_iff haes hasks, hsucceeds, fun p hp hok events hevents ↦ ?_⟩
  obtain ⟨hmemory, hrow⟩ := hstores p hp hok
  refine HoldsPin.authenticates (Run.state_invariant
    (I := HoldsPin (stateFor crates env p).pinSalt (stateFor crates env p).pinVerifier)
    (C := fun w event ↦ KeepsPin crates (Run.transition (step crates) w event) ∧
      loadsPin crates w event) ⟨?_, hrow.rowPin⟩ (fun w event hw hc ↦ hw.step hc.1 hc.2) events ?_)
  · rw [memoryPin, hmemory, Option.map_some]
  · intro t ht
    rw [← Run.eq_transition_of_mem ht]
    exact hevents t ht

/-- A step that asks for neither a change nor a reset keeps the PIN. -/
theorem keepsPin_of_input {t : Step}
    (h : (pinRequest crates t.input).all (fun x ↦ x.2.1 ≠ .changePin) ∧
      ¬ approvedReset t.before t.input) : KeepsPin crates t where
  unchanged env request hreq := by simp [hreq] at h
  noReset := h.2

namespace Sample

/-- A token, for the PIN of four bytes given. -/
def tokenFor (pin : List UInt8) : Cbor.Value :=
  .map [(.integer 1, .integer 2), (.integer 2, .integer 9), (.integer 3, platformKey),
    (.integer 6, .bytes (List.replicate 16 0 ++ pin ++ List.replicate 12 0)),
    (.integer 9, .integer 4)]

/-- Packages in which the hash and the verifier of a PIN show its first bytes. -/
def tellingPackages : Crates :=
  { packages [getKeyAgreement, setPin [49, 50, 51, 52], setPin [53, 54, 55, 56],
      tokenFor [49, 50, 51, 52], tokenFor [53, 54, 55, 56]] with
    sha256 := fun m ↦ (m ++ List.replicate 32 0).take 32
    pbkdf2 := fun pinHash _ ↦ (pinHash ++ List.replicate 32 0).take 32
    length_sha256 := length_firstBytes
    length_pbkdf2 := fun pinHash _ ↦ length_firstBytes pinHash }

/-- A request to the daemon. -/
def asked (v : Cbor.Value) : Event := Sample.request (session 1000 0) 0x06 v

/-- A request that sets the PIN of four bytes given. -/
def setting (pin : List UInt8) : Event := asked (setPin pin)

/-- The daemon on a fresh store, after a key agreement. -/
def agreed : World :=
  after tellingPackages (newAuthenticator tellingPackages (session 1000 0) (some "") Store.fresh)
    [asked getKeyAgreement]

/-- The daemon with a PIN. -/
def pinChosen : World := (step tellingPackages agreed (setting [49, 50, 51, 52])).2

/-- The entries of the request that chose it. -/
def chosenEntries : Entries :=
  [(.integer 1, .integer 2), (.integer 2, .integer 3), (.integer 3, platformKey),
    (.integer 4, .bytes (List.replicate 16 0)),
    (.integer 5, .bytes (List.replicate 16 0 ++ [49, 50, 51, 52] ++ List.replicate 12 0))]

end Sample

open Sample in
/-- A PIN is set, and the daemon started again. -/
theorem pin_authenticates_restart :
    AsksForPin tellingPackages agreed.auth chosenEntries
        ([49, 50, 51, 52] ++ List.replicate 12 0) [] .setPin ∧
      Authenticates tellingPackages (List.replicate 32 0) [49, 50, 51, 52]
        (after tellingPackages pinChosen [.start (session 1000 0) (some "")]) := by
  have haes : tellingPackages.DecryptsAes := fun _ _ _ _ ↦ rfl
  have hreq : pinRequest tellingPackages (setting [49, 50, 51, 52]) =
    some (session 1000 0, .setPin, chosenEntries) := rfl
  have hiv : (List.replicate 16 (0 : UInt8)).length = 16 := rfl
  have hasks : AsksForPin tellingPackages agreed.auth chosenEntries
      ([49, 50, 51, 52] ++ List.replicate 12 0) [] .setPin :=
    .set (by decide +kernel) rfl hiv rfl rfl (by decide +kernel)
  have hpadded : Padded [49, 50, 51, 52] ([49, 50, 51, 52] ++ List.replicate 12 0) :=
    ⟨⟨12, rfl⟩, by decide, by decide, rfl⟩
  refine ⟨hasks, (pin_authenticates haes hreq hasks).2.2 _ hpadded (by decide +kernel) _ ?_⟩
  intro t ht
  have hall : ∀ t ∈ run tellingPackages pinChosen [.start (session 1000 0) (some "")],
      ((pinRequest tellingPackages t.input).all (fun x ↦ x.2.1 ≠ .changePin) ∧
        ¬ approvedReset t.before t.input) ∧ loadsPin tellingPackages t.before t.input := by
    decide +kernel
  exact ⟨keepsPin_of_input (hall t ht).1, (hall t ht).2⟩

open Sample in
/-- A second PIN is set after a start that could not read the row, and the first one is refused. -/
theorem pin_replaced :
    let events := [blindStart, asked getKeyAgreement, setting [53, 54, 55, 56]]
    let w := after tellingPackages pinChosen events
    (∀ t ∈ run tellingPackages pinChosen events, KeepsPin tellingPackages t) ∧
      (step tellingPackages w (asked (tokenFor [53, 54, 55, 56]))).1.succeeded ∧
      ¬ (step tellingPackages w (asked (tokenFor [49, 50, 51, 52]))).1.succeeded ∧
      ¬ Authenticates tellingPackages (List.replicate 32 0) [49, 50, 51, 52] w := by
  intro events w
  have hall : ∀ t ∈ run tellingPackages pinChosen events,
      (pinRequest tellingPackages t.input).all (fun x ↦ x.2.1 ≠ .changePin) ∧
        ¬ approvedReset t.before t.input := by decide +kernel
  have hrefused : ¬ (step tellingPackages w (asked (tokenFor [49, 50, 51, 52]))).1.succeeded := by
    decide +kernel
  refine ⟨fun t ht ↦ keepsPin_of_input (hall t ht), by decide +kernel, hrefused, fun h ↦
    hrefused ?_⟩
  have htoken : (pinRequest tellingPackages (asked (tokenFor [49, 50, 51, 52]))).any fun x ↦
      x.2.1 = .getPinUvAuthToken ∧ presentedHash tellingPackages w.auth .getPinUvAuthToken x.2.2 =
        some ([49, 50, 51, 52] ++ List.replicate 12 0) := by decide +kernel
  have hmemory : w.auth.clientPin.any fun pin ↦ pin.retries ≠ 0 := by decide +kernel
  obtain ⟨⟨env, subCommand, request⟩, hreq, hx⟩ := (Option.any_eq_true _ _).mp htoken
  obtain ⟨rfl, hhash⟩ := of_decide_eq_true hx
  obtain ⟨pin, hpin, hretries⟩ := (Option.any_eq_true _ _).mp hmemory
  exact (h _ env request pin _ hreq hpin (of_decide_eq_true hretries) hhash).mpr
    (by decide +kernel)

end Ctap2
end TpmFido2
