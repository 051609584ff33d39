import TpmFido2.Lib.Command
import TpmFido2.Lib.Lists
import TpmFido2.Lib.Tpm2
import TpmFido2.Tpm.Failures
import TpmFido2.Tpm.Release

/-!
# The chip behind the wrapper

The functions of `tpm.rs` exist twice in this development: as sequences of TPM commands
(`Tpm.Commands`), where every handle and every session is seen, and as functions of the answers that
a device gives (`TpmFido2.Tpm`), which is what the rest of the authenticator uses.  Here both are
put over the same TPM 2.0.

`Chip` is a TPM with the conversions of `tss_esapi`, and `Chip.context` is the chip as the sequences
of commands see it; each use of it is under `Conditions`, which say what works and which random
bytes are drawn.  `Chip.device` is the chip as the functions of answers see it: each answer is given
in closed form, from the values of the PCRs alone.  The theorems `value_createSecureBootPolicy` to
`value_signDigestWithPolicy` say that this is right: **where nothing fails, each sequence of
commands returns what the function of answers returns.**  Where something does fail it returns the
same or nothing (`context_within`), and no command changes a PCR (`context_samePcrs`).
-/

set_option autoImplicit false

namespace TpmFido2

open Handler Tpm2

/-! ## The chip -/

/-- A TPM 2.0, with the conversions of `tss_esapi` for what it makes. -/
structure Chip (crates : Crates) where
  scheme : Scheme
  lawful : scheme.Lawful
  hash : scheme.hash = crates.sha256
  isPrivate : List UInt8 → Bool
  isPublic : List UInt8 → Bool
  isName : List UInt8 → Bool
  /-- The coordinates of the public point. -/
  point : List UInt8 → List UInt8 × List UInt8
  marshalSignature : List UInt8 × List UInt8 → List UInt8
  unmarshalSignature : List UInt8 → Option (List UInt8 × List UInt8)
  isPrivate_protect : ∀ publicArea secret authValue,
    isPrivate (scheme.protect publicArea secret authValue) = true
  isPublic_generate : ∀ seed template, isPublic (scheme.generate seed template).2 = true
  isName_name : ∀ publicArea, isName (scheme.name publicArea) = true
  unmarshal_marshal : ∀ signature, unmarshalSignature (marshalSignature signature) = some signature

/-- The PCRs that a list of slots selects. -/
def selects (slots : List UInt32) (i : Nat) : Bool := decide
    ((1 : UInt32) <<< UInt32.ofNat i ∈ slots)

/-- What differs from one function of the wrapper to the next: which calls work, and the random
bytes for a new key and for a signature. -/
structure Conditions where
  works : Tpm.Call → Nat → Bool
  seed : List UInt8
  nonce : List UInt8

/-- Nothing fails that need not. -/
def Conditions.calm (c : Conditions) : Conditions := { c with works := fun _ _ ↦ true }

namespace Chip

variable {crates : Crates} (chip : Chip crates)

/-- The new key as the wrapper takes it. -/
def newKey (seed : List UInt8) (parent : Nat) (template : Template) (authValue : List UInt8)
    (s : State) : Option ((List UInt8 × List UInt8 × List UInt8 × List UInt8) × State) :=
  (chip.scheme.create seed parent template authValue s).map fun p ↦
    ((p.1.1, p.1.2, (chip.point p.1.2).1, (chip.point p.1.2).2), p.2)

/-- `TPM2_Sign`, by the way it is authorised. -/
def sign (nonce : List UInt8) (authorization : Authorization) (key : Nat) (digest : List UInt8) :
    State → Option ((List UInt8 × List UInt8) × State) :=
  match authorization with
  | .policy session => chip.scheme.signWithPolicy nonce session key digest
  | _ => chip.scheme.signWithAuth nonce key digest

/-- The chip as the wrapper sees it. -/
def context (c : Conditions) : Context State where
  isPrivate := chip.isPrivate
  isPublic := chip.isPublic
  isName := chip.isName
  marshalSignature := chip.marshalSignature
  unmarshalSignature := chip.unmarshalSignature
  pcrRead slots := perform (c.works .pcrRead 0) () (Scheme.pcrRead (selects slots))
  createPrimary n := perform (c.works .createPrimary n) () Scheme.createPrimary
  create parent digest userWithAuth authValue := perform (c.works .create 0) ()
    (chip.newKey c.seed parent ⟨digest.getD [], userWithAuth⟩ (authValue.getD []))
  load n parent privateArea publicArea :=
    perform (c.works .load n) () (chip.scheme.load parent privateArea publicArea)
  trSetAuth n object authValue := perform (c.works .trSetAuth n) ()
    (Scheme.setAuth object authValue)
  readPublic object := perform (c.works .readPublic 0) () (chip.scheme.readName object)
  sign authorization key digest := perform (c.works .sign 0) ()
    (chip.sign c.nonce authorization key digest)
  verifySignature key digest signature := perform (c.works .verifySignature 0) ()
    (chip.scheme.verifySignature key digest signature)
  startAuthSession n kind := perform (c.works .startAuthSession n) ()
    (Scheme.startSession (decide (kind = .trial)))
  policyPcr n session digest slots := perform (c.works .policyPcr n) ()
    (chip.scheme.policyPcr session digest (selects slots))
  policyGetDigest n session := perform (c.works .policyGetDigest n) () (Scheme.getDigest session)
  policyAuthorize session approved policyRef name ticket := perform (c.works .policyAuthorize 0) ()
    (chip.scheme.policyAuthorize session approved policyRef name ticket)
  policyCommandCode session := perform (c.works .policyCommandCode 0) ()
    (chip.scheme.policyCommandCode session signCode)
  objectChangeAuth object parent authValue := perform (c.works .objectChangeAuth 0) ()
    (chip.scheme.changeAuth object parent authValue)
  flushContext := State.flush

/-- A chip on which calls fail returns nothing else than one on which they do not. -/
theorem context_within (c : Conditions) :
    Context.Related (fun (α : Type) (m m' : Handler State Unit α) ↦ Within m m') (chip.context c)
      (chip.context c.calm) where
  isPrivate := rfl
  isPublic := rfl
  isName := rfl
  marshalSignature := rfl
  unmarshalSignature := rfl
  flushContext := rfl
  flushes _ := .refl _
  pcrRead _ := .perform _ _ _
  createPrimary _ := .perform _ _ _
  create _ _ _ _ := .perform _ _ _
  load _ _ _ _ := .perform _ _ _
  trSetAuth _ _ _ := .perform _ _ _
  readPublic _ := .perform _ _ _
  sign _ _ _ := .perform _ _ _
  verifySignature _ _ _ := .perform _ _ _
  startAuthSession _ _ := .perform _ _ _
  policyPcr _ _ _ _ := .perform _ _ _
  policyGetDigest _ _ := .perform _ _ _
  policyAuthorize _ _ _ _ _ := .perform _ _ _
  policyCommandCode _ := .perform _ _ _
  objectChangeAuth _ _ _ := .perform _ _ _

theorem keepsPcrs_newKey (seed : List UInt8) (parent : Nat) (template : Template)
    (authValue : List UInt8) : KeepsPcrs (chip.newKey seed parent template authValue) :=
  (chip.scheme.keepsPcrs_create seed parent template authValue).map fun areas ↦
    (areas.1, areas.2, (chip.point areas.2).1, (chip.point areas.2).2)

/-- The PCRs are as they were. -/
def SamePcrs (s t : State) : Prop := t.pcrs = s.pcrs

theorem samePcrs_frame : Frame SamePcrs := Frame.keeps State.pcrs

/-- No call changes a PCR. -/
theorem context_samePcrs (c : Conditions) :
    Context.Related (fun (α : Type) (m _ : Handler State Unit α) ↦ Moves SamePcrs m)
      (chip.context c)
      (chip.context c) where
  isPrivate := rfl
  isPublic := rfl
  isName := rfl
  marshalSignature := rfl
  unmarshalSignature := rfl
  flushContext := rfl
  flushes _ := Moves.modify fun _ ↦ rfl
  pcrRead _ := samePcrs_frame.perform _ _ (Scheme.keepsPcrs_pcrRead _)
  createPrimary _ := samePcrs_frame.perform _ _ Scheme.keepsPcrs_createPrimary
  create _ _ _ _ := samePcrs_frame.perform _ _ (chip.keepsPcrs_newKey _ _ _ _)
  load _ _ _ _ := samePcrs_frame.perform _ _ (chip.scheme.keepsPcrs_load _ _ _)
  trSetAuth _ _ _ := samePcrs_frame.perform _ _ (Scheme.keepsPcrs_setAuth _ _)
  readPublic _ := samePcrs_frame.perform _ _ (chip.scheme.keepsPcrs_readName _)
  sign authorization _ _ := by
    cases authorization with
    | policy session =>
      exact samePcrs_frame.perform _ _ (chip.scheme.keepsPcrs_signWithPolicy _ _ _ _)
    | null => exact samePcrs_frame.perform _ _ (chip.scheme.keepsPcrs_signWithAuth _ _ _)
    | password => exact samePcrs_frame.perform _ _ (chip.scheme.keepsPcrs_signWithAuth _ _ _)
  verifySignature _ _ _ := samePcrs_frame.perform _ _ (chip.scheme.keepsPcrs_verifySignature _ _ _)
  startAuthSession _ _ := samePcrs_frame.perform _ _ (Scheme.keepsPcrs_startSession _)
  policyPcr _ _ _ _ := samePcrs_frame.perform _ _ (chip.scheme.keepsPcrs_policyPcr _ _ _)
  policyGetDigest _ _ := samePcrs_frame.perform _ _ (Scheme.keepsPcrs_getDigest _)
  policyAuthorize _ _ _ _ _ :=
    samePcrs_frame.perform _ _ (chip.scheme.keepsPcrs_policyAuthorize _ _ _ _ _)
  policyCommandCode _ := samePcrs_frame.perform _ _ (chip.scheme.keepsPcrs_policyCommandCode _ _)
  objectChangeAuth _ _ _ := samePcrs_frame.perform _ _ (chip.scheme.keepsPcrs_changeAuth _ _ _)

/-! ## Policies in a state of the PCRs -/

/-- What `current_pcr_digest` computes: the digest of what one read returns. -/
def pcrDigest (crates : Crates) (slots : List UInt32) (pcrs : Nat → List UInt8) : List UInt8 :=
  crates.sha256 ((readPcrs (selects slots)).map pcrs).flatten

/-- What `TPM2_PolicyPCR` compares it with outside trial sessions: the digest of the whole
selection. -/
def checkedDigest (crates : Crates) (slots : List UInt32) (pcrs : Nat → List UInt8) : List UInt8 :=
  crates.sha256 ((selectedPcrs (selects slots)).map pcrs).flatten

/-- A session for signing takes the digest that was read. -/
def PassesPcrs (crates : Crates) (slots : List UInt32) (pcrs : Nat → List UInt8) : Prop :=
  pcrDigest crates slots pcrs = checkedDigest crates slots pcrs

instance (slots : List UInt32) (pcrs : Nat → List UInt8) :
    Decidable (PassesPcrs crates slots pcrs) := inferInstanceAs (Decidable (_ = _))

@[simp] theorem pcrDigest_eq_checkedDigest (slots : List UInt32) (pcrs : Nat → List UInt8) :
    pcrDigest crates slots pcrs = checkedDigest crates slots pcrs ↔
      PassesPcrs crates slots pcrs := Iff.rfl

/-- It does if one read returns the whole selection. -/
theorem passesPcrs_of_readAtOnce {slots : List UInt32} (h : ReadAtOnce (selects slots))
    (pcrs : Nat → List UInt8) : PassesPcrs crates slots pcrs := by
  rw [PassesPcrs, pcrDigest, checkedDigest, readPcrs_of_readAtOnce h]

/-- The policy that asks for PCRs with a digest. -/
def pcrPolicy (crates : Crates) (slots : List UInt32) (pcrDigest : List UInt8) : List UInt8 :=
  extendPcr crates.sha256 emptyDigest (marshalSelection (selects slots)) pcrDigest

/-- The policy that asks for the approval of an authority, and for signing. -/
def authorizedPolicy (crates : Crates) (name policyRef : List UInt8) : List UInt8 :=
  extendCommandCode crates.sha256 (authorizedDigest crates.sha256 name policyRef) signCode

/-- The key in what the wrapper keeps of one. -/
def keyIn (key : TpmCredential) : Option Key :=
  if chip.isPrivate key.privateArea ∧ chip.isPublic key.publicArea then
    chip.scheme.openKey key.privateArea key.publicArea
  else none

/-- `Auth::try_from` takes the auth value, if there is one. -/
def fitsAuth (authValue : Option (List UInt8)) : Prop := ∀ v ∈ authValue, fits v

instance (authValue : Option (List UInt8)) : Decidable (fitsAuth authValue) :=
  inferInstanceAs (Decidable (∀ v ∈ authValue, fits v))

/-- The key, if it can be used with the auth value that the wrapper keeps with it. -/
def authorityIn (key : TpmCredential) : Option Key :=
  (chip.keyIn key).bind fun k ↦
    if fitsAuth key.authValue then
      if Key.Authorized { k with hostAuth := key.authValue.getD k.hostAuth } then some k else none
    else none

/-- A stored signature approves a policy for a reference. -/
def approves (k : Key) (approved policyRef authoritySignature : List UInt8) : Bool :=
  (chip.unmarshalSignature authoritySignature).any
    (chip.scheme.verify k.publicArea (policyWithRefHash crates approved policyRef))

/-- The policy digest that a session for signing reaches, if it takes the digest of the PCRs. -/
def sessionPolicy (slots : List UInt32) (pcrs : Nat → List UInt8) (policy : PcrPolicyBinding)
    (authority : Option TpmCredential) : Option (List UInt8) :=
  let current := pcrPolicy crates slots (pcrDigest crates slots pcrs)
  match authority, policy.policyRef, policy.authorityName, policy.authoritySignature with
  | some authority, some policyRef, some authorityName, some authoritySignature =>
    (chip.keyIn authority).bind fun k ↦
      if chip.scheme.name k.publicArea = authorityName ∧ fitsAuth authority.authValue ∧
          chip.approves k current policyRef authoritySignature ∧ fits policyRef then
        some (authorizedPolicy crates authorityName policyRef)
      else none
  | _, _, _, _ => some current

theorem sessionPolicy_none (slots : List UInt32) (pcrs : Nat → List UInt8)
    (policy : PcrPolicyBinding) :
    chip.sessionPolicy slots pcrs policy none =
      some (pcrPolicy crates slots (pcrDigest crates slots pcrs)) := rfl

theorem sessionPolicy_some {slots : List UInt32} {pcrs : Nat → List UInt8}
    {policy : PcrPolicyBinding} {authority : TpmCredential}
    {policyRef authorityName authoritySignature : List UInt8}
    (href : policy.policyRef = some policyRef) (hname : policy.authorityName = some authorityName)
    (hsignature : policy.authoritySignature = some authoritySignature) :
    chip.sessionPolicy slots pcrs policy (some authority) =
      (chip.keyIn authority).bind fun k ↦
        if chip.scheme.name k.publicArea = authorityName ∧ fitsAuth authority.authValue ∧
            chip.approves k (pcrPolicy crates slots (pcrDigest crates slots pcrs)) policyRef
              authoritySignature ∧ fits policyRef then
          some (authorizedPolicy crates authorityName policyRef)
        else none := by
  unfold sessionPolicy
  rw [href, hname, hsignature]

/-- What signing with a key gives. -/
def signature (nonce : List UInt8) (pcrs : Nat → List UInt8) (tpm : Tpm)
    (credential : TpmCredential) (policy : Option PcrPolicyBinding)
    (authority : Option TpmCredential) (digest : List UInt8) :
    Option (List UInt8 × List UInt8) :=
  (chip.keyIn credential).bind fun k ↦
    match policy with
    | none => if k.Authorized then some (chip.scheme.sign k.secret digest nonce) else none
    | some policy =>
      if PassesPcrs crates tpm.pcrSelectionList pcrs ∧
          chip.sessionPolicy tpm.pcrSelectionList pcrs policy authority =
            some k.template.authPolicy then some (chip.scheme.sign k.secret digest nonce)
      else none

/-- The answers of a chip on which everything works; how the device is opened is a matter of the
host. -/
def device (host : TpmDevice) (c : Conditions) (pcrs : Nat → List UInt8) : TpmDevice :=
  { host with
    createKey := fun digest authValue ↦
      let pair := chip.scheme.generate c.seed ⟨digest.getD [], authValue.isSome⟩
      if fitsAuth digest ∧ fitsAuth authValue then
        some (chip.scheme.protect pair.2 pair.1 (authValue.getD []), pair.2, (chip.point pair.2).1,
          (chip.point pair.2).2)
      else none
    remarshalPublic := fun publicArea ↦ if chip.isPublic publicArea then some publicArea else none
    pcrRead := fun slots ↦ some ((readPcrs (selects slots)).map pcrs)
    policyPcr := fun slots digest ↦ some (pcrPolicy crates slots digest)
    signWithAuthority := fun authority digest ↦ (chip.authorityIn authority).map fun k ↦
      chip.marshalSignature (chip.scheme.sign k.secret digest c.nonce)
    readName := fun authority ↦ (chip.keyIn authority).map fun k ↦ chip.scheme.name k.publicArea
    policyAuthorize := fun _ _ policyRef name _ ↦
      if fits policyRef ∧ chip.isName name then some (authorizedPolicy crates name policyRef)
      else none
    sign := fun tpm credential policy authority digest ↦
      chip.signature c.nonce pcrs tpm credential policy authority digest
    objectChangeAuth := fun key authValue ↦ (chip.authorityIn key).bind fun k ↦
      if fits authValue then some (chip.scheme.protect k.publicArea k.secret authValue) else none }

variable {chip} {tpm : Tpm} {s : State} {c : Conditions} {β : Type}

/-! ## Calls to a calm chip -/

section
variable (chip c s)

@[simp] theorem value_currentPcrDigest_bind (slots : List UInt32)
    (f : List UInt8 → Handler State Unit β) :
    value (Tpm.currentPcrDigest (chip.context c.calm) crates slots >>= f) s =
      value (f (pcrDigest crates slots s.pcrs)) s := by
  rw [Tpm.currentPcrDigest, bind_assoc]
  exact value_perform_bind () (Scheme.pcrRead (selects slots)) _ s

@[simp] theorem value_createPrimary_bind (n : Nat) (f : Nat → Handler State Unit β) :
    value ((chip.context c.calm).createPrimary n >>= f) s = value (f s.next) s.holdParent :=
  value_perform_bind () Scheme.createPrimary f s

@[simp] theorem value_loadKey_bind (n parent : Nat) (key : TpmCredential)
    (f : Nat → Handler State Unit β) :
    value (Tpm.loadKey (chip.context c.calm) n parent key >>= f) s =
      if s.parents parent then (chip.keyIn key).bind fun k ↦ value (f s.next) (s.holdKey k)
      else none := by
  have hload : value (perform true () (chip.scheme.load parent key.privateArea key.publicArea) >>=
      f)
      s = if s.parents parent then
        (chip.scheme.openKey key.privateArea key.publicArea).bind fun k ↦
          value (f s.next) (s.holdKey k) else none := by
    rw [value_perform_bind, Scheme.load]
    split
    · rw [Option.bind_map]
      rfl
    · rfl
  have hcalls : value (Tpm.loadKey (chip.context c.calm) n parent key >>= f) s =
      if ¬ chip.isPrivate key.privateArea then none
      else if ¬ chip.isPublic key.publicArea then none
      else value (perform true () (chip.scheme.load parent key.privateArea key.publicArea) >>= f)
        s := by
    rw [Tpm.loadKey, Handler.bind_assoc, value_throwIf_bind, Handler.bind_assoc, value_throwIf_bind]
    rfl
  rw [hcalls, hload, keyIn]
  by_cases hprivate : chip.isPrivate key.privateArea <;>
    by_cases hpublic : chip.isPublic key.publicArea <;> simp [hprivate, hpublic]

@[simp] theorem value_setAuthValue_bind (n object : Nat) (authValue : Option (List UInt8))
    (f : Unit → Handler State Unit β) (h : (s.keys object).isSome = true) :
    value (Tpm.setAuthValue (chip.context c.calm) n object authValue >>= f) s =
      if fitsAuth authValue then
        (s.keys object).bind fun k ↦
          value (f ()) (s.setKey object { k with hostAuth := authValue.getD k.hostAuth })
      else none := by
  obtain ⟨k, hk⟩ := Option.isSome_iff_exists.mp h
  cases authValue with
  | none =>
    have hsame : s.setKey object k = s := by
      rw [State.setKey, ← hk, Function.update_eq_self]
    simp [Tpm.setAuthValue, fitsAuth, hk, hsame]
  | some v =>
    have hset : value (perform true () (Scheme.setAuth object v) >>= f) s =
        value (f ()) (s.setKey object { k with hostAuth := v }) := by
      rw [value_perform_bind, Scheme.setAuth, hk]
      rfl
    rw [Tpm.setAuthValue, Handler.bind_assoc, value_throwIf_bind, hk]
    by_cases hv : fits v
    · simp only [fitsAuth, hv, not_true, if_false, Option.mem_some_iff, forall_eq', if_true]
      exact hset
    · simp [fitsAuth, hv]

@[simp] theorem value_readPublic_bind (object : Nat) (f : List UInt8 → Handler State Unit β) :
    value ((chip.context c.calm).readPublic object >>= f) s =
      (s.keys object).bind fun k ↦ value (f (chip.scheme.name k.publicArea)) s := by
  refine (value_perform_bind () (chip.scheme.readName object) f s).trans ?_
  rw [Scheme.readName, Option.bind_map]
  rfl

@[simp] theorem value_sign_password_bind (key : Nat) (digest : List UInt8)
    (f : List UInt8 × List UInt8 → Handler State Unit β) :
    value ((chip.context c.calm).sign .password key digest >>= f) s =
      (s.keys key).bind fun k ↦
        if k.Authorized then value (f (chip.scheme.sign k.secret digest c.nonce)) s else none := by
  refine (value_perform_bind () (chip.scheme.signWithAuth c.nonce key digest) f s).trans ?_
  rw [Scheme.signWithAuth]
  cases s.keys key with
  | none => rfl
  | some k => exact Option.bind_ite_none _ _ _

@[simp] theorem value_sign_null (key : Nat) (digest : List UInt8) :
    value ((chip.context c.calm).sign .null key digest) s =
      (s.keys key).bind fun k ↦
        if k.Authorized then some (chip.scheme.sign k.secret digest c.nonce) else none := by
  refine (value_perform () (chip.scheme.signWithAuth c.nonce key digest) s).trans ?_
  rw [Scheme.signWithAuth]
  cases s.keys key with
  | none => rfl
  | some k => exact Option.map_ite_none _ _ _

@[simp] theorem value_sign_policy (session key : Nat) (digest : List UInt8) :
    value ((chip.context c.calm).sign (.policy session) key digest) s =
      (s.keys key).bind fun k ↦ (s.sessions session).bind fun x ↦
        if k.AuthorizedBy x signCode then some (chip.scheme.sign k.secret digest c.nonce)
        else none := by
  refine (value_perform () (chip.scheme.signWithPolicy c.nonce session key digest) s).trans ?_
  rw [Scheme.signWithPolicy]
  cases s.keys key with
  | none => rfl
  | some k =>
    cases s.sessions session with
    | none => rfl
    | some x => exact Option.map_ite_none _ _ _

@[simp] theorem value_verifySignature_bind (key : Nat) (digest : List UInt8)
    (signature : List UInt8 × List UInt8) (f : List UInt8 → Handler State Unit β) :
    value ((chip.context c.calm).verifySignature key digest signature >>= f) s =
      (s.keys key).bind fun k ↦ if chip.scheme.verify k.publicArea digest signature then
        value (f (chip.scheme.ticket (chip.scheme.name k.publicArea) digest)) s else none := by
  refine (value_perform_bind () (chip.scheme.verifySignature key digest signature) f s).trans ?_
  rw [Scheme.verifySignature]
  cases s.keys key with
  | none => rfl
  | some k => exact Option.bind_ite_none _ _ _

@[simp] theorem value_startAuthSession_bind (n : Nat) (kind : SessionType)
    (f : Nat → Handler State Unit β) :
    value ((chip.context c.calm).startAuthSession n kind >>= f) s =
      value (f s.next) (s.start ⟨decide (kind = .trial), emptyDigest, none⟩) :=
  value_perform_bind () (Scheme.startSession (decide (kind = .trial))) f s

@[simp] theorem value_policyPcr_bind (n session : Nat) (digest : List UInt8) (slots : List UInt32)
    (f : Unit → Handler State Unit β) :
    value ((chip.context c.calm).policyPcr n session digest slots >>= f) s =
      (s.sessions session).bind fun x ↦
        if x.trial ∨ digest = checkedDigest crates slots s.pcrs then
          value (f ()) (s.setSession session
            { x with
              digest := extendPcr crates.sha256 x.digest (marshalSelection (selects slots))
                digest })
        else none := by
  refine (value_perform_bind () (chip.scheme.policyPcr session digest (selects slots)) f s).trans ?_
  rw [Scheme.policyPcr, chip.hash]
  cases s.sessions session with
  | none => rfl
  | some x => exact Option.bind_ite_none _ _ _

@[simp] theorem value_policyGetDigest_bind (n session : Nat)
    (f : List UInt8 → Handler State Unit β) :
    value ((chip.context c.calm).policyGetDigest n session >>= f) s =
      (s.sessions session).bind fun x ↦ value (f x.digest) s := by
  refine (value_perform_bind () (Scheme.getDigest session) f s).trans ?_
  rw [Scheme.getDigest, Option.bind_map]
  rfl

@[simp] theorem value_policyAuthorize_bind (session : Nat)
    (approved policyRef name ticket : List UInt8) (f : Unit → Handler State Unit β) :
    value ((chip.context c.calm).policyAuthorize session approved policyRef name ticket >>= f) s =
      (s.sessions session).bind fun x ↦
        if chip.scheme.checks x → x.digest = approved ∧
            ticket = chip.scheme.ticket name (policyWithRefHash crates approved policyRef) then
          value (f ()) (s.setSession session
            { x with digest := authorizedDigest crates.sha256 name policyRef })
        else none := by
  refine (value_perform_bind () (chip.scheme.policyAuthorize session approved policyRef name ticket)
    f s).trans ?_
  rw [Scheme.policyAuthorize, chip.hash, policyWithRefHash]
  cases s.sessions session with
  | none => rfl
  | some x => exact Option.bind_ite_none _ _ _

@[simp] theorem value_policyCommandCode_bind (session : Nat) (f : Unit → Handler State Unit β) :
    value ((chip.context c.calm).policyCommandCode session >>= f) s =
      (s.sessions session).bind fun x ↦ value (f ()) (s.setSession session
        { x with
          digest := extendCommandCode crates.sha256 x.digest signCode
          command := some signCode }) := by
  refine (value_perform_bind () (chip.scheme.policyCommandCode session signCode) f s).trans ?_
  rw [Scheme.policyCommandCode, Option.bind_map, chip.hash]
  rfl

@[simp] theorem value_objectChangeAuth_bind (object parent : Nat) (authValue : List UInt8)
    (f : List UInt8 → Handler State Unit β) :
    value ((chip.context c.calm).objectChangeAuth object parent authValue >>= f) s =
      (s.keys object).bind fun k ↦ if k.Authorized ∧ s.parents parent then
        value (f (chip.scheme.protect k.publicArea k.secret authValue)) s else none := by
  refine (value_perform_bind () (chip.scheme.changeAuth object parent authValue) f s).trans ?_
  rw [Scheme.changeAuth]
  cases s.keys object with
  | none => rfl
  | some k => exact Option.bind_ite_none _ _ _

end

/-! ## The functions of the wrapper -/

section
variable (chip c)

@[simp] theorem context_isName_name (publicArea : List UInt8) :
    (chip.context c).isName (chip.scheme.name publicArea) = true := chip.isName_name publicArea

@[simp] theorem context_marshalSignature :
    (chip.context c).marshalSignature = chip.marshalSignature := rfl

@[simp] theorem context_unmarshalSignature :
    (chip.context c).unmarshalSignature = chip.unmarshalSignature := rfl

@[simp] theorem context_flushContext : (chip.context c).flushContext = State.flush := rfl

@[simp] theorem extendPcr_empty (slots : List UInt32) (digest : List UInt8) :
    extendPcr crates.sha256 emptyDigest (marshalSelection (selects slots)) digest =
      pcrPolicy crates slots digest := rfl

@[simp] theorem length_pcrPolicy (slots : List UInt32) (digest : List UInt8) :
    (pcrPolicy crates slots digest).length = 32 := crates.length_sha256 _

@[simp] theorem extendCommandCode_authorized (name policyRef : List UInt8) :
    extendCommandCode crates.sha256 (authorizedDigest crates.sha256 name policyRef) signCode =
      authorizedPolicy crates name policyRef := rfl

end

/-- A chip accepts its own signatures. -/
theorem verify_own {key : TpmCredential} {k : Key} (h : chip.keyIn key = some k)
    (digest nonce : List UInt8) :
    chip.scheme.verify k.publicArea digest (chip.scheme.sign k.secret digest nonce) = true := by
  rw [keyIn] at h
  split at h
  · obtain ⟨hpublic, -, hpaired, -⟩ := Scheme.paired_of_openKey chip.lawful h
    rw [hpublic]
    exact (chip.lawful.verify_sign _ _ _ _ _).mpr ⟨hpaired, rfl⟩
  · cases h

variable (host : TpmDevice)

theorem value_createSecureBootPolicy :
    value (Tpm.createSecureBootPolicy (chip.context c.calm) crates tpm) s =
      createSecureBootPolicy crates (chip.device host c s.pcrs) tpm := by
  simp [Tpm.createSecureBootPolicy, Tpm.flush, createSecureBootPolicy, TpmFido2.currentPcrDigest,
    device, pcrDigest]

theorem value_createCredentialKey (policy : Option PcrPolicyBinding)
    (authValue : Option (List UInt8)) :
    value (Tpm.createCredentialKeyWithPolicyAndAuth (chip.context c.calm) policy authValue) s =
      createCredentialKey (chip.device host c s.pcrs) policy authValue := by
  have hfits : ∀ o : Option (List UInt8), (∃ b ∈ o, ¬ fits b) ↔ ¬ fitsAuth o := by
    intro o
    simp [fitsAuth]
  have hcreate : ∀ f : _ → Handler State Unit TpmCredential, value
      (attempt ((chip.context c.calm).create s.next (policy.map PcrPolicyBinding.digest)
          authValue.isSome authValue) >>= fun x : Except Unit _ ↦
        Handler.modify (State.flush s.next) >>= fun _ ↦ ofExcept x >>= f) s.holdParent =
      (chip.newKey c.seed s.next ⟨(policy.map PcrPolicyBinding.digest).getD [], authValue.isSome⟩
        (authValue.getD []) s.holdParent).bind fun p ↦ value (f p.1) (State.flush s.next p.2) :=
    fun f ↦ value_attempt_bind _ _ _ _ _
  simp only [Tpm.createCredentialKeyWithPolicyAndAuth, value_createPrimary_bind,
    value_throwIf_bind, hfits, Tpm.flush, context_flushContext, hcreate]
  by_cases hdigest : fitsAuth (policy.map PcrPolicyBinding.digest)
  · by_cases hauth : fitsAuth authValue
    · simp [createCredentialKey, device, hdigest, hauth, newKey, Scheme.create]
    · simp [createCredentialKey, device, hdigest, hauth]
  · simp [createCredentialKey, device, hdigest]

theorem value_signRecoveryPolicy (authority : TpmCredential) {approved : List UInt8}
    (policyRef : List UInt8) (h : approved.length = 32) :
    value (Tpm.signRecoveryPolicy (chip.context c.calm) crates authority approved policyRef) s =
      (chip.device host c s.pcrs).signWithAuthority authority
        (policyWithRefHash crates approved policyRef) := by
  simp [Tpm.signRecoveryPolicy, Tpm.flush, device, authorityIn, h, apply_ite]

theorem value_changeKeyAuth (key : TpmCredential) (newAuthValue : List UInt8) :
    value (Tpm.changeKeyAuth (chip.context c.calm) key newAuthValue) s =
      changeKeyAuth (chip.device host c s.pcrs) key newAuthValue := by
  cases hk : chip.keyIn key with
  | none => simp [Tpm.changeKeyAuth, changeKeyAuth, device, authorityIn, hk]
  | some k =>
    by_cases hfits : fitsAuth key.authValue
    · by_cases hauth : Key.Authorized { k with hostAuth := key.authValue.getD k.hostAuth }
      · simp [Tpm.changeKeyAuth, Tpm.flush, changeKeyAuth, device, authorityIn, hk, hfits, hauth,
          apply_ite]
      · simp [Tpm.changeKeyAuth, changeKeyAuth, device, authorityIn, hk, hfits, hauth]
    · simp [Tpm.changeKeyAuth, changeKeyAuth, device, authorityIn, hk, hfits]

/-- The authority's name has to be given as it is. -/
theorem value_updateAuthorizedPolicy (authority : TpmCredential)
    (authorityName policyRef : List UInt8)
    (h : ∀ k, chip.keyIn authority = some k → authorityName = chip.scheme.name k.publicArea) :
    value (Tpm.updateAuthorizedPolicy (chip.context c.calm) crates tpm authority authorityName
      policyRef) s =
      updateAuthorizedPolicy crates (chip.device host c s.pcrs) tpm authority authorityName
        policyRef := by
  cases hk : chip.keyIn authority with
  | none =>
    simp [Tpm.updateAuthorizedPolicy, Tpm.flush, updateAuthorizedPolicy,
      TpmFido2.currentPcrDigest, device, authorityIn, hk]
  | some k =>
    cases h k hk
    by_cases hfits : fitsAuth authority.authValue
    · by_cases hauth : Key.Authorized { k with hostAuth := authority.authValue.getD k.hostAuth }
      · by_cases href : fits policyRef
        · simp [Tpm.updateAuthorizedPolicy, Tpm.flush, updateAuthorizedPolicy,
            TpmFido2.currentPcrDigest, device, authorityIn, hk, hfits, hauth, href, verify_own hk,
            chip.isName_name, pcrDigest]
        · simp [Tpm.updateAuthorizedPolicy, Tpm.flush, updateAuthorizedPolicy,
            TpmFido2.currentPcrDigest, device, authorityIn, hk, hfits, hauth, href]
      · simp [Tpm.updateAuthorizedPolicy, Tpm.flush, updateAuthorizedPolicy,
          TpmFido2.currentPcrDigest, device, authorityIn, hk, hfits, hauth]
    · simp [Tpm.updateAuthorizedPolicy, Tpm.flush, updateAuthorizedPolicy,
        TpmFido2.currentPcrDigest, device, authorityIn, hk, hfits]

/-- What is approved has to be the policy of the moment. -/
theorem value_createAuthorizedPolicy (approved : PcrPolicyBinding) (authority : TpmCredential)
    (policyRef : List UInt8) (h : approved.digest = pcrPolicy crates tpm.pcrSelectionList
      (pcrDigest crates tpm.pcrSelectionList s.pcrs)) :
    value (Tpm.createAuthorizedPolicy (chip.context c.calm) crates tpm approved authority
      policyRef) s =
      createAuthorizedPolicy crates (chip.device host c s.pcrs) tpm approved authority
        policyRef := by
  obtain ⟨selection, digest, _, _, _⟩ := approved
  dsimp only at h
  subst h
  cases hk : chip.keyIn authority with
  | none =>
    simp [Tpm.createAuthorizedPolicy, Tpm.signRecoveryPolicy, createAuthorizedPolicy,
      Handler.bind_assoc, device, authorityIn, hk]
  | some k =>
    by_cases hfits : fitsAuth authority.authValue
    · by_cases hauth : Key.Authorized { k with hostAuth := authority.authValue.getD k.hostAuth }
      · by_cases href : fits policyRef
        · simp [Tpm.createAuthorizedPolicy, Tpm.signRecoveryPolicy, createAuthorizedPolicy,
            Handler.bind_assoc, Tpm.flush, device, authorityIn, chip.unmarshal_marshal, hk, hfits,
            hauth, href, verify_own hk, chip.isName_name]
        · simp [Tpm.createAuthorizedPolicy, Tpm.signRecoveryPolicy, createAuthorizedPolicy,
            Handler.bind_assoc, Tpm.flush, device, authorityIn, chip.unmarshal_marshal, hk, hfits,
            hauth, href]
      · simp [Tpm.createAuthorizedPolicy, Tpm.signRecoveryPolicy, createAuthorizedPolicy,
          Handler.bind_assoc, device, authorityIn, hk, hfits, hauth]
    · simp [Tpm.createAuthorizedPolicy, Tpm.signRecoveryPolicy, createAuthorizedPolicy,
        Handler.bind_assoc, device, authorityIn, hk, hfits]

/-! ## Signing -/

@[simp] theorem authorizedBy_policy (k : Key) (digest : List UInt8) :
    k.AuthorizedBy ⟨false, digest, none⟩ signCode ↔ digest = k.template.authPolicy := by
  simp only [Key.AuthorizedBy, true_and, Option.not_mem_none, false_imp_iff, forall_const, and_true]
  exact eq_comm

@[simp] theorem authorizedBy_policy_sign (k : Key) (digest : List UInt8) :
    k.AuthorizedBy ⟨false, digest, some signCode⟩ signCode ↔ digest = k.template.authPolicy := by
  simp only [Key.AuthorizedBy, true_and, Option.mem_some_iff, forall_eq', and_true]
  exact eq_comm

theorem value_signPlain {key : Nat} {k : Key} (hkey : s.keys key = some k) (digest : List UInt8) :
    value (Tpm.signPlain (chip.context c.calm) crates tpm key digest) s =
      if PassesPcrs crates tpm.pcrSelectionList s.pcrs ∧
          pcrPolicy crates tpm.pcrSelectionList (pcrDigest crates tpm.pcrSelectionList s.pcrs) =
            k.template.authPolicy then some (chip.scheme.sign k.secret digest c.nonce)
      else none := by
  by_cases hpcrs : PassesPcrs crates tpm.pcrSelectionList s.pcrs <;>
    simp [Tpm.signPlain, hkey, hpcrs]

theorem value_signAuthorized {parent key : Nat} {k : Key} (hparent : s.parents parent = true)
    (hkey : s.keys key = some k) (hlt : key < s.next) (authority : TpmCredential)
    (policyRef authorityName authoritySignature digest : List UInt8) :
    value (Tpm.signAuthorized (chip.context c.calm) crates tpm parent key authority policyRef
      authorityName authoritySignature digest) s =
      if PassesPcrs crates tpm.pcrSelectionList s.pcrs ∧ (chip.keyIn authority).bind (fun a ↦
          if chip.scheme.name a.publicArea = authorityName ∧ fitsAuth authority.authValue ∧
              chip.approves a (pcrPolicy crates tpm.pcrSelectionList
                (pcrDigest crates tpm.pcrSelectionList s.pcrs)) policyRef authoritySignature ∧
              fits policyRef then some (authorizedPolicy crates authorityName policyRef)
          else none) = some k.template.authPolicy then
        some (chip.scheme.sign k.secret digest c.nonce)
      else none := by
  have hne : key ≠ s.next + 1 := by omega
  by_cases hpcrs : PassesPcrs crates tpm.pcrSelectionList s.pcrs
  swap
  · simp [Tpm.signAuthorized, hpcrs]
  cases ha : chip.keyIn authority with
  | none => simp [Tpm.signAuthorized, hparent, ha]
  | some a =>
    by_cases hname : chip.scheme.name a.publicArea = authorityName
    · subst hname
      cases hsig : chip.unmarshalSignature authoritySignature with
      | none => simp [Tpm.signAuthorized, approves, hparent, ha, hsig]
      | some signature =>
        simp [Tpm.signAuthorized, approves, hparent, hkey, hne, ha, hsig, hpcrs, ite_and]
    · simp [Tpm.signAuthorized, hparent, ha, hname]

theorem value_signLoaded {parent key : Nat} {k : Key} (hparent : s.parents parent = true)
    (hkey : s.keys key = some k) (hlt : key < s.next) (policy : PcrPolicyBinding)
    (authority : Option TpmCredential) (digest : List UInt8) :
    value (Tpm.signLoaded (chip.context c.calm) crates tpm parent key (some policy) authority
      digest) s =
      if PassesPcrs crates tpm.pcrSelectionList s.pcrs ∧
          chip.sessionPolicy tpm.pcrSelectionList s.pcrs policy authority =
            some k.template.authPolicy then some (chip.scheme.sign k.secret digest c.nonce)
      else none := by
  obtain ⟨selection, digest', policyRef, authorityName, authoritySignature⟩ := policy
  unfold Tpm.signLoaded sessionPolicy
  dsimp only
  split
  · exact value_signAuthorized hparent hkey hlt _ _ _ _ _
  · simp only [value_signPlain hkey, Option.some.injEq]

theorem value_signDigestWithPolicy (credential : TpmCredential) (policy : Option PcrPolicyBinding)
    (authority : Option TpmCredential) (digest : List UInt8) :
    value (Tpm.signDigestWithPolicy (chip.context c.calm) crates tpm credential policy authority
      digest) s =
      signDigestWithPolicy (chip.device host c s.pcrs) tpm credential policy authority digest := by
  by_cases hlength : digest.length = 32
  · cases hk : chip.keyIn credential with
    | none => simp [Tpm.signDigestWithPolicy, signDigestWithPolicy, device, signature, hk, hlength]
    | some k =>
      have hparent : (s.holdParent.holdKey k).parents s.next = true := by simp
      have hkey : (s.holdParent.holdKey k).keys (s.next + 1) = some k := by simp
      have hlt : s.next + 1 < (s.holdParent.holdKey k).next := by simp
      cases policy with
      | none =>
        simp [Tpm.signDigestWithPolicy, signDigestWithPolicy, Tpm.signLoaded, device, signature,
          hk, hlength, Option.bind_ite_none]
      | some policy =>
        simp [Tpm.signDigestWithPolicy, signDigestWithPolicy, device, signature, hk, hlength,
          value_signLoaded hparent hkey hlt, Option.bind_ite_none]
  · simp [Tpm.signDigestWithPolicy, signDigestWithPolicy, hlength]

end Chip
end TpmFido2
