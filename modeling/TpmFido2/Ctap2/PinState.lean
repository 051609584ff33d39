import TpmFido2.Ctap2.PinEffects
import TpmFido2.Ctap2.Sample

/-!
# The PIN across failures and restarts

What requests are checked against is the PIN state in memory; what survives a restart is the row.
Three places can part the two: the counter is changed in memory before it is written, a reset
drops the PIN from memory whether or not the row could be deleted, and a start that cannot read
the row goes on without a PIN.  `countsPin`, `removesPin` and `loadsPin` say of a step that the
access it makes there succeeds.

* **`pinGuarded_of_loads`**: as long as starts can read the row and resets can delete it, no step
  sets a PIN over an existing one, and the row's PIN is only changed with the current PIN, or
  removed by a reset.
* **`pinDurable_of_works`**: as long as all three succeed, memory and row agree after every step;
  and from a state in which they agree, a request keeps them so exactly if its accesses succeed.
* **`pinLockOut_of_works`**: then the counter is what the specification of the protocol wants.  At
  most eight comparisons fail before the counter is filled again, and when it has reached zero, no
  PIN helps.
-/

set_option autoImplicit false

namespace TpmFido2
namespace Ctap2

open Handler

open Store (pinWritable pinReadable)

/-! ## Accesses that succeed -/

section
variable (crates : Crates)

/-- A start reads the row, if there is one. -/
def loadsPin (w : World) (event : Event) : Bool :=
  match event with
  | .start env _ => w.store.clientPin.isNone || pinReadable crates (env.store 1) w.store
  | _ => true

/-- An approved reset deletes the row, if there is a PIN. -/
def removesPin (w : World) (event : Event) : Bool :=
  match event with
  | .cbor env _ => !approvedReset w event || w.auth.clientPin.isNone || w.store.clientPin.isNone ||
      !((env.store 0).io || (env.store 0).statement)
  | _ => true

/-- The state a comparison makes the authenticator write. -/
def countedPin (pin : StoredClientPinState) (pinHash : List UInt8) : Option StoredClientPinState :=
  if pinMatches crates pin pinHash then
    if pin.retries = 8 then none else some (pin.withRetries 8)
  else some (pin.withRetries (pin.retries - 1))

/-- A comparison writes the counter. -/
def countsPin (w : World) (event : Event) : Bool :=
  match pinRequest crates event, comparison crates w event with
  | some (env, _, _), some (pin, pinHash) =>
    (countedPin crates pin pinHash).all (pinWritable (env.store 0) w.store)
  | _, _ => true

/-- The accesses of a step to the PIN row succeed. -/
def pinStoreWorks (w : World) (event : Event) : Bool :=
  loadsPin crates w event && removesPin w event && countsPin crates w event

/-! ## The properties -/

/-- The comparison of a step fails. -/
def comparisonFails (t : Step) : Bool :=
  (comparison crates t.before t.input).any fun x ↦ !pinMatches crates x.1 x.2

/-- A step fills the counter: it sets a PIN, or presents the right one. -/
def fillsCounter (t : Step) : Bool :=
  (pinRequest crates t.input).any (fun x ↦ x.2.1 = .setPin) && t.output.succeeded ||
    (comparison crates t.before t.input).any fun x ↦ pinMatches crates x.1 x.2

/-- The sub-commands that need the PIN. -/
def ClientPinSubCommand.needsPin : ClientPinSubCommand → Bool
  | .changePin | .getPinUvAuthToken => true
  | _ => false

/-- The PIN in the row is what it was, with any counter and integrity code. -/
def SamePinRow (row row' : ClientPinRow) : Prop :=
  row'.pinSalt = row.pinSalt ∧ row'.pinVerifier = row.pinVerifier

/-- A step is a changePIN that presented the PIN in the row. -/
def PresentsPin (row : ClientPinRow) (t : Step) : Prop :=
  ∃ env request pinHash, pinRequest crates t.input = some (env, .changePin, request) ∧
    presentedHash crates t.before.auth .changePin request = some pinHash ∧
    pinMatches crates (Store.pinStateOfRow row) pinHash ∧ t.output.succeeded

/-- A step does not get around the PIN in the row. -/
structure PinGuarded (t : Step) : Prop where
  notSet : ∀ row env request, t.before.store.clientPin = some row →
    pinRequest crates t.input = some (env, .setPin, request) → ¬ t.output.succeeded
  kept : ∀ row, t.before.store.clientPin = some row →
    (∃ row', t.after.store.clientPin = some row' ∧ SamePinRow row row') ∨
      PresentsPin crates row t ∨ approvedReset t.before t.input ∧ t.after.store.clientPin = none

/-- The PIN state in memory is that of the row. -/
def PinAgrees (w : World) : Prop := w.auth.clientPin = w.store.clientPin.map Store.pinStateOfRow

instance : DecidablePred PinAgrees := fun w ↦
  inferInstanceAs (Decidable (w.auth.clientPin = w.store.clientPin.map Store.pinStateOfRow))

/-- After a step memory and row agree; a wrong PIN has been counted in the row, and after a reset
there is none. -/
structure PinDurable (t : Step) : Prop where
  agrees : PinAgrees t.after
  counted : comparisonFails crates t → ∃ pin row, t.before.auth.clientPin = some pin ∧
    t.after.store.clientPin = some row ∧ row.retries + 1 = pin.retries
  removed : approvedReset t.before t.input → t.after.store.clientPin = none

/-- The lock-out, for the run on some events. -/
structure PinLockOut (w : World) (events : List Event) : Prop where
  agrees : PinAgrees (after crates w events)
  bounded : ∀ pin, (after crates w events).auth.clientPin = some pin → pin.retries ≤ 8
  lowered : ∀ t ∈ run crates w events, comparisonFails crates t →
    ∃ pin pin', t.before.auth.clientPin = some pin ∧ t.after.auth.clientPin = some pin' ∧
      pin'.retries + 1 = pin.retries
  limited : (∀ t ∈ run crates w events, ¬ fillsCounter crates t) →
    (run crates w events).countP (comparisonFails crates) ≤ 8
  blocked : (∃ pin, w.auth.clientPin = some pin ∧ pin.retries = 0) →
    (∀ t ∈ run crates w events, ¬ approvedReset t.before t.input) → ∀ t ∈ run crates w events,
      (pinRequest crates t.input).any (fun x ↦ x.2.1.needsPin) → ¬ t.output.succeeded

end

variable {crates : Crates} {env : Env} {w w' : World} {event : Event} {reply : Reply}

/-! ## What is compared -/

theorem comparison_some {pin : StoredClientPinState} {pinHash : List UInt8}
    (h : comparison crates w event = some (pin, pinHash)) :
    w.auth.clientPin = some pin ∧ pin.retries ≠ 0 ∧
      ∃ env subCommand request, pinRequest crates event = some (env, subCommand, request) ∧
        presentedHash crates w.auth subCommand request = some pinHash := by
  rw [comparison] at h
  split at h
  · next env subCommand request pin' hreq hpin =>
    split at h
    · cases h
    · next hretries =>
      obtain ⟨pinHash', hhash, heq⟩ := Option.map_eq_some_iff.mp h
      cases heq
      exact ⟨hpin, hretries, env, subCommand, request, hreq, hhash⟩
  · cases h

/-- A request that sets a PIN compares none. -/
theorem comparison_setPin {request : Entries}
    (hreq : pinRequest crates event = some (env, .setPin, request)) :
    comparison crates w event = none := comparison_of_hash_none hreq rfl

theorem approvedReset_of_approved {payload body : List UInt8} (he : event = .cbor env payload)
    (hp : parsePayload payload = some (.reset, body))
    (happroved : w.auth.assertionApproved env 0 "reset") : approvedReset w event := by
  simp [approvedReset, he, hp, happroved]

/-! ## The PIN in the row -/

/-- Salt and verifier in memory. -/
def memoryPin (w : World) : Option (List UInt8 × List UInt8) :=
  w.auth.clientPin.map fun pin ↦ (pin.pinSalt, pin.pinVerifier)

/-- Salt and verifier in the row. -/
def rowPin (s : Store) : Option (List UInt8 × List UInt8) :=
  s.clientPin.map fun row ↦ (row.pinSalt, row.pinVerifier)

theorem RowHolds.rowPin {state : StoredClientPinState} {s : Store} (h : RowHolds state s) :
    rowPin s = some (state.pinSalt, state.pinVerifier) := by
  obtain ⟨row, hrow, hstate⟩ := Option.map_eq_some_iff.mp h
  rw [Ctap2.rowPin, hrow, ← hstate]
  rfl

theorem rowPin_congr {s t : Store} (h : t.clientPin = s.clientPin) : rowPin t = rowPin s := by
  rw [rowPin, h, rowPin]

theorem RowAfter.rowPin {fault : StoreFault} {pin : StoredClientPinState} {n : Nat} {s t : Store}
    (h : RowAfter fault (pin.withRetries n) s t)
    (hs : rowPin s = some (pin.pinSalt, pin.pinVerifier)) :
    rowPin t = some (pin.pinSalt, pin.pinVerifier) := by
  cases h with
  | saved h _ => exact h.rowPin
  | failed h _ => exact (rowPin_congr h).trans hs

theorem Restored.rowPin {fault : StoreFault} {pin : StoredClientPinState} {s t : Store}
    (h : Restored fault pin s t)
    (hs : rowPin s = some (pin.pinSalt, pin.pinVerifier)) :
    rowPin t = some (pin.pinSalt, pin.pinVerifier) := by
  cases h with
  | full _ h => exact (rowPin_congr h).trans hs
  | saved h _ => exact h.rowPin

theorem memoryPin_of_comparison {pin : StoredClientPinState} {pinHash : List UInt8}
    (h : comparison crates w event = some (pin, pinHash)) :
    memoryPin w = some (pin.pinSalt, pin.pinVerifier) := by
  rw [memoryPin, (comparison_some h).1, Option.map_some]

/-- If a reset that removes the row leaves it as it was, there was none. -/
theorem clientPin_eq_none_of_removesPin {env : Env} {payload body : List UInt8}
    (hp : parsePayload payload = some (.reset, body))
    (happroved : w.auth.assertionApproved env 0 "reset") (hset : w.auth.clientPin.isSome)
    (hfault : (env.store 0).io ∨ (env.store 0).statement)
    (hremoves : removesPin w (.cbor env payload)) : w.store.clientPin = none := by
  cases hstored : w.store.clientPin with
  | none => rfl
  | some row =>
    have hreset := approvedReset_of_approved rfl hp happroved
    simp [removesPin, hreset, hstored, Option.isSome_iff_ne_none.mp hset] at hremoves
    rcases hfault with hfault | hfault <;> simp [hfault] at hremoves

/-- Where starts and resets succeed, memory and row have the same PIN. -/
theorem PinEffect.samePin (h : PinEffect crates w event reply w') (hloads : loadsPin crates w event)
    (hremoves : removesPin w event) (hw : memoryPin w = rowPin w.store) :
    memoryPin w' = rowPin w'.store := by
  -- the effects of a comparison keep the PIN in the row and in memory
  have compared {pin : StoredClientPinState} {pinHash : List UInt8} {n : Nat}
      (hcompare : comparison crates w event = some (pin, pinHash))
      (hmemory : w'.auth.clientPin = some (pin.withRetries n))
      (hrow : rowPin w.store = some (pin.pinSalt, pin.pinVerifier) →
        rowPin w'.store = some (pin.pinSalt, pin.pinVerifier)) :
      memoryPin w' = rowPin w'.store := by
    rw [hrow (hw.symm.trans (memoryPin_of_comparison hcompare)), memoryPin, hmemory]
    rfl
  have written {state : StoredClientPinState} (hmemory : w'.auth.clientPin = some state)
      (hrow : RowHolds state w'.store) : memoryPin w' = rowPin w'.store := by
    rw [hrow.rowPin, memoryPin, hmemory, Option.map_some]
  cases h with
  | kept h _ _ _ _ _ => rw [memoryPin, h.memory, rowPin_congr h.row, ← hw, memoryPin]
  | set _ _ _ memory row _ _ _ => exact written memory row
  | wrong _ hcompare _ memory row _ _ => exact compared hcompare memory row.rowPin
  | unsaved _ hcompare _ _ memory row _ _ _ =>
    exact compared hcompare memory fun hs ↦ (rowPin_congr row).trans hs
  | unchanged _ hcompare _ memory row _ _ => exact compared hcompare memory row.rowPin
  | changed _ _ _ _ memory row _ _ _ => exact written memory row
  | issued _ hcompare _ memory row _ _ _ => exact compared hcompare memory row.rowPin
  | approved _ _ _ memory row _ _ _ => rw [memoryPin, memory, rowPin_congr row, ← hw, memoryPin]
  | reset he hp happroved _ h memory _ =>
    have hnone : memoryPin w' = none := by rw [memoryPin, memory, Option.map_none]
    rw [hnone]
    rcases h with ⟨hunset, hrow, -⟩ | ⟨hset, -, -, ⟨hrow, -⟩ | ⟨hrow, hfault⟩⟩
    · rw [rowPin_congr hrow, ← hw, memoryPin, hunset, Option.map_none]
    · rw [rowPin, hrow, Option.map_none]
    · rw [rowPin, hrow, clientPin_eq_none_of_removesPin hp happroved hset hfault (he ▸ hremoves),
        Option.map_none]
  | started he _ memory row _ _ =>
    rw [rowPin_congr row]
    rcases memory with hmemory | ⟨hmemory, hfault⟩
    · rw [memoryPin, hmemory, rowPin, Option.map_map]
      rfl
    · cases hstored : w.store.clientPin with
      | none => rw [memoryPin, hmemory, rowPin, hstored, Option.map_none, Option.map_none]
      | some row => simp [loadsPin, he, hstored, hfault] at hloads
  | damaged _ _ memory row _ =>
    rw [memoryPin, memory, ← memoryPin, hw, rowPin, rowPin, row, Option.map_map]
    rfl

theorem exists_row_of_rowPin {s : Store} {row : ClientPinRow}
    (h : rowPin s = some (row.pinSalt, row.pinVerifier)) :
    ∃ row', s.clientPin = some row' ∧ SamePinRow row row' := by
  obtain ⟨row', hrow, heq⟩ := Option.map_eq_some_iff.mp h
  exact ⟨row', hrow, congrArg Prod.fst heq, congrArg Prod.snd heq⟩

theorem pinMatches_congr {pin pin' : StoredClientPinState} (hsalt : pin'.pinSalt = pin.pinSalt)
    (hverifier : pin'.pinVerifier = pin.pinVerifier) (pinHash : List UInt8) :
    pinMatches crates pin' pinHash = pinMatches crates pin pinHash := by
  rw [pinMatches, hsalt, hverifier, pinMatches]

/-- A step from a state in which memory has the PIN of the row does not get around it. -/
theorem PinEffect.guarded (h : PinEffect crates w event reply w')
    (hw : memoryPin w = rowPin w.store) : PinGuarded crates ⟨w, event, reply, w'⟩ := by
  have hmemory {row : ClientPinRow} (hrow : w.store.clientPin = some row) :
      memoryPin w = some (row.pinSalt, row.pinVerifier) := by
    rw [hw, rowPin, hrow, Option.map_some]
  have notUnset {row : ClientPinRow} (hrow : w.store.clientPin = some row) :
      w.auth.clientPin ≠ none := by
    intro hunset
    have hsome := hmemory hrow
    rw [memoryPin, hunset] at hsome
    cases hsome
  refine ⟨fun row env request hrow hreq hok ↦ ?_, fun row hrow ↦ ?_⟩
  · have hcompare : comparison crates w event = none := comparison_setPin hreq
    cases h with
    | kept _ _ hgrants _ _ _ => exact hgrants _ hreq rfl hok
    | set _ unset _ _ _ _ _ _ => exact notUnset hrow unset
    | approved hreq' _ _ _ _ _ _ _ => cases hreq.symm.trans hreq'
    | reset he hp _ _ _ _ _ =>
      rw [he] at hreq
      cases hreq.symm.trans (pinRequest_of_ne _ hp (by decide))
    | started he _ _ _ _ _ =>
      rw [he] at hreq
      cases hreq
    | damaged he _ _ _ _ =>
      rw [he] at hreq
      cases hreq
    | _ => cases hcompare.symm.trans ‹comparison crates w event = some _›
  · -- the PIN a comparison is made with is that of the row
    have compared {pin : StoredClientPinState} {pinHash : List UInt8}
        (hcompare : comparison crates w event = some (pin, pinHash)) :
        pin.pinSalt = row.pinSalt ∧ pin.pinVerifier = row.pinVerifier ∧
          rowPin w.store = some (pin.pinSalt, pin.pinVerifier) := by
      have hpin := memoryPin_of_comparison hcompare
      obtain ⟨hsalt, hverifier⟩ := Prod.mk.inj (Option.some.inj (hpin.symm.trans (hmemory hrow)))
      exact ⟨hsalt, hverifier, hw.symm.trans hpin⟩
    have unchanged (h : w'.store.clientPin = w.store.clientPin) :
        ∃ row', w'.store.clientPin = some row' ∧ SamePinRow row row' :=
      ⟨row, h.trans hrow, rfl, rfl⟩
    cases h with
    | kept h _ _ _ _ _ => exact .inl (unchanged h.row)
    | set _ unset _ _ _ _ _ _ => exact absurd unset (notUnset hrow)
    | wrong _ hcompare _ _ hrow' _ _ =>
      obtain ⟨hsalt, hverifier, hstored⟩ := compared hcompare
      exact .inl (exists_row_of_rowPin (by rw [hrow'.rowPin hstored, hsalt, hverifier]))
    | unsaved _ _ _ _ _ hrow' _ _ _ => exact .inl (unchanged hrow')
    | unchanged _ hcompare _ _ hrow' _ _ =>
      obtain ⟨hsalt, hverifier, hstored⟩ := compared hcompare
      exact .inl (exists_row_of_rowPin (by rw [hrow'.rowPin hstored, hsalt, hverifier]))
    | changed hreq hcompare hmatch _ _ _ _ _ hok =>
      obtain ⟨hsalt, hverifier, -⟩ := compared hcompare
      obtain ⟨-, -, _, _, _, hreq', hhash⟩ := comparison_some hcompare
      cases hreq.symm.trans hreq'
      refine .inr (.inl ⟨_, _, _, hreq, hhash, ?_, hok⟩)
      exact (pinMatches_congr hsalt.symm hverifier.symm _).trans hmatch
    | issued _ hcompare _ _ hrow' _ _ _ =>
      obtain ⟨hsalt, hverifier, hstored⟩ := compared hcompare
      exact .inl (exists_row_of_rowPin (by rw [hrow'.rowPin hstored, hsalt, hverifier]))
    | approved _ _ _ _ hrow' _ _ _ => exact .inl (unchanged hrow')
    | reset he hp happroved _ h _ _ =>
      rcases h with ⟨hunset, -⟩ | ⟨-, -, -, ⟨hrow', -⟩ | ⟨hrow', -⟩⟩
      · exact absurd hunset (notUnset hrow)
      · exact .inr (.inr ⟨approvedReset_of_approved he hp happroved, hrow'⟩)
      · exact .inl (unchanged hrow')
    | started _ _ _ hrow' _ _ => exact .inl (unchanged hrow')
    | damaged _ _ _ hrow' _ =>
      rw [hrow, Option.map_some] at hrow'
      exact .inl ⟨_, hrow', rfl, rfl⟩

/-- What a start leaves, if it could read the row. -/
theorem newAuthenticator_agrees (env : Env) (tpmPath : Option String) {s : Store}
    (h : s.clientPin.isNone || pinReadable crates (env.store 1) s) :
    PinAgrees (newAuthenticator crates env tpmPath s) := by
  obtain ⟨cs, pin, t, he, htables, hpin⟩ := newAuthenticator_pin crates env tpmPath s
  rw [he, PinAgrees, htables.clientPin]
  rcases hpin with hpin | ⟨hpin, hfault⟩
  · exact hpin
  · cases hstored : s.clientPin with
    | none => exact hpin
    | some row => simp [hstored, hfault] at h

theorem PinAgrees.samePin (h : PinAgrees w) : memoryPin w = rowPin w.store := by
  rw [memoryPin, h, Option.map_map]
  rfl

/-- **No way around a stored PIN**, as long as starts can read the row and resets can delete it. -/
theorem pinGuarded_of_loads (crates : Crates) (env : Env) (tpmPath : Option String) (s : Store)
    (events : List Event) (hstart : s.clientPin.isNone || pinReadable crates (env.store 1) s)
    (h : ∀ t ∈ run crates (newAuthenticator crates env tpmPath s) events,
      loadsPin crates t.before t.input ∧ removesPin t.before t.input) :
    ∀ t ∈ run crates (newAuthenticator crates env tpmPath s) events, PinGuarded crates t := by
  intro t ht
  obtain ⟨pre, post, hsplit⟩ := List.append_of_mem ht
  obtain ⟨hbefore, -, heq⟩ := Run.history_invariant_before
    (H := fun _ w ↦ memoryPin w = rowPin w.store)
    (C := fun w event ↦ loadsPin crates w event ∧ removesPin w event)
    (newAuthenticator_agrees env tpmPath hstart).samePin
    (fun _ cur event hcur hc ↦ (step_pinEffect crates cur event).samePin hc.1 hc.2 hcur) h hsplit
  rw [heq]
  exact (step_pinEffect crates t.before t.input).guarded hbefore

namespace Sample

/-- A request for a token with a wrong PIN. -/
def guessToken : Cbor.Value :=
  .map [(.integer 1, .integer 2), (.integer 2, .integer 9), (.integer 3, platformKey),
    (.integer 6, .bytes (List.replicate 16 0 ++ List.replicate 16 1)), (.integer 9, .integer 4)]

/-- The packages of the runs about the PIN: here the verifier of a PIN depends on its hash. -/
def pinPackages : Crates :=
  { packages [getKeyAgreement, setPin [49, 50, 51, 52], getToken, guessToken] with
    pbkdf2 := fun pinHash _ ↦ (pinHash ++ List.replicate 32 0).take 32
    length_pbkdf2 := fun pinHash _ ↦ length_firstBytes pinHash }

/-- The daemon of those runs, on a fresh store. -/
def pinStart : World := newAuthenticator pinPackages (session 1000 0) (some "") Store.fresh

/-- A request that sets the PIN. -/
def setPinEvent : Event := request (session 1000 0) 0x06 (setPin [49, 50, 51, 52])

/-- A start that cannot read the PIN row. -/
def blindStart : Event :=
  .start { session 1000 0 with store := fun n ↦ { noFault with io := n = 1 } } (some "")

/-- Damage to the integrity code, and a start. -/
def damagedStart : List Event := [.damage none (some []), .start (session 1000 0) (some "")]

end Sample

open Sample in
/-- After an orderly restart the PIN is still there. -/
theorem pinGuarded_of_loads_restart :
    let events := choosePin 1000 ++ .start (session 1000 0) (some "") :: choosePin 1000
    (∀ t ∈ run pinPackages pinStart events, PinGuarded pinPackages t) ∧
      (run pinPackages pinStart events).map (fun t ↦ t.output.succeeded) =
        [true, true, false, true, false] :=
  ⟨pinGuarded_of_loads _ _ _ _ _ (by decide +kernel) (by decide +kernel), by decide +kernel⟩

open Sample in
/-- A PIN is set over the one in the row: the row could not be read, or its integrity code was
wrong. -/
theorem setPin_over_unreadable_row :
    [[blindStart], damagedStart].Forall fun restart ↦
      let events := choosePin 1000 ++ restart ++ [request (session 1000 0) 0x06 getKeyAgreement]
      let w := after pinPackages pinStart events
      w.store.clientPin.isSome ∧ (step pinPackages w setPinEvent).1.succeeded ∧
        ¬ ∀ t ∈ run pinPackages pinStart (events ++ [setPinEvent]),
          PinGuarded pinPackages t := by
  refine List.forall_iff_forall_mem.mpr fun restart hrestart ↦ ?_
  have hall : ∀ restart ∈ [[blindStart], damagedStart],
      let events := choosePin 1000 ++ restart ++ [request (session 1000 0) 0x06 getKeyAgreement]
      let w := after pinPackages pinStart events
      w.store.clientPin.isSome ∧ (step pinPackages w setPinEvent).1.succeeded := by decide +kernel
  obtain ⟨hsome, hok⟩ := hall restart hrestart
  refine ⟨hsome, hok, fun h ↦ ?_⟩
  obtain ⟨row, hrow⟩ := Option.isSome_iff_exists.mp hsome
  have hset : (pinRequest pinPackages setPinEvent).any fun x ↦ x.2.1 = .setPin := by decide +kernel
  obtain ⟨⟨env, subCommand, request⟩, hreq, hsub⟩ := (Option.any_eq_true _ _).mp hset
  obtain rfl : subCommand = .setPin := of_decide_eq_true hsub
  rw [run, Run.transitions_concat] at h
  exact (h _ (List.mem_append_right _ (List.mem_singleton_self _))).notSet row env request hrow
    hreq hok

/-! ## Memory and row -/

theorem countsPin_eq {x : Env × ClientPinSubCommand × Entries} {pin : StoredClientPinState}
    {pinHash : List UInt8} (hreq : pinRequest crates event = some x)
    (hcompare : comparison crates w event = some (pin, pinHash)) :
    countsPin crates w event =
      (countedPin crates pin pinHash).all (pinWritable (x.1.store 0) w.store) := by
  simp only [countsPin, hreq, hcompare]

theorem countsPin_of_no_comparison (h : comparison crates w event = none) :
    countsPin crates w event := by
  rw [countsPin, h]
  cases pinRequest crates event <;> rfl

theorem removesPin_of_not_approved (h : ¬ approvedReset w event) : removesPin w event := by
  cases event with
  | cbor env payload => simp [removesPin, h]
  | _ => rfl

theorem RowHolds.agrees {state : StoredClientPinState} (hrow : RowHolds state w'.store)
    (hmemory : w'.auth.clientPin = some state) : PinAgrees w' := hmemory.trans hrow.symm

theorem PinAgrees.congr (hw : PinAgrees w) (hmemory : w'.auth.clientPin = w.auth.clientPin)
    (hrow : w'.store.clientPin = w.store.clientPin) : PinAgrees w' := by
  rw [PinAgrees, hmemory, hrow]
  exact hw

theorem withRetries_eq_self {pin : StoredClientPinState} {n : Nat} (h : pin.retries = n) :
    pin.withRetries n = pin := by
  rw [← h]
  rfl

/-- With the counter full in memory, it is full in the row. -/
theorem Restored.agrees {fault : StoreFault} {pin : StoredClientPinState}
    (h : Restored fault pin w.store w'.store) (hw : PinAgrees w)
    (hpin : w.auth.clientPin = some pin) (hmemory : w'.auth.clientPin = some (pin.withRetries 8)) :
    PinAgrees w' := by
  cases h with
  | full hfull row =>
    rw [withRetries_eq_self hfull] at hmemory
    exact hw.congr (hmemory.trans hpin.symm) row
  | saved hrow _ => exact hrow.agrees hmemory

/-- **A step whose accesses succeed keeps memory and row in agreement.** -/
theorem PinEffect.agrees (h : PinEffect crates w event reply w') (hw : PinAgrees w)
    (hworks : pinStoreWorks crates w event) : PinAgrees w' := by
  simp only [pinStoreWorks, Bool.and_eq_true] at hworks
  obtain ⟨⟨hloads, hremoves⟩, hcounts⟩ := hworks
  cases h with
  | kept h _ _ _ _ _ => exact hw.congr h.memory h.row
  | set _ _ _ memory row _ _ _ => exact row.agrees memory
  | wrong hreq hcompare hmatch memory row _ _ =>
    cases row with
    | saved row _ => exact row.agrees memory
    | failed _ hfault => simp [countsPin_eq hreq hcompare, countedPin, hmatch, hfault] at hcounts
  | unsaved hreq hcompare hmatch hfull _ _ hfault _ _ =>
    simp [countsPin_eq hreq hcompare, countedPin, hmatch, hfull, hfault] at hcounts
  | unchanged _ hcompare _ memory row _ _ => exact row.agrees hw (comparison_some hcompare).1 memory
  | changed _ _ _ _ memory row _ _ _ => exact row.agrees memory
  | issued _ hcompare _ memory row _ _ _ => exact row.agrees hw (comparison_some hcompare).1 memory
  | approved _ _ _ memory row _ _ _ => exact hw.congr memory row
  | reset he hp happroved _ h memory _ =>
    rw [PinAgrees, memory]
    rcases h with ⟨hunset, hrow, -⟩ | ⟨hset, -, -, ⟨hrow, -⟩ | ⟨hrow, hfault⟩⟩
    · rw [hrow, ← hw, hunset]
    · rw [hrow, Option.map_none]
    · rw [hrow, clientPin_eq_none_of_removesPin hp happroved hset hfault (he ▸ hremoves),
        Option.map_none]
  | started he _ memory row _ _ =>
    rw [PinAgrees, row]
    rcases memory with hmemory | ⟨hmemory, hfault⟩
    · exact hmemory
    · cases hstored : w.store.clientPin with
      | none => exact hmemory
      | some row => simp [loadsPin, he, hstored, hfault] at hloads
  | damaged _ _ memory row _ =>
    rw [PinAgrees, memory, hw, row, Option.map_map]
    rfl

/-- A request that keeps them in agreement had its accesses succeed. -/
theorem PinEffect.works {payload : List UInt8}
    (h : PinEffect crates w (.cbor env payload) reply w') (hw : PinAgrees w) (hw' : PinAgrees w') :
    pinStoreWorks crates w (.cbor env payload) := by
  suffices hboth : removesPin w (.cbor env payload) ∧ countsPin crates w (.cbor env payload) by
    simp only [pinStoreWorks, Bool.and_eq_true]
    exact ⟨⟨rfl, hboth.1⟩, hboth.2⟩
  have requested {x : Env × ClientPinSubCommand × Entries}
      (hreq : pinRequest crates (.cbor env payload) = some x) : removesPin w (.cbor env payload) :=
    removesPin_of_not_approved (not_approvedReset hreq)
  -- a row that stayed as it was has the counter there was
  have stale {pin : StoredClientPinState} {pinHash : List UInt8} {n : Nat}
      (hcompare : comparison crates w (.cbor env payload) = some (pin, pinHash))
      (hmemory : w'.auth.clientPin = some (pin.withRetries n))
      (hrow : w'.store.clientPin = w.store.clientPin) : pin.retries = n := by
    have heq : some (pin.withRetries n) = some pin := by
      rw [← hmemory, hw', hrow, ← hw, (comparison_some hcompare).1]
    exact congrArg StoredClientPinState.retries (Option.some.inj heq).symm
  have full {x : Env × ClientPinSubCommand × Entries} {pin : StoredClientPinState}
      {pinHash : List UInt8} (hreq : pinRequest crates (.cbor env payload) = some x)
      (hcompare : comparison crates w (.cbor env payload) = some (pin, pinHash))
      (hmatch : pinMatches crates pin pinHash)
      (h : pin.retries = 8 ∨ pinWritable (x.1.store 0) w.store (pin.withRetries 8)) :
      countsPin crates w (.cbor env payload) := by
    rw [countsPin_eq hreq hcompare, countedPin, if_pos hmatch]
    rcases h with h | h
    · rw [if_pos h]
      rfl
    · split
      · rfl
      · exact h
  cases h with
  | kept _ hcompare _ _ happroved _ =>
    exact ⟨removesPin_of_not_approved happroved, countsPin_of_no_comparison hcompare⟩
  | set hreq _ hcompare _ _ _ _ _ => exact ⟨requested hreq, countsPin_of_no_comparison hcompare⟩
  | wrong hreq hcompare hmatch memory row _ _ =>
    refine ⟨requested hreq, ?_⟩
    cases row with
    | saved _ hwritable =>
      rw [countsPin_eq hreq hcompare, countedPin, if_neg hmatch]
      exact hwritable
    | failed hrow _ =>
      have hcounter := stale hcompare memory hrow
      have hzero := (comparison_some hcompare).2.1
      omega
  | unsaved hreq hcompare _ hfull memory hrow _ _ _ =>
    exact absurd (stale hcompare memory hrow) hfull
  | unchanged hreq hcompare hmatch _ row _ _ =>
    exact ⟨requested hreq, full hreq hcompare hmatch row.full_or_writable⟩
  | changed hreq hcompare hmatch counted _ _ _ _ _ =>
    exact ⟨requested hreq, full hreq hcompare hmatch counted⟩
  | issued hreq hcompare hmatch _ row _ _ _ =>
    exact ⟨requested hreq, full hreq hcompare hmatch row.full_or_writable⟩
  | approved hreq hcompare _ _ _ _ _ _ =>
    exact ⟨requested hreq, countsPin_of_no_comparison hcompare⟩
  | reset he _ _ hcompare h memory _ =>
    cases he
    refine ⟨?_, countsPin_of_no_comparison hcompare⟩
    rcases h with ⟨hunset, -⟩ | ⟨-, -, -, ⟨-, hfault⟩ | ⟨hrow, -⟩⟩
    · simp [removesPin, hunset]
    · rw [not_or] at hfault
      simp [removesPin, hfault]
    · have hnone : w.store.clientPin = none := by
        rw [PinAgrees, memory, hrow] at hw'
        simpa using hw'.symm
      simp [removesPin, hnone]
  | started he _ _ _ _ _ => cases he
  | damaged he _ _ _ _ => cases he

/-- A wrong PIN is counted in memory. -/
theorem PinEffect.lowered (h : PinEffect crates w event reply w')
    (hfails : comparisonFails crates ⟨w, event, reply, w'⟩) :
    ∃ pin, w.auth.clientPin = some pin ∧ pin.retries ≠ 0 ∧
      w'.auth.clientPin = some (pin.withRetries (pin.retries - 1)) := by
  obtain ⟨⟨pin, pinHash⟩, hcompare, hmatch⟩ := (Option.any_eq_true _ _).mp hfails
  replace hcompare : comparison crates w event = some (pin, pinHash) := hcompare
  replace hmatch : pinMatches crates pin pinHash = false := by simpa using hmatch
  -- every other effect has no comparison, or one that succeeds
  cases h with
  | wrong _ hcompare' _ memory _ _ _ =>
    cases hcompare.symm.trans hcompare'
    exact ⟨pin, (comparison_some hcompare).1, (comparison_some hcompare).2.1, memory⟩
  | unsaved _ hcompare' h _ _ _ _ _ _ => cases hcompare.symm.trans hcompare'; simp [hmatch] at h
  | unchanged _ hcompare' h _ _ _ _ => cases hcompare.symm.trans hcompare'; simp [hmatch] at h
  | changed _ hcompare' h _ _ _ _ _ _ => cases hcompare.symm.trans hcompare'; simp [hmatch] at h
  | issued _ hcompare' h _ _ _ _ _ => cases hcompare.symm.trans hcompare'; simp [hmatch] at h
  | _ => cases hcompare.symm.trans ‹comparison crates w event = none›

/-- After an approved reset there is no PIN in memory. -/
theorem PinEffect.unset_of_reset (h : PinEffect crates w event reply w')
    (hreset : approvedReset w event) : w'.auth.clientPin = none := by
  cases h with
  | reset _ _ _ _ _ memory _ => exact memory
  | kept _ _ _ _ happroved _ => exact absurd hreset happroved
  | started he _ _ _ _ _ => rw [he] at hreset; cases hreset
  | damaged he _ _ _ _ => rw [he] at hreset; cases hreset
  -- the others are requests of clientPIN
  | _ => exact absurd hreset (not_approvedReset (by assumption))

theorem PinEffect.durable (h : PinEffect crates w event reply w') (hw' : PinAgrees w') :
    PinDurable crates ⟨w, event, reply, w'⟩ where
  agrees := hw'
  counted hfails := by
    obtain ⟨pin, hpin, hretries, hmemory⟩ := h.lowered hfails
    obtain ⟨row, hrow, hstate⟩ := Option.map_eq_some_iff.mp (hw'.symm.trans hmemory)
    refine ⟨pin, row, hpin, hrow, ?_⟩
    have hcounter : row.retries = pin.retries - 1 := congrArg StoredClientPinState.retries hstate
    omega
  removed hreset := by
    have hnone : w'.store.clientPin.map Store.pinStateOfRow = none :=
      hw'.symm.trans (h.unset_of_reset hreset)
    simpa using hnone

/-- **Memory and row agree** after every step of a run whose accesses to the row succeed; and a
request in a state in which they agree keeps them so exactly if its accesses succeed. -/
theorem pinDurable_of_works (crates : Crates) (env : Env) (tpmPath : Option String) (s : Store)
    (hstart : s.clientPin.isNone || pinReadable crates (env.store 1) s) :
    (∀ events, (∀ t ∈ run crates (newAuthenticator crates env tpmPath s) events,
        pinStoreWorks crates t.before t.input) →
      ∀ t ∈ run crates (newAuthenticator crates env tpmPath s) events, PinDurable crates t) ∧
    ∀ w request payload, PinAgrees w →
      (PinDurable crates (Run.transition (step crates) w (.cbor request payload)) ↔
        pinStoreWorks crates w (.cbor request payload)) := by
  refine ⟨fun events h t ht ↦ ?_, fun w request payload hw ↦ ⟨fun h ↦ ?_, fun h ↦ ?_⟩⟩
  · obtain ⟨pre, post, hsplit⟩ := List.append_of_mem ht
    obtain ⟨hbefore, hworks, heq⟩ := Run.history_invariant_before (H := fun _ w ↦ PinAgrees w)
      (C := fun w event ↦ pinStoreWorks crates w event) (newAuthenticator_agrees env tpmPath hstart)
      (fun _ cur event hcur hc ↦ (step_pinEffect crates cur event).agrees hcur hc) h hsplit
    have heffect := step_pinEffect crates t.before t.input
    rw [heq]
    exact heffect.durable (heffect.agrees hbefore hworks)
  · exact (step_pinEffect crates w _).works hw h.agrees
  · have heffect := step_pinEffect crates w (.cbor request payload)
    exact heffect.durable (heffect.agrees hw h)

namespace Sample

/-- What the user sees when the first access to the store fails. -/
def failing : Env := { session 1000 0 with store := fun n ↦ { noFault with statement := n = 0 } }

end Sample

open Sample in
/-- A PIN that is set, presented, and loaded again. -/
theorem pinDurable_of_works_restart :
    let events := choosePin 1000 ++ [request (session 1000 0) 0x06 guessToken,
      request (session 1000 0) 0x06 getToken, .start (session 1000 0) (some "")]
    (∀ t ∈ run pinPackages pinStart events, PinDurable pinPackages t) ∧
      (run pinPackages pinStart events).map
          (fun t ↦ t.after.auth.clientPin.map StoredClientPinState.retries) =
        [none, some 8, some 7, some 8, some 8] :=
  ⟨(pinDurable_of_works _ _ _ _ (by decide +kernel)).1 _ (by decide +kernel), by decide +kernel⟩

open Sample in
/-- The write of the counter fails, and the deletion of the row fails: in both cases memory and row
part. -/
theorem pin_diverges_from_row :
    let w := after pinPackages pinStart (choosePin 1000)
    ∀ event ∈ [request failing 0x06 guessToken, .cbor failing [0x07]],
      PinAgrees w ∧
        ¬ PinDurable pinPackages (Run.transition (step pinPackages) w event) := by
  intro w event hevent
  have hparts : ∀ event ∈ [request failing 0x06 guessToken, .cbor failing [0x07]],
      PinAgrees w ∧ ¬ PinAgrees (step pinPackages w event).2 := by decide +kernel
  exact ⟨(hparts event hevent).1, fun h ↦ (hparts event hevent).2 h.agrees⟩

/-! ## The counter -/

/-- The counter in memory. -/
def counter (w : World) : Nat := (w.auth.clientPin.map StoredClientPinState.retries).getD 0

theorem counter_of_some {pin : StoredClientPinState} (h : w.auth.clientPin = some pin) :
    counter w = pin.retries := by
  rw [counter, h, Option.map_some, Option.getD_some]

theorem counter_congr (h : w'.auth.clientPin = w.auth.clientPin) : counter w' = counter w := by
  rw [counter, h, counter]

theorem PinAgrees.retries_le (hw : PinAgrees w) {pin : StoredClientPinState}
    (h : w.auth.clientPin = some pin) : pin.retries ≤ 8 := by
  obtain ⟨row, -, rfl⟩ := Option.map_eq_some_iff.mp (hw.symm.trans h)
  exact row.retries_le

/-- Where memory and row agree, a restart leaves the PIN in memory. -/
theorem PinAgrees.memory_of_row (hw : PinAgrees w) (hw' : PinAgrees w')
    (hrow : w'.store.clientPin = w.store.clientPin) : w'.auth.clientPin = w.auth.clientPin := by
  rw [hw', hrow, ← hw]

theorem fillsCounter_of_match {pin : StoredClientPinState} {pinHash : List UInt8}
    (hcompare : comparison crates w event = some (pin, pinHash))
    (hmatch : pinMatches crates pin pinHash) : fillsCounter crates ⟨w, event, reply, w'⟩ := by
  simp [fillsCounter, hcompare, hmatch]

theorem comparisonFails_of_none (hcompare : comparison crates w event = none) :
    comparisonFails crates ⟨w, event, reply, w'⟩ = false := by
  simp [comparisonFails, hcompare]

/-- A step that does not fill the counter pays for a failed comparison out of it. -/
theorem PinEffect.pays (h : PinEffect crates w event reply w') (hw : PinAgrees w)
    (hw' : PinAgrees w') (hfills : ¬ fillsCounter crates ⟨w, event, reply, w'⟩) :
    (if comparisonFails crates ⟨w, event, reply, w'⟩ then 1 else 0) + counter w' ≤ counter w := by
  have same (hcompare : comparison crates w event = none)
      (hmemory : w'.auth.clientPin = w.auth.clientPin) :
      (if comparisonFails crates ⟨w, event, reply, w'⟩ then 1 else 0) + counter w' ≤ counter w := by
    simp [comparisonFails_of_none hcompare, counter_congr hmemory]
  cases h with
  | kept h hcompare _ _ _ _ => exact same hcompare h.memory
  | set hreq _ _ _ _ _ _ hok => simp [fillsCounter, hreq, hok] at hfills
  | wrong _ hcompare _ memory _ _ _ =>
    obtain ⟨hpin, hretries, -⟩ := comparison_some hcompare
    rw [counter_of_some hpin, counter_of_some memory, StoredClientPinState.retries_withRetries]
    split <;> omega
  | unsaved _ hcompare hmatch _ _ _ _ _ _ =>
    exact absurd (fillsCounter_of_match hcompare hmatch) hfills
  | unchanged _ hcompare hmatch _ _ _ _ =>
    exact absurd (fillsCounter_of_match hcompare hmatch) hfills
  | changed _ hcompare hmatch _ _ _ _ _ _ =>
    exact absurd (fillsCounter_of_match hcompare hmatch) hfills
  | issued _ hcompare hmatch _ _ _ _ _ =>
    exact absurd (fillsCounter_of_match hcompare hmatch) hfills
  | approved _ hcompare _ memory _ _ _ _ => exact same hcompare memory
  | reset _ _ _ hcompare _ memory _ =>
    simp [comparisonFails_of_none hcompare, counter, memory]
  | started _ hcompare _ row _ _ => exact same hcompare (hw.memory_of_row hw' row)
  | damaged _ hcompare memory _ _ => exact same hcompare memory

/-- A blocked PIN stays blocked, and helps nobody. -/
theorem PinEffect.blocked (h : PinEffect crates w event reply w') (hw : PinAgrees w)
    (hw' : PinAgrees w') (hreset : ¬ approvedReset w event) {pin : StoredClientPinState}
    (hpin : w.auth.clientPin = some pin) (hzero : pin.retries = 0) :
    w'.auth.clientPin = some pin ∧
      ((pinRequest crates event).any (fun x ↦ x.2.1.needsPin) → ¬ reply.succeeded) := by
  -- nothing is compared with a blocked PIN
  have hnone : comparison crates w event = none := by
    cases hcompare : comparison crates w event with
    | none => rfl
    | some x =>
      obtain ⟨pin', pinHash⟩ := x
      obtain ⟨hpin', hretries, -⟩ := comparison_some hcompare
      cases hpin.symm.trans hpin'
      exact absurd hzero hretries
  cases h with
  | kept h _ hgrants _ _ _ =>
    refine ⟨h.memory.trans hpin, fun hneeds ↦ ?_⟩
    obtain ⟨x, hreq, hx⟩ := (Option.any_eq_true _ _).mp hneeds
    refine hgrants x hreq ?_
    cases hsub : x.2.1 <;> rw [hsub] at hx <;> first | rfl | cases hx
  | set _ unset _ _ _ _ _ _ => cases hpin.symm.trans unset
  | approved hreq _ _ memory _ _ _ _ =>
    refine ⟨memory.trans hpin, fun hneeds ↦ ?_⟩
    rw [hreq] at hneeds
    cases hneeds
  | reset he hp happroved _ _ _ _ =>
    exact absurd (approvedReset_of_approved he hp happroved) hreset
  | started he _ _ row _ _ =>
    refine ⟨(hw.memory_of_row hw' row).trans hpin, fun hneeds ↦ ?_⟩
    rw [he] at hneeds
    cases hneeds
  | damaged he _ memory _ _ =>
    refine ⟨memory.trans hpin, fun hneeds ↦ ?_⟩
    rw [he] at hneeds
    cases hneeds
  | _ => cases hnone.symm.trans ‹comparison crates w event = some _›

/-- The lock-out from any state in which memory and row agree. -/
theorem PinAgrees.lockOut (hw : PinAgrees w) (events : List Event)
    (h : ∀ t ∈ run crates w events, pinStoreWorks crates t.before t.input) :
    PinLockOut crates w events := by
  have hstep : ∀ cur event, PinAgrees cur → pinStoreWorks crates cur event →
      PinAgrees (step crates cur event).2 := fun cur event hcur hc ↦
    (step_pinEffect crates cur event).agrees hcur hc
  have hend : PinAgrees (after crates w events) :=
    Run.state_invariant (C := fun w event ↦ pinStoreWorks crates w event) hw hstep events h
  refine ⟨hend, fun pin hpin ↦ hend.retries_le hpin, fun t ht hfails ↦ ?_, fun hfills ↦ ?_,
    fun hzero hresets t ht hneeds ↦ ?_⟩
  · have heq := Run.eq_transition_of_mem ht
    rw [heq] at hfails ⊢
    obtain ⟨pin, hpin, hretries, hmemory⟩ :=
      (step_pinEffect crates t.before t.input).lowered hfails
    refine ⟨pin, _, hpin, hmemory, ?_⟩
    rw [StoredClientPinState.retries_withRetries]
    omega
  · -- the counter is the potential
    have hpaid := Run.countP_add_le (p := comparisonFails crates) (μ := counter) (I := PinAgrees)
      (C := fun w event ↦ pinStoreWorks crates w event ∧
        ¬ fillsCounter crates (Run.transition (step crates) w event))
      (fun cur event hcur hc ↦ ⟨hstep cur event hcur hc.1,
        (step_pinEffect crates cur event).pays hcur (hstep cur event hcur hc.1) hc.2⟩)
      hw events fun t ht ↦ ⟨h t ht, by
        have hfill := hfills t ht
        rwa [Run.eq_transition_of_mem ht] at hfill⟩
    have hstart : counter w ≤ 8 := by
      cases hpin : w.auth.clientPin with
      | none => simp [counter, hpin]
      | some pin =>
        rw [counter_of_some hpin]
        exact hw.retries_le hpin
    exact (Nat.le_of_add_right_le hpaid).trans hstart
  · obtain ⟨pin, hpin, hzero⟩ := hzero
    obtain ⟨pre, post, hsplit⟩ := List.append_of_mem ht
    obtain ⟨⟨hbefore, hblocked⟩, hc, heq⟩ := Run.history_invariant_before
      (H := fun _ w ↦ PinAgrees w ∧ w.auth.clientPin = some pin)
      (C := fun w event ↦ pinStoreWorks crates w event ∧ ¬ approvedReset w event) ⟨hw, hpin⟩
      (fun _ cur event hcur hc ↦ ⟨hstep cur event hcur.1 hc.1,
        ((step_pinEffect crates cur event).blocked hcur.1 (hstep cur event hcur.1 hc.1) hc.2
          hcur.2 hzero).1⟩) (fun t ht ↦ ⟨h t ht, hresets t ht⟩) hsplit
    rw [heq] at hneeds ⊢
    exact ((step_pinEffect crates t.before t.input).blocked hbefore (hstep _ _ hbefore hc.1) hc.2
      hblocked hzero).2 hneeds

/-- **The lock-out**: at every point `past` of a run whose accesses to the row succeed, for
whatever comes next. -/
theorem pinLockOut_of_works (crates : Crates) (env : Env) (tpmPath : Option String) (s : Store)
    (past events : List Event)
    (hstart : s.clientPin.isNone || pinReadable crates (env.store 1) s)
    (h : ∀ t ∈ run crates (newAuthenticator crates env tpmPath s) (past ++ events),
      pinStoreWorks crates t.before t.input) :
    PinLockOut crates (after crates (newAuthenticator crates env tpmPath s) past) events := by
  rw [run, Run.transitions_append] at h
  have hpast := (newAuthenticator_agrees env tpmPath hstart).lockOut past fun t ht ↦
    h t (List.mem_append_left _ ht)
  exact hpast.agrees.lockOut events fun t ht ↦ h t (List.mem_append_right _ ht)

open Sample in
/-- Eight wrong PINs, and then the right one does not help, not even after a restart. -/
theorem pinLockOut_of_works_eight :
    let guesses := List.replicate 8 (request (session 1000 0) 0x06 guessToken)
    let rest := [request (session 1000 0) 0x06 getToken, .start (session 1000 0) (some ""),
      request (session 1000 0) 0x06 getKeyAgreement, request (session 1000 0) 0x06 getToken]
    let w := after pinPackages pinStart (choosePin 1000)
    PinLockOut pinPackages w (guesses ++ rest) ∧
      (run pinPackages w (guesses ++ rest)).map (fun t ↦ (counter t.after, t.output.succeeded)) =
        [(7, false), (6, false), (5, false), (4, false), (3, false), (2, false), (1, false),
          (0, false), (0, false), (0, false), (0, true), (0, false)] :=
  ⟨pinLockOut_of_works _ _ _ _ _ _ (by decide +kernel) (by decide +kernel), by decide +kernel⟩

end Ctap2
end TpmFido2
