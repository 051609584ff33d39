import TpmFido2.CtapHid.Reassembly

/-!
# CTAPHID: the numbers of channels

An INIT on the broadcast channel is answered with the number of a new channel.  The handler keeps
the next number and counts up; the two values that are no channel, `0` and the broadcast channel
`0xffffffff`, are at the ends of the range.  `dispatch` takes care of one of them only: the counter
skips `0`, with a check before the allocation and another one after it, and it does not skip
`0xffffffff`.

The counter moves on with every INIT on the broadcast channel, whether the request is well formed or
not; a number that a malformed INIT has used up is not handed out.  So the counter can also get to
its end, and start again with the numbers that are in use, long before all are handed out.

* `handlePacket_nextCid` — what a report does to the counter, and which number it hands out.
* **`allocationSound_of_steps`** — as long as no INIT finds the counter at `0xffffffff`, every
  number handed out is that of a channel and new.

`broadcast_is_handed_out` is the run of `2 ^ 32 - 1` INITs, the last of which is answered with the
broadcast channel.
-/

set_option autoImplicit false

namespace TpmFido2
namespace CtapHid

open Bytes

variable {A E : Type}

/-! ## Runs -/

/-- The channel that a response hands out: one to an INIT on the broadcast channel does. -/
def Response.allocatedCid (r : Response) : Option UInt32 :=
  if r.cid = broadcastCid ∧ r.command = .init then
    some (UInt32.ofNat (ofBeBytes ((r.payload.drop 8).take 4)))
  else none

/-- The channel that is handed out in a step. -/
def allocatedCid (output : Outcome Empty (Option PacketOutcome)) : Option UInt32 :=
  match output with
  | .ok (some (.response r)) => r.allocatedCid
  | _ => none

/-- A report completes an INIT on the broadcast channel. -/
def IsBroadcastInit (pending : PendingMap) (report : List UInt8) : Prop :=
  ∃ payload, (receive report pending).1 = .dispatch broadcastCid .init payload

/-- Channels are allocated as they should be in a run. -/
structure AllocationSound (authn : Authn A E) (a : A) (inputs : List (E × List UInt8)) : Prop where
  /-- What is handed out is the number of a channel. -/
  usable : ∀ t ∈ Run.transitions (PacketHandler.step authn) (PacketHandler.new a) inputs,
    ∀ cid, allocatedCid t.output = some cid → cid ≠ 0 ∧ cid ≠ broadcastCid
  /-- What is handed out again has all others handed out before. -/
  fresh : ∀ pre (t : PacketTransition A E) post,
    Run.transitions (PacketHandler.step authn) (PacketHandler.new a) inputs = pre ++ t :: post →
    ∀ cid, allocatedCid t.output = some cid → (∃ u ∈ pre, allocatedCid u.output = some cid) →
      ∀ other, other ≠ 0 → other ≠ broadcastCid → ∃ u ∈ pre, allocatedCid u.output = some other
  /-- Only an INIT on the broadcast channel moves the counter. -/
  frame : ∀ t ∈ Run.transitions (PacketHandler.step authn) (PacketHandler.new a) inputs,
    ¬ IsBroadcastInit t.before.pending t.input.2 → t.after.nextCid = t.before.nextCid

/-! ## One report -/

/-- The number an INIT on the broadcast channel gets. -/
def allocate (nextCid : UInt32) : UInt32 := if nextCid = 0 then 1 else nextCid

theorem allocatedCid_of_command {r : Response} (h : r.command ≠ .init) : r.allocatedCid = none :=
  if_neg fun hr ↦ h hr.2

theorem allocatedCid_errorResponse (cid : UInt32) (code : CtapHidError) :
    (errorResponse cid code).allocatedCid = none :=
  allocatedCid_of_command (by rintro ⟨⟩)

theorem allocatedCid_handleInit {cid allocated : UInt32} {payload : List UInt8} :
    (handleInit cid allocated payload).allocatedCid =
      if cid = broadcastCid ∧ payload.length = 8 then some allocated else none := by
  rw [handleInit]
  by_cases hlen : payload.length = 8
  · rw [if_neg (not_not_intro hlen), Response.allocatedCid]
    by_cases hcid : cid = broadcastCid
    · have hlt : allocated.toNat < 256 ^ 4 := by simpa using allocated.toNat_lt
      rw [if_pos ⟨hcid, rfl⟩, if_pos ⟨hcid, hlen⟩, List.append_assoc, List.append_assoc,
        List.append_assoc, List.drop_left' hlen, List.take_left' (length_beBytes 4 _),
        ofBeBytes_beBytes_of_lt hlt, UInt32.ofNat_toNat]
    · rw [if_neg fun h ↦ hcid h.1, if_neg fun h ↦ hcid h.1]
  · rw [if_pos hlen, if_neg fun h ↦ hlen h.2]
    exact allocatedCid_errorResponse cid _

/-- A request other than an INIT on the broadcast channel. -/
theorem dispatch_of_other (authn : Authn A E) (env : E) {cid : UInt32} {command : CtapHidCommand}
    (payload : List UInt8) (h : PacketHandler A)
    (hother : ¬ (cid = broadcastCid ∧ command = .init)) :
    allocatedCid (PacketHandler.respond (PacketHandler.dispatch authn env cid command
      payload h)).1 =
        none ∧
      (PacketHandler.respond (PacketHandler.dispatch authn env cid command payload h)).2.nextCid =
        h.nextCid := by
  cases command with
  | init =>
    have hcid : cid ≠ broadcastCid := fun heq ↦ hother ⟨heq, rfl⟩
    rw [PacketHandler.dispatch, if_neg hcid]
    exact ⟨allocatedCid_handleInit.trans (if_neg fun h ↦ hcid h.1), rfl⟩
  | ping => exact ⟨allocatedCid_of_command (by rintro ⟨⟩), rfl⟩
  | wink => exact ⟨allocatedCid_of_command (by rintro ⟨⟩), rfl⟩
  | cbor =>
    rw [PacketHandler.dispatch]
    cases authn.handleCbor env payload h.authenticator with
    | mk o a =>
      cases o with
      | ok response => exact ⟨allocatedCid_of_command (by rintro ⟨⟩), rfl⟩
      | error e => cases e
      | panicked => exact ⟨rfl, rfl⟩
  | cancel => exact ⟨allocatedCid_errorResponse cid _, rfl⟩
  | error => exact ⟨allocatedCid_errorResponse cid _, rfl⟩

/-- What is answered at once is an error. -/
theorem receive_reply {report : List UInt8} {pending : PendingMap} {r : Response}
    (h : (receive report pending).1 = .reply r) : ∃ cid code, r = errorResponse cid code := by
  by_cases hsize : report.length = reportSize
  · have hr := receive_received hsize pending
    generalize receive report pending = received at hr h
    cases hr <;> cases h <;> exact ⟨_, _, rfl⟩
  · rw [receive_of_length_ne hsize] at h
    cases h

/-- **What a report does to the counter.**  An INIT on the broadcast channel moves it on, and hands
out a number if its payload is a nonce; nothing else does either. -/
theorem handlePacket_nextCid (authn : Authn A E) (env : E) (report : List UInt8)
    (h : PacketHandler A) :
    let r := PacketHandler.handlePacket authn env report h
    (∃ payload, (receive report h.pending).1 = .dispatch broadcastCid .init payload ∧
        allocatedCid r.1 = (if payload.length = 8 then some (allocate h.nextCid) else none) ∧
        r.2.nextCid = max (allocate h.nextCid + 1) 1) ∨
      ¬ IsBroadcastInit h.pending report ∧ allocatedCid r.1 = none ∧ r.2.nextCid = h.nextCid := by
  have hreply := @receive_reply report h.pending
  rw [PacketHandler.handlePacket, IsBroadcastInit]
  cases hr : receive report h.pending with
  | mk verdict pending =>
    rw [hr] at hreply
    cases verdict with
    | ignored => exact .inr ⟨by rintro ⟨_, ⟨⟩⟩, rfl, rfl⟩
    | reply response =>
      obtain ⟨cid, code, rfl⟩ := hreply rfl
      exact .inr ⟨by rintro ⟨_, ⟨⟩⟩, allocatedCid_errorResponse cid code, rfl⟩
    | needMore => exact .inr ⟨by rintro ⟨_, ⟨⟩⟩, rfl, rfl⟩
    | panicked => exact .inr ⟨by rintro ⟨_, ⟨⟩⟩, rfl, rfl⟩
    | dispatch cid command payload =>
      by_cases hinit : cid = broadcastCid ∧ command = .init
      · obtain ⟨rfl, rfl⟩ := hinit
        refine .inl ⟨payload, rfl, ?_, rfl⟩
        refine allocatedCid_handleInit.trans ?_
        simp [allocate]
      · refine .inr ⟨?_, dispatch_of_other authn env payload _ hinit⟩
        rintro ⟨payload', heq⟩
        cases heq
        exact hinit ⟨rfl, rfl⟩

/-! ## Whole runs -/

/-- The counter before it has come to its end: what has been handed out lies behind it. -/
structure Ahead (past : List (PacketTransition A E)) (nextCid : UInt32) : Prop where
  ne_zero : nextCid ≠ 0
  behind : ∀ u ∈ past, ∀ cid, allocatedCid u.output = some cid → cid ≠ 0 ∧ cid < nextCid

theorem allocate_of_ne_zero {n : UInt32} (h : n ≠ 0) : allocate n = n := if_neg h

/-- Up to the last number the counter counts. -/
theorem toNat_max_succ {n : UInt32} (h : n ≠ broadcastCid) :
    (max (n + 1) 1).toNat = n.toNat + 1 := by
  have hlast : n.toNat ≠ 4294967295 := fun heq ↦ h (UInt32.toNat_inj.mp heq)
  have hlt := n.toNat_lt
  have hsucc : (n + 1).toNat = n.toNat + 1 := by
    rw [UInt32.toNat_add]
    exact Nat.mod_eq_of_lt (by simp; omega)
  change (if n + 1 ≤ 1 then 1 else n + 1).toNat = n.toNat + 1
  split
  · next hle =>
    have hle := UInt32.le_iff_toNat_le.mp hle
    rw [hsucc] at hle
    exact le_antisymm (Nat.le_add_left _ _) hle
  · exact hsucc

/-- A step that does not find the counter at its end moves it and hands out the number it had, or
leaves it. -/
theorem step_counts (authn : Authn A E) {h : PacketHandler A} (hne : h.nextCid ≠ 0)
    (input : E × List UInt8) (hend : IsBroadcastInit h.pending input.2 → h.nextCid ≠ broadcastCid) :
    let t := Run.transition (PacketHandler.step authn) h input
    (∀ cid, allocatedCid t.output = some cid → cid = h.nextCid ∧ h.nextCid < t.after.nextCid) ∧
      h.nextCid ≤ t.after.nextCid := by
  intro t
  rcases handlePacket_nextCid authn input.1 input.2 h with
    ⟨payload, hinit, hcid, hnext⟩ | ⟨-, hcid, hnext⟩
  · have hlt : h.nextCid < t.after.nextCid := by
      change _ < (PacketHandler.handlePacket authn input.1 input.2 h).2.nextCid
      rw [UInt32.lt_iff_toNat_lt, hnext, allocate_of_ne_zero hne,
        toNat_max_succ (hend ⟨payload, hinit⟩)]
      exact Nat.lt_succ_self _
    refine ⟨fun cid hsome ↦ ⟨?_, hlt⟩, UInt32.le_of_lt hlt⟩
    have hsome := hcid.symm.trans hsome
    split at hsome
    · rw [← Option.some.inj hsome, allocate_of_ne_zero hne]
    · cases hsome
  · refine ⟨fun cid hsome ↦ ?_, UInt32.le_of_eq hnext.symm⟩
    cases hcid.symm.trans hsome

/-- **One step** keeps what has been handed out behind the counter. -/
theorem Ahead.step {authn : Authn A E} {past : List (PacketTransition A E)} {h : PacketHandler A}
    (hahead : Ahead past h.nextCid) (input : E × List UInt8)
    (hend : IsBroadcastInit h.pending input.2 → h.nextCid ≠ broadcastCid) :
    Ahead (past ++ [Run.transition (PacketHandler.step authn) h input])
      (PacketHandler.step authn h input).2.nextCid := by
  obtain ⟨hnew, hle⟩ := step_counts authn hahead.ne_zero input hend
  refine ⟨fun hzero ↦ ?_, fun u hu cid hsome ↦ ?_⟩
  · have hle : h.nextCid ≤ 0 := hzero ▸ hle
    exact hahead.ne_zero (UInt32.le_antisymm hle UInt32.zero_le)
  · rcases List.mem_append.mp hu with hu | hu
    · obtain ⟨hne, hbehind⟩ := hahead.behind u hu cid hsome
      exact ⟨hne, UInt32.lt_of_lt_of_le hbehind hle⟩
    · rw [List.mem_singleton.mp hu] at hsome
      obtain ⟨rfl, hlt⟩ := hnew cid hsome
      exact ⟨hahead.ne_zero, hlt⟩

/-- **Channels are allocated as they should be** in a run in which no INIT on the broadcast channel
finds the counter at `0xffffffff`. -/
theorem allocationSound_of_steps (authn : Authn A E) (a : A) (inputs : List (E × List UInt8))
    (hend : ∀ t ∈ Run.transitions (PacketHandler.step authn) (PacketHandler.new a) inputs,
      IsBroadcastInit t.before.pending t.input.2 → t.before.nextCid ≠ broadcastCid) :
    AllocationSound authn a inputs := by
  have hbefore {pre post : List (PacketTransition A E)} {t : PacketTransition A E}
      (h : Run.transitions (PacketHandler.step authn) (PacketHandler.new a) inputs =
        pre ++ t :: post) :
      Ahead pre t.before.nextCid ∧
        ∀ cid, allocatedCid t.output = some cid →
          cid = t.before.nextCid ∧ t.before.nextCid < t.after.nextCid := by
    have hstart : Ahead (A := A) (E := E) [] 1 :=
      ⟨by decide, fun u hu ↦ absurd hu List.not_mem_nil⟩
    obtain ⟨hahead, hstep, ht⟩ := Run.history_invariant_before
      (H := fun past (h : PacketHandler A) ↦ Ahead past h.nextCid)
      (C := fun h input ↦ IsBroadcastInit h.pending input.2 → h.nextCid ≠ broadcastCid)
      hstart (fun past cur input hcur hc ↦ hcur.step input hc) hend h
    have hcounts := (step_counts authn hahead.ne_zero t.input hstep).1
    rw [← ht] at hcounts
    exact ⟨hahead, hcounts⟩
  refine ⟨fun t ht cid hcid ↦ ?_, fun pre t post h cid hcid hearlier ↦ ?_, fun t ht hother ↦ ?_⟩
  · obtain ⟨pre, post, h⟩ := List.append_of_mem ht
    obtain ⟨hahead, hcounts⟩ := hbefore h
    obtain ⟨rfl, hlt⟩ := hcounts cid hcid
    refine ⟨hahead.ne_zero, fun hbroadcast ↦ ?_⟩
    rw [hbroadcast] at hlt
    exact absurd t.after.nextCid.toNat_lt (Nat.not_lt.mpr (UInt32.lt_iff_toNat_lt.mp hlt))
  · -- nothing is handed out again
    obtain ⟨u, hu, hsame⟩ := hearlier
    obtain ⟨hahead, hcounts⟩ := hbefore h
    obtain ⟨rfl, -⟩ := hcounts cid hcid
    exact absurd (hahead.behind u hu _ hsame).2 (UInt32.lt_irrefl _)
  · rw [Run.eq_transition_of_mem ht]
    rcases handlePacket_nextCid authn t.input.1 t.input.2 t.before with
      ⟨payload, hinit, -⟩ | ⟨-, -, hnext⟩
    · exact absurd ⟨payload, hinit⟩ hother
    · exact hnext

namespace Sample

/-- An authenticator that has nothing to say. -/
def silent : Authn Unit Unit := ⟨fun _ _ ↦ pure [], fun a ↦ a⟩

/-- An INIT with a nonce, on the broadcast channel. -/
def broadcastInit : Unit × List UInt8 := ((), initPacket broadcastCid .init (List.replicate 8 0))

theorem receive_broadcastInit (pending : PendingMap) :
    (receive broadcastInit.2 pending).1 = .dispatch broadcastCid .init (List.replicate 8 0) := by
  rw [broadcastInit, receive_initPacket (by decide), if_pos (by decide)]

/-- The handler after some INITs. -/
def afterInits (n : Nat) : PacketHandler Unit :=
  Run.final (PacketHandler.step silent) (PacketHandler.new ()) (List.replicate n broadcastInit)

theorem step_broadcastInit (h : PacketHandler Unit) :
    allocatedCid (PacketHandler.step silent h broadcastInit).1 = some (allocate h.nextCid) ∧
      (PacketHandler.step silent h broadcastInit).2.nextCid = max (allocate h.nextCid + 1) 1 := by
  rcases handlePacket_nextCid silent () broadcastInit.2 h with
    ⟨payload, hinit, hcid, hnext⟩ | ⟨hnot, -⟩
  · rw [receive_broadcastInit] at hinit
    cases hinit
    exact ⟨hcid, hnext⟩
  · exact absurd ⟨_, receive_broadcastInit _⟩ hnot

/-- Up to the last number, an INIT moves the counter by one. -/
theorem afterInits_nextCid {n : Nat} (h : n < 2 ^ 32 - 1) :
    (afterInits n).nextCid.toNat = n + 1 := by
  induction n with
  | zero => rfl
  | succ n ih =>
    have ih := ih (by omega)
    have hzero : (afterInits n).nextCid ≠ 0 := fun heq ↦ by
      rw [heq] at ih
      cases ih
    have hlast : (afterInits n).nextCid ≠ broadcastCid := fun heq ↦ by
      rw [heq] at ih
      change 4294967295 = n + 1 at ih
      omega
    rw [afterInits, List.replicate_succ', Run.final_append]
    change (PacketHandler.step silent (afterInits n) broadcastInit).2.nextCid.toNat = _
    rw [(step_broadcastInit _).2, allocate_of_ne_zero hzero, toNat_max_succ hlast, ih]

end Sample

/-- The first INITs get the first channels, with other reports in between. -/
theorem first_channels :
    let inputs := [Sample.broadcastInit, ((), []), Sample.broadcastInit, Sample.broadcastInit]
    AllocationSound Sample.silent () inputs ∧
      (Run.transitions (PacketHandler.step Sample.silent) (PacketHandler.new ()) inputs).map
        (fun t ↦ allocatedCid t.output) = [some 1, none, some 2, some 3] := by
  intro inputs
  have hcounters : ∀ t ∈ Run.transitions (PacketHandler.step Sample.silent)
      (PacketHandler.new ()) inputs, t.before.nextCid ≠ broadcastCid := by
    decide +kernel
  exact ⟨allocationSound_of_steps Sample.silent () inputs fun t ht _ ↦ hcounters t ht,
    by decide +kernel⟩

/-- **The broadcast channel is handed out**, to the last of `2 ^ 32 - 1` INITs. -/
theorem broadcast_is_handed_out :
    ¬ AllocationSound Sample.silent () (List.replicate (2 ^ 32 - 1) Sample.broadcastInit) := by
  have hrun (n : Nat) (hn : n + 1 = 2 ^ 32 - 1) :
      ¬ AllocationSound Sample.silent () (List.replicate (n + 1) Sample.broadcastInit) := by
    intro hsound
    have hcounter : (Sample.afterInits n).nextCid = broadcastCid := by
      rw [← UInt32.toNat_inj, Sample.afterInits_nextCid (by omega), hn]
      rfl
    have hlast : Run.transition (PacketHandler.step Sample.silent) (Sample.afterInits n)
        Sample.broadcastInit ∈ Run.transitions (PacketHandler.step Sample.silent)
          (PacketHandler.new ()) (List.replicate (n + 1) Sample.broadcastInit) := by
      rw [List.replicate_succ', Run.transitions_concat]
      exact List.mem_append_right _ List.mem_cons_self
    have hcid := (Sample.step_broadcastInit (Sample.afterInits n)).1
    rw [hcounter] at hcid
    exact (hsound.usable _ hlast _ hcid).2 (by decide)
  exact hrun (2 ^ 32 - 2) (by decide)

end CtapHid
end TpmFido2
