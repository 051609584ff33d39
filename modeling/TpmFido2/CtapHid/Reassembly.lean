import TpmFido2.CtapHid.Framing

/-!
# CTAPHID: what a dispatched request was made of

`TpmFido2.CtapHid.Framing` looks at the wire from the sender's side.  Here the reports are
arbitrary — malformed, repeated, out of order — and the question is what can be concluded when
the handler dispatches a request that took more than one packet.

`Reassembled` is the answer one wants: the last reports of the channel are an initialisation
packet with that command and length, followed directly by continuations `0, 1, …`, and the payload
is their data.  `Gathering` is the same for a request still in progress, and the invariant that
carries the proof.  It breaks in one place only.  An initialisation packet with an unknown command
is refused *without* dropping what is pending on its channel, although every other initialisation
packet drops it; so a request can be completed across such a packet.
`reassemblySound_iff` says that this is the only way: reassembly is sound in exactly those runs in
which no unknown command arrives on a busy channel.
-/

set_option autoImplicit false

namespace TpmFido2
namespace CtapHid

variable {A E : Type}

/-! ## Packets that belong together -/

/-- A step of the packet handler. -/
abbrev PacketTransition (A E : Type) :=
  Run.Transition (PacketHandler A) (E × List UInt8) (Outcome Empty (Option PacketOutcome))

/-- The reports that came in on a channel, oldest first. -/
def reportsOn (cid : UInt32) (past : List (PacketTransition A E)) : List (List UInt8) :=
  (past.map fun t => t.input.2).filter (OnChannel cid ·)

/-- An initialisation packet with this command and declared length, and continuations numbered
from zero. -/
structure Fragmented (command : CtapHidCommand) (len : Nat) (first : List UInt8)
    (conts : List (List UInt8)) : Prop where
  /-- The first packet is an initialisation packet … -/
  first_init : IsInit first
  /-- … with this command … -/
  first_command : CtapHidCommand.fromByte (commandId first) = some command
  /-- … and this length. -/
  first_len : declaredLen first = len
  /-- The others are continuations … -/
  conts_not_init : ∀ report ∈ conts, ¬ IsInit report
  /-- … numbered `0, 1, …`. -/
  conts_numbered : conts.map (fun report => (packetType report).toNat) = List.range conts.length

/-- The data fields of a fragmented message, one after the other. -/
def gathered (first : List UInt8) (conts : List (List UInt8)) : List UInt8 :=
  initData first ++ (conts.map continuationData).flatten

/-- The reports of a channel end in a complete message of more than one packet, and the message is
`payload` under `command`. -/
def Reassembled (command : CtapHidCommand) (payload : List UInt8) (reports : List (List UInt8)) :
    Prop :=
  ∃ older first conts, reports = older ++ first :: conts ∧ conts ≠ [] ∧
    Fragmented command payload.length first conts ∧
    payload = (gathered first conts).take payload.length

/-- The reports of a channel end in the beginning of a message, and `request` is what the handler
keeps of it. -/
def Gathering (cid : UInt32) (request : PendingRequest) (reports : List (List UInt8)) : Prop :=
  ∃ older first conts, reports = older ++ first :: conts ∧
    Fragmented request.command request.expectedLen first conts ∧
    request.cid = cid ∧ request.nextSequence.toNat = conts.length ∧
    request.payload = gathered first conts ∧
    request.payload.length = (reportSize - 7) + (reportSize - 5) * conts.length ∧
    request.payload.length < request.expectedLen ∧ request.expectedLen ≤ maxPayloadSize

theorem Fragmented.snoc {command : CtapHidCommand} {len : Nat} {first report : List UInt8}
    {conts : List (List UInt8)} (h : Fragmented command len first conts) (hinit : ¬ IsInit report)
    (hseq : (packetType report).toNat = conts.length) :
    Fragmented command len first (conts ++ [report]) := by
  refine ⟨h.first_init, h.first_command, h.first_len, ?_, ?_⟩
  · intro r hr
    rcases List.mem_append.mp hr with hr | hr
    · exact h.conts_not_init r hr
    · rwa [List.mem_singleton.mp hr]
  · rw [List.map_append, h.conts_numbered, List.length_append, List.length_singleton,
      List.range_succ, List.map_singleton, hseq]

theorem gathered_snoc (first report : List UInt8) (conts : List (List UInt8)) :
    gathered first (conts ++ [report]) = gathered first conts ++ continuationData report := by
  simp [gathered]

theorem reportsOn_concat_of_onChannel {cid : UInt32} (past : List (PacketTransition A E))
    {t : PacketTransition A E} (h : OnChannel cid t.input.2) :
    reportsOn cid (past ++ [t]) = reportsOn cid past ++ [t.input.2] := by
  simp [reportsOn, h]

theorem reportsOn_concat_of_not_onChannel {cid : UInt32} (past : List (PacketTransition A E))
    {t : PacketTransition A E} (h : ¬ OnChannel cid t.input.2) :
    reportsOn cid (past ++ [t]) = reportsOn cid past := by
  simp [reportsOn, h]

/-! ## The one packet that breaks it -/

/-- An initialisation packet with an acceptable length and a command nobody knows, on a channel
where a request is in progress. -/
def UnknownOnBusy (pending : PendingMap) (report : List UInt8) : Prop :=
  report.length = reportSize ∧ IsInit report ∧ declaredLen report ≤ maxPayloadSize ∧
    CtapHidCommand.fromByte (commandId report) = none ∧ pending (reportCid report) ≠ none

/-- **One report.**  Unless it is the packet above, a report keeps `Gathering` on its channel:
what is pending afterwards was begun or continued by the last reports, this one included. -/
theorem gathering_receive {report : List UInt8} {pending : PendingMap} {cid : UInt32}
    {reports : List (List UInt8)} (hon : OnChannel cid report)
    (hbad : ¬ UnknownOnBusy pending report)
    (hpast : ∀ request, pending cid = some request → Gathering cid request reports)
    {request : PendingRequest} (h : (receive report pending).2 cid = some request) :
    Gathering cid request (reports ++ [report]) := by
  obtain ⟨hsize, rfl⟩ := hon
  have h64 : reportSize = 64 := rfl
  have hmax : maxPayloadSize = 7609 := rfl
  have hr := receive_received hsize pending
  generalize receive report pending = r at hr h
  cases hr with
  | oversized => simp at h
  | unknown hinit hlen hcommand =>
    dsimp only at h
    exact absurd ⟨hsize, hinit, hlen, hcommand, by simp [h]⟩ hbad
  | short => simp at h
  | begun hinit command hcommand hlong hlen =>
    simp only [PendingMap.insert_self, Option.some_inj] at h
    subst h
    have hdata : (initData report).length = reportSize - 7 := by
      rw [initData, List.length_drop, hsize]
    refine ⟨reports, report, [], rfl, ⟨hinit, hcommand, rfl, ?_, rfl⟩, rfl, rfl, ?_, ?_, ?_, hlen⟩
    · intro r hr
      cases hr
    · simp [gathered]
    · simp [hdata]
    · simpa [hdata] using hlong
  | stray _ hidle => dsimp only at h; rw [hidle] at h; cases h
  | disordered => simp at h
  | underflow hinit old hbusy _ _ hlt =>
    obtain ⟨-, -, -, -, -, -, -, -, -, hlt', -⟩ := hpast old hbusy
    omega
  | completed => simp at h
  | extended hinit old hbusy hcid hseq hmore =>
    simp only [PendingMap.insert_self, Option.some_inj] at h
    subst h
    obtain ⟨older, first, conts, rfl, hfrag, -, hnext, hpayload, hlength, hlt, hle⟩ :=
      hpast old hbusy
    have hdata : (continuationData report).length = reportSize - 5 := by
      rw [continuationData, List.length_drop, hsize]
    have hlength' : old.payload.length = 57 + 59 * conts.length := hlength
    refine ⟨older, first, conts ++ [report], by simp, hfrag.snoc hinit ?_, hcid, ?_, ?_, ?_, ?_,
      hle⟩
    · rw [← hseq, hnext]
    · rw [List.length_append, List.length_singleton, UInt8.toNat_add, hnext]
      exact Nat.mod_eq_of_lt (by simp; omega)
    · rw [gathered_snoc, ← hpayload]
    · rw [List.length_append, List.length_append, List.length_singleton, hdata, hlength]
      ring
    · rw [List.length_append, hdata]
      exact hmore

/-- **The report that completes a request.**  A dispatched request of more than one packet is what
the last reports say. -/
theorem reassembled_of_gathering {report : List UInt8} {pending : PendingMap} {cid : UInt32}
    {reports : List (List UInt8)} {command : CtapHidCommand} {payload : List UInt8}
    (hpast : ∀ request, pending (reportCid report) = some request →
      Gathering (reportCid report) request reports)
    (h : (receive report pending).1 = .dispatch cid command payload)
    (hlong : reportSize - 7 < payload.length) :
    Reassembled command payload (reports ++ [report]) := by
  have hsize : report.length = reportSize := by
    by_contra hne
    rw [receive_of_length_ne hne] at h
    cases h
  have hr := receive_received hsize pending
  generalize receive report pending = r at hr h
  cases hr with
  | short hinit command' hcommand hlen =>
    cases h
    rw [List.length_take] at hlong
    omega
  | completed hinit request hbusy hcid hseq hle hlast =>
    cases h
    obtain ⟨older, first, conts, rfl, hfrag, -, hnext, hpayload, -, -, -⟩ := hpast request hbusy
    have hdata : (continuationData report).length = reportSize - 5 := by
      rw [continuationData, List.length_drop, hsize]
    have hlength : (request.payload ++ (continuationData report).take
        (request.expectedLen - request.payload.length)).length = request.expectedLen := by
      rw [List.length_append, List.length_take]
      omega
    refine ⟨older, first, conts ++ [report], by simp, by simp, ?_, ?_⟩
    · rw [hlength]
      exact hfrag.snoc hinit (by rw [← hseq, hnext])
    · rw [hlength, gathered_snoc, ← hpayload, List.take_append, List.take_of_length_le hle]
  | oversized => cases h
  | unknown => cases h
  | begun => cases h
  | stray => cases h
  | disordered => cases h
  | underflow => cases h
  | extended => cases h

/-! ## Whole runs -/

/-- Reassembly is sound in a run: every dispatched request of more than one packet is what the
last reports of its channel say, and a report on a busy channel that is not the continuation the
channel waits for abandons the request. -/
structure ReassemblySound (authn : Authn A E) (a : A) (inputs : List (E × List UInt8)) : Prop where
  /-- What is dispatched was sent. -/
  dispatched : ∀ pre (t : PacketTransition A E) post,
    Run.transitions (PacketHandler.step authn) (PacketHandler.new a) inputs = pre ++ t :: post →
    ∀ cid command payload,
      (receive t.input.2 t.before.pending).1 = .dispatch cid command payload →
      reportSize - 7 < payload.length → Reassembled command payload (reportsOn cid (pre ++ [t]))
  /-- What is interrupted is dropped: nothing is pending afterwards, or only what the interrupting
  packet itself has begun. -/
  abandoned : ∀ t ∈ Run.transitions (PacketHandler.step authn) (PacketHandler.new a) inputs,
    ∀ cid request, OnChannel cid t.input.2 → t.before.pending cid = some request →
      ¬ (¬ IsInit t.input.2 ∧ packetType t.input.2 = request.nextSequence) →
      t.after.pending cid = none ∨
        ∃ command, IsInit t.input.2 ∧
          CtapHidCommand.fromByte (commandId t.input.2) = some command ∧
          t.after.pending cid =
            some ⟨cid, command, declaredLen t.input.2, initData t.input.2, 0⟩

/-- In a run without the packet above, what is pending on a channel is what its last reports have
begun. -/
theorem gathering_run (authn : Authn A E) (a : A) {inputs : List (E × List UInt8)}
    (hbad : ∀ t ∈ Run.transitions (PacketHandler.step authn) (PacketHandler.new a) inputs,
      ¬ UnknownOnBusy t.before.pending t.input.2)
    {pre post : List (PacketTransition A E)} {t : PacketTransition A E}
    (h : Run.transitions (PacketHandler.step authn) (PacketHandler.new a) inputs =
      pre ++ t :: post) (cid : UInt32) (request : PendingRequest)
    (hbusy : t.before.pending cid = some request) : Gathering cid request (reportsOn cid pre) := by
  refine (@Run.history_invariant_before _ _ _ (PacketHandler.step authn)
    (fun past h => ∀ cid request, h.pending cid = some request →
      Gathering cid request (reportsOn cid past))
    (fun h input => ¬ UnknownOnBusy h.pending input.2) _ ?_ ?_ _ hbad _ _ _ h).1 cid request hbusy
  · intro cid request hnew
    cases hnew
  · intro past cur input ih hgood cid request hafter
    rw [PacketHandler.step, PacketHandler.handlePacket_pending] at hafter
    by_cases hon : OnChannel cid input.2
    · rw [reportsOn_concat_of_onChannel past hon]
      exact gathering_receive hon hgood (ih cid) hafter
    · rw [reportsOn_concat_of_not_onChannel past hon]
      rw [receive_not_onChannel hon] at hafter
      exact ih cid request hafter

/-- A report on a busy channel that is not the awaited continuation, and not the packet above,
abandons the request. -/
theorem receive_abandons {report : List UInt8} {pending : PendingMap} {cid : UInt32}
    {request : PendingRequest} (hon : OnChannel cid report)
    (hbusy : pending cid = some request) (hbad : ¬ UnknownOnBusy pending report)
    (hnot : ¬ (¬ IsInit report ∧ packetType report = request.nextSequence)) :
    (receive report pending).2 cid = none ∨
      ∃ command, IsInit report ∧ CtapHidCommand.fromByte (commandId report) = some command ∧
        (receive report pending).2 cid =
          some ⟨cid, command, declaredLen report, initData report, 0⟩ := by
  obtain ⟨hsize, rfl⟩ := hon
  have hr := receive_received hsize pending
  generalize receive report pending = r at hr
  cases hr with
  | oversized => exact .inl (PendingMap.remove_self _ _)
  | unknown hinit hlen hcommand =>
    exact absurd ⟨hsize, hinit, hlen, hcommand, by simp [hbusy]⟩ hbad
  | short => exact .inl (PendingMap.remove_self _ _)
  | begun hinit command hcommand =>
    exact .inr ⟨command, hinit, hcommand, PendingMap.insert_self _ _ _⟩
  | stray _ hidle => exact .inl hidle
  | disordered => exact .inl (PendingMap.remove_self _ _)
  | underflow hinit old hold hcid hseq =>
    rw [hbusy, Option.some_inj] at hold
    subst hold
    exact absurd ⟨hinit, hseq.symm⟩ hnot
  | completed => exact .inl (PendingMap.remove_self _ _)
  | extended hinit old hold hcid hseq =>
    rw [hbusy, Option.some_inj] at hold
    subst hold
    exact absurd ⟨hinit, hseq.symm⟩ hnot

/-- **Reassembly is sound exactly in the runs without an unknown command on a busy channel.**  An
initialisation packet with an unknown command leaves the request pending that every other
initialisation packet would have dropped. -/
theorem reassemblySound_iff (authn : Authn A E) (a : A) (inputs : List (E × List UInt8)) :
    ReassemblySound authn a inputs ↔
      ∀ t ∈ Run.transitions (PacketHandler.step authn) (PacketHandler.new a) inputs,
        ¬ UnknownOnBusy t.before.pending t.input.2 := by
  constructor
  · rintro hsound t ht ⟨hsize, hinit, hlen, hcommand, hbusy⟩
    obtain ⟨request, hrequest⟩ := Option.ne_none_iff_exists'.mp hbusy
    have hafter : t.after.pending = t.before.pending := by
      rw [Run.eq_transition_of_mem ht]
      refine (PacketHandler.handlePacket_pending authn _ _ _).trans ?_
      rw [receive, if_neg (not_not_intro hsize), if_pos hinit, handleInitPacket,
        if_neg (Nat.not_lt.mpr hlen), hcommand]
      rfl
    rcases hsound.abandoned t ht _ request ⟨hsize, rfl⟩ hrequest (fun h => h.1 hinit) with h | h
    · rw [hafter, hrequest] at h
      cases h
    · obtain ⟨command, -, hknown, -⟩ := h
      rw [hcommand] at hknown
      cases hknown
  · intro hbad
    refine ⟨?_, ?_⟩
    · intro pre t post h cid command payload hdispatch hlong
      obtain ⟨hcid, -⟩ := receive_dispatch hdispatch
      have hon : OnChannel cid t.input.2 := by
        refine ⟨?_, hcid.symm⟩
        by_contra hsize
        rw [receive_of_length_ne hsize] at hdispatch
        cases hdispatch
      rw [reportsOn_concat_of_onChannel pre hon]
      refine reassembled_of_gathering (fun request hbusy => ?_) hdispatch hlong
      rw [← hcid] at hbusy ⊢
      exact gathering_run authn a hbad h cid request hbusy
    · intro t ht cid request hon hbusy hnot
      have hafter : t.after.pending = (receive t.input.2 t.before.pending).2 := by
        rw [Run.eq_transition_of_mem ht]
        exact PacketHandler.handlePacket_pending authn _ _ _
      rw [hafter]
      exact receive_abandons hon hbusy (hbad t ht) hnot

/-- A 100-byte ping is begun on channel 7, an empty message with the unknown command `0x3e`
follows on the same channel, and continuation 0 still completes the ping. -/
theorem reassembly_across_unknown_command :
    let authn : Authn Unit Unit := ⟨fun _ _ => pure [], fun a => a⟩
    let ping := initPacket 7 .ping (List.replicate 100 0xaa)
    let unknown := padReport (Bytes.beBytes 4 7 ++ [0xbe, 0, 0])
    let last := continuationPacket 7 0 (List.replicate 43 0xaa)
    ¬ ReassemblySound authn () [((), ping), ((), unknown), ((), last)] := by
  intro authn ping unknown last h
  let inputs := [((), ping), ((), unknown), ((), last)]
  let run := Run.transitions (PacketHandler.step authn) (PacketHandler.new ()) inputs
  have hdispatch := h.dispatched (run.take 2) (run.get ⟨2, by decide⟩) [] rfl 7 .ping
    (List.replicate 100 0xaa) (by decide +kernel) (by decide)
  have hreports : reportsOn 7 (run.take 2 ++ [run.get ⟨2, by decide⟩]) = [ping, unknown, last] := by
    decide +kernel
  rw [hreports] at hdispatch
  obtain ⟨older, first, conts, heq, hne, hfrag, -⟩ := hdispatch
  match older with
  | [] =>
    rw [List.nil_append, List.cons.injEq] at heq
    refine hfrag.conts_not_init unknown ?_ (by decide +kernel)
    rw [← heq.2]
    exact List.mem_cons_self
  | [_] =>
    rw [List.cons_append, List.nil_append, List.cons.injEq, List.cons.injEq] at heq
    have hcommand := hfrag.first_command
    rw [← heq.2.1] at hcommand
    exact absurd hcommand (by decide +kernel)
  | [_, _] =>
    simp only [List.cons_append, List.nil_append, List.cons.injEq] at heq
    exact hne heq.2.2.2.symm
  | _ :: _ :: _ :: _ => simp at heq

end CtapHid
end TpmFido2
