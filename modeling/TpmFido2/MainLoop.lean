import TpmFido2.PendingRequests

/-!
# The main loop

`run_daemon` of `src/main.rs`, from the first round of its loop on, with `normalize_host_report`.
In each round the loop takes at most one command of the management threads off its queue, and then
reads one event of the UHID device; a report among them goes to the packet handler, and the packets
of the response are written before anything else happens.

What a client sees of all this should be a server that handles one message at a time.  `Server` is
that server: it knows nothing of packets, of report numbers in front of them, or of a queue.
**`loop_linearised`** says that every run of the loop, whatever arrives on the other channels and in
whatever order, is a run of the server on some list of calls, and that the calls on a channel are
exactly the messages that were sent on it: none is lost, repeated, cut or mixed with another.  The
reports that come back on a channel are the packets of the server's responses to these messages, in
their order, and a management thread gets the server's answer to its command.

What was sent is said of the bytes as they come out of the device (`Sent`), before the loop has
looked at them.  `Awaits` is what the induction carries: the packets still to come on a channel are
the rest of one message, followed by whole ones.
-/

set_option autoImplicit false

namespace TpmFido2
namespace MainLoop

open CtapHid Daemon
open Ctap2 (World Env TpmCommand)

/-! ## The loop -/

/-- `normalize_host_report`: a report, with or without a report number of zero in front. -/
def normalizeHostReport (data : List UInt8) : Option (List UInt8 × Bool) :=
  if data.length = reportSize then some (data, false)
  else if data.length = reportSize + 1 ∧ data[0]? = some 0 then some (data.drop 1, true)
  else none

/-- What `device.read()` returns. -/
inductive UhidEvent where
  | output (data : List UInt8)
  | start
  | stop
  | opened
  | closed
  | getReport (id : UInt32)
  | setReport (id : UInt32) (data : List UInt8)
  /-- `UnknownEventType`. -/
  | unknown (eventType : UInt32)
  /-- There is nothing to read; the loop sleeps for a moment. -/
  | wouldBlock
  /-- Any other error. -/
  | failed
deriving DecidableEq, Repr

/-- What the loop writes to the device. -/
inductive Write where
  | input (packet : List UInt8)
  | getReportReply (id : UInt32) (err : UInt16) (data : List UInt8)
  | setReportReply (id : UInt32) (err : UInt16)
deriving DecidableEq, Repr

/-- Why the loop ends. -/
inductive Ending where
  | panicked
  | writing
  | reading
deriving DecidableEq, Repr

/-- The loop between two rounds.  A command comes with the number of the thread that waits for the
answer. -/
structure Loop where
  handler : PacketHandler World
  commands : List (Nat × TpmCommand)
  ended : Option Ending

/-- What a round meets. -/
structure Round where
  /-- The commands that were sent since the last round. -/
  arrived : List (Nat × TpmCommand)
  /-- What the management threads did to the store since then. -/
  outside : Store → Store
  /-- What the command of the round sees. -/
  commandEnv : Env
  /-- What they did between the command and the event. -/
  between : Store → Store
  event : UhidEvent
  /-- What the request of the round sees, if the event completes one. -/
  env : Env
  /-- Whether the writes of the round work. -/
  writes : Nat → Bool

/-- What a round does: the answer to a command, and the writes. -/
structure Output where
  answered : Option (Nat × Bool)
  written : List Write

/-- Writes one after the other, up to the first that fails. -/
def writeAll (works : Nat → Bool) : Nat → List Write → List Write × Option Ending
  | _, [] => ([], none)
  | n, write :: rest =>
    if works n then
      let r := writeAll works (n + 1) rest
      (write :: r.1, r.2)
    else ([], some .writing)

section
variable (crates : Crates)

/-- A packet handler on the store that other threads have left. -/
def withOutside (f : Store → Store) (h : PacketHandler World) : PacketHandler World :=
  { h with authenticator := { h.authenticator with store := f h.authenticator.store } }

/-- `if let Ok((command, resp_tx)) = tpm_cmd_rx.try_recv()`. -/
def takeCommand (env : Env) (l : Loop) : Option (Nat × Bool) × Loop :=
  match l.commands with
  | [] => (none, l)
  | (k, command) :: rest =>
    match Ctap2.handleTpmCommand crates env command l.handler.authenticator with
    | (.panicked, w) =>
      (none, { l with
        handler := { l.handler with authenticator := w }, commands := rest,
        ended := some .panicked })
    | (o, w) =>
      (some (k, o.toOption.isSome),
        { l with handler := { l.handler with authenticator := w }, commands := rest })

/-- `match device.read()`. -/
def handleEvent (round : Round) (h : PacketHandler World) :
    (List Write × Option Ending) × PacketHandler World :=
  match round.event with
  | .output data =>
    match normalizeHostReport data with
    | none => (([], none), h)
    | some (report, _) =>
      match PacketHandler.handlePacket (ctap2Authn crates) round.env report h with
      | (.ok (some (.response r)), h') =>
        (writeAll round.writes 0 (r.packets.map .input), h')
      | (.ok _, h') => (([], none), h')
      | (.panicked, h') => (([], some .panicked), h')
  | .getReport id => (writeAll round.writes 0 [.getReportReply id 0 []], h)
  | .setReport id _ => (writeAll round.writes 0 [.setReportReply id 0], h)
  | .failed => (([], some .reading), h)
  | _ => (([], none), h)

/-- The loop as a round finds it. -/
def Loop.meet (l : Loop) (round : Round) : Loop :=
  { l with
    handler := withOutside round.outside l.handler
    commands := l.commands ++ round.arrived }

@[simp] theorem Loop.meet_commands (l : Loop) (round : Round) :
    (l.meet round).commands = l.commands ++ round.arrived := rfl

/-- One round of the loop; when it has ended, nothing happens any more. -/
def step (l : Loop) (round : Round) : Output × Loop :=
  if l.ended.isSome then (⟨none, []⟩, l)
  else
    let taken := takeCommand crates round.commandEnv (l.meet round)
    if taken.2.ended.isSome then (⟨taken.1, []⟩, taken.2)
    else
      let handled := handleEvent crates round (withOutside round.between taken.2.handler)
      (⟨taken.1, handled.1.1⟩,
        { taken.2 with handler := handled.2, ended := handled.1.2 })

/-- The loop before its first round. -/
def Loop.start (w : World) : Loop := ⟨PacketHandler.new w, [], none⟩

/-- The loop after some rounds. -/
abbrev afterRounds (l : Loop) (rounds : List Round) : Loop := Run.final (step crates) l rounds

/-- What the loop has done in some rounds. -/
abbrev outputs (l : Loop) (rounds : List Round) : List Output :=
  (Run.transitions (step crates) l rounds).map Run.Transition.output

/-! ## The server -/

/-- The daemon as its clients should see it: the next channel, and the authenticator with its
store. -/
structure Server where
  nextCid : UInt32
  world : World

/-- What the server is asked. -/
inductive Call where
  /-- A message of a client. -/
  | message (env : Env) (cid : UInt32) (command : CtapHidCommand) (payload : List UInt8)
  /-- A command of a management thread. -/
  | tpm (env : Env) (k : Nat) (command : TpmCommand)
  /-- A management thread changes the store. -/
  | outside (f : Store → Store)

/-- What it answers. -/
inductive Answer where
  | response (r : Response)
  | result (k : Nat) (ok : Bool)
  | silent
  | panicked

/-- One call, from beginning to end. -/
def Server.call (s : Server) : Call → Answer × Server
  | .message env cid command payload =>
    match PacketHandler.dispatch (ctap2Authn crates) env cid command payload
        ⟨fun _ ↦ none, s.nextCid, s.world⟩ with
    | (.ok r, h) => (.response r, ⟨h.nextCid, h.authenticator⟩)
    | (.panicked, h) => (.panicked, ⟨h.nextCid, h.authenticator⟩)
  | .tpm env k command =>
    match Ctap2.handleTpmCommand crates env command s.world with
    | (.panicked, w) => (.panicked, { s with world := w })
    | (o, w) => (.result k o.toOption.isSome, { s with world := w })
  | .outside f => (.silent, { s with world := { s.world with store := f s.world.store } })

/-- The answers of the server to some calls. -/
abbrev answers (s : Server) (calls : List Call) : List Answer :=
  (Run.transitions (Server.call crates) s calls).map Run.Transition.output

end

/-- The server that the loop amounts to. -/
def Loop.server (l : Loop) : Server := ⟨l.handler.nextCid, l.handler.authenticator⟩

/-! ## What is seen from outside -/

/-- A message without its channel. -/
abbrev Message := CtapHidCommand × List UInt8

/-- The packets of messages on a channel. -/
def packetsOf (cid : UInt32) (messages : List Message) : List (List UInt8) :=
  messages.flatMap fun m ↦ encodeMessage cid m.1 m.2

/-- What a client may write for a packet: the packet, or a report number of zero and the packet. -/
def Carries (data packet : List UInt8) : Prop :=
  packet.length = reportSize ∧ (data = packet ∨ data = 0 :: packet)

/-- **The packets that were sent on a channel**, among everything that the device brings. -/
inductive Sent (cid : UInt32) : List UhidEvent → List (List UInt8) → Prop
  | nil : Sent cid [] []
  | packet {events : List UhidEvent} {packets : List (List UInt8)} {data packet : List UInt8}
    (hdata : Carries data packet) (hon : OnChannel cid packet) (h : Sent cid events packets) :
    Sent cid (.output data :: events) (packet :: packets)
  | other {events : List UhidEvent} {packets : List (List UInt8)} {event : UhidEvent}
    (hother : ∀ data packet, event = .output data → Carries data packet → ¬ OnChannel cid packet)
    (h : Sent cid events packets) : Sent cid (event :: events) packets

/-- The packet of a write. -/
def Write.packet : Write → Option (List UInt8)
  | .input packet => some packet
  | _ => none

/-- The packets that come back on a channel. -/
def packetsBack (cid : UInt32) (outputs : List Output) : List (List UInt8) :=
  ((outputs.flatMap Output.written).filterMap Write.packet).filter (OnChannel cid ·)

/-- The message of a call on a channel. -/
def Call.messageOn (cid : UInt32) : Call → Option Message
  | .message _ c command payload => if c = cid then some (command, payload) else none
  | _ => none

/-- The command of a call. -/
def Call.tpmCommand : Call → Option (Nat × TpmCommand)
  | .tpm _ k command => some (k, command)
  | _ => none

/-- The response of an answer on a channel. -/
def Answer.responseOn (cid : UInt32) : Answer → Option Response
  | .response r => if r.cid = cid then some r else none
  | _ => none

/-- The result of an answer. -/
def Answer.result? : Answer → Option (Nat × Bool)
  | .result k ok => some (k, ok)
  | _ => none

/-- The calls of some rounds, round by round: at most one command and at most one message in each,
with what the round lets them see, and what the other threads do in between. -/
inductive Schedule : List Round → List Call → Prop
  | nil : Schedule [] []
  | cons {rounds : List Round} {calls : List Call} (round : Round)
    (command : Option (Nat × TpmCommand)) (message : Option (UInt32 × Message))
    (h : Schedule rounds calls) :
    Schedule (round :: rounds) (.outside round.outside ::
      ((command.map fun c ↦ .tpm round.commandEnv c.1 c.2).toList ++ .outside round.between ::
        (message.map fun m ↦ .message round.env m.1 m.2.1 m.2.2).toList) ++ calls)

/-- **The loop is a server that handles one message at a time**: it is in the state the server is in
after the calls; the commands among them are those that were sent, up to those that still wait, and
each is answered with the server's answer; and on a channel on which whole messages were sent, the
calls are these messages, and what comes back are the packets of the server's responses. -/
structure Linearised (crates : Crates) (l : Loop) (rounds : List Round) (calls : List Call) :
    Prop where
  schedule : Schedule rounds calls
  state : (afterRounds crates l rounds).server = Run.final (Server.call crates) l.server calls
  commands : calls.filterMap Call.tpmCommand ++ (afterRounds crates l rounds).commands =
    l.commands ++ rounds.flatMap Round.arrived
  results : (outputs crates l rounds).filterMap Output.answered =
    (answers crates l.server calls).filterMap Answer.result?
  delivered : ∀ cid messages, (∀ m ∈ messages, m.2.length ≤ maxPayloadSize) →
    Sent cid (rounds.map Round.event) (packetsOf cid messages) →
      calls.filterMap (Call.messageOn cid) = messages ∧
      packetsBack cid (outputs crates l rounds) =
        ((answers crates l.server calls).filterMap (Answer.responseOn cid)).flatMap
          Response.packets

/-! ## Reports -/

/-- What `normalize_host_report` makes of the bytes is the packet that they carry. -/
theorem normalizeHostReport_iff {data packet : List UInt8} :
    (normalizeHostReport data).map Prod.fst = some packet ↔ Carries data packet := by
  rw [normalizeHostReport, Carries]
  split
  · next hplain =>
    constructor
    · intro h
      cases h
      exact ⟨hplain, .inl rfl⟩
    · rintro ⟨hlength, rfl | rfl⟩
      · rfl
      · simp [hlength] at hplain
  · next hplain =>
    split
    · next hnumbered =>
      obtain ⟨b, rest, rfl⟩ := List.exists_cons_of_length_eq_add_one hnumbered.1
      obtain rfl : b = 0 := by simpa using hnumbered.2
      constructor
      · intro h
        cases h
        exact ⟨by simpa using hnumbered.1, .inr rfl⟩
      · rintro ⟨hlength, rfl | h⟩
        · exact absurd hlength hplain
        · simpa using h
    · next hnumbered =>
      constructor
      · simp
      · rintro ⟨hlength, rfl | rfl⟩
        · exact absurd hlength hplain
        · exact absurd ⟨by simp [hlength], rfl⟩ hnumbered

/-- The report of an event, as the packet handler gets it. -/
def UhidEvent.report : UhidEvent → Option (List UInt8)
  | .output data => (normalizeHostReport data).map Prod.fst
  | _ => none

/-- The report of a round. -/
def Round.report (round : Round) : Option (List UInt8) := round.event.report

/-- The reports of some rounds. -/
def hostReports (rounds : List Round) : List (List UInt8) := rounds.filterMap Round.report

theorem report_eq_some_iff {event : UhidEvent} {report : List UInt8} :
    event.report = some report ↔ ∃ data, event = .output data ∧ Carries data report := by
  cases event <;> simp [UhidEvent.report, ← normalizeHostReport_iff]

/-- **The reports that the packet handler gets on a channel are the packets that were sent on
it.** -/
theorem sent_iff {cid : UInt32} {rounds : List Round} {packets : List (List UInt8)} :
    Sent cid (rounds.map Round.event) packets ↔
      (hostReports rounds).filter (OnChannel cid ·) = packets := by
  induction rounds generalizing packets with
  | nil =>
    refine ⟨fun h ↦ ?_, fun h ↦ ?_⟩
    · cases h
      rfl
    · cases h
      exact .nil
  | cons round rounds ih =>
    have htail : ∀ {packets}, Sent cid (rounds.map Round.event) packets ↔
        (rounds.filterMap Round.report).filter (OnChannel cid ·) = packets := ih
    rw [List.map_cons, hostReports, List.filterMap_cons]
    constructor
    · intro h
      generalize hevent : round.event = event at h
      cases h with
      | packet hdata hon h =>
        have hreport : round.report = _ := report_eq_some_iff.mpr ⟨_, hevent, hdata⟩
        rw [hreport]
        simpa [hon] using htail.mp h
      | other hother h =>
        rcases hreport : round.report with _ | report
        · exact htail.mp h
        · obtain ⟨data, hdata, hcarries⟩ := report_eq_some_iff.mp hreport
          have hon := hother data report (hevent.symm.trans hdata) hcarries
          simpa [hon] using htail.mp h
    · rintro rfl
      rcases hreport : round.report with _ | report
      · refine .other (fun data packet hdata hcarries ↦ ?_) (htail.mpr rfl)
        cases (report_eq_some_iff.mpr ⟨data, hdata, hcarries⟩).symm.trans hreport
      · obtain ⟨data, hdata, hcarries⟩ := report_eq_some_iff.mp hreport
        by_cases hon : OnChannel cid report
        · rw [List.filter_cons_of_pos (by simpa using hon), hdata]
          exact .packet hcarries hon (htail.mpr rfl)
        · rw [List.filter_cons_of_neg (by simpa using hon)]
          refine .other (fun data' packet hdata' hcarries' ↦ ?_) (htail.mpr rfl)
          have hsame := (report_eq_some_iff.mpr ⟨data', hdata', hcarries'⟩).symm.trans hreport
          cases hsame
          exact hon

/-! ## Messages on a channel -/

/-- What is still to come on a channel: the rest of a message that is under way, and whole ones
after it. -/
inductive Awaits (cid : UInt32) : Option PendingRequest → List (List UInt8) → List Message → Prop
  | nil (state : Option PendingRequest) : Awaits cid state [] []
  | cons {state : Option PendingRequest} {current : List (List UInt8)} {m : Message}
    {messages : List Message} (h : Expects cid m.1 m.2 state current) (hne : current ≠ [])
    (hlen : ∀ m' ∈ m :: messages, m'.2.length ≤ maxPayloadSize) :
    Awaits cid state (current ++ packetsOf cid messages) (m :: messages)

variable {cid : UInt32} {messages : List Message}

/-- Between two messages it does not matter what the channel was left with. -/
theorem awaits_packetsOf (hlen : ∀ m ∈ messages, m.2.length ≤ maxPayloadSize)
    (state : Option PendingRequest) : Awaits cid state (packetsOf cid messages) messages := by
  cases messages with
  | nil => exact .nil state
  | cons m messages => exact .cons (.start state) (by simp [encodeMessage]) hlen

/-- **A report on the channel** is one more packet of the message, or its last. -/
theorem Awaits.receive {pending : PendingMap} {report : List UInt8} {reports : List (List UInt8)}
    (h : Awaits cid (pending cid) (report :: reports) messages) :
    ((receive report pending).1 = .needMore ∧
        Awaits cid ((receive report pending).2 cid) reports messages) ∨
      ∃ m rest, messages = m :: rest ∧ (receive report pending).1 = .dispatch cid m.1 m.2 ∧
        Awaits cid ((receive report pending).2 cid) reports rest := by
  generalize hall : report :: reports = all at h
  cases h with
  | nil => simp at hall
  | @cons current m rest hexpects hne hlen =>
    obtain ⟨packet, current, rfl⟩ := List.exists_cons_of_ne_nil hne
    rw [List.cons_append, List.cons.injEq] at hall
    obtain ⟨rfl, rfl⟩ := hall
    rcases receive_expected (hlen m List.mem_cons_self) hexpects with
      ⟨rfl, hlast⟩ | ⟨hrest, hmore, hnext⟩
    · refine .inr ⟨m, rest, rfl, by rw [hlast], ?_⟩
      exact awaits_packetsOf (fun m' hm' ↦ hlen m' (List.mem_cons_of_mem _ hm')) _
    · exact .inl ⟨hmore, .cons hnext hrest hlen⟩

/-- The packets of a message are on its channel. -/
theorem onChannel_encodeContinuations (payload : List UInt8) (fuel : Nat) :
    ∀ (offset : Nat) (sequence : UInt8),
      ∀ packet ∈ encodeContinuations cid payload fuel offset sequence, OnChannel cid packet := by
  induction fuel with
  | zero => simp [encodeContinuations]
  | succ fuel ih =>
    intro offset sequence packet hpacket
    rw [encodeContinuations] at hpacket
    split at hpacket
    · rcases List.mem_cons.mp hpacket with rfl | hpacket
      · refine ⟨length_continuationPacket _ _ _ ?_, reportCid_continuationPacket _ _ _⟩
        simp only [List.length_take, List.length_drop]
        omega
      · exact ih _ _ packet hpacket
    · simp at hpacket

theorem onChannel_packets (r : Response) : ∀ packet ∈ r.packets, OnChannel r.cid packet := by
  intro packet hpacket
  rcases List.mem_cons.mp hpacket with rfl | hpacket
  · exact ⟨length_initPacket _ _ _, reportCid_initPacket _ _ _⟩
  · exact onChannel_encodeContinuations _ _ _ _ packet hpacket

theorem filter_packets (r : Response) (cid : UInt32) :
    r.packets.filter (OnChannel cid ·) = if r.cid = cid then r.packets else [] := by
  split
  · next h =>
    refine List.filter_eq_self.mpr fun packet hpacket ↦ ?_
    simpa [← h] using onChannel_packets r packet hpacket
  · next h =>
    refine List.filter_eq_nil_iff.mpr fun packet hpacket ↦ ?_
    have hon := onChannel_packets r packet hpacket
    simpa [OnChannel, hon.1, hon.2] using h

/-! ## What a report is answered with -/

/-- What the handler answers by itself goes to the channel of the report. -/
theorem receive_reply_cid {report : List UInt8} {pending : PendingMap} {r : Response}
    (hvalid : PendingValid pending) (hr : (receive report pending).1 = .reply r) :
    r.cid = reportCid report := by
  by_cases hsize : report.length = reportSize
  · have hreceived := receive_received hsize pending
    generalize receive report pending = v at hreceived hr
    cases hreceived with
    | oversized => cases hr; rfl
    | unknown => cases hr; rfl
    | disordered _ request hbusy _ =>
      cases hr
      exact (hvalid _ _ hbusy).cid_eq
    | _ => cases hr
  · rw [receive_of_length_ne hsize] at hr
    cases hr

theorem writeAll_of_none {works : Nat → Bool} {n : Nat} {writes : List Write}
    (h : (writeAll works n writes).2 = none) : (writeAll works n writes).1 = writes := by
  induction writes generalizing n with
  | nil => rfl
  | cons write rest ih =>
    rw [writeAll] at h ⊢
    split at h
    · next hworks =>
      rw [if_pos hworks]
      simp [ih h]
    · simp at h

/-! ## The calls of a round -/

/-- The call that a report leads to, if it completes a request. -/
def callsOfReport (env : Env) (pending : PendingMap) (report : List UInt8) : List Call :=
  match (receive report pending).1 with
  | .dispatch cid command payload => [.message env cid command payload]
  | _ => []

/-- The call for the command at the head of the queue. -/
def callsOfQueue (env : Env) (queue : List (Nat × TpmCommand)) : List Call :=
  (queue.head?.map fun c ↦ Call.tpm env c.1 c.2).toList

/-- The calls of a round. -/
def callsOfRound (l : Loop) (round : Round) : List Call :=
  .outside round.outside :: (callsOfQueue round.commandEnv (l.commands ++ round.arrived) ++
    .outside round.between ::
      (round.report.map (callsOfReport round.env l.handler.pending)).getD [])

section
variable {crates : Crates} {l : Loop} {round : Round}

/-- The server after some calls, with their answers. -/
def served (crates : Crates) (s : Server) (calls : List Call) : List Answer × Server :=
  (answers crates s calls, Run.final (Server.call crates) s calls)

theorem served_append {s s₁ s₂ : Server} {calls calls' : List Call} {as as' : List Answer}
    (h : served crates s calls = (as, s₁)) (h' : served crates s₁ calls' = (as', s₂)) :
    served crates s (calls ++ calls') = (as ++ as', s₂) := by
  cases h
  cases h'
  simp [served, answers, Run.transitions_append, Run.final_append]

theorem served_nil (s : Server) : served crates s [] = ([], s) := rfl

theorem served_singleton (s : Server) (call : Call) :
    served crates s [call] = ([(s.call crates call).1], (s.call crates call).2) := rfl

/-- **The command of a round** is answered as the server answers it. -/
theorem takeCommand_served {env : Env} (h : (takeCommand crates env l).2.ended = none) :
    ∃ as, served crates l.server (callsOfQueue env l.commands) =
        (as, (takeCommand crates env l).2.server) ∧
      as.filterMap Answer.result? = (takeCommand crates env l).1.toList ∧
      (∀ cid, as.filterMap (Answer.responseOn cid) = []) ∧
      (callsOfQueue env l.commands).filterMap Call.tpmCommand ++
        (takeCommand crates env l).2.commands = l.commands ∧
      (takeCommand crates env l).2.handler.pending = l.handler.pending := by
  obtain ⟨handler, commands, ended⟩ := l
  cases commands with
  | nil => exact ⟨[], by simp [callsOfQueue, takeCommand, served_nil, Loop.server]⟩
  | cons c rest =>
    obtain ⟨k, command⟩ := c
    simp only [takeCommand] at h ⊢
    cases hr : Ctap2.handleTpmCommand crates env command handler.authenticator with
    | mk o w =>
      rw [hr] at h
      cases o with
      | panicked => simp at h
      | ok _ =>
        refine ⟨[.result k true], ?_⟩
        simp [callsOfQueue, served_singleton, Server.call, Loop.server, hr, Outcome.toOption,
          Answer.result?, Answer.responseOn, Call.tpmCommand]
      | error _ =>
        refine ⟨[.result k false], ?_⟩
        simp [callsOfQueue, served_singleton, Server.call, Loop.server, hr, Outcome.toOption,
          Answer.result?, Answer.responseOn, Call.tpmCommand]

/-- A request is handled alike whatever is pending. -/
theorem call_message {env : Env} {cid : UInt32} {command : CtapHidCommand} {payload : List UInt8}
    {h h' : PacketHandler World} {r : Response}
    (hd : PacketHandler.dispatch (ctap2Authn crates) env cid command payload h = (.ok r, h')) :
    Server.call crates ⟨h.nextCid, h.authenticator⟩ (.message env cid command payload) =
      (.response r, ⟨h'.nextCid, h'.authenticator⟩) := by
  cases command with
  | init =>
    simp only [PacketHandler.dispatch] at hd
    split at hd
    · next hcid => cases hd; simp [Server.call, PacketHandler.dispatch, hcid]
    · next hcid => cases hd; simp [Server.call, PacketHandler.dispatch, hcid]
  | cbor =>
    simp only [PacketHandler.dispatch] at hd
    split at hd
    · next hcbor => cases hd; simp [Server.call, PacketHandler.dispatch, hcbor]
    · cases hd
  | _ => cases hd; simp [Server.call, PacketHandler.dispatch]

/-- The packets of a write that goes through. -/
theorem filterMap_packet_input (packets : List (List UInt8)) :
    (packets.map Write.input).filterMap Write.packet = packets := by
  simp [List.filterMap_map, Function.comp_def, Write.packet]

/-- What a report leaves: the writes, whether the loop goes on, and the handler. -/
theorem handleEvent_of_report (crates : Crates) {report : List UInt8}
    (hreport : round.report = some report) (h : PacketHandler World) :
    report.length = reportSize ∧ handleEvent crates round h =
      match PacketHandler.handlePacket (ctap2Authn crates) round.env report h with
      | (.ok (some (.response r)), h') =>
        (writeAll round.writes 0 (r.packets.map .input), h')
      | (.ok _, h') => (([], none), h')
      | (.panicked, h') => (([], some .panicked), h') := by
  obtain ⟨data, hevent, hcarries⟩ := report_eq_some_iff.mp hreport
  obtain ⟨⟨report, numbered⟩, hdata, rfl⟩ :=
    Option.map_eq_some_iff.mp (normalizeHostReport_iff.mpr hcarries)
  refine ⟨hcarries.1, ?_⟩
  simp only [handleEvent, hevent, hdata]

/-- Other events do not touch the handler, and the replies to them are no packets. -/
theorem handleEvent_of_none (hreport : round.report = none) {h : PacketHandler World}
    (hended : (handleEvent crates round h).1.2 = none) :
    (handleEvent crates round h).1.1.filterMap Write.packet = [] ∧
      (handleEvent crates round h).2 = h := by
  rw [Round.report] at hreport
  rw [handleEvent] at hended ⊢
  cases hevent : round.event with
  | output data =>
    have hdata : normalizeHostReport data = none := by
      simpa [hevent, UhidEvent.report] using hreport
    simp [hdata]
  | getReport id =>
    simp only [hevent] at hended
    simp [writeAll_of_none hended, Write.packet]
  | setReport id data =>
    simp only [hevent] at hended
    simp [writeAll_of_none hended, Write.packet]
  | _ => simp_all

/-- **The event of a round** is a call of the server if it completes a request, and the packets of
the response are written.  On a channel where the handler has nothing to complain about, nothing
else is. -/
theorem handleEvent_served {h : PacketHandler World} (hvalid : PendingValid h.pending)
    (hended : (handleEvent crates round h).1.2 = none) :
    ∃ as, served crates ⟨h.nextCid, h.authenticator⟩
        ((round.report.map (callsOfReport round.env h.pending)).getD []) =
          (as, ⟨(handleEvent crates round h).2.nextCid,
            (handleEvent crates round h).2.authenticator⟩) ∧
      as.filterMap Answer.result? = [] ∧
      (handleEvent crates round h).2.pending =
        (round.report.map fun report ↦ (receive report h.pending).2).getD h.pending ∧
      ∀ cid, (∀ report ∈ round.report, OnChannel cid report →
          ∀ r, (receive report h.pending).1 ≠ .reply r) →
        ((handleEvent crates round h).1.1.filterMap Write.packet).filter (OnChannel cid ·) =
          (as.filterMap (Answer.responseOn cid)).flatMap Response.packets := by
  cases hreport : round.report with
  | none =>
    obtain ⟨hwritten, hhandler⟩ := handleEvent_of_none hreport hended
    exact ⟨[], by simp [served_nil, hhandler, hwritten]⟩
  | some report =>
    obtain ⟨hsize, hevent⟩ := handleEvent_of_report crates hreport h
    have hpending := PacketHandler.handlePacket_pending (ctap2Authn crates) round.env report h
    rw [hevent] at hended ⊢
    simp only [Option.map_some, Option.getD_some, callsOfReport, Option.mem_some_iff,
      forall_eq']
    rw [PacketHandler.handlePacket] at hended hpending ⊢
    cases hv : receive report h.pending with
    | mk v pending =>
      rw [hv] at hended hpending
      cases v with
      | panicked => simp at hended
      | ignored => exact ⟨[], by simp [served_nil]⟩
      | needMore => exact ⟨[], by simp [served_nil]⟩
      | reply r =>
        refine ⟨[], rfl, rfl, rfl, fun cid hquiet ↦ ?_⟩
        -- the complaint goes to the channel of the report, which is another one
        have hcid : r.cid ≠ cid := by
          intro hcid
          have hchannel := receive_reply_cid hvalid (congrArg Prod.fst hv)
          exact hquiet ⟨hsize, hchannel.symm.trans hcid⟩ r rfl
        simp only at hended ⊢
        rw [writeAll_of_none hended, filterMap_packet_input, filter_packets, if_neg hcid]
        rfl
      | dispatch cid command payload =>
        cases hd : PacketHandler.dispatch (ctap2Authn crates) round.env cid command payload
            { h with pending := pending } with
        | mk o h' =>
          simp only [hd] at hended hpending ⊢
          cases o with
          | error e => exact e.elim
          | panicked => simp [PacketHandler.respond] at hended
          | ok r =>
            simp only [PacketHandler.respond] at hended hpending ⊢
            refine ⟨[.response r], ?_, rfl, hpending, fun c _ ↦ ?_⟩
            · rw [served_singleton, call_message hd]
            · rw [writeAll_of_none hended, filterMap_packet_input, filter_packets]
              by_cases hc : r.cid = c <;> simp [Answer.responseOn, hc]

/-- What a round has done, if the loop goes on after it. -/
structure RoundServed (crates : Crates) (l : Loop) (round : Round) (as : List Answer) : Prop where
  served : served crates l.server (callsOfRound l round) = (as, (step crates l round).2.server)
  results : as.filterMap Answer.result? = (step crates l round).1.answered.toList
  commands : (callsOfRound l round).filterMap Call.tpmCommand ++ (step crates l round).2.commands =
    l.commands ++ round.arrived
  pending : (step crates l round).2.handler.pending =
    (round.report.map fun report ↦ (receive report l.handler.pending).2).getD l.handler.pending
  /-- What comes back on a channel where the handler has nothing to complain about. -/
  written : ∀ cid, (∀ report ∈ round.report, OnChannel cid report →
      ∀ r, (receive report l.handler.pending).1 ≠ .reply r) →
    packetsBack cid [(step crates l round).1] =
      (as.filterMap (Answer.responseOn cid)).flatMap Response.packets

/-- A report leads to one message at most. -/
theorem exists_message_callsOfReport (env : Env) (pending : PendingMap)
    (report : Option (List UInt8)) :
    ∃ message : Option (UInt32 × Message), (report.map (callsOfReport env pending)).getD [] =
      (message.map fun m ↦ Call.message env m.1 m.2.1 m.2.2).toList := by
  cases report with
  | none => exact ⟨none, rfl⟩
  | some report =>
    simp only [Option.map_some, Option.getD_some, callsOfReport]
    split
    · next cid command payload _ => exact ⟨some (cid, command, payload), rfl⟩
    · exact ⟨none, rfl⟩

theorem tpmCommand_callsOfReport (env : Env) (pending : PendingMap) (report : Option (List UInt8)) :
    ((report.map (callsOfReport env pending)).getD []).filterMap Call.tpmCommand = [] := by
  obtain ⟨message, hmessage⟩ := exists_message_callsOfReport env pending report
  rw [hmessage]
  cases message <;> rfl

/-- If the loop goes on after a round, its two halves have both been done. -/
theorem step_going (hended : (step crates l round).2.ended = none) :
    let taken := takeCommand crates round.commandEnv (l.meet round)
    let handled := handleEvent crates round (withOutside round.between taken.2.handler)
    l.ended = none ∧ taken.2.ended = none ∧ handled.1.2 = none ∧ step crates l round =
      (⟨taken.1, handled.1.1⟩, { taken.2 with handler := handled.2, ended := handled.1.2 }) := by
  intro taken handled
  rw [step] at hended ⊢
  by_cases hl : l.ended.isSome
  · rw [if_pos hl] at hended
    have hnone : l.ended = none := hended
    simp [hnone] at hl
  · rw [if_neg hl] at hended ⊢
    by_cases htaken : taken.2.ended.isSome
    · rw [if_pos htaken] at hended
      have hnone : taken.2.ended = none := hended
      simp [hnone] at htaken
    · rw [if_neg htaken] at hended ⊢
      exact ⟨by simpa using hl, by simpa using htaken, hended, rfl⟩

/-- **One round.** -/
theorem step_served (hvalid : PendingValid l.handler.pending)
    (hended : (step crates l round).2.ended = none) : ∃ as, RoundServed crates l round as := by
  obtain ⟨-, htaken, hhandled, hstep⟩ := step_going hended
  obtain ⟨as₁, hserved₁, hresults₁, hquiet, hcommands, hpending₁⟩ := takeCommand_served htaken
  -- neither the other threads nor a command touch what is pending
  have hpending : (withOutside round.between
    (takeCommand crates round.commandEnv (l.meet round)).2.handler).pending =
      l.handler.pending := hpending₁
  obtain ⟨as₂, hserved₂, hresults₂, hpending₂, hwritten⟩ :=
    handleEvent_served (by rwa [hpending]) hhandled
  rw [hpending] at hserved₂ hpending₂ hwritten
  refine ⟨.silent :: (as₁ ++ .silent :: as₂), ?_, ?_, ?_, ?_, ?_⟩
  · have houtside : served crates l.server [.outside round.outside] =
      ([.silent], (l.meet round).server) := rfl
    have hbetween : ∀ s, served crates s [.outside round.between] =
      ([.silent], { s with world := { s.world with store := round.between s.world.store } }) :=
      fun _ ↦ rfl
    rw [hstep]
    exact served_append houtside
      (served_append hserved₁ (served_append (hbetween _) hserved₂))
  · rw [hstep]
    simp [List.filterMap_cons, Answer.result?, hresults₁, hresults₂]
  · rw [hstep]
    simpa [callsOfRound, List.filterMap_cons, Call.tpmCommand, tpmCommand_callsOfReport] using
      hcommands
  · rw [hstep]
    exact hpending₂
  · intro cid hreply
    rw [hstep]
    simpa [packetsBack, List.filterMap_cons, Answer.responseOn, hquiet] using hwritten cid hreply

/-! ## Whole runs -/

/-- The calls of some rounds. -/
def callsOf (crates : Crates) : Loop → List Round → List Call
  | _, [] => []
  | l, round :: rounds => callsOfRound l round ++ callsOf crates (step crates l round).2 rounds

theorem schedule_callsOf (l : Loop) (rounds : List Round) :
    Schedule rounds (callsOf crates l rounds) := by
  induction rounds generalizing l with
  | nil => exact .nil
  | cons round rounds ih =>
    obtain ⟨message, hmessage⟩ :=
      exists_message_callsOfReport round.env l.handler.pending round.report
    rw [callsOf, callsOfRound, hmessage]
    exact .cons round _ message (ih _)

/-- A loop that has ended stays so. -/
theorem ended_of_step {rounds : List Round} (h : (afterRounds crates l rounds).ended = none) :
    l.ended = none := by
  induction rounds generalizing l with
  | nil => exact h
  | cons round rounds ih => exact (step_going (ih h)).1

theorem served_callsOfRound_append {as : List Answer} (h : RoundServed crates l round as)
    (calls : List Call) :
    served crates l.server (callsOfRound l round ++ calls) =
      (as ++ (served crates (step crates l round).2.server calls).1,
        (served crates (step crates l round).2.server calls).2) :=
  served_append h.served rfl

theorem RoundServed.valid {as : List Answer} (h : RoundServed crates l round as)
    (hvalid : PendingValid l.handler.pending) :
    PendingValid (step crates l round).2.handler.pending := by
  rw [h.pending]
  cases round.report with
  | none => exact hvalid
  | some report => exact receive_valid hvalid

/-- **The loop is where the server is**, and has taken the commands from the front of the queue. -/
theorem served_callsOf {rounds : List Round} (hvalid : PendingValid l.handler.pending)
    (hended : (afterRounds crates l rounds).ended = none) :
    (served crates l.server (callsOf crates l rounds)).2 = (afterRounds crates l rounds).server ∧
      (outputs crates l rounds).filterMap Output.answered =
        (served crates l.server (callsOf crates l rounds)).1.filterMap Answer.result? ∧
      (callsOf crates l rounds).filterMap Call.tpmCommand ++
        (afterRounds crates l rounds).commands = l.commands ++ rounds.flatMap Round.arrived := by
  induction rounds generalizing l with
  | nil => simp [callsOf, served, afterRounds, outputs, answers, Run.final, Run.transitions]
  | cons round rounds ih =>
    obtain ⟨as, h⟩ := step_served hvalid (ended_of_step hended)
    obtain ⟨hstate, hresults, hcommands⟩ := ih (h.valid hvalid) hended
    rw [callsOf, served_callsOfRound_append h]
    refine ⟨hstate, ?_, ?_⟩
    · have houtputs : outputs crates l (round :: rounds) =
        (step crates l round).1 :: outputs crates (step crates l round).2 rounds := rfl
      rw [houtputs, List.filterMap_append, h.results, ← hresults, List.filterMap_cons]
      cases (step crates l round).1.answered <;> rfl
    · have hafter : afterRounds crates l (round :: rounds) =
        afterRounds crates (step crates l round).2 rounds := rfl
      rw [List.filterMap_append, List.append_assoc, hafter, hcommands, ← List.append_assoc,
        h.commands, List.flatMap_cons, List.append_assoc]

theorem messageOn_callsOfRound (cid : UInt32) (l : Loop) (round : Round) :
    (callsOfRound l round).filterMap (Call.messageOn cid) =
      ((round.report.map (callsOfReport round.env l.handler.pending)).getD []).filterMap
        (Call.messageOn cid) := by
  have hqueue : (callsOfQueue round.commandEnv (l.commands ++ round.arrived)).filterMap
      (Call.messageOn cid) = [] := by
    cases l.commands ++ round.arrived <;> simp [callsOfQueue, List.filterMap_cons, Call.messageOn]
  simp [callsOfRound, List.filterMap_cons, Call.messageOn, hqueue]

/-- A report on another channel is no call on this one. -/
theorem messageOn_callsOfReport {env : Env} {pending : PendingMap} {report : List UInt8}
    {cid : UInt32} (hsize : report.length = reportSize) (hcid : ¬ OnChannel cid report) :
    (callsOfReport env pending report).filterMap (Call.messageOn cid) = [] := by
  rw [callsOfReport]
  split
  · next c command payload hdispatch =>
    have hc : c ≠ cid := by
      rintro rfl
      exact hcid ⟨hsize, (receive_dispatch hdispatch).1.symm⟩
    simp [Call.messageOn, hc]
  · rfl

/-- **The calls on a channel are the messages that were sent on it**, and what comes back are the
packets of the responses.  The induction is on the rounds; a round without a report on the channel
leaves `Awaits` alone. -/
theorem delivered_callsOf {rounds : List Round} {cid : UInt32} {messages : List Message}
    (hvalid : PendingValid l.handler.pending) (hended : (afterRounds crates l rounds).ended = none)
    (hawaits : Awaits cid (l.handler.pending cid) ((hostReports rounds).filter (OnChannel cid ·))
      messages) :
    (callsOf crates l rounds).filterMap (Call.messageOn cid) = messages ∧
      packetsBack cid (outputs crates l rounds) =
        ((served crates l.server (callsOf crates l rounds)).1.filterMap
          (Answer.responseOn cid)).flatMap Response.packets := by
  induction rounds generalizing l messages with
  | nil =>
    have hmessages : messages = [] := by
      generalize hnil : (hostReports []).filter (OnChannel cid ·) = reports at hawaits
      cases hawaits with
      | nil => rfl
      | cons h hne _ => simp [hostReports, hne] at hnil
    simp [callsOf, served, outputs, answers, Run.transitions, packetsBack, hmessages]
  | cons round rounds ih =>
    obtain ⟨as, h⟩ := step_served hvalid (ended_of_step hended)
    have hvalid' := h.valid hvalid
    have hback : packetsBack cid (outputs crates l (round :: rounds)) =
        packetsBack cid [(step crates l round).1] ++
          packetsBack cid (outputs crates (step crates l round).2 rounds) := by
      simp [packetsBack, outputs, Run.transitions, Run.transition]
    -- it is enough to say what the round calls, and what is awaited after it
    suffices hround : ∃ first rest, messages = first ++ rest ∧
        (callsOfRound l round).filterMap (Call.messageOn cid) = first ∧
        (∀ report ∈ round.report, OnChannel cid report →
          ∀ r, (receive report l.handler.pending).1 ≠ .reply r) ∧
        Awaits cid ((step crates l round).2.handler.pending cid)
          ((hostReports rounds).filter (OnChannel cid ·)) rest by
      obtain ⟨first, rest, rfl, hfirst, hreply, hrest⟩ := hround
      obtain ⟨hcalls, hpackets⟩ := ih hvalid' hended hrest
      rw [callsOf, served_callsOfRound_append h, List.filterMap_append, hfirst, hcalls, hback,
        h.written cid hreply, hpackets, List.filterMap_append, List.flatMap_append]
      exact ⟨rfl, rfl⟩
    rw [messageOn_callsOfRound, h.pending]
    cases hreport : round.report with
    | none =>
      refine ⟨[], messages, rfl, rfl, by simp, ?_⟩
      simpa [hostReports, List.filterMap_cons, hreport] using hawaits
    | some report =>
      have hsize := (handleEvent_of_report crates hreport l.handler).1
      have hreports : hostReports (round :: rounds) = report :: hostReports rounds := by
        simp [hostReports, hreport]
      rw [hreports] at hawaits
      simp only [Option.map_some, Option.getD_some, Option.mem_some_iff, forall_eq']
      by_cases hcid : OnChannel cid report
      · rw [List.filter_cons_of_pos (by simpa using hcid)] at hawaits
        rcases hawaits.receive with ⟨hmore, hnext⟩ | ⟨m, rest, rfl, hdispatch, hnext⟩
        · exact ⟨[], messages, rfl, by simp [callsOfReport, hmore], by simp [hmore], hnext⟩
        · refine ⟨[m], rest, rfl, ?_, by simp [hdispatch], hnext⟩
          simp [callsOfReport, hdispatch, Call.messageOn]
      · rw [List.filter_cons_of_neg (by simpa using hcid)] at hawaits
        refine ⟨[], messages, rfl, messageOn_callsOfReport hsize hcid,
          fun hon ↦ absurd hon hcid, ?_⟩
        rwa [receive_not_onChannel hcid]

end

/-- **The loop handles one message at a time**, as far as its clients can tell.  Take any rounds of
the loop from its start, with any reports on any channels, any commands of the management threads
and any events of the device between them, such that nothing panics and the device does not
fail. -/
theorem loop_linearised (crates : Crates) (w : World) (rounds : List Round)
    (hended : (afterRounds crates (.start w) rounds).ended = none) :
    ∃ calls, Linearised crates (.start w) rounds calls := by
  have hvalid : PendingValid (Loop.start w).handler.pending := by
    intro cid request h
    cases h
  obtain ⟨hstate, hresults, hcommands⟩ := served_callsOf hvalid hended
  refine ⟨callsOf crates (.start w) rounds, schedule_callsOf _ _, hstate.symm, hcommands,
    hresults, ?_⟩
  intro cid messages hlen hsent
  refine delivered_callsOf hvalid hended ?_
  rw [sent_iff.mp hsent]
  exact awaits_packetsOf hlen _

/-! ### Two clients and a management thread -/

section
open Ctap2.Sample

/-- A round that only brings an event. -/
def roundOf (event : UhidEvent) : Round :=
  ⟨[], id, strictSession 1000 1, id, event, strictSession 1000 1, fun _ ↦ true⟩

/-- A registration. -/
def registering : Message := (.cbor, 0x01 :: Cbor.encode (makeCredential ""))

/-- A ping of more than one packet. -/
def pinging : Message := (.ping, List.replicate 60 7)

/-- The client on channel 1 registers; between its packets the one on channel 2, whose reports come
with a report number, sends a ping.  Before all this the daemon passphrase is set, and two commands
arrive in the middle. -/
def clientRounds : List Round :=
  { roundOf .opened with
    outside := fun s ↦
      (Store.saveDaemonPassphrase clientPackages noFault [] [] (.argon2id 1 1 1) s).2 } ::
    ((packetsOf 1 [registering]).take 1).map (roundOf ∘ .output) ++
    { roundOf .wouldBlock with arrived := [(5, .pcrDigestCheck [7]), (6, .pcrDigestCheck [])] } ::
    ((packetsOf 2 [pinging]).map fun p ↦ roundOf (.output (0 :: p))) ++
    ((packetsOf 1 [registering]).drop 1).map (roundOf ∘ .output)

/-- The loop of the clients. -/
def clientLoop : Loop :=
  .start (Ctap2.newAuthenticator clientPackages (strictSession 1000 0) (some "") Store.fresh)

/-- The registration is answered with four packets, the ping with itself, and the commands in their
order. -/
theorem loop_linearised_clients :
    let outs := outputs clientPackages clientLoop clientRounds
    Sent 1 (clientRounds.map Round.event) (packetsOf 1 [registering]) ∧
      Sent 2 (clientRounds.map Round.event) (packetsOf 2 [pinging]) ∧
      ((packetsBack 1 outs).length = 4 ∧ packetsBack 2 outs = packetsOf 2 [pinging] ∧
        outs.filterMap Output.answered = [(5, true), (6, true)]) ∧
      ∃ calls, Linearised clientPackages clientLoop clientRounds calls := by
  intro outs
  have hended : (afterRounds clientPackages clientLoop clientRounds).ended = none := by
    decide +kernel
  exact ⟨sent_iff.mpr (by decide +kernel), sent_iff.mpr (by decide +kernel), by decide +kernel,
    loop_linearised clientPackages _ clientRounds hended⟩

end

end MainLoop
end TpmFido2
