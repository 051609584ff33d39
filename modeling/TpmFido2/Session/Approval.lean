import TpmFido2.Ctap2.State
import TpmFido2.Lib.Text

/-!
# Sessions and the user's approval

`src/session.rs`, `src/systemd_logind.rs`, `src/polkit.rs` and `src/approval.rs`: where the daemon
finds out whose session it serves, and how it asks that person.

The daemon asks logind for the sessions of the machine and takes the first one that is active on a
seat and graphical, or else the first that is active on a seat.  Without logind it looks at its own
environment.  To ask for an approval it names the leader of the session to polkit, by its process
number and the time it was started; only if that gets no answer it asks on the terminal.
`approve_eq_true_iff` is everything that can make an approval.  Polkit's yes (`Authorised`) is to
the leader of the session: it is not told what the daemon wants to do, and shows the one text of our
action, so an authorisation fits any prompt (`Authorised.approve`).  Only the yes on the terminal
(`AnsweredYes`) answers the prompt.

What one look at all this finds is an `Outside`.
-/

set_option autoImplicit false

namespace TpmFido2
namespace Session

open Text

/-! ## The session -/

inductive DaemonSessionModel where
  | activeGraphicalSession
  | perUserDaemon
  | systemBroker
deriving DecidableEq, Repr

def DaemonSessionModel.asStr : DaemonSessionModel → String
  | .activeGraphicalSession => "active-graphical-session"
  | .perUserDaemon => "per-user-daemon"
  | .systemBroker => "system-broker"

/-- `SessionContext`, with all its fields. -/
structure SessionContext where
  model : DaemonSessionModel
  user : Option String
  uid : Option UInt32
  sessionId : Option String
  leaderPid : Option UInt32
  seat : Option String
  display : Option String
  waylandDisplay : Option String
  dbusSessionBusAddress : Option String
deriving DecidableEq, Repr

/-- What the authenticator compares of it. -/
def SessionContext.compared (ctx : SessionContext) : Ctap2.SessionContext :=
  ⟨ctx.uid, ctx.sessionId⟩

/-- A session in the reply to `ListSessions`. -/
structure ListedSession where
  id : String
  uid : UInt32
  user : String
  seat : String
deriving DecidableEq, Repr

/-- The properties of a session that are asked for. -/
inductive Property where
  | active
  | type
  | leader
  | display
deriving DecidableEq, Repr

/-- A value on the bus, as far as the types are wanted. -/
inductive BusValue where
  | bool (b : Bool)
  | text (s : String)
  | u32 (n : UInt32)
  | other
deriving DecidableEq, Repr

def BusValue.toBool : BusValue → Option Bool
  | .bool b => some b
  | _ => none

def BusValue.toText : BusValue → Option String
  | .text s => some s
  | _ => none

def BusValue.toU32 : BusValue → Option UInt32
  | .u32 n => some n
  | _ => none

/-- The process that polkit is asked about. -/
structure Subject where
  pid : UInt32
  startTime : UInt64
  uid : Int32
deriving DecidableEq, Repr

/-- What one look at the system finds. -/
structure Outside where
  /-- `ListSessions` of logind; `none` if there is no connection or no proper reply. -/
  sessions : Option (List ListedSession)
  /-- The property of a session, by its number in the list. -/
  property : Nat → Property → Option BusValue
  /-- The environment of the daemon. -/
  var : String → Option String
  euid : UInt32
  /-- `/proc/<pid>/stat`. -/
  stat : UInt32 → Option String
  /-- `CheckAuthorization` of polkit for our action, with interaction allowed. -/
  checkAuthorization : Subject → Option Bool
  /-- Whether a text can be written to the terminal. -/
  prints : String → Bool
  /-- The line that is read from it. -/
  line : Option String

section
variable (o : Outside)

/-! ## Finding the session -/

/-- What the loop of `detect_session` makes of the n-th session: `none` is a `?` that gives up,
`some none` goes on to the next, and otherwise there is a context, which may be graphical. -/
def examine (n : Nat) (s : ListedSession) : Option (Option (SessionContext × Bool)) :=
  if s.seat = "" then some none
  else do
    let active ← (← o.property n .active).toBool
    if ¬ active then some none
    else do
      let sessionType ← (← o.property n .type).toText
      let leaderPid ← (← o.property n .leader).toU32
      -- a display that is no text is no display
      let display := (← o.property n .display).toText.filter (· ≠ "")
      some (some (
        { model := .activeGraphicalSession
          user := if s.user = "" then none else some s.user
          uid := some s.uid
          sessionId := some s.id
          leaderPid := some leaderPid
          seat := some s.seat
          display := display
          waylandDisplay := none
          dbusSessionBusAddress := none },
        sessionType = "x11" || sessionType = "wayland"))

/-- The loop of `detect_session`, from the n-th session on. -/
def detectLoop : Nat → Option SessionContext → List ListedSession → Option SessionContext
  | _, activeNonGraphical, [] => activeNonGraphical
  | n, activeNonGraphical, s :: sessions =>
    match examine o n s with
    | none => none
    | some none => detectLoop (n + 1) activeNonGraphical sessions
    | some (some (context, graphical)) =>
      if graphical then some context
      else detectLoop (n + 1) (activeNonGraphical.or (some context)) sessions

/-- `systemd_logind::detect_session`. -/
def detectSession : Option SessionContext := o.sessions.bind (detectLoop o 0 none)

/-- `env::var(name).ok().filter(|value| !value.is_empty())`. -/
def Outside.nonempty (name : String) : Option String := (o.var name).filter (· ≠ "")

/-- `env::var(name).ok().and_then(|value| value.parse().ok())`. -/
def Outside.number (name : String) : Option UInt32 :=
  (o.var name).bind fun value ↦ parseU32 value.toList

/-- `SessionContext::detect`. -/
def SessionContext.detect : SessionContext :=
  (detectSession o).getD
    { model := .activeGraphicalSession
      user := (o.nonempty "SUDO_USER").or (o.nonempty "USER")
      uid := ((o.number "SUDO_UID").or (o.number "UID")).or (some o.euid)
      sessionId := o.nonempty "XDG_SESSION_ID"
      leaderPid := none
      seat := o.nonempty "XDG_SEAT"
      display := o.nonempty "DISPLAY"
      waylandDisplay := o.nonempty "WAYLAND_DISPLAY"
      dbusSessionBusAddress := o.nonempty "DBUS_SESSION_BUS_ADDRESS" }

/-- `SessionContext::describe`. -/
def SessionContext.describe (ctx : SessionContext) : String :=
  " ".intercalate
    (("model=" ++ ctx.model.asStr) ::
      ((ctx.user.map ("user=" ++ ·)).toList ++
        (ctx.uid.map fun uid ↦ "uid=" ++ toString uid.toNat).toList ++
        (ctx.sessionId.map ("session=" ++ ·)).toList ++
        (ctx.seat.map ("seat=" ++ ·)).toList ++
        (ctx.display.map ("display=" ++ ·)).toList ++
        (ctx.waylandDisplay.map ("wayland=" ++ ·)).toList ++
        (ctx.dbusSessionBusAddress.map fun _ ↦ "dbus=session-bus").toList))

/-- `SessionContext::verify_matches_current`. -/
def SessionContext.verifyMatchesCurrent (ctx : SessionContext) : Bool :=
  (SessionContext.detect o).uid = ctx.uid && (SessionContext.detect o).sessionId = ctx.sessionId

/-! ## Asking -/

/-- `process_start_time_ticks` on what the file holds.  The slice from the second byte behind the
parenthesis on panics if there is no such byte, or if it is not the first of a character. -/
def startTimeOf (stat : List Char) : Outcome Unit UInt64 :=
  match afterLast ')' stat with
  | none => .error ()
  | some [] => .panicked
  | some (c :: rest) =>
    if c.utf8Size ≠ 1 then .panicked
    else
      match (splitWhitespace rest)[19]?.bind parseU64 with
      | none => .error ()
      | some time => .ok time

/-- `process_start_time_ticks`. -/
def processStartTimeTicks (pid : UInt32) : Outcome Unit UInt64 :=
  match o.stat pid with
  | none => .error ()
  | some stat => startTimeOf stat.toList

/-- `polkit::check_session`. -/
def checkSession (pid userUid : UInt32) : Outcome Unit Bool :=
  match processStartTimeTicks o pid with
  | .panicked => .panicked
  | .error _ => .error ()
  | .ok startTime =>
    match o.checkAuthorization ⟨pid, startTime, userUid.toInt32⟩ with
    | none => .error ()
    | some authorized => .ok authorized

/-- The answers that count as a yes. -/
def isYes (answer : String) : Bool :=
  ["y", "Y", "yes", "YES", "Yes"].contains (String.ofList (trim answer.toList))

/-- What is written to the terminal. -/
def question (ctx : SessionContext) (prompt : String) : String :=
  "[" ++ ctx.describe ++ "] " ++ prompt ++ "? [y/N] "

/-- The second half of `approve`. -/
def askTerminal (ctx : SessionContext) (prompt : String) : Bool :=
  o.prints (question ctx prompt) && o.line.any isYes

/-- `approval::approve`. -/
def approve (prompt : String) (ctx : SessionContext) : Outcome Empty Bool :=
  match ctx.sessionId, ctx.leaderPid, ctx.uid with
  | some _, some leaderPid, some userUid =>
    match checkSession o leaderPid userUid with
    | .ok authorized => .ok authorized
    | .error _ => .ok (askTerminal o ctx prompt)
    | .panicked => .panicked
  | _, _, _ => .ok (askTerminal o ctx prompt)

end

/-! ## What makes an approval -/

section
variable {o : Outside}

/-- **Polkit said yes**, to the process that leads the session.  The prompt is not part of the
question. -/
structure Authorised (o : Outside) (ctx : SessionContext) : Prop where
  session : ctx.sessionId.isSome
  authorized : ∃ pid uid startTime, ctx.leaderPid = some pid ∧ ctx.uid = some uid ∧
    processStartTimeTicks o pid = .ok startTime ∧
      o.checkAuthorization ⟨pid, startTime, uid.toInt32⟩ = some true

/-- **Somebody at the terminal said yes** to the prompt, and polkit could not be asked. -/
structure AnsweredYes (o : Outside) (ctx : SessionContext) (prompt : String) : Prop where
  noPolkit : ∀ pid uid, ctx.sessionId.isSome → ctx.leaderPid = some pid → ctx.uid = some uid →
    checkSession o pid uid = .error ()
  asked : o.prints (question ctx prompt)
  answered : ∃ line, o.line = some line ∧ isYes line

theorem askTerminal_iff {ctx : SessionContext} {prompt : String} :
    askTerminal o ctx prompt ↔
      o.prints (question ctx prompt) ∧ ∃ line, o.line = some line ∧ isYes line := by
  simp [askTerminal, Option.any_eq_true]

theorem checkSession_eq_ok_true_iff {pid uid : UInt32} :
    checkSession o pid uid = .ok true ↔ ∃ startTime, processStartTimeTicks o pid = .ok startTime ∧
      o.checkAuthorization ⟨pid, startTime, uid.toInt32⟩ = some true := by
  rw [checkSession]
  cases processStartTimeTicks o pid with
  | panicked => simp
  | error e => simp
  | ok startTime =>
    cases h : o.checkAuthorization ⟨pid, startTime, uid.toInt32⟩ <;> simp [h]

/-- **Nothing else makes an approval.** -/
theorem approve_eq_true_iff {ctx : SessionContext} {prompt : String} :
    approve o prompt ctx = .ok true ↔ Authorised o ctx ∨ AnsweredYes o ctx prompt := by
  by_cases hnamed : ∃ pid uid, ctx.sessionId.isSome ∧ ctx.leaderPid = some pid ∧ ctx.uid = some uid
  · obtain ⟨pid, uid, hsession, hpid, huid⟩ := hnamed
    obtain ⟨sessionId, hid⟩ := Option.isSome_iff_exists.mp hsession
    simp only [approve, hid, hpid, huid]
    constructor
    · intro h
      cases hcheck : checkSession o pid uid with
      | panicked => simp [hcheck] at h
      | ok authorized =>
        obtain rfl : authorized = true := by simpa [hcheck] using h
        obtain ⟨startTime, hstarted, hauthorized⟩ := checkSession_eq_ok_true_iff.mp hcheck
        exact .inl ⟨hsession, pid, uid, startTime, hpid, huid, hstarted, hauthorized⟩
      | error e =>
        obtain ⟨hasked, hanswered⟩ := askTerminal_iff.mp (by simpa [hcheck] using h)
        refine .inr ⟨fun pid' uid' _ hpid' huid' ↦ ?_, hasked, hanswered⟩
        cases hpid.symm.trans hpid'
        cases huid.symm.trans huid'
        exact hcheck
    · rintro (⟨-, _, _, _, hpid', huid', hstarted, hauthorized⟩ | ⟨hnone, hasked, hanswered⟩)
      · cases hpid.symm.trans hpid'
        cases huid.symm.trans huid'
        rw [checkSession_eq_ok_true_iff.mpr ⟨_, hstarted, hauthorized⟩]
      · rw [hnone pid uid hsession hpid huid, askTerminal_iff.mpr ⟨hasked, hanswered⟩]
  · have hask : approve o prompt ctx = .ok (askTerminal o ctx prompt) := by
      rw [approve]
      split
      · next sessionId pid uid hid hpid huid =>
        exact absurd ⟨pid, uid, by simp [hid], hpid, huid⟩ hnamed
      · rfl
    rw [hask]
    constructor
    · intro h
      obtain ⟨hasked, hanswered⟩ := askTerminal_iff.mp (by simpa using h)
      exact .inr ⟨fun pid uid hid hpid huid ↦ absurd ⟨pid, uid, hid, hpid, huid⟩ hnamed,
        hasked, hanswered⟩
    · rintro (⟨hid, _, _, _, hpid, huid, -, -⟩ | ⟨-, hasked, hanswered⟩)
      · exact absurd ⟨_, _, hid, hpid, huid⟩ hnamed
      · rw [askTerminal_iff.mpr ⟨hasked, hanswered⟩]

/-- **Polkit's yes fits any prompt.** -/
theorem Authorised.approve {ctx : SessionContext} (h : Authorised o ctx) (prompt : String) :
    approve o prompt ctx = .ok true := approve_eq_true_iff.mpr (.inl h)

end

end Session
end TpmFido2
