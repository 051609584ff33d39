import TpmFido2.Panics

/-!
# What is pending

The `pending` map of the packet handler, in every state that reports can lead to.  `Valid` is its
representation invariant: an entry is filed under its own channel, it has the bytes of a first
packet and of as many full continuations as its sequence number says, and it waits for more, up to
the 7609 bytes that a first packet and 128 continuations can carry.  Everything else follows from
that by arithmetic: the difference of the two lengths is there, the sequence number has room to grow
and is no initialisation packet's, and a request that has got 127 continuations cannot wait for two
more.

* `receive_valid` — one report keeps the invariant.
* `continuations_le` — while nothing ends a request, no more continuations arrive than it has left.
* **`pendingMap_invariant`** — the invariant and its consequences, in every reachable state.
-/

set_option autoImplicit false

namespace TpmFido2
namespace CtapHid

variable {A E : Type}

/-! ## The invariant -/

/-- An entry of the map is what it should be. -/
structure PendingRequest.Valid (cid : UInt32) (p : PendingRequest) : Prop where
  cid_eq : p.cid = cid
  received : p.payload.length = 57 + 59 * p.nextSequence.toNat
  waits : p.payload.length < p.expectedLen
  expected_le : p.expectedLen ≤ 7609
  sequence_le : p.nextSequence ≤ 127

/-- All entries are. -/
def PendingValid (pending : PendingMap) : Prop :=
  ∀ cid p, pending cid = some p → p.Valid cid

/-- The bound on the sequence number follows from the lengths. -/
theorem PendingRequest.Valid.of_lengths {cid : UInt32} {p : PendingRequest} (hcid : p.cid = cid)
    (hreceived : p.payload.length = 57 + 59 * p.nextSequence.toNat)
    (hwaits : p.payload.length < p.expectedLen) (hexpected : p.expectedLen ≤ 7609) :
    p.Valid cid := by
  refine ⟨hcid, hreceived, hwaits, hexpected, ?_⟩
  rw [UInt8.le_iff_toNat_le]
  change p.nextSequence.toNat ≤ 127
  omega

theorem PendingRequest.Valid.toNat_succ {cid : UInt32} {p : PendingRequest} (h : p.Valid cid) :
    (p.nextSequence + 1).toNat = p.nextSequence.toNat + 1 := by
  have hle : p.nextSequence.toNat ≤ 127 := UInt8.le_iff_toNat_le.mp h.sequence_le
  rw [UInt8.toNat_add]
  exact Nat.mod_eq_of_lt (by simp; omega)

/-- A sequence number that is waited for is no type byte of an initialisation packet. -/
theorem and_typeInit_of_le {n : UInt8} (h : n ≤ 127) : n &&& typeInit = 0 := by
  have hall : ∀ k : Fin 128, UInt8.ofNat k &&& typeInit = 0 := by decide
  have hlt : n.toNat < 128 := Nat.lt_succ_of_le (UInt8.le_iff_toNat_le.mp h)
  simpa using hall ⟨n.toNat, hlt⟩

theorem pendingOpen_of_valid {pending : PendingMap} (h : PendingValid pending) :
    PendingOpen pending :=
  fun cid p hp ↦ (h cid p hp).waits.le

/-- **One report keeps the invariant.** -/
theorem receive_valid {report : List UInt8} {pending : PendingMap} (h : PendingValid pending) :
    PendingValid (receive report pending).2 := by
  have h64 : reportSize = 64 := rfl
  have hmax : maxPayloadSize = 7609 := rfl
  by_cases hsize : report.length = reportSize
  · have hr := receive_received hsize pending
    generalize receive report pending = r at hr ⊢
    cases hr with
    | oversized => exact PendingMap.forall_remove h _
    | unknown => exact h
    | short => exact PendingMap.forall_remove h _
    | begun hinit command hcommand hlong hlen =>
      have hdata : (initData report).length = 57 := by
        rw [initData, List.length_drop, hsize, h64]
      have hwaits : (initData report).length < declaredLen report := by
        rw [hdata]
        omega
      exact PendingMap.forall_insert h _ (.of_lengths rfl hdata hwaits hlen)
    | stray => exact h
    | disordered => exact PendingMap.forall_remove h _
    | underflow => exact h
    | completed => exact PendingMap.forall_remove h _
    | extended hinit request hbusy hcid hseq hmore =>
      have hvalid := h _ _ hbusy
      have hdata : (continuationData report).length = 59 := by
        rw [continuationData, List.length_drop, hsize, h64]
      have hreceived := hvalid.received
      have hsucc := hvalid.toNat_succ
      refine PendingMap.forall_insert h _ (.of_lengths hcid ?_ ?_ hvalid.expected_le)
      · rw [List.length_append, hdata, hsucc]
        omega
      · rw [List.length_append, hdata]
        exact hmore
  · rw [receive_of_length_ne hsize]
    exact h

/-! ## How long a request can be pending -/

/-- A continuation packet on a channel. -/
def IsContinuation (cid : UInt32) (report : List UInt8) : Prop :=
  OnChannel cid report ∧ ¬ IsInit report

instance (cid : UInt32) (report : List UInt8) : Decidable (IsContinuation cid report) :=
  inferInstanceAs (Decidable (_ ∧ _))

/-- A report ends what is pending on a channel: it completes it or drops it, or it begins another
request in its place. -/
def EndsRequest (cid : UInt32) (pending : PendingMap) (report : List UInt8) : Prop :=
  (receive report pending).2 cid = none ∨
    OnChannel cid report ∧ IsInit report ∧ (receive report pending).1 = .needMore

/-- **A report that does not end a request** is the continuation it waits for, or nothing to it. -/
theorem receive_of_not_ends {cid : UInt32} {report : List UInt8} {pending : PendingMap}
    {p : PendingRequest} (hvalid : p.Valid cid) (hp : pending cid = some p)
    (h : ¬ EndsRequest cid pending report) :
    if IsContinuation cid report then
      ∃ q, (receive report pending).2 cid = some q ∧ q.nextSequence = p.nextSequence + 1
    else (receive report pending).2 cid = some p := by
  rw [EndsRequest, not_or] at h
  by_cases hon : OnChannel cid report
  · obtain ⟨hsize, rfl⟩ := hon
    have hr := receive_received hsize pending
    generalize receive report pending = r at hr h ⊢
    cases hr with
    | oversized => exact absurd (PendingMap.remove_self _ _) h.1
    | unknown hinit =>
      rw [if_neg fun hc ↦ hc.2 hinit]
      exact hp
    | short => exact absurd (PendingMap.remove_self _ _) h.1
    | begun hinit => exact absurd ⟨⟨hsize, rfl⟩, hinit, rfl⟩ h.2
    | stray _ hidle => exact absurd hidle h.1
    | disordered => exact absurd (PendingMap.remove_self _ _) h.1
    | underflow _ request hbusy _ _ hlen =>
      obtain rfl : request = p := Option.some.inj (hbusy.symm.trans hp)
      exact absurd hvalid.waits (Nat.lt_asymm hlen)
    | completed => exact absurd (PendingMap.remove_self _ _) h.1
    | extended hinit request hbusy =>
      obtain rfl : request = p := Option.some.inj (hbusy.symm.trans hp)
      rw [if_pos ⟨⟨hsize, rfl⟩, hinit⟩]
      exact ⟨_, PendingMap.insert_self _ _ _, rfl⟩
  · rw [if_neg fun hc ↦ hon hc.1, receive_not_onChannel hon]
    exact hp

/-- The continuations that the request on a channel can still get. -/
def continuationsLeft (cid : UInt32) (pending : PendingMap) : Nat :=
  match pending cid with
  | some p => 127 - p.nextSequence.toNat
  | none => 0

theorem continuationsLeft_of_some {cid : UInt32} {pending : PendingMap} {p : PendingRequest}
    (h : pending cid = some p) : continuationsLeft cid pending = 127 - p.nextSequence.toNat := by
  rw [continuationsLeft, h]

/-- **While nothing ends a request**, no more continuations arrive than it has left. -/
theorem continuations_le (authn : Authn A E) {cid : UInt32} {h : PacketHandler A}
    (hvalid : PendingValid h.pending) (hbusy : h.pending cid ≠ none) (later : List (E × List UInt8))
    (hends : ∀ t ∈ Run.transitions (PacketHandler.step authn) h later,
      ¬ EndsRequest cid t.before.pending t.input.2) :
    (Run.transitions (PacketHandler.step authn) h later).countP
      (fun t ↦ decide (IsContinuation cid t.input.2)) ≤ continuationsLeft cid h.pending := by
  refine Nat.le_of_add_right_le (Run.countP_add_le (I := fun h : PacketHandler A ↦
    PendingValid h.pending ∧ h.pending cid ≠ none)
    (C := fun h input ↦ ¬ EndsRequest cid h.pending input.2)
    (μ := fun h ↦ continuationsLeft cid h.pending) ?_ ⟨hvalid, hbusy⟩ later hends)
  rintro cur input ⟨hvalid, hbusy⟩ hnot
  obtain ⟨p, hp⟩ := Option.ne_none_iff_exists'.mp hbusy
  have hafter := receive_of_not_ends (hvalid cid p hp) hp hnot
  have hvalid' : PendingValid (receive input.2 cur.pending).2 := receive_valid hvalid
  rw [PacketHandler.step, PacketHandler.handlePacket_pending, continuationsLeft_of_some hp]
  change _ ∧ (if decide (IsContinuation cid input.2) = true then 1 else 0) + _ ≤ _
  by_cases hcont : IsContinuation cid input.2
  · rw [if_pos hcont] at hafter
    obtain ⟨q, hq, hnext⟩ := hafter
    have hle : q.nextSequence.toNat ≤ 127 := UInt8.le_iff_toNat_le.mp (hvalid' cid q hq).sequence_le
    rw [hnext, (hvalid cid p hp).toNat_succ] at hle
    refine ⟨⟨hvalid', by rw [hq]; exact Option.some_ne_none q⟩, ?_⟩
    rw [if_pos (decide_eq_true hcont), continuationsLeft_of_some hq, hnext,
      (hvalid cid p hp).toNat_succ]
    omega
  · rw [if_neg hcont] at hafter
    refine ⟨⟨hvalid', by rw [hafter]; exact Option.some_ne_none p⟩, ?_⟩
    rw [if_neg (ne_true_of_eq_false (decide_eq_false hcont)), continuationsLeft_of_some hafter,
      Nat.zero_add]

/-! ## Every reachable state -/

/-- What the invariant is good for. -/
structure Consequences (authn : Authn A E) (h : PacketHandler A) : Prop where
  /-- No difference underflows. -/
  difference : ∀ report, (receive report h.pending).1 ≠ .panicked
  /-- No access to a report is out of range. -/
  inRange : ∀ report, Checked.receive report h.pending = some (receive report h.pending)
  /-- The sequence number does not wrap. -/
  noWrap : ∀ cid p, h.pending cid = some p →
    (p.nextSequence + 1).toNat = p.nextSequence.toNat + 1
  /-- The packet that is waited for is not taken for an initialisation packet. -/
  distinguishable : ∀ cid p, h.pending cid = some p → p.nextSequence &&& typeInit = 0
  /-- A request is over after at most 128 continuations. -/
  ends : ∀ cid, h.pending cid ≠ none → ∀ later : List (E × List UInt8),
    128 ≤ later.countP (fun input ↦ decide (IsContinuation cid input.2)) →
      ∃ t ∈ Run.transitions (PacketHandler.step authn) h later,
        EndsRequest cid t.before.pending t.input.2

theorem consequences_of_valid (authn : Authn A E) {h : PacketHandler A}
    (hvalid : PendingValid h.pending) : Consequences authn h where
  difference report := (receive_open (pendingOpen_of_valid hvalid)).1
  inRange report := checked_receive (pendingOpen_of_valid hvalid) report
  noWrap cid p hp := (hvalid cid p hp).toNat_succ
  distinguishable cid p hp := and_typeInit_of_le (hvalid cid p hp).sequence_le
  ends cid hbusy later hcount := by
    by_contra hnone
    have hle := continuations_le authn hvalid hbusy later
      fun t ht hends ↦ hnone ⟨t, ht, hends⟩
    obtain ⟨p, hp⟩ := Option.ne_none_iff_exists'.mp hbusy
    rw [continuationsLeft_of_some hp] at hle
    have hinputs : (Run.transitions (PacketHandler.step authn) h later).countP
        (fun t ↦ decide (IsContinuation cid t.input.2)) =
          later.countP fun input ↦ decide (IsContinuation cid input.2) := by
      have hmap : (Run.transitions (PacketHandler.step authn) h later).map Run.Transition.input =
          later := Run.map_input_transitions h later
      conv_rhs => rw [← hmap]
      rw [List.countP_map]
      rfl
    omega

/-- **The pending map** in every state that reports can lead to. -/
theorem pendingMap_invariant (authn : Authn A E) (a : A) (inputs : List (E × List UInt8)) :
    let h := Run.final (PacketHandler.step authn) (PacketHandler.new a) inputs
    PendingValid h.pending ∧ Consequences authn h := by
  have hvalid : PendingValid
      (Run.final (PacketHandler.step authn) (PacketHandler.new a) inputs).pending := by
    refine Run.state_invariant (I := fun h : PacketHandler A ↦ PendingValid h.pending)
      (C := fun _ _ ↦ True) ?_ ?_ inputs fun _ _ ↦ trivial
    · intro cid p hp
      cases hp
    · intro h input hvalid _
      rw [PacketHandler.step, PacketHandler.handlePacket_pending]
      exact receive_valid hvalid
  exact ⟨hvalid, consequences_of_valid authn hvalid⟩

end CtapHid
end TpmFido2
