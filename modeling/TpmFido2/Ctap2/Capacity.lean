import TpmFido2.Ctap2.Sample
import TpmFido2.Ctap2.StepEffects
import TpmFido2.Lib.Lists

/-!
# The capacity for discoverable credentials

getCredsMetadata tells how many discoverable credentials there are, and how many more there is room
for: `maxResidentCredentials` minus that number, and never less than nothing.  No other place of the
program has this constant.  A registration adds its credential to the list whatever the length of
the list is, so the capacity is kept only as long as nobody asks for more.

That much is true, and it needs an argument: besides registrations, a save copies the list over the
table and a load copies the rows of a user over the list, so it is not enough to count the one or
the other.  `Bounded` has both counts.  Every effect a step can have keeps it (`step_bounded`),
with one exception: a registration that asks for a discoverable credential needs room in the list
(`HasRoom`).  `capacityKept_of_steps` is the result for whole runs.

`capacity_is_exceeded` has the 129 registrations that go beyond it.
-/

set_option autoImplicit false

namespace TpmFido2
namespace Ctap2

open Handler CommandM

/-! ## The property -/

/-- The number of discoverable credentials in a list. -/
def residents (cs : List Credential) : Nat := (cs.filter Credential.discoverable).length

/-- The number of discoverable credentials in the store. -/
def storedResidents (s : Store) : Nat :=
  (s.credentials.rows.filter CredentialRow.discoverable).length

/-- What getCredsMetadata has for the room that is left. -/
def remainingRoom (cs : List Credential) : Nat := maxResidentCredentials - residents cs

/-- The event is a registration that asks for a discoverable credential. -/
def asksResident (crates : Crates) (event : Event) : Bool :=
  match event with
  | .cbor _ payload =>
    match parsePayload payload with
    | some (.makeCredential, body) =>
      match decodeMap crates body with
      | .ok request => wantsDiscoverable (mapMap request (.int 7))
      | .error _ => false
    | _ => false
  | _ => false

/-- **The advertised capacity is kept** by a run. -/
structure CapacityKept (crates : Crates) (w : World) (events : List Event) : Prop where
  cached : residents (after crates w events).auth.credentials ≤ maxResidentCredentials
  stored : storedResidents (after crates w events).store ≤ maxResidentCredentials
  /-- What getCredsMetadata answers adds up. -/
  metadata : ∃ existing remaining : Nat,
    getCredsMetadata crates (after crates w events) = (.ok (encodeResponse crates (.map
      [(.integer 1, .integer existing), (.integer 2, .integer remaining)])),
      after crates w events) ∧
    existing = residents (after crates w events).auth.credentials ∧
    remaining = remainingRoom (after crates w events).auth.credentials ∧
    existing + remaining = maxResidentCredentials
  /-- Where nothing remains, a registration that asks for more is refused. -/
  refused : ∀ t ∈ run crates w events, remainingRoom t.before.auth.credentials = 0 →
    asksResident crates t.input → ¬ t.output.succeeded

/-- A registration that asks for a discoverable credential comes while there is room for it. -/
def HasRoom (crates : Crates) (w : World) (event : Event) : Prop :=
  asksResident crates event → residents w.auth.credentials < maxResidentCredentials

instance (crates : Crates) (w : World) (event : Event) : Decidable (HasRoom crates w event) :=
  inferInstanceAs (Decidable (_ → _))

variable {crates : Crates}

/-! ## Counting -/

/-- The count depends on the flags of the credentials alone. -/
theorem residents_eq_count (cs : List Credential) :
    residents cs = (cs.map Credential.discoverable).count true :=
  List.length_filter_eq_count _ cs

theorem storedResidents_eq_count (s : Store) :
    storedResidents s = (s.credentials.rows.map CredentialRow.discoverable).count true :=
  List.length_filter_eq_count _ _

theorem residents_concat (cs : List Credential) (c : Credential) :
    residents (cs ++ [c]) = residents cs + if c.discoverable then 1 else 0 := by
  rw [residents, List.filter_append, List.length_append, residents]
  cases h : c.discoverable <;> simp [h]

/-- A change of one credential that keeps its flag. -/
theorem residents_modify {cs cs' : List Credential} {index : Nat} {f : Credential → Credential}
    (h : cs' = cs.modify index f) (hflag : ∀ c, (f c).discoverable = c.discoverable) :
    residents cs' = residents cs := by
  rw [residents_eq_count, residents_eq_count, h, List.map_modify_of_comp cs index hflag]

theorem residents_le_of_sublist {cs cs' : List Credential} (h : cs.Sublist cs') :
    residents cs ≤ residents cs' :=
  (h.filter _).length_le

theorem storedResidents_update {s s' : Store} {id : List UInt8}
    {f : CredentialRow → CredentialRow} {hf : ∀ row, (f row).credentialId = row.credentialId}
    (h : s'.credentials = s.credentials.update id f hf)
    (hflag : ∀ row, (f row).discoverable = row.discoverable) :
    storedResidents s' = storedResidents s := by
  rw [storedResidents_eq_count, storedResidents_eq_count, h, Table.update, List.map_map]
  congr 2
  funext row
  dsimp only [Function.comp]
  split
  · exact hflag row
  · rfl

/-- The rows that are left are fewer. -/
theorem storedResidents_le_of_subset {s s' : Store}
    (h : ∀ row ∈ s'.credentials.rows, row ∈ s.credentials.rows) :
    storedResidents s' ≤ storedResidents s := by
  have hnodup : s'.credentials.rows.Nodup := s'.credentials.nodup.of_map
  refine (List.subperm_of_subset (hnodup.filter _) fun row hrow ↦ ?_).length_le
  obtain ⟨hmem, hflag⟩ := List.mem_filter.mp hrow
  exact List.mem_filter.mpr ⟨h row hmem, hflag⟩

/-- Loading brings no more discoverable credentials than the table has. -/
theorem FromDisk.residents_le {uid : Option UInt32} {s : Store} {cs : List Credential}
    (h : FromDisk crates uid s cs) : residents cs ≤ storedResidents s := by
  rcases h with rfl | ⟨stored, rfl, hrows⟩
  · exact Nat.zero_le _
  · have hflags : (Store.selectCredentials uid s).map CredentialRow.discoverable =
        stored.map fun c ↦ c.toCredential.discoverable :=
      hrows.map_eq_map fun row c hc ↦ (Store.describes_of_credentialOfRow hc).discoverable.symm
    have hcount : residents (stored.map StoredCtap2Credential.toCredential) =
        (Store.selectCredentials uid s).countP CredentialRow.discoverable := by
      rw [residents_eq_count, List.map_map, List.countP_eq_length_filter,
        List.length_filter_eq_count, hflags]
      rfl
    rw [hcount, Store.selectCredentials, (List.perm_insertionSort _ _).countP_eq, storedResidents,
      ← List.countP_eq_length_filter]
    exact List.filter_sublist.countP_le

/-- Saving makes the table count what the list counts. -/
theorem storedResidents_of_rows {s : Store} {cs : List Credential}
    (h : List.Forall₂ (Store.RowOf crates) cs s.credentials.rows) :
    storedResidents s = residents cs := by
  have hflags : cs.map Credential.discoverable =
      s.credentials.rows.map CredentialRow.discoverable := by
    refine h.map_eq_map fun c row hrow ↦ ?_
    obtain ⟨mac, hrow⟩ := hrow
    obtain ⟨primary, -, h₁⟩ := Option.bind_eq_some_iff.mp hrow
    obtain ⟨recovery, -, h₂⟩ := Option.bind_eq_some_iff.mp h₁
    cases h₂
    rfl
  rw [storedResidents_eq_count, residents_eq_count, hflags]

/-! ## Registrations -/

/-- A registration makes the credential discoverable that was asked to be. -/
theorem discoverable_of_prepareCredential {env : Env} {body : List UInt8} {w w' : World}
    {c : Credential} {response : List UInt8}
    (h : prepareCredential crates env body w = (.ok (c, response), w')) :
    ∃ request, decodeMap crates body = .ok request ∧
      c.discoverable = wantsDiscoverable (mapMap request (.int 7)) := by
  obtain ⟨request, w₁, e₁, h₁⟩ := bind_ok h
  obtain ⟨hrequest, rfl⟩ := ofExcept_ok e₁
  refine ⟨request, hrequest, ?_⟩
  obtain ⟨r, w₂, -, h₂⟩ := bind_ok h₁
  obtain ⟨verified, w₃, -, h₃⟩ := bind_ok h₂
  obtain ⟨_, w₄, -, h₄⟩ := bind_ok h₃
  obtain ⟨_, w₅, -, h₅⟩ := bind_ok h₄
  obtain ⟨a, w₆, -, h₆⟩ := bind_ok h₅
  obtain ⟨_, w₇, -, h₇⟩ := bind_ok h₆
  obtain ⟨_, w₈, -, h₈⟩ := bind_ok h₇
  obtain ⟨passphrase, w₉, -, h₉⟩ := bind_ok h₈
  obtain ⟨_, w₁₀, -, h₁₀⟩ := bind_ok h₉
  obtain ⟨tpm, w₁₁, -, h₁₁⟩ := bind_ok h₁₀
  obtain ⟨⟨key, policy, material⟩, w₁₂, -, h₁₂⟩ := bind_ok h₁₁
  cases h₁₂
  rfl

/-- The list after a step that added a credential to it. -/
theorem asksResident_of_created {w : World} {env : Env} {payload body : List UInt8} {c : Credential}
    (hp : parsePayload payload = some (.makeCredential, body))
    (hcached : (step crates w (.cbor env payload)).2.auth.credentials = w.auth.credentials ++ [c])
    (hc : c.discoverable) : asksResident crates (.cbor env payload) := by
  have hbefore : (registration crates env body (w.enter .makeCredential)).2.auth.credentials =
      w.auth.credentials := (registration_moves body _).credentials
  have hne : w.auth.credentials ≠ w.auth.credentials ++ [c] := by simp
  rw [step_cbor hp] at hcached
  cases e : registration crates env body (w.enter .makeCredential) with
  | mk o w₁ =>
    rw [e] at hbefore
    cases o with
    | error _ =>
      rw [gatedCommand_makeCredential, bind_def, e] at hcached
      exact absurd (hbefore.symm.trans hcached) hne
    | panicked =>
      rw [gatedCommand_makeCredential, bind_def, e] at hcached
      exact absurd (hbefore.symm.trans hcached) hne
    | ok x =>
      obtain ⟨c', response⟩ := x
      obtain ⟨_, w₂, -, hprepared⟩ := bind_ok e
      obtain ⟨request, hrequest, hflag⟩ := discoverable_of_prepareCredential hprepared
      rw [gatedCommand_makeCredential_snd e, (saveCredentials_saved crates env _).auth] at hcached
      replace hcached : w.auth.credentials ++ [c'] = w.auth.credentials ++ [c] :=
        (congrArg (· ++ [c']) hbefore).symm.trans hcached
      cases List.append_cancel_left hcached
      simp only [asksResident, hp, hrequest]
      exact hflag.symm.trans hc

/-! ## The invariant -/

/-- Neither the list nor the table has more discoverable credentials than there is room for. -/
structure Bounded (w : World) : Prop where
  cached : residents w.auth.credentials ≤ maxResidentCredentials
  stored : storedResidents w.store ≤ maxResidentCredentials

theorem storedResidents_congr {s s' : Store} (h : s'.credentials = s.credentials) :
    storedResidents s' = storedResidents s := by
  rw [storedResidents, h, storedResidents]

theorem SameCredentials.bounded {w w' : World} (h : SameCredentials w w') (hw : Bounded w) :
    Bounded w' := by
  refine ⟨?_, ?_⟩
  · rw [h.cached]
    exact hw.cached
  · rw [storedResidents_congr h.stored]
    exact hw.stored

/-- A save that is about to be made, whichever way it goes. -/
theorem Saved.bounded {fault : StoreFault} {w w' : World} {written : Option (List Credential)}
    (h : Saved crates fault w'.auth.credentials w.store.credentials w'.store.credentials written)
    (hw : Bounded w) (hcached : residents w'.auth.credentials ≤ maxResidentCredentials) :
    Bounded w' := by
  refine ⟨hcached, ?_⟩
  generalize ht : w'.store.credentials = t at h
  cases h with
  | kept _ =>
    rw [storedResidents_congr ht]
    exact hw.stored
  | committed hrows =>
    subst ht
    rw [storedResidents_of_rows hrows]
    exact hcached

theorem Release.bounded {w w' : World} {index : Nat} {x : Option Assertion}
    (h : Release w index x w') (hw : Bounded w) : Bounded w' := by
  cases h with
  | failed h _ => exact h.bounded hw
  | done _ _ _ _ hstored hcached _ =>
    refine ⟨?_, ?_⟩
    · rw [residents_modify hcached fun _ ↦ rfl]
      exact hw.cached
    · rw [storedResidents_update hstored fun _ ↦ rfl]
      exact hw.stored

/-- **A step keeps both counts**, if a registration finds room. -/
theorem step_bounded {w : World} {event : Event} (hw : Bounded w)
    (hroom : HasRoom crates w event) : Bounded (step crates w event).2 := by
  have heffect := step_effect crates w event
  have hcreated : ∀ env payload body c, event = .cbor env payload →
      parsePayload payload = some (.makeCredential, body) →
      (step crates w event).2.auth.credentials = w.auth.credentials ++ [c] → c.discoverable →
      asksResident crates event := by
    rintro env payload body c rfl hp hcached hc
    exact asksResident_of_created hp hcached hc
  generalize (step crates w event).2 = w' at heffect hcreated
  cases heffect with
  | kept h _ _ _ => exact h.bounded hw
  | reloaded _ hstored hcached _ _ _ =>
    have h := storedResidents_congr hstored
    exact ⟨hcached.residents_le.trans hw.stored, h ▸ hw.stored⟩
  | asserted _ _ _ _ _ hstored hcached _ _ hrel _ =>
    refine hrel.bounded ⟨?_, storedResidents_congr hstored ▸ hw.stored⟩
    rcases hcached with hcached | hcached
    · rw [hcached]
      exact hw.cached
    · exact hcached.residents_le.trans hw.stored
  | continued _ _ _ _ _ hstored hcached _ hrel _ =>
    exact hrel.bounded ⟨hcached ▸ hw.cached, storedResidents_congr hstored ▸ hw.stored⟩
  | created he hp _ _ hcached _ hsaved _ =>
    refine hsaved.bounded hw ?_
    rw [hcached, residents_concat]
    split
    · next hc => exact hroom (hcreated _ _ _ _ he hp hcached hc)
    · exact hw.cached
  | renamed _ _ _ hcached _ _ hsaved _ =>
    refine hsaved.bounded hw ?_
    rw [residents_modify hcached fun _ ↦ rfl]
    exact hw.cached
  | deleted _ _ _ hstored hcached _ _ _ _ =>
    refine ⟨?_, ?_⟩
    · rw [hcached]
      exact (residents_le_of_sublist (List.eraseIdx_sublist _ _)).trans hw.cached
    · refine (storedResidents_le_of_subset fun row hrow ↦ ?_).trans hw.stored
      rw [hstored] at hrow
      exact (Table.mem_delete.mp hrow).1
  | wiped _ _ hstored _ hcached _ _ _ =>
    refine ⟨?_, (storedResidents_le_of_subset hstored).trans hw.stored⟩
    rw [hcached]
    exact Nat.zero_le _
  | updated _ _ hf _ hstored hcached _ _ _ =>
    refine ⟨hcached ▸ hw.cached, ?_⟩
    rw [storedResidents_update hstored fun row ↦ (hf row).discoverable]
    exact hw.stored
  | started _ _ hstored hcached _ _ _ =>
    exact ⟨hcached.residents_le.trans hw.stored, storedResidents_congr hstored ▸ hw.stored⟩

theorem newAuthenticator_bounded (env : Env) (tpmPath : Option String) :
    Bounded (newAuthenticator crates env tpmPath Store.fresh) := by
  have h := newAuthenticator_started crates env tpmPath Store.fresh
  have hempty : storedResidents Store.fresh = 0 := rfl
  refine ⟨?_, ?_⟩
  · exact h.cached.residents_le.trans (hempty ▸ Nat.zero_le _)
  · rw [storedResidents_congr h.stored, hempty]
    exact Nat.zero_le _

/-! ## Runs -/

/-- **The capacity is kept** in every run from an empty store in which discoverable credentials are
only asked for while there is room for them. -/
theorem capacityKept_of_steps (crates : Crates) (env : Env) (tpmPath : Option String)
    (events : List Event)
    (h : ∀ t ∈ run crates (newAuthenticator crates env tpmPath Store.fresh) events,
      HasRoom crates t.before t.input) :
    CapacityKept crates (newAuthenticator crates env tpmPath Store.fresh) events := by
  have hbounded : Bounded (after crates (newAuthenticator crates env tpmPath Store.fresh) events) :=
    Run.state_invariant (I := Bounded) (C := HasRoom crates) (newAuthenticator_bounded env tpmPath)
      (fun _ _ ↦ step_bounded) events h
  refine ⟨hbounded.cached, hbounded.stored, ⟨_, _, rfl, rfl, rfl, ?_⟩, ?_⟩
  · exact Nat.add_sub_cancel' hbounded.cached
  · intro t ht hfull hasks
    have hroom := h t ht hasks
    rw [remainingRoom] at hfull
    omega

/-! ## More than there is room for -/

namespace Sample

/-- Packages that can read the registration of a discoverable credential. -/
def residentPackages : Crates := packages [makeCredential "a"]

/-- The n-th registration of a user. -/
def registerResident (n : Nat) : Event :=
  request (session 1000 (UInt8.ofNat n)) 0x01 (makeCredential "a")

/-- A daemon with a passphrase. -/
def seated (tpm : Option Tpm) (cs : List Credential) (t : Table CredentialRow.credentialId)
    (hmacKey : Option (List UInt8)) : World :=
  ⟨⟨t, none, some [], none, hmacKey⟩,
    { Authenticator.initial (some "") ⟨some 1000, none⟩ with tpm := tpm, credentials := cs }⟩

/-- Every registration succeeds up to the point where the list is saved. -/
theorem registration_seated (n : Nat) (tpm : Option Tpm) (cs : List Credential)
    (t : Table CredentialRow.credentialId) (hmacKey : Option (List UInt8)) :
    ∃ c response tpm', c.discoverable = true ∧
      registration residentPackages (session 1000 (UInt8.ofNat n))
        (Cbor.encode (makeCredential "a"))
        (seated tpm cs t hmacKey) = (.ok (c, response), seated tpm' cs t hmacKey) := by
  cases tpm with
  | none => exact ⟨_, _, _, rfl, rfl⟩
  | some tpm => exact ⟨_, _, _, rfl, rfl⟩

/-- And adds a discoverable credential, however many there are. -/
theorem step_registerResident (n : Nat) (tpm : Option Tpm) (cs : List Credential)
    (t : Table CredentialRow.credentialId) (hmacKey : Option (List UInt8)) :
    ∃ c tpm' t' hmacKey', c.discoverable = true ∧
      (step residentPackages (seated tpm cs t hmacKey) (registerResident n)).2 =
        seated tpm' (cs ++ [c]) t' hmacKey' := by
  obtain ⟨c, response, tpm', hc, hregistered⟩ := registration_seated n tpm cs t hmacKey
  have hparsed : parsePayload (0x01 :: Cbor.encode (makeCredential "a")) =
      some (.makeCredential, Cbor.encode (makeCredential "a")) := rfl
  have hfinal : (step residentPackages (seated tpm cs t hmacKey) (registerResident n)).2 =
      (saveCredentials residentPackages (session 1000 (UInt8.ofNat n))
        (seated tpm' (cs ++ [c]) t hmacKey)).2 := by
    rw [registerResident, request, step_cbor hparsed]
    exact gatedCommand_makeCredential_snd hregistered
  obtain ⟨hauth, hsettings, -⟩ := saveCredentials_saved residentPackages
    (session 1000 (UInt8.ofNat n)) (seated tpm' (cs ++ [c]) t hmacKey)
  rw [← hfinal] at hauth hsettings
  generalize (step residentPackages (seated tpm cs t hmacKey) (registerResident n)).2 = w
    at hauth hsettings
  obtain ⟨⟨t', pin, passphrase, default, hmacKey'⟩, a⟩ := w
  obtain ⟨rfl, rfl, rfl, -⟩ := hsettings
  cases hauth
  exact ⟨c, tpm', t', hmacKey', hc, rfl⟩

/-- The world after n registrations. -/
theorem after_registerResident (n : Nat) :
    ∃ tpm cs t hmacKey, residents cs = n ∧
      after residentPackages
          (newAuthenticator residentPackages (session 1000 0) (some "") Store.fresh)
          (setPassphrase :: (List.range n).map registerResident) = seated tpm cs t hmacKey := by
  induction n with
  | zero => exact ⟨_, _, _, _, rfl, rfl⟩
  | succ n ih =>
    obtain ⟨tpm, cs, t, hmacKey, hcount, hbefore⟩ := ih
    obtain ⟨c, tpm', t', hmacKey', hc, hstep⟩ := step_registerResident n tpm cs t hmacKey
    refine ⟨tpm', cs ++ [c], t', hmacKey', ?_, ?_⟩
    · rw [residents_concat, hcount, if_pos hc]
    · rw [List.range_succ, List.map_append, ← List.cons_append, after, Run.final_append]
      rw [after] at hbefore
      rw [hbefore]
      exact hstep

end Sample

open Sample in
/-- A first registration finds room. -/
theorem first_resident_fits :
    let w := newAuthenticator residentPackages (session 1000 0) (some "") Store.fresh
    let events := [setPassphrase, registerResident 0]
    (∀ t ∈ run residentPackages w events, HasRoom residentPackages t.before t.input) ∧
      residents (after residentPackages w events).auth.credentials = 1 ∧
      CapacityKept residentPackages w events := by
  have hroom : ∀ t ∈ run residentPackages
      (newAuthenticator residentPackages (session 1000 0) (some "") Store.fresh)
      [setPassphrase, registerResident 0], HasRoom residentPackages t.before t.input := by
    decide +kernel
  exact ⟨hroom, by decide +kernel, capacityKept_of_steps _ _ _ _ hroom⟩

open Sample in
/-- 129 registrations of discoverable credentials, each of which adds one. -/
theorem capacity_is_exceeded :
    residents (after residentPackages
        (newAuthenticator residentPackages (session 1000 0) (some "") Store.fresh)
        (setPassphrase :: (List.range 129).map registerResident)).auth.credentials = 129 ∧
      ¬ CapacityKept residentPackages
        (newAuthenticator residentPackages (session 1000 0) (some "") Store.fresh)
        (setPassphrase :: (List.range 129).map registerResident) := by
  obtain ⟨tpm, cs, t, hmacKey, hcount, hafter⟩ := after_registerResident 129
  refine ⟨?_, fun h ↦ ?_⟩
  · rw [hafter]
    exact hcount
  · have hbound := h.cached
    rw [hafter] at hbound
    exact absurd (hcount.symm.trans_le hbound) (by decide)

end Ctap2
end TpmFido2
