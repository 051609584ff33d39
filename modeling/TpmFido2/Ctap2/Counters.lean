import TpmFido2.Lib.Counter
import TpmFido2.Ctap2.Sample
import TpmFido2.Ctap2.StepEffects

/-!
# Signature counters

The counter of a credential is in two places: in its row, and in its copy in memory.  An assertion
is signed with the successor of the copy in memory, and let out once the row has that counter.
Everything else a step does to either place is to copy the one over the other — a start or a
getAssertion request reads the rows, a registration writes the whole list — or to forget it.

So the copies of a counter are those of `Counter`, with the ID of the credential as the key:
`Effect.advance` shows that every step of the daemon advances them.  The list in memory must not
have two copies of one counter for that, which is why `DistinctIds` is carried along.
`countersAdvance_of_drawsDistinct` is the result: counters never repeat or go back, in runs in which
the random source does not draw the same credential ID twice.
-/

set_option autoImplicit false

namespace TpmFido2
namespace Ctap2

open Bytes Counter

/-! ## The property -/

/-- The counter in some authenticator data: four bytes behind the hash of the RP ID and the
flags. -/
def signCountOf (authData : List UInt8) : Nat := ofBeBytes ((authData.drop 33).take 4)

/-- The credential and the counter of the assertion that a step lets out. -/
def letOut (crates : Crates) (w : World) (event : Event) : Option (List UInt8 × Nat) :=
  (released crates w event).map fun x ↦ (x.credential.id, signCountOf (x.authData crates))

/-- **Counters never repeat or go back**, and none is let out that is not in the store. -/
structure CountersAdvance (crates : Crates) (w : World) (events : List Event) : Prop where
  /-- What a successful request answers is the assertion that was let out. -/
  answered : ∀ t ∈ run crates w events,
    t.input.hasCommand .getAssertion ∨ t.input.hasCommand .getNextAssertion →
    t.output.succeeded → ∃ x total, released crates t.before t.input = some x ∧
      t.output = .cbor (x.response crates total)
  increasing : (run crates w events).Pairwise fun t u ↦ ∀ id n m,
    letOut crates t.before t.input = some (id, n) → letOut crates u.before u.input = some (id, m) →
      n < m ∨ n = 2 ^ 32 - 1 ∧ m = 2 ^ 32 - 1
  written : ∀ t ∈ run crates w events, ∀ id n, letOut crates t.before t.input = some (id, n) →
    ∃ row ∈ t.after.store.credentials.rows, row.credentialId = id ∧ row.signCount = n

/-- The IDs that the registrations of a run draw are different from each other and from those in
the store. -/
structure DrawsDistinct (s : Store) (events : List Event) : Prop where
  nodup : (events.filterMap drawnId).Nodup
  new : ∀ id ∈ events.filterMap drawnId, ∀ row ∈ s.credentials.rows, row.credentialId ≠ id

instance (s : Store) (events : List Event) : Decidable (DrawsDistinct s events) :=
  decidable_of_iff (_ ∧ _) ⟨fun h ↦ ⟨h.1, h.2⟩, fun h ↦ ⟨h.nodup, h.new⟩⟩

variable {crates : Crates}

/-- The counter in the authenticator data of an assertion is its counter. -/
theorem signCountOf_authData (x : Assertion) :
    signCountOf (x.authData crates) = x.signCount.toNat := by
  have hdrop : ((x.authData crates).drop 33).take 4 = beBytes 4 x.signCount.toNat := by
    have hlength : (crates.sha256 (utf8 x.credential.rpId)).length = 32 := crates.length_sha256 _
    have hhash : (crates.sha256 (utf8 x.credential.rpId)).drop 33 = [] :=
      List.drop_of_length_le (by omega)
    simp [Assertion.authData, makeAuthData, hlength, hhash, List.drop_append,
      List.take_of_length_le]
  rw [signCountOf, hdrop, ofBeBytes_beBytes_of_lt]
  exact x.signCount.toNat_lt

theorem toNat_saturatingSucc (n : UInt32) :
    (saturatingSucc n).toNat = min (n.toNat + 1) (2 ^ 32 - 1) := by
  have hn := n.toNat_lt
  rw [saturatingSucc]
  split
  · next h =>
    subst h
    rfl
  · next h =>
    have hne : n.toNat ≠ 2 ^ 32 - 1 := fun h' ↦ h (UInt32.toNat_inj.mp h')
    rw [UInt32.toNat_add]
    have hone : (1 : UInt32).toNat = 1 := rfl
    omega

/-! ## The copies of a counter -/

/-- The copies of all counters, in memory and in the store. -/
def copies (w : World) : Set (List UInt8 × Nat) :=
  {p | (∃ c ∈ w.auth.credentials, c.id = p.1 ∧ c.signCount.toNat = p.2) ∨
    ∃ row ∈ w.store.credentials.rows, row.credentialId = p.1 ∧ row.signCount = p.2}

/-- The credentials in memory have different IDs. -/
def DistinctIds (w : World) : Prop := (w.auth.credentials.map Credential.id).Nodup

variable {w w' : World} {event : Event}

theorem mem_copies_of_cached {c : Credential} (h : c ∈ w.auth.credentials) :
    (c.id, c.signCount.toNat) ∈ copies w :=
  .inl ⟨c, h, rfl, rfl⟩

theorem mem_copies_of_stored {row : CredentialRow} (h : row ∈ w.store.credentials.rows) :
    (row.credentialId, row.signCount) ∈ copies w :=
  .inr ⟨row, h, rfl, rfl⟩

/-- To bound the copies, one bounds those in memory and those in the store. -/
theorem forall_mem_copies {P : List UInt8 × Nat → Prop}
    (hcached : ∀ c ∈ w.auth.credentials, P (c.id, c.signCount.toNat))
    (hstored : ∀ row ∈ w.store.credentials.rows, P (row.credentialId, row.signCount)) :
    ∀ p ∈ copies w, P p := by
  rintro ⟨id, n⟩ (⟨c, hc, rfl, rfl⟩ | ⟨row, hrow, rfl, rfl⟩)
  · exact hcached c hc
  · exact hstored row hrow

/-- A list that was loaded has the counters of the store. -/
theorem FromDisk.exists_counter {uid : Option UInt32} {s : Store} {cs : List Credential}
    (h : FromDisk crates uid s cs) {c : Credential} (hc : c ∈ cs) :
    ∃ row ∈ s.credentials.rows, row.credentialId = c.id ∧ row.signCount = c.signCount.toNat := by
  obtain ⟨row, hrow, hdescribes⟩ := h.exists_row hc
  have hcount := hdescribes.signCount
  rw [Store.toU32] at hcount
  split at hcount
  · next hrange =>
    have hnat : c.signCount.toNat = row.signCount := by
      rw [← Option.some.inj hcount]
      simp
      omega
    exact ⟨row, (Store.mem_selectCredentials.mp hrow).1, hdescribes.id.symm, hnat.symm⟩
  · cases hcount

theorem FromDisk.mem_copies {uid : Option UInt32} {cs : List Credential}
    (h : FromDisk crates uid w.store cs) {c : Credential} (hc : c ∈ cs) :
    (c.id, c.signCount.toNat) ∈ copies w := by
  obtain ⟨row, hrow, hid, hcount⟩ := h.exists_counter hc
  exact .inr ⟨row, hrow, hid, hcount⟩

/-- A list that was loaded has no credential twice. -/
theorem FromDisk.nodup {uid : Option UInt32} {s : Store} {cs : List Credential}
    (h : FromDisk crates uid s cs) : (cs.map Credential.id).Nodup := by
  rcases h with rfl | ⟨stored, rfl, hrows⟩
  · exact List.nodup_nil
  · have hids : (stored.map StoredCtap2Credential.toCredential).map Credential.id =
        (Store.selectCredentials uid s).map CredentialRow.credentialId := by
      rw [List.map_map, eq_comm]
      exact hrows.map_eq_map fun row c hrow ↦ (Store.describes_of_credentialOfRow hrow).id.symm
    rw [hids]
    exact Store.nodup_selectCredentials uid s

/-! ## One step -/

/-- The counter an assertion was let out with, as a number. -/
def issuedBy (x : Assertion) : List UInt8 × Nat := (x.credential.id, x.signCount.toNat)

theorem letOut_eq (w : World) (event : Event) :
    letOut crates w event = (released crates w event).map issuedBy := by
  simp only [letOut, signCountOf_authData]
  rfl

/-- A credential of a list in which one was changed. -/
theorem mem_modify {cs : List Credential} {index : Nat} {f : Credential → Credential}
    {c : Credential} (h : c ∈ cs.modify index f) :
    (∃ c₀, cs[index]? = some c₀ ∧ c = f c₀) ∨ ∃ i ≠ index, cs[i]? = some c := by
  obtain ⟨i, hi⟩ := List.mem_iff_getElem?.mp h
  rw [List.getElem?_modify] at hi
  obtain ⟨c₀, hc₀, rfl⟩ := Option.map_eq_some_iff.mp hi
  by_cases hindex : index = i
  · exact .inl ⟨c₀, hindex ▸ hc₀, by simp [hindex]⟩
  · exact .inr ⟨i, fun h ↦ hindex h.symm, by simpa [hindex] using hc₀⟩

/-- An ID has one place in memory. -/
theorem DistinctIds.index_eq (h : DistinctIds w) {i j : Nat} {c d : Credential}
    (hi : w.auth.credentials[i]? = some c) (hj : w.auth.credentials[j]? = some d)
    (hid : c.id = d.id) : i = j := by
  have hlt : i < (w.auth.credentials.map Credential.id).length := by
    rw [List.length_map]
    exact (List.getElem?_eq_some_iff.mp hi).1
  refine (List.getElem?_inj hlt h).mp ?_
  rw [List.getElem?_map, List.getElem?_map, hi, hj, Option.map_some, Option.map_some, hid]

/-- Letting an assertion out moves its counter on. -/
theorem Release.move {index : Nat} {x : Option Assertion} (h : Release w index x w') :
    Move (2 ^ 32 - 1) (copies w) (copies w') none (x.map issuedBy) := by
  cases h with
  | failed hsame _ =>
    refine .of_subset fun p hp ↦ ?_
    rwa [copies, hsame.cached, hsame.stored] at hp
  | @done _ x _ credential signCount _ stored cached _ =>
    have hcached := mem_copies_of_cached (List.mem_of_getElem? credential)
    refine ⟨forall_mem_copies (fun c hc ↦ ?_) fun row hrow ↦ ?_, ?_⟩
    · rw [cached] at hc
      rcases mem_modify hc with ⟨c₀, hc₀, rfl⟩ | ⟨i, -, hi⟩
      · cases credential.symm.trans hc₀
        exact .inr (.inr rfl)
      · exact .inl (mem_copies_of_cached (List.mem_of_getElem? hi))
    · rw [stored] at hrow
      obtain ⟨row₀, hrow₀, rfl⟩ := Table.mem_update.mp hrow
      split
      · next hid =>
        refine .inr (.inr ?_)
        rw [Option.map_some, issuedBy, ← hid]
        rfl
      · exact .inl (mem_copies_of_stored hrow₀)
    · rintro p hp
      cases hp
      refine ⟨_, hcached, ?_⟩
      rw [issuedBy, signCount, toNat_saturatingSucc]

/-- **Letting an assertion out** moves all copies of its counter. -/
theorem Release.synced {index : Nat} {x : Assertion} (h : Release w index (some x) w')
    (hids : DistinctIds w) {n : Nat} (hn : (x.credential.id, n) ∈ copies w') :
    n = x.signCount.toNat := by
  cases h with
  | done _ credential _ _ stored cached _ =>
    rcases hn with ⟨c, hc, hid, rfl⟩ | ⟨row, hrow, hid, rfl⟩
    · rw [cached] at hc
      rcases mem_modify hc with ⟨c₀, -, rfl⟩ | ⟨i, hne, hi⟩
      · rfl
      · -- another copy in memory would be a second credential with the ID
        exact absurd (hids.index_eq hi credential hid) hne
    · rw [stored] at hrow
      obtain ⟨row₀, -, rfl⟩ := Table.mem_update.mp hrow
      split at hid
      · rw [if_pos (by assumption)]
        rfl
      · next hne => exact absurd hid hne

theorem Release.distinctIds {index : Nat} {x : Option Assertion} (h : Release w index x w')
    (hids : DistinctIds w) : DistinctIds w' := by
  rw [DistinctIds] at hids ⊢
  cases h with
  | failed hsame _ => rwa [hsame.cached]
  | done _ _ _ _ _ cached _ =>
    rw [cached, List.map_modify_of_comp]
    · exact hids
    · exact fun _ ↦ rfl

/-- Reading the credentials again, or not, before a release. -/
theorem copies_looked (crates : Crates) {w₁ : World}
    (stored : w₁.store.credentials = w.store.credentials)
    (cached : w₁.auth.credentials = w.auth.credentials ∨
      FromDisk crates w.auth.session.uid w.store w₁.auth.credentials) : copies w₁ ⊆ copies w := by
  have hrows : ∀ row ∈ w₁.store.credentials.rows, (row.credentialId, row.signCount) ∈ copies w :=
    fun row hrow ↦ mem_copies_of_stored (stored ▸ hrow)
  rcases cached with cached | cached
  · exact forall_mem_copies (fun c hc ↦ mem_copies_of_cached (cached ▸ hc)) hrows
  · exact forall_mem_copies (fun c hc ↦ cached.mem_copies hc) hrows

theorem distinctIds_looked (crates : Crates) {w₁ : World}
    (cached : w₁.auth.credentials = w.auth.credentials ∨
      FromDisk crates w.auth.session.uid w.store w₁.auth.credentials) (hids : DistinctIds w) :
    DistinctIds w₁ := by
  rcases cached with cached | cached
  · rwa [DistinctIds, cached]
  · exact cached.nodup

/-- A table that was written over, or not, has the counters of the list and those it had. -/
theorem Saved.mem_copies {fault : StoreFault} {cs : List Credential}
    {t : Table CredentialRow.credentialId}
    {x : Option (List Credential)} (h : Saved crates fault cs w.store.credentials t x)
    {row : CredentialRow} (hrow : row ∈ t.rows) :
    (row.credentialId, row.signCount) ∈ copies w ∨
      ∃ c ∈ cs, row.credentialId = c.id ∧ row.signCount = c.signCount.toNat := by
  cases h with
  | kept _ => exact .inl (mem_copies_of_stored hrow)
  | committed h =>
    obtain ⟨c, hc, hof⟩ := h.exists_left hrow
    exact .inr ⟨c, hc, hof.records.id, hof.records.signCount⟩

/-- A statement on one row that leaves its counter. -/
theorem mem_copies_of_update {id : List UInt8} {f : CredentialRow → CredentialRow}
    {hf : ∀ r, (f r).credentialId = r.credentialId} {row : CredentialRow}
    (hrow : row ∈ (w.store.credentials.update id f hf).rows)
    (hcount : ∀ r, (f r).signCount = r.signCount) :
    (row.credentialId, row.signCount) ∈ copies w := by
  obtain ⟨row₀, hrow₀, rfl⟩ := Table.mem_update.mp hrow
  split
  · rw [hf, hcount]
    exact mem_copies_of_stored hrow₀
  · exact mem_copies_of_stored hrow₀

theorem drawnId_of_created {env : Env} {payload body : List UInt8} {c : Credential}
    (he : event = .cbor env payload) (hp : parsePayload payload = some (.makeCredential, body))
    (hid : c.id = fillRandom 32 (env.random 0)) : drawnId event = some c.id := by
  subst he
  rw [drawnId, if_pos (by simp [Event.hasCommand, hp]), hid]

/-- A step moves the counters without a fresh one, or it makes a credential whose counter is 0. -/
theorem Effect.move_or_made (h : Effect crates w event w') :
    Move (2 ^ 32 - 1) (copies w) (copies w') none ((released crates w event).map issuedBy) ∨
      released crates w event = none ∧ ∃ id, drawnId event = some id ∧
        ∀ p ∈ copies w', p ∈ copies w ∨ p = (id, 0) := by
  cases h with
  | kept hsame _ hrel _ =>
    rw [hrel]
    refine .inl (.of_subset fun p hp ↦ ?_)
    rwa [copies, hsame.cached, hsame.stored] at hp
  | reloaded _ stored cached _ hrel _ =>
    rw [hrel]
    exact .inl (.of_subset (forall_mem_copies (fun c hc ↦ cached.mem_copies hc)
      fun row hrow ↦ mem_copies_of_stored (stored ▸ hrow)))
  | asserted _ _ _ _ _ stored cached _ _ hrel _ =>
    exact .inl (hrel.move.mono (copies_looked crates stored cached))
  | continued _ _ _ _ _ stored cached _ hrel _ =>
    exact .inl (hrel.move.mono (copies_looked crates stored (.inl cached)))
  | @created _ env payload body new he hp made _ cached _ saved hrel =>
    have hmem : ∀ c ∈ w'.auth.credentials, (c.id, c.signCount.toNat) ∈ copies w ∨
        (c.id, c.signCount.toNat) = (new.id, 0) := by
      intro c hc
      rw [cached, List.mem_append, List.mem_singleton] at hc
      rcases hc with hc | rfl
      · exact .inl (mem_copies_of_cached hc)
      · rw [made.signCount]
        exact .inr rfl
    refine .inr ⟨hrel, new.id, drawnId_of_created he hp made.id,
      forall_mem_copies hmem fun row hrow ↦ ?_⟩
    rcases saved.mem_copies hrow with h | ⟨c, hc, hid, hcount⟩
    · exact .inl h
    · rw [hid, hcount]
      exact hmem c hc
  | @renamed _ _ _ index user _ _ _ cached _ _ saved hrel =>
    rw [hrel]
    have hmem : ∀ c ∈ w'.auth.credentials, (c.id, c.signCount.toNat) ∈ copies w := by
      intro c hc
      rw [cached] at hc
      rcases mem_modify hc with ⟨c₀, hc₀, rfl⟩ | ⟨i, -, hi⟩
      · have h := mem_copies_of_cached (List.mem_of_getElem? hc₀)
        exact h
      · exact mem_copies_of_cached (List.mem_of_getElem? hi)
    refine .inl (.of_subset (forall_mem_copies hmem fun row hrow ↦ ?_))
    rcases saved.mem_copies hrow with h | ⟨c, hc, hid, hcount⟩
    · exact h
    · rw [hid, hcount]
      exact hmem c hc
  | deleted _ _ _ stored cached _ _ hrel _ =>
    rw [hrel]
    refine .inl (.of_subset (forall_mem_copies (fun c hc ↦ ?_) fun row hrow ↦ ?_))
    · rw [cached] at hc
      exact mem_copies_of_cached (List.mem_of_mem_eraseIdx hc)
    · rw [stored, Table.mem_delete] at hrow
      exact mem_copies_of_stored hrow.1
  | wiped _ _ stored _ cached _ hrel _ =>
    rw [hrel]
    refine .inl (.of_subset (forall_mem_copies (fun c hc ↦ ?_) fun row hrow ↦ ?_))
    · rw [cached] at hc
      cases hc
    · exact mem_copies_of_stored (stored row hrow)
  | updated _ _ hf _ stored cached _ hrel _ =>
    rw [hrel]
    refine .inl (.of_subset (forall_mem_copies (fun c hc ↦ ?_) fun row hrow ↦ ?_))
    · exact mem_copies_of_cached (cached ▸ hc)
    · rw [stored] at hrow
      exact mem_copies_of_update hrow fun row ↦ (hf row).signCount
  | started _ _ stored cached _ hrel _ =>
    rw [hrel]
    exact .inl (.of_subset (forall_mem_copies (fun c hc ↦ cached.mem_copies hc)
      fun row hrow ↦ mem_copies_of_stored (stored ▸ hrow)))

/-- Every step of the daemon moves the counters. -/
theorem Effect.move (h : Effect crates w event w') :
    Move (2 ^ 32 - 1) (copies w) (copies w') (drawnId event)
      ((released crates w event).map issuedBy) := by
  rcases h.move_or_made with hmove | ⟨hrel, id, hdrawn, hmem⟩
  · exact hmove.mono Set.Subset.rfl
  · rw [hrel]
    refine ⟨fun p hp ↦ ?_, by rintro _ ⟨⟩⟩
    rcases hmem p hp with hp | rfl
    · exact .inl hp
    · exact .inr (.inl hdrawn)

/-- The counter of a credential that is new in a step is 0. -/
theorem Effect.eq_zero_of_new (h : Effect crates w event w') {id : List UInt8}
    (hnew : ∀ n, (id, n) ∉ copies w) {n : Nat} (hn : (id, n) ∈ copies w') : n = 0 := by
  rcases h.move_or_made with hmove | ⟨-, id', hdrawn', hmem⟩
  · rcases hmove.origin _ hn with hold | hfresh | hissued
    · exact absurd hold (hnew n)
    · cases hfresh
    · obtain ⟨m, hm, -⟩ := hmove.next _ hissued
      exact absurd hm (hnew m)
  · rcases hmem _ hn with hold | heq
    · exact absurd hold (hnew n)
    · exact congrArg Prod.snd heq

/-- No step puts a credential into memory twice, if it draws a fresh ID. -/
theorem Effect.distinctIds (h : Effect crates w event w') (hids : DistinctIds w)
    (hfresh : ∀ id, drawnId event = some id → ∀ c ∈ w.auth.credentials, c.id ≠ id) :
    DistinctIds w' := by
  cases h with
  | kept hsame _ _ _ => rwa [DistinctIds, hsame.cached]
  | reloaded _ _ cached _ _ _ => exact cached.nodup
  | asserted _ _ _ _ _ _ cached _ _ hrel _ =>
    exact hrel.distinctIds (distinctIds_looked crates cached hids)
  | continued _ _ _ _ _ _ cached _ hrel _ =>
    exact hrel.distinctIds (distinctIds_looked crates (.inl cached) hids)
  | @created _ env payload body new he hp made _ cached _ _ _ =>
    rw [DistinctIds, cached, List.map_append, List.map_singleton, List.nodup_append']
    refine ⟨hids, List.nodup_singleton _, ?_⟩
    rw [List.disjoint_singleton]
    intro hmem
    obtain ⟨c, hc, hcid⟩ := List.mem_map.mp hmem
    exact hfresh new.id (drawnId_of_created he hp made.id) c hc hcid
  | renamed _ _ _ cached _ _ _ _ =>
    rw [DistinctIds, cached, List.map_modify_of_comp]
    · exact hids
    · exact fun _ ↦ rfl
  | deleted _ _ _ _ cached _ _ _ _ =>
    rw [DistinctIds, cached]
    exact hids.sublist ((List.eraseIdx_sublist _ _).map _)
  | wiped _ _ _ _ cached _ _ _ =>
    rw [DistinctIds, cached]
    exact List.nodup_nil
  | updated _ _ _ _ _ cached _ _ _ => rwa [DistinctIds, cached]
  | started _ _ _ cached _ _ _ => exact cached.nodup

/-- What is let out has its counter in the store. -/
theorem Release.written {index : Nat} {x : Assertion} (h : Release w index (some x) w') :
    ∃ row ∈ w'.store.credentials.rows,
      row.credentialId = x.credential.id ∧ row.signCount = x.signCount.toNat := by
  cases h with
  | done _ _ _ row stored _ _ =>
    obtain ⟨row, hrow, hid⟩ := row
    refine ⟨Store.withSignCount x.signCount row, ?_, hid, rfl⟩
    rw [stored]
    exact Table.mem_update_self hrow hid

/-- An assertion is let out from the list in memory, as it was or as it was read again. -/
theorem Effect.release (h : Effect crates w event w') {x : Assertion}
    (hx : released crates w event = some x) : ∃ w₁ index, Release w₁ index (some x) w' ∧
      (DistinctIds w → DistinctIds w₁) := by
  cases h with
  | asserted _ _ _ _ _ _ cached _ _ hrel _ =>
    exact ⟨_, _, hx ▸ hrel, distinctIds_looked crates cached⟩
  | continued _ _ _ _ _ _ cached _ hrel _ =>
    exact ⟨_, _, hx ▸ hrel, distinctIds_looked crates (.inl cached)⟩
  | _ =>
    -- nothing else lets an assertion out
    have hnone : released crates w event = none := by assumption
    cases hnone.symm.trans hx

/-- **Every step of the daemon advances the counters.** -/
theorem Effect.advance (h : Effect crates w event w') (hids : DistinctIds w) :
    Advance (2 ^ 32 - 1) (copies w) (copies w') (drawnId event)
      ((released crates w event).map issuedBy) := by
  refine ⟨h.move, fun p hp n hn ↦ ?_⟩
  obtain ⟨x, hx, rfl⟩ := Option.map_eq_some_iff.mp hp
  obtain ⟨w₁, index, hrel, hids₁⟩ := h.release hx
  exact hrel.synced (hids₁ hids) hn

theorem Effect.written (h : Effect crates w event w') {x : Assertion}
    (hx : released crates w event = some x) : ∃ row ∈ w'.store.credentials.rows,
      row.credentialId = x.credential.id ∧ row.signCount = x.signCount.toNat := by
  obtain ⟨w₁, index, hrel, -⟩ := h.release hx
  exact hrel.written

/-! ## Whole runs -/

/-- The copies of the start are those of the store. -/
theorem copies_newAuthenticator (env : Env) (tpmPath : Option String) (s : Store) :
    ∀ p ∈ copies (newAuthenticator crates env tpmPath s),
      ∃ row ∈ s.credentials.rows, row.credentialId = p.1 ∧ row.signCount = p.2 := by
  have hstart := newAuthenticator_started crates env tpmPath s
  refine forall_mem_copies (fun c hc ↦ hstart.cached.exists_counter hc) fun row hrow ↦ ?_
  exact ⟨row, hstart.stored ▸ hrow, rfl, rfl⟩

theorem DrawsDistinct.freshKeys {s : Store} {events : List Event} (h : DrawsDistinct s events)
    (crates : Crates) (env : Env) (tpmPath : Option String) :
    FreshKeys (copies (newAuthenticator crates env tpmPath s)) (events.filterMap drawnId) := by
  refine ⟨h.nodup, fun id hid n hn ↦ ?_⟩
  obtain ⟨row, hrow, hrowid, -⟩ := copies_newAuthenticator env tpmPath s _ hn
  exact h.new id hid row hrow hrowid

/-- **Counters never repeat or go back.** -/
theorem countersAdvance_of_drawsDistinct (crates : Crates) (env : Env) (tpmPath : Option String)
    (s : Store) (events : List Event) (hdraws : DrawsDistinct s events) :
    CountersAdvance crates (newAuthenticator crates env tpmPath s) events where
  answered t ht hcommand hok := by
    have houtput : t.output = (step crates t.before t.input).1 :=
      congrArg Run.Transition.output (Run.eq_transition_of_mem ht)
    rw [houtput] at hok ⊢
    rcases hcommand with h | h
    · exact released_of_getAssertion h hok
    · obtain ⟨x, hx, hreply⟩ := released_of_getNextAssertion h hok
      exact ⟨x, 0, hx, hreply⟩
  increasing := by
    have hstart := newAuthenticator_started crates env tpmPath s
    have h := issued_increasing (I := DistinctIds) (2 ^ 32 - 1) copies drawnId
      (fun w event ↦ (released crates w event).map issuedBy) hstart.cached.nodup
      (fun cur event hids hfresh ↦
        ⟨(step_effect crates cur event).distinctIds hids fun id hid c hc hcid ↦
            hfresh id hid _ (hcid ▸ mem_copies_of_cached hc),
          (step_effect crates cur event).advance hids⟩) (hdraws.freshKeys crates env tpmPath)
    refine h.imp fun htu id n m hn hm ↦ ?_
    rw [letOut_eq] at hn hm
    exact htu id n m hn hm
  written t ht id n hn := by
    have hafter : t.after = (step crates t.before t.input).2 :=
      congrArg Run.Transition.after (Run.eq_transition_of_mem ht)
    rw [letOut_eq] at hn
    obtain ⟨x, hx, hn⟩ := Option.map_eq_some_iff.mp hn
    cases hn
    rw [hafter]
    exact (step_effect crates t.before t.input).written hx

open Sample in
/-- The counters of three authentications, with a restart before the last. -/
theorem countersAdvance_of_drawsDistinct_restart :
    let crates := packages [Sample.makeCredential "", Sample.getAssertion ""]
    let w := newAuthenticator crates (session 1000 0) (some "") Store.fresh
    let assertion := request (session 1000 0) 0x02 (Sample.getAssertion "")
    let events := [setPassphrase, request (session 1000 1) 0x01 (Sample.makeCredential ""),
      assertion, assertion, .start (session 1000 0) (some ""), assertion]
    CountersAdvance crates w events ∧
      (run crates w events).filterMap (fun t ↦ letOut crates t.before t.input) =
        [(credentialId 1, 1), (credentialId 1, 2), (credentialId 1, 3)] :=
  ⟨countersAdvance_of_drawsDistinct _ _ _ _ _ (by decide +kernel), by decide +kernel⟩

/-! ## Agreement -/

/-- The copies of each counter say the same, and no credential is in memory twice. -/
structure CountersAgree (w : World) : Prop where
  distinct : DistinctIds w
  agree : Agree (copies w)

/-- Every step keeps the copies in agreement, if it draws a fresh ID. -/
theorem Effect.countersAgree (h : Effect crates w event w') (hw : CountersAgree w)
    (hfresh : ∀ id, drawnId event = some id → ∀ n, (id, n) ∉ copies w) : CountersAgree w' := by
  refine ⟨h.distinctIds hw.distinct fun id hid c hc hcid ↦ ?_,
    (h.advance hw.distinct).agree hw.agree fun id hid n m hn hm ↦ ?_⟩
  · exact hfresh id hid _ (hcid ▸ mem_copies_of_cached hc)
  · have hnew := hfresh id hid
    rw [h.eq_zero_of_new hnew hn, h.eq_zero_of_new hnew hm]

theorem newAuthenticator_countersAgree (crates : Crates) (env : Env) (tpmPath : Option String)
    (s : Store) : CountersAgree (newAuthenticator crates env tpmPath s) := by
  refine ⟨(newAuthenticator_started crates env tpmPath s).cached.nodup, fun id n m hn hm ↦ ?_⟩
  obtain ⟨row, hrow, hid, hcount⟩ := copies_newAuthenticator env tpmPath s _ hn
  obtain ⟨row', hrow', hid', hcount'⟩ := copies_newAuthenticator env tpmPath s _ hm
  -- a row is determined by its ID
  obtain rfl : row = row' := s.credentials.eq_of_key_eq hrow hrow' (hid.trans hid'.symm)
  exact hcount.symm.trans hcount'

/-- **The copies agree** in every reachable state. -/
theorem countersAgree_before {env : Env} {tpmPath : Option String} {s : Store}
    {events : List Event} (hdraws : DrawsDistinct s events) {t : Step}
    (ht : t ∈ run crates (newAuthenticator crates env tpmPath s) events) :
    CountersAgree t.before := by
  have hfresh : ∀ t ∈ run crates (newAuthenticator crates env tpmPath s) events,
      ∀ id, drawnId t.input = some id → ∀ n, (id, n) ∉ copies t.before := by
    intro t ht id hid
    exact not_mem_copies_of_fresh (2 ^ 32 - 1) copies drawnId
      (fun w event ↦ (released crates w event).map issuedBy)
      (fun cur event ↦ (step_effect crates cur event).move)
      (hdraws.freshKeys crates env tpmPath) ht hid
  obtain ⟨pre, post, hsplit⟩ := List.append_of_mem ht
  exact (Run.history_invariant_before (H := fun _ cur ↦ CountersAgree cur)
    (C := fun cur event ↦ ∀ id, drawnId event = some id → ∀ n, (id, n) ∉ copies cur)
    (newAuthenticator_countersAgree crates env tpmPath s)
    (fun _ cur event h hc ↦ (step_effect crates cur event).countersAgree h hc) hfresh hsplit).1

end Ctap2
end TpmFido2
