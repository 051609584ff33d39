import TpmFido2.Store.Integrity

/-!
# Loading for one user

`load_ctap2_credentials_async` takes a user ID and then returns the credentials of that user and
those of nobody, which it hands out as the user's own (`adopt`).  It should be a view of the list
without a user.  As far as the query goes it is: the same rows in the same order
(`selectCredentials_filter`), and each row reads as before, up to its owner
(`credentialOfRow_adopt`).

But the new owner is filled in before the integrity code is checked, and the code was made for the
record without an owner, which counts as user 0.  So the check fails for every other user, and with
it the whole load:

* **`filteredView_iff`**: the load for a user is the view if and only if the user is root or every
  record has an owner.

`ownerless_blocks` is a store with one ownerless record, which nobody but root can load from.
-/

set_option autoImplicit false

namespace TpmFido2
namespace Store

open Bytes Handler

/-! ## The property -/

/-- A record as a user sees it: their own as they are, those of nobody as their own. -/
def adopt (uid : UInt32) (c : StoredCtap2Credential) : Option StoredCtap2Credential :=
  match c.userId with
  | none => some { c with userId := some uid }
  | some owner => if owner = uid then some c else none

/-- The call can read the key file whenever it wants to. -/
def KeyReadable (fault : StoreFault) : Prop := ∀ n, fault.key n = false

/-- The key file holds a key, if it is there. -/
def KeyIntact (s : Store) : Prop := ∀ key, s.hmacKey = some key → key.length = 32

/-- The load for a user succeeds and returns what the user sees of the records. -/
def FilteredView (crates : Crates) (fault : StoreFault) (uid : UInt32) (s : Store)
    (all : List StoredCtap2Credential) : Prop :=
  (loadCtap2Credentials crates fault (some uid) s).1 = .ok (all.filterMap (adopt uid))

variable {crates : Crates} {fault : StoreFault} {s s' : Store} {uid : UInt32}

/-! ## The query -/

theorem visibleTo_some_iff {row : CredentialRow} :
    visibleTo (some uid) row ↔ row.userId = none ∨ row.userId = some (uid.toNat : Int) := by
  unfold visibleTo
  cases row.userId <;> simp

theorem rowLe_antisymm (t : Table CredentialRow.credentialId) {a b : CredentialRow}
    (ha : a ∈ t.rows) (hb : b ∈ t.rows) (hab : rowLe a b) (hba : rowLe b a) : a = b := by
  refine t.eq_of_key_eq ha hb ?_
  rcases hab with ⟨hne, hab⟩ | ⟨heq, hab⟩
  · rcases hba with ⟨-, hba⟩ | ⟨heq, -⟩
    · exact absurd (lexLe_antisymm hab hba) hne
    · exact absurd heq.symm hne
  · rcases hba with ⟨hne, -⟩ | ⟨-, hba⟩
    · exact absurd heq.symm hne
    · exact lexLe_antisymm hab hba

/-- **The query for a user** selects from the rows of the query without one. -/
theorem selectCredentials_filter (uid : UInt32) (s : Store) :
    selectCredentials (some uid) s =
      (selectCredentials none s).filter fun row ↦ visibleTo (some uid) row := by
  refine List.Perm.eq_of_pairwise ?_ (List.pairwise_insertionSort rowLe _)
    ((List.pairwise_insertionSort rowLe _).filter _) ?_
  · intro a b ha hb
    exact rowLe_antisymm s.credentials (mem_selectCredentials.mp ha).1
      (mem_selectCredentials.mp (List.mem_of_mem_filter hb)).1
  · refine (List.perm_insertionSort rowLe _).trans ?_
    refine .trans (.of_eq ?_) ((List.perm_insertionSort rowLe _).filter _).symm
    rw [List.filter_filter]
    exact List.filter_congr fun row _ ↦ by rw [visibleTo_none, Bool.true_and]

theorem eq_of_toU32 {n : Int} {v : UInt32} (h : toU32 n = some v) : n = v.toNat := by
  rw [toU32] at h
  split at h
  · next hn =>
    cases h
    have hlt : n.toNat < 2 ^ 32 := by omega
    rw [UInt32.toNat_ofNat_of_lt' hlt]
    omega
  · cases h

/-- The owner of a record that was loaded without a user. -/
theorem owner_of_credentialOfRow {row : CredentialRow} {c : StoredCtap2Credential}
    (h : credentialOfRow crates none row = some c) :
    row.userId = c.userId.map fun owner ↦ (owner.toNat : Int) := by
  have howner := (describes_of_credentialOfRow h).owner
  cases hrow : row.userId with
  | none =>
    rw [hrow, ownerOfRow, Option.some_inj] at howner
    rw [← howner]
    rfl
  | some n =>
    rw [hrow] at howner
    obtain ⟨owner, hn, hc⟩ := Option.map_eq_some_iff.mp howner
    rw [← hc, eq_of_toU32 hn]
    rfl

/-- Reading a row for a user changes the owner at most. -/
theorem credentialOfRow_owner {row : CredentialRow} {c : StoredCtap2Credential}
    (h : credentialOfRow crates none row = some c) {owner : Option UInt32}
    (howner : ownerOfRow (some uid) row.userId = some owner) :
    credentialOfRow crates (some uid) row = some { c with userId := owner } := by
  obtain ⟨slot, hslot, h₁⟩ := Option.bind_eq_some_iff.mp h
  obtain ⟨version, hversion, h₂⟩ := Option.bind_eq_some_iff.mp h₁
  obtain ⟨key, hkey, h₃⟩ := Option.bind_eq_some_iff.mp h₂
  obtain ⟨recovery, hrecovery, h₄⟩ := Option.bind_eq_some_iff.mp h₃
  obtain ⟨_, -, h₅⟩ := Option.bind_eq_some_iff.mp h₄
  obtain ⟨count, hcount, h₆⟩ := Option.bind_eq_some_iff.mp h₅
  cases h₆
  simp [credentialOfRow, hslot, hversion, hkey, hrecovery, howner, hcount]

/-- **A row that the user sees** reads as the user sees the record. -/
theorem credentialOfRow_adopt {row : CredentialRow} {c : StoredCtap2Credential}
    (h : credentialOfRow crates none row = some c) (hvisible : visibleTo (some uid) row) :
    ∃ c', adopt uid c = some c' ∧ credentialOfRow crates (some uid) row = some c' := by
  have hrow := owner_of_credentialOfRow h
  cases howner : c.userId with
  | none =>
    rw [howner, Option.map_none] at hrow
    exact ⟨{ c with userId := some uid }, by rw [adopt, howner],
      credentialOfRow_owner h (by rw [hrow, ownerOfRow])⟩
  | some owner =>
    rw [howner, Option.map_some] at hrow
    have huid : owner = uid := by
      rw [visibleTo_some_iff, hrow, Option.some_inj] at hvisible
      exact UInt32.toNat_inj.mp (Int.ofNat_inj.mp (hvisible.resolve_left (Option.some_ne_none _)))
    refine ⟨c, by rw [adopt, howner]; exact if_pos huid, ?_⟩
    rw [credentialOfRow_owner h (by rw [hrow, ownerOfRow, toU32_toNat]; rfl),
      ← howner]

theorem adopt_eq_none {row : CredentialRow} {c : StoredCtap2Credential}
    (h : credentialOfRow crates none row = some c) (hhidden : ¬ visibleTo (some uid) row) :
    adopt uid c = none := by
  have hrow := owner_of_credentialOfRow h
  cases howner : c.userId with
  | none =>
    rw [howner, Option.map_none] at hrow
    exact absurd (visibleTo_some_iff.mpr (.inl hrow)) hhidden
  | some owner =>
    rw [howner, Option.map_some] at hrow
    rw [adopt, howner]
    refine if_neg ?_
    rintro rfl
    exact hhidden (visibleTo_some_iff.mpr (.inr hrow))

/-! ## The codes -/

/-- The message of a record that has been given an owner. -/
theorem macMessage_owner {c : Credential} (h : c.userId = none) :
    macMessage { c with userId := some uid } = macMessage c ↔ uid = 0 := by
  constructor
  · intro heq
    have h₁ := List.append_cancel_left (List.append_cancel_left heq)
    have h₂ := List.append_cancel_left (List.cons.inj h₁).2
    rw [h] at h₂
    exact (userId_inj h₂).1
  · rintro rfl
    rw [macMessage, macMessage, macTail, macTail, h]
    rfl

theorem legacyMacMessage_owner {c : Credential} (h : c.userId = none) :
    legacyMacMessage { c with userId := some 0 } = legacyMacMessage c := by
  rw [legacyMacMessage, legacyMacMessage, legacyMacTail, legacyMacTail, h]
  rfl

/-- The old format never gives the message of the same record, whoever owns it. -/
theorem legacyMacMessage_ne (c : Credential) (owner : Option UInt32) :
    legacyMacMessage { c with userId := owner } ≠ macMessage c := by
  intro heq
  have hlength := congrArg List.length heq
  simp only [legacyMacMessage, legacyMacTail, macMessage, macTail, List.length_append,
    List.length_cons, length_beBytes] at hlength
  omega

/-- A code that is right for a record is right for root's copy of it. -/
theorem Coded.adopt {key : List UInt8} {c c' : StoredCtap2Credential} (h : Coded crates key c)
    (hc : c.userId = none → uid = 0) (hadopt : Store.adopt uid c = some c') :
    Coded crates key c' := by
  rw [Store.adopt] at hadopt
  split at hadopt
  · next hnone =>
    cases hadopt
    obtain rfl := hc hnone
    intro m hm
    have hnew : macMessage { c.toCredential with userId := some 0 } = macMessage c.toCredential :=
      (macMessage_owner hnone).mpr rfl
    rcases h m hm with hcode | hcode
    · exact .inl ((congrArg _ hnew).trans hcode)
    · exact .inr ((congrArg _ (legacyMacMessage_owner hnone)).trans hcode)
  · split at hadopt
    · cases hadopt
      exact h
    · cases hadopt

/-! ## Saving with a key -/

/-- Every row has a code, and the key file the key. -/
structure Sealed (s : Store) : Prop where
  key : KeyIntact s
  coded : ∀ row ∈ s.credentials.rows, row.integrityMac ≠ none

theorem exists_hmacKey (hfault : KeyReadable fault) (hs : KeyIntact s) (n : Nat) :
    ∃ key s₁, loadOrGenerateHmacKey fault n s = (.ok key, s₁) := by
  cases hkey : s.hmacKey with
  | some key => exact ⟨key, s, by simp [loadOrGenerateHmacKey, hfault n, hkey, hs key hkey]⟩
  | none => exact ⟨_, _, by rw [loadOrGenerateHmacKey, hfault n, if_neg Bool.false_ne_true, hkey]⟩

/-- With the key at hand, every row gets a code. -/
theorem Sealed.insertCredential (hfault : KeyReadable fault) (hs : Sealed s) {n : Nat}
    {c : Credential} {u : Unit} (h : insertCredential crates fault n c s = (.ok u, s')) :
    Sealed s' := by
  obtain ⟨key, s₁, hkey⟩ := exists_hmacKey hfault hs.key n
  have hattempt : (attempt (loadOrGenerateHmacKey fault n) :
      StoreM (Except StoreError (List UInt8))) s = (.ok (.ok key), s₁) := by
    simp only [attempt, zoom, id]
    rw [hkey]
  have hsame : s₁.credentials = s.credentials :=
    ((loadOrGenerateHmacKey_moves n).of_eq hkey).credentials
  obtain ⟨hfile, hlength⟩ := loadOrGenerateHmacKey_ok hkey
  obtain ⟨mac, s₂, h₁, h⟩ := bind_ok h
  cases hattempt.symm.trans h₁
  obtain ⟨cur, s₃, h₂, h⟩ := bind_ok h
  cases h₂
  obtain ⟨_, s₄, h₃, h⟩ := bind_ok h
  obtain ⟨-, rfl⟩ := throwIf_ok h₃
  obtain ⟨row, s₅, h₄, h⟩ := bind_ok h
  obtain ⟨hrow, rfl⟩ := expect_ok h₄
  obtain ⟨table, s₆, h₅, hend⟩ := bind_ok h
  cases hend
  obtain ⟨hinsert, rfl⟩ := ofOption_ok h₅
  refine ⟨?_, fun row' hrow' ↦ ?_⟩
  · intro key' hkey'
    cases hfile.symm.trans hkey'
    exact hlength
  · rw [(Table.insert_eq_some_iff.mp hinsert).2, List.mem_append, List.mem_singleton, hsame]
      at hrow'
    rcases hrow' with hrow' | rfl
    · exact hs.coded row' hrow'
    · rw [(columns_of_rowOfCredential hrow).2.1]
      exact Option.some_ne_none _

theorem Sealed.insertCredentials (hfault : KeyReadable fault) (hs : Sealed s) {n : Nat}
    {cs : List Credential} {u : Unit}
    (h : insertCredentials crates fault n cs s = (.ok u, s')) : Sealed s' := by
  induction cs generalizing n s with
  | nil =>
    cases h
    exact hs
  | cons c cs ih =>
    obtain ⟨_, s₁, h₁, h⟩ := bind_ok h
    exact ih (hs.insertCredential hfault h₁) h

/-- **What saving leaves**, with the key at hand. -/
theorem sealed_saved (hfault : KeyReadable fault) (hs : KeyIntact s) {cs : List Credential}
    (h : (saveCtap2Credentials crates fault cs s).1 = .ok ()) :
    Sealed (saveCtap2Credentials crates fault cs s).2 := by
  have hsave : saveCtap2Credentials crates fault cs s =
      (.ok (), (saveCtap2Credentials crates fault cs s).2) := Prod.ext h rfl
  generalize (saveCtap2Credentials crates fault cs s).2 = s' at hsave
  obtain ⟨_, s₁, h₁, htransaction⟩ := bind_ok hsave
  obtain ⟨-, rfl⟩ := throwIf_ok h₁
  obtain ⟨_, s₂, h₂, hinserts⟩ := bind_ok (transaction_ok htransaction)
  obtain ⟨_, s₃, h₃, hend⟩ := bind_ok hinserts
  obtain ⟨-, rfl⟩ := throwIf_ok hend
  cases h₂
  have hempty : Sealed { s₁ with credentials := Table.empty _ } :=
    ⟨hs, fun row hrow ↦ absurd hrow List.not_mem_nil⟩
  exact hempty.insertCredentials hfault h₃

/-- The code of a row that was saved. -/
theorem Sealed.row (hs : Sealed s) {c : Credential} {row : CredentialRow}
    (hmem : row ∈ s.credentials.rows) (hrow : SealedRow crates s c row) :
    ∃ key, s.hmacKey = some key ∧ key.length = 32 ∧
      rowOfCredential crates (some (computeCredentialMac crates key c)) c = some row := by
  obtain ⟨mac, hwritten, hmac⟩ := hrow
  cases mac with
  | none => exact absurd (columns_of_rowOfCredential hwritten).2.1 (hs.coded row hmem)
  | some m =>
    obtain ⟨key, hkey, rfl⟩ := hmac m rfl
    exact ⟨key, hkey, hs.key key hkey, hwritten⟩

/-! ## Loading with a key -/

theorem loadCtap2Credentials_eq_loadRows (hio : ¬ fault.io) (userId : Option UInt32) :
    loadCtap2Credentials crates fault userId s =
      loadRows crates fault userId 0 (selectCredentials userId s) s := by
  rw [loadCtap2Credentials, bind_of_ok _ (throwIf_of_not hio s), bind_of_ok _ (gets_apply _ s)]

/-- Loading with the key at hand. -/
theorem loadCtap2Credentials_ok_iff {key : List UInt8} (hs : s.hmacKey = some key)
    (hkey : key.length = 32) (hfault : KeyReadable fault) (hio : ¬ fault.io)
    {userId : Option UInt32} {cs : List StoredCtap2Credential} :
    (loadCtap2Credentials crates fault userId s).1 = .ok cs ↔
      List.Forall₂ (fun row c ↦ credentialOfRow crates userId row = some c ∧ Coded crates key c)
        (selectCredentials userId s) cs := by
  rw [loadCtap2Credentials_eq_loadRows hio]
  constructor
  · intro h
    exact ((loadRows_ok_iff hs hkey fun i _ ↦ hfault i).mp (Prod.ext h rfl)).2
  · intro h
    rw [(loadRows_ok_iff hs hkey fun i _ ↦ hfault i).mpr ⟨rfl, h⟩]

/-- The messages of what is read from a row, in terms of what was saved in it. -/
theorem messages_of_describes {userId : Option UInt32} {mac : Option (List UInt8)}
    {row : CredentialRow} {c d : Credential} (hrow : rowOfCredential crates mac c = some row)
    (hd : Describes crates userId row d) :
    macMessage d = macMessage { c with userId := d.userId } ∧
      legacyMacMessage d = legacyMacMessage { c with userId := d.userId } := by
  obtain ⟨primary, -, hrest⟩ := Option.bind_eq_some_iff.mp hrow
  obtain ⟨recovery, -, hend⟩ := Option.bind_eq_some_iff.mp hrest
  cases hend
  rw [macMessage, macMessage, macTail, macTail, legacyMacMessage, legacyMacMessage, legacyMacTail,
    legacyMacTail, hd.id, hd.rpId, hd.discoverable, hd.userHandle, hd.userName, hd.userDisplayName]
  exact ⟨rfl, rfl⟩

/-- A record of nobody has no right code for anybody but root. -/
theorem not_coded_of_ownerless {key : List UInt8} {c : Credential} (hcode : CodeApart crates key c)
    (hnone : c.userId = none) (huid : uid ≠ 0) {row : CredentialRow}
    (hrow : rowOfCredential crates (some (computeCredentialMac crates key c)) c = some row)
    {stored : StoredCtap2Credential} (hread : credentialOfRow crates (some uid) row = some stored) :
    ¬ Coded crates key stored := by
  intro hcoded
  have hdescribes := describes_of_credentialOfRow hread
  obtain ⟨hnew, hold⟩ := messages_of_describes hrow hdescribes
  obtain ⟨-, hmac, hcolumn⟩ := columns_of_rowOfCredential hrow
  have howner : some uid = stored.userId := by
    have howner := hdescribes.owner
    rw [hcolumn, hnone] at howner
    exact Option.some.inj howner
  rw [← howner] at hnew hold
  rw [← integrityMac_of_credentialOfRow hread, computeCredentialMac_eq] at hmac
  rcases hcoded _ hmac with heq | heq
  · have hmessage := (hcode _).1 heq
    rw [hnew] at hmessage
    exact huid ((macMessage_owner hnone).mp hmessage)
  · have hmessage := (hcode _).2 heq
    rw [hold] at hmessage
    exact legacyMacMessage_ne c (some uid) hmessage

/-- What the user sees is loaded, if the codes are right for the records of nobody. -/
theorem filteredView_of_loaded {key : List UInt8} (hs : s.hmacKey = some key)
    (hkey : key.length = 32) (hfault : KeyReadable fault) (hio : ¬ fault.io)
    {all : List StoredCtap2Credential}
    (hall : List.Forall₂ (fun row c ↦ credentialOfRow crates none row = some c ∧ Coded crates key c)
      (selectCredentials none s) all)
    (huid : ∀ c ∈ all, c.userId = none → uid = 0) : FilteredView crates fault uid s all := by
  rw [FilteredView, loadCtap2Credentials_ok_iff hs hkey hfault hio, selectCredentials_filter]
  have hmem : List.Forall₂ (fun row c ↦ (credentialOfRow crates none row = some c ∧
      Coded crates key c) ∧ (c.userId = none → uid = 0)) (selectCredentials none s) all :=
    List.forall₂_iff_get.mpr ⟨hall.length_eq, fun i h₁ h₂ ↦
      ⟨hall.get h₁ h₂, huid _ (List.get_mem all ⟨i, h₂⟩)⟩⟩
  refine hmem.filter_filterMap ?_ ?_
  · rintro row c ⟨⟨hread, hcoded⟩, hc⟩ hvisible
    obtain ⟨c', hadopt, hread'⟩ := credentialOfRow_adopt hread hvisible
    exact ⟨c', hadopt, hread', hcoded.adopt hc hadopt⟩
  · rintro row c ⟨⟨hread, -⟩, -⟩ hhidden
    exact adopt_eq_none hread hhidden

/-- **Loading for a user is a view of loading everything** if and only if the user is root or every
record has an owner. -/
theorem filteredView_iff (crates : Crates) (save full filtered : StoreFault)
    (cs : List Credential) (s : Store) (uid : UInt32) (hkey : KeyIntact s)
    (hsave : KeyReadable save) (hfull : KeyReadable full) (hfiltered : KeyReadable filtered)
    (hio : ¬ filtered.io) (hsaved : (saveCtap2Credentials crates save cs s).1 = .ok ())
    (hcodes : ∀ key, (saveCtap2Credentials crates save cs s).2.hmacKey = some key →
      ∀ c ∈ cs, CodeApart crates key c)
    (all : List StoredCtap2Credential)
    (hall : (loadCtap2Credentials crates full none (saveCtap2Credentials crates save cs s).2).1 =
      .ok all) :
    FilteredView crates filtered uid (saveCtap2Credentials crates save cs s).2 all ↔
      uid = 0 ∨ ∀ c ∈ cs, c.userId ≠ none := by
  have hsealed : Sealed (saveCtap2Credentials crates save cs s).2 := sealed_saved hsave hkey hsaved
  have hrows := sealedRows_of_saved hsaved
  generalize (saveCtap2Credentials crates save cs s).2 = s' at *
  have hfullIo : ¬ full.io := by
    obtain ⟨_, s₁, h₁, -⟩ := bind_ok (Prod.ext hall rfl)
    exact (throwIf_ok h₁).1
  cases cs with
  | nil =>
    -- there are no rows
    have hselect (userId : Option UInt32) : selectCredentials userId s' = [] := by
      rw [selectCredentials, List.forall₂_nil_left_iff.mp hrows]
      rfl
    rw [loadCtap2Credentials_eq_loadRows hfullIo, hselect] at hall
    cases hall
    refine iff_of_true ?_ (.inr fun c hc ↦ absurd hc List.not_mem_nil)
    rw [FilteredView, loadCtap2Credentials_eq_loadRows hio, hselect]
    rfl
  | cons c₀ cs' =>
    obtain ⟨row₀, hrow₀, hsealed₀⟩ := hrows.exists_right List.mem_cons_self
    obtain ⟨key, hfile, hlength, -⟩ := hsealed.row hrow₀ hsealed₀
    rw [loadCtap2Credentials_ok_iff hfile hlength hfull hfullIo] at hall
    constructor
    · intro hview
      by_contra hnot
      obtain ⟨huid, hnone⟩ := not_or.mp hnot
      push Not at hnone
      obtain ⟨c, hc, hnone⟩ := hnone
      obtain ⟨row, hrow, hrow'⟩ := hrows.exists_right hc
      obtain ⟨key', hfile', -, hwritten⟩ := hsealed.row hrow hrow'
      cases hfile.symm.trans hfile'
      -- the row of the record is one of those the user sees
      have hvisible : row ∈ selectCredentials (some uid) s' := by
        refine mem_selectCredentials.mpr ⟨hrow, visibleTo_some_iff.mpr (.inl ?_),
          primary_of_rowOf hrow'.rowOf⟩
        rw [(columns_of_rowOfCredential hwritten).2.2, hnone]
        rfl
      rw [FilteredView, loadCtap2Credentials_ok_iff hfile hlength hfiltered hio] at hview
      obtain ⟨stored, -, hread, hcoded⟩ := hview.exists_right hvisible
      exact not_coded_of_ownerless (hcodes key hfile c hc) hnone huid hwritten hread hcoded
    · intro hcondition
      refine filteredView_of_loaded hfile hlength hfiltered hio hall fun c hc hnone ↦ ?_
      refine hcondition.resolve_right fun howned ↦ ?_
      -- the record is read from the row of one that was saved
      obtain ⟨row, hrow, hread, -⟩ := hall.exists_left hc
      obtain ⟨d, hd, hrow'⟩ := hrows.exists_left (mem_selectCredentials.mp hrow).1
      refine howned d hd ?_
      have howner := owner_of_credentialOfRow hread
      obtain ⟨_, -, -, hwritten⟩ := hsealed.row (mem_selectCredentials.mp hrow).1 hrow'
      rw [hnone, (columns_of_rowOfCredential hwritten).2.2] at howner
      exact Option.map_eq_none_iff.mp howner

namespace Sample

open Ctap2.Sample

/-- A credential of nobody. -/
def ownerless : Credential := { (credential 1 "a" 1).toCredential with userId := none }

end Sample

open Sample Ctap2.Sample in
/-- Root sees a credential of nobody. -/
theorem filteredView_root :
    ∃ all, (loadCtap2Credentials (sealingPackages (macMessage ownerless)) noFault none
        (sealed ownerless)).1 = .ok all ∧ all.length = 1 ∧
      FilteredView (sealingPackages (macMessage ownerless)) noFault 0 (sealed ownerless) all := by
  have hloads : ((loadCtap2Credentials (sealingPackages (macMessage ownerless)) noFault none
      (sealed ownerless)).1.toOption.map List.length) = some 1 := by decide +kernel
  cases hload : (loadCtap2Credentials (sealingPackages (macMessage ownerless)) noFault none
      (sealed ownerless)).1 with
  | error e => rw [hload] at hloads; cases hloads
  | panicked => rw [hload] at hloads; cases hloads
  | ok all =>
    rw [hload] at hloads
    refine ⟨all, rfl, Option.some.inj hloads, ?_⟩
    refine (filteredView_iff _ noFault noFault noFault [ownerless] .fresh 0 ?_ (fun _ ↦ rfl)
      (fun _ ↦ rfl) (fun _ ↦ rfl) Bool.false_ne_true rfl ?_ all hload).mpr (.inl rfl)
    · rintro key ⟨⟩
    · intro key _ c hc
      rw [List.mem_singleton.mp hc]
      exact codeApart_sealingPackages key ownerless

open Sample Ctap2.Sample in
/-- **A credential of nobody blocks every load** for a user who is not root. -/
theorem ownerless_blocks :
    let saved := saveCtap2Credentials (sealingPackages (macMessage ownerless)) noFault
      [(credential 2 "b" 1).toCredential, ownerless] .fresh
    saved.1.toOption = some () ∧
      (loadCtap2Credentials (sealingPackages (macMessage ownerless)) noFault none
        saved.2).1.toOption.map (·.map fun c ↦ (c.id, c.userId)) =
          some [([1], none), ([2], some 1000)] ∧
      (loadCtap2Credentials (sealingPackages (macMessage ownerless)) noFault (some 1000)
        saved.2).1.toOption = none := by
  decide +kernel

end Store
end TpmFido2
