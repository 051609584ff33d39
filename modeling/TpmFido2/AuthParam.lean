import TpmFido2.Panics

/-!
# Comparing codes

A code is compared by `constant_time_equal`, which there is twice, in `src/ctap2.rs` and in
`src/store.rs`, word for word the same.  It folds the differences of the bytes over a `zip`, which
stops with the shorter string; the lengths are compared first.  `Store.constantTimeEqual_iff` is
that the two together are equality.

A parameter of a client is compared with as many bytes of the code as it has itself, in two places:
`verify_pin_uv_auth_param`, and once more in the middle of `validate_pin_uv_auth`.  The range
`expected[..auth_param.len()]` is there because the length has been checked just before.

**`authParam_exact`** is that both accept exactly the first 16 and the first 32 bytes of the code.
-/

set_option autoImplicit false

namespace TpmFido2
namespace Ctap2

/-- The parameters that are right for a message under a key: its code, or the first half of it. -/
def ExactAuthParam (crates : Crates) (key authParam message : List UInt8) : Prop :=
  (authParam.length = 16 ∨ authParam.length = 32) ∧ authParam <+: crates.hmacSha256 key message

theorem isAuthParam_iff {crates : Crates} {key authParam message : List UInt8} :
    isAuthParam crates key authParam message = true ↔
      ExactAuthParam crates key authParam message := by
  rw [isAuthParam, Bool.and_eq_true, Bool.or_eq_true, decide_eq_true_eq, decide_eq_true_eq,
    Store.constantTimeEqual_iff, ExactAuthParam]
  refine and_congr_right fun _ ↦ ?_
  rw [List.prefix_iff_eq_take]
  exact eq_comm

theorem verifyPinUvAuthParam_eq_ok {crates : Crates} {key authParam message : List UInt8} :
    verifyPinUvAuthParam crates key authParam message = .ok () ↔
      ExactAuthParam crates key authParam message := by
  rw [verifyPinUvAuthParam, ← isAuthParam_iff]
  split
  · next h => exact ⟨fun _ ↦ h, fun _ ↦ rfl⟩
  · next h =>
    constructor
    · rintro ⟨⟩
    · exact fun htrue ↦ absurd htrue h

/-- What `validate_pin_uv_auth` asks for besides the right parameter: the session, a protocol, and a
live token that permits the operation. -/
def TokenFor (env : Env) (a : Authenticator) (n : Nat) (protocol : Option Int)
    (permission : Ctap2PermissionFlags) (rpId : Option String) (token : PinUvAuthToken) : Prop :=
  a.session.matchesCurrent env n ∧ validatePinUvProtocol protocol = .ok () ∧
    a.liveToken env 0 = some token ∧ token.permits permission rpId

theorem pinUvVerdict_eq_verified {crates : Crates} {env : Env} {a : Authenticator} {n : Nat}
    {protocol : Option Int} {authParam message : List UInt8} {permission : Ctap2PermissionFlags}
    {rpId : Option String} :
    a.pinUvVerdict crates env n protocol (some authParam) message permission rpId = .verified ↔
      ∃ token, TokenFor env a n protocol permission rpId token ∧
        ExactAuthParam crates token.value authParam message := by
  unfold Authenticator.pinUvVerdict TokenFor
  by_cases hsession : a.session.matchesCurrent env n
  · rw [if_neg (not_not_intro hsession), if_neg fun h ↦ Bool.false_ne_true h.2]
    cases hprotocol : validatePinUvProtocol protocol with
    | error e =>
      constructor
      · rintro ⟨⟩
      · rintro ⟨token, ⟨-, hok, -⟩, -⟩
        cases hok
    | ok u =>
      cases htoken : a.liveToken env 0 with
      | none =>
        constructor
        · rintro ⟨⟩
        · rintro ⟨token, ⟨-, -, hsome, -⟩, -⟩
          cases hsome
      | some token =>
        dsimp only
        split
        · next hok =>
          rw [Bool.and_eq_true, isAuthParam_iff] at hok
          exact ⟨fun _ ↦ ⟨token, ⟨hsession, rfl, rfl, hok.1⟩, hok.2⟩, fun _ ↦ rfl⟩
        · next hnot =>
          constructor
          · rintro ⟨⟩
          · rintro ⟨_, ⟨-, -, hsome, hpermits⟩, hexact⟩
            cases hsome
            rw [Bool.and_eq_true, isAuthParam_iff] at hnot
            exact absurd ⟨hpermits, hexact⟩ hnot
  · rw [if_pos hsession]
    constructor
    · rintro ⟨⟩
    · rintro ⟨token, ⟨hmatches, -⟩, -⟩
      exact absurd hmatches hsession

/-- **Comparison is exact.**  `constant_time_equal` is equality; no parameter makes the range of the
code overrun its end; and both checks accept exactly the first 16 and the first 32 bytes of the
code. -/
theorem authParam_exact (crates : Crates) :
    (∀ left right, Store.constantTimeEqual left right = true ↔ left = right) ∧
    (∀ key authParam message, (Checked.isAuthParam crates key authParam message).isSome) ∧
    (∀ key authParam message, verifyPinUvAuthParam crates key authParam message = .ok () ↔
      ExactAuthParam crates key authParam message) ∧
    ∀ env a n protocol authParam message permission rpId,
      Authenticator.pinUvVerdict crates env a n protocol (some authParam) message permission rpId =
          .verified ↔
        ∃ token, TokenFor env a n protocol permission rpId token ∧
          ExactAuthParam crates token.value authParam message := by
  refine ⟨fun left right ↦ Store.constantTimeEqual_iff, fun key authParam message ↦ ?_,
    fun key authParam message ↦ verifyPinUvAuthParam_eq_ok,
    fun env a n protocol authParam message permission rpId ↦ pinUvVerdict_eq_verified⟩
  rw [checked_isAuthParam]
  rfl

end Ctap2
end TpmFido2
