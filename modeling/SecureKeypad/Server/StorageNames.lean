import SecureKeypad.Library.Rust

/-!
# Storage Namespaces

Every durable backend puts its keys under a configured namespace and checks it the same way; the
copies of `validate_namespace` differ in the error they answer.

## Main results

- `validateNamespaceOr_eq_ok`: what an accepted namespace looks like
-/

namespace SecureKeypad.Server

open Rust

def maxNamespaceBytes : ℕ := 64

/-- The bytes a namespace may have: letters, digits, `.`, `_` and `-`. -/
def isNamespaceByte (byte : UInt8) : Bool :=
  isAsciiDigit byte || (0x41 ≤ byte && byte ≤ 0x5A) || (0x61 ≤ byte && byte ≤ 0x7A) ||
    byte = 0x2E || byte = 0x5F || byte = 0x2D

/-- `validate_namespace`, answering `error` for a namespace it rejects. -/
def validateNamespaceOr {ε : Type} (error : ε) (storageNamespace : String) : Except ε Unit :=
  if storageNamespace.isEmpty ∨ (asBytes storageNamespace).length > maxNamespaceBytes ∨
      ¬ (asBytes storageNamespace).all isNamespaceByte then
    .error error
  else .ok ()

theorem validateNamespaceOr_eq_ok {ε : Type} {error : ε} {storageNamespace : String}
    (h : validateNamespaceOr error storageNamespace = .ok ()) :
    storageNamespace.isEmpty = false ∧
      (asBytes storageNamespace).length ≤ maxNamespaceBytes ∧
      (asBytes storageNamespace).all isNamespaceByte = true := by
  unfold validateNamespaceOr at h
  split at h
  · cases h
  · next hvalid =>
    rw [not_or, not_or, not_not, not_lt] at hvalid
    exact ⟨eq_false_of_ne_true hvalid.1, hvalid.2.1, hvalid.2.2⟩

end SecureKeypad.Server
