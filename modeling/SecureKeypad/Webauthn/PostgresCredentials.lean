import SecureKeypad.Library.Sql
import SecureKeypad.Server.StorageNames
import SecureKeypad.Webauthn.CredentialStore

/-!
# PostgreSQL WebAuthn Credentials (`secure-webauthn-example::storage_postgres`)

Embeds `PostgresWebAuthnStore::update_after_auth`: the bounded `SELECT … FOR UPDATE`, the
conditional `UPDATE` on the revision and the checks between them. Passkeys are JSON values; how
`serde_json` and PostgreSQL print them is a parameter.

## Main results

- `postgresUpdateAfterAuth_eq`: the transaction on a row that can be read, as one case analysis of what
  `update_credential` answers
-/

namespace SecureKeypad.Webauthn

open Rust

/-- `serde_json::to_value` and `from_value` on a passkey, and the lengths of a value as
    `serde_json::to_vec` and as PostgreSQL (`passkey::text`) print it. -/
structure PasskeyJson (Passkey Json : Type) where
  toValue : Passkey → Option Json
  fromValue : Json → Option Passkey
  vecLength : Json → Option ℕ
  textLength : Json → ℕ

/-- What is written can be read back. -/
def PasskeyJson.RoundTrips {Passkey Json : Type} (json : PasskeyJson Passkey Json) : Prop :=
  ∀ passkey value, json.toValue passkey = some value → json.fromValue value = some passkey

/-- The columns of `secure_keypad_webauthn_credentials` beside its primary key. -/
structure CredentialRow (Json : Type) where
  passkey : Json
  revision : ℤ

/-- `secure_keypad_webauthn_credentials`, by `namespace`, `user_id` and `credential_id`. -/
abbrev CredentialTable (Json : Type) := KeyedMap (String × Uuid × Bytes) (CredentialRow Json)

/-- A store and the account it is asked about. -/
structure PostgresAccount where
  storageNamespace : String
  userId : Uuid

/-- The primary key of a credential of the account. -/
def PostgresAccount.key (account : PostgresAccount) (id : Bytes) : String × Uuid × Bytes :=
  (account.storageNamespace, account.userId, id)

section Update

variable {Passkey AuthenticationResult Json : Type} (json : PasskeyJson Passkey Json)
  (api : WebauthnRs Passkey AuthenticationResult)

/-- The `CHECK` constraints of the table. -/
def credentialRowOk (pk : String × Uuid × Bytes) (row : CredentialRow Json) : Bool :=
  (1 ≤ (asBytes pk.1).length && (asBytes pk.1).length ≤ 64) &&
  -- `namespace ~ '^[A-Za-z0-9._-]+$'`
  (pk.1 ≠ "" && (asBytes pk.1).all Server.isNamespaceByte) &&
  (1 ≤ pk.2.2.length && pk.2.2.length ≤ 1024) &&
  (2 ≤ json.textLength row.passkey && json.textLength row.passkey ≤ 262144) &&
  0 ≤ row.revision

/-- `POSTGRES_CREDENTIAL_UPDATE_LOAD_SQL`: the passkey unless it is too long, and the revision. -/
def credentialUpdateLoad (row : CredentialRow Json) : Option Json × ℤ :=
  (if json.textLength row.passkey ≤ maxCredentialRecordBytes then some row.passkey else none,
    row.revision)

/-- `serde_json::to_value` on the updated passkey and the bound on its size. -/
def encodePasskey (passkey : Passkey) : Except CredentialStoreError Json :=
  match json.toValue passkey with
  | none => .error .invalidRecord
  | some value =>
    match json.vecLength value with
    | none => .error .invalidRecord
    | some length => if length > maxCredentialRecordBytes then .error .invalidRecord else .ok value

/-- `UPDATE … SET passkey = $4, revision = revision + 1 WHERE … AND revision = $5`: the number of
    rows it changes and the table. A revision past `BIGINT` and a violated constraint fail. -/
def updatePasskey (pk : String × Uuid × Bytes) (value : Json) (revision : ℤ)
    (table : CredentialTable Json) : Except CredentialStoreError (ℕ × CredentialTable Json) :=
  match (table.lookup pk).filter fun row => row.revision = revision with
  | none => .ok (0, table)
  | some row =>
    if row.revision + 1 > 2 ^ 63 - 1 then .error .unavailable
    else if credentialRowOk json pk ⟨value, row.revision + 1⟩ then
      .ok (1, table.insert pk ⟨value, row.revision + 1⟩)
    else .error .unavailable

/-- The transaction of `update_after_auth`. -/
def updateTransaction (account : PostgresAccount) (result : AuthenticationResult)
    (table : CredentialTable Json) :
    Sql.TxEnd (CredentialTable Json) (Except CredentialStoreError Bool) :=
  let pk := account.key (api.resultCredId result)
  match table.lookup pk with
  | none => .rolledBack (.error .invalidRecord)
  | some row =>
    let (encoded, revision) := credentialUpdateLoad json row
    match encoded.bind json.fromValue with
    | none => .rolledBack (.error .invalidRecord)
    | some credential =>
      match api.updateCredential credential result with
      | none => .rolledBack (.error .invalidRecord)
      | some (changed, updated) =>
        if api.needsUpdate result && !changed then .rolledBack (.error .invalidRecord)
        else if !changed then .committed table (.ok false)
        else
          match encodePasskey json updated with
          | .error error => .rolledBack (.error error)
          | .ok value =>
            match updatePasskey json pk value revision table with
            | .error error => .rolledBack (.error error)
            | .ok (count, table) =>
              if count ≠ 1 then .rolledBack (.error .invalidRecord)
              else .committed table (.ok true)

/-- `PostgresWebAuthnStore::update_after_auth` once a connection is at hand. -/
def postgresUpdateAfterAuth (account : PostgresAccount)
    (table : CredentialTable Json) (result : AuthenticationResult) :
    Except CredentialStoreError Bool × CredentialTable Json :=
  (updateTransaction json api account result table).settle table

/-- The passkey of a row, as `update_after_auth` reads it. -/
def readPasskey (row : CredentialRow Json) : Option Passkey :=
  (credentialUpdateLoad json row).1.bind json.fromValue

/-- What writing a passkey over a row is refused with. -/
def passkeyRefusal (pk : String × Uuid × Bytes) (row : CredentialRow Json) (updated : Passkey) :
    Option CredentialStoreError :=
  match encodePasskey json updated with
  | .error error => some error
  | .ok value =>
    if row.revision + 1 > 2 ^ 63 - 1 then some .unavailable
    else if credentialRowOk json pk ⟨value, row.revision + 1⟩ then none
    else some .unavailable

variable {json} {api} {account : PostgresAccount} {table : CredentialTable Json}
  {result : AuthenticationResult} {row : CredentialRow Json} {credential updated : Passkey}
  {changed : Bool}

/-- A changed passkey is written over its row, or refused and the table left alone. -/
theorem updatePasskey_eq {pk : String × Uuid × Bytes} {value : Json}
    (hrow : table.lookup pk = some row) :
    updatePasskey json pk value row.revision table =
      if row.revision + 1 > 2 ^ 63 - 1 then .error .unavailable
      else if credentialRowOk json pk ⟨value, row.revision + 1⟩ then
        .ok (1, table.insert pk ⟨value, row.revision + 1⟩)
      else .error .unavailable := by
  have hmatch : (some row).filter (fun stored => decide (stored.revision = row.revision)) =
      some row := Option.filter_some_pos (by simp)
  rw [updatePasskey, hrow, hmatch]

/-- **The transaction on a row that can be read.** -/
theorem postgresUpdateAfterAuth_eq
    (hrow : table.lookup (account.key (api.resultCredId result)) = some row)
    (hread : readPasskey json row = some credential)
    (hupdate : api.updateCredential credential result = some (changed, updated)) :
    (changed = false → postgresUpdateAfterAuth json api account table result =
      (if api.needsUpdate result then .error .invalidRecord else .ok false, table)) ∧
    (changed = true → ∀ error,
      passkeyRefusal json (account.key (api.resultCredId result)) row updated = some error →
      postgresUpdateAfterAuth json api account table result = (.error error, table)) ∧
    (changed = true →
      passkeyRefusal json (account.key (api.resultCredId result)) row updated = none → ∃ value,
      encodePasskey json updated = .ok value ∧
      credentialRowOk json (account.key (api.resultCredId result)) ⟨value, row.revision + 1⟩ = true ∧
      postgresUpdateAfterAuth json api account table result =
        (.ok true, table.insert (account.key (api.resultCredId result))
          ⟨value, row.revision + 1⟩)) := by
  have hread' : (credentialUpdateLoad json row).1.bind json.fromValue = some credential := hread
  refine ⟨?_, ?_, ?_⟩
  -- Not changed: nothing is written.
  · intro hsame
    subst hsame
    simp only [postgresUpdateAfterAuth, updateTransaction, hrow, hread', hupdate, Bool.not_false,
      Bool.and_true, if_true]
    cases api.needsUpdate result <;> rfl
  -- Changed, but the row cannot hold it: the transaction is rolled back.
  · intro hchanged error hrefusal
    subst hchanged
    simp only [postgresUpdateAfterAuth, updateTransaction, hrow, hread', hupdate, Bool.not_true,
      Bool.and_false, Bool.false_eq_true, if_false]
    unfold passkeyRefusal at hrefusal
    cases hencode : encodePasskey json updated with
    | error refused =>
      simp only [hencode, Option.some.injEq] at hrefusal
      rw [hrefusal]
      rfl
    | ok value =>
      simp only [hencode] at hrefusal
      have hrevision : (credentialUpdateLoad json row).2 = row.revision := rfl
      simp only [hrevision, updatePasskey_eq hrow]
      split at hrefusal
      · next hover =>
        cases hrefusal
        simp only [if_pos hover, Sql.TxEnd.settle_rolledBack]
      · next hover =>
        split at hrefusal
        · cases hrefusal
        · next hcheck =>
          cases hrefusal
          simp only [if_neg hover, if_neg hcheck, Sql.TxEnd.settle_rolledBack]
  -- Changed, and written with the next revision.
  · intro hchanged hrefusal
    subst hchanged
    simp only [postgresUpdateAfterAuth, updateTransaction, hrow, hread', hupdate, Bool.not_true,
      Bool.and_false, Bool.false_eq_true, if_false]
    unfold passkeyRefusal at hrefusal
    cases hencode : encodePasskey json updated with
    | error refused =>
      simp only [hencode] at hrefusal
      cases hrefusal
    | ok value =>
      simp only [hencode] at hrefusal
      have hrevision : (credentialUpdateLoad json row).2 = row.revision := rfl
      simp only [hrevision, updatePasskey_eq hrow]
      split at hrefusal
      · cases hrefusal
      · next hover =>
        split at hrefusal
        · next hcheck =>
          refine ⟨value, rfl, hcheck, ?_⟩
          simp only [if_neg hover, if_pos hcheck]
          rfl
        · cases hrefusal

end Update

end SecureKeypad.Webauthn
