import CallExchange.Json.Basic
import CallExchange.Role
import CallExchange.Time.Instant
import CallExchange.Uuid

/-!
# Wallets and their records

A workspace keeps prepaid wallets. What happened to a wallet's money is a list of entries, each with
a signed amount in minor units of the wallet's currency; credits are positive and debits negative.
Beside the entries stands a projection of the balance. An administrator's action on a wallet is
recorded with the entry that it produced.

## Main definitions

* `Minor` — an amount in minor units, 64 bits with a sign
* `WalletKey`, `Wallet`, `Entry`, `Balance`, `AdminAction` — the records
* `PostingRequest`, `AdminCreditRequest` — what a caller asks for
* `Minor.add?`, `Minor.sum?` — addition that refuses to leave the range
-/

namespace CallExchange

/-- An amount in minor units of a currency. -/
abbrev Minor := Int64

namespace Minor

/-- The sum of two amounts, if 64 bits hold it. -/
def add? (a b : Minor) : Option Minor :=
  let sum := a.toInt + b.toInt
  if Int64.minValue.toInt ≤ sum ∧ sum ≤ Int64.maxValue.toInt then some (Int64.ofInt sum) else none

/-- The sum is exact when there is one. -/
theorem toInt_of_add? {a b c : Minor} (h : add? a b = some c) : c.toInt = a.toInt + b.toInt := by
  unfold add? at h
  simp only at h
  split at h
  · next hr =>
    cases h
    rw [Int64.toInt_minValue, Int64.toInt_maxValue] at hr
    exact Int64.toInt_ofInt_of_le hr.1 (by omega)
  · cases h

/-- The sum of a list of amounts, added from the first on, if every partial sum fits 64 bits. -/
def sum? (amounts : List Minor) : Option Minor :=
  amounts.foldlM (fun sum a => add? sum a) 0

end Minor

/-- A wallet of a workspace. -/
structure WalletKey where
  workspaceId : String
  walletId : String
  deriving DecidableEq, Repr, Inhabited

/-- Whether a wallet is in use. -/
inductive WalletStatus where
  | active
  | disabled
  deriving DecidableEq, Repr, Inhabited

/-- A prepaid wallet. It holds no money itself. -/
structure Wallet where
  id : String
  workspaceId : String
  /-- The currency of every posting. -/
  currency : String
  status : WalletStatus
  createdAt : Instant
  updatedAt : Instant
  deriving DecidableEq, Repr, Inhabited

/-- The place of a wallet. -/
def Wallet.key (w : Wallet) : WalletKey := ⟨w.workspaceId, w.id⟩

/-- What an entry does. -/
inductive EntryType where
  | credit
  | debit
  | hold
  | release
  deriving DecidableEq, Repr, Inhabited

/-- One movement of money, never changed once written. -/
structure Entry where
  id : Uuid
  workspaceId : String
  walletId : String
  entryType : EntryType
  /-- Signed. -/
  amount : Minor
  currency : String
  /-- A call, an invoice or an event of a provider. -/
  externalRef : Option String
  /-- Unique within the wallet. -/
  idempotencyKey : String
  metadata : Option Json
  createdAt : Instant
  deriving Repr, Inhabited

/-- The projection of a wallet's balance. -/
structure Balance where
  workspaceId : String
  walletId : String
  currency : String
  amount : Minor
  updatedAt : Instant
  deriving DecidableEq, Repr, Inhabited

/-- What an administrator did to a wallet. -/
inductive AdminActionType where
  | adjustBalance
  | freeze
  | unfreeze
  deriving DecidableEq, Repr, Inhabited

/-- The record of an administrator's action. -/
structure AdminAction where
  id : Uuid
  workspaceId : String
  walletId : String
  adminUserId : String
  /-- The role at the time of the action. -/
  adminRole : Role
  action : AdminActionType
  reason : String
  amount : Option Minor
  currency : Option String
  /-- The entry that the action produced. -/
  relatedLedgerId : Option Uuid
  metadata : Option Json
  createdAt : Instant
  deriving Repr, Inhabited

/-- The administrator who acts. -/
structure AdminActor where
  userId : String
  role : Role
  deriving DecidableEq, Repr, Inhabited

/-- What a credit or a debit asks for. -/
structure PostingRequest where
  /-- Strictly positive. -/
  amount : Minor
  currency : String
  externalRef : Option String
  idempotencyKey : String
  metadata : Option Json
  deriving Repr, Inhabited

/-- What an administrator's credit asks for. -/
structure AdminCreditRequest where
  /-- Strictly positive. -/
  amount : Minor
  currency : String
  /-- The justification; required. -/
  reason : String
  idempotencyKey : String
  metadata : Option Json
  deriving Repr, Inhabited

end CallExchange
