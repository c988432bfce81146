import CallExchange.Text.Decimal
import CallExchange.Wallet

/-!
# What can go wrong with a wallet

A request is refused before anything is written, names something that does not exist, asks for more
than there is, or meets a failure of the store. Only the last may go away by itself, so only then is
it worth trying again.

## Main definitions

* `FailPoint` — where a transaction can be made to fail
* `WalletError` — the causes, and `WalletError.message` with their words
* `Halt` — why an operation gave no answer: it failed, or it waits for a wallet that is held
-/

namespace CallExchange

/-- A point of a transaction at which it can be made to fail. -/
inductive FailPoint where
  | insertEntry
  | applyDelta
  | insertAdminAction
  | commit
  deriving DecidableEq, Repr, Inhabited

/-- The name of a point in messages. -/
def FailPoint.name : FailPoint → String
  | .insertEntry => "InsertEntry"
  | .applyDelta => "ApplyDelta"
  | .insertAdminAction => "InsertAdminAction"
  | .commit => "Commit"

/-- Why a request is refused. -/
inductive Refusal where
  | workspaceIdRequired
  | walletIdRequired
  | amountNotPositive
  | currencyRequired
  | idempotencyKeyRequired
  | adminUserRequired
  | reasonRequired
  | walletExists (walletId : String)
  /-- The posting and the wallet are in different currencies. -/
  | walletCurrency (given wallet : String)
  /-- The posting and the projection are in different currencies. -/
  | balanceCurrency (given balance : String)
  /-- A refusal in somebody else's words. -/
  | other (words : String)
  deriving DecidableEq, Repr, Inhabited

/-- The words of a refusal. -/
def Refusal.words : Refusal → String
  | .workspaceIdRequired => "workspace_id required"
  | .walletIdRequired => "wallet_id required"
  | .amountNotPositive => "amount_minor must be positive"
  | .currencyRequired => "currency required"
  | .idempotencyKeyRequired => "idempotency_key required"
  | .adminUserRequired => "admin user_id required"
  | .reasonRequired => "reason required"
  | .walletExists id => "wallet " ++ id ++ " already exists"
  | .walletCurrency given wallet =>
    "currency " ++ given ++ " does not match wallet currency " ++ wallet
  | .balanceCurrency given balance =>
    "currency " ++ given ++ " does not match balance currency " ++ balance
  | .other words => words

/-- What does not exist. -/
inductive Missing where
  | wallet (walletId : String)
  | balance (walletId : String)
  | other (words : String)
  deriving DecidableEq, Repr, Inhabited

/-- The words for what does not exist. -/
def Missing.words : Missing → String
  | .wallet id => "wallet " ++ id
  | .balance id => "balance for wallet " ++ id
  | .other words => words

/-- How the store failed. -/
inductive Fault where
  | injected (point : FailPoint)
  | duplicateKey (key : String)
  | balanceOverflow
  | sumOverflow
  | other (words : String)
  deriving DecidableEq, Repr, Inhabited

/-- The words for a failure of the store. -/
def Fault.words : Fault → String
  | .injected point => "injected failure at " ++ point.name
  | .duplicateKey key => "duplicate idempotency key " ++ key
  | .balanceOverflow => "balance overflow"
  | .sumOverflow => "ledger sum overflow"
  | .other words => words

/-- What can go wrong with a wallet. -/
inductive WalletError where
  | invalidArgument (cause : Refusal)
  | notFound (what : Missing)
  | insufficientFunds (available requested : Minor)
  | persistence (fault : Fault)
  deriving DecidableEq, Repr, Inhabited

namespace WalletError

/-- The message of an error. -/
def message : WalletError → String
  | .invalidArgument cause => "invalid argument: " ++ cause.words
  | .notFound what => "not found: " ++ what.words
  | .insufficientFunds available requested =>
    "insufficient funds: balance " ++ Text.Decimal.showInt available.toInt ++
      " is below requested " ++ Text.Decimal.showInt requested.toInt
  | .persistence fault => "persistence failure: " ++ fault.words

/-- The same request may succeed if it is made again. -/
def isRetryable : WalletError → Bool
  | .persistence _ => true
  | .invalidArgument _ | .notFound _ | .insufficientFunds _ _ => false

end WalletError

/-- Why an operation gave no answer. -/
inductive Halt (ε : Type) where
  | failed (cause : ε)
  /-- It waits for a wallet that an open transaction holds. -/
  | waiting
  deriving DecidableEq, Repr

end CallExchange
