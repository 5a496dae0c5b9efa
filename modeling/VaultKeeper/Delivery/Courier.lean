import VaultKeeper.Delivery.Basic

/-! # Delivering a transaction

A courier broadcasts a payload and stays with it until a receipt shows. While none does, it raises
the fee and broadcasts the same payload again at the same nonce; when that is refused, or has been
done often enough, it gives the payload up and clears the nonce with transfers of nothing to itself.
Every hash under which the payload was accepted is looked up each time, since any of them may be
mined.
-/

namespace VaultKeeper

/-- How long to wait for a receipt and what to do when none shows. -/
structure EscalationPolicy where
  enabled : Bool
  /-- Checks without a receipt that are tolerated before the fee is raised. -/
  threshold : UInt32
  /-- Applied to the network's price when a fee is raised. -/
  multiplier : Float
  /-- How often the fee is raised before the payload is given up. -/
  maxEscalations : UInt32
  /-- Transfers that try to clear a nonce. -/
  dropAttempts : UInt32
  /-- Checks of the nonce after each transfer. -/
  dropWait : UInt32
  /-- Checks for a receipt while escalation is disabled. -/
  maxWait : UInt32
  /-- Milliseconds between two checks. -/
  pollInterval : Nat

/-- The default policy. -/
def EscalationPolicy.default : EscalationPolicy where
  enabled := true
  threshold := 10
  multiplier := 1.5
  maxEscalations := 5
  dropAttempts := 5
  dropWait := 10
  maxWait := 300
  pollInterval := 1000

/-- What delivers the transactions of one account. -/
structure Courier where
  account : Address
  policy : EscalationPolicy
  /-- Polling for a receipt without escalation. -/
  polling : PollPolicy

/-- Once per second, two minutes at most. -/
def Courier.defaultPolling : PollPolicy :=
  ⟨1000, some 120⟩

/-- How a courier is shown in the log. -/
def Courier.describe (courier : Courier) : String :=
  "TransactionSubmitter \x7b address: " ++ courier.account.lower ++ ", poll: "
    ++ courier.polling.describe ++ ", .. \x7d"

/-- The gas that a plain transfer uses. -/
def transferGasLimit : UInt64 := 21000

namespace Courier

open Delivery

/-- The first receipt among some hashes; a failed query counts as none. -/
def findReceipt : List Hash → Program Delivery (Option Receipt)
  | [] => pure none
  | hash :: rest => do
    match ← receipt hash with
    | .ok (some found) => pure (some found)
    | _ => findReceipt rest

/-- A receipt for any hash of a pending transaction. -/
def pollOnce (pending : Pending) : Program Delivery (Option Receipt) :=
  findReceipt pending.hashes

/-- The outcome that a receipt stands for. A failed transaction has used its nonce on chain, so the
account's nonce is read again. -/
def settle (found : Receipt) : Program Delivery (Except Failure Receipt) :=
  if found.success then pure (.ok found)
  else do
    let _ ← syncNonce
    pure (.error (.reverted found.hash found.block))

/-- The fee for a first broadcast: the caller's, or the one offered. -/
def firstFee : Option Fee → Program Delivery (Except Failure Fee)
  | some fee => pure (.ok fee)
  | none => offeredFee

/-- Broadcast a payload with a fresh nonce. If the broadcast is refused, the account's nonce is read
again. -/
def submit (receiver : Address) (data : Bytes) (fee : Option Fee) :
    Program Delivery (Except Failure Pending) := do
  match ← firstFee fee with
  | .error failure => pure (.error failure)
  | .ok fee =>
    let nonce ← reserveNonce
    match ← broadcast ⟨receiver, data, 0, nonce, fee, none⟩ with
    | .error failure =>
      let _ ← syncNonce
      pure (.error failure)
    | .ok hash =>
      let submittedAt ← now
      pure (.ok ⟨hash, nonce, receiver, data, fee, submittedAt, 0, []⟩)

/-- How many checks a polling policy allows; one without a limit allows more than any run makes. -/
def pollRounds (policy : PollPolicy) : Nat :=
  match policy.maxAttempts with
  | some limit => limit.toNat
  | none => UInt64.size

/-- Check for a receipt as often as the polling policy allows. -/
def awaitReceipt (courier : Courier) (pending : Pending) :
    Program Delivery (Except Failure Receipt) := do
  let rounds := pollRounds courier.polling
  match ← pollUntil (sleep courier.polling.interval) (pollOnce pending) rounds with
  | some found => settle found
  | none => pure (.error (.timeout "await_receipt" (courier.polling.interval * (rounds - 1))))

/-- The fee for the next attempt: raised from the last one, which also stands in for the network's
price when that cannot be read. -/
def raisedFee (policy : EscalationPolicy) (fee : Fee) (network : Except Failure Wei) : Fee :=
  match network with
  | .ok price => fee.escalate price policy.multiplier
  | .error _ => fee.escalate fee.effective policy.multiplier

/-- Ask for the network's price and raise a fee. -/
def raise (policy : EscalationPolicy) (fee : Fee) : Program Delivery Fee := do
  let network ← networkPrice
  pure (raisedFee policy fee network)

/-- Broadcast the same payload at the same nonce with a raised fee. -/
def speedUp (policy : EscalationPolicy) (pending : Pending) :
    Program Delivery (Except Failure Pending) := do
  let fee ← raise policy pending.fee
  match ← broadcast (pending.replacement fee) with
  | .ok hash => pure (.ok (pending.superseding hash fee))
  | .error failure => pure (.error failure)

/-- A transfer of nothing from the account to itself. -/
def selfTransfer (courier : Courier) (nonce : UInt64) (fee : Fee) : Transaction where
  receiver := courier.account
  data := []
  value := 0
  nonce := nonce
  fee := fee
  gasLimit := some transferGasLimit

/-- Nothing waits at the nonce any more: it is mined, or no transaction of the account is
waiting. -/
def NonceCounts.cleared (nonce : UInt64) (counts : NonceCounts) : Bool :=
  decide (nonce < counts.confirmed) || counts.pending == counts.confirmed

/-- Ask once whether a nonce is cleared; a failed query finds nothing. -/
def checkCleared (nonce : UInt64) : Program Delivery (Option Unit) := do
  match ← nonceCounts with
  | .ok counts => pure (if NonceCounts.cleared nonce counts then some () else none)
  | .error _ => pure none

/-- Checks after one transfer, at least one. -/
def clearRounds (policy : EscalationPolicy) : Nat :=
  max 1 policy.dropWait.toNat

/-- Up to `attempts` transfers at rising fees, until the nonce is cleared. -/
def clearNonce (courier : Courier) (nonce : UInt64) :
    (attempts : Nat) → Fee → Program Delivery Bool
  | 0, _ => pure false
  | attempts + 1, fee => do
    let raised ← raise courier.policy fee
    let _ ← broadcast (courier.selfTransfer nonce raised)
    match ← pollUntil (sleep courier.policy.pollInterval) (checkCleared nonce)
        (clearRounds courier.policy) with
    | some () => pure true
    | none => clearNonce courier nonce attempts raised

/-- Clear the nonce of a pending transaction. -/
def dropPending (courier : Courier) (pending : Pending) : Program Delivery Bool :=
  clearNonce courier pending.nonce courier.policy.dropAttempts.toNat pending.fee

/-- Give the payload up and clear its nonce. The payload may be mined at the last moment, so
receipts are looked for before the nonce is cleared and after. -/
def abandon (courier : Courier) (pending : Pending) (reason : String) :
    Program Delivery (Except Failure Receipt) := do
  match ← pollOnce pending with
  | some found => settle found
  | none =>
    let cleared ← dropPending courier pending
    let _ ← syncNonce
    match ← pollOnce pending with
    | some found => settle found
    | none => pure (.error (.abandoned pending.nonce reason cleared))

/-- Checks until more than `threshold` of them were in vain, `waited` of them already made. The
counter has 32 bits: from its last value the next check leads to zero. It never exceeds the largest
threshold, which allows more checks than any run makes. -/
def patience (threshold waited : UInt32) : Nat :=
  if threshold.toNat + 1 = UInt32.size then UInt64.size
  else if waited.toNat + 1 = UInt32.size then threshold.toNat + 2
  else max 1 (threshold.toNat + 1 - waited.toNat)

/-- Check for a receipt `rounds` times, then raise the fee if `left` allows it and go on. -/
def escalate (courier : Courier) :
    (left : Nat) → (rounds : Nat) → Pending → Program Delivery (Except Failure Receipt)
  | left, rounds, pending => do
    match ← pollUntil (sleep courier.policy.pollInterval) (pollOnce pending) rounds with
    | some found => settle found
    | none =>
      match left with
      | 0 => abandon courier pending s!"not mined after {courier.policy.maxEscalations} speed-ups"
      | left + 1 =>
        match ← speedUp courier.policy pending with
        | .error failure => abandon courier pending failure.message
        | .ok faster =>
          sleep courier.policy.pollInterval
          escalate courier left (patience courier.policy.threshold faster.cyclesWaited) faster

/-- Check for a receipt without raising the fee. -/
def waitOut (courier : Courier) (pending : Pending) :
    Program Delivery (Except Failure Receipt) := do
  let rounds := max 1 courier.policy.maxWait.toNat
  match ← pollUntil (sleep courier.policy.pollInterval) (pollOnce pending) rounds with
  | some found => settle found
  | none => pure (.error (.timeout "confirm" (courier.policy.pollInterval * rounds)))

/-- Stay with a pending transaction until its outcome is known. -/
def confirm (courier : Courier) (pending : Pending) : Program Delivery (Except Failure Receipt) :=
  if courier.policy.enabled then
    escalate courier courier.policy.maxEscalations.toNat
      (patience courier.policy.threshold pending.cyclesWaited) pending
  else waitOut courier pending

/-- Broadcast a payload and stay with it until its outcome is known. -/
def deliver (courier : Courier) (receiver : Address) (data : Bytes) :
    Program Delivery (Except Failure Receipt) := do
  match ← submit receiver data none with
  | .error failure => pure (.error failure)
  | .ok pending => confirm courier pending

end Courier

end VaultKeeper
