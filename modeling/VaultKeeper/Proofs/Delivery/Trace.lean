import VaultKeeper.Delivery.Courier
import VaultKeeper.Proofs.Program.Basic

/-! # What can be read off the exchanges of a delivery

A trace shows which nonces were taken, which transactions were tried, under which hashes the payload
was accepted and which receipts came back. Nothing here looks at the state of the courier.
-/

namespace VaultKeeper.Delivery

open Program

/-- The exchanges of a delivery, oldest first. -/
abbrev Trace := List (Exchange Delivery)

/-- What is to be delivered, and to whom. -/
structure Payload where
  receiver : Address
  data : Bytes
deriving DecidableEq, Repr

namespace Payload

/-- The transaction that carries a payload. -/
def transaction (payload : Payload) (nonce : UInt64) (fee : Fee) : Transaction where
  receiver := payload.receiver
  data := payload.data
  value := 0
  nonce := nonce
  fee := fee
  gasLimit := none

/-- A transaction to the receiver with the data, and with no gas limit of its own. -/
def IsIn (payload : Payload) (transaction : Transaction) : Prop :=
  transaction.receiver = payload.receiver ∧ transaction.data = payload.data ∧
    transaction.gasLimit = none

instance (payload : Payload) (transaction : Transaction) : Decidable (payload.IsIn transaction) :=
  inferInstanceAs (Decidable (_ ∧ _ ∧ _))

@[simp] theorem fee_transaction (payload : Payload) (nonce : UInt64) (fee : Fee) :
    (payload.transaction nonce fee).fee = fee := rfl

@[simp] theorem isIn_transaction (payload : Payload) (nonce : UInt64) (fee : Fee) :
    payload.IsIn (payload.transaction nonce fee) := ⟨rfl, rfl, rfl⟩

end Payload

/-- The transfer that uses up a nonce of an account: to the account itself, of no value and without
data, with the gas that a plain transfer takes as its limit. -/
def emptyTransfer (account : Address) (nonce : UInt64) (fee : Fee) : Transaction where
  receiver := account
  data := []
  value := 0
  nonce := nonce
  fee := fee
  gasLimit := some 21000

/-- A courier clears a nonce with such transfers. -/
theorem selfTransfer_eq (courier : Courier) (nonce : UInt64) (fee : Fee) :
    courier.selfTransfer nonce fee = emptyTransfer courier.account nonce fee := rfl

/-- A transfer that uses up a nonce has a limit of its own, whatever it is that was delivered. -/
@[simp] theorem Payload.not_isIn_emptyTransfer (payload : Payload) (account : Address)
    (nonce : UInt64) (fee : Fee) : ¬ payload.IsIn (emptyTransfer account nonce fee) := by
  rintro ⟨_, _, limit⟩
  cases limit

/-- The nonce that an exchange takes. -/
def reserved? : Exchange Delivery → Option UInt64
  | ⟨.reserveNonce, nonce⟩ => some nonce
  | _ => none

/-- The answer of an exchange that asks for the fee of a first broadcast. -/
def offered? : Exchange Delivery → Option (Except Failure Fee)
  | ⟨.offeredFee, answer⟩ => some answer
  | _ => none

/-- The answer of an exchange that asks the chain for the next nonce. -/
def synced? : Exchange Delivery → Option (Except Failure UInt64)
  | ⟨.syncNonce, answer⟩ => some answer
  | _ => none

/-- The transaction that an exchange tries to broadcast. -/
def attempted? : Exchange Delivery → Option Transaction
  | ⟨.broadcast transaction, _⟩ => some transaction
  | _ => none

/-- The hash whose receipt an exchange asks for. -/
def queried? : Exchange Delivery → Option Hash
  | ⟨.receipt hash, _⟩ => some hash
  | _ => none

/-- The receipt that an exchange brings; a failed query brings none. -/
def found? : Exchange Delivery → Option Receipt
  | ⟨.receipt _, .ok found⟩ => found
  | _ => none

/-- What an exchange brings that asks how far the nonces of the account are. -/
def counted? : Exchange Delivery → Option (Except Failure NonceCounts)
  | ⟨.nonceCounts, answer⟩ => some answer
  | _ => none

/-- The hash and the fee with which an exchange gets a payload accepted. -/
def accepted? (payload : Payload) : Exchange Delivery → Option (Hash × Fee)
  | ⟨.broadcast transaction, .ok hash⟩ =>
    if payload.IsIn transaction then some (hash, transaction.fee) else none
  | _ => none

/-- The nonces taken, oldest first. -/
def reservations (trace : Trace) : List UInt64 :=
  trace.filterMap reserved?

/-- What was answered about the fee of a first broadcast. -/
def offers (trace : Trace) : List (Except Failure Fee) :=
  trace.filterMap offered?

/-- What the chain answered about the next nonce, oldest first. -/
def syncs (trace : Trace) : List (Except Failure UInt64) :=
  trace.filterMap synced?

/-- The transactions tried, accepted or not, oldest first. -/
def attempts (trace : Trace) : List Transaction :=
  trace.filterMap attempted?

/-- The hashes whose receipts were asked for, oldest first. -/
def queries (trace : Trace) : List Hash :=
  trace.filterMap queried?

/-- The receipts that came back, oldest first. -/
def receipts (trace : Trace) : List Receipt :=
  trace.filterMap found?

/-- What was answered about the nonces of the account, oldest first. -/
def nonceAnswers (trace : Trace) : List (Except Failure NonceCounts) :=
  trace.filterMap counted?

/-- The hashes and fees with which a payload was accepted, newest first. -/
def acceptances (payload : Payload) (trace : Trace) : List (Hash × Fee) :=
  (trace.filterMap (accepted? payload)).reverse

/-- The hashes under which a payload was accepted, newest first. -/
def acceptedHashes (payload : Payload) (trace : Trace) : List Hash :=
  (acceptances payload trace).map Prod.fst

/-- The fee of the payload that was accepted last. -/
def latestFee (payload : Payload) (trace : Trace) : Option Fee :=
  (acceptances payload trace).head?.map Prod.snd

variable {payload : Payload} {first second : Trace}

@[simp] theorem reservations_append :
    reservations (first ++ second) = reservations first ++ reservations second :=
  List.filterMap_append

@[simp] theorem offers_append : offers (first ++ second) = offers first ++ offers second :=
  List.filterMap_append

@[simp] theorem syncs_append : syncs (first ++ second) = syncs first ++ syncs second :=
  List.filterMap_append

@[simp] theorem attempts_append :
    attempts (first ++ second) = attempts first ++ attempts second :=
  List.filterMap_append

@[simp] theorem queries_append :
    queries (first ++ second) = queries first ++ queries second :=
  List.filterMap_append

@[simp] theorem receipts_append :
    receipts (first ++ second) = receipts first ++ receipts second :=
  List.filterMap_append

@[simp] theorem nonceAnswers_append (first second : Trace) :
    nonceAnswers (first ++ second) = nonceAnswers first ++ nonceAnswers second :=
  List.filterMap_append

@[simp] theorem acceptances_append :
    acceptances payload (first ++ second) =
      acceptances payload second ++ acceptances payload first := by
  simp [acceptances]

/-- What does not occur in a list is found behind it. -/
theorem split_of_notMem {first second before after : Trace} {exchange : Exchange Delivery}
    (absent : exchange ∉ first) (same : first ++ second = before ++ exchange :: after) :
    ∃ more, before = first ++ more ∧ second = more ++ exchange :: after := by
  rcases List.append_eq_append_iff.mp same with ⟨more, rfl, rest⟩ | ⟨more, rfl, rest⟩
  · exact ⟨more, rfl, rest⟩
  · cases more with
    | nil => exact ⟨[], by simp, by simpa using rest.symm⟩
    | cons head more =>
      obtain ⟨rfl, -⟩ := List.cons.inj rest
      simp at absent

/-- What shows in attempts only does not show where nothing is tried. -/
theorem filterMap_of_attempts {β : Type} {read : Exchange Delivery → Option β}
    (shows : ∀ exchange, attempted? exchange = none → read exchange = none)
    (quiet : attempts first = []) : first.filterMap read = [] := by
  apply List.filterMap_eq_nil_iff.mpr
  intro exchange member
  exact shows exchange (List.filterMap_eq_nil_iff.mp quiet exchange member)

theorem acceptances_of_attempts (quiet : attempts first = []) : acceptances payload first = [] := by
  refine List.reverse_eq_nil_iff.mpr (filterMap_of_attempts ?_ quiet)
  rintro ⟨call, answer⟩ untried
  cases call with
  | broadcast => cases untried
  | _ => rfl

/-- No receipts come unasked. -/
theorem receipts_of_queries (unasked : queries first = []) : receipts first = [] := by
  apply List.filterMap_eq_nil_iff.mpr
  rintro ⟨call, answer⟩ member
  have quiet := List.filterMap_eq_nil_iff.mp unasked _ member
  cases call with
  | receipt hash => cases quiet
  | _ => rfl

/-- A look for a receipt: some hashes are asked for in their order until one of them has a receipt,
and that receipt is what the look finds. -/
inductive Look : List Hash → Trace → Option Receipt → Prop
  | nil : Look [] [] none
  | hit (hash : Hash) (rest : List Hash) (receipt : Receipt) :
      Look (hash :: rest) [⟨.receipt hash, .ok (some receipt)⟩] (some receipt)
  | miss {hash : Hash} {rest : List Hash} {answer : Except Failure (Option Receipt)}
      {trace : Trace} {found : Option Receipt} (nothing : found? ⟨.receipt hash, answer⟩ = none)
      (later : Look rest trace found) :
      Look (hash :: rest) (⟨.receipt hash, answer⟩ :: trace) found

theorem look_of_runs {hashes : List Hash} {trace : Trace} {found : Option Receipt}
    (run : Runs (Courier.findReceipt hashes) trace found) : Look hashes trace found := by
  induction hashes generalizing trace with
  | nil =>
    obtain ⟨rfl, rfl⟩ := runs_done_iff.mp run
    exact .nil
  | cons hash rest ih =>
    obtain ⟨answer, later, rfl, continued⟩ := runs_ask_bind_iff.mp run
    match answer, continued with
    | .ok (some receipt), continued =>
      obtain ⟨rfl, rfl⟩ := runs_done_iff.mp continued
      exact .hit hash rest receipt
    | .ok none, continued => exact .miss rfl (ih continued)
    | .error _, continued => exact .miss rfl (ih continued)

namespace Look

variable {hashes : List Hash} {trace : Trace} {found : Option Receipt}

/-- The receipts of a look are the one that it finds, or none. -/
theorem receipts (look : Look hashes trace found) : receipts trace = found.toList := by
  induction look with
  | nil => rfl
  | hit => rfl
  | miss nothing _ ih =>
    rw [Delivery.receipts, List.filterMap_cons_none nothing]
    exact ih

/-- A look asks for its hashes from the first on. -/
theorem queries_prefix (look : Look hashes trace found) : queries trace <+: hashes := by
  induction look with
  | nil => exact List.nil_prefix
  | hit hash rest => exact ⟨rest, rfl⟩
  | @miss hash _ _ _ _ _ _ ih => exact (List.cons_prefix_cons).mpr ⟨rfl, ih⟩

/-- A look asks for receipts only. -/
theorem asks (look : Look hashes trace found) :
    ∀ exchange ∈ trace, ∃ hash, exchange.call = .receipt hash := by
  induction look with
  | nil => simp
  | hit hash => simp
  | @miss hash _ _ _ _ _ _ ih =>
    intro exchange member
    rcases List.mem_cons.mp member with rfl | member
    · exact ⟨hash, rfl⟩
    · exact ih exchange member

theorem filterMap_eq_nil {β : Type} {read : Exchange Delivery → Option β}
    (look : Look hashes trace found)
    (ignores : ∀ hash answer, read ⟨.receipt hash, answer⟩ = none) :
    trace.filterMap read = [] := by
  apply List.filterMap_eq_nil_iff.mpr
  rintro ⟨call, answer⟩ member
  obtain ⟨hash, rfl⟩ := look.asks _ member
  exact ignores hash answer

theorem attempts (look : Look hashes trace found) : attempts trace = [] :=
  look.filterMap_eq_nil fun _ _ => rfl

theorem nonceAnswers (look : Look hashes trace found) : nonceAnswers trace = [] :=
  look.filterMap_eq_nil fun _ _ => rfl

theorem acceptances (look : Look hashes trace found) (payload : Payload) :
    acceptances payload trace = [] := by
  rw [Delivery.acceptances, look.filterMap_eq_nil fun _ _ => rfl]
  rfl

end Look

/-- Calls that neither take a nonce nor try a transaction. -/
def Call.Reads : Call → Prop
  | .reserveNonce | .broadcast _ => False
  | _ => True

theorem attempts_of_reads {trace : Trace} (reads : ∀ exchange ∈ trace, exchange.call.Reads) :
    attempts trace = [] := by
  apply List.filterMap_eq_nil_iff.mpr
  rintro ⟨call, answer⟩ member
  have read := reads _ member
  cases call with
  | broadcast => exact read.elim
  | _ => rfl

theorem reservations_of_reads {trace : Trace} (reads : ∀ exchange ∈ trace, exchange.call.Reads) :
    reservations trace = [] := by
  apply List.filterMap_eq_nil_iff.mpr
  rintro ⟨call, answer⟩ member
  have read := reads _ member
  cases call with
  | reserveNonce => exact read.elim
  | _ => rfl

theorem calls_sleep (span : Nat) : Calls Call.Reads (sleep span) :=
  .ask trivial

theorem calls_findReceipt (hashes : List Hash) : Calls Call.Reads (Courier.findReceipt hashes) := by
  intro trace found run exchange member
  obtain ⟨hash, same⟩ := (look_of_runs run).asks exchange member
  rw [same]
  trivial

theorem calls_checkCleared (nonce : UInt64) : Calls Call.Reads (Courier.checkCleared nonce) := by
  refine .bind (.ask trivial) fun counts => ?_
  cases counts <;> exact .done _

theorem calls_polls (interval : Nat) (pending : Pending) (rounds : Nat) :
    Calls Call.Reads (pollUntil (sleep interval) (Courier.pollOnce pending) rounds) :=
  .pollUntil (calls_sleep interval) (calls_findReceipt pending.hashes) rounds

theorem calls_checks (interval : Nat) (nonce : UInt64) (rounds : Nat) :
    Calls Call.Reads (pollUntil (sleep interval) (Courier.checkCleared nonce) rounds) :=
  .pollUntil (calls_sleep interval) (calls_checkCleared nonce) rounds

end VaultKeeper.Delivery
