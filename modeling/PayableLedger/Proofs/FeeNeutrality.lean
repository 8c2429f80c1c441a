import PayableLedger.Proofs.Conservation
import PayableLedger.Proofs.Execution

set_option autoImplicit false

namespace PayableLedger

def Attribute.isDivision (shown : Attribute) : Bool :=
  shown.key == "payable_fee_amount" || shown.key == "payable_net_amount"

namespace Response

/-- What a response tells, but for how a payment was divided. -/
def undivided (response : Response) : List Attribute :=
  response.attributes.filter fun shown => !shown.isDivision

/-- Two responses tell the same and send the same amount, each to the payee and to its own
collector. The amount may be divided between them in different ways. -/
structure DividesAlike (payable : Payable) (collector otherCollector : Option String)
    (response other : Response) : Prop where
  tells : response.undivided = other.undivided
  units : (response.messages.map Message.units).sum = (other.messages.map Message.units).sum
  passes : ∀ message ∈ response.messages, message.Passes payable collector
  otherPasses : ∀ message ∈ other.messages, message.Passes payable otherCollector

end Response

namespace Payment

variable {request : Payment} {records other : Records} {call : Call}
  {config otherConfig : Configuration}

theorem undivided_settle (payable : Payable) (amount : Amount) (division otherDivision : FeeSplit)
    (payer : String) :
    (settle payable amount division payer).2.undivided =
      (settle payable amount otherDivision payer).2.undivided := by
  simp [settle, Response.undivided, attributes_eq, Attribute.isDivision]

theorem dividesAlike_settle {payable : Payable} {amount : Amount}
    {division otherDivision : FeeSplit} (divided : config.splitFee amount = .ok division)
    (otherDivided : otherConfig.splitFee amount = .ok otherDivision) (payer : String) :
    Response.DividesAlike (afterPayment payable amount) config.feeCollector
      otherConfig.feeCollector (settle payable amount division payer).2
      (settle payable amount otherDivision payer).2 where
  tells := undivided_settle payable amount division otherDivision payer
  units := (units_messages divided).trans (units_messages otherDivided).symm
  passes := passes_messages divided
  otherPasses := passes_messages otherDivided

theorem assess_congr (same : records.payable request.uuid = other.payable request.uuid) :
    request.assess records call = request.assess other call := by
  rw [assess, assess, same]

end Payment

/-- Two verdicts about one payable: both fail for the same reason, or both write the same payable
and differ in the division of what was paid, if anything was. -/
inductive SettlesAlike (uuid : String) (collector otherCollector : Option String) :
    Except Failure (List Change × Response) → Except Failure (List Change × Response) → Prop
  | failed (failure : Failure) :
      SettlesAlike uuid collector otherCollector (.error failure) (.error failure)
  | settled {payable : Payable} {response other : Response} (own : payable.uuid = uuid)
      (divides : response.DividesAlike payable collector otherCollector other) :
      SettlesAlike uuid collector otherCollector (.ok ([.payable payable], response))
        (.ok ([.payable payable], other))

section Settlements

variable {records other : Records} {call : Call} {config otherConfig : Configuration}

theorem Approval.settlesAlike {request : Approval} (collector otherCollector : Option String)
    (same : records.payable request.uuid = other.payable request.uuid)
    (own : ∀ payable, records.payable request.uuid = .ok payable → payable.uuid = request.uuid) :
    SettlesAlike request.uuid collector otherCollector (request.decide records call)
      (request.decide other call) := by
  have decidesAlike : request.decide records call = request.decide other call := by
    rw [decide, decide, same]
  rw [← decidesAlike]
  cases decided : request.decide records call with
  | error failure => exact .failed failure
  | ok result =>
    obtain ⟨changes, response⟩ := result
    obtain ⟨_, payable, found, approved, approves, rfl, rfl⟩ := decide_eq_ok_iff.1 decided
    obtain ⟨_, _, rfl⟩ := approve_eq_ok_iff.1 approves
    exact .settled (own payable found) ⟨rfl, rfl, by simp, by simp⟩

/-- A payment is assessed on the payable alone. Sound settings divide whatever the amount is. -/
theorem Payment.settlesAlike {request : Payment} (configured : records.configuration = .ok config)
    (otherConfigured : other.configuration = .ok otherConfig) (sound : config.Sound)
    (otherSound : otherConfig.Sound)
    (same : records.payable request.uuid = other.payable request.uuid)
    (own : ∀ payable, records.payable request.uuid = .ok payable → payable.uuid = request.uuid) :
    SettlesAlike request.uuid config.feeCollector otherConfig.feeCollector
      (request.decide records call) (request.decide other call) := by
  cases assessed : request.assess records call with
  | error cause =>
    have otherAssessed := assess_congr same ▸ assessed
    rw [decide_of_refused configured assessed, decide_of_refused otherConfigured otherAssessed]
    exact .failed (.refused cause)
  | ok result =>
    obtain ⟨payable, amount⟩ := result
    have otherAssessed := assess_congr same ▸ assessed
    obtain ⟨division, divided⟩ := sound.splitFee amount
    obtain ⟨otherDivision, otherDivided⟩ := otherSound.splitFee amount
    rw [decide_of_assessed configured assessed divided,
      decide_of_assessed otherConfigured otherAssessed otherDivided]
    exact .settled (own payable (assess_eq_ok_iff.1 assessed).1)
      (dividesAlike_settle divided otherDivided call.sender)

theorem Execution.settlesAlike {request : Execution}
    (settles : ∀ registration, request ≠ .register registration)
    (configured : records.configuration = .ok config)
    (otherConfigured : other.configuration = .ok otherConfig) (sound : config.Sound)
    (otherSound : otherConfig.Sound)
    (same : records.payable request.uuid = other.payable request.uuid)
    (own : ∀ payable, records.payable request.uuid = .ok payable → payable.uuid = request.uuid)
    (scopes otherScopes : ScopeTable) (call : Call) :
    SettlesAlike request.uuid config.feeCollector otherConfig.feeCollector
      (request.verdict records scopes call) (request.verdict other otherScopes call) := by
  cases validated : request.validate with
  | error cause =>
    rw [verdict_of_invalid validated, verdict_of_invalid validated]
    exact .failed (.refused cause)
  | ok =>
    rw [verdict_of_valid validated, verdict_of_valid validated]
    cases request with
    | register registration => exact absurd rfl (settles registration)
    | approve approval => exact approval.settlesAlike _ _ same own
    | pay payment =>
      exact payment.settlesAlike configured otherConfigured sound otherSound same own

end Settlements

/-- Two runs may leave the same payables under settings that differ in any way. Then an approval or
a payment, made by the same sender with the same coins, fails on both for the same reason, or it
succeeds on both, writes the same payable, tells the same but for fee and net amount, and sends the
same amount in all, to the payee and the collector of each. The payables are the same again. -/
theorem fees_leave_debts_alone (entries others : List Entry) {config otherConfig : Configuration}
    (configured : (Ledger.after entries).records.configuration = .ok config)
    (otherConfigured : (Ledger.after others).records.configuration = .ok otherConfig)
    (agree : ∀ uuid, (Ledger.after entries).records.payable? uuid =
      (Ledger.after others).records.payable? uuid)
    (scopes otherScopes : ScopeTable) (call : Call) {request : Execution}
    (settles : ∀ registration, request ≠ .register registration) :
    let one := Ledger.execute (Ledger.after entries) scopes call request
    let other := Ledger.execute (Ledger.after others) otherScopes call request
    (∀ uuid, one.store.records.payable? uuid = other.store.records.payable? uuid) ∧
      ((∃ failure, one.answer = .error failure ∧ other.answer = .error failure) ∨
        ∃ payable response otherResponse,
          one.answer = .ok response ∧ other.answer = .ok otherResponse ∧
          one.store.records.payable request.uuid = .ok payable ∧
          other.store.records.payable request.uuid = .ok payable ∧
          response.DividesAlike payable config.feeCollector otherConfig.feeCollector
            otherResponse) := by
  intro one other
  have same : (Ledger.after entries).records.payable request.uuid =
      (Ledger.after others).records.payable request.uuid := by
    rw [Records.payable, Records.payable, agree]
  -- Both verdicts are about the same payable, and differ in the division at most.
  have alike := Execution.settlesAlike settles configured otherConfigured
    (Ledger.sound_of_configured configured) (Ledger.sound_of_configured otherConfigured) same
    (Ledger.keyed_after entries request.uuid) scopes otherScopes call
  generalize decided : request.verdict (Ledger.after entries).records scopes call = verdict,
    otherDecided : request.verdict (Ledger.after others).records otherScopes call = otherVerdict
    at alike
  cases alike with
  | failed failure =>
    simp only [one, other, Ledger.execute_of_error decided, Ledger.execute_of_error otherDecided]
    exact ⟨agree, .inl ⟨failure, rfl, rfl⟩⟩
  | @settled payable response otherResponse own divides =>
    simp only [one, other, Ledger.execute_of_ok decided, Ledger.execute_of_ok otherDecided]
    refine ⟨?_, .inr ⟨payable, response, otherResponse, rfl, rfl, ?_, ?_, divides⟩⟩
    · intro uuid
      exact (Store.payable?_apply_payable _ payable uuid).trans
        (agree uuid ▸ (Store.payable?_apply_payable _ payable uuid).symm)
    · exact own ▸ Store.payable_apply_payable
    · exact own ▸ Store.payable_apply_payable

/-- The beginning of `partialRun`, but without a fee. -/
def freeRun : List Entry :=
  .instantiate "contract" ⟨"admin", []⟩ ⟨"registry", none, none, none, none, some true⟩ ::
    (partialRun.take 3).drop 1

def partialPayer : Call := ⟨"payer", [⟨"usd", partlyPaid.remaining⟩]⟩

/-- A payment on the payable of `partialRun`, with its fee and without any. -/
theorem fees_leave_debts_alone_partialRun :
    ∃ payable response other,
      (Ledger.execute (Ledger.after (partialRun.take 3)) [] partialPayer (.pay ⟨"p"⟩)).answer =
          .ok response ∧
        (Ledger.execute (Ledger.after freeRun) [] partialPayer (.pay ⟨"p"⟩)).answer =
          .ok other ∧
        response.messages.length = 2 ∧ other.messages.length = 1 ∧
        response.DividesAlike payable (some "collector") none other := by
  have settles (registration : Registration) : Execution.pay ⟨"p"⟩ ≠ .register registration :=
    nofun
  have configured : ∃ config,
      (Ledger.after (partialRun.take 3)).records.configuration = .ok config ∧
        config.feeCollector = some "collector" :=
    ⟨_, Ledger.configuration_eq_ok_iff.2 rfl, rfl⟩
  have otherConfigured : ∃ config, (Ledger.after freeRun).records.configuration = .ok config ∧
      config.feeCollector = none :=
    ⟨_, Ledger.configuration_eq_ok_iff.2 rfl, rfl⟩
  obtain ⟨config, configured, collector⟩ := configured
  obtain ⟨otherConfig, otherConfigured, otherCollector⟩ := otherConfigured
  have agree (uuid : String) : (Ledger.after (partialRun.take 3)).records.payable? uuid =
      (Ledger.after freeRun).records.payable? uuid := by
    rw [(Ledger.holds_after _).records, (Ledger.holds_after _).records]
    rfl
  have answered : ∃ response,
      (Ledger.execute (Ledger.after (partialRun.take 3)) [] partialPayer (.pay ⟨"p"⟩)).answer =
        .ok response ∧ response.messages.length = 2 := by
    rw [Ledger.answer_execute, (Ledger.holds_after _).records]
    exact ⟨_, rfl, rfl⟩
  have otherAnswered : ∃ response,
      (Ledger.execute (Ledger.after freeRun) [] partialPayer (.pay ⟨"p"⟩)).answer =
        .ok response ∧ response.messages.length = 1 := by
    rw [Ledger.answer_execute, (Ledger.holds_after _).records]
    exact ⟨_, rfl, rfl⟩
  obtain ⟨response, answered, two⟩ := answered
  obtain ⟨other, otherAnswered, one⟩ := otherAnswered
  obtain ⟨_, ⟨_, failed, _⟩ | ⟨payable, _, _, ok, otherOk, _, _, divides⟩⟩ :=
    fees_leave_debts_alone _ _ configured otherConfigured agree [] [] partialPayer settles
  · rw [answered] at failed
    cases failed
  · rw [answered, Except.ok.injEq] at ok
    rw [otherAnswered, Except.ok.injEq] at otherOk
    rw [← ok, ← otherOk, collector, otherCollector] at divides
    exact ⟨payable, response, other, answered, otherAnswered, two, one, divides⟩

end PayableLedger
