import PayableLedger.Proofs.Run
import PayableLedger.Proofs.Success

set_option autoImplicit false

namespace PayableLedger

/-- The effects that a call can have on the records that it sees. -/
inductive Entry.Yields (records : Records) : Entry → Effect → Prop
  | refused (entry : Entry) (failure : Failure) : Yields records entry ⟨[], .error failure⟩
  /-- The settings stay although the name is not bound. -/
  | unbound {address : String} {call : Call} {request : Instantiation} {config : Configuration}
      {cause : Error} (valid : request.validate = .ok ()) (free : call.funds = [])
      (settings : request.configuration = .ok config)
      (unbound : Instantiation.bindName request.name address = .error cause) :
      Yields records (.instantiate address call request)
        ⟨[.configuration config], .error (.refused cause)⟩
  | instantiated {address : String} {call : Call} {request : Instantiation}
      {config : Configuration} {bound : Message} (valid : request.validate = .ok ())
      (free : call.funds = []) (settings : request.configuration = .ok config)
      (binds : Instantiation.bindName request.name address = .ok bound) :
      Yields records (.instantiate address call request)
        ⟨[.configuration config, .stamp .running],
          .ok (.response (Instantiation.response bound))⟩
  | registered {scopes : ScopeTable} {call : Call} {registration : Registration}
      {fee : Option OnboardingFee}
      (valid : (Execution.register registration).validate = .ok ())
      (accepted : registration.accept records scopes call = .ok fee) :
      Yields records (.execute scopes call (.register registration))
        ⟨[.payable (registration.toPayable call.sender),
            .indexed registration.scopeId registration.uuid],
          .ok (.response (registration.response fee))⟩
  | approved {scopes : ScopeTable} {call : Call} {approval : Approval} {payable : Payable}
      (valid : (Execution.approve approval).validate = .ok ()) (free : call.funds = [])
      (found : records.payable approval.uuid = .ok payable)
      (oracle : call.sender = payable.oracle) (pending : payable.status = .pending) :
      Yields records (.execute scopes call (.approve approval))
        ⟨[.payable { payable with status := .approved }],
          .ok (.response ⟨[], Approval.attributes { payable with status := .approved }⟩)⟩
  | paid {scopes : ScopeTable} {call : Call} {payment : Payment} {config : Configuration}
      {payable : Payable} {amount : Amount} {division : FeeSplit}
      (valid : (Execution.pay payment).validate = .ok ())
      (configured : records.configuration = .ok config)
      (found : records.payable payment.uuid = .ok payable)
      (counted : Payment.amountOf payable call.funds = .ok amount)
      (divided : config.splitFee amount = .ok division) :
      Yields records (.execute scopes call (.pay payment))
        ⟨[.payable (Payment.afterPayment payable amount)],
          .ok (.response ⟨Payment.messages (Payment.afterPayment payable amount) division,
            Payment.attributes (Payment.afterPayment payable amount) amount division
              call.sender⟩)⟩
  | migrated {request : Migration} {stamp : Stamp} {change : Overlay} {config : Configuration}
      (valid : request.validate = .ok ()) (stamped : records.stamp = .ok stamp)
      (checked : stamp.checkMigration = .ok ()) (changes : request.toOverlay = .ok change)
      (configured : records.configuration = .ok config)
      (paired : Migration.checkPaired (config.overlay change) = .ok ()) :
      Yields records (.migrate request)
        ⟨[.configuration (config.overlay change), .stamp .running],
          .ok (.response (Migration.response .running change))⟩
  | answered {request : Query} {json : String} (valid : request.validate = .ok ())
      (answered : request.answer records = .ok json) :
      Yields records (.query request) ⟨[], .ok (.text json)⟩

namespace Entry

variable {records : Records}

theorem yields_instantiate (address : String) (call : Call) {request : Instantiation}
    (valid : request.validate = .ok ()) :
    Yields records (.instantiate address call request)
      (.ofOutcome (request.carryOut address call)) := by
  unfold Instantiation.carryOut
  split
  · exact .refused _ _
  · next free =>
    rw [Bool.not_eq_true', Bool.not_eq_false, List.isEmpty_iff] at free
    split
    · exact .refused _ _
    · next config settings =>
      split
      · next cause unbound => exact .unbound valid free settings unbound
      · next bound binds => exact .instantiated valid free settings binds

theorem yields_execute (scopes : ScopeTable) (call : Call) {request : Execution}
    (valid : request.validate = .ok ()) :
    Yields records (.execute scopes call request)
      (.ofOutcome (request.outcome records scopes call)) := by
  cases request with
  | register registration =>
    simp only [Execution.outcome, Registration.carryOut]
    cases decided : registration.decide records scopes call with
    | error failure => exact .refused _ _
    | ok result =>
      obtain ⟨fee, accepted, changes, response⟩ := Registration.decide_eq_ok_iff.1 decided
      simp only [Outcome.atomic, changes, response]
      exact .registered valid accepted
  | approve approval =>
    simp only [Execution.outcome, Approval.carryOut]
    cases decided : approval.decide records call with
    | error failure => exact .refused _ _
    | ok result =>
      obtain ⟨free, payable, found, approved, approves, changes, response⟩ :=
        Approval.decide_eq_ok_iff.1 decided
      obtain ⟨oracle, pending, rfl⟩ := Approval.approve_eq_ok_iff.1 approves
      simp only [Outcome.atomic, changes, response]
      exact .approved valid free found oracle pending
  | pay payment =>
    simp only [Execution.outcome, Payment.carryOut]
    cases decided : payment.decide records call with
    | error failure => exact .refused _ _
    | ok result =>
      obtain ⟨config, configured, payable, found, amount, counted, division, divided, changes,
        response⟩ := Payment.decide_eq_ok_iff.1 decided
      simp only [Outcome.atomic, changes, response]
      exact .paid valid configured found counted divided

theorem yields_migrate {request : Migration} (valid : request.validate = .ok ()) :
    Yields records (.migrate request) (.ofOutcome (request.carryOut records)) := by
  unfold Migration.carryOut
  cases decided : request.decide records with
  | error failure => exact .refused _ _
  | ok result =>
    obtain ⟨stamp, stamped, checked, change, overlay, config, configured, paired, changes,
      response⟩ := Migration.decide_eq_ok_iff.1 decided
    simp only [Outcome.atomic, changes, response]
    exact .migrated valid stamped checked overlay configured paired

theorem yields_query {request : Query} (valid : request.validate = .ok ()) :
    Yields records (.query request) (.ofAnswer (request.answer records)) := by
  cases answered : request.answer records with
  | error cause => exact .refused _ _
  | ok json => exact .answered valid answered

/-- Every call has one of the effects, whatever the records are. -/
theorem yields_effect (records : Records) (entry : Entry) :
    Yields records entry (entry.effect records) := by
  cases entry with
  | instantiate address call request =>
    simp only [effect, Effect.whenValid]
    split
    · exact .refused _ _
    · next valid => exact yields_instantiate address call valid
  | execute scopes call request =>
    simp only [effect, Effect.whenValid]
    split
    · exact .refused _ _
    · next valid => exact yields_execute scopes call valid
  | migrate request =>
    simp only [effect, Effect.whenValid]
    split
    · exact .refused _ _
    · next valid => exact yields_migrate valid
  | query request =>
    simp only [effect, Effect.whenValid]
    split
    · exact .refused _ _
    · next valid => exact yields_query valid

end Entry

end PayableLedger
