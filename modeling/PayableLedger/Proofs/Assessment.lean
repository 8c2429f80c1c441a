import PayableLedger.Proofs.Instalments

set_option autoImplicit false

namespace PayableLedger

open Json (encode)

theorem Records.payable_of_stored {records : Records} {uuid : String} {payable : Payable}
    (reads : records.payable? uuid = .ok (some payable)) :
    records.payable uuid = .ok payable := by
  rw [Records.payable, reads]
  rfl

namespace Payment

/-- The payments that a payable takes. The coins are added as natural numbers. -/
structure Legal (payable : Payable) (funds : List Coin) : Prop where
  begun : payable.status = .approved ∨ payable.status = .partiallyPaid
  single : ∀ coin ∈ funds, coin.denom = payable.denom
  positive : 0 < unitsOf funds
  within : unitsOf funds ≤ payable.remaining.units

/-- The rules of a payment in their order, each broken while those before it are kept, with the
error that says so. Coins too large to be added are those before which the sum is an amount still,
and with which it is none any more. -/
inductive Breaks (uuid : String) (funds : List Coin) : Option Payable → Error → Prop
  | unknown : Breaks uuid funds none (.payableNotFound uuid)
  | alreadyPaid {payable : Payable} (paid : payable.status = .paid) :
      Breaks uuid funds (some payable) (.alreadyPaid uuid)
  | notApproved {payable : Payable}
      (early : payable.status = .pending ∨ payable.status = .rejected) :
      Breaks uuid funds (some payable) (.notApproved uuid payable.status)
  | foreign {payable : Payable}
      (begun : payable.status = .approved ∨ payable.status = .partiallyPaid) {coin : Coin}
      (member : coin ∈ funds) (other : coin.denom ≠ payable.denom) :
      Breaks uuid funds (some payable) (.foreignDenoms payable.denom
        ((funds.filter fun coin => coin.denom != payable.denom).map Coin.denom))
  | tooLarge {payable : Payable}
      (begun : payable.status = .approved ∨ payable.status = .partiallyPaid)
      (single : ∀ coin ∈ funds, coin.denom = payable.denom) {earlier later : List Coin}
      {coin : Coin} {sum : Amount} (split : funds = earlier ++ coin :: later)
      (added : sum.units = unitsOf earlier)
      (leaves : Amount.bound ≤ sum.units + coin.amount.units) :
      Breaks uuid funds (some payable) (.sumTooLarge sum coin.amount)
  | worthless {payable : Payable}
      (begun : payable.status = .approved ∨ payable.status = .partiallyPaid)
      (single : ∀ coin ∈ funds, coin.denom = payable.denom) (nothing : unitsOf funds = 0) :
      Breaks uuid funds (some payable) (.zeroPayment uuid)
  | tooMuch {payable : Payable}
      (begun : payable.status = .approved ∨ payable.status = .partiallyPaid)
      (single : ∀ coin ∈ funds, coin.denom = payable.denom) {sum : Amount}
      (added : sum.units = unitsOf funds) (more : payable.remaining.units < sum.units) :
      Breaks uuid funds (some payable) (.overpayment payable.remaining sum)

variable {uuid : String} {payable : Payable} {funds : List Coin} {cause : Error}

theorem addCoins_append (sum : Amount) (earlier later : List Coin) :
    addCoins sum (earlier ++ later) = (do addCoins (← addCoins sum earlier) later) := by
  induction earlier generalizing sum with
  | nil => rfl
  | cons first others ih =>
    rw [List.cons_append, addCoins, addCoins]
    cases sum.add? first.amount with
    | none => rfl
    | some next => exact ih next

/-- The first coin with which the sum is too large decides, whatever comes behind it. -/
theorem addCoins_of_split {sum total : Amount} {earlier later : List Coin} {coin : Coin}
    (added : total.units = sum.units + unitsOf earlier)
    (leaves : Amount.bound ≤ total.units + coin.amount.units) :
    addCoins sum (earlier ++ coin :: later) = .error (.sumTooLarge total coin.amount) := by
  rw [addCoins_append, addCoins_eq_ok_iff.2 added]
  change addCoins total (coin :: later) = _
  rw [addCoins, Amount.add?_eq_none_iff.2 leaves]

theorem exists_split (sum : Amount) {funds : List Coin}
    (leaves : Amount.bound ≤ sum.units + unitsOf funds) :
    ∃ earlier coin later, ∃ total : Amount, funds = earlier ++ coin :: later ∧
      total.units = sum.units + unitsOf earlier ∧
      Amount.bound ≤ total.units + coin.amount.units := by
  induction funds generalizing sum with
  | nil => exact absurd sum.units_lt (Nat.not_lt.2 leaves)
  | cons first others ih =>
    rw [unitsOf_cons] at leaves
    by_cases fits : sum.units + first.amount.units < Amount.bound
    · obtain ⟨earlier, coin, later, total, rfl, added, more⟩ :=
        ih ⟨_, fits⟩ (by simp only; omega)
      refine ⟨first :: earlier, coin, later, total, rfl, ?_, more⟩
      rw [unitsOf_cons, added, Nat.add_assoc]
    · exact ⟨[], first, others, sum, rfl, rfl, Nat.not_lt.1 fits⟩

theorem Breaks.not_legal (breaks : Breaks uuid funds (some payable) cause) :
    ¬ Legal payable funds := by
  intro legal
  have begun := legal.begun
  cases breaks with
  | alreadyPaid paid => simp [paid] at begun
  | notApproved early => rcases early with early | early <;> simp [early] at begun
  | foreign _ member other => exact other (legal.single _ member)
  | @tooLarge _ _ _ earlier later coin sum split added leaves =>
    have within := legal.within
    have inRange := payable.remaining.units_lt
    rw [split, unitsOf_append, unitsOf_cons] at within
    omega
  | worthless _ _ nothing => exact absurd nothing (Nat.ne_of_gt legal.positive)
  | tooMuch _ _ added more => exact absurd legal.within (Nat.not_le.2 (added ▸ more))

/-- The rules leave no gap: what breaks none of them is legal. -/
theorem legal_or_breaks (uuid : String) (payable : Payable) (funds : List Coin) :
    Legal payable funds ∨ ∃ cause, Breaks uuid funds (some payable) cause := by
  -- In the order of the rules; the sum is not known to be an amount before the third.
  by_cases begun : payable.status = .approved ∨ payable.status = .partiallyPaid
  case neg =>
    right
    cases status : payable.status with
    | approved => exact absurd (.inl status) begun
    | partiallyPaid => exact absurd (.inr status) begun
    | paid => exact ⟨_, .alreadyPaid status⟩
    | pending => exact ⟨_, .notApproved (.inl status)⟩
    | rejected => exact ⟨_, .notApproved (.inr status)⟩
  by_cases single : ∀ coin ∈ funds, coin.denom = payable.denom
  case neg =>
    simp only [not_forall] at single
    obtain ⟨coin, member, other⟩ := single
    exact .inr ⟨_, .foreign begun member other⟩
  by_cases fits : unitsOf funds < Amount.bound
  case neg =>
    obtain ⟨earlier, coin, later, sum, split, added, leaves⟩ :=
      exists_split .zero (by simpa using fits)
    rw [Amount.units_zero, Nat.zero_add] at added
    exact .inr ⟨_, .tooLarge begun single split added leaves⟩
  by_cases positive : 0 < unitsOf funds
  case neg => exact .inr ⟨_, .worthless begun single (Nat.eq_zero_of_not_pos positive)⟩
  by_cases within : unitsOf funds ≤ payable.remaining.units
  case neg =>
    have added : (⟨unitsOf funds, fits⟩ : Amount).units = unitsOf funds := rfl
    exact .inr ⟨_, .tooMuch begun single added (Nat.not_le.1 within)⟩
  exact .inl ⟨begun, single, positive, within⟩

theorem Legal.amountOf {amount : Amount} (legal : Legal payable funds)
    (units : amount.units = unitsOf funds) : amountOf payable funds = .ok amount :=
  amountOf_eq_ok_iff.2 ⟨legal.begun, legal.single, units,
    units ▸ Nat.ne_of_gt legal.positive, units ▸ legal.within⟩

theorem amountOf_of_single
    (begun : payable.status = .approved ∨ payable.status = .partiallyPaid)
    (single : ∀ coin ∈ funds, coin.denom = payable.denom) :
    amountOf payable funds = (do
      let sum ← addCoins .zero funds
      if sum.isZero then .error (.zeroPayment payable.uuid)
      else if payable.remaining.units < sum.units then
        .error (.overpayment payable.remaining sum)
      else .ok sum) := by
  rw [amountOf, checkStatus_eq_ok_iff.2 begun, foreignDenoms_eq_nil_iff.2 single]
  rfl

theorem amountOf_of_breaks (own : payable.uuid = uuid)
    (breaks : Breaks uuid funds (some payable) cause) : amountOf payable funds = .error cause := by
  subst own
  cases breaks with
  | alreadyPaid paid =>
    rw [amountOf, checkStatus, paid]
    rfl
  | notApproved early =>
    rcases early with early | early
    · rw [amountOf, checkStatus, early]
      rfl
    · rw [amountOf, checkStatus, early]
      rfl
  | foreign begun member other =>
    have anyForeign : (foreignDenoms payable.denom funds).isEmpty = false := by
      rw [List.isEmpty_eq_false_iff, ne_eq, foreignDenoms_eq_nil_iff]
      exact fun single => other (single _ member)
    have listed : foreignDenoms payable.denom funds =
        (funds.filter fun coin => coin.denom != payable.denom).map Coin.denom := List.filter_map
    rw [amountOf, checkStatus_eq_ok_iff.2 begun, ← listed]
    simp only [anyForeign, Bool.not_false, if_true]
    rfl
  | @tooLarge _ begun single earlier later coin sum split added leaves =>
    -- The coins behind the one that is too much are never looked at.
    have failed : addCoins .zero (earlier ++ coin :: later) =
        .error (.sumTooLarge sum coin.amount) :=
      addCoins_of_split (by simpa using added) leaves
    rw [amountOf_of_single begun single, split, failed]
    rfl
  | worthless begun single nothing =>
    have counted : addCoins .zero funds = .ok .zero :=
      addCoins_eq_ok_iff.2 (by simpa using nothing.symm)
    rw [amountOf_of_single begun single, counted]
    rfl
  | @tooMuch _ begun single sum added more =>
    have counted : addCoins .zero funds = .ok sum :=
      addCoins_eq_ok_iff.2 (by simpa using added)
    have worth : sum.isZero = false := by
      rw [← Bool.not_eq_true, Amount.isZero_iff]
      omega
    rw [amountOf_of_single begun single, counted]
    simp only [bind, Except.bind, worth, Bool.false_eq_true, if_false, if_pos more]

/-- What becomes of a payment, by what is stored under its uuid: it is taken, so that its sum is
owed no more, and net and fee are sent where there is something to send, or it is refused, and
nothing has changed. -/
inductive Becomes (config : Configuration) (store : Store) (uuid : String) (call : Call) :
    Option Payable → Result → Prop
  | taken {payable : Payable} {rest net fee : Amount} {attributes : List Attribute}
      (legal : Legal payable call.funds)
      (left : rest.units + unitsOf call.funds = payable.remaining.units)
      (part : fee.units = config.feeOn (unitsOf call.funds))
      (divided : fee.units + net.units = unitsOf call.funds) :
      Becomes config store uuid call (some payable)
        ⟨.ok ⟨sendNonzero payable.payee payable.denom net ++
            config.feeCollector.toList.flatMap fun collector =>
              sendNonzero collector payable.denom fee, attributes⟩,
          store.set (Key.payable uuid) (encode (payable.owing rest))⟩
  | refused {stored : Option Payable} {cause : Error}
      (breaks : Breaks uuid call.funds stored cause) :
      Becomes config store uuid call stored ⟨.error (.refused cause), store⟩

variable {config : Configuration} {store : Store} {call : Call} {stored : Option Payable}
  {result : Result}

theorem Becomes.succeeds_iff (becomes : Becomes config store uuid call stored result) :
    (∃ response, result.answer = .ok response) ↔
      ∃ payable, stored = some payable ∧ Legal payable call.funds := by
  cases becomes with
  | taken legal => exact ⟨fun _ => ⟨_, rfl, legal⟩, fun _ => ⟨_, rfl⟩⟩
  | refused breaks =>
    constructor
    · rintro ⟨_, ⟨⟩⟩
    · rintro ⟨payable, rfl, legal⟩
      exact absurd legal breaks.not_legal

theorem Becomes.breaks_of_failure {failure : Failure}
    (becomes : Becomes config store uuid call stored result)
    (failed : result.answer = .error failure) :
    ∃ cause, failure = .refused cause ∧ Breaks uuid call.funds stored cause := by
  cases becomes with
  | taken => cases failed
  | refused breaks =>
    cases failed
    exact ⟨_, rfl, breaks⟩

/-- No fee is sent where there is no collector, and none is due. -/
theorem messages_eq {amount : Amount} {division : FeeSplit}
    (divided : config.splitFee amount = .ok division) :
    messages payable division = sendNonzero payable.payee payable.denom division.net ++
      config.feeCollector.toList.flatMap fun collector =>
        sendNonzero collector payable.denom division.fee := by
  rw [messages]
  rcases Configuration.collector_of_splitFee divided with
    ⟨collector, collects, configured⟩ | ⟨free, zero⟩
  · rw [collects, configured]
    simp
  · rw [free, zero]
    cases config.feeCollector <;> rfl

theorem assess_of_breaks (reads : store.records.payable? uuid = .ok stored)
    (own : ∀ payable, stored = some payable → payable.uuid = uuid)
    (breaks : Breaks uuid call.funds stored cause) :
    (⟨uuid⟩ : Payment).assess store.records call = .error cause := by
  rw [assess, Records.payable, reads]
  cases stored with
  | none =>
    cases breaks
    rfl
  | some payable =>
    have failed := amountOf_of_breaks (own payable rfl) breaks
    change (do return (payable, ← amountOf payable call.funds)) = _
    rw [failed]
    rfl

theorem carryOut_eq (store : Store) (scopes : ScopeTable) (call : Call) (request : Payment) :
    Ledger.carryOutExecution store scopes call (.pay request) =
      store.conclude (.atomic (request.decide store.records call)) := by
  rw [Entry.carryOutExecution_eq, Execution.outcome_eq]
  rfl

theorem carryOut_of_breaks (configured : store.records.configuration = .ok config)
    (reads : store.records.payable? uuid = .ok stored)
    (own : ∀ payable, stored = some payable → payable.uuid = uuid)
    (breaks : Breaks uuid call.funds stored cause) (scopes : ScopeTable) :
    Ledger.carryOutExecution store scopes call (.pay ⟨uuid⟩) =
      ⟨.error (.refused cause), store⟩ := by
  rw [carryOut_eq, decide_of_refused configured (assess_of_breaks reads own breaks)]
  rfl

theorem becomes_of_legal (configured : store.records.configuration = .ok config)
    (sound : config.Sound) (reads : store.records.payable? uuid = .ok (some payable))
    (own : payable.uuid = uuid) (legal : Legal payable call.funds) (scopes : ScopeTable) :
    Becomes config store uuid call (some payable)
      (Ledger.carryOutExecution store scopes call (.pay ⟨uuid⟩)) := by
  have inRange := Nat.lt_of_le_of_lt legal.within payable.remaining.units_lt
  obtain ⟨amount, units⟩ : ∃ amount : Amount, amount.units = unitsOf call.funds :=
    ⟨⟨_, inRange⟩, rfl⟩
  obtain ⟨division, divided⟩ := sound.splitFee amount
  have assessed : (⟨uuid⟩ : Payment).assess store.records call = .ok (payable, amount) :=
    assess_eq_ok_iff.2 ⟨Records.payable_of_stored reads, legal.amountOf units⟩
  have result : Ledger.carryOutExecution store scopes call (.pay ⟨uuid⟩) =
      ⟨.ok (settle payable amount division call.sender).2,
        store.apply (.payable (afterPayment payable amount))⟩ := by
    rw [carryOut_eq, decide_of_assessed configured assessed divided]
    rfl
  have left : (payable.remaining.minus amount).units + unitsOf call.funds =
      payable.remaining.units := by
    have within := legal.within
    simp only [Amount.minus]
    omega
  have part := Configuration.units_fee divided
  have whole := Configuration.fee_add_net divided
  rw [units] at part whole
  subst own
  rw [result, settle, messages_eq divided]
  exact .taken legal left part whole

end Payment

/-- In every state of every run that has settings, a payment under any uuid finds out what is
stored there. It succeeds exactly if this is a payable that takes it, and then what remains of the
payable falls by the sum of the coins, and net and fee are sent. It fails exactly if it breaks a
rule, the cause is the first rule that it breaks, and nothing has changed. The call of the ledger
itself makes no difference, unless there is no uuid at all. -/
theorem payment_taken_iff_legal (entries : List Entry) {config : Configuration}
    (configured : (Ledger.after entries).records.configuration = .ok config)
    (uuid : String) (scopes : ScopeTable) (call : Call) :
    let start := Ledger.after entries
    let result := Ledger.carryOutExecution start scopes call (.pay ⟨uuid⟩)
    ∃ stored, start.records.payable? uuid = .ok stored ∧
      Payment.Becomes config start uuid call stored result ∧
      ((∃ response, result.answer = .ok response) ↔
        ∃ payable, stored = some payable ∧ Payment.Legal payable call.funds) ∧
      (∀ failure, result.answer = .error failure ↔
        ∃ cause, failure = .refused cause ∧ Payment.Breaks uuid call.funds stored cause) ∧
      (uuid ≠ "" → Ledger.execute start scopes call (.pay ⟨uuid⟩) = result) := by
  intro start result
  have reads : start.records.payable? uuid = .ok ((Book.after entries).payable? uuid) := by
    rw [(Ledger.holds_after entries).records, Book.payable?_records]
  generalize (Book.after entries).payable? uuid = stored at reads
  have own : ∀ payable, stored = some payable → payable.uuid = uuid := by
    rintro payable rfl
    exact Ledger.keyed_after entries uuid payable (Records.payable_of_stored reads)
  have refuses {cause : Error} (breaks : Payment.Breaks uuid call.funds stored cause) :
      result = ⟨.error (.refused cause), start⟩ :=
    Payment.carryOut_of_breaks configured reads own breaks scopes
  have becomes : Payment.Becomes config start uuid call stored result := by
    cases stored with
    | none => exact refuses .unknown ▸ .refused .unknown
    | some payable =>
      rcases Payment.legal_or_breaks uuid payable call.funds with legal | ⟨cause, breaks⟩
      · exact Payment.becomes_of_legal configured (Ledger.sound_of_configured configured) reads
          (own payable rfl) legal scopes
      · exact refuses breaks ▸ .refused breaks
  refine ⟨stored, reads, becomes, becomes.succeeds_iff, ?_, ?_⟩
  · intro failure
    refine ⟨becomes.breaks_of_failure, ?_⟩
    rintro ⟨cause, rfl, breaks⟩
    rw [refuses breaks]
  · intro named
    rw [Ledger.execute, Execution.validate_pay named]
    rfl

/-- What remains of the payable of `partialRun` in two coins, and with coins of another
denomination around it. -/
theorem payment_taken_iff_legal_partialRun :
    (∃ response, (Ledger.carryOutExecution (Ledger.after partialRun) []
        ⟨"payer", [⟨"usd", ⟨599, by decide⟩⟩, ⟨"usd", ⟨1, by decide⟩⟩]⟩ (.pay ⟨"p"⟩)).answer =
      .ok response) ∧
    (Ledger.carryOutExecution (Ledger.after partialRun) []
        ⟨"payer", [⟨"eur", .zero⟩, ⟨"usd", ⟨600, by decide⟩⟩, ⟨"eur", .zero⟩]⟩
        (.pay ⟨"p"⟩)).answer =
      .error (.refused (.foreignDenoms "usd" ["eur", "eur"])) := by
  have configured : ∃ config, (Ledger.after partialRun).records.configuration = .ok config :=
    ⟨_, Ledger.configuration_eq_ok_iff.2 rfl⟩
  obtain ⟨config, configured⟩ := configured
  have reads : (Ledger.after partialRun).records.payable? "p" = .ok (some partlyPaid) := by
    rw [(Ledger.holds_after partialRun).records, Book.payable?_records, payable?_partialRun]
  constructor
  · obtain ⟨stored, found, _, succeeds, _⟩ := payment_taken_iff_legal partialRun configured "p" []
      ⟨"payer", [⟨"usd", ⟨599, by decide⟩⟩, ⟨"usd", ⟨1, by decide⟩⟩]⟩
    rw [reads] at found
    cases found
    exact succeeds.2 ⟨partlyPaid, rfl, .inr rfl, by decide, by decide, by decide⟩
  · obtain ⟨stored, found, _, _, fails, _⟩ := payment_taken_iff_legal partialRun configured "p" []
      ⟨"payer", [⟨"eur", .zero⟩, ⟨"usd", ⟨600, by decide⟩⟩, ⟨"eur", .zero⟩]⟩
    rw [reads] at found
    cases found
    refine (fails _).2 ⟨_, rfl, ?_⟩
    exact .foreign (.inr rfl) List.mem_cons_self (by decide)

end PayableLedger
