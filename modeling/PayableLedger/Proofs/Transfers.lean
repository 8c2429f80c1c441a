import PayableLedger.Proofs.Conservation

set_option autoImplicit false

namespace PayableLedger

/-- The amounts of the coins of one denomination added as natural numbers. -/
def unitsIn (denom : String) (coins : List Coin) : Nat :=
  unitsOf (coins.filter fun coin => coin.denom == denom)

theorem unitsIn_self {denom : String} {coins : List Coin}
    (all : ∀ coin ∈ coins, coin.denom = denom) : unitsIn denom coins = unitsOf coins := by
  have whole : (coins.filter fun coin => coin.denom == denom) = coins := by
    rw [List.filter_eq_self]
    intro coin member
    exact beq_iff_eq.2 (all coin member)
  rw [unitsIn, whole]

theorem unitsIn_of_ne {denom other : String} {coins : List Coin}
    (all : ∀ coin ∈ coins, coin.denom = other) (apart : other ≠ denom) :
    unitsIn denom coins = 0 := by
  have nothing : (coins.filter fun coin => coin.denom == denom) = [] := by
    rw [List.filter_eq_nil_iff]
    intro coin member
    rw [beq_iff_eq, all coin member]
    exact apart
  rw [unitsIn, nothing]
  rfl

/-- Coins of a single denomination agree in every denomination if they agree in all. -/
theorem unitsIn_eq_of_single (only : String) {first second : List Coin}
    (ofFirst : ∀ coin ∈ first, coin.denom = only) (ofSecond : ∀ coin ∈ second, coin.denom = only)
    (same : unitsOf first = unitsOf second) (denom : String) :
    unitsIn denom first = unitsIn denom second := by
  by_cases it : only = denom
  · subst it
    rw [unitsIn_self ofFirst, unitsIn_self ofSecond, same]
  · rw [unitsIn_of_ne ofFirst it, unitsIn_of_ne ofSecond it]

/-- Adding with saturation saturates once and for all: the greatest amount is never left again. -/
theorem units_foldl_addSaturating (coins : List Coin) (sum : Amount) :
    (coins.foldl (fun sum coin => sum.addSaturating coin.amount) sum).units =
      min (sum.units + unitsOf coins) (Amount.bound - 1) := by
  induction coins generalizing sum with
  | nil =>
    have inRange := sum.units_lt
    simp only [List.foldl_nil, unitsOf_nil]
    omega
  | cons coin rest ih =>
    rw [List.foldl_cons, ih, Amount.units_addSaturating, unitsOf_cons]
    omega

theorem units_provided (denom : String) (funds : List Coin) :
    (provided denom funds).units = min (unitsIn denom funds) (Amount.bound - 1) := by
  have folded : (provided denom funds).units =
      min (0 + unitsIn denom funds) (Amount.bound - 1) := units_foldl_addSaturating _ _
  rw [folded, Nat.zero_add]

theorem units_provided_of_lt {denom : String} {funds : List Coin}
    (fits : unitsIn denom funds < Amount.bound) :
    (provided denom funds).units = unitsIn denom funds := by
  rw [units_provided]
  omega

/-- Coins that do not fit count as the greatest amount, and can pay for less than they are. -/
example : provided "usd" [⟨"usd", .max⟩, ⟨"usd", .max⟩] = .max := by decide

def Message.transfer? : Message → Option (String × Coin)
  | .send recipient coin => some (recipient, coin)
  | .bindName _ _ => none

def transfers (messages : List Message) : List (String × Coin) :=
  messages.filterMap Message.transfer?

def sentCoins (messages : List Message) : List Coin := (transfers messages).map Prod.snd

theorem unitsOf_sentCoins (messages : List Message) :
    unitsOf (sentCoins messages) = (messages.map Message.units).sum := by
  induction messages with
  | nil => rfl
  | cons message rest ih =>
    rw [List.map_cons, List.sum_cons, ← ih]
    cases message with
    | send recipient coin => exact List.sum_cons
    | bindName name address => exact (Nat.zero_add _).symm

theorem mem_transfers_iff {messages : List Message} {recipient : String} {coin : Coin} :
    (recipient, coin) ∈ transfers messages ↔ .send recipient coin ∈ messages := by
  rw [transfers, List.mem_filterMap]
  constructor
  · rintro ⟨_ | _, member, ⟨⟩⟩
    exact member
  · intro member
    exact ⟨_, member, rfl⟩

theorem mem_sentCoins_iff {messages : List Message} {coin : Coin} :
    coin ∈ sentCoins messages ↔ ∃ recipient, .send recipient coin ∈ messages := by
  simp only [sentCoins, List.mem_map, Prod.exists, exists_eq_right, mem_transfers_iff]

/-- Messages send out, denomination by denomination, what came in, and they send it to nobody but
the recipients that are meant. -/
structure PassesOn (funds : List Coin) (meant : String → Prop) (messages : List Message) :
    Prop where
  units (denom : String) : unitsIn denom (sentCoins messages) = unitsIn denom funds
  recipient (recipient : String) (coin : Coin) (sent : (recipient, coin) ∈ transfers messages) :
    meant recipient

namespace PassesOn

variable {funds : List Coin} {meant more : String → Prop} {messages : List Message}

theorem nothing (free : funds = []) (still : transfers messages = []) :
    PassesOn funds meant messages := by
  constructor
  · intro denom
    rw [free, sentCoins, still]
    rfl
  · intro recipient coin sent
    rw [still] at sent
    cases sent

theorem of_single (only : String) (ofFunds : ∀ coin ∈ funds, coin.denom = only)
    (sends : ∀ recipient coin, .send recipient coin ∈ messages →
      coin.denom = only ∧ meant recipient)
    (same : (messages.map Message.units).sum = unitsOf funds) :
    PassesOn funds meant messages := by
  constructor
  · apply unitsIn_eq_of_single only
    · intro coin sent
      obtain ⟨recipient, sending⟩ := mem_sentCoins_iff.1 sent
      exact (sends recipient coin sending).1
    · exact ofFunds
    · rw [unitsOf_sentCoins, same]
  · intro recipient coin sent
    exact (sends recipient coin (mem_transfers_iff.1 sent)).2

theorem imp (passes : PassesOn funds meant messages)
    (implies : ∀ recipient, meant recipient → more recipient) :
    PassesOn funds more messages where
  units := passes.units
  recipient recipient coin sent := implies recipient (passes.recipient recipient coin sent)

end PassesOn

theorem Configuration.transfer_takeCharge (config : Configuration) (sender : String)
    (charge : Coin) :
    (config.takeCharge sender charge).transfer =
      .send (config.feeCollector.getD sender) charge := by
  unfold takeCharge
  cases config.feeCollector <;> rfl

/-- A registration passes on the charge, in however many coins it was paid. -/
theorem Registration.passesOn_onboard {config : Configuration} {call : Call}
    {fee : Option OnboardingFee} (request : Registration)
    (onboarded : config.onboard call = .ok fee)
    (fits : ∀ denom, unitsIn denom call.funds < Amount.bound) :
    PassesOn call.funds (· = config.feeCollector.getD call.sender)
      (request.response fee).messages := by
  cases fee with
  | none =>
    obtain ⟨free, _⟩ := Configuration.onboard_eq_none_iff.1 onboarded
    exact .nothing free rfl
  | some fee =>
    obtain ⟨charge, _, _, single, exactly, rfl⟩ := Configuration.onboard_eq_some_iff.1 onboarded
    have paid : charge.amount.units = unitsOf call.funds := by
      rw [← exactly, units_provided_of_lt (fits charge.denom), unitsIn_self single]
    rw [Registration.response, Configuration.transfer_takeCharge]
    apply PassesOn.of_single charge.denom single
    · intro recipient coin sends
      cases List.mem_singleton.1 sends
      exact ⟨rfl, rfl⟩
    · exact paid

theorem Payment.passesOn_messages {payable : Payable} {config : Configuration} {amount : Amount}
    {division : FeeSplit} {funds : List Coin} (counted : amountOf payable funds = .ok amount)
    (divided : config.splitFee amount = .ok division) :
    PassesOn funds (fun recipient => recipient = payable.payee ∨
      config.feeCollector = some recipient) (messages payable division) := by
  obtain ⟨_, single, summed, _⟩ := amountOf_eq_ok_iff.1 counted
  apply PassesOn.of_single payable.denom single
  · intro recipient coin sends
    obtain ⟨denom, _, meant⟩ := passes_messages divided _ sends
    exact ⟨denom, meant⟩
  · rw [units_messages divided, summed]

namespace Entry

/-- What comes along with a call that may bring funds. -/
def call? : Entry → Option Call
  | .instantiate _ call _ => some call
  | .execute _ call _ => some call
  | .migrate _ => none
  | .query _ => none

/-- Whom a call may send coins to: a registration the collector, or the sender where there is none,
a payment the payee and the collector, and any other call nobody. -/
def Pays (records : Records) (recipient : String) : Entry → Prop
  | .execute _ call (.register _) =>
    ∃ config, records.configuration = .ok config ∧ recipient = config.feeCollector.getD call.sender
  | .execute _ _ (.pay payment) =>
    (∃ payable, records.payable payment.uuid = .ok payable ∧ recipient = payable.payee) ∨
      ∃ config, records.configuration = .ok config ∧ config.feeCollector = some recipient
  | _ => False

/-- Whatever the records are, a call that brings funds and succeeds passes them on. -/
theorem passesOn_of_yields {records : Records} {entry : Entry} {effect : Effect} {call : Call}
    {reply : Reply} (yields : Yields records entry effect) (brings : entry.call? = some call)
    (fits : ∀ denom, unitsIn denom call.funds < Amount.bound)
    (answered : effect.answer = .ok reply) :
    ∃ response, reply = .response response ∧
      PassesOn call.funds (entry.Pays records) response.messages := by
  cases yields with
  | refused => cases answered
  | unbound => cases answered
  | migrated => cases brings
  | answered => cases brings
  | instantiated valid free settings binds =>
    cases brings
    cases answered
    obtain ⟨_, _, rfl⟩ := Instantiation.bindName_eq_ok_iff.1 binds
    exact ⟨_, rfl, .nothing free rfl⟩
  | approved valid free found oracle pending =>
    cases brings
    cases answered
    exact ⟨_, rfl, .nothing free rfl⟩
  | @registered scopes call registration fee valid accepted =>
    cases brings
    cases answered
    obtain ⟨_, _, _, config, configured, _, onboarded⟩ :=
      Registration.accept_eq_ok_iff.1 accepted
    refine ⟨_, rfl, (registration.passesOn_onboard onboarded fits).imp ?_⟩
    intro recipient meant
    exact ⟨config, configured, meant⟩
  | @paid scopes call payment config payable amount division valid configured found counted
      divided =>
    cases brings
    cases answered
    have passes := Payment.passesOn_messages counted divided
    refine ⟨_, rfl, passes.imp ?_⟩
    rintro recipient (payee | collector)
    · exact .inl ⟨payable, found, payee⟩
    · exact .inr ⟨config, configured, collector⟩

end Entry

/-- In every state of every run, a call that brings funds and succeeds answers with messages that
send out, denomination by denomination, what came in, as long as this does not exceed what an
amount can be. A registration sends it to the fee collector, or back to the sender if there is
none, a payment to the payee and the collector. With an instantiation or an approval nobody is
sent anything, so that nothing came in. -/
theorem funds_pass_through (entries : List Entry) {entry : Entry} {call : Call} {reply : Reply}
    (brings : entry.call? = some call)
    (fits : ∀ denom, unitsIn denom call.funds < Amount.bound)
    (answered : (entry.perform (Ledger.after entries)).answer = .ok reply) :
    ∃ response, reply = .response response ∧
      (∀ denom, unitsIn denom (sentCoins response.messages) = unitsIn denom call.funds) ∧
      ∀ recipient coin, (recipient, coin) ∈ transfers response.messages →
        entry.Pays (Ledger.after entries).records recipient := by
  rw [entry.perform_eq] at answered
  have yields := entry.yields_effect (Ledger.after entries).records
  obtain ⟨response, rfl, passes⟩ := Entry.passesOn_of_yields yields brings fits answered
  exact ⟨response, rfl, passes.units, passes.recipient⟩

/-- The last call of `partialRun`, a payment. -/
theorem funds_pass_through_partialRun :
    ∃ entry response, partialRun.drop 3 = [entry] ∧
      (entry.perform (Ledger.after (partialRun.take 3))).answer = .ok (.response response) ∧
      unitsIn "usd" (sentCoins response.messages) = 400 ∧
      unitsIn "eur" (sentCoins response.messages) = 0 := by
  have brings : ∃ entry call amount, partialRun.drop 3 = [entry] ∧ entry.call? = some call ∧
      call.funds = [⟨"usd", amount⟩] ∧ amount.units = 400 ∧
      ∃ reply, (entry.effect (Book.after (partialRun.take 3)).records).answer = .ok reply :=
    ⟨_, _, _, rfl, rfl, rfl, rfl, _, rfl⟩
  obtain ⟨entry, call, amount, last, brings, funds, units, reply, answered⟩ := brings
  rw [← (Ledger.holds_after _).answer] at answered
  have fits (denom : String) : unitsIn denom call.funds < Amount.bound := by
    rw [unitsIn, funds, List.filter_cons, List.filter_nil]
    split
    · exact amount.units_lt
    · decide
  obtain ⟨response, rfl, same, _⟩ := funds_pass_through _ brings fits answered
  refine ⟨entry, response, last, answered, ?_, ?_⟩
  · rw [same, funds]
    exact units
  · rw [same, funds]
    rfl

end PayableLedger
