import Mathlib.Data.Rat.Defs

/-!
# Exceptions

One type for the exceptions the program raises and handles: the class, and the message as its template with the interpolated
values in order (`%` marks each gap). The diagnostic code is a function of the class, as in the source, where every `raise`
passes the code its class has by default.
-/

namespace Quant

/-- The exception classes, by the module that defines them, then the built-in ones. `LedgerServiceError` and
`EmptyHistoricalBatchError` are raised with two codes and stand here once for each. -/
inductive ExcClass where
  | gatewayError
  | invalidStateTransition
  | duplicateOrder
  | invalidOrderInput
  | insufficientMargin
  | gatewayDisconnected
  | fatFingerNotional
  | fatFingerQuantity
  | leverageLimitExceeded
  | concentrationLimitExceeded
  | insufficientMarginRisk
  | drawdownLimitExceeded
  | nonFiniteRiskInput
  | killSwitchActive
  | invalidAdminToken
  | killSwitchDisarmed
  | nbboViolation
  | insufficientLiquidity
  | childOrderFailed
  | invalidSORInput
  | nonFiniteInput
  | invalidSchedule
  | massConservation
  | algorithmTimeout
  | negativeInventory
  | orphanedFill
  | nonFiniteLedgerInput
  | unbalancedTransaction
  | portfolioNotFound
  | rehydrationFailed
  | financingError
  | invalidRate
  | invalidResidual
  | liveSessionState
  | liveSessionRisk
  | newsFeedUnreachable
  | corruptNewsPayload
  | futureTimestamp
  | nonMonotonicTimestamp
  | invalidBarGeometry
  | nonFiniteHistoricalInput
  | invalidCorporateAction
  | emptyHistoricalBatch
  | emptyHistoricalRange
  | emptyUniverse
  | insufficientTimestamps
  | yahooProvider
  | yahooSymbolNotFound
  | yahooParse
  | polygonProvider
  | alpacaHistorical
  | degenerateCircuitBreaker
  | invalidCircuitBreakerInput
  | hypergamicSelection
  | invalidCohort
  | lifecycleError
  | invalidGenerationalState
  | stagnation
  | tearsheetError
  | zeroVariance
  | mismatchedBenchmark
  | databaseError
  | runtimeError
  | valueError
  | keyError
  | typeError
  | attributeError
  | assertionError
  | timeoutError
  | cancelledError
  | queueFull
  | overflowError
  | indexError
  | zeroDivisionError
  | notImplementedError
  deriving DecidableEq, Repr

/-- The diagnostic fault code of a class; those of a population, of a circuit breaker, of the database and the
built-in ones have none. -/
def ExcClass.code : ExcClass → Option String
  | .gatewayError => some "ERR-GW-000"
  | .invalidStateTransition => some "ERR-GW-001"
  | .duplicateOrder => some "ERR-GW-002"
  | .invalidOrderInput => some "ERR-GW-003"
  | .insufficientMargin => some "ERR-GW-004"
  | .gatewayDisconnected => some "ERR-GW-005"
  | .fatFingerNotional => some "ERR-RSK-001"
  | .fatFingerQuantity => some "ERR-RSK-002"
  | .leverageLimitExceeded => some "ERR-RSK-003"
  | .concentrationLimitExceeded => some "ERR-RSK-004"
  | .insufficientMarginRisk => some "ERR-RSK-005"
  | .drawdownLimitExceeded => some "ERR-RSK-006"
  | .nonFiniteRiskInput => some "ERR-RSK-007"
  | .killSwitchActive => some "ERR-RSK-008"
  | .invalidAdminToken => some "ERR-RSK-009"
  | .killSwitchDisarmed => some "ERR-RSK-010"
  | .invalidSchedule => some "ERR-SOR-001"
  | .insufficientLiquidity => some "ERR-SOR-002"
  | .nbboViolation => some "ERR-SOR-003"
  | .childOrderFailed => some "ERR-SOR-005"
  | .invalidSORInput | .nonFiniteInput => some "ERR-SOR-007"
  | .massConservation => some "ERR-SOR-004"
  | .algorithmTimeout => some "ERR-SOR-006"
  | .negativeInventory => some "ERR-LDG-001"
  | .orphanedFill => some "ERR-LDG-002"
  | .unbalancedTransaction => some "ERR-LDG-003"
  | .nonFiniteLedgerInput => some "ERR-LDG-005"
  | .financingError => some "ERR-LDG-006"
  | .invalidRate => some "ERR-LDG-007"
  | .rehydrationFailed => some "ERR-LDG-008"
  | .portfolioNotFound => some "ERR-LDG-009"
  | .liveSessionState => some "ERR-LIVE-001"
  | .liveSessionRisk => some "ERR-LIVE-003"
  | .newsFeedUnreachable => some "ERR-NEWS-001"
  | .corruptNewsPayload => some "ERR-NEWS-002"
  | .futureTimestamp => some "ERR-NEWS-003"
  | .nonMonotonicTimestamp => some "ERR-DATA-005"
  | .invalidBarGeometry => some "ERR-DATA-006"
  | .nonFiniteHistoricalInput => some "ERR-DATA-007"
  | .invalidCorporateAction => some "ERR-DATA-008"
  | .emptyHistoricalBatch => some "ERR-DATA-009"
  | .emptyHistoricalRange => some "ERR-DATA-018"
  | .emptyUniverse => some "ERR-DATA-016"
  | .insufficientTimestamps => some "ERR-DATA-017"
  | .yahooProvider => some "ERR-DATA-011"
  | .yahooSymbolNotFound => some "ERR-DATA-013"
  | .yahooParse => some "ERR-DATA-012"
  | .polygonProvider => some "ERR-DATA-015"
  | .alpacaHistorical => some "ERR-DATA-016"
  | .tearsheetError => some "ERR-RPT-000"
  | .zeroVariance => some "ERR-RPT-001"
  | .mismatchedBenchmark => some "ERR-RPT-002"
  | .degenerateCircuitBreaker | .invalidCircuitBreakerInput => none
  | .hypergamicSelection | .invalidCohort | .lifecycleError | .invalidGenerationalState | .stagnation => none
  | .invalidResidual | .databaseError => none
  | .runtimeError | .valueError | .keyError | .typeError | .attributeError | .assertionError | .timeoutError | .cancelledError
  | .queueFull | .overflowError | .indexError | .zeroDivisionError | .notImplementedError => none

/-- A value interpolated into a message. -/
inductive ExcArg where
  | num (x : ℚ)
  | str (s : String)
  deriving DecidableEq

/-- A raised exception. -/
structure Exc where
  cls : ExcClass
  text : String
  args : List ExcArg := []
  deriving DecidableEq

/-- Whether `except Exception` catches it: a cancellation derives from `BaseException` and passes through. -/
def Exc.isException (e : Exc) : Bool := e.cls ≠ .cancelledError

/-- One check of a chain: where the chain ends well, the check passed and the rest ends well. -/
theorem of_check_ok {ε α : Type*} {c : Prop} [Decidable c] {exc : ε} {f : ¬ c → Except ε α} {x : α}
    (h : (if hc : c then .error exc else f hc) = .ok x) : ∃ hc : ¬ c, f hc = .ok x := by
  by_cases hc : c
  · rw [dif_pos hc] at h
    cases h
  · rw [dif_neg hc] at h
    exact ⟨hc, h⟩

/-- One check of a chain: what the chain raises is of the check or of the rest. -/
theorem of_check_error {ε α : Type*} {c : Prop} [Decidable c] {exc exc' : ε} {f : ¬ c → Except ε α}
    (h : (if hc : c then .error exc else f hc) = .error exc') : exc = exc' ∨ ∃ hc : ¬ c, f hc = .error exc' := by
  by_cases hc : c
  · rw [dif_pos hc] at h
    exact .inl (Except.error.inj h)
  · rw [dif_neg hc] at h
    exact .inr ⟨hc, h⟩

/-- What two steps one after the other returned, the first of them passed. -/
theorem exists_of_bind_ok {ε α β : Type*} {x : Except ε α} {f : α → Except ε β} {b : β} (h : x.bind f = .ok b) :
    ∃ a, x = .ok a ∧ f a = .ok b := by
  cases x with
  | error exc => cases h
  | ok a => exact ⟨a, rfl, h⟩

/-- Two steps one after the other return where the first does, and the second on what the first can return. -/
theorem exists_bind_ok {ε α β : Type*} {x : Except ε α} {f : α → Except ε β} {P : α → Prop} {Q : β → Prop}
    (hx : ∃ a, x = .ok a ∧ P a) (hf : ∀ a, P a → ∃ b, f a = .ok b ∧ Q b) : ∃ b, x.bind f = .ok b ∧ Q b := by
  obtain ⟨a, rfl, ha⟩ := hx
  exact hf a ha

/-- Two steps one after the other raise what one of them raises. -/
theorem error_of_bind {ε α β : Type*} {x : Except ε α} {f : α → Except ε β} {P : ε → Prop} (hx : ∀ exc, x = .error exc → P exc)
    (hf : ∀ a exc, f a = .error exc → P exc) : ∀ exc, x.bind f = .error exc → P exc := by
  intro exc h
  cases x with
  | error exc' =>
    obtain rfl := Except.error.inj h
    exact hx exc' rfl
  | ok a => exact hf a exc h

/-- What two steps one after the other raised, one of them did, and the second only after the first had returned. -/
theorem of_bind_error {ε α β : Type*} {x : Except ε α} {f : α → Except ε β} {exc : ε} (h : x.bind f = .error exc) :
    x = .error exc ∨ ∃ a, x = .ok a ∧ f a = .error exc := by
  cases x with
  | error exc' => exact .inl (congrArg Except.error (Except.error.inj h))
  | ok a => exact .inr ⟨a, rfl, h⟩

/-- What a step whose result is mapped returned. -/
theorem exists_of_map_ok {ε α β : Type*} {x : Except ε α} {f : α → β} {b : β} (h : x.map f = .ok b) :
    ∃ a, x = .ok a ∧ f a = b := by
  cases x with
  | error exc => cases h
  | ok a => exact ⟨a, rfl, Except.ok.inj h⟩

theorem error_of_map {ε α β : Type*} {x : Except ε α} {f : α → β} {P : ε → Prop} (hx : ∀ exc, x = .error exc → P exc) :
    ∀ exc, x.map f = .error exc → P exc := by
  intro exc h
  cases x with
  | error exc' =>
    obtain rfl := Except.error.inj h
    exact hx exc' rfl
  | ok a => cases h

/-- What a step that is known to return returned. -/
theorem exists_of_isOk {ε α : Type*} {x : Except ε α} (h : x.isOk = true) : ∃ a, x = .ok a := by
  cases x with
  | error exc => cases h
  | ok a => exact ⟨a, rfl⟩

/-- What a call that is known to return returned. -/
theorem exists_ok_of_isOk {α β : Type*} {x : Except Exc α × β} (h : x.1.isOk = true) : ∃ r y, x = (.ok r, y) := by
  obtain ⟨r, y⟩ := x
  cases r with
  | error exc => cases h
  | ok r => exact ⟨r, y, rfl⟩

end Quant
