import Starweaver.Library.Machine
import Starweaver.Gateway.RuntimeHandlers

/-! What the frames of a connection write into the stores that all requests share, one write after the other. -/

namespace Starweaver.Gateway

open Library Library.Calendar Library.Machine

/-- An admitted frame and what its preflight has reserved. -/
structure OpenTurn where
  request : RuntimeRequest
  preflight : RuntimePolicyPreflight

structure RuntimeStores where
  policies : RuntimePolicyStore
  usage : UsageStore
  routeAttempts : List RouteAttemptRecord

def RuntimeState.stores (s : RuntimeState) : RuntimeStores := ⟨s.policies, s.usage, s.routeAttempts⟩

/-- A write of the connection, or what the other requests have made of the stores since the last one. -/
inductive RuntimeWrite
  | elsewhere (stores : RuntimeStores)
  | refused (input : PreflightInput)
  | reserved (opened : OpenTurn)
  | attempted (opened : OpenTurn) (status : RouteAttemptStatus)
  | accounted (opened : OpenTurn) (response : RuntimeIngressResponse)
  | settled (opened : OpenTurn) (response : RuntimeIngressResponse)
  | released (opened : OpenTurn)

namespace RuntimeWrite

/-- The stores after a write; a preflight has to end as the write says, and evidence has to be there. -/
def apply (s : RuntimeStores) : RuntimeWrite → Option RuntimeStores
  | .elsewhere stores => some stores
  | .refused input =>
    match enforceRuntimePolicyPreflight input s.policies with
    | (.error _, policies) => some { s with policies := policies }
    | (.ok _, _) => none
  | .reserved opened =>
    match enforceRuntimePolicyPreflight opened.request.preflightInput s.policies with
    | (.error _, _) => none
    | (.ok preflight, policies) => if preflight = opened.preflight then some { s with policies := policies } else none
  | .attempted opened status =>
    match opened.request.routeTarget.routeDecisionId, opened.request.routeTarget.selectedRoute with
    | some routeDecisionId, some selected =>
      some { s with routeAttempts := s.routeAttempts ++
        [routeAttempt routeDecisionId selected status opened.request.attemptStartedAt opened.request.attemptEndedAt] }
    | _, _ => none
  | .accounted opened response =>
    opened.request.routeTarget.selectedRoute.map fun selected =>
      let input := opened.request.terminalUsageInput selected response
      { s with usage := recordTerminalUsageEvent s.usage opened.request.policyInput.actor input }
  | .settled opened response =>
    opened.request.routeTarget.selectedRoute.map fun selected =>
      let input := opened.request.terminalUsageInput selected response
      let usagePayload := (normalizedUsagePayload response.protocolFamily response.body).1
      { s with
        policies := finalizeRuntimeQuotaTerminal opened.request.policyInput.quotaPolicies
          opened.request.policyInput.actor input usagePayload s.policies }
  | .released opened => some { s with policies := releaseRuntimePolicyReservations s.policies opened.preflight }

/-- The writes of an admitted frame between its reservation and its release. -/
inductive InTurn (opened : OpenTurn) : RuntimeWrite → Prop
  | attempted (status : RouteAttemptStatus) : InTurn opened (.attempted opened status)
  | accounted (response : RuntimeIngressResponse) : InTurn opened (.accounted opened response)
  | settled (response : RuntimeIngressResponse) : InTurn opened (.settled opened response)

end RuntimeWrite

section Writes

variable (writes : List RuntimeWrite)

def elsewheres : List RuntimeStores := writes.filterMap fun
  | .elsewhere stores => some stores
  | _ => none

def reservedTurns : List OpenTurn := writes.filterMap fun
  | .reserved opened => some opened
  | _ => none

def releasedTurns : List OpenTurn := writes.filterMap fun
  | .released opened => some opened
  | _ => none

def accountedAnswers : List (OpenTurn × RuntimeIngressResponse) := writes.filterMap fun
  | .accounted opened response => some (opened, response)
  | _ => none

variable (others : List RuntimeWrite)

@[simp] theorem elsewheres_append : elsewheres (writes ++ others) = elsewheres writes ++ elsewheres others :=
  List.filterMap_append ..

@[simp] theorem reservedTurns_append :
    reservedTurns (writes ++ others) = reservedTurns writes ++ reservedTurns others := List.filterMap_append ..

@[simp] theorem releasedTurns_append :
    releasedTurns (writes ++ others) = releasedTurns writes ++ releasedTurns others := List.filterMap_append ..

@[simp] theorem accountedAnswers_append :
    accountedAnswers (writes ++ others) = accountedAnswers writes ++ accountedAnswers others :=
  List.filterMap_append ..

end Writes

/-- Which frame holds reservations before and after a write: only an admitted frame writes more than its preflight, and
it gives back its own reservations. -/
inductive LedgerStep : Option OpenTurn → RuntimeWrite → Option OpenTurn → Prop
  | elsewhere (stores : RuntimeStores) (held : Option OpenTurn) : LedgerStep held (.elsewhere stores) held
  | refused (input : PreflightInput) : LedgerStep none (.refused input) none
  | reserved (opened : OpenTurn) : LedgerStep none (.reserved opened) (some opened)
  | inTurn {opened : OpenTurn} {write : RuntimeWrite} (h : write.InTurn opened) :
      LedgerStep (some opened) write (some opened)
  | released (opened : OpenTurn) : LedgerStep (some opened) (.released opened) none

inductive Ledger : Option OpenTurn → List RuntimeWrite → Option OpenTurn → Prop
  | nil (held : Option OpenTurn) : Ledger held [] held
  | cons {held next final : Option OpenTurn} {write : RuntimeWrite} {writes : List RuntimeWrite}
      (hstep : LedgerStep held write next) (hrest : Ledger next writes final) : Ledger held (write :: writes) final

section Ledgers

variable {held mid final : Option OpenTurn} {writes others : List RuntimeWrite} {opened : OpenTurn}

theorem Ledger.append (h : Ledger held writes mid) (h' : Ledger mid others final) :
    Ledger held (writes ++ others) final := by
  induction h with
  | nil held => exact h'
  | cons hstep hrest ih => exact .cons hstep (ih h')

theorem Ledger.concat (h : Ledger held writes mid) {write : RuntimeWrite} (hstep : LedgerStep mid write final) :
    Ledger held (writes ++ [write]) final := h.append (.cons hstep (.nil final))

theorem Ledger.split (h : Ledger held (writes ++ others) final) :
    ∃ mid, Ledger held writes mid ∧ Ledger mid others final := by
  induction writes generalizing held with
  | nil => exact ⟨held, .nil held, h⟩
  | cons write writes ih =>
    cases h with
    | cons hstep hrest =>
      obtain ⟨mid, hwrites, hothers⟩ := ih hrest
      exact ⟨mid, .cons hstep hwrites, hothers⟩

/-- Reservations are given back once each and in order, but for those of the frame that holds them at the end. -/
theorem Ledger.reserved_eq (h : Ledger held writes final) :
    held.toList ++ reservedTurns writes = releasedTurns writes ++ final.toList := by
  induction h with
  | nil held => simp [reservedTurns, releasedTurns]
  | cons hstep hrest ih =>
    cases hstep with
    | elsewhere stores held => exact ih
    | refused input => exact ih
    | reserved opened => exact ih
    | inTurn h =>
      cases h with
      | attempted status => exact ih
      | accounted response => exact ih
      | settled response => exact ih
    | released opened => exact congrArg (opened :: ·) ih

theorem Ledger.of_inTurn (h : ∀ write ∈ writes, write.InTurn opened) : Ledger (some opened) writes (some opened) := by
  induction writes with
  | nil => exact .nil _
  | cons write writes ih =>
    obtain ⟨hwrite, hwrites⟩ := List.forall_mem_cons.mp h
    exact .cons (.inTurn hwrite) (ih hwrites)

theorem releasedTurns_of_inTurn (h : ∀ write ∈ writes, write.InTurn opened) : releasedTurns writes = [] := by
  refine List.filterMap_eq_nil_iff.mpr fun write hmem => ?_
  cases h write hmem <;> rfl

theorem elsewheres_of_inTurn (h : ∀ write ∈ writes, write.InTurn opened) : elsewheres writes = [] := by
  refine List.filterMap_eq_nil_iff.mpr fun write hmem => ?_
  cases h write hmem <;> rfl

theorem reservedTurns_of_inTurn (h : ∀ write ∈ writes, write.InTurn opened) : reservedTurns writes = [] := by
  refine List.filterMap_eq_nil_iff.mpr fun write hmem => ?_
  cases h write hmem <;> rfl

/-- From a reservation on, what is neither a release nor the work of other requests belongs to the frame. -/
theorem Ledger.inTurn (h : Ledger held writes final) (hheld : held = some opened) (hreleased : releasedTurns writes = [])
    (helsewhere : elsewheres writes = []) : final = some opened ∧ ∀ write ∈ writes, write.InTurn opened := by
  induction h with
  | nil held => exact ⟨hheld, List.forall_mem_nil _⟩
  | @cons held next final write writes hstep hrest ih =>
    subst hheld
    cases hstep with
    | elsewhere stores held => cases helsewhere
    | released opened => cases hreleased
    | @inTurn opened write hwrite =>
      have hlater : final = some opened ∧ ∀ write ∈ writes, write.InTurn opened := by
        cases hwrite with
        | attempted status => exact ih rfl hreleased helsewhere
        | accounted response => exact ih rfl hreleased helsewhere
        | settled response => exact ih rfl hreleased helsewhere
      exact ⟨hlater.1, List.forall_mem_cons.mpr ⟨hwrite, hlater.2⟩⟩

end Ledgers

section Turns

variable {opened : OpenTurn} {s t : RuntimeStores}

theorem inTurn_held {start : RuntimePolicyStore} (hready : PreflightReady opened.request.preflightInput start)
    (hheld : PreflightHeld opened.request.preflightInput start s.policies opened.preflight) {write : RuntimeWrite}
    (hwrite : write.InTurn opened) (happly : RuntimeWrite.apply s write = some t) :
    PreflightHeld opened.request.preflightInput start t.policies opened.preflight := by
  cases hwrite with
  | attempted status =>
    dsimp only [RuntimeWrite.apply] at happly
    split at happly
    · cases happly
      exact hheld
    · cases happly
  | accounted response =>
    obtain ⟨selected, -, rfl⟩ := Option.map_eq_some_iff.mp happly
    exact hheld
  | settled response =>
    obtain ⟨selected, -, rfl⟩ := Option.map_eq_some_iff.mp happly
    exact hheld.terminal hready _ _ _

/-- A frame that nothing interrupts gives back all that its preflight has reserved. -/
theorem turn_restored {writes : List RuntimeWrite} (hwrites : ∀ write ∈ writes, write.InTurn opened)
    (hready : PreflightReady opened.request.preflightInput s.policies)
    (hrun : run RuntimeWrite.apply s (.reserved opened :: writes ++ [.released opened]) = some t) :
    Restored opened.request.preflightInput s.policies t.policies := by
  obtain ⟨reserved, hreserved, hrun⟩ := run_cons hrun
  obtain ⟨last, hmid, hreleased⟩ := run_append_cases hrun
  obtain ⟨next, hnext, hlast⟩ := run_cons hreleased
  cases hnext
  cases hlast
  have hstart : PreflightHeld opened.request.preflightInput s.policies reserved.policies opened.preflight := by
    dsimp only [RuntimeWrite.apply] at hreserved
    split at hreserved
    · cases hreserved
    · rename_i preflight policies hok
      split at hreserved
      · rename_i hsame
        cases hreserved
        exact hsame ▸ enforceRuntimePolicyPreflight_held hready hok
      · cases hreserved
  have hstep (u : RuntimeStores) (write : RuntimeWrite) (v : RuntimeStores)
      (hheld : PreflightHeld opened.request.preflightInput s.policies u.policies opened.preflight)
      (hwrite : write.InTurn opened) (happly : RuntimeWrite.apply u write = some v) :
      PreflightHeld opened.request.preflightInput s.policies v.policies opened.preflight :=
    inTurn_held hready hheld hwrite happly
  exact (run_invariant hstep hstart (meets_of_mem hwrites) hmid).release hready

end Turns

section Outcomes

/-- The route attempt is inserted, so that a completed answer of the request comes to be a usage event. -/
def RuntimeRequest.recordsUsage (request : RuntimeRequest) : Bool :=
  request.hasEvidence && (recordDurably request.postgresStore (·.insertRouteAttempt)).isOk

namespace OpenTurn

variable (opened : OpenTurn)

def attemptWrites (status : RouteAttemptStatus) : List RuntimeWrite :=
  if opened.request.hasEvidence then [.attempted opened status] else []

def successWrites (response : RuntimeIngressResponse) : List RuntimeWrite :=
  opened.attemptWrites .completed ++
    if opened.request.recordsUsage then
      .accounted opened response ::
        if (recordDurably opened.request.postgresStore (·.insertUsageEvent)).isOk then [.settled opened response] else []
    else []

/-- What the end of a turn writes before the release. -/
def outcomeWrites : Result ResponsesWebSocketTurnOutcome → List RuntimeWrite
  | .ok turn =>
    if turn.success then
      match turn.response with
      | some response => opened.successWrites response
      | none => []
    else if turn.clientDisconnected then opened.attemptWrites .clientDisconnected
    else opened.attemptWrites .failed
  | .error _ => opened.attemptWrites .failed

theorem attemptWrites_inTurn (status : RouteAttemptStatus) :
    ∀ write ∈ opened.attemptWrites status, write.InTurn opened := by
  unfold attemptWrites
  split
  · exact List.forall_mem_singleton.mpr (.attempted status)
  · exact List.forall_mem_nil _

theorem successWrites_inTurn (response : RuntimeIngressResponse) :
    ∀ write ∈ opened.successWrites response, write.InTurn opened := by
  unfold successWrites
  refine List.forall_mem_append.mpr ⟨opened.attemptWrites_inTurn .completed, ?_⟩
  split
  · refine List.forall_mem_cons.mpr ⟨.accounted response, ?_⟩
    split
    · exact List.forall_mem_singleton.mpr (.settled response)
    · exact List.forall_mem_nil _
  · exact List.forall_mem_nil _

theorem accountedAnswers_attemptWrites (status : RouteAttemptStatus) :
    accountedAnswers (opened.attemptWrites status) = [] := by
  unfold attemptWrites
  split <;> rfl

/-- One usage event for the answer, unless the request records none. -/
theorem accountedAnswers_successWrites (response : RuntimeIngressResponse) :
    accountedAnswers (opened.successWrites response) =
      [(opened, response)].filter fun answer => answer.1.request.recordsUsage := by
  unfold successWrites
  rw [accountedAnswers_append, accountedAnswers_attemptWrites, List.nil_append]
  cases hrecords : opened.request.recordsUsage with
  | false => simp [hrecords, accountedAnswers]
  | true =>
    simp only [if_true, List.filter_cons, hrecords, List.filter_nil]
    split <;> rfl

end OpenTurn

variable (opened : OpenTurn) (s : RuntimeState)

theorem recordRouteAttemptForTarget_writes (status : RouteAttemptStatus) :
    run RuntimeWrite.apply s.stores (opened.attemptWrites status) =
        some (recordRouteAttemptForTarget status opened.request s).2.stores ∧
      ∀ error, (recordRouteAttemptForTarget status opened.request s).1 = .error error →
        ¬ opened.request.AttemptStored := by
  unfold recordRouteAttemptForTarget OpenTurn.attemptWrites RuntimeRequest.AttemptStored RuntimeRequest.hasEvidence
  cases hdecision : opened.request.routeTarget.routeDecisionId with
  | none => exact ⟨rfl, fun error h => by cases h⟩
  | some routeDecisionId =>
    cases hselected : opened.request.routeTarget.selectedRoute with
    | none => exact ⟨rfl, fun error h => by cases h⟩
    | some selected =>
      refine ⟨?_, fun error h hstored => by cases h.symm.trans (hstored rfl)⟩
      simp [run, RuntimeWrite.apply, hdecision, hselected, recordRouteAttemptEvidence, RuntimeState.stores]

theorem recordSuccessfulRuntimeAttempt_writes (response : RuntimeIngressResponse) :
    run RuntimeWrite.apply s.stores (opened.successWrites response) =
        some (recordSuccessfulRuntimeAttempt opened.request response s).2.stores ∧
      ∀ error, (recordSuccessfulRuntimeAttempt opened.request response s).1 = .error error →
        ¬ (opened.request.AttemptStored ∧ opened.request.UsageStored) := by
  unfold recordSuccessfulRuntimeAttempt OpenTurn.successWrites OpenTurn.attemptWrites RuntimeRequest.recordsUsage
    RuntimeRequest.AttemptStored RuntimeRequest.UsageStored RuntimeRequest.hasEvidence recordRouteAttemptEvidence
    RuntimeState.recordTerminalUsageEvent
  cases hdecision : opened.request.routeTarget.routeDecisionId with
  | none => exact ⟨rfl, fun error h => by cases h⟩
  | some routeDecisionId =>
    cases hselected : opened.request.routeTarget.selectedRoute with
    | none => exact ⟨rfl, fun error h => by cases h⟩
    | some selected =>
      cases hattempt : recordDurably opened.request.postgresStore (·.insertRouteAttempt) with
      | error refused =>
        refine ⟨?_, fun error _ hstored => by cases hstored.1 rfl⟩
        simp [run, RuntimeWrite.apply, hdecision, hselected, RuntimeState.stores, Except.isOk, Except.toBool]
      | ok _ =>
        cases husage : recordDurably opened.request.postgresStore (·.insertUsageEvent) with
        | error refused =>
          refine ⟨?_, fun error _ hstored => by cases hstored.2 rfl⟩
          simp [run, RuntimeWrite.apply, hdecision, hselected, RuntimeState.stores, Except.isOk, Except.toBool]
        | ok _ =>
          refine ⟨?_, fun error h => by cases h⟩
          simp [run, RuntimeWrite.apply, hdecision, hselected, RuntimeState.stores, Except.isOk, Except.toBool,
            RuntimeRequest.terminalUsageInput]

theorem recordTurn_writes (outcome : Result ResponsesWebSocketTurnOutcome) :
    run RuntimeWrite.apply s.stores (opened.outcomeWrites outcome) = some (recordTurn opened.request outcome s).2.stores ∧
      ∀ error, (recordTurn opened.request outcome s).1 = .error error → ¬ opened.request.OutcomeStored outcome := by
  match outcome with
  | .error error => exact recordRouteAttemptForTarget_writes opened s .failed
  | .ok ⟨some response, true, _, _⟩ =>
    obtain ⟨hrun, hrefused⟩ := recordSuccessfulRuntimeAttempt_writes opened s response
    exact ⟨hrun, fun error h hstored => hrefused error h (hstored rfl)⟩
  | .ok ⟨none, true, _, _⟩ => exact ⟨rfl, fun error h => by cases h⟩
  | .ok ⟨_, false, true, _⟩ => exact recordRouteAttemptForTarget_writes opened s .clientDisconnected
  | .ok ⟨_, false, false, _⟩ => exact recordRouteAttemptForTarget_writes opened s .failed

/-- A turn ends with its own outcome and the release, or with an error of the durable store and no release. -/
theorem finishTurn_writes (turn : WebSocketTurn) :
    ((handleResponseCreate.finishTurn opened.request turn opened.preflight s).1 = turn.outcome ∧
      run RuntimeWrite.apply s.stores (opened.outcomeWrites turn.outcome ++ [.released opened]) =
        some (handleResponseCreate.finishTurn opened.request turn opened.preflight s).2.stores) ∨
    (∃ error, (handleResponseCreate.finishTurn opened.request turn opened.preflight s).1 = .error error) ∧
      run RuntimeWrite.apply s.stores (opened.outcomeWrites turn.outcome) =
        some (handleResponseCreate.finishTurn opened.request turn opened.preflight s).2.stores ∧
      ¬ opened.request.OutcomeStored turn.outcome := by
  obtain ⟨hrun, hrefused⟩ := recordTurn_writes opened s turn.outcome
  unfold handleResponseCreate.finishTurn
  generalize recordTurn opened.request turn.outcome s = recorded at hrun hrefused ⊢
  obtain ⟨result, next⟩ := recorded
  dsimp only at hrun hrefused
  cases result with
  | error error => exact .inr ⟨⟨error, rfl⟩, hrun, hrefused error rfl⟩
  | ok _ => exact .inl ⟨rfl, run_append hrun rfl⟩

end Outcomes

end Starweaver.Gateway
