import Starweaver.Library.AssocMap
import Starweaver.Library.Decimal
import Starweaver.Gateway.Preflight
import Starweaver.Gateway.TerminalUsage

namespace Starweaver.Gateway

open Library Library.AssocMap Library.Calendar Library.MachineInt Library.Separated Library.SortBy

/-- A usage event with the two times that a durable stream duration is read from. -/
structure MeasuredUsageEvent extends UsageEventRecord where
  latencyMs : Option Int
  timeToFirstTokenMs : Option Int

def measuredUsageEvent (actor : AuthenticatedActor) (input : TerminalUsageInput) : MeasuredUsageEvent :=
  let latencyMs := max ((input.endedAt.nanos - input.startedAt.nanos).tdiv 1000000) 0
  { terminalUsageEvent actor input with
    latencyMs := some latencyMs
    timeToFirstTokenMs := if input.replayCase.streaming then some latencyMs else none }

def runtimeQuotaPolicyHasDurableRepairSource (policy : QuotaPolicyRecord) : Bool :=
  (match policy.counterKind, policy.incrementSource with
    | .tokenActualRate, .terminalUsageEvent => true
    | .streamDuration, .streamStart => true
    | _, _ => false) &&
  match policy.window with
  | .fixed | .sliding | .ledgerBucket => true
  | _ => false

def runtimeQuotaUsageEventMatchesPolicy (policy : QuotaPolicyRecord) (event : UsageEventRecord) : Bool :=
  match policy.scopeKind with
  | .tenant => event.tenantId == policy.scopeId
  | .organization => event.organizationId == some policy.scopeId
  | .project => event.projectId == some policy.scopeId
  | .credential => event.upstreamCredentialId == some policy.scopeId
  | .modelAlias => event.modelAliasId == some policy.scopeId
  | .endpoint => event.providerEndpointId == some policy.scopeId
  | .protocolFamily => event.protocolFamily.asStr == policy.scopeId

def runtimeQuotaUsageEventMatchesWindow (policy : QuotaPolicyRecord) (event : UsageEventRecord) (now : DateTime) :
    Bool :=
  match policy.window with
  | .fixed | .sliding => event.occurredAt.timestamp / 60 == now.timestamp / 60
  | .ledgerBucket => true
  | _ => false

def durableStreamDurationSeconds (event : MeasuredUsageEvent) : Int :=
  match event.timeToFirstTokenMs with
  | none => 0
  | some _ => max (event.latencyMs.getD 0 / 1000) 1

def runtimeQuotaDurableUsageEventValue (policy : QuotaPolicyRecord) (event : MeasuredUsageEvent) : Int :=
  match policy.counterKind with
  | .tokenActualRate => terminalUsageTokenCount event.usagePayload
  | .streamDuration => durableStreamDurationSeconds event
  | _ => 0

def durableUsageEventMatches (policy : QuotaPolicyRecord) (now : DateTime) (event : MeasuredUsageEvent) : Bool :=
  event.status == .success && runtimeQuotaUsageEventMatchesPolicy policy event.toUsageEventRecord &&
    runtimeQuotaUsageEventMatchesWindow policy event.toUsageEventRecord now

def runtimeQuotaDurableUsageValueForPolicy (policy : QuotaPolicyRecord) (usageEvents : List MeasuredUsageEvent)
    (now : DateTime) : Int :=
  wrapSum ((usageEvents.filter (durableUsageEventMatches policy now)).map (runtimeQuotaDurableUsageEventValue policy))

/-- The counters that a tick of the reconciler may raise, each with the value that the usage events prove. -/
def repairTargets (quotaPolicies : List QuotaPolicyRecord) (usageEvents : List MeasuredUsageEvent) (tenantId : String)
    (now : DateTime) : List (String × Int) :=
  let events := usageEvents.filter fun event => event.tenantId == tenantId
  (((quotaPoliciesForTenant quotaPolicies tenantId).filter fun policy =>
    policy.status == .active && runtimeQuotaPolicyHasDurableRepairSource policy).map fun policy =>
      (runtimeQuotaCounterKey policy now, runtimeQuotaDurableUsageValueForPolicy policy events now)).filter
    fun target => decide (0 < target.2)

def leaseExpires (tenantId : String) (now : DateTime) (lease : RuntimeBudgetLeaseRecord) : Bool :=
  lease.tenantId == tenantId && lease.status == .reserved && decide (lease.expiresAt ≤ now)

def expireLease (tenantId : String) (now : DateTime) (lease : RuntimeBudgetLeaseRecord) : RuntimeBudgetLeaseRecord :=
  if leaseExpires tenantId now lease then { lease with status := .expired } else lease

def RuntimePolicyStore.expireRuntimeBudgetLeases (store : RuntimePolicyStore) (tenantId : String) (now : DateTime) :
    RuntimePolicyStore × List RuntimeBudgetLeaseRecord :=
  let expired := ((store.runtimeBudgetLeases.entries.map Sigma.snd).filter (leaseExpires tenantId now)).map
    (expireLease tenantId now)
  ({ store with runtimeBudgetLeases := mapValues (expireLease tenantId now) store.runtimeBudgetLeases },
    sortBy (fun left right => compare left.leaseId right.leaseId) expired)

section Keys

theorem barFree_padLeft {text : String} (h : BarFree text) (width : Nat) : BarFree (padLeft width text) := by
  apply barFree_append _ h
  unfold BarFree
  rw [String.toList_ofList]
  intro hmem
  exact absurd (List.eq_of_mem_replicate hmem) (by decide)

theorem barFree_formatYear (year : Int) : BarFree (formatYear year) := by
  unfold formatYear
  split
  · exact barFree_padLeft (barFree_decimal _) 4
  · split
    · exact barFree_append (by decide) (barFree_decimal _)
    · exact barFree_append (by decide) (barFree_padLeft (barFree_decimal _) 4)

theorem barFree_periodKey (policy : BudgetPolicyRecord) (now : DateTime) :
    BarFree (runtimeBudgetReservationPeriodKey policy now) := by
  have hdash : BarFree "-" := by decide
  unfold runtimeBudgetReservationPeriodKey
  split
  · exact barFree_append (barFree_append (barFree_append (barFree_append (barFree_formatYear _) hdash)
      (barFree_padLeft (barFree_decimal _) 2)) hdash) (barFree_padLeft (barFree_decimal _) 2)
  · exact barFree_append (barFree_append (barFree_decimal _) hdash) (barFree_padLeft (barFree_decimal _) 2)
  · decide

theorem barFree_windowSlot (policy : QuotaPolicyRecord) (now : DateTime) :
    BarFree (runtimeQuotaWindowSlot policy now) := by
  unfold runtimeQuotaWindowSlot
  split
  · exact barFree_decimal _
  · exact barFree_decimal _
  · decide
  · decide
  · decide

/-- No quota counter is a reservation counter, whatever the ids are: a period is never a window. -/
theorem reservationKey_ne_quotaKey (policy : BudgetPolicyRecord) (quota : QuotaPolicyRecord) (now later : DateTime) :
    runtimeBudgetReservationKey policy now ≠ runtimeQuotaCounterKey quota later := by
  intro h
  unfold runtimeBudgetReservationKey runtimeQuotaCounterKey at h
  have hfree : ∀ period : BudgetPeriod, BarFree period.asStr := by
    intro period
    cases period <;> decide
  have hfree' : ∀ window : QuotaWindow, BarFree window.asStr := by
    intro window
    cases window <;> decide
  obtain ⟨hperiod, -⟩ := joined_lasts_inj (List.cons_ne_nil policy.tenantId [_, _, _, _])
    (List.cons_ne_nil quota.tenantId [_, _, _, _]) (hfree policy.period) (hfree' quota.window)
    (barFree_periodKey policy now) (barFree_windowSlot quota later) h
  have hne : ∀ (period : BudgetPeriod) (window : QuotaWindow), period.asStr ≠ window.asStr := by
    intro period window
    cases period <;> cases window <;> decide
  exact hne _ _ hperiod

end Keys

end Starweaver.Gateway
