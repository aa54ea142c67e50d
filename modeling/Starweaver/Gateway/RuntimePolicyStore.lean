import Starweaver.Library.Holding
import Starweaver.Gateway.Domain

namespace Starweaver.Gateway

open Library.Calendar Library.Counters Library.MachineInt

inductive BudgetLeaseStatus
  | reserved
  | released
  | expired
deriving DecidableEq, Repr

structure RuntimeBudgetLeaseRecord where
  leaseId : String
  tenantId : String
  budgetPolicyId : String
  counterKey : String
  requestId : String
  amount : Int
  status : BudgetLeaseStatus
  expiresAt : DateTime
deriving DecidableEq, Repr

structure RuntimeQuotaCounterDecision where
  current : Int
  allowed : Bool
deriving DecidableEq, Repr

structure RuntimePolicyStore where
  runtimePolicyHotStateUnavailable : Bool
  runtimeQuotaCounters : CounterMap String
  runtimePolicyLossAllowances : CounterMap String
  runtimeBudgetLeases : AList (fun _ : String => RuntimeBudgetLeaseRecord)

namespace RuntimePolicyStore

def empty : RuntimePolicyStore := ⟨false, ∅, ∅, ∅⟩

variable (store : RuntimePolicyStore)

def runtimePolicyHotStateAvailable : Bool := !store.runtimePolicyHotStateUnavailable

def runtimePolicyCounter (key : String) : Int := value store.runtimeQuotaCounters key

def runtimePolicyLossAllowanceCounter (key : String) : Int := value store.runtimePolicyLossAllowances key

def incrementRuntimeQuotaCounter (key : String) (amount limit : Int) :
    RuntimePolicyStore × RuntimeQuotaCounterDecision :=
  let (counters, current) := increment store.runtimeQuotaCounters key amount
  ({ store with runtimeQuotaCounters := counters }, ⟨current, decide (current ≤ limit)⟩)

def adjustRuntimePolicyCounter (key : String) (delta : Int) : RuntimePolicyStore × Int :=
  let (counters, next) := adjust store.runtimeQuotaCounters key delta
  ({ store with runtimeQuotaCounters := counters }, next)

def incrementRuntimePolicyLossAllowanceCounter (key : String) (amount limit : Int) :
    RuntimePolicyStore × RuntimeQuotaCounterDecision :=
  let (counters, current) := increment store.runtimePolicyLossAllowances key amount
  ({ store with runtimePolicyLossAllowances := counters }, ⟨current, decide (current ≤ limit)⟩)

def adjustRuntimePolicyLossAllowanceCounter (key : String) (delta : Int) : RuntimePolicyStore × Int :=
  let (counters, next) := adjust store.runtimePolicyLossAllowances key delta
  ({ store with runtimePolicyLossAllowances := counters }, next)

def recordRuntimeBudgetLease (record : RuntimeBudgetLeaseRecord) : RuntimePolicyStore :=
  { store with runtimeBudgetLeases := store.runtimeBudgetLeases.insert record.leaseId record }

def releaseRuntimeBudgetLease (leaseId : String) : RuntimePolicyStore × Option RuntimeBudgetLeaseRecord :=
  match store.runtimeBudgetLeases.lookup leaseId with
  | none => (store, none)
  | some lease =>
    if lease.status ≠ .reserved then (store, none)
    else
      let released := { lease with status := .released }
      ({ store with runtimeBudgetLeases := store.runtimeBudgetLeases.insert leaseId released }, some released)

section Projections

variable (key : String) (delta amount limit : Int) (record : RuntimeBudgetLeaseRecord)

@[simp] theorem adjust_counters : (store.adjustRuntimePolicyCounter key delta).1.runtimeQuotaCounters =
    (adjust store.runtimeQuotaCounters key delta).1 := rfl

@[simp] theorem adjust_result : (store.adjustRuntimePolicyCounter key delta).2 =
    (adjust store.runtimeQuotaCounters key delta).2 := rfl

@[simp] theorem adjust_allowances : (store.adjustRuntimePolicyCounter key delta).1.runtimePolicyLossAllowances =
    store.runtimePolicyLossAllowances := rfl

@[simp] theorem adjust_leases : (store.adjustRuntimePolicyCounter key delta).1.runtimeBudgetLeases =
    store.runtimeBudgetLeases := rfl

@[simp] theorem adjust_unavailable :
    (store.adjustRuntimePolicyCounter key delta).1.runtimePolicyHotStateUnavailable =
      store.runtimePolicyHotStateUnavailable := rfl

@[simp] theorem increment_counters : (store.incrementRuntimeQuotaCounter key amount limit).1.runtimeQuotaCounters =
    (increment store.runtimeQuotaCounters key amount).1 := rfl

@[simp] theorem increment_allowances :
    (store.incrementRuntimeQuotaCounter key amount limit).1.runtimePolicyLossAllowances =
      store.runtimePolicyLossAllowances := rfl

@[simp] theorem increment_leases : (store.incrementRuntimeQuotaCounter key amount limit).1.runtimeBudgetLeases =
    store.runtimeBudgetLeases := rfl

@[simp] theorem allowance_counters :
    (store.incrementRuntimePolicyLossAllowanceCounter key amount limit).1.runtimeQuotaCounters =
      store.runtimeQuotaCounters := rfl

@[simp] theorem allowance_allowances :
    (store.incrementRuntimePolicyLossAllowanceCounter key amount limit).1.runtimePolicyLossAllowances =
      (increment store.runtimePolicyLossAllowances key amount).1 := rfl

@[simp] theorem allowance_leases :
    (store.incrementRuntimePolicyLossAllowanceCounter key amount limit).1.runtimeBudgetLeases =
      store.runtimeBudgetLeases := rfl

@[simp] theorem record_counters :
    (store.recordRuntimeBudgetLease record).runtimeQuotaCounters = store.runtimeQuotaCounters := rfl

@[simp] theorem record_allowances :
    (store.recordRuntimeBudgetLease record).runtimePolicyLossAllowances = store.runtimePolicyLossAllowances := rfl

@[simp] theorem record_leases : (store.recordRuntimeBudgetLease record).runtimeBudgetLeases =
    store.runtimeBudgetLeases.insert record.leaseId record := rfl

@[simp] theorem record_unavailable : (store.recordRuntimeBudgetLease record).runtimePolicyHotStateUnavailable =
    store.runtimePolicyHotStateUnavailable := rfl

end Projections

end RuntimePolicyStore

end Starweaver.Gateway
