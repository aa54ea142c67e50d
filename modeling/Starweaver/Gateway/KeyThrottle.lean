import Starweaver.Gateway.KeyRotation
import Starweaver.Library.RecentLog

namespace Starweaver.Gateway.Tenancy

open Library.AssocMap Library.Calendar Library.Checks Library.ListIndex Library.Machine Library.RecentLog

/-- A call of the key verification. -/
structure KeyCheck where
  presentedKey : String
  requestId : String
  traceId : String
  now : DateTime

def KeyCheck.answer (check : KeyCheck) (env : AuthEnv) (store : TenancyStore) : Result CredentialedActor × TenancyStore :=
  verifyApiKey env store check.presentedKey check.requestId check.traceId check.now

/-- The presented key has the prefix. -/
def KeyCheck.On (check : KeyCheck) (start : String) : Prop := keyPrefix check.presentedKey = .ok start

instance (check : KeyCheck) (start : String) : Decidable (check.On start) :=
  match h : keyPrefix check.presentedKey with
  | .error error => .isFalse fun hok => by cases h.symm.trans hok
  | .ok other => decidable_of_iff (other = start) (by rw [KeyCheck.On, h, Except.ok.injEq])

def TenancyStore.apiKeyFailedAuthAllowed (store : TenancyStore) (throttleKey : String) (now : DateTime) : Bool :=
  decide ((store.failedApiKeyAuth throttleKey now).1.length < apiKeyFailedAuthMaxAttempts)

def TenancyStore.failedLog (store : TenancyStore) (throttleKey : String) : List DateTime :=
  (store.apiKeyFailedAuth.lookup throttleKey).getD []

/-- With the store, the instants of the calls on the prefix that came past the throttle and failed. -/
structure ThrottledRun where
  store : TenancyStore
  failed : List DateTime

/-- Each stored hash can be checked against any key. -/
def HashesWellFormed (env : AuthEnv) (store : TenancyStore) : Prop :=
  ∀ record ∈ listed store.apiKeys, ∀ presentedKey, ∃ verified, env.verifySecret presentedKey record.secretHash = .ok verified

variable (env : AuthEnv) (start : String)

def checkStep (s : ThrottledRun) (check : KeyCheck) : ThrottledRun :=
  match check.answer env s.store with
  | (.ok _, store) => ⟨store, s.failed⟩
  | (.error _, store) =>
    if check.On start ∧ s.store.apiKeyFailedAuthAllowed start check.now = true then ⟨store, check.now :: s.failed⟩
    else ⟨store, s.failed⟩

/-- The call is no successful verification of a key with the prefix. -/
def Unverified (s : ThrottledRun) (check : KeyCheck) : Prop :=
  check.On start → ∀ actor, (check.answer env s.store).1 ≠ .ok actor

instance (s : ThrottledRun) (check : KeyCheck) : Decidable (Unverified env start s check) :=
  match h : (check.answer env s.store).1 with
  | .error error => .isTrue fun _ actor hok => by cases h.symm.trans hok
  | .ok actor => decidable_of_iff (¬ check.On start) ⟨fun hother hon => absurd hon hother, fun hfails hon => hfails hon actor h⟩

/-- The failures from an instant on, for 60 seconds. -/
def failedFrom (failed : List DateTime) (first : DateTime) : Nat :=
  failed.countP fun instant => decide (first ≤ instant ∧ instant < first.addSeconds 60)

/-- The failures after an instant, up to 60 seconds later. -/
def failedAfter (failed : List DateTime) (first : DateTime) : Nat :=
  failed.countP fun instant => decide (first < instant ∧ instant ≤ first.addSeconds 60)

section Steps

variable {env start} {store : TenancyStore} {check : KeyCheck}

def freshAt (now instant : DateTime) : Bool := decide (now.addSeconds (-apiKeyFailedAuthWindowSeconds) < instant)

theorem freshAt_later {now later instant : DateTime} (hle : now ≤ later) (h : freshAt later instant = true) :
    freshAt now instant = true := by
  have hle : now.nanos ≤ later.nanos := hle
  have hlater : later.nanos + -60 * 1000000000 < instant.nanos := of_decide_eq_true h
  refine decide_eq_true ?_
  show now.nanos + -60 * 1000000000 < instant.nanos
  omega

/-- Spans of which any two instants are less than 60 seconds apart. -/
def WithinMinute (span : DateTime → Bool) : Prop :=
  ∀ instant other, span instant = true → span other = true → freshAt instant other = true

theorem withinMinute_from (first : DateTime) :
    WithinMinute fun instant => decide (first ≤ instant ∧ instant < first.addSeconds 60) := by
  intro instant other hinstant hother
  have hend : instant.nanos < first.nanos + 60 * 1000000000 := (of_decide_eq_true hinstant).2
  have hfirst : first.nanos ≤ other.nanos := (of_decide_eq_true hother).1
  refine decide_eq_true ?_
  show instant.nanos + -60 * 1000000000 < other.nanos
  omega

theorem withinMinute_after (first : DateTime) :
    WithinMinute fun instant => decide (first < instant ∧ instant ≤ first.addSeconds 60) := by
  intro instant other hinstant hother
  have hend : instant.nanos ≤ first.nanos + 60 * 1000000000 := (of_decide_eq_true hinstant).2
  have hfirst : first.nanos < other.nanos := (of_decide_eq_true hother).1
  refine decide_eq_true ?_
  show instant.nanos + -60 * 1000000000 < other.nanos
  omega

theorem failedApiKeyAuth_log (store : TenancyStore) (throttleKey : String) (now : DateTime) :
    (store.failedApiKeyAuth throttleKey now).1 = (store.failedLog throttleKey).filter (freshAt now) ∧
      (store.failedApiKeyAuth throttleKey now).2.failedLog throttleKey =
        (store.failedLog throttleKey).filter (freshAt now) := by
  refine ⟨rfl, ?_⟩
  unfold TenancyStore.failedLog TenancyStore.failedApiKeyAuth
  rw [AList.lookup_insert]
  rfl

theorem recordApiKeyFailedAuth_log (store : TenancyStore) (throttleKey : String) (now : DateTime) :
    (store.recordApiKeyFailedAuth throttleKey now).failedLog throttleKey =
      (store.failedLog throttleKey).filter (freshAt now) ++ [now] := by
  unfold TenancyStore.failedLog TenancyStore.recordApiKeyFailedAuth
  rw [AList.lookup_insert]
  rfl

theorem findApiKey_total {presentedKey start : String} {now : DateTime} {candidates : List ApiKeyRecord}
    (h : ∀ candidate ∈ candidates, ∃ verified, env.verifySecret presentedKey candidate.secretHash = .ok verified) :
    ∃ found, findApiKey env presentedKey start now candidates = .ok found := by
  induction candidates with
  | nil => exact ⟨none, rfl⟩
  | cons candidate candidates ih =>
    obtain ⟨found, hfound⟩ := ih fun other hother => h other (.tail _ hother)
    obtain ⟨verified, hverified⟩ := h candidate (.head _)
    rw [findApiKey]
    split
    · exact ⟨found, hfound⟩
    · cases verified with
      | true => exact ⟨some candidate, by rw [hverified]; rfl⟩
      | false => exact ⟨found, by rw [hverified]; exact hfound⟩

/-- A call on another prefix, or with a malformed key, leaves what is recorded for the prefix. -/
theorem answer_otherPrefix (h : ¬ check.On start) :
    (check.answer env store).2.apiKeyFailedAuth.lookup start = store.apiKeyFailedAuth.lookup start := by
  unfold KeyCheck.answer verifyApiKey
  split
  · rfl
  rename_i other hother
  have hne : start ≠ other := fun heq => h (heq ▸ hother)
  have hpruned : (store.failedApiKeyAuth other check.now).2.apiKeyFailedAuth.lookup start =
      store.apiKeyFailedAuth.lookup start := AList.lookup_insert_ne hne
  have hrecorded (before : TenancyStore) : (before.recordApiKeyFailedAuth other check.now).apiKeyFailedAuth.lookup start =
      before.apiKeyFailedAuth.lookup start :=
    (AList.lookup_insert_ne hne).trans (AList.lookup_insert_ne hne)
  simp only
  split
  · exact hpruned
  split
  · exact (hrecorded _).trans hpruned
  split
  · exact hpruned
  · exact (hrecorded _).trans hpruned
  · exact (AList.lookup_erase_ne hne).trans hpruned

theorem failedApiKeyAuth_otherPrefix (h : ¬ check.On start) (now : DateTime) :
    ((check.answer env store).2.failedApiKeyAuth start now).1 = (store.failedApiKeyAuth start now).1 := by
  rw [(failedApiKeyAuth_log _ _ _).1, (failedApiKeyAuth_log _ _ _).1, TenancyStore.failedLog, TenancyStore.failedLog,
    answer_otherPrefix h]

/-- What a call on the prefix does to its log when it does not succeed. -/
theorem answer_onPrefix (hhashes : HashesWellFormed env store) (hon : check.On start)
    (hfails : ∀ actor, (check.answer env store).1 ≠ .ok actor) :
    (∃ error, (check.answer env store).1 = .error error) ∧
      (check.answer env store).2.failedLog start =
        if store.apiKeyFailedAuthAllowed start check.now = true then
          (store.failedLog start).filter (freshAt check.now) ++ [check.now]
        else (store.failedLog start).filter (freshAt check.now) := by
  have hlog := failedApiKeyAuth_log store start check.now
  have hrecorded : ((store.failedApiKeyAuth start check.now).2.recordApiKeyFailedAuth start check.now).failedLog start =
      (store.failedLog start).filter (freshAt check.now) ++ [check.now] := by
    rw [recordApiKeyFailedAuth_log, hlog.2, List.filter_filter]
    simp only [Bool.and_self]
  unfold KeyCheck.answer verifyApiKey at *
  rw [show keyPrefix check.presentedKey = .ok start from hon] at *
  simp only at *
  unfold TenancyStore.apiKeyFailedAuthAllowed
  split
  · rename_i hblocked
    rw [decide_eq_false (not_lt.mpr hblocked)]
    exact ⟨⟨_, rfl⟩, hlog.2⟩
  rename_i hroom
  rw [if_neg hroom] at hfails
  rw [decide_eq_true (not_le.mp hroom)]
  split
  · exact ⟨⟨_, rfl⟩, hrecorded⟩
  rename_i hcandidates
  rw [if_neg hcandidates] at hfails
  have hverifies : ∃ found, findApiKey env check.presentedKey start check.now
      ((store.failedApiKeyAuth start check.now).2.candidatesByPrefix start) = .ok found :=
    findApiKey_total fun candidate hcandidate =>
      have hstored : StoredKey store candidate := candidatesByPrefix_stored hcandidate
      hhashes candidate (mem_listed.mpr hstored) check.presentedKey
  obtain ⟨found, hfound⟩ := hverifies
  rw [hfound] at hfails ⊢
  cases found with
  | none => exact ⟨⟨_, rfl⟩, hrecorded⟩
  | some candidate => exact absurd rfl (hfails _)

/-- The log of the prefix covers the failures, and no span of a minute holds more of them than are allowed. -/
structure Throttled (env : AuthEnv) (start : String) (s : ThrottledRun) (now : DateTime) : Prop where
  hashes : HashesWellFormed env s.store
  covers : CoversFresh (freshAt now) (s.store.failedLog start) s.failed
  bounded : SpansBounded WithinMinute apiKeyFailedAuthMaxAttempts s.failed

variable {s : ThrottledRun}

theorem Throttled.later {now later : DateTime} (h : Throttled env start s now) (hle : now ≤ later) :
    Throttled env start s later :=
  ⟨h.hashes, h.covers.mono fun _ hfresh => freshAt_later hle hfresh, h.bounded⟩

theorem checkStep_store (s : ThrottledRun) (check : KeyCheck) :
    (checkStep env start s check).store = (check.answer env s.store).2 := by
  unfold checkStep
  split
  · rename_i heq
    rw [heq]
  · rename_i heq
    split <;> rw [heq]

theorem checkStep_otherPrefix (h : ¬ check.On start) : (checkStep env start s check).failed = s.failed := by
  unfold checkStep
  split
  · rfl
  · rw [if_neg fun hon => h hon.1]

theorem checkStep_onPrefix (hon : check.On start) {error : GatewayError} (herror : (check.answer env s.store).1 = .error error) :
    (checkStep env start s check).failed =
      if s.store.apiKeyFailedAuthAllowed start check.now = true then check.now :: s.failed else s.failed := by
  have hanswer : check.answer env s.store = (.error error, (check.answer env s.store).2) := Prod.ext herror rfl
  rw [checkStep, hanswer]
  simp only [hon, true_and]
  split <;> rfl

theorem Throttled.checked (h : Throttled env start s check.now) (hfails : Unverified env start s check) :
    Throttled env start (checkStep env start s check) check.now := by
  have hhashes : HashesWellFormed env (checkStep env start s check).store := by
    rw [checkStep_store, HashesWellFormed, show (check.answer env s.store).2.apiKeys = s.store.apiKeys from
      (verifyApiKey_sameKeys env s.store _ _ _ _).apiKeys]
    exact h.hashes
  by_cases hon : check.On start
  · obtain ⟨⟨error, herror⟩, hlog⟩ := answer_onPrefix h.hashes hon (hfails hon)
    refine ⟨hhashes, ?_, ?_⟩
    · rw [checkStep_store, checkStep_onPrefix hon herror, hlog]
      split
      · exact h.covers.filter.push check.now
      · exact h.covers.filter
    · rw [checkStep_onPrefix hon herror]
      split
      · rename_i hallowed
        have hroom : ((s.store.failedLog start).filter (freshAt check.now)).length < apiKeyFailedAuthMaxAttempts :=
          of_decide_eq_true hallowed
        exact h.bounded.push h.covers hroom fun span hspan hin instant hother => hspan check.now instant hin hother
      · exact h.bounded
  · refine ⟨hhashes, ?_, ?_⟩
    · rw [checkStep_store, checkStep_otherPrefix hon, TenancyStore.failedLog, answer_otherPrefix hon]
      exact h.covers
    · rw [checkStep_otherPrefix hon]
      exact h.bounded

/-- Times that do not decrease keep the log of one call good for the next. -/
theorem Throttled.run {checks : List KeyCheck} (hordered : checks.Pairwise fun a b => a.now ≤ b.now)
    (hfails : Meets (fun s check => some (checkStep env start s check)) (Unverified env start) s checks)
    (hbounded : SpansBounded WithinMinute apiKeyFailedAuthMaxAttempts s.failed)
    (h : ∀ check ∈ checks, Throttled env start s check.now) :
    SpansBounded WithinMinute apiKeyFailedAuthMaxAttempts (checks.foldl (checkStep env start) s).failed := by
  induction checks generalizing s with
  | nil => exact hbounded
  | cons check checks ih =>
    obtain ⟨hlater, hordered⟩ := List.pairwise_cons.mp hordered
    obtain ⟨hunverified, hfails⟩ := hfails
    have hnext : Throttled env start (checkStep env start s check) check.now :=
      (h check (.head _)).checked hunverified
    exact ih hordered (hfails _ rfl) hnext.bounded fun other hother => hnext.later (hlater other hother)

end Steps

theorem failedChecks_throttled {env : AuthEnv} {start : String} {store : TenancyStore}
    (hhashes : HashesWellFormed env store) {checks : List KeyCheck}
    (hordered : checks.Pairwise fun earlier later => earlier.now ≤ later.now)
    (hfails : Meets (fun s check => some (checkStep env start s check)) (Unverified env start) ⟨store, []⟩ checks) :
    (∀ first,
      failedFrom (checks.foldl (checkStep env start) ⟨store, []⟩).failed first ≤ apiKeyFailedAuthMaxAttempts ∧
        failedAfter (checks.foldl (checkStep env start) ⟨store, []⟩).failed first ≤ apiKeyFailedAuthMaxAttempts) ∧
      ∀ (store : TenancyStore) (check : KeyCheck) (now : DateTime), ¬ check.On start →
        (check.answer env store).2.apiKeyFailedAuthAllowed start now = store.apiKeyFailedAuthAllowed start now := by
  have hempty : SpansBounded WithinMinute apiKeyFailedAuthMaxAttempts ([] : List DateTime) :=
    fun span _ => Nat.zero_le _
  have hbounded := Throttled.run hordered hfails hempty fun check _ => ⟨hhashes, .nil, hempty⟩
  refine ⟨fun first => ⟨hbounded _ (withinMinute_from first), hbounded _ (withinMinute_after first)⟩,
    fun store check now hother => ?_⟩
  unfold TenancyStore.apiKeyFailedAuthAllowed
  rw [failedApiKeyAuth_otherPrefix hother]

section Examples

def throttledStore : TenancyStore := TenancyStore.empty.insertApiKey (firstKey .active)

def wrongKeyAt (seconds : Int) : KeyCheck := ⟨"swg_0123456789abcdefX", "req_1", "tr_1", ⟨seconds * 1000000000⟩⟩

def tenWrongKeys : List KeyCheck := List.replicate 9 (wrongKeyAt 0) ++ [wrongKeyAt 60]

/-- The ninth call is turned away by the throttle, the tenth comes when the first eight are 60 seconds old. -/
theorem tenWrongKeys_throttled :
    (tenWrongKeys.foldl (checkStep rotationEnv "swg_0123456789ab") ⟨throttledStore, []⟩).failed.length = 9 ∧
      ∀ first, failedFrom (tenWrongKeys.foldl (checkStep rotationEnv "swg_0123456789ab") ⟨throttledStore, []⟩).failed
        first ≤ 8 := by
  have hhashes : HashesWellFormed rotationEnv throttledStore := fun record _ presentedKey => ⟨_, rfl⟩
  have hordered : tenWrongKeys.Pairwise fun earlier later => earlier.now ≤ later.now := by decide +kernel
  have hfails : Meets (fun s check => some (checkStep rotationEnv "swg_0123456789ab" s check))
      (Unverified rotationEnv "swg_0123456789ab") ⟨throttledStore, []⟩ tenWrongKeys := by decide +kernel
  exact ⟨by decide +kernel, fun first => ((failedChecks_throttled hhashes hordered hfails).1 first).1⟩

end Examples

end Starweaver.Gateway.Tenancy
