import Starweaver.Gateway.LedgerKeys

namespace Starweaver.Gateway

open Library Library.Calendar Library.MachineInt Library.Separated

def foldedBucket (kind : BucketKind) (events : List UsageEventRecord) : Option LedgerBucketRecord :=
  events.foldl (fun bucket event => some ((bucket.getD (.opened event kind)).add event)) none

theorem foldedBucket_append (kind : BucketKind) (events : List UsageEventRecord) (event : UsageEventRecord) :
    foldedBucket kind (events ++ [event]) =
      some (((foldedBucket kind events).getD (.opened event kind)).add event) := by
  simp [foldedBucket]

theorem foldedBucket_cons (kind : BucketKind) (first : UsageEventRecord) (rest : List UsageEventRecord) :
    ∃ bucket, foldedBucket kind (first :: rest) = some bucket ∧
      bucket.toUsageDimensions = first.toUsageDimensions ∧ bucket.bucketKind = kind ∧
      bucket.bucketStart = usageBucketStart kind first.occurredAt ∧
      bucket.counters = (((first :: rest).map UsageEventRecord.counters).sum).map wrap := by
  induction rest using List.reverseRecOn with
  | nil => exact ⟨_, rfl, rfl, rfl, rfl, by simp [LedgerBucketRecord.add, LedgerBucketRecord.opened]⟩
  | append_singleton rest event ih =>
    obtain ⟨bucket, hfold, hdims, hkind, hstart, hcounters⟩ := ih
    refine ⟨bucket.add event, ?_, hdims, hkind, hstart, ?_⟩
    · rw [← List.cons_append, foldedBucket_append, hfold, Option.getD_some]
    · rw [← List.cons_append, List.map_append, List.sum_append]
      simp only [LedgerBucketRecord.add, hcounters, UsageCounters.map_wrap_add, List.map_cons, List.map_nil,
        List.sum_cons, List.sum_nil, add_zero]

theorem bucketKey_kind {a b : UsageEventRecord} {kind kind' : BucketKind} (h : a.bucketKey kind = b.bucketKey kind') :
    kind = kind' :=
  (usageBucketKey_suffix h).1

theorem lookup_fold_ne (record : UsageEventRecord) {kinds : List BucketKind} {key : String}
    (h : ∀ kind ∈ kinds, key ≠ record.bucketKey kind) (buckets : LedgerBuckets) :
    (kinds.foldl (fun buckets kind => foldUsageEventIntoBucket buckets record kind) buckets).lookup key =
      buckets.lookup key := by
  induction kinds generalizing buckets with
  | nil => rfl
  | cons kind kinds ih =>
    rw [List.foldl_cons, ih (fun other hother => h other (List.mem_cons_of_mem _ hother))]
    exact AList.lookup_insert_ne (h kind List.mem_cons_self)

theorem lookup_fold_self (record : UsageEventRecord) {kinds : List BucketKind} (hnodup : kinds.Nodup)
    {kind : BucketKind} (hkind : kind ∈ kinds) (buckets : LedgerBuckets) :
    (kinds.foldl (fun buckets kind => foldUsageEventIntoBucket buckets record kind) buckets).lookup
        (record.bucketKey kind) =
      some (((buckets.lookup (record.bucketKey kind)).getD (.opened record kind)).add record) := by
  induction kinds generalizing buckets with
  | nil => cases hkind
  | cons head kinds ih =>
    obtain ⟨hhead, hrest⟩ := List.nodup_cons.mp hnodup
    rw [List.foldl_cons]
    rcases List.mem_cons.mp hkind with rfl | hmem
    · rw [lookup_fold_ne record]
      · exact AList.lookup_insert _
      · intro other hother heq
        have hsame : kind = other := bucketKey_kind heq
        exact hhead (hsame ▸ hother)
    · have hne : record.bucketKey kind ≠ record.bucketKey head := by
        intro heq
        have hsame : kind = head := bucketKey_kind heq
        exact hhead (hsame ▸ hmem)
      rw [ih hrest hmem]
      unfold foldUsageEventIntoBucket
      rw [AList.lookup_insert_ne hne]

/-- The map of buckets is determined by the events: one folded bucket for each kind and key. -/
structure LedgerReflects (events : List UsageEventRecord) (buckets : LedgerBuckets) : Prop where
  folded : ∀ kind key, (∃ event ∈ events, event.bucketKey kind = key) →
    buckets.lookup key = foldedBucket kind (events.filter fun event => event.bucketKey kind = key)
  origin : ∀ key bucket, buckets.lookup key = some bucket → ∃ kind, ∃ event ∈ events, event.bucketKey kind = key

theorem LedgerReflects.lookup {events : List UsageEventRecord} {buckets : LedgerBuckets}
    (h : LedgerReflects events buckets) (record : UsageEventRecord) (kind : BucketKind) :
    buckets.lookup (record.bucketKey kind) =
      foldedBucket kind (events.filter fun event => event.bucketKey kind = record.bucketKey kind) := by
  by_cases hex : ∃ event ∈ events, event.bucketKey kind = record.bucketKey kind
  · exact h.folded kind _ hex
  · have hempty : events.filter (fun event => event.bucketKey kind = record.bucketKey kind) = [] := by
      simpa using hex
    rw [hempty]
    cases hlookup : buckets.lookup (record.bucketKey kind) with
    | none => rfl
    | some bucket =>
      obtain ⟨kind', event, hmem, hkey⟩ := h.origin _ _ hlookup
      obtain rfl : kind' = kind := bucketKey_kind hkey
      exact absurd ⟨event, hmem, hkey⟩ hex

theorem mem_bucketKinds (kind : BucketKind) : kind ∈ bucketKinds := by
  cases kind <;> decide

theorem LedgerReflects.append {events : List UsageEventRecord} {buckets : LedgerBuckets}
    (h : LedgerReflects events buckets) (record : UsageEventRecord) :
    LedgerReflects (events ++ [record])
      (bucketKinds.foldl (fun buckets kind => foldUsageEventIntoBucket buckets record kind) buckets) := by
  constructor
  · intro kind key hex
    by_cases hkey : record.bucketKey kind = key
    · subst hkey
      rw [lookup_fold_self record (by decide) (mem_bucketKinds kind), h.lookup record kind, List.filter_append]
      simp only [decide_true, List.filter_cons_of_pos, List.filter_nil, foldedBucket_append]
    · obtain ⟨event, hmem, hevent⟩ := hex
      have hold : event ∈ events := by
        rcases List.mem_append.mp hmem with hmem | hmem
        · exact hmem
        · rw [List.mem_singleton.mp hmem] at hevent
          exact absurd hevent hkey
      rw [lookup_fold_ne record, h.folded kind key ⟨event, hold, hevent⟩, List.filter_append]
      · simp [hkey]
      · intro other _ heq
        obtain rfl : kind = other := bucketKey_kind (hevent.trans heq)
        exact hkey heq.symm
  · intro key bucket hlookup
    by_cases hkey : ∃ kind, record.bucketKey kind = key
    · obtain ⟨kind, hkind⟩ := hkey
      exact ⟨kind, record, by simp, hkind⟩
    · rw [lookup_fold_ne record (fun kind _ heq => hkey ⟨kind, heq.symm⟩)] at hlookup
      obtain ⟨kind, event, hmem, hevent⟩ := h.origin key bucket hlookup
      exact ⟨kind, event, List.mem_append_left _ hmem, hevent⟩

/-- The events that are kept: the first of each event id and of each request of a tenant. -/
def acceptedFrom (accepted : List UsageEventRecord) (records : List UsageEventRecord) : List UsageEventRecord :=
  records.foldl (fun accepted record =>
    if UsageStore.isDuplicate accepted record then accepted else accepted ++ [record]) accepted

def Distinct (event other : UsageEventRecord) : Prop :=
  event.usageEventId ≠ other.usageEventId ∧ ¬ (event.tenantId = other.tenantId ∧ event.requestId = other.requestId)

theorem isDuplicate_eq_false (events : List UsageEventRecord) (record : UsageEventRecord) :
    UsageStore.isDuplicate events record = false ↔ ∀ event ∈ events, Distinct event record := by
  unfold UsageStore.isDuplicate Distinct
  simp

theorem pairwise_append_singleton {events : List UsageEventRecord} {record : UsageEventRecord} :
    (events ++ [record]).Pairwise Distinct ↔ events.Pairwise Distinct ∧ ∀ event ∈ events, Distinct event record := by
  simp [List.pairwise_append]

theorem pairwise_acceptedFrom {accepted : List UsageEventRecord} (h : accepted.Pairwise Distinct)
    (records : List UsageEventRecord) : (acceptedFrom accepted records).Pairwise Distinct := by
  induction records generalizing accepted with
  | nil => exact h
  | cons record records ih =>
    simp only [acceptedFrom, List.foldl_cons]
    split
    · exact ih h
    · rename_i hdup
      have hfresh := (isDuplicate_eq_false accepted record).mp (by simpa using hdup)
      exact ih (pairwise_append_singleton.mpr ⟨h, hfresh⟩)

theorem acceptedFrom_of_pairwise {accepted : List UsageEventRecord} (records : List UsageEventRecord)
    (h : (accepted ++ records).Pairwise Distinct) : acceptedFrom accepted records = accepted ++ records := by
  induction records generalizing accepted with
  | nil => simp [acceptedFrom]
  | cons record records ih =>
    rw [List.append_cons] at h ⊢
    have hfront := (List.pairwise_append.mp h).1
    have hfresh := (isDuplicate_eq_false accepted record).mpr (pairwise_append_singleton.mp hfront).2
    have hnext : acceptedFrom accepted (record :: records) = acceptedFrom (accepted ++ [record]) records := by
      simp only [acceptedFrom, List.foldl_cons, hfresh, Bool.false_eq_true, if_false]
    rw [hnext, ih h]

theorem mem_of_mem_acceptedFrom {accepted records : List UsageEventRecord} {event : UsageEventRecord}
    (h : event ∈ acceptedFrom accepted records) : event ∈ accepted ∨ event ∈ records := by
  induction records generalizing accepted with
  | nil => exact .inl h
  | cons record records ih =>
    simp only [acceptedFrom, List.foldl_cons] at h
    split at h
    · exact (ih h).imp_right (List.mem_cons_of_mem _)
    · rcases ih h with hmem | hmem
      · rcases List.mem_append.mp hmem with hold | hnew
        · exact .inl hold
        · exact .inr (List.mem_cons.mpr (.inl (List.mem_singleton.mp hnew)))
      · exact .inr (List.mem_cons_of_mem _ hmem)

theorem recordUsageEvent_duplicate {store : UsageStore} {event : UsageEventRecord}
    (hdup : UsageStore.isDuplicate store.usageEvents event = true) : store.recordUsageEvent event = store :=
  if_pos hdup

theorem recordUsageEvent_new {store : UsageStore} {event : UsageEventRecord}
    (hnew : UsageStore.isDuplicate store.usageEvents event = false) :
    store.recordUsageEvent event = ⟨store.usageEvents ++ [event],
      bucketKinds.foldl (fun buckets kind => foldUsageEventIntoBucket buckets event kind) store.ledgerBuckets⟩ :=
  if_neg (by simp [hnew])

theorem recordUsageEvent_reflects {store : UsageStore} (h : LedgerReflects store.usageEvents store.ledgerBuckets)
    (event : UsageEventRecord) :
    LedgerReflects (store.recordUsageEvent event).usageEvents (store.recordUsageEvent event).ledgerBuckets := by
  cases hdup : UsageStore.isDuplicate store.usageEvents event with
  | true => rwa [recordUsageEvent_duplicate hdup]
  | false =>
    rw [recordUsageEvent_new hdup]
    exact h.append event

theorem recordAll_reflects {store : UsageStore} (h : LedgerReflects store.usageEvents store.ledgerBuckets)
    (records : List UsageEventRecord) :
    (store.recordAll records).usageEvents = acceptedFrom store.usageEvents records ∧
      LedgerReflects (store.recordAll records).usageEvents (store.recordAll records).ledgerBuckets := by
  induction records generalizing store with
  | nil => exact ⟨rfl, h⟩
  | cons record records ih =>
    obtain ⟨hevents, hreflects⟩ := ih (recordUsageEvent_reflects h record)
    refine ⟨hevents.trans ?_, hreflects⟩
    simp only [acceptedFrom, List.foldl_cons]
    cases hdup : UsageStore.isDuplicate store.usageEvents record with
    | true => simp [recordUsageEvent_duplicate hdup]
    | false => simp [recordUsageEvent_new hdup]

theorem recordAll_empty (records : List UsageEventRecord) :
    (UsageStore.empty.recordAll records).usageEvents = acceptedFrom [] records ∧
      LedgerReflects (acceptedFrom [] records) (UsageStore.empty.recordAll records).ledgerBuckets := by
  have hempty : LedgerReflects UsageStore.empty.usageEvents UsageStore.empty.ledgerBuckets :=
    ⟨by simp [UsageStore.empty], by simp [UsageStore.empty]⟩
  obtain ⟨hevents, hreflects⟩ := recordAll_reflects hempty records
  exact ⟨hevents, hevents ▸ hreflects⟩

def UsageCounters.Fits (counters : UsageCounters) : Prop := ∀ n ∈ counters.toList, i64Min ≤ n ∧ n ≤ i64Max

theorem UsageCounters.fits_iff (counters : UsageCounters) : counters.Fits ↔ counters.map wrap = counters := by
  simp only [Fits, toList, List.forall_mem_cons, List.not_mem_nil, IsEmpty.forall_iff, implies_true, and_true,
    ← wrap_eq_self_iff, UsageCounters.ext_iff, map]

theorem UsageCounters.map_wrap_fits (counters : UsageCounters) : (counters.map wrap).Fits := by
  simp only [Fits, toList, map, List.forall_mem_cons, List.not_mem_nil, IsEmpty.forall_iff, implies_true, and_true,
    wrap_bounds]

structure UsageEventRecord.Safe (event : UsageEventRecord) : Prop where
  dimensions : event.toUsageDimensions.Safe
  after_first : DateTime.minTimestamp ≤ event.occurredAt.timestamp
  before_last : event.occurredAt.timestamp ≤ DateTime.maxTimestamp

/-- The bucket has the dimensions of the event and starts where the event's bucket of this kind starts. -/
def CountedIn (event : UsageEventRecord) (bucket : LedgerBucketRecord) : Prop :=
  bucket.toUsageDimensions = event.toUsageDimensions ∧
    bucket.bucketStart = usageBucketStart bucket.bucketKind event.occurredAt

instance (event : UsageEventRecord) (bucket : LedgerBucketRecord) : Decidable (CountedIn event bucket) :=
  inferInstanceAs (Decidable (_ ∧ _))

def countersOf (events : List UsageEventRecord) : UsageCounters := (events.map UsageEventRecord.counters).sum

def LedgerBucketRecord.figures (bucket : LedgerBucketRecord) :
    UsageDimensions × BucketKind × DateTime × UsageCounters :=
  (bucket.toUsageDimensions, bucket.bucketKind, bucket.bucketStart, bucket.counters)

structure Conserves (accepted : List UsageEventRecord) (buckets : LedgerBuckets) : Prop where
  one_bucket : ∀ event ∈ accepted, ∀ kind, ∃! key, ∃ bucket, buckets.lookup key = some bucket ∧
    bucket.bucketKind = kind ∧ CountedIn event bucket
  sums : ∀ key bucket, buckets.lookup key = some bucket →
    bucket.counters = countersOf (accepted.filter fun event => CountedIn event bucket)
  reorder : ∀ order, order.Perm accepted → ∀ key,
    ((UsageStore.empty.recordAll order).ledgerBuckets.lookup key).map (·.figures) =
      (buckets.lookup key).map (·.figures)

def SameBucket (kind : BucketKind) (event other : UsageEventRecord) : Prop :=
  other.toUsageDimensions = event.toUsageDimensions ∧
    usageBucketStart kind other.occurredAt = usageBucketStart kind event.occurredAt

instance (kind : BucketKind) (event other : UsageEventRecord) : Decidable (SameBucket kind event other) :=
  inferInstanceAs (Decidable (_ ∧ _))

structure LedgerExact (accepted : List UsageEventRecord) : Prop where
  no_clash : ∀ event ∈ accepted, ∀ other ∈ accepted, other.toUsageDimensions = event.toUsageDimensions →
    other.occurredAt.timestamp = event.occurredAt.timestamp → other.occurredAt = event.occurredAt
  fits : ∀ event ∈ accepted, ∀ kind, (countersOf (accepted.filter fun other => SameBucket kind event other)).Fits

theorem timestamp_mul (seconds : Int) : (DateTime.mk (seconds * 1000000000)).timestamp = seconds := by
  exact Int.mul_ediv_cancel seconds (by decide)

theorem usageBucketStart_wholeSecond {event : UsageEventRecord} (h : event.Safe) {kind : BucketKind}
    (hkind : kind ≠ .event) : ∃ seconds, usageBucketStart kind event.occurredAt = ⟨seconds * 1000000000⟩ := by
  have hmin := h.after_first
  have hmax := h.before_last
  have hrange : ∀ step : Int, 0 < step → DateTime.minTimestamp % step = 0 →
      DateTime.minTimestamp ≤ event.occurredAt.timestamp - event.occurredAt.timestamp % step ∧
      event.occurredAt.timestamp - event.occurredAt.timestamp % step ≤ DateTime.maxTimestamp := by
    intro step hstep hdvd
    have hnonneg := Int.emod_nonneg event.occurredAt.timestamp (ne_of_gt hstep)
    refine ⟨?_, by omega⟩
    have hmono := Int.ediv_le_ediv hstep hmin
    have h1 := Int.mul_ediv_add_emod DateTime.minTimestamp step
    have h2 := Int.mul_ediv_add_emod event.occurredAt.timestamp step
    have h3 := mul_le_mul_of_nonneg_left hmono hstep.le
    omega
  cases kind with
  | event => exact absurd rfl hkind
  | minute =>
    refine ⟨event.occurredAt.timestamp - event.occurredAt.timestamp % 60, ?_⟩
    simp only [usageBucketStart, DateTime.fromTimestamp, if_pos (hrange 60 (by decide) (by decide)), Option.getD_some]
  | hour =>
    refine ⟨event.occurredAt.timestamp - event.occurredAt.timestamp % 3600, ?_⟩
    simp only [usageBucketStart, DateTime.fromTimestamp, if_pos (hrange 3600 (by decide) (by decide)), Option.getD_some]
  | day =>
    refine ⟨event.occurredAt.timestamp - event.occurredAt.timestamp % 86400, ?_⟩
    simp only [usageBucketStart, DateTime.fromTimestamp, if_pos (hrange 86400 (by decide) (by decide)), Option.getD_some]
  | month => exact ⟨_, rfl⟩

theorem sameBucket_of_key {accepted : List UsageEventRecord} (hsafe : ∀ event ∈ accepted, event.Safe)
    (hexact : LedgerExact accepted) {event other : UsageEventRecord} (he : event ∈ accepted) (ho : other ∈ accepted)
    {kind : BucketKind} (h : other.bucketKey kind = event.bucketKey kind) : SameBucket kind event other := by
  have hdims := usageBucketKey_injective (hsafe other ho).dimensions (hsafe event he).dimensions h
  obtain ⟨-, htime⟩ := usageBucketKey_suffix h
  refine ⟨hdims, ?_⟩
  by_cases hkind : kind = .event
  · subst hkind
    exact hexact.no_clash event he other ho hdims htime
  · obtain ⟨seconds, hs⟩ := usageBucketStart_wholeSecond (hsafe event he) hkind
    obtain ⟨seconds', hs'⟩ := usageBucketStart_wholeSecond (hsafe other ho) hkind
    rw [hs, hs', timestamp_mul, timestamp_mul] at htime
    rw [hs, hs', htime]

theorem bucketKey_of_sameBucket {kind : BucketKind} {event other : UsageEventRecord}
    (h : SameBucket kind event other) : other.bucketKey kind = event.bucketKey kind := by
  unfold UsageEventRecord.bucketKey
  rw [h.1, h.2]

theorem LedgerReflects.bucket {accepted : List UsageEventRecord} {buckets : LedgerBuckets}
    (h : LedgerReflects accepted buckets) {key : String} {bucket : LedgerBucketRecord}
    (hlookup : buckets.lookup key = some bucket) :
    ∃ first ∈ accepted, first.bucketKey bucket.bucketKind = key ∧ CountedIn first bucket ∧
      bucket.counters =
        (countersOf (accepted.filter fun event => event.bucketKey bucket.bucketKind = key)).map wrap := by
  obtain ⟨kind, event, hevent, hkey⟩ := h.origin key bucket hlookup
  have hfold := h.folded kind key ⟨event, hevent, hkey⟩
  rw [hlookup] at hfold
  cases hgroup : accepted.filter (fun event => event.bucketKey kind = key) with
  | nil =>
    have hmem : event ∈ accepted.filter (fun event => event.bucketKey kind = key) := by simp [hevent, hkey]
    simp [hgroup] at hmem
  | cons first rest =>
    obtain ⟨folded, hfolded, hdims, hkind, hstart, hcounters⟩ := foldedBucket_cons kind first rest
    rw [hgroup, hfolded, Option.some.injEq] at hfold
    subst hfold
    subst hkind
    have hfirst : first ∈ accepted.filter (fun event => event.bucketKey bucket.bucketKind = key) := by
      rw [hgroup]
      exact List.mem_cons_self
    obtain ⟨hmem, hfirstKey⟩ := List.mem_filter.mp hfirst
    exact ⟨first, hmem, by simpa using hfirstKey, ⟨hdims, hstart⟩, by rw [hgroup, hcounters, countersOf]⟩

theorem LedgerReflects.exists_bucket {accepted : List UsageEventRecord} {buckets : LedgerBuckets}
    (h : LedgerReflects accepted buckets) {event : UsageEventRecord} (hevent : event ∈ accepted) (kind : BucketKind) :
    ∃ bucket, buckets.lookup (event.bucketKey kind) = some bucket ∧ bucket.bucketKind = kind := by
  have hfold := h.folded kind _ ⟨event, hevent, rfl⟩
  cases hlookup : buckets.lookup (event.bucketKey kind) with
  | none =>
    rw [hlookup] at hfold
    cases hgroup : accepted.filter (fun other => other.bucketKey kind = event.bucketKey kind) with
    | nil =>
      have hmem : event ∈ accepted.filter (fun other => other.bucketKey kind = event.bucketKey kind) := by
        simp [hevent]
      simp [hgroup] at hmem
    | cons first rest =>
      obtain ⟨folded, hfolded, -⟩ := foldedBucket_cons kind first rest
      rw [hgroup, hfolded] at hfold
      cases hfold
  | some bucket =>
    obtain ⟨first, -, hkey, -⟩ := h.bucket hlookup
    exact ⟨bucket, rfl, bucketKey_kind hkey⟩

theorem LedgerReflects.key_of_countedIn {accepted : List UsageEventRecord} {buckets : LedgerBuckets}
    (h : LedgerReflects accepted buckets) {key : String} {bucket : LedgerBucketRecord} {event : UsageEventRecord}
    (hlookup : buckets.lookup key = some bucket) (hcounted : CountedIn event bucket) :
    key = event.bucketKey bucket.bucketKind := by
  obtain ⟨first, -, hkey, hfirst, -⟩ := h.bucket hlookup
  rw [← hkey]
  exact bucketKey_of_sameBucket ⟨hfirst.1.symm.trans hcounted.1, hfirst.2.symm.trans hcounted.2⟩

section Exact

variable {accepted : List UsageEventRecord} {buckets : LedgerBuckets}

theorem filter_key_eq (hsafe : ∀ event ∈ accepted, event.Safe) (hexact : LedgerExact accepted)
    {event : UsageEventRecord} (hevent : event ∈ accepted) (kind : BucketKind) :
    (accepted.filter fun other => other.bucketKey kind = event.bucketKey kind) =
      accepted.filter fun other => SameBucket kind event other := by
  apply List.filter_congr
  intro other hother
  exact decide_eq_decide.mpr ⟨sameBucket_of_key hsafe hexact hevent hother, bucketKey_of_sameBucket⟩

theorem filter_countedIn_eq {event : UsageEventRecord} {bucket : LedgerBucketRecord} (h : CountedIn event bucket)
    (accepted : List UsageEventRecord) :
    (accepted.filter fun other => CountedIn other bucket) =
      accepted.filter fun other => SameBucket bucket.bucketKind event other := by
  apply List.filter_congr
  intro other _
  refine decide_eq_decide.mpr ?_
  unfold CountedIn SameBucket
  rw [h.1, h.2]
  exact ⟨fun hc => ⟨hc.1.symm, hc.2.symm⟩, fun hs => ⟨hs.1.symm, hs.2.symm⟩⟩

/-- Without clashes the bucket under the key of an event is the one that counts it, with the exact sums. -/
theorem LedgerReflects.figures_eq (h : LedgerReflects accepted buckets) (hsafe : ∀ event ∈ accepted, event.Safe)
    (hexact : LedgerExact accepted) {event : UsageEventRecord} (hevent : event ∈ accepted) (kind : BucketKind) :
    (buckets.lookup (event.bucketKey kind)).map (·.figures) =
      some (event.toUsageDimensions, kind, usageBucketStart kind event.occurredAt,
        countersOf (accepted.filter fun other => SameBucket kind event other)) := by
  obtain ⟨bucket, hlookup, rfl⟩ := h.exists_bucket hevent kind
  obtain ⟨first, hfirst, hkey, hcounted, hcounters⟩ := h.bucket hlookup
  have hsame := sameBucket_of_key hsafe hexact hevent hfirst hkey
  rw [filter_key_eq hsafe hexact hevent, (UsageCounters.fits_iff _).mp (hexact.fits event hevent _)] at hcounters
  rw [hlookup, Option.map_some, Option.some.injEq]
  unfold LedgerBucketRecord.figures
  rw [hcounted.1, hcounted.2, hsame.1, hsame.2, hcounters]

theorem conserves_one_bucket (h : LedgerReflects accepted buckets) (hsafe : ∀ event ∈ accepted, event.Safe)
    (hexact : LedgerExact accepted) {event : UsageEventRecord} (hevent : event ∈ accepted) (kind : BucketKind) :
    ∃! key, ∃ bucket, buckets.lookup key = some bucket ∧ bucket.bucketKind = kind ∧ CountedIn event bucket := by
  obtain ⟨bucket, hlookup, rfl⟩ := h.exists_bucket hevent kind
  have hfigures := h.figures_eq hsafe hexact hevent bucket.bucketKind
  rw [hlookup, Option.map_some, Option.some.injEq] at hfigures
  unfold LedgerBucketRecord.figures at hfigures
  simp only [Prod.mk.injEq] at hfigures
  refine ⟨_, ⟨bucket, hlookup, rfl, hfigures.1, hfigures.2.2.1⟩, ?_⟩
  rintro key ⟨other, hother, hkind, hcounted⟩
  rw [h.key_of_countedIn hother hcounted, hkind]

theorem conserves_sums (h : LedgerReflects accepted buckets) (hsafe : ∀ event ∈ accepted, event.Safe)
    (hexact : LedgerExact accepted) {key : String} {bucket : LedgerBucketRecord}
    (hlookup : buckets.lookup key = some bucket) :
    bucket.counters = countersOf (accepted.filter fun event => CountedIn event bucket) := by
  obtain ⟨first, hfirst, hkey, hcounted, -⟩ := h.bucket hlookup
  have hfigures := h.figures_eq hsafe hexact hfirst bucket.bucketKind
  rw [hkey, hlookup, Option.map_some, Option.some.injEq] at hfigures
  unfold LedgerBucketRecord.figures at hfigures
  simp only [Prod.mk.injEq] at hfigures
  rw [filter_countedIn_eq hcounted]
  exact hfigures.2.2.2

theorem LedgerExact.perm (hexact : LedgerExact accepted) {order : List UsageEventRecord}
    (hperm : order.Perm accepted) : LedgerExact order := by
  constructor
  · intro event hevent other hother
    exact hexact.no_clash event (hperm.mem_iff.mp hevent) other (hperm.mem_iff.mp hother)
  · intro event hevent kind
    have hsum : countersOf (order.filter fun other => SameBucket kind event other) =
        countersOf (accepted.filter fun other => SameBucket kind event other) :=
      ((hperm.filter _).map _).sum_eq
    rw [hsum]
    exact hexact.fits event (hperm.mem_iff.mp hevent) kind

theorem conserves_reorder (h : LedgerReflects accepted buckets) (hsafe : ∀ event ∈ accepted, event.Safe)
    (hexact : LedgerExact accepted) {order : List UsageEventRecord} (hperm : order.Perm accepted)
    (hkept : acceptedFrom [] order = order) (key : String) :
    ((UsageStore.empty.recordAll order).ledgerBuckets.lookup key).map (·.figures) =
      (buckets.lookup key).map (·.figures) := by
  have hreflects : LedgerReflects order (UsageStore.empty.recordAll order).ledgerBuckets := by
    have := (recordAll_empty order).2
    rwa [hkept] at this
  by_cases hkey : ∃ kind, ∃ event ∈ accepted, event.bucketKey kind = key
  · obtain ⟨kind, event, hevent, rfl⟩ := hkey
    rw [h.figures_eq hsafe hexact hevent kind, hreflects.figures_eq
      (fun event hmem => hsafe event (hperm.mem_iff.mp hmem)) (hexact.perm hperm) (hperm.mem_iff.mpr hevent) kind]
    have hsum : countersOf (order.filter fun other => SameBucket kind event other) =
        countersOf (accepted.filter fun other => SameBucket kind event other) :=
      ((hperm.filter _).map _).sum_eq
    rw [hsum]
  · have hnone : ∀ {events : List UsageEventRecord} {buckets : LedgerBuckets}, LedgerReflects events buckets →
        (∀ event ∈ events, event ∈ accepted) → buckets.lookup key = none := by
      intro events buckets hreflects hsub
      by_contra hsome
      obtain ⟨bucket, hlookup⟩ := Option.ne_none_iff_exists'.mp hsome
      obtain ⟨kind, event, hmem, heq⟩ := hreflects.origin key bucket hlookup
      exact hkey ⟨kind, event, hsub event hmem, heq⟩
    rw [hnone h fun _ hmem => hmem, hnone hreflects fun _ hmem => hperm.mem_iff.mp hmem]

theorem conserves_of_exact (records : List UsageEventRecord) (hsafe : ∀ event ∈ acceptedFrom [] records, event.Safe)
    (hexact : LedgerExact (acceptedFrom [] records)) :
    Conserves (acceptedFrom [] records) (UsageStore.empty.recordAll records).ledgerBuckets := by
  have h := (recordAll_empty records).2
  refine ⟨fun event hevent kind => conserves_one_bucket h hsafe hexact hevent kind,
    fun key bucket hlookup => conserves_sums h hsafe hexact hlookup, fun order hperm key => ?_⟩
  apply conserves_reorder h hsafe hexact hperm
  have hpairwise : order.Pairwise Distinct :=
    (List.Perm.pairwise_iff (fun hab => ⟨hab.1.symm, fun hba => hab.2 ⟨hba.1.symm, hba.2.symm⟩⟩) hperm).mpr
      (pairwise_acceptedFrom List.Pairwise.nil records)
  exact acceptedFrom_of_pairwise order hpairwise

theorem exact_of_conserves (h : LedgerReflects accepted buckets) (hconserves : Conserves accepted buckets) :
    LedgerExact accepted := by
  constructor
  · intro event hevent other hother hdims htime
    obtain ⟨key, ⟨bucket, hlookup, hkind, hcounted⟩, -⟩ := hconserves.one_bucket event hevent .event
    obtain ⟨key', ⟨bucket', hlookup', hkind', hcounted'⟩, -⟩ := hconserves.one_bucket other hother .event
    have hkey : key' = key := by
      rw [h.key_of_countedIn hlookup hcounted, h.key_of_countedIn hlookup' hcounted', hkind, hkind']
      simp only [UsageEventRecord.bucketKey, usageBucketKey, usageBucketStart, hdims, htime]
    rw [hkey, hlookup, Option.some.injEq] at hlookup'
    subst hlookup'
    have hstart := hcounted'.2.symm.trans hcounted.2
    rwa [hkind] at hstart
  · intro event hevent kind
    obtain ⟨key, ⟨bucket, hlookup, rfl, hcounted⟩, -⟩ := hconserves.one_bucket event hevent kind
    obtain ⟨first, -, -, -, hcounters⟩ := h.bucket hlookup
    rw [← filter_countedIn_eq hcounted, ← hconserves.sums key bucket hlookup, hcounters]
    exact UsageCounters.map_wrap_fits _

end Exact

/-- The ledger conserves its events exactly when no two of them with equal dimensions share a second without
sharing the instant, and every true sum fits its counter. -/
theorem recordAll_conserves_iff (records : List UsageEventRecord) (hsafe : ∀ event ∈ records, event.Safe) :
    Conserves (acceptedFrom [] records) (UsageStore.empty.recordAll records).ledgerBuckets ↔
      LedgerExact (acceptedFrom [] records) := by
  constructor
  · exact exact_of_conserves (recordAll_empty records).2
  · apply conserves_of_exact records
    intro event hevent
    rcases mem_of_mem_acceptedFrom hevent with hmem | hmem
    · cases hmem
    · exact hsafe event hmem

def sampleEvent (usageEventId requestId : String) (nanos : Int) : UsageEventRecord where
  tenantId := "tenant_1"
  organizationId := some "org_1"
  projectId := none
  principalId := none
  projectMemberId := none
  serviceAccountId := none
  apiKeyId := some "key_1"
  modelAliasId := some "alias_1"
  modelTargetId := some "target_a"
  providerEndpointId := some "ep_a"
  upstreamCredentialId := none
  routePolicyId := some "policy_1"
  routingGroupId := some "group_1"
  protocolFamily := .openAiResponses
  status := .success
  usageConfidence := .exact
  usageEventId := usageEventId
  requestId := requestId
  usagePayload := .object [("input_tokens", .number 7), ("output_tokens", .number 5)]
  costPayload := .object [("total_cost", .number 3)]
  occurredAt := ⟨nanos⟩

theorem sampleEvent_safe (usageEventId requestId : String) {nanos : Int} (hlow : 0 ≤ nanos)
    (hhigh : nanos ≤ 1000000000000) : (sampleEvent usageEventId requestId nanos).Safe := by
  have htenant : SafeId "tenant_1" := by decide
  refine ⟨⟨htenant, ?_⟩, ?_, ?_⟩
  · simp [sampleEvent, UsageDimensions.ids]
    decide
  · show DateTime.minTimestamp ≤ nanos / 1000000000
    unfold DateTime.minTimestamp
    omega
  · show nanos / 1000000000 ≤ DateTime.maxTimestamp
    unfold DateTime.maxTimestamp
    omega

theorem recordAll_not_conserves :
    ¬ ∀ records : List UsageEventRecord, (∀ event ∈ records, event.Safe) →
      Conserves (acceptedFrom [] records) (UsageStore.empty.recordAll records).ledgerBuckets := by
  intro hclaim
  have hsafe : ∀ event ∈ [sampleEvent "use_1" "req_1" 0, sampleEvent "use_2" "req_2" 500000000], event.Safe := by
    simp only [List.forall_mem_cons, List.not_mem_nil, IsEmpty.forall_iff, implies_true, and_true]
    exact ⟨sampleEvent_safe _ _ (by decide) (by decide), sampleEvent_safe _ _ (by decide) (by decide)⟩
  have hexact := exact_of_conserves (recordAll_empty _).2 (hclaim _ hsafe)
  have hsame := hexact.no_clash (sampleEvent "use_1" "req_1" 0) (by simp [acceptedFrom, sampleEvent, UsageStore.isDuplicate])
    (sampleEvent "use_2" "req_2" 500000000) (by simp [acceptedFrom, sampleEvent, UsageStore.isDuplicate]) rfl (by decide)
  exact absurd hsame (by decide)

theorem recordAll_conserves_distinct_seconds :
    Conserves [sampleEvent "use_1" "req_1" 0, sampleEvent "use_2" "req_2" 1500000000]
      (UsageStore.empty.recordAll
        [sampleEvent "use_1" "req_1" 0, sampleEvent "use_2" "req_2" 1500000000,
          sampleEvent "use_3" "req_1" 1700000000]).ledgerBuckets := by
  have haccepted : acceptedFrom [] [sampleEvent "use_1" "req_1" 0, sampleEvent "use_2" "req_2" 1500000000,
      sampleEvent "use_3" "req_1" 1700000000] =
      [sampleEvent "use_1" "req_1" 0, sampleEvent "use_2" "req_2" 1500000000] := by
    simp [acceptedFrom, sampleEvent, UsageStore.isDuplicate]
  have hiff := recordAll_conserves_iff [sampleEvent "use_1" "req_1" 0, sampleEvent "use_2" "req_2" 1500000000,
    sampleEvent "use_3" "req_1" 1700000000] (by
      simp only [List.forall_mem_cons, List.not_mem_nil, IsEmpty.forall_iff, implies_true, and_true]
      exact ⟨sampleEvent_safe _ _ (by decide) (by decide), sampleEvent_safe _ _ (by decide) (by decide),
        sampleEvent_safe _ _ (by decide) (by decide)⟩)
  rw [haccepted] at hiff
  refine hiff.mpr ⟨?_, ?_⟩
  · simp only [List.forall_mem_cons, List.not_mem_nil, IsEmpty.forall_iff, implies_true, and_true]
    decide
  · simp only [List.forall_mem_cons, List.not_mem_nil, IsEmpty.forall_iff, implies_true, and_true]
    constructor <;> intro kind <;> cases kind <;> unfold UsageCounters.Fits <;> decide

end Starweaver.Gateway
