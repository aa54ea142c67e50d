import Starweaver.Library.Machine
import Starweaver.Platform.PostgresStores

namespace Starweaver.Platform

open Library.AssocMap Library.Checks Library.Machine Library.OrderedMap

section Condition

variable (rows : ReferencedRows)

/-- The binding is new and its id is free, or it brings back the inactive binding that has its id. -/
def BindingAgrees (table : Index PlatformRoleBindingRecord) (request : PlatformRoleBindingUpsert) : Prop :=
  validateRoleBinding request.newRecord = .ok () ∧ Postgres.admitsRoleBinding rows request = true ∧
    match findOrdered request.equivalent table with
    | some (_, found) => found.roleBindingId = request.roleBindingId ∧ found.status ≠ .active
    | none => table.lookup request.roleBindingId = none

/-- The member is new and its id is free, or the request changes the member of the tenant that is there. -/
def OrganizationMemberAgrees (store : MembershipStore) (request : PlatformOrganizationMembershipUpsert) : Prop :=
  match findOrdered (Postgres.samePair request) store.organizationMembers with
  | some (_, row) =>
    validateOrganizationMember request.newRecord = .ok () ∧ Postgres.admitsOrganizationMember rows request = true ∧
      row.tenantId = request.tenantId ∧ (row.status ≠ .active ∨ row.membershipKind ≠ request.membershipKind)
  | none => validateOrganizationMember request.newRecord = .ok () →
    Postgres.admitsOrganizationMember rows request = true ∧
      store.organizationMembers.lookup request.organizationMemberId = none

def ProjectMemberAgrees (store : MembershipStore) (request : PlatformProjectMembershipUpsert) : Prop :=
  match findOrdered request.sameMember store.projectMembers with
  | some (_, row) =>
    validateProjectMember request.newRecord = .ok () ∧ Postgres.admitsProjectMember rows store request = true ∧
      row.tenantId = request.tenantId ∧ row.organizationId = request.organizationId ∧
      (row.status ≠ .active ∨ row.membershipKind ≠ request.membershipKind ∨
        row.organizationMemberId ≠ some request.organizationMemberId)
  | none => validateProjectMember request.newRecord = .ok () →
    Postgres.admitsProjectMember rows store request = true ∧
      store.projectMembers.lookup request.projectMemberId = none

/-- No disabled binding passes the test: the backends delete the same bindings. -/
def NoneDisabled (table : Index PlatformRoleBindingRecord) (test : PlatformRoleBindingRecord → Bool) : Prop :=
  ∀ id record, table.lookup id = some record → test record = true → record.status ≠ .disabled

def OrganizationRemovalAgrees (env : PlatformEnv) (store : AccessStore) (actor : AuthenticatedActor)
    (organizationId organizationMemberId : String) (expectedVersion : Int) : Prop :=
  ∀ member, organizationMemberForActor store actor organizationId organizationMemberId = .ok member →
    authorizeServiceAction store env.grants actor .organizationMemberWrite (organizationMemberResource member) = .ok () →
    member.resourceVersion = expectedVersion →
    NoneDisabled store.roleBindings fun record => record.tenantId == member.tenantId &&
      record.organizationId == some member.organizationId && record.principalId == member.principalId

def ProjectRemovalAgrees (env : PlatformEnv) (store : AccessStore) (actor : AuthenticatedActor)
    (projectId projectMemberId : String) (expectedVersion : Int) : Prop :=
  ∀ member, projectMemberForActor store actor projectId projectMemberId = .ok member →
    authorizeServiceAction store env.grants actor .projectMemberWrite (projectMemberResource member) = .ok () →
    member.resourceVersion = expectedVersion →
    NoneDisabled store.roleBindings fun record => record.tenantId == member.tenantId &&
      record.projectId == some member.projectId && record.principalId == member.principalId

def BackendsAgree (env : PlatformEnv) (store : AccessStore) (step : AuthenticatedActor × RepositoryCall) : Prop :=
  match step with
  | (actor, .createRoleBinding request newId) =>
    ∀ candidate, roleBindingCandidate env store actor request newId = .ok candidate →
      BindingAgrees rows store.roleBindings ((equivalentRoleBinding store candidate).getD candidate).toUpsert
  | (_, .updateRoleBindingStatus _ _) => True
  | (actor, .createOrganizationMember organizationId request newId) =>
    ∀ upsert, organizationMemberUpsert env store actor organizationId request newId = .ok upsert →
      OrganizationMemberAgrees rows store.memberships upsert
  | (actor, .updateOrganizationMemberStatus organizationId organizationMemberId request) =>
    membershipStatusFromRequest request.status = .ok .removed →
      OrganizationRemovalAgrees env store actor organizationId organizationMemberId request.expectedVersion
  | (actor, .removeOrganizationMember organizationId organizationMemberId expectedVersion) =>
    OrganizationRemovalAgrees env store actor organizationId organizationMemberId expectedVersion
  | (actor, .createProjectMember projectId request newId) =>
    ∀ upsert, projectMemberUpsert env store actor projectId request newId = .ok upsert →
      ProjectMemberAgrees rows store.memberships upsert
  | (actor, .updateProjectMemberStatus projectId projectMemberId request) =>
    membershipStatusFromRequest request.status = .ok .removed →
      ProjectRemovalAgrees env store actor projectId projectMemberId request.expectedVersion

end Condition

/-- The computations succeed together and with the same value. -/
def SameSuccess {ε ε' α : Type} (x : Except ε α) (y : Except ε' α) : Prop := ∀ a, x = .ok a ↔ y = .ok a

section SameSuccess

variable {ε ε' ε'' α β : Type} {x : Except ε α} {y : Except ε' α}

theorem SameSuccess.refl (x : Except ε α) : SameSuccess x x := fun _ => .rfl

theorem SameSuccess.ok (a : α) : SameSuccess (.ok a : Except ε α) (.ok a : Except ε' α) := by
  intro b
  simp

theorem SameSuccess.error (e : ε) (e' : ε') : SameSuccess (.error e : Except ε α) (.error e' : Except ε' α) := by
  intro b
  simp

theorem SameSuccess.mapError (h : SameSuccess x y) (f : ε → ε'') (g : ε' → ε'') :
    SameSuccess (x.mapError f) (y.mapError g) := by
  intro a
  rw [mapError_ok, mapError_ok]
  exact h a

theorem SameSuccess.bind (h : SameSuccess x y) {f : α → Except ε β} {g : α → Except ε' β}
    (hrest : ∀ a, x = .ok a → SameSuccess (f a) (g a)) : SameSuccess (x >>= f) (y >>= g) := by
  intro b
  rw [bind_ok, bind_ok]
  constructor
  · rintro ⟨a, ha, hb⟩
    exact ⟨a, (h a).mp ha, (hrest a ha b).mp hb⟩
  · rintro ⟨a, ha, hb⟩
    exact ⟨a, (h a).mpr ha, (hrest a ((h a).mpr ha) b).mpr hb⟩

theorem SameSuccess.orUnchanged {x y : Result AccessStore} (h : SameSuccess x y) (store : AccessStore) :
    store.orUnchanged x = store.orUnchanged y := by
  cases hx : x with
  | ok changed => rw [(h changed).mp hx]
  | error error =>
    cases hy : y with
    | ok changed => cases hx.symm.trans ((h changed).mpr hy)
    | error other => rfl

end SameSuccess

section Upserts

variable {rows : ReferencedRows} {store : MembershipStore}

theorem upsertRoleBinding_agrees {table : Index PlatformRoleBindingRecord} (hkeyed : Keyed (·.roleBindingId) table)
    {request : PlatformRoleBindingUpsert} (h : BindingAgrees rows table request) :
    ∃ row, Postgres.upsertRoleBinding rows table request = .ok (row, (upsertRoleBinding table request).1) := by
  obtain ⟨hvalid, hadmits, hmatch⟩ := h
  simp only [Postgres.upsertRoleBinding, upsertRoleBinding, hvalid, hadmits]
  cases hfound : findOrdered request.equivalent table with
  | none =>
    simp only [hfound] at hmatch
    simp only [hmatch]
    exact ⟨_, rfl⟩
  | some entry =>
    obtain ⟨id, found⟩ := entry
    simp only [hfound] at hmatch
    obtain ⟨hid, hinactive⟩ := hmatch
    obtain ⟨hlookup, hequivalent⟩ := hkeyed.findOrdered hfound
    have hsame : reactivated found = { request.newRecord with resourceVersion := found.resourceVersion + 1 } := by
      obtain ⟨htenant, horganization, hproject, hprincipal, hrole⟩ :=
        PlatformRoleBindingUpsert.equivalent_iff.mp hequivalent
      rw [reactivated, if_pos hinactive]
      simp only [PlatformRoleBindingUpsert.newRecord, ← hid, ← htenant, ← horganization, ← hproject, ← hprincipal,
        ← hrole]
    have hrow : table.lookup request.roleBindingId = some found := by rwa [← hid]
    simp only [hlookup, hrow, hsame, hid]
    exact ⟨_, rfl⟩

theorem upsertOrganizationMember_agrees (hkeyed : Keyed (·.organizationMemberId) store.organizationMembers)
    {request : PlatformOrganizationMembershipUpsert} (h : OrganizationMemberAgrees rows store request) :
    (∃ row, Postgres.upsertOrganizationMember rows store request = .ok (row, (upsertOrganizationMember store request).1)) ∨
      (∃ error, Postgres.upsertOrganizationMember rows store request = .error error) ∧
        (upsertOrganizationMember store request).1 = store := by
  unfold OrganizationMemberAgrees at h
  cases hfound : findOrdered (Postgres.samePair request) store.organizationMembers with
  | none =>
    simp only [hfound] at h
    have hnone : findOrdered request.sameMember store.organizationMembers = none := by
      refine findOrdered_eq_none.mpr fun key row hrow => ?_
      have hpair := findOrdered_none hfound hrow
      simp only [Postgres.samePair, Bool.and_eq_false_iff] at hpair
      simp only [PlatformOrganizationMembershipUpsert.sameMember, Bool.and_eq_false_iff]
      tauto
    simp only [Postgres.upsertOrganizationMember, upsertOrganizationMember, hfound, hnone]
    cases hvalid : validateOrganizationMember request.newRecord with
    | error error => exact .inr ⟨⟨_, rfl⟩, rfl⟩
    | ok =>
      obtain ⟨hadmits, hfree⟩ := h hvalid
      simp only [hadmits, hfree]
      exact .inl ⟨_, rfl⟩
  | some entry =>
    obtain ⟨id, row⟩ := entry
    simp only [hfound] at h
    obtain ⟨hvalid, hadmits, htenant, hchanges⟩ := h
    obtain ⟨hlookup, hpair⟩ := hkeyed.findOrdered hfound
    have hid : row.organizationMemberId = id := hkeyed id row (findOrdered_some hfound).1
    simp only [Postgres.samePair, Bool.and_eq_true] at hpair
    have hsame : findOrdered request.sameMember store.organizationMembers = some (id, row) := by
      refine findOrdered_of_finer (fun other hother => ?_) hfound ?_
      · simp only [PlatformOrganizationMembershipUpsert.sameMember, Bool.and_eq_true] at hother
        simp only [Postgres.samePair, Bool.and_eq_true]
        exact ⟨hother.1.2, hother.2⟩
      · simp only [PlatformOrganizationMembershipUpsert.sameMember, Bool.and_eq_true, beq_iff_eq]
        exact ⟨⟨htenant, eq_of_beq hpair.1⟩, eq_of_beq hpair.2⟩
    simp only [Postgres.upsertOrganizationMember, upsertOrganizationMember, hfound, hsame, hlookup, hvalid, hadmits, hid,
      PlatformOrganizationMembershipUpsert.rejoined, if_pos hchanges, ← htenant]
    exact .inl ⟨_, rfl⟩

theorem upsertProjectMember_agrees (hkeyed : Keyed (·.projectMemberId) store.projectMembers)
    {request : PlatformProjectMembershipUpsert} (h : ProjectMemberAgrees rows store request) :
    (∃ row, Postgres.upsertProjectMember rows store request = .ok (row, (upsertProjectMember store request).1)) ∨
      (∃ error, Postgres.upsertProjectMember rows store request = .error error) ∧
        (upsertProjectMember store request).1 = store := by
  unfold ProjectMemberAgrees at h
  cases hfound : findOrdered request.sameMember store.projectMembers with
  | none =>
    simp only [hfound] at h
    simp only [Postgres.upsertProjectMember, upsertProjectMember, hfound]
    cases hvalid : validateProjectMember request.newRecord with
    | error error => exact .inr ⟨⟨_, rfl⟩, rfl⟩
    | ok =>
      obtain ⟨hadmits, hfree⟩ := h hvalid
      simp only [hadmits, hfree]
      exact .inl ⟨_, rfl⟩
  | some entry =>
    obtain ⟨id, row⟩ := entry
    simp only [hfound] at h
    obtain ⟨hvalid, hadmits, htenant, horganization, hchanges⟩ := h
    obtain ⟨hlookup, -⟩ := hkeyed.findOrdered hfound
    have hid : row.projectMemberId = id := hkeyed id row (findOrdered_some hfound).1
    simp only [Postgres.upsertProjectMember, upsertProjectMember, hfound, hlookup, hvalid, hadmits, hid,
      PlatformProjectMembershipUpsert.rejoined, if_pos hchanges, ← htenant, ← horganization]
    exact .inl ⟨_, rfl⟩

end Upserts

section Updates

variable {env : PlatformEnv} {store : AccessStore} {actor : AuthenticatedActor}

theorem updateOrganizationMemberStatus_agrees (store : MembershipStore) (organizationMemberId : String)
    (expectedVersion : Int) (status : PlatformMembershipStatus) :
    SameSuccess (updateOrganizationMemberStatus store organizationMemberId expectedVersion status)
      (Postgres.updateOrganizationMemberStatus store organizationMemberId expectedVersion status) := by
  unfold updateOrganizationMemberStatus Postgres.updateOrganizationMemberStatus
  cases hlookup : store.organizationMembers.lookup organizationMemberId with
  | none => exact .error _ _
  | some record =>
    by_cases hversion : record.resourceVersion = expectedVersion
    · simp only [hversion, ne_eq, not_true, if_false, Option.filter_some, beq_self_eq_true, if_true]
      exact .ok _
    · simp only [ne_eq, hversion, not_false_eq_true, if_true, Option.filter_some, beq_iff_eq, if_false]
      exact .error _ _

theorem updateProjectMemberStatus_agrees (store : MembershipStore) (projectMemberId : String) (expectedVersion : Int)
    (status : PlatformMembershipStatus) :
    SameSuccess (updateProjectMemberStatus store projectMemberId expectedVersion status)
      (Postgres.updateProjectMemberStatus store projectMemberId expectedVersion status) := by
  unfold updateProjectMemberStatus Postgres.updateProjectMemberStatus
  cases hlookup : store.projectMembers.lookup projectMemberId with
  | none => exact .error _ _
  | some record =>
    by_cases hversion : record.resourceVersion = expectedVersion
    · simp only [hversion, ne_eq, not_true, if_false, Option.filter_some, beq_self_eq_true, if_true]
      exact .ok _
    · simp only [ne_eq, hversion, not_false_eq_true, if_true, Option.filter_some, beq_iff_eq, if_false]
      exact .error _ _

theorem deleteRoleBindings_agrees {table : Index PlatformRoleBindingRecord} {test : PlatformRoleBindingRecord → Bool}
    (h : NoneDisabled table test) : deleteRoleBindings table test = Postgres.deleteRoleBindings table test := by
  refine mapValues_congr fun id record hrecord => ?_
  by_cases htest : test record = true
  · have hnot := h id record hrecord htest
    cases hstatus : record.status with
    | active => simp [htest]
    | disabled => exact (hnot hstatus).elim
    | deleted => simp [htest]
  · simp [htest]

theorem cascade_agrees (store : MembershipStore) (member : PlatformOrganizationMembershipRecord)
    (status : PlatformMembershipStatus) :
    cascadeProjectMembershipsForOrganizationMember store member status =
      Postgres.cascadeProjectMembershipsForOrganizationMember store member status := by
  unfold cascadeProjectMembershipsForOrganizationMember Postgres.cascadeProjectMembershipsForOrganizationMember
  cases status with
  | active =>
    rw [if_pos rfl, mapValues_eq_self fun id record hrecord => ?_]
    simp [cascadeTo]
  | suspended => simp [cascadeTo]
  | removed => simp [cascadeTo]

theorem cascadeOrganizationMember_agrees {updated : PlatformOrganizationMembershipRecord} {memberships : MembershipStore}
    {status : PlatformMembershipStatus}
    (h : status = .removed → NoneDisabled store.roleBindings fun record => record.tenantId == updated.tenantId &&
      record.organizationId == some updated.organizationId && record.principalId == updated.principalId) :
    cascadeOrganizationMember store updated memberships status =
      Postgres.cascadeOrganizationMember store updated memberships status := by
  unfold cascadeOrganizationMember Postgres.cascadeOrganizationMember
  rw [cascade_agrees]
  by_cases hremoved : status = .removed
  · rw [if_pos hremoved, if_pos hremoved, deleteRoleBindingsForOrganizationPrincipal,
      deleteRoleBindings_agrees (h hremoved)]
    rfl
  · rw [if_neg hremoved, if_neg hremoved]

/-- The status of an organization member is set by both backends, and reaches the same records. -/
theorem organizationMemberStatus_agrees {organizationId organizationMemberId : String} {expectedVersion : Int}
    {before : PlatformOrganizationMembershipRecord} {status : PlatformMembershipStatus}
    (hbefore : organizationMemberForActor store actor organizationId organizationMemberId = .ok before)
    (hauthorized : authorizeServiceAction store env.grants actor .organizationMemberWrite
      (organizationMemberResource before) = .ok ())
    (h : status = .removed →
      OrganizationRemovalAgrees env store actor organizationId organizationMemberId expectedVersion) :
    SameSuccess
      (setOrganizationMemberStatus store organizationMemberId expectedVersion status >>= fun changed =>
        .ok (cascadeOrganizationMember store changed.1 changed.2 status))
      (Postgres.setOrganizationMemberStatus store organizationMemberId expectedVersion status >>= fun changed =>
        .ok (Postgres.cascadeOrganizationMember store changed.1 changed.2 status)) := by
  apply SameSuccess.bind
  · exact (updateOrganizationMemberStatus_agrees _ _ _ _).mapError _ _
  · rintro ⟨updated, memberships⟩ hset
    rw [cascadeOrganizationMember_agrees fun hremoved => ?_]
    · exact .refl _
    · obtain ⟨record, hrecord, hversion, rfl, -⟩ := updateOrganizationMemberStatus_ok (mapError_ok.mp hset)
      obtain ⟨hlookup, -⟩ := organizationMemberForActor_ok hbefore
      cases hlookup.symm.trans hrecord
      exact h hremoved before hbefore hauthorized hversion

theorem createRoleBinding_agrees {rows : ReferencedRows} (hkeyed : StoreKeyed store)
    {request : CreateRoleBindingRequest} {newId : String}
    (h : BackendsAgree rows env store (actor, .createRoleBinding request newId)) :
    (createRoleBinding env store actor request newId).1 =
      store.orUnchanged (Postgres.createRoleBinding rows env store actor request newId) := by
  unfold createRoleBinding Postgres.createRoleBinding
  cases hcandidate : roleBindingCandidate env store actor request newId with
  | error error => rfl
  | ok candidate =>
    obtain ⟨row, hrow⟩ := upsertRoleBinding_agrees hkeyed.roleBindings (h candidate hcandidate)
    simp only [bind, Except.bind, hrow]
    rfl

theorem createOrganizationMember_agrees {rows : ReferencedRows} (hkeyed : StoreKeyed store)
    {organizationId newId : String} {request : CreateOrganizationMemberRequest}
    (h : BackendsAgree rows env store (actor, .createOrganizationMember organizationId request newId)) :
    (createOrganizationMember env store actor organizationId request newId).1 =
      store.orUnchanged (Postgres.createOrganizationMember rows env store actor organizationId request newId) := by
  unfold createOrganizationMember Postgres.createOrganizationMember
  cases hupsert : organizationMemberUpsert env store actor organizationId request newId with
  | error error => rfl
  | ok upsert =>
    rcases upsertOrganizationMember_agrees hkeyed.organizationMembers (h upsert hupsert) with
      ⟨row, hrow⟩ | ⟨⟨error, herror⟩, hsame⟩
    · simp only [bind, Except.bind, hrow]
      rfl
    · simp only [bind, Except.bind, herror, hsame]
      rfl

theorem createProjectMember_agrees {rows : ReferencedRows} (hkeyed : StoreKeyed store)
    {projectId newId : String} {request : CreateProjectMemberRequest}
    (h : BackendsAgree rows env store (actor, .createProjectMember projectId request newId)) :
    (createProjectMember env store actor projectId request newId).1 =
      store.orUnchanged (Postgres.createProjectMember rows env store actor projectId request newId) := by
  unfold createProjectMember Postgres.createProjectMember
  cases hupsert : projectMemberUpsert env store actor projectId request newId with
  | error error => rfl
  | ok upsert =>
    rcases upsertProjectMember_agrees hkeyed.projectMembers (h upsert hupsert) with
      ⟨row, hrow⟩ | ⟨⟨error, herror⟩, hsame⟩
    · simp only [bind, Except.bind, hrow]
      rfl
    · simp only [bind, Except.bind, herror, hsame]
      rfl

theorem updateRoleBinding_agrees (env : PlatformEnv) (store : AccessStore) (actor : AuthenticatedActor)
    (roleBindingId : String) (request : UpdateStatusRequest) :
    (updateRoleBinding env store actor roleBindingId request).1 =
      store.orUnchanged (Postgres.updateRoleBinding env store actor roleBindingId request) := by
  unfold updateRoleBinding Postgres.updateRoleBinding
  cases hchange : roleBindingStatusChange env store actor roleBindingId request with
  | error error => rfl
  | ok status =>
    simp only [bind, Except.bind, updateRoleBindingStatus, Postgres.updateRoleBindingStatus]
    cases hlookup : store.roleBindings.lookup roleBindingId with
    | none => rfl
    | some record =>
      by_cases hversion : record.resourceVersion = request.expectedVersion
      · simp only [hversion, ne_eq, not_true, if_false, Option.filter_some, beq_self_eq_true, if_true]
        rfl
      · simp only [ne_eq, hversion, not_false_eq_true, if_true, Option.filter_some, beq_iff_eq, if_false]
        rfl

theorem updateProjectMember_agrees {rows : ReferencedRows} {projectId projectMemberId : String}
    {request : UpdateStatusRequest}
    (h : BackendsAgree rows env store (actor, .updateProjectMemberStatus projectId projectMemberId request)) :
    SameSuccess (updateProjectMember env store actor projectId projectMemberId request)
      (Postgres.updateProjectMember env store actor projectId projectMemberId request) := by
  refine (SameSuccess.refl _).bind fun before hbefore => (SameSuccess.refl _).bind fun _ hauthorized =>
    (SameSuccess.refl _).bind fun status hstatus => ?_
  refine ((updateProjectMemberStatus_agrees _ _ _ _).mapError _ _).bind ?_
  rintro ⟨updated, memberships⟩ hset
  by_cases hremoved : status = .removed
  · subst hremoved
    obtain ⟨record, hrecord, hversion, rfl, -⟩ := updateProjectMemberStatus_ok (mapError_ok.mp hset)
    have hsame : before = record := by
      obtain ⟨found, hfound, hscope⟩ := bind_ok.mp hbefore
      unfold projectMemberById at hfound
      simp only [hrecord] at hfound
      cases hfound
      split at hscope
      · exact (Except.ok.inj hscope).symm
      · cases hscope
    subst hsame
    have hnone := h hstatus before hbefore hauthorized hversion
    simp only [if_true, deleteRoleBindingsForProjectPrincipal, deleteRoleBindings_agrees hnone]
    exact .refl _
  · simp only [if_neg hremoved]
    exact .refl _

end Updates

/-- The requests that meet the condition leave both backends with the same records. -/
theorem AccessStore.step_agrees {env : PlatformEnv} {rows : ReferencedRows} {store : AccessStore}
    (hkeyed : StoreKeyed store) {step : AuthenticatedActor × RepositoryCall} (h : BackendsAgree rows env store step) :
    store.memoryStep env step = store.postgresStep env rows step := by
  obtain ⟨actor, call⟩ := step
  cases call with
  | createRoleBinding request newId => exact createRoleBinding_agrees hkeyed h
  | updateRoleBindingStatus roleBindingId request => exact updateRoleBinding_agrees env store actor roleBindingId request
  | createOrganizationMember organizationId request newId => exact createOrganizationMember_agrees hkeyed h
  | updateOrganizationMemberStatus organizationId organizationMemberId request =>
    refine SameSuccess.orUnchanged ?_ store
    refine (SameSuccess.refl _).bind fun before hbefore => (SameSuccess.refl _).bind fun _ hauthorized =>
      (SameSuccess.refl _).bind fun status hstatus => ?_
    refine organizationMemberStatus_agrees hbefore hauthorized fun hremoved => ?_
    exact h (hremoved ▸ hstatus)
  | removeOrganizationMember organizationId organizationMemberId expectedVersion =>
    refine SameSuccess.orUnchanged ?_ store
    refine (SameSuccess.refl _).bind fun before hbefore => (SameSuccess.refl _).bind fun _ hauthorized => ?_
    exact organizationMemberStatus_agrees hbefore hauthorized fun _ => h
  | createProjectMember projectId request newId => exact createProjectMember_agrees hkeyed h
  | updateProjectMemberStatus projectId projectMemberId request =>
    exact (updateProjectMember_agrees h).orUnchanged store

/-- The backends hold the same membership and role binding records, and decide alike. -/
structure SameRecords (memory tables : AccessStore) : Prop where
  organizationMembers : ∀ id, memory.memberships.organizationMembers.lookup id =
    tables.memberships.organizationMembers.lookup id
  projectMembers : ∀ id, memory.memberships.projectMembers.lookup id = tables.memberships.projectMembers.lookup id
  roleBindings : ∀ id, memory.roleBindings.lookup id = tables.roleBindings.lookup id
  decisions : ∀ grants actor action resource, authorizeServiceAction memory grants actor action resource =
    authorizeServiceAction tables grants actor action resource

theorem SameRecords.refl (store : AccessStore) : SameRecords store store :=
  ⟨fun _ => rfl, fun _ => rfl, fun _ => rfl, fun _ _ _ _ => rfl⟩

/-- The backends agree over every run whose requests meet the condition. -/
theorem backends_sameRecords {env : PlatformEnv} {rows : ReferencedRows} {store : AccessStore}
    (hkeyed : StoreKeyed store) {steps : List (AuthenticatedActor × RepositoryCall)}
    (hmeets : Meets (fun store step => some (store.memoryStep env step)) (BackendsAgree rows env) store steps) :
    SameRecords (steps.foldl (AccessStore.memoryStep env) store)
      (steps.foldl (AccessStore.postgresStep env rows) store) := by
  have hsame : steps.foldl (AccessStore.memoryStep env) store = steps.foldl (AccessStore.postgresStep env rows) store := by
    induction steps generalizing store with
    | nil => rfl
    | cons step steps ih =>
      rw [List.foldl_cons, List.foldl_cons, ← AccessStore.step_agrees hkeyed hmeets.1]
      exact ih (hkeyed.call _) (hmeets.2 _ rfl)
  rw [hsame]
  exact .refl _

section Examples

/-- An organization with an administrator, and a member whose administrator role is disabled. -/
def disabledBindingStore : AccessStore where
  memberships :=
    { organizationMembers := ((∅ : Index PlatformOrganizationMembershipRecord).insert "om_a"
        ⟨"om_a", "ten_t", "org_a", "usr_a", "user", .active, 1⟩).insert "om_b"
        ⟨"om_b", "ten_t", "org_a", "usr_b", "user", .active, 1⟩
      projectMembers := ∅ }
  roleBindings := ((∅ : Index PlatformRoleBindingRecord).insert "rb_a"
    ⟨"rb_a", "ten_t", some "org_a", none, "usr_a", "organization_admin", .active, 1⟩).insert "rb_b"
    ⟨"rb_b", "ten_t", some "org_a", none, "usr_b", "organization_admin", .disabled, 1⟩
  invitations := ∅

def backendAdmin : AuthenticatedActor := ⟨"ten_t", none, none, "usr_a", .user⟩

def backendMember : AuthenticatedActor := ⟨"ten_t", none, none, "usr_b", .user⟩

def backendEnv : PlatformEnv := ⟨[], id⟩

def allRows : ReferencedRows := ⟨fun _ => true, fun _ => true, fun _ => true, fun _ => true⟩

theorem disabledBindingStore_keyed : StoreKeyed disabledBindingStore := by
  refine ⟨?_, Keyed.empty _, ?_, Keyed.empty _⟩
  · apply Keyed.insert
    · exact (Keyed.empty _).insert rfl
    · rfl
  · apply Keyed.insert
    · exact (Keyed.empty _).insert rfl
    · rfl

def newBinding : AuthenticatedActor × RepositoryCall :=
  (backendAdmin, .createRoleBinding ⟨none, none, some "org_a", none, "usr_c", "organization_admin"⟩ "rb_n")

def enableBinding : AuthenticatedActor × RepositoryCall :=
  (backendAdmin, .updateRoleBindingStatus "rb_b" ⟨1, "active"⟩)

theorem newBinding_sameRecords :
    SameRecords ([newBinding, enableBinding].foldl (AccessStore.memoryStep backendEnv) disabledBindingStore)
      ([newBinding, enableBinding].foldl (AccessStore.postgresStep backendEnv allRows) disabledBindingStore) := by
  refine backends_sameRecords disabledBindingStore_keyed ⟨fun candidate hcandidate => ?_, fun _ _ => ⟨trivial, fun _ _ => trivial⟩⟩
  have hbinding : roleBindingCandidate backendEnv disabledBindingStore backendAdmin
      ⟨none, none, some "org_a", none, "usr_c", "organization_admin"⟩ "rb_n" =
        .ok ⟨"rb_n", "ten_t", some "org_a", none, "usr_c", "organization_admin", .active, 1⟩ := by decide +kernel
  cases hbinding.symm.trans hcandidate
  refine ⟨by decide +kernel, by decide +kernel, ?_⟩
  have hnone : findOrdered (PlatformRoleBindingUpsert.equivalent
      ⟨"rb_n", "ten_t", some "org_a", none, "usr_c", "organization_admin"⟩) disabledBindingStore.roleBindings = none := by
    decide +kernel
  have hexisting : equivalentRoleBinding disabledBindingStore
      ⟨"rb_n", "ten_t", some "org_a", none, "usr_c", "organization_admin", .active, 1⟩ = none := by decide +kernel
  rw [hexisting, Option.getD_none, PlatformRoleBindingRecord.toUpsert, hnone]
  decide +kernel

/-- A disabled binding outlives the removal of its member in memory, and not in the tables. -/
theorem disabledBinding_differs : StoreKeyed disabledBindingStore ∧
    ¬ SameRecords
      ([(backendAdmin, .removeOrganizationMember "org_a" "om_b" 1),
          (backendAdmin, .createOrganizationMember "org_a" ⟨none, "usr_b", none⟩ "om_n"), enableBinding].foldl
        (AccessStore.memoryStep backendEnv) disabledBindingStore)
      ([(backendAdmin, .removeOrganizationMember "org_a" "om_b" 1),
          (backendAdmin, .createOrganizationMember "org_a" ⟨none, "usr_b", none⟩ "om_n"), enableBinding].foldl
        (AccessStore.postgresStep backendEnv allRows) disabledBindingStore) := by
  refine ⟨disabledBindingStore_keyed, fun hsame => ?_⟩
  have hdecision := hsame.decisions [] backendMember .organizationMemberWrite
    ⟨"OrganizationMember", "ten_t", some "org_a", none, "org_a"⟩
  revert hdecision
  decide +kernel

end Examples

end Starweaver.Platform
