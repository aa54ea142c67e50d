import Starweaver.Platform.AccessWrites
import Starweaver.Platform.LoginMachine

namespace Starweaver.Platform

open Library.AssocMap Library.Checks Library.Machine Library.OrderedMap

/-- A step of a login or of a user status update, or a write of a request whatever the request has read before. -/
inductive RecordStep (κ : Type)
  | login (step : LoginStep κ)
  | write (access : AccessWrite)

def LoginMachine.recordStep {κ : Type} (env : LoginEnv κ) (machine : LoginMachine κ) :
    RecordStep κ → Option (LoginMachine κ)
  | .login step => machine.step env step
  | .write access =>
    some { machine with stores := { machine.stores with access := machine.stores.access.write access } }

/-- Every record is as it was or has a greater version. -/
structure Advanced (before after : LoginStores) : Prop where
  users : Advances (·.resourceVersion) before.users after.users
  organizationMembers : Advances (·.resourceVersion) before.access.memberships.organizationMembers
    after.access.memberships.organizationMembers
  projectMembers : Advances (·.resourceVersion) before.access.memberships.projectMembers
    after.access.memberships.projectMembers
  roleBindings : Advances (·.resourceVersion) before.access.roleBindings after.access.roleBindings
  invitations : Advances (·.resourceVersion) before.access.invitations after.access.invitations

section Conditions

/-- The id is not taken, or the record is written over itself. -/
def FreshOrSame {ν : Type} (map : Index ν) (key : String) (record : ν) : Prop :=
  ∀ old, map.lookup key = some old → old = record

def AccessWrite.Raises (store : AccessStore) : AccessWrite → Prop
  | .upsertRoleBinding request =>
    findOrdered request.equivalent store.roleBindings = none → validateRoleBinding request.newRecord = .ok () →
      store.roleBindings.lookup request.roleBindingId = none
  | .upsertOrganizationMember request =>
    findOrdered request.sameMember store.memberships.organizationMembers = none →
      validateOrganizationMember request.newRecord = .ok () →
      store.memberships.organizationMembers.lookup request.organizationMemberId = none
  | .upsertProjectMember request =>
    findOrdered request.sameMember store.memberships.projectMembers = none →
      validateProjectMember request.newRecord = .ok () →
      store.memberships.projectMembers.lookup request.projectMemberId = none
  | .createInvitation record =>
    validateOrganizationInvitation record = .ok () → FreshOrSame store.invitations record.invitationId record
  | _ => True

/-- The user is the one that the login has read, and the other records of the login are new or unchanged. -/
def LoginStage.Raises (completion : OidcLoginCompletionRecord) (progress : LoginProgress) (stores : LoginStores) :
    LoginStage → Prop
  | .recordUser =>
    stores.users.lookup completion.userId = progress.existingUser ∨
      FreshOrSame stores.users completion.userId (completion.user progress.existingUser)
  | .recordOrganizationMember =>
    FreshOrSame stores.access.memberships.organizationMembers completion.organizationMemberId
      completion.organizationMember
  | .recordProjectMember =>
    FreshOrSame stores.access.memberships.projectMembers completion.projectMemberId completion.projectMember
  | .recordRoleBinding =>
    FreshOrSame stores.access.roleBindings completion.organizationRoleBindingId completion.roleBinding
  | _ => True

def SingleUserStage.Raises (config : PlatformSingleUserConfig) (stores : LoginStores) : SingleUserStage → Prop
  | .recordUser => FreshOrSame stores.users singleUserId (singleUserRecord config)
  | .recordOrganizationMember =>
    FreshOrSame stores.access.memberships.organizationMembers "om_single_user"
      ⟨"om_single_user", singleUserTenantId, singleUserOrganizationId, singleUserId, "user", .active, 1⟩
  | .recordProjectMember =>
    FreshOrSame stores.access.memberships.projectMembers "pm_single_user"
      ⟨"pm_single_user", singleUserTenantId, singleUserOrganizationId, singleUserProjectId, singleUserId,
        some "om_single_user", "user", .active, 1⟩
  | .recordRoleBinding =>
    FreshOrSame stores.access.roleBindings "rb_single_user_tenant_owner"
      ⟨"rb_single_user_tenant_owner", singleUserTenantId, none, none, singleUserId, "tenant_owner", .active, 1⟩
  | _ => True

variable {κ : Type}

def CallPhase.Raises (env : LoginEnv κ) (stores : LoginStores) : CallPhase κ → Prop
  | .completing login progress (stage :: _) => stage.Raises (login.completion env.hashes) progress stores
  | .recordingSingleUser config _ (stage :: _) => stage.Raises config stores
  | _ => True

def RecordStep.Raises (env : LoginEnv κ) (machine : LoginMachine κ) : RecordStep κ → Prop
  | .write access => access.Raises machine.stores.access
  | .login (.advance id) => ∀ phase, machine.calls.lookup id = some phase → phase.Raises env machine.stores
  | .login _ => True

end Conditions

section Advanced

variable {stores : LoginStores}

theorem Advanced.refl (stores : LoginStores) : Advanced stores stores :=
  ⟨.refl _ _, .refl _ _, .refl _ _, .refl _ _, .refl _ _⟩

theorem Advanced.trans {before mid after : LoginStores} (h : Advanced before mid) (h' : Advanced mid after) :
    Advanced before after :=
  ⟨h.users.trans h'.users, h.organizationMembers.trans h'.organizationMembers,
    h.projectMembers.trans h'.projectMembers, h.roleBindings.trans h'.roleBindings, h.invitations.trans h'.invitations⟩

theorem Advanced.ofUsers {users : Index PlatformUserRecord} (h : Advances (·.resourceVersion) stores.users users) :
    Advanced stores { stores with users } :=
  ⟨h, .refl _ _, .refl _ _, .refl _ _, .refl _ _⟩

theorem Advanced.ofOrganizationMembers {organizationMembers : Index PlatformOrganizationMembershipRecord}
    (h : Advances (·.resourceVersion) stores.access.memberships.organizationMembers organizationMembers) :
    Advanced stores { stores with
      access := { stores.access with memberships := { stores.access.memberships with organizationMembers } } } :=
  ⟨.refl _ _, h, .refl _ _, .refl _ _, .refl _ _⟩

theorem Advanced.ofProjectMembers {projectMembers : Index PlatformProjectMembershipRecord}
    (h : Advances (·.resourceVersion) stores.access.memberships.projectMembers projectMembers) :
    Advanced stores { stores with
      access := { stores.access with memberships := { stores.access.memberships with projectMembers } } } :=
  ⟨.refl _ _, .refl _ _, h, .refl _ _, .refl _ _⟩

theorem Advanced.ofRoleBindings {roleBindings : Index PlatformRoleBindingRecord}
    (h : Advances (·.resourceVersion) stores.access.roleBindings roleBindings) :
    Advanced stores { stores with access := { stores.access with roleBindings } } :=
  ⟨.refl _ _, .refl _ _, .refl _ _, h, .refl _ _⟩

theorem Advanced.ofInvitations {invitations : Index PlatformOrganizationInvitationRecord}
    (h : Advances (·.resourceVersion) stores.access.invitations invitations) :
    Advanced stores { stores with access := { stores.access with invitations } } :=
  ⟨.refl _ _, .refl _ _, .refl _ _, .refl _ _, h⟩

theorem advances_freshOrSame {ν : Type} {version : ν → Int} {map : Index ν} {key : String} {record : ν}
    (h : FreshOrSame map key record) : Advances version map (map.insert key record) :=
  advances_insert_iff.mpr fun old hold => .inl (h old hold).symm

theorem advances_unused {ν : Type} {version : ν → Int} {map : Index ν} {key : String} {record : ν}
    (h : map.lookup key = none) : Advances version map (map.insert key record) :=
  advances_insert_iff.mpr fun old hold => by cases h.symm.trans hold

/-- A record that stands under the key is replaced by its next version. -/
theorem advances_next {ν : Type} {version : ν → Int} {map : Index ν} {key : String} {record next : ν}
    (hrecord : map.lookup key = some record) (hnext : next = record ∨ version record < version next) :
    Advances version map (map.insert key next) := by
  refine advances_insert_iff.mpr fun old hold => ?_
  cases hrecord.symm.trans hold
  exact hnext

end Advanced

section Writes

variable {stores : LoginStores}

theorem upsertRoleBinding_advances {records : Index PlatformRoleBindingRecord} {request : PlatformRoleBindingUpsert}
    (h : findOrdered request.equivalent records = none → validateRoleBinding request.newRecord = .ok () →
      records.lookup request.roleBindingId = none) :
    Advances (·.resourceVersion) records (upsertRoleBinding records request).1 := by
  unfold upsertRoleBinding
  split
  · split
    · exact .refl _ _
    · rename_i record hrecord
      refine advances_next hrecord ?_
      unfold reactivated
      split
      · exact .inr (Int.lt_succ _)
      · exact .inl rfl
  · rename_i hnone
    split
    · exact .refl _ _
    · rename_i hvalid
      exact advances_unused (h hnone hvalid)

theorem upsertOrganizationMember_advances {request : PlatformOrganizationMembershipUpsert}
    (h : (AccessWrite.upsertOrganizationMember request).Raises stores.access) :
    Advanced stores { stores with
      access := { stores.access with memberships := (upsertOrganizationMember stores.access.memberships request).1 } } := by
  unfold upsertOrganizationMember
  split
  · split
    · exact .refl _
    · rename_i record hrecord
      refine .ofOrganizationMembers (advances_next hrecord ?_)
      unfold PlatformOrganizationMembershipUpsert.rejoined
      split
      · exact .inr (Int.lt_succ _)
      · exact .inl rfl
  · rename_i hnone
    split
    · exact .refl _
    · rename_i hvalid
      exact .ofOrganizationMembers (advances_unused (h hnone hvalid))

theorem PlatformProjectMembershipUpsert.rejoined_next (request : PlatformProjectMembershipUpsert)
    (record : PlatformProjectMembershipRecord) :
    request.rejoined record = record ∨ record.resourceVersion < (request.rejoined record).resourceVersion := by
  unfold PlatformProjectMembershipUpsert.rejoined
  by_cases hchanged : record.status ≠ .active ∨ record.membershipKind ≠ request.membershipKind ∨
      record.organizationMemberId ≠ some request.organizationMemberId
  · simp only [if_pos hchanged]
    exact .inr (Int.lt_succ _)
  · simp only [if_neg hchanged]
    simp only [ne_eq, not_or, not_not] at hchanged
    obtain ⟨hstatus, hkind, hparent⟩ := hchanged
    rw [← hstatus, ← hkind, ← hparent]
    exact .inl rfl

theorem upsertProjectMember_advances {request : PlatformProjectMembershipUpsert}
    (h : (AccessWrite.upsertProjectMember request).Raises stores.access) :
    Advanced stores { stores with
      access := { stores.access with memberships := (upsertProjectMember stores.access.memberships request).1 } } := by
  unfold upsertProjectMember
  split
  · split
    · exact .refl _
    · rename_i record hrecord
      exact .ofProjectMembers (advances_next hrecord (request.rejoined_next record))
  · rename_i hnone
    split
    · exact .refl _
    · rename_i hvalid
      exact .ofProjectMembers (advances_unused (h hnone hvalid))

theorem deleteRoleBindings_advances (records : Index PlatformRoleBindingRecord)
    (test : PlatformRoleBindingRecord → Bool) :
    Advances (·.resourceVersion) records (deleteRoleBindings records test) := by
  refine advances_mapValues fun record => ?_
  split
  · exact .inr (Int.lt_succ _)
  · exact .inl rfl

/-- A write gives no record that it changes a version that the record had before. -/
theorem write_advanced {write : AccessWrite} (h : write.Raises stores.access) :
    Advanced stores { stores with access := stores.access.write write } := by
  cases write with
  | upsertRoleBinding request => exact .ofRoleBindings (upsertRoleBinding_advances h)
  | updateRoleBindingStatus roleBindingId expectedVersion status =>
    refine .ofRoleBindings ?_
    rcases updateRoleBindingStatus_cases stores.access.roleBindings roleBindingId expectedVersion status with
      hsame | ⟨record, hrecord, -, hupdated⟩
    · rw [hsame]
      exact .refl _ _
    · rw [hupdated]
      exact advances_next hrecord (.inr (Int.lt_succ _))
  | deleteRoleBindingsForOrganizationPrincipal tenantId organizationId principalId =>
    exact .ofRoleBindings (deleteRoleBindings_advances _ _)
  | deleteRoleBindingsForProjectPrincipal tenantId projectId principalId =>
    exact .ofRoleBindings (deleteRoleBindings_advances _ _)
  | upsertOrganizationMember request => exact upsertOrganizationMember_advances h
  | updateOrganizationMemberStatus organizationMemberId expectedVersion status =>
    rw [AccessStore.write]
    cases hupdate : updateOrganizationMemberStatus stores.access.memberships organizationMemberId expectedVersion status with
    | error error => exact .refl _
    | ok changed =>
      obtain ⟨record, hrecord, -, hupdated, hchanged⟩ := updateOrganizationMemberStatus_ok hupdate
      rw [AccessStore.written, hchanged, hupdated]
      exact .ofOrganizationMembers (advances_next hrecord (.inr (Int.lt_succ _)))
  | cascadeProjectMemberships member status =>
    refine .ofProjectMembers (advances_mapValues fun record => ?_)
    split
    · exact .inr (Int.lt_succ _)
    · exact .inl rfl
  | upsertProjectMember request => exact upsertProjectMember_advances h
  | updateProjectMemberStatus projectMemberId expectedVersion status =>
    rw [AccessStore.write]
    cases hupdate : updateProjectMemberStatus stores.access.memberships projectMemberId expectedVersion status with
    | error error => exact .refl _
    | ok changed =>
      obtain ⟨record, hrecord, -, hupdated, hchanged⟩ := updateProjectMemberStatus_ok hupdate
      rw [AccessStore.written, hchanged, hupdated]
      exact .ofProjectMembers (advances_next hrecord (.inr (Int.lt_succ _)))
  | createInvitation record =>
    rw [AccessStore.write]
    cases hcreate : createInvitation stores.access.invitations record with
    | error error => exact .refl _
    | ok invitations =>
      obtain ⟨hvalid, hinsert⟩ := bind_unit_ok.mp hcreate
      cases hinsert
      exact .ofInvitations (advances_freshOrSame (h hvalid))
  | revokeInvitation invitationId expectedVersion nowUnix =>
    rw [AccessStore.write]
    cases hrevoke : revokeInvitation stores.access.invitations invitationId expectedVersion nowUnix with
    | error error => exact .refl _
    | ok changed =>
      obtain ⟨before, hbefore, -, -, hrevoked, hchanged⟩ := revokeInvitation_ok hrevoke
      rw [AccessStore.written, hchanged, hrevoked]
      exact .ofInvitations (advances_next hbefore (.inr (Int.lt_succ _)))
  | acceptInvitation request =>
    rw [AccessStore.write]
    cases haccept : acceptInvitation stores.access.invitations request with
    | error error => exact .refl _
    | ok changed =>
      obtain ⟨before, hbefore, -, -, -, haccepted, hchanged⟩ := acceptInvitation_ok haccept
      rw [AccessStore.written, hchanged, haccepted]
      exact .ofInvitations (advances_next hbefore (.inr (Int.lt_succ _)))

end Writes

section Logins

variable {stores : LoginStores}

theorem user_advances {completion : OidcLoginCompletionRecord} {progress : LoginProgress}
    (h : LoginStage.recordUser.Raises completion progress stores) :
    Advances (·.resourceVersion) stores.users
      (stores.users.insert completion.userId (completion.user progress.existingUser)) := by
  rcases h with hread | hsame
  · refine advances_insert_iff.mpr fun old hold => .inr ?_
    rw [hread] at hold
    simp only [OidcLoginCompletionRecord.user, hold, Option.map_some, Option.getD_some]
    exact Int.lt_succ _
  · exact advances_freshOrSame hsame

/-- The stores after an access that writes one map. -/
theorem wrote_advanced {ε α : Type} {progress : LoginProgress} {toService : ε → ServiceError} {write : α → LoginStores}
    {result : Except ε α} (h : ∀ value, result = .ok value → Advanced stores (write value)) :
    Advanced stores (wrote stores progress toService write result).1 := by
  rcases wrote_cases progress stores toService write result with ⟨value, hvalue, hwrote⟩ | ⟨error, hwrote⟩
  · rw [hwrote]
    exact h value hvalue
  · rw [hwrote]
    exact .refl _

theorem LoginStage.run_advanced {completion : OidcLoginCompletionRecord} {progress : LoginProgress}
    {stage : LoginStage} (h : stage.Raises completion progress stores) :
    Advanced stores (stage.run completion progress stores).1 := by
  cases stage with
  | readUser | findAttempt => exact .refl _
  | linkIdentity => exact ⟨.refl _ _, .refl _ _, .refl _ _, .refl _ _, .refl _ _⟩
  | recordUser =>
    rw [run]
    refine wrote_advanced fun users hrecord => ?_
    obtain ⟨-, hinsert⟩ := bind_unit_ok.mp hrecord
    cases hinsert
    exact .ofUsers (user_advances h)
  | consumeAttempt =>
    rw [run]
    split
    · exact .refl _
    · exact wrote_advanced fun attempts _ => ⟨.refl _ _, .refl _ _, .refl _ _, .refl _ _, .refl _ _⟩
  | recordSession =>
    rw [run]
    exact wrote_advanced fun sessions _ => ⟨.refl _ _, .refl _ _, .refl _ _, .refl _ _, .refl _ _⟩
  | recordOrganizationMember =>
    rw [run]
    refine wrote_advanced fun memberships hrecord => ?_
    obtain ⟨-, hinsert⟩ := bind_unit_ok.mp hrecord
    cases hinsert
    exact .ofOrganizationMembers (advances_freshOrSame h)
  | recordProjectMember =>
    rw [run]
    refine wrote_advanced fun memberships hrecord => ?_
    obtain ⟨-, hinsert⟩ := bind_unit_ok.mp hrecord
    cases hinsert
    exact .ofProjectMembers (advances_freshOrSame h)
  | recordRoleBinding =>
    rw [run]
    refine wrote_advanced fun roleBindings hrecord => ?_
    obtain ⟨-, hinsert⟩ := bind_unit_ok.mp hrecord
    cases hinsert
    exact .ofRoleBindings (advances_freshOrSame h)

theorem SingleUserStage.run_advanced {config : PlatformSingleUserConfig} {session : PlatformAuthSessionRecord}
    {stage : SingleUserStage} (h : stage.Raises config stores) : Advanced stores (stage.run config session stores).1 := by
  cases stage with
  | recordSession =>
    rw [run]
    exact wrote_advanced fun sessions _ => ⟨.refl _ _, .refl _ _, .refl _ _, .refl _ _, .refl _ _⟩
  | recordExternalIdentity =>
    rw [run]
    exact wrote_advanced fun identities _ => ⟨.refl _ _, .refl _ _, .refl _ _, .refl _ _, .refl _ _⟩
  | recordUser =>
    rw [run]
    refine wrote_advanced fun users hrecord => ?_
    obtain ⟨-, hinsert⟩ := bind_unit_ok.mp hrecord
    cases hinsert
    exact .ofUsers (advances_freshOrSame h)
  | recordOrganizationMember =>
    rw [run]
    refine wrote_advanced fun memberships hrecord => ?_
    obtain ⟨-, hinsert⟩ := bind_unit_ok.mp hrecord
    cases hinsert
    exact .ofOrganizationMembers (advances_freshOrSame h)
  | recordProjectMember =>
    rw [run]
    refine wrote_advanced fun memberships hrecord => ?_
    obtain ⟨-, hinsert⟩ := bind_unit_ok.mp hrecord
    cases hinsert
    exact .ofProjectMembers (advances_freshOrSame h)
  | recordRoleBinding =>
    rw [run]
    refine wrote_advanced fun roleBindings hrecord => ?_
    obtain ⟨-, hinsert⟩ := bind_unit_ok.mp hrecord
    cases hinsert
    exact .ofRoleBindings (advances_freshOrSame h)

variable {κ : Type} {env : LoginEnv κ}

theorem statusWrite_advanced (userId : String) (expectedVersion : Int) (status : PlatformUserStatus) :
    Advanced stores (statusWrite stores userId expectedVersion status : Moved κ).1 := by
  have husers : Advances (·.resourceVersion) stores.users (updateUserStatus stores.users userId expectedVersion status).1 := by
    rcases updateUserStatus_cases stores.users userId expectedVersion status with
      ⟨hsame, -⟩ | ⟨user, huser, -, -, hupdated, -⟩
    · rw [hsame]
      exact .refl _ _
    · rw [hupdated]
      exact advances_next huser (.inr (Int.lt_succ _))
  exact .ofUsers husers

theorem CallPhase.advance_advanced {phase : CallPhase κ} (h : phase.Raises env stores) :
    Advanced stores (phase.advance env stores).1 := by
  cases phase with
  | readProvider call =>
    rw [advance]
    split <;> exact .refl _
  | readAttempt call provider =>
    rw [advance]
    split <;> exact .refl _
  | readUser actor userId request =>
    rw [advance]
    split <;> exact .refl _
  | exchange | checkUser | checkSingleUser | authenticate | authorizeUpdate | audit | returned => exact .refl _
  | completing login progress remaining =>
    cases remaining with
    | nil => exact .refl _
    | cons stage remaining =>
      have hrun := LoginStage.run_advanced h
      rw [advance]
      split
      · rename_i changed error hstage
        rwa [hstage] at hrun
      · rename_i changed next hstage
        rwa [hstage] at hrun
  | recordingSingleUser config sessionToken remaining =>
    cases remaining with
    | nil => exact .refl _
    | cons stage remaining => exact SingleUserStage.run_advanced h
  | writeStatus userId expectedVersion status => exact statusWrite_advanced userId expectedVersion status
  | disableSessions updated => exact ⟨.refl _ _, .refl _ _, .refl _ _, .refl _ _, .refl _ _⟩

theorem CallPhase.Moves.advanced {phase : CallPhase κ} {moved : Moved κ} (hmoves : phase.Moves env stores moved)
    (h : phase.Raises env stores) : Advanced stores moved.1 := by
  cases hmoves with
  | advance => exact CallPhase.advance_advanced h
  | exchange => exact .refl _
  | interrupt => exact .refl _

theorem recordStep_advanced {machine next : LoginMachine κ} {step : RecordStep κ} (h : step.Raises env machine)
    (hstep : machine.recordStep env step = some next) : Advanced machine.stores next.stores := by
  cases step with
  | write access =>
    cases hstep
    exact write_advanced h
  | login step =>
    rcases LoginMachine.step_cases hstep with ⟨id, phase, -, -, rfl⟩ | ⟨id, phase, moved, hphase, hmoves, haction, rfl⟩
    · exact .refl _
    · refine hmoves.advanced ?_
      rcases haction with rfl | houtside
      · exact h phase hphase
      · cases phase <;> first | exact trivial | exact houtside.elim

end Logins

/-- A status update or a revocation that succeeds with the version of an earlier read acts on the record that was
read, which stood unchanged at every state between. -/
structure ActsOnRead (read between now : LoginStores) : Prop where
  user : ∀ userId status user updated, read.users.lookup userId = some user →
    (updateUserStatus now.users userId user.resourceVersion status).2 = .ok updated →
    between.users.lookup userId = some user ∧ now.users.lookup userId = some user
  organizationMember : ∀ id status record changed,
    read.access.memberships.organizationMembers.lookup id = some record →
    updateOrganizationMemberStatus now.access.memberships id record.resourceVersion status = .ok changed →
    between.access.memberships.organizationMembers.lookup id = some record ∧
      now.access.memberships.organizationMembers.lookup id = some record
  projectMember : ∀ id status record changed, read.access.memberships.projectMembers.lookup id = some record →
    updateProjectMemberStatus now.access.memberships id record.resourceVersion status = .ok changed →
    between.access.memberships.projectMembers.lookup id = some record ∧
      now.access.memberships.projectMembers.lookup id = some record
  roleBinding : ∀ id status record updated, read.access.roleBindings.lookup id = some record →
    (updateRoleBindingStatus now.access.roleBindings id record.resourceVersion status).2 = .ok updated →
    between.access.roleBindings.lookup id = some record ∧ now.access.roleBindings.lookup id = some record
  invitation : ∀ id nowUnix record changed, read.access.invitations.lookup id = some record →
    revokeInvitation now.access.invitations id record.resourceVersion nowUnix = .ok changed →
    between.access.invitations.lookup id = some record ∧ now.access.invitations.lookup id = some record

theorem updateRoleBindingStatus_ok {records : Index PlatformRoleBindingRecord} {roleBindingId : String}
    {expectedVersion : Int} {status : PlatformRoleBindingStatus} {updated : PlatformRoleBindingRecord}
    (h : (updateRoleBindingStatus records roleBindingId expectedVersion status).2 = .ok updated) :
    ∃ record, records.lookup roleBindingId = some record ∧ record.resourceVersion = expectedVersion := by
  unfold updateRoleBindingStatus at h
  split at h
  · cases h
  rename_i record hrecord
  split at h
  · cases h
  rename_i hversion
  exact ⟨record, hrecord, not_not.mp hversion⟩

theorem updateUserStatus_ok {users : Index PlatformUserRecord} {userId : String} {expectedVersion : Int}
    {status : PlatformUserStatus} {updated : PlatformUserRecord}
    (h : (updateUserStatus users userId expectedVersion status).2 = .ok updated) :
    ∃ user, users.lookup userId = some user ∧ user.resourceVersion = expectedVersion := by
  rcases updateUserStatus_cases users userId expectedVersion status with ⟨-, error, herror⟩ | ⟨user, huser, -, hversion, -⟩
  · cases h.symm.trans herror
  · exact ⟨user, huser, hversion⟩

theorem Advanced.actsOnRead {read between now : LoginStores} (h : Advanced read between) (h' : Advanced between now) :
    ActsOnRead read between now where
  user userId status user updated hread hupdate := by
    obtain ⟨found, hfound, hversion⟩ := updateUserStatus_ok hupdate
    exact h.users.unchanged h'.users hread hfound hversion
  organizationMember id status record changed hread hupdate := by
    obtain ⟨found, hfound, hversion, -⟩ := updateOrganizationMemberStatus_ok hupdate
    exact h.organizationMembers.unchanged h'.organizationMembers hread hfound hversion
  projectMember id status record changed hread hupdate := by
    obtain ⟨found, hfound, hversion, -⟩ := updateProjectMemberStatus_ok hupdate
    exact h.projectMembers.unchanged h'.projectMembers hread hfound hversion
  roleBinding id status record updated hread hupdate := by
    obtain ⟨found, hfound, hversion⟩ := updateRoleBindingStatus_ok hupdate
    exact h.roleBindings.unchanged h'.roleBindings hread hfound hversion
  invitation id nowUnix record changed hread hupdate := by
    obtain ⟨found, hfound, hversion, -⟩ := revokeInvitation_ok hupdate
    exact h.invitations.unchanged h'.invitations hread hfound hversion

theorem run_advanced {κ : Type} {env : LoginEnv κ} {machine final : LoginMachine κ} {steps : List (RecordStep κ)}
    (hmeets : Meets (LoginMachine.recordStep env) (fun machine step => step.Raises env machine) machine steps)
    (hrun : run (LoginMachine.recordStep env) machine steps = some final) : Advanced machine.stores final.stores := by
  have hstep (machine : LoginMachine κ) (step : RecordStep κ) (next : LoginMachine κ) (_ : True)
      (hraises : step.Raises env machine) (hnext : machine.recordStep env step = some next) :
      True ∧ Advanced machine.stores next.stores := ⟨trivial, recordStep_advanced hraises hnext⟩
  have hrelates := @run_relates (LoginMachine κ) (RecordStep κ) (LoginMachine.recordStep env)
    (fun machine step => step.Raises env machine) (fun _ => True)
    (fun before after => Advanced before.stores after.stores) (fun _ => .refl _) (fun h h' => h.trans h') hstep
  exact (hrelates trivial hmeets hrun).2

/-- Versions never repeat over a run whose steps write new ids, or records that they have just read. -/
theorem recordVersions_neverRepeat {κ : Type} {env : LoginEnv κ} {machine between final : LoginMachine κ}
    {before after : List (RecordStep κ)}
    (hmeets : Meets (LoginMachine.recordStep env) (fun machine step => step.Raises env machine) machine (before ++ after))
    (hbefore : run (LoginMachine.recordStep env) machine before = some between)
    (hafter : run (LoginMachine.recordStep env) between after = some final) :
    Advanced machine.stores between.stores ∧ Advanced between.stores final.stores ∧
      ActsOnRead machine.stores between.stores final.stores := by
  obtain ⟨hmeetsBefore, hmeetsAfter⟩ := hmeets.of_append hbefore
  have hfirst := run_advanced hmeetsBefore hbefore
  have hsecond := run_advanced hmeetsAfter hafter
  exact ⟨hfirst, hsecond, hfirst.actsOnRead hsecond⟩

section Examples

def versionsEnv : LoginEnv Unit where
  grants := []
  hashes := ⟨id, id, id, id, fun _ _ subject => subject⟩
  library := ⟨fun _ => none, fun _ _ _ _ _ => none⟩
  credential := fun _ => .error (.authenticationFailed "credential_not_found")
  singleUserAuth := none

def firstMember : PlatformOrganizationMembershipRecord := ⟨"om_b", "ten_t", "org_a", "usr_b", "user", .active, 1⟩

/-- An organization with an administrator and one other member. -/
def memberStores : LoginStores where
  users := ∅
  externalIdentities := ∅
  providers := ∅
  attempts := ∅
  sessions := ∅
  access :=
    { memberships :=
        { organizationMembers := ((∅ : Index PlatformOrganizationMembershipRecord).insert "om_a"
            ⟨"om_a", "ten_t", "org_a", "usr_a", "user", .active, 1⟩).insert "om_b" firstMember
          projectMembers := ∅ }
      roleBindings := (∅ : Index PlatformRoleBindingRecord).insert "rb_a"
        ⟨"rb_a", "ten_t", some "org_a", none, "usr_a", "organization_admin", .active, 1⟩
      invitations := ∅ }

def addMember (organizationMemberId : String) : RecordStep Unit :=
  .write (.upsertOrganizationMember ⟨organizationMemberId, "ten_t", "org_a", "usr_c", "user"⟩)

def suspendFirst : RecordStep Unit := .write (.updateOrganizationMemberStatus "om_b" 1 .suspended)

theorem addedMember_neverRepeats :
    ∃ between final, run (LoginMachine.recordStep versionsEnv) (.start memberStores) [addMember "om_c"] = some between ∧
      run (LoginMachine.recordStep versionsEnv) between [suspendFirst] = some final ∧
      ActsOnRead memberStores between.stores final.stores := by
  have hmeets : Meets (LoginMachine.recordStep versionsEnv) (fun machine step => step.Raises versionsEnv machine)
      (.start memberStores) ([addMember "om_c"] ++ [suspendFirst]) := by
    refine ⟨fun _ _ => ?_, fun _ _ => ⟨trivial, fun _ _ => trivial⟩⟩
    decide +kernel
  refine ⟨_, _, rfl, rfl, ?_⟩
  exact (recordVersions_neverRepeat hmeets rfl rfl).2.2

/-- A member that is created under the id of another takes its place and its version. -/
theorem reusedMember_repeatsVersion :
    ∃ final, run (LoginMachine.recordStep versionsEnv) (.start memberStores) [addMember "om_b"] = some final ∧
      (memberStores.access.call ⟨[], id⟩ ⟨"ten_t", none, none, "usr_a", .user⟩
        (.createOrganizationMember "org_a" ⟨some "om_b", "usr_c", none⟩ "om_n")).memberships.organizationMembers.lookup
          "om_b" = final.stores.access.memberships.organizationMembers.lookup "om_b" ∧
      ¬ Advanced memberStores final.stores ∧ ¬ ActsOnRead memberStores final.stores final.stores := by
  refine ⟨_, rfl, by decide +kernel, fun h => ?_, fun h => ?_⟩
  · obtain ⟨later, hlater, hversion⟩ := h.organizationMembers "om_b" firstMember (by decide +kernel)
    have hnow : later = ⟨"om_b", "ten_t", "org_a", "usr_c", "user", .active, 1⟩ := by
      have hlookup : (memberStores.access.write (.upsertOrganizationMember
          ⟨"om_b", "ten_t", "org_a", "usr_c", "user"⟩)).memberships.organizationMembers.lookup "om_b" =
            some ⟨"om_b", "ten_t", "org_a", "usr_c", "user", .active, 1⟩ := by decide +kernel
      exact Option.some.inj (hlater.symm.trans hlookup)
    subst hnow
    exact absurd hversion (by decide)
  · have hread := h.organizationMember "om_b" .suspended firstMember _ (by decide +kernel) rfl
    exact absurd hread.2 (by decide +kernel)

end Examples

end Starweaver.Platform
