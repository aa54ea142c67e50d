import Starweaver.Platform.AccessSteps

namespace Starweaver.Platform

open Library.AssocMap Library.Checks Library.OrderedMap

/-- The writes of the requests to the access stores, each under one lock. -/
inductive AccessWrite
  | upsertRoleBinding (request : PlatformRoleBindingUpsert)
  | updateRoleBindingStatus (roleBindingId : String) (expectedVersion : Int) (status : PlatformRoleBindingStatus)
  | deleteRoleBindingsForOrganizationPrincipal (tenantId organizationId principalId : String)
  | deleteRoleBindingsForProjectPrincipal (tenantId projectId principalId : String)
  | upsertOrganizationMember (request : PlatformOrganizationMembershipUpsert)
  | updateOrganizationMemberStatus (organizationMemberId : String) (expectedVersion : Int)
    (status : PlatformMembershipStatus)
  | cascadeProjectMemberships (member : PlatformOrganizationMembershipRecord) (status : PlatformMembershipStatus)
  | upsertProjectMember (request : PlatformProjectMembershipUpsert)
  | updateProjectMemberStatus (projectMemberId : String) (expectedVersion : Int) (status : PlatformMembershipStatus)
  | createInvitation (record : PlatformOrganizationInvitationRecord)
  | revokeInvitation (invitationId : String) (expectedVersion nowUnix : Int)
  | acceptInvitation (request : AcceptPlatformOrganizationInvitationRequest)
deriving DecidableEq, Repr

section Write

variable (store : AccessStore)

/-- The store after a write that gives the changed map with its answer. -/
def AccessStore.written {ε α β : Type} (put : β → AccessStore) : Except ε (α × β) → AccessStore
  | .ok (_, changed) => put changed
  | .error _ => store

def AccessStore.write : AccessWrite → AccessStore
  | .upsertRoleBinding request => { store with roleBindings := (upsertRoleBinding store.roleBindings request).1 }
  | .updateRoleBindingStatus roleBindingId expectedVersion status =>
    { store with
      roleBindings := (updateRoleBindingStatus store.roleBindings roleBindingId expectedVersion status).1 }
  | .deleteRoleBindingsForOrganizationPrincipal tenantId organizationId principalId =>
    { store with
      roleBindings :=
        deleteRoleBindingsForOrganizationPrincipal store.roleBindings tenantId organizationId principalId }
  | .deleteRoleBindingsForProjectPrincipal tenantId projectId principalId =>
    { store with
      roleBindings := deleteRoleBindingsForProjectPrincipal store.roleBindings tenantId projectId principalId }
  | .upsertOrganizationMember request =>
    { store with memberships := (upsertOrganizationMember store.memberships request).1 }
  | .updateOrganizationMemberStatus organizationMemberId expectedVersion status =>
    store.written (fun memberships => { store with memberships })
      (updateOrganizationMemberStatus store.memberships organizationMemberId expectedVersion status)
  | .cascadeProjectMemberships member status =>
    { store with memberships := cascadeProjectMembershipsForOrganizationMember store.memberships member status }
  | .upsertProjectMember request => { store with memberships := (upsertProjectMember store.memberships request).1 }
  | .updateProjectMemberStatus projectMemberId expectedVersion status =>
    store.written (fun memberships => { store with memberships })
      (updateProjectMemberStatus store.memberships projectMemberId expectedVersion status)
  | .createInvitation record =>
    match createInvitation store.invitations record with
    | .ok invitations => { store with invitations }
    | .error _ => store
  | .revokeInvitation invitationId expectedVersion nowUnix =>
    store.written (fun invitations => { store with invitations })
      (revokeInvitation store.invitations invitationId expectedVersion nowUnix)
  | .acceptInvitation request =>
    store.written (fun invitations => { store with invitations }) (acceptInvitation store.invitations request)

end Write

section Handlers

variable (env : PlatformEnv) (store : AccessStore) (actor : AuthenticatedActor)

def organizationInvitationResource (invitation : PlatformOrganizationInvitationRecord) : ResourceRef :=
  ⟨"OrganizationInvitation", invitation.tenantId, some invitation.organizationId, invitation.projectId,
    invitation.invitationId⟩

def organizationInvitationForActor (organizationId invitationId : String) :
    Result PlatformOrganizationInvitationRecord :=
  match store.invitations.lookup invitationId with
  | none => .error .resourceNotFound
  | some invitation =>
    if invitation.tenantId = actor.tenantId ∧ invitation.organizationId = organizationId then .ok invitation
    else .error .resourceNotFound

/-- The revoked invitation, with the invitations of the store. -/
def revokeOrganizationInvitation (organizationId invitationId : String) (expectedVersion nowUnix : Int) :
    Result (PlatformOrganizationInvitationRecord × Index PlatformOrganizationInvitationRecord) := do
  let before ← organizationInvitationForActor store actor organizationId invitationId
  authorizeServiceAction store env.grants actor .organizationInvitationManage (organizationInvitationResource before)
  (revokeInvitation store.invitations invitationId expectedVersion nowUnix).mapError invitationErrorToService

end Handlers

section Sequences

variable {env : PlatformEnv} {store : AccessStore} {actor : AuthenticatedActor}

theorem cascadeOrganizationMember_writes {organizationMemberId : String} {expectedVersion : Int}
    {status : PlatformMembershipStatus} {updated : PlatformOrganizationMembershipRecord} {memberships : MembershipStore}
    (h : setOrganizationMemberStatus store organizationMemberId expectedVersion status = .ok (updated, memberships)) :
    ∃ writes : List AccessWrite,
      cascadeOrganizationMember store updated memberships status = writes.foldl AccessStore.write store := by
  have hupdate := mapError_ok.mp h
  by_cases hremoved : status = .removed
  · refine ⟨[.updateOrganizationMemberStatus organizationMemberId expectedVersion status,
      .cascadeProjectMemberships updated status,
      .deleteRoleBindingsForOrganizationPrincipal updated.tenantId updated.organizationId updated.principalId], ?_⟩
    simp only [List.foldl, AccessStore.write, AccessStore.written, hupdate, cascadeOrganizationMember, if_pos hremoved]
  · refine ⟨[.updateOrganizationMemberStatus organizationMemberId expectedVersion status,
      .cascadeProjectMemberships updated status], ?_⟩
    simp only [List.foldl, AccessStore.write, AccessStore.written, hupdate, cascadeOrganizationMember, if_neg hremoved]

theorem updateProjectMember_writes {projectId projectMemberId : String} {request : UpdateStatusRequest}
    {changed : AccessStore} (h : updateProjectMember env store actor projectId projectMemberId request = .ok changed) :
    ∃ writes : List AccessWrite, changed = writes.foldl AccessStore.write store := by
  obtain ⟨before, -, h⟩ := bind_ok.mp h
  obtain ⟨-, h⟩ := bind_unit_ok.mp h
  obtain ⟨status, -, h⟩ := bind_ok.mp h
  obtain ⟨⟨updated, memberships⟩, hset, h⟩ := bind_ok.mp h
  have hupdate := mapError_ok.mp hset
  cases h
  by_cases hremoved : status = .removed
  · refine ⟨[.updateProjectMemberStatus projectMemberId request.expectedVersion status,
      .deleteRoleBindingsForProjectPrincipal updated.tenantId updated.projectId updated.principalId], ?_⟩
    simp only [List.foldl, AccessStore.write, AccessStore.written, hupdate, if_pos hremoved]
  · refine ⟨[.updateProjectMemberStatus projectMemberId request.expectedVersion status], ?_⟩
    simp only [List.foldl, AccessStore.write, AccessStore.written, hupdate, if_neg hremoved]

theorem acceptAuthInvitation_writes (rawToken : String) (nowUnix : Int) (organizationMemberId projectMemberId : String) :
    ∃ writes : List AccessWrite,
      acceptAuthInvitation env store actor rawToken nowUnix organizationMemberId projectMemberId =
        writes.foldl AccessStore.write store := by
  unfold acceptAuthInvitation
  cases haccepted : acceptedInvitation env store actor rawToken nowUnix organizationMemberId projectMemberId with
  | error error => exact ⟨[], rfl⟩
  | ok pair =>
    obtain ⟨invitation, invitations⟩ := pair
    unfold acceptedInvitation at haccepted
    split at haccepted
    · cases haccepted
    obtain ⟨before, -, haccepted⟩ := bind_ok.mp haccepted
    obtain ⟨-, haccepted⟩ := bind_unit_ok.mp haccepted
    obtain ⟨request, hinvitations⟩ : ∃ request, acceptInvitation store.invitations request =
        .ok (invitation, invitations) := ⟨_, mapError_ok.mp haccepted⟩
    let joins : PlatformOrganizationMembershipUpsert :=
      ⟨organizationMemberId, invitation.tenantId, invitation.organizationId, actor.principalId, "user"⟩
    simp only
    cases hjoined : (upsertOrganizationMember store.memberships joins).2 with
    | error error =>
      refine ⟨[.acceptInvitation request, .upsertOrganizationMember joins], ?_⟩
      simp only [List.foldl, AccessStore.write, AccessStore.written, hinvitations, joins]
    | ok member =>
      cases hproject : invitation.projectId with
      | none =>
        refine ⟨[.acceptInvitation request, .upsertOrganizationMember joins], ?_⟩
        simp only [List.foldl, AccessStore.write, AccessStore.written, hinvitations, joins, invitedProjectMember,
          hproject]
      | some projectId =>
        refine ⟨[.acceptInvitation request, .upsertOrganizationMember joins,
          .upsertProjectMember ⟨projectMemberId, invitation.tenantId, invitation.organizationId, projectId,
            actor.principalId, member.organizationMemberId, "user"⟩], ?_⟩
        simp only [List.foldl, AccessStore.write, AccessStore.written, hinvitations, joins, invitedProjectMember,
          hproject]

/-- A request changes the stores by its writes alone. -/
theorem AccessStore.call_writes (env : PlatformEnv) (store : AccessStore) (actor : AuthenticatedActor)
    (call : AccessCall) :
    ∃ writes : List AccessWrite, store.call env actor call = writes.foldl AccessStore.write store := by
  have hunchanged {result : Result AccessStore}
      (h : ∀ changed, result = .ok changed → ∃ writes : List AccessWrite, changed = writes.foldl AccessStore.write store) :
      ∃ writes : List AccessWrite, store.orUnchanged result = writes.foldl AccessStore.write store := by
    cases result with
    | error error => exact ⟨[], rfl⟩
    | ok changed => exact h changed rfl
  cases call with
  | createRoleBinding request newId =>
    rw [AccessStore.call, createRoleBinding]
    cases roleBindingCandidate env store actor request newId with
    | error error => exact ⟨[], rfl⟩
    | ok candidate => exact ⟨[.upsertRoleBinding _], rfl⟩
  | updateRoleBindingStatus roleBindingId request =>
    rw [AccessStore.call, updateRoleBinding]
    cases roleBindingStatusChange env store actor roleBindingId request with
    | error error => exact ⟨[], rfl⟩
    | ok status => exact ⟨[.updateRoleBindingStatus roleBindingId request.expectedVersion status], rfl⟩
  | createOrganizationMember organizationId request newId =>
    rw [AccessStore.call, createOrganizationMember]
    cases organizationMemberUpsert env store actor organizationId request newId with
    | error error => exact ⟨[], rfl⟩
    | ok upsert => exact ⟨[.upsertOrganizationMember upsert], rfl⟩
  | updateOrganizationMemberStatus organizationId organizationMemberId request =>
    refine hunchanged fun changed h => ?_
    obtain ⟨before, -, h⟩ := bind_ok.mp h
    obtain ⟨-, h⟩ := bind_unit_ok.mp h
    obtain ⟨status, -, h⟩ := bind_ok.mp h
    obtain ⟨⟨updated, memberships⟩, hset, h⟩ := bind_ok.mp h
    cases h
    exact cascadeOrganizationMember_writes hset
  | removeOrganizationMember organizationId organizationMemberId expectedVersion =>
    refine hunchanged fun changed h => ?_
    obtain ⟨before, -, h⟩ := bind_ok.mp h
    obtain ⟨-, h⟩ := bind_unit_ok.mp h
    obtain ⟨⟨updated, memberships⟩, hset, h⟩ := bind_ok.mp h
    cases h
    exact cascadeOrganizationMember_writes hset
  | createProjectMember projectId request newId =>
    rw [AccessStore.call, createProjectMember]
    cases projectMemberUpsert env store actor projectId request newId with
    | error error => exact ⟨[], rfl⟩
    | ok upsert => exact ⟨[.upsertProjectMember upsert], rfl⟩
  | updateProjectMemberStatus projectId projectMemberId request =>
    exact hunchanged fun changed h => updateProjectMember_writes h
  | createOrganizationInvitation organizationId request nowUnix newId rawToken =>
    refine hunchanged fun changed h => ?_
    obtain ⟨resource, -, h⟩ := bind_ok.mp h
    obtain ⟨-, h⟩ := bind_unit_ok.mp h
    obtain ⟨invitation, -, h⟩ := bind_ok.mp h
    obtain ⟨invitations, hinvitations, h⟩ := bind_ok.mp h
    have hcreated := mapError_ok.mp hinvitations
    cases h
    refine ⟨[.createInvitation invitation], ?_⟩
    simp only [List.foldl, AccessStore.write, hcreated]
  | acceptAuthInvitation rawToken nowUnix organizationMemberId projectMemberId =>
    exact acceptAuthInvitation_writes rawToken nowUnix organizationMemberId projectMemberId

end Sequences

end Starweaver.Platform
