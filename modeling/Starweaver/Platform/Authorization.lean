import Starweaver.Platform.Invitations

namespace Starweaver.Platform

open Library.OrderedMap

/-- The in-memory stores that decide what a principal may do. -/
structure AccessStore where
  memberships : MembershipStore
  roleBindings : Index PlatformRoleBindingRecord
  invitations : Index PlatformOrganizationInvitationRecord

section Decision

variable (store : AccessStore)

def roleBindingMembershipAllows (binding : PlatformRoleBindingRecord) : Bool :=
  match binding.projectId, binding.organizationId with
  | some projectId, _ =>
    (projectMembersForProject store.memberships projectId).any fun member => member.tenantId == binding.tenantId &&
      member.principalId == binding.principalId && member.status.acceptsAccess
  | none, some organizationId =>
    (organizationMembersForOrganization store.memberships organizationId).any fun member =>
      member.tenantId == binding.tenantId && member.principalId == binding.principalId && member.status.acceptsAccess
  | none, none => true

def roleBindingScopeId (binding : PlatformRoleBindingRecord) : String :=
  binding.projectId.getD (binding.organizationId.getD binding.tenantId)

def roleBindingActionGrants (binding : PlatformRoleBindingRecord) : List ActionGrant :=
  match binding.builtInRole with
  | none => []
  | some role => ActionGrant.forBuiltinRole binding.tenantId (roleBindingScopeId binding) binding.principalId role

def roleBindingGrants (tenantId principalId : String) : List ActionGrant :=
  ((activeRoleBindingsForPrincipal store.roleBindings tenantId principalId).filter
    (roleBindingMembershipAllows store)).flatMap roleBindingActionGrants

def roleBindingAuthorizationAllows (actor : AuthenticatedActor) (action : PlatformAction) (resource : ResourceRef) :
    Bool :=
  (authorize (roleBindingGrants store actor.tenantId actor.principalId) ⟨actor, action, resource⟩).allowed

/-- The decision for an actor, from the static grants of the service and the stored role bindings. -/
def authorizeServiceAction (grants : List ActionGrant) (actor : AuthenticatedActor) (action : PlatformAction)
    (resource : ResourceRef) : Result Unit :=
  let decision := authorize grants ⟨actor, action, resource⟩
  if decision.allowed then .ok ()
  else if roleBindingAuthorizationAllows store actor action resource then .ok ()
  else .error (.forbidden decision.reason)

end Decision

section Allows

variable {store : AccessStore} {actor : AuthenticatedActor} {action : PlatformAction} {resource : ResourceRef}

/-- A stored binding grants the action through its role, on resources that its scope covers. -/
structure BindingGrants (store : AccessStore) (actor : AuthenticatedActor) (action : PlatformAction)
    (resource : ResourceRef) (binding : PlatformRoleBindingRecord) (role : BuiltInRole) : Prop where
  stored : ∃ key, store.roleBindings.lookup key = some binding
  tenant : binding.tenantId = actor.tenantId
  principal : binding.principalId = actor.principalId
  active : binding.status = .active
  member : roleBindingMembershipAllows store binding = true
  hasRole : binding.builtInRole = some role
  granted : action ∈ role.actions
  scope : grantScopeMatches ⟨binding.tenantId, binding.principalId, action, action.resourceKind, role.scopeKind,
    roleBindingScopeId binding⟩ resource = true

/-- What the request itself must satisfy, whatever the grants are. -/
structure Admissible (actor : AuthenticatedActor) (action : PlatformAction) (resource : ResourceRef) : Prop where
  tenant : resource.tenantId = actor.tenantId
  kind : resource.kind = action.resourceKind
  user : action.requiresUserActor = true → actor.actorKind = .user

theorem roleBindingAuthorizationAllows_iff :
    roleBindingAuthorizationAllows store actor action resource = true ↔
      Admissible actor action resource ∧ ∃ binding role, BindingGrants store actor action resource binding role := by
  unfold roleBindingAuthorizationAllows
  rw [authorize_allowed]
  constructor
  · rintro ⟨htenant, hkind, huser, grant, hgrant, hallows⟩
    refine ⟨⟨htenant, hkind, huser⟩, ?_⟩
    simp only [roleBindingGrants, List.mem_flatMap, List.mem_filter, activeRoleBindingsForPrincipal,
      mem_orderedValues, Bool.and_eq_true, beq_iff_eq] at hgrant
    obtain ⟨binding, ⟨⟨hstored, ⟨hbindingTenant, hprincipal⟩, hactive⟩, hmember⟩, hgrant⟩ := hgrant
    unfold roleBindingActionGrants at hgrant
    split at hgrant
    · cases hgrant
    · rename_i role hrole
      simp only [ActionGrant.forBuiltinRole, List.mem_map] at hgrant
      obtain ⟨granted, hgranted, rfl⟩ := hgrant
      simp only [grantAllows, Bool.and_eq_true, beq_iff_eq] at hallows
      obtain ⟨⟨⟨⟨-, -⟩, rfl⟩, -⟩, hscope⟩ := hallows
      exact ⟨binding, role, hstored, hbindingTenant, hprincipal, hactive, hmember, hrole, hgranted, hscope⟩
  · rintro ⟨hadmissible, binding, role, hgrants⟩
    refine ⟨hadmissible.tenant, hadmissible.kind, hadmissible.user, ⟨binding.tenantId, binding.principalId, action,
      action.resourceKind, role.scopeKind, roleBindingScopeId binding⟩, ?_, ?_⟩
    · simp only [roleBindingGrants, List.mem_flatMap, List.mem_filter, activeRoleBindingsForPrincipal,
        mem_orderedValues, Bool.and_eq_true, beq_iff_eq]
      refine ⟨binding, ⟨⟨hgrants.stored, ⟨hgrants.tenant, hgrants.principal⟩, hgrants.active⟩, hgrants.member⟩, ?_⟩
      rw [roleBindingActionGrants, hgrants.hasRole]
      exact List.mem_map.mpr ⟨action, hgrants.granted, rfl⟩
    · simp only [grantAllows, Bool.and_eq_true, beq_iff_eq]
      exact ⟨⟨⟨⟨hgrants.tenant, hgrants.principal⟩, trivial⟩, hadmissible.kind.symm⟩, hgrants.scope⟩

theorem acceptsAccess_iff {status : PlatformMembershipStatus} :
    status.acceptsAccess = true ↔ status = .active := by
  cases status <;> simp [PlatformMembershipStatus.acceptsAccess]

theorem roleBindingMembershipAllows_project {store : AccessStore} {binding : PlatformRoleBindingRecord}
    {projectId : String} (hproject : binding.projectId = some projectId) :
    roleBindingMembershipAllows store binding = true ↔
      ∃ id member, store.memberships.projectMembers.lookup id = some member ∧ member.projectId = projectId ∧
        member.tenantId = binding.tenantId ∧ member.principalId = binding.principalId ∧ member.status = .active := by
  simp only [roleBindingMembershipAllows, hproject, projectMembersForProject, List.any_eq_true, List.mem_filter,
    mem_orderedValues, Bool.and_eq_true, beq_iff_eq, acceptsAccess_iff]
  constructor
  · rintro ⟨member, ⟨⟨id, hid⟩, hmember⟩, ⟨htenant, hprincipal⟩, hactive⟩
    exact ⟨id, member, hid, hmember, htenant, hprincipal, hactive⟩
  · rintro ⟨id, member, hid, hmember, htenant, hprincipal, hactive⟩
    exact ⟨member, ⟨⟨id, hid⟩, hmember⟩, ⟨htenant, hprincipal⟩, hactive⟩

theorem roleBindingMembershipAllows_organization {store : AccessStore} {binding : PlatformRoleBindingRecord}
    {organizationId : String} (hproject : binding.projectId = none)
    (horganization : binding.organizationId = some organizationId) :
    roleBindingMembershipAllows store binding = true ↔
      ∃ id member, store.memberships.organizationMembers.lookup id = some member ∧
        member.organizationId = organizationId ∧ member.tenantId = binding.tenantId ∧
        member.principalId = binding.principalId ∧ member.status = .active := by
  simp only [roleBindingMembershipAllows, hproject, horganization, organizationMembersForOrganization,
    List.any_eq_true, List.mem_filter, mem_orderedValues, Bool.and_eq_true, beq_iff_eq, acceptsAccess_iff]
  constructor
  · rintro ⟨member, ⟨⟨id, hid⟩, hmember⟩, ⟨htenant, hprincipal⟩, hactive⟩
    exact ⟨id, member, hid, hmember, htenant, hprincipal, hactive⟩
  · rintro ⟨id, member, hid, hmember, htenant, hprincipal, hactive⟩
    exact ⟨member, ⟨⟨id, hid⟩, hmember⟩, ⟨htenant, hprincipal⟩, hactive⟩

theorem authorize_nil (request : AuthorizationRequest) : (authorize [] request).allowed = false := by
  rw [Bool.eq_false_iff]
  intro hallowed
  obtain ⟨-, -, -, grant, hgrant, -⟩ := authorize_allowed.mp hallowed
  cases hgrant

theorem authorizeServiceAction_nil :
    authorizeServiceAction store [] actor action resource = .ok () ↔
      roleBindingAuthorizationAllows store actor action resource = true := by
  simp only [authorizeServiceAction, authorize_nil, Bool.false_eq_true, if_false]
  split <;> simp_all

end Allows

end Starweaver.Platform
