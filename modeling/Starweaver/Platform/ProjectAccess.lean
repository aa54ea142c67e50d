import Starweaver.Platform.Delegation
import Starweaver.Platform.Logins

namespace Starweaver.Platform

open Library.AssocMap Library.Checks Library.Machine Library.OrderedMap

section Access

variable (store : AccessStore)

def OrganizationMemberOf (tenantId organizationId principalId : String) : Prop :=
  ∃ id member, store.memberships.organizationMembers.lookup id = some member ∧ member.tenantId = tenantId ∧
    member.organizationId = organizationId ∧ member.principalId = principalId ∧ member.status = .active

/-- A membership that does not rest on the record under the key. -/
def MemberElsewhere (key tenantId organizationId principalId : String) : Prop :=
  ∃ id member, id ≠ key ∧ store.memberships.organizationMembers.lookup id = some member ∧
    member.tenantId = tenantId ∧ member.organizationId = organizationId ∧ member.principalId = principalId ∧
    member.status = .active

def ProjectMemberOf (tenantId projectId principalId : String) : Prop :=
  ∃ id member, store.memberships.projectMembers.lookup id = some member ∧ member.tenantId = tenantId ∧
    member.projectId = projectId ∧ member.principalId = principalId ∧ member.status = .active

/-- An active role binding of the principal names the organization and the project. -/
def BoundTo (tenantId organizationId projectId principalId : String) : Prop :=
  ∃ id binding, store.roleBindings.lookup id = some binding ∧ binding.tenantId = tenantId ∧
    binding.organizationId = some organizationId ∧ binding.projectId = some projectId ∧
    binding.principalId = principalId ∧ binding.status = .active

/-- Who has a binding and a membership for a project is a member of the organization that the binding names. -/
def ParentsHeld : Prop :=
  ∀ tenantId organizationId projectId principalId, BoundTo store tenantId organizationId projectId principalId →
    ProjectMemberOf store tenantId projectId principalId →
    OrganizationMemberOf store tenantId organizationId principalId

def BindingBacked (binding : PlatformRoleBindingRecord) : Prop :=
  ∀ organizationId projectId, binding.organizationId = some organizationId → binding.projectId = some projectId →
    ProjectMemberOf store binding.tenantId projectId binding.principalId →
    OrganizationMemberOf store binding.tenantId organizationId binding.principalId

def ProjectBacked (tenantId projectId principalId : String) : Prop :=
  ∀ organizationId, BoundTo store tenantId organizationId projectId principalId →
    OrganizationMemberOf store tenantId organizationId principalId

/-- A new membership under the key takes the place of none on which another project access rests. -/
def SpareKey (key tenantId organizationId principalId : String) : Prop :=
  ∀ record, store.memberships.organizationMembers.lookup key = some record → ∀ projectId,
    BoundTo store record.tenantId record.organizationId projectId record.principalId →
    ProjectMemberOf store record.tenantId projectId record.principalId →
    (record.tenantId = tenantId ∧ record.organizationId = organizationId ∧ record.principalId = principalId) ∨
      MemberElsewhere store key record.tenantId record.organizationId record.principalId

/-- The decision through one binding alone. -/
def grantsThrough (binding : PlatformRoleBindingRecord) (actor : AuthenticatedActor) (action : PlatformAction)
    (resource : ResourceRef) : Bool :=
  (activeRoleBindingsForPrincipal store.roleBindings actor.tenantId actor.principalId).contains binding &&
    roleBindingMembershipAllows store binding &&
    (authorize (roleBindingActionGrants binding) ⟨actor, action, resource⟩).allowed

end Access

section Primitives

variable {store : AccessStore}

theorem grantsThrough_iff {actor : AuthenticatedActor} {action : PlatformAction} {resource : ResourceRef} :
    roleBindingAuthorizationAllows store actor action resource = true ↔
      ∃ binding, grantsThrough store binding actor action resource = true := by
  simp only [roleBindingAuthorizationAllows, grantsThrough, authorize_allowed, Bool.and_eq_true, List.contains_iff_mem,
    roleBindingGrants, List.mem_flatMap, List.mem_filter]
  constructor
  · rintro ⟨htenant, hkind, huser, grant, ⟨binding, hbinding, hgrant⟩, hallows⟩
    exact ⟨binding, hbinding, htenant, hkind, huser, grant, hgrant, hallows⟩
  · rintro ⟨binding, hbinding, htenant, hkind, huser, grant, hgrant, hallows⟩
    exact ⟨htenant, hkind, huser, grant, ⟨binding, hbinding, hgrant⟩, hallows⟩

theorem ParentsHeld.organizationMember {binding : PlatformRoleBindingRecord} {actor : AuthenticatedActor}
    {action : PlatformAction} {resource : ResourceRef} {projectId : String} (hheld : ParentsHeld store)
    (hvalid : BindingsValid store) (hgrants : grantsThrough store binding actor action resource = true)
    (hproject : binding.projectId = some projectId) :
    ∃ organizationId, binding.organizationId = some organizationId ∧
      OrganizationMemberOf store binding.tenantId organizationId binding.principalId := by
  simp only [grantsThrough, Bool.and_eq_true, List.contains_iff_mem, activeRoleBindingsForPrincipal, List.mem_filter,
    mem_orderedValues, beq_iff_eq, roleBindingMembershipAllows_project hproject] at hgrants
  obtain ⟨⟨⟨⟨key, hstored⟩, -, hactive⟩, id, member, hid, hmember, htenant, hprincipal, hstatus⟩, -⟩ := hgrants
  obtain ⟨role, -, hshape⟩ := (hvalid key binding hstored).shape
  cases horganization : binding.organizationId with
  | none =>
    rw [horganization, hproject] at hshape
    cases hkind : role.scopeKind <;> simp [validateScopeShape, hkind] at hshape
  | some organizationId =>
    refine ⟨organizationId, rfl, hheld _ _ projectId _ ?_ ?_⟩
    · exact ⟨key, binding, hstored, rfl, horganization, hproject, rfl, hactive⟩
    · exact ⟨id, member, hid, htenant, hmember, hprincipal, hstatus⟩

theorem organizationMemberOf_iff {tenantId organizationId principalId : String} :
    OrganizationMemberOf store tenantId organizationId principalId ↔
      (organizationMembersForOrganization store.memberships organizationId).any (fun member =>
        member.tenantId == tenantId && member.principalId == principalId && member.status == .active) = true := by
  simp only [OrganizationMemberOf, organizationMembersForOrganization, List.any_eq_true, List.mem_filter,
    mem_orderedValues, Bool.and_eq_true, beq_iff_eq]
  constructor
  · rintro ⟨id, member, hid, htenant, horganization, hprincipal, hstatus⟩
    exact ⟨member, ⟨⟨id, hid⟩, horganization⟩, ⟨htenant, hprincipal⟩, hstatus⟩
  · rintro ⟨member, ⟨⟨id, hid⟩, horganization⟩, ⟨htenant, hprincipal⟩, hstatus⟩
    exact ⟨id, member, hid, htenant, horganization, hprincipal, hstatus⟩

theorem ParentsHeld.congr (hheld : ParentsHeld store) {other : AccessStore}
    (hmemberships : other.memberships = store.memberships) (hbindings : other.roleBindings = store.roleBindings) :
    ParentsHeld other := by
  unfold ParentsHeld BoundTo ProjectMemberOf OrganizationMemberOf at hheld ⊢
  rw [hmemberships, hbindings]
  exact hheld

theorem ParentsHeld.insertOrganizationMember (hheld : ParentsHeld store) {key : String}
    {record : PlatformOrganizationMembershipRecord} (hactive : record.status = .active)
    (hspare : SpareKey store key record.tenantId record.organizationId record.principalId) :
    ParentsHeld { store with
      memberships := { store.memberships with
        organizationMembers := store.memberships.organizationMembers.insert key record } } := by
  intro tenantId organizationId projectId principalId hbound hproject
  have hkeeps {t o x : String} (h : MemberElsewhere store key t o x) :
      OrganizationMemberOf { store with
        memberships := { store.memberships with
          organizationMembers := store.memberships.organizationMembers.insert key record } } t o x := by
    obtain ⟨id, member, hne, hid, hmember⟩ := h
    exact ⟨id, member, by rw [AList.lookup_insert_ne hne]; exact hid, hmember⟩
  obtain ⟨id, member, hid, htenant, horganization, hprincipal, hstatus⟩ :=
    hheld tenantId organizationId projectId principalId hbound hproject
  by_cases hkey : id = key
  · subst hkey htenant horganization hprincipal
    rcases hspare member hid projectId hbound hproject with ⟨htenant, horganization, hprincipal⟩ | helsewhere
    · exact ⟨id, record, AList.lookup_insert _, htenant.symm, horganization.symm, hprincipal.symm, hactive⟩
    · exact hkeeps helsewhere
  · exact hkeeps ⟨id, member, hkey, hid, htenant, horganization, hprincipal, hstatus⟩

theorem ParentsHeld.insertProjectMember (hheld : ParentsHeld store) {key : String}
    {record : PlatformProjectMembershipRecord}
    (hbacked : record.status = .active → ProjectBacked store record.tenantId record.projectId record.principalId) :
    ParentsHeld { store with
      memberships := { store.memberships with
        projectMembers := store.memberships.projectMembers.insert key record } } := by
  intro tenantId organizationId projectId principalId hbound hproject
  obtain ⟨id, member, hid, htenant, hmember, hprincipal, hstatus⟩ := hproject
  rcases insert_some hid with ⟨-, rfl⟩ | ⟨-, hold⟩
  · subst htenant hmember hprincipal
    exact hbacked hstatus organizationId hbound
  · exact hheld _ _ _ _ hbound ⟨id, member, hold, htenant, hmember, hprincipal, hstatus⟩

theorem ParentsHeld.insertRoleBinding (hheld : ParentsHeld store) {key : String} {record : PlatformRoleBindingRecord}
    (hbacked : record.status = .active → BindingBacked store record) :
    ParentsHeld { store with roleBindings := store.roleBindings.insert key record } := by
  intro tenantId organizationId projectId principalId hbound hproject
  obtain ⟨id, binding, hid, htenant, horganization, hbinding, hprincipal, hstatus⟩ := hbound
  rcases insert_some hid with ⟨-, rfl⟩ | ⟨-, hold⟩
  · subst htenant hprincipal
    exact hbacked hstatus organizationId projectId horganization hbinding hproject
  · exact hheld _ _ _ _ ⟨id, binding, hold, htenant, horganization, hbinding, hprincipal, hstatus⟩ hproject

theorem ParentsHeld.deleteRoleBindings (hheld : ParentsHeld store) (test : PlatformRoleBindingRecord → Bool) :
    ParentsHeld { store with roleBindings := Platform.deleteRoleBindings store.roleBindings test } := by
  intro tenantId organizationId projectId principalId hbound hproject
  obtain ⟨id, binding, hid, htenant, horganization, hbinding, hprincipal, hstatus⟩ := hbound
  obtain ⟨old, hold, rfl | rfl⟩ := deleteRoleBindings_some hid
  · exact hheld _ _ _ _ ⟨id, binding, hold, htenant, horganization, hbinding, hprincipal, hstatus⟩ hproject
  · cases hstatus

/-- A binding that is still active after a deletion does not pass its test. -/
theorem deleteRoleBindings_active {records : Index PlatformRoleBindingRecord}
    {test : PlatformRoleBindingRecord → Bool} {id : String} {record : PlatformRoleBindingRecord}
    (h : (deleteRoleBindings records test).lookup id = some record) (hactive : record.status = .active) :
    records.lookup id = some record ∧ test record = false := by
  rw [Platform.deleteRoleBindings, lookup_mapValues] at h
  obtain ⟨old, hold, rfl⟩ := Option.map_eq_some_iff.mp h
  split at hactive
  · cases hactive
  · rename_i htest
    rw [if_neg htest]
    refine ⟨hold, ?_⟩
    simpa [hactive] using htest

/-- A project member that is still active after a cascade is none of the member's. -/
theorem cascade_active {memberships : MembershipStore} {member : PlatformOrganizationMembershipRecord}
    {status : PlatformMembershipStatus} {id : String} {record : PlatformProjectMembershipRecord}
    (h : (cascadeProjectMembershipsForOrganizationMember memberships member status).projectMembers.lookup id =
      some record) (hactive : record.status = .active) :
    memberships.projectMembers.lookup id = some record ∧ (status ≠ .active → ¬ (record.tenantId = member.tenantId ∧
      record.organizationId = member.organizationId ∧ record.principalId = member.principalId)) := by
  simp only [cascadeProjectMembershipsForOrganizationMember, lookup_mapValues] at h
  obtain ⟨old, hold, rfl⟩ := Option.map_eq_some_iff.mp h
  split at hactive
  · rename_i hcascade
    simp only at hactive
    subst hactive
    simp [cascadeTo] at hcascade
  · rename_i hcascade
    rw [if_neg hcascade]
    refine ⟨hold, fun hstatus hsame => hcascade ?_⟩
    cases status with
    | active => exact (hstatus rfl).elim
    | suspended => simp [hsame.1, hsame.2.1, hsame.2.2, cascadeTo, hactive]
    | removed => simp [hsame.1, hsame.2.1, hsame.2.2, cascadeTo, hactive]

end Primitives

section Changes

variable {env : PlatformEnv} {store : AccessStore} {actor : AuthenticatedActor}

/-- The suspension of a member reaches every project access that rests on the membership. -/
def CascadeReaches (store : AccessStore) (record : PlatformOrganizationMembershipRecord) : Prop :=
  ∀ projectId, BoundTo store record.tenantId record.organizationId projectId record.principalId →
    ∀ id member, store.memberships.projectMembers.lookup id = some member → member.tenantId = record.tenantId →
      member.projectId = projectId → member.principalId = record.principalId → member.status = .active →
      member.organizationId = record.organizationId

theorem OrganizationMemberChange.parentsHeld {organizationMemberId : String} {status : PlatformMembershipStatus}
    {changed : AccessStore} (hheld : ParentsHeld store)
    (hreaches : status = .suspended → ∀ record,
      store.memberships.organizationMembers.lookup organizationMemberId = some record → CascadeReaches store record)
    (h : OrganizationMemberChange env store actor organizationMemberId status changed) : ParentsHeld changed := by
  obtain ⟨record, hrecord, -, -, rfl⟩ := h
  intro tenantId organizationId projectId principalId hbound hproject
  obtain ⟨key, binding, hbinding, hbindingTenant, hbindingOrganization, hbindingProject, hbindingPrincipal,
    hbindingActive⟩ := hbound
  obtain ⟨pid, pmember, hpmember, hptenant, hpproject, hpprincipal, hpactive⟩ := hproject
  obtain ⟨hpold, hpspared⟩ := cascade_active hpmember hpactive
  have hbindingOld : store.roleBindings.lookup key = some binding ∧ (status = .removed →
      ¬ (binding.tenantId = record.tenantId ∧ binding.organizationId = some record.organizationId ∧
        binding.principalId = record.principalId)) := by
    simp only [cascadeOrganizationMember] at hbinding
    split at hbinding
    · obtain ⟨hold, htest⟩ := deleteRoleBindings_active hbinding hbindingActive
      refine ⟨hold, fun _ hsame => ?_⟩
      simp [hsame.1, hsame.2.1, hsame.2.2] at htest
    · rename_i hstatus
      exact ⟨hbinding, fun hremoved => (hstatus hremoved).elim⟩
  have hboundOld : BoundTo store tenantId organizationId projectId principalId :=
    ⟨key, binding, hbindingOld.1, hbindingTenant, hbindingOrganization, hbindingProject, hbindingPrincipal,
      hbindingActive⟩
  obtain ⟨id, member, hid, htenant, horganization, hprincipal, hstatus⟩ := hheld tenantId organizationId projectId
    principalId hboundOld ⟨pid, pmember, hpold, hptenant, hpproject, hpprincipal, hpactive⟩
  by_cases hkey : id = organizationMemberId
  · subst hkey
    cases hrecord.symm.trans hid
    subst htenant horganization hprincipal
    cases hnew : status with
    | active =>
      refine ⟨id, { record with status := .active, resourceVersion := record.resourceVersion + 1 }, ?_, rfl, rfl, rfl,
        rfl⟩
      exact AList.lookup_insert _
    | suspended =>
      have horganization := hreaches hnew record hrecord projectId hboundOld pid pmember hpold hptenant hpproject
        hpprincipal hpactive
      exact (hpspared (by rw [hnew]; decide) ⟨hptenant, horganization, hpprincipal⟩).elim
    | removed => exact (hbindingOld.2 hnew ⟨hbindingTenant, hbindingOrganization, hbindingPrincipal⟩).elim
  · refine ⟨id, member, ?_, htenant, horganization, hprincipal, hstatus⟩
    exact (AList.lookup_insert_ne hkey).trans hid

theorem upsertOrganizationMember_parentsHeld (hkeyed : StoreKeyed store) (hheld : ParentsHeld store)
    {request : PlatformOrganizationMembershipUpsert}
    (hspare : (∀ id record, store.memberships.organizationMembers.lookup id = some record →
      request.sameMember record = false) →
      SpareKey store request.organizationMemberId request.tenantId request.organizationId request.principalId) :
    ParentsHeld { store with memberships := (upsertOrganizationMember store.memberships request).1 } := by
  rcases upsertOrganizationMember_cases hkeyed.organizationMembers request with
    ⟨record, hrecord, hsame, hstore⟩ | ⟨hnone, hstore | ⟨-, hstore⟩⟩
  · rw [hstore]
    obtain ⟨-, htenant, horganization, hprincipal⟩ := request.rejoined_same record
    refine hheld.insertOrganizationMember (request.rejoined_active record) ?_
    intro found hfound projectId _ _
    cases hrecord.symm.trans hfound
    exact .inl ⟨htenant.symm, horganization.symm, hprincipal.symm⟩
  · rw [hstore]
    exact hheld
  · rw [hstore]
    exact hheld.insertOrganizationMember rfl (hspare hnone)

/-- The tenants in which an upsert of a project member may write. -/
def UpsertTenant (store : AccessStore) (request : PlatformProjectMembershipUpsert) (tenantId : String) : Prop :=
  tenantId = request.tenantId ∨ ∃ id member, store.memberships.projectMembers.lookup id = some member ∧
    member.projectId = request.projectId ∧ member.principalId = request.principalId ∧ member.tenantId = tenantId

theorem upsertProjectMember_parentsHeld (hkeyed : StoreKeyed store) (hheld : ParentsHeld store)
    {request : PlatformProjectMembershipUpsert}
    (hbacked : ∀ tenantId, UpsertTenant store request tenantId →
      ProjectBacked store tenantId request.projectId request.principalId) :
    ParentsHeld { store with memberships := (upsertProjectMember store.memberships request).1 } := by
  rcases upsertProjectMember_cases hkeyed.projectMembers request with
    ⟨record, hrecord, hsame, hstore⟩ | ⟨-, hstore | ⟨-, hstore⟩⟩
  · rw [hstore]
    refine hheld.insertProjectMember fun _ => ?_
    simp only [PlatformProjectMembershipUpsert.sameMember, Bool.and_eq_true, beq_iff_eq] at hsame
    have hproject : (request.rejoined record).projectId = request.projectId := hsame.1
    have hprincipal : (request.rejoined record).principalId = request.principalId := hsame.2
    rw [hproject, hprincipal]
    exact hbacked _ (.inr ⟨_, record, hrecord, hsame.1, hsame.2, rfl⟩)
  · rw [hstore]
    exact hheld
  · rw [hstore]
    exact hheld.insertProjectMember fun _ => hbacked _ (.inl rfl)

end Changes

section Login

variable (completion : OidcLoginCompletionRecord)

def AccessStore.withOrganizationMember (store : AccessStore) (record : PlatformOrganizationMembershipRecord) :
    AccessStore :=
  { store with
    memberships := { store.memberships with
      organizationMembers := store.memberships.organizationMembers.insert record.organizationMemberId record } }

def AccessStore.withProjectMember (store : AccessStore) (record : PlatformProjectMembershipRecord) : AccessStore :=
  { store with
    memberships := { store.memberships with
      projectMembers := store.memberships.projectMembers.insert record.projectMemberId record } }

def AccessStore.withRoleBinding (store : AccessStore) (record : PlatformRoleBindingRecord) : AccessStore :=
  { store with roleBindings := store.roleBindings.insert record.roleBindingId record }

/-- The accesses that only concern the account leave memberships and role bindings as they are. -/
def LoginStage.OfAccount : LoginStage → Prop
  | .recordOrganizationMember | .recordProjectMember | .recordRoleBinding => False
  | _ => True

theorem LoginStage.run_access {stage : LoginStage} (hstage : stage.OfAccount) (progress : LoginProgress)
    (stores : LoginStores) : (stage.run completion progress stores).1.access = stores.access := by
  cases stage with
  | readUser => rfl
  | recordUser =>
    simp only [LoginStage.run]
    apply wrote_keeps fun stores => stores.access
    intro value
    rfl
  | linkIdentity => rfl
  | findAttempt => rfl
  | consumeAttempt =>
    simp only [LoginStage.run]
    cases progress.stateHash with
    | none => rfl
    | some stateHash =>
      apply wrote_keeps fun stores => stores.access
      intro value
      rfl
  | recordSession =>
    simp only [LoginStage.run]
    apply wrote_keeps fun stores => stores.access
    intro value
    rfl
  | recordOrganizationMember => exact hstage.elim
  | recordProjectMember => exact hstage.elim
  | recordRoleBinding => exact hstage.elim

theorem runStages_account {p : AccessStore → Prop} {account rest : List LoginStage} {access : AccessStore}
    (haccount : ∀ stage ∈ account, stage.OfAccount) (haccess : p access)
    (hrest : ∀ progress stores, stores.access = access → p (runStages completion rest progress stores).1.access)
    (progress : LoginProgress) (stores : LoginStores) (hstores : stores.access = access) :
    p (runStages completion (account ++ rest) progress stores).1.access := by
  induction account generalizing progress stores with
  | nil => exact hrest progress stores hstores
  | cons stage account ih =>
    obtain ⟨hstage, haccount⟩ := List.forall_mem_cons.mp haccount
    have hkept := LoginStage.run_access completion hstage progress stores
    rw [List.cons_append, runStages]
    split
    · rename_i next progress' hrun
      rw [hrun] at hkept
      exact ih haccount progress' next (hkept.trans hstores)
    · rename_i next error hrun
      rw [hrun] at hkept
      rw [hkept, hstores]
      exact haccess

/-- What a login leaves of the memberships and role bindings: it stops before a record that fails its check. -/
inductive LoginAccess (access : AccessStore) : AccessStore → Prop
  | none : LoginAccess access access
  | organizationMember : LoginAccess access (access.withOrganizationMember completion.organizationMember)
  | projectMember : LoginAccess access
      ((access.withOrganizationMember completion.organizationMember).withProjectMember completion.projectMember)
  | roleBinding (hvalid : validateRoleBinding completion.roleBinding = .ok ()) : LoginAccess access
      (((access.withOrganizationMember completion.organizationMember).withProjectMember
        completion.projectMember).withRoleBinding completion.roleBinding)

theorem completeOidcLogin_access (stores : LoginStores) :
    LoginAccess completion stores.access (completeOidcLogin stores completion).1.access := by
  have haccount : ∀ stage ∈ [LoginStage.readUser, .recordUser, .linkIdentity, .findAttempt, .consumeAttempt,
      .recordSession], stage.OfAccount := by
    simp [LoginStage.OfAccount]
  have hstages : completionStages = [.readUser, .recordUser, .linkIdentity, .findAttempt, .consumeAttempt,
      .recordSession] ++ [.recordOrganizationMember, .recordProjectMember, .recordRoleBinding] := rfl
  rw [completeOidcLogin, hstages]
  apply runStages_account completion haccount .none _ .start stores rfl
  intro progress next hnext
  rw [← hnext]
  simp only [runStages, LoginStage.run, Platform.recordOrganizationMember, Platform.recordProjectMember,
    Platform.recordRoleBinding, bind, Except.bind]
  cases validateOrganizationMember completion.organizationMember with
  | error error => exact .none
  | ok =>
    cases validateProjectMember completion.projectMember with
    | error error => exact .organizationMember
    | ok =>
      cases hvalid : validateRoleBinding completion.roleBinding with
      | error error => exact .projectMember
      | ok => exact .roleBinding hvalid

end Login

inductive AccessStep
  | request (actor : AuthenticatedActor) (call : AccessCall)
  | completeOidcLogin (completion : OidcLoginCompletionRecord)

def LoginStores.accessStep (env : PlatformEnv) (stores : LoginStores) : AccessStep → LoginStores
  | .request actor call => { stores with access := stores.access.call env actor call }
  | .completeOidcLogin completion => (Platform.completeOidcLogin stores completion).1

section Conditions

variable (env : PlatformEnv) (store : AccessStore)

/-- What an upsert of a new organization member asks of the key that it is given. -/
def NewMemberSpares (request : PlatformOrganizationMembershipUpsert) : Prop :=
  (∀ id record, store.memberships.organizationMembers.lookup id = some record → request.sameMember record = false) →
    SpareKey store request.organizationMemberId request.tenantId request.organizationId request.principalId

/-- The bindings on the project name the organization that the principal joins in the same step, or one in which it
is a member without the record under the key. -/
def JoinBacked (key tenantId joined projectId principalId memberTenant : String) : Prop :=
  ∀ organizationId, BoundTo store memberTenant organizationId projectId principalId →
    memberTenant = tenantId ∧ organizationId = joined ∨ MemberElsewhere store key memberTenant organizationId principalId

/-- The step opens no project access without the organization access above it, and takes none away from below. -/
def AccessCall.KeepsParents (actor : AuthenticatedActor) : AccessCall → Prop
  | .createRoleBinding request newId => ∀ candidate,
      roleBindingCandidate env store actor request newId = .ok candidate → BindingBacked store candidate
  | .updateRoleBindingStatus roleBindingId request =>
    roleBindingStatusFromRequest request.status = .ok .active → ∀ record,
      store.roleBindings.lookup roleBindingId = some record → BindingBacked store record
  | .createOrganizationMember organizationId request newId => ∀ upsert,
      organizationMemberUpsert env store actor organizationId request newId = .ok upsert →
        NewMemberSpares store upsert
  | .updateOrganizationMemberStatus _ organizationMemberId request =>
    membershipStatusFromRequest request.status = .ok .suspended → ∀ record,
      store.memberships.organizationMembers.lookup organizationMemberId = some record → CascadeReaches store record
  | .createProjectMember projectId request newId => ∀ upsert,
      projectMemberUpsert env store actor projectId request newId = .ok upsert → ∀ tenantId,
        UpsertTenant store upsert tenantId → ProjectBacked store tenantId upsert.projectId upsert.principalId
  | .updateProjectMemberStatus _ projectMemberId request =>
    membershipStatusFromRequest request.status = .ok .active → ∀ record,
      store.memberships.projectMembers.lookup projectMemberId = some record →
        ProjectBacked store record.tenantId record.projectId record.principalId
  | .acceptAuthInvitation rawToken _ organizationMemberId projectMemberId => ∀ invitation,
      organizationInvitationByRawToken env store rawToken = .ok invitation →
        SpareKey store organizationMemberId invitation.tenantId invitation.organizationId actor.principalId ∧
        ∀ projectId, invitation.projectId = some projectId → ∀ tenantId,
          UpsertTenant store ⟨projectMemberId, invitation.tenantId, invitation.organizationId, projectId,
            actor.principalId, organizationMemberId, "user"⟩ tenantId →
          JoinBacked store organizationMemberId invitation.tenantId invitation.organizationId projectId
            actor.principalId tenantId
  | .removeOrganizationMember .. | .createOrganizationInvitation .. => True

def OidcLoginCompletionRecord.KeepsParents (completion : OidcLoginCompletionRecord) : Prop :=
  SpareKey store completion.organizationMemberId completion.tenantId completion.organizationId completion.userId ∧
    JoinBacked store completion.organizationMemberId completion.tenantId completion.organizationId
      completion.projectId completion.userId completion.tenantId

/-- A request is asked to keep the parents only if it passes its checks. -/
def AccessStep.KeepsParents (stores : LoginStores) : AccessStep → Prop
  | .request actor call => call.PassesChecks env stores.access actor → call.KeepsParents env stores.access actor
  | .completeOidcLogin completion => completion.KeepsParents stores.access

end Conditions

section Steps

variable {env : PlatformEnv} {store : AccessStore} {actor : AuthenticatedActor}

/-- After the principal has joined, the project access that the step opens has its parent. -/
theorem JoinBacked.projectBacked {key joined projectId : String} {record : PlatformOrganizationMembershipRecord}
    {memberTenant : String} (hactive : record.status = .active) (hjoined : record.organizationId = joined)
    (hbacked : JoinBacked store key record.tenantId joined projectId record.principalId memberTenant) :
    ProjectBacked { store with
      memberships := { store.memberships with
        organizationMembers := store.memberships.organizationMembers.insert key record } }
      memberTenant projectId record.principalId := by
  intro organizationId hbound
  rcases hbacked organizationId hbound with ⟨htenant, horganization⟩ | ⟨id, member, hne, hid, hmember⟩
  · exact ⟨key, record, AList.lookup_insert _, htenant.symm, hjoined.trans horganization.symm, rfl, hactive⟩
  · exact ⟨id, member, (AList.lookup_insert_ne hne).trans hid, hmember⟩

theorem updateProjectMember_parentsHeld {projectId projectMemberId : String} {request : UpdateStatusRequest}
    {changed : AccessStore} (hheld : ParentsHeld store)
    (hbacked : membershipStatusFromRequest request.status = .ok .active → ∀ record,
      store.memberships.projectMembers.lookup projectMemberId = some record →
      ProjectBacked store record.tenantId record.projectId record.principalId)
    (h : updateProjectMember env store actor projectId projectMemberId request = .ok changed) :
    ParentsHeld changed := by
  obtain ⟨record, status, hrecord, -, hstatus, -, hmemberships, -, hbindings⟩ := updateProjectMember_ok h
  have hinserted : ParentsHeld { store with
      memberships := { store.memberships with
        projectMembers := store.memberships.projectMembers.insert projectMemberId
          { record with status, resourceVersion := record.resourceVersion + 1 } } } := by
    apply hheld.insertProjectMember
    intro hactive
    exact hbacked (hstatus.trans (congrArg _ hactive)) record hrecord
  by_cases hremoved : status = .removed
  · rw [if_pos hremoved] at hbindings
    have hdeleted := hinserted.deleteRoleBindings fun binding => binding.tenantId == record.tenantId &&
      binding.projectId == some record.projectId && binding.principalId == record.principalId
    exact hdeleted.congr hmemberships hbindings
  · rw [if_neg hremoved] at hbindings
    exact hinserted.congr hmemberships hbindings

theorem MemberElsewhere.upsert (hkeyed : StoreKeyed store) {request : PlatformOrganizationMembershipUpsert}
    {tenantId organizationId principalId : String}
    (h : MemberElsewhere store request.organizationMemberId tenantId organizationId principalId) :
    OrganizationMemberOf { store with memberships := (upsertOrganizationMember store.memberships request).1 }
      tenantId organizationId principalId := by
  obtain ⟨id, member, hne, hid, htenant, horganization, hprincipal, hstatus⟩ := h
  rcases upsertOrganizationMember_cases hkeyed.organizationMembers request with
    ⟨record, hrecord, -, hstore⟩ | ⟨-, hstore | ⟨-, hstore⟩⟩
  · rw [hstore]
    by_cases hkey : id = record.organizationMemberId
    · subst hkey
      cases hrecord.symm.trans hid
      obtain ⟨-, hsameTenant, hsameOrganization, hsamePrincipal⟩ := request.rejoined_same member
      exact ⟨_, request.rejoined member, AList.lookup_insert _, hsameTenant.trans htenant,
        hsameOrganization.trans horganization, hsamePrincipal.trans hprincipal, request.rejoined_active member⟩
    · exact ⟨id, member, (AList.lookup_insert_ne hkey).trans hid, htenant, horganization, hprincipal, hstatus⟩
  · rw [hstore]
    exact ⟨id, member, hid, htenant, horganization, hprincipal, hstatus⟩
  · rw [hstore]
    exact ⟨id, member, (AList.lookup_insert_ne hne).trans hid, htenant, horganization, hprincipal, hstatus⟩

/-- Who an upsert answers for is a member. -/
theorem upsertOrganizationMember_memberOf (hkeyed : StoreKeyed store) {request : PlatformOrganizationMembershipUpsert}
    {answer : PlatformOrganizationMembershipRecord}
    (h : (upsertOrganizationMember store.memberships request).2 = .ok answer) :
    OrganizationMemberOf { store with memberships := (upsertOrganizationMember store.memberships request).1 }
      request.tenantId request.organizationId request.principalId := by
  unfold upsertOrganizationMember at h ⊢
  cases hfound : findOrdered request.sameMember store.memberships.organizationMembers with
  | some entry =>
    obtain ⟨hlookup, hsame⟩ := hkeyed.organizationMembers.findOrdered hfound
    simp only [hlookup]
    obtain ⟨-, htenant, horganization, hprincipal⟩ := request.rejoined_same entry.2
    simp only [PlatformOrganizationMembershipUpsert.sameMember, Bool.and_eq_true, beq_iff_eq] at hsame
    exact ⟨_, request.rejoined entry.2, AList.lookup_insert _, htenant.trans hsame.1.1,
      horganization.trans hsame.1.2, hprincipal.trans hsame.2, request.rejoined_active entry.2⟩
  | none =>
    simp only [hfound] at h ⊢
    cases hvalid : validateOrganizationMember request.newRecord with
    | error error =>
      rw [hvalid] at h
      cases h
    | ok => exact ⟨_, request.newRecord, AList.lookup_insert _, rfl, rfl, rfl, rfl⟩

theorem acceptAuthInvitation_parentsHeld (hkeyed : StoreKeyed store) (hheld : ParentsHeld store)
    {rawToken organizationMemberId projectMemberId : String} {nowUnix : Int}
    (hcondition : (AccessCall.acceptAuthInvitation rawToken nowUnix organizationMemberId projectMemberId).KeepsParents
      env store actor) :
    ParentsHeld (acceptAuthInvitation env store actor rawToken nowUnix organizationMemberId projectMemberId) := by
  unfold acceptAuthInvitation
  split
  · exact hheld
  rename_i invitation invitations haccepted
  obtain ⟨before, hbefore, -, hinvitation, -, -⟩ := acceptedInvitation_ok hkeyed haccepted
  subst hinvitation
  obtain ⟨hspare, hbacked⟩ := hcondition before hbefore
  have hjoined : ParentsHeld { store with
      memberships := (upsertOrganizationMember store.memberships ⟨organizationMemberId, before.tenantId,
        before.organizationId, actor.principalId, "user"⟩).1 } :=
    upsertOrganizationMember_parentsHeld hkeyed hheld fun _ => hspare
  simp only
  split
  · exact hjoined.congr rfl rfl
  · rename_i member hmember
    unfold invitedProjectMember
    split
    · exact hjoined.congr rfl rfl
    · rename_i projectId hprojectId
      have hkeyedJoined : StoreKeyed { store with
          memberships := (upsertOrganizationMember store.memberships ⟨organizationMemberId, before.tenantId,
            before.organizationId, actor.principalId, "user"⟩).1 } := by
        refine { hkeyed with
          organizationMembers := upsertOrganizationMember_keyed hkeyed.organizationMembers _
          projectMembers := ?_ }
        rw [upsertOrganizationMember_projectMembers]
        exact hkeyed.projectMembers
      refine (upsertProjectMember_parentsHeld hkeyedJoined hjoined fun tenantId htenant => ?_).congr rfl rfl
      unfold UpsertTenant at htenant
      simp only [upsertOrganizationMember_projectMembers] at htenant
      intro other hbound
      rcases hbacked projectId hprojectId tenantId htenant other hbound with ⟨rfl, rfl⟩ | helsewhere
      · exact upsertOrganizationMember_memberOf hkeyed hmember
      · exact helsewhere.upsert hkeyed

theorem call_parentsHeld (hkeyed : StoreKeyed store) (hheld : ParentsHeld store) {call : AccessCall}
    (hcondition : call.KeepsParents env store actor) : ParentsHeld (store.call env actor call) := by
  cases call with
  | createRoleBinding request newId =>
    rw [AccessStore.call]
    rcases createRoleBinding_cases env hkeyed actor request newId with hstore | ⟨candidate, hcandidate, hcases⟩
    · rw [hstore]
      exact hheld
    have hbacked := hcondition candidate hcandidate
    rcases hcases with ⟨record, -, hsame, hstore⟩ | hstore
    · rw [hstore]
      refine hheld.insertRoleBinding fun _ => ?_
      obtain ⟨htenant, horganization, hproject, hprincipal, -⟩ := reactivated_same record
      obtain ⟨htenant', horganization', hproject', hprincipal', -⟩ := hsame
      unfold BindingBacked at hbacked ⊢
      rw [htenant.trans htenant', horganization.trans horganization', hproject.trans hproject',
        hprincipal.trans hprincipal']
      exact hbacked
    · rw [hstore]
      exact hheld.insertRoleBinding fun _ => hbacked
  | updateRoleBindingStatus roleBindingId request =>
    rw [AccessStore.call]
    rcases updateRoleBinding_cases env store actor roleBindingId request with
      hstore | ⟨record, status, hrecord, hstatus, -, hstore⟩
    · rw [hstore]
      exact hheld
    · rw [hstore]
      apply hheld.insertRoleBinding
      intro hactive
      exact hcondition (hstatus.trans (congrArg _ hactive)) record hrecord
  | createOrganizationMember organizationId request newId =>
    simp only [AccessStore.call, createOrganizationMember]
    split
    · exact hheld
    · rename_i upsert hupsert
      exact upsertOrganizationMember_parentsHeld hkeyed hheld (hcondition upsert hupsert)
  | updateOrganizationMemberStatus organizationId organizationMemberId request =>
    refine orUnchanged_of hheld fun changed hchanged => ?_
    obtain ⟨status, hstatus, hchange⟩ := updateOrganizationMember_ok hchanged
    exact hchange.parentsHeld hheld fun hsuspended => hcondition (hsuspended ▸ hstatus)
  | removeOrganizationMember organizationId organizationMemberId expectedVersion =>
    refine orUnchanged_of hheld fun changed hchanged => ?_
    exact (removeOrganizationMember_ok hchanged).parentsHeld hheld fun hsuspended => by cases hsuspended
  | createProjectMember projectId request newId =>
    simp only [AccessStore.call, createProjectMember]
    split
    · exact hheld
    · rename_i upsert hupsert
      exact upsertProjectMember_parentsHeld hkeyed hheld (hcondition upsert hupsert)
  | updateProjectMemberStatus projectId projectMemberId request =>
    refine orUnchanged_of hheld fun changed hchanged => ?_
    exact updateProjectMember_parentsHeld hheld hcondition hchanged
  | createOrganizationInvitation organizationId request nowUnix newId rawToken =>
    refine orUnchanged_of hheld fun changed hchanged => ?_
    obtain ⟨-, invitation, -, -, -, rfl⟩ := createOrganizationInvitation_ok hchanged
    exact hheld.congr rfl rfl
  | acceptAuthInvitation rawToken nowUnix organizationMemberId projectMemberId =>
    exact acceptAuthInvitation_parentsHeld hkeyed hheld hcondition

theorem LoginAccess.parentsHeld {completion : OidcLoginCompletionRecord} {after : AccessStore}
    (hheld : ParentsHeld store) (hcondition : completion.KeepsParents store)
    (h : LoginAccess completion store after) : ParentsHeld after := by
  obtain ⟨hspare, hbacked⟩ := hcondition
  have hmember : ParentsHeld (store.withOrganizationMember completion.organizationMember) :=
    hheld.insertOrganizationMember rfl hspare
  have hproject : ParentsHeld ((store.withOrganizationMember completion.organizationMember).withProjectMember
      completion.projectMember) :=
    hmember.insertProjectMember fun _ => JoinBacked.projectBacked rfl rfl hbacked
  cases h with
  | none => exact hheld
  | organizationMember => exact hmember
  | projectMember => exact hproject
  | roleBinding hvalid =>
    refine hproject.insertRoleBinding fun _ organizationId projectId _ hprojectId => ?_
    cases hprojectId

theorem LoginAccess.keyed {completion : OidcLoginCompletionRecord} {after : AccessStore} (hkeyed : StoreKeyed store)
    (h : LoginAccess completion store after) : StoreKeyed after := by
  have hmember : StoreKeyed (store.withOrganizationMember completion.organizationMember) :=
    { hkeyed with organizationMembers := hkeyed.organizationMembers.insert rfl }
  have hproject : StoreKeyed ((store.withOrganizationMember completion.organizationMember).withProjectMember
      completion.projectMember) :=
    { hmember with projectMembers := hmember.projectMembers.insert rfl }
  cases h with
  | none => exact hkeyed
  | organizationMember => exact hmember
  | projectMember => exact hproject
  | roleBinding => exact { hproject with roleBindings := hproject.roleBindings.insert rfl }

theorem LoginAccess.bindingsValid {completion : OidcLoginCompletionRecord} {after : AccessStore}
    (hvalid : BindingsValid store) (h : LoginAccess completion store after) : BindingsValid after := by
  cases h with
  | none => exact hvalid
  | organizationMember => exact hvalid
  | projectMember => exact hvalid
  | roleBinding hrecord =>
    intro id record hfound
    rcases insert_some hfound with ⟨-, rfl⟩ | ⟨-, hold⟩
    · exact validateRoleBinding_ok hrecord
    · exact hvalid id record hold

end Steps

/-- Project access does not outlive organization access: a binding with a project that grants an action belongs to
an active member of the organization that it names. -/
theorem projectAccess_hasParent {env : PlatformEnv} {stores final : LoginStores} {steps : List AccessStep}
    (hkeyed : StoreKeyed stores.access) (hvalid : BindingsValid stores.access) (hheld : ParentsHeld stores.access)
    (hmeets : Meets (fun stores step => some (stores.accessStep env step)) (fun stores step => step.KeepsParents env stores)
      stores steps)
    (hrun : run (fun stores step => some (stores.accessStep env step)) stores steps = some final)
    {binding : PlatformRoleBindingRecord} {actor : AuthenticatedActor} {action : PlatformAction} {resource : ResourceRef}
    {projectId : String} (hgrants : grantsThrough final.access binding actor action resource = true)
    (hproject : binding.projectId = some projectId) :
    ∃ organizationId, binding.organizationId = some organizationId ∧
      OrganizationMemberOf final.access binding.tenantId organizationId binding.principalId := by
  have hstep (stores : LoginStores) (step : AccessStep) (next : LoginStores)
      (hinv : StoreKeyed stores.access ∧ BindingsValid stores.access ∧ ParentsHeld stores.access)
      (hcondition : step.KeepsParents env stores) (hnext : some (stores.accessStep env step) = some next) :
      StoreKeyed next.access ∧ BindingsValid next.access ∧ ParentsHeld next.access := by
    obtain ⟨hkeyed, hvalid, hheld⟩ := hinv
    cases hnext
    cases step with
    | request actor call =>
      refine ⟨hkeyed.call call, BindingsValid.call hkeyed hvalid call, ?_⟩
      by_cases hchecked : call.PassesChecks env stores.access actor
      · exact call_parentsHeld hkeyed hheld (hcondition hchecked)
      · rw [LoginStores.accessStep, call_refused hchecked]
        exact hheld
    | completeOidcLogin completion =>
      have haccess := completeOidcLogin_access completion stores
      rw [LoginStores.accessStep]
      exact ⟨haccess.keyed hkeyed, haccess.bindingsValid hvalid, haccess.parentsHeld hheld hcondition⟩
  obtain ⟨-, hvalidFinal, hheldFinal⟩ := run_invariant hstep ⟨hkeyed, hvalid, hheld⟩ hmeets hrun
  exact hheldFinal.organizationMember hvalidFinal hgrants hproject

section Examples

/-- An organization with an administrator, and a developer in one of its projects. -/
def developerStores : LoginStores where
  users := ∅
  externalIdentities := ∅
  providers := ∅
  attempts := ∅
  sessions := ∅
  access :=
    { memberships :=
        { organizationMembers := ((∅ : Index PlatformOrganizationMembershipRecord).insert "om_a"
            ⟨"om_a", "ten_t", "org_a", "usr_a", "user", .active, 1⟩).insert "om_x"
            ⟨"om_x", "ten_t", "org_a", "usr_x", "user", .active, 1⟩
          projectMembers := (∅ : Index PlatformProjectMembershipRecord).insert "pm_x"
            ⟨"pm_x", "ten_t", "org_a", "prj_a", "usr_x", some "om_x", "user", .active, 1⟩ }
      roleBindings := ((∅ : Index PlatformRoleBindingRecord).insert "rb_a"
        ⟨"rb_a", "ten_t", some "org_a", none, "usr_a", "organization_admin", .active, 1⟩).insert "rb_x"
        ⟨"rb_x", "ten_t", some "org_a", some "prj_a", "usr_x", "project_developer", .active, 1⟩
      invitations := ∅ }

def developerBinding : PlatformRoleBindingRecord :=
  ⟨"rb_x", "ten_t", some "org_a", some "prj_a", "usr_x", "project_developer", .active, 1⟩

def developerRun : ResourceRef := .project "Run" "ten_t" "org_a" "prj_a" "run_1"

def suspendDeveloper : AccessStep :=
  .request delegatingAdmin (.updateOrganizationMemberStatus "org_a" "om_x" ⟨1, "suspended"⟩)

def activateDeveloper (expectedVersion : Int) : AccessStep :=
  .request delegatingAdmin (.updateProjectMemberStatus "prj_a" "pm_x" ⟨expectedVersion, "active"⟩)

theorem developerStores_keyed : StoreKeyed developerStores.access := by
  refine ⟨?_, ?_, ?_, ?_⟩
  · apply Keyed.insert
    · exact (Keyed.empty _).insert rfl
    · rfl
  · exact (Keyed.empty _).insert rfl
  · apply Keyed.insert
    · exact (Keyed.empty _).insert rfl
    · rfl
  · exact Keyed.empty _

theorem developerStores_valid : BindingsValid developerStores.access := by
  intro id record hrecord
  rcases insert_some hrecord with ⟨-, rfl⟩ | ⟨-, hold⟩
  · exact validateRoleBinding_ok (by decide +kernel)
  rcases insert_some hold with ⟨-, rfl⟩ | ⟨-, hold⟩
  · exact validateRoleBinding_ok (by decide +kernel)
  · cases hold

theorem developerStores_held : ParentsHeld developerStores.access := by
  rintro tenantId organizationId projectId principalId
    ⟨id, binding, hid, rfl, horganization, hproject, rfl, -⟩ -
  rcases insert_some hid with ⟨-, rfl⟩ | ⟨-, hold⟩
  · cases horganization
    exact ⟨"om_x", ⟨"om_x", "ten_t", "org_a", "usr_x", "user", .active, 1⟩, AList.lookup_insert _, rfl, rfl, rfl, rfl⟩
  rcases insert_some hold with ⟨-, rfl⟩ | ⟨-, hold⟩
  · cases hproject
  · cases hold

theorem reactivatedDeveloper_hasParent :
    OrganizationMemberOf (developerStores.accessStep noGrants (activateDeveloper 1)).access "ten_t" "org_a" "usr_x" := by
  have hmeets : Meets (fun stores step => some (stores.accessStep noGrants step))
      (fun stores step => step.KeepsParents noGrants stores) developerStores [activateDeveloper 1] := by
    refine ⟨fun _ _ record hrecord organizationId hbound => ?_, fun _ _ => trivial⟩
    rcases insert_some hrecord with ⟨-, rfl⟩ | ⟨hne, -⟩
    · exact developerStores_held _ _ _ _ hbound ⟨"pm_x", _, AList.lookup_insert _, rfl, rfl, rfl, rfl⟩
    · exact (hne rfl).elim
  have hgrants : grantsThrough (developerStores.accessStep noGrants (activateDeveloper 1)).access developerBinding
      delegate .runCreate developerRun = true := by decide +kernel
  obtain ⟨organizationId, horganization, hmember⟩ := projectAccess_hasParent developerStores_keyed
    developerStores_valid developerStores_held hmeets rfl hgrants rfl
  cases horganization
  exact hmember

theorem suspendedDeveloper_keepsAccess :
    StoreKeyed developerStores.access ∧ BindingsValid developerStores.access ∧ ParentsHeld developerStores.access ∧
      ∃ final, run (fun stores step => some (stores.accessStep noGrants step)) developerStores
          [suspendDeveloper, activateDeveloper 2] = some final ∧
        grantsThrough final.access developerBinding delegate .runCreate developerRun = true ∧
        ¬ OrganizationMemberOf final.access "ten_t" "org_a" "usr_x" := by
  refine ⟨developerStores_keyed, developerStores_valid, developerStores_held,
    (developerStores.accessStep noGrants suspendDeveloper).accessStep noGrants (activateDeveloper 2), rfl,
    by decide +kernel, ?_⟩
  rw [organizationMemberOf_iff]
  decide +kernel

end Examples

end Starweaver.Platform
