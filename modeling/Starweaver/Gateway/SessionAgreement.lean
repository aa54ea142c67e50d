import Starweaver.Library.Checks
import Starweaver.Gateway.Authentication

namespace Starweaver.Gateway.Tenancy

open Library.AssocMap Library.Calendar Library.Checks Library.SortBy

def ActiveUser (store : TenancyStore) (principalId : String) : Prop :=
  ∃ user, store.users.lookup principalId = some user ∧ user.status = .active

/-- The organization belongs to the tenant, accepts access, and has the principal as an active member. -/
def OpenOrganization (store : TenancyStore) (tenantId principalId organizationId : String) : Prop :=
  (∃ organization, store.organizations.lookup organizationId = some organization ∧
    organization.tenantId = tenantId ∧ organization.status.acceptsAccess = true) ∧
  ∃ key membership, store.organizationMemberships.lookup key = some membership ∧
    membership.principalId = principalId ∧ membership.tenantId = tenantId ∧
    membership.organizationId = organizationId ∧ membership.status.acceptsAccess = true

/-- The project belongs to the tenant, accepts access, and lies in an open organization. -/
def OpenProject (store : TenancyStore) (tenantId principalId projectId : String) : Prop :=
  ∃ project, store.projects.lookup projectId = some project ∧ project.tenantId = tenantId ∧
    project.status.acceptsAccess = true ∧ OpenOrganization store tenantId principalId project.organizationId

section Agreement

variable {env : AuthEnv} {store : TenancyStore} {headers : HeaderMap} {session : AuthSessionRecord}
  {token projectId organizationId : String} {now : DateTime}

theorem mem_organizationMembershipsForPrincipal {principalId : String} {membership : OrganizationMembershipRecord} :
    membership ∈ store.organizationMembershipsForPrincipal principalId ↔
      (∃ key, store.organizationMemberships.lookup key = some membership) ∧ membership.principalId = principalId := by
  unfold TenancyStore.organizationMembershipsForPrincipal
  rw [mem_sortBy, List.mem_filter, List.mem_map]
  constructor
  · rintro ⟨⟨⟨key, found⟩, hentry, rfl⟩, hprincipal⟩
    exact ⟨⟨key, AList.mem_lookup_iff.mpr hentry⟩, by simpa using hprincipal⟩
  · rintro ⟨⟨key, hlookup⟩, hprincipal⟩
    exact ⟨⟨⟨key, membership⟩, AList.mem_lookup_iff.mp hlookup, rfl⟩, by simpa using hprincipal⟩

theorem filter_tenant_some {α : Type} {record : Option α} {tenantId : String} {tenantOf : α → String} {found : α}
    (h : record.filter (fun r => tenantOf r == tenantId) = some found) : record = some found ∧ tenantOf found = tenantId := by
  obtain ⟨hrecord, hfits⟩ := Option.filter_eq_some_iff.mp h
  exact ⟨hrecord, by simpa using hfits⟩

theorem activeOrganizationForSession_iff :
    (∃ organization, activeOrganizationForSession store session organizationId = .ok organization) ↔
      OpenOrganization store session.tenantId session.principalId organizationId := by
  unfold activeOrganizationForSession
  constructor
  · rintro ⟨organization, h⟩
    split at h
    · cases h
    rename_i found hfound
    obtain ⟨hlookup, htenant⟩ := filter_tenant_some hfound
    split at h
    · cases h
    rename_i hstatus
    split at h
    · cases h
    rename_i hmembership
    simp only [Bool.not_eq_true', Bool.not_eq_false, List.any_eq_true, Bool.and_eq_true, beq_iff_eq] at hmembership
    obtain ⟨membership, hmember, ⟨hsame, horganization⟩, hactive⟩ := hmembership
    obtain ⟨⟨key, hkey⟩, hprincipal⟩ := mem_organizationMembershipsForPrincipal.mp hmember
    exact ⟨⟨found, hlookup, htenant, by simpa using hstatus⟩,
      key, membership, hkey, hprincipal, hsame, horganization, hactive⟩
  · rintro ⟨⟨organization, hlookup, htenant, hstatus⟩, key, membership, hkey, hprincipal, hsame, horganization, hactive⟩
    have hmember : membership ∈ store.organizationMembershipsForPrincipal session.principalId :=
      mem_organizationMembershipsForPrincipal.mpr ⟨⟨key, hkey⟩, hprincipal⟩
    have hany : ((store.organizationMembershipsForPrincipal session.principalId).any fun membership =>
        membership.tenantId == session.tenantId && membership.organizationId == organizationId &&
          membership.status.acceptsAccess) = true :=
      List.any_eq_true.mpr ⟨membership, hmember, by simp [hsame, horganization, hactive]⟩
    refine ⟨organization, ?_⟩
    rw [hlookup, Option.filter_some, if_pos (by simpa using htenant)]
    simp [hstatus, hany]

theorem activeProjectForSession_iff {membership : ProjectMembershipRecord}
    (hmembership : store.projectMemberships.lookup (session.principalId, projectId) = some membership)
    (hactive : membership.status.acceptsAccess = true) :
    (∃ project, activeProjectForSession store session projectId none = .ok project) ↔
      OpenProject store session.tenantId session.principalId projectId := by
  unfold activeProjectForSession
  constructor
  · rintro ⟨project, h⟩
    split at h
    · cases h
    rename_i found hfound
    obtain ⟨hlookup, htenant⟩ := filter_tenant_some hfound
    rw [if_neg (by simp)] at h
    split at h
    · cases h
    rename_i hstatus
    obtain ⟨organization, horganization, -⟩ := bind_ok.mp h
    exact ⟨found, hlookup, htenant, by simpa using hstatus,
      activeOrganizationForSession_iff.mp ⟨organization, horganization⟩⟩
  · rintro ⟨project, hlookup, htenant, hstatus, horganization⟩
    obtain ⟨organization, hopen⟩ := activeOrganizationForSession_iff.mpr horganization
    refine ⟨project, ?_⟩
    rw [hlookup, Option.filter_some, if_pos (by simpa using htenant)]
    simp only [Option.any_none, Bool.false_eq_true, ↓reduceIte, hstatus, Bool.not_true]
    refine bind_ok.mpr ⟨organization, hopen, ?_⟩
    simp only [hmembership, hactive, Bool.not_true, Bool.false_eq_true, ↓reduceIte]

theorem verifyAuthSessionFromHeaders_iff (htoken : bearerToken headers = .ok token)
    (hkind : startsWith token sessionTokenPrefix = true) (hsession : verifySessionToken env store token now = .ok session) :
    verifyAuthSessionFromHeaders env store headers now = .ok session ↔ ActiveUser store session.principalId := by
  unfold verifyAuthSessionFromHeaders ActiveUser
  rw [bind_ok]
  constructor
  · rintro ⟨presented, hpresented, h⟩
    rw [← Except.ok.inj (htoken.symm.trans hpresented), if_neg (by simp [hkind])] at h
    obtain ⟨found, hfound, h⟩ := bind_ok.mp h
    rw [← Except.ok.inj (hsession.symm.trans hfound)] at h
    split at h
    · cases h
    rename_i user huser
    split at h
    · cases h
    rename_i hstatus
    exact ⟨user, huser, by simpa using hstatus⟩
  · rintro ⟨user, huser, hstatus⟩
    refine ⟨token, htoken, ?_⟩
    rw [if_neg (by simp [hkind])]
    refine bind_ok.mpr ⟨session, hsession, ?_⟩
    simp only [huser, hstatus, ne_eq, not_true_eq_false, ↓reduceIte]

theorem authenticateRequest_session {requestId traceId : String} {actor : CredentialedActor} {next : TenancyStore}
    (htoken : bearerToken headers = .ok token) (hkind : startsWith token sessionTokenPrefix = true)
    (hauth : authenticateRequest env store headers requestId traceId now = (.ok actor, next)) :
    ∃ session projectId membership, verifySessionToken env store token now = .ok session ∧
      sessionProjectId headers session = .ok projectId ∧
      store.projectMemberships.lookup (session.principalId, projectId) = some membership ∧
      membership.status.acceptsAccess = true := by
  unfold authenticateRequest at hauth
  rw [htoken] at hauth
  simp only [hkind, ↓reduceIte, Prod.mk.injEq] at hauth
  obtain ⟨session, hsession, h⟩ := bind_ok.mp hauth.1
  obtain ⟨projectId, hproject, h⟩ := bind_ok.mp h
  obtain ⟨membership, hmembership, -⟩ := bind_ok.mp h
  unfold activeProjectMembership at hmembership
  split at hmembership
  · cases hmembership
  rename_i found hlookup
  split at hmembership
  · cases hmembership
  rename_i hactive
  exact ⟨session, projectId, found, hsession, hproject, hlookup, by simpa using hactive⟩

/-- The session-context path accepts what request authentication has accepted exactly when the user is active and the
project is open. -/
theorem sessionContext_agrees_iff {requestId traceId : String} {actor : CredentialedActor} {next : TenancyStore}
    (htoken : bearerToken headers = .ok token) (hkind : startsWith token sessionTokenPrefix = true)
    (hauth : authenticateRequest env store headers requestId traceId now = (.ok actor, next)) :
    ∃ session projectId, verifySessionToken env store token now = .ok session ∧
      sessionProjectId headers session = .ok projectId ∧
      ((verifyAuthSessionFromHeaders env store headers now = .ok session ∧
          ∃ project, activeProjectForSession store session projectId none = .ok project) ↔
        ActiveUser store session.principalId ∧
          OpenProject store session.tenantId session.principalId projectId) := by
  obtain ⟨session, projectId, membership, hsession, hproject, hlookup, hactive⟩ :=
    authenticateRequest_session htoken hkind hauth
  refine ⟨session, projectId, hsession, hproject, ?_⟩
  rw [verifyAuthSessionFromHeaders_iff htoken hkind hsession, activeProjectForSession_iff hlookup hactive]

end Agreement

def sampleAuthEnv : AuthEnv :=
  ⟨fun text => "sha256:" ++ text, fun presented secretHash => .ok (secretHash == "argon2:" ++ presented)⟩

def sampleBootstrap : BootstrapDefaultProjectRequest :=
  ⟨"ten_1", "Tenant", "org_1", "Organization", "prj_1", "Project", "usr_1", "Owner", some "owner@example.com", "om_1",
    "pm_1"⟩

def bearer (token : String) : HeaderMap := fun name =>
  if name = "authorization" then some (some ("Bearer " ++ token)) else none

def loggedIn : TenancyStore :=
  { (bootstrapDefaultProject .empty sampleBootstrap).2 with
    authSessions := AList.singleton "sha256:sws_1"
      ⟨"sess_1", "ten_1", "usr_1", some "org_1", some "prj_1", "sha256:sws_1", .active, ⟨3600⟩⟩ }

theorem authenticateRequest_suspended_organization :
    ∃ organization store actor session, updateOrganizationStatus loggedIn "org_1" 1 .suspended = .ok (organization, store) ∧
      authenticateRequest sampleAuthEnv store (bearer "sws_1") "req_1" "tr_1" ⟨0⟩ = (.ok actor, store) ∧
      verifySessionToken sampleAuthEnv store "sws_1" ⟨0⟩ = .ok session ∧
      sessionProjectId (bearer "sws_1") session = .ok "prj_1" ∧
      ¬ (verifyAuthSessionFromHeaders sampleAuthEnv store (bearer "sws_1") ⟨0⟩ = .ok session ∧
        ∃ project, activeProjectForSession store session "prj_1" none = .ok project) := by
  refine ⟨_, _, _, _, rfl, rfl, rfl, rfl, ?_⟩
  rintro ⟨-, project, hproject⟩
  cases hproject

theorem sessionContext_agrees_open :
    ∃ actor session, authenticateRequest sampleAuthEnv loggedIn (bearer "sws_1") "req_1" "tr_1" ⟨0⟩ = (.ok actor, loggedIn) ∧
      verifySessionToken sampleAuthEnv loggedIn "sws_1" ⟨0⟩ = .ok session ∧
      verifyAuthSessionFromHeaders sampleAuthEnv loggedIn (bearer "sws_1") ⟨0⟩ = .ok session ∧
      ∃ project, activeProjectForSession loggedIn session "prj_1" none = .ok project := by
  obtain ⟨actor, hauth⟩ : ∃ actor,
      authenticateRequest sampleAuthEnv loggedIn (bearer "sws_1") "req_1" "tr_1" ⟨0⟩ = (.ok actor, loggedIn) := ⟨_, rfl⟩
  obtain ⟨session, projectId, hsession, hproject, hiff⟩ := sessionContext_agrees_iff rfl rfl hauth
  refine ⟨actor, session, hauth, hsession, ?_⟩
  cases hsession
  cases hproject
  apply hiff.mpr
  refine ⟨⟨_, rfl, rfl⟩, _, rfl, rfl, rfl, ⟨_, rfl, rfl, rfl⟩, ("usr_1", "org_1"), _, rfl, rfl, rfl, rfl, rfl⟩

end Starweaver.Gateway.Tenancy
