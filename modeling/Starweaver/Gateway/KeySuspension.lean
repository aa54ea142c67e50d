import Starweaver.Gateway.ApiKeys
import Starweaver.Gateway.MembershipInvariant
import Starweaver.Gateway.RuntimeHandlers

namespace Starweaver.Gateway.Tenancy

open Library.AssocMap Library.Calendar Library.Checks Library.Machine

section Open

variable (s : TenancyStore)

def OrganizationOpen (organizationId : String) : Prop :=
  ∃ organization, s.organizations.lookup organizationId = some organization ∧ organization.status.acceptsAccess = true

def ProjectAccepts (projectId : String) : Prop :=
  ∃ project, s.projects.lookup projectId = some project ∧ project.status.acceptsAccess = true

def PrincipalActive (principalId : String) : Prop :=
  (∃ user, s.users.lookup principalId = some user ∧ user.status.acceptsAccess = true) ∨
    s.users.lookup principalId = none ∧
      ∃ account, s.serviceAccounts.lookup principalId = some account ∧ account.status.acceptsAccess = true

/-- The owner of the key is active, and the organization and project that it names accept access. -/
structure KeyOpen (key : ApiKeyRecord) : Prop where
  owner : PrincipalActive s key.ownerPrincipalId
  organization : ∀ organizationId, key.organizationId = some organizationId → OrganizationOpen s organizationId
  project : ∀ projectId, key.projectId = some projectId → ProjectAccepts s projectId

def StoredKey (key : ApiKeyRecord) : Prop := ∃ start records, s.apiKeys.lookup start = some records ∧ key ∈ records

def KeysOpen : Prop := ∀ key, StoredKey s key → KeyOpen s key

end Open

section Writes

variable {s t : TenancyStore}

structure SameKeys (s t : TenancyStore) : Prop where
  organizations : t.organizations = s.organizations
  projects : t.projects = s.projects
  users : t.users = s.users
  serviceAccounts : t.serviceAccounts = s.serviceAccounts
  apiKeys : t.apiKeys = s.apiKeys

theorem SameKeys.refl (s : TenancyStore) : SameKeys s s := ⟨rfl, rfl, rfl, rfl, rfl⟩

theorem SameKeys.storedKey (hsame : SameKeys s t) {key : ApiKeyRecord} (h : StoredKey t key) : StoredKey s key := by
  unfold StoredKey at h
  rw [hsame.apiKeys] at h
  exact h

theorem SameKeys.keyOpen (hsame : SameKeys s t) {key : ApiKeyRecord} (h : KeyOpen s key) : KeyOpen t key := by
  constructor
  · unfold PrincipalActive
    rw [hsame.users, hsame.serviceAccounts]
    exact h.owner
  · unfold OrganizationOpen
    rw [hsame.organizations]
    exact h.organization
  · unfold ProjectAccepts
    rw [hsame.projects]
    exact h.project

theorem KeysOpen.of_same (h : KeysOpen s) (hsame : SameKeys s t) : KeysOpen t :=
  fun key hkey => hsame.keyOpen (h key (hsame.storedKey hkey))

theorem keysOpen_empty : KeysOpen .empty := by
  rintro key ⟨start, records, hlookup, -⟩
  cases hlookup

theorem idempotencyResponse_sameKeys (s : TenancyStore) (tenantId scopeKey requestHash : String) (now : DateTime) :
    SameKeys s (s.idempotencyResponse tenantId scopeKey requestHash now).2 := by
  unfold TenancyStore.idempotencyResponse
  split
  · exact .refl s
  · split
    · exact ⟨rfl, rfl, rfl, rfl, rfl⟩
    · split <;> exact .refl s

theorem verifyApiKey_sameKeys (env : AuthEnv) (s : TenancyStore) (presentedKey requestId traceId : String)
    (now : DateTime) : SameKeys s (verifyApiKey env s presentedKey requestId traceId now).2 := by
  unfold verifyApiKey
  split
  · exact .refl s
  · simp only
    split
    · exact ⟨rfl, rfl, rfl, rfl, rfl⟩
    · split
      · exact ⟨rfl, rfl, rfl, rfl, rfl⟩
      · split <;> exact ⟨rfl, rfl, rfl, rfl, rfl⟩

theorem authenticateRequest_sameKeys (env : AuthEnv) (s : TenancyStore) (headers : HeaderMap)
    (requestId traceId : String) (now : DateTime) :
    SameKeys s (authenticateRequest env s headers requestId traceId now).2 := by
  unfold authenticateRequest
  split
  · exact .refl s
  · split
    · exact .refl s
    · exact verifyApiKey_sameKeys env s _ requestId traceId now

theorem insertApiKey_stored {record key : ApiKeyRecord} (h : StoredKey (s.insertApiKey record) key) :
    StoredKey s key ∨ key = record := by
  obtain ⟨start, records, hlookup, hmem⟩ := h
  have hretained : ∀ start records, (mapValues
      (fun records => records.filter fun candidate => candidate.apiKeyId != record.apiKeyId) s.apiKeys).lookup start =
        some records → key ∈ records → StoredKey s key := by
    intro start records hlookup hmem
    rw [lookup_mapValues] at hlookup
    obtain ⟨old, hold, rfl⟩ := Option.map_eq_some_iff.mp hlookup
    exact ⟨start, old, hold, List.mem_of_mem_filter hmem⟩
  rcases insert_some hlookup with ⟨-, rfl⟩ | ⟨-, hold⟩
  · rcases List.mem_append.mp hmem with hold | hnew
    · left
      cases hfound : (mapValues (fun records => records.filter fun candidate => candidate.apiKeyId != record.apiKeyId)
        s.apiKeys).lookup record.keyPrefix with
      | none =>
        rw [hfound] at hold
        cases hold
      | some found =>
        rw [hfound] at hold
        exact hretained _ found hfound hold
    · exact .inr (List.mem_singleton.mp hnew)
  · exact .inl (hretained start records hold hmem)

theorem KeysOpen.insertApiKey (h : KeysOpen s) {record : ApiKeyRecord} (hrecord : KeyOpen s record) :
    KeysOpen (s.insertApiKey record) := by
  intro key hkey
  rcases insertApiKey_stored hkey with hold | rfl
  · exact ⟨(h key hold).owner, (h key hold).organization, (h key hold).project⟩
  · exact ⟨hrecord.owner, hrecord.organization, hrecord.project⟩

theorem accepts_insert {α : Type} {records : Index α} {status : α → DirectoryStatus} {id other : String} {record : α}
    (hkeeps : other = id → (status record).acceptsAccess = true)
    (h : ∃ found, records.lookup other = some found ∧ (status found).acceptsAccess = true) :
    ∃ found, (records.insert id record).lookup other = some found ∧ (status found).acceptsAccess = true := by
  obtain ⟨found, hfound, hstatus⟩ := h
  by_cases heq : other = id
  · exact ⟨record, by rw [heq, AList.lookup_insert], hkeeps heq⟩
  · exact ⟨found, by rw [AList.lookup_insert_ne heq, hfound], hstatus⟩

end Writes

section Handlers

variable {s t : TenancyStore}

theorem bootstrapDefaultProject_keysOpen {request : BootstrapDefaultProjectRequest} (h : KeysOpen s) :
    KeysOpen (bootstrapDefaultProject s request).2 := by
  unfold bootstrapDefaultProject
  simp only
  split
  · exact h
  intro key hkey
  obtain ⟨howner, horganization, hproject⟩ := h key hkey
  constructor
  · rcases howner with ⟨user, huser, hstatus⟩ | ⟨hnone, account, haccount, hstatus⟩
    · exact .inl ⟨user, lookup_orInsert_of_some huser, hstatus⟩
    · -- the seed may bring a user of the same id, who is active
      by_cases heq : key.ownerPrincipalId = request.userId
      · rw [heq] at hnone ⊢
        exact .inl ⟨_, lookup_orInsert_of_none _ hnone, rfl⟩
      · exact .inr ⟨(lookup_orInsert_ne _ _ heq).trans hnone, account, haccount, hstatus⟩
  · intro organizationId hnamed
    obtain ⟨organization, hfound, hstatus⟩ := horganization organizationId hnamed
    exact ⟨organization, lookup_orInsert_of_some hfound, hstatus⟩
  · intro projectId hnamed
    obtain ⟨project, hfound, hstatus⟩ := hproject projectId hnamed
    exact ⟨project, lookup_orInsert_of_some hfound, hstatus⟩

theorem createServiceAccountRecord_ok {tenantId serviceAccountId : String} {request : AdminCreateServiceAccountRequest}
    {record : ServiceAccountRecord}
    (h : createServiceAccountRecord s tenantId request serviceAccountId = .ok (record, t)) :
    record.status = .active ∧
      t = { s with serviceAccounts := s.serviceAccounts.insert serviceAccountId record } := by
  unfold createServiceAccountRecord at h
  simp only at h
  split at h
  · cases h
  · split at h
    · cases h
    · obtain ⟨⟨organization, project⟩, -, h⟩ := bind_ok.mp h
      cases h
      exact ⟨rfl, rfl⟩

theorem createServiceAccount_keysOpen {call : AdminCall} {request : AdminCreateServiceAccountRequest}
    {requestHash serviceAccountId : String} (h : KeysOpen s) :
    KeysOpen (createServiceAccount s call request requestHash serviceAccountId).2 := by
  unfold createServiceAccount
  split
  · exact h
  have hsame := idempotencyResponse_sameKeys s call.actor.tenantId s!"service_accounts:create:{request.idempotencyKey}"
    requestHash call.now
  simp only
  generalize s.idempotencyResponse _ _ _ _ = looked at hsame ⊢
  obtain ⟨response, store⟩ := looked
  have hstore : KeysOpen store := h.of_same hsame
  match response with
  | .error error => exact hstore
  | .ok true => exact hstore
  | .ok false =>
    simp only
    split
    · exact hstore
    rename_i record created hcreated
    obtain ⟨hactive, rfl⟩ := createServiceAccountRecord_ok hcreated
    intro key hkey
    obtain ⟨howner, horganization, hproject⟩ := hstore key hkey
    refine ⟨?_, horganization, hproject⟩
    rcases howner with huser | ⟨hnone, haccount⟩
    · exact .inl huser
    · refine .inr ⟨hnone, accepts_insert (fun _ => ?_) haccount⟩
      rw [hactive]
      rfl

theorem validateApiKeyAdminRecord_idempotencyResponse (s : TenancyStore) (tenantId scopeKey requestHash : String)
    (now : DateTime) (record : ApiKeyRecord) :
    validateApiKeyAdminRecord (s.idempotencyResponse tenantId scopeKey requestHash now).2 record =
      validateApiKeyAdminRecord s record := by
  unfold TenancyStore.idempotencyResponse
  split
  · rfl
  · split
    · rfl
    · split <;> rfl

/-- The creation of the key passes its checks, and no earlier answer stands for it. -/
def ApiKeyCreationChecked (s : TenancyStore) (call : AdminCall) (request : AdminCreateApiKeyRequest)
    (requestHash : String) (drawn : DrawnApiKey) : Prop :=
  call.authorized = .ok () ∧
    (s.idempotencyResponse call.actor.tenantId s!"api_keys:create:{request.idempotencyKey}" requestHash call.now).1 =
      .ok false ∧
    ∃ record, createApiKey call.actor request drawn = .ok record ∧ validateApiKeyAdminRecord s record = .ok ()

theorem createApiKeyAdmin_keysOpen {call : AdminCall} {request : AdminCreateApiKeyRequest} {requestHash : String}
    {drawn : DrawnApiKey} (h : KeysOpen s)
    (hspared : ApiKeyCreationChecked s call request requestHash drawn →
      PrincipalActive s (request.owner call.actor) ∧
        (∀ organizationId, request.organizationId = some organizationId → OrganizationOpen s organizationId) ∧
        ∀ projectId, request.projectId = some projectId → ProjectAccepts s projectId) :
    KeysOpen (createApiKeyAdmin s call request requestHash drawn).2 := by
  unfold createApiKeyAdmin
  split
  · exact h
  rename_i hauthorized
  have hsame := idempotencyResponse_sameKeys s call.actor.tenantId s!"api_keys:create:{request.idempotencyKey}"
    requestHash call.now
  have hvalidated := validateApiKeyAdminRecord_idempotencyResponse s call.actor.tenantId
    s!"api_keys:create:{request.idempotencyKey}" requestHash call.now
  unfold ApiKeyCreationChecked at hspared
  simp only
  generalize s.idempotencyResponse _ _ _ _ = looked at hsame hvalidated hspared ⊢
  obtain ⟨response, store⟩ := looked
  have hstore : KeysOpen store := h.of_same hsame
  match response with
  | .error error => exact hstore
  | .ok true => exact hstore
  | .ok false =>
    simp only
    split
    · exact hstore
    rename_i record created hcreated
    obtain ⟨drawnRecord, hdrawn, hcreated⟩ := bind_ok.mp hcreated
    obtain ⟨_, hvalid, hcreated⟩ := bind_ok.mp hcreated
    obtain ⟨howner, horganization, hproject⟩ :=
      hspared ⟨hauthorized, rfl, drawnRecord, hdrawn, (hvalidated drawnRecord).symm.trans hvalid⟩
    cases hcreated
    obtain ⟨start, -, hdrawn⟩ := bind_ok.mp hdrawn
    obtain ⟨secretHash, -, hdrawn⟩ := bind_ok.mp hdrawn
    cases hdrawn
    exact (hstore.insertApiKey (hsame.keyOpen ⟨howner, horganization, hproject⟩)).of_same ⟨rfl, rfl, rfl, rfl, rfl⟩

section StatusUpdates

/-- The status update passes its checks: the record that it finds has the expected version. -/
def UpdateChecked {α : Type} (call : AdminCall) (found : Result α) (version : α → Int) (expectedVersion : Int) : Prop :=
  call.authorized = .ok () ∧ ∃ record, found = .ok record ∧ version record = expectedVersion

variable {call : AdminCall} {id : String} {expectedVersion : Int} {status : DirectoryStatus}

theorem serviceAccountForActor_ok {actor : AuthenticatedActor} {account : ServiceAccountRecord}
    (h : serviceAccountForActor s actor id = .ok account) : s.serviceAccounts.lookup id = some account := by
  unfold serviceAccountForActor at h
  split at h
  · cases h
  · rename_i found hfound
    cases h
    exact (Option.filter_eq_some_iff.mp hfound).1

/-- An update that is written has passed its checks, and changes the record that they found. -/
theorem updateChecked_of {α : Type} {found : Result α} {before record : α} {label : String} {version : α → Int}
    {update : α → α} {records updated : Index α} (hauthorized : call.authorized = .ok ()) (hfound : found = .ok before)
    (hstored : records.lookup id = some before)
    (h : updateRecord label version update records id expectedVersion = .ok (record, updated)) :
    UpdateChecked call found version expectedVersion ∧ record = update before ∧ updated = records.insert id record := by
  obtain ⟨old, hold, hversion, hrecord, hupdated⟩ := updateRecord_ok h
  cases hstored.symm.trans hold
  exact ⟨⟨hauthorized, before, hfound, hversion⟩, hrecord, hupdated⟩

theorem updateOrganization_keysOpen (h : KeysOpen s)
    (hspared : UpdateChecked call (organizationForActor s call.actor id) (·.resourceVersion) expectedVersion →
      status.acceptsAccess = true ∨ ∀ key, StoredKey s key → key.organizationId ≠ some id) :
    KeysOpen (s.orKeep Prod.snd (updateOrganization s call id expectedVersion status)) := by
  cases hupdate : updateOrganization s call id expectedVersion status with
  | error error => exact h
  | ok result =>
    obtain ⟨_, hauthorized, hupdate⟩ := bind_ok.mp hupdate
    obtain ⟨before, hbefore, hupdate⟩ := bind_ok.mp hupdate
    obtain ⟨⟨record, organizations⟩, hrecord, hupdate⟩ := bind_ok.mp hupdate
    cases hupdate
    obtain ⟨hchecked, rfl, rfl⟩ := updateChecked_of hauthorized hbefore (organizationForActor_ok hbefore).1 hrecord
    intro key hkey
    obtain ⟨howner, horganization, hproject⟩ := h key hkey
    refine ⟨howner, fun organizationId hnamed => ?_, hproject⟩
    refine accepts_insert (fun heq => ?_) (horganization organizationId hnamed)
    rcases hspared hchecked with haccepts | hspared
    · exact haccepts
    · exact absurd (heq ▸ hnamed) (hspared key hkey)

theorem updateProject_keysOpen (h : KeysOpen s)
    (hspared : UpdateChecked call (projectForActor s call.actor id) (·.resourceVersion) expectedVersion →
      status.acceptsAccess = true ∨ ∀ key, StoredKey s key → key.projectId ≠ some id) :
    KeysOpen (s.orKeep Prod.snd (updateProject s call id expectedVersion status)) := by
  cases hupdate : updateProject s call id expectedVersion status with
  | error error => exact h
  | ok result =>
    obtain ⟨_, hauthorized, hupdate⟩ := bind_ok.mp hupdate
    obtain ⟨before, hbefore, hupdate⟩ := bind_ok.mp hupdate
    obtain ⟨⟨record, projects⟩, hrecord, hupdate⟩ := bind_ok.mp hupdate
    cases hupdate
    obtain ⟨hchecked, rfl, rfl⟩ := updateChecked_of hauthorized hbefore (projectForActor_ok hbefore).1 hrecord
    intro key hkey
    obtain ⟨howner, horganization, hproject⟩ := h key hkey
    refine ⟨howner, horganization, fun projectId hnamed => ?_⟩
    refine accepts_insert (fun heq => ?_) (hproject projectId hnamed)
    rcases hspared hchecked with haccepts | hspared
    · exact haccepts
    · exact absurd (heq ▸ hnamed) (hspared key hkey)

theorem updateUserStatus_keysOpen {record : UserRecord} (h : KeysOpen s)
    (hspared : ∀ user, s.users.lookup id = some user → user.resourceVersion = expectedVersion →
      status.acceptsAccess = true ∨ ∀ key, StoredKey s key → key.ownerPrincipalId ≠ id)
    (hupdate : updateUserStatus s id expectedVersion status = .ok (record, t)) : KeysOpen t := by
  obtain ⟨⟨record, users⟩, hrecord, hupdate⟩ := bind_ok.mp hupdate
  cases hupdate
  obtain ⟨old, hold, hversion, rfl, rfl⟩ := updateRecord_ok hrecord
  have hspared := hspared old hold hversion
  intro key hkey
  obtain ⟨howner, horganization, hproject⟩ := h key hkey
  refine ⟨?_, horganization, hproject⟩
  rcases howner with huser | ⟨hnone, haccount⟩
  · refine .inl (accepts_insert (fun heq => ?_) huser)
    rcases hspared with haccepts | hspared
    · exact haccepts
    · exact absurd heq (hspared key hkey)
  · refine .inr ⟨?_, haccount⟩
    have hne : key.ownerPrincipalId ≠ id := by
      intro heq
      rw [heq, hold] at hnone
      cases hnone
    exact (AList.lookup_insert_ne hne).trans hnone

theorem updateUser_keysOpen (h : KeysOpen s)
    (hspared : validateUserStatus status = .ok () →
      UpdateChecked call (userForActor s call.actor id) (·.resourceVersion) expectedVersion →
        status.acceptsAccess = true ∨ ∀ key, StoredKey s key → key.ownerPrincipalId ≠ id) :
    KeysOpen (s.orKeep Prod.snd (updateUser s call id expectedVersion status)) := by
  cases hupdate : updateUser s call id expectedVersion status with
  | error error => exact h
  | ok result =>
    obtain ⟨_, hstatus, hupdate⟩ := bind_ok.mp hupdate
    obtain ⟨_, hauthorized, hupdate⟩ := bind_ok.mp hupdate
    obtain ⟨before, hbefore, hupdate⟩ := bind_ok.mp hupdate
    obtain ⟨⟨record, updated⟩, hrecord, hupdate⟩ := bind_ok.mp hupdate
    have hopen : KeysOpen updated := by
      refine updateUserStatus_keysOpen h (fun user huser hversion => ?_) hrecord
      cases (userForActor_ok hbefore).symm.trans huser
      exact hspared hstatus ⟨hauthorized, before, hbefore, hversion⟩
    simp only at hupdate
    split at hupdate
    · cases hupdate
      exact hopen
    · cases hupdate
      exact hopen.of_same ⟨rfl, rfl, rfl, rfl, rfl⟩

theorem updateServiceAccount_keysOpen (h : KeysOpen s)
    (hspared : status ≠ .suspended →
      UpdateChecked call (serviceAccountForActor s call.actor id) (·.resourceVersion) expectedVersion →
        status.acceptsAccess = true ∨ ∀ key, StoredKey s key → key.ownerPrincipalId ≠ id) :
    KeysOpen (s.orKeep Prod.snd (updateServiceAccount s call id expectedVersion status)) := by
  cases hupdate : updateServiceAccount s call id expectedVersion status with
  | error error => exact h
  | ok result =>
    obtain ⟨_, hauthorized, hupdate⟩ := bind_ok.mp hupdate
    obtain ⟨before, hbefore, hupdate⟩ := bind_ok.mp hupdate
    unfold updateServiceAccountStatus at hupdate
    split at hupdate
    · cases hupdate
    rename_i hstatus
    obtain ⟨⟨record, accounts⟩, hrecord, hupdate⟩ := bind_ok.mp hupdate
    cases hupdate
    obtain ⟨hchecked, rfl, rfl⟩ := updateChecked_of hauthorized hbefore (serviceAccountForActor_ok hbefore) hrecord
    have hspared := hspared hstatus hchecked
    intro key hkey
    obtain ⟨howner, horganization, hproject⟩ := h key hkey
    refine ⟨?_, horganization, hproject⟩
    rcases howner with huser | ⟨hnone, haccount⟩
    · exact .inl huser
    · refine .inr ⟨hnone, accepts_insert (fun heq => ?_) haccount⟩
      rcases hspared with haccepts | hspared
      · exact haccepts
      · exact absurd heq (hspared key hkey)

end StatusUpdates

end Handlers

section Runs

variable {env : AuthEnv} {s next : TenancyStore}

/-- A key whose creation passes its checks is for what is active, and an update that passes them closes nothing that a
key names. -/
def KeysSpared (s : TenancyStore) : KeyAction → Prop
  | .createApiKeyAdmin call request requestHash drawn =>
    ApiKeyCreationChecked s call request requestHash drawn →
      PrincipalActive s (request.owner call.actor) ∧
        (∀ organizationId, request.organizationId = some organizationId → OrganizationOpen s organizationId) ∧
        ∀ projectId, request.projectId = some projectId → ProjectAccepts s projectId
  | .updateOrganization call id expectedVersion status =>
    UpdateChecked call (organizationForActor s call.actor id) (·.resourceVersion) expectedVersion →
      status.acceptsAccess = true ∨ ∀ key, StoredKey s key → key.organizationId ≠ some id
  | .updateProject call id expectedVersion status =>
    UpdateChecked call (projectForActor s call.actor id) (·.resourceVersion) expectedVersion →
      status.acceptsAccess = true ∨ ∀ key, StoredKey s key → key.projectId ≠ some id
  | .updateUser call id expectedVersion status =>
    validateUserStatus status = .ok () →
      UpdateChecked call (userForActor s call.actor id) (·.resourceVersion) expectedVersion →
        status.acceptsAccess = true ∨ ∀ key, StoredKey s key → key.ownerPrincipalId ≠ id
  | .updateServiceAccount call id expectedVersion status =>
    status ≠ .suspended →
      UpdateChecked call (serviceAccountForActor s call.actor id) (·.resourceVersion) expectedVersion →
        status.acceptsAccess = true ∨ ∀ key, StoredKey s key → key.ownerPrincipalId ≠ id
  | _ => True

theorem keyStep_keysOpen {action : KeyAction} (h : KeysOpen s) (hspared : KeysSpared s action)
    (hstep : keyStep env s action = some next) : KeysOpen next := by
  cases action with
  | bootstrapDefaultProject request =>
    cases hstep
    exact bootstrapDefaultProject_keysOpen h
  | createServiceAccount call request requestHash serviceAccountId =>
    cases hstep
    exact createServiceAccount_keysOpen h
  | createApiKeyAdmin call request requestHash drawn =>
    cases hstep
    exact createApiKeyAdmin_keysOpen h hspared
  | updateOrganization call id expectedVersion status =>
    cases hstep
    exact updateOrganization_keysOpen h hspared
  | updateProject call id expectedVersion status =>
    cases hstep
    exact updateProject_keysOpen h hspared
  | updateUser call id expectedVersion status =>
    cases hstep
    exact updateUser_keysOpen h hspared
  | updateServiceAccount call id expectedVersion status =>
    cases hstep
    exact updateServiceAccount_keysOpen h hspared
  | authenticateRequest headers requestId traceId now =>
    cases hstep
    exact h.of_same (authenticateRequest_sameKeys env s headers requestId traceId now)

theorem findApiKey_mem {presentedKey start : String} {now : DateTime} {candidates : List ApiKeyRecord}
    {record : ApiKeyRecord} (h : findApiKey env presentedKey start now candidates = .ok (some record)) :
    record ∈ candidates := by
  induction candidates with
  | nil => cases h
  | cons candidate candidates ih =>
    unfold findApiKey at h
    split at h
    · exact .tail _ (ih h)
    · obtain ⟨verified, -, h⟩ := bind_ok.mp h
      split at h
      · cases h
        exact .head _
      · exact .tail _ (ih h)

theorem candidatesByPrefix_stored {start : String} {record : ApiKeyRecord} (h : record ∈ s.candidatesByPrefix start) :
    StoredKey s record := by
  have hmem := List.mem_of_mem_take h
  cases hlookup : s.apiKeys.lookup start with
  | none =>
    rw [hlookup] at hmem
    cases hmem
  | some records =>
    rw [hlookup] at hmem
    exact ⟨start, records, hlookup, hmem⟩

theorem authenticateRequest_key {headers : HeaderMap} {token requestId traceId : String} {now : DateTime}
    {actor : CredentialedActor} (htoken : bearerToken headers = .ok token)
    (hkind : startsWith token sessionTokenPrefix = false)
    (h : authenticateRequest env s headers requestId traceId now = (.ok actor, next)) :
    ∃ key, StoredKey s key ∧ actor = .forApiKey key requestId traceId := by
  unfold authenticateRequest at h
  rw [htoken] at h
  simp only [hkind, Bool.false_eq_true, if_false] at h
  unfold verifyApiKey at h
  split at h
  · cases h
  rename_i start hstart
  simp only at h
  split at h
  · cases h
  split at h
  · cases h
  split at h
  · cases h
  · cases h
  · rename_i record hfound
    cases h
    exact ⟨record, candidatesByPrefix_stored (findApiKey_mem hfound), rfl⟩

/-- The request is authenticated, and its ingress passes the policies that stand before the provider. -/
def ReachesProvider (env : AuthEnv) (s : TenancyStore) (headers : HeaderMap) (requestId traceId : String)
    (now : DateTime) (request : RuntimeRequest) (runtime : RuntimeState) : Prop :=
  ∃ actor next preflight policies, authenticateRequest env s headers requestId traceId now = (.ok actor, next) ∧
    request.policyInput.actor = actor.toAuthenticatedActor ∧
    enforceRuntimePolicyPreflight request.preflightInput runtime.policies = (.ok preflight, policies)

/-- In such a run only keys of active owners in open organizations and projects are accepted and get to a provider. -/
theorem apiKeyTraffic_open {actions : List KeyAction} (hmeets : Meets (keyStep env) KeysSpared .empty actions)
    (hrun : run (keyStep env) .empty actions = some s) (headers : HeaderMap) {token : String}
    (htoken : bearerToken headers = .ok token) (hkind : startsWith token sessionTokenPrefix = false)
    (requestId traceId : String) (now : DateTime) :
    (∀ actor next, authenticateRequest env s headers requestId traceId now = (.ok actor, next) →
      ∃ key, StoredKey s key ∧ actor = .forApiKey key requestId traceId ∧ KeyOpen s key) ∧
    ∀ request runtime, ReachesProvider env s headers requestId traceId now request runtime →
      ∃ key, StoredKey s key ∧
        request.policyInput.actor = (CredentialedActor.forApiKey key requestId traceId).toAuthenticatedActor ∧
        KeyOpen s key := by
  have hopen : KeysOpen s :=
    run_invariant (fun _ _ _ h hspared hstep => keyStep_keysOpen h hspared hstep) keysOpen_empty hmeets hrun
  have haccepted : ∀ actor next, authenticateRequest env s headers requestId traceId now = (.ok actor, next) →
      ∃ key, StoredKey s key ∧ actor = .forApiKey key requestId traceId ∧ KeyOpen s key := by
    intro actor next hauth
    obtain ⟨key, hkey, hactor⟩ := authenticateRequest_key htoken hkind hauth
    exact ⟨key, hkey, hactor, hopen key hkey⟩
  refine ⟨haccepted, ?_⟩
  rintro request runtime ⟨actor, next, preflight, policies, hauth, hactor, -⟩
  obtain ⟨key, hkey, rfl, hkeyOpen⟩ := haccepted actor next hauth
  exact ⟨key, hkey, hactor, hkeyOpen⟩

end Runs

def sampleKeyRequest : AdminCreateApiKeyRequest :=
  ⟨"idem_1", some "org_1", some "prj_1", none, "automation", none, [], []⟩

def sampleDrawnKey : DrawnApiKey := ⟨"ak_1", "swg_0123456789abcdef", .ok "argon2:swg_0123456789abcdef"⟩

def organizationSuspended : List KeyAction :=
  [.bootstrapDefaultProject sampleBootstrap, .createApiKeyAdmin ownerCall sampleKeyRequest "hash_1" sampleDrawnKey,
    .updateOrganization ownerCall "org_1" 1 .suspended]

def keyedRequest (actor : AuthenticatedActor) : RuntimeRequest :=
  { admittedRequest none with policyInput := { admittedInput with actor } }

theorem apiKeyTraffic_suspended :
    ∃ s actor next, run (keyStep sampleAuthEnv) .empty organizationSuspended = some s ∧
      authenticateRequest sampleAuthEnv s (bearer "swg_0123456789abcdef") "req_1" "tr_1" ⟨0⟩ = (.ok actor, next) ∧
      actor.organizationId = some "org_1" ∧ ¬ OrganizationOpen s "org_1" ∧
      ReachesProvider sampleAuthEnv s (bearer "swg_0123456789abcdef") "req_1" "tr_1" ⟨0⟩
        (keyedRequest actor.toAuthenticatedActor) .empty ∧
      (modelIngress (keyedRequest actor.toAuthenticatedActor) (.ok sampleResponse) .empty).1 = .ok sampleResponse := by
  refine ⟨_, _, _, rfl, rfl, rfl, ?_, ⟨_, _, _, _, rfl, rfl, rfl⟩, rfl⟩
  rintro ⟨organization, hlookup, hstatus⟩
  cases hlookup
  cases hstatus

def otherOrganizationSuspended : List KeyAction :=
  [.bootstrapDefaultProject sampleBootstrap,
    .bootstrapDefaultProject ⟨"ten_1", "Tenant", "org_2", "Other", "prj_2", "Other", "usr_2", "Other", none, "om_2", "pm_2"⟩,
    .createApiKeyAdmin ownerCall sampleKeyRequest "hash_1" sampleDrawnKey,
    .updateOrganization ownerCall "org_2" 1 .suspended]

theorem apiKeyTraffic_open_other :
    ∃ s actor next, run (keyStep sampleAuthEnv) .empty otherOrganizationSuspended = some s ∧
      authenticateRequest sampleAuthEnv s (bearer "swg_0123456789abcdef") "req_1" "tr_1" ⟨0⟩ = (.ok actor, next) ∧
      ∃ key, StoredKey s key ∧ actor = .forApiKey key "req_1" "tr_1" ∧ KeyOpen s key := by
  refine ⟨_, _, _, rfl, rfl, ?_⟩
  have hmeets : Meets (keyStep sampleAuthEnv) KeysSpared .empty otherOrganizationSuspended := by
    refine .cons rfl trivial (.cons rfl trivial (.cons rfl ?_ (.cons rfl ?_ trivial)))
    · intro _
      refine ⟨.inl ⟨_, rfl, rfl⟩, ?_, ?_⟩
      · rintro _ ⟨⟩
        exact ⟨_, rfl, rfl⟩
      · rintro _ ⟨⟩
        exact ⟨_, rfl, rfl⟩
    · intro _
      right
      intro key hkey
      rcases insertApiKey_stored hkey with ⟨start, records, hlookup, -⟩ | rfl
      · cases hlookup
      · decide
  exact (apiKeyTraffic_open hmeets rfl (bearer "swg_0123456789abcdef") rfl rfl "req_1" "tr_1" ⟨0⟩).1 _ _ rfl

end Starweaver.Gateway.Tenancy
