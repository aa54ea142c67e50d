import Starweaver.Library.AssocMap
import Starweaver.Library.Machine
import Starweaver.Gateway.AdminResources

namespace Starweaver.Gateway

open Library.AssocMap Library.Calendar Library.Checks Library.Machine

inductive CodexOAuthConnectionStatus
  | unauthenticated
  | loginPending
  | active
  | expired
  | error
  | disabled
deriving DecidableEq, Repr

inductive CodexOAuthSessionStatus
  | loginPending
  | active
  | revoked
  | expired
  | error
deriving DecidableEq, Repr

structure CodexOAuthConnectionRecord where
  codexOAuthConnectionId : String
  tenantId : String
  organizationId : Option String
  providerEndpointId : String
  upstreamCredentialId : Option String
  status : CodexOAuthConnectionStatus
  resourceVersion : Int
deriving DecidableEq, Repr

structure CodexOAuthSessionRecord where
  codexOAuthSessionId : String
  tenantId : String
  codexOAuthConnectionId : String
  upstreamCredentialId : String
  tokenSecretRefId : String
  tokenExpiresAt : Option DateTime
  status : CodexOAuthSessionStatus
  revokedAt : Option DateTime
  resourceVersion : Int
deriving DecidableEq, Repr

structure StartCodexOAuthSessionRequest where
  tenantId : String
  codexOAuthConnectionId : String
  tokenSecretRefId : String
  tokenExpiresAt : Option DateTime
deriving DecidableEq, Repr

structure CodexOAuthStore extends GatewayStore where
  codexOAuthConnections : Index CodexOAuthConnectionRecord
  codexOAuthSessions : Index CodexOAuthSessionRecord

/-- Connections on which no session has been started. -/
def CodexOAuthStore.fresh (gateway : GatewayStore) (connections : Index CodexOAuthConnectionRecord) :
    CodexOAuthStore :=
  ⟨gateway, connections, ∅⟩

section Operations

variable (store : CodexOAuthStore)

def CodexOAuthStore.disableUpstreamCredentialIfCurrent (upstreamCredentialId : String) : CodexOAuthStore :=
  match store.upstreamCredentials.lookup upstreamCredentialId with
  | none => store
  | some credential =>
    { store with
      upstreamCredentials := store.upstreamCredentials.insert upstreamCredentialId
        { credential with status := .disabled, resourceVersion := credential.resourceVersion + 1 } }

def updateCodexOAuthConnectionStatus (codexOAuthConnectionId : String) (expectedResourceVersion : Int)
    (status : CodexOAuthConnectionStatus) : Result CodexOAuthConnectionRecord × CodexOAuthStore :=
  match store.codexOAuthConnections.lookup codexOAuthConnectionId with
  | none => (.error (.notFound s!"codex oauth connection {codexOAuthConnectionId}"), store)
  | some connection =>
    if connection.resourceVersion ≠ expectedResourceVersion then (.error (.badRequest "stale_resource_version"), store)
    else
      let store := match status, connection.upstreamCredentialId with
        | .disabled, some upstreamCredentialId => store.disableUpstreamCredentialIfCurrent upstreamCredentialId
        | _, _ => store
      let updated :=
        { connection with
          upstreamCredentialId := if status = .unauthenticated then none else connection.upstreamCredentialId
          status
          resourceVersion := connection.resourceVersion + 1 }
      (.ok updated,
        { store with codexOAuthConnections := store.codexOAuthConnections.insert codexOAuthConnectionId updated })

def validateCodexOAuthSessionRequest (request : StartCodexOAuthSessionRequest) : Result CodexOAuthConnectionRecord :=
  match store.codexOAuthConnections.lookup request.codexOAuthConnectionId with
  | none => .error (.notFound s!"codex oauth connection {request.codexOAuthConnectionId}")
  | some connection =>
    if connection.tenantId ≠ request.tenantId then .error (.authorization "codex_oauth_connection_tenant_mismatch")
    else if connection.status = .disabled then .error (.badRequest "codex_oauth_connection_disabled")
    else do
      ensureSecretRefUsable store.toGatewayStore request.tenantId connection.organizationId none
        request.tokenSecretRefId "codex_oauth_token_secret_ref"
      .ok connection

def startCodexOAuthSession (request : StartCodexOAuthSessionRequest) (now : DateTime)
    (upstreamCredentialId codexOAuthSessionId : String) : Result CodexOAuthSessionRecord × CodexOAuthStore :=
  match (do
      if request.tokenExpiresAt.any fun expiresAt => decide (expiresAt ≤ now) then
        .error (.badRequest "codex_oauth_token_expired")
      else
        let connection ← validateCodexOAuthSessionRequest store request
        createUpstreamCredential store.toGatewayStore
          ⟨request.tenantId, connection.organizationId, connection.providerEndpointId, "codex_oauth",
            request.tokenSecretRefId⟩ upstreamCredentialId : Result GatewayStore) with
  | .error error => (.error error, store)
  | .ok gateway =>
    let record : CodexOAuthSessionRecord :=
      { codexOAuthSessionId
        tenantId := request.tenantId
        codexOAuthConnectionId := request.codexOAuthConnectionId
        upstreamCredentialId
        tokenSecretRefId := request.tokenSecretRefId
        tokenExpiresAt := request.tokenExpiresAt
        status := .active
        revokedAt := none
        resourceVersion := 1 }
    let stored : CodexOAuthStore :=
      ⟨gateway, store.codexOAuthConnections, store.codexOAuthSessions.insert codexOAuthSessionId record⟩
    match stored.codexOAuthConnections.lookup record.codexOAuthConnectionId with
    | none => (.error (.notFound s!"codex oauth connection {record.codexOAuthConnectionId}"), stored)
    | some connection =>
      let connected :=
        { connection with
          upstreamCredentialId := some upstreamCredentialId
          status := .active
          resourceVersion := connection.resourceVersion + 1 }
      (.ok record,
        { stored with
          codexOAuthConnections := stored.codexOAuthConnections.insert record.codexOAuthConnectionId connected })

/-- The connection forgets the credential of the session, when it is the one it remembers. -/
def disconnectCredential (codexOAuthConnectionId upstreamCredentialId : String) : CodexOAuthStore :=
  match store.codexOAuthConnections.lookup codexOAuthConnectionId with
  | none => store
  | some connection =>
    if connection.upstreamCredentialId = some upstreamCredentialId then
      { store with
        codexOAuthConnections := store.codexOAuthConnections.insert codexOAuthConnectionId
          { connection with
            upstreamCredentialId := none
            status := .unauthenticated
            resourceVersion := connection.resourceVersion + 1 } }
    else store

def revokeCodexOAuthSession (codexOAuthSessionId : String) (now : DateTime) :
    Result CodexOAuthSessionRecord × CodexOAuthStore :=
  match store.codexOAuthSessions.lookup codexOAuthSessionId with
  | none => (.error (.notFound s!"codex oauth session {codexOAuthSessionId}"), store)
  | some session =>
    let updated :=
      { session with status := .revoked, revokedAt := some now, resourceVersion := session.resourceVersion + 1 }
    let revoked := { store with codexOAuthSessions := store.codexOAuthSessions.insert codexOAuthSessionId updated }
    (.ok updated, disconnectCredential (revoked.disableUpstreamCredentialIfCurrent updated.upstreamCredentialId)
      updated.codexOAuthConnectionId updated.upstreamCredentialId)

end Operations

inductive CodexOAuthAction
  | startSession (request : StartCodexOAuthSessionRequest) (now : DateTime)
      (upstreamCredentialId codexOAuthSessionId : String)
  | revokeSession (codexOAuthSessionId : String) (now : DateTime)
  | updateConnectionStatus (codexOAuthConnectionId : String) (expectedResourceVersion : Int)
      (status : CodexOAuthConnectionStatus)

/-- One call of the repository. The ids that a start draws are not in use. -/
def codexOAuthStep (store : CodexOAuthStore) : CodexOAuthAction → Option CodexOAuthStore
  | .startSession request now upstreamCredentialId codexOAuthSessionId =>
    if (store.upstreamCredentials.lookup upstreamCredentialId).isSome ∨
        (store.codexOAuthSessions.lookup codexOAuthSessionId).isSome then none
    else some (startCodexOAuthSession store request now upstreamCredentialId codexOAuthSessionId).2
  | .revokeSession codexOAuthSessionId now => some (revokeCodexOAuthSession store codexOAuthSessionId now).2
  | .updateConnectionStatus codexOAuthConnectionId expectedResourceVersion status =>
    some (updateCodexOAuthConnectionStatus store codexOAuthConnectionId expectedResourceVersion status).2

def ActiveCredential (store : CodexOAuthStore) (id : String) : Prop :=
  ∃ credential, store.upstreamCredentials.lookup id = some credential ∧ credential.status = .active

/-- The credentials that were not there at the beginning are those that starts have created. -/
def RevocationReaches (initial : GatewayStore) (store : CodexOAuthStore) : Prop :=
  ∀ id, initial.upstreamCredentials.lookup id = none → ActiveCredential store id →
    ∃ sessionId session connection, store.codexOAuthSessions.lookup sessionId = some session ∧
      session.upstreamCredentialId = id ∧ session.status = .active ∧
      store.codexOAuthConnections.lookup session.codexOAuthConnectionId = some connection ∧
      connection.status ≠ .disabled

/-- A connection is disabled only while no session of it holds an active credential besides the one it remembers. -/
def DisablesCurrent (store : CodexOAuthStore) : CodexOAuthAction → Prop
  | .updateConnectionStatus codexOAuthConnectionId expectedResourceVersion .disabled =>
    ∀ connection, store.codexOAuthConnections.lookup codexOAuthConnectionId = some connection →
      connection.resourceVersion = expectedResourceVersion →
      ∀ sessionId session, store.codexOAuthSessions.lookup sessionId = some session →
        session.codexOAuthConnectionId = codexOAuthConnectionId →
        ActiveCredential store session.upstreamCredentialId →
        connection.upstreamCredentialId = some session.upstreamCredentialId
  | _ => True

/-- Each created credential has one session, whose connection is there, and is active only while the session is. -/
structure SessionsLinked (initial : GatewayStore) (store : CodexOAuthStore) : Prop where
  kept : ∀ id, store.upstreamCredentials.lookup id = none → initial.upstreamCredentials.lookup id = none
  created : ∀ id, initial.upstreamCredentials.lookup id = none → (store.upstreamCredentials.lookup id).isSome →
    ∃ sessionId session, store.codexOAuthSessions.lookup sessionId = some session ∧ session.upstreamCredentialId = id
  stored : ∀ sessionId session, store.codexOAuthSessions.lookup sessionId = some session →
    initial.upstreamCredentials.lookup session.upstreamCredentialId = none ∧
      (store.upstreamCredentials.lookup session.upstreamCredentialId).isSome ∧
      (store.codexOAuthConnections.lookup session.codexOAuthConnectionId).isSome
  held : ∀ sessionId session, store.codexOAuthSessions.lookup sessionId = some session →
    ActiveCredential store session.upstreamCredentialId → session.status = .active
  apart : ∀ sessionId session otherId other, store.codexOAuthSessions.lookup sessionId = some session →
    store.codexOAuthSessions.lookup otherId = some other →
    session.upstreamCredentialId = other.upstreamCredentialId → sessionId = otherId

section Runs

variable {initial : GatewayStore} {store next : CodexOAuthStore}

theorem SessionsLinked.fresh (gateway : GatewayStore) (connections : Index CodexOAuthConnectionRecord) :
    SessionsLinked gateway (.fresh gateway connections) := by
  refine ⟨fun id h => h, fun id hnone hsome => ?_, fun sessionId session h => ?_, fun sessionId session h => ?_,
    fun sessionId session otherId other h => ?_⟩
  · have hgateway : (gateway.upstreamCredentials.lookup id).isSome := hsome
    rw [hnone] at hgateway
    cases hgateway
  · cases h
  · cases h
  · cases h

theorem RevocationReaches.fresh (gateway : GatewayStore) (connections : Index CodexOAuthConnectionRecord) :
    RevocationReaches gateway (.fresh gateway connections) := by
  rintro id hnone ⟨credential, hcredential, -⟩
  cases hnone.symm.trans hcredential

theorem SessionsLinked.reaches_iff (h : SessionsLinked initial store) : RevocationReaches initial store ↔
    ∀ sessionId session connection, store.codexOAuthSessions.lookup sessionId = some session →
      ActiveCredential store session.upstreamCredentialId →
      store.codexOAuthConnections.lookup session.codexOAuthConnectionId = some connection →
      connection.status ≠ .disabled := by
  constructor
  · intro hreaches sessionId session connection hsession hactive hconnection
    obtain ⟨otherId, other, found, hother, hid, -, hfound, henabled⟩ :=
      hreaches _ (h.stored sessionId session hsession).1 hactive
    have hsame := h.apart otherId other sessionId session hother hsession hid
    subst hsame
    cases hother.symm.trans hsession
    cases hfound.symm.trans hconnection
    exact henabled
  · intro henabled id hnone hactive
    have hsome : (store.upstreamCredentials.lookup id).isSome := by
      obtain ⟨credential, hcredential, -⟩ := hactive
      rw [hcredential, Option.isSome_some]
    obtain ⟨sessionId, session, hsession, rfl⟩ := h.created id hnone hsome
    obtain ⟨connection, hconnection⟩ := Option.isSome_iff_exists.mp (h.stored sessionId session hsession).2.2
    exact ⟨sessionId, session, connection, hsession, rfl, h.held sessionId session hsession hactive, hconnection,
      henabled sessionId session connection hsession hactive hconnection⟩

def CodexOAuthSessionRecord.link (session : CodexOAuthSessionRecord) : String × String :=
  (session.upstreamCredentialId, session.codexOAuthConnectionId)

/-- Writes over records that are there keep the links, as long as no credential outlives its session. -/
theorem SessionsLinked.of_updates (h : SessionsLinked initial store)
    (hcredentials : ∀ id, (next.upstreamCredentials.lookup id).isSome = (store.upstreamCredentials.lookup id).isSome)
    (hconnections : ∀ id,
      (next.codexOAuthConnections.lookup id).isSome = (store.codexOAuthConnections.lookup id).isSome)
    (hsessions : ∀ id, (next.codexOAuthSessions.lookup id).map CodexOAuthSessionRecord.link =
      (store.codexOAuthSessions.lookup id).map CodexOAuthSessionRecord.link)
    (hheld : ∀ sessionId session, next.codexOAuthSessions.lookup sessionId = some session →
      ActiveCredential next session.upstreamCredentialId → session.status = .active) :
    SessionsLinked initial next := by
  have hback {sessionId : String} {session : CodexOAuthSessionRecord}
      (hsession : next.codexOAuthSessions.lookup sessionId = some session) :
      ∃ before, store.codexOAuthSessions.lookup sessionId = some before ∧
        before.upstreamCredentialId = session.upstreamCredentialId ∧
        before.codexOAuthConnectionId = session.codexOAuthConnectionId := by
    have hlink := hsessions sessionId
    rw [hsession, Option.map_some, eq_comm] at hlink
    obtain ⟨before, hbefore, heq⟩ := Option.map_eq_some_iff.mp hlink
    simp only [CodexOAuthSessionRecord.link, Prod.mk.injEq] at heq
    exact ⟨before, hbefore, heq⟩
  refine ⟨fun id hnone => ?_, fun id hnone hsome => ?_, fun sessionId session hsession => ?_, hheld,
    fun sessionId session otherId other hsession hother hsame => ?_⟩
  · have hstore := hcredentials id
    rw [hnone, Option.isSome_none, eq_comm, Option.isSome_eq_false_iff, Option.isNone_iff_eq_none] at hstore
    exact h.kept id hstore
  · rw [hcredentials] at hsome
    obtain ⟨sessionId, session, hsession, hid⟩ := h.created id hnone hsome
    have hlink := hsessions sessionId
    rw [hsession, Option.map_some] at hlink
    obtain ⟨after, hafter, heq⟩ := Option.map_eq_some_iff.mp hlink
    simp only [CodexOAuthSessionRecord.link, Prod.mk.injEq] at heq
    exact ⟨sessionId, after, hafter, heq.1.trans hid⟩
  · obtain ⟨before, hbefore, hcredential, hconnection⟩ := hback hsession
    rw [← hcredential, ← hconnection, hcredentials, hconnections]
    exact h.stored sessionId before hbefore
  · obtain ⟨before, hbefore, hcredential, -⟩ := hback hsession
    obtain ⟨before', hbefore', hcredential', -⟩ := hback hother
    exact h.apart sessionId before otherId before' hbefore hbefore' (hcredential.trans (hsame.trans hcredential'.symm))

section Disable

variable (store : CodexOAuthStore) (id other : String)

@[simp] theorem disable_sessions :
    (store.disableUpstreamCredentialIfCurrent id).codexOAuthSessions = store.codexOAuthSessions := by
  unfold CodexOAuthStore.disableUpstreamCredentialIfCurrent
  split <;> rfl

@[simp] theorem disable_connections :
    (store.disableUpstreamCredentialIfCurrent id).codexOAuthConnections = store.codexOAuthConnections := by
  unfold CodexOAuthStore.disableUpstreamCredentialIfCurrent
  split <;> rfl

theorem disable_isSome : ((store.disableUpstreamCredentialIfCurrent id).upstreamCredentials.lookup other).isSome =
    (store.upstreamCredentials.lookup other).isSome := by
  unfold CodexOAuthStore.disableUpstreamCredentialIfCurrent
  split
  · rfl
  · rename_i credential hlookup
    exact isSome_insert_of_some hlookup _ other

theorem disable_active : ActiveCredential (store.disableUpstreamCredentialIfCurrent id) other ↔
    other ≠ id ∧ ActiveCredential store other := by
  unfold CodexOAuthStore.disableUpstreamCredentialIfCurrent ActiveCredential
  cases hlookup : store.upstreamCredentials.lookup id with
  | none =>
    simp only
    refine ⟨fun hactive => ⟨?_, hactive⟩, fun h => h.2⟩
    rintro rfl
    obtain ⟨credential, hcredential, -⟩ := hactive
    cases hlookup.symm.trans hcredential
  | some credential =>
    simp only
    by_cases heq : other = id
    · subst heq
      simp [AList.lookup_insert]
    · rw [AList.lookup_insert_ne heq]
      simp [heq]

end Disable

section Disconnect

variable (store : CodexOAuthStore) (connectionId credentialId other : String)

@[simp] theorem disconnect_sessions :
    (disconnectCredential store connectionId credentialId).codexOAuthSessions = store.codexOAuthSessions := by
  unfold disconnectCredential
  split
  · rfl
  split <;> rfl

@[simp] theorem disconnect_credentials :
    (disconnectCredential store connectionId credentialId).upstreamCredentials = store.upstreamCredentials := by
  unfold disconnectCredential
  split
  · rfl
  split <;> rfl

theorem disconnect_isSome :
    ((disconnectCredential store connectionId credentialId).codexOAuthConnections.lookup other).isSome =
      (store.codexOAuthConnections.lookup other).isSome := by
  unfold disconnectCredential
  split
  · rfl
  rename_i connection hlookup
  split
  · exact isSome_insert_of_some hlookup _ other
  · rfl

theorem disconnect_disabled {connection : CodexOAuthConnectionRecord} (hdisabled : connection.status = .disabled)
    (h : (disconnectCredential store connectionId credentialId).codexOAuthConnections.lookup other = some connection) :
    store.codexOAuthConnections.lookup other = some connection := by
  unfold disconnectCredential at h
  split at h
  · exact h
  split at h
  · rcases insert_some h with ⟨-, rfl⟩ | ⟨-, hlookup⟩
    · cases hdisabled
    · exact hlookup
  · exact h

end Disconnect

theorem ActiveCredential.congr {id : String} (h : next.upstreamCredentials = store.upstreamCredentials) :
    ActiveCredential next id ↔ ActiveCredential store id := by
  unfold ActiveCredential
  rw [h]

theorem SessionsLinked.revoke (h : SessionsLinked initial store) (sessionId : String) (now : DateTime) :
    SessionsLinked initial (revokeCodexOAuthSession store sessionId now).2 := by
  unfold revokeCodexOAuthSession
  cases hlookup : store.codexOAuthSessions.lookup sessionId with
  | none => exact h
  | some session =>
    simp only
    refine h.of_updates (fun id => ?_) (fun id => ?_) (fun id => ?_) (fun otherId other hother hactive => ?_)
    · rw [disconnect_credentials, disable_isSome]
    · rw [disconnect_isSome, disable_connections]
    · rw [disconnect_sessions, disable_sessions]
      by_cases heq : id = sessionId
      · subst heq
        rw [AList.lookup_insert, hlookup]
        rfl
      · rw [AList.lookup_insert_ne heq]
    · rw [disconnect_sessions, disable_sessions] at hother
      rw [ActiveCredential.congr (disconnect_credentials _ _ _), disable_active] at hactive
      rcases insert_some hother with ⟨-, rfl⟩ | ⟨-, hstored⟩
      · exact absurd rfl hactive.1
      · exact h.held otherId other hstored hactive.2

/-- What an accepted status update has done: it takes the credential that the connection remembers out of use when it
disables the connection. -/
structure StatusUpdated (store : CodexOAuthStore) (connectionId : String) (connection : CodexOAuthConnectionRecord)
    (status : CodexOAuthConnectionStatus) (next : CodexOAuthStore) : Prop where
  lookup : store.codexOAuthConnections.lookup connectionId = some connection
  sessions : next.codexOAuthSessions = store.codexOAuthSessions
  credentials : ∀ id, (next.upstreamCredentials.lookup id).isSome = (store.upstreamCredentials.lookup id).isSome
  active : ∀ id, ActiveCredential next id ↔
    ActiveCredential store id ∧ ¬ (status = .disabled ∧ connection.upstreamCredentialId = some id)
  connections : ∃ updated : CodexOAuthConnectionRecord, updated.status = status ∧
    next.codexOAuthConnections = store.codexOAuthConnections.insert connectionId updated

theorem updateCodexOAuthConnectionStatus_accepted {connectionId : String} {connection : CodexOAuthConnectionRecord}
    (hlookup : store.codexOAuthConnections.lookup connectionId = some connection)
    (status : CodexOAuthConnectionStatus) :
    StatusUpdated store connectionId connection status
      (updateCodexOAuthConnectionStatus store connectionId connection.resourceVersion status).2 := by
  unfold updateCodexOAuthConnectionStatus
  rw [hlookup]
  simp only [ne_eq, not_true_eq_false, if_false]
  split
  · rename_i credentialId hcredential
    refine ⟨hlookup, disable_sessions _ _, disable_isSome _ _, fun id => ?_, _, rfl, by rw [disable_connections]⟩
    refine (disable_active store credentialId id).trans ?_
    simp only [hcredential, Option.some.injEq, true_and, ne_eq, @eq_comm _ credentialId id]
    exact and_comm
  · rename_i hother
    refine ⟨hlookup, rfl, fun _ => rfl, fun id => ?_, _, rfl, rfl⟩
    refine (and_iff_left fun hboth => ?_).symm
    exact hother id hboth.1 hboth.2

theorem updateCodexOAuthConnectionStatus_refused {connectionId : String} {expectedVersion : Int}
    (hrefused : ∀ connection, store.codexOAuthConnections.lookup connectionId = some connection →
      connection.resourceVersion ≠ expectedVersion) (status : CodexOAuthConnectionStatus) :
    (updateCodexOAuthConnectionStatus store connectionId expectedVersion status).2 = store := by
  unfold updateCodexOAuthConnectionStatus
  cases hlookup : store.codexOAuthConnections.lookup connectionId with
  | none => rfl
  | some connection => simp only [if_pos (hrefused connection hlookup)]

theorem updateCodexOAuthConnectionStatus_cases (store : CodexOAuthStore) (connectionId : String) (expectedVersion : Int)
    (status : CodexOAuthConnectionStatus) :
    (∃ connection, connection.resourceVersion = expectedVersion ∧ StatusUpdated store connectionId connection status
      (updateCodexOAuthConnectionStatus store connectionId expectedVersion status).2) ∨
    (∀ connection, store.codexOAuthConnections.lookup connectionId = some connection →
      connection.resourceVersion ≠ expectedVersion) ∧
      (updateCodexOAuthConnectionStatus store connectionId expectedVersion status).2 = store := by
  by_cases hrefused : ∀ connection, store.codexOAuthConnections.lookup connectionId = some connection →
      connection.resourceVersion ≠ expectedVersion
  · exact .inr ⟨hrefused, updateCodexOAuthConnectionStatus_refused hrefused status⟩
  · push Not at hrefused
    obtain ⟨connection, hlookup, rfl⟩ := hrefused
    exact .inl ⟨connection, rfl, updateCodexOAuthConnectionStatus_accepted hlookup status⟩

theorem StatusUpdated.linked {connectionId : String} {connection : CodexOAuthConnectionRecord}
    {status : CodexOAuthConnectionStatus} (hupdated : StatusUpdated store connectionId connection status next)
    (h : SessionsLinked initial store) : SessionsLinked initial next := by
  obtain ⟨updated, -, hconnections⟩ := hupdated.connections
  refine h.of_updates hupdated.credentials (fun id => ?_) (fun id => ?_) (fun sessionId session hsession hactive => ?_)
  · rw [hconnections]
    exact isSome_insert_of_some hupdated.lookup updated id
  · rw [hupdated.sessions]
  · rw [hupdated.sessions] at hsession
    exact h.held sessionId session hsession ((hupdated.active _).mp hactive).1

/-- Only a session of the updated connection can lose what the others keep. -/
theorem StatusUpdated.reaches_iff {connectionId : String} {connection : CodexOAuthConnectionRecord}
    {status : CodexOAuthConnectionStatus} (hupdated : StatusUpdated store connectionId connection status next)
    (h : SessionsLinked initial store) (hreaches : RevocationReaches initial store) :
    RevocationReaches initial next ↔ (status = .disabled → ∀ sessionId session,
      store.codexOAuthSessions.lookup sessionId = some session → session.codexOAuthConnectionId = connectionId →
      ActiveCredential store session.upstreamCredentialId →
      connection.upstreamCredentialId = some session.upstreamCredentialId) := by
  obtain ⟨updated, rfl, hconnections⟩ := hupdated.connections
  rw [(hupdated.linked h).reaches_iff, hupdated.sessions, hconnections]
  constructor
  · intro henabled hdisabled sessionId session hsession hconnection hactive
    by_contra hother
    have hstill : ActiveCredential next session.upstreamCredentialId :=
      (hupdated.active _).mpr ⟨hactive, fun hboth => hother hboth.2⟩
    refine henabled sessionId session updated hsession hstill ?_ hdisabled
    rw [hconnection, AList.lookup_insert]
  · intro hcurrent sessionId session found hsession hactive hfound hdisabled
    obtain ⟨hbefore, hspared⟩ := (hupdated.active _).mp hactive
    rcases insert_some hfound with ⟨hconnection, rfl⟩ | ⟨-, hstored⟩
    · exact hspared ⟨hdisabled, hcurrent hdisabled sessionId session hsession hconnection hbefore⟩
    · exact h.reaches_iff.mp hreaches sessionId session found hsession hbefore hstored hdisabled

theorem revokeCodexOAuthSession_reaches (h : SessionsLinked initial store) (hreaches : RevocationReaches initial store)
    (sessionId : String) (now : DateTime) :
    RevocationReaches initial (revokeCodexOAuthSession store sessionId now).2 := by
  refine (h.revoke sessionId now).reaches_iff.mpr ?_
  unfold revokeCodexOAuthSession
  cases hlookup : store.codexOAuthSessions.lookup sessionId with
  | none => exact h.reaches_iff.mp hreaches
  | some session =>
    simp only [disconnect_sessions, disable_sessions]
    intro otherId other connection hother hactive hconnection hdisabled
    rw [ActiveCredential.congr (disconnect_credentials _ _ _), disable_active] at hactive
    have hbefore := disconnect_disabled _ _ _ _ hdisabled hconnection
    rw [disable_connections] at hbefore
    rcases insert_some hother with ⟨-, rfl⟩ | ⟨-, hstored⟩
    · exact absurd rfl hactive.1
    · exact h.reaches_iff.mp hreaches otherId other connection hstored hactive.2 hbefore hdisabled

/-- What a start that creates a credential has done. -/
structure SessionStarted (store : CodexOAuthStore) (connectionId credentialId sessionId : String)
    (next : CodexOAuthStore) : Prop where
  lookup : (store.codexOAuthConnections.lookup connectionId).isSome
  credentials : ∃ credential : UpstreamCredentialRecord,
    next.upstreamCredentials = store.upstreamCredentials.insert credentialId credential
  sessions : ∃ session : CodexOAuthSessionRecord, session.link = (credentialId, connectionId) ∧
    session.status = .active ∧ next.codexOAuthSessions = store.codexOAuthSessions.insert sessionId session
  connections : ∃ connection : CodexOAuthConnectionRecord, connection.status = .active ∧
    next.codexOAuthConnections = store.codexOAuthConnections.insert connectionId connection

theorem createUpstreamCredential_credentials {gateway created : GatewayStore} {request : CreateUpstreamCredentialRequest}
    {id : String} (h : createUpstreamCredential gateway request id = .ok created) :
    ∃ credential, created.upstreamCredentials = gateway.upstreamCredentials.insert id credential := by
  obtain ⟨-, -, h⟩ := bind_ok.mp h
  cases h
  exact ⟨_, rfl⟩

theorem validateCodexOAuthSessionRequest_lookup {request : StartCodexOAuthSessionRequest}
    {connection : CodexOAuthConnectionRecord}
    (h : validateCodexOAuthSessionRequest store request = .ok connection) :
    store.codexOAuthConnections.lookup request.codexOAuthConnectionId = some connection := by
  unfold validateCodexOAuthSessionRequest at h
  split at h
  · cases h
  rename_i found hlookup
  split at h
  · cases h
  split at h
  · cases h
  obtain ⟨-, -, h⟩ := bind_ok.mp h
  cases h
  exact hlookup

theorem startCodexOAuthSession_cases (store : CodexOAuthStore) (request : StartCodexOAuthSessionRequest)
    (now : DateTime) (credentialId sessionId : String) :
    (startCodexOAuthSession store request now credentialId sessionId).2 = store ∨
    SessionStarted store request.codexOAuthConnectionId credentialId sessionId
      (startCodexOAuthSession store request now credentialId sessionId).2 := by
  unfold startCodexOAuthSession
  split
  · exact .inl rfl
  · rename_i gateway hcreated
    split at hcreated
    · cases hcreated
    obtain ⟨connection, hvalid, hcreated⟩ := bind_ok.mp hcreated
    have hlookup := validateCodexOAuthSessionRequest_lookup hvalid
    simp only [hlookup]
    exact .inr ⟨by rw [hlookup, Option.isSome_some], createUpstreamCredential_credentials hcreated,
      ⟨_, rfl, rfl, rfl⟩, ⟨_, rfl, rfl⟩⟩

section Started

variable {connectionId credentialId sessionId : String}

/-- A credential of the store after a start is the new one or one from before, and so is a session. -/
theorem SessionStarted.active_before (hstarted : SessionStarted store connectionId credentialId sessionId next)
    {id : String} (hother : id ≠ credentialId) : ActiveCredential next id ↔ ActiveCredential store id := by
  obtain ⟨credential, hcredentials⟩ := hstarted.credentials
  unfold ActiveCredential
  rw [hcredentials, AList.lookup_insert_ne hother]

theorem SessionStarted.isSome_credential (hstarted : SessionStarted store connectionId credentialId sessionId next)
    (id : String) : (next.upstreamCredentials.lookup id).isSome ↔
      id = credentialId ∨ (store.upstreamCredentials.lookup id).isSome := by
  obtain ⟨credential, hcredentials⟩ := hstarted.credentials
  rw [hcredentials]
  by_cases heq : id = credentialId
  · subst heq
    simp [AList.lookup_insert]
  · simp [AList.lookup_insert_ne heq, heq]

theorem SessionStarted.isSome_connection (hstarted : SessionStarted store connectionId credentialId sessionId next)
    (id : String) : (next.codexOAuthConnections.lookup id).isSome = (store.codexOAuthConnections.lookup id).isSome := by
  obtain ⟨connection, -, hconnections⟩ := hstarted.connections
  obtain ⟨found, hlookup⟩ := Option.isSome_iff_exists.mp hstarted.lookup
  rw [hconnections]
  exact isSome_insert_of_some hlookup connection id

theorem SessionStarted.session_cases (hstarted : SessionStarted store connectionId credentialId sessionId next)
    {id : String} {session : CodexOAuthSessionRecord} (hsession : next.codexOAuthSessions.lookup id = some session) :
    id = sessionId ∧ session.upstreamCredentialId = credentialId ∧ session.codexOAuthConnectionId = connectionId ∧
        session.status = .active ∨
      id ≠ sessionId ∧ store.codexOAuthSessions.lookup id = some session := by
  obtain ⟨started, hlink, hactive, hsessions⟩ := hstarted.sessions
  rw [hsessions] at hsession
  simp only [CodexOAuthSessionRecord.link, Prod.mk.injEq] at hlink
  rcases insert_some hsession with ⟨rfl, rfl⟩ | ⟨hother, hstored⟩
  · exact .inl ⟨rfl, hlink.1, hlink.2, hactive⟩
  · exact .inr ⟨hother, hstored⟩

theorem SessionsLinked.credential_ne (h : SessionsLinked initial store)
    (hfresh : store.upstreamCredentials.lookup credentialId = none) {id : String} {session : CodexOAuthSessionRecord}
    (hsession : store.codexOAuthSessions.lookup id = some session) : session.upstreamCredentialId ≠ credentialId := by
  rintro rfl
  have hstored := (h.stored id session hsession).2.1
  rw [hfresh] at hstored
  cases hstored

theorem SessionStarted.linked (hstarted : SessionStarted store connectionId credentialId sessionId next)
    (h : SessionsLinked initial store) (hcredential : store.upstreamCredentials.lookup credentialId = none)
    (hfresh : store.codexOAuthSessions.lookup sessionId = none) : SessionsLinked initial next := by
  obtain ⟨started, hlink, hactive, hsessions⟩ := hstarted.sessions
  simp only [CodexOAuthSessionRecord.link, Prod.mk.injEq] at hlink
  refine ⟨fun id hnone => ?_, fun id hnone hsome => ?_, fun id session hsession => ?_,
    fun id session hsession hheld => ?_, fun id session otherId other hsession hother hsame => ?_⟩
  · apply h.kept id
    by_contra hsome
    have hstill := (hstarted.isSome_credential id).mpr (.inr (Option.isSome_iff_ne_none.mpr hsome))
    rw [hnone] at hstill
    cases hstill
  · rcases (hstarted.isSome_credential id).mp hsome with rfl | hbefore
    · exact ⟨sessionId, started, by rw [hsessions, AList.lookup_insert], hlink.1⟩
    · obtain ⟨id', session, hsession, hid⟩ := h.created id hnone hbefore
      refine ⟨id', session, ?_, hid⟩
      have hother : id' ≠ sessionId := by
        rintro rfl
        cases hfresh.symm.trans hsession
      rw [hsessions, AList.lookup_insert_ne hother, hsession]
  · rw [hstarted.isSome_connection]
    rcases hstarted.session_cases hsession with ⟨-, rfl, rfl, -⟩ | ⟨-, hstored⟩
    · exact ⟨h.kept _ hcredential, (hstarted.isSome_credential _).mpr (.inl rfl), hstarted.lookup⟩
    · obtain ⟨hnone, hsome, hconnection⟩ := h.stored id session hstored
      exact ⟨hnone, (hstarted.isSome_credential _).mpr (.inr hsome), hconnection⟩
  · rcases hstarted.session_cases hsession with ⟨-, -, -, hstatus⟩ | ⟨-, hstored⟩
    · exact hstatus
    · exact h.held id session hstored ((hstarted.active_before (h.credential_ne hcredential hstored)).mp hheld)
  · rcases hstarted.session_cases hsession with ⟨rfl, hid, -⟩ | ⟨-, hstored⟩
    · rcases hstarted.session_cases hother with ⟨rfl, -⟩ | ⟨-, hstored⟩
      · rfl
      · exact absurd (hsame.symm.trans hid) (h.credential_ne hcredential hstored)
    · rcases hstarted.session_cases hother with ⟨rfl, hid, -⟩ | ⟨-, hstored'⟩
      · exact absurd (hsame.trans hid) (h.credential_ne hcredential hstored)
      · exact h.apart id session otherId other hstored hstored' hsame

theorem SessionStarted.reaches (hstarted : SessionStarted store connectionId credentialId sessionId next)
    (h : SessionsLinked initial store) (hreaches : RevocationReaches initial store)
    (hcredential : store.upstreamCredentials.lookup credentialId = none)
    (hfresh : store.codexOAuthSessions.lookup sessionId = none) : RevocationReaches initial next := by
  refine (hstarted.linked h hcredential hfresh).reaches_iff.mpr fun id session connection hsession hactive hlookup => ?_
  obtain ⟨connected, hconnected, hconnections⟩ := hstarted.connections
  rw [hconnections] at hlookup
  rcases insert_some hlookup with ⟨-, rfl⟩ | ⟨hother, hbefore⟩
  · rw [hconnected]
    decide
  · rcases hstarted.session_cases hsession with ⟨-, -, hconnection, -⟩ | ⟨-, hstored⟩
    · exact absurd hconnection hother
    · have hheld := (hstarted.active_before (h.credential_ne hcredential hstored)).mp hactive
      exact h.reaches_iff.mp hreaches id session connection hstored hheld hbefore

end Started

theorem codexOAuthStep_start {request : StartCodexOAuthSessionRequest} {now : DateTime}
    {credentialId sessionId : String}
    (hstep : codexOAuthStep store (.startSession request now credentialId sessionId) = some next) :
    store.upstreamCredentials.lookup credentialId = none ∧ store.codexOAuthSessions.lookup sessionId = none ∧
      (next = store ∨ SessionStarted store request.codexOAuthConnectionId credentialId sessionId next) := by
  simp only [codexOAuthStep] at hstep
  split at hstep
  · cases hstep
  rename_i hfresh
  rw [not_or, Option.not_isSome_iff_eq_none, Option.not_isSome_iff_eq_none] at hfresh
  rw [← Option.some.inj hstep]
  exact ⟨hfresh.1, hfresh.2, startCodexOAuthSession_cases store request now credentialId sessionId⟩

theorem codexOAuthStep_linked {action : CodexOAuthAction} (h : SessionsLinked initial store)
    (hstep : codexOAuthStep store action = some next) : SessionsLinked initial next := by
  cases action with
  | startSession request now credentialId sessionId =>
    obtain ⟨hcredential, hfresh, rfl | hstarted⟩ := codexOAuthStep_start hstep
    · exact h
    · exact hstarted.linked h hcredential hfresh
  | revokeSession sessionId now =>
    rw [← Option.some.inj hstep]
    exact h.revoke sessionId now
  | updateConnectionStatus connectionId expectedVersion status =>
    rw [← Option.some.inj hstep]
    rcases updateCodexOAuthConnectionStatus_cases store connectionId expectedVersion status with
      ⟨connection, -, hupdated⟩ | ⟨-, hsame⟩
    · exact hupdated.linked h
    · rwa [hsame]

theorem codexOAuthStep_reaches_iff (h : SessionsLinked initial store) (hreaches : RevocationReaches initial store)
    (action : CodexOAuthAction) :
    (∀ next, codexOAuthStep store action = some next → RevocationReaches initial next) ↔
      DisablesCurrent store action := by
  cases action with
  | startSession request now credentialId sessionId =>
    refine iff_of_true (fun next hstep => ?_) trivial
    obtain ⟨hcredential, hfresh, rfl | hstarted⟩ := codexOAuthStep_start hstep
    · exact hreaches
    · exact hstarted.reaches h hreaches hcredential hfresh
  | revokeSession sessionId now =>
    refine iff_of_true (fun next hstep => ?_) trivial
    rw [← Option.some.inj hstep]
    exact revokeCodexOAuthSession_reaches h hreaches sessionId now
  | updateConnectionStatus connectionId expectedVersion status =>
    simp only [codexOAuthStep, Option.some.injEq, forall_eq']
    have hcondition : DisablesCurrent store (.updateConnectionStatus connectionId expectedVersion status) ↔
        (status = .disabled → ∀ connection, store.codexOAuthConnections.lookup connectionId = some connection →
          connection.resourceVersion = expectedVersion → ∀ sessionId session,
          store.codexOAuthSessions.lookup sessionId = some session → session.codexOAuthConnectionId = connectionId →
          ActiveCredential store session.upstreamCredentialId →
          connection.upstreamCredentialId = some session.upstreamCredentialId) := by
      cases status <;> simp [DisablesCurrent]
    rw [hcondition]
    rcases updateCodexOAuthConnectionStatus_cases store connectionId expectedVersion status with
      ⟨connection, rfl, hupdated⟩ | ⟨hrefused, hsame⟩
    · rw [hupdated.reaches_iff h hreaches, hupdated.lookup]
      simp only [Option.some.injEq, forall_eq', true_implies]
    · rw [hsame]
      exact iff_of_true hreaches fun _ connection hlookup hversion => absurd hversion (hrefused connection hlookup)

/-- Revocation and disabling reach every created credential, in every state of a run, exactly when the run disables a
connection only while its active credential is the one it remembers. -/
theorem codexRevocation_reaches_iff (gateway : GatewayStore) (connections : Index CodexOAuthConnectionRecord)
    (actions : List CodexOAuthAction) :
    (∀ prior, prior <+: actions → ∀ reached, run codexOAuthStep (.fresh gateway connections) prior = some reached →
      RevocationReaches gateway reached) ↔
    Meets codexOAuthStep DisablesCurrent (.fresh gateway connections) actions :=
  (meets_iff_reached (fun _ _ _ h hstep => codexOAuthStep_linked h hstep)
    (fun _ action h hreaches => codexOAuthStep_reaches_iff h hreaches action)
    (SessionsLinked.fresh gateway connections) (RevocationReaches.fresh gateway connections) actions).symm

end Runs

section Examples

def codexGateway : GatewayStore :=
  { GatewayStore.empty with
    secretRefs := (∅ : Index SecretRefRecord).insert "sec_1"
      ⟨"sec_1", "tenant_1", none, none, .memory, "memory://gateway-secrets/sec_1", .active, 1⟩
    providerEndpoints := (∅ : Index ProviderEndpointRecord).insert "pve_1" ⟨"pve_1", "tenant_1", none, .active, 1⟩ }

def codexConnections : Index CodexOAuthConnectionRecord :=
  (∅ : Index CodexOAuthConnectionRecord).insert "coc_1"
    ⟨"coc_1", "tenant_1", none, "pve_1", none, .unauthenticated, 1⟩

def startToken : StartCodexOAuthSessionRequest := ⟨"tenant_1", "coc_1", "sec_1", none⟩

/-- Two logins of one connection, which is then disabled. -/
def reconnectThenDisable : List CodexOAuthAction :=
  [.startSession startToken ⟨0⟩ "upc_1" "cos_1", .startSession startToken ⟨1⟩ "upc_2" "cos_2",
    .updateConnectionStatus "coc_1" 3 .disabled]

theorem disabledConnection_leavesCredential :
    ∃ reached, run codexOAuthStep (.fresh codexGateway codexConnections) reconnectThenDisable = some reached ∧
      ¬ RevocationReaches codexGateway reached := by
  obtain ⟨reached, hrun⟩ : ∃ reached, run codexOAuthStep (.fresh codexGateway codexConnections) reconnectThenDisable =
      some reached := ⟨_, rfl⟩
  have hlinked : SessionsLinked codexGateway reached :=
    run_invariant_always (fun _ _ _ h hstep => codexOAuthStep_linked h hstep)
      (SessionsLinked.fresh codexGateway codexConnections) hrun
  refine ⟨reached, hrun, fun hreaches => ?_⟩
  cases hrun
  exact hlinked.reaches_iff.mp hreaches "cos_1" _ _ rfl ⟨_, rfl, rfl⟩ rfl rfl

end Examples

end Starweaver.Gateway
