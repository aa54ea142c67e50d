import Mathlib.Data.Set.Function
import Starweaver.Platform.InvitationMachine

namespace Starweaver.Platform

open Library.AssocMap Library.Checks Library.Machine Library.OrderedMap Library.Text

namespace PlatformOrganizationInvitationRecord

/-- What stays of an invitation from its creation on. -/
def lasting (invitation : PlatformOrganizationInvitationRecord) : PlatformOrganizationInvitationRecord :=
  { invitation with status := .pending, acceptedAtUnix := none, resourceVersion := 1, updatedAtUnix := 0 }

end PlatformOrganizationInvitationRecord

def SameInvitation (left right : PlatformOrganizationInvitationRecord) : Prop := left.lasting = right.lasting

/-- The invitation is the one that was created with the token. -/
def Traced (history : List InvitationEvent) (rawToken : String) (invitation : PlatformOrganizationInvitationRecord) :
    Prop :=
  ∃ token origin, .created token origin ∈ history ∧ trim token = trim rawToken ∧ SameInvitation origin invitation

/-- What an acceptance must be, after the events that came before it. -/
structure ProperAcceptance (earlier : List InvitationEvent) (rawToken : String) (actor : AuthenticatedActor)
    (invitation : PlatformOrganizationInvitationRecord) (nowUnix : Int) : Prop where
  traced : Traced earlier rawToken invitation
  first : ∀ token other accepted time, .accepted token other accepted time ∈ earlier → trim token ≠ trim rawToken
  notRevoked : ∀ other, .revoked other ∈ earlier → ¬ SameInvitation other invitation
  inTime : nowUnix < invitation.expiresAtUnix
  principal : invitation.invitedPrincipalId = some actor.principalId
  tenant : invitation.tenantId = actor.tenantId

/-- Every acceptance of the history is proper. -/
def ProperUse : List InvitationEvent → Prop
  | [] => True
  | .accepted rawToken actor invitation nowUnix :: earlier =>
    ProperAcceptance earlier rawToken actor invitation nowUnix ∧ ProperUse earlier
  | _ :: earlier => ProperUse earlier

section Same

variable {left right third : PlatformOrganizationInvitationRecord}

theorem SameInvitation.refl (invitation : PlatformOrganizationInvitationRecord) : SameInvitation invitation invitation :=
  rfl

theorem SameInvitation.symm (h : SameInvitation left right) : SameInvitation right left := Eq.symm h

theorem SameInvitation.trans (h : SameInvitation left right) (h' : SameInvitation right third) :
    SameInvitation left third := Eq.trans h h'

theorem SameInvitation.field {α : Type} (h : SameInvitation left right)
    (field : PlatformOrganizationInvitationRecord → α) (hlasting : ∀ invitation, field invitation.lasting = field invitation) :
    field left = field right := by
  rw [← hlasting left, ← hlasting right]
  exact congrArg field h

theorem SameInvitation.id_eq (h : SameInvitation left right) : left.invitationId = right.invitationId :=
  h.field (·.invitationId) fun _ => rfl

theorem SameInvitation.hash_eq (h : SameInvitation left right) : left.invitationTokenHash = right.invitationTokenHash :=
  h.field (·.invitationTokenHash) fun _ => rfl

theorem SameInvitation.tenant_eq (h : SameInvitation left right) : left.tenantId = right.tenantId :=
  h.field (·.tenantId) fun _ => rfl

theorem sameInvitation_revoked (invitation : PlatformOrganizationInvitationRecord) (nowUnix : Int) :
    SameInvitation invitation (revoked invitation nowUnix) := rfl

theorem sameInvitation_accepted (invitation : PlatformOrganizationInvitationRecord) (nowUnix : Int) :
    SameInvitation invitation (accepted invitation nowUnix) := rfl

theorem Traced.same {history : List InvitationEvent} {rawToken : String} (h : Traced history rawToken left)
    (hsame : SameInvitation left right) : Traced history rawToken right := by
  obtain ⟨token, origin, hcreated, htoken, horigin⟩ := h
  exact ⟨token, origin, hcreated, htoken, horigin.trans hsame⟩

theorem Traced.mono {history later : List InvitationEvent} {rawToken : String} (h : Traced history rawToken left)
    (hsub : history ⊆ later) : Traced later rawToken left := by
  obtain ⟨token, origin, hcreated, htoken, horigin⟩ := h
  exact ⟨token, origin, hsub hcreated, htoken, horigin⟩

end Same

/-- The acceptance that is under way would accept no other invitation than the one that it has looked up. -/
def StillMeant (invitations : Index PlatformOrganizationInvitationRecord) (actor : AuthenticatedActor)
    (looked : PlatformOrganizationInvitationRecord) : Prop :=
  ∀ invitation, invitations.lookup looked.invitationId = some invitation →
    invitation.invitedPrincipalId = some actor.principalId → SameInvitation looked invitation

/-- The invitation that an acceptance has looked up and not yet accepted. -/
def AcceptPhase.lookedUp : AcceptPhase → Option (AuthenticatedActor × PlatformOrganizationInvitationRecord)
  | .check actor _ invitation | .accept actor _ invitation => some (actor, invitation)
  | _ => none

/-- The raw token that the step draws or presents is one of the tokens. -/
def InvitationStep.UsesTokens (tokens : Set String) : InvitationStep → Prop
  | .create _ _ _ _ _ rawToken | .comeIn _ _ rawToken => trim rawToken ∈ tokens
  | _ => True

/-- No invitation for the principal of an acceptance takes the id that the acceptance has looked up. -/
def InvitationStep.SparesLookedUp (env : PlatformEnv) (machine : InvitationMachine) : InvitationStep → Prop
  | .create actor organizationId request nowUnix newId rawToken => ∀ store invitation,
      createOrganizationInvitation env machine.store actor organizationId request nowUnix newId rawToken = .ok store →
      organizationInvitationRecordFromCreateRequest env actor request organizationId nowUnix newId rawToken =
        .ok invitation →
      ∀ id phase, machine.calls.lookup id = some phase → ∀ acceptor looked, phase.lookedUp = some (acceptor, looked) →
        looked.invitationId = invitation.invitationId → invitation.invitedPrincipalId ≠ some acceptor.principalId
  | _ => True

section Invariant

variable (env : PlatformEnv) (tokens : Set String)

structure LookupSound (invitations : Index PlatformOrganizationInvitationRecord) (history : List InvitationEvent)
    (actor : AuthenticatedActor) (rawToken : String) (looked : PlatformOrganizationInvitationRecord) : Prop where
  token : trim rawToken ∈ tokens
  traced : Traced history rawToken looked
  meant : StillMeant invitations actor looked

def AcceptPhase.Sound (invitations : Index PlatformOrganizationInvitationRecord) (history : List InvitationEvent) :
    AcceptPhase → Prop
  | .lookup _ rawToken => trim rawToken ∈ tokens
  | .check actor rawToken looked => LookupSound tokens invitations history actor rawToken looked
  | .accept actor rawToken looked =>
    LookupSound tokens invitations history actor rawToken looked ∧ looked.tenantId = actor.tenantId
  | _ => True

/-- A phase stays sound where the invitation it has looked up does. -/
theorem AcceptPhase.Sound.mono {tokens : Set String} {invitations later : Index PlatformOrganizationInvitationRecord}
    {history events : List InvitationEvent} {phase : AcceptPhase} (h : phase.Sound tokens invitations history)
    (hmono : ∀ actor rawToken looked, phase.lookedUp = some (actor, looked) →
      LookupSound tokens invitations history actor rawToken looked →
        LookupSound tokens later events actor rawToken looked) :
    phase.Sound tokens later events := by
  cases phase with
  | lookup actor rawToken => exact h
  | check actor rawToken looked => exact hmono actor rawToken looked rfl h
  | accept actor rawToken looked => exact ⟨hmono actor rawToken looked rfl h.1, h.2⟩
  | joinOrganization | joinProject | returned => exact trivial

structure InvitationInvariant (machine : InvitationMachine) : Prop where
  keyed : Keyed (·.invitationId) machine.store.invitations
  proper : ProperUse machine.history
  created : ∀ token origin, .created token origin ∈ machine.history →
    trim token ∈ tokens ∧ origin.invitationTokenHash = env.hashInvitationToken (trim token)
  distinct : ∀ token origin token' origin', .created token origin ∈ machine.history →
    .created token' origin' ∈ machine.history → trim token = trim token' → origin = origin'
  stored : ∀ id invitation, machine.store.invitations.lookup id = some invitation →
    ∃ token origin, .created token origin ∈ machine.history ∧ SameInvitation origin invitation
  accepted : ∀ token actor invitation time, .accepted token actor invitation time ∈ machine.history →
    trim token ∈ tokens ∧ TokenDrawn machine.history token ∧ ∀ id found, machine.store.invitations.lookup id = some found →
      found.invitationTokenHash = env.hashInvitationToken (trim token) → found.status ≠ .pending
  revoked : ∀ invitation, .revoked invitation ∈ machine.history →
    (∃ token origin, .created token origin ∈ machine.history ∧ SameInvitation origin invitation) ∧
      ∀ id found, machine.store.invitations.lookup id = some found →
        found.invitationTokenHash = invitation.invitationTokenHash → found.status ≠ .pending
  calls : ∀ id phase, machine.calls.lookup id = some phase →
    phase.Sound tokens machine.store.invitations machine.history

theorem InvitationInvariant.start {store : AccessStore} (hempty : store.invitations = ∅) :
    InvitationInvariant env tokens (.start store) where
  keyed := hempty ▸ Keyed.empty _
  proper := trivial
  created _ _ h := by cases h
  distinct _ _ _ _ h := by cases h
  stored id invitation h := by
    rw [InvitationMachine.start, hempty] at h
    cases h
  accepted _ _ _ _ h := by cases h
  revoked _ h := by cases h
  calls _ _ h := by cases h

variable {env tokens} {machine : InvitationMachine}

/-- Two stored invitations of one token are one. -/
theorem InvitationInvariant.hash_unique (h : InvitationInvariant env tokens machine)
    (hfree : Set.InjOn env.hashInvitationToken tokens) {id other : String}
    {invitation found : PlatformOrganizationInvitationRecord}
    (hinvitation : machine.store.invitations.lookup id = some invitation)
    (hfound : machine.store.invitations.lookup other = some found)
    (hhash : found.invitationTokenHash = invitation.invitationTokenHash) : other = id := by
  obtain ⟨token, origin, hcreated, hsame⟩ := h.stored id invitation hinvitation
  obtain ⟨token', origin', hcreated', hsame'⟩ := h.stored other found hfound
  obtain ⟨htoken, horigin⟩ := h.created token origin hcreated
  obtain ⟨htoken', horigin'⟩ := h.created token' origin' hcreated'
  have htokens : trim token' = trim token := by
    refine hfree htoken' htoken ?_
    rw [← horigin, ← horigin', hsame'.hash_eq, hhash, hsame.hash_eq]
  have horigins := h.distinct token' origin' token origin hcreated' hcreated htokens
  have hid : invitation.invitationId = id := h.keyed id invitation hinvitation
  have hother : found.invitationId = other := h.keyed other found hfound
  rw [← hid, ← hother, ← hsame.id_eq, ← hsame'.id_eq, horigins]

end Invariant

section Create

variable {env : PlatformEnv} {tokens : Set String} {machine : InvitationMachine}

/-- A create that goes through stores the invitation of its request, pending and under the hash of its token. -/
theorem createOrganizationInvitation_record {store : AccessStore} {actor : AuthenticatedActor}
    {organizationId newId rawToken : String} {request : CreateOrganizationInvitationRequest} {nowUnix : Int}
    {invitation : PlatformOrganizationInvitationRecord}
    (hcreate : createOrganizationInvitation env machine.store actor organizationId request nowUnix newId rawToken =
      .ok store)
    (hrecord : organizationInvitationRecordFromCreateRequest env actor request organizationId nowUnix newId rawToken =
      .ok invitation) :
    store = { machine.store with invitations := machine.store.invitations.insert invitation.invitationId invitation } := by
  obtain ⟨resource, -, hauthorized⟩ := bind_ok.mp hcreate
  obtain ⟨-, hrequested⟩ := bind_unit_ok.mp hauthorized
  obtain ⟨found, hfound, hstored⟩ := bind_ok.mp hrequested
  obtain ⟨invitations, hinvitations, hstore⟩ := bind_ok.mp hstored
  obtain ⟨-, hinserted⟩ := bind_unit_ok.mp (mapError_ok.mp hinvitations)
  have hsame : invitation = found := Except.ok.inj (hrecord.symm.trans hfound)
  cases hstore
  cases hinserted
  rw [hsame]

theorem organizationInvitationRecordFromCreateRequest_hash {actor : AuthenticatedActor}
    {organizationId newId rawToken : String} {request : CreateOrganizationInvitationRequest} {nowUnix : Int}
    {invitation : PlatformOrganizationInvitationRecord}
    (h : organizationInvitationRecordFromCreateRequest env actor request organizationId nowUnix newId rawToken =
      .ok invitation) : invitation.invitationTokenHash = env.hashInvitationToken (trim rawToken) := by
  unfold organizationInvitationRecordFromCreateRequest at h
  simp only at h
  split at h
  · cases h
  split at h
  · cases h
  split at h
  · cases h
  split at h
  · cases h
  split at h
  · cases h
  split at h
  · cases h
  cases h
  rfl

theorem InvitationInvariant.create (h : InvitationInvariant env tokens machine)
    (hfree : Set.InjOn env.hashInvitationToken tokens) {rawToken : String} (htoken : trim rawToken ∈ tokens)
    (hnew : ¬ TokenDrawn machine.history rawToken) {invitation : PlatformOrganizationInvitationRecord}
    (hhash : invitation.invitationTokenHash = env.hashInvitationToken (trim rawToken))
    (hspares : ∀ id phase, machine.calls.lookup id = some phase → ∀ acceptor looked,
      phase.lookedUp = some (acceptor, looked) → looked.invitationId = invitation.invitationId →
        invitation.invitedPrincipalId ≠ some acceptor.principalId) :
    InvitationInvariant env tokens { machine with
      store := { machine.store with
        invitations := machine.store.invitations.insert invitation.invitationId invitation }
      history := .created rawToken invitation :: machine.history } := by
  refine ⟨h.keyed.insert rfl, h.proper, ?_, ?_, ?_, ?_, ?_, ?_⟩
  · intro token origin hcreated
    rcases List.mem_cons.mp hcreated with heq | hold
    · cases heq
      exact ⟨htoken, hhash⟩
    · exact h.created token origin hold
  · intro token origin token' origin' hcreated hcreated' hsame
    rcases List.mem_cons.mp hcreated with heq | hold
    · rcases List.mem_cons.mp hcreated' with heq' | hold'
      · cases heq
        cases heq'
        rfl
      · cases heq
        exact (hnew ⟨token', origin', hold', hsame.symm⟩).elim
    · rcases List.mem_cons.mp hcreated' with heq' | hold'
      · cases heq'
        exact (hnew ⟨token, origin, hold, hsame⟩).elim
      · exact h.distinct token origin token' origin' hold hold' hsame
  · intro id found hfound
    rcases insert_some hfound with ⟨-, rfl⟩ | ⟨-, hold⟩
    · exact ⟨rawToken, found, List.mem_cons_self, .refl _⟩
    · obtain ⟨token, origin, hcreated, hsame⟩ := h.stored id found hold
      exact ⟨token, origin, List.mem_cons_of_mem _ hcreated, hsame⟩
  · intro token actor accepted time hevent
    rcases List.mem_cons.mp hevent with heq | hold
    · cases heq
    obtain ⟨hmem, ⟨drawn, origin, hcreated, hdrawn⟩, hclosed⟩ := h.accepted token actor accepted time hold
    refine ⟨hmem, ⟨drawn, origin, List.mem_cons_of_mem _ hcreated, hdrawn⟩, fun id found hfound hsame => ?_⟩
    rcases insert_some hfound with ⟨-, rfl⟩ | ⟨-, hstored⟩
    · -- A fresh token has the hash of no token that was accepted.
      have heq : trim token = trim rawToken := hfree hmem htoken (hsame.symm.trans hhash)
      exact (hnew ⟨drawn, origin, hcreated, hdrawn.trans heq⟩).elim
    · exact hclosed id found hstored hsame
  · intro revoked hevent
    rcases List.mem_cons.mp hevent with heq | hold
    · cases heq
    obtain ⟨⟨token, origin, hcreated, horigin⟩, hclosed⟩ := h.revoked revoked hold
    refine ⟨⟨token, origin, List.mem_cons_of_mem _ hcreated, horigin⟩, fun id found hfound hsame => ?_⟩
    rcases insert_some hfound with ⟨-, rfl⟩ | ⟨-, hstored⟩
    · obtain ⟨hmem, horiginHash⟩ := h.created token origin hcreated
      have heq : trim token = trim rawToken := by
        refine hfree hmem htoken ?_
        rw [← horiginHash, horigin.hash_eq, ← hsame, hhash]
      exact (hnew ⟨token, origin, hcreated, heq⟩).elim
    · exact hclosed id found hstored hsame
  · intro id phase hphase
    refine (h.calls id phase hphase).mono fun acceptor token looked hlooked hsound => ?_
    refine ⟨hsound.token, hsound.traced.mono (List.subset_cons_self _ _), fun found hfound hprincipal => ?_⟩
    rcases insert_some hfound with ⟨hid, rfl⟩ | ⟨-, hold⟩
    · exact (hspares id phase hphase acceptor looked hlooked hid hprincipal).elim
    · exact hsound.meant found hold hprincipal

end Create

section Close

variable {env : PlatformEnv} {tokens : Set String} {machine : InvitationMachine}

theorem ProperUse.mem {history : List InvitationEvent} (h : ProperUse history) {rawToken : String}
    {actor : AuthenticatedActor} {invitation : PlatformOrganizationInvitationRecord} {nowUnix : Int}
    (hevent : .accepted rawToken actor invitation nowUnix ∈ history) : Traced history rawToken invitation := by
  induction history with
  | nil => cases hevent
  | cons event earlier ih =>
    have hsub : earlier ⊆ event :: earlier := List.subset_cons_self _ _
    rcases List.mem_cons.mp hevent with rfl | hold
    · exact h.1.traced.mono hsub
    · cases event with
      | created | revoked => exact (ih h hold).mono hsub
      | accepted => exact (ih h.2 hold).mono hsub

/-- The event of a step that closes an invitation. -/
inductive ClosingEvent (tokens : Set String) (earlier : List InvitationEvent)
    (closed : PlatformOrganizationInvitationRecord) : InvitationEvent → Prop
  | revoked : ClosingEvent tokens earlier closed (.revoked closed)
  | accepted (rawToken : String) (actor : AuthenticatedActor) (nowUnix : Int) (htoken : trim rawToken ∈ tokens)
    (hproper : ProperAcceptance earlier rawToken actor closed nowUnix) :
    ClosingEvent tokens earlier closed (.accepted rawToken actor closed nowUnix)

theorem ClosingEvent.proper {earlier : List InvitationEvent} {closed : PlatformOrganizationInvitationRecord}
    {event : InvitationEvent} (h : ClosingEvent tokens earlier closed event) (hearlier : ProperUse earlier) :
    ProperUse (event :: earlier) := by
  cases h with
  | revoked => exact hearlier
  | accepted rawToken actor nowUnix htoken hproper => exact ⟨hproper, hearlier⟩

/-- A pending invitation that is closed stays closed for its token. -/
theorem InvitationInvariant.close (h : InvitationInvariant env tokens machine)
    (hfree : Set.InjOn env.hashInvitationToken tokens) {id : String}
    {before closed : PlatformOrganizationInvitationRecord}
    (hbefore : machine.store.invitations.lookup id = some before) (hsame : SameInvitation before closed)
    (hclosed : closed.status ≠ .pending) {event : InvitationEvent}
    (hevent : ClosingEvent tokens machine.history closed event) :
    InvitationInvariant env tokens { machine with
      store := { machine.store with invitations := machine.store.invitations.insert id closed }
      history := event :: machine.history } := by
  have hsub : machine.history ⊆ event :: machine.history := List.subset_cons_self _ _
  have hcreated {token : String} {origin : PlatformOrganizationInvitationRecord}
      (hmem : .created token origin ∈ event :: machine.history) : .created token origin ∈ machine.history := by
    rcases List.mem_cons.mp hmem with heq | hold
    · cases hevent <;> cases heq
    · exact hold
  have hbeforeId : before.invitationId = id := h.keyed id before hbefore
  have hid : closed.invitationId = id := hsame.id_eq.symm.trans hbeforeId
  obtain ⟨token, origin, horigin, hsameOrigin⟩ := h.stored id before hbefore
  obtain ⟨-, horiginHash⟩ := h.created token origin horigin
  -- No invitation with the token of the closed one is pending in the new store.
  have hhash {other : String} {found : PlatformOrganizationInvitationRecord}
      (hfound : (machine.store.invitations.insert id closed).lookup other = some found)
      (heq : found.invitationTokenHash = closed.invitationTokenHash) : found.status ≠ .pending := by
    rcases insert_some hfound with ⟨-, rfl⟩ | ⟨hne, hold⟩
    · exact hclosed
    · exact (hne (h.hash_unique hfree hbefore hold (heq.trans hsame.hash_eq.symm))).elim
  refine ⟨h.keyed.insert hid, hevent.proper h.proper, ?_, ?_, ?_, ?_, ?_, ?_⟩
  · exact fun token origin hmem => h.created token origin (hcreated hmem)
  · exact fun token origin token' origin' hmem hmem' => h.distinct token origin token' origin' (hcreated hmem) (hcreated hmem')
  · intro other found hfound
    rcases insert_some hfound with ⟨-, rfl⟩ | ⟨-, hold⟩
    · exact ⟨token, origin, hsub horigin, hsameOrigin.trans hsame⟩
    · obtain ⟨token', origin', horigin', hsame'⟩ := h.stored other found hold
      exact ⟨token', origin', hsub horigin', hsame'⟩
  · intro rawToken actor invitation time hmem
    rcases List.mem_cons.mp hmem with heq | hold
    · subst heq
      cases hevent with
      | accepted _ _ _ htoken hproper =>
        obtain ⟨token', origin', horigin', htokens, hsame'⟩ := hproper.traced
        obtain ⟨-, hhash'⟩ := h.created token' origin' horigin'
        refine ⟨htoken, ⟨token', origin', hsub horigin', htokens⟩, fun other found hfound heq => hhash hfound ?_⟩
        rw [heq, ← hsame'.hash_eq, hhash', htokens]
    · obtain ⟨htoken, ⟨token', origin', horigin', htokens⟩, hstays⟩ := h.accepted rawToken actor invitation time hold
      refine ⟨htoken, ⟨token', origin', hsub horigin', htokens⟩, fun other found hfound heq => ?_⟩
      rcases insert_some hfound with ⟨-, rfl⟩ | ⟨-, hstored⟩
      · exact hclosed
      · exact hstays other found hstored heq
  · intro invitation hmem
    rcases List.mem_cons.mp hmem with heq | hold
    · subst heq
      cases hevent with
      | revoked =>
        exact ⟨⟨token, origin, hsub horigin, hsameOrigin.trans hsame⟩, fun other found hfound heq => hhash hfound heq⟩
    · obtain ⟨⟨token', origin', horigin', hsame'⟩, hstays⟩ := h.revoked invitation hold
      refine ⟨⟨token', origin', hsub horigin', hsame'⟩, fun other found hfound heq => ?_⟩
      rcases insert_some hfound with ⟨-, rfl⟩ | ⟨-, hstored⟩
      · exact hclosed
      · exact hstays other found hstored heq
  · intro call phase hphase
    refine (h.calls call phase hphase).mono fun actor rawToken looked _ hsound => ?_
    refine ⟨hsound.token, hsound.traced.mono hsub, fun found hfound hprincipal => ?_⟩
    rcases insert_some hfound with ⟨hlooked, rfl⟩ | ⟨-, hold⟩
    · have hold : machine.store.invitations.lookup looked.invitationId = some before := by rw [hlooked, hbefore]
      refine (hsound.meant before hold ?_).trans hsame
      exact (hsame.field (·.invitedPrincipalId) fun _ => rfl).trans hprincipal
    · exact hsound.meant found hold hprincipal

theorem InvitationInvariant.call (h : InvitationInvariant env tokens machine) (id : Nat) {phase : AcceptPhase}
    (hsound : phase.Sound tokens machine.store.invitations machine.history) :
    InvitationInvariant env tokens { machine with calls := machine.calls.insert id phase } := by
  refine { h with calls := fun other found hfound => ?_ }
  rcases insert_some hfound with ⟨-, rfl⟩ | ⟨-, hold⟩
  · exact hsound
  · exact h.calls other found hold

theorem InvitationInvariant.memberships (h : InvitationInvariant env tokens machine) (memberships : MembershipStore) :
    InvitationInvariant env tokens { machine with store := { machine.store with memberships } } := { h with }

end Close

section Steps

variable {env : PlatformEnv} {tokens : Set String} {machine next : InvitationMachine}

theorem organizationInvitationByRawToken_ok (hkeyed : Keyed (·.invitationId) machine.store.invitations)
    {rawToken : String} {invitation : PlatformOrganizationInvitationRecord}
    (h : organizationInvitationByRawToken env machine.store rawToken = .ok invitation) :
    machine.store.invitations.lookup invitation.invitationId = some invitation ∧
      invitation.invitationTokenHash = env.hashInvitationToken (trim rawToken) := by
  unfold organizationInvitationByRawToken at h
  split at h
  · cases h
  split at h
  · cases h
  rename_i found hfound
  cases h
  obtain ⟨entry, hentry, rfl⟩ := Option.map_eq_some_iff.mp hfound
  obtain ⟨hlookup, hhash⟩ := hkeyed.findOrdered hentry
  exact ⟨hlookup, eq_of_beq hhash⟩

theorem InvitationInvariant.lookup (h : InvitationInvariant env tokens machine)
    (hfree : Set.InjOn env.hashInvitationToken tokens) {actor : AuthenticatedActor} {rawToken : String}
    (htoken : trim rawToken ∈ tokens) {invitation : PlatformOrganizationInvitationRecord}
    (hfound : organizationInvitationByRawToken env machine.store rawToken = .ok invitation) :
    LookupSound tokens machine.store.invitations machine.history actor rawToken invitation := by
  obtain ⟨hlookup, hhash⟩ := organizationInvitationByRawToken_ok h.keyed hfound
  obtain ⟨token, origin, hcreated, hsame⟩ := h.stored _ invitation hlookup
  obtain ⟨hdrawn, horigin⟩ := h.created token origin hcreated
  have htokens : trim token = trim rawToken := by
    refine hfree hdrawn htoken ?_
    rw [← horigin, hsame.hash_eq, hhash]
  refine ⟨htoken, ⟨token, origin, hcreated, htokens, hsame⟩, fun other hother _ => ?_⟩
  cases hlookup.symm.trans hother
  exact .refl _

/-- The accepted invitation is the one that was looked up, still pending and never accepted or revoked before. -/
theorem InvitationInvariant.proper_accept (h : InvitationInvariant env tokens machine) {actor : AuthenticatedActor}
    {rawToken : String} {looked before : PlatformOrganizationInvitationRecord} {nowUnix : Int}
    (hsound : LookupSound tokens machine.store.invitations machine.history actor rawToken looked)
    (htenant : looked.tenantId = actor.tenantId)
    (hbefore : machine.store.invitations.lookup looked.invitationId = some before) (hpending : before.status = .pending)
    (htime : nowUnix < before.expiresAtUnix) (hprincipal : before.invitedPrincipalId = some actor.principalId) :
    ProperAcceptance machine.history rawToken actor (Platform.accepted before nowUnix) nowUnix := by
  have hsame := hsound.meant before hbefore hprincipal
  obtain ⟨token, origin, hcreated, htokens, horigin⟩ := hsound.traced
  obtain ⟨-, hhash⟩ := h.created token origin hcreated
  have hbeforeHash : before.invitationTokenHash = env.hashInvitationToken (trim rawToken) := by
    rw [← hsame.hash_eq, ← horigin.hash_eq, hhash, htokens]
  refine ⟨⟨token, origin, hcreated, htokens, horigin.trans hsame⟩, ?_, ?_, htime, hprincipal, ?_⟩
  · intro other acceptor invitation time hevent heq
    obtain ⟨-, -, hclosed⟩ := h.accepted other acceptor invitation time hevent
    exact hclosed _ before hbefore (by rw [hbeforeHash, heq]) hpending
  · intro other hevent hother
    obtain ⟨-, hclosed⟩ := h.revoked other hevent
    exact hclosed _ before hbefore hother.hash_eq.symm hpending
  · exact hsame.tenant_eq.symm.trans htenant

theorem AcceptPhase.next_sound {α : Type} {invitations : Index PlatformOrganizationInvitationRecord}
    {history : List InvitationEvent} {answer : Result α} {phase : α → AcceptPhase}
    (h : ∀ value, answer = .ok value → (phase value).Sound tokens invitations history) :
    (AcceptPhase.next answer phase).Sound tokens invitations history := by
  cases answer with
  | error error => exact trivial
  | ok value => exact h value rfl

theorem InvitationInvariant.advance (h : InvitationInvariant env tokens machine)
    (hfree : Set.InjOn env.hashInvitationToken tokens) {id : Nat} {phase : AcceptPhase} (draws : Draws)
    (hphase : machine.calls.lookup id = some phase) :
    InvitationInvariant env tokens
      { store := (phase.advance env machine.store draws).1
        calls := machine.calls.insert id (phase.advance env machine.store draws).2.1
        history := (phase.advance env machine.store draws).2.2.toList ++ machine.history } := by
  have hsound := h.calls id phase hphase
  cases phase with
  | lookup actor rawToken =>
    rw [AcceptPhase.advance]
    cases hfound : organizationInvitationByRawToken env machine.store rawToken with
    | error error => exact h.call id trivial
    | ok invitation => exact h.call id (h.lookup hfree hsound hfound)
  | check actor rawToken looked =>
    rw [AcceptPhase.advance]
    refine h.call id (AcceptPhase.next_sound fun _ hmatches => ⟨hsound, ?_⟩)
    unfold ensureActorMatchesInvitation at hmatches
    split at hmatches
    · cases hmatches
    · rename_i htenant
      exact (not_not.mp htenant).symm
  | accept actor rawToken looked =>
    rw [AcceptPhase.advance]
    cases haccept : acceptInvitation machine.store.invitations (acceptRequest draws actor looked) with
    | error error => exact h.call id trivial
    | ok pair =>
      obtain ⟨invitation, invitations⟩ := pair
      obtain ⟨before, hbefore, hpending, htime, hprincipal, rfl, rfl⟩ := acceptInvitation_ok haccept
      have hproper := h.proper_accept hsound.1 hsound.2 hbefore hpending htime hprincipal
      have hclosed := h.close hfree hbefore (sameInvitation_accepted before draws.nowUnix) (fun heq => by cases heq)
        (.accepted rawToken actor draws.nowUnix hsound.1.token hproper)
      exact hclosed.call id trivial
  | joinOrganization actor accepted organizationMemberId projectMemberId =>
    rw [AcceptPhase.advance]
    refine (h.memberships _).call id (AcceptPhase.next_sound fun member _ => ?_)
    cases accepted.projectId <;> exact trivial
  | joinProject actor accepted projectId organizationMember projectMemberId =>
    cases projectMemberId with
    | none => exact h.call id trivial
    | some projectMemberId =>
      rw [AcceptPhase.advance]
      exact (h.memberships _).call id (AcceptPhase.next_sound fun _ _ => trivial)
  | returned answer => exact h.call id trivial

theorem InvitationInvariant.step (h : InvitationInvariant env tokens machine)
    (hfree : Set.InjOn env.hashInvitationToken tokens) {action : InvitationStep}
    (hspares : action.SparesLookedUp env machine) (htokens : action.UsesTokens tokens)
    (hstep : machine.step env action = some next) : InvitationInvariant env tokens next := by
  cases action with
  | create actor organizationId request nowUnix newId rawToken =>
    simp only [InvitationMachine.step] at hstep
    split at hstep
    · cases hstep
    rename_i hnew
    split at hstep
    · rename_i store invitation hcreate hrecord
      cases hstep
      have hstore := createOrganizationInvitation_record hcreate hrecord
      have hhash := organizationInvitationRecordFromCreateRequest_hash hrecord
      have hcreated := h.create hfree htokens hnew hhash (hspares store invitation hcreate hrecord)
      rw [hstore]
      exact hcreated
    · cases hstep
      exact h
  | revoke actor organizationId invitationId expectedVersion nowUnix =>
    simp only [InvitationMachine.step] at hstep
    split at hstep
    · rename_i invitation invitations hrevoke
      cases hstep
      obtain ⟨member, -, hrevoke⟩ := bind_ok.mp hrevoke
      obtain ⟨-, hrevoke⟩ := bind_unit_ok.mp hrevoke
      obtain ⟨before, hbefore, -, -, rfl, rfl⟩ := revokeInvitation_ok (mapError_ok.mp hrevoke)
      exact h.close hfree hbefore (sameInvitation_revoked before nowUnix) (fun heq => by cases heq) .revoked
    · cases hstep
      exact h
  | comeIn id actor rawToken =>
    simp only [InvitationMachine.step] at hstep
    split at hstep
    · cases hstep
    cases hstep
    refine h.call id ?_
    split
    · exact htokens
    · exact trivial
  | advance id draws =>
    obtain ⟨phase, hphase, rfl⟩ := Option.map_eq_some_iff.mp hstep
    exact h.advance hfree draws hphase

end Steps

/-- Invitations are single-use and bound to their token over every interleaving in which no invitation for the
principal of an acceptance takes the id that the acceptance has looked up. -/
theorem invitations_properUse {env : PlatformEnv} {tokens : Set String}
    (hfree : Set.InjOn env.hashInvitationToken tokens) {store : AccessStore} (hempty : store.invitations = ∅)
    {steps : List InvitationStep} {final : InvitationMachine}
    (hmeets : Meets (InvitationMachine.step env)
      (fun machine step => step.SparesLookedUp env machine ∧ step.UsesTokens tokens) (.start store) steps)
    (hrun : run (InvitationMachine.step env) (.start store) steps = some final) : ProperUse final.history := by
  have hstep (machine : InvitationMachine) (step : InvitationStep) (next : InvitationMachine)
      (hinv : InvitationInvariant env tokens machine)
      (hcondition : step.SparesLookedUp env machine ∧ step.UsesTokens tokens)
      (hnext : machine.step env step = some next) : InvitationInvariant env tokens next :=
    hinv.step hfree hcondition.1 hcondition.2 hnext
  exact (run_invariant hstep (.start env tokens hempty) hmeets hrun).proper

section Examples

def tokenDigest (token : String) : String :=
  String.ofList (List.replicate 64 (if token = "swp_inv_a" then 'a' else 'b'))

def invitingEnv : PlatformEnv := ⟨[], tokenDigest⟩

/-- An organization whose administrator invites a second user. -/
def invitingStore : AccessStore where
  memberships :=
    { organizationMembers := (∅ : Index PlatformOrganizationMembershipRecord).insert "om_a"
        ⟨"om_a", "ten_t", "org_a", "usr_a", "user", .active, 1⟩
      projectMembers := ∅ }
  roleBindings := (∅ : Index PlatformRoleBindingRecord).insert "rb_a"
    ⟨"rb_a", "ten_t", some "org_a", none, "usr_a", "organization_admin", .active, 1⟩
  invitations := ∅

def inviter : AuthenticatedActor := ⟨"ten_t", none, none, "usr_a", .user⟩

def invitee : AuthenticatedActor := ⟨"ten_t", none, none, "usr_b", .user⟩

def invite (projectId : Option String) (rawToken : String) : InvitationStep :=
  .create inviter "org_a" ⟨some "inv_x", projectId, none, some "usr_b", none, some 100⟩ 10 "inv_n" rawToken

def acceptStep : InvitationStep := .advance 0 ⟨20, "om_b", "pm_b"⟩

def invitation (projectId : Option String) (digest : Char) (status : PlatformInvitationStatus)
    (acceptedAtUnix : Option Int) (resourceVersion updatedAtUnix : Int) : PlatformOrganizationInvitationRecord :=
  ⟨"inv_x", "ten_t", "org_a", projectId, none, some "usr_b", String.ofList (List.replicate 64 digest),
    "organization_member", status, 100, acceptedAtUnix, "usr_a", resourceVersion, 10, updatedAtUnix⟩

theorem tokenDigest_injOn : Set.InjOn tokenDigest {"swp_inv_a", "swp_inv_b"} := by
  rintro token (rfl | rfl) other (rfl | rfl) heq
  · rfl
  · exact absurd heq (by decide +kernel)
  · exact absurd heq (by decide +kernel)
  · rfl

theorem acceptedInvitation_properUse :
    ∃ final, run (InvitationMachine.step invitingEnv) (.start invitingStore)
        [invite none "swp_inv_a", .comeIn 0 invitee "swp_inv_a", acceptStep, acceptStep, acceptStep] = some final ∧
      .accepted "swp_inv_a" invitee (invitation none 'a' .accepted (some 20) 2 20) 20 ∈ final.history ∧
      ProperUse final.history := by
  have hhistory : (run (InvitationMachine.step invitingEnv) (.start invitingStore)
      [invite none "swp_inv_a", .comeIn 0 invitee "swp_inv_a", acceptStep, acceptStep, acceptStep]).map (·.history) =
        some [.accepted "swp_inv_a" invitee (invitation none 'a' .accepted (some 20) 2 20) 20,
          .created "swp_inv_a" (invitation none 'a' .pending none 1 10)] := by decide +kernel
  obtain ⟨final, hrun, hfinal⟩ := Option.map_eq_some_iff.mp hhistory
  refine ⟨final, hrun, by rw [hfinal]; exact List.mem_cons_self, ?_⟩
  have htoken : trim "swp_inv_a" ∈ ({"swp_inv_a", "swp_inv_b"} : Set String) := .inl (by decide +kernel)
  have hmeets : Meets (InvitationMachine.step invitingEnv)
      (fun machine step => step.SparesLookedUp invitingEnv machine ∧ step.UsesTokens {"swp_inv_a", "swp_inv_b"})
      (.start invitingStore)
      [invite none "swp_inv_a", .comeIn 0 invitee "swp_inv_a", acceptStep, acceptStep, acceptStep] := by
    have hfirst : (invite none "swp_inv_a").SparesLookedUp invitingEnv (.start invitingStore) := by
      intro store record _ _ id phase hphase
      cases hphase
    refine ⟨⟨hfirst, htoken⟩, fun _ _ => ?_⟩
    refine ⟨⟨trivial, htoken⟩, fun _ _ => ⟨⟨trivial, trivial⟩, fun _ _ => ⟨⟨trivial, trivial⟩, fun _ _ => ?_⟩⟩⟩
    exact ⟨⟨trivial, trivial⟩, fun _ _ => trivial⟩
  exact invitations_properUse tokenDigest_injOn rfl hmeets hrun

/-- The acceptance of a revoked invitation takes the one that was created under its id in between. -/
theorem reusedInvitation_accepted :
    invitingStore.invitations = ∅ ∧ Set.InjOn invitingEnv.hashInvitationToken {"swp_inv_a", "swp_inv_b"} ∧
    ∃ final, run (InvitationMachine.step invitingEnv) (.start invitingStore)
        [invite (some "prj_a") "swp_inv_a", .comeIn 0 invitee "swp_inv_a", acceptStep, acceptStep,
          .revoke inviter "org_a" "inv_x" 1 15, invite (some "prj_a") "swp_inv_b", acceptStep] = some final ∧
      ¬ ProperUse final.history := by
  refine ⟨rfl, tokenDigest_injOn, ?_⟩
  have hhistory : (run (InvitationMachine.step invitingEnv) (.start invitingStore)
      [invite (some "prj_a") "swp_inv_a", .comeIn 0 invitee "swp_inv_a", acceptStep, acceptStep,
        .revoke inviter "org_a" "inv_x" 1 15, invite (some "prj_a") "swp_inv_b", acceptStep]).map (·.history) =
      some [.accepted "swp_inv_a" invitee (invitation (some "prj_a") 'b' .accepted (some 20) 2 20) 20,
        .created "swp_inv_b" (invitation (some "prj_a") 'b' .pending none 1 10),
        .revoked (invitation (some "prj_a") 'a' .revoked none 2 15),
        .created "swp_inv_a" (invitation (some "prj_a") 'a' .pending none 1 10)] := by decide +kernel
  obtain ⟨final, hrun, hfinal⟩ := Option.map_eq_some_iff.mp hhistory
  refine ⟨final, hrun, fun hproper => ?_⟩
  rw [hfinal] at hproper
  obtain ⟨token, origin, hcreated, htoken, hsame⟩ := hproper.1.traced
  simp only [List.mem_cons, InvitationEvent.created.injEq, reduceCtorEq, List.not_mem_nil, false_or, or_false] at hcreated
  rcases hcreated with ⟨rfl, rfl⟩ | ⟨rfl, rfl⟩
  · exact absurd htoken (by decide +kernel)
  · exact absurd hsame.hash_eq (by decide +kernel)

end Examples

end Starweaver.Platform
