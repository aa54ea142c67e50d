import Starweaver.Library.ListIndex
import Starweaver.Gateway.KeySuspension

namespace Starweaver.Gateway.Tenancy

open Library.AssocMap Library.Calendar Library.Checks Library.ListIndex Library.Machine

section Keys

variable (store : TenancyStore)

def TenancyStore.apiKey (apiKeyId : String) : Option ApiKeyRecord :=
  (listed store.apiKeys).find? fun record => record.apiKeyId == apiKeyId

def apiKeyStatusSupportedForAdmin : ApiKeyStatus → Bool
  | .active | .disabled => true
  | _ => false

def updateApiKeyStatus (apiKeyId : String) (status : ApiKeyStatus) : Result (ApiKeyRecord × TenancyStore) :=
  if !apiKeyStatusSupportedForAdmin status then .error (.badRequest "unsupported_api_key_status")
  else
    match findValue (fun records => records.any fun record => record.apiKeyId == apiKeyId) store.apiKeys with
    | none => .error (.notFound s!"API key {apiKeyId}")
    | some (start, records) =>
      match records.find? fun record => record.apiKeyId == apiKeyId with
      | none => .error (.notFound s!"API key {apiKeyId}")
      | some record =>
        let updated := { record with status }
        let replaced := records.replaceF fun candidate => if candidate.apiKeyId = apiKeyId then some updated else none
        .ok (updated, { store with apiKeys := store.apiKeys.insert start replaced })

/-- The raw key that is drawn in a rotation, and its salted hash. -/
structure DrawnSecret where
  rawKey : String
  secretHash : Result String

def rotateApiKeySecret (record : ApiKeyRecord) (drawn : DrawnSecret) : Result ApiKeyRecord := do
  let start ← Tenancy.keyPrefix drawn.rawKey
  let secretHash ← drawn.secretHash
  .ok { record with keyPrefix := start, secretHash, status := .active }

def replaceApiKeySecret (record : ApiKeyRecord) : Result (ApiKeyRecord × TenancyStore) := do
  validateApiKeyAdminRecord store record
  match store.apiKey record.apiKeyId with
  | none => .error (.notFound s!"API key {record.apiKeyId}")
  | some existing =>
    if existing.tenantId ≠ record.tenantId then .error (.authorization "api_key_tenant_mismatch")
    else .ok (record, store.insertApiKey record)

end Keys

/-- A raw key that was stored for an id, and whether a rotation drew it. -/
structure KeyIssue where
  apiKeyId : String
  rawKey : String
  rotation : Bool
deriving DecidableEq, Repr

/-- The store, and the keys that were stored, with the last one first. -/
structure KeyMachine where
  store : TenancyStore
  issued : List KeyIssue

inductive KeyOperation
  | createApiKeyRecord (record : ApiKeyRecord)
  | insertApiKey (record : ApiKeyRecord)
  | rotate (before : ApiKeyRecord) (drawn : DrawnSecret)
  | updateApiKeyStatus (apiKeyId : String) (status : ApiKeyStatus)
  | verifyApiKey (presentedKey requestId traceId : String) (now : DateTime)

def KeyTaken (issued : List KeyIssue) (apiKeyId rawKey : String) : Prop :=
  ∃ issue ∈ issued, issue.rawKey = rawKey ∧ issue.apiKeyId ≠ apiKeyId

instance (issued : List KeyIssue) (apiKeyId rawKey : String) : Decidable (KeyTaken issued apiKeyId rawKey) :=
  inferInstanceAs (Decidable (∃ issue ∈ issued, _))

namespace KeyMachine

variable (env : AuthEnv) (hashed : String → String) (machine : KeyMachine)

def stores (rotation : Bool) (answer : Result (ApiKeyRecord × TenancyStore)) : KeyMachine :=
  match answer with
  | .error _ => machine
  | .ok (record, store) => ⟨store, ⟨record.apiKeyId, hashed record.secretHash, rotation⟩ :: machine.issued⟩

/-- A raw key is stored for one id only, and a rotation draws one that was never stored. -/
def step : KeyOperation → Option KeyMachine
  | .createApiKeyRecord record =>
    if KeyTaken machine.issued record.apiKeyId (hashed record.secretHash) then none
    else some (machine.stores hashed false (Tenancy.createApiKeyRecord machine.store record))
  | .insertApiKey record =>
    if KeyTaken machine.issued record.apiKeyId (hashed record.secretHash) then none
    else some (machine.stores hashed false (.ok (record, machine.store.insertApiKey record)))
  | .rotate before drawn =>
    match rotateApiKeySecret before drawn with
    | .error _ => some machine
    | .ok record =>
      if hashed record.secretHash ≠ drawn.rawKey ∨ drawn.rawKey ∈ machine.issued.map (·.rawKey) then none
      else some (machine.stores hashed true (replaceApiKeySecret machine.store record))
  | .updateApiKeyStatus apiKeyId status =>
    some { machine with
      store := machine.store.orKeep Prod.snd (Tenancy.updateApiKeyStatus machine.store apiKeyId status) }
  | .verifyApiKey presentedKey requestId traceId now =>
    some { machine with store := (Tenancy.verifyApiKey env machine.store presentedKey requestId traceId now).2 }

end KeyMachine

/-- The key was stored before the last rotation of the id, and not again since. -/
def Superseded (issued : List KeyIssue) (apiKeyId rawKey : String) : Prop :=
  ∃ later rotated earlier, issued = later ++ rotated :: earlier ∧ rotated.rotation = true ∧
    rotated.apiKeyId = apiKeyId ∧ (∃ issue ∈ earlier, issue.apiKeyId = apiKeyId ∧ issue.rawKey = rawKey) ∧
    ∀ issue ∈ later, issue.rawKey ≠ rawKey

/-- The status does not accept authentication, or the expiry has passed. -/
def Barred (record : ApiKeyRecord) (now : DateTime) : Prop :=
  record.status ≠ .active ∧ record.status ≠ .rotating ∨
    ∃ expiresAt, record.expiresAt = some expiresAt ∧ expiresAt ≤ now

def Rejects (env : AuthEnv) (store : TenancyStore) (presentedKey : String) (now : DateTime) : Prop :=
  ∀ requestId traceId, ∃ error, (verifyApiKey env store presentedKey requestId traceId now).1 = .error error

structure KeysIndexed (hashed : String → String) (machine : KeyMachine) : Prop where
  filed : Filed ApiKeyRecord.keyPrefix machine.store.apiKeys
  single : ((listed machine.store.apiKeys).map (·.apiKeyId)).Nodup
  stored : ∀ issue ∈ machine.issued, ∃ record ∈ listed machine.store.apiKeys, record.apiKeyId = issue.apiKeyId
  traced : ∀ record ∈ listed machine.store.apiKeys, ∃ issue,
    machine.issued.find? (fun issue => issue.apiKeyId == record.apiKeyId) = some issue ∧
      issue.rawKey = hashed record.secretHash
  owned : ∀ issue ∈ machine.issued, ∀ other ∈ machine.issued, issue.rawKey = other.rawKey →
    issue.apiKeyId = other.apiKeyId
  fresh : machine.issued.Pairwise fun later earlier => later.rotation = true → earlier.rawKey ≠ later.rawKey

section Inserts

variable {store : TenancyStore} {record : ApiKeyRecord}

theorem insertApiKey_listed (store : TenancyStore) (record : ApiKeyRecord) :
    (listed (store.insertApiKey record).apiKeys).Perm
      (record :: (listed store.apiKeys).filter fun other => other.apiKeyId != record.apiKeyId) := by
  have happend := listed_append (mapValues (fun records => records.filter fun candidate =>
    candidate.apiKeyId != record.apiKeyId) store.apiKeys) record.keyPrefix record
  rw [listed_filter] at happend
  exact happend

theorem insertApiKey_filed (h : Filed ApiKeyRecord.keyPrefix store.apiKeys) (record : ApiKeyRecord) :
    Filed ApiKeyRecord.keyPrefix (store.insertApiKey record).apiKeys :=
  (h.filter _).append record

theorem replaceApiKeySecret_ok {found : ApiKeyRecord} {next : TenancyStore}
    (h : replaceApiKeySecret store record = .ok (found, next)) :
    found = record ∧ next = store.insertApiKey record := by
  obtain ⟨-, h⟩ := bind_unit_ok.mp h
  split at h
  · cases h
  · split at h
    · cases h
    · cases h
      exact ⟨rfl, rfl⟩

theorem createApiKeyRecord_ok {found : ApiKeyRecord} {next : TenancyStore}
    (h : Tenancy.createApiKeyRecord store record = .ok (found, next)) :
    found = record ∧ next = store.insertApiKey record := by
  obtain ⟨-, h⟩ := bind_unit_ok.mp h
  cases h
  exact ⟨rfl, rfl⟩

/-- A status update keeps the record in its list, with its prefix and its secret. -/
theorem updateApiKeyStatus_ok (hfiled : Filed ApiKeyRecord.keyPrefix store.apiKeys)
    (hsingle : ((listed store.apiKeys).map (·.apiKeyId)).Nodup) {apiKeyId : String} {status : ApiKeyStatus}
    {next : TenancyStore} (h : Tenancy.updateApiKeyStatus store apiKeyId status = .ok (record, next)) :
    ∃ before ∈ listed store.apiKeys, record = { before with status } ∧
      Filed ApiKeyRecord.keyPrefix next.apiKeys ∧
      (listed next.apiKeys).Perm
        (record :: (listed store.apiKeys).filter fun other => other.apiKeyId != record.apiKeyId) := by
  unfold Tenancy.updateApiKeyStatus at h
  split at h
  · cases h
  split at h
  · cases h
  rename_i start records hlist
  split at h
  · cases h
  rename_i before hfound
  cases h
  have hlookup := (findValue_some hlist).1
  have hbefore := List.mem_of_find?_eq_some hfound
  have hid : before.apiKeyId = apiKeyId := by simpa using List.find?_some hfound
  refine ⟨before, mem_listed.mpr ⟨start, records, hlookup, hbefore⟩, rfl, hfiled.insert fun value hvalue => ?_, ?_⟩
  · rcases List.exists_or_eq_self_of_replaceF (fun candidate : ApiKeyRecord => if candidate.apiKeyId = apiKeyId then
        some { before with status } else none) records with hsame | ⟨old, changed, left, right, -, hold, hsplit, hreplaced⟩
    · rw [hsame] at hvalue
      exact hfiled start records hlookup value hvalue
    · rw [hreplaced] at hvalue
      have hchanged : changed = { before with status } := by
        split at hold
        · cases hold
          rfl
        · cases hold
      rcases List.mem_append.mp hvalue with hleft | hright
      · exact hfiled start records hlookup value (hsplit ▸ List.mem_append_left _ hleft)
      · rcases List.mem_cons.mp hright with rfl | hrest
        · rw [hchanged]
          exact hfiled start records hlookup before hbefore
        · exact hfiled start records hlookup value
            (hsplit ▸ List.mem_append_right _ (List.mem_cons_of_mem _ hrest))
  · refine listed_replaceF hsingle hlookup hbefore _ fun other _ => ?_
    simp only [hid]

end Inserts

section Invariant

variable {env : AuthEnv} {hashed : String → String} {machine : KeyMachine} {record : ApiKeyRecord}

theorem nodup_of_refiled {values : List ApiKeyRecord} {others : List ApiKeyRecord}
    (hsingle : (others.map (·.apiKeyId)).Nodup)
    (hperm : values.Perm (record :: others.filter fun other => other.apiKeyId != record.apiKeyId)) :
    (values.map (·.apiKeyId)).Nodup := by
  rw [(hperm.map (·.apiKeyId)).nodup_iff, List.map_cons, List.nodup_cons]
  refine ⟨fun hmem => ?_, hsingle.sublist (List.filter_sublist.map _)⟩
  obtain ⟨other, hother, heq⟩ := List.mem_map.mp hmem
  exact absurd heq (bne_iff_ne.mp (List.mem_filter.mp hother).2)

/-- Every id that was stored still is, with the new record among them. -/
theorem stored_of_refiled {values others : List ApiKeyRecord}
    (hperm : values.Perm (record :: others.filter fun other => other.apiKeyId != record.apiKeyId)) {apiKeyId : String}
    (hstored : apiKeyId = record.apiKeyId ∨ ∃ other ∈ others, other.apiKeyId = apiKeyId) :
    ∃ value ∈ values, value.apiKeyId = apiKeyId := by
  by_cases heq : apiKeyId = record.apiKeyId
  · exact ⟨record, hperm.mem_iff.mpr List.mem_cons_self, heq.symm⟩
  · obtain ⟨other, hother, rfl⟩ := hstored.resolve_left heq
    exact ⟨other, hperm.mem_iff.mpr (List.mem_cons_of_mem _ (List.mem_filter.mpr ⟨hother, bne_iff_ne.mpr heq⟩)), rfl⟩

theorem KeysIndexed.insertApiKey (h : KeysIndexed hashed machine) {rotation : Bool}
    (howned : ¬ KeyTaken machine.issued record.apiKeyId (hashed record.secretHash))
    (hfresh : rotation = true → ∀ issue ∈ machine.issued, issue.rawKey ≠ hashed record.secretHash) :
    KeysIndexed hashed ⟨machine.store.insertApiKey record,
      ⟨record.apiKeyId, hashed record.secretHash, rotation⟩ :: machine.issued⟩ := by
  have hperm := insertApiKey_listed machine.store record
  have hown {issue : KeyIssue} (hissue : issue ∈ machine.issued) (hkey : issue.rawKey = hashed record.secretHash) :
      issue.apiKeyId = record.apiKeyId := by
    by_contra hne
    exact howned ⟨issue, hissue, hkey, hne⟩
  constructor
  · exact insertApiKey_filed h.filed record
  · exact nodup_of_refiled h.single hperm
  · intro issue hissue
    refine stored_of_refiled hperm ?_
    rcases List.mem_cons.mp hissue with rfl | hold
    · exact .inl rfl
    · exact .inr (h.stored issue hold)
  · intro value hvalue
    rcases List.mem_cons.mp (hperm.mem_iff.mp hvalue) with rfl | hother
    · exact ⟨_, List.find?_cons_of_pos (by simp), rfl⟩
    · obtain ⟨hold, hne⟩ := List.mem_filter.mp hother
      obtain ⟨issue, hissue, hkey⟩ := h.traced value hold
      exact ⟨issue, by rw [List.find?_cons_of_neg (by simpa using (bne_iff_ne.mp hne).symm), hissue], hkey⟩
  · intro issue hissue other hother heq
    rcases List.mem_cons.mp hissue with rfl | hissue
    · rcases List.mem_cons.mp hother with rfl | hother
      · rfl
      · exact (hown hother heq.symm).symm
    · rcases List.mem_cons.mp hother with rfl | hother
      · exact hown hissue heq
      · exact h.owned issue hissue other hother heq
  · exact List.pairwise_cons.mpr ⟨fun issue hissue hrotation => hfresh hrotation issue hissue, h.fresh⟩

theorem KeysIndexed.updateApiKeyStatus (h : KeysIndexed hashed machine) (apiKeyId : String) (status : ApiKeyStatus) :
    KeysIndexed hashed { machine with
      store := machine.store.orKeep Prod.snd (Tenancy.updateApiKeyStatus machine.store apiKeyId status) } := by
  cases hupdate : Tenancy.updateApiKeyStatus machine.store apiKeyId status with
  | error error => exact h
  | ok pair =>
    obtain ⟨record, next⟩ := pair
    obtain ⟨before, hbefore, hrecord, hfiled, hperm⟩ := updateApiKeyStatus_ok h.filed h.single hupdate
    refine ⟨hfiled, nodup_of_refiled h.single hperm, fun issue hissue => ?_, fun value hvalue => ?_, h.owned, h.fresh⟩
    · exact stored_of_refiled hperm (.inr (h.stored issue hissue))
    · rcases List.mem_cons.mp (hperm.mem_iff.mp hvalue) with rfl | hother
      · rw [hrecord]
        exact h.traced before hbefore
      · exact h.traced value (List.mem_filter.mp hother).1

theorem KeysIndexed.of_apiKeys (h : KeysIndexed hashed machine) {store : TenancyStore}
    (hsame : store.apiKeys = machine.store.apiKeys) : KeysIndexed hashed { machine with store } := by
  obtain ⟨hfiled, hsingle, hstored, htraced, howned, hfresh⟩ := h
  rw [← hsame] at hfiled hsingle hstored htraced
  exact ⟨hfiled, hsingle, hstored, htraced, howned, hfresh⟩

theorem KeysIndexed.step {next : KeyMachine} (h : KeysIndexed hashed machine) {operation : KeyOperation}
    (hstep : machine.step env hashed operation = some next) : KeysIndexed hashed next := by
  cases operation with
  | createApiKeyRecord record =>
    rw [KeyMachine.step] at hstep
    split at hstep
    · cases hstep
    rename_i howned
    cases hstep
    cases hcreate : Tenancy.createApiKeyRecord machine.store record with
    | error error => exact h
    | ok pair =>
      obtain ⟨found, store⟩ := pair
      obtain ⟨rfl, rfl⟩ := createApiKeyRecord_ok hcreate
      exact h.insertApiKey howned (by simp)
  | insertApiKey record =>
    rw [KeyMachine.step] at hstep
    split at hstep
    · cases hstep
    rename_i howned
    cases hstep
    exact h.insertApiKey howned (by simp)
  | rotate before drawn =>
    rw [KeyMachine.step] at hstep
    split at hstep
    · cases hstep
      exact h
    rename_i record hrotate
    split at hstep
    · cases hstep
    rename_i hdrawn
    cases hstep
    obtain ⟨hkey, hnew⟩ := not_or.mp hdrawn
    rw [not_ne_iff] at hkey
    have hunused : ∀ issue ∈ machine.issued, issue.rawKey ≠ hashed record.secretHash := by
      intro issue hissue heq
      exact hnew (List.mem_map.mpr ⟨issue, hissue, heq.trans hkey⟩)
    cases hreplace : replaceApiKeySecret machine.store record with
    | error error => exact h
    | ok pair =>
      obtain ⟨found, store⟩ := pair
      obtain ⟨rfl, rfl⟩ := replaceApiKeySecret_ok hreplace
      exact h.insertApiKey (fun ⟨issue, hissue, heq, _⟩ => hunused issue hissue heq) fun _ => hunused
  | updateApiKeyStatus apiKeyId status =>
    cases hstep
    exact h.updateApiKeyStatus apiKeyId status
  | verifyApiKey presentedKey requestId traceId now =>
    cases hstep
    exact h.of_apiKeys (verifyApiKey_sameKeys env machine.store presentedKey requestId traceId now).apiKeys

end Invariant

section Verification

variable {env : AuthEnv} {store : TenancyStore} {presentedKey : String} {now : DateTime}

theorem findApiKey_verified {start : String} {candidates : List ApiKeyRecord} {record : ApiKeyRecord}
    (h : findApiKey env presentedKey start now candidates = .ok (some record)) :
    record.canAuthenticateAt now = true ∧ env.verifySecret presentedKey record.secretHash = .ok true := by
  induction candidates with
  | nil => cases h
  | cons candidate candidates ih =>
    unfold findApiKey at h
    split at h
    · exact ih h
    · rename_i hcandidate
      obtain ⟨verified, hverified, h⟩ := bind_ok.mp h
      split at h
      · rename_i htrue
        cases h
        exact ⟨by simpa using (not_or.mp hcandidate).2, by rw [hverified, htrue]⟩
      · exact ih h

/-- A key is rejected unless it verifies against a stored record that can authenticate. -/
theorem rejects_of_stored (h : ∀ record ∈ listed store.apiKeys, record.canAuthenticateAt now = true →
    env.verifySecret presentedKey record.secretHash ≠ .ok true) : Rejects env store presentedKey now := by
  intro requestId traceId
  unfold verifyApiKey
  split
  · exact ⟨_, rfl⟩
  rename_i start hstart
  simp only
  split
  · exact ⟨_, rfl⟩
  split
  · exact ⟨_, rfl⟩
  split
  · exact ⟨_, rfl⟩
  · exact ⟨_, rfl⟩
  · rename_i record hfound
    obtain ⟨hcan, hverified⟩ := findApiKey_verified hfound
    have hstored : StoredKey store record := candidatesByPrefix_stored (findApiKey_mem hfound)
    exact absurd hverified (h record (mem_listed.mpr hstored) hcan)

variable {hashed : String → String} {machine : KeyMachine}

theorem KeysIndexed.superseded (h : KeysIndexed hashed machine)
    (hverify : ∀ key hash, env.verifySecret key hash = .ok true → key = hashed hash) {apiKeyId rawKey : String}
    (hsuperseded : Superseded machine.issued apiKeyId rawKey) (now : DateTime) :
    Rejects env machine.store rawKey now := by
  obtain ⟨later, rotated, earlier, hissued, hrotation, hid, ⟨issue, hissue, hissueId, hissueKey⟩, hlater⟩ := hsuperseded
  refine rejects_of_stored fun record hrecord _ hverified => ?_
  have hkey := hverify rawKey record.secretHash hverified
  obtain ⟨current, hcurrent, hcurrentKey⟩ := h.traced record hrecord
  have hmem := List.mem_of_find?_eq_some hcurrent
  have hold : issue ∈ machine.issued := hissued ▸ List.mem_append_right _ (List.mem_cons_of_mem _ hissue)
  have hcurrentId : current.apiKeyId = record.apiKeyId := by simpa using List.find?_some hcurrent
  have hrecordId : record.apiKeyId = apiKeyId := by
    rw [← hcurrentId, ← hissueId]
    exact h.owned current hmem issue hold (by rw [hcurrentKey, hissueKey, hkey])
  rw [hissued, List.find?_append] at hcurrent
  cases hfirst : later.find? (fun issue => issue.apiKeyId == record.apiKeyId) with
  | some found =>
    rw [hfirst, Option.some_or, Option.some.injEq] at hcurrent
    exact hlater found (List.mem_of_find?_eq_some hfirst) (by rw [hcurrent, hcurrentKey, hkey])
  | none =>
    rw [hfirst, Option.none_or, List.find?_cons_of_pos (by simp [hid, hrecordId]), Option.some.injEq] at hcurrent
    have hfresh := h.fresh
    rw [hissued, List.pairwise_append] at hfresh
    refine (List.pairwise_cons.mp hfresh.2.1).1 issue hissue hrotation ?_
    rw [hissueKey, hcurrent, hcurrentKey, hkey]

theorem KeysIndexed.barred (h : KeysIndexed hashed machine)
    (hverify : ∀ key hash, env.verifySecret key hash = .ok true → key = hashed hash) {record : ApiKeyRecord}
    (hrecord : record ∈ listed machine.store.apiKeys) {now : DateTime} (hbarred : Barred record now) {issue : KeyIssue}
    (hissue : issue ∈ machine.issued) (hid : issue.apiKeyId = record.apiKeyId) :
    Rejects env machine.store issue.rawKey now := by
  refine rejects_of_stored fun found hfound hcan hverified => ?_
  have hkey := hverify issue.rawKey found.secretHash hverified
  obtain ⟨current, hcurrent, hcurrentKey⟩ := h.traced found hfound
  have hcurrentId : current.apiKeyId = found.apiKeyId := by simpa using List.find?_some hcurrent
  have hsame : found.apiKeyId = record.apiKeyId := by
    rw [← hcurrentId, ← hid]
    exact h.owned current (List.mem_of_find?_eq_some hcurrent) issue hissue (by rw [hcurrentKey, hkey])
  have hrecordSame : found = record := List.inj_on_of_nodup_map h.single hfound hrecord hsame
  subst hrecordSame
  obtain ⟨hstatus, hexpiry⟩ := Bool.and_eq_true_iff.mp hcan
  rcases hbarred with ⟨hactive, hrotating⟩ | ⟨expiresAt, hexpires, hpast⟩
  · cases hkind : found.status with
    | active => exact hactive hkind
    | rotating => exact hrotating hkind
    | disabled | expired | deleted =>
      rw [hkind] at hstatus
      cases hstatus
  · rw [hexpires, Option.all_some, decide_eq_true_eq] at hexpiry
    exact absurd (show now.nanos < expiresAt.nanos from hexpiry) (Int.not_lt.mpr hpast)

end Verification

/-- Whatever was stored and rotated, each id has one record, in the list of its prefix, and neither a superseded key
nor a key of a barred record authenticates. -/
theorem supersededKeys_rejected {env : AuthEnv} {hashed : String → String}
    (hverify : ∀ key hash, env.verifySecret key hash = .ok true → key = hashed hash) {store : TenancyStore}
    (hempty : store.apiKeys = ∅) {operations : List KeyOperation} {final : KeyMachine}
    (hrun : run (KeyMachine.step env hashed) ⟨store, []⟩ operations = some final) :
    Filed ApiKeyRecord.keyPrefix final.store.apiKeys ∧
    (∀ apiKeyId, ((listed final.store.apiKeys).filter fun record => record.apiKeyId == apiKeyId).length =
      if apiKeyId ∈ final.issued.map (·.apiKeyId) then 1 else 0) ∧
    (∀ apiKeyId rawKey, Superseded final.issued apiKeyId rawKey → ∀ now, Rejects env final.store rawKey now) ∧
    ∀ record ∈ listed final.store.apiKeys, ∀ now, Barred record now →
      ∀ issue ∈ final.issued, issue.apiKeyId = record.apiKeyId → Rejects env final.store issue.rawKey now := by
  have hlisted : listed store.apiKeys = [] := by rw [hempty]; rfl
  have hstart : KeysIndexed hashed ⟨store, []⟩ := by
    refine ⟨hempty ▸ Filed.empty, ?_, by simp, ?_, by simp, .nil⟩
    · rw [hlisted]
      exact .nil
    · rw [hlisted]
      simp
  have hstep (machine : KeyMachine) (operation : KeyOperation) (next : KeyMachine) (h : KeysIndexed hashed machine)
      (_ : True) (hnext : machine.step env hashed operation = some next) : KeysIndexed hashed next := h.step hnext
  have hfinal := run_invariant hstep hstart (meets_true _ _) hrun
  refine ⟨hfinal.filed, fun apiKeyId => ?_, fun apiKeyId rawKey hsuperseded now => ?_, ?_⟩
  · have hcount := hfinal.single.count (a := apiKeyId)
    rw [List.count, List.countP_map, List.countP_eq_length_filter] at hcount
    refine hcount.trans (if_congr ?_ rfl rfl)
    simp only [List.mem_map]
    constructor
    · rintro ⟨record, hrecord, rfl⟩
      obtain ⟨issue, hissue, -⟩ := hfinal.traced record hrecord
      exact ⟨issue, List.mem_of_find?_eq_some hissue, by simpa using List.find?_some hissue⟩
    · rintro ⟨issue, hissue, rfl⟩
      exact hfinal.stored issue hissue
  · exact hfinal.superseded hverify hsuperseded now
  · intro record hrecord now hbarred issue hissue hid
    exact hfinal.barred hverify hrecord hbarred hissue hid

section Examples

def hashedKey (hash : String) : String := String.ofList (hash.toList.drop 7)

def rotationEnv : AuthEnv := ⟨id, fun presentedKey hash => .ok (hashedKey hash == presentedKey)⟩

def rotationStore : TenancyStore := (bootstrapDefaultProject .empty sampleBootstrap).2

def firstKey (status : ApiKeyStatus) : ApiKeyRecord :=
  ⟨"ak_1", "ten_1", some "org_1", some "prj_1", "usr_1", "automation", "swg_0123456789ab", "argon2:swg_0123456789abcdef",
    status, [], [], none⟩

def rotateFirst : KeyOperation :=
  .rotate (firstKey .active) ⟨"swg_fedcba9876543210", .ok "argon2:swg_fedcba9876543210"⟩

theorem hashedKey_verifies (key hash : String) (h : rotationEnv.verifySecret key hash = .ok true) :
    key = hashedKey hash := (beq_iff_eq.mp (Except.ok.inj h)).symm

def disableRotated : List KeyOperation :=
  [.createApiKeyRecord (firstKey .active), rotateFirst, .updateApiKeyStatus "ak_1" .disabled]

theorem disabledKey_rejected :
    ∃ final, run (KeyMachine.step rotationEnv hashedKey) ⟨rotationStore, []⟩ disableRotated = some final ∧
      Rejects rotationEnv final.store "swg_0123456789abcdef" ⟨0⟩ ∧
      Rejects rotationEnv final.store "swg_fedcba9876543210" ⟨0⟩ := by
  obtain ⟨final, hrun⟩ : ∃ final, run (KeyMachine.step rotationEnv hashedKey) ⟨rotationStore, []⟩ disableRotated =
      some final := ⟨_, rfl⟩
  obtain ⟨-, -, hsuperseded, hbarred⟩ := supersededKeys_rejected hashedKey_verifies rfl hrun
  have hissued : final.issued =
      [⟨"ak_1", "swg_fedcba9876543210", true⟩, ⟨"ak_1", "swg_0123456789abcdef", false⟩] := by
    cases hrun
    rfl
  have hstored : { firstKey .disabled with
      keyPrefix := "swg_fedcba987654", secretHash := "argon2:swg_fedcba9876543210" } ∈ listed final.store.apiKeys := by
    cases hrun
    exact List.mem_cons_self
  refine ⟨final, hrun, hsuperseded "ak_1" _ ?_ ⟨0⟩, ?_⟩
  · exact ⟨[], _, _, hissued, rfl, rfl, ⟨_, List.mem_cons_self, rfl, rfl⟩, by simp⟩
  · refine hbarred _ hstored ⟨0⟩ (.inl ⟨by decide, by decide⟩) ⟨"ak_1", "swg_fedcba9876543210", true⟩ ?_ rfl
    rw [hissued]
    exact List.mem_cons_self

/-- A rotating record authenticates, and so does a record that is stored again after the rotation of its key. -/
theorem rotatingKey_accepted :
    (∃ final, run (KeyMachine.step rotationEnv hashedKey) ⟨rotationStore, []⟩ [.insertApiKey (firstKey .rotating)] =
        some final ∧
      firstKey .rotating ∈ listed final.store.apiKeys ∧ (firstKey .rotating).status ≠ .active ∧
      ∃ actor, (verifyApiKey rotationEnv final.store "swg_0123456789abcdef" "req_1" "tr_1" ⟨0⟩).1 = .ok actor) ∧
    ∃ final later rotated earlier, run (KeyMachine.step rotationEnv hashedKey) ⟨rotationStore, []⟩
        [.createApiKeyRecord (firstKey .active), rotateFirst, .insertApiKey (firstKey .active)] = some final ∧
      final.issued = later ++ rotated :: earlier ∧ rotated.rotation = true ∧ rotated.apiKeyId = "ak_1" ∧
      ⟨"ak_1", "swg_0123456789abcdef", false⟩ ∈ earlier ∧
      ∃ actor, (verifyApiKey rotationEnv final.store "swg_0123456789abcdef" "req_1" "tr_1" ⟨0⟩).1 = .ok actor := by
  refine ⟨⟨_, rfl, List.mem_cons_self, by decide, _, rfl⟩, ?_⟩
  exact ⟨_, [⟨"ak_1", "swg_0123456789abcdef", false⟩], _, _, rfl, rfl, rfl, rfl, List.mem_cons_self, _, rfl⟩

end Examples

end Starweaver.Gateway.Tenancy
