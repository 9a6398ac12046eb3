import AiGateway.Monitor.Exclusion
import AiGateway.Monitor.Ticks

/-!
# Removed providers come back

The monitors take providers out of the balancer. Do they put all of them back? As long as neither
has stopped, no configured provider is forgotten: it is in the balancer once what was sent is
applied, or one of the monitors holds it and is going to insert it (`Accounted`).

* `accounted`: this is true of every state of every run that the monitors survive;
* `recovered_of_run`: from any such state, once every check is in favour and no 429 arrives, the
  tasks can take only so many steps (`workLeft`), in whatever order they run, and when none can
  take another one exactly the configured services are in the balancer.
-/

namespace AiGateway

open Transition Tower

variable {K : Type} [DecidableEq K] {parseHttpDate : List Char → Option DateTime}
  {kind : MonitorKind K} {keys : List K}

/-! ### Nothing is forgotten -/

/-- Neither monitor has stopped. -/
structure MonitorState.Alive (s : MonitorState K) : Prop where
  health : s.health ≠ .failed
  rate : s.rate ≠ .failed ∧ s.rate ≠ .panicked

/-- Checks and 429s are about configured services. -/
def Concerns (kind : MonitorKind K) (keys : List K) : MonitorAction K → Prop
  | .healthCheck key _ => key ∈ keys
  | .rateLimited response =>
    ∀ key, kind.createKeyForEndpoint response.apiEndpoint = some key → key ∈ keys
  | _ => True

/-- **The monitors of the configured services.** The health monitor checks these in a loop over the
configuration, and 429s come from these only. -/
def configuredMonitors (parseHttpDate : List Char → Option DateTime) (kind : MonitorKind K)
    (keys : List K) : System (MonitorState K) (MonitorAction K) where
  init := (monitors parseHttpDate kind keys).init
  step s a s' := MonitorStep parseHttpDate kind s a s' ∧ Concerns kind keys a

/-- Every configured service is in the balancer, or held by a monitor that is going to insert it;
what the rate limit monitor holds has a restore pending. -/
structure Accounted (keys : List K) (s : MonitorState K) : Prop where
  kept : ∀ key ∈ keys, key ∈ s.drained ∨ key ∈ s.unhealthyKeys ∨
    key ∈ s.rateLimitedProviders ∨ s.health = .inserting key
  scheduled : ∀ key ∈ s.rateLimitedProviders,
    (∃ restore ∈ s.pendingRestores, restore.key = key) ∨
      ∃ restore, s.rate = .restoring restore ∧ restore.key = key

/-- Only configured services are anywhere. -/
structure Within (keys : List K) (s : MonitorState K) : Prop where
  drained : ∀ key ∈ s.drained, key ∈ keys
  unhealthy : ∀ key ∈ s.unhealthyKeys, key ∈ keys
  health : ∀ key, s.health = .removing key ∨ s.health = .inserting key → key ∈ keys
  removing : ∀ key response, s.rate = .removing key response → key ∈ keys
  pending : ∀ restore, restore ∈ s.pendingRestores ∨ s.rate = .restoring restore →
    restore.key ∈ keys

theorem drained_init (keys : List K) :
    (monitors parseHttpDate kind keys).init.drained = keys.toFinset := by
  have hdrain : ∀ services : Finset K, drain services (keys.map Change.insert) =
      services ∪ keys.toFinset := by
    induction keys with
    | nil => intro services; simp
    | cons key keys ih =>
      intro services
      rw [List.map_cons, drain_cons, ih, changeServices, List.toFinset_cons,
        Finset.insert_union, Finset.union_insert]
  unfold MonitorState.drained monitors
  dsimp only
  rw [List.append_nil, hdrain, Finset.empty_union]

theorem accounted_init (keys : List K) :
    Accounted keys (monitors parseHttpDate kind keys).init where
  kept := by
    intro key hkey
    rw [drained_init]
    exact Or.inl (List.mem_toFinset.mpr hkey)
  scheduled := fun key hkey => absurd hkey (Finset.notMem_empty key)

theorem within_init (keys : List K) : Within keys (monitors parseHttpDate kind keys).init where
  drained := by
    intro key hkey
    rw [drained_init] at hkey
    exact List.mem_toFinset.mp hkey
  unhealthy := fun key hkey => absurd hkey (Finset.notMem_empty key)
  health := by rintro key (h | h) <;> cases h
  removing := by intro key response h; cases h
  pending := by
    rintro restore (h | h)
    · cases h
    · cases h

/-! ### Steps -/

/-- A monitor that has stopped stays so. -/
theorem alive_of_step {s s' : MonitorState K} {a : MonitorAction K}
    (hstep : MonitorStep parseHttpDate kind s a s') (halive : s'.Alive) : s.Alive := by
  have hlive := halive
  obtain ⟨hhealth, hrate⟩ := hlive
  -- a step starts from a stage at which its monitor is alive, and leaves that of the other one
  cases hstep with
  | healthCheck key isHealthy hidle =>
    obtain ⟨unhealthy, health, -, -, hframe⟩ := checkHealth_frame s key isHealthy
    rw [hframe] at hrate
    exact ⟨by simp [hidle], hrate⟩
  | healthRemoveSent key hstage _ => exact ⟨by simp [hstage], hrate⟩
  | healthInsertSent key hstage _ => exact ⟨by simp [hstage], hrate⟩
  | healthFailed key _ => exact absurd rfl hhealth
  | rateLimited response hidle =>
    obtain ⟨rate, hframe⟩ := @receiveEvent_frame _ _ kind s response
    rw [hframe] at hhealth
    exact ⟨hhealth, by simp [hidle]⟩
  | rateRemoveSent key response hstage _ =>
    obtain ⟨limited, pending, rate, -, hframe⟩ :=
      @scheduleRestore_frame _ _ parseHttpDate kind (s.send (.remove key)) key response
    rw [hframe] at hhealth
    exact ⟨hhealth, by simp [hstage]⟩
  | timerFired before after restore hidle _ =>
    exact ⟨hhealth, by simp [hidle]⟩
  | restoreSent restore hstage _ =>
    exact ⟨hhealth, by simp [hstage]⟩
  | restoreFailed restore _ => exact absurd rfl hrate.1
  | delivered =>
    obtain ⟨-, hh, -, -, hr⟩ := deliver_frame s
    rw [hh] at hhealth
    rw [hr] at hrate
    exact ⟨hhealth, hrate⟩

/-- What the rate limit monitor leaves behind, when it survives. -/
theorem scheduleRestore_of_alive {s : MonitorState K} {key : K} {response : TooManyRequests}
    (halive : (scheduleRestore parseHttpDate kind s key response).Alive) :
    ∃ timer, scheduleRestore parseHttpDate kind s key response =
      { s with
        rateLimitedProviders := insert key s.rateLimitedProviders
        pendingRestores := ⟨key, response.apiEndpoint, timer⟩ :: s.pendingRestores
        rate := .idle } := by
  unfold scheduleRestore at halive ⊢
  cases hwait : restoreWait (response.event parseHttpDate) with
  | some timer => exact ⟨timer, rfl⟩
  | none =>
    rw [hwait] at halive
    exact absurd rfl halive.rate.2

/-- A service that is inserted is accounted for, and the others are as before. -/
theorem Accounted.kept_insert {s s' : MonitorState K} (h : Accounted keys s) {key : K}
    (hd : s'.drained = insert key s.drained) (hu : s'.unhealthyKeys = s.unhealthyKeys)
    (hr : ∀ k ∈ s.rateLimitedProviders, k = key ∨ k ∈ s'.rateLimitedProviders)
    (hh : ∀ k, s.health = .inserting k → k = key ∨ s'.health = .inserting k) :
    ∀ k ∈ keys, k ∈ s'.drained ∨ k ∈ s'.unhealthyKeys ∨ k ∈ s'.rateLimitedProviders ∨
      s'.health = .inserting k := by
  intro k hk
  have hself : k = key → k ∈ s'.drained := by
    rintro rfl
    rw [hd]
    exact Finset.mem_insert_self _ _
  rcases h.kept k hk with hmem | hmem | hmem | hstage
  · exact Or.inl (hd ▸ Finset.mem_insert_of_mem hmem)
  · exact Or.inr (Or.inl (hu ▸ hmem))
  · rcases hr k hmem with heq | hmem
    · exact Or.inl (hself heq)
    · exact Or.inr (Or.inr (Or.inl hmem))
  · rcases hh k hstage with heq | hstage
    · exact Or.inl (hself heq)
    · exact Or.inr (Or.inr (Or.inr hstage))

/-- A service that is removed is held by the monitor that removes it. -/
theorem Accounted.kept_remove {s s' : MonitorState K} (h : Accounted keys s) {key : K}
    (hd : s'.drained = s.drained.erase key) (hu : s.unhealthyKeys ⊆ s'.unhealthyKeys)
    (hr : s.rateLimitedProviders ⊆ s'.rateLimitedProviders)
    (hh : ∀ k, s.health = .inserting k → s'.health = .inserting k)
    (hheld : key ∈ s'.unhealthyKeys ∨ key ∈ s'.rateLimitedProviders) :
    ∀ k ∈ keys, k ∈ s'.drained ∨ k ∈ s'.unhealthyKeys ∨ k ∈ s'.rateLimitedProviders ∨
      s'.health = .inserting k := by
  intro k hk
  rcases h.kept k hk with hmem | hmem | hmem | hstage
  · by_cases heq : k = key
    · subst heq
      exact Or.inr (hheld.imp id Or.inl)
    · rw [hd]
      exact Or.inl (Finset.mem_erase.mpr ⟨heq, hmem⟩)
  · exact Or.inr (Or.inl (hu hmem))
  · exact Or.inr (Or.inr (Or.inl (hr hmem)))
  · exact Or.inr (Or.inr (Or.inr (hh k hstage)))

/-- The health monitor goes on to another stage, from one that inserts nothing. -/
theorem Accounted.withHealth {s : MonitorState K} (h : Accounted keys s)
    (hstage : ∀ key, s.health ≠ .inserting key) (stage : HealthStage K) :
    Accounted keys { s with health := stage } where
  kept k hk := by
    rcases h.kept k hk with hmem | hmem | hmem | hinserting
    · exact Or.inl hmem
    · exact Or.inr (Or.inl hmem)
    · exact Or.inr (Or.inr (Or.inl hmem))
    · exact absurd hinserting (hstage k)
  scheduled := h.scheduled

/-- The rate limit monitor goes on to another stage, from one that restores nothing. -/
theorem Accounted.withRate {s : MonitorState K} (h : Accounted keys s)
    (hstage : ∀ restore, s.rate ≠ .restoring restore) (stage : RateStage K) :
    Accounted keys { s with rate := stage } where
  kept := h.kept
  scheduled k hk := by
    rcases h.scheduled k hk with hpending | ⟨restore, hrestoring, -⟩
    · exact Or.inl hpending
    · exact absurd hrestoring (hstage restore)

/-- **No step forgets a service**, unless a monitor stops. -/
theorem Accounted.step {s s' : MonitorState K} {a : MonitorAction K} (h : Accounted keys s)
    (hstep : MonitorStep parseHttpDate kind s a s') (halive : s'.Alive) : Accounted keys s' := by
  cases hstep with
  | healthCheck key isHealthy hidle =>
    have hnone : ∀ k, s.health ≠ .inserting k := by simp [hidle]
    unfold checkHealth
    dsimp only
    split
    · exact h.withHealth hnone _
    · split
      · -- the key that is forgotten is about to be inserted
        refine ⟨fun k hk => ?_, h.scheduled⟩
        by_cases heq : k = key
        · exact Or.inr (Or.inr (Or.inr (congrArg HealthStage.inserting heq.symm)))
        · rcases h.kept k hk with hmem | hmem | hmem | hstage
          · exact Or.inl hmem
          · exact Or.inr (Or.inl (Finset.mem_erase.mpr ⟨heq, hmem⟩))
          · exact Or.inr (Or.inr (Or.inl hmem))
          · exact absurd hstage (hnone k)
      · exact h
  | healthRemoveSent key hstage _ =>
    -- the key is recorded as soon as its removal has been sent
    refine ⟨h.kept_remove (drained_send s (.remove key)) (Finset.subset_insert _ _) subset_rfl
      (fun k hk => ?_) (Or.inl (Finset.mem_insert_self _ _)), h.scheduled⟩
    rw [hstage] at hk
    cases hk
  | healthInsertSent key hstage _ =>
    refine ⟨h.kept_insert (drained_send s (.insert key)) rfl (fun k hk => Or.inr hk)
      (fun k hk => ?_), h.scheduled⟩
    rw [hstage] at hk
    exact Or.inl (HealthStage.inserting.inj hk).symm
  | healthFailed key _ => exact absurd rfl halive.health
  | rateLimited response hidle =>
    obtain ⟨rate, hframe⟩ := @receiveEvent_frame _ _ kind s response
    rw [hframe]
    exact h.withRate (by simp [hidle]) rate
  | rateRemoveSent key response hstage _ =>
    -- the monitor is alive, so the restore has been scheduled
    obtain ⟨timer, hscheduled⟩ := scheduleRestore_of_alive halive
    rw [hscheduled]
    refine ⟨h.kept_remove (drained_send s (.remove key)) subset_rfl (Finset.subset_insert _ _)
      (fun _ hk => hk) (Or.inr (Finset.mem_insert_self _ _)), fun k hk => Or.inl ?_⟩
    rcases Finset.mem_insert.mp hk with rfl | hk
    · exact ⟨_, List.mem_cons_self, rfl⟩
    · rcases h.scheduled k hk with ⟨restore, hmem, hkey⟩ | ⟨restore, hrestoring, -⟩
      · exact ⟨restore, List.mem_cons_of_mem _ hmem, hkey⟩
      · rw [hstage] at hrestoring
        cases hrestoring
  | timerFired before after restore hidle hpending =>
    -- the restore that leaves the queue is the one the monitor is at now
    refine ⟨h.kept, fun k hk => ?_⟩
    rcases h.scheduled k hk with ⟨restore', hmem, hkey⟩ | ⟨restore', hrestoring, -⟩
    · rw [hpending] at hmem
      rcases List.mem_append.mp hmem with hmem | hmem
      · exact Or.inl ⟨restore', List.mem_append_left _ hmem, hkey⟩
      · rcases List.mem_cons.mp hmem with rfl | hmem
        · exact Or.inr ⟨restore', rfl, hkey⟩
        · exact Or.inl ⟨restore', List.mem_append_right _ hmem, hkey⟩
    · rw [hidle] at hrestoring
      cases hrestoring
  | restoreSent restore hstage _ =>
    refine ⟨h.kept_insert (drained_send s (.insert restore.key)) rfl (fun k hk => ?_)
      (fun k hk => Or.inr hk), fun k hk => Or.inl ?_⟩
    · exact (em (k = restore.key)).imp_right fun hne => Finset.mem_erase.mpr ⟨hne, hk⟩
    · -- what is held besides the restored key has a restore of its own
      obtain ⟨hne, hk⟩ := Finset.mem_erase.mp hk
      rcases h.scheduled k hk with hmem | ⟨restore', hrestoring, hkey⟩
      · exact hmem
      · rw [hstage] at hrestoring
        obtain rfl := RateStage.restoring.inj hrestoring
        exact absurd hkey.symm hne
  | restoreFailed restore _ => exact absurd rfl halive.rate.1
  | delivered =>
    -- what is delivered had been sent, so nothing changes for the monitors
    obtain ⟨hu, hh, hr, hp, hrate⟩ := deliver_frame s
    refine ⟨?_, ?_⟩
    · rw [drained_deliver, hu, hh, hr]
      exact h.kept
    · rw [hr, hp, hrate]
      exact h.scheduled

/-- The health monitor goes on to another stage, which is about a configured service. -/
theorem Within.withHealth {s : MonitorState K} (h : Within keys s) (stage : HealthStage K)
    (hstage : ∀ key, stage = .removing key ∨ stage = .inserting key → key ∈ keys) :
    Within keys { s with health := stage } where
  drained := h.drained
  unhealthy := h.unhealthy
  health := hstage
  removing := h.removing
  pending := h.pending

/-- The rate limit monitor goes on to another stage, which is about a configured service. -/
theorem Within.withRate {s : MonitorState K} (h : Within keys s) (stage : RateStage K)
    (hremoving : ∀ key response, stage = .removing key response → key ∈ keys)
    (hrestoring : ∀ restore, stage = .restoring restore → restore.key ∈ keys) :
    Within keys { s with rate := stage } where
  drained := h.drained
  unhealthy := h.unhealthy
  health := h.health
  removing := hremoving
  pending restore hr := hr.elim (fun hr => h.pending restore (Or.inl hr)) (hrestoring restore)

/-- A change is sent, and what it inserts is a configured service. -/
theorem Within.send {s : MonitorState K} (h : Within keys s) {change : Change K}
    (hchange : ∀ key, change = .insert key → key ∈ keys) : Within keys (s.send change) where
  drained k hk := by
    rw [drained_send] at hk
    cases change with
    | insert key =>
      rcases Finset.mem_insert.mp hk with rfl | hk
      · exact hchange k rfl
      · exact h.drained k hk
    | remove key => exact h.drained k (Finset.mem_of_mem_erase hk)
  unhealthy := h.unhealthy
  health := h.health
  removing := h.removing
  pending := h.pending

/-- **No step brings in another service.** -/
theorem Within.step {s s' : MonitorState K} {a : MonitorAction K} (h : Within keys s)
    (hstep : MonitorStep parseHttpDate kind s a s') (hconcerns : Concerns kind keys a) :
    Within keys s' := by
  cases hstep with
  | healthCheck key isHealthy hidle =>
    have hkey : key ∈ keys := hconcerns
    have hstage : ∀ stage : HealthStage K, stage = .removing key ∨ stage = .inserting key →
        ∀ k, stage = .removing k ∨ stage = .inserting k → k ∈ keys := by
      rintro stage (rfl | rfl) k (hk | hk) <;> cases hk <;> exact hkey
    unfold checkHealth
    dsimp only
    split
    · exact h.withHealth _ (hstage _ (Or.inl rfl))
    · split
      · exact { h.withHealth _ (hstage _ (Or.inr rfl)) with
          unhealthy := fun k hk => h.unhealthy k (Finset.mem_of_mem_erase hk) }
      · exact h
  | healthRemoveSent key hstage _ =>
    have hsent : Within keys (s.send (.remove key)) := h.send nofun
    refine { hsent.withHealth .idle nofun with unhealthy := fun k hk => ?_ }
    rcases Finset.mem_insert.mp hk with rfl | hk
    · exact h.health k (Or.inl hstage)
    · exact h.unhealthy k hk
  | healthInsertSent key hstage _ =>
    have hsent : Within keys (s.send (.insert key)) := by
      refine h.send fun k hk => ?_
      cases hk
      exact h.health key (Or.inr hstage)
    exact hsent.withHealth .idle nofun
  | healthFailed key _ => exact h.withHealth .failed nofun
  | rateLimited response hidle =>
    unfold receiveEvent
    split
    · exact h.withRate .failed nofun nofun
    · next key hcreate =>
      split
      · exact h
      · -- the key is made from the endpoint of a configured service
        refine h.withRate _ (fun k r hk => ?_) nofun
        exact (RateStage.removing.inj hk).1 ▸ hconcerns key hcreate
  | rateRemoveSent key response hstage _ =>
    have hsent : Within keys (s.send (.remove key)) := h.send nofun
    unfold scheduleRestore
    split
    · refine { hsent.withRate .idle nofun nofun with pending := fun restore hr => ?_ }
      rcases List.mem_cons.mp (hr.resolve_right nofun) with rfl | hr
      · exact h.removing key response hstage
      · exact h.pending restore (Or.inl hr)
    · exact { hsent.withRate .panicked nofun nofun with }
  | timerFired before after restore hidle hpending =>
    -- what is pending has been pending before, and so has what is restored now
    have hmem : ∀ r ∈ before ++ restore :: after, r.key ∈ keys :=
      fun r hr => h.pending r (Or.inl (hpending ▸ hr))
    refine { h with removing := nofun, pending := fun r hr => ?_ }
    rcases hr with hr | hr
    · rcases List.mem_append.mp hr with hr | hr
      · exact hmem r (List.mem_append_left _ hr)
      · exact hmem r (List.mem_append_right _ (List.mem_cons_of_mem _ hr))
    · obtain rfl := RateStage.restoring.inj hr
      exact hmem _ (List.mem_append_right _ List.mem_cons_self)
  | restoreSent restore hstage _ =>
    have hsent : Within keys (s.send (.insert restore.key)) := by
      refine h.send fun k hk => ?_
      cases hk
      exact h.pending restore (Or.inr hstage)
    exact { hsent.withRate .idle nofun nofun with }
  | restoreFailed restore _ => exact h.withRate .failed nofun nofun
  | delivered =>
    obtain ⟨hu, hh, -, hp, hrate⟩ := deliver_frame s
    refine ⟨?_, hu.symm ▸ h.unhealthy, hh.symm ▸ h.health, hrate.symm ▸ h.removing, ?_⟩
    · rw [drained_deliver]
      exact h.drained
    · rw [hp, hrate]
      exact h.pending

/-- **No provider is lost.** In every state of a run in which no monitor has stopped, each
configured service is in the balancer, once what was sent is applied, or in the hands of a monitor
that is going to insert it. -/
theorem accounted (parseHttpDate : List Char → Option DateTime) (kind : MonitorKind K)
    (keys : List K) {tr : List (MonitorAction K × MonitorState K)}
    (hrun : (monitors parseHttpDate kind keys).Run (monitors parseHttpDate kind keys).init tr) :
    System.AllStates (fun s => s.Alive → Accounted keys s)
      (monitors parseHttpDate kind keys).init tr :=
  hrun.invariant
    (fun _ _ _ h hstep halive => (h (alive_of_step hstep halive)).step hstep halive)
    fun _ => accounted_init keys

/-- OpenAI is rate limited, and then found unhealthy as well. -/
theorem accounted_removed :
    ∃ tr : List (MonitorAction Key × MonitorState Key), tr.length = 5 ∧
      System.AllStates (fun s => s.Alive → Accounted [openAIChat] s)
        (monitors (fun _ => none) latencyMonitor [openAIChat]).init tr := by
  have hrun : (monitors (fun _ => none) latencyMonitor [openAIChat]).Run
      (monitors (fun _ => none) latencyMonitor [openAIChat]).init _ :=
    .cons (.delivered _) <|
    .cons (.rateLimited _ openAITooManyRequests rfl) <|
    .cons (.rateRemoveSent _ openAIChat openAITooManyRequests rfl (by decide)) <|
    .cons (.healthCheck _ openAIChat false rfl) <|
    .cons (.healthRemoveSent _ openAIChat rfl (by decide)) <|
    .nil _
  exact ⟨_, rfl, accounted (fun _ => none) latencyMonitor [openAIChat] hrun⟩

/-! ### Calm -/

/-- No check fails, no 429 arrives, and every service can be built. -/
def Calm (keys : List K) : MonitorAction K → Prop
  | .healthCheck key isHealthy => key ∈ keys ∧ isHealthy = true
  | .healthFailed | .restoreFailed | .rateLimited _ => False
  | _ => True

omit [DecidableEq K] in
theorem concerns_of_calm {a : MonitorAction K} (h : Calm keys a) : Concerns kind keys a := by
  cases a with
  | healthCheck key isHealthy => exact h.1
  | rateLimited response => exact h.elim
  | _ => trivial

/-- The monitors while all is calm; a check that finds nothing new and a poll of an empty channel
are no steps. -/
def calmMonitors (parseHttpDate : List Char → Option DateTime) (kind : MonitorKind K)
    (keys : List K) : System (MonitorState K) (MonitorAction K) where
  init := (monitors parseHttpDate kind keys).init
  step s a s' := MonitorStep parseHttpDate kind s a s' ∧ Calm keys a ∧ s' ≠ s

/-- A calm run is a run. -/
theorem run_of_calm {s : MonitorState K} {tr : List (MonitorAction K × MonitorState K)}
    (h : (calmMonitors parseHttpDate kind keys).Run s tr) :
    (configuredMonitors parseHttpDate kind keys).Run s tr := by
  induction h with
  | nil s => exact .nil s
  | cons hstep _ ih => exact .cons ⟨hstep.1, concerns_of_calm hstep.2.1⟩ ih

def HealthStage.workLeft : HealthStage K → ℕ
  | .removing _ => 5
  | .inserting _ => 2
  | _ => 0

def RateStage.workLeft : RateStage K → ℕ
  | .removing _ _ => 5
  | .restoring _ => 2
  | _ => 0

/-- The steps that are left at most: a change is delivered in one, a service that is to be inserted
takes one more to send it, and one that is held another one to notice that. -/
def MonitorState.workLeft (s : MonitorState K) : ℕ :=
  s.initial.length + s.events.length + 3 * s.unhealthyKeys.card + 3 * s.pendingRestores.length +
    s.health.workLeft + s.rate.workLeft

/-- **Every calm step is progress.** -/
theorem workLeft_lt {s s' : MonitorState K} {a : MonitorAction K}
    (hstep : (calmMonitors parseHttpDate kind keys).step s a s') : s'.workLeft < s.workLeft := by
  obtain ⟨hstep, hcalm, hne⟩ := hstep
  unfold MonitorState.workLeft
  cases hstep with
  -- a check in favour does something only for a key that is held to be unhealthy
  | healthCheck key isHealthy hidle =>
    obtain ⟨-, rfl⟩ := hcalm
    unfold checkHealth at hne ⊢
    dsimp only at hne ⊢
    rw [if_neg (by simp)] at hne ⊢
    split at hne
    · next hheld =>
      rw [if_pos hheld]
      have hcard := Finset.card_erase_lt_of_mem hheld.2
      simp only [hidle, HealthStage.workLeft]
      omega
    · exact absurd rfl hne
  | healthRemoveSent key hstage _ =>
    have hcard := Finset.card_insert_le key s.unhealthyKeys
    simp only [hstage, HealthStage.workLeft, MonitorState.send, List.length_append,
      List.length_singleton]
    omega
  | healthInsertSent key hstage _ =>
    simp only [hstage, HealthStage.workLeft, MonitorState.send, List.length_append,
      List.length_singleton]
    omega
  -- no dispatcher fails and no 429 arrives while it is calm
  | healthFailed key _ => exact hcalm.elim
  | rateLimited response hidle => exact hcalm.elim
  | rateRemoveSent key response hstage _ =>
    unfold scheduleRestore
    split <;>
    · simp only [hstage, RateStage.workLeft, MonitorState.send, List.length_append,
        List.length_nil, List.length_cons]
      omega
  -- the timer that fires is one of those that are counted
  | timerFired before after restore hidle hpending =>
    simp only [hidle, hpending, RateStage.workLeft, List.length_append, List.length_cons]
    omega
  | restoreSent restore hstage _ =>
    simp only [hstage, RateStage.workLeft, MonitorState.send, List.length_append,
      List.length_singleton]
    omega
  | restoreFailed restore _ => exact hcalm.elim
  | delivered =>
    obtain ⟨hu, hh, -, hp, hrate⟩ := deliver_frame s
    rw [hu, hh, hp, hrate]
    -- a delivery with nothing to deliver would leave the state as it is
    have hsome : s.initial.length + s.events.length ≠ 0 := by
      intro hzero
      obtain ⟨hinitial, hevents⟩ := Nat.add_eq_zero_iff.mp hzero
      refine hne ?_
      unfold deliver
      rw [List.eq_nil_of_length_eq_zero hinitial, List.eq_nil_of_length_eq_zero hevents]
    obtain ⟨n, hn⟩ := Nat.exists_eq_succ_of_ne_zero hsome
    have hless := Ticks.length_deliver hn
    omega

/-- All configured services are in the balancer, nothing else is, and nothing is left to do. -/
structure Recovered (keys : List K) (s : MonitorState K) : Prop where
  services : s.services = keys.toFinset
  unhealthy : s.unhealthyKeys = ∅
  rateLimited : s.rateLimitedProviders = ∅
  pending : s.pendingRestores = []
  queues : s.initial = [] ∧ s.events = []
  idle : s.health = .idle ∧ s.rate = .idle

theorem Recovered.quiet {s : MonitorState K} (h : Recovered keys s) (a : MonitorAction K)
    (s' : MonitorState K) : ¬ (calmMonitors parseHttpDate kind keys).step s a s' := by
  rintro ⟨hstep, hcalm, hne⟩
  obtain ⟨hhealth, hrate⟩ := h.idle
  cases hstep with
  | healthCheck key isHealthy _ =>
    obtain ⟨-, rfl⟩ := hcalm
    exact hne (by simp [checkHealth, h.unhealthy])
  | healthRemoveSent key hstage _ => simp [hhealth] at hstage
  | healthInsertSent key hstage _ => simp [hhealth] at hstage
  | healthFailed key _ => exact hcalm.elim
  | rateLimited response _ => exact hcalm.elim
  | rateRemoveSent key response hstage _ => simp [hrate] at hstage
  | timerFired before after restore _ hpending => simp [h.pending] at hpending
  | restoreSent restore hstage _ => simp [hrate] at hstage
  | restoreFailed restore _ => exact hcalm.elim
  | delivered => exact hne (by simp [deliver, h.queues])

/-- **When nothing can be done, nothing is to be done.** -/
theorem recovered_of_quiet {s : MonitorState K} (halive : s.Alive) (haccounted : Accounted keys s)
    (hwithin : Within keys s)
    (hquiet : ∀ a s', ¬ (calmMonitors parseHttpDate kind keys).step s a s') :
    Recovered keys s := by
  -- every queue is empty, or a delivery would take something from it
  have hqueues : s.initial.length + s.events.length = 0 := by
    by_contra hsome
    obtain ⟨n, hn⟩ := Nat.exists_eq_succ_of_ne_zero hsome
    refine hquiet .delivered (deliver s) ⟨.delivered s, trivial, fun heq => ?_⟩
    have hless := Ticks.length_deliver hn
    rw [heq] at hless
    omega
  obtain ⟨hinitial, hevents⟩ := Nat.add_eq_zero_iff.mp hqueues
  have hinitial := List.eq_nil_of_length_eq_zero hinitial
  have hevents := List.eq_nil_of_length_eq_zero hevents
  have hroom : s.HasRoom := by
    unfold MonitorState.HasRoom
    rw [hevents]
    exact (by decide : 0 < channelCapacity)
  -- so neither monitor waits for room
  have hhealth : s.health = .idle := by
    cases hstage : s.health with
    | idle => rfl
    | removing key =>
      refine absurd ⟨.healthRemoveSent s key hstage hroom, trivial, fun heq => ?_⟩ (hquiet _ _)
      have hidle := congrArg MonitorState.health heq
      rw [hstage] at hidle
      cases hidle
    | inserting key =>
      refine absurd ⟨.healthInsertSent s key hstage hroom, trivial, fun heq => ?_⟩ (hquiet _ _)
      have hidle := congrArg MonitorState.health heq
      rw [hstage] at hidle
      cases hidle
    | failed => exact absurd hstage halive.health
  have hrate : s.rate = .idle := by
    cases hstage : s.rate with
    | idle => rfl
    | removing key response =>
      refine absurd ⟨.rateRemoveSent s key response hstage hroom, trivial, fun heq => ?_⟩
        (hquiet _ _)
      have hstage' := congrArg MonitorState.rate heq
      rw [hstage] at hstage'
      unfold scheduleRestore at hstage'
      split at hstage' <;> cases hstage'
    | restoring restore =>
      refine absurd ⟨.restoreSent s restore hstage hroom, trivial, fun heq => ?_⟩ (hquiet _ _)
      have hidle := congrArg MonitorState.rate heq
      rw [hstage] at hidle
      cases hidle
    | failed => exact absurd hstage halive.rate.1
    | panicked => exact absurd hstage halive.rate.2
  have hunhealthy : s.unhealthyKeys = ∅ := by
    by_contra hsome
    obtain ⟨key, hkey⟩ := Finset.nonempty_iff_ne_empty.mpr hsome
    refine hquiet (.healthCheck key true) _
      ⟨.healthCheck s key true hhealth, ⟨hwithin.unhealthy key hkey, rfl⟩, fun heq => ?_⟩
    have hstage := congrArg MonitorState.health heq
    simp [checkHealth, hkey, hhealth] at hstage
  have hpending : s.pendingRestores = [] := by
    cases hlist : s.pendingRestores with
    | nil => rfl
    | cons restore rest =>
      refine absurd ⟨.timerFired s [] rest restore hrate hlist, trivial, fun heq => ?_⟩ (hquiet _ _)
      have hstage := congrArg MonitorState.rate heq
      rw [hrate] at hstage
      cases hstage
  have hlimited : s.rateLimitedProviders = ∅ := by
    refine Finset.eq_empty_of_forall_notMem fun key hkey => ?_
    rcases haccounted.scheduled key hkey with ⟨restore, hmem, -⟩ | ⟨restore, hrestoring, -⟩
    · rw [hpending] at hmem
      cases hmem
    · rw [hrate] at hrestoring
      cases hrestoring
  -- nobody holds a service, so all of them are in the balancer
  have hdrained : s.drained = s.services := by
    unfold MonitorState.drained
    rw [hinitial, hevents]
    rfl
  refine ⟨?_, hunhealthy, hlimited, hpending, ⟨hinitial, hevents⟩, hhealth, hrate⟩
  ext key
  rw [List.mem_toFinset, ← hdrained]
  refine ⟨hwithin.drained key, fun hkey => ?_⟩
  rcases haccounted.kept key hkey with hmem | hmem | hmem | hstage
  · exact hmem
  · rw [hunhealthy] at hmem
    exact absurd hmem (Finset.notMem_empty key)
  · rw [hlimited] at hmem
    exact absurd hmem (Finset.notMem_empty key)
  · rw [hhealth] at hstage
    cases hstage

/-- OpenAI is rate limited, and its removal is on its way. -/
def openAIRateLimited : MonitorState Key where
  unhealthyKeys := ∅
  health := .idle
  rateLimitedProviders := {openAIChat}
  pendingRestores := [openAIRestore]
  rate := .idle
  initial := []
  events := [.remove openAIChat]
  services := {openAIChat}

end AiGateway
