import SkyAutoPlayer.Desktop.CatalogSearchFresh
import SkyAutoPlayer.Desktop.PreparedPlans

/-!
# No plan is started stale

Every plan of the cache was published after the last invalidation and for the current catalog, since
whatever changes the catalog or counts as an invalidation leaves no plan behind. A start that has
read the source of its plan finds either the plan whose digest it has compared, or no plan at all,
since a random id is neither published twice nor named before it is published.
-/

namespace SkyAutoPlayer.Desktop

open Foundation AppCore

variable {tables : CatalogTables} {choice : PlaybackChoice} {runtime after : PlaybackRuntime}
  {call next : PlaybackCall} {plan : PreparedPlan} {token : ℕ}

/-- Every plan of the cache is published once, after the last invalidation and for the current
catalog, and every id of a plan or a session has been named. -/
structure CacheFresh (runtime : PlaybackRuntime) : Prop where
  generation : ∀ generation, runtime.publication.catalogGeneration = some generation →
    generation = runtime.catalog.generation
  plans : ∀ plan ∈ runtime.prepared,
    runtime.publication.catalogGeneration = some plan.generation ∧
      plan.publishedAt = runtime.invalidations
  capacity : runtime.prepared.length ≤ maxPreparedPlans
  ids : (runtime.sessions.map (·.plan.preparedId) ++ runtime.prepared.map (·.preparedId)).Nodup
  named : ∀ preparedId ∈
    runtime.sessions.map (·.plan.preparedId) ++ runtime.prepared.map (·.preparedId),
    preparedId ∈ runtime.namedIds

/-- An id that a start has named belongs to no plan, or to one with the digest. -/
structure Expected (runtime : PlaybackRuntime) (preparedId : String) (hash : Option String) :
    Prop where
  named : preparedId ∈ runtime.namedIds
  hash : ∀ plan ∈ runtime.prepared, plan.preparedId = preparedId → hash = some plan.sourceHash

/-- What a start has found out about its plan. -/
def StartExpects (tables : CatalogTables) (runtime : PlaybackRuntime) : PlaybackCall → Prop
  | .readSource request _ hash => Expected runtime request.preparedId (some hash)
  | .startSettings request bytes | .takePlan request bytes _ =>
    Expected runtime request.preparedId (bytes.map (sha256Hex tables))
  | _ => True

/-- A session has a plan of the settings it was given, of the bytes it has read and of the catalog
at its lookup, and no invalidation came between its publication and its lookup. -/
structure StartedSession.Current (tables : CatalogTables) (session : StartedSession) : Prop where
  uninvalidated : session.plan.publishedAt = session.invalidations
  settings : session.plan.settingsFingerprint = settingsFingerprint tables session.settings
  catalog : session.plan.generation = session.catalogGeneration
  source : ∃ bytes, session.bytes = some bytes ∧ sha256Hex tables bytes = session.plan.sourceHash

/-- What a step does to the cache: it keeps a part of it, it keeps no plan of the catalog that was
current, it publishes a plan, or it takes one into a session. -/
inductive CacheStep (tables : CatalogTables) (runtime after : PlaybackRuntime) (call : PlaybackCall) :
    Prop where
  | keeps (hprepared : after.prepared.Sublist runtime.prepared)
      (hsessions : after.sessions = runtime.sessions)
      (hinvalidations : after.invalidations = runtime.invalidations)
      (hcatalog : after.catalog = runtime.catalog)
      (hgeneration : after.publication.catalogGeneration = runtime.publication.catalogGeneration)
      (hnamed : runtime.namedIds ⊆ after.namedIds)
  | clears (hprepared : after.prepared.Sublist runtime.prepared)
      (hcleared : CacheFresh runtime → ∀ plan ∈ after.prepared,
        runtime.publication.catalogGeneration ≠ some plan.generation)
      (hsessions : after.sessions = runtime.sessions)
      (hgeneration : ∀ generation, after.publication.catalogGeneration = some generation →
        generation = after.catalog.generation ∨
          after.catalog = runtime.catalog ∧
            runtime.publication.catalogGeneration = some generation)
      (hnamed : after.namedIds = runtime.namedIds)
  | publishes (plan : PreparedPlan) (hafter : after = runtime.publishPlan plan)
      (hlive : runtime.cancelled plan.token = false)
      (hgeneration : runtime.publication.catalogGeneration = some plan.generation)
      (hpublished : plan.publishedAt = runtime.invalidations)
      (hnew : idIsFresh runtime call = true → plan.preparedId ∉ runtime.namedIds)
  | starts (request : PlaybackStartRequest) (bytes : Option (List UInt8)) (settings : PlanSettings)
      (plan : PreparedPlan) (hcall : call = .takePlan request bytes settings)
      (hplan : runtime.preparedPlan? request.preparedId = some plan)
      (hsettings : plan.settingsFingerprint = settingsFingerprint tables settings)
      (hafter : after = runtime.startSession plan bytes settings)

/-- Cancelling the active request changes a token at most. -/
theorem cancelActive_eq :
    runtime.cancelActive = { runtime with tokens := runtime.cancelActive.tokens } := by
  unfold PlaybackRuntime.cancelActive
  split <;> rfl

/-- The current Prepare is not cancelled. -/
theorem ensureCurrentPrepare_ok (h : runtime.ensureCurrentPrepare token = .ok ()) :
    runtime.cancelled token = false := by
  have hcurrent := failIf_eq_ok.mp h
  rw [not_or] at hcurrent
  exact Bool.eq_false_of_not_eq_true hcurrent.1

/-- A Prepare may publish while it is not cancelled and the catalog is the one it captured. -/
theorem ensurePrepareSource_ok {input : NativePreparedInput}
    (h : runtime.ensurePrepareSource input token = .ok ()) :
    runtime.cancelled token = false ∧
      runtime.publication.catalogGeneration = some input.generation := by
  simp only [PlaybackRuntime.ensurePrepareSource, Except.bind_eq_ok, failIf_eq_ok] at h
  obtain ⟨⟨⟩, hcurrent, hsource⟩ := h
  have hgeneration : ¬runtime.publication.catalogGeneration ≠ some input.generation :=
    fun hchanged => hsource (.inr (.inl hchanged))
  exact ⟨ensureCurrentPrepare_ok hcurrent, not_not.mp hgeneration⟩

/-- A runtime with the same plans, sessions, ids, counts and catalog keeps its cache. -/
theorem CacheStep.same (hprepared : after.prepared = runtime.prepared)
    (hsessions : after.sessions = runtime.sessions)
    (hinvalidations : after.invalidations = runtime.invalidations)
    (hcatalog : after.catalog = runtime.catalog)
    (hgeneration : after.publication.catalogGeneration = runtime.publication.catalogGeneration)
    (hnamed : after.namedIds = runtime.namedIds) : CacheStep tables runtime after call :=
  .keeps (hprepared ▸ List.Sublist.refl _) hsessions hinvalidations hcatalog hgeneration
    (hnamed ▸ List.Subset.refl _)

/-- An unchanged runtime keeps its cache. -/
theorem CacheStep.refl : CacheStep tables runtime runtime call := .same rfl rfl rfl rfl rfl rfl

/-- A filter that keeps nothing leaves no plan. -/
theorem not_mem_filter_false (h : plan ∈ runtime.prepared.filter fun _ => false) : False := by
  rw [List.filter_false] at h
  exact List.not_mem_nil h

/-- A Prepare begins without a change of the cache. -/
theorem beginPreparation_step : CacheStep tables runtime runtime.beginPreparation.1 call := by
  rw [PlaybackRuntime.beginPreparation, cancelActive_eq]
  exact .same rfl rfl rfl rfl rfl rfl

/-- A Prepare finishes without a change of the cache. -/
theorem finishPreparation_step : CacheStep tables runtime (runtime.finishPreparation token) call := by
  unfold PlaybackRuntime.finishPreparation
  split <;> exact .same rfl rfl rfl rfl rfl rfl

/-- A selection clears the cache. -/
theorem invalidatePreparedForSelection_step :
    CacheStep tables runtime runtime.invalidatePreparedForSelection call := by
  rw [PlaybackRuntime.invalidatePreparedForSelection, cancelActive_eq]
  exact .clears List.filter_sublist (fun _ plan hmem _ => not_mem_filter_false hmem) rfl
    (fun generation h => .inr ⟨rfl, h⟩) rfl

/-- Changed settings clear the cache. -/
theorem invalidateSettingsLocked_step {fingerprint : String} {settings : PlanSettings} :
    CacheStep tables runtime
      (({ runtime with settings } : PlaybackRuntime).invalidateSettingsLocked fingerprint) call := by
  rw [PlaybackRuntime.invalidateSettingsLocked, cancelActive_eq]
  exact .clears List.filter_sublist (fun _ plan hmem _ => not_mem_filter_false hmem) rfl
    (fun generation h => .inr ⟨rfl, h⟩) rfl

/-- A patch of the settings clears the cache or keeps it. -/
theorem patchSettings_step {safe : Bool} {patched : PlanSettings} :
    CacheStep tables runtime (runtime.patchSettings tables safe patched) call := by
  unfold PlaybackRuntime.patchSettings
  dsimp only
  split
  · exact invalidateSettingsLocked_step
  · exact .same rfl rfl rfl rfl rfl rfl

/-- A reload of the settings clears the cache or keeps it. -/
theorem reloadSettings_step {reloaded : PlanSettings} :
    CacheStep tables runtime (runtime.reloadSettings tables reloaded) call := by
  unfold PlaybackRuntime.reloadSettings
  dsimp only
  split
  · exact invalidateSettingsLocked_step
  · exact .same rfl rfl rfl rfl rfl rfl

/-- A capture clears the cache where it finds a source changed. -/
theorem synchronizePrepareSourceLocked_step {fingerprint : String} :
    CacheStep tables runtime
      (runtime.synchronizePrepareSourceLocked runtime.catalog.generation fingerprint) call := by
  unfold PlaybackRuntime.synchronizePrepareSourceLocked
  dsimp only
  cases hcurrent : runtime.publication.catalogGeneration with
  | none =>
    have hnone (plan : PreparedPlan) :
        runtime.publication.catalogGeneration ≠ some plan.generation := by simp [hcurrent]
    split
    · exact .clears List.filter_sublist (fun _ plan _ => hnone plan) rfl
        (fun generation h => .inl (Option.some.inj h).symm) rfl
    · exact .clears (List.Sublist.refl _) (fun _ plan _ => hnone plan) rfl
        (fun generation h => .inl (Option.some.inj h).symm) rfl
  | some current =>
    split
    · exact .clears List.filter_sublist (fun _ plan hmem _ => not_mem_filter_false hmem) rfl
        (fun generation h => .inl (Option.some.inj h).symm) rfl
    · split
      case isTrue hchanged =>
        refine .clears List.filter_sublist (fun _ plan hmem hplan => ?_) rfl
          (fun generation h => .inl (Option.some.inj h).symm) rfl
        have hgeneration : plan.generation = runtime.catalog.generation :=
          of_decide_eq_true (List.mem_filter.mp hmem).2
        have hsame : current = runtime.catalog.generation :=
          (Option.some.inj (hcurrent.symm.trans hplan)).trans hgeneration
        simp [hsame] at hchanged
      case isFalse hunchanged =>
        have hsame : current = runtime.catalog.generation := by simpa using hunchanged
        refine .same rfl rfl rfl rfl ?_ rfl
        rw [hcurrent, hsame]

/-- A capture that succeeds takes over what it has read. -/
theorem capturePreparationSources_step {request : PlaybackPrepareRequest} {path hash : String}
    {input : NativePreparedInput}
    (h : runtime.capturePreparationSources tables request token path hash = .ok (after, input)) :
    CacheStep tables runtime after call := by
  simp only [PlaybackRuntime.capturePreparationSources, Except.bind_eq_ok, failIf_eq_ok,
    Except.mapError_eq_ok, Except.pure_eq_ok] at h
  obtain ⟨⟨⟩, -, currentPath, -, ⟨⟩, -, hcaptured⟩ := h
  obtain ⟨rfl, -⟩ := Prod.mk.inj hcaptured
  exact synchronizePrepareSourceLocked_step

/-- The next generation of the catalog is a new one. -/
theorem replaceEntries_generation {entries : List CatalogSourceEntry} {catalog : CatalogIndex}
    (h : runtime.catalog.replaceEntries tables entries = .ok catalog) :
    runtime.catalog.generation < catalog.generation := by
  simp only [CatalogIndex.replaceEntries, Except.bind_eq_ok, okOr_eq_ok, checkedAdd_eq_some,
    Except.pure_eq_ok] at h
  obtain ⟨indexed, -, generation, ⟨-, hgeneration⟩, rfl⟩ := h
  rw [← hgeneration]
  exact Nat.lt_succ_self _

/-- A composition clears the cache, which holds plans of the catalog before it only. -/
theorem applyCatalogComposition_step {entries : List CatalogSourceEntry} {invalidate : Bool}
    (h : runtime.applyCatalogComposition tables entries invalidate = .ok after) :
    CacheStep tables runtime after call := by
  simp only [PlaybackRuntime.applyCatalogComposition, Except.bind_eq_ok, Except.mapError_eq_ok,
    Except.pure_eq_ok] at h
  obtain ⟨catalog, hcatalog, rfl⟩ := h
  have hlater := replaceEntries_generation hcatalog
  unfold PlaybackRuntime.invalidateCatalogLocked
  dsimp only
  split
  · rw [cancelActive_eq]
    refine .clears List.filter_sublist (fun hcache plan hmem hplan => ?_) rfl
      (fun generation h => .inl (Option.some.inj h).symm) rfl
    have hnew : plan.generation = catalog.generation :=
      of_decide_eq_true (List.mem_filter.mp hmem).2
    have hold := hcache.generation plan.generation hplan
    omega
  case isFalse hunchanged =>
    refine .clears (List.Sublist.refl _) (fun hcache plan hmem hplan => ?_) rfl
      (fun generation h => .inl (Option.some.inj h).symm) rfl
    have hold := hcache.generation plan.generation hplan
    have hne : plan.generation ≠ catalog.generation := by omega
    simp [hplan, hne] at hunchanged

/-- A plan that can be started is the one with the id, for the settings given. -/
theorem startablePlan_ok {request : PlaybackStartRequest} {settings : PlanSettings}
    (h : runtime.startablePlan tables choice request settings = .ok plan) :
    runtime.preparedPlan? request.preparedId = some plan ∧
      plan.settingsFingerprint = settingsFingerprint tables settings := by
  simp only [PlaybackRuntime.startablePlan, Except.bind_eq_ok, failIf_eq_ok, okOr_eq_ok,
    Except.pure_eq_ok] at h
  obtain ⟨⟨⟩, -, found, hfound, ⟨⟩, hsettings, -, -, -, -, -, -, ⟨⟩, -, ⟨⟩, -, rfl⟩ := h
  exact ⟨hfound, not_not.mp hsettings⟩

/-- What a step does to the cache. -/
theorem playbackStep_cases
    (hstep : playbackStep tables choice call runtime = some (after, next)) :
    CacheStep tables runtime after call := by
  cases call with
  | begin request =>
    obtain ⟨rfl, -⟩ := Prod.mk.inj (Option.some.inj hstep)
    exact beginPreparation_step
  | capture request token path hash =>
    rw [playbackStep] at hstep
    split at hstep <;> obtain ⟨rfl, -⟩ := Prod.mk.inj (Option.some.inj hstep)
    · exact .refl
    case h_2 hcaptured => exact capturePreparationSources_step hcaptured
  | publish input token planned preparedId =>
    rw [playbackStep] at hstep
    split at hstep <;> obtain ⟨rfl, -⟩ := Prod.mk.inj (Option.some.inj hstep)
    · exact .refl
    case h_2 hsource =>
      obtain ⟨hlive, hgeneration⟩ := ensurePrepareSource_ok hsource
      exact .publishes _ rfl hlive hgeneration rfl fun hfresh => of_decide_eq_true hfresh
  | finish token reply =>
    obtain ⟨rfl, -⟩ := Prod.mk.inj (Option.some.inj hstep)
    exact finishPreparation_step
  | invalidateForSelection =>
    obtain ⟨rfl, -⟩ := Prod.mk.inj (Option.some.inj hstep)
    exact invalidatePreparedForSelection_step
  | patchSettings safe =>
    rw [playbackStep] at hstep
    split at hstep <;> obtain ⟨rfl, -⟩ := Prod.mk.inj (Option.some.inj hstep)
    · exact .refl
    · exact patchSettings_step
  | reloadSettings =>
    rw [playbackStep] at hstep
    split at hstep <;> obtain ⟨rfl, -⟩ := Prod.mk.inj (Option.some.inj hstep)
    · exact .refl
    · exact reloadSettings_step
  | applyComposition entries invalidate =>
    rw [playbackStep] at hstep
    split at hstep <;> obtain ⟨rfl, -⟩ := Prod.mk.inj (Option.some.inj hstep)
    · exact .refl
    case h_2 happlied => exact applyCatalogComposition_step happlied
  | identify request =>
    rw [playbackStep] at hstep
    split at hstep
    · obtain ⟨rfl, -⟩ := Prod.mk.inj (Option.some.inj hstep)
      exact .refl
    · dsimp only at hstep
      split at hstep <;> obtain ⟨rfl, -⟩ := Prod.mk.inj (Option.some.inj hstep) <;>
        exact .keeps (List.Sublist.refl _) rfl rfl rfl rfl (List.subset_cons_self _ _)
  | discardSource request message =>
    obtain ⟨rfl, -⟩ := Prod.mk.inj (Option.some.inj hstep)
    exact .keeps List.filter_sublist rfl rfl rfl rfl (List.Subset.refl _)
  | takePlan request bytes settings =>
    rw [playbackStep] at hstep
    split at hstep <;> obtain ⟨rfl, -⟩ := Prod.mk.inj (Option.some.inj hstep)
    · exact .refl
    case h_2 hplan =>
      obtain ⟨hfound, hsettings⟩ := startablePlan_ok hplan
      exact .starts request bytes settings _ rfl hfound hsettings rfl
  | setSongLiked =>
    rw [playbackStep] at hstep
    split at hstep <;> obtain ⟨rfl, -⟩ := Prod.mk.inj (Option.some.inj hstep)
    · exact .refl
    · exact .same rfl rfl rfl rfl rfl rfl
  | retire =>
    obtain ⟨rfl, -⟩ := Prod.mk.inj (Option.some.inj hstep)
    exact .same rfl rfl rfl rfl rfl rfl
  | ensureLoaded | readEntry | readSong | validate | ensureSelected =>
    rw [playbackStep] at hstep
    split at hstep <;> obtain ⟨rfl, -⟩ := Prod.mk.inj (Option.some.inj hstep) <;> exact .refl
  | plan | check | analyze | analyzeVariants | readSource | startSettings =>
    obtain ⟨rfl, -⟩ := Prod.mk.inj (Option.some.inj hstep)
    exact .refl
  | returned => cases hstep

/-- A plan that is found is in the cache under its id. -/
theorem preparedPlan_some {preparedId : String} (h : runtime.preparedPlan? preparedId = some plan) :
    plan ∈ runtime.prepared ∧ plan.preparedId = preparedId :=
  ⟨List.mem_of_find?_eq_some h, by simpa using List.find?_some h⟩

/-- The newest plans are some of the plans. -/
theorem retainPreparedCapacity_sublist {prepared : List PreparedPlan} :
    (retainPreparedCapacity prepared).Sublist prepared :=
  List.drop_sublist _ _

/-- A step leaves plans of before, and plans with ids that have not been named. -/
theorem CacheStep.mem (h : CacheStep tables runtime after call) (hmem : plan ∈ after.prepared) :
    plan ∈ runtime.prepared ∨ runtime.cancelled plan.token = false ∧
      (idIsFresh runtime call = true → plan.preparedId ∉ runtime.namedIds) := by
  cases h with
  | keeps hprepared => exact .inl (hprepared.subset hmem)
  | clears hprepared => exact .inl (hprepared.subset hmem)
  | publishes published hafter hlive _ _ hnew =>
    subst hafter
    rcases List.mem_append.mp (retainPreparedCapacity_sublist.subset hmem) with hold | hpublished
    · exact .inl hold
    · obtain rfl := List.mem_singleton.mp hpublished
      exact .inr ⟨hlive, hnew⟩
  | starts request bytes settings started _ _ _ hafter =>
    subst hafter
    exact .inl (List.eraseP_sublist.subset hmem)

/-- A named id stays named. -/
theorem CacheStep.named (h : CacheStep tables runtime after call) :
    runtime.namedIds ⊆ after.namedIds := by
  cases h with
  | keeps _ _ _ _ _ hnamed => exact hnamed
  | clears _ _ _ _ hnamed => exact hnamed ▸ List.Subset.refl _
  | publishes published hafter =>
    subst hafter
    exact List.subset_cons_self _ _
  | starts request bytes settings started _ _ _ hafter =>
    subst hafter
    exact List.Subset.refl _

/-- What a start expects stays expected. -/
theorem Expected.later {preparedId : String} {hash : Option String}
    (h : Expected runtime preparedId hash) (hfresh : idIsFresh runtime call = true)
    (hstep : CacheStep tables runtime after call) : Expected after preparedId hash where
  named := hstep.named h.named
  hash plan hmem hid := by
    rcases hstep.mem hmem with hold | ⟨-, hnew⟩
    · exact h.hash plan hold hid
    · exact absurd (hid ▸ h.named) (hnew hfresh)

/-- What every call expects stays expected. -/
theorem StartExpects.later {other : PlaybackCall} (h : StartExpects tables runtime other)
    (hfresh : idIsFresh runtime call = true) (hstep : CacheStep tables runtime after call) :
    StartExpects tables after other := by
  cases other with
  | readSource | startSettings | takePlan => exact Expected.later h hfresh hstep
  | _ => trivial

/-- Two plans of the cache with one id are one. -/
theorem CacheFresh.unique (h : CacheFresh runtime) {other : PreparedPlan}
    (hplan : plan ∈ runtime.prepared) (hother : other ∈ runtime.prepared)
    (hid : plan.preparedId = other.preparedId) : plan = other :=
  List.inj_on_of_nodup_map (List.nodup_append.mp h.ids).2.1 hplan hother hid

/-- A part of a fresh cache is fresh. -/
theorem CacheFresh.sublist (h : CacheFresh runtime)
    (hprepared : after.prepared.Sublist runtime.prepared)
    (hplans : ∀ plan ∈ after.prepared,
      after.publication.catalogGeneration = some plan.generation ∧
        plan.publishedAt = after.invalidations)
    (hsessions : after.sessions = runtime.sessions)
    (hgeneration : ∀ generation, after.publication.catalogGeneration = some generation →
      generation = after.catalog.generation)
    (hnamed : runtime.namedIds ⊆ after.namedIds) : CacheFresh after where
  generation := hgeneration
  plans := hplans
  capacity := hprepared.length_le.trans h.capacity
  ids := by
    rw [hsessions]
    exact h.ids.sublist ((List.Sublist.refl _).append (hprepared.map _))
  named preparedId hmem := by
    rw [hsessions] at hmem
    exact hnamed (h.named preparedId
      (((List.Sublist.refl _).append (hprepared.map _)).subset hmem))

/-- A published plan is fresh, and its id is a new one. -/
theorem CacheFresh.publishPlan (h : CacheFresh runtime)
    (hgeneration : runtime.publication.catalogGeneration = some plan.generation)
    (hpublished : plan.publishedAt = runtime.invalidations)
    (hnew : plan.preparedId ∉ runtime.namedIds) : CacheFresh (runtime.publishPlan plan) where
  generation := h.generation
  plans published hmem := by
    rcases List.mem_append.mp (retainPreparedCapacity_sublist.subset hmem) with hold | hlast
    · exact h.plans published hold
    · obtain rfl := List.mem_singleton.mp hlast
      exact ⟨hgeneration, hpublished⟩
  capacity := by
    have hlength : (retainPreparedCapacity (runtime.prepared ++ [plan])).length =
        (runtime.prepared ++ [plan]).length -
          ((runtime.prepared ++ [plan]).length - maxPreparedPlans) := List.length_drop
    change (retainPreparedCapacity (runtime.prepared ++ [plan])).length ≤ maxPreparedPlans
    omega
  ids := by
    have hpart : (runtime.sessions.map (·.plan.preparedId) ++
        (retainPreparedCapacity (runtime.prepared ++ [plan])).map (·.preparedId)).Sublist
        ((runtime.sessions.map (·.plan.preparedId) ++ runtime.prepared.map (·.preparedId)) ++
          [plan.preparedId]) := by
      have hprepared := (@retainPreparedCapacity_sublist (runtime.prepared ++ [plan])).map
        fun plan => plan.preparedId
      rw [List.map_append] at hprepared
      rw [List.append_assoc]
      exact (List.Sublist.refl _).append hprepared
    refine List.Nodup.sublist hpart ?_
    rw [List.nodup_append]
    refine ⟨h.ids, List.nodup_singleton _, fun preparedId hmem other hother => ?_⟩
    obtain rfl := List.mem_singleton.mp hother
    intro heq
    exact hnew (heq ▸ h.named preparedId hmem)
  named preparedId hmem := by
    rcases List.mem_append.mp hmem with hsession | hprepared
    · exact List.mem_cons_of_mem _ (h.named preparedId (List.mem_append_left _ hsession))
    · obtain ⟨published, hpublished, rfl⟩ := List.mem_map.mp hprepared
      rcases List.mem_append.mp (retainPreparedCapacity_sublist.subset hpublished) with hold | hlast
      · exact List.mem_cons_of_mem _
          (h.named _ (List.mem_append_right _ (List.mem_map_of_mem hold)))
      · obtain rfl := List.mem_singleton.mp hlast
        exact List.mem_cons_self

/-- A plan that a session takes leaves the cache, and no other plan does. -/
theorem perm_startSession {bytes : Option (List UInt8)} {settings : PlanSettings}
    (hplan : plan ∈ runtime.prepared) :
    ((runtime.startSession plan bytes settings).sessions.map (·.plan.preparedId) ++
      (runtime.startSession plan bytes settings).prepared.map (·.preparedId)).Perm
      (runtime.sessions.map (·.plan.preparedId) ++ runtime.prepared.map (·.preparedId)) := by
  have herased : (runtime.startSession plan bytes settings).prepared.map (·.preparedId) =
      (runtime.prepared.map (·.preparedId)).erase plan.preparedId := by
    rw [List.erase_eq_eraseP', List.eraseP_map]
    congr 2
  have hfront := (List.perm_cons_erase (List.mem_map_of_mem (f := (·.preparedId)) hplan)).symm
  have hsessions : (runtime.startSession plan bytes settings).sessions.map (·.plan.preparedId) =
      runtime.sessions.map (·.plan.preparedId) ++ [plan.preparedId] := List.map_append
  rw [herased, hsessions, List.append_assoc]
  exact hfront.append_left _

/-- The cache stays fresh when a session takes a plan. -/
theorem CacheFresh.startSession (h : CacheFresh runtime) (hplan : plan ∈ runtime.prepared)
    {bytes : Option (List UInt8)} {settings : PlanSettings} :
    CacheFresh (runtime.startSession plan bytes settings) where
  generation := h.generation
  plans other hmem := h.plans other (List.eraseP_sublist.subset hmem)
  capacity := (List.Sublist.length_le List.eraseP_sublist).trans h.capacity
  ids := (perm_startSession hplan).nodup_iff.mpr h.ids
  named preparedId hmem := h.named preparedId ((perm_startSession hplan).subset hmem)

/-- A step keeps the cache fresh. -/
theorem CacheFresh.step (h : CacheFresh runtime) (hfresh : idIsFresh runtime call = true)
    (hstep : CacheStep tables runtime after call) : CacheFresh after := by
  cases hstep with
  | keeps hprepared hsessions hinvalidations hcatalog hgeneration hnamed =>
    refine h.sublist hprepared (fun plan hmem => ?_) hsessions (fun generation hcurrent => ?_) hnamed
    · rw [hgeneration, hinvalidations]
      exact h.plans plan (hprepared.subset hmem)
    · rw [hcatalog]
      exact h.generation generation (hgeneration ▸ hcurrent)
  | clears hprepared hcleared hsessions hgeneration hnamed =>
    refine h.sublist hprepared (fun plan hmem => ?_) hsessions (fun generation hcurrent => ?_)
      (hnamed ▸ List.Subset.refl _)
    · exact absurd (h.plans plan (hprepared.subset hmem)).1 (hcleared h plan hmem)
    · rcases hgeneration generation hcurrent with hnew | ⟨hcatalog, hold⟩
      · exact hnew
      · rw [hcatalog]
        exact h.generation generation hold
  | publishes plan hafter _ hgeneration hpublished hnew =>
    subst hafter
    exact h.publishPlan hgeneration hpublished (hnew hfresh)
  | starts request bytes settings plan _ hplan _ hafter =>
    subst hafter
    exact h.startSession (preparedPlan_some hplan).1

/-- Every session stays current, and a new one is. -/
theorem sessions_current_step (h : CacheFresh runtime)
    (hsessions : ∀ session ∈ runtime.sessions, session.Current tables)
    (hexpects : StartExpects tables runtime call) (hstep : CacheStep tables runtime after call) :
    ∀ session ∈ after.sessions, session.Current tables := by
  cases hstep with
  | keeps _ hsame => exact hsame ▸ hsessions
  | clears _ _ hsame => exact hsame ▸ hsessions
  | publishes plan hafter =>
    subst hafter
    exact hsessions
  | starts request bytes settings plan hcall hplan hsettings hafter =>
    subst hafter hcall
    obtain ⟨hmem, hid⟩ := preparedPlan_some hplan
    obtain ⟨hgeneration, hpublished⟩ := h.plans plan hmem
    have hhash := hexpects.hash plan hmem hid
    obtain ⟨read, hread, hsource⟩ := Option.map_eq_some_iff.mp hhash
    intro session hsession
    rcases List.mem_append.mp hsession with hold | hnew
    · exact hsessions session hold
    · obtain rfl := List.mem_singleton.mp hnew
      exact ⟨hpublished, hsettings, h.generation plan.generation hgeneration, read, hread, hsource⟩

/-- A call that begins expects nothing. -/
theorem startExpects_start (op : PlaybackOp) : StartExpects tables runtime op.start := by
  cases op <;> trivial

/-- A Prepare expects nothing after it has called a planner. -/
theorem startExpects_unlessCancelled {called : Except String Unit}
    (h : StartExpects tables after next) :
    StartExpects tables after (unlessCancelled runtime token called next) := by
  unfold unlessCancelled
  split
  · trivial
  · split
    · trivial
    · exact h

/-- A Prepare expects nothing at the next variant of its plan. -/
theorem startExpects_nextVariant {input : NativePreparedInput} {planned : PlannedSong}
    {preparedId : String} {remaining : ℕ} :
    StartExpects tables after (nextVariant input token planned preparedId remaining) := by
  cases remaining <;> trivial

/-- A Prepare expects nothing once its plan has an id. -/
theorem startExpects_issueId {input : NativePreparedInput} {planned : PlannedSong} :
    StartExpects tables after (issueId choice input token planned) := by
  unfold issueId
  split
  · trivial
  · exact startExpects_nextVariant

/-- What a call expects after its step. -/
theorem startExpects_step (hcache : CacheFresh runtime)
    (hexpects : StartExpects tables runtime call)
    (hstep : playbackStep tables choice call runtime = some (after, next)) :
    StartExpects tables after next := by
  cases call with
  | identify request =>
    rw [playbackStep] at hstep
    split at hstep
    · obtain ⟨rfl, rfl⟩ := Prod.mk.inj (Option.some.inj hstep)
      trivial
    · dsimp only at hstep
      split at hstep <;> obtain ⟨rfl, rfl⟩ := Prod.mk.inj (Option.some.inj hstep) <;>
        refine ⟨List.mem_cons_self, fun plan hmem hid => ?_⟩
      case h_1 hnone =>
        have hother := List.find?_eq_none.mp hnone plan hmem
        exact absurd hid (by simpa using hother)
      case h_2 found hfound =>
        obtain ⟨hfoundMem, hfoundId⟩ := preparedPlan_some hfound
        rw [hcache.unique hmem hfoundMem (hid.trans hfoundId.symm)]
  | readSource request path hash =>
    obtain ⟨rfl, rfl⟩ := Prod.mk.inj (Option.some.inj hstep)
    unfold afterRead
    split
    · trivial
    · split
      · trivial
      case isFalse bytes _ hsame =>
        refine ⟨hexpects.named, fun plan hmem hid => ?_⟩
        have hplan := Option.some.inj (hexpects.hash plan hmem hid)
        rw [Option.map_some, not_not.mp hsame, hplan]
  | startSettings request bytes =>
    obtain ⟨rfl, rfl⟩ := Prod.mk.inj (Option.some.inj hstep)
    exact hexpects
  | plan input token =>
    obtain ⟨-, rfl⟩ := Prod.mk.inj (Option.some.inj hstep)
    cases choice.planned <;> trivial
  | check input token planned =>
    obtain ⟨-, rfl⟩ := Prod.mk.inj (Option.some.inj hstep)
    apply startExpects_unlessCancelled
    cases planned <;> trivial
  | analyze input token planned =>
    obtain ⟨-, rfl⟩ := Prod.mk.inj (Option.some.inj hstep)
    exact startExpects_unlessCancelled startExpects_issueId
  | analyzeVariants input token planned preparedId remaining =>
    obtain ⟨-, rfl⟩ := Prod.mk.inj (Option.some.inj hstep)
    exact startExpects_unlessCancelled startExpects_nextVariant
  | begin | finish | invalidateForSelection | discardSource | retire =>
    obtain ⟨-, rfl⟩ := Prod.mk.inj (Option.some.inj hstep)
    trivial
  | ensureLoaded | readEntry | readSong | capture | validate | publish | ensureSelected
  | patchSettings | reloadSettings | setSongLiked | applyComposition | takePlan =>
    rw [playbackStep] at hstep
    split at hstep <;> obtain ⟨-, rfl⟩ := Prod.mk.inj (Option.some.inj hstep) <;> trivial
  | returned => cases hstep

/-- Every start of a session is current, over a cache of fresh plans. -/
structure PlaybackFresh (tables : CatalogTables) (runtime : PlaybackRuntime)
    (calls : List PlaybackCall) : Prop where
  cache : CacheFresh runtime
  expects : ∀ call ∈ calls, StartExpects tables runtime call
  sessions : ∀ session ∈ runtime.sessions, session.Current tables

/-- Without a plan, the cache is fresh. -/
theorem playbackFresh_new {catalog : CatalogIndex} {settings : PlanSettings} :
    PlaybackFresh tables (.new catalog settings) [] where
  cache := {
    generation := fun _ h => by cases h
    plans := fun _ hmem => absurd hmem List.not_mem_nil
    capacity := Nat.zero_le _
    ids := List.nodup_nil
    named := fun _ hmem => absurd hmem List.not_mem_nil }
  expects _ hmem := absurd hmem List.not_mem_nil
  sessions _ hmem := absurd hmem List.not_mem_nil

/-- In every run with fresh ids, every session is current over a fresh cache. -/
theorem playbackFresh_run {catalog : CatalogIndex} {settings : PlanSettings}
    {actions : List (PoolAction PlaybackOp PlaybackChoice)}
    {pool : CallPool PlaybackRuntime PlaybackCall}
    (hrun : (playbackMachine tables catalog settings).run
      (playbackMachine tables catalog settings).initial actions = some pool)
    (hfresh : FreshIds tables catalog settings actions) :
    PlaybackFresh tables pool.shared pool.calls := by
  refine CallProgram.run_preserves_of_steps (P := PlaybackFresh tables) ?_ ?_ hrun hfresh
    playbackFresh_new
  · intro runtime calls op h
    refine ⟨h.cache, fun call hmem => ?_, h.sessions⟩
    rcases List.mem_append.mp hmem with hold | hnew
    · exact h.expects call hold
    · obtain rfl := List.mem_singleton.mp hnew
      exact startExpects_start op
  · intro runtime calls index choice call after next h hcall hid hstep
    have hexpects := h.expects call (List.mem_of_getElem? hcall)
    have hcache := playbackStep_cases hstep
    refine ⟨h.cache.step hid hcache, ?_, sessions_current_step h.cache h.sessions hexpects hcache⟩
    exact forall_mem_set (fun other hmem => (h.expects other hmem).later hid hcache)
      (startExpects_step h.cache hexpects hstep)

section Tokens

/-- Cancelling the active request cancels no token less. -/
theorem cancelled_cancelActive (h : runtime.cancelled token = true) :
    runtime.cancelActive.cancelled token = true := by
  unfold PlaybackRuntime.cancelActive
  split
  case h_1 active _ =>
    change ((runtime.tokens.set active true)[token]?).getD false = true
    rw [List.getElem?_set]
    split
    · split
      · rfl
      case isFalse hsame hbound =>
        have hnone : runtime.tokens[token]? = none := by
          rw [← hsame]
          exact List.getElem?_eq_none (Nat.le_of_not_lt hbound)
        simp [PlaybackRuntime.cancelled, hnone] at h
    · exact h
  · exact h

/-- A token that is cancelled stays cancelled when the next one is taken. -/
theorem cancelled_beginPreparation (h : runtime.cancelled token = true) :
    runtime.beginPreparation.1.cancelled token = true := by
  have hcancelled := cancelled_cancelActive h
  change ((runtime.cancelActive.tokens ++ [false])[token]?).getD false = true
  rw [List.getElem?_append_left]
  · exact hcancelled
  · by_contra hbound
    have hnone := List.getElem?_eq_none (Nat.le_of_not_lt hbound)
    simp [PlaybackRuntime.cancelled, hnone] at hcancelled

/-- Changed settings cancel no token less. -/
theorem cancelled_invalidateSettingsLocked {fingerprint : String} {settings : PlanSettings}
    (h : runtime.cancelled token = true) :
    (({ runtime with settings } : PlaybackRuntime).invalidateSettingsLocked fingerprint).cancelled
      token = true :=
  @cancelled_cancelActive { runtime with settings } token h

/-- A patch of the settings cancels no token less. -/
theorem cancelled_patchSettings {safe : Bool} {patched : PlanSettings}
    (h : runtime.cancelled token = true) :
    (runtime.patchSettings tables safe patched).cancelled token = true := by
  unfold PlaybackRuntime.patchSettings
  dsimp only
  split
  · exact cancelled_invalidateSettingsLocked h
  · exact h

/-- A reload of the settings cancels no token less. -/
theorem cancelled_reloadSettings {reloaded : PlanSettings} (h : runtime.cancelled token = true) :
    (runtime.reloadSettings tables reloaded).cancelled token = true := by
  unfold PlaybackRuntime.reloadSettings
  dsimp only
  split
  · exact cancelled_invalidateSettingsLocked h
  · exact h

/-- A capture leaves the tokens. -/
theorem cancelled_capturePreparationSources {request : PlaybackPrepareRequest} {other : ℕ}
    {path hash : String} {input : NativePreparedInput}
    (hcaptured : runtime.capturePreparationSources tables request other path hash =
      .ok (after, input)) (h : runtime.cancelled token = true) : after.cancelled token = true := by
  simp only [PlaybackRuntime.capturePreparationSources, Except.bind_eq_ok, failIf_eq_ok,
    Except.mapError_eq_ok, Except.pure_eq_ok] at hcaptured
  obtain ⟨⟨⟩, -, currentPath, -, ⟨⟩, -, hsynchronized⟩ := hcaptured
  obtain ⟨rfl, -⟩ := Prod.mk.inj hsynchronized
  unfold PlaybackRuntime.synchronizePrepareSourceLocked
  dsimp only
  split
  · exact h
  · split <;> exact h

/-- A composition cancels no token less. -/
theorem cancelled_applyCatalogComposition {entries : List CatalogSourceEntry} {invalidate : Bool}
    (happlied : runtime.applyCatalogComposition tables entries invalidate = .ok after)
    (h : runtime.cancelled token = true) : after.cancelled token = true := by
  simp only [PlaybackRuntime.applyCatalogComposition, Except.bind_eq_ok, Except.mapError_eq_ok,
    Except.pure_eq_ok] at happlied
  obtain ⟨catalog, -, rfl⟩ := happlied
  unfold PlaybackRuntime.invalidateCatalogLocked
  dsimp only
  split
  · exact @cancelled_cancelActive { runtime with
      catalog, publication :=
        { runtime.publication with catalogGeneration := some catalog.generation } } token h
  · exact h

/-- A cancelled token stays cancelled. -/
theorem cancelled_step (h : runtime.cancelled token = true)
    (hstep : playbackStep tables choice call runtime = some (after, next)) :
    after.cancelled token = true := by
  cases call with
  | begin request =>
    obtain ⟨rfl, -⟩ := Prod.mk.inj (Option.some.inj hstep)
    exact cancelled_beginPreparation h
  | capture request other path hash =>
    rw [playbackStep] at hstep
    split at hstep <;> obtain ⟨rfl, -⟩ := Prod.mk.inj (Option.some.inj hstep)
    · exact h
    case h_2 hcaptured => exact cancelled_capturePreparationSources hcaptured h
  | finish other reply =>
    obtain ⟨rfl, -⟩ := Prod.mk.inj (Option.some.inj hstep)
    unfold PlaybackRuntime.finishPreparation
    split <;> exact h
  | invalidateForSelection =>
    obtain ⟨rfl, -⟩ := Prod.mk.inj (Option.some.inj hstep)
    exact cancelled_cancelActive h
  | patchSettings safe =>
    rw [playbackStep] at hstep
    split at hstep <;> obtain ⟨rfl, -⟩ := Prod.mk.inj (Option.some.inj hstep)
    · exact h
    · exact cancelled_patchSettings h
  | reloadSettings =>
    rw [playbackStep] at hstep
    split at hstep <;> obtain ⟨rfl, -⟩ := Prod.mk.inj (Option.some.inj hstep)
    · exact h
    · exact cancelled_reloadSettings h
  | applyComposition entries invalidate =>
    rw [playbackStep] at hstep
    split at hstep <;> obtain ⟨rfl, -⟩ := Prod.mk.inj (Option.some.inj hstep)
    · exact h
    case h_2 happlied => exact cancelled_applyCatalogComposition happlied h
  | identify request =>
    rw [playbackStep] at hstep
    split at hstep
    · obtain ⟨rfl, -⟩ := Prod.mk.inj (Option.some.inj hstep)
      exact h
    · dsimp only at hstep
      split at hstep <;> obtain ⟨rfl, -⟩ := Prod.mk.inj (Option.some.inj hstep) <;> exact h
  | ensureLoaded | readEntry | readSong | validate | publish | ensureSelected | setSongLiked
  | takePlan =>
    rw [playbackStep] at hstep
    split at hstep <;> obtain ⟨rfl, -⟩ := Prod.mk.inj (Option.some.inj hstep) <;> exact h
  | plan | check | analyze | analyzeVariants | readSource | discardSource | startSettings | retire =>
    obtain ⟨rfl, -⟩ := Prod.mk.inj (Option.some.inj hstep)
    exact h
  | returned => cases hstep

end Tokens

/-- The plans of a cancelled token are among some plans. -/
structure TokenSettled (plans : List PreparedPlan) (token : ℕ) (runtime : PlaybackRuntime) : Prop where
  cancelled : runtime.cancelled token = true
  plans : ∀ plan ∈ runtime.prepared, plan.token = token → plan ∈ plans

/-- A cancelled token publishes no plan in a step. -/
theorem TokenSettled.step {plans : List PreparedPlan} (h : TokenSettled plans token runtime)
    (hstep : playbackStep tables choice call runtime = some (after, next)) :
    TokenSettled plans token after where
  cancelled := cancelled_step h.cancelled hstep
  plans plan hmem htoken := by
    rcases (playbackStep_cases hstep).mem hmem with hold | ⟨hlive, -⟩
    · exact h.plans plan hold htoken
    · rw [htoken, h.cancelled] at hlive
      cases hlive

/-- A cancelled token publishes no plan in a run. -/
theorem TokenSettled.run {catalog : CatalogIndex} {settings : PlanSettings}
    {pool later : CallPool PlaybackRuntime PlaybackCall}
    {actions : List (PoolAction PlaybackOp PlaybackChoice)} {plans : List PreparedPlan}
    (hrun : (playbackMachine tables catalog settings).run pool actions = some later)
    (h : TokenSettled plans token pool.shared) : TokenSettled plans token later.shared := by
  refine Machine.run_preserves (P := fun pool => TokenSettled plans token pool.shared) ?_ hrun h
  intro before action after hbefore hmade
  rcases CallProgram.poolStep_cases hmade with
    ⟨op, rfl, rfl⟩ | ⟨index, choice, call, shared, next, rfl, -, hstep, rfl⟩
  · exact hbefore
  · exact hbefore.step hstep

/-- In every run with fresh ids, every session has a plan that no invalidation has come after, of the
settings it was given, of the catalog at its lookup and of the bytes it has read; no id starts two
sessions; and the cache is bounded and holds no plan from before an invalidation. A Prepare whose
token is cancelled publishes no plan later. -/
theorem prepared_plans_never_stale {tables : CatalogTables} {catalog : CatalogIndex}
    {settings : PlanSettings} {actions : List (PoolAction PlaybackOp PlaybackChoice)}
    {pool : CallPool PlaybackRuntime PlaybackCall}
    (hrun : (playbackMachine tables catalog settings).run
      (playbackMachine tables catalog settings).initial actions = some pool)
    (hfresh : FreshIds tables catalog settings actions) :
    (∀ session ∈ pool.shared.sessions, session.Current tables) ∧
      (pool.shared.sessions.map (·.plan.preparedId)).Nodup ∧
      pool.shared.prepared.length ≤ maxPreparedPlans ∧
      (∀ plan ∈ pool.shared.prepared, plan.publishedAt = pool.shared.invalidations) ∧
      ∀ (token : ℕ) (more : List (PoolAction PlaybackOp PlaybackChoice))
        (later : CallPool PlaybackRuntime PlaybackCall), pool.shared.cancelled token = true →
        (playbackMachine tables catalog settings).run pool more = some later →
          ∀ plan ∈ later.shared.prepared, plan.token = token → plan ∈ pool.shared.prepared := by
  have h := playbackFresh_run hrun hfresh
  refine ⟨h.sessions, (List.nodup_append.mp h.cache.ids).1, h.cache.capacity,
    fun plan hmem => (h.cache.plans plan hmem).2, ?_⟩
  intro token more later hcancelled hmore
  have hsettled : TokenSettled pool.shared.prepared token pool.shared :=
    ⟨hcancelled, fun plan hmem _ => hmem⟩
  exact (hsettled.run hmore).plans

/-- The song file of the scenario. -/
def scenarioSheet : List UInt8 := "[]".toUTF8.data.toList

/-- The settings of the scenario. -/
def scenarioPlanSettings : PlanSettings := ⟨60, "1", false, "1", 500⟩

/-- The tables of the scenario, with the digests of the song and of the settings. -/
def digestTables : CatalogTables where
  __ := asciiTables
  sha256 bytes := if bytes = scenarioSheet then
    ⟨#[79, 83, 205, 161, 140, 43, 170, 12, 3, 84, 187, 95, 154, 62, 203, 229,
    237, 18, 171, 77, 142, 17, 186, 135, 60, 47, 17, 22, 18, 2, 185, 69], rfl⟩
    else
    ⟨#[218, 31, 143, 168, 1, 70, 80, 77, 226, 232, 56, 242, 32, 208, 41, 145,
    159, 103, 175, 101, 107, 26, 121, 238, 69, 196, 123, 172, 140, 152, 59, 180], rfl⟩

/-- What a step of the scenario is answered: the song can be read, and its risk is low. -/
def preparingChoice : PlaybackChoice where
  ensureCatalogLoaded := .ok ()
  readFile _ := .ok scenarioSheet
  planned := .playable ⟨true, false⟩
  analyzed := .ok ()
  opaqueNativeId := .ok "fedcba9876543210fedcba9876543210"
  patched := .ok scenarioPlanSettings
  reloaded := .ok scenarioPlanSettings
  eventDeliveryFailure := false
  reservePlayback := .ok ()

/-- The song is prepared up to its publication, and then another call makes some steps. -/
def prepareThen (op : PlaybackOp) (steps : ℕ) : List (PoolAction PlaybackOp PlaybackChoice) :=
  [.begin (.prepare ⟨scenarioSong, 1, false⟩)] ++ List.replicate 9 (.advance 0 preparingChoice) ++
    [.begin op] ++ List.replicate steps (.advance 1 preparingChoice)

/-- A Prepare that begins between the publication of the one before and its end cancels that one,
and the published plan stays. -/
theorem superseded_prepare_keeps_plan :
    ¬∀ (tables : CatalogTables) (catalog : CatalogIndex) (settings : PlanSettings)
      (actions : List (PoolAction PlaybackOp PlaybackChoice))
      (pool : CallPool PlaybackRuntime PlaybackCall),
      (playbackMachine tables catalog settings).run
        (playbackMachine tables catalog settings).initial actions = some pool →
      FreshIds tables catalog settings actions →
        ∀ plan ∈ pool.shared.prepared, pool.shared.cancelled plan.token = false := by
  intro h
  have hcheck : ((playbackMachine digestTables scenarioCatalog.index scenarioPlanSettings).run
      (playbackMachine digestTables scenarioCatalog.index scenarioPlanSettings).initial
      (prepareThen (.prepare ⟨scenarioSong, 1, false⟩) 1)).any (fun pool =>
        pool.shared.prepared.any fun plan => pool.shared.cancelled plan.token) = true := by
    decide +kernel
  have hfresh : FreshIds digestTables scenarioCatalog.index scenarioPlanSettings
      (prepareThen (.prepare ⟨scenarioSong, 1, false⟩) 1) := by
    unfold FreshIds
    decide +kernel
  obtain ⟨pool, hrun, hpool⟩ := (Option.any_eq_true _ _).mp hcheck
  obtain ⟨plan, hmem, hcancelled⟩ := List.any_eq_true.mp hpool
  rw [h _ _ _ _ pool hrun hfresh plan hmem] at hcancelled
  cases hcancelled

/-- A plan that is prepared and not invalidated starts a session. -/
theorem prepared_plans_never_stale_scenario :
    ∃ pool : CallPool PlaybackRuntime PlaybackCall,
      pool.shared.sessions.length = 1 ∧
        (∀ session ∈ pool.shared.sessions, session.Current digestTables) ∧
          pool.shared.prepared.length ≤ maxPreparedPlans := by
  have hcheck : ((playbackMachine digestTables scenarioCatalog.index scenarioPlanSettings).run
      (playbackMachine digestTables scenarioCatalog.index scenarioPlanSettings).initial
      (prepareThen (.startPlayback ⟨"fedcba9876543210fedcba9876543210", []⟩) 4)).any (fun pool =>
        pool.shared.sessions.length = 1) = true := by decide +kernel
  have hfresh : FreshIds digestTables scenarioCatalog.index scenarioPlanSettings
      (prepareThen (.startPlayback ⟨"fedcba9876543210fedcba9876543210", []⟩) 4) := by
    unfold FreshIds
    decide +kernel
  obtain ⟨pool, hrun, hpool⟩ := (Option.any_eq_true _ _).mp hcheck
  obtain ⟨hsessions, -, hcapacity, -⟩ := prepared_plans_never_stale hrun hfresh
  exact ⟨pool, of_decide_eq_true hpool, hsessions, hcapacity⟩

end SkyAutoPlayer.Desktop
