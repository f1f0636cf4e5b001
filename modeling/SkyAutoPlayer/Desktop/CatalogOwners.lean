import SkyAutoPlayer.Desktop.CatalogLoad

/-!
# Every load in progress has an owner

A load state in progress is owned by a call whose claim is current. The one exit that leaves the
state in progress is the background task's, when the sources have changed since it composed. Without
such an exit the owner is never lost; after one, nothing but the shutdown leaves the state again.
-/

namespace SkyAutoPlayer.Desktop

open Foundation AppCore

variable {env : CatalogEnvironment} {choice : CatalogChoice} {runtime after : CatalogRuntime}
  {call next : CatalogCall} {claim : CatalogLoadClaim}

/-- The background task is about to finish a composition whose sources have changed. -/
def staleFinish (env : CatalogEnvironment) (choice : CatalogChoice) (runtime : CatalogRuntime) :
    CatalogCall → Bool
  | .finish .task claim (.ok snapshot) =>
    runtime.catalogLoadClaimIsCurrent claim && !runtime.isClosing &&
      runtime.currentFingerprint env choice ≠ snapshot.sourceFingerprint
  | _ => false

/-- No background task of a run finishes a composition whose sources have changed. -/
def NoStaleFinish (env : CatalogEnvironment) (service : LibraryManifestService)
    (hydrated : Option ℕ) (actions : List (PoolAction CatalogOp CatalogChoice)) : Prop :=
  (catalogMachine env service hydrated).Meets
    (CallPool.StepMeets fun choice call runtime => staleFinish env choice runtime call = false)
    (catalogMachine env service hydrated).initial actions

/-- A load in progress has a call with the current claim. -/
def LoadOwned (runtime : CatalogRuntime) (calls : List CatalogCall) : Prop :=
  runtime.catalogLoad.inProgress = true →
    ∃ call ∈ calls, ∃ claim, call.claim? = some claim ∧ runtime.catalogLoadClaimIsCurrent claim = true

/-- What a step does to the load: it makes its call the owner, or it leaves the load not in progress,
or it keeps the load, and with it the current claim of its call. -/
inductive LoadStep (runtime after : CatalogRuntime) (call next : CatalogCall) : Prop where
  | owns (claim : CatalogLoadClaim) (howns : next.claim? = some claim)
      (hcurrent : after.catalogLoadClaimIsCurrent claim = true)
  | settles (hsettled : after.catalogLoad.inProgress = false)
  | keeps (hload : after.catalogLoad = runtime.catalogLoad)
      (hepoch : after.catalogLoadEpoch = runtime.catalogLoadEpoch)
      (hclaim : ∀ claim, call.claim? = some claim →
        runtime.catalogLoadClaimIsCurrent claim = true → next.claim? = some claim)

/-- Currency depends on the load and its epoch only. -/
theorem catalogLoadClaimIsCurrent_congr (hload : after.catalogLoad = runtime.catalogLoad)
    (hepoch : after.catalogLoadEpoch = runtime.catalogLoadEpoch) :
    after.catalogLoadClaimIsCurrent claim = runtime.catalogLoadClaimIsCurrent claim := by
  rw [CatalogRuntime.catalogLoadClaimIsCurrent, CatalogRuntime.catalogLoadClaimIsCurrent, hload, hepoch]

/-- A claim for a rebuild is current. -/
theorem claim_rebuild_current :
    (runtime.claim .rebuild .loading).1.catalogLoadClaimIsCurrent
      (runtime.claim .rebuild .loading).2 = true := by
  simp [CatalogRuntime.claim, CatalogRuntime.catalogLoadClaimIsCurrent]

/-- A claim for a reconciliation is current. -/
theorem claim_reconcile_current {generation : ℕ} :
    (runtime.claim .reconcile (.reconciling generation)).1.catalogLoadClaimIsCurrent
      (runtime.claim .reconcile (.reconciling generation)).2 = true := by
  simp [CatalogRuntime.claim, CatalogRuntime.catalogLoadClaimIsCurrent]

/-- Only a background task that finds its sources changed settles in progress. -/
theorem settleLoad_settles {owner : LoadOwner} {result : Except String (Option (ℕ × ℕ))}
    (h : owner = .task → result ≠ .ok none) :
    (settleLoad choice owner runtime result).1.catalogLoad.inProgress = false := by
  match result, owner with
  | .ok (some (generation, total)), _ => rfl
  | .ok none, .task => exact absurd rfl (h rfl)
  | .ok none, .ensure => rfl
  | .ok none, .reload => rfl
  | .error message, _ => rfl

/-- A composition is not applied exactly when its sources have changed. -/
theorem applyCatalogSnapshotIfCurrent_ne_none {snapshot : CatalogCompositionSnapshot}
    (h : runtime.currentFingerprint env choice = snapshot.sourceFingerprint) :
    (runtime.applyCatalogSnapshotIfCurrent env choice snapshot).2 ≠ .ok none := by
  rw [CatalogRuntime.applyCatalogSnapshotIfCurrent, if_neg (not_not.mpr h)]
  change (runtime.applyCatalogComposition choice).2.map some ≠ .ok none
  generalize (runtime.applyCatalogComposition choice).2 = result
  cases result <;> simp [Except.map]

/-- An applied composition settles, unless the background task finds its sources changed. -/
theorem applyLoad_settles {owner : LoadOwner}
    {composition : Except String CatalogCompositionSnapshot}
    (h : ∀ snapshot, owner = .task → composition = .ok snapshot →
      runtime.currentFingerprint env choice = snapshot.sourceFingerprint) :
    (applyLoad env choice owner runtime composition).1.catalogLoad.inProgress = false := by
  cases composition with
  | error message => exact settleLoad_settles fun _ => by simp
  | ok snapshot =>
    refine settleLoad_settles fun howner => ?_
    exact applyCatalogSnapshotIfCurrent_ne_none (h snapshot howner rfl)

/-- A last section that is not stale settles the load, or has no current claim and keeps it. -/
theorem finishLoad_cases {owner : LoadOwner} {composition : Except String CatalogCompositionSnapshot}
    (hfresh : staleFinish env choice runtime (.finish owner claim composition) = false) :
    (finishLoad env choice owner claim composition runtime).1.catalogLoad.inProgress = false ∨
      (finishLoad env choice owner claim composition runtime).1 = runtime ∧
        runtime.catalogLoadClaimIsCurrent claim = false := by
  cases hcurrent : runtime.catalogLoadClaimIsCurrent claim <;> cases hclosing : runtime.isClosing
  · right
    cases owner <;> simp [finishLoad, hcurrent, hclosing]
  · cases owner with
    | task => exact .inr ⟨by simp [finishLoad, hcurrent], rfl⟩
    | ensure => exact .inl (by simp [finishLoad, hclosing, CatalogLoadState.inProgress])
    | reload => exact .inl (by simp [finishLoad, hclosing, CatalogLoadState.inProgress])
  · left
    have hsettles : (applyLoad env choice owner runtime composition).1.catalogLoad.inProgress =
        false := by
      apply applyLoad_settles
      intro snapshot howner hcomposition
      subst howner hcomposition
      by_contra hchanged
      simp [staleFinish, hcurrent, hclosing, hchanged] at hfresh
    cases owner <;> simpa [finishLoad, hcurrent, hclosing] using hsettles
  · left
    cases owner <;> simp [finishLoad, hcurrent, hclosing, CatalogLoadState.inProgress]

/-- What a step that is not stale does to the load. -/
theorem catalogStep_cases (hfresh : staleFinish env choice runtime call = false)
    (hstep : catalogStep env choice runtime call = some (after, next)) :
    LoadStep runtime after call next := by
  cases call with
  | start =>
    rw [catalogStep] at hstep
    split at hstep <;> cases hstep <;> exact .keeps rfl rfl fun _ h => by cases h
  | claimLoad =>
    cases hload : runtime.catalogLoad with
    | uninitialized | failed =>
      simp only [catalogStep, CatalogRuntime.claimCatalogLoad, hload] at hstep
      cases hstep
      exact .owns _ rfl claim_rebuild_current
    | cached =>
      simp only [catalogStep, CatalogRuntime.claimCatalogLoad, hload] at hstep
      cases hstep
      exact .owns _ rfl claim_reconcile_current
    | loading | reconciling | ready | closing =>
      simp only [catalogStep, CatalogRuntime.claimCatalogLoad, hload] at hstep
      cases hstep
      exact .keeps rfl rfl fun _ h => by cases h
  | task claim =>
    rw [catalogStep] at hstep
    split at hstep
    · cases hstep
      exact .keeps rfl rfl fun owned howned _ => howned
    · rename_i hold
      cases hstep
      refine .keeps rfl rfl fun owned howned hcurrent => ?_
      obtain rfl := Option.some.inj howned
      exact absurd hcurrent hold
  | ensure =>
    cases hload : runtime.catalogLoad with
    | uninitialized =>
      simp only [catalogStep, CatalogRuntime.ensureClaim, hload] at hstep
      cases hstep
      exact .owns _ rfl claim_rebuild_current
    | cached | reconciling | loading | ready | failed | closing =>
      simp only [catalogStep, CatalogRuntime.ensureClaim, hload] at hstep
      cases hstep
      exact .keeps rfl rfl fun _ h => by cases h
  | reload =>
    rw [catalogStep, CatalogRuntime.reloadClaim] at hstep
    split_ifs at hstep
    · cases hstep
      exact .keeps rfl rfl fun _ h => by cases h
    · cases hstep
      exact .keeps rfl rfl fun _ h => by cases h
    · cases hstep
      exact .owns _ rfl claim_rebuild_current
  | importPaths playlistId paths kind =>
    rw [catalogStep] at hstep
    split at hstep <;> cases hstep <;> exact .keeps rfl rfl fun _ h => by cases h
  | importCommit playlistId imports songIds =>
    rw [catalogStep] at hstep
    split at hstep <;> cases hstep <;> exact .keeps rfl rfl fun _ h => by cases h
  | compose owner claim =>
    cases hstep
    exact .keeps rfl rfl fun owned howned _ => howned
  | finish owner claim composition =>
    obtain ⟨rfl, rfl⟩ := Prod.mk.inj (Option.some.inj hstep)
    rcases finishLoad_cases hfresh with hsettled | ⟨hsame, hold⟩
    · exact .settles hsettled
    · refine .keeps (congrArg _ hsame) (congrArg _ hsame) fun owned howned hcurrent => ?_
      obtain rfl := Option.some.inj howned
      rw [hold] at hcurrent
      cases hcurrent
  | shutdown =>
    rw [catalogStep] at hstep
    split at hstep <;> cases hstep
    · exact .keeps rfl rfl fun _ h => by cases h
    · exact .settles rfl
  | returned reply => cases hstep

/-- The entry points begin without a claim. -/
theorem claim?_start (op : CatalogOp) : ((catalogProgram env).start op).claim? = none := by
  cases op <;> rfl

/-- A beginning call takes no load from its owner. -/
theorem loadOwned_begin {calls : List CatalogCall} (op : CatalogOp) (h : LoadOwned runtime calls) :
    LoadOwned runtime (calls ++ [(catalogProgram env).start op]) := by
  intro hprogress
  obtain ⟨owner, hmem, howner⟩ := h hprogress
  exact ⟨owner, List.mem_append_left _ hmem, howner⟩

/-- A step that is not stale keeps a load in progress owned. -/
theorem loadOwned_step {calls : List CatalogCall} {index : ℕ} (h : LoadOwned runtime calls)
    (hcall : calls[index]? = some call) (hfresh : staleFinish env choice runtime call = false)
    (hstep : catalogStep env choice runtime call = some (after, next)) :
    LoadOwned after (calls.set index next) := by
  intro hprogress
  have hindex : index < calls.length := (List.getElem?_eq_some_iff.mp hcall).1
  cases catalogStep_cases hfresh hstep with
  | owns claim howns hcurrent =>
    exact ⟨next, List.mem_set hindex next, claim, howns, hcurrent⟩
  | settles hsettled =>
    rw [hsettled] at hprogress
    cases hprogress
  | keeps hload hepoch hclaim =>
    obtain ⟨owner, hmem, claim, howner, hcurrent⟩ := h (hload ▸ hprogress)
    have hstill : after.catalogLoadClaimIsCurrent claim = true := by
      rw [catalogLoadClaimIsCurrent_congr hload hepoch]
      exact hcurrent
    -- The owner is the call that moved, or it still stands where it stood.
    obtain ⟨position, hposition⟩ := List.mem_iff_getElem?.mp hmem
    by_cases hsame : index = position
    · subst hsame
      obtain rfl : call = owner := Option.some.inj (hcall.symm.trans hposition)
      exact ⟨next, List.mem_set hindex next, claim, hclaim claim howner hcurrent, hstill⟩
    · have hkept : (calls.set index next)[position]? = some owner := by
        rw [List.getElem?_set_ne hsame]
        exact hposition
      exact ⟨owner, List.mem_of_getElem? hkept, claim, howner, hstill⟩

/-- A load in progress stays owned in a run without a stale finish. -/
theorem loadOwned_run {service : LibraryManifestService} {hydrated : Option ℕ}
    {actions : List (PoolAction CatalogOp CatalogChoice)} {pool : CallPool CatalogRuntime CatalogCall}
    (hrun : (catalogMachine env service hydrated).run (catalogMachine env service hydrated).initial
      actions = some pool)
    (hfresh : NoStaleFinish env service hydrated actions) :
    LoadOwned pool.shared pool.calls := by
  refine CallProgram.run_preserves_of_steps (fun _ _ op h => loadOwned_begin op h) ?_ hrun hfresh ?_
  · intro runtime calls index choice call after next h hcall hnot hstep
    exact loadOwned_step h hcall hnot hstep
  · cases hydrated <;> exact fun h => by cases h

/-- Where no load is in progress and the application is not closing, a reload claims the load. -/
theorem reload_claims (hidle : runtime.catalogLoad.inProgress = false)
    (hopen : runtime.isClosing = false) :
    ∃ after claim, ∀ env choice,
      catalogStep env choice runtime .reload = some (after, .compose .reload claim) := by
  have hload : runtime.catalogLoad ≠ .loading := by
    intro h
    rw [h] at hidle
    cases hidle
  refine ⟨(runtime.claim .rebuild .loading).1, (runtime.claim .rebuild .loading).2, fun _ _ => ?_⟩
  simp [catalogStep, CatalogRuntime.reloadClaim, hopen, hload]

/-- Where no load is in progress and the application is not closing, the catalog is ready or the
background load claims the load. -/
theorem start_claims (hidle : runtime.catalogLoad.inProgress = false)
    (hopen : runtime.isClosing = false) :
    (∃ generation, runtime.catalogLoad = .ready generation) ∨
      ∃ after claim, ∀ env choice,
        catalogStep env choice runtime .claimLoad = some (after, .task claim) := by
  cases hload : runtime.catalogLoad with
  | ready generation => exact .inl ⟨generation, rfl⟩
  | uninitialized | failed =>
    refine .inr ⟨(runtime.claim .rebuild .loading).1, (runtime.claim .rebuild .loading).2, ?_⟩
    intro _ _
    simp [catalogStep, CatalogRuntime.claimCatalogLoad, hload]
  | cached generation =>
    refine .inr ⟨(runtime.claim .reconcile (.reconciling generation)).1,
      (runtime.claim .reconcile (.reconciling generation)).2, ?_⟩
    intro _ _
    simp [catalogStep, CatalogRuntime.claimCatalogLoad, hload]
  | loading | reconciling =>
    rw [hload] at hidle
    cases hidle
  | closing => simp [CatalogRuntime.isClosing, hload] at hopen

/-- Without a stale finish, no load is in progress when no call has one to finish, and a new one can
begin unless the application is closing. -/
theorem catalog_load_not_wedged {service : LibraryManifestService} {hydrated : Option ℕ}
    {actions : List (PoolAction CatalogOp CatalogChoice)} {pool : CallPool CatalogRuntime CatalogCall}
    (hrun : (catalogMachine env service hydrated).run (catalogMachine env service hydrated).initial
      actions = some pool)
    (hfresh : NoStaleFinish env service hydrated actions)
    (hidle : ∀ call ∈ pool.calls, call.claim? = none) :
    pool.shared.catalogLoad.inProgress = false ∧
      (pool.shared.isClosing = false →
        (∃ after claim, ∀ env choice,
          catalogStep env choice pool.shared .reload = some (after, .compose .reload claim)) ∧
        ((∃ generation, pool.shared.catalogLoad = .ready generation) ∨
          ∃ after claim, ∀ env choice,
            catalogStep env choice pool.shared .claimLoad = some (after, .task claim))) := by
  have hsettled : pool.shared.catalogLoad.inProgress = false := by
    by_contra hprogress
    obtain ⟨call, hmem, claim, hclaim, -⟩ := loadOwned_run hrun hfresh (by simpa using hprogress)
    rw [hidle call hmem] at hclaim
    cases hclaim
  exact ⟨hsettled, fun hopen => ⟨reload_claims hsettled hopen, start_claims hsettled hopen⟩⟩

/-- A rebuild is in progress that no call can finish, or the application closed after one. -/
def Wedged (runtime : CatalogRuntime) (calls : List CatalogCall) : Prop :=
  (runtime.catalogLoad = .loading ∨ runtime.catalogLoad = .closing) ∧
    ∀ call ∈ calls, call.claim? = none

/-- A stale finish leaves the runtime as it is, and returns. -/
theorem catalogStep_of_staleFinish (hstale : staleFinish env choice runtime call = true) :
    catalogStep env choice runtime call = some (runtime, .returned (.ok .finished)) := by
  cases call with
  | finish owner claim composition =>
    match owner, composition with
    | .task, .ok snapshot =>
      simp only [staleFinish, Bool.and_eq_true, Bool.not_eq_true', decide_eq_true_eq] at hstale
      obtain ⟨⟨hcurrent, hopen⟩, hchanged⟩ := hstale
      simp [catalogStep, finishLoad, hcurrent, hopen, applyLoad,
        CatalogRuntime.applyCatalogSnapshotIfCurrent, hchanged, settleLoad]
  | start | claimLoad | task | ensure | reload | importPaths | importCommit | compose | shutdown
  | returned => cases hstale

/-- A stale finish of a rebuild wedges the load when no other call has a claim. -/
theorem wedged_of_staleFinish {calls : List CatalogCall} {index : ℕ}
    (hothers : ∀ position other, position ≠ index → calls[position]? = some other →
      other.claim? = none)
    (hload : runtime.catalogLoad = .loading) (hstale : staleFinish env choice runtime call = true)
    (hstep : catalogStep env choice runtime call = some (after, next)) :
    Wedged after (calls.set index next) := by
  rw [catalogStep_of_staleFinish hstale] at hstep
  obtain ⟨rfl, rfl⟩ := Prod.mk.inj (Option.some.inj hstep)
  refine ⟨.inl hload, fun other hmem => ?_⟩
  obtain ⟨position, hposition⟩ := List.mem_iff_getElem?.mp hmem
  by_cases hsame : index = position
  · subst hsame
    rw [List.getElem?_set_self'] at hposition
    obtain ⟨_, -, rfl⟩ := Option.map_eq_some_iff.mp hposition
    rfl
  · rw [List.getElem?_set_ne hsame] at hposition
    exact hothers position other (Ne.symm hsame) hposition

/-- What a step makes of a rebuild that no call can finish. -/
theorem catalogStep_of_unowned
    (hload : runtime.catalogLoad = .loading ∨ runtime.catalogLoad = .closing)
    (hunowned : call.claim? = none) (hstep : catalogStep env choice runtime call = some (after, next)) :
    (after.catalogLoad = .loading ∨ after.catalogLoad = .closing) ∧ next.claim? = none := by
  cases call with
  | start | importPaths =>
    rw [catalogStep] at hstep
    split at hstep <;> cases hstep <;> exact ⟨hload, rfl⟩
  | importCommit playlistId imports songIds =>
    rw [catalogStep] at hstep
    split at hstep <;> cases hstep
    · exact ⟨hload, by split <;> rfl⟩
    · exact ⟨hload, rfl⟩
  | claimLoad =>
    rcases hload with hload | hload
    all_goals
      simp only [catalogStep, CatalogRuntime.claimCatalogLoad, hload] at hstep
      cases hstep
      exact ⟨by simp [hload], rfl⟩
  | ensure =>
    rcases hload with hload | hload
    all_goals
      simp only [catalogStep, CatalogRuntime.ensureClaim, hload] at hstep
      cases hstep
      exact ⟨by simp [hload], rfl⟩
  | reload =>
    rcases hload with hload | hload
    · simp only [catalogStep, CatalogRuntime.reloadClaim, hload] at hstep
      split_ifs at hstep <;> cases hstep <;> exact ⟨.inl hload, rfl⟩
    · have hclosing : runtime.isClosing = true := by simp [CatalogRuntime.isClosing, hload]
      rw [catalogStep, CatalogRuntime.reloadClaim, if_pos hclosing] at hstep
      cases hstep
      exact ⟨.inr hload, rfl⟩
  | shutdown =>
    rw [catalogStep] at hstep
    split at hstep <;> cases hstep
    · exact ⟨hload, rfl⟩
    · exact ⟨.inr rfl, rfl⟩
  | task | compose | finish => cases hunowned
  | returned => cases hstep

/-- Nothing that begins or steps ends a rebuild that no call can finish. -/
theorem wedged_run {service : LibraryManifestService} {hydrated : Option ℕ}
    {actions : List (PoolAction CatalogOp CatalogChoice)}
    {pool last : CallPool CatalogRuntime CatalogCall} (hpool : Wedged pool.shared pool.calls)
    (hrun : (catalogMachine env service hydrated).run pool actions = some last) :
    Wedged last.shared last.calls := by
  refine Machine.run_preserves (P := fun pool => Wedged pool.shared pool.calls) ?_ hrun hpool
  intro before action after ⟨hload, hunowned⟩ hmade
  rcases CallProgram.poolStep_cases hmade with
    ⟨op, -, rfl⟩ | ⟨index, choice, call, shared, next, -, hcall, hstep, rfl⟩
  · refine ⟨hload, fun call hmem => ?_⟩
    rcases List.mem_append.mp hmem with hold | hnew
    · exact hunowned call hold
    · rw [List.mem_singleton.mp hnew]
      exact claim?_start op
  · obtain ⟨hloadAfter, hnext⟩ :=
      catalogStep_of_unowned hload (hunowned call (List.mem_of_getElem? hcall)) hstep
    exact ⟨hloadAfter, forall_mem_set hunowned hnext⟩

/-- The digests and ids of the scenario: an imported file, and no import before it. -/
def scenarioEnvironment : CatalogEnvironment where
  digestHex payload :=
    if payload.2 = [] then "80f53d827455250e36b492967ceec92dd781e1d9f7654fd09fb79cbf3edd8648"
    else "0e80cdf24276394e4b74ef12a27e7486f31657020e57ccc9812383fcb06011de"
  catalogSourceStaticFingerprint :=
    "e3b0c44298fc1c149afbf4c8996fb92427ae41e4649b934ca495991b7852b855"
  importedSourceId _ _ := "3db6b5a7ca6d3c1e3007761b893969f8"

/-- Everything that a step asks for succeeds. -/
def scenarioChoice : CatalogChoice where
  sourcePathIdentity path := path
  resolveImport path _ := .ok path
  importedSongs := .ok ["abcdefabcdefabcdefabcdefabcdefab"]
  composed := .ok ()
  indexed := .ok ()
  libraryTotal := .ok 1
  published := .ok ()
  saveFailure := none

/-- A library with one playlist and no import. -/
def scenarioLibrary : LibraryManifestService :=
  let manifest := ⟨1, [], [⟨"0123456789abcdef0123456789abcdef", "Practice", []⟩]⟩
  ⟨manifest, manifest⟩

/-- A background load composes, and then a file is imported. -/
def importDuringLoad : List (PoolAction CatalogOp CatalogChoice) :=
  [.begin .startCatalogLoad, .advance 0 scenarioChoice, .advance 0 scenarioChoice,
    .advance 0 scenarioChoice, .advance 0 scenarioChoice,
    .begin (.importPaths "0123456789abcdef0123456789abcdef" ["\\\\?\\C:\\Music\\etude.txt"] .file),
    .advance 1 scenarioChoice, .advance 1 scenarioChoice, .advance 1 scenarioChoice]

/-- The background load finishes after the import has registered its file, and then every call has
returned with the load still in progress. -/
theorem import_during_load_wedges :
    ¬∀ (env : CatalogEnvironment) (service : LibraryManifestService) (hydrated : Option ℕ)
      (pool : CallPool CatalogRuntime CatalogCall),
      (catalogMachine env service hydrated).Reachable pool →
        (∀ call ∈ pool.calls, call.claim? = none) → pool.shared.catalogLoad.inProgress = false := by
  intro h
  have hcheck : ((catalogMachine scenarioEnvironment scenarioLibrary none).run
      (catalogMachine scenarioEnvironment scenarioLibrary none).initial
      (importDuringLoad ++ [.advance 0 scenarioChoice])).any (fun pool =>
        pool.calls.all (fun call => call.claim? = none) && pool.shared.catalogLoad.inProgress) =
      true := by decide +kernel
  obtain ⟨pool, hrun, hpool⟩ := (Option.any_eq_true _ _).mp hcheck
  obtain ⟨hunowned, hprogress⟩ := Bool.and_eq_true_iff.mp hpool
  have hsettled := h scenarioEnvironment scenarioLibrary none pool ⟨_, hrun⟩ fun call hmem =>
    of_decide_eq_true (List.all_eq_true.mp hunowned call hmem)
  rw [hsettled] at hprogress
  cases hprogress

/-- The background load finishes before the import registers its file, and both loads end. -/
def importAfterLoad : List (PoolAction CatalogOp CatalogChoice) :=
  importDuringLoad.take 5 ++ [.advance 0 scenarioChoice] ++ importDuringLoad.drop 5 ++
    [.advance 1 scenarioChoice, .advance 1 scenarioChoice]

/-- After the import that waits for the load, the catalog is ready and can be reloaded. -/
theorem catalog_load_not_wedged_scenario :
    ∃ pool : CallPool CatalogRuntime CatalogCall, pool.shared.catalogLoad = .ready 2 ∧
      pool.shared.catalogLoad.inProgress = false ∧
      (pool.shared.isClosing = false →
        (∃ after claim, ∀ env choice,
          catalogStep env choice pool.shared .reload = some (after, .compose .reload claim)) ∧
        ((∃ generation, pool.shared.catalogLoad = .ready generation) ∨
          ∃ after claim, ∀ env choice,
            catalogStep env choice pool.shared .claimLoad = some (after, .task claim))) := by
  have hcheck : ((catalogMachine scenarioEnvironment scenarioLibrary none).run
      (catalogMachine scenarioEnvironment scenarioLibrary none).initial importAfterLoad).any
      (fun pool => pool.calls.all (fun call => call.claim? = none) &&
        pool.shared.catalogLoad = .ready 2) = true := by decide +kernel
  have hfresh : NoStaleFinish scenarioEnvironment scenarioLibrary none importAfterLoad := by
    unfold NoStaleFinish
    decide +kernel
  obtain ⟨pool, hrun, hpool⟩ := (Option.any_eq_true _ _).mp hcheck
  obtain ⟨hunowned, hready⟩ := Bool.and_eq_true_iff.mp hpool
  exact ⟨pool, of_decide_eq_true hready, catalog_load_not_wedged hrun hfresh fun call hmem =>
    of_decide_eq_true (List.all_eq_true.mp hunowned call hmem)⟩

end SkyAutoPlayer.Desktop
