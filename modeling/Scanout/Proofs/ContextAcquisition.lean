import Scanout.Proofs.ResourceBalance

/-!
# Setting a rendering context up

A rendering context is set up in six steps, each of which may fail. If one does, no later step is
tried, and what the steps before it acquired is released again in reverse order. `Tries` speaks of
the steps that were tried and `Attempt` of the releases as well.
-/

namespace Scanout

/-- The steps of setting a rendering context up. -/
inductive SetUpStep
  | loadExtensions
  | createDevice
  | bindApi
  | openDisplay
  | chooseConfig
  | createContext
  deriving DecidableEq

/-- The steps in the order they are tried in. -/
def SetUpStep.all : List SetUpStep :=
  [.loadExtensions, .createDevice, .bindApi, .openDisplay, .chooseConfig, .createContext]

/-- The step that a call belongs to, with the failure it means, if it means one. -/
def JournalEntry.setUpStep? : JournalEntry → Option (SetUpStep × Option RendererInitError)
  | .call (.gpu .loadExtensions) answer =>
    some (.loadExtensions, if answer then none else some .noDisplayExtension)
  | .call (.gpu .createDevice) answer =>
    some (.createDevice, match answer with
      | .ok _ => none
      | .error cause => some (.noDevice cause))
  | .call (.gpu .bindApi) answer => some (.bindApi, if answer then none else some .apiBind)
  | .call (.gpu (.openDisplay _)) answer =>
    some (.openDisplay, if answer.isSome then none else some .noDisplay)
  | .call (.gpu (.configs _)) answer =>
    some (.chooseConfig, if (chooseConfig (answer.getD [])).isSome then none else some .noConfig)
  | .call (.gpu (.createContext _ _)) answer =>
    some (.createContext, if answer.isSome then none else some .noContext)
  | _ => none

/-- The entries try the steps one after the other. With a failure, the last step that was tried failed
so, and the steps after it were not tried. -/
inductive Tries : List SetUpStep → Option RendererInitError → List JournalEntry → Prop where
  | nil : Tries [] none []
  | success {steps step e g} (h : Tries steps none g) (he : e.setUpStep? = some (step, none)) :
      Tries (steps ++ [step]) none (e :: g)
  | failure {steps step later cause e g} (h : Tries steps none g)
      (he : e.setUpStep? = some (step, some cause)) :
      Tries (steps ++ step :: later) (some cause) (e :: g)

/-- The entries try the steps, and if one fails, what the others acquired is released again, what was
acquired last being released first. -/
inductive Attempt (steps : List SetUpStep) : Option RendererInitError → List JournalEntry → Prop where
  | success {g} (h : Tries steps none g) : Attempt steps none g
  | failure {cause releases tries} (h : Tries steps (some cause) tries)
      (hreleases : ∀ e ∈ releases, e.released?.isSome)
      (hback : released releases = (acquired tries).reverse) :
      Attempt steps (some cause) (releases ++ tries)

section Steps

variable {first second steps : List SetUpStep} {failure : Option RendererInitError}
  {cause : RendererInitError} {g g' releases : List JournalEntry}

theorem chooseConfig_eq_some_iff {configs : List ConfigDescriptor} {config : GpuConfig} :
    chooseConfig configs = some config ↔
      ∃ before after, configs = before ++ ⟨config, some xrgb8888⟩ :: after ∧
        ∀ d ∈ before, d.nativeVisual ≠ some xrgb8888 := by
  simp only [chooseConfig, Option.map_eq_some_iff, List.find?_eq_some_iff_append]
  constructor
  · rintro ⟨d, ⟨hd, before, after, rfl, hbefore⟩, rfl⟩
    have hvisual : d.nativeVisual = some xrgb8888 := eq_of_beq hd
    exact ⟨before, after, by rw [← hvisual], fun d' hd' => by simpa using hbefore d' hd'⟩
  · rintro ⟨before, after, rfl, hbefore⟩
    exact ⟨_, ⟨beq_self_eq_true _, before, after, rfl, fun d' hd' => by simpa using hbefore d' hd'⟩, rfl⟩

theorem chooseConfig_eq_none_iff {configs : List ConfigDescriptor} :
    chooseConfig configs = none ↔ ∀ d ∈ configs, d.nativeVisual ≠ some xrgb8888 := by
  simp [chooseConfig]

theorem Tries.append (h : Tries first none g) (h' : Tries second failure g') :
    Tries (first ++ second) failure (g' ++ g) := by
  induction h' with
  | nil => simpa using h
  | success _ he ih =>
    rw [← List.append_assoc]
    exact .success ih he
  | failure _ he ih =>
    rw [← List.append_assoc]
    exact .failure ih he

/-- No step releases anything. -/
theorem JournalEntry.released?_of_setUpStep? {e : JournalEntry} (h : e.setUpStep?.isSome) :
    e.released? = none := by
  unfold setUpStep? at h
  split at h <;> first | rfl | contradiction

theorem Tries.released_eq (h : Tries steps failure g) : released g = [] := by
  refine List.filterMap_eq_nil_iff.2 fun e he => JournalEntry.released?_of_setUpStep? ?_
  induction h with
  | nil => contradiction
  | success _ hstep ih | failure _ hstep ih =>
    rcases List.mem_cons.1 he with rfl | he
    · rw [hstep]
      rfl
    · exact ih he

/-- A failure is that of a step that was tried, and of no other. -/
theorem Tries.failure_iff (h : Tries steps failure g) :
    failure = some cause ↔ ∃ e ∈ g, ∃ step, e.setUpStep? = some (step, some cause) := by
  have hnone {steps g} (h : Tries steps none g) :
      ¬∃ e ∈ g, ∃ step, e.setUpStep? = some (step, some cause) := by
    generalize hfailure : none = failure at h
    induction h with
    | nil => simp
    | success _ he ih => simpa [he] using ih rfl
    | failure => contradiction
  cases h with
  | nil => simp
  | success h he => exact iff_of_false (by simp) (hnone (.success h he))
  | failure h he => simp [he, hnone h]

/-- Where nothing was acquired yet, nothing is to be released. -/
theorem Attempt.of_tries (h : Tries steps (some cause) g) (hg : acquired g = []) :
    Attempt steps (some cause) g := by
  have hreleases : ∀ e ∈ ([] : List JournalEntry), e.released?.isSome := by simp
  exact .failure h hreleases (by rw [hg]; rfl)

/-- What the first steps acquired is released after what the others did. -/
theorem Attempt.guarded (h : Tries first none g) (h' : Attempt second (some cause) g')
    (hreleases : ∀ e ∈ releases, e.released?.isSome)
    (hback : released releases = (acquired g).reverse) :
    Attempt (first ++ second) (some cause) (releases ++ (g' ++ g)) := by
  cases h' with
  | failure htries hreleases' hback' =>
    rw [List.append_assoc, ← List.append_assoc]
    refine .failure (h.append htries) ?_ ?_
    · exact fun e he => (List.mem_append.1 he).elim (hreleases e) (hreleases' e)
    · rw [released_append, hback, hback', acquired_append, List.reverse_append]

end Steps

namespace RenderContext

variable {W : World}

/-- The context was created with the first of the listed configurations that fits. -/
structure Chosen (h : ContextHandles) (g : List JournalEntry) : Prop where
  created : .call (.gpu (.createContext h.display h.config)) (some h.context) ∈ g
  first : ∃ configs, .call (.gpu (.configs h.display)) configs ∈ g ∧
    chooseConfig (configs.getD []) = some h.config

theorem Chosen.mono {h : ContextHandles} {g g' : List JournalEntry} (hc : Chosen h g)
    (hg : ∀ e ∈ g, e ∈ g') : Chosen h g' where
  created := hg _ hc.created
  first := hc.first.imp fun _ h => ⟨hg _ h.1, h.2⟩

private theorem yields_gpu (operation : GpuCall) (s : Session W) :
    Yields (gpu operation : SessionM W operation.Answer) s fun a g _ =>
      g = [.call (.gpu operation) a] := ⟨_, rfl, rfl⟩

private theorem yields_acquireContext (device : GpuDevice) (display : GpuDisplay) (s : Session W) :
    Yields (do
      let some config := chooseConfig ((← gpu (.configs display)).getD []) | throw .noConfig
      let some context ← gpu (.createContext display config) | throw .noContext
      return ⟨device, display, config, context⟩ :
        ExceptT RendererInitError (SessionM W) ContextHandles).run s
      fun r g _ => match r with
        | .ok h => h.device = device ∧ h.display = display ∧
          Tries [.chooseConfig, .createContext] none g ∧ Takes [.context h.context] g ∧ Chosen h g
        | .error cause => Attempt [.chooseConfig, .createContext] (some cause) g := by
  refine (yields_gpu (.configs display) s).lift_bind ?_
  rintro configs _ s₁ rfl
  cases hconfig : chooseConfig (configs.getD []) with
  | none =>
    have hstep : (JournalEntry.call (.gpu (.configs display)) configs).setUpStep? =
        some (.chooseConfig, some .noConfig) := by simp [JournalEntry.setUpStep?, hconfig]
    exact .throw (.of_tries (.failure .nil hstep) rfl)
  | some config =>
    have hstep : (JournalEntry.call (.gpu (.configs display)) configs).setUpStep? =
        some (.chooseConfig, none) := by simp [JournalEntry.setUpStep?, hconfig]
    refine (yields_gpu (.createContext display config) s₁).lift_bind ?_
    rintro context _ s₂ rfl
    cases context with
    | none => exact .throw (.of_tries (.failure (.success .nil hstep) rfl) rfl)
    | some context =>
      refine .pureOk ⟨rfl, rfl, .success (.success .nil hstep) rfl, ⟨rfl, rfl, rfl⟩, ?_⟩
      exact ⟨by simp, configs, by simp, hconfig⟩

private theorem yields_acquireDisplay (device : GpuDevice) (s : Session W) :
    Yields (do
      unless ← gpu .bindApi do throw .apiBind
      let some display ← gpu (.openDisplay device) | throw .noDisplay
      orRelease (gpu (.terminateDisplay display)) do
        let some config := chooseConfig ((← gpu (.configs display)).getD []) | throw .noConfig
        let some context ← gpu (.createContext display config) | throw .noContext
        return ⟨device, display, config, context⟩ :
          ExceptT RendererInitError (SessionM W) ContextHandles).run s
      fun r g _ => match r with
        | .ok h => h.device = device ∧
          Tries [.bindApi, .openDisplay, .chooseConfig, .createContext] none g ∧
          Takes [.context h.context, .display h.display] g ∧ Chosen h g
        | .error cause =>
          Attempt [.bindApi, .openDisplay, .chooseConfig, .createContext] (some cause) g := by
  refine (yields_gpu .bindApi s).lift_bind ?_
  rintro bound _ s₁ rfl
  cases bound with
  | false => exact .throw (.of_tries (.failure .nil rfl) rfl)
  | true =>
    have hbound : Tries [.bindApi] none [.call (.gpu .bindApi) true] := .success .nil rfl
    refine (yields_gpu (.openDisplay device) s₁).lift_bind ?_
    rintro display _ s₂ rfl
    cases display with
    | none => exact .throw (.of_tries (.failure hbound rfl) rfl)
    | some display =>
      have hopened : Tries [.bindApi, .openDisplay] none [.call (.gpu (.openDisplay device))
        (some display), .call (.gpu .bindApi) true] := .success hbound rfl
      refine (yields_acquireContext device display s₂).orRelease ?_ ?_
      · rintro h g s₃ ⟨hdevice, rfl, htries, htakes, hchosen⟩
        have htaken : Takes [.display h.display] [.call (.gpu (.openDisplay device)) (some h.display),
            .call (.gpu .bindApi) true] := ⟨rfl, rfl, rfl⟩
        rw [List.append_assoc]
        exact ⟨hdevice, hopened.append htries, htaken.append htakes,
          hchosen.mono fun e => List.mem_append_left _⟩
      · rintro cause g s₃ hattempt
        refine (yields_gpu (.terminateDisplay display) s₃).mono ?_
        rintro _ _ _ rfl
        rw [List.append_assoc, List.append_assoc]
        exact .guarded hopened hattempt (by simp [JournalEntry.released?]) rfl

/-- Setting a context up acquires its handles, or fails with all that was acquired released again. -/
theorem yields_acquire (s : Session W) :
    Yields acquire.run s fun r g _ => match r with
      | .ok h => Tries SetUpStep.all none g ∧ Takes h.resources g ∧ Chosen h g
      | .error cause => Attempt SetUpStep.all (some cause) g := by
  refine (yields_gpu .loadExtensions s).lift_bind ?_
  rintro loaded _ s₁ rfl
  cases loaded with
  | false => exact .throw (.of_tries (.failure .nil rfl) rfl)
  | true =>
    have hloaded : Tries [.loadExtensions] none [.call (.gpu .loadExtensions) true] :=
      .success .nil rfl
    refine (yields_gpu .createDevice s₁).orFail_bindOk ?_ ?_
    · rintro device _ s₂ rfl
      have hcreated : Tries [.loadExtensions, .createDevice] none [.call (.gpu .createDevice)
        (.ok device), .call (.gpu .loadExtensions) true] := .success hloaded rfl
      refine (yields_acquireDisplay device s₂).orRelease ?_ ?_
      · rintro h g s₃ ⟨rfl, htries, htakes, hchosen⟩
        have htaken : Takes [.device h.device] [.call (.gpu .createDevice) (.ok h.device),
            .call (.gpu .loadExtensions) true] := ⟨rfl, rfl, rfl⟩
        rw [List.append_assoc]
        exact ⟨hcreated.append htries, htaken.append htakes,
          hchosen.mono fun e => List.mem_append_left _⟩
      · rintro cause g s₃ hattempt
        refine (yields_gpu (.destroyDevice device) s₃).mono ?_
        rintro _ _ _ rfl
        rw [List.append_assoc, List.append_assoc]
        exact .guarded hcreated hattempt (by simp [JournalEntry.released?]) rfl
    · rintro cause _ s₂ rfl
      exact .of_tries (.failure hloaded rfl) rfl

end RenderContext
end Scanout
