import Monocycle.Proofs.Simulator.Segments

/-!
# What is taken from the settings

A simulator carries its settings along, but what it does with a program hardly depends on them. A
step does not look at them at all, and a run looks for nothing but its pause, of which it can be
told only whether the settings have one and whether the clock takes it (`Simulator.pauseRefusal?`).
`Simulator.withSettings` exchanges the settings, and steps and runs commute with it: two simulators
that agree but for the settings are driven to the same answers and the same journals, and go on to
agree but for the settings.

## Main results

* `Simulator.stepWith_withSettings`: a step does not depend on the settings.
* `Simulator.runWith_withSettings`: nor does a run, but for what the clock says to its pause.
* `Simulator.runWith_congr_pause`: pauses that the clock takes make no difference.
-/

namespace Monocycle

/-- A simulator with other settings. -/
def Simulator.withSettings (settings : Settings) (s : Simulator) : Simulator :=
  { s with settings := settings }

/-- A turn that leaves a simulator with other settings. -/
def Turn.withSettings {α : Type} (settings : Settings) (t : Turn α) : Turn α :=
  { t with simulator := t.simulator.withSettings settings }

/-- A run of a simulator with other settings. -/
def Simulator.RunState.withSettings (settings : Settings) (r : RunState) : RunState :=
  { r with simulator := r.simulator.withSettings settings }

/-- A turn that goes on does not depend on the settings if what follows does not. -/
theorem Turn.andThen_withSettings {α β : Type} {settings : Settings}
    {next : Simulator → α → Turn β}
    (hnext : ∀ s a, next (s.withSettings settings) a = (next s a).withSettings settings)
    (t : Turn α) :
    (t.withSettings settings).andThen next = (t.andThen next).withSettings settings := by
  cases ha : t.answer with
  | error e => simp [andThen, withSettings, ha]
  | ok a => simp [andThen, withSettings, ha, hnext]

namespace Simulator

variable (settings : Settings)

/-! ### Steps -/

theorem act_withSettings (s : Simulator) (a : Action) :
    (s.withSettings settings).act a = (s.act a).withSettings settings := by
  cases a with
  | stop => rfl
  | reset => rfl
  | subscribe l => rfl
  | unsubscribe l =>
      have hlisteners : (s.withSettings settings).listeners = s.listeners := rfl
      simp only [act, unsubscribe, hlisteners]
      by_cases hmem : l ∈ s.listeners
      · rw [if_pos hmem, if_pos hmem]
        rfl
      · rw [if_neg hmem, if_neg hmem]
        rfl

theorem actAll_withSettings (actions : List Action) (s : Simulator) :
    actAll actions (s.withSettings settings) = (actAll actions s).withSettings settings := by
  induction actions generalizing s with
  | nil => rfl
  | cons a rest ih =>
      rw [actAll, act_withSettings, actAll]
      exact Turn.andThen_withSettings (fun s _ => ih s) _

theorem notify_withSettings (conduct : Conduct) (event : StepEvent) (position : Nat)
    (ls : List Listener) (s : Simulator) :
    notify conduct event position ls (s.withSettings settings) =
      (notify conduct event position ls s).withSettings settings := by
  induction ls generalizing position s with
  | nil => rfl
  | cons l rest ih =>
      have hdeliver : (s.withSettings settings).deliver l event (conduct position l event) =
          (s.deliver l event (conduct position l event)).withSettings settings := by
        rw [deliver, deliver, actAll_withSettings]
        rfl
      rw [notify, hdeliver, notify]
      exact Turn.andThen_withSettings (fun s _ => ih _ s) _

/-- **A step does not depend on the settings**, whatever the listeners do. -/
theorem stepWith_withSettings (conduct : Conduct) (s : Simulator) :
    (s.withSettings settings).stepWith conduct = (s.stepWith conduct).withSettings settings := by
  have hstepped : (s.withSettings settings).stepped = s.stepped.withSettings settings := rfl
  simp only [stepWith, hstepped, notify_withSettings]
  rfl

/-! ### Runs -/

namespace RunState

variable {conduct : Nat → Conduct} {pause pause' : Delay}

theorem ending?_withSettings (maxSteps? : Option Int) (r : RunState) :
    (r.withSettings settings).ending? maxSteps? =
      (r.ending? maxSteps?).map (·.withSettings settings) := by
  have hcancelled : (r.withSettings settings).isCancelled = r.isCancelled := rfl
  have hlimit : (r.withSettings settings).isAtLimit maxSteps? = r.isAtLimit maxSteps? := rfl
  simp only [ending?, hcancelled, hlimit]
  split
  · rfl
  · split
    · rfl
    · rfl

/-- The next step of a run asks only whether the clock takes the pause. -/
theorem attempt_withSettings (hpause : pause'.refusal? = pause.refusal?) (r : RunState) :
    (r.withSettings settings).attempt conduct pause' =
      (r.attempt conduct pause).map (·.withSettings settings) (·.withSettings settings) := by
  let turn := r.simulator.stepWith (conduct r.steps)
  have hturn : (r.withSettings settings).simulator.stepWith
      (conduct (r.withSettings settings).steps) = turn.withSettings settings :=
    stepWith_withSettings settings _ _
  have hafter : (r.withSettings settings).afterStep (turn.withSettings settings) =
      (r.afterStep turn).withSettings settings := rfl
  have hanswer : (turn.withSettings settings).answer = turn.answer := rfl
  have hmachine : ((r.afterStep turn).withSettings settings).simulator.machine =
      (r.afterStep turn).simulator.machine := rfl
  simp only [attempt, hturn, hafter, hanswer, hmachine, hpause]
  cases turn.answer with
  | error e => rfl
  | ok o =>
      dsimp only
      split
      · rfl
      · split
        · rfl
        · cases pause.refusal? with
          | some e => rfl
          | none => rfl

theorem go_withSettings (maxSteps? : Option Int) (hpause : pause'.refusal? = pause.refusal?)
    (rounds : Nat) (r : RunState) :
    go conduct maxSteps? pause' rounds (r.withSettings settings) =
      (go conduct maxSteps? pause rounds r).withSettings settings := by
  induction rounds generalizing r with
  | zero => rfl
  | succ rounds ih =>
      rw [go, go, ending?_withSettings]
      cases he : r.ending? maxSteps? with
      | some t => rfl
      | none =>
          rw [attempt_withSettings settings hpause]
          cases ha : r.attempt conduct pause with
          | inl t => rfl
          | inr r' => exact ih r'

end RunState

/-- What the clock says to the pause that a run finds. -/
def pauseRefusal? (s : Simulator) (pause? : Option Delay) :
    Except SettingError (Option DelayError) :=
  (s.runPause ⟨none, none, pause?⟩).map Delay.refusal?

/-- The clock takes the pause of a run that has a pace. -/
theorem HasPace.pauseRefusal? {s : Simulator} {pause? : Option Delay} (h : s.HasPace pause?) :
    s.pauseRefusal? pause? = .ok none := by
  obtain ⟨pause, hpause, htaken⟩ := h
  rw [Simulator.pauseRefusal?, hpause, Except.map, htaken]

/-- Where the clock says the same to two pauses, neither is known, or both are and are taken or
refused alike. -/
theorem pauseRefusal?_eq_cases {s s' : Simulator} {pause? other? : Option Delay}
    (h : s'.pauseRefusal? other? = s.pauseRefusal? pause?) :
    (∃ e, s.runPause ⟨none, none, pause?⟩ = .error e ∧
      s'.runPause ⟨none, none, other?⟩ = .error e) ∨
    ∃ pause pause', s.runPause ⟨none, none, pause?⟩ = .ok pause ∧
      s'.runPause ⟨none, none, other?⟩ = .ok pause' ∧ pause'.refusal? = pause.refusal? := by
  rw [pauseRefusal?, pauseRefusal?] at h
  cases hpause : s.runPause ⟨none, none, pause?⟩ with
  | error e =>
      cases hother : s'.runPause ⟨none, none, other?⟩ with
      | error e' =>
          rw [hpause, hother] at h
          cases h
          exact .inl ⟨e, rfl, rfl⟩
      | ok pause' =>
          rw [hpause, hother] at h
          cases h
  | ok pause =>
      cases hother : s'.runPause ⟨none, none, other?⟩ with
      | error e' =>
          rw [hpause, hother] at h
          cases h
      | ok pause' =>
          rw [hpause, hother] at h
          exact .inr ⟨pause, pause', rfl, rfl, Except.ok.inj h⟩

variable {conduct : Nat → Conduct} {s : Simulator} {maxSteps? : Option Int}
variable {cancelAfter? : Option Nat} {pause? other? : Option Delay}

/-- **A run does not depend on the settings** or on its pause, if the clock says the same to the
pauses. -/
theorem runWith_withSettings
    (hpause : (s.withSettings settings).pauseRefusal? other? = s.pauseRefusal? pause?)
    (rounds : Nat) :
    (s.withSettings settings).runWith conduct rounds ⟨maxSteps?, cancelAfter?, other?⟩ =
      (s.runWith conduct rounds ⟨maxSteps?, cancelAfter?, pause?⟩).withSettings settings := by
  -- the pause of a run has nothing to do with what bounds the run
  have hown : s.runPause ⟨maxSteps?, cancelAfter?, pause?⟩ = s.runPause ⟨none, none, pause?⟩ := rfl
  have hother : (s.withSettings settings).runPause ⟨maxSteps?, cancelAfter?, other?⟩ =
      (s.withSettings settings).runPause ⟨none, none, other?⟩ := rfl
  rw [runWith, runWith, hown, hother]
  obtain ⟨e, hnone, hnone'⟩ | ⟨pause, pause', htold, htold', hsame⟩ := pauseRefusal?_eq_cases hpause
  · rw [hnone, hnone']
    rfl
  · rw [htold, htold']
    exact RunState.go_withSettings settings maxSteps? hsame rounds
      (.start s ⟨maxSteps?, cancelAfter?, pause?⟩)

/-- **Pauses make no difference** to a run as long as the clock takes them. -/
theorem runWith_congr_pause (hpace : s.HasPace pause?) (hother : s.HasPace other?) (rounds : Nat) :
    s.runWith conduct rounds ⟨maxSteps?, cancelAfter?, other?⟩ =
      s.runWith conduct rounds ⟨maxSteps?, cancelAfter?, pause?⟩ := by
  have hsettings : (s.runWith conduct rounds ⟨maxSteps?, cancelAfter?, pause?⟩).simulator.settings =
      s.settings := settings_runWith rounds s _
  -- the settings are exchanged for themselves, so that only the pause changes
  have hrun : s.runWith conduct rounds ⟨maxSteps?, cancelAfter?, other?⟩ =
      (s.runWith conduct rounds ⟨maxSteps?, cancelAfter?, pause?⟩).withSettings s.settings :=
    runWith_withSettings s.settings (s := s)
      (hother.pauseRefusal?.trans hpace.pauseRefusal?.symm) rounds
  rw [hrun, Turn.withSettings, withSettings, ← hsettings]

end Simulator

end Monocycle
