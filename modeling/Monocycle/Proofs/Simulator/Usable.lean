import Monocycle.Proofs.Delay
import Monocycle.Proofs.Simulator.Replay

/-!
# Settings that are of use

Settings are values of any kind, and each use of them may find that it cannot take the value. With
integers for the sizes, the pause and the limit, a pause that the clock takes, and a level that
exists, no use complains, and this module tells what each of them finds.

## Main definitions

* `Settings.Shows`: the number of memory words that are shown.
* `Settings.Usable`: settings that no use complains about.

## Main results

* `memoryWindow_of_shows`: the window of the memory that is shown.
* `create_of_usable`, `hasPace_of_usable`: what usable settings come to.
-/

namespace Monocycle

namespace Settings

/-- The settings **show** so many words of the memory: their number is set, and it is an integer. -/
def Shows (settings : Settings) (words : Int) : Prop :=
  (valueOf settings.memory "display_words").int? = some words

/-- **Usable** settings: integers for the size of the memory, the number of words that are shown,
the pause, which is one that the clock takes, and the step limit, and a threshold that exists. -/
structure Usable (settings : Settings) (size words limit : Int) : Prop where
  size : (valueOf settings.memory "size").int? = some size
  shows : settings.Shows words
  pause : ∃ ms, (valueOf settings.run "delay_ms").int? = some ms ∧ 0 ≤ ms ∧ ms ≤ Delay.longest
  limit : (valueOf settings.run "max_steps").int? = some limit
  threshold : ∃ n, settings.threshold = .ok n

variable {settings : Settings} {size words limit : Int}

theorem windowEnd_of_shows (h : settings.Shows words) (size : Int) :
    settings.windowEnd size = .ok (words * 4) := by
  rw [Shows] at h
  rw [windowEnd]
  generalize valueOf settings.memory "display_words" = v at h
  cases v with
  | int i => simp only [h]
  | bool b => simp only [h]
  | null | real _ | text _ | list _ | map _ => cases h

theorem pause_of_int? {ms : Int} (h : (valueOf settings.run "delay_ms").int? = some ms) :
    settings.pause = (Delay.ofMilliseconds? ms).elim (.error .longPause) .ok := by
  rw [pause]
  generalize valueOf settings.run "delay_ms" = v at h
  cases v with
  | int i => simp only [h]
  | bool b => simp only [h]
  | null | real _ | text _ | list _ | map _ => cases h

/-- The clock takes the pause of usable settings. -/
theorem Usable.exists_pause (h : settings.Usable size words limit) :
    ∃ pause, settings.pause = .ok pause ∧ pause.refusal? = none := by
  obtain ⟨ms, hms, hrange⟩ := h.pause
  obtain ⟨pause, hpause, htaken⟩ := (Delay.taken_ofMilliseconds?_iff ms).mpr hrange
  refine ⟨pause, ?_, htaken⟩
  rw [pause_of_int? hms, hpause]
  rfl

/-- The step limit of usable settings. -/
theorem Usable.stepLimit? (h : settings.Usable size words limit) :
    settings.stepLimit? = .ok (some limit) := by
  have hlimit := h.limit
  rw [Settings.stepLimit?]
  generalize valueOf settings.run "max_steps" = v at hlimit
  cases v with
  | int i => simp only [hlimit]
  | bool b => simp only [hlimit]
  | null | real _ | text _ | list _ | map _ => cases hlimit

end Settings

namespace Simulator

variable {s : Simulator} {settings : Settings} {size words limit : Int}

/-! ### The window of the memory -/

/-- **The window of the memory** that is shown. -/
theorem memoryWindow_of_shows (h : s.settings.Shows words) :
    s.memoryWindow = .ok (s.memoryWords 0 (some (words * 4))) := by
  rw [memoryWindow, Settings.windowEnd_of_shows h]
  rfl

/-- No operation changes how many words are shown. -/
theorem shows_perform (h : s.settings.Shows words) (op : Operation) :
    (s.perform op).simulator.settings.Shows words := by
  rwa [settings_perform]

/-- Nor does a run. -/
theorem shows_run (h : s.settings.Shows words) (options : RunOptions) :
    (s.run options).simulator.settings.Shows words :=
  shows_perform h (.run (fun _ => Listener.conduct) options.rounds options)

/-! ### Usable settings -/

/-- The fresh simulator of usable settings. -/
theorem create_of_usable (h : settings.Usable size words limit) :
    create settings none = .ok ⟨.ofMemorySize size, [], false, [], settings⟩ := by
  have hsize : settings.memorySize = .ok size := by
    rw [Settings.memorySize, h.size]
  rw [create, hsize]
  rfl

/-- A fresh simulator that has loaded a source, or not: it has no listeners, and settings and size of
the memory are those it was made with. -/
theorem load_of_create (h : settings.Usable size words limit) (hcreate : create settings none = .ok s)
    (source : Text) :
    (s.load source).simulator.listeners = [] ∧
      (s.load source).simulator.settings = settings ∧
      (s.load source).simulator.machine.memory.size = size := by
  obtain rfl := Except.ok.inj (hcreate.symm.trans (create_of_usable h))
  rw [load]
  split
  · exact ⟨rfl, rfl, rfl⟩
  · exact ⟨rfl, rfl, rfl⟩
  · exact ⟨rfl, rfl, rfl⟩

/-- A run has a pace, its own or that of usable settings. -/
theorem hasPace_of_usable (h : s.settings.Usable size words limit) {pause? : Option Delay}
    (hpause : ∀ pause, pause? = some pause → pause.refusal? = none) : s.HasPace pause? := by
  cases pause? with
  | some pause => exact ⟨pause, rfl, hpause pause rfl⟩
  | none => exact h.exists_pause

end Simulator

end Monocycle
