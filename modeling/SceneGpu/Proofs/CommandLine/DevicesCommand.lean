import SceneGpu.CommandLine.Run
import SceneGpu.Proofs.Gpu.Lifetimes
/-!
What the listing of devices leaves behind: nothing. Whatever the driver refuses, each object that was
created is destroyed before the command returns.
-/
namespace SceneGpu.CommandLine

open Gpu Effect
open SceneGpu.Gpu.Action (Makes)

variable {α : Type}

def Desk.calls (d : Desk) : List Call := d.machine.calls

namespace Task

theorem onMachine_adds {x : Action α} {told : Except Failure α → List Call → Prop}
    (makes : Makes x told) : Adds Desk.calls (onMachine x) told :=
  fun d => makes d.machine

theorem printLines_adds (lines : List String) :
    Adds Desk.calls (printLines lines) fun r made => r = .ok () ∧ made = [] := by
  intro d
  exact ⟨[], (List.append_nil _).symm, rfl, rfl⟩

end Task

inductive PoolTrial : List Call → Prop
  | refused (code : ResultCode) : PoolTrial [.failed .createCommandPool code]
  | given (family : UInt32) (h : Handle) :
      PoolTrial [.createCommandPool family h, .destroyCommandPool h]

namespace PoolTrial

variable {made : List Call}

theorem balanced (trial : PoolTrial made) : Balanced made := by
  cases trial with
  | refused code => exact .quiet (Call.quiet_failed _ code)
  | given family h =>
    have nothing : Balanced [] := .quiet (by simp)
    exact nothing.bracket (x := .commandPool h) rfl rfl (by simp) (by simp)

theorem children (trial : PoolTrial made) : ∀ y ∈ created made, y.parent? = some .device := by
  cases trial with
  | refused code => simp [created_cons, Call.creates?]
  | given family h => simp [created_cons, Call.creates?, Object.parent?]

theorem device_stays (trial : PoolTrial made) : .destroyDevice ∉ made := by
  cases trial <;> simp

end PoolTrial

theorem tryPool_makes (family : UInt32) : Makes (tryPool family) fun _ made => PoolTrial made := by
  have new := (Action.create_makes .createCommandPool (.createCommandPool family)).created_mapFailure
    (Device.poolFailure family)
  refine new.bind ?_ ?_
  · rintro e made ⟨⟩
    exact .refused _
  · rintro h made ⟨⟩
    exact .called (.given family h)

theorem useDevice_adds (d : Device) :
    Adds Desk.calls (useDevice d) fun _ made => PoolTrial made := by
  refine (Task.printLines_adds _).bind ?_ ?_
  · rintro e made ⟨impossible, _⟩
    cases impossible
  · rintro _ made ⟨_, rfl⟩
    exact Task.onMachine_adds (tryPool_makes _)

def session (i : Instance) (s : DeviceSettings) : Task Unit := do
  let d ← Task.onMachine (selectDevice i s)
  (useDevice d).ensuring (Task.onMachine d.close)

theorem useAndClose_adds (d : Device) :
    Adds Desk.calls ((useDevice d).ensuring (Task.onMachine d.close)) fun _ made =>
      ∃ trial wait, PoolTrial trial ∧ Device.Waited wait ∧
        made = trial ++ [wait, .destroyDevice] := by
  refine (useDevice_adds d).ensuring (Task.onMachine_adds d.close_makes) ?_
  rintro r trial r' more tried ⟨wait, waited, rfl⟩
  exact ⟨trial, wait, tried, waited, rfl⟩

theorem session_adds (i : Instance) (s : DeviceSettings) :
    Adds Desk.calls (session i s) fun _ made =>
      Balanced made ∧ ∀ y ∈ created made, y.OfDevice := by
  refine (Task.onMachine_adds (Device.select_makes i _ _ _)).bind ?_ ?_
  · rintro e made ⟨_, _, balanced, few⟩
    exact ⟨balanced, fun y mem => .inl (few y mem)⟩
  rintro d made (_ | ⟨_, info, queues, quiet⟩)
  refine (useAndClose_adds d).mono ?_
  rintro r more ⟨trial, wait, tried, waited, rfl⟩
  exact Device.closed_around quiet waited tried.balanced tried.children

theorem devices_adds (application : String) (s : DeviceSettings) :
    Adds Desk.calls (devices application s) fun _ made => Balanced made := by
  refine (Task.onMachine_adds (Instance.create_makes application s)).bind ?_ ?_
  · rintro e made ⟨_, _, balanced⟩
    exact balanced
  rintro i begun creation
  refine (session_adds i s).ensuring (Task.onMachine_adds i.destroy_makes) ?_
  rintro r made r' more ⟨balanced, within_device⟩ rfl
  exact creation.around balanced within_device

/-- A device that was selected is waited for, and then destroyed, whether the wait fails or not. -/
theorem devices_waits {application : String} {s : DeviceSettings} {desk : Desk} {i : Instance}
    {d : Device} {m₁ m₂ : Machine}
    (began : Instance.create application s desk.machine = (.ok i, m₁))
    (opened : selectDevice i s m₁ = (.ok d, m₂)) :
    ∃ used wait rest, (devices application s desk).2.calls =
        m₂.calls ++ used ++ wait :: .destroyDevice :: rest ∧
      .destroyDevice ∉ used ∧ Device.Waited wait := by
  have first : Task.onMachine (Instance.create application s) desk =
      (.ok i, { desk with machine := m₁ }) := by
    simp [Task.onMachine, began]
  have second : Task.onMachine (selectDevice i s) { desk with machine := m₁ } =
      (.ok d, { desk with machine := m₂ }) := by
    simp [Task.onMachine, opened]
  have sessions : session i s { desk with machine := m₁ } = _ := bind_of_ok second
  have went : devices application s desk = _ := bind_of_ok first
  obtain ⟨made, grown, trial, wait, tried, waited, rfl⟩ :=
    useAndClose_adds d { desk with machine := m₂ }
  rw [← sessions] at grown
  obtain ⟨rest, ended, -⟩ := Task.onMachine_adds i.destroy_makes
    (session i s { desk with machine := m₁ }).2
  refine ⟨trial, wait, rest, ?_, tried.device_stays, waited⟩
  rw [went]
  refine ended.trans ?_
  rw [grown]
  simp [Desk.calls]

structure Tidy (s : Surroundings) (device : DeviceSettings) (calls : List Call) : Prop where
  balanced : Balanced calls
  waits : s.graphics.isSome = true → ∀ i m₁ d m₂,
    Instance.create programName device s.startMachine = (.ok i, m₁) →
      selectDevice i device m₁ = (.ok d, m₂) → ∃ used wait rest,
        calls = m₂.calls ++ used ++ wait :: .destroyDevice :: rest ∧
          .destroyDevice ∉ used ∧ Device.Waited wait

theorem task_devices_tidy (s : Surroundings) (settings : Settings) (headless : Bool) :
    Tidy s { settings.device with headless := settings.device.headless || headless }
      (s.task settings (.devices headless) ⟨s.startMachine, ""⟩).2.calls := by
  have fresh : s.startMachine.calls = [] := by
    unfold Surroundings.startMachine
    split <;> rfl
  have only : (s.task settings (.devices headless) ⟨s.startMachine, ""⟩).2 =
      (s.listDevices settings.device headless ⟨s.startMachine, ""⟩).2 := by
    simp only [Surroundings.task, bind, andThen]
    split <;> simp_all [pure, succeed]
  rw [only]
  unfold Surroundings.listDevices
  by_cases graphics : s.graphics.isSome = true
  · rw [if_pos graphics]
    obtain ⟨made, grown, balanced⟩ := devices_adds programName
      { settings.device with headless := settings.device.headless || headless } ⟨s.startMachine, ""⟩
    have all : Desk.calls ⟨s.startMachine, ""⟩ ++ made = made := by simp [Desk.calls, fresh]
    refine ⟨?_, fun _ i m₁ d m₂ began opened => devices_waits began opened⟩
    rw [grown, all]
    exact balanced
  · rw [if_neg graphics]
    have nothing : (devicesWithoutLibrary programName ⟨s.startMachine, ""⟩).2.calls = [] := fresh
    rw [nothing]
    exact ⟨.quiet (by simp), fun some_library => absurd some_library graphics⟩

end SceneGpu.CommandLine
