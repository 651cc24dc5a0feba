import SceneGpu.Object.State
import SceneGpu.Proofs.Collection.Sequence
import SceneGpu.Proofs.Collection.SortedMap
import SceneGpu.Proofs.Gpu.Buffer
/-!
The buffers behind the uniform blocks of a pipeline's modules. Each block has one after a success.
Its room is that of the first declaration of the block's name, or whatever the object already had
under the name; a later and larger declaration does not count.
-/
namespace SceneGpu.ObjectState

open Gpu Effect

def Backs (buffers : BufferMap) (m : Machine) (modules : List ShaderModule) : Prop :=
  ∀ module ∈ modules, ∀ s ∈ module.specs.uniformBuffers,
    ∃ r b, buffers.get? s.name = some r ∧ m.held[r]? = some b ∧ s.size ≤ b.size

def firstDeclaration? (modules : List ShaderModule) (name : String) : Option Spec :=
  (modules.flatMap (·.specs.uniformBuffers)).find? fun s => s.name = name

theorem find?_uniformSpecs (modules : List ShaderModule) (name : String) :
    (uniformSpecs modules).find? (fun s => s.name = name) = firstDeclaration? modules name :=
  find?_firstsOn Spec.name name _

theorem firstDeclaration?_isSome {modules : List ShaderModule} {module : ShaderModule} {s : Spec}
    (mem : module ∈ modules) (declared : s ∈ module.specs.uniformBuffers) :
    ∃ first, firstDeclaration? modules s.name = some first := by
  have found : (firstDeclaration? modules s.name).isSome := by
    simp only [firstDeclaration?, List.find?_isSome, List.mem_flatMap]
    exact ⟨s, ⟨module, mem, declared⟩, by simp⟩
  exact Option.isSome_iff_exists.mp found

section Adding

variable {d : Device} {buffers buffers' : BufferMap} {m m' : Machine}

theorem addUniformBuffers_cons_ok {s : Spec} {rest : List Spec}
    (run : addUniformBuffers d (s :: rest) buffers m = (.ok buffers', m')) :
    (∃ r, buffers.get? s.name = some r ∧
      addUniformBuffers d rest buffers m = (.ok buffers', m')) ∨
    (buffers.get? s.name = none ∧ ∃ r m₁, Buffer.fromSpec d s m = (.ok r, m₁) ∧
      addUniformBuffers d rest (buffers.insert s.name r) m₁ = (.ok buffers', m')) := by
  simp only [addUniformBuffers] at run
  split at run
  · rename_i there
    exact .inl (by simpa [SortedMap.contains, Option.isSome_iff_exists, run] using there)
  · rename_i absent
    have free := (SortedMap.contains_eq_false _ _).mp (Bool.eq_false_iff.mpr absent)
    exact .inr ⟨free, bind_ok.mp run⟩

theorem addUniformBuffers_held {specs : List Spec} {r : BufferRef} {b : HostBuffer}
    (run : addUniformBuffers d specs buffers m = (.ok buffers', m'))
    (held : m.held[r]? = some b) : m'.held[r]? = some b := by
  induction specs generalizing buffers m with
  | nil => cases run; exact held
  | cons s rest ih =>
    rcases addUniformBuffers_cons_ok run with ⟨_, _, later⟩ | ⟨_, q, m₁, made, later⟩
    · exact ih later held
    · obtain ⟨_, c, grown, _⟩ := Buffer.fromSpec_ok made
      have inside : r < m.held.length := (List.getElem?_eq_some_iff.mp held).1
      exact ih later (by rw [grown, List.getElem?_append_left inside, held])

theorem addUniformBuffers_keeps {specs : List Spec} {name : String} {r : BufferRef}
    (run : addUniformBuffers d specs buffers m = (.ok buffers', m'))
    (there : buffers.get? name = some r) : buffers'.get? name = some r := by
  induction specs generalizing buffers m with
  | nil => cases run; exact there
  | cons s rest ih =>
    rcases addUniformBuffers_cons_ok run with ⟨_, _, later⟩ | ⟨free, q, m₁, _, later⟩
    · exact ih later there
    · have other : name ≠ s.name := by rintro rfl; simp [free] at there
      exact ih later (by rw [SortedMap.get?_insert_of_ne _ _ other, there])

theorem addUniformBuffers_adds {specs : List Spec} {name : String} {first : Spec}
    (run : addUniformBuffers d specs buffers m = (.ok buffers', m'))
    (free : buffers.get? name = none)
    (found : specs.find? (fun s => s.name = name) = some first) :
    ∃ r b, buffers'.get? name = some r ∧ m.held[r]? = none ∧ m'.held[r]? = some b ∧
      b.role = .uniform first ∧ b.size = alignedSize first.size := by
  induction specs generalizing buffers m with
  | nil => simp at found
  | cons s rest ih =>
    by_cases here : s.name = name
    · obtain rfl : s = first := by simpa [here] using found
      rcases addUniformBuffers_cons_ok run with ⟨_, there, _⟩ | ⟨_, r, m₁, made, later⟩
      · simp [here, free] at there
      · obtain ⟨rfl, b, held, role, size⟩ := Buffer.fromSpec_ok made
        refine ⟨m.held.length, b, addUniformBuffers_keeps later ?_, ?_, ?_, role, size⟩
        · rw [← here, SortedMap.get?_insert_self]
        · exact List.getElem?_eq_none (Nat.le_refl _)
        · exact addUniformBuffers_held later (by simp [held])
    · have found : rest.find? (fun s => s.name = name) = some first := by
        simpa [here] using found
      rcases addUniformBuffers_cons_ok run with ⟨_, _, later⟩ | ⟨_, q, m₁, made, later⟩
      · exact ih later free found
      · obtain ⟨r, b, there, unknown, added⟩ :=
          ih later (by rw [SortedMap.get?_insert_of_ne _ _ (Ne.symm here), free]) found
        obtain ⟨_, c, grown, _⟩ := Buffer.fromSpec_ok made
        have before : m.held[r]? = none := by
          rw [List.getElem?_eq_none_iff] at unknown ⊢
          rw [grown, List.length_append] at unknown
          exact Nat.le_trans (Nat.le_add_right _ _) unknown
        exact ⟨r, b, there, before, added⟩

end Adding

theorem createUniformBuffers_ok {o o' : ObjectState} {d : Device} {modules : List ShaderModule}
    {m m' : Machine} {created : Nat}
    (run : o.createUniformBuffers d modules m = (.ok (o', created), m')) :
    addUniformBuffers d (uniformSpecs modules) o.uniformBuffers m =
      (.ok o'.uniformBuffers, m') := by
  obtain ⟨buffers, m₁, added, rest⟩ := bind_ok.mp run
  obtain ⟨eq, rfl⟩ := pure_ok.mp rest
  cases eq
  exact added

/-- The buffer that stands behind a block once a pipeline's buffers were made: the one its name had
before, unchanged, or else a new one with room for the block's first declaration. -/
inductive BackedBy (modules : List ShaderModule) (before : BufferMap) (m m' : Machine)
    (name : String) (r : BufferRef) : Prop
  | kept (there : before.get? name = some r)
      (same : ∀ b, m.held[r]? = some b → m'.held[r]? = some b)
  | made (free : before.get? name = none) (unknown : m.held[r]? = none) {first : Spec}
      {b : HostBuffer} (isFirst : firstDeclaration? modules name = some first)
      (held : m'.held[r]? = some b)
      (role : b.role = .uniform first) (size : b.size = alignedSize first.size)
      (room : first.size ≤ b.size)

theorem createUniformBuffers_backed {o o' : ObjectState} {d : Device}
    {modules : List ShaderModule} {m m' : Machine} {created : Nat}
    (run : o.createUniformBuffers d modules m = (.ok (o', created), m')) :
    ∀ module ∈ modules, ∀ s ∈ module.specs.uniformBuffers,
      ∃ r, o'.uniformBuffers.get? s.name = some r ∧
        BackedBy modules o.uniformBuffers m m' s.name r := by
  intro module mem s declared
  have added := createUniformBuffers_ok run
  cases before : o.uniformBuffers.get? s.name with
  | some r =>
    refine ⟨r, addUniformBuffers_keeps added before, .kept before ?_⟩
    intro b held
    exact addUniformBuffers_held added held
  | none =>
    obtain ⟨first, isFirst⟩ := firstDeclaration?_isSome mem declared
    have found := (find?_uniformSpecs modules s.name).trans isFirst
    obtain ⟨r, b, there, unknown, held, role, size⟩ := addUniformBuffers_adds added before found
    have room : first.size ≤ b.size := size ▸ le_alignedSize first.size
    exact ⟨r, there, .made before unknown isFirst held role size room⟩

/- A block of which one stage reads the first member, and the next stage also the second. -/
namespace TwoStages

def light (members : List Member) : Spec := ⟨"Light", 0, 1, .uniformBuffer, members⟩

def color : Member := ⟨"color", 0, 0, 16⟩

def intensity : Member := ⟨"intensity", 1, 16, 4⟩

def vertexStage : ShaderModule :=
  ⟨.vertex, .ofText "lit.vert", [1], ⟨[("Light", light [color])]⟩, []⟩

def fragmentStage : ShaderModule :=
  ⟨.fragment, .ofText "lit.frag", [1], ⟨[("Light", light [color, intensity])]⟩, []⟩

def modules : List ShaderModule := [vertexStage, fragmentStage]

def machine : Machine := .start ⟨[], ⟨0xFFFFFFFF, 1, 0⟩, []⟩ .none

def device : Device where
  physical := 1
  descriptor := ⟨"AMD", "GPU", "1.0.0", "1.3.0", .discrete⟩
  families := ⟨0, 0, 0, 0⟩
  queues := []
  memory := ⟨1, [6]⟩
  extensions := []
  owner := ⟨0, none⟩

def making : Except Failure (ObjectState × Nat) × Machine :=
  ({} : ObjectState).createUniformBuffers device modules machine

def object : ObjectState := { uniformBuffers := ⟨[("Light", 0)]⟩ }

theorem making_eq : making = (.ok (object, 1), making.2) := rfl

theorem making_held :
    making.2.held = [⟨.uniform (light [color]), 1, 16, some ⟨0, 16⟩⟩] := rfl

end TwoStages

open TwoStages

theorem createUniformBuffers_backed_two_stages :
    making = (.ok (object, 1), making.2) ∧
      ∃ r, object.uniformBuffers.get? "Light" = some r ∧
        BackedBy modules .empty machine making.2 "Light" r :=
  ⟨making_eq, createUniformBuffers_backed making_eq fragmentStage (by simp [modules])
    (light [color, intensity]) (by decide)⟩

/-- The second stage reads four bytes behind the sixteen that the first stage asked for. -/
theorem createUniformBuffers_too_small :
    ¬ ∀ (o o' : ObjectState) (d : Device) (modules : List ShaderModule) (m m' : Machine)
        (created : Nat), o.createUniformBuffers d modules m = (.ok (o', created), m') →
          Backs o'.uniformBuffers m' modules := by
  intro backs
  have all := backs _ _ _ _ _ _ _ making_eq
  obtain ⟨r, b, there, held, room⟩ :=
    all fragmentStage (by simp [modules]) (light [color, intensity]) (by decide)
  obtain rfl : 0 = r := Option.some.inj there
  rw [making_held] at held
  obtain rfl := Option.some.inj held
  exact absurd room (by decide)

end SceneGpu.ObjectState
