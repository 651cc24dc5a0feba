import SceneGpu.Proofs.Collection.SortedMap
import SceneGpu.Proofs.Object.SetLifetime
/-!
Which texture an array element shows once a bind has written its batch. A known type has its slot for
itself, except that types which are not known take the first slot too: there the last name in the map's
order stays.
-/
namespace SceneGpu

/-- What the elements of a set's arrays hold, by binding and element: a view and a sampler. -/
abbrev SetContents := UInt32 → Nat → Option (Handle × Handle)

def ImageWrite.apply (c : SetContents) (w : ImageWrite) : SetContents := fun binding element =>
  if binding = w.binding ∧ element = w.element then some (w.view, w.sampler) else c binding element

def applyWrites (c : SetContents) (writes : List ImageWrite) : SetContents := writes.foldl ImageWrite.apply c

theorem ImageWrite.apply_self (c : SetContents) (w : ImageWrite) :
    w.apply c w.binding w.element = some (w.view, w.sampler) := by
  simp [ImageWrite.apply]

theorem applyWrites_elsewhere {binding : UInt32} {element : Nat} {writes : List ImageWrite}
    (elsewhere : ∀ w ∈ writes, ¬ (binding = w.binding ∧ element = w.element)) (c : SetContents) :
    applyWrites c writes binding element = c binding element := by
  induction writes generalizing c with
  | nil => rfl
  | cons w rest ih =>
    have others : ∀ u ∈ rest, ¬ (binding = u.binding ∧ element = u.element) := by
      intro u mem
      exact elsewhere u (List.mem_cons_of_mem w mem)
    have kept : w.apply c binding element = c binding element := by
      rw [ImageWrite.apply, if_neg (elsewhere w List.mem_cons_self)]
    exact (ih others (w.apply c)).trans kept

theorem applyWrites_last {front back : List ImageWrite} {w : ImageWrite}
    (last : ∀ u ∈ back, ¬ (w.binding = u.binding ∧ w.element = u.element)) (c : SetContents) :
    applyWrites c (front ++ w :: back) w.binding w.element = some (w.view, w.sampler) := by
  have split : applyWrites c (front ++ w :: back) = applyWrites (w.apply (applyWrites c front)) back := by
    unfold applyWrites
    rw [List.foldl_append, List.foldl_cons]
  rw [split, applyWrites_elsewhere last, ImageWrite.apply_self]

def knownTypes : List String := ["ambient", "diffuse", "specular", "normal", "alphamask", "displacement"]

theorem slot?_known {type : String} {n : Nat} (known : slot? type = some n) : knownTypes[n]? = some type := by
  unfold slot? at known
  split at known <;> cases known <;> rfl

theorem slot?_inj {type other : String} {n : Nat} (known : slot? type = some n)
    (too : slot? other = some n) : type = other := by
  have same := (slot?_known known).symm.trans (slot?_known too)
  exact Option.some.inj same

theorem canonicalSlot_known {type : String} {n : Nat} (known : slot? type = some n) :
    (canonicalSlot type).1 = n := by
  rw [canonicalSlot, known]

theorem canonicalSlot_unknown {type : String} (unknown : slot? type = none) :
    (canonicalSlot type).1 = 0 := by
  rw [canonicalSlot, unknown]

section Batch

variable {textures : TextureMap} {type : String} {texture : Texture}

theorem applyWrites_textures (ascending : textures.Ascending) (here : textures.get? type = some texture)
    (last : ∀ other t, textures.get? other = some t → type < other →
      (canonicalSlot other).1 ≠ (canonicalSlot type).1) (c : SetContents) (binding : UInt32) :
    applyWrites c (imageWrites binding textures) binding (canonicalSlot type).1 =
      some (texture.view, texture.sampler) := by
  have mem : (type, texture) ∈ textures.entries := ascending.mem_entries_iff.mpr here
  obtain ⟨front, back, split⟩ := List.append_of_mem mem
  have greater : ∀ e ∈ back, type < e.1 := by
    have order : textures.entries.Pairwise fun a b => a.1 < b.1 := ascending
    rw [split, List.pairwise_append] at order
    exact (List.pairwise_cons.mp order.2.1).1
  have apart : ∀ u ∈ back.map fun e => ImageWrite.ofTexture binding e.1 e.2,
      ¬ (binding = u.binding ∧ (canonicalSlot type).1 = u.element) := by
    intro u written
    obtain ⟨e, behind, rfl⟩ := List.mem_map.mp written
    rintro ⟨_, same⟩
    have present : textures.get? e.1 = some e.2 := by
      apply ascending.mem_entries_iff.mp
      rw [split]
      exact List.mem_append_right front (List.mem_cons_of_mem _ behind)
    exact last e.1 e.2 present (greater e behind) same.symm
  rw [imageWrites, split, List.map_append, List.map_cons]
  exact applyWrites_last apart c

/-- Behind the name of a known type none has its slot, unless it is the first slot. -/
theorem slot_behind_known {n : Nat} (known : slot? type = some n)
    (free : type = "ambient" → ∀ other t, textures.get? other = some t → slot? other = none →
      other < "ambient") :
    ∀ other t, textures.get? other = some t → type < other →
      (canonicalSlot other).1 ≠ (canonicalSlot type).1 := by
  intro other t present greater same
  rw [canonicalSlot_known known] at same
  cases slot : slot? other with
  | some m =>
    rw [canonicalSlot_known slot] at same
    subst same
    have eq : type = other := slot?_inj known slot
    rw [eq] at greater
    exact Std.lt_irrefl greater
  | none =>
    rw [canonicalSlot_unknown slot] at same
    subst same
    have ambient : type = "ambient" := (Option.some.inj (slot?_known known)).symm
    have less := free ambient other t present slot
    rw [← ambient] at less
    exact Std.lt_irrefl (Std.lt_trans less greater)

theorem slot_behind_unknown (unknown : slot? type = none) (behind : "ambient" < type)
    (last : ∀ other t, textures.get? other = some t → slot? other = none → ¬ type < other) :
    ∀ other t, textures.get? other = some t → type < other →
      (canonicalSlot other).1 ≠ (canonicalSlot type).1 := by
  intro other t present greater same
  rw [canonicalSlot_unknown unknown] at same
  cases slot : slot? other with
  | some m =>
    rw [canonicalSlot_known slot] at same
    subst same
    have ambient : "ambient" = other := Option.some.inj (slot?_known slot)
    rw [← ambient] at greater
    exact Std.lt_irrefl (Std.lt_trans behind greater)
  | none => exact last other t present slot greater

end Batch

def SetBackend.holding {σ : Type} (b : SetBackend σ) : SetBackend (σ × (Handle → SetContents)) where
  allocate := fun pool layout s =>
    let r := b.allocate pool layout s.1
    (r.1, r.2, s.2)
  free := fun pool set s =>
    let r := b.free pool set s.1
    (r.1, r.2, s.2)
  write := fun set writes s =>
    (b.write set writes s.1, fun h => if h = set then applyWrites (s.2 h) writes else s.2 h)

theorem SetBackend.holding_write {σ : Type} (b : SetBackend σ) (set : Handle) (writes : List ImageWrite)
    (s : σ × (Handle → SetContents)) : (b.holding.write set writes s).2 set = applyWrites (s.2 set) writes :=
  if_pos rfl

namespace ObjectState

variable {σ : Type} {b : SetBackend σ} {o : ObjectState} {layout pool set : Handle} {binding : UInt32}
  {s : σ × (Handle → SetContents)}

theorem bindTextures_contents
    (bound : (o.bindTextures b.holding layout pool binding s).result = .ok set) :
    (o.bindTextures b.holding layout pool binding s).backend.2 set =
      applyWrites (s.2 set) (imageWrites binding o.textures) := by
  have released : (o.release b.holding s).backend.2 = s.2 := by
    unfold release
    split <;> rfl
  have allocated : (b.holding.allocate pool layout (o.release b.holding s).backend).2.2 = s.2 := released
  have textures : (o.release b.holding s).object.textures = o.textures := by
    rw [release_object]
  rcases bindTextures_cases b.holding o layout pool binding s with
    ⟨e, _, eq⟩ | ⟨e, _, eq⟩ | ⟨given, _, eq⟩
  · rw [eq] at bound
    cases bound
  · rw [eq] at bound
    cases bound
  · rw [eq] at bound ⊢
    cases bound
    dsimp only
    rw [SetBackend.holding_write, allocated, textures]

/-- After a bind each known type has its own texture in its slot. Only `ambient` has not, if an unknown
type comes after it in the map: then its slot shows the last of the unknown ones. -/
theorem bindTextures_shows (ascending : o.textures.Ascending)
    (bound : (o.bindTextures b.holding layout pool binding s).result = .ok set) :
    (∀ type texture n, o.textures.get? type = some texture → slot? type = some n →
      (type = "ambient" → ∀ other t, o.textures.get? other = some t → slot? other = none →
        other < "ambient") →
      (o.bindTextures b.holding layout pool binding s).backend.2 set binding n =
        some (texture.view, texture.sampler)) ∧
    ∀ type texture, o.textures.get? type = some texture → slot? type = none → "ambient" < type →
      (∀ other t, o.textures.get? other = some t → slot? other = none → ¬ type < other) →
      (o.bindTextures b.holding layout pool binding s).backend.2 set binding 0 =
        some (texture.view, texture.sampler) := by
  rw [bindTextures_contents bound]
  constructor
  · intro type texture n here known free
    have shown := applyWrites_textures ascending here (slot_behind_known known free) (s.2 set) binding
    rwa [canonicalSlot_known known] at shown
  · intro type texture here unknown behind last
    have shown := applyWrites_textures ascending here (slot_behind_unknown unknown behind last)
      (s.2 set) binding
    rwa [canonicalSlot_unknown unknown] at shown

namespace Bumped

def object : ObjectState := (({} : ObjectState).setTexture "ambient" ⟨1, 2, 3⟩).setTexture "bump" ⟨4, 5, 6⟩

def capital : ObjectState :=
  ((({} : ObjectState).setTexture "diffuse" ⟨1, 2, 3⟩).setTexture "ambient" ⟨4, 5, 6⟩).setTexture "Ambient"
    ⟨7, 8, 9⟩

def onePool : SetBackend Unit :=
  ⟨fun _ _ => Effect.succeed 1, fun _ _ => Effect.succeed (), fun _ _ s => s⟩

def start : Unit × (Handle → SetContents) := ((), fun _ _ _ => none)

theorem ascending_object : object.textures.Ascending := (SortedMap.ascending_empty.insert _ _).insert _ _

theorem ascending_capital : capital.textures.Ascending :=
  ((SortedMap.ascending_empty.insert _ _).insert _ _).insert _ _

theorem entries_object : object.textures.entries = [("ambient", ⟨1, 2, 3⟩), ("bump", ⟨4, 5, 6⟩)] := by
  decide +kernel

theorem entries_capital : capital.textures.entries =
    [("Ambient", ⟨7, 8, 9⟩), ("ambient", ⟨4, 5, 6⟩), ("diffuse", ⟨1, 2, 3⟩)] := by
  decide +kernel

end Bumped

open Bumped

theorem bindTextures_shows_bumped :
    ((capital.bindTextures onePool.holding 7 1 0 start).result = .ok 1 ∧
      (capital.bindTextures onePool.holding 7 1 0 start).backend.2 1 0 0 = some (5, 6) ∧
      (capital.bindTextures onePool.holding 7 1 0 start).backend.2 1 0 1 = some (2, 3)) ∧
    (object.bindTextures onePool.holding 7 1 0 start).result = .ok 1 ∧
      (object.bindTextures onePool.holding 7 1 0 start).backend.2 1 0 0 = some (5, 6) := by
  have bound : (capital.bindTextures onePool.holding 7 1 0 start).result = .ok 1 := rfl
  have boundBumped : (object.bindTextures onePool.holding 7 1 0 start).result = .ok 1 := rfl
  obtain ⟨known, _⟩ := bindTextures_shows ascending_capital bound
  obtain ⟨_, unknown⟩ := bindTextures_shows ascending_object boundBumped
  have before : ∀ other t, capital.textures.get? other = some t → slot? other = none →
      other < "ambient" := by
    intro other t present notKnown
    have mem := ascending_capital.mem_entries_iff.mpr present
    rw [entries_capital] at mem
    rcases List.mem_cons.mp mem with first | mem
    · cases first
      decide
    · rcases List.mem_pair.mp mem with same | same
      · cases same
        cases notKnown
      · cases same
        cases notKnown
  have last : ∀ other t, object.textures.get? other = some t → slot? other = none → ¬ "bump" < other := by
    intro other t present notKnown
    have mem := ascending_object.mem_entries_iff.mpr present
    rw [entries_object] at mem
    rcases List.mem_pair.mp mem with same | same
    · cases same
      decide
    · cases same
      decide
  refine ⟨⟨bound, ?_, ?_⟩, boundBumped, ?_⟩
  · exact known "ambient" ⟨4, 5, 6⟩ 0 (by decide +kernel) rfl fun _ => before
  · exact known "diffuse" ⟨1, 2, 3⟩ 1 (by decide +kernel) rfl fun _ => before
  · exact unknown "bump" ⟨4, 5, 6⟩ (by decide +kernel) rfl (by decide) last

/-- What is shown as `ambient` is the texture of the type that is not known. -/
theorem bindTextures_ambient_hidden :
    ¬ ∀ (b : SetBackend Unit) (o : ObjectState) (layout pool set : Handle) (binding : UInt32)
        (s : Unit × (Handle → SetContents)), o.textures.Ascending →
        (o.bindTextures b.holding layout pool binding s).result = .ok set →
          ∀ type texture n, o.textures.get? type = some texture → slot? type = some n →
            (o.bindTextures b.holding layout pool binding s).backend.2 set binding n =
              some (texture.view, texture.sampler) := by
  intro shows
  have shown := shows onePool object 7 1 1 0 start ascending_object rfl "ambient" ⟨1, 2, 3⟩ 0
    (by decide +kernel) rfl
  revert shown
  decide +kernel

end ObjectState
end SceneGpu
