import SceneGpu.Proofs.Bytecode.ActiveMembers
import SceneGpu.Proofs.Bytecode.ByteOrder
import SceneGpu.Proofs.Text.Decoding
/-!
Names in bytecode. A text that was packed into words is read back, whatever words come behind it; so the
last instruction that names an id or a member decides under which name it is reported.
-/
namespace SceneGpu.Utf8

theorem decodeTextLossy_encodeText (s : String) : decodeTextLossy (encodeText s) = s := by
  have read : (s.toList.map some).map (fun u => u.getD (Char.ofNat 0xFFFD)) = s.toList := by
    rw [List.map_map]
    exact List.map_id _
  rw [decodeTextLossy, decodeLossy, encodeText, units_encode, read, String.ofList_toList]

end SceneGpu.Utf8

namespace SceneGpu.Bytecode

theorem zero_notMem_encodeText {s : String} (plain : '\x00' ∉ s.toList) :
    0 ∉ Utf8.encodeText s := by
  intro mem
  exact plain ((Utf8.mem_encode_iff (by decide)).mp mem)

theorem encodeLE_packText (s : String) :
    ∃ zeros, encodeLE (packText s) = Utf8.encodeText s ++ 0 :: zeros := by
  unfold packText
  dsimp only
  rw [encodeLE_groupLE, List.append_assoc]
  · exact ⟨_, rfl⟩
  · simp only [List.length_append, List.length_replicate, List.length_singleton]
    omega

theorem literalText_packText {s : String} (plain : '\x00' ∉ s.toList) (trailing : List UInt32) :
    literalText (packText s ++ trailing) = s := by
  obtain ⟨zeros, bytes⟩ := encodeLE_packText s
  have nonzero : ∀ b ∈ Utf8.encodeText s, decide (b ≠ 0) = true := by
    intro b mem
    refine decide_eq_true ?_
    rintro rfl
    exact zero_notMem_encodeText plain mem
  unfold literalText encodeLE
  rw [List.flatMap_append, show (packText s).flatMap bytesLE = _ from bytes, List.append_assoc,
    List.takeWhile_append_of_pos nonzero]
  simp [Utf8.decodeTextLossy_encodeText]

inductive Target where
  | id (id : UInt32)
  | member (type member : UInt32)
deriving DecidableEq, Repr

namespace Target

def opcode : Target → UInt32
  | id _ => 5
  | member _ _ => 6

def operands : Target → List UInt32
  | id i => [i]
  | member t m => [t, m]

def NamedBy (t : Target) (i : Instruction) : Prop := i.opcode = t.opcode ∧ t.operands <+: i.operands

instance (t : Target) (i : Instruction) : Decidable (t.NamedBy i) :=
  inferInstanceAs (Decidable (_ ∧ _))

end Target

/-- The last instruction that names the target gives it this text, with whatever operands behind. -/
structure GivesName (words : List UInt32) (t : Target) (s : String) : Prop where
  plain : '\x00' ∉ s.toList
  last : ∃ front trailing back,
    Splits (words.drop headerWords)
      (front ++ ⟨t.opcode, t.operands ++ (packText s ++ trailing)⟩ :: back) ∧
    ∀ i ∈ back, ¬ t.NamedBy i

namespace Declarations

def given? (d : Declarations) : Target → Option String
  | .id i => d.names i
  | .member t m => d.memberNames (t, m)

@[simp] theorem given?_readWhole (m : Declarations) (id : UInt32) :
    (m.readWhole id).given? = m.given? := by
  unfold readWhole
  split <;> rfl

@[simp] theorem given?_readChain (m : Declarations) (base : UInt32) (indices : List UInt32) :
    (m.readChain base indices).given? = m.given? := by
  unfold readChain
  split <;> rfl

theorem given?_add_named (m : Declarations) (t : Target) (text : List UInt32) :
    (m.add ⟨t.opcode, t.operands ++ text⟩).given? t = some (literalText text) := by
  cases t with
  | id i => exact if_pos rfl
  | member type member => exact if_pos rfl

theorem given?_add_other {t : Target} {i : Instruction} (other : ¬ t.NamedBy i) (m : Declarations) :
    (m.add i).given? t = m.given? t := by
  unfold add
  split
  case h_1 id text op o =>
    cases t with
    | member type member => rfl
    | id k =>
      have away : k ≠ id := by
        rintro rfl
        exact other ⟨UInt32.toNat_inj.mp op, text, o.symm⟩
      exact if_neg away
  case h_2 type member text op o =>
    cases t with
    | id k => rfl
    | member k n =>
      have away : (k, n) ≠ (type, member) := by
        intro same
        cases same
        exact other ⟨UInt32.toNat_inj.mp op, text, o.symm⟩
      exact if_neg away
  all_goals first
    | rfl
    | rw [given?_readWhole]
    | rw [given?_readChain]

theorem given?_foldl_other {t : Target} {is : List Instruction} (others : ∀ i ∈ is, ¬ t.NamedBy i)
    (m : Declarations) : (is.foldl add m).given? t = m.given? t := by
  induction is generalizing m with
  | nil => rfl
  | cons i rest ih =>
    rw [List.foldl_cons, ih fun j mem => others j (List.mem_cons_of_mem i mem)]
    exact given?_add_other (others i List.mem_cons_self) m

theorem given?_of_gives {words : List UInt32} {d : Declarations} {t : Target} {s : String}
    (parsed : parse words = .ok d) (gives : GivesName words t s) : d.given? t = some s := by
  obtain ⟨front, trailing, back, splits, others⟩ := gives.last
  obtain rfl := parse_splits parsed splits
  rw [List.foldl_append, List.foldl_cons, given?_foldl_other others, given?_add_named,
    literalText_packText gives.plain]

def reported? (d : Declarations) (v : Variable) : Option Resource :=
  match d.resource? v with
  | .ok o => o
  | .error _ => none

/-- Whatever is reported of the variable has the names that were given. An empty name counts as none: then
a buffer takes the name of its variable, and an input is left out. -/
structure ReportedAsNamed (words : List UInt32) (d : Declarations) (v : Variable) : Prop where
  buffer : ∀ b, d.reported? v = some (.uniformBuffer b) → ∃ block, d.blockOf? v = some block ∧
    (∀ s, GivesName words (.id block) s → s ≠ "" → b.name = s) ∧
    (d.name? block = none → ∀ s, GivesName words (.id v.id) s → b.name = s) ∧
    ∀ a ∈ b.active, ∀ s, GivesName words (.member block a.index) s → a.name = s
  image : ∀ i, d.reported? v = some (.sampledImage i) →
    ∀ s, GivesName words (.id v.id) s → i.name = s
  input : v.storage = 1 → d.isBuiltIn v = .ok false →
    ∀ s, GivesName words (.id v.id) s → s ≠ "" → d.reported? v = some (.stageInput s)

section Reported

variable {d : Declarations} {v : Variable}

theorem resourceList_reported {vs : List Variable} {rs : List Resource}
    (ok : d.resourceList vs = .ok rs) : rs = vs.filterMap d.reported? := by
  induction vs generalizing rs with
  | nil =>
    cases ok
    rfl
  | cons v vs ih =>
    obtain ⟨o, more, first, others, rfl⟩ := resourceList_cons ok
    have here : d.reported? v = o := by rw [reported?, first]
    rw [List.filterMap_cons, here, ih others]
    cases o <;> rfl

theorem resource?_cases {x : Resource} (reported : d.reported? v = some x) :
    (∃ i, d.sampledImage? v = .ok (some i) ∧ x = .sampledImage i) ∨
    (∃ name, d.stageInput? v = .ok (some name) ∧ x = .stageInput name) ∨
    ∃ b, d.uniformBuffer? v = .ok (some b) ∧ x = .uniformBuffer b := by
  have kind {α : Type} {make : α → Resource} {found : Except Fault (Option α)} {o : Option Resource}
      (mapped : (found.map fun r => r.map make) = .ok o) (yields : o = some x) :
      ∃ a, found = .ok (some a) ∧ x = make a := by
    cases found with
    | error e => cases mapped
    | ok found =>
      obtain rfl := Except.ok.inj mapped
      obtain ⟨a, rfl, rfl⟩ := Option.map_eq_some_iff.mp yields
      exact ⟨a, rfl, rfl⟩
  unfold reported? at reported
  split at reported
  · rename_i o ok
    unfold resource? at ok
    split at ok
    · exact .inl (kind ok reported)
    · exact .inr (.inl (kind ok reported))
    · exact .inr (.inr (kind ok reported))
    · cases ok
      cases reported
  · cases reported

theorem resource?_input (storage : v.storage = 1) :
    d.resource? v = (d.stageInput? v).map fun r => r.map .stageInput := by
  unfold resource?
  rw [storage]
  rfl

theorem uniformBuffer?_some {b : UniformBuffer} (ok : d.uniformBuffer? v = .ok (some b)) :
    ∃ block members, d.blockOf? v = some block ∧ d.TellsBlock v block b ∧
      d.activeRanges block members (d.activeIndices v members) = .ok b.active := by
  unfold uniformBuffer? at ok
  split at ok
  · cases ok
  · rename_i pointee pointer
    split at ok
    · cases ok
    · rename_i block base
      split at ok
      · rename_i members struct
        split at ok
        · rename_i isBlock
          split at ok
          · cases ok
          · rename_i active ranges
            cases ok
            refine ⟨block, members, ?_, ⟨rfl, rfl, rfl⟩, ranges⟩
            simp [blockOf?, pointer, base, struct, isBlock]
        · cases ok
      · cases ok

theorem sampledImage?_name {i : SampledImage} (ok : d.sampledImage? v = .ok (some i)) :
    i.name = (d.name? v.id).getD "" := by
  unfold sampledImage? at ok
  split at ok
  · cases ok
  · split at ok
    · cases ok
    · split at ok
      · cases ok
        rfl
      · cases ok

theorem name?_of_given {id : UInt32} {s : String} (given : d.given? (.id id) = some s) :
    d.name? id = if s = "" then none else some s := by
  have named : d.names id = some s := given
  unfold name?
  rw [named]
  by_cases empty : s = ""
  · simp [empty]
  · simp [empty]

theorem reportedAsNamed {words : List UInt32} (parsed : parse words = .ok d) (v : Variable) :
    ReportedAsNamed words d v where
  buffer b reported := by
    rcases resource?_cases reported with ⟨_, _, other⟩ | ⟨_, _, other⟩ | ⟨b', ok, same⟩
    · cases other
    · cases other
    cases same
    obtain ⟨block, members, points, tells, ranges⟩ := uniformBuffer?_some ok
    refine ⟨block, points, ?_, ?_, ?_⟩
    · intro s gives named
      rw [tells.name, name?_of_given (given?_of_gives parsed gives), if_neg named]
      rfl
    · intro unnamed s gives
      rw [tells.name, unnamed, name?_of_given (given?_of_gives parsed gives), Option.none_or]
      by_cases empty : s = ""
      · rw [if_pos empty, empty]
        rfl
      · rw [if_neg empty]
        rfl
    · intro a mem s gives
      have named : d.memberNames (block, a.index) = some s := given?_of_gives parsed gives
      rw [((activeRanges_ok ranges).2 a mem).name, named]
      rfl
  image i reported s gives := by
    rcases resource?_cases reported with ⟨i', ok, same⟩ | ⟨_, _, other⟩ | ⟨_, _, other⟩
    · cases same
      rw [sampledImage?_name ok, name?_of_given (given?_of_gives parsed gives)]
      by_cases empty : s = ""
      · rw [if_pos empty, empty]
        rfl
      · rw [if_neg empty]
        rfl
    · cases other
    · cases other
  input storage plain s gives named := by
    have found : d.stageInput? v = .ok (some s) := by
      unfold stageInput?
      rw [plain]
      dsimp only
      rw [name?_of_given (given?_of_gives parsed gives), if_neg named]
    rw [reported?, resource?_input storage, found]
    rfl

end Reported

/-- A packed text is read back, whatever words follow. So every module's names are recorded as they were
given, and its report, which is what the variables contribute, carries them. -/
theorem names_reported :
    (∀ (s : String) (trailing : List UInt32), '\x00' ∉ s.toList →
      literalText (packText s ++ trailing) = s) ∧
    ∀ words d, parse words = .ok d →
      (∀ t s, GivesName words t s → d.given? t = some s) ∧
      ∀ r, introspect words = .ok r →
        r = Resources.ofList (d.globals.filterMap d.reported?) ∧
        ∀ v ∈ d.globals, ReportedAsNamed words d v := by
  refine ⟨fun s trailing plain => literalText_packText plain trailing, ?_⟩
  intro words d parsed
  refine ⟨fun t s gives => given?_of_gives parsed gives, ?_⟩
  intro r introspected
  obtain ⟨rs, listed, rfl⟩ := introspect_ok parsed introspected
  rw [resourceList_reported listed]
  exact ⟨rfl, fun v _ => reportedAsNamed parsed v⟩

end Declarations

namespace NamedLamp

/-- The name of the block crosses a word, and operands trail the name of its member. -/
def names : List Instruction :=
  [⟨5, [3, 0x3f]⟩, ⟨5, 3 :: (packText "Lamé" ++ [0x21])⟩, ⟨6, 3 :: 0 :: (packText "tint" ++ [7, 8])⟩]

def types : List Instruction :=
  [⟨71, [3, 2]⟩, ⟨22, [1, 32]⟩, ⟨23, [2, 1, 4]⟩, ⟨30, [3, 2]⟩, ⟨32, [10, 2, 3]⟩, ⟨59, [10, 11, 2]⟩,
   ⟨61, [3, 12, 11]⟩]

def instructions : List Instruction := names ++ types

def words : List UInt32 :=
  [magic, 0x10000, 0, 13, 0] ++ instructions.flatMap Instruction.encode

end NamedLamp

open NamedLamp in
theorem names_reported_lamp :
    ∃ d r, parse words = .ok d ∧ introspect words = .ok r ∧
      '\x00' ∉ "Lamé".toList ∧ literalText (packText "Lamé" ++ [0x21]) = "Lamé" ∧
      GivesName words (.id 3) "Lamé" ∧ d.given? (.id 3) = some "Lamé" ∧
      GivesName words (.member 3 0) "tint" ∧ d.given? (.member 3 0) = some "tint" ∧
      r.uniformBuffers = [⟨"Lamé", 0, 0, [⟨0, "tint", 0, 16⟩]⟩] ∧
      ∀ v ∈ d.globals, d.ReportedAsNamed words v := by
  have encodable : ∀ i ∈ instructions, i.Encodable := by decide +kernel
  have parsed : parse words = .ok (instructions.foldl Declarations.add {}) :=
    parse_encode ⟨by decide +kernel, rfl⟩ rfl encodable (by decide +kernel)
  have splits : Splits (words.drop headerWords) instructions := splits_encode encodable
  have block : GivesName words (.id 3) "Lamé" :=
    ⟨by decide, [⟨5, [3, 0x3f]⟩], [0x21], _, splits, by decide +kernel⟩
  have member : GivesName words (.member 3 0) "tint" :=
    ⟨by decide, names.take 2, [7, 8], types, splits, by decide +kernel⟩
  have introspected : introspect words =
      .ok ⟨[⟨"Lamé", 0, 0, [⟨0, "tint", 0, 16⟩]⟩], [], []⟩ := by
    unfold introspect
    rw [parsed]
    decide +kernel
  obtain ⟨readBack, modules⟩ := Declarations.names_reported
  obtain ⟨given, reports⟩ := modules words _ parsed
  exact ⟨_, _, parsed, introspected, by decide, readBack _ _ (by decide), block, given _ _ block,
    member, given _ _ member, rfl, (reports _ introspected).2⟩

end SceneGpu.Bytecode
