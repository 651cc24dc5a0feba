import SceneGpu.Proofs.Collection.Sequence
import SceneGpu.Proofs.Glsl.Partition
/-!
There is one way to take a source apart into tokens, comments and blanks. Where two ways agree up to a place,
the character there tells what starts at it, and how far it goes.
-/
namespace SceneGpu.Glsl

theorem Comment.ends {text more back : List Char} (comment : Comment text (more ++ back))
    (wider : Comment (text ++ more) back) : more = [] := by
  generalize behind : more ++ back = rest at comment
  generalize whole : text ++ more = other at wider
  rcases List.eq_nil_or_concat more with rfl | ⟨more, d, rfl⟩
  · rfl
  exfalso
  cases comment with
  | @line body _ inside =>
    -- the line break would stand inside the wider one
    cases wider with
    | @line body' _ inside' =>
      have split : (body ++ '\n' :: more) ++ [d] = body' ++ ['\n'] := by simpa using whole
      obtain ⟨rfl, _⟩ := List.append_inj' split rfl
      exact inside' (by simp)
    | @lastLine body' inside' =>
      have split : body ++ '\n' :: (more ++ [d]) = body' := by simpa using whole
      subst split
      exact inside' (by simp)
    | block _ => simp at whole
    | lastBlock _ => simp at whole
  | lastLine inside => simp at behind
  | @block body _ first =>
    cases wider with
    | line _ => simp at whole
    | lastLine _ => simp at whole
    | @block body' _ first' =>
      have split : (body ++ '*' :: '/' :: more) ++ [d] = (body' ++ ['*']) ++ ['/'] := by
        simpa using whole
      obtain ⟨same, _⟩ := List.append_inj' split rfl
      refine first' ⟨body, more, ?_⟩
      rw [← same, List.append_assoc]
      rfl
    | @lastBlock body' never' =>
      have split : body ++ '*' :: '/' :: (more ++ [d]) = body' := by simpa using whole
      refine never' ⟨body, more ++ [d], ?_⟩
      rw [← split, List.append_assoc]
      rfl
  | lastBlock never => simp at behind

theorem Comment.unique {text other rest back : List Char} (comment : Comment text rest)
    (comment' : Comment other back) (same : text ++ rest = other ++ back) : text = other := by
  rcases List.append_eq_append_iff.mp same with ⟨more, rfl, rfl⟩ | ⟨more, rfl, rfl⟩
  · rw [comment.ends comment', List.append_nil]
  · rw [comment'.ends comment, List.append_nil]

theorem Comment.starts {text rest : List Char} (comment : Comment text rest) :
    ∃ d more, text = '/' :: d :: more ∧ (d = '/' ∨ d = '*') := by
  cases comment with
  | line _ => exact ⟨_, _, rfl, .inl rfl⟩
  | lastLine _ => exact ⟨_, _, rfl, .inl rfl⟩
  | block _ => exact ⟨_, _, rfl, .inr rfl⟩
  | lastBlock _ => exact ⟨_, _, rfl, .inr rfl⟩

theorem Span.Holds.not_before {k l : Span} {place : Nat} (here : k.Holds place) (there : l.Holds place) :
    ¬ k.Before l := by
  intro before
  exact absurd (Nat.lt_of_lt_of_le here.2 before) (Nat.not_lt.mpr there.1)

theorem eq_of_holds {α : Type} {span : α → Span} {xs : List α} {x y : α} {place : Nat}
    (ordered : xs.Pairwise fun x y => (span x).Before (span y)) (mem : x ∈ xs) (mem' : y ∈ xs)
    (here : (span x).Holds place) (there : (span y).Holds place) : x = y := by
  rcases eq_or_related ordered mem mem' with same | before | after
  · exact same
  · exact absurd before (here.not_before there)
  · exact absurd after (there.not_before here)

/-- Two ways have the same tokens and comments in front of a place. -/
structure AgreeBelow (place : Nat) (ts us : List Token) (ks ls : List Span) : Prop where
  tokens : ∀ t : Token, t.span.start < place → (t ∈ ts ↔ t ∈ us)
  comments : ∀ k : Span, k.start < place → (k ∈ ks ↔ k ∈ ls)

theorem AgreeBelow.symm {place : Nat} {ts us : List Token} {ks ls : List Span}
    (agree : AgreeBelow place ts us ks ls) : AgreeBelow place us ts ls ks where
  tokens t less := (agree.tokens t less).symm
  comments k less := (agree.comments k less).symm

namespace Scanned

variable {source : List Char} {ts us : List Token} {ks ls : List Span}

section One

variable (one : Scanned source ts ks) {t : Token} (mem : t ∈ ts)
include one mem

theorem apart_of_holds {k : Span} {place : Nat} (comment : k ∈ ks) (here : t.span.Holds place) :
    ¬ k.Holds place := by
  intro there
  rcases one.apart t mem k comment with before | after
  · exact here.not_before there before
  · exact there.not_before here after

theorem holds_start : t.span.Holds t.span.start := ⟨Nat.le_refl _, one.nonempty t mem⟩

theorem stop_le {u : Span} {text : List Char} (cuts : u.Cuts source text) (fits : t.kind.Fits text)
    (start : u.start = t.span.start) : u.stop ≤ t.span.stop := by
  rcases Nat.le_total u.stop t.span.stop with short | long
  · exact short
  · rcases one.widest t mem u text cuts fits (Nat.le_of_eq start) long with same | ⟨number, i, taken⟩
    · rw [same]
    · obtain ⟨there, ident, holds⟩ := taken
      rw [start] at holds
      rw [eq_of_holds one.ordered mem there (one.holds_start mem) holds, ident] at number
      cases number

theorem start_ne_comment {front text back : List Char} (whole : source = front ++ (text ++ back))
    (comment : Comment text back) : t.span.start ≠ width front := by
  obtain ⟨d, more, rfl, opens⟩ := comment.starts
  intro start
  have cuts : Span.Cuts ⟨width front, width front + width ['/', d]⟩ source ['/', d] :=
    ⟨front, more ++ back, whole, rfl, rfl⟩
  obtain ⟨line, block⟩ := one.uncommented t mem _ d start.symm cuts
  rcases opens with slash | star
  · exact line slash
  · exact block star

end One

theorem comments_nonempty (one : Scanned source ts ks) {k : Span} (mem : k ∈ ks) : k.start < k.stop := by
  obtain ⟨front, text, back, _, rfl, comment⟩ := one.comments_cut k mem
  have long : 0 < width text := width_pos (by rintro rfl; cases comment)
  exact Nat.lt_add_of_pos_right long

section Two

variable (one : Scanned source ts ks) (other : Scanned source us ls)
include one other

/-- Where tokens start at the same place, they have the same first character, and with it kind and end. -/
theorem eq_of_start {t e : Token} (mem : t ∈ ts) (mem' : e ∈ us) (same : e.span.start = t.span.start) :
    t = e := by
  obtain ⟨text, cuts, fits⟩ := one.cuts t mem
  obtain ⟨text', cuts', fits'⟩ := other.cuts e mem'
  have ⟨front, back, whole, start, _⟩ := cuts
  have ⟨front', back', whole', start', _⟩ := cuts'
  have place : width front' = width front := by rw [← start', same, start]
  obtain ⟨_, behind⟩ := append_inj_of_width place (whole'.symm.trans whole)
  have kind : t.kind = e.kind := by
    obtain ⟨c, more, rfl, opens, _⟩ := fits
    obtain ⟨d, more', rfl, opens', _⟩ := fits'
    obtain ⟨rfl, _⟩ := List.cons.inj behind
    exact opens.kind_eq.trans opens'.kind_eq.symm
  have long := one.stop_le mem cuts' (kind ▸ fits') same
  have short := other.stop_le mem' cuts (kind ▸ fits) same.symm
  exact Token.ext kind (Span.ext same.symm (Nat.le_antisymm short long))

theorem mem_of_agree {t : Token} (mem : t ∈ ts) (agree : AgreeBelow t.span.start ts us ks ls) : t ∈ us := by
  have here := one.holds_start mem
  obtain ⟨_, ⟨front, back, whole, start, _⟩, c, more, rfl, opens, _⟩ := one.cuts t mem
  rcases other.outside front c (more ++ back) whole with ⟨e, there, holds⟩ | blank | ⟨k, there, holds⟩
  · rw [← start] at holds
    rcases Nat.lt_or_eq_of_le holds.1 with earlier | same
    · have eq := eq_of_holds one.ordered mem ((agree.tokens e earlier).mpr there) here holds
      rw [eq] at earlier
      exact absurd earlier (Nat.lt_irrefl _)
    · rwa [one.eq_of_start other mem there same]
  · rw [opens.not_blank] at blank
    cases blank
  · rw [← start] at holds
    rcases Nat.lt_or_eq_of_le holds.1 with earlier | same
    · exact absurd holds (one.apart_of_holds mem ((agree.comments k earlier).mpr there) here)
    · obtain ⟨front', text', back', whole', rfl, comment⟩ := other.comments_cut k there
      exact absurd same.symm (one.start_ne_comment mem whole' comment)

theorem comment_mem_of_agree {k : Span} (mem : k ∈ ks) (agree : AgreeBelow k.start ts us ks ls) :
    k ∈ ls := by
  obtain ⟨front, text, back, whole, rfl, comment⟩ := one.comments_cut k mem
  have here : Span.Holds ⟨width front, width front + width text⟩ (width front) :=
    ⟨Nat.le_refl _, one.comments_nonempty mem⟩
  obtain ⟨d, more, split, _⟩ := comment.starts
  have slash : source = front ++ '/' :: (d :: more ++ back) := by
    rw [whole, split]
    rfl
  rcases other.outside front '/' _ slash with ⟨e, there, holds⟩ | blank | ⟨l, there, holds⟩
  · rcases Nat.lt_or_eq_of_le holds.1 with earlier | same
    · exact absurd here (one.apart_of_holds ((agree.tokens e earlier).mpr there) mem holds)
    · exact absurd same (other.start_ne_comment there whole comment)
  · rw [isBlank_slash] at blank
    cases blank
  · rcases Nat.lt_or_eq_of_le holds.1 with earlier | same
    · have eq := eq_of_holds one.comments_ordered mem ((agree.comments l earlier).mpr there) here holds
      rw [← eq] at earlier
      exact absurd earlier (Nat.lt_irrefl _)
    · obtain ⟨front', text', back', whole', rfl, comment'⟩ := other.comments_cut l there
      obtain ⟨rfl, texts⟩ := append_inj_of_width same (whole'.symm.trans whole)
      rwa [comment'.unique comment texts] at there

end Two

theorem agree_below (one : Scanned source ts ks) (other : Scanned source us ls) (place : Nat) :
    AgreeBelow place ts us ks ls := by
  induction place with
  | zero =>
    constructor
    · intro t less
      exact absurd less (Nat.not_lt_zero _)
    · intro k less
      exact absurd less (Nat.not_lt_zero _)
  | succ place ih =>
    constructor
    · intro t less
      rcases Nat.lt_succ_iff_lt_or_eq.mp less with earlier | rfl
      · exact ih.tokens t earlier
      · exact ⟨fun mem => one.mem_of_agree other mem ih, fun mem => other.mem_of_agree one mem ih.symm⟩
    · intro k less
      rcases Nat.lt_succ_iff_lt_or_eq.mp less with earlier | rfl
      · exact ih.comments k earlier
      · exact ⟨fun mem => one.comment_mem_of_agree other mem ih,
          fun mem => other.comment_mem_of_agree one mem ih.symm⟩

theorem starts_ordered (one : Scanned source ts ks) :
    (ts.Pairwise fun t u => t.span.start < u.span.start) ∧ ks.Pairwise fun k l => k.start < l.start := by
  constructor
  · refine one.ordered.imp_of_mem ?_
    intro t u mem _ before
    exact Nat.lt_of_lt_of_le (one.nonempty t mem) before
  · refine one.comments_ordered.imp_of_mem ?_
    intro k l mem _ before
    exact Nat.lt_of_lt_of_le (one.comments_nonempty mem) before

theorem unique (one : Scanned source ts ks) (other : Scanned source us ls) : ts = us ∧ ks = ls := by
  have agree := one.agree_below other
  constructor
  · refine eq_of_mem_iff (fun _ _ => Nat.lt_asymm) one.starts_ordered.1 other.starts_ordered.1 ?_
    intro t
    exact (agree (t.span.start + 1)).tokens t (Nat.lt_succ_self _)
  · refine eq_of_mem_iff (fun _ _ => Nat.lt_asymm) one.starts_ordered.2 other.starts_ordered.2 ?_
    intro k
    exact (agree (k.start + 1)).comments k (Nat.lt_succ_self _)

end Scanned

end SceneGpu.Glsl
