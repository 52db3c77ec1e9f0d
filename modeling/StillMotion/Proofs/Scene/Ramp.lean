import Mathlib.Algebra.Order.Field.Basic
import Mathlib.Tactic.Linarith
import Mathlib.Tactic.NormNum.OfScientific
import StillMotion.Proofs.Data.Outcome
import StillMotion.Scene.EffectStyle

/-!
# The window of an effect

An effect is seen while its window is open, and its progress goes from zero to one meanwhile.  Fades
turn the progress into an opacity; the other kinds of effect pass on numbers that they are given.
-/

namespace StillMotion

open StillMotion.Number

variable {effect other : Effect Rat} {s t : Rat}

/-! ## The numbers of an effect -/

inductive EffectPart where
  | opacity | blur | temperature | saturation | contrast | grainIntensity | grainOpacity
deriving DecidableEq, Repr

def EffectPart.of {α : Type} (style : EffectStyle α) : EffectPart → Option α
  | .opacity => style.opacity
  | .blur => style.blur
  | .temperature => style.temperature
  | .saturation => style.saturation
  | .contrast => style.contrast
  | .grainIntensity => style.grainIntensity
  | .grainOpacity => style.grainOpacity

def EffectKind.source? : EffectKind → EffectPart → Option (String × Option Rat)
  | .blur, .blur => some ("intensity", some 5)
  | .opacity, .opacity => some ("opacity", none)
  | .colorGrade, .temperature => some ("temperature", some 0)
  | .colorGrade, .saturation => some ("saturation", some 0)
  | .colorGrade, .contrast => some ("contrast", some 0)
  | .filmGrain, .grainIntensity => some ("intensity", some (1 / 10))
  | .filmGrain, .grainOpacity => some ("opacity", some (3 / 10))
  | _, _ => none

/-- A number stands for its value; a truth value, a text and nothing stand for the standard. -/
def numberOr (standard : Option Rat) : Option (Parameter Rat) → Option Rat
  | some (.int n) => some n
  | some (.real x) => some x
  | some (.bool _) => standard
  | some (.text _) => standard
  | none => standard

namespace Effect

theorem number?_eq (effect : Effect Rat) (name : String) :
    effect.number? name = .ok (numberOr none (effect.parameter? name)) := by
  unfold number? numberOr
  rcases effect.parameter? name with _ | _ | n | x | text <;> rfl

theorem number_eq (effect : Effect Rat) (name : String) (standard : Rat) :
    effect.number name standard = .ok (numberOr (some standard) (effect.parameter? name)) := by
  rw [number, number?_eq]
  unfold numberOr
  rcases effect.parameter? name with _ | _ | n | x | text <;> rfl

def partAt (effect : Effect Rat) (t : Rat) (part : EffectPart) : Option Rat :=
  if effect.kind = .fade ∧ part = .opacity then effect.fadeOpacity t
  else (effect.kind.source? part).bind fun (name, standard) =>
    numberOr standard (effect.parameter? name)

structure Shows (effect : Effect Rat) (t : Rat) (style : EffectStyle Rat) : Prop where
  effectId : style.effectId = effect.id
  kind : style.kind = effect.kind.word
  parameters : style.parameters = effect.parameters
  progress : style.progress = effect.progress t
  part : ∀ part : EffectPart, part.of style = effect.partAt t part

theorem exists_shows (effect : Effect Rat) (t : Rat) :
    ∃ style, effect.activeStyle t = .ok style ∧ effect.Shows t style := by
  rcases effect with ⟨id, kind, parameters, start, duration⟩
  cases kind
  all_goals
    simp only [activeStyle, number?_eq, number_eq, Except.ok_bind]
    refine ⟨_, rfl, rfl, rfl, rfl, rfl, ?_⟩
    intro part
    cases part <;> simp [EffectPart.of, partAt, EffectKind.source?, plainStyle] <;> norm_num

/-! ## Progress -/

theorem progress_eq (effect : Effect Rat) (t : Rat) : effect.progress t =
    max 0 (min 1 (if 0 < effect.duration then (t - effect.start) / effect.duration else 1)) := by
  rw [min_comm, min_def_lt, max_def_lt]
  norm_num [progress, greatest, least]

theorem progress_nonneg (effect : Effect Rat) (t : Rat) : 0 ≤ effect.progress t := by
  rw [progress_eq]
  exact le_max_left _ _

theorem progress_le_one (effect : Effect Rat) (t : Rat) : effect.progress t ≤ 1 := by
  rw [progress_eq]
  exact max_le zero_le_one (min_le_left _ _)

theorem progress_mono (le : s ≤ t) : effect.progress s ≤ effect.progress t := by
  rw [progress_eq, progress_eq]
  apply max_le_max_left
  apply min_le_min_left
  split
  next lasts => exact div_le_div_of_nonneg_right (by linarith) lasts.le
  next => exact le_rfl

theorem progress_start (lasts : 0 < effect.duration) : effect.progress effect.start = 0 := by
  simp [progress_eq, lasts]

theorem progress_finish (effect : Effect Rat) :
    effect.progress (effect.start + effect.duration) = 1 := by
  rw [progress_eq]
  split
  next lasts => simp [div_self lasts.ne']
  next => simp

/-! ## The window -/

theorem isActive_iff :
    effect.isActive t ↔ effect.start ≤ t ∧ t ≤ effect.start + effect.duration := by
  simp [isActive, spans]

def styleAt (effect : Effect Rat) (t : Rat) : Option (EffectStyle Rat) :=
  (effect.style? t).toOption.join

theorem style?_cases (effect : Effect Rat) (t : Rat) :
    (¬ effect.isActive t ∧ effect.style? t = .ok none) ∨
      effect.isActive t ∧ ∃ style, effect.style? t = .ok (some style) ∧ effect.Shows t style := by
  unfold style?
  split
  next inside =>
      obtain ⟨style, made, shows⟩ := effect.exists_shows t
      exact .inr ⟨inside, style, by rw [made]; rfl, shows⟩
  next outside => exact .inl ⟨outside, rfl⟩

theorem style?_eq (effect : Effect Rat) (t : Rat) : effect.style? t = .ok (effect.styleAt t) := by
  rcases effect.style?_cases t with ⟨-, nothing⟩ | ⟨-, style, something, -⟩
  · rw [styleAt, nothing]
    rfl
  · rw [styleAt, something]
    rfl

theorem exists_styleAt (inside : effect.isActive t) :
    ∃ style, effect.styleAt t = some style ∧ effect.Shows t style := by
  rcases effect.style?_cases t with ⟨outside, -⟩ | ⟨-, style, something, shows⟩
  · exact absurd inside outside
  · exact ⟨style, by rw [styleAt, something]; rfl, shows⟩

theorem styleAt_eq_none_iff : effect.styleAt t = none ↔ ¬ effect.isActive t := by
  constructor
  · intro nothing inside
    obtain ⟨style, something, -⟩ := exists_styleAt inside
    rw [nothing] at something
    cases something
  · intro outside
    rcases effect.style?_cases t with ⟨-, nothing⟩ | ⟨inside, -⟩
    · rw [styleAt, nothing]
      rfl
    · exact absurd inside outside

theorem shows_of_styleAt {style : EffectStyle Rat} (h : effect.styleAt t = some style) :
    effect.isActive t ∧ effect.Shows t style := by
  have inside : effect.isActive t := by
    by_contra outside
    rw [styleAt_eq_none_iff.mpr outside] at h
    cases h
  obtain ⟨style', same, shows⟩ := exists_styleAt inside
  rw [h] at same
  cases same
  exact ⟨inside, shows⟩

/-! ## What an effect does over time -/

/-- An effect contributes exactly while its window is open, and meanwhile its progress rises from
zero to one; in a window of a single time it is one. -/
structure IsRamp (effect : Effect Rat) : Prop where
  computed : ∀ t, effect.style? t = .ok (effect.styleAt t)
  closed_iff : ∀ t, effect.styleAt t = none ↔
    t < effect.start ∨ effect.start + effect.duration < t
  bounds : ∀ t style, effect.styleAt t = some style → 0 ≤ style.progress ∧ style.progress ≤ 1
  rises : ∀ s t early late, s ≤ t → effect.styleAt s = some early → effect.styleAt t = some late →
    early.progress ≤ late.progress
  begins : 0 < effect.duration → ∃ style, effect.styleAt effect.start = some style ∧
    style.progress = 0
  ends : 0 ≤ effect.duration → ∃ style,
    effect.styleAt (effect.start + effect.duration) = some style ∧ style.progress = 1

theorem isRamp (effect : Effect Rat) : effect.IsRamp where
  computed := effect.style?_eq
  closed_iff t := by
    rw [styleAt_eq_none_iff, isActive_iff, not_and_or, not_le, not_le]
  bounds t style h := by
    rw [(shows_of_styleAt h).2.progress]
    exact ⟨effect.progress_nonneg t, effect.progress_le_one t⟩
  rises s t early late le h h' := by
    rw [(shows_of_styleAt h).2.progress, (shows_of_styleAt h').2.progress]
    exact progress_mono le
  begins lasts := by
    have inside : effect.isActive effect.start := isActive_iff.mpr ⟨le_rfl, by linarith⟩
    obtain ⟨style, something, shows⟩ := exists_styleAt inside
    exact ⟨style, something, shows.progress.trans (progress_start lasts)⟩
  ends lasts := by
    have inside : effect.isActive (effect.start + effect.duration) :=
      isActive_iff.mpr ⟨by linarith, le_rfl⟩
    obtain ⟨style, something, shows⟩ := exists_styleAt inside
    exact ⟨style, something, shows.progress.trans effect.progress_finish⟩

/-- An effect passes on what it is called and given, and each of its numbers is that of a parameter
by its value, or the standard. -/
structure PassesOn (effect : Effect Rat) (style : EffectStyle Rat) : Prop where
  effectId : style.effectId = effect.id
  kind : style.kind = effect.kind.word
  parameters : style.parameters = effect.parameters
  sourced : ∀ part name standard, effect.kind.source? part = some (name, standard) →
    part.of style = numberOr standard (effect.parameter? name)
  unsourced : ∀ part, effect.kind.source? part = none →
    effect.kind ≠ .fade ∨ part ≠ .opacity → part.of style = none

theorem passesOn_of_styleAt {style : EffectStyle Rat} (h : effect.styleAt t = some style) :
    effect.PassesOn style where
  effectId := (shows_of_styleAt h).2.effectId
  kind := (shows_of_styleAt h).2.kind
  parameters := (shows_of_styleAt h).2.parameters
  sourced part name standard source := by
    have unfaded : effect.kind ≠ .fade := by
      intro fade
      rw [fade] at source
      cases source
    rw [(shows_of_styleAt h).2.part, partAt, if_neg fun fade => unfaded fade.1, source]
    rfl
  unsourced part none other := by
    rw [(shows_of_styleAt h).2.part, partAt, if_neg (by tauto), none]
    rfl

/-! ## Fades -/

def opacityAt (effect : Effect Rat) (t : Rat) : Option Rat :=
  (effect.styleAt t).bind (·.opacity)

def Fades (effect : Effect Rat) (direction : String) : Prop :=
  effect.kind = .fade ∧ effect.parameter? "type" = some (.text direction)

theorem opacityAt_of_fade (fade : effect.kind = .fade) :
    effect.opacityAt t = (effect.styleAt t).bind fun _ => effect.fadeOpacity t := by
  unfold opacityAt
  cases h : effect.styleAt t with
  | none => rfl
  | some style =>
      have shown : style.opacity = _ := (shows_of_styleAt h).2.part .opacity
      rw [Option.bind_some, Option.bind_some, shown, partAt, if_pos ⟨fade, rfl⟩]

theorem opacityAt_of_fades {direction : String} (fades : effect.Fades direction) :
    effect.opacityAt t = (effect.styleAt t).bind fun style =>
      if direction = "in" then some style.progress
      else if direction = "out" then some (1 - style.progress) else none := by
  rw [opacityAt_of_fade fades.1]
  cases h : effect.styleAt t with
  | none => rfl
  | some style =>
      rw [Option.bind_some, Option.bind_some, fadeOpacity, fades.2,
        (shows_of_styleAt h).2.progress]
      norm_num

/-- A fade in is as opaque as it has progressed and a fade out as it has not; a fade of another kind
has no opacity. -/
structure IsFade (effect : Effect Rat) : Prop where
  fadesIn : effect.Fades "in" → ∀ t, effect.opacityAt t = (effect.styleAt t).map (·.progress)
  rises : effect.Fades "in" → ∀ s t a b, s ≤ t → effect.opacityAt s = some a →
    effect.opacityAt t = some b → a ≤ b
  full : effect.Fades "in" → 0 ≤ effect.duration →
    effect.opacityAt (effect.start + effect.duration) = some 1
  fadesOut : effect.Fades "out" → ∀ t,
    effect.opacityAt t = (effect.styleAt t).map fun style => 1 - style.progress
  falls : effect.Fades "out" → ∀ s t a b, s ≤ t → effect.opacityAt s = some a →
    effect.opacityAt t = some b → b ≤ a
  gone : effect.Fades "out" → 0 ≤ effect.duration →
    effect.opacityAt (effect.start + effect.duration) = some 0
  plain : effect.kind = .fade → ¬ effect.Fades "in" → ¬ effect.Fades "out" → ∀ t,
    effect.opacityAt t = none

theorem opacityAt_of_fadesIn (fades : effect.Fades "in") :
    effect.opacityAt t = (effect.styleAt t).map (·.progress) := by
  rw [opacityAt_of_fades fades]
  cases effect.styleAt t <;> simp

theorem opacityAt_of_fadesOut (fades : effect.Fades "out") :
    effect.opacityAt t = (effect.styleAt t).map fun style => 1 - style.progress := by
  rw [opacityAt_of_fades fades]
  cases effect.styleAt t <;> simp

theorem fadeOpacity_of_plain (plain : effect.parameter? "type" ≠ some (.text "in"))
    (plain' : effect.parameter? "type" ≠ some (.text "out")) : effect.fadeOpacity t = none := by
  unfold fadeOpacity
  split
  next direction given =>
      rw [given] at plain plain'
      have notIn : direction ≠ "in" := fun same => plain (by rw [same])
      have notOut : direction ≠ "out" := fun same => plain' (by rw [same])
      simp [notIn, notOut]
  next => rfl

theorem isFade (effect : Effect Rat) : effect.IsFade where
  fadesIn fades t := opacityAt_of_fadesIn fades
  rises fades s t a b le ha hb := by
    simp only [opacityAt_of_fadesIn fades, Option.map_eq_some_iff] at ha hb
    obtain ⟨early, h, rfl⟩ := ha
    obtain ⟨late, h', rfl⟩ := hb
    exact effect.isRamp.rises s t early late le h h'
  full fades lasts := by
    obtain ⟨style, something, complete⟩ := effect.isRamp.ends lasts
    rw [opacityAt_of_fadesIn fades, something, Option.map_some, complete]
  fadesOut fades t := opacityAt_of_fadesOut fades
  falls fades s t a b le ha hb := by
    simp only [opacityAt_of_fadesOut fades, Option.map_eq_some_iff] at ha hb
    obtain ⟨early, h, rfl⟩ := ha
    obtain ⟨late, h', rfl⟩ := hb
    linarith [effect.isRamp.rises s t early late le h h']
  gone fades lasts := by
    obtain ⟨style, something, complete⟩ := effect.isRamp.ends lasts
    rw [opacityAt_of_fadesOut fades, something, Option.map_some, complete, sub_self]
  plain fade notIn notOut t := by
    have none : effect.fadeOpacity t = none :=
      fadeOpacity_of_plain (fun given => notIn ⟨fade, given⟩) fun given => notOut ⟨fade, given⟩
    rw [opacityAt_of_fade fade, none]
    cases effect.styleAt t <;> rfl

theorem opacityAt_add_opacityAt (fades : effect.Fades "in") (fades' : other.Fades "out")
    (start : other.start = effect.start) (duration : other.duration = effect.duration)
    (inside : effect.isActive t) :
    ∃ a b, effect.opacityAt t = some a ∧ other.opacityAt t = some b ∧ a + b = 1 := by
  have inside' : other.isActive t := by
    rwa [isActive, start, duration]
  obtain ⟨style, something, shows⟩ := exists_styleAt inside
  obtain ⟨style', something', shows'⟩ := exists_styleAt inside'
  refine ⟨style.progress, 1 - style'.progress, ?_, ?_, ?_⟩
  · rw [opacityAt_of_fadesIn fades, something, Option.map_some]
  · rw [opacityAt_of_fadesOut fades', something', Option.map_some]
  · have level : other.progress t = effect.progress t := by
      rw [progress, progress, start, duration]
    rw [shows.progress, shows'.progress, level]
    exact add_sub_cancel _ _

/-- An effect of any kind contributes exactly while its window is open, and its progress rises from
zero to one meanwhile; so does the opacity of a fade in, while that of a fade out falls and the two
add up to one.  Other effects pass on the numbers that they are given, and a standard for what is
no number. -/
theorem contribution_isRamp (effect : Effect Rat) :
    effect.IsRamp ∧ effect.IsFade ∧
      (∀ t style, effect.styleAt t = some style → effect.PassesOn style) ∧
      ∀ other : Effect Rat, effect.Fades "in" → other.Fades "out" →
        other.start = effect.start → other.duration = effect.duration →
        ∀ t, effect.start ≤ t → t ≤ effect.start + effect.duration →
          ∃ a b, effect.opacityAt t = some a ∧ other.opacityAt t = some b ∧ a + b = 1 := by
  refine ⟨effect.isRamp, effect.isFade, fun t style h => passesOn_of_styleAt h, ?_⟩
  intro other fades fades' start duration t begun lasting
  exact opacityAt_add_opacityAt fades fades' start duration (isActive_iff.mpr ⟨begun, lasting⟩)

def lateFade (direction : String) : Effect Rat :=
  ⟨"late", .fade, [("type", .text direction)], 1, 2⟩

theorem lateFade_isRamp :
    (lateFade "in").Fades "in" ∧ (lateFade "out").Fades "out" ∧
      (lateFade "in").opacityAt 3 = some 1 ∧
      ∃ a b, (lateFade "in").opacityAt 2 = some a ∧ (lateFade "out").opacityAt 2 = some b ∧
        a + b = 1 := by
  have fades : (lateFade "in").Fades "in" := ⟨rfl, rfl⟩
  have fades' : (lateFade "out").Fades "out" := ⟨rfl, rfl⟩
  obtain ⟨-, fade, -, pairs⟩ := contribution_isRamp (lateFade "in")
  refine ⟨fades, fades', ?_, pairs _ fades fades' rfl rfl 2 ?_ ?_⟩
  · have full := fade.full fades (by norm_num [lateFade])
    norm_num [lateFade] at full ⊢
    exact full
  · norm_num [lateFade]
  · norm_num [lateFade]

end Effect

end StillMotion
