import Mathlib.Algebra.Order.Group.Unbundled.Abs
import Mathlib.Order.Interval.Set.UnorderedInterval
import Mathlib.Tactic.NormNum.OfScientific
import StillMotion.Proofs.Scene.Bracketing

/-!
# From one keyframe to the next

The numbers of a style go from those of one keyframe to those of the next at the pace of the
earlier one: they start and end where the keyframes are, stay between them and never turn back.
What the keyframes do not both say stays as the earlier one says it, but for a depth: a keyframe
whose position has a depth loses it as soon as the next keyframe's position has none.
-/

namespace StillMotion

open StillMotion.Number

/-! ## The numbers of a style -/

inductive StylePart where
  | positionX | positionY | positionZ
  | scaleX | scaleY
  | rotationX | rotationY | rotationZ
  | opacity
deriving DecidableEq, Repr

def StylePart.of {α : Type} (style : LayerStyle α) : StylePart → Option α
  | .positionX => style.positionX
  | .positionY => style.positionY
  | .positionZ => style.positionZ
  | .scaleX => style.scaleX
  | .scaleY => style.scaleY
  | .rotationX => style.rotationX
  | .rotationY => style.rotationY
  | .rotationZ => style.rotationZ
  | .opacity => style.opacity

theorem LayerStyle.ext_parts {α : Type} {style other : LayerStyle α}
    (parts : ∀ part : StylePart, part.of style = part.of other)
    (filter : style.filter = other.filter) (color : style.color = other.color) :
    style = other := by
  cases style
  cases other
  simp only [LayerStyle.mk.injEq]
  exact ⟨parts .positionX, parts .positionY, parts .positionZ, parts .scaleX, parts .scaleY,
    parts .rotationX, parts .rotationY, parts .rotationZ, parts .opacity, filter, color⟩

/-! ## Mixing -/

section Mixing

variable {a b e : Rat}

@[simp] theorem mix_zero (a b : Rat) : mix a b 0 = a := by
  simp [mix]

theorem sub_mix (a b e : Rat) : b - mix a b e = (b - a) * (1 - e) := by
  rw [mix]
  ring

theorem mix_mem_uIcc (h : 0 ≤ e) (h' : e ≤ 1) : mix a b e ∈ Set.uIcc a b := by
  rw [Set.mem_uIcc, mix]
  rcases le_total a b with rising | falling
  · left
    constructor <;> nlinarith
  · right
    constructor <;> nlinarith

theorem abs_sub_mix_le {f : Rat} (h : e ≤ f) (h' : f ≤ 1) :
    |b - mix a b f| ≤ |b - mix a b e| := by
  rw [sub_mix, sub_mix, abs_mul, abs_mul, abs_of_nonneg (by linarith : 0 ≤ 1 - f),
    abs_of_nonneg (by linarith : 0 ≤ 1 - e)]
  apply mul_le_mul_of_nonneg_left _ (abs_nonneg _)
  linarith

end Mixing

section Properties

variable {start finish : KeyframeProperties Rat}

@[simp] theorem Vec2.spin_mk (x y z : Rat) : (Vec2.mk x y (some z)).spin = z := by
  unfold Vec2.spin
  norm_num
  intro above below
  exact le_antisymm above below

@[simp] theorem between_some {β : Type} (f : β → β → β) (a b : β) :
    between f (some a) (some b) = some (f a b) := rfl

@[simp] theorem between_none_left {β : Type} (f : β → β → β) (b : Option β) :
    between f none b = none := rfl

@[simp] theorem between_none_right {β : Type} (f : β → β → β) (a : Option β) :
    between f a none = a := by
  cases a <;> rfl

theorem part_mix_of_both {part : StylePart} {a b : Rat} (ha : part.of start.style = some a)
    (hb : part.of finish.style = some b) (e : Rat) :
    part.of (start.mix finish e).style = some (mix a b e) := by
  cases part
  case opacity =>
      change start.opacity = some a at ha
      change finish.opacity = some b at hb
      simp [StylePart.of, KeyframeProperties.style, KeyframeProperties.mix, ha, hb]
  all_goals
    simp only [StylePart.of, KeyframeProperties.style, Option.map_eq_some_iff,
      Option.bind_eq_some_iff] at ha hb
    obtain ⟨p, hp, ha⟩ := ha
    obtain ⟨q, hq, hb⟩ := hb
    simp [StylePart.of, KeyframeProperties.style, KeyframeProperties.mix, hp, hq, Vec2.mix,
      Vec2.mixRotation, mixGiven, ha, hb]

/-- The depth of a position is lost on the way to a position without one. -/
def KeyframeProperties.LosesDepth (start finish : KeyframeProperties Rat) : Prop :=
  ∃ p q, start.position = some p ∧ finish.position = some q ∧ p.z.isSome ∧ q.z.isNone

/-- What the keyframes do not both carry is held, but for a depth that is lost. -/
theorem part_mix_of_missing {part : StylePart}
    (missing : part.of start.style = none ∨ part.of finish.style = none)
    (kept : part ≠ .positionZ ∨ ¬ start.LosesDepth finish) (e : Rat) :
    part.of (start.mix finish e).style = part.of start.style := by
  cases part
  case positionZ =>
      have kept : ¬ start.LosesDepth finish := by simpa using kept
      simp only [StylePart.of, KeyframeProperties.style, KeyframeProperties.mix] at missing ⊢
      cases hp : start.position with
      | none => simp
      | some p =>
          cases hq : finish.position with
          | none => simp
          | some q =>
              have depth : p.z = none := by
                by_contra deep
                have flat : q.z = none := by simpa [hp, hq, deep] using missing
                exact kept ⟨p, q, hp, hq, by simp [Option.isSome_iff_ne_none, deep], by simp [flat]⟩
              simp [Vec2.mix, mixGiven, depth]
  all_goals
    simp only [StylePart.of, KeyframeProperties.style, KeyframeProperties.mix,
      Option.map_eq_none_iff] at missing ⊢
    rcases missing with absent | absent <;> simp [absent]

theorem part_mix_zero {part : StylePart} (kept : part ≠ .positionZ ∨ ¬ start.LosesDepth finish) :
    part.of (start.mix finish 0).style = part.of start.style := by
  cases ha : part.of start.style with
  | none => rw [part_mix_of_missing (.inl ha) kept, ha]
  | some a =>
      cases hb : part.of finish.style with
      | none => rw [part_mix_of_missing (.inr hb) kept, ha]
      | some b => rw [part_mix_of_both ha hb, mix_zero]

theorem style_mix_zero (kept : ¬ start.LosesDepth finish) :
    (start.mix finish 0).style = start.style := by
  apply LayerStyle.ext_parts
  · intro part
    exact part_mix_zero (.inr kept)
  · rfl
  · rfl

theorem style_mix_zero_of_losesDepth (lost : start.LosesDepth finish) :
    (start.mix finish 0).style = { start.style with positionZ := none } := by
  apply LayerStyle.ext_parts
  · intro part
    cases part
    case positionZ =>
        obtain ⟨p, q, hp, hq, -, flat⟩ := lost
        rw [Option.isNone_iff_eq_none] at flat
        simp [StylePart.of, KeyframeProperties.style, KeyframeProperties.mix, hp, hq, Vec2.mix,
          mixGiven, flat]
    all_goals
      rw [part_mix_zero (.inl (by decide))]
      rfl
  · rfl
  · rfl

end Properties

/-! ## Pace -/

namespace Easing

def curve (easing : Easing) (p : Rat) : Rat :=
  match easing with
  | .linear => p
  | .easeIn => p ^ 2
  | .easeOut => 1 - (1 - p) ^ 2
  | .easeInOut => if p < 1 / 2 then 2 * p ^ 2 else 1 - 2 * (1 - p) ^ 2
  | .spring => 1 - (1 - p) ^ 3

theorem apply_eq (easing : Easing) (p : Rat) : easing.apply p = .ok (easing.curve p) := by
  cases easing with
  | linear => rfl
  | easeIn =>
      simp only [apply, curve, Except.ok.injEq]
      ring
  | easeOut =>
      simp only [apply, curve, Except.ok.injEq]
      norm_num
      ring
  | easeInOut =>
      simp only [apply, curve, Except.ok.injEq]
      norm_num
      split
      · ring
      · ring
  | spring =>
      change Except.ok (1.0 - (1.0 - p) * (1.0 - p) * (1.0 - p)) = Except.ok (1 - (1 - p) ^ 3)
      rw [Except.ok.injEq]
      norm_num
      ring

@[simp] theorem curve_zero (easing : Easing) : easing.curve 0 = 0 := by
  cases easing <;> norm_num [curve]

@[simp] theorem curve_one (easing : Easing) : easing.curve 1 = 1 := by
  cases easing <;> norm_num [curve]

theorem curve_mono (easing : Easing) {p q : Rat} (begun : 0 ≤ p) (le : p ≤ q) (ended : q ≤ 1) :
    easing.curve p ≤ easing.curve q := by
  cases easing with
  | linear => exact le
  | easeIn => exact pow_le_pow_left₀ begun le 2
  | easeOut =>
      have back : (1 - q) ^ 2 ≤ (1 - p) ^ 2 := pow_le_pow_left₀ (by linarith) (by linarith) 2
      simp only [curve]
      linarith
  | easeInOut =>
      have rise : p ^ 2 ≤ q ^ 2 := pow_le_pow_left₀ begun le 2
      have back : (1 - q) ^ 2 ≤ (1 - p) ^ 2 := pow_le_pow_left₀ (by linarith) (by linarith) 2
      simp only [curve]
      split
      next early =>
          split
          next => linarith
          next late =>
              -- The halves meet in the middle, at a half.
              have below : p ^ 2 ≤ (1 / 2) ^ 2 := pow_le_pow_left₀ begun early.le 2
              have above : (1 - q) ^ 2 ≤ (1 / 2) ^ 2 :=
                pow_le_pow_left₀ (by linarith) (by linarith) 2
              linarith
      next late =>
          rw [if_neg (by linarith)]
          linarith
  | spring =>
      have back : (1 - q) ^ 3 ≤ (1 - p) ^ 3 := pow_le_pow_left₀ (by linarith) (by linarith) 3
      simp only [curve]
      linarith

/-- A pace takes all of the way and never turns back. -/
structure IsPace (easing : Easing) : Prop where
  begins : easing.apply (0 : Rat) = .ok 0
  ends : easing.apply (1 : Rat) = .ok 1
  rises : ∀ p q : Rat, 0 ≤ p → p ≤ q → q ≤ 1 → ∃ e f, easing.apply p = .ok e ∧
    easing.apply q = .ok f ∧ 0 ≤ e ∧ e ≤ f ∧ f ≤ 1

theorem isPace (easing : Easing) : easing.IsPace where
  begins := by rw [apply_eq, curve_zero]
  ends := by rw [apply_eq, curve_one]
  rises p q begun le ended := by
    refine ⟨_, _, easing.apply_eq p, easing.apply_eq q, ?_, easing.curve_mono begun le ended, ?_⟩
    · rw [← easing.curve_zero]
      exact easing.curve_mono le_rfl begun (le.trans ended)
    · rw [← easing.curve_one]
      exact easing.curve_mono (begun.trans le) ended le_rfl

end Easing

def Keyframe.pacedBy (keyframe : Keyframe Rat) (name : Option String) : Keyframe Rat :=
  { keyframe with easing := name.map fun word => Easing.named (some word) }

theorem Keyframe.exists_pacedBy (keyframe : Keyframe Rat) :
    ∃ name, keyframe.pacedBy name = keyframe := by
  cases given : keyframe.easing with
  | none => exact ⟨none, by rw [pacedBy, Option.map_none, ← given]⟩
  | some easing =>
      refine ⟨some easing.word, ?_⟩
      have named : Easing.named (some easing.word) = easing := by cases easing <;> decide
      rw [pacedBy, Option.map_some, named, ← given]

/-! ## Hitting a keyframe -/

section Hitting

variable {keyframes : List (Keyframe Rat)} {k current upcoming : Keyframe Rat}
  {place place' : Nat} {s t : Rat}

/-- The depth of a keyframe is lost on the way to the one that comes next. -/
def IsFlattened (keyframes : List (Keyframe Rat)) (k : Keyframe Rat) : Prop :=
  ∃ place upcoming, IsUpcoming keyframes k.time place upcoming ∧
    k.properties.LosesDepth upcoming.properties

theorem exists_isCurrent_of_mem (distinct : (keyframes.map (·.time)).Nodup) (h : k ∈ keyframes) :
    ∃ place, IsCurrent keyframes k.time place k := by
  obtain ⟨place, bound, rfl⟩ := List.mem_iff_getElem.mp h
  refine ⟨place, List.getElem?_eq_getElem bound, le_rfl, fun _ _ reached => reached, ?_⟩
  intro later k' past found level
  have apart : keyframes.Pairwise fun a b => a.time ≠ b.time := List.pairwise_map.mp distinct
  obtain ⟨bound', rfl⟩ := List.getElem?_eq_some_iff.mp found
  exact List.pairwise_iff_getElem.mp apart place later bound bound' past level.symm

theorem keyframeStyle_hit (current : IsCurrent keyframes k.time place k)
    (next : IsUpcoming keyframes k.time place' upcoming) :
    keyframeStyle keyframes k.time = .ok (k.properties.mix upcoming.properties 0).style := by
  have begun : k.progress upcoming k.time = 0 := by
    rw [Keyframe.progress, sub_self, zero_div]
  rw [keyframeStyle_between current next, begun, (Easing.isPace _).begins]
  rfl

/-- Of keyframes at different times, the style at the time of each is what it says, unless its
depth is lost on the way to the one that comes next; then its depth alone is missing. -/
theorem keyframeStyle_hit_iff (distinct : (keyframes.map (·.time)).Nodup) (h : k ∈ keyframes) :
    (keyframeStyle keyframes k.time = .ok k.properties.style ↔ ¬ IsFlattened keyframes k) ∧
      (IsFlattened keyframes k →
        keyframeStyle keyframes k.time = .ok { k.properties.style with positionZ := none }) := by
  obtain ⟨place, isCurrent⟩ := exists_isCurrent_of_mem distinct h
  have flattened (lost : IsFlattened keyframes k) :
      keyframeStyle keyframes k.time = .ok { k.properties.style with positionZ := none } := by
    obtain ⟨place', upcoming, isUpcoming, lost⟩ := lost
    rw [keyframeStyle_hit isCurrent isUpcoming, style_mix_zero_of_losesDepth lost]
  refine ⟨⟨?_, ?_⟩, flattened⟩
  · intro hit lost
    have deep : k.properties.style.positionZ ≠ none := by
      obtain ⟨_, _, _, p, _, hp, _, deep, _⟩ := lost
      simpa [KeyframeProperties.style, hp, Option.isSome_iff_ne_none] using deep
    have same := Except.ok.inj ((flattened lost).symm.trans hit)
    exact deep (congrArg LayerStyle.positionZ same).symm
  · intro kept
    by_cases late : ∀ k' ∈ keyframes, k'.time ≤ k.time
    · exact keyframeStyle_of_late isCurrent late
    · obtain ⟨place', upcoming, isUpcoming⟩ : ∃ place' upcoming,
          IsUpcoming keyframes k.time place' upcoming :=
        exists_isUpcoming_iff.mpr (by simpa using late)
      have holds : ¬ k.properties.LosesDepth upcoming.properties := fun lost =>
        kept ⟨place', upcoming, isUpcoming, lost⟩
      rw [keyframeStyle_hit isCurrent isUpcoming, style_mix_zero holds]

def positionAt (time : Rat) (depth : Option Rat) : Keyframe Rat :=
  ⟨time, { KeyframeProperties.none with position := some ⟨1, 2, depth⟩ }, some .easeInOut⟩

def sinking : List (Keyframe Rat) := [positionAt 1 none, positionAt 0 (some 3)]

theorem sinking_isUpcoming : IsUpcoming sinking 0 0 (positionAt 1 none) :=
  ⟨rfl, by norm_num [positionAt], by simp [sinking, positionAt],
    fun _ _ before => absurd before (Nat.not_lt_zero _)⟩

theorem sinking_hit_iff :
    keyframeStyle sinking 1 = .ok (positionAt 1 none).properties.style ∧
      keyframeStyle sinking 0 = .ok { (positionAt 0 (some 3)).properties.style with
        positionZ := none } := by
  have distinct : (sinking.map (·.time)).Nodup := by simp [sinking, positionAt]
  have shallow : positionAt 1 none ∈ sinking := List.mem_cons_self
  have deep : positionAt 0 (some 3) ∈ sinking := List.mem_cons_of_mem _ List.mem_cons_self
  constructor
  · refine (keyframeStyle_hit_iff distinct shallow).1.mpr ?_
    rintro ⟨_, _, _, p, _, hp, _, deep, _⟩
    cases hp
    cases deep
  · refine (keyframeStyle_hit_iff distinct deep).2 ?_
    exact ⟨0, _, sinking_isUpcoming, _, _, rfl, rfl, rfl, rfl⟩

/-- The deeper keyframe is not hit. -/
theorem not_all_keyframeStyle_hit :
    ¬ ∀ keyframes : List (Keyframe Rat), (keyframes.map (·.time)).Nodup → ∀ k ∈ keyframes,
      keyframeStyle keyframes k.time = .ok k.properties.style := by
  intro all
  have distinct : (sinking.map (·.time)).Nodup := by simp [sinking, positionAt]
  have listed : positionAt 0 (some 3) ∈ sinking := List.mem_cons_of_mem _ List.mem_cons_self
  obtain ⟨place, isCurrent⟩ := exists_isCurrent_of_mem distinct listed
  have hit := all sinking distinct _ listed
  rw [keyframeStyle_hit isCurrent sinking_isUpcoming] at hit
  cases congrArg LayerStyle.positionZ (Except.ok.inj hit)

end Hitting

/-! ## Between two keyframes -/

section Between

variable {keyframes : List (Keyframe Rat)} {current upcoming : Keyframe Rat}
  {place place' : Nat} {s t : Rat}

theorem IsCurrent.later (isCurrent : IsCurrent keyframes s place current)
    (isUpcoming : IsUpcoming keyframes s place' upcoming) (le : s ≤ t) (ahead : t < upcoming.time) :
    IsCurrent keyframes t place current where
  found := isCurrent.found
  reached := isCurrent.reached.trans le
  greatest k member reached := by
    by_contra greater
    have unreached : s < k.time := by
      by_contra early
      exact greater (isCurrent.greatest k member (not_lt.mp early))
    have beyond := isUpcoming.least k member unreached
    linarith
  latest := isCurrent.latest

theorem IsUpcoming.later (isUpcoming : IsUpcoming keyframes s place' upcoming) (le : s ≤ t)
    (ahead : t < upcoming.time) : IsUpcoming keyframes t place' upcoming where
  found := isUpcoming.found
  ahead := ahead
  least k member beyond := isUpcoming.least k member (le.trans_lt beyond)
  earliest := isUpcoming.earliest

theorem progress_le (le : s ≤ t) (way : 0 < upcoming.time - current.time) :
    current.progress upcoming s ≤ current.progress upcoming t := by
  rw [Keyframe.progress, Keyframe.progress]
  exact div_le_div_of_nonneg_right (by linarith) way.le

/-- Between two keyframes the style at a time mixes what they say by a share of the way, and the
share at a later time is not less. -/
theorem exists_shares (isCurrent : IsCurrent keyframes s place current)
    (isUpcoming : IsUpcoming keyframes s place' upcoming) (le : s ≤ t)
    (ahead : t < upcoming.time) :
    ∃ e f : Rat, 0 ≤ e ∧ e ≤ f ∧ f ≤ 1 ∧
      keyframeStyle keyframes s = .ok (current.properties.mix upcoming.properties e).style ∧
      keyframeStyle keyframes t = .ok (current.properties.mix upcoming.properties f).style := by
  have isCurrent' := isCurrent.later isUpcoming le ahead
  have isUpcoming' := isUpcoming.later le ahead
  obtain ⟨way, begun, -⟩ := progress_bounds isCurrent.reached isUpcoming.ahead
  obtain ⟨-, -, unfinished⟩ := progress_bounds isCurrent'.reached isUpcoming'.ahead
  obtain ⟨e, f, applied, applied', nonneg, rising, le_one⟩ :=
    (Easing.isPace (current.easing.getD .linear)).rises _ _ begun (progress_le le way)
      unfinished.le
  refine ⟨e, f, nonneg, rising, le_one, ?_, ?_⟩
  · rw [keyframeStyle_between isCurrent isUpcoming, applied]
    rfl
  · rw [keyframeStyle_between isCurrent' isUpcoming', applied']
    rfl

/-- Every pace goes from the start to the end without turning back, and so does every number that
two keyframes around a time both carry, whatever name the pace goes by: it lies between what they
say, and at a later time it is not farther from what the later keyframe says. -/
theorem keyframeStyle_isSteady :
    (∀ name : Option String, (Easing.named name).IsPace) ∧
    (∀ keyframe : Keyframe Rat, ∃ name, keyframe.pacedBy name = keyframe) ∧
    ∀ (keyframes : List (Keyframe Rat)) (name : Option String) (place place' : Nat)
      (current upcoming : Keyframe Rat) (s t : Rat),
      IsCurrent keyframes s place (current.pacedBy name) →
      IsUpcoming keyframes s place' upcoming → s ≤ t → t < upcoming.time →
      ∃ before after, keyframeStyle keyframes s = .ok before ∧
        keyframeStyle keyframes t = .ok after ∧
        ∀ (part : StylePart) (a b : Rat), part.of current.properties.style = some a →
          part.of upcoming.properties.style = some b →
          ∃ x y, part.of before = some x ∧ part.of after = some y ∧
            x ∈ Set.uIcc a b ∧ y ∈ Set.uIcc a b ∧ |b - y| ≤ |b - x| := by
  refine ⟨fun name => Easing.isPace _, Keyframe.exists_pacedBy, ?_⟩
  intro keyframes name place place' current upcoming s t isCurrent isUpcoming le ahead
  obtain ⟨e, f, nonneg, rising, le_one, looks, looks'⟩ :=
    exists_shares isCurrent isUpcoming le ahead
  refine ⟨_, _, looks, looks', ?_⟩
  intro part a b ha hb
  refine ⟨_, _, part_mix_of_both ha hb e, part_mix_of_both ha hb f, ?_, ?_, ?_⟩
  · exact mix_mem_uIcc nonneg (rising.trans le_one)
  · exact mix_mem_uIcc (nonneg.trans rising) le_one
  · exact abs_sub_mix_le rising le_one

def tilted : Keyframe Rat :=
  ⟨1, { KeyframeProperties.none with rotation := some ⟨2, 1, none⟩ }, none⟩

def turned : Keyframe Rat :=
  ⟨3, { KeyframeProperties.none with rotation := some ⟨0, 1, some (-90)⟩ }, none⟩

def turning : List (Keyframe Rat) := [turned, tilted.pacedBy (some "bounce")]

theorem turning_isSteady :
    IsCurrent turning (3 / 2) 1 (tilted.pacedBy (some "bounce")) ∧
      IsUpcoming turning (3 / 2) 0 turned ∧
      ∃ before after, keyframeStyle turning (3 / 2) = .ok before ∧
        keyframeStyle turning 2 = .ok after ∧
        ∃ x y, before.rotationZ = some x ∧ after.rotationZ = some y ∧
          x ∈ Set.uIcc (0 : Rat) (-90) ∧ y ∈ Set.uIcc (0 : Rat) (-90) ∧
          |-90 - y| ≤ |-90 - x| := by
  have isCurrent : IsCurrent turning (3 / 2) 1 (tilted.pacedBy (some "bounce")) := by
    refine ⟨rfl, by norm_num [tilted, Keyframe.pacedBy], ?_, ?_⟩
    · norm_num [turning, turned, tilted, Keyframe.pacedBy]
    rintro (_ | _ | later) k past found
    · omega
    · omega
    · cases found
  have isUpcoming : IsUpcoming turning (3 / 2) 0 turned :=
    ⟨rfl, by norm_num [turned], by norm_num [turning, turned, tilted, Keyframe.pacedBy],
      fun _ _ before => absurd before (Nat.not_lt_zero _)⟩
  obtain ⟨before, after, looks, looks', parts⟩ := keyframeStyle_isSteady.2.2 turning
    (some "bounce") 1 0 tilted turned (3 / 2) 2 isCurrent isUpcoming (by norm_num)
    (by norm_num [turned])
  refine ⟨isCurrent, isUpcoming, before, after, looks, looks', ?_⟩
  apply parts .rotationZ 0 (-90)
  · norm_num [StylePart.of, KeyframeProperties.style, tilted, Vec2.spin]
  · norm_num [StylePart.of, KeyframeProperties.style, turned]

end Between

end StillMotion
