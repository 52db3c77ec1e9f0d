import StillMotion.Proofs.Scene.Baking

/-!
# The two keyframes around a time

What a layer looks like at a time depends on two of its keyframes: the one it has reached last and
the one it reaches next.  Keyframes come in any order and several may have one time, so "last" and
"next" are told without an order: by the times, and among keyframes of one time by their places.
-/

namespace StillMotion

open StillMotion.Number

variable {keyframes other : List (Keyframe Rat)} {t : Rat} {place place' : Nat}
  {current upcoming k : Keyframe Rat}

/-! ## The keyframes around a time -/

/-- The keyframe at a place is the one reached last: none that is reached has a greater time, and
those of its time come before it. -/
structure IsCurrent (keyframes : List (Keyframe Rat)) (t : Rat) (place : Nat)
    (current : Keyframe Rat) : Prop where
  found : keyframes[place]? = some current
  reached : current.time ≤ t
  greatest : ∀ k ∈ keyframes, k.time ≤ t → k.time ≤ current.time
  latest : ∀ later k, place < later → keyframes[later]? = some k → k.time ≠ current.time

/-- The keyframe at a place is the one reached next: none that is still ahead has a lesser time,
and those of its time come after it. -/
structure IsUpcoming (keyframes : List (Keyframe Rat)) (t : Rat) (place : Nat)
    (upcoming : Keyframe Rat) : Prop where
  found : keyframes[place]? = some upcoming
  ahead : t < upcoming.time
  least : ∀ k ∈ keyframes, t < k.time → upcoming.time ≤ k.time
  earliest : ∀ earlier k, earlier < place → keyframes[earlier]? = some k →
    k.time ≠ upcoming.time

def Keyframe.progress (current upcoming : Keyframe Rat) (t : Rat) : Rat :=
  (t - current.time) / (upcoming.time - current.time)

/-- A style is that of the keyframes around a time: no style before all keyframes, the style of
the last one after all of them, and between two the mixture at the pace of the earlier one. -/
structure IsStyleAround (keyframes : List (Keyframe Rat)) (t : Rat)
    (style : LayerStyle Rat) : Prop where
  rest : (∀ k ∈ keyframes, t < k.time) → style = .rest
  held : ∀ place current, IsCurrent keyframes t place current →
    (∀ k ∈ keyframes, k.time ≤ t) → style = current.properties.style
  between : ∀ place current place' upcoming, IsCurrent keyframes t place current →
    IsUpcoming keyframes t place' upcoming →
    0 < upcoming.time - current.time ∧
      0 ≤ current.progress upcoming t ∧ current.progress upcoming t < 1 ∧
      ∃ eased, (current.easing.getD .linear).apply (current.progress upcoming t) = .ok eased ∧
        style = (current.properties.mix upcoming.properties eased).style

/-- The same keyframes in another order, in which those of one time keep theirs. -/
structure IsReordering (keyframes other : List (Keyframe Rat)) : Prop where
  perm : other.Perm keyframes
  stable : ∀ time, other.filter (·.time = time) = keyframes.filter (·.time = time)

/-- Keyframes at the same times, of which those around `t` are the same. -/
structure AgreesAround (keyframes : List (Keyframe Rat)) (t : Rat)
    (other : List (Keyframe Rat)) : Prop where
  times : other.map (·.time) = keyframes.map (·.time)
  current : ∀ place k, IsCurrent keyframes t place k → other[place]? = some k
  upcoming : ∀ place k, IsUpcoming keyframes t place k → other[place]? = some k

/-! ## There is one of each at most -/

namespace IsCurrent

theorem mem (h : IsCurrent keyframes t place current) : current ∈ keyframes :=
  List.mem_of_getElem? h.found

theorem unique (h : IsCurrent keyframes t place current) (h' : IsCurrent keyframes t place' k) :
    place = place' ∧ current = k := by
  have level : current.time = k.time :=
    le_antisymm (h'.greatest current h.mem h.reached) (h.greatest k h'.mem h'.reached)
  rcases lt_trichotomy place place' with before | rfl | after
  · exact absurd level.symm (h.latest place' k before h'.found)
  · exact ⟨rfl, Option.some.inj (h.found.symm.trans h'.found)⟩
  · exact absurd level (h'.latest place current after h.found)

end IsCurrent

namespace IsUpcoming

theorem mem (h : IsUpcoming keyframes t place upcoming) : upcoming ∈ keyframes :=
  List.mem_of_getElem? h.found

theorem unique (h : IsUpcoming keyframes t place upcoming)
    (h' : IsUpcoming keyframes t place' k) : place = place' ∧ upcoming = k := by
  have level : upcoming.time = k.time :=
    le_antisymm (h.least k h'.mem h'.ahead) (h'.least upcoming h.mem h.ahead)
  rcases lt_trichotomy place place' with before | rfl | after
  · exact absurd level (h'.earliest place upcoming before h.found)
  · exact ⟨rfl, Option.some.inj (h.found.symm.trans h'.found)⟩
  · exact absurd level.symm (h.earliest place' k after h'.found)

end IsUpcoming

/-! ## The scan -/

theorem bracket_of_pairwise (ordered : keyframes.Pairwise fun a b => a.time ≤ b.time) (t : Rat)
    (reached : Option (Keyframe Rat)) :
    bracket t reached keyframes =
      ((keyframes.filter (·.time ≤ t)).getLast?.or reached,
        (keyframes.filter (t < ·.time)).head?) := by
  induction keyframes generalizing reached with
  | nil => rfl
  | cons k keyframes ih =>
      obtain ⟨first, rest⟩ := List.pairwise_cons.mp ordered
      by_cases before : k.time ≤ t
      · rw [bracket, if_pos before, ih rest]
        simp [before, List.getLast?_cons]
      · have later : ∀ k' ∈ keyframes, ¬ k'.time ≤ t := fun k' hk' reached =>
          before ((first k' hk').trans reached)
        have none_before : keyframes.filter (·.time ≤ t) = [] := by simpa using later
        rw [bracket, if_neg before]
        simp [before, none_before, lt_of_not_ge before]

theorem Keyframe.comparable (keyframes : List (Keyframe Rat)) : ∀ k ∈ keyframes, k.time ≤ k.time :=
  fun _ _ => le_rfl

theorem filter_sortByTime (keyframes : List (Keyframe Rat)) (time : Rat) :
    (sortByTime keyframes).filter (·.time = time) = keyframes.filter (·.time = time) := by
  refine Ordering.filter_byKey (Keyframe.comparable keyframes) fun a b ha hb => ?_
  simp only [decide_eq_true_eq] at ha hb
  rw [Ordering.mayPrecede, ha, hb]
  simp

theorem filter_filter_sortByTime (keyframes : List (Keyframe Rat)) (kept : Rat → Prop)
    [DecidablePred kept] {time : Rat} (h : kept time) :
    ((sortByTime keyframes).filter (kept ·.time)).filter (·.time = time) =
      keyframes.filter (·.time = time) := by
  rw [← filter_sortByTime keyframes, List.filter_filter]
  refine List.filter_congr fun k _ => ?_
  by_cases level : k.time = time <;> simp [level, h]

theorem bracket_sortByTime (keyframes : List (Keyframe Rat)) (t : Rat) :
    bracket t none (sortByTime keyframes) =
      (((sortByTime keyframes).filter (·.time ≤ t)).getLast?,
        ((sortByTime keyframes).filter (t < ·.time)).head?) := by
  rw [bracket_of_pairwise (sortByTime_pairwise (Keyframe.comparable keyframes)), Option.or_none]

theorem mem_sortByTime : k ∈ sortByTime keyframes ↔ k ∈ keyframes :=
  (Ordering.byKey_perm (Keyframe.comparable keyframes)).mem_iff

/-! ## What the scan comes to -/

theorem exists_place_of_getLast? {time : Rat}
    (h : (keyframes.filter (·.time = time)).getLast? = some k) :
    ∃ place : Nat, keyframes[place]? = some k ∧
      ∀ later k', place < later → keyframes[later]? = some k' → k'.time ≠ time := by
  rw [List.getLast?_filter, List.find?_eq_some_iff_append] at h
  obtain ⟨-, after, before, split, others⟩ := h
  have placed : keyframes = before.reverse ++ k :: after.reverse := by
    simpa using congrArg List.reverse split
  refine ⟨before.length, by simp [placed], ?_⟩
  intro later k' past hk'
  obtain ⟨gap, rfl⟩ := Nat.exists_eq_add_of_lt past
  have beyond : after.reverse[gap]? = some k' := by
    rw [placed, List.getElem?_append_right (by simp; omega)] at hk'
    simpa [Nat.add_assoc] using hk'
  have listed : k' ∈ after := by simpa using List.mem_of_getElem? beyond
  simpa using others k' listed

theorem exists_place_of_head? {time : Rat}
    (h : (keyframes.filter (·.time = time)).head? = some k) :
    ∃ place : Nat, keyframes[place]? = some k ∧
      ∀ earlier k', earlier < place → keyframes[earlier]? = some k' → k'.time ≠ time := by
  rw [List.head?_filter, List.find?_eq_some_iff_append] at h
  obtain ⟨-, before, after, placed, others⟩ := h
  refine ⟨before.length, by simp [placed], ?_⟩
  intro earlier k' past hk'
  have listed : k' ∈ before := by
    rw [placed, List.getElem?_append_left past] at hk'
    exact List.mem_of_getElem? hk'
  simpa using others k' listed

theorem exists_isCurrent_of_bracket (h : (bracket t none (sortByTime keyframes)).1 = some current) :
    ∃ place, IsCurrent keyframes t place current := by
  rw [bracket_sortByTime] at h
  obtain ⟨before, split⟩ := List.getLast?_eq_some_iff.mp h
  have reached : current.time ≤ t := by
    have listed : current ∈ (sortByTime keyframes).filter (·.time ≤ t) := by simp [split]
    simpa using List.of_mem_filter listed
  have greatest : ∀ k ∈ keyframes, k.time ≤ t → k.time ≤ current.time := by
    intro k hk hreached
    have ordered := (sortByTime_pairwise (Keyframe.comparable keyframes)).filter (·.time ≤ t)
    have listed : k ∈ (sortByTime keyframes).filter (·.time ≤ t) := by
      simpa [mem_sortByTime] using ⟨hk, hreached⟩
    rw [split] at ordered listed
    rcases List.mem_append.mp listed with earlier | last
    · exact (List.pairwise_append.mp ordered).2.2 k earlier current (by simp)
    · exact (List.mem_singleton.mp last) ▸ le_rfl
  -- The keyframes of the current time are among those that are reached, in their own order.
  have last : (keyframes.filter (·.time = current.time)).getLast? = some current := by
    rw [← filter_filter_sortByTime keyframes (· ≤ t) reached, split]
    simp
  obtain ⟨place, found, latest⟩ := exists_place_of_getLast? last
  exact ⟨place, found, reached, greatest, latest⟩

theorem exists_isUpcoming_of_bracket
    (h : (bracket t none (sortByTime keyframes)).2 = some upcoming) :
    ∃ place, IsUpcoming keyframes t place upcoming := by
  rw [bracket_sortByTime] at h
  obtain ⟨after, split⟩ := List.head?_eq_some_iff.mp h
  have ahead : t < upcoming.time := by
    have listed : upcoming ∈ (sortByTime keyframes).filter (t < ·.time) := by simp [split]
    simpa using List.of_mem_filter listed
  have least : ∀ k ∈ keyframes, t < k.time → upcoming.time ≤ k.time := by
    intro k hk hahead
    have ordered := (sortByTime_pairwise (Keyframe.comparable keyframes)).filter (t < ·.time)
    have listed : k ∈ (sortByTime keyframes).filter (t < ·.time) := by
      simpa [mem_sortByTime] using ⟨hk, hahead⟩
    rw [split] at ordered listed
    rcases List.mem_cons.mp listed with rfl | later
    · exact le_rfl
    · exact List.rel_of_pairwise_cons ordered later
  have first : (keyframes.filter (·.time = upcoming.time)).head? = some upcoming := by
    rw [← filter_filter_sortByTime keyframes (t < ·) ahead, split]
    simp
  obtain ⟨place, found, earliest⟩ := exists_place_of_head? first
  exact ⟨place, found, ahead, least, earliest⟩

theorem bracket_fst_eq_none_iff :
    (bracket t none (sortByTime keyframes)).1 = none ↔ ∀ k ∈ keyframes, t < k.time := by
  rw [bracket_sortByTime, List.getLast?_eq_none_iff, List.filter_eq_nil_iff]
  simp [mem_sortByTime]

theorem bracket_snd_eq_none_iff :
    (bracket t none (sortByTime keyframes)).2 = none ↔ ∀ k ∈ keyframes, k.time ≤ t := by
  rw [bracket_sortByTime, List.head?_eq_none_iff, List.filter_eq_nil_iff]
  simp [mem_sortByTime]

theorem bracket_fst_eq_some_iff :
    (bracket t none (sortByTime keyframes)).1 = some current ↔
      ∃ place, IsCurrent keyframes t place current := by
  refine ⟨exists_isCurrent_of_bracket, ?_⟩
  rintro ⟨place, h⟩
  cases met : (bracket t none (sortByTime keyframes)).1 with
  | none => exact absurd h.reached (not_le.mpr (bracket_fst_eq_none_iff.mp met current h.mem))
  | some k =>
      obtain ⟨_, h'⟩ := exists_isCurrent_of_bracket met
      rw [(h.unique h').2]

theorem bracket_snd_eq_some_iff :
    (bracket t none (sortByTime keyframes)).2 = some upcoming ↔
      ∃ place, IsUpcoming keyframes t place upcoming := by
  refine ⟨exists_isUpcoming_of_bracket, ?_⟩
  rintro ⟨place, h⟩
  cases met : (bracket t none (sortByTime keyframes)).2 with
  | none => exact absurd h.ahead (not_lt.mpr (bracket_snd_eq_none_iff.mp met upcoming h.mem))
  | some k =>
      obtain ⟨_, h'⟩ := exists_isUpcoming_of_bracket met
      rw [(h.unique h').2]

theorem exists_isCurrent_iff :
    (∃ place current, IsCurrent keyframes t place current) ↔ ∃ k ∈ keyframes, k.time ≤ t := by
  rw [exists_comm]
  simp only [← bracket_fst_eq_some_iff, ← Option.isSome_iff_exists, Option.isSome_iff_ne_none,
    ne_eq, bracket_fst_eq_none_iff]
  simp

theorem exists_isUpcoming_iff :
    (∃ place upcoming, IsUpcoming keyframes t place upcoming) ↔ ∃ k ∈ keyframes, t < k.time := by
  rw [exists_comm]
  simp only [← bracket_snd_eq_some_iff, ← Option.isSome_iff_exists, Option.isSome_iff_ne_none,
    ne_eq, bracket_snd_eq_none_iff]
  simp

/-! ## The style between them -/

theorem progress_bounds (reached : current.time ≤ t) (ahead : t < upcoming.time) :
    0 < upcoming.time - current.time ∧
      0 ≤ current.progress upcoming t ∧ current.progress upcoming t < 1 := by
  have way : 0 < upcoming.time - current.time := by linarith
  refine ⟨way, div_nonneg (by linarith) way.le, ?_⟩
  rw [Keyframe.progress, div_lt_one way]
  linarith

theorem keyframeStyle_of_early (early : ∀ k ∈ keyframes, t < k.time) :
    keyframeStyle keyframes t = .ok .rest := by
  have current := bracket_fst_eq_none_iff.mpr early
  unfold keyframeStyle
  split
  next => rfl
  all_goals next scanned => simp [scanned] at current

theorem keyframeStyle_of_late (h : IsCurrent keyframes t place current)
    (late : ∀ k ∈ keyframes, k.time ≤ t) :
    keyframeStyle keyframes t = .ok current.properties.style := by
  have scanned : bracket t none (sortByTime keyframes) = (some current, none) :=
    Prod.ext (bracket_fst_eq_some_iff.mpr ⟨place, h⟩) (bracket_snd_eq_none_iff.mpr late)
  rw [keyframeStyle, scanned]

theorem keyframeStyle_between (h : IsCurrent keyframes t place current)
    (h' : IsUpcoming keyframes t place' upcoming) :
    keyframeStyle keyframes t = (do
      let eased ← (current.easing.getD .linear).apply (current.progress upcoming t)
      .ok (current.properties.mix upcoming.properties eased).style) := by
  have scanned : bracket t none (sortByTime keyframes) = (some current, some upcoming) :=
    Prod.ext (bracket_fst_eq_some_iff.mpr ⟨place, h⟩) (bracket_snd_eq_some_iff.mpr ⟨place', h'⟩)
  rw [keyframeStyle, scanned]
  rfl

theorem isStyleAround_of_keyframeStyle {style : LayerStyle Rat}
    (h : keyframeStyle keyframes t = .ok style) : IsStyleAround keyframes t style where
  rest early := Except.ok.inj (h.symm.trans (keyframeStyle_of_early early))
  held _ _ current late := Except.ok.inj (h.symm.trans (keyframeStyle_of_late current late))
  between place current place' upcoming isCurrent isUpcoming := by
    obtain ⟨way, begun, unfinished⟩ := progress_bounds isCurrent.reached isUpcoming.ahead
    rw [keyframeStyle_between isCurrent isUpcoming] at h
    obtain ⟨eased, applied, mixed⟩ := Except.bind_eq_ok.mp h
    exact ⟨way, begun, unfinished, eased, applied, (Except.ok.inj mixed).symm⟩

/-! ## Keyframes that look the same -/

theorem IsReordering.sortByTime_eq (h : IsReordering keyframes other) :
    sortByTime other = sortByTime keyframes := by
  refine Ordering.eq_of_filter_eq (sortByTime_pairwise (Keyframe.comparable other))
    (sortByTime_pairwise (Keyframe.comparable keyframes)) fun time => ?_
  rw [filter_sortByTime, filter_sortByTime, h.stable]

theorem IsReordering.keyframeStyle_eq (h : IsReordering keyframes other) (t : Rat) :
    keyframeStyle other t = keyframeStyle keyframes t := by
  rw [keyframeStyle, h.sortByTime_eq, keyframeStyle]

namespace AgreesAround

variable (h : AgreesAround keyframes t other)

include h

theorem forall_time_iff (P : Rat → Prop) :
    (∀ k ∈ other, P k.time) ↔ ∀ k ∈ keyframes, P k.time := by
  have times := congrArg (fun times => ∀ time ∈ times, P time) h.times
  simpa using times

theorem exists_at (found : other[place]? = some k) :
    ∃ k', keyframes[place]? = some k' ∧ k'.time = k.time := by
  have times := congrArg (·[place]?) h.times
  simpa [List.getElem?_map, found] using times.symm

theorem isCurrent (hcurrent : IsCurrent keyframes t place current) :
    IsCurrent other t place current where
  found := h.current place current hcurrent
  reached := hcurrent.reached
  greatest := (h.forall_time_iff fun time => time ≤ t → time ≤ current.time).mpr hcurrent.greatest
  latest later k past found := by
    obtain ⟨k', found', level⟩ := h.exists_at found
    exact level ▸ hcurrent.latest later k' past found'

theorem isUpcoming (hupcoming : IsUpcoming keyframes t place upcoming) :
    IsUpcoming other t place upcoming where
  found := h.upcoming place upcoming hupcoming
  ahead := hupcoming.ahead
  least := (h.forall_time_iff fun time => t < time → upcoming.time ≤ time).mpr hupcoming.least
  earliest earlier k past found := by
    obtain ⟨k', found', level⟩ := h.exists_at found
    exact level ▸ hupcoming.earliest earlier k' past found'

theorem keyframeStyle_eq : keyframeStyle other t = keyframeStyle keyframes t := by
  by_cases early : ∀ k ∈ keyframes, t < k.time
  · rw [keyframeStyle_of_early early,
      keyframeStyle_of_early ((h.forall_time_iff (t < ·)).mpr early)]
  obtain ⟨place, current, hcurrent⟩ : ∃ place current, IsCurrent keyframes t place current :=
    exists_isCurrent_iff.mpr (by simpa using early)
  by_cases late : ∀ k ∈ keyframes, k.time ≤ t
  · rw [keyframeStyle_of_late hcurrent late,
      keyframeStyle_of_late (h.isCurrent hcurrent) ((h.forall_time_iff (· ≤ t)).mpr late)]
  obtain ⟨place', upcoming, hupcoming⟩ : ∃ place upcoming, IsUpcoming keyframes t place upcoming :=
    exists_isUpcoming_iff.mpr (by simpa using late)
  rw [keyframeStyle_between hcurrent hupcoming,
    keyframeStyle_between (h.isCurrent hcurrent) (h.isUpcoming hupcoming)]

end AgreesAround

/-- Keyframes in any order have a style at any time, that of the keyframe reached last and the one
reached next, which are there as soon as any keyframe is reached or ahead.  The style stays when
keyframes change places without those of one time overtaking each other, and when keyframes other
than those two change what they say. -/
theorem keyframeStyle_isStyleAround (keyframes : List (Keyframe Rat)) (t : Rat) :
    (∃ style, keyframeStyle keyframes t = .ok style ∧ IsStyleAround keyframes t style) ∧
    ((∃ place current, IsCurrent keyframes t place current) ↔ ∃ k ∈ keyframes, k.time ≤ t) ∧
    ((∃ place upcoming, IsUpcoming keyframes t place upcoming) ↔ ∃ k ∈ keyframes, t < k.time) ∧
    (∀ other, IsReordering keyframes other →
      keyframeStyle other t = keyframeStyle keyframes t) ∧
    ∀ other, AgreesAround keyframes t other →
      keyframeStyle other t = keyframeStyle keyframes t := by
  obtain ⟨style, looks⟩ := exists_keyframeStyle t keyframes
  refine ⟨⟨style, looks, isStyleAround_of_keyframeStyle looks⟩, exists_isCurrent_iff,
    exists_isUpcoming_iff, ?_, ?_⟩
  · intro other reordered
    exact reordered.keyframeStyle_eq t
  · intro other agrees
    exact agrees.keyframeStyle_eq

def opacityAt (time opacity : Rat) : Keyframe Rat :=
  ⟨time, { KeyframeProperties.none with opacity := some opacity }, some .easeIn⟩

def flickering : List (Keyframe Rat) :=
  [opacityAt 2 1, opacityAt 1 (1 / 2), opacityAt 1 0, opacityAt 2 (1 / 2)]

def fading : List (Keyframe Rat) :=
  [opacityAt 2 1, opacityAt 1 1, opacityAt 1 0, opacityAt 2 0]

/-- At one and a half the later keyframe at one has been reached and the earlier one at two is
ahead; the quarter is half the way at the pace of the keyframe that has been reached. -/
theorem flickering_isStyleAround :
    IsCurrent flickering (3 / 2) 2 (opacityAt 1 0) ∧
      IsUpcoming flickering (3 / 2) 0 (opacityAt 2 1) ∧
      (∃ style, keyframeStyle flickering (3 / 2) = .ok style ∧ style.opacity = some (1 / 4)) ∧
      keyframeStyle (sortByTime flickering) (3 / 2) = keyframeStyle flickering (3 / 2) ∧
      keyframeStyle fading (3 / 2) = keyframeStyle flickering (3 / 2) := by
  have isCurrent : IsCurrent flickering (3 / 2) 2 (opacityAt 1 0) := by
    refine ⟨rfl, by decide +kernel, by decide +kernel, ?_⟩
    rintro (_ | _ | _ | _ | later) k past found
    · omega
    · omega
    · omega
    · cases found
      decide
    · cases found
  have isUpcoming : IsUpcoming flickering (3 / 2) 0 (opacityAt 2 1) :=
    ⟨rfl, by decide +kernel, by decide +kernel, fun _ _ before => absurd before (Nat.not_lt_zero _)⟩
  have reordered : IsReordering flickering (sortByTime flickering) :=
    ⟨Ordering.byKey_perm (Keyframe.comparable _), filter_sortByTime _⟩
  have agrees : AgreesAround flickering (3 / 2) fading := by
    refine ⟨rfl, fun place k h => ?_, fun place k h => ?_⟩
    · obtain ⟨rfl, rfl⟩ := isCurrent.unique h
      rfl
    · obtain ⟨rfl, rfl⟩ := isUpcoming.unique h
      rfl
  obtain ⟨⟨style, looks, around⟩, -, -, reordering, changing⟩ :=
    keyframeStyle_isStyleAround flickering (3 / 2)
  obtain ⟨-, -, -, eased, applied, rfl⟩ := around.between _ _ _ _ isCurrent isUpcoming
  refine ⟨isCurrent, isUpcoming, ⟨_, looks, ?_⟩, reordering _ reordered, changing _ agrees⟩
  cases applied
  decide +kernel

end StillMotion
