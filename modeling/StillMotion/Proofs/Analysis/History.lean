import Mathlib.Data.List.Infix
import StillMotion.Proofs.Pipeline.Answer

/-!
# What a registry has been asked for

Backends are asked for by name or by default, and the variables of the environment may change from
one request to the next.  Whatever was asked before, a backend that can be had is answered with, but
for the vision backend while it was never made and there is no key for it; and a name is always
answered by the same instance.  With a key, the chat service is taken to be there.
-/

namespace StillMotion.Registry

/-! ## Requests -/

structure Request where
  /-- The variables at the moment of the request. -/
  environment : Environment
  /-- Without a name, the default backend is asked for. -/
  name? : Option String

def Request.name (config : Config) (request : Request) : String :=
  request.name?.getD config.defaultProvider

/-- The answer to a request, and the registry after it; one that fails leaves it as it was. -/
def respond (registry : Registry) (request : Request) : Except Fault BackendInstance × Registry :=
  let outcome := match request.name? with
    | some name => registry.get request.environment name
    | none => registry.getDefault request.environment
  match outcome with
  | .ok (made, later) => (.ok made, later)
  | .error fault => (.error fault, registry)

def after (config : Config) (requests : List Request) : Registry :=
  requests.foldl (fun registry request => (registry.respond request).2) (ofConfig config)

def answer (config : Config) (earlier : List Request) (request : Request) :
    Except Fault BackendInstance :=
  ((after config earlier).respond request).1

def Returned (config : Config) (requests : List Request) (name : String) (made : BackendInstance) :
    Prop :=
  ∃ earlier request, earlier ++ [request] <+: requests ∧ request.name config = name ∧
    answer config earlier request = .ok made

theorem after_concat (config : Config) (earlier : List Request) (request : Request) :
    after config (earlier ++ [request]) = ((after config earlier).respond request).2 :=
  List.foldl_concat _ _ _ _

theorem not_returned_nil {config : Config} {name : String} {made : BackendInstance} :
    ¬ Returned config [] name made := by
  rintro ⟨earlier, request, before, -, -⟩
  simpa using List.prefix_nil.mp before

theorem returned_concat_iff {config : Config} {earlier : List Request} {request : Request}
    {name : String} {made : BackendInstance} :
    Returned config (earlier ++ [request]) name made ↔
      Returned config earlier name made ∨
        request.name config = name ∧ answer config earlier request = .ok made := by
  constructor
  · rintro ⟨earlier', request', before, asked, answered⟩
    rcases List.prefix_concat_iff.mp before with last | before
    · obtain ⟨rfl, rfl⟩ : earlier' = earlier ∧ request' = request := by
        simpa using List.append_inj' last rfl
      exact .inr ⟨asked, answered⟩
    · exact .inl ⟨earlier', request', before, asked, answered⟩
  · rintro (⟨earlier', request', before, asked, answered⟩ | ⟨asked, answered⟩)
    · exact ⟨earlier', request', before.trans (List.prefix_append _ _), asked, answered⟩
    · exact ⟨earlier, request, List.prefix_rfl, asked, answered⟩

/-! ## Making backends -/

def HasKey (config : Config) (environment : Environment) : Prop :=
  ∃ settings key, config.providers.openai = some settings ∧
    environment settings.apiKeyVariable = some key ∧ key ≠ ""

theorem exists_make_iff {config : Config} {environment : Environment} {name : String} :
    (∃ kind, make config environment name = .ok kind) ↔
      name = fallbackName ∨ name = visionName ∧ HasKey config environment := by
  unfold make HasKey
  by_cases standalone : name = fallbackName
  · simp [standalone]
  by_cases vision : name = visionName
  · have other : ¬ visionName = fallbackName := by decide
    subst vision
    cases given : config.providers.openai with
    | none => simp [other, configFault]
    | some settings =>
        cases known : environment settings.apiKeyVariable with
        | none => simp [other, configFault, known]
        | some key => by_cases empty : key = "" <;> simp [other, configFault, known, empty]
  · simp [standalone, vision, configFault]

theorem mem_availableProviders_iff {config : Config} {name : String} :
    name ∈ config.availableProviders ↔
      ∃ environment kind, make config environment name = .ok kind := by
  simp only [exists_make_iff]
  rw [Config.mem_availableProviders]
  constructor
  · rintro (standalone | ⟨vision, given⟩)
    · exact ⟨fun _ => none, .inl standalone⟩
    · obtain ⟨settings, given⟩ := Option.isSome_iff_exists.mp given
      exact ⟨fun _ => some "key", .inr ⟨vision, settings, "key", given, rfl, by decide⟩⟩
  · rintro ⟨environment, standalone | ⟨vision, settings, key, given, -, -⟩⟩
    · exact .inl standalone
    · exact .inr ⟨vision, Option.isSome_of_mem given⟩

theorem id_of_make {config : Config} {environment : Environment} {name : String}
    {kind : BackendKind} (made : make config environment name = .ok kind) (serial : Nat) :
    (BackendInstance.mk kind serial).id = name := by
  unfold make at made
  split at made
  next standalone =>
      cases made
      exact (beq_iff_eq.mp standalone).symm
  split at made
  next vision =>
      split at made
      · cases made
      · dsimp only at made
        split at made
        · cases made
        · cases made
          exact (beq_iff_eq.mp vision).symm
  next => cases made

/-! ## What a request does -/

def keep (registry : Registry) (name : String) (kind : BackendKind) : Registry :=
  { registry with
    made := (name, ⟨kind, registry.count⟩) :: registry.made
    count := registry.count + 1 }

theorem find?_keep (registry : Registry) (name other : String) (kind : BackendKind) :
    (registry.keep name kind).find? other =
      if name = other then some ⟨kind, registry.count⟩ else registry.find? other := by
  unfold keep find?
  by_cases same : name = other <;> simp [same]

/-- A request is answered by the instance that is kept for its name, or by a new one that is kept
from then on, or not. -/
inductive Responds (registry : Registry) (environment : Environment) (name : String) :
    Except Fault BackendInstance → Registry → Prop
  | known {made : BackendInstance} : registry.find? name = some made →
      Responds registry environment name (.ok made) registry
  | new {kind : BackendKind} : registry.find? name = none →
      make registry.config environment name = .ok kind →
      Responds registry environment name (.ok ⟨kind, registry.count⟩) (registry.keep name kind)
  | failed {fault : Fault} : registry.find? name = none →
      make registry.config environment name = .error fault →
      Responds registry environment name (.error fault) registry

theorem respond_eq (registry : Registry) (request : Request) :
    registry.respond request =
      match registry.get request.environment (request.name registry.config) with
      | .ok (made, later) => (.ok made, later)
      | .error fault => (.error fault, registry) := by
  rcases request with ⟨environment, _ | name⟩ <;> rfl

theorem respond_responds (registry : Registry) (request : Request) :
    Responds registry request.environment (request.name registry.config)
      (registry.respond request).1 (registry.respond request).2 := by
  rw [respond_eq, get]
  cases known : registry.find? (request.name registry.config) with
  | some made => exact .known known
  | none =>
      cases outcome : make registry.config request.environment (request.name registry.config) with
      | ok kind => exact .new known outcome
      | error fault => exact .failed known outcome

section Steps

variable {registry later : Registry} {environment : Environment} {name other : String}
  {outcome : Except Fault BackendInstance} {made : BackendInstance}

theorem Responds.config_eq (responds : Responds registry environment name outcome later) :
    later.config = registry.config := by
  cases responds <;> rfl

theorem Responds.of_known (responds : Responds registry environment name outcome later)
    (known : registry.find? name = some made) : outcome = .ok made := by
  cases responds with
  | known known' => rw [Option.some.inj (known'.symm.trans known)]
  | new unknown =>
      rw [known] at unknown
      cases unknown
  | failed unknown =>
      rw [known] at unknown
      cases unknown

theorem Responds.fails_iff (responds : Responds registry environment name outcome later) :
    (∃ fault, outcome = .error fault) ↔
      registry.find? name = none ∧ ¬ ∃ kind, make registry.config environment name = .ok kind := by
  cases responds with
  | known known => simp [known]
  | new unknown made => simp [made]
  | failed unknown failed => simp [unknown, failed]

theorem Responds.of_error {fault : Fault}
    (responds : Responds registry environment name (.error fault) later) :
    (∃ detail, fault = .config detail none none) ∧ later = registry := by
  cases responds with
  | failed unknown failed => exact ⟨Config.make_error failed, rfl⟩

theorem Responds.find?_iff (responds : Responds registry environment name outcome later) :
    later.find? other = some made ↔
      registry.find? other = some made ∨ name = other ∧ outcome = .ok made := by
  cases responds with
  | known known =>
      constructor
      · exact .inl
      · rintro (before | ⟨rfl, answered⟩)
        · exact before
        · cases answered
          exact known
  | new unknown made' =>
      rw [find?_keep]
      by_cases same : name = other
      · subst same
        simp [unknown]
      · simp [same]
  | failed => simp

end Steps

/-! ## Registries that are kept well -/

/-- Every instance that is kept is of the name that it is kept for, which can be had, and no two
have one serial number. -/
structure IsSound (registry : Registry) : Prop where
  named : ∀ name made, registry.find? name = some made → made.id = name
  available : ∀ name made, registry.find? name = some made →
    name ∈ registry.config.availableProviders
  counted : ∀ name made, registry.find? name = some made → made.serial < registry.count
  distinct : ∀ name other made made', registry.find? name = some made →
    registry.find? other = some made' → made.serial = made'.serial → name = other

theorem ofConfig_isSound (config : Config) : (ofConfig config).IsSound :=
  ⟨nofun, nofun, nofun, nofun⟩

theorem IsSound.keep {registry : Registry} (sound : registry.IsSound) {environment : Environment}
    {name : String} {kind : BackendKind}
    (made : make registry.config environment name = .ok kind) :
    (registry.keep name kind).IsSound := by
  have kept {other : String} {made : BackendInstance}
      (found : (registry.keep name kind).find? other = some made) :
      name = other ∧ ⟨kind, registry.count⟩ = made ∨ registry.find? other = some made := by
    rw [find?_keep] at found
    split at found
    next same => exact .inl ⟨same, Option.some.inj found⟩
    next => exact .inr found
  constructor
  · intro other made' found
    rcases kept found with ⟨rfl, rfl⟩ | before
    · exact id_of_make made _
    · exact sound.named other made' before
  · intro other made' found
    rcases kept found with ⟨rfl, -⟩ | before
    · exact mem_availableProviders_iff.mpr ⟨environment, kind, made⟩
    · exact sound.available other made' before
  · intro other made' found
    rcases kept found with ⟨-, rfl⟩ | before
    · exact Nat.lt_succ_self _
    · exact Nat.lt_succ_of_lt (sound.counted other made' before)
  · intro first second made₁ made₂ found₁ found₂ same
    -- The serial number of the new instance is above those of all that were kept before.
    rcases kept found₁ with ⟨rfl, rfl⟩ | before₁ <;> rcases kept found₂ with ⟨rfl, rfl⟩ | before₂
    · rfl
    · exact absurd same.symm (sound.counted second made₂ before₂).ne
    · exact absurd same (sound.counted first made₁ before₁).ne
    · exact sound.distinct first second made₁ made₂ before₁ before₂ same

theorem Responds.isSound {registry later : Registry} {environment : Environment} {name : String}
    {outcome : Except Fault BackendInstance}
    (responds : Responds registry environment name outcome later) (sound : registry.IsSound) :
    later.IsSound := by
  cases responds with
  | known => exact sound
  | new unknown made => exact sound.keep made
  | failed => exact sound

/-! ## Histories -/

theorem after_config (config : Config) (requests : List Request) :
    (after config requests).config = config := by
  induction requests using List.reverseRecOn with
  | nil => rfl
  | append_singleton earlier request ih =>
      rw [after_concat, (respond_responds _ request).config_eq, ih]

theorem answer_responds (config : Config) (earlier : List Request) (request : Request) :
    Responds (after config earlier) request.environment (request.name config)
      (answer config earlier request) (after config (earlier ++ [request])) := by
  have responds := respond_responds (after config earlier) request
  rw [after_config] at responds
  rwa [after_concat]

theorem after_isSound (config : Config) (requests : List Request) :
    (after config requests).IsSound := by
  induction requests using List.reverseRecOn with
  | nil => exact ofConfig_isSound config
  | append_singleton earlier request ih => exact (answer_responds config earlier request).isSound ih

theorem find?_after_iff {config : Config} {requests : List Request} {name : String}
    {made : BackendInstance} :
    (after config requests).find? name = some made ↔ Returned config requests name made := by
  -- The history grows at its end, where a request is answered from what is kept so far.
  induction requests using List.reverseRecOn with
  | nil => exact iff_of_false nofun not_returned_nil
  | append_singleton earlier request ih =>
      rw [(answer_responds config earlier request).find?_iff, ih, returned_concat_iff]

/-- A request is answered by an instance of its name, or it is a fault of the configuration and the
registry stays as it was. -/
structure IsAnswered (config : Config) (earlier : List Request) (request : Request) : Prop where
  named : ∀ made, answer config earlier request = .ok made → made.id = request.name config
  failed : ∀ fault, answer config earlier request = .error fault →
    (∃ detail, fault = .config detail none none) ∧
      after config (earlier ++ [request]) = after config earlier
  /-- What cannot be had is never answered with. -/
  unavailable : request.name config ∉ config.availableProviders →
    ∃ fault, answer config earlier request = .error fault
  /-- What can be had is, but for the vision backend that was never made while it has no key. -/
  available : request.name config ∈ config.availableProviders →
    ((∃ fault, answer config earlier request = .error fault) ↔
      request.name config = visionName ∧
        (∀ made, ¬ Returned config earlier visionName made) ∧ ¬ HasKey config request.environment)
  /-- What was answered before is answered again. -/
  same : ∀ made, Returned config earlier (request.name config) made →
    answer config earlier request = .ok made

theorem answer_isAnswered (config : Config) (earlier : List Request) (request : Request) :
    IsAnswered config earlier request := by
  have responds := answer_responds config earlier request
  have sound := after_isSound config earlier
  have fails : (∃ fault, answer config earlier request = .error fault) ↔
      (∀ made, ¬ Returned config earlier (request.name config) made) ∧
        ¬ (request.name config = fallbackName ∨
          request.name config = visionName ∧ HasKey config request.environment) := by
    rw [responds.fails_iff, after_config, exists_make_iff, Option.eq_none_iff_forall_ne_some]
    simp only [ne_eq, find?_after_iff]
  constructor
  · intro made answered
    have kept := responds.find?_iff.mpr (.inr ⟨rfl, answered⟩)
    exact (responds.isSound sound).named _ made kept
  · intro fault failed
    rw [failed] at responds
    exact responds.of_error
  · intro unavailable
    refine fails.mpr ⟨?_, ?_⟩
    · intro made returned
      have available := sound.available _ made (find?_after_iff.mpr returned)
      rw [after_config] at available
      exact unavailable available
    · intro possible
      obtain ⟨kind, made⟩ := exists_make_iff.mpr possible
      exact unavailable (mem_availableProviders_iff.mpr ⟨_, kind, made⟩)
  · intro available
    rw [fails]
    constructor
    · rintro ⟨never, impossible⟩
      rcases Config.mem_availableProviders.mp available with standalone | ⟨vision, -⟩
      · exact absurd (.inl standalone) impossible
      · rw [vision] at never
        exact ⟨vision, never, fun key => impossible (.inr ⟨vision, key⟩)⟩
    · rintro ⟨vision, never, keyless⟩
      rw [vision]
      refine ⟨never, ?_⟩
      rintro (standalone | ⟨-, key⟩)
      · exact absurd standalone (by decide)
      · exact keyless key
  · intro made returned
    exact responds.of_known (find?_after_iff.mpr returned)

theorem Returned.instances {config : Config} {requests : List Request} {name other : String}
    {made made' : BackendInstance} (returned : Returned config requests name made)
    (returned' : Returned config requests other made') :
    (name = other → made = made') ∧ (made.serial = made'.serial → name = other) := by
  have kept := find?_after_iff.mpr returned
  have kept' := find?_after_iff.mpr returned'
  constructor
  · rintro rfl
    exact Option.some.inj (kept.symm.trans kept')
  · exact (after_isSound config requests).distinct name other made made' kept kept'

theorem exists_answer_iff {config : Config} {name : String} :
    (∃ environment made, answer config [] ⟨environment, some name⟩ = .ok made) ↔
      name ∈ config.availableProviders := by
  rw [mem_availableProviders_iff]
  refine exists_congr fun environment => ?_
  have responds := answer_responds config [] ⟨environment, some name⟩
  constructor
  · rintro ⟨made, answered⟩
    by_contra impossible
    obtain ⟨fault, failed⟩ := responds.fails_iff.mpr ⟨rfl, impossible⟩
    rw [answered] at failed
    cases failed
  · intro possible
    cases outcome : answer config [] ⟨environment, some name⟩ with
    | ok made => exact ⟨made, rfl⟩
    | error fault => exact absurd possible (responds.fails_iff.mp ⟨fault, outcome⟩).2

/-- Whatever a registry of an accepted configuration was asked for before and whatever the variables
were, a request is answered with the instance that is kept for its name or with a new one, but for
a name that cannot be had, and for the vision backend while it was never made and has no key; a
request that fails changes nothing.  The default can always be had: what the configuration accepts as
default, what it names as available and what the registry can make are the same. -/
theorem history_isConsistent {config : Config} (accepted : config.IsAccepted) :
    (∀ earlier request, IsAnswered config earlier request ∧
      (request.name? = none → request.name config ∈ config.availableProviders)) ∧
    (∀ requests name other made made', Returned config requests name made →
      Returned config requests other made' →
      (name = other → made = made') ∧ (made.serial = made'.serial → name = other)) ∧
    ∀ name,
      (Config.IsAccepted { config with defaultProvider := name } ↔
        name ∈ config.availableProviders) ∧
      ((∃ environment made, answer config [] ⟨environment, some name⟩ = .ok made) ↔
        name ∈ config.availableProviders) := by
  refine ⟨?_, fun _ _ _ _ _ => Returned.instances, fun name =>
    ⟨accepted.withDefault_iff name, exists_answer_iff⟩⟩
  intro earlier request
  refine ⟨answer_isAnswered config earlier request, ?_⟩
  intro unnamed
  rw [Request.name, unnamed]
  exact accepted.defaultProvider_mem

/-! ## A key that comes and goes -/

def Request.keyless : Request := ⟨fun _ => none, none⟩
def Request.keyed : Request := ⟨fun _ => some "sk-still", none⟩

/-- The vision backend is refused while it has no key, made when it has one, and kept when the key
is gone. -/
theorem keyless_isConsistent :
    (∃ fault, answer .keyless [] .keyless = .error fault) ∧
    ∃ made, made.id = visionName ∧ answer .keyless [.keyless] .keyed = .ok made ∧
      answer .keyless [.keyless, .keyed] .keyless = .ok made := by
  obtain ⟨history, -, -⟩ := history_isConsistent Config.keyless_isAccepted
  have never (made : BackendInstance) : ¬ Returned .keyless [] visionName made := not_returned_nil
  have keyless : ¬ HasKey .keyless Request.keyless.environment := by
    rintro ⟨settings, key, -, given, -⟩
    cases given
  obtain ⟨first, available⟩ := history [] .keyless
  have refused := (first.available (available rfl)).mpr ⟨rfl, never, keyless⟩
  have granted : answer .keyless [.keyless] .keyed =
      .ok ⟨.vision .standard "sk-still", 0⟩ := rfl
  refine ⟨refused, _, (history [.keyless] .keyed).1.named _ granted, granted, ?_⟩
  exact (history [.keyless, .keyed] .keyless).1.same _
    ⟨[.keyless], .keyed, List.prefix_rfl, rfl, granted⟩

end StillMotion.Registry
