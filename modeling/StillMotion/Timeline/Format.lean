import StillMotion.Data.Record
import StillMotion.Timeline.Basic

/-!
# The interchange format of timelines

Timelines and their parts as data.  Keys are in camel case, and fields whose value is nothing
are left out; on reading, keys in words separated by underscores are accepted too.
-/

namespace StillMotion

open StillMotion.Number

/-! ## Kinds -/

def AssetKind.word : AssetKind → String
  | .image => "image"
  | .video => "video"
  | .audio => "audio"
  | .text => "text"

def AssetKind.codec : Codec AssetKind := .choice [.image, .video, .audio, .text] word

def EffectKind.word : EffectKind → String
  | .zoom => "zoom"
  | .pan => "pan"
  | .opacity => "opacity"
  | .slide => "slide"
  | .fade => "fade"
  | .blur => "blur"
  | .colorGrade => "colorGrade"
  | .filmGrain => "filmGrain"
  | .cursor => "cursor"
  | .animation => "animation"

def EffectKind.codec : Codec EffectKind :=
  .choice [.zoom, .pan, .opacity, .slide, .fade, .blur, .colorGrade, .filmGrain, .cursor,
    .animation] word

def LayerKind.word : LayerKind → String
  | .image => "image"
  | .text => "text"
  | .shape => "shape"
  | .composition => "composition"

def LayerKind.codec : Codec LayerKind := .choice [.image, .text, .shape, .composition] word

def TrackKind.word : TrackKind → String
  | .video => "video"
  | .audio => "audio"
  | .effect => "effect"

def TrackKind.codec : Codec TrackKind := .choice [.video, .audio, .effect] word

def BlendMode.word : BlendMode → String
  | .normal => "normal"
  | .multiply => "multiply"
  | .screen => "screen"
  | .overlay => "overlay"

def BlendMode.codec : Codec BlendMode := .choice [.normal, .multiply, .screen, .overlay] word

def CameraKind.word : CameraKind → String
  | .flat => "2D"
  | .layered => "2.5D"
  | .spatial => "3D"

def CameraKind.codec : Codec CameraKind := .choice [.flat, .layered, .spatial] word

def MovementKind.word : MovementKind → String
  | .static => "static"
  | .pan => "pan"
  | .zoom => "zoom"
  | .dolly => "dolly"
  | .orbit => "orbit"
  | .tracking => "tracking"

def MovementKind.codec : Codec MovementKind :=
  .choice [.static, .pan, .zoom, .dolly, .orbit, .tracking] word

def Easing.word : Easing → String
  | .linear => "linear"
  | .easeIn => "easeIn"
  | .easeOut => "easeOut"
  | .easeInOut => "easeInOut"
  | .spring => "spring"

def Easing.all : List Easing := [.linear, .easeIn, .easeOut, .easeInOut, .spring]

def Easing.codec : Codec Easing := .choice all word

/-! ## Parts of a timeline -/

def Vec2.codec : Codec (Vec2 Float) :=
  .record "Vec2" .wire <| Fields.of Vec2.mk
    |>.field (.optional "x" .real 0.0) x
    |>.field (.optional "y" .real 0.0) y
    |>.field (.nullable "z" .real) z

def Vec3.codec : Codec (Vec3 Float) :=
  .record "Vec3" .wire <| Fields.of Vec3.mk
    |>.field (.optional "x" .real 0.0) x
    |>.field (.optional "y" .real 0.0) y
    |>.field (.optional "z" .real 0.0) z

def Asset.codec : Codec Asset :=
  .record "Asset" .wire <| Fields.of Asset.mk
    |>.field (.required "id" .text) id
    |>.field (.required "type" AssetKind.codec) kind
    |>.field (.required "src" .text) source
    |>.field (.nullable "metadata" .entries) metadata

namespace Parameter

def ofBytes (content : ByteArray) : Checked (Parameter Float) :=
  let data : Value := .bytes content
  let under {β : Type} (name : String) (result : Checked β) : Checked β :=
    Checked.under (.key name) result
  match under "bool" (Codec.decodeBool data), under "int" (Codec.decodeInt data),
      under "float" (Codec.decodeReal data), under "str" (Codec.decodeText data) with
  | .ok b, _, _, _ => .ok (.bool b)
  | _, .ok n, _, _ => .ok (.int n)
  | _, _, .ok x, _ => .ok (.real x)
  | _, _, _, .ok s => .ok (.text s)
  | .error a, .error b, .error c, .error d => .error (a ++ b ++ c ++ d)

def decode : Value → Checked (Parameter Float)
  | .bool b => .ok (.bool b)
  | .int n => .ok (.int n)
  | .float x => .ok (.real x)
  | .str s => .ok (.text s)
  | .bytes content => ofBytes content
  | _ => .error [⟨[.key "bool"], .boolType⟩, ⟨[.key "int"], .intType⟩,
      ⟨[.key "float"], .floatType⟩, ⟨[.key "str"], .stringType⟩]

def encode : Parameter Float → Value
  | .bool b => .bool b
  | .int n => .int n
  | .real x => .float x
  | .text s => .str s

def codec : Codec (Parameter Float) := ⟨decode, encode, .oneOf [.bool, .int, .real, .text]⟩

end Parameter

def KeyframeProperties.codec : Codec (KeyframeProperties Float) :=
  .record "KeyframeProperties" .wire <| Fields.of KeyframeProperties.mk
    |>.field (.nullable "position" Vec2.codec) position
    |>.field (.nullable "scale" Vec2.codec) scale
    |>.field (.nullable "rotation" Vec2.codec) rotation
    |>.field (.nullable "opacity" .real) opacity
    |>.field (.nullable "color" .text) color
    |>.field (.nullable "filter" .text) filter

def Keyframe.codec : Codec (Keyframe Float) :=
  .record "Keyframe" .wire <| Fields.of Keyframe.mk
    |>.field (.required "time" .real) time
    |>.field (.composed "properties" KeyframeProperties.codec .none) properties
    |>.field (.nullable "easing" Easing.codec) easing

def Effect.codec : Codec (Effect Float) :=
  .record "Effect" .wire <| Fields.of Effect.mk
    |>.field (.required "id" .text) id
    |>.field (.required "type" EffectKind.codec) kind
    |>.field (.composed "parameters" (.mapping Parameter.codec) []) parameters
    |>.field (.optional "startTime" .real 0.0) start
    |>.field (.optional "duration" .real 0.0) duration

def Layer.codec : Codec (Layer Float) :=
  .record "Layer" .wire <| Fields.of Layer.mk
    |>.field (.required "id" .text) id
    |>.field (.required "name" .text) name
    |>.field (.required "type" LayerKind.codec) kind
    |>.field (.nullable "assetId" .text) assetId
    |>.field (.optional "trackIndex" .int 0) trackIndex
    |>.field (.optional "startTime" .real 0.0) start
    |>.field (.optional "duration" .real 0.0) duration
    |>.field (.composed "keyframes" (.list Keyframe.codec) []) keyframes
    |>.field (.composed "effects" (.list Effect.codec) []) effects
    |>.field (.nullable "blendMode" BlendMode.codec) blendMode
    |>.field (.optional "visible" .bool true) visible

def Track.codec : Codec (Track Float) :=
  .record "Track" .wire <| Fields.of Track.mk
    |>.field (.required "id" .text) id
    |>.field (.required "name" .text) name
    |>.field (.required "index" .int) index
    |>.field (.optional "type" TrackKind.codec .video) kind
    |>.field (.composed "layers" (.list Layer.codec) []) layers
    |>.field (.optional "locked" .bool false) locked
    |>.field (.optional "visible" .bool true) visible

def CameraMovement.codec : Codec (CameraMovement Float) :=
  .record "CameraMovement" .wire <| Fields.of CameraMovement.mk
    |>.field (.required "type" MovementKind.codec) kind
    |>.field (Field.composed "from" Vec3.codec .zero |>.also "from_") origin
    |>.field (.composed "to" Vec3.codec .zero) goal
    |>.field (.optional "startTime" .real 0.0) start
    |>.field (.optional "duration" .real 0.0) duration
    |>.field (.optional "easing" Easing.codec .linear) easing

def Camera.codec : Codec (Camera Float) :=
  .record "Camera" .wire <| Fields.of Camera.mk
    |>.field (.optional "type" CameraKind.codec .flat) kind
    |>.field (.composed "position" Vec3.codec .zero) position
    |>.field (.composed "target" Vec3.codec .zero) target
    |>.field (.nullable "fov" .real) fov
    |>.field (.composed "movements" (.list CameraMovement.codec) []) movements

def untitledProject : String := "Motion-IR Generated Video"

def TimelineMetadata.codec : Codec (TimelineMetadata Float) :=
  .record "TimelineMetadata" .wire <| Fields.of TimelineMetadata.mk
    |>.field (.optional "projectName" .text untitledProject) projectName
    |>.field (.required "createdAt" .text) createdAt
    |>.field (.required "duration" .real) duration
    |>.field (.required "fps" .int) fps
    |>.field (.required "width" .int) width
    |>.field (.required "height" .int) height
    |>.field (.nullable "backgroundColor" .text) backgroundColor

namespace Timeline

/-- The only version of the format. -/
def versionCodec : Codec Unit := .choice [()] fun _ => "1.0"

def ofParts (_ : Unit) (metadata : TimelineMetadata Float) (assets : List Asset)
    (tracks : List (Track Float)) (camera : Camera Float) (globalEffects : List (Effect Float)) :
    Timeline Float :=
  ⟨metadata, assets, tracks, camera, globalEffects⟩

def codec : Codec (Timeline Float) :=
  .record "Timeline" .wire <| Fields.of ofParts
    |>.field (.optional "version" versionCodec ()) (fun _ => ())
    |>.field (.required "metadata" TimelineMetadata.codec) metadata
    |>.field (.composed "assets" (.list Asset.codec) []) assets
    |>.field (.composed "tracks" (.list Track.codec) []) tracks
    |>.field (.composed "camera" Camera.codec .still) camera
    |>.field (.composed "globalEffects" (.list Effect.codec) []) globalEffects

end Timeline

end StillMotion
