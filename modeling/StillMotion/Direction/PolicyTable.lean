import StillMotion.Direction.Policy
import StillMotion.Timeline.Format

/-!
# Policies as data

A policy as a table of its numbers.  A quantity that was given as an integer stays one.
-/

namespace StillMotion

namespace Quantity

def encode (q : Quantity Float) : Value :=
  match q.whole with
  | some n => .int n
  | none => .float q.value

end Quantity

namespace DirectorPolicy

def entries (policy : DirectorPolicy Float) : Entries :=
  [("default_duration", policy.defaultDuration.encode),
   ("max_duration", policy.maxDuration.encode),
   ("fade_duration", policy.fadeDuration.encode),
   ("movement_start", policy.movementStart.encode),
   ("width", .int policy.width), ("height", .int policy.height), ("fps", .int policy.fps),
   ("zoom_scale", policy.zoomScale.encode),
   ("zoom_end_fraction", policy.zoomEndFraction.encode),
   ("pan_offset", policy.panOffset.encode),
   ("pan_end_fraction", policy.panEndFraction.encode),
   ("parallax_offset", policy.parallaxOffset.encode),
   ("secondary_opacity", policy.secondaryOpacity.encode),
   ("mysterious_overlay_opacity", policy.mysteriousOverlayOpacity.encode),
   ("movement_targets",
     .mapping (policy.movementTargets.map fun (name, target) => (name, Vec3.codec.encode target)))]

end DirectorPolicy

end StillMotion
