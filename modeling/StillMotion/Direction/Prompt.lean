import StillMotion.Data.Record
import StillMotion.Text.Search

/-!
# Reading a prompt

A prompt sets a style, a movement and a mood by the words in it, and asks for effects.  For each
of the three the first row of a table with a word that occurs decides, regardless of letter
case; effects add up.
-/

namespace StillMotion

open StillMotion.Text

inductive Style where
  | cinematic | dynamic | dramatic | minimal | gentle
deriving DecidableEq, Repr, Inhabited

inductive Movement where
  | pan | zoom | dolly | orbit | static
deriving DecidableEq, Repr, Inhabited

inductive Mood where
  | energetic | mysterious | uplifting | tense | calm
deriving DecidableEq, Repr, Inhabited

def Style.word : Style → String
  | .cinematic => "cinematic"
  | .dynamic => "dynamic"
  | .dramatic => "dramatic"
  | .minimal => "minimal"
  | .gentle => "gentle"

def Style.codec : Codec Style := .choice [.cinematic, .dynamic, .dramatic, .minimal, .gentle] word

def Movement.word : Movement → String
  | .pan => "pan"
  | .zoom => "zoom"
  | .dolly => "dolly"
  | .orbit => "orbit"
  | .static => "static"

def Movement.codec : Codec Movement := .choice [.pan, .zoom, .dolly, .orbit, .static] word

def Mood.word : Mood → String
  | .energetic => "energetic"
  | .mysterious => "mysterious"
  | .uplifting => "uplifting"
  | .tense => "tense"
  | .calm => "calm"

def Mood.codec : Codec Mood := .choice [.energetic, .mysterious, .uplifting, .tense, .calm] word

structure CreativeDirection where
  style : Style
  movement : Movement
  mood : Mood
  effects : List String
deriving DecidableEq, Repr

def CreativeDirection.codec : Codec CreativeDirection :=
  .record "CreativeDirection" .full <| Fields.of CreativeDirection.mk
    |>.field (.optional "style" Style.codec .gentle) style
    |>.field (.optional "movement" Movement.codec .static) movement
    |>.field (.optional "mood" Mood.codec .calm) mood
    |>.field (.composed "effects" (.list .text) []) effects

/-! ## Tables -/

abbrev WordTable (α : Type) := List (List String × α)

def styleTable : WordTable Style :=
  [(["cinematic", "movie", "film"], .cinematic),
   (["dynamic", "energetic", "fast"], .dynamic),
   (["dramatic", "intense", "powerful"], .dramatic),
   (["minimal", "simple", "clean"], .minimal)]

def movementTable : WordTable Movement :=
  [(["pan", "panorama"], .pan),
   (["zoom", "push in", "zoom in"], .zoom),
   (["dolly", "slide", "move"], .dolly),
   (["orbit", "rotate", "spin"], .orbit)]

def moodTable : WordTable Mood :=
  [(["energetic", "exciting", "vibrant"], .energetic),
   (["mysterious", "dark", "shadow"], .mysterious),
   (["uplifting", "bright", "positive"], .uplifting),
   (["tense", "intense", "urgent"], .tense)]

def effectTable : WordTable String :=
  [(["fade"], "fade"),
   (["blur", "depth of field"], "blur"),
   (["grain", "film grain"], "film_grain"),
   (["color grade", "color grading"], "color_grade")]

def WordTable.first? {α : Type} (table : WordTable α) (folded : List Char) : Option α :=
  (table.find? fun row => mentions row.1 folded).map (·.2)

def WordTable.every {α : Type} (table : WordTable α) (folded : List Char) : List α :=
  (table.filter fun row => mentions row.1 folded).map (·.2)

def CreativeDirection.ofPrompt (prompt : String) : CreativeDirection :=
  let folded := fold prompt
  { style := (styleTable.first? folded).getD .gentle
    movement := (movementTable.first? folded).getD .static
    mood := (moodTable.first? folded).getD .calm
    effects := effectTable.every folded }

end StillMotion
