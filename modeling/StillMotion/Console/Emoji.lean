import StillMotion.Console.EmojiNames
import StillMotion.Text.Blank
import StillMotion.Text.Case
import StillMotion.Text.Search

/-!
# Emoji by name

A name between two colons stands for an emoji, and may say before the second colon whether the
emoji is shown as text or as a picture.  Colons around anything else stay, and the second of them
begins nothing new.
-/

namespace StillMotion.Console

open StillMotion.Text

/-! ## Names -/

def skinTones : List (String × Char) :=
  [("light", Char.ofNat 0x1F3FB), ("medium-light", Char.ofNat 0x1F3FC),
   ("medium", Char.ofNat 0x1F3FD), ("medium-dark", Char.ofNat 0x1F3FE),
   ("dark", Char.ofNat 0x1F3FF)]

def pictureMark : Char := Char.ofNat 0xFE0F

def textMark : Char := Char.ofNat 0xFE0E

def toned (tone : Char) : List Char → List Char
  | [] => []
  | c :: rest =>
      c :: tone :: match rest with
        | d :: more => if d == pictureMark then more else rest
        | [] => []

/-- A name that is looked for: the text itself, and where it ends in the name of a skin tone also
what comes before that, with the tone. -/
structure WantedName where
  whole : String
  inTone : List (String × Char)

def WantedName.ofText (name : String) : WantedName :=
  ⟨name, skinTones.filterMap fun (tone, mark) =>
    let ending := s!"_{tone}_skin_tone"
    if name.endsWith ending then
      some ((name.take (name.length - ending.length)).toString ++ "%", mark)
    else none⟩

def WantedName.inGroup? (wanted : WantedName) (group : String) : Option (List Char) :=
  match split ' ' group with
  | emoji :: names =>
      if names.any fun name => name == wanted.whole || name == wanted.whole ++ "%" then
        some emoji.toList
      else (wanted.inTone.find? fun (name, _) => names.contains name).map fun (_, mark) =>
        toned mark emoji.toList
  | [] => none

def emoji? (name : String) : Option (List Char) :=
  let wanted := WantedName.ofText name
  emojiLines.findSome? fun line => (line.splitOn "  ").findSome? wanted.inGroup?

/-! ## Replacement -/

def nameAndMark (inside : List Char) : List Char × List Char :=
  match dropLead? "-emoji".toList.reverse inside.reverse with
  | some rest => (rest.reverse, [pictureMark])
  | none => match dropLead? "-text".toList.reverse inside.reverse with
      | some rest => (rest.reverse, [textMark])
      | none => (inside, [])

def between? (inside : List Char) : Option (List Char) :=
  let (name, mark) := nameAndMark inside
  (emoji? (lowerCase (String.ofList name))).map (· ++ mark)

/-- Put emoji in the place of their names; `fuel` bounds the length of the text. -/
def withEmojiFrom : Nat → List Char → List Char
  | 0, cs => cs
  | _, [] => []
  | fuel + 1, c :: rest =>
      if c == ':' then
        let inside := rest.takeWhile fun d => d != ':' && !isBlank d
        match rest.drop inside.length with
        | ':' :: after =>
            (between? inside).getD (':' :: inside ++ [':']) ++ withEmojiFrom fuel after
        | _ => c :: withEmojiFrom fuel rest
      else c :: withEmojiFrom fuel rest

def withEmoji (cs : List Char) : List Char := withEmojiFrom (cs.length + 1) cs

end StillMotion.Console
