import JobMonitor.Shell.Machine
import JobMonitor.Shell.Wildcard

set_option autoImplicit false

/-! # Fields

What a word of a script stands for is first a row of characters, of each of which is known where it
comes from. What comes from a value and is not quoted is cut into fields at the separators. -/

namespace JobMonitor.Shell

/-- A character of what a word stands for, or a mark between characters. -/
inductive Glyph where
  | plain (c : Char)
  /-- A character of a value, at which a field may end. -/
  | loose (c : Char)
  | quoted (c : Char)
  /-- Something is quoted here, though it may be empty. -/
  | quotes
  /-- A field ends here. -/
  | border
deriving DecidableEq, Repr

/-- The character of a glyph. -/
def Glyph.char? : Glyph → Option Char
  | .plain c | .loose c | .quoted c => some c
  | .quotes | .border => none

/-- The glyphs of a text. -/
def textGlyphs (text : String) (isQuoted : Bool) : List Glyph :=
  if isQuoted then .quotes :: text.toList.map .quoted else text.toList.map .plain

/-- The glyphs of a value. -/
def valueGlyphs (value : String) (isQuoted : Bool) : List Glyph :=
  if isQuoted then .quotes :: value.toList.map .quoted else value.toList.map .loose

/-- The glyphs of values that stand for fields of their own. -/
def listGlyphs (values : List String) (isQuoted : Bool) : List Glyph :=
  [Glyph.border].intercalate (values.map (valueGlyphs · isQuoted))

/-- The text of glyphs. Where a field ends there is a blank. -/
def glyphText (glyphs : List Glyph) : String :=
  String.ofList (glyphs.filterMap fun g => if g = .border then some ' ' else g.char?)

/-- The pattern that glyphs make. -/
def glyphPattern (glyphs : List Glyph) : List Wildcard :=
  let chars := glyphs.filterMap fun
    | .plain c | .loose c => some (c, false)
    | .quoted c => some (c, true)
    | .quotes | .border => none
  readPattern chars.length chars

/-- The fields that have been cut off, the last of which comes first. So do the glyphs of the field that
    has been begun. -/
structure Cutting where
  ended : List (List Glyph) := []
  begun : Option (List Glyph) := none
  /-- Blanks have just ended a field. -/
  afterBlanks : Bool := false

/-- Ends the field that has been begun. -/
def Cutting.finish (c : Cutting) : List (List Glyph) := (c.begun.map List.reverse).toList ++ c.ended

/-- Goes on with a glyph. A separator that is no blank ends a field even if it is empty. -/
def Cutting.step (separators : List Char) (cutting : Cutting) (glyph : Glyph) : Cutting :=
  let longer : Cutting := { cutting with begun := some (glyph :: cutting.begun.getD []), afterBlanks := false }
  match glyph with
  | .plain _ | .quoted _ | .quotes => longer
  | .border => { ended := cutting.finish }
  | .loose c =>
    if ¬ separators.contains c then longer
    else if c = ' ' ∨ c = '\t' ∨ c = '\n' then
      if cutting.begun.isSome then { ended := cutting.finish, afterBlanks := true } else cutting
    else if cutting.begun.isSome ∨ cutting.afterBlanks then { ended := cutting.finish }
    else { ended := [] :: cutting.ended }

/-- The fields of glyphs. -/
def cutFields (separators : List Char) (glyphs : List Glyph) : List (List Glyph) :=
  (glyphs.foldl (Cutting.step separators) {}).finish.reverse

/-! ## Paths that match -/

/-- The pieces of glyphs between slashes. -/
def slashPieces : List Glyph → List (List Glyph)
  | [] => [[]]
  | glyph :: rest =>
    if glyph.char? = some '/' then [] :: slashPieces rest
    else
      match slashPieces rest with
      | [] => [[glyph]]
      | piece :: pieces => (glyph :: piece) :: pieces

/-- The glyphs make a pattern that other texts may match. -/
def isWild (glyphs : List Glyph) : Bool := (glyphPattern glyphs).any fun
  | .char _ => false
  | _ => true

/-- The paths that match a pattern, piece by piece. A name that begins with a dot is matched only by a
    dot. -/
def matchingPaths (files : Files) : (place : Place) → (path : String) → List (List Glyph) → List String
  | _, path, [] => [path]
  | place, path, piece :: rest =>
    let goOn (name : String) : List String :=
      matchingPaths files (place.follow name) (path ++ name ++ if rest.isEmpty then "" else "/") rest
    if ¬ isWild piece then
      if rest.isEmpty ∧ (files.kindAt? (place.follow (glyphText piece))).isNone then []
      else goOn (glyphText piece)
    else
      let isHit (name : String) : Bool :=
        patternMatches (glyphPattern piece) name.toList
          && (!name.startsWith "." || (piece.findSome? Glyph.char?) = some '.')
      let names := ((files.namesIn place).filter isHit).mergeSort fun a b => !decide (b < a)
      names.flatMap goOn

/-- The paths that a field stands for, which is itself if there are none. -/
def fieldPaths (files : Files) (glyphs : List Glyph) : List String :=
  if ¬ isWild glyphs then [glyphText glyphs]
  else
    let start := if (glyphs.findSome? Glyph.char?) = some '/' then [] else files.home
    match matchingPaths files start "" (slashPieces glyphs) with
    | [] => [glyphText glyphs]
    | paths => paths

end JobMonitor.Shell
