import TextEditor.Typing.Pairs

/-!
# Settings

What a user can choose about an editor. The usual settings can be changed one at a time; a tab width
or a number of lines of zero becomes one.
-/

namespace TextEditor

/-- The choices that an editor goes by. -/
structure Settings where
  tabWidth : Nat
  /-- One level of indentation. -/
  indentUnit : Text
  /-- Whether typing the first of a pair also types the second. -/
  autoClose : Bool
  pairs : List CharPair
  /-- Whether a line split between brackets leaves an empty line between them. -/
  bracketSplit : Bool
  /-- Whether a closing bracket at the start of a line takes off one level of indentation. -/
  autoDedent : Bool
  /-- Number of lines read from a stream at a time. -/
  chunkLines : Nat
  /-- How near the cursor may come to the last line loaded. -/
  prefetchMargin : Nat
  screenWidth : Nat
  screenHeight : Nat
  /-- Rows of the screen that do not show text. -/
  chromeRows : Nat
  deriving DecidableEq, Repr

namespace Settings

/-- The usual settings. -/
def usual : Settings where
  tabWidth := 4
  indentUnit := ['\t']
  autoClose := true
  pairs := CharPair.usual
  bracketSplit := true
  autoDedent := true
  chunkLines := 1000
  prefetchMargin := 100
  screenWidth := 80
  screenHeight := 24
  chromeRows := 5

/-- The settings with another tab width. -/
def withTabWidth (settings : Settings) (tabWidth : Nat) : Settings :=
  { settings with tabWidth := max tabWidth 1 }

/-- The settings with another size and distance of the chunks of a stream. -/
def withChunks (settings : Settings) (lines margin : Nat) : Settings :=
  { settings with chunkLines := max lines 1, prefetchMargin := margin }

/-- The settings for another size of the screen. -/
def withScreen (settings : Settings) (width height : Nat) : Settings :=
  { settings with screenWidth := width, screenHeight := height }

/-- Rows of the screen that show text. -/
def textRows (settings : Settings) : Nat := max (settings.screenHeight - settings.chromeRows) 1

end Settings

end TextEditor
