import DecimalCalculator.Machine.Calculator

/-!
# The window

What the calculator looks like and how it is worked. The window shows the history, the display
with its preview, the buttons, and a panel with the derivation that can be unfolded. Keys come
from the keyboard or from clicks; both end up as keys of the calculator.
-/

namespace DecimalCalculator

inductive Color
  | orange
  | charcoal
  | gray
  | white
  deriving DecidableEq, Repr

/-- The color as red, green and blue in hexadecimal. -/
def Color.code : Color → String
  | .orange => "#ed8114"
  | .charcoal => "#242424"
  | .gray => "#828383"
  | .white => "#ffffff"

structure Line where
  text : String
  color : Color
  deriving DecidableEq, Repr

structure Button where
  label : String
  textColor : Color
  fillColor : Color
  deriving DecidableEq, Repr

namespace Button

def orangeLabels : List String := ["+", "-", "x", "/", "C", "AC", "<-", "x^y", "Sc"]

def grayLabels : List String :=
  ["log", "ln", "sin", "cos", "tan", "sqrt", "%", "asin", "acos", "atan", "x!", "1/x", "(", ")",
    "!"]

def ofLabel (label : String) : Button :=
  if label = "=" then ⟨label, .white, .orange⟩
  else if orangeLabels.contains label then ⟨label, .orange, .charcoal⟩
  else if grayLabels.contains label then ⟨label, .gray, .charcoal⟩
  else ⟨label, .white, .charcoal⟩

end Button

/-- The keys of a keyboard that are no characters. -/
inductive ControlKey
  | enter
  | backspace
  | escape
  | other
  deriving DecidableEq, Repr

inductive Event
  | text (typed : String)
  | control (key : ControlKey) (pressed : Bool)
  /-- A pasted text; it is ignored. -/
  | paste (pasted : String)
  deriving DecidableEq, Repr

namespace Event

/-- The calculator keys of an event. A control key counts when it goes down. -/
def keys : Event → List Key
  | text typed => Key.ofText typed
  | control .enter true => [.equals]
  | control .backspace true => [.backspace]
  | control .escape true => [.clear]
  | control _ _ => []
  | paste _ => []

end Event

structure Window where
  calculator : Calculator
  unfolded : Bool
  deriving DecidableEq, Repr

namespace Window

def fresh (context : Context) (scientific : Bool) : Window :=
  ⟨Calculator.fresh context scientific, false⟩

def panelTitle : String := "Démarche"

def handle (window : Window) (events : List Event) : Machine Window :=
  (Machine.pressAll window.calculator (events.flatMap Event.keys)).map fun calculator =>
    { window with calculator }

/-- The keys of a click on the button with a label; none if no such button is shown. -/
def clickedKey? (window : Window) (label : String) : Option Key :=
  if window.calculator.labels.contains label then Key.ofLabel? label else none

/-- Clicks on a button, or on the title of the panel, which folds or unfolds it. There is no
window to give if nothing with this label can be clicked. -/
def click? (window : Window) (label : String) : Option (Machine Window) :=
  if label = panelTitle then some (.ok { window with unfolded := !window.unfolded })
  else
    (window.clickedKey? label).map fun key =>
      (Machine.press window.calculator key).map fun calculator => { window with calculator }

/-! ## What is painted -/

def historyLines (window : Window) : List Line :=
  window.calculator.history.map (⟨·, .gray⟩)

def previewLines (window : Window) : List Line :=
  if window.calculator.preview.text.isEmpty then []
  else [⟨"= " ++ window.calculator.preview.text, .gray⟩]

def buttons (window : Window) : List Button :=
  window.calculator.labels.map Button.ofLabel

/-- The texts of the panel. Folded it shows its title only. -/
def panelTexts (window : Window) : List String :=
  let derivation := window.calculator.preview.derivation
  if window.unfolded then
    [panelTitle, "Jetons :", derivation.tokens, "RPN :", derivation.reversePolish].filter
      (!·.isEmpty)
  else [panelTitle]

end Window

end DecimalCalculator
