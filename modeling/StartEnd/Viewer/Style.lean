/-!
This module contains the styles of characters on a terminal, and the colours of the viewer.
-/

namespace StartEnd

inductive Color where
  | black
  | white
  | rgb (red green blue : UInt8)
deriving DecidableEq

/--
How characters look. A colour that is not set leaves what is there.
-/
structure Style where
  foreground : Option Color := none
  background : Option Color := none
  bold : Bool := false
deriving DecidableEq

namespace Style

def onTopOf (top base : Style) : Style :=
  { foreground := top.foreground.or base.foreground
    background := top.background.or base.background
    bold := top.bold || base.bold }

def ofColor (c : Color) : Style := { foreground := c }

def onColor (s : Style) (c : Color) : Style := { s with background := c }

def inBold (s : Style) : Style := { s with bold := true }

end Style

namespace Theme

def foreground : Color := .rgb 205 214 244
def primary : Color := .rgb 137 180 250
def secondary : Color := .rgb 250 179 135
def comment : Color := .rgb 108 112 134
def success : Color := .rgb 166 227 161
def error : Color := .rgb 243 139 168
def keyword : Color := .rgb 137 180 250
def string : Color := .rgb 250 179 135
def number : Color := .rgb 250 179 135
def focusedBorder : Color := .rgb 249 226 175
def normalBorder : Color := .rgb 108 112 134
def currentLine : Color := .rgb 50 50 70
def nonterminal : Color := .rgb 249 226 175
def typeName : Color := .rgb 148 226 213

end Theme

end StartEnd
