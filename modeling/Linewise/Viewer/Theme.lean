import Linewise.Viewer.Style

/-! The colours of the viewer. -/

namespace Linewise.Viewer

structure Theme where
  fg : Colour
  primary : Colour
  secondary : Colour
  comment : Colour
  success : Colour
  error : Colour
  warning : Colour
  keyword : Colour
  number : Colour
  symbol : Colour
  borderFocused : Colour
  borderNormal : Colour
  barBackground : Colour
  typeName : Colour
  deriving DecidableEq, Repr

def theme : Theme where
  fg := .rgb 205 214 244
  primary := .rgb 137 180 250
  secondary := .rgb 250 179 135
  comment := .rgb 108 112 134
  success := .rgb 166 227 161
  error := .rgb 243 139 168
  warning := .rgb 249 226 175
  keyword := .rgb 137 180 250
  number := .rgb 250 179 135
  symbol := .rgb 137 180 250
  borderFocused := .rgb 249 226 175
  borderNormal := .rgb 108 112 134
  barBackground := .rgb 50 50 70
  typeName := .rgb 148 226 213

end Linewise.Viewer
