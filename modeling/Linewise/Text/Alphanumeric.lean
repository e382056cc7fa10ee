import Linewise.Text.Alphabetic
import Linewise.Text.Numeric

/-! The characters that continue a word. -/

namespace Linewise.Text

def isAlphanumeric (c : Char) : Bool := isAlphabetic c || isNumeric c

end Linewise.Text
