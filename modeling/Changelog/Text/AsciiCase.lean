namespace Changelog.Text

def asciiLower (s : List Char) : List Char := s.map Char.toLower

def sameIgnoringCase (s t : String) : Bool := asciiLower s.toList == asciiLower t.toList

theorem sameIgnoringCase_iff (s t : String) :
    sameIgnoringCase s t = true ↔ asciiLower s.toList = asciiLower t.toList := by
  simp [sameIgnoringCase]

end Changelog.Text
