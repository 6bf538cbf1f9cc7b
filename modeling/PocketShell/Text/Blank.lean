import PocketShell.Text.CodeRange

/-!
# Blank characters

The characters with the White_Space property, which are the ones that part words. The
separator controls U+001C to U+001F, the zero width space and the byte order mark do not
have the property.
-/

namespace PocketShell.Text

/-- The ranges of the White_Space property: 25 code points in all. -/
def blankRanges : List CodeRange :=
  [⟨0x09, 0x0D⟩, ⟨0x20, 0x20⟩, ⟨0x85, 0x85⟩, ⟨0xA0, 0xA0⟩, ⟨0x1680, 0x1680⟩,
   ⟨0x2000, 0x200A⟩, ⟨0x2028, 0x2029⟩, ⟨0x202F, 0x202F⟩, ⟨0x205F, 0x205F⟩, ⟨0x3000, 0x3000⟩]

/-- Blanks part words. -/
def isBlank (c : Char) : Bool := inTable blankRanges c

end PocketShell.Text
