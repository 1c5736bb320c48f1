import RelMap.Text.CharRun

/-!
# White space

The characters with the Unicode property White_Space, and trimming by them.
-/

namespace RelMap.Text

def blankRuns : List CharRun := [
    ⟨0x9, 0xD, 1⟩, ⟨0x20, 0x20, 1⟩, ⟨0x85, 0x85, 1⟩, ⟨0xA0, 0xA0, 1⟩, ⟨0x1680, 0x1680, 1⟩,
    ⟨0x2000, 0x200A, 1⟩, ⟨0x2028, 0x2029, 1⟩, ⟨0x202F, 0x202F, 1⟩, ⟨0x205F, 0x205F, 1⟩,
    ⟨0x3000, 0x3000, 1⟩]

def isBlank (c : Char) : Bool := inRuns blankRuns c

def dropBlanks (text : List Char) : List Char := text.dropWhile isBlank

def trimBlanks (text : List Char) : List Char := (dropBlanks (dropBlanks text).reverse).reverse

end RelMap.Text
